import Settlement.Proofs.Listing
import Settlement.Proofs.Utf8

/-!
# Namespaces are stores of their own

All namespaces lie in one store, each behind its path, and whoever works in one of them sees neither the
path nor the others. The path of a name is its text and a slash. So if names have no slash, a key lies in
one namespace at most, whatever bytes were chosen for it there (`child_apart`): a call through a namespace
does to the contents of that namespace what it would do to a store of its own, and nothing to those of the
others.

Results:
* `contents_applyIn`, `contents_applyIn_of_apart`: what a call through a namespace does to its contents and
  to those of another one.
* `Namespace.shows_contents`: what is read through a namespace are its contents.
* `Store.namespaces_independent`: after any calls through any namespaces each shows what a store of its own
  would hold.
-/
namespace Settlement

/-! ## Paths -/

theorem isPrefixOf_append (p q l : Bytes) :
    (p ++ q).isPrefixOf l = (p.isPrefixOf l && q.isPrefixOf (l.drop p.length)) := by
  induction p generalizing l with
  | nil => simp
  | cons a p ih =>
    cases l with
    | nil => rfl
    | cons b l => simp only [List.cons_append, List.isPrefixOf, ih, Bool.and_assoc,
        List.length_cons, List.drop_succ_cons]

namespace Text

/-- The code of a slash stands for a slash only: all other characters have other codes, and characters
of more than one byte have none below 0x80. -/
theorem eq_slash_of_mem {c : Char} (h : 0x2F ∈ String.utf8EncodeChar c) : c = '/' := by
  have slash : (0x2F : UInt8).toNat = 47 := rfl
  unfold String.utf8EncodeChar at h
  simp only at h
  split at h
  · rename_i hv
    rw [List.mem_singleton, ← UInt8.toNat_inj, UInt8.toNat_ofNat', slash] at h
    refine Char.ext (UInt32.toNat_inj.1 ?_)
    change c.val.toNat = 47
    omega
  · repeat' split at h
    all_goals
      simp only [List.mem_cons, List.not_mem_nil, or_false, ← UInt8.toNat_inj, UInt8.toNat_ofNat',
        slash] at h
      omega

/-- A text without a slash has no byte that looks like one. -/
theorem slash_notMem_utf8 {s : String} (h : '/' ∉ s.toList) : 0x2F ∉ utf8 s := by
  rw [utf8_eq_flatMap]
  intro hb
  obtain ⟨c, hc, hb⟩ := List.mem_flatMap.1 hb
  exact h (eq_slash_of_mem hb ▸ hc)

end Text

namespace Namespace

/-- No key of the one namespace is a key of the other. -/
def Apart (m n : Namespace) : Prop := ∀ a b, m.full a ≠ n.full b

/-- A key in a namespace of a name without a slash says which name it is: it is what comes before the
first slash behind the path of the outer namespace. -/
theorem name_of_prefix {outer : Namespace} {name : String} (plain : '/' ∉ name.toList) {key : Bytes}
    (h : (outer.child name).path <+: key) :
    (key.drop outer.path.length).takeWhile (· ≠ 0x2F) = Text.utf8 name := by
  obtain ⟨rest, rfl⟩ := h
  rw [child, List.append_assoc, List.append_assoc, List.drop_left,
    List.takeWhile_append_of_pos]
  · simp
  · intro b hb
    exact decide_eq_true fun he => Text.slash_notMem_utf8 plain (he ▸ hb)

/-- Namespaces of different names without a slash have no key in common. -/
theorem child_apart (outer : Namespace) {a b : String} (ha : '/' ∉ a.toList) (hb : '/' ∉ b.toList)
    (h : a ≠ b) : (outer.child a).Apart (outer.child b) := by
  intro x y he
  have hx := name_of_prefix ha (List.prefix_append (outer.child a).path x)
  have hy := name_of_prefix hb (List.prefix_append (outer.child b).path y)
  rw [full, full] at he
  rw [he, hy] at hx
  exact h (Text.utf8_injective hx).symm

/-! ## Contents -/

/-- What lies in a namespace, as a store of its own: the entries whose keys begin with the path, without
the path. -/
def contents (n : Namespace) (s : Store) : Store where
  entries := (s.entries.filter fun e => n.path.isPrefixOf e.1).map fun e =>
    (e.1.drop n.path.length, e.2)
  ascending := by
    rw [List.pairwise_map]
    refine List.Pairwise.imp_of_mem ?_ (s.ascending.filter _)
    intro a b ha hb hab
    have split : ∀ e ∈ s.entries.filter (fun e => n.path.isPrefixOf e.1),
        n.path ++ e.1.drop n.path.length = e.1 := fun e he =>
      List.prefix_iff_eq_append.1 (List.isPrefixOf_iff_prefix.1 (List.mem_filter.1 he).2)
    rw [← compare_append_left n.path, split a ha, split b hb]
    exact hab

variable {m n : Namespace} {s : Store}

theorem mem_contents {key value : Bytes} :
    (key, value) ∈ (n.contents s).entries ↔ (n.full key, value) ∈ s.entries := by
  rw [contents, List.mem_map]
  constructor
  · rintro ⟨⟨full, value'⟩, he, hk⟩
    obtain ⟨hs, hp⟩ := List.mem_filter.1 he
    cases hk
    rw [Namespace.full, List.prefix_iff_eq_append.1 (List.isPrefixOf_iff_prefix.1 hp)]
    exact hs
  · intro he
    refine ⟨(n.full key, value), List.mem_filter.2 ⟨he, ?_⟩, ?_⟩
    · exact List.isPrefixOf_iff_prefix.2 (List.prefix_append n.path key)
    · rw [Namespace.full, List.drop_left]

theorem get?_contents (key : Bytes) : (n.contents s).get? key = n.get? s key := by
  refine Option.ext fun value => ?_
  rw [Namespace.get?, ← Table.mem_entries_iff, ← Table.mem_entries_iff, mem_contents]

theorem iterate_contents (start : Bytes) : (n.contents s).iterate start = n.iterate s start := by
  rw [Namespace.iterate, Store.iterate_eq_filter, Store.iterate_eq_filter, contents, List.filter_map,
    List.filter_filter]
  simp only [full, isPrefixOf_append, Function.comp_apply, Bool.and_comm]

/-- What is listed for a namespace begins with its path, so that just the path is cut off. -/
theorem path_prefix_of_mem_iterate {start : Bytes} {e : Bytes × Bytes}
    (h : e ∈ s.iterate (n.full start)) : n.path <+: e.1 := by
  rw [Store.iterate_eq_filter] at h
  have hp := List.isPrefixOf_iff_prefix.1 (List.mem_filter.1 h).2
  exact (List.prefix_append n.path start).trans hp

/-- Whoever reads the namespace in the one store, to write there or only to look, sees the other store. -/
structure Shows (n : Namespace) (s own : Store) : Prop where
  get? : ∀ key, n.get? s key = own.get? key
  has : ∀ key, n.has s key = own.contains key
  has_of_view : ∀ key, (n.get? s key).isSome = own.contains key
  iterate : ∀ start, n.iterate s start = own.iterate start
  /-- Nothing but the path is cut off the keys in a listing. -/
  path_listed : ∀ start, ∀ e ∈ s.iterate (n.full start), n.path <+: e.1

theorem shows_contents (n : Namespace) (s : Store) : n.Shows s (n.contents s) where
  get? key := (get?_contents key).symm
  has key := congrArg Option.isSome (get?_contents key).symm
  has_of_view key := congrArg Option.isSome (get?_contents key).symm
  iterate start := (iterate_contents start).symm
  path_listed _ _ h := path_prefix_of_mem_iterate h

end Namespace

/-! ## Calls -/

namespace Store

/-- A call that changes a store. -/
inductive Update
  | set (key value : Bytes)
  | delete (key : Bytes)
  deriving DecidableEq

namespace Update

def key : Update → Bytes
  | set key _ => key
  | delete key => key

/-- What is there afterwards. -/
def value? : Update → Option Bytes
  | set _ value => some value
  | delete _ => none

def apply (s : Store) : Update → Store
  | set key value => s.insert key value
  | delete key => s.erase key

def applyIn (n : Namespace) (s : Store) : Update → Store
  | set key value => n.set s key value
  | delete key => n.delete s key

variable {m n : Namespace} {s : Store}

theorem get?_apply (u : Update) (key : Bytes) :
    (u.apply s).get? key = if u.key = key then u.value? else s.get? key := by
  cases u with
  | set key' value => exact Table.get?_insert
  | delete key' => exact Table.get?_erase

theorem get?_applyIn (u : Update) (key : Bytes) :
    (u.applyIn n s).get? key = if n.full u.key = key then u.value? else s.get? key := by
  cases u with
  | set key' value => exact Table.get?_insert
  | delete key' => exact Table.get?_erase

end Update

end Store

namespace Namespace

open Store (Update)

variable {m n : Namespace} {s : Store}

/-- A call through a namespace does to its contents what it does to a store of its own. -/
theorem contents_applyIn (u : Update) : n.contents (u.applyIn n s) = u.apply (n.contents s) := by
  apply Table.ext_get?
  intro key
  rw [get?_contents, u.get?_apply, get?_contents]
  cases u with
  | set key' value => exact get?_set
  | delete key' => exact get?_delete

/-- And nothing to the contents of another one. -/
theorem contents_applyIn_of_apart (h : m.Apart n) (u : Update) :
    n.contents (u.applyIn m s) = n.contents s := by
  apply Table.ext_get?
  intro key
  rw [get?_contents, get?_contents, Namespace.get?, Namespace.get?, u.get?_applyIn,
    if_neg (h u.key key)]

end Namespace

namespace Store

def updated (s : Store) (updates : List Update) : Store :=
  updates.foldl (fun s u => u.apply s) s

/-- The store after calls through namespaces, each given with the name of its namespace. -/
def interleaved (s : Store) (calls : List (String × Update)) : Store :=
  calls.foldl (fun s c => c.2.applyIn (.child .top c.1) s) s

/-- The calls through the namespace of a name, in their order. -/
def callsOf (name : String) (calls : List (String × Update)) : List Update :=
  (calls.filter fun c => c.1 = name).map Prod.snd

/-- After any calls the contents of a namespace are those it had, after its own calls alone. -/
theorem contents_interleaved {name : String} (plain : '/' ∉ name.toList)
    {calls : List (String × Update)} (others : ∀ c ∈ calls, '/' ∉ c.1.toList) (s : Store) :
    (Namespace.top.child name).contents (s.interleaved calls) =
      ((Namespace.top.child name).contents s).updated (callsOf name calls) := by
  induction calls generalizing s with
  | nil => rfl
  | cons c calls ih =>
    have hrest := ih (fun d hd => others d (List.mem_cons_of_mem c hd))
      (c.2.applyIn (.child .top c.1) s)
    change (Namespace.top.child name).contents ((c.2.applyIn _ s).interleaved calls) = _
    rw [hrest]
    by_cases hc : c.1 = name
    · have hcalls : callsOf name (c :: calls) = c.2 :: callsOf name calls := by simp [callsOf, hc]
      rw [hcalls, hc, Namespace.contents_applyIn]
      rfl
    · have hcalls : callsOf name (c :: calls) = callsOf name calls := by simp [callsOf, hc]
      rw [hcalls, Namespace.contents_applyIn_of_apart
        (Namespace.child_apart .top (others c List.mem_cons_self) plain hc)]

theorem get?_interleaved {key : Bytes} {calls : List (String × Update)}
    (outside : ∀ c ∈ calls, ¬ (Namespace.top.child c.1).path <+: key) (s : Store) :
    (s.interleaved calls).get? key = s.get? key := by
  induction calls generalizing s with
  | nil => rfl
  | cons c calls ih =>
    have hrest := ih (fun d hd => outside d (List.mem_cons_of_mem c hd))
      (c.2.applyIn (.child .top c.1) s)
    have hkey : Namespace.full (.child .top c.1) c.2.key ≠ key := by
      rintro rfl
      exact outside c List.mem_cons_self (List.prefix_append _ _)
    rw [Update.get?_applyIn, if_neg hkey] at hrest
    exact hrest

/-- Calls that change a store, each through the namespace of one of the given names, in any order and with
any keys and values: whoever then reads one of these namespaces sees what a store of its own would hold
that began with the contents of the namespace and received the calls through it and no others, and what
lies outside of the namespaces is as it was. -/
theorem namespaces_independent (names : List String) (plain : ∀ name ∈ names, '/' ∉ name.toList)
    (s : Store) (calls : List (String × Update)) (named : ∀ c ∈ calls, c.1 ∈ names) :
    (∀ name ∈ names, (Namespace.top.child name).Shows (s.interleaved calls)
      (((Namespace.top.child name).contents s).updated (callsOf name calls))) ∧
    ∀ key, (∀ name ∈ names, ¬ (Namespace.top.child name).path <+: key) →
      (s.interleaved calls).get? key = s.get? key := by
  constructor
  · intro name hname
    rw [← contents_interleaved (plain name hname) (fun c hc => plain c.1 (named c hc)) s]
    exact Namespace.shows_contents _ _
  · intro key houtside
    exact get?_interleaved (fun c hc => houtside c.1 (named c hc)) s

/-- Entries of a name, of a name that begins with it, and of none. -/
def mixed : Store :=
  ((Table.empty.insert (Text.utf8 "a/x") [1]).insert (Text.utf8 "ab/x") [2]).insert
    (Text.utf8 "c") [3]

/-- Calls with keys that look like those of other namespaces. -/
def mixedCalls : List (String × Update) :=
  [("a", .set (Text.utf8 "b/x") [4]), ("", .set (Text.utf8 "a/x") [5]),
    ("ab", .delete (Text.utf8 "x"))]

/-- Neither the name that another one begins with nor the empty name gets into the way of the others. -/
theorem namespaces_independent_mixed :
    (∀ name ∈ ["a", "ab", ""], '/' ∉ name.toList) ∧
    (∀ c ∈ mixedCalls, c.1 ∈ ["a", "ab", ""]) ∧
    (Namespace.top.child "a").iterate (mixed.interleaved mixedCalls) [] =
      [(Text.utf8 "b/x", [4]), (Text.utf8 "x", [1])] ∧
    (Namespace.top.child "ab").has (mixed.interleaved mixedCalls) (Text.utf8 "x") = false ∧
    (Namespace.top.child "").get? (mixed.interleaved mixedCalls) (Text.utf8 "a/x") = some [5] ∧
    (mixed.interleaved mixedCalls).get? (Text.utf8 "c") = some [3] := by
  have plain : ∀ name ∈ ["a", "ab", ""], '/' ∉ name.toList := by decide
  have named : ∀ c ∈ mixedCalls, c.1 ∈ ["a", "ab", ""] := by decide
  obtain ⟨shows, outside⟩ := namespaces_independent _ plain mixed mixedCalls named
  refine ⟨plain, named, ?_, ?_, ?_, ?_⟩
  · rw [(shows "a" (by simp)).iterate]
    decide +kernel
  · rw [(shows "ab" (by simp)).has]
    decide +kernel
  · rw [(shows "" (by simp)).get?]
    decide +kernel
  · rw [outside _ (by decide +kernel)]
    decide +kernel

end Store

end Settlement
