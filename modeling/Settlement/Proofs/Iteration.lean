import Settlement.Proofs.Isolation

/-!
# Listings after any calls

A store comes about by calls that put a value under a key or take a key out, and what is there is what the
last call for each key left. A listing walks the keys from where a prefix would stand and ends at the first
key without it. It is exact, for any prefix, whatever the calls were: nothing that begins with the prefix
comes before it or behind a key that does not.

Results:
* `Store.get?_updated`: after any calls there is under a key what the last call for it left.
* `Store.mem_iterate`, `Namespace.mem_iterate`: what is listed for a prefix.
* `Bytes.compare_eq_lt_iff`: byte strings are compared lexicographically.
* `Store.iterate_exact`: after any calls on an empty store each entry with the prefix is listed once, with
  its value of last, in lexicographic order.
-/
namespace Settlement

/-! ## The order of byte strings -/

theorem Bytes.compare_eq_lt_iff {a b : Bytes} : compare a b = .lt ↔ List.Lex (· < ·) a b := by
  induction a generalizing b with
  | nil =>
    cases b with
    | nil => exact iff_of_false nofun nofun
    | cons y b => exact iff_of_true rfl .nil
  | cons x a ih =>
    cases b with
    | nil => exact iff_of_false nofun nofun
    | cons y b =>
      rw [compare_cons_cons, Ordering.then_eq_lt, ih]
      constructor
      · rintro (first | ⟨same, rest⟩)
        · exact .rel (Std.compare_eq_lt.1 first)
        · rw [Std.LawfulEqOrd.eq_of_compare same]
          exact .cons rest
      · intro h
        cases h with
        | rel first => exact .inl (Std.compare_eq_lt.2 first)
        | cons rest => exact .inr ⟨Std.ReflOrd.compare_self, rest⟩

/-! ## What is there -/

/-- What a sequence of calls leaves under a key: what the last of them that names the key says. -/
def Store.Update.latest (calls : List Update) (key : Bytes) : Option Bytes :=
  (calls.findRev? fun u => u.key = key).bind value?

namespace Store

variable {s : Store} {start key value : Bytes}

theorem get?_updated (s : Store) (calls : List Update) (key : Bytes) :
    (s.updated calls).get? key =
      (calls.findRev? fun u => u.key = key).elim (s.get? key) Update.value? := by
  induction calls generalizing s with
  | nil => rfl
  | cons u calls ih =>
    have rest := ih (u.apply s)
    rw [u.get?_apply] at rest
    change ((u.apply s).updated calls).get? key = _
    rw [rest, List.findRev?]
    cases calls.findRev? fun u => u.key = key with
    | some later => rfl
    | none => by_cases named : u.key = key <;> simp [named]

theorem get?_updated_empty (calls : List Update) (key : Bytes) :
    (updated .empty calls).get? key = Update.latest calls key := by
  rw [get?_updated, Update.latest]
  cases calls.findRev? fun u => u.key = key <;> rfl

/-! ## What is listed -/

theorem mem_iterate : (key, value) ∈ s.iterate start ↔ start <+: key ∧ s.get? key = some value := by
  rw [iterate_eq_filter, List.mem_filter, Table.mem_entries_iff, List.isPrefixOf_iff_prefix,
    and_comm]

theorem ascending_iterate (s : Store) (start : Bytes) :
    (s.iterate start).Pairwise fun a b => List.Lex (· < ·) a.1 b.1 := by
  rw [iterate_eq_filter]
  exact (s.ascending.filter _).imp Bytes.compare_eq_lt_iff.1

/-- After any calls on an empty store a listing has exactly the entries whose keys begin with the prefix,
each with the value that the last call for its key put there, once each, and in strict lexicographic order. -/
theorem iterate_exact (calls : List Update) (start : Bytes) :
    (∀ key value, (key, value) ∈ (updated .empty calls).iterate start ↔
      start <+: key ∧ Update.latest calls key = some value) ∧
    (((updated .empty calls).iterate start).map Prod.fst).Nodup ∧
    ((updated .empty calls).iterate start).Pairwise fun a b => List.Lex (· < ·) a.1 b.1 := by
  refine ⟨fun key value => ?_, ?_, ascending_iterate _ start⟩
  · rw [mem_iterate, get?_updated_empty]
  · rw [List.nodup_iff_pairwise_ne, List.pairwise_map]
    refine (ascending_iterate _ start).imp fun {a b} before same => ?_
    rw [← Bytes.compare_eq_lt_iff] at before
    exact Table.ne_of_compare_lt before same

-- The prefix that no byte string follows, and a key that was taken out and put back.
example : (updated .empty [.set [0xFF, 0xFF] [1], .set [0xFF] [2], .set [0xFE, 0xFF] [3],
    .delete [0xFF], .set [0xFF] [4]]).iterate [0xFF] = [([0xFF], [4]), ([0xFF, 0xFF], [1])] := by
  decide +kernel

end Store

theorem Namespace.mem_iterate {n : Namespace} {s : Store} {start key value : Bytes} :
    (key, value) ∈ n.iterate s start ↔ start <+: key ∧ n.get? s key = some value := by
  rw [← iterate_contents, Store.mem_iterate, get?_contents]

end Settlement
