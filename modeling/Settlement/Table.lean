/-!
# Sorted tables

A finite map held as a list of entries that strictly ascends by key. The list is the whole truth about
a table: two tables with the same entries are equal, and every listing is in key order.

Results:
* `get?_insert`, `get?_erase`: an update changes its own key and no other.
* `ext_get?`: tables that answer every look-up alike are equal.
-/
namespace Settlement

/-- Entries in strictly ascending order of their keys. -/
structure Table (κ ν : Type) [Ord κ] where
  entries : List (κ × ν)
  ascending : entries.Pairwise fun a b => compare a.1 b.1 = .lt

namespace Table

variable {κ ν : Type} [Ord κ]

theorem ext_entries {s t : Table κ ν} (h : s.entries = t.entries) : s = t := by
  cases s; cases t; simp_all

instance instDecidableEq [DecidableEq κ] [DecidableEq ν] : DecidableEq (Table κ ν) := fun s t =>
  decidable_of_iff (s.entries = t.entries) ⟨ext_entries, fun h => by rw [h]⟩

def empty : Table κ ν := ⟨[], .nil⟩

instance : Inhabited (Table κ ν) := ⟨empty⟩

def size (t : Table κ ν) : Nat := t.entries.length

def isEmpty (t : Table κ ν) : Bool := t.entries.isEmpty

/-- The entries with a value put in its place. -/
def place (k : κ) (v : ν) : List (κ × ν) → List (κ × ν)
  | [] => [(k, v)]
  | e :: rest =>
    match compare k e.1 with
    | .lt => (k, v) :: e :: rest
    | .eq => (k, v) :: rest
    | .gt => e :: place k v rest

theorem mem_place {k : κ} {v : ν} {e : κ × ν} {l : List (κ × ν)} (h : e ∈ place k v l) :
    e = (k, v) ∨ e ∈ l := by
  induction l with
  | nil => simpa [place] using h
  | cons d rest ih =>
    rw [place] at h
    split at h
    · simpa using h
    · simp only [List.mem_cons] at h ⊢
      exact h.imp_right Or.inr
    · simp only [List.mem_cons] at h ⊢
      rcases h with rfl | h
      · exact Or.inr (Or.inl rfl)
      · exact (ih h).imp_right Or.inr

theorem ascending_place [Std.TransOrd κ] {k : κ} {v : ν} {l : List (κ × ν)}
    (h : l.Pairwise fun a b => compare a.1 b.1 = .lt) :
    (place k v l).Pairwise fun a b => compare a.1 b.1 = .lt := by
  induction l with
  | nil => simp [place]
  | cons d rest ih =>
    obtain ⟨hd, hr⟩ := List.pairwise_cons.1 h
    rw [place]
    split
    · rename_i hk
      refine List.pairwise_cons.2 ⟨?_, h⟩
      intro e he
      rcases List.mem_cons.1 he with rfl | he
      · exact hk
      · exact Std.TransCmp.lt_trans hk (hd e he)
    · rename_i hk
      refine List.pairwise_cons.2 ⟨?_, hr⟩
      intro e he
      exact Std.TransCmp.lt_of_eq_of_lt hk (hd e he)
    · rename_i hk
      refine List.pairwise_cons.2 ⟨?_, ih hr⟩
      intro e he
      rcases mem_place he with rfl | he
      · exact Std.OrientedCmp.lt_of_gt hk
      · exact hd e he

/-- The table with a value under a key, whatever was there before. -/
def insert [Std.TransOrd κ] (t : Table κ ν) (k : κ) (v : ν) : Table κ ν :=
  ⟨place k v t.entries, ascending_place t.ascending⟩

variable [DecidableEq κ]

/-- The value of the first entry with a key. -/
def lookup (k : κ) : List (κ × ν) → Option ν
  | [] => none
  | e :: rest => if k = e.1 then some e.2 else lookup k rest

def get? (t : Table κ ν) (k : κ) : Option ν := lookup k t.entries

def contains (t : Table κ ν) (k : κ) : Bool := (t.get? k).isSome

def erase (t : Table κ ν) (k : κ) : Table κ ν :=
  ⟨t.entries.filter fun e => k ≠ e.1, t.ascending.filter _⟩

/-! ## Look-ups after updates -/

omit [Ord κ] in
theorem lookup_filter {k j : κ} {l : List (κ × ν)} :
    lookup j (l.filter fun e => k ≠ e.1) = if k = j then none else lookup j l := by
  induction l with
  | nil => simp [lookup]
  | cons d rest ih => grind [lookup]

theorem get?_erase {t : Table κ ν} {k j : κ} :
    (t.erase k).get? j = if k = j then none else t.get? j :=
  lookup_filter

variable [Std.TransOrd κ] [Std.LawfulEqOrd κ]

omit [DecidableEq κ] [Std.TransOrd κ] [Std.LawfulEqOrd κ] in
theorem ne_of_compare_lt [Std.ReflOrd κ] {a b : κ} (h : compare a b = .lt) : a ≠ b := by
  rintro rfl
  simp [Std.ReflOrd.compare_self] at h

theorem lookup_place {k j : κ} {v : ν} {l : List (κ × ν)} :
    lookup j (place k v l) = if k = j then some v else lookup j l := by
  induction l with
  | nil => grind [place, lookup]
  | cons d rest ih =>
    rw [place]
    split
    · grind [lookup]
    · rename_i hk
      have hd : k = d.1 := Std.LawfulEqOrd.eq_of_compare hk
      grind [lookup]
    · rename_i hk
      have hd : d.1 ≠ k := ne_of_compare_lt (Std.OrientedCmp.lt_of_gt hk)
      grind [lookup]

theorem get?_insert {t : Table κ ν} {k j : κ} {v : ν} :
    (t.insert k v).get? j = if k = j then some v else t.get? j :=
  lookup_place

omit [Std.LawfulEqOrd κ] in
theorem mem_entries_iff {t : Table κ ν} {k : κ} {v : ν} :
    (k, v) ∈ t.entries ↔ t.get? k = some v := by
  obtain ⟨l, hl⟩ := t
  simp only [get?]
  induction l with
  | nil => simp [lookup]
  | cons d rest ih =>
    obtain ⟨hd, hr⟩ := List.pairwise_cons.1 hl
    have hne : (k, v) ∈ rest → d.1 ≠ k := fun he => ne_of_compare_lt (hd _ he)
    have := ih hr
    grind [lookup]

omit [Std.LawfulEqOrd κ] in
theorem ext_get? {s t : Table κ ν} (h : ∀ k, s.get? k = t.get? k) : s = t := by
  apply ext_entries
  have hmem : ∀ e, e ∈ s.entries ↔ e ∈ t.entries := by
    rintro ⟨k, v⟩
    rw [mem_entries_iff, mem_entries_iff, h]
  obtain ⟨l, hl⟩ := s
  obtain ⟨m, hm⟩ := t
  simp only at hmem ⊢
  clear h
  induction l generalizing m with
  | nil =>
    cases m with
    | nil => rfl
    | cons e m => exact absurd ((hmem e).2 (by simp)) (by simp)
  | cons d l ih =>
    cases m with
    | nil => exact absurd ((hmem d).1 (by simp)) (by simp)
    | cons e m =>
      obtain ⟨hd, hl⟩ := List.pairwise_cons.1 hl
      obtain ⟨he, hrest⟩ := List.pairwise_cons.1 hm
      -- both heads are in both tables, and each is the least there
      have hde : d = e := by
        rcases List.mem_cons.1 ((hmem d).1 (by simp)) with h | h
        · exact h
        · rcases List.mem_cons.1 ((hmem e).2 (by simp)) with h' | h'
          · exact h'.symm
          · exact absurd rfl (ne_of_compare_lt (Std.TransCmp.lt_trans (hd e h') (he d h)))
      subst hde
      have away : ∀ x, x ∈ l ↔ x ∈ m := by
        intro x
        have hx := hmem x
        simp only [List.mem_cons] at hx
        constructor
        · intro h
          exact (hx.1 (Or.inr h)).resolve_left fun e => ne_of_compare_lt (hd x h) (by rw [e])
        · intro h
          exact (hx.2 (Or.inr h)).resolve_left fun e => ne_of_compare_lt (he x h) (by rw [e])
      rw [ih hl m hrest away]

theorem insert_insert {t : Table κ ν} {k : κ} {v w : ν} :
    (t.insert k v).insert k w = t.insert k w := by
  apply ext_get?
  intro i
  simp only [get?_insert]
  split <;> rfl

theorem insert_comm {t : Table κ ν} {j k : κ} {v w : ν} (h : j ≠ k) :
    (t.insert j v).insert k w = (t.insert k w).insert j v := by
  apply ext_get?
  intro i
  simp only [get?_insert]
  by_cases hk : k = i
  · have hj : j ≠ i := fun hj => h (hj.trans hk.symm)
    simp [hk, hj]
  · simp [hk]

/-! ## What changed -/

omit [DecidableEq κ] [Std.TransOrd κ] [Std.LawfulEqOrd κ] in
/-- Walks two ascending lists of entries side by side and lists the keys whose value differs, each
with its value in the second list, if it has one there. -/
def differences [DecidableEq ν] : List (κ × ν) → List (κ × ν) → List (κ × Option ν)
  | [], after => after.map fun e => (e.1, some e.2)
  | before, [] => before.map fun e => (e.1, none)
  | b :: before, a :: after =>
    match compare b.1 a.1 with
    | .lt => (b.1, none) :: differences before (a :: after)
    | .gt => (a.1, some a.2) :: differences (b :: before) after
    | .eq =>
      if b.2 = a.2 then differences before after
      else (a.1, some a.2) :: differences before after
termination_by before after => before.length + after.length

omit [DecidableEq κ] [Std.TransOrd κ] [Std.LawfulEqOrd κ] in
/-- The keys whose value differs between two tables, with the later value. -/
def changes [DecidableEq ν] (before after : Table κ ν) : List (κ × Option ν) :=
  differences before.entries after.entries

end Table

end Settlement
