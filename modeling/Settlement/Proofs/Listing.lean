import Settlement.Store

/-!
# Listings are exact

A listing walks the entries in key order from where the prefix itself would stand and ends at the first
key that does not begin with it. Keys with a common prefix stand next to each other, so nothing is left
out: `iterate_eq_filter`.

Results:
* `iterate_eq_filter`: a listing holds exactly the entries whose keys begin with the prefix, in key order.
-/
namespace Settlement

theorem compare_cons_cons (a b : UInt8) (x y : Bytes) :
    compare (a :: x) (b :: y) = (compare a b).then (compare x y) :=
  List.compare_cons_cons

theorem compare_append_left (p a b : Bytes) : compare (p ++ a) (p ++ b) = compare a b := by
  induction p with
  | nil => rfl
  | cons c p ih =>
    rw [List.cons_append, List.cons_append, compare_cons_cons, Std.ReflOrd.compare_self, ih]
    rfl

theorem not_lt_of_isPrefixOf {start key : Bytes} (h : start.isPrefixOf key = true) :
    (compare key start).isLT = false := by
  induction start generalizing key with
  | nil => cases key <;> rfl
  | cons a start ih =>
    cases key with
    | nil => cases h
    | cons b key =>
      simp only [List.isPrefixOf, Bool.and_eq_true, beq_iff_eq] at h
      obtain ⟨rfl, h⟩ := h
      rw [compare_cons_cons, Std.ReflOrd.compare_self]
      exact ih h

/-- What lies between a prefix and a key that begins with it begins with it too. -/
theorem isPrefixOf_of_between {start a b : Bytes} (ha : (compare a start).isLT = false)
    (hab : compare a b = .lt) (hb : start.isPrefixOf b = true) : start.isPrefixOf a = true := by
  induction start generalizing a b with
  | nil => rfl
  | cons c start ih =>
    cases b with
    | nil => cases hb
    | cons y b =>
      simp only [List.isPrefixOf, Bool.and_eq_true, beq_iff_eq] at hb
      obtain ⟨rfl, hb⟩ := hb
      cases a with
      | nil => cases ha
      | cons x a =>
        rw [compare_cons_cons] at ha hab
        cases hx : compare x c with
        | lt =>
          rw [hx] at ha
          cases ha
        | gt =>
          rw [hx] at hab
          cases hab
        | eq =>
          rw [hx] at ha hab
          have he := Std.LawfulEqOrd.eq_of_compare hx
          subst he
          simp only [List.isPrefixOf, beq_self_eq_true, Bool.true_and]
          exact ih ha hab hb

/-- From where the prefix would stand, the entries that begin with it come first. -/
theorem takeWhile_eq_filter {start : Bytes} {l : List (Bytes × Bytes)}
    (hl : l.Pairwise fun a b => compare a.1 b.1 = .lt)
    (h : ∀ e ∈ l, (compare e.1 start).isLT = false) :
    (l.takeWhile fun e => start.isPrefixOf e.1) = l.filter fun e => start.isPrefixOf e.1 := by
  induction l with
  | nil => rfl
  | cons e rest ih =>
    obtain ⟨he, hr⟩ := List.pairwise_cons.1 hl
    rw [List.takeWhile_cons, List.filter_cons]
    split
    · rw [ih hr fun d hd => h d (by simp [hd])]
    · -- from the first key without the prefix on, none has it
      rename_i hp
      symm
      rw [List.filter_eq_nil_iff]
      intro d hd hdp
      exact hp (isPrefixOf_of_between (h e (by simp)) (he d hd) hdp)

/-- A listing holds exactly the entries whose keys begin with the prefix, in key order. -/
theorem Store.iterate_eq_filter (s : Store) (start : Bytes) :
    s.iterate start = s.entries.filter fun e => start.isPrefixOf e.1 := by
  obtain ⟨l, hl⟩ := s
  unfold Store.iterate
  simp only
  induction l with
  | nil => rfl
  | cons e rest ih =>
    obtain ⟨he, hr⟩ := List.pairwise_cons.1 hl
    rw [List.dropWhile_cons]
    split
    · rename_i hlt
      have hp : ¬ start.isPrefixOf e.1 = true := by
        intro hp
        rw [not_lt_of_isPrefixOf hp] at hlt
        cases hlt
      rw [List.filter_cons, if_neg hp]
      exact ih hr
    · rename_i hlt
      apply takeWhile_eq_filter hl
      intro d hd
      rcases List.mem_cons.1 hd with rfl | hd
      · exact Bool.eq_false_iff.2 hlt
      · -- what comes after `e` does not come before the prefix
        rw [Bool.eq_false_iff]
        intro hdl
        have hds : compare d.1 start = .lt := by
          cases hc : compare d.1 start <;> simp_all
        have := Std.TransCmp.lt_trans (he d hd) hds
        rw [this] at hlt
        exact hlt rfl

end Settlement
