import Mathlib.Algebra.GroupWithZero.Nat
import Settlement.Table

/-!
# Sums over tables

A weight on entries gives every table a sum. What an update adds and takes away depends on its own key
only: the sum is that of the table without the key, plus the weight under the key.

Results:
* `sum_split`, `sum_insert`, `sum_erase`: a sum before and after an update.
-/
namespace Settlement.Table

variable {κ ν : Type} [Ord κ]

/-- The sum of the weights of all entries. -/
def sum (t : Table κ ν) (weight : κ × ν → Nat) : Nat := (t.entries.map weight).sum

variable [DecidableEq κ]

/-- The weight of the entry under a key, zero if there is none. -/
def weightAt (t : Table κ ν) (weight : κ × ν → Nat) (k : κ) : Nat :=
  match t.get? k with
  | some v => weight (k, v)
  | none => 0

theorem weightAt_of_get? {t : Table κ ν} {k : κ} {v : ν} (weight : κ × ν → Nat)
    (h : t.get? k = some v) : t.weightAt weight k = weight (k, v) := by
  simp only [weightAt, h]

theorem weightAt_of_none {t : Table κ ν} {k : κ} (weight : κ × ν → Nat) (h : t.get? k = none) :
    t.weightAt weight k = 0 := by
  simp only [weightAt, h]

/-- A sum splits into the weight under a key and the rest. -/
theorem sum_split [Std.TransOrd κ] (t : Table κ ν) (weight : κ × ν → Nat) (k : κ) :
    t.sum weight = (t.erase k).sum weight + t.weightAt weight k := by
  obtain ⟨l, hl⟩ := t
  simp only [sum, erase, weightAt, get?]
  induction l with
  | nil => simp [lookup]
  | cons d rest ih =>
    obtain ⟨hd, hr⟩ := List.pairwise_cons.1 hl
    have ih := ih hr
    by_cases hk : k = d.1
    · subst hk
      -- the key stands nowhere else
      have hf : (rest.filter fun e => d.1 ≠ e.1) = rest := by
        rw [List.filter_eq_self]
        intro e he
        exact decide_eq_true (ne_of_compare_lt (hd e he))
      simp only [List.filter_cons, ne_eq, not_true_eq_false, decide_false, Bool.false_eq_true,
        if_false, lookup, if_true, List.map_cons, List.sum_cons] at hf ⊢
      rw [hf, Nat.add_comm]
    · simp only [List.filter_cons, ne_eq, hk, not_false_eq_true, decide_true, if_true, lookup,
        if_false, List.map_cons, List.sum_cons] at ih ⊢
      omega

theorem sum_erase [Std.TransOrd κ] (t : Table κ ν) (weight : κ × ν → Nat) (k : κ) :
    (t.erase k).sum weight + t.weightAt weight k = t.sum weight :=
  (sum_split t weight k).symm

theorem erase_insert [Std.TransOrd κ] [Std.LawfulEqOrd κ] (t : Table κ ν) (k : κ) (v : ν) :
    (t.insert k v).erase k = t.erase k := by
  apply ext_get?
  intro j
  simp only [get?_erase, get?_insert]
  split <;> rfl

theorem sum_insert [Std.TransOrd κ] [Std.LawfulEqOrd κ] (t : Table κ ν) (weight : κ × ν → Nat)
    (k : κ) (v : ν) :
    (t.insert k v).sum weight + t.weightAt weight k = t.sum weight + weight (k, v) := by
  have hs := sum_split t weight k
  have hi := sum_split (t.insert k v) weight k
  rw [erase_insert, weightAt_of_get? weight (v := v) (by rw [get?_insert, if_pos rfl])] at hi
  omega

end Settlement.Table
