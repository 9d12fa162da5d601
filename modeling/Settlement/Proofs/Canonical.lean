import Mathlib.Data.List.Basic
import Settlement.Proofs.Layout

/-!
# How far the canonical form forgets the order given

The canonical form puts the inputs of a transaction into the order of their outpoints and the outputs into
the order of all that they say. Outputs that stand level are therefore the same output, and the order in
which outputs were given is forgotten. Inputs that stand level need not be the same: the layout has their
sequences too, which the order does not look at, and as the sort is stable such inputs stay as they were
given. So transactions that differ only in the order of inputs and outputs have one canonical layout exactly
if, for each outpoint, the inputs that spend it carry their sequences in one order.

Results:
* `filter_mergeSort`: a stable sort leaves elements that stand level as they were.
* `eq_of_filter_eq`: a list in the order of its keys is known from what it has under each key.
* `isCanonical_iff`: what the canonical order asks of a transaction with one input.
* `layout_canonicalize_iff`: when reordered transactions have one canonical layout.
* `canonicalize_spec`: the canonical form is the only arrangement, and canonical order is to be it.
-/
namespace Settlement

/-! ## Stable sorts -/

section Sorting

/-- A stable sort leaves elements that stand level as they were. -/
theorem filter_mergeSort {α : Type} {le : α → α → Bool}
    (trans : ∀ a b c, le a b = true → le b c = true → le a c = true)
    (total : ∀ a b, (le a b || le b a) = true) {p : α → Bool}
    (level : ∀ a b, p a = true → p b = true → le a b = true) (l : List α) :
    (l.mergeSort le).filter p = l.filter p := by
  have hsorted : (l.filter p).Pairwise fun a b => le a b = true := by
    rw [List.pairwise_filter]
    exact List.pairwise_of_forall fun a b => level a b
  have hsub : (l.filter p).Sublist (l.mergeSort le) :=
    List.sublist_mergeSort trans total hsorted List.filter_sublist
  have hfilter := hsub.filter p
  simp only [List.filter_filter, Bool.and_self] at hfilter
  have hperm := (List.mergeSort_perm l le).filter p
  exact (hfilter.eq_of_length hperm.length_eq.symm).symm

variable {α κ : Type} [Ord κ] [Std.LawfulEqOrd κ] [DecidableEq κ] {key : α → κ}

theorem isLE_of_filter_eq {a b : α} {l m : List α}
    (hm : (b :: m).Pairwise fun x y => (compare (key x) (key y)).isLE = true)
    (h : (a :: l).filter (fun x => key x = key a) = (b :: m).filter fun x => key x = key a) :
    (compare (key b) (key a)).isLE = true := by
  have ha : a ∈ (b :: m).filter fun x => key x = key a := by
    rw [← h]
    simp
  rcases List.mem_cons.1 (List.mem_filter.1 ha).1 with rfl | ha
  · exact Std.ReflCmp.isLE_rfl
  · exact (List.pairwise_cons.1 hm).1 a ha

/-- A list in the order of its keys is known from what it has under each key. -/
theorem eq_of_filter_eq [Std.TransOrd κ] {l m : List α}
    (hl : l.Pairwise fun x y => (compare (key x) (key y)).isLE = true)
    (hm : m.Pairwise fun x y => (compare (key x) (key y)).isLE = true)
    (h : ∀ k, l.filter (fun x => key x = k) = m.filter fun x => key x = k) : l = m := by
  induction l generalizing m with
  | nil =>
    cases m with
    | nil => rfl
    | cons b m => simpa using h (key b)
  | cons a l ih =>
    cases m with
    | nil => simpa using h (key a)
    | cons b m =>
      have hba := isLE_of_filter_eq hm (h (key a))
      have hab := isLE_of_filter_eq hl (h (key b)).symm
      have hkey : key a = key b :=
        Std.LawfulEqOrd.eq_of_compare (Std.OrientedCmp.isLE_antisymm hab hba)
      have hfirst := h (key b)
      simp only [List.filter_cons, hkey, decide_true, if_true, List.cons.injEq] at hfirst
      obtain rfl : a = b := hfirst.1
      refine congrArg (a :: ·) (ih (List.pairwise_cons.1 hl).2 (List.pairwise_cons.1 hm).2 fun k => ?_)
      have hk := h k
      rw [List.filter_cons, List.filter_cons] at hk
      split at hk
      · exact (List.cons.inj hk).2
      · exact hk

end Sorting

/-! ## The orders of inputs and outputs -/

instance : Std.TransOrd Digest :=
  inferInstanceAs (Std.TransCmp (compareOn Digest.bytes))

instance : Std.LawfulEqOrd Digest where
  eq_of_compare h := Digest.ext (Std.LawfulEqOrd.eq_of_compare (α := Bytes) h)

instance : Std.TransOrd OutPoint :=
  inferInstanceAs
    (Std.TransCmp (compareLex (compareOn OutPoint.source) (compareOn fun p => p.index.toInt)))

instance : Std.LawfulEqOrd OutPoint where
  eq_of_compare {a b} h := by
    obtain ⟨source, index⟩ := a
    obtain ⟨source', index'⟩ := b
    obtain ⟨hs, hi⟩ := Ordering.then_eq_eq.1 h
    rw [OutPoint.mk.injEq]
    exact ⟨Std.LawfulEqOrd.eq_of_compare hs, Int32.toInt_inj.1 (Std.LawfulEqOrd.eq_of_compare hi)⟩

abbrev Output.order : Output → Output → Ordering :=
  compareLex (compareOn Output.value) (compareOn Output.condition)

theorem Input.le_trans (a b c : Input) (hab : Input.le a b = true) (hbc : Input.le b c = true) :
    Input.le a c = true :=
  Std.TransOrd.isLE_trans (α := OutPoint) hab hbc

theorem isLE_total {α : Type} (cmp : α → α → Ordering) [Std.OrientedCmp cmp] (a b : α) :
    ((cmp a b).isLE || (cmp b a).isLE) = true := by
  have hswap : cmp b a = (cmp a b).swap := Std.OrientedCmp.eq_swap
  rw [hswap]
  cases cmp a b <;> rfl

theorem Output.le_trans (a b c : Output) (hab : Output.le a b = true)
    (hbc : Output.le b c = true) : Output.le a c = true := by
  have h : (Output.order a c).isLE = true := Std.TransCmp.isLE_trans hab hbc
  exact h

theorem Output.le_antisymm {a b : Output} (hab : Output.le a b = true)
    (hba : Output.le b a = true) : a = b := by
  have h : Output.order a b = .eq := Std.OrientedCmp.isLE_antisymm hab hba
  obtain ⟨value, condition⟩ := a
  obtain ⟨value', condition'⟩ := b
  obtain ⟨hv, hc⟩ := Ordering.then_eq_eq.1 h
  rw [Output.mk.injEq]
  exact ⟨Std.LawfulEqOrd.eq_of_compare hv, Std.LawfulEqOrd.eq_of_compare hc⟩

/-! ## Lists in canonical order -/

theorem ascends_iff_isChain {α : Type} {le : α → α → Bool} {l : List α} :
    ascends le l = true ↔ l.IsChain fun a b => le a b = true := by
  induction l with
  | nil => simp [ascends]
  | cons a l ih =>
    cases l with
    | nil => simp [ascends]
    | cons b l => rw [ascends, Bool.and_eq_true, ih, List.isChain_cons_cons]

/-- In an order, a list whose neighbours stand in order stands in order. -/
theorem ascends_iff_pairwise {α : Type} {le : α → α → Bool}
    (trans : ∀ a b c, le a b = true → le b c = true → le a c = true) {l : List α} :
    ascends le l = true ↔ l.Pairwise fun a b => le a b = true := by
  have : Trans (fun a b => le a b = true) (fun a b => le a b = true) fun a b => le a b = true :=
    ⟨fun hab hbc => trans _ _ _ hab hbc⟩
  rw [ascends_iff_isChain, List.isChain_iff_pairwise]

theorem Bytes.isLE_compare_iff {a b : Bytes} : (compare a b).isLE = true ↔ a ≤ b := by
  induction a generalizing b with
  | nil => cases b <;> simp
  | cons x a ih =>
    cases b with
    | nil => simp
    | cons y b =>
      rw [List.compare_cons_cons, Ordering.isLE_then_iff_or, ih, List.cons_le_cons_iff,
        Std.compare_eq_lt, Std.compare_eq_iff_eq]

theorem Output.le_iff {a b : Output} :
    Output.le a b = true ↔
      a.value < b.value ∨ a.value = b.value ∧ a.condition ≤ b.condition := by
  rw [Output.le, Ordering.isLE_then_iff_or, Bytes.isLE_compare_iff, Std.compare_eq_lt,
    Std.compare_eq_iff_eq]

theorem Transaction.isCanonical_iff_pairwise {t : Transaction} :
    t.isCanonical = true ↔ (t.inputs.Pairwise fun a b => Input.le a b = true) ∧
      t.outputs.Pairwise fun a b => Output.le a b = true := by
  rw [isCanonical, Bool.and_eq_true, ascends_iff_pairwise Input.le_trans,
    ascends_iff_pairwise Output.le_trans]

/-- A transaction with one input is in canonical order exactly if its outputs ascend by value and, where
they are worth the same, by condition. -/
theorem Transaction.isCanonical_iff {t : Transaction} {input : Input} (h : t.inputs = [input]) :
    t.isCanonical = true ↔ t.outputs.Pairwise fun a b =>
      a.value < b.value ∨ a.value = b.value ∧ a.condition ≤ b.condition := by
  simp only [isCanonical_iff_pairwise, h, List.pairwise_singleton, true_and, Output.le_iff]

theorem Transaction.inputs_canonicalize_sorted (t : Transaction) :
    t.canonicalize.inputs.Pairwise fun a b => Input.le a b = true :=
  List.pairwise_mergeSort Input.le_trans (fun a b => isLE_total compare a.point b.point) _

theorem Transaction.outputs_canonicalize_sorted (t : Transaction) :
    t.canonicalize.outputs.Pairwise fun a b => Output.le a b = true :=
  List.pairwise_mergeSort Output.le_trans (isLE_total Output.order) _

theorem Transaction.isCanonical_canonicalize (t : Transaction) :
    t.canonicalize.isCanonical = true :=
  isCanonical_iff_pairwise.2 ⟨t.inputs_canonicalize_sorted, t.outputs_canonicalize_sorted⟩

theorem Transaction.canonicalize_of_isCanonical {t : Transaction} (h : t.isCanonical = true) :
    t.canonicalize = t := by
  obtain ⟨hinputs, houtputs⟩ := isCanonical_iff_pairwise.1 h
  rw [canonicalize, List.mergeSort_of_pairwise hinputs, List.mergeSort_of_pairwise houtputs]

/-! ## Reordered transactions -/

namespace Transaction

/-- Two transactions are the same but for the order of their inputs and of their outputs. -/
structure Reorders (t u : Transaction) : Prop where
  lockTime : t.lockTime = u.lockTime
  inputs : t.inputs.Perm u.inputs
  outputs : t.outputs.Perm u.outputs

/-- The inputs that spend an outpoint keep their order in the canonical form. -/
theorem filter_point_canonicalize (t : Transaction) (p : OutPoint) :
    t.canonicalize.inputs.filter (fun i => i.point = p) = t.inputs.filter fun i => i.point = p := by
  refine filter_mergeSort Input.le_trans (fun a b => isLE_total compare a.point b.point) ?_ t.inputs
  intro a b ha hb
  have hab : a.point = b.point := (of_decide_eq_true ha).trans (of_decide_eq_true hb).symm
  rw [Input.le, hab]
  exact Std.ReflCmp.isLE_rfl

/-- The sequences of the inputs that spend an outpoint, in the order given. -/
def sequencesOf (t : Transaction) (p : OutPoint) : List UInt32 :=
  (t.inputs.filter fun i => i.point = p).map Input.sequence

theorem sequencesOf_canonicalize (t : Transaction) (p : OutPoint) :
    t.canonicalize.sequencesOf p = t.sequencesOf p := by
  rw [sequencesOf, filter_point_canonicalize, sequencesOf]

theorem filter_signed (t : Transaction) (p : OutPoint) :
    (t.inputs.map Input.signed).filter (fun x => x.1 = p) =
      (t.sequencesOf p).map fun sequence => (p, sequence) := by
  rw [sequencesOf, List.filter_map, List.map_map]
  refine List.map_congr_left fun i hi => ?_
  rw [Function.comp_apply, ← of_decide_eq_true (List.mem_filter.1 hi).2]
  rfl

theorem signed_canonicalize_sorted (t : Transaction) :
    (t.canonicalize.inputs.map Input.signed).Pairwise fun x y =>
      (compare x.1 y.1).isLE = true := by
  rw [List.pairwise_map]
  exact t.inputs_canonicalize_sorted

theorem signed_canonicalize_eq_iff {t u : Transaction} :
    t.canonicalize.inputs.map Input.signed = u.canonicalize.inputs.map Input.signed ↔
      ∀ p, t.sequencesOf p = u.sequencesOf p := by
  have hpair : ∀ p : OutPoint, Function.Injective fun sequence : UInt32 => (p, sequence) :=
    fun p a b h => (Prod.mk.inj h).2
  constructor
  · intro h p
    have hp := congrArg (List.filter fun x => x.1 = p) h
    rw [filter_signed, filter_signed, sequencesOf_canonicalize, sequencesOf_canonicalize] at hp
    exact (List.map_injective_iff.2 (hpair p)) hp
  · intro h
    refine eq_of_filter_eq t.signed_canonicalize_sorted u.signed_canonicalize_sorted fun p => ?_
    rw [filter_signed, filter_signed, sequencesOf_canonicalize, sequencesOf_canonicalize, h p]

variable {t u : Transaction}

/-- Outputs that stand level are the same, so their order is forgotten. -/
theorem Reorders.outputs_canonicalize (h : t.Reorders u) :
    t.canonicalize.outputs = u.canonicalize.outputs := by
  have hperm := ((List.mergeSort_perm t.outputs Output.le).trans h.outputs).trans
    (List.mergeSort_perm u.outputs Output.le).symm
  exact hperm.eq_of_pairwise (fun a b _ _ => Output.le_antisymm) t.outputs_canonicalize_sorted
    u.outputs_canonicalize_sorted

/-- Transactions that differ only in the order of inputs and outputs have one canonical layout exactly if,
for each outpoint, the inputs that spend it carry their sequences in one order; they then have one hash. -/
theorem layout_canonicalize_iff (h : t.Reorders u) :
    (t.canonicalize.layout = u.canonicalize.layout ↔ ∀ p, t.sequencesOf p = u.sequencesOf p) ∧
      ((∀ p, t.sequencesOf p = u.sequencesOf p) → t.canonicalize.hash = u.canonicalize.hash) := by
  have hlock : t.canonicalize.lockTime = u.canonicalize.lockTime := h.lockTime
  have hlength : t.canonicalize.inputs.length = u.canonicalize.inputs.length := by
    simp only [canonicalize, List.length_mergeSort, h.inputs.length_eq]
  have hlayout : t.canonicalize.layout = u.canonicalize.layout ↔
      ∀ p, t.sequencesOf p = u.sequencesOf p := by
    rw [← signed_canonicalize_eq_iff, ← flatMap_inputLayout_eq_iff hlength]
    unfold layout
    rw [hlock, hlength, h.outputs_canonicalize]
    simp only [List.append_left_inj, List.append_right_inj]
  refine ⟨hlayout, fun hs => ?_⟩
  rw [hash, hash, hlayout.2 hs]

/-- Takes two outpoints and pays two outputs; in canonical form both lists are turned round. -/
def merger : Transaction where
  inputs := [{ point := ⟨.zero, 1⟩, sequence := 7 }, { point := ⟨.zero, 0⟩, sequence := 8 }]
  outputs := [.payTo 2 ⟨"a"⟩, .payTo 1 ⟨"b"⟩]

/-- Turned round by hand, the transaction has the layout and the hash that it has in canonical form. -/
theorem layout_canonicalize_merger :
    merger.Reorders { merger with
      inputs := merger.inputs.reverse, outputs := merger.outputs.reverse } ∧
    merger.canonicalize.layout = (canonicalize { merger with
      inputs := merger.inputs.reverse, outputs := merger.outputs.reverse }).layout ∧
    merger.canonicalize.hash = (canonicalize { merger with
      inputs := merger.inputs.reverse, outputs := merger.outputs.reverse }).hash := by
  have hr : merger.Reorders { merger with
      inputs := merger.inputs.reverse, outputs := merger.outputs.reverse } :=
    ⟨rfl, (List.reverse_perm _).symm, (List.reverse_perm _).symm⟩
  -- each outpoint is spent by one input, so there is nothing to keep in order
  have hs : ∀ p, merger.sequencesOf p = sequencesOf { merger with
      inputs := merger.inputs.reverse, outputs := merger.outputs.reverse } p := by
    intro p
    simp only [sequencesOf, merger, List.reverse_cons, List.reverse_nil, List.nil_append,
      List.cons_append, List.filter_cons, List.filter_nil]
    by_cases h₁ : (⟨.zero, 1⟩ : OutPoint) = p
    · subst h₁
      decide
    · by_cases h₀ : (⟨.zero, 0⟩ : OutPoint) = p <;> simp [h₁, h₀]
  obtain ⟨hiff, hhash⟩ := layout_canonicalize_iff hr
  exact ⟨hr, hiff.2 hs, hhash hs⟩

/-- Spends one outpoint twice, under different sequences. -/
def doubled : Transaction where
  inputs := [{ point := ⟨.zero, 0⟩, sequence := 0 }, { point := ⟨.zero, 0⟩, sequence := 1 }]
  outputs := [.payTo 1 ⟨"b"⟩]

/-- The order of inputs that spend one outpoint is not forgotten: turned round, they make another layout
and another hash. -/
theorem layout_canonicalize_doubled :
    doubled.Reorders { doubled with inputs := doubled.inputs.reverse } ∧
    doubled.canonicalize.layout ≠
      (canonicalize { doubled with inputs := doubled.inputs.reverse }).layout ∧
    doubled.canonicalize.hash ≠
      (canonicalize { doubled with inputs := doubled.inputs.reverse }).hash := by
  -- both are in canonical form as they are given
  have h : doubled.canonicalize = doubled := by
    unfold canonicalize
    rw [List.mergeSort_of_pairwise (by decide), List.mergeSort_of_pairwise (by decide)]
  have h' : canonicalize { doubled with inputs := doubled.inputs.reverse } =
      { doubled with inputs := doubled.inputs.reverse } := by
    unfold canonicalize
    rw [List.mergeSort_of_pairwise (by decide), List.mergeSort_of_pairwise (by decide)]
  rw [h, h']
  refine ⟨⟨rfl, (List.reverse_perm _).symm, .refl _⟩, by decide, by decide +kernel⟩

/-! ## The canonical form -/

/-- The first transaction is the second put into canonical order, the inputs that spend one outpoint left
in the order they had. -/
structure Arranges (u t : Transaction) : Prop where
  reorders : u.Reorders t
  stable : ∀ p, u.inputs.filter (fun i => i.point = p) = t.inputs.filter fun i => i.point = p
  canonical : u.isCanonical = true

theorem arranges_canonicalize (t : Transaction) : t.canonicalize.Arranges t where
  reorders := ⟨rfl, List.mergeSort_perm _ _, List.mergeSort_perm _ _⟩
  stable := t.filter_point_canonicalize
  canonical := t.isCanonical_canonicalize

/-- There is one way to arrange a transaction: outputs that stand level are the same, and inputs that
stand level have their order from the transaction. -/
theorem Arranges.eq_canonicalize (h : u.Arranges t) : u = t.canonicalize := by
  obtain ⟨hinputs, -⟩ := isCanonical_iff_pairwise.1 h.canonical
  have hi : u.inputs = t.canonicalize.inputs :=
    eq_of_filter_eq hinputs t.inputs_canonicalize_sorted fun p =>
      (h.stable p).trans (t.filter_point_canonicalize p).symm
  have ho : u.outputs = t.canonicalize.outputs := by
    rw [← h.reorders.outputs_canonicalize, canonicalize_of_isCanonical h.canonical]
  calc u = ⟨u.inputs, u.outputs, u.lockTime⟩ := rfl
    _ = t.canonicalize := by rw [hi, ho, h.reorders.lockTime, canonicalize]

/-- The canonical form of a transaction is the transaction arranged, and nothing else is. The transactions
in canonical order are those that are their own canonical form, so arranging twice is arranging once, and a
transaction in canonical order keeps its hash. -/
theorem canonicalize_spec (t : Transaction) :
    t.canonicalize.Arranges t ∧ (∀ u : Transaction, u.Arranges t → u = t.canonicalize) ∧
      (t.isCanonical = true ↔ t.canonicalize = t) ∧
      t.canonicalize.canonicalize = t.canonicalize ∧
      (t.isCanonical = true → t.canonicalize.hash = t.hash) := by
  refine ⟨t.arranges_canonicalize, fun u => Arranges.eq_canonicalize,
    ⟨canonicalize_of_isCanonical, fun h => ?_⟩,
    canonicalize_of_isCanonical t.isCanonical_canonicalize, fun h => ?_⟩
  · rw [← h]
    exact t.isCanonical_canonicalize
  · rw [canonicalize_of_isCanonical h]

end Transaction

end Settlement
