import Settlement.Proofs.Effect

/-!
# The history of the unspent outputs

Account outputs and transactions are history: each creates outpoints, and each transaction consumes one.
The table of live outpoints is kept apart from both, so that it agrees with them is an invariant
(`Intact`): live is exactly what was created and not consumed. Nothing in a spend looks for an earlier
transaction of the same hash, and what keeps it from writing over one is the invariant itself. If
transactions of one hash are the same but for their witnesses (`Distinct`), an earlier one has consumed
the same outpoint, which then is not live (`Intact.fresh`).

Results:
* `Intact.resolve`: every outpoint ever created resolves.
* `Intact.resolve_extends`: and to the same value and owner as history grows.
* `Intact.fresh`: a transaction that spends a live outpoint has a hash of its own.
-/
namespace Settlement

open Unspent (AccountOutput)

/-! ## Transactions that share a hash -/

/-- The transaction without its witnesses: what is signed. -/
def Transaction.unsigned (t : Transaction) : Transaction :=
  { t with inputs := t.inputs.map fun i => { i with witness := [] } }

/-- Transactions that differ in more than their witnesses have different hashes. -/
def Distinct (ts : List Transaction) : Prop :=
  ∀ t ∈ ts, ∀ u ∈ ts, t.hash = u.hash → t.unsigned = u.unsigned

/-- No transaction has more outputs than there are indices. -/
def Bounded (ts : List Transaction) : Prop :=
  ∀ t ∈ ts, t.outputs.length ≤ Nat.pow 2 31

instance {ts : List Transaction} : Decidable (Distinct ts) :=
  inferInstanceAs (Decidable (∀ t ∈ ts, ∀ u ∈ ts, t.hash = u.hash → t.unsigned = u.unsigned))

instance {ts : List Transaction} : Decidable (Bounded ts) :=
  inferInstanceAs (Decidable (∀ t ∈ ts, t.outputs.length ≤ Nat.pow 2 31))

theorem Distinct.mono {ts us : List Transaction} (h : Distinct ts) (hs : ∀ t ∈ us, t ∈ ts) :
    Distinct us :=
  fun t ht u hu => h t (hs t ht) u (hs u hu)

/-- A transaction of a new hash keeps transactions distinct. -/
theorem Distinct.cons {ts : List Transaction} (h : Distinct ts) {t : Transaction}
    (hf : ∀ u ∈ ts, u.hash ≠ t.hash) : Distinct (t :: ts) := by
  intro u hu v hv he
  rcases List.mem_cons.1 hu with hut | hu'
  · rcases List.mem_cons.1 hv with hvt | hv'
    · rw [hut, hvt]
    · rw [hut] at he
      exact absurd he.symm (hf v hv')
  · rcases List.mem_cons.1 hv with hvt | hv'
    · rw [hvt] at he
      exact absurd he (hf u hu')
    · exact h u hu' v hv' he

theorem Bounded.mono {ts us : List Transaction} (h : Bounded ts) (hs : ∀ t ∈ us, t ∈ ts) :
    Bounded us :=
  fun t ht => h t (hs t ht)

theorem point_eq_of_unsigned {t u : Transaction} (h : t.unsigned = u.unsigned) {i j : Input}
    (hi : t.inputs = [i]) (hj : u.inputs = [j]) : i.point = j.point := by
  have hm := congrArg Transaction.inputs h
  simp only [Transaction.unsigned, hi, hj, List.map_cons, List.map_nil, List.cons.injEq,
    Input.mk.injEq] at hm
  exact hm.1.1

/-! ## Indices -/

theorem toInt_ofNat {i : Nat} (h : i < Nat.pow 2 31) : (Int32.ofNat i).toInt = i := by
  rw [Int32.toInt_ofNat_of_lt h]

theorem ofNat_injective {i j : Nat} (hi : i < Nat.pow 2 31) (hj : j < Nat.pow 2 31)
    (h : Int32.ofNat i = Int32.ofNat j) : i = j := by
  have := toInt_ofNat hi
  rw [h, toInt_ofNat hj] at this
  omega

theorem ofNat_ne_birthIndex {i : Nat} (h : i < Nat.pow 2 31) :
    Int32.ofNat i ≠ OutPoint.birthIndex := by
  intro he
  have := toInt_ofNat h
  rw [he] at this
  have hb : OutPoint.birthIndex.toInt = -1 := by decide
  omega

namespace Unspent

theorem mem_createdPoints {hash : Digest} {count : Nat} {p : OutPoint} :
    p ∈ createdPoints hash count ↔ ∃ i, i < count ∧ p = ⟨hash, Int32.ofNat i⟩ := by
  simp only [createdPoints, List.mem_map, List.mem_range]
  constructor
  · rintro ⟨i, hi, rfl⟩
    exact ⟨i, hi, rfl⟩
  · rintro ⟨i, hi, rfl⟩
    exact ⟨i, hi, rfl⟩

theorem nodup_createdPoints (hash : Digest) {count : Nat} (h : count ≤ Nat.pow 2 31) :
    (createdPoints hash count).Nodup := by
  rw [createdPoints, List.Nodup, List.pairwise_map]
  refine List.Pairwise.imp_of_mem ?_ List.nodup_range
  intro i j hi hj hne he
  rw [List.mem_range] at hi hj
  exact hne (ofNat_injective (by omega) (by omega) (OutPoint.mk.inj he).2)

end Unspent

/-! ## History -/

variable {s s' : Store} {ts : List Transaction}

/-- An outpoint was created, by a birth or by a transaction. -/
inductive Created (s : Store) : OutPoint → Prop
  | birth {output : AccountOutput} (held : s.Holds (.account output)) :
      Created s (.ofBirth output.id)
  | output {t : Transaction} {i : Nat} (held : s.Holds (.transaction t))
      (hi : i < t.outputs.length) : Created s ⟨t.hash, Int32.ofNat i⟩

/-- An outpoint was consumed by a transaction. -/
def Consumed (s : Store) (p : OutPoint) : Prop :=
  ∃ t, s.Holds (.transaction t) ∧ ∃ input, t.inputs = [input] ∧ input.point = p

/-- One store has all the history of another one. -/
structure Extends (s' s : Store) : Prop where
  account : ∀ output, s.Holds (.account output) → s'.Holds (.account output)
  transaction : ∀ t, s.Holds (.transaction t) → s'.Holds (.transaction t)

theorem Extends.refl (s : Store) : Extends s s := ⟨fun _ h => h, fun _ h => h⟩

theorem Extends.trans {s'' : Store} (h' : Extends s'' s') (h : Extends s' s) : Extends s'' s :=
  ⟨fun o ho => h'.account o (h.account o ho), fun t ht => h'.transaction t (h.transaction t ht)⟩

theorem Created.mono {p : OutPoint} (h : Created s p) (he : Extends s' s) : Created s' p := by
  cases h with
  | birth held => exact .birth (he.account _ held)
  | output held hi => exact .output (he.transaction _ held) hi

theorem Consumed.mono {p : OutPoint} (h : Consumed s p) (he : Extends s' s) : Consumed s' p := by
  obtain ⟨t, ht, hi⟩ := h
  exact ⟨t, he.transaction t ht, hi⟩

/-! ## The invariant -/

/-- What is so of every transaction that was accepted. -/
structure Settled (t : Transaction) : Prop where
  single : ∃ input, t.inputs = [input]
  canonical : t.isCanonical = true
  outputs : t.outputs ≠ []
  conditions : ∀ o ∈ t.outputs, ∃ condition, SpendCondition.decode o.condition = .ok condition

/-- The history is sound, and live is exactly what was created and not consumed. -/
structure Intact (ts : List Transaction) (s : Store) : Prop where
  sound : s.Sound
  known : ∀ t, s.Holds (.transaction t) → t ∈ ts
  settled : ∀ t, s.Holds (.transaction t) → Settled t
  live_iff : ∀ p, s.Holds (.point p) ↔ Created s p ∧ ¬ Consumed s p
  created_of_consumed : ∀ p, Consumed s p → Created s p

theorem intact_empty (ts : List Transaction) : Intact ts .empty where
  sound := Store.sound_empty
  known _ h := absurd h Store.holds_empty
  settled _ h := absurd h Store.holds_empty
  live_iff p := by
    refine ⟨fun h => absurd h Store.holds_empty, ?_⟩
    rintro ⟨hc, -⟩
    cases hc with
    | birth held => exact absurd held Store.holds_empty
    | output held _ => exact absurd held Store.holds_empty
  created_of_consumed p h := by
    obtain ⟨t, ht, -⟩ := h
    exact absurd ht Store.holds_empty

/-! ## What an outpoint resolves to -/

theorem resolve_account {output : AccountOutput} (h : s.Holds (.account output)) :
    Unspent.resolve s (.ofBirth output.id) = .ok (output.value, output.owner) := by
  have hl : Unspent.space.load AccountOutput.codec s (Unspent.accountKey output.id) =
      .ok (some output) := h.load Store.accountShelf rfl
  have hb : (OutPoint.ofBirth output.id).isBirth = true := by
    simp [OutPoint.ofBirth, OutPoint.isBirth]
  rw [Unspent.resolve, if_pos hb]
  simp only [OutPoint.ofBirth, hl, bind, Except.bind]
  rfl

theorem outputAt?_ofNat (t : Transaction) {i : Nat} (h : i < Nat.pow 2 31) :
    Unspent.outputAt? t (Int32.ofNat i) = t.outputs[i]? := by
  rw [Unspent.outputAt?, toInt_ofNat h]

theorem resolve_output {t : Transaction} (h : s.Holds (.transaction t)) {i : Nat}
    (hi : i < t.outputs.length) (hb : t.outputs.length ≤ Nat.pow 2 31) {condition : SpendCondition}
    (hc : SpendCondition.decode t.outputs[i].condition = .ok condition) :
    Unspent.resolve s ⟨t.hash, Int32.ofNat i⟩ = .ok (t.outputs[i].value, condition.spender) := by
  have hl : Unspent.space.load Transaction.codec s (Unspent.transactionKey t.hash) =
      .ok (some t) := h.load Store.transactionShelf rfl
  have hn : (OutPoint.mk t.hash (Int32.ofNat i)).isBirth = false :=
    decide_eq_false (ofNat_ne_birthIndex (by omega))
  simp only [Unspent.resolve, hn, Bool.false_eq_true, if_false, hl, bind, Except.bind,
    outputAt?_ofNat t (show i < Nat.pow 2 31 by omega), List.getElem?_eq_getElem hi, hc]
  rfl

theorem Intact.resolve (h : Intact ts s) (hb : Bounded ts) {p : OutPoint} (hp : Created s p) :
    ∃ value owner, Unspent.resolve s p = .ok (value, owner) := by
  cases hp with
  | birth held => exact ⟨_, _, resolve_account held⟩
  | @output t i held hi =>
    obtain ⟨condition, hc⟩ := (h.settled t held).conditions _ (List.getElem_mem hi)
    exact ⟨_, _, resolve_output held hi (hb t (h.known t held)) hc⟩

theorem Intact.resolve_extends (h : Intact ts s) (hb : Bounded ts) (he : Extends s' s)
    {p : OutPoint} (hp : Created s p) : Unspent.resolve s' p = Unspent.resolve s p := by
  cases hp with
  | birth held => rw [resolve_account held, resolve_account (he.account _ held)]
  | @output t i held hi =>
    obtain ⟨condition, hc⟩ := (h.settled t held).conditions _ (List.getElem_mem hi)
    have hl := hb t (h.known t held)
    rw [resolve_output held hi hl hc, resolve_output (he.transaction t held) hi hl hc]

/-! ## New outpoints -/

/-- A transaction that spends a live outpoint has a hash of its own. -/
theorem Intact.fresh (h : Intact ts s) {t : Transaction} (hd : Distinct (t :: ts)) {input : Input}
    (ho : t.inputs = [input]) (hl : s.Holds (.point input.point)) {u : Transaction}
    (hu : s.Holds (.transaction u)) : u.hash ≠ t.hash := by
  intro he
  obtain ⟨i, hi⟩ := (h.settled u hu).single
  have hs := hd u (by simp [h.known u hu]) t (by simp) he
  have hc : Consumed s input.point := ⟨u, hu, i, hi, point_eq_of_unsigned hs hi ho⟩
  exact ((h.live_iff _).1 hl).2 hc

/-- What a transaction of a new hash creates was not created before. -/
theorem not_created_of_fresh {t : Transaction}
    (hb : t.outputs.length ≤ Nat.pow 2 31) (hf : ∀ u, s.Holds (.transaction u) → u.hash ≠ t.hash)
    {p : OutPoint} (hp : p ∈ Unspent.createdPoints t.hash t.outputs.length) : ¬ Created s p := by
  obtain ⟨i, hi, rfl⟩ := Unspent.mem_createdPoints.1 hp
  generalize hq : OutPoint.mk t.hash (Int32.ofNat i) = q
  intro hc
  cases hc with
  | birth held => exact ofNat_ne_birthIndex (by omega) (OutPoint.mk.inj hq).2
  | output held _ => exact hf _ held (OutPoint.mk.inj hq).1.symm

/-- A birth of a new id creates an outpoint that was not created before. -/
theorem Intact.not_created_of_birth (h : Intact ts s) (hb : Bounded ts) {id : Digest}
    (hf : s.get? (Key.account id).bytes = none) : ¬ Created s (.ofBirth id) := by
  generalize hq : OutPoint.ofBirth id = q
  intro hc
  cases hc with
  | birth held =>
    refine Store.not_holds_of_none hf ?_ held
    rw [Record.key, (OutPoint.mk.inj hq).1]
  | @output t i held hi =>
    have := hb t (h.known t held)
    exact ofNat_ne_birthIndex (by omega) (OutPoint.mk.inj hq).2.symm

end Settlement
