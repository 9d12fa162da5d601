import Settlement.Proofs.Integrity
import Settlement.Proofs.Value

/-!
# Adding up over the live outpoints

A live outpoint resolves to a value and an owner. Whatever number is read off these two can be added up over
all live outpoints, and what becomes of such a sum is the same for all of them: a birth adds what is read
off the new output, a spend takes away what was read off the outpoint it consumes and adds what is read off
its outputs, and all other messages leave the sum alone. Outpoints that are not touched read the same
afterwards, as the records that they resolve through stay.

Results:
* `Intact.total_birth`, `Intact.total_spend`: any sum over records after a birth and after a spend.
* `outputValue?_eq_some_iff`: what a transaction pays out is the exact sum of its outputs.
* `Effect.tally_birth`, `Effect.tally_spend`, `Effect.tally_frame`: a sum over the live outpoints before and
  after an accepted message.
-/
namespace Settlement

open Unspent (AccountOutput)

variable {s s' : Store} {ts : List Transaction} {f : Amount → Address → Nat}

/-! ## Any sum over the records -/

theorem Intact.created_of_live (h : Intact ts s) {p : OutPoint} (hp : s.Holds (.point p)) :
    Created s p := ((h.live_iff p).1 hp).1

theorem total_addOutPoints (hs : s.Sound) (weight : Record → Nat) {points : List OutPoint}
    (hnodup : points.Nodup) (hnew : ∀ p ∈ points, ¬ s.Holds (.point p)) :
    (Unspent.addOutPoints s points).total weight =
      s.total weight + (points.map fun p => weight (.point p)).sum := by
  induction points generalizing s with
  | nil => simp [Unspent.addOutPoints]
  | cons p points ih =>
    obtain ⟨hp, hnodup⟩ := List.nodup_cons.1 hnodup
    change (Unspent.addOutPoints (s.write (.point p)) points).total weight = _
    rw [ih (hs.write _) hnodup, Store.total_write_new weight
      (hs.get?_point (hnew p (by simp))), List.map_cons, List.sum_cons]
    · omega
    · intro q hq
      rw [Store.holds_write_point]
      rintro (he | he)
      · cases he
        exact hp hq
      · exact hnew q (by simp [hq]) he

theorem Intact.total_birth (h : Intact ts s) (hb : Bounded ts) {output : AccountOutput}
    (hf : s.get? (Key.account output.id).bytes = none) (weight : Record → Nat) :
    ((s.write (.account output)).write (.point (.ofBirth output.id))).total weight =
      s.total weight + weight (.account output) + weight (.point (.ofBirth output.id)) := by
  have hnew : ¬ (s.write (.account output)).Holds (.point (.ofBirth output.id)) := by
    rw [Store.holds_write_of_kind (by simp [Record.key, Key.kind])]
    intro hp
    exact h.not_created_of_birth hb hf (h.created_of_live hp)
  rw [Store.total_write_new weight (r := .point _) ((h.sound.write _).get?_point hnew),
    Store.total_write_new weight (r := .account output) hf]

theorem Intact.total_spend (h : Intact ts s) {t : Transaction}
    (hb : t.outputs.length ≤ Nat.pow 2 31) (hf : ∀ u, s.Holds (.transaction u) → u.hash ≠ t.hash)
    {spent : OutPoint} (live : s.Holds (.point spent)) (weight : Record → Nat) :
    (Unspent.applyTransaction s t spent).total weight + weight (.point spent) =
      s.total weight + weight (.transaction t) +
        ((Unspent.createdPoints t.hash t.outputs.length).map fun p => weight (.point p)).sum := by
  have hheld : (s.write (.transaction t)).Holds (.point spent) := live.write (by simp [Record.key])
  have hremove := Store.total_remove weight hheld
  rw [Store.total_write_new weight (r := .transaction t)
    (h.sound.get?_transaction hf)] at hremove
  have hnew : ∀ p ∈ Unspent.createdPoints t.hash t.outputs.length,
      ¬ ((s.write (.transaction t)).remove (.point spent)).Holds (.point p) := by
    intro p hp hh
    have hh := (Store.holds_remove.1 hh).2
    rw [Store.holds_write_of_kind (by simp [Record.key, Key.kind])] at hh
    exact not_created_of_fresh hb hf hp (h.created_of_live hh)
  have hadd := total_addOutPoints ((h.sound.write (.transaction t)).remove (.point spent)) weight
    (Unspent.nodup_createdPoints t.hash hb) hnew
  rw [Unspent.applyTransaction_eq, hadd]
  simp only [Record.key] at hremove
  omega

/-! ## What a transaction pays out -/

/-- Amounts add up to an amount exactly if their sum is one. -/
theorem foldlM_add?_eq_some_iff {outputs : List Output} {start total : Amount} :
    outputs.foldlM (fun sum output => Amount.add? sum output.value) start = some total ↔
      start.toNat + (outputs.map fun o => o.value.toNat).sum = total.toNat := by
  induction outputs generalizing start with
  | nil => simp [UInt64.toNat_inj]
  | cons output rest ih =>
    rw [List.foldlM_cons, List.map_cons, List.sum_cons, ← Nat.add_assoc]
    cases hs : Amount.add? start output.value with
    | none =>
      have htotal := total.toNat_lt_size
      rw [Amount.add?_eq_none_iff] at hs
      refine ⟨fun h => by simp at h, fun h => ?_⟩
      omega
    | some next =>
      rw [Amount.add?_eq_some_iff] at hs
      rw [hs]
      exact ih

/-- A transaction pays out what its outputs come to, if that is an amount. -/
theorem outputValue?_eq_some_iff {t : Transaction} {value : Amount} :
    t.outputValue? = some value ↔ (t.outputs.map fun o => o.value.toNat).sum = value.toNat := by
  rw [Transaction.outputValue?, foldlM_add?_eq_some_iff, UInt64.toNat_zero, Nat.zero_add]

/-! ## What is read off an outpoint -/

/-- A number read off the value and the owner that an outpoint resolves to, zero if it does not. -/
def Unspent.gauge (f : Amount → Address → Nat) (s : Store) (p : OutPoint) : Nat :=
  match resolve s p with
  | .ok (value, owner) => f value owner
  | .error _ => 0

/-- The same number read off an output, by what its condition says. -/
def Output.gauge (f : Amount → Address → Nat) (o : Output) : Nat :=
  match SpendCondition.decode o.condition with
  | .ok condition => f o.value condition.spender
  | .error _ => 0

theorem Unspent.gauge_of_resolve {p : OutPoint} {value : Amount} {owner : Address}
    (h : resolve s p = .ok (value, owner)) : gauge f s p = f value owner := by
  rw [gauge, h]

theorem Output.gauge_of_decode {o : Output} {condition : SpendCondition}
    (h : SpendCondition.decode o.condition = .ok condition) :
    o.gauge f = f o.value condition.spender := by
  rw [gauge, h]

/-- The value itself, whoever the owner is. -/
def Unspent.face (value : Amount) (_ : Address) : Nat := value.toNat

theorem Unspent.worth_eq_gauge (s : Store) (p : OutPoint) : worth s p = gauge face s p := rfl

/-- The outputs of a settled transaction are worth what it pays out. -/
theorem Settled.sum_gauge {t : Transaction} (h : Settled t) :
    (t.outputs.map (Output.gauge Unspent.face)).sum =
      (t.outputs.map fun o => o.value.toNat).sum := by
  congr 1
  refine List.map_congr_left fun o ho => ?_
  obtain ⟨condition, hc⟩ := h.conditions o ho
  exact Output.gauge_of_decode hc

theorem Intact.gauge_extends (h : Intact ts s) (hb : Bounded ts) (he : Extends s' s) {p : OutPoint}
    (hp : Created s p) : Unspent.gauge f s' p = Unspent.gauge f s p := by
  rw [Unspent.gauge, Unspent.gauge, h.resolve_extends hb he hp]

theorem map_gauge_created {t : Transaction} (hset : Settled t)
    (hb : t.outputs.length ≤ Nat.pow 2 31) (ht : s.Holds (.transaction t)) :
    (Unspent.createdPoints t.hash t.outputs.length).map (Unspent.gauge f s) =
      t.outputs.map (Output.gauge f) := by
  apply List.ext_getElem
  · simp [Unspent.createdPoints]
  · intro i hi hi'
    rw [List.length_map] at hi'
    obtain ⟨condition, hc⟩ := hset.conditions _ (List.getElem_mem hi')
    simp only [Unspent.createdPoints, List.map_map, List.getElem_map, List.getElem_range,
      Function.comp_apply]
    rw [Unspent.gauge_of_resolve (resolve_output ht hi' hb hc), Output.gauge_of_decode hc]

/-! ## Sums over the live outpoints -/

/-- What is read off a record: of live outpoints the number that is read off them, of others nothing. -/
def Record.gauge (f : Amount → Address → Nat) (s : Store) : Record → Nat
  | .point p => Unspent.gauge f s p
  | _ => 0

/-- The sum of what is read off the live outpoints. -/
def Unspent.tally (f : Amount → Address → Nat) (s : Store) : Nat := s.total (Record.gauge f s)

/-- The live outpoints, in the order of their keys. -/
def Unspent.livePoints (s : Store) : List OutPoint := s.records.filterMap Store.pointShelf.pick

theorem Unspent.mem_livePoints {p : OutPoint} : p ∈ livePoints s ↔ s.Holds (.point p) :=
  Store.mem_pick Store.pointShelf

theorem Unspent.tally_eq_sum (f : Amount → Address → Nat) (s : Store) :
    tally f s = ((livePoints s).map (gauge f s)).sum := by
  refine s.total_eq_sum_pick Store.pointShelf fun r hr => ?_
  cases r with
  | point p => simp [Store.pointShelf] at hr
  | _ => rfl

theorem Intact.total_gauge_extends (h : Intact ts s) (hb : Bounded ts) (he : Extends s' s) {t : Store}
    (ht : ∀ p, t.Holds (.point p) → Created s p) :
    t.total (Record.gauge f s') = t.total (Record.gauge f s) := by
  apply Store.total_congr
  intro r hr
  cases r with
  | point p => exact h.gauge_extends hb he (ht p hr)
  | _ => rfl

section Messages

variable {rules : Rules} {block : Block} {c c' : Custody}

/-- A birth adds what is read off its value and its owner. -/
theorem Effect.tally_birth {m : Unspent.Birth} (he : Effect rules block c (.birth m) c')
    (h : Intact ts c.store) (hd : Distinct ts) (hb : Bounded ts) :
    Unspent.tally f c'.store = Unspent.tally f c.store + f m.amount.amount m.owner := by
  have hext := he.extends h hd
  have hold := h.total_gauge_extends (f := f) hb hext fun p hp => h.created_of_live hp
  cases he with
  | @birth _ output bank valid denom born fresh paid =>
    have hheld : ((c.store.write (.account output)).write (.point (.ofBirth output.id))).Holds
        (.account output) := (account_birth fresh).2 (.inl rfl)
    have hnew := Unspent.gauge_of_resolve (f := f) (resolve_account hheld)
    unfold Unspent.tally
    rw [← hold, h.total_birth hb fresh]
    simp only [Record.gauge, hnew]
    subst born
    rfl

/-- A spend takes away what was read off the outpoint that it consumes, and adds what is read off its
outputs. -/
theorem Effect.tally_spend {m : Unspent.Spend} (he : Effect rules block c (.spend m) c')
    (h : Intact ts c.store) (hd : Distinct (m.tx :: ts)) (hb : Bounded (m.tx :: ts)) {input : Input}
    (hi : m.tx.inputs = [input]) {value : Amount} {owner : Address}
    (hr : Unspent.resolve c.store input.point = .ok (value, owner)) :
    Unspent.tally f c'.store + f value owner =
      Unspent.tally f c.store + (m.tx.outputs.map (Output.gauge f)).sum := by
  have hbs : Bounded ts := hb.mono fun u hu => List.mem_cons_of_mem m.tx hu
  have hext := he.extends h hd
  have hold := h.total_gauge_extends (f := f) hbs hext fun p hp => h.created_of_live hp
  cases he with
  | @spend _ input' _ valid only canonical live owned even authorized =>
    obtain rfl : input' = input := by simpa [only] using hi
    have hf := fun u hu => h.fresh hd only live (u := u) hu
    have hbt := hb m.tx List.mem_cons_self
    have hheld := Unspent.holds_transaction_applied c.store m.tx input'.point
    have hsum := h.total_spend hbt hf live (Record.gauge f
      (Unspent.applyTransaction c.store m.tx input'.point))
    have hspent := h.gauge_extends (f := f) hbs hext (h.created_of_live live)
    rw [Unspent.gauge_of_resolve hr] at hspent
    unfold Unspent.tally
    rw [← hold]
    simp only [Record.gauge, hspent] at hsum
    rw [hsum, map_gauge_created (settled_of_valid valid only canonical) hbt hheld, Nat.add_zero]

/-- Messages to contracts and escrows leave every sum alone to which these add nothing. -/
theorem Effect.total_frame {m : Message} (he : Effect rules block c m c') (hbirth : m.route ≠ .birth)
    (hspend : m.route ≠ .spend) {weight : Record → Nat}
    (hcontract : ∀ contract, weight (.contract contract) = 0)
    (hescrow : ∀ contract, weight (.escrow contract) = 0) :
    c'.store.total weight = c.store.total weight := by
  refine Store.total_eq_of_holds fun r hr => ?_
  cases r with
  | contract contract => exact absurd (hcontract contract) hr
  | escrow contract => exact absurd (hescrow contract) hr
  | _ => exact he.frame hbirth hspend (by simp [Record.key, Key.kind]) (by simp [Record.key, Key.kind])

theorem Effect.tally_frame {m : Message} (he : Effect rules block c m c') (h : Intact ts c.store)
    (hd : Distinct (m.transactions ++ ts)) (hb : Bounded ts) (hbirth : m.route ≠ .birth)
    (hspend : m.route ≠ .spend) : Unspent.tally f c'.store = Unspent.tally f c.store := by
  have hlive : ∀ p, c'.store.Holds (.point p) → c.store.Holds (.point p) := fun p =>
    (he.frame hbirth hspend (by simp [Record.key, Key.kind]) (by simp [Record.key, Key.kind])).1
  have hold := h.total_gauge_extends (f := f) hb (he.extends h hd) (t := c'.store) fun p hp =>
    h.created_of_live (hlive p hp)
  unfold Unspent.tally
  rw [hold]
  exact he.total_frame hbirth hspend (fun _ => rfl) fun _ => rfl

end Messages

end Settlement
