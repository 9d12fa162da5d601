import Settlement.Proofs.History

/-!
# The integrity of the unspent outputs

Every accepted message is one of three kinds of change: a birth creates an outpoint, a spend consumes one
and creates others, and everything else leaves outpoints and history alone. Each keeps the invariant of
the history for the same reason (`Intact.step`): what is created was not created before, and what is
consumed was live.

Results:
* `Effect.intact`: an accepted message keeps the store intact.
* `Effect.extends`: an accepted message adds to history and takes nothing from it.
-/
namespace Settlement

open Unspent (AccountOutput)

variable {s s' : Store} {ts : List Transaction}

/-! ## Records after a birth and after a spend -/

theorem account_birth {output o : AccountOutput} (hf : s.get? (Key.account output.id).bytes = none) :
    ((s.write (.account output)).write (.point (.ofBirth output.id))).Holds (.account o) ↔
      o = output ∨ s.Holds (.account o) := by
  rw [Store.holds_write_point, Store.holds_write]
  constructor
  · intro h
    rcases h with h | h | ⟨-, h⟩
    · cases h
    · exact .inl (Record.account.inj h)
    · exact .inr h
  · intro h
    rcases h with rfl | h
    · exact .inr (.inl rfl)
    · exact .inr (.inr ⟨fun hk => Store.not_holds_of_none hf hk h, h⟩)

theorem transaction_birth {output : AccountOutput} {t : Transaction} :
    ((s.write (.account output)).write (.point (.ofBirth output.id))).Holds (.transaction t) ↔
      s.Holds (.transaction t) := by
  rw [Store.holds_write_of_kind (by simp [Record.key, Key.kind]),
    Store.holds_write_of_kind (by simp [Record.key, Key.kind])]

theorem point_birth {output : AccountOutput} {p : OutPoint} :
    ((s.write (.account output)).write (.point (.ofBirth output.id))).Holds (.point p) ↔
      p = .ofBirth output.id ∨ s.Holds (.point p) := by
  rw [Store.holds_write_point, Store.holds_write_of_kind (by simp [Record.key, Key.kind]),
    Record.point.injEq]

namespace Unspent

theorem holds_addOutPoints {points : List OutPoint} {q : Record} :
    (addOutPoints s points).Holds q ↔ (∃ p ∈ points, q = .point p) ∨ s.Holds q := by
  induction points generalizing s with
  | nil => simp [addOutPoints]
  | cons p points ih =>
    change (addOutPoints (s.write (.point p)) points).Holds q ↔ _
    rw [ih, Store.holds_write_point]
    simp only [List.mem_cons, exists_eq_or_imp]
    rw [or_left_comm, or_assoc]

theorem sound_addOutPoints (hs : s.Sound) (points : List OutPoint) :
    (addOutPoints s points).Sound := by
  induction points generalizing s with
  | nil => exact hs
  | cons p points ih => exact ih (hs.write (.point p))

theorem applyTransaction_eq (s : Store) (t : Transaction) (spent : OutPoint) :
    applyTransaction s t spent =
      addOutPoints ((s.write (.transaction t)).remove (.point spent))
        (createdPoints t.hash t.outputs.length) := rfl

theorem sound_applyTransaction (hs : s.Sound) (t : Transaction) (spent : OutPoint) :
    (applyTransaction s t spent).Sound := by
  rw [applyTransaction_eq]
  exact sound_addOutPoints ((hs.write (.transaction t)).remove (.point spent)) _

/-- A transaction is on record after it, since the outpoints written later have keys of another kind. -/
theorem holds_transaction_applied (s : Store) (t : Transaction) (spent : OutPoint) :
    (applyTransaction s t spent).Holds (.transaction t) := by
  rw [applyTransaction_eq, holds_addOutPoints]
  exact .inr (Store.holds_write_self.remove (by simp [Record.key]))

theorem key_ne_point {p : OutPoint} {q : Record} : q.key ≠ .point p ↔ q ≠ .point p := by
  refine not_congr ⟨fun hk => ?_, fun hq => by rw [hq]; rfl⟩
  exact Record.eq_point_of_key hk

theorem holds_applyTransaction {t : Transaction} {spent : OutPoint} {q : Record}
    (hf : ∀ u, s.Holds (.transaction u) → u.hash ≠ t.hash) :
    (applyTransaction s t spent).Holds q ↔
      (∃ p ∈ createdPoints t.hash t.outputs.length, q = .point p) ∨
        q ≠ .point spent ∧ (q = .transaction t ∨ s.Holds q) := by
  rw [applyTransaction_eq, holds_addOutPoints, Store.holds_remove, Store.holds_write]
  have hnew : (q = .transaction t ∨ q.key ≠ (Record.transaction t).key ∧ s.Holds q) ↔
      q = .transaction t ∨ s.Holds q := by
    refine or_congr_right ⟨fun h => h.2, fun h => ⟨fun hk => ?_, h⟩⟩
    obtain ⟨u, rfl⟩ := Record.eq_transaction_of_key hk
    exact hf u h (Key.transaction.inj hk)
  rw [key_ne_point, hnew]

theorem holds_applyTransaction_of_kind {t : Transaction} {spent : OutPoint} {q : Record}
    (hk : q.key.kind ≠ .transaction) :
    (applyTransaction s t spent).Holds q ↔
      (∃ p ∈ createdPoints t.hash t.outputs.length, q = .point p) ∨
        q ≠ .point spent ∧ s.Holds q := by
  rw [applyTransaction_eq, holds_addOutPoints, Store.holds_remove, Store.holds_write_of_kind hk,
    key_ne_point]

section

variable {t : Transaction} {spent : OutPoint}
  (hf : ∀ u, s.Holds (.transaction u) → u.hash ≠ t.hash)

include hf

theorem account_applyTransaction {output : AccountOutput} :
    (applyTransaction s t spent).Holds (.account output) ↔ s.Holds (.account output) := by
  rw [holds_applyTransaction hf]
  simp

theorem transaction_applyTransaction {u : Transaction} :
    (applyTransaction s t spent).Holds (.transaction u) ↔ u = t ∨ s.Holds (.transaction u) := by
  rw [holds_applyTransaction hf]
  simp

theorem point_applyTransaction {p : OutPoint} :
    (applyTransaction s t spent).Holds (.point p) ↔
      p ∈ createdPoints t.hash t.outputs.length ∨ p ≠ spent ∧ s.Holds (.point p) := by
  rw [holds_applyTransaction hf]
  simp

end

end Unspent

/-! ## Accepted transactions are settled -/

theorem Unspent.checkConditions_ok_iff {index : Nat} {outputs : List Output} :
    checkConditions index outputs = .ok () ↔
      ∀ o ∈ outputs, ∃ condition, SpendCondition.decode o.condition = .ok condition := by
  induction outputs generalizing index with
  | nil => simp [checkConditions]
  | cons output rest ih =>
    rw [checkConditions, List.forall_mem_cons]
    cases hc : SpendCondition.decode output.condition with
    | ok condition => simp [ih]
    | error cause => simp

theorem Unspent.Spend.validate_ok_iff {m : Unspent.Spend} :
    m.validate = .ok () ↔ m.tx.inputs ≠ [] ∧ m.tx.outputs ≠ [] ∧ ¬ m.signer.isEmpty ∧
      ∀ o ∈ m.tx.outputs, ∃ condition, SpendCondition.decode o.condition = .ok condition := by
  simp only [validate, require_bind_ok_iff, checkConditions_ok_iff]

theorem settled_of_valid {m : Unspent.Spend} (hv : m.validate = .ok ()) {input : Input}
    (ho : m.tx.inputs = [input]) (hc : m.tx.isCanonical = true) : Settled m.tx := by
  obtain ⟨-, hout, -, hcond⟩ := Unspent.Spend.validate_ok_iff.1 hv
  exact ⟨⟨input, ho⟩, hc, hout, hcond⟩

/-! ## Births, spends, and everything else -/

/-- A step that creates outpoints which were not created before, and consumes outpoints that are live. -/
theorem Intact.step (h : Intact ts s) (hs : s'.Sound) (created consumed : OutPoint → Prop)
    (known : ∀ t, s'.Holds (.transaction t) → t ∈ ts)
    (settled : ∀ t, s'.Holds (.transaction t) → Settled t)
    (hcreated : ∀ p, Created s' p ↔ Created s p ∨ created p)
    (hconsumed : ∀ p, Consumed s' p ↔ Consumed s p ∨ consumed p)
    (hlive : ∀ p, s'.Holds (.point p) ↔ created p ∨ ¬ consumed p ∧ s.Holds (.point p))
    (new : ∀ p, created p → ¬ Created s p) (live : ∀ p, consumed p → s.Holds (.point p)) :
    Intact ts s' where
  sound := hs
  known := known
  settled := settled
  live_iff p := by
    rw [hlive, hcreated, hconsumed, h.live_iff]
    constructor
    · rintro (hp | ⟨hn, hc, hx⟩)
      -- what is created now was never live, so it is not what is consumed now
      · refine ⟨.inr hp, ?_⟩
        rintro (hx | hx)
        · exact new p hp (h.created_of_consumed p hx)
        · exact new p hp ((h.live_iff p).1 (live p hx)).1
      · refine ⟨.inl hc, ?_⟩
        rintro (hx' | hx')
        · exact hx hx'
        · exact hn hx'
    · rintro ⟨hc | hp, hx⟩
      · exact .inr ⟨fun hx' => hx (.inr hx'), hc, fun hx' => hx (.inl hx')⟩
      · exact .inl hp
  created_of_consumed p := by
    rw [hcreated, hconsumed]
    rintro (hx | hx)
    · exact .inl (h.created_of_consumed p hx)
    · exact .inl ((h.live_iff p).1 (live p hx)).1

theorem created_iff {p : OutPoint} :
    Created s p ↔ (∃ output, s.Holds (.account output) ∧ p = .ofBirth output.id) ∨
      ∃ t, s.Holds (.transaction t) ∧ p ∈ Unspent.createdPoints t.hash t.outputs.length := by
  constructor
  · intro h
    cases h with
    | birth held => exact .inl ⟨_, held, rfl⟩
    | output held hi => exact .inr ⟨_, held, Unspent.mem_createdPoints.2 ⟨_, hi, rfl⟩⟩
  · rintro (⟨output, held, rfl⟩ | ⟨t, held, hp⟩)
    · exact .birth held
    · obtain ⟨i, hi, rfl⟩ := Unspent.mem_createdPoints.1 hp
      exact .output held hi

theorem created_birth {output : AccountOutput} {p : OutPoint}
    (hf : s.get? (Key.account output.id).bytes = none) :
    Created ((s.write (.account output)).write (.point (.ofBirth output.id))) p ↔
      Created s p ∨ p = .ofBirth output.id := by
  simp only [created_iff, account_birth hf, transaction_birth]
  constructor
  · intro h
    rcases h with ⟨o, rfl | ho, hp⟩ | hp
    · exact .inr hp
    · exact .inl (.inl ⟨o, ho, hp⟩)
    · exact .inl (.inr hp)
  · intro h
    rcases h with (⟨o, ho, hp⟩ | hp) | hp
    · exact .inl ⟨o, .inr ho, hp⟩
    · exact .inr hp
    · exact .inl ⟨output, .inl rfl, hp⟩

theorem Intact.birth (h : Intact ts s) (hb : Bounded ts) {output : AccountOutput}
    (hf : s.get? (Key.account output.id).bytes = none) :
    Intact ts ((s.write (.account output)).write (.point (.ofBirth output.id))) := by
  refine h.step ((h.sound.write _).write _) (fun p => p = .ofBirth output.id) (fun _ => False)
    (fun t ht => h.known t (transaction_birth.1 ht))
    (fun t ht => h.settled t (transaction_birth.1 ht)) (fun p => created_birth hf) ?_ ?_ ?_
    fun _ hp => hp.elim
  · intro p
    simp only [Consumed, transaction_birth, or_false]
  · intro p
    simp only [point_birth, not_false_eq_true, true_and]
  · intro p hp
    rw [hp]
    exact h.not_created_of_birth hb hf

section

variable {t : Transaction} (hf : ∀ u, s.Holds (.transaction u) → u.hash ≠ t.hash)

include hf

theorem created_applyTransaction {spent p : OutPoint} :
    Created (Unspent.applyTransaction s t spent) p ↔
      Created s p ∨ p ∈ Unspent.createdPoints t.hash t.outputs.length := by
  simp only [created_iff, Unspent.account_applyTransaction hf,
    Unspent.transaction_applyTransaction hf]
  constructor
  · intro h
    rcases h with hp | ⟨u, rfl | hu, hp⟩
    · exact .inl (.inl hp)
    · exact .inr hp
    · exact .inl (.inr ⟨u, hu, hp⟩)
  · intro h
    rcases h with (hp | ⟨u, hu, hp⟩) | hp
    · exact .inl hp
    · exact .inr ⟨u, .inr hu, hp⟩
    · exact .inr ⟨t, .inl rfl, hp⟩

theorem consumed_applyTransaction {input : Input} (ho : t.inputs = [input]) {p : OutPoint} :
    Consumed (Unspent.applyTransaction s t input.point) p ↔ Consumed s p ∨ p = input.point := by
  simp only [Consumed, Unspent.transaction_applyTransaction hf]
  constructor
  · intro h
    obtain ⟨u, rfl | hu, i, hi, hp⟩ := h
    · rw [ho, List.cons.injEq] at hi
      exact .inr (by rw [← hp, hi.1])
    · exact .inl ⟨u, hu, i, hi, hp⟩
  · intro h
    rcases h with ⟨u, hu, hi⟩ | rfl
    · exact ⟨u, .inr hu, hi⟩
    · exact ⟨t, .inl rfl, input, ho, rfl⟩

end

theorem Intact.spend (h : Intact ts s) (hd : Distinct ts) (hb : Bounded ts) {t : Transaction}
    (ht : t ∈ ts) (hset : Settled t) {input : Input} (ho : t.inputs = [input])
    (hl : s.Holds (.point input.point)) :
    Intact ts (Unspent.applyTransaction s t input.point) := by
  have hd' : Distinct (t :: ts) := hd.mono (List.cons_subset.2 ⟨ht, List.Subset.refl ts⟩)
  have hf : ∀ u, s.Holds (.transaction u) → u.hash ≠ t.hash := fun u hu => h.fresh hd' ho hl hu
  refine h.step (Unspent.sound_applyTransaction h.sound t input.point)
    (fun p => p ∈ Unspent.createdPoints t.hash t.outputs.length) (fun p => p = input.point)
    ?_ ?_ (fun p => created_applyTransaction hf) (fun p => consumed_applyTransaction hf ho)
    (fun p => Unspent.point_applyTransaction hf)
    (fun p hp => not_created_of_fresh (hb t ht) hf hp) ?_
  · intro u hu
    rcases (Unspent.transaction_applyTransaction hf).1 hu with rfl | hu
    · exact ht
    · exact h.known u hu
  · intro u hu
    rcases (Unspent.transaction_applyTransaction hf).1 hu with rfl | hu
    · exact hset
    · exact h.settled u hu
  · intro p hp
    rw [hp]
    exact hl

/-- A change that leaves account outputs, transactions and live outpoints alone. -/
theorem Intact.frame (h : Intact ts s) (hs : s'.Sound)
    (hframe : ∀ r : Record, r.key.kind ≠ .contract → r.key.kind ≠ .escrow →
      (s'.Holds r ↔ s.Holds r)) : Intact ts s' := by
  have hacc : ∀ o, s'.Holds (.account o) ↔ s.Holds (.account o) :=
    fun o => hframe _ (by simp [Record.key, Key.kind]) (by simp [Record.key, Key.kind])
  have htx : ∀ t, s'.Holds (.transaction t) ↔ s.Holds (.transaction t) :=
    fun t => hframe _ (by simp [Record.key, Key.kind]) (by simp [Record.key, Key.kind])
  have hpt : ∀ p, s'.Holds (.point p) ↔ s.Holds (.point p) :=
    fun p => hframe _ (by simp [Record.key, Key.kind]) (by simp [Record.key, Key.kind])
  refine h.step hs (fun _ => False) (fun _ => False)
    (fun t ht => h.known t ((htx t).1 ht)) (fun t ht => h.settled t ((htx t).1 ht)) ?_ ?_ ?_
    (fun _ hp => hp.elim) fun _ hp => hp.elim
  · intro p
    simp only [created_iff, hacc, htx, or_false]
  · intro p
    simp only [Consumed, htx, or_false]
  · intro p
    simp only [hpt, false_or, not_false_eq_true, true_and]

/-! ## Accepted messages -/

/-- The transaction that a message delivers, if any. -/
def Message.transactions : Message → List Transaction
  | .spend m => [m.tx]
  | _ => []

variable {rules : Rules} {block : Block} {c c' : Custody} {m : Message}

/-- Messages to contracts and escrows write nothing that outpoints depend on. -/
theorem Effect.frame (he : Effect rules block c m c') (hb : m.route ≠ .birth)
    (hs : m.route ≠ .spend) {r : Record} (hc : r.key.kind ≠ .contract)
    (hr : r.key.kind ≠ .escrow) : c'.store.Holds r ↔ c.store.Holds r := by
  cases he with
  | birth => exact absurd rfl hb
  | spend => exact absurd rfl hs
  | addContract => exact Store.holds_write_of_kind hc
  | redeemContract => exact Store.holds_write_of_kind hc
  | failContract => exact Store.holds_write_of_kind hc
  | initEscrow => exact Store.holds_write_of_kind hr
  | abortEscrow => exact Store.holds_remove_of_kind hr
  | joinEscrow => exact Store.holds_write_of_kind hr
  | spendEscrow => exact Store.holds_write_of_kind hr

theorem Effect.sound (he : Effect rules block c m c') (hs : c.store.Sound) : c'.store.Sound := by
  cases he with
  | birth => exact (hs.write _).write _
  | spend => exact Unspent.sound_applyTransaction hs _ _
  | addContract => exact hs.write _
  | redeemContract => exact hs.write _
  | failContract => exact hs.write _
  | initEscrow => exact hs.write _
  | abortEscrow => exact hs.remove _
  | joinEscrow => exact hs.write _
  | spendEscrow => exact hs.write _

theorem Effect.extends (he : Effect rules block c m c') (h : Intact ts c.store)
    (hd : Distinct (m.transactions ++ ts)) : Extends c'.store c.store := by
  have hframe := fun (hb : m.route ≠ .birth) (hs : m.route ≠ .spend) =>
    (⟨fun o ho => (he.frame hb hs (by simp [Record.key, Key.kind])
        (by simp [Record.key, Key.kind])).2 ho,
      fun t ht => (he.frame hb hs (by simp [Record.key, Key.kind])
        (by simp [Record.key, Key.kind])).2 ht⟩ : Extends c'.store c.store)
  cases he with
  | birth valid denom born fresh paid =>
    exact ⟨fun o ho => (account_birth fresh).2 (.inr ho), fun t ht => transaction_birth.2 ht⟩
  | spend valid only canonical live owned even authorized =>
    have hf := fun u hu => h.fresh hd only live (u := u) hu
    exact ⟨fun o ho => (Unspent.account_applyTransaction hf).2 ho,
      fun t ht => (Unspent.transaction_applyTransaction hf).2 (.inr ht)⟩
  | _ => exact hframe (by simp [Message.route]) (by simp [Message.route])

theorem Effect.intact (he : Effect rules block c m c') (h : Intact ts c.store) (hd : Distinct ts)
    (hb : Bounded ts) (hm : ∀ t ∈ m.transactions, t ∈ ts) : Intact ts c'.store := by
  have hs := he.sound h.sound
  have hframe := fun (hb : m.route ≠ .birth) (hm : m.route ≠ .spend) =>
    h.frame hs fun r hc hr => he.frame hb hm hc hr
  cases he with
  | birth valid denom born fresh paid => exact h.birth hb fresh
  | spend valid only canonical live owned even authorized =>
    exact h.spend hd hb (hm _ (by simp [Message.transactions]))
      (settled_of_valid valid only canonical) only live
  | _ => exact hframe (by simp [Message.route]) (by simp [Message.route])

end Settlement
