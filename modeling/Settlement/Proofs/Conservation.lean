import Settlement.Proofs.Run
import Settlement.Proofs.Tally

/-!
# Value is neither made nor lost

Every accepted message moves value from one place to another, and takes away in one place exactly what it
adds in the other: births and openings debit the bank, releases and payouts credit it, a spend replaces
one outpoint by outpoints of the same worth. What makes this a matter of runs is that a live outpoint is
worth what an older record says. The records that outpoints resolve through are never written over
(`Effect.extends`), so outpoints that a message does not touch keep their worth.

Results:
* `Effect.conserves`: an accepted message leaves the value of every denomination as it was.
* `Ledger.value_conserved`: in every state of a run, what there is of a denomination is what has been put
  into the bank, and no delivery changes it.
-/
namespace Settlement

open Unspent (AccountOutput)

variable {s s' : Store} {ts : List Transaction} {config : Config} {d : String}

/-! ## Sums over outpoints -/

/-- Outpoints that were created keep their worth as history grows. -/
theorem Intact.worth_extends (h : Intact ts s) (hb : Bounded ts) (he : Extends s' s) {p : OutPoint}
    (hp : Created s p) : Unspent.worth s' p = Unspent.worth s p :=
  h.gauge_extends hb he hp

theorem Intact.total_extends (h : Intact ts s) (hb : Bounded ts) (he : Extends s' s)
    (config : Config) (d : String) {t : Store} (ht : ∀ p, t.Holds (.point p) → Created s p) :
    t.total (Record.value config d s') = t.total (Record.value config d s) := by
  apply Store.total_congr
  intro r hr
  cases r with
  | point p => simp only [Record.value, h.worth_extends hb he (ht p hr)]
  | _ => rfl

theorem sum_worth_created (config : Config) (d : String) {t : Transaction} (hset : Settled t)
    (hb : t.outputs.length ≤ Nat.pow 2 31) (ht : s.Holds (.transaction t)) :
    ((Unspent.createdPoints t.hash t.outputs.length).map fun p =>
        Record.value config d s (.point p)).sum =
      if d = config.nativeDenom then (t.outputs.map fun o => o.value.toNat).sum else 0 := by
  split
  · rename_i hd
    simp only [Record.value, if_pos hd, Unspent.worth_eq_gauge]
    rw [map_gauge_created hset hb ht, hset.sum_gauge]
  · rename_i hd
    simp only [Record.value, if_neg hd]
    induction Unspent.createdPoints t.hash t.outputs.length with
    | nil => rfl
    | cons p points ih => rw [List.map_cons, List.sum_cons, ih]

/-! ## Messages -/

section Messages

variable {rules : Rules} {block : Block} {c c' : Custody} {m : Message}

/-- A weight of records that counts what contracts and escrows hold. -/
structure Counts (d : String) (weight : Record → Nat) : Prop where
  contract : ∀ contract, weight (.contract contract) = contract.locked d
  escrow : ∀ contract, weight (.escrow contract) = contract.balance.amountOf d

theorem counts_value (config : Config) (d : String) (s : Store) :
    Counts d (Record.value config d s) :=
  ⟨fun _ => rfl, fun _ => rfl⟩

/-- What contracts and escrows take in comes out of the bank, and what they pay out goes into it. -/
theorem Effect.exchange (he : Effect rules block c m c') {weight : Record → Nat}
    (hw : Counts d weight) (hbirth : m.route ≠ .birth) (hspend : m.route ≠ .spend) :
    c'.bank.total d + c'.store.total weight = c.bank.total d + c.store.total weight := by
  cases he with
  | birth => simp [Message.route] at hbirth
  | spend => simp [Message.route] at hspend
  | @addContract m bank valid fresh paid =>
    have ht := Store.total_write_new (r := .contract (m.contract block)) weight fresh
    have hp := Bank.total_debit paid d
    simp only [hw.contract, HashLock.Contract.locked, HashLock.Add.contract, if_true] at ht hp ⊢
    omega
  | @redeemContract m contract bank valid held unlocked unresolved caller inTime paid =>
    have ht := Store.total_write_over (r := .contract { contract with status := .redeemed }) weight
      held rfl
    have hp := Bank.total_credit paid d
    simp only [hw.contract, HashLock.Contract.locked, unresolved, if_true, reduceCtorEq,
      if_false] at ht hp ⊢
    omega
  | @failContract m contract bank valid held named unresolved caller expired paid =>
    have ht := Store.total_write_over (r := .contract { contract with status := .failed }) weight
      held rfl
    have hp := Bank.total_credit paid d
    simp only [hw.contract, HashLock.Contract.locked, unresolved, if_true, reduceCtorEq,
      if_false] at ht hp ⊢
    omega
  | @initEscrow m bank valid fresh apart positiveA positiveB denom paid =>
    have ht := Store.total_write_new (r := .escrow m.contract) weight fresh
    have hp := Bank.total_debit paid d
    simp only [hw.escrow, Escrow.Init.contract] at ht hp ⊢
    omega
  | @abortEscrow m contract bank valid held named unjoined caller paid =>
    have ht := Store.total_remove weight held
    have hp := Bank.total_credit paid d
    simp only [hw.escrow, Record.key] at ht hp ⊢
    omega
  | @joinEscrow m contract balance bank valid held named unjoined caller share sum paid =>
    have ht := Store.total_write_over (r := .escrow { contract with balance, stage := .locked })
      weight held rfl
    have hp := Bank.total_debit paid d
    have ha := Coin.amountOf_add sum d
    simp only [hw.escrow] at ht ⊢
    omega
  | @spendEscrow m contract remaining bank valid held named locked callers denom difference paid =>
    have ht := Store.total_write_over (r := .escrow { contract with balance := remaining }) weight
      held rfl
    have hp := Bank.total_credit paid d
    have ha := Coin.amountOf_sub difference d
    simp only [hw.escrow] at ht ⊢
    omega

/-- What a ledger is worth while its outputs keep their integrity. -/
def worthOf (config : Config) (d : String) (c : Custody) : Nat :=
  c.bank.total d + c.store.total (Record.value config d c.store)

/-- An accepted message leaves the value of every denomination as it was. -/
theorem Effect.conserves (he : Effect rules block c m c') (h : Intact ts c.store)
    (hd : Distinct (m.transactions ++ ts)) (hb : Bounded (m.transactions ++ ts)) (d : String) :
    worthOf rules.config d c' = worthOf rules.config d c := by
  have hext := he.extends h hd
  have hbs : Bounded ts := hb.mono fun u hu => by simp [hu]
  -- what lay in the store before is worth the same afterwards
  have hold := h.total_extends hbs hext rules.config d fun p hp => h.created_of_live hp
  have hothers := he.exchange (counts_value rules.config d c'.store)
  unfold worthOf
  rw [← hold]
  clear hold
  cases he with
  | @birth m output bank valid denom born fresh paid =>
    have hheld : ((c.store.write (.account output)).write (.point (.ofBirth output.id))).Holds
        (.account output) := (account_birth fresh).2 (.inl rfl)
    have hw := Unspent.worth_of_resolve (resolve_account hheld)
    have hp := Bank.total_debit paid d
    rw [h.total_birth hbs fresh]
    simp only [Record.value, hw, Coin.amountOf, denom] at hp ⊢
    subst born
    simp only [Unspent.Birth.output, eq_comm (a := d)]
    omega
  | @spend m input value valid only canonical live owned even authorized =>
    have hf := fun u hu => h.fresh hd only live (u := u) hu
    have hbt := hb m.tx (by simp [Message.transactions])
    have ht := h.total_spend hbt hf live (Record.value rules.config d
      (Unspent.applyTransaction c.store m.tx input.point))
    have hheld : (Unspent.applyTransaction c.store m.tx input.point).Holds (.transaction m.tx) :=
      (Unspent.transaction_applyTransaction hf).2 (.inl rfl)
    have hsum := sum_worth_created rules.config d (settled_of_valid valid only canonical) hbt hheld
    have hspent := h.worth_extends hbs hext (h.created_of_live live)
    rw [Unspent.worth_of_resolve owned] at hspent
    rw [outputValue?_eq_some_iff.1 even] at hsum
    rw [hsum] at ht
    simp only [Record.value] at hspent ht ⊢
    rw [hspent] at ht
    omega
  | addContract | redeemContract | failContract | initEscrow | abortEscrow | joinEscrow
  | spendEscrow => exact hothers (by simp [Message.route]) (by simp [Message.route])

end Messages

/-! ## Runs -/

theorem Operation.funds_of_isDelivery {op : Operation} (h : op.isDelivery) (bank : Bank)
    (d : String) : op.funds bank d = 0 := by
  cases op with
  | deliver | deliverEnvelope => rfl
  | _ => cases h

theorem Operation.isDelivery_of_message? {op : Operation} {r : Block × Message}
    (h : op.message? = some r) : op.isDelivery := by
  cases op with
  | deliver | deliverEnvelope => rfl
  | _ => cases h

/-- Only funding changes the value of a ledger. -/
theorem Change.worth {rules : Rules} {c c' : Custody} {op : Operation}
    (hc : Change rules c op c') (h : Intact ts c.store) (hd : Distinct ts) (hb : Bounded ts)
    (hts : ∀ t ∈ op.transactions, t ∈ ts) (d : String) :
    worthOf rules.config d c' = worthOf rules.config d c + op.funds c.bank d := by
  cases hc with
  | @accepted op block m c' reads effect =>
    rw [Operation.transactions_of_message? reads] at hts
    have hm : m.transactions ++ ts ⊆ ts := List.append_subset.2 ⟨hts, List.Subset.refl ts⟩
    rw [effect.conserves h (hd.mono hm) (hb.mono hm) d,
      Operation.funds_of_isDelivery (Operation.isDelivery_of_message? reads), Nat.add_zero]
  | refused quiet => rw [quiet d, Nat.add_zero]
  | @funded address coin bank paid =>
    simp only [worthOf, Operation.funds, paid, Bank.total_credit paid d, Coin.amountOf]
    omega
  | advanced =>
    simp only [worthOf, Operation.funds, Bank.total_advance, Nat.add_zero]

namespace Ledger

theorem worth_run (rules : Rules) {ops : List Operation} (hd : Distinct ts) (hb : Bounded ts)
    (hts : ∀ t ∈ transactions ops, t ∈ ts) (d : String) :
    worthOf rules.config d (run rules ops).custody = funded rules d empty ops := by
  induction ops using List.reverseRecOn with
  | nil => rfl
  | append_singleton ops op ih =>
    obtain ⟨hops, hop⟩ := transactions_concat_subset hts
    have hi := intact_run rules hd hb hops
    have hc := (change_perform rules hi.sound op).worth hi hd hb hop d
    rw [run_concat, hc, ih hops, funded_append]
    rfl

/-- In every state of a run, whatever calls it is made of, what there is of a denomination in balances,
unresolved contracts, escrows and live outpoints is what has been put into the bank until then, and no
delivery, accepted or refused, changes it. -/
theorem value_conserved (rules : Rules) (ops : List Operation) (hd : Distinct (transactions ops))
    (hb : Bounded (transactions ops)) (d : String) :
    (∀ k, (stateAt rules ops k).value rules.config d = .ok (funded rules d empty (ops.take k))) ∧
    (∀ k (op : Operation), ops[k]? = some op → op.isDelivery →
      (stateAt rules ops (k + 1)).value rules.config d =
        (stateAt rules ops k).value rules.config d) := by
  have hvalue : ∀ k, (stateAt rules ops k).value rules.config d =
      .ok (funded rules d empty (ops.take k)) := by
    intro k
    have hi := intact_stateAt rules hd hb k
    rw [hi.value_eq hb rules.config d]
    congr 1
    exact worth_run rules hd hb (fun t ht => mem_transactions_take ht) d
  refine ⟨hvalue, fun k op hop hdel => ?_⟩
  rw [hvalue, hvalue, List.take_add_one, hop, Option.toList_some, funded_append]
  simp only [funded, Operation.funds_of_isDelivery hdel, Nat.add_zero]

/-- Of the 120 coins that Alice and Bob were given 40 are left to them as balances, and 120 are there. -/
theorem value_conserved_sample :
    Distinct (transactions Sample.ops) ∧ Bounded (transactions Sample.ops) ∧
    (run {} Sample.ops).bank.total "stake" = 40 ∧
    (stateAt {} Sample.ops 8).value {} "stake" = .ok 120 := by
  refine ⟨distinct_sample, bounded_sample, by decide +kernel, ?_⟩
  have hfunded : funded {} "stake" empty (Sample.ops.take 8) = 120 := by decide +kernel
  rw [← hfunded]
  exact (value_conserved {} Sample.ops distinct_sample bounded_sample "stake").1 8

end Ledger

end Settlement
