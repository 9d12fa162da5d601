import Settlement.Proofs.Run

/-!
# The terms of an escrow

The terms that an escrow is opened with are checked then and never again: nothing that happens to it later
can break them. Joining and paying out change only the stage and the balance, and the balance keeps its
denomination since coins of two denominations are never added or subtracted.

Results:
* `Effect.orderly`: an accepted message leaves every escrow proper.
* `Ledger.orderly_run`: in every run every escrow on record is proper.
-/
namespace Settlement

/-! ## Amounts that are checked to be positive -/

theorem Coin.toNat_pos {coin : Coin} (h : coin.isPositive) : 0 < coin.amount.toNat :=
  UInt64.lt_iff_toNat_lt.1 (of_decide_eq_true h)

theorem Unspent.Birth.positive_of_valid {m : Unspent.Birth} (h : m.validate = .ok ()) :
    0 < m.amount.amount.toNat := by
  unfold validate at h
  rw [require_bind_ok_iff] at h
  exact Coin.toNat_pos h.1

theorem HashLock.Add.positive_of_valid {m : HashLock.Add} (h : m.validate = .ok ()) :
    0 < m.amount.amount.toNat := by
  unfold validate at h
  rw [require_bind_ok_iff] at h
  exact Coin.toNat_pos h.1

theorem Escrow.Spend.positive_of_valid {m : Escrow.Spend} (h : m.validate = .ok ()) :
    0 < m.amount.amount.toNat := by
  unfold validate at h
  rw [require_bind_ok_iff, require_bind_ok_iff] at h
  exact Coin.toNat_pos h.2.1

/-! ## Proper terms -/

namespace Escrow

/-- What is so of every escrow on record. -/
structure Contract.Proper (c : Contract) : Prop where
  named : ¬ c.id.isEmpty
  unaborted : c.stage = .created ∨ c.stage = .locked
  apart : c.partyA ≠ c.partyB
  partyA : ¬ c.partyA.isEmpty
  partyB : ¬ c.partyB.isEmpty
  positiveA : c.shareA.isPositive
  positiveB : c.shareB.isPositive
  shares : c.shareB.denom = c.shareA.denom
  balance : c.balance.denom = c.shareA.denom
  untouched : c.stage = .created → c.balance = c.shareA

theorem Contract.Proper.lock {c : Contract} (h : c.Proper) {balance : Coin}
    (hd : balance.denom = c.balance.denom) :
    Contract.Proper { c with balance, stage := .locked } where
  named := h.named
  unaborted := .inr rfl
  apart := h.apart
  partyA := h.partyA
  partyB := h.partyB
  positiveA := h.positiveA
  positiveB := h.positiveB
  shares := h.shares
  balance := hd.trans h.balance
  untouched hc := by simp at hc

theorem Init.validate_ok_iff {m : Init} :
    m.validate = .ok () ↔ ¬ m.id.isEmpty ∧ ¬ m.partyA.isEmpty ∧ ¬ m.partyB.isEmpty := by
  unfold Init.validate
  rw [require_bind_ok_iff, require_ok_iff]

theorem Init.proper {m : Init} (valid : m.validate = .ok ()) (apart : m.partyA ≠ m.partyB)
    (positiveA : m.shareA.isPositive) (positiveB : m.shareB.isPositive)
    (denom : m.shareA.sameDenom m.shareB) : m.contract.Proper := by
  obtain ⟨hid, hpa, hpb⟩ := Init.validate_ok_iff.1 valid
  have hdenom : m.shareA.denom = m.shareB.denom := of_decide_eq_true denom
  exact {
    named := hid
    unaborted := .inl rfl
    apart := apart
    partyA := hpa
    partyB := hpb
    positiveA := positiveA
    positiveB := positiveB
    shares := hdenom.symm
    balance := rfl
    untouched := fun _ => rfl }

end Escrow

/-! ## Messages about an escrow -/

/-- The escrow that a message is about. -/
def Message.escrow? : Message → Option EscrowId
  | initEscrow m => some m.id
  | abortEscrow m => some m.id
  | joinEscrow m => some m.id
  | spendEscrow m => some m.id
  | _ => none

variable {rules : Rules} {block : Block} {c c' : Custody} {m : Message}

/-- A message about something else leaves an escrow as it is, and makes none. -/
theorem Effect.escrow_frame (he : Effect rules block c m c') {contract : Escrow.Contract}
    (hm : m.escrow? ≠ some contract.id) :
    c'.store.Holds (.escrow contract) ↔ c.store.Holds (.escrow contract) := by
  cases he with
  | birth =>
    rw [Store.holds_write_of_kind (by simp [Record.key, Key.kind]),
      Store.holds_write_of_kind (by simp [Record.key, Key.kind])]
  | spend =>
    rw [Unspent.holds_applyTransaction_of_kind (by simp [Record.key, Key.kind])]
    simp
  | addContract | redeemContract | failContract =>
    exact Store.holds_write_of_kind (by simp [Record.key, Key.kind])
  | initEscrow =>
    exact Store.holds_write_of_key fun hk => hm (congrArg some (Key.escrow.inj hk).symm)
  | abortEscrow valid held named =>
    exact Store.holds_remove_of_key fun hk =>
      hm (congrArg some (named.symm.trans (Key.escrow.inj hk).symm))
  | joinEscrow valid held named =>
    exact Store.holds_write_of_key fun hk =>
      hm (congrArg some (named.symm.trans (Key.escrow.inj hk).symm))
  | spendEscrow valid held named =>
    exact Store.holds_write_of_key fun hk =>
      hm (congrArg some (named.symm.trans (Key.escrow.inj hk).symm))

/-! ## Stores -/

/-- Every escrow on record is proper. -/
def Store.Orderly (s : Store) : Prop :=
  ∀ contract : Escrow.Contract, s.Holds (.escrow contract) → contract.Proper

theorem Store.Orderly.write {s : Store} (h : s.Orderly) {written : Escrow.Contract}
    (hp : written.Proper) : (s.write (.escrow written)).Orderly := by
  intro contract hh
  rw [Store.holds_write] at hh
  cases hh with
  | inl he =>
    cases he
    exact hp
  | inr hh => exact h contract hh.2

theorem Effect.orderly (he : Effect rules block c m c') (h : c.store.Orderly) :
    c'.store.Orderly := by
  intro contract hh
  by_cases hm : m.escrow? = some contract.id
  · cases he with
    | initEscrow valid fresh apart positiveA positiveB denom paid =>
      exact h.write (Escrow.Init.proper valid apart positiveA positiveB denom) contract hh
    | abortEscrow => exact h contract (Store.holds_remove.1 hh).2
    | joinEscrow valid held named unjoined caller share sum paid =>
      exact h.write ((h _ held).lock (Coin.add_ok_iff.1 sum).2.1) contract hh
    | spendEscrow valid held named locked callers denom difference paid =>
      have hp := (h _ held).lock (Coin.sub_ok_iff.1 difference).2.1
      rw [← locked] at hp
      exact h.write hp contract hh
    | _ => simp [Message.escrow?] at hm
  · exact h contract ((he.escrow_frame hm).1 hh)

namespace Ledger

theorem orderly_run (rules : Rules) (ops : List Operation) : (run rules ops).store.Orderly :=
  store_run rules ops (fun _ hh => absurd hh Store.holds_empty) Effect.orderly

theorem orderly_stateAt (rules : Rules) (ops : List Operation) (k : Nat) :
    (stateAt rules ops k).store.Orderly :=
  orderly_run rules (ops.take k)

end Ledger

end Settlement
