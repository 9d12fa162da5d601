import Settlement.Proofs.Lifecycle

/-!
# The two exits of a hash-locked contract

An unresolved contract can be left in two ways: the redeem party takes the amount by showing a preimage, or
the timeout party takes it back. Which way is open depends on the height alone: the first below the height
at which the contract expires, the second from there on, so never both and never none. That height is a sum
clamped to the range of heights. The locktime of a contract on record is positive, since it is checked when
the contract is opened, so the clamp can only hold the sum at the last height, and no height below the last
one lies between the clamped sum and the exact one.

Results:
* `Height.addClamped_le_iff`: which heights a clamped sum has been reached at.
* `Effect.timed`, `Ledger.timed_run`: in every run every contract on record is proper.
* `Ledger.one_exit_open`: which exit of an unresolved contract is open, and to whom.
-/
namespace Settlement

open HashLock (Contract)

/-! ## Clamped sums -/

/-- A height has reached a clamped sum if it has reached the exact one, or if it is the last height. -/
theorem Height.addClamped_le_iff {a b h : Height} (hb : 0 < b) :
    Height.addClamped a b ≤ h ↔ a.toInt + b.toInt ≤ h.toInt ∨ h = Int64.maxValue := by
  have hpos : 0 < b.toInt := Int64.lt_iff_toInt_lt.1 hb
  have hlow := Int64.minValue_le_toInt a
  have hhigh := Int64.toInt_le h
  have hlast : h = Int64.maxValue ↔ h.toInt = Int64.maxValue.toInt := Int64.toInt_inj.symm
  rw [Int64.le_iff_toInt_le, hlast]
  unfold Height.addClamped
  dsimp only
  simp only [Int64.toInt_minValue, Int64.toInt_maxValue] at hlow hhigh hlast ⊢
  split
  · omega
  · split
    · rw [Int64.toInt_ofInt_of_le (by omega) (by omega)]
      omega
    · rw [Int64.toInt_maxValue]
      omega

/-! ## Proper terms -/

namespace HashLock

/-- What is so of every contract on record. -/
structure Contract.Proper (c : Contract) : Prop where
  positive : c.amount.isPositive
  locktime : 0 < c.locktime
  redeemAddress : ¬ c.redeemAddress.isEmpty
  timeoutAddress : ¬ c.timeoutAddress.isEmpty

theorem Contract.Proper.resolve {c : Contract} (h : c.Proper) (status : Status) :
    Contract.Proper { c with status } :=
  ⟨h.positive, h.locktime, h.redeemAddress, h.timeoutAddress⟩

theorem Add.validate_ok_iff {m : Add} :
    m.validate = .ok () ↔ m.amount.isPositive ∧ 0 < m.locktime ∧
      ¬ m.redeemAddress.isEmpty ∧ ¬ m.timeoutAddress.isEmpty := by
  unfold Add.validate
  rw [require_bind_ok_iff, require_bind_ok_iff, require_ok_iff]

theorem Add.proper {m : Add} (valid : m.validate = .ok ()) (block : Block) :
    (m.contract block).Proper := by
  obtain ⟨positive, locktime, redeemAddress, timeoutAddress⟩ := Add.validate_ok_iff.1 valid
  exact ⟨positive, locktime, redeemAddress, timeoutAddress⟩

/-- Below the last height, a proper contract is expired as soon as its locktime has passed, and no sooner,
in integers that have no end. -/
theorem Contract.Proper.isExpired_iff {c : Contract} (h : c.Proper) {height : Height}
    (notLast : height < Int64.maxValue) :
    c.isExpired height = true ↔ c.createdAt.toInt + c.locktime.toInt ≤ height.toInt := by
  have hne : height ≠ Int64.maxValue := Int64.ne_of_lt notLast
  rw [Contract.isExpired, decide_eq_true_iff, Contract.expiresAt,
    Height.addClamped_le_iff h.locktime, or_iff_left hne]

end HashLock

/-- Every hash-locked contract on record is proper. -/
def Store.Timed (s : Store) : Prop :=
  ∀ contract : Contract, s.Holds (.contract contract) → contract.Proper

theorem Store.Timed.write {s : Store} (h : s.Timed) {written : Contract} (hp : written.Proper) :
    (s.write (.contract written)).Timed := by
  intro contract hh
  rw [Store.holds_write] at hh
  cases hh with
  | inl he =>
    cases he
    exact hp
  | inr hh => exact h contract hh.2

section Messages

variable {rules : Rules} {block : Block} {c c' : Custody} {m : Message}

/-- A message that neither opens nor resolves a contract leaves it as it is, and makes none. -/
theorem Effect.contract_frame (he : Effect rules block c m c') {contract : Contract}
    (hopens : m.opens? ≠ some contract.hash) (hresolves : m.resolves? ≠ some contract.hash) :
    c'.store.Holds (.contract contract) ↔ c.store.Holds (.contract contract) := by
  cases he.turn contract.hash with
  | elsewhere quiet same => exact same contract rfl
  | opened opens => exact absurd opens hopens
  | resolved resolves => exact absurd resolves hresolves

theorem Effect.timed (he : Effect rules block c m c') (h : c.store.Timed) : c'.store.Timed := by
  intro contract hh
  have hframe := fun (hopens : m.opens? ≠ some contract.hash)
    (hresolves : m.resolves? ≠ some contract.hash) => (he.contract_frame hopens hresolves).1 hh
  cases he with
  | addContract valid fresh paid =>
    exact h.write (HashLock.Add.proper valid block) contract hh
  | redeemContract valid held => exact h.write ((h _ held).resolve .redeemed) contract hh
  | failContract valid held => exact h.write ((h _ held).resolve .failed) contract hh
  | _ => exact h contract (hframe (by simp [Message.opens?]) (by simp [Message.resolves?]))

end Messages

namespace Ledger

theorem timed_run (rules : Rules) (ops : List Operation) : (run rules ops).store.Timed :=
  store_run rules ops (fun _ hh => absurd hh Store.holds_empty) Effect.timed

end Ledger

/-! ## The exits -/

/-- The account of an address can take a coin: the new balance fits an amount. -/
def Bank.Takes (b : Bank) (address : Address) (coin : Coin) : Prop :=
  (b.balance address coin.denom).toNat + coin.amount.toNat < UInt64.size

/-- Which exit of an unresolved contract is open in a block, and to whom. -/
structure HashLock.Exits (rules : Rules) (block : Block) (l : Ledger) (contract : Contract) :
    Prop where
  /-- The redeem party, and nobody else, can redeem it until it expires, with any preimage that is not
  empty. -/
  redeem : ∀ preimage caller, lockOf preimage = contract.hash →
    (Ledger.Accepts rules block (.redeemContract ⟨preimage, caller⟩) l ↔
      preimage ≠ [] ∧ caller = contract.redeemAddress ∧ block.height < contract.expiresAt ∧
        l.bank.Takes contract.redeemAddress contract.amount)
  /-- The timeout party, and nobody else, can take it back from then on. -/
  fail : ∀ caller,
    (Ledger.Accepts rules block (.failContract ⟨contract.hash, caller⟩) l ↔
      caller = contract.timeoutAddress ∧ contract.expiresAt ≤ block.height ∧
        l.bank.Takes contract.timeoutAddress contract.amount)
  /-- While both parties can be paid, one of the two is accepted and the other is not. -/
  one : ∀ preimage, preimage ≠ [] → lockOf preimage = contract.hash →
    l.bank.Takes contract.redeemAddress contract.amount →
    l.bank.Takes contract.timeoutAddress contract.amount →
    (Ledger.Accepts rules block (.redeemContract ⟨preimage, contract.redeemAddress⟩) l ↔
      ¬ Ledger.Accepts rules block (.failContract ⟨contract.hash, contract.timeoutAddress⟩) l)
  /-- The height from which on it is expired is the exact one, but for the last height. -/
  boundary : block.height < Int64.maxValue →
    (contract.expiresAt ≤ block.height ↔
      contract.createdAt.toInt + contract.locktime.toInt ≤ block.height.toInt)

section Exits

variable {rules : Rules} {block : Block} {l : Ledger} {contract : Contract} {caller : Address}
  (hs : l.store.Sound) (proper : contract.Proper) (hh : l.store.Holds (.contract contract))
  (unresolved : contract.status = .created)

include hs proper hh unresolved

theorem HashLock.accepts_redeem_iff {preimage : Bytes}
    (unlocks : HashLock.lockOf preimage = contract.hash) :
    Ledger.Accepts rules block (.redeemContract ⟨preimage, caller⟩) l ↔
      preimage ≠ [] ∧ caller = contract.redeemAddress ∧ block.height < contract.expiresAt ∧
        l.bank.Takes contract.redeemAddress contract.amount := by
  rw [Ledger.accepts_iff_effect hs, Bank.Takes, ← Bank.exists_credit_iff]
  constructor
  · rintro ⟨c', he⟩
    cases he with
    | redeemContract valid held unlocked _ party inTime paid =>
      obtain rfl := held.contract_unique hh (unlocked.trans unlocks)
      rw [Redeem.validate, require_bind_ok_iff] at valid
      refine ⟨valid.1, party, ?_, _, paid⟩
      simpa [Contract.isExpired] using inTime
  · rintro ⟨nonempty, rfl, inTime, bank, paid⟩
    have valid : Redeem.validate ⟨preimage, contract.redeemAddress⟩ = .ok () := by
      rw [Redeem.validate, require_bind_ok_iff, require_ok_iff]
      exact ⟨nonempty, proper.redeemAddress⟩
    refine ⟨_, .redeemContract valid hh unlocks.symm unresolved rfl ?_ paid⟩
    simpa [Contract.isExpired] using inTime

theorem HashLock.accepts_fail_iff :
    Ledger.Accepts rules block (.failContract ⟨contract.hash, caller⟩) l ↔
      caller = contract.timeoutAddress ∧ contract.expiresAt ≤ block.height ∧
        l.bank.Takes contract.timeoutAddress contract.amount := by
  rw [Ledger.accepts_iff_effect hs, Bank.Takes, ← Bank.exists_credit_iff]
  constructor
  · rintro ⟨c', he⟩
    cases he with
    | failContract _ held named _ party expired paid =>
      obtain rfl := held.contract_unique hh named
      exact ⟨party, of_decide_eq_true expired, _, paid⟩
  · rintro ⟨rfl, expired, bank, paid⟩
    have valid : Fail.validate ⟨contract.hash, contract.timeoutAddress⟩ = .ok () := by
      rw [Fail.validate, require_ok_iff]
      exact proper.timeoutAddress
    exact ⟨_, .failContract valid hh rfl unresolved rfl (decide_eq_true expired) paid⟩

theorem HashLock.exits : HashLock.Exits rules block l contract where
  redeem preimage caller unlocks := accepts_redeem_iff hs proper hh unresolved unlocks
  fail caller := accepts_fail_iff hs proper hh unresolved
  one preimage nonempty unlocks redeemable refundable := by
    rw [accepts_redeem_iff hs proper hh unresolved unlocks,
      accepts_fail_iff hs proper hh unresolved]
    simp [nonempty, redeemable, refundable]
  boundary notLast := by
    rw [← proper.isExpired_iff notLast, Contract.isExpired, decide_eq_true_iff]

end Exits

namespace Sample

/-- Alice locks coins for Bob, who knows the preimage, five blocks long. -/
def locking : List Operation := [
  .fund alice (stake 100),
  .deliver block (.addContract ⟨stake 10, HashLock.lockOf [1], 5, bob, alice⟩)]

def locked : Contract := ⟨stake 10, HashLock.lockOf [1], 5, bob, alice, .created, 10⟩

end Sample

namespace Ledger

/-- In every state of a run, and in whatever block, an unresolved contract can be redeemed by the redeem
party with a preimage of its digest if it is not expired, and taken back by the timeout party if it is, as
long as the bank can credit the party; nobody else can do either. For whatever contract is opened, at
whatever height, the exact sum of that height and the locktime is the first height at which it is expired,
unless only the last height is left for that. -/
theorem one_exit_open (rules : Rules) (ops : List Operation) :
    (∀ hash contract, HashLock.find (run rules ops).store hash = .ok contract →
      contract.status = .created → contract.hash = hash ∧
        ∀ block, HashLock.Exits rules block (run rules ops) contract) ∧
    ∀ (m : HashLock.Add) (block : Block) (height : Height), m.validate = .ok () →
      height < Int64.maxValue →
      ((m.contract block).expiresAt ≤ height ↔
        block.height.toInt + m.locktime.toInt ≤ height.toInt) := by
  constructor
  · intro hash contract found unresolved
    have hs := sound_run rules ops
    obtain ⟨hh, hk⟩ := hs.of_find found
    exact ⟨hk, fun block => HashLock.exits hs (timed_run rules ops contract hh) hh unresolved⟩
  · intro m block height valid notLast
    have hexpired := (HashLock.Add.proper valid block).isExpired_iff notLast
    rw [Contract.isExpired, decide_eq_true_iff] at hexpired
    exact hexpired

/-- Bob can redeem what Alice has locked below height 15, and Alice can take it back from there on. What is
locked for five blocks with only two left is not expired at the last height but one. -/
theorem one_exit_open_sample :
    HashLock.find (run {} Sample.locking).store (HashLock.lockOf [1]) = .ok Sample.locked ∧
    (∀ height : Height,
      (Accepts {} ⟨height, "chain"⟩ (.redeemContract ⟨[1], Sample.bob⟩) (run {} Sample.locking) ↔
        height < 15) ∧
      (Accepts {} ⟨height, "chain"⟩ (.failContract ⟨HashLock.lockOf [1], Sample.alice⟩)
        (run {} Sample.locking) ↔ 15 ≤ height)) ∧
    ¬ (HashLock.Add.contract ⟨Sample.stake 10, .zero, 5, Sample.bob, Sample.alice⟩
      ⟨Int64.maxValue - 2, "chain"⟩).expiresAt ≤ Int64.maxValue - 1 := by
  have found : HashLock.find (run {} Sample.locking).store (HashLock.lockOf [1]) =
      .ok Sample.locked := by decide +kernel
  have redeemable : (run {} Sample.locking).bank.Takes Sample.bob (Sample.stake 10) := by
    unfold Bank.Takes
    decide +kernel
  have refundable : (run {} Sample.locking).bank.Takes Sample.alice (Sample.stake 10) := by
    unfold Bank.Takes
    decide +kernel
  obtain ⟨stored, boundary⟩ := one_exit_open {} Sample.locking
  obtain ⟨-, exits⟩ := stored _ _ found rfl
  refine ⟨found, fun height => ⟨?_, ?_⟩, ?_⟩
  · have hredeem := (exits ⟨height, "chain"⟩).redeem [1] Sample.bob rfl
    refine hredeem.trans ⟨fun h => h.2.2.1, fun h => ⟨by decide, rfl, h, redeemable⟩⟩
  · have hfail := (exits ⟨height, "chain"⟩).fail Sample.alice
    exact hfail.trans ⟨fun h => h.2.1, fun h => ⟨rfl, h, refundable⟩⟩
  · rw [boundary _ _ _ (by decide +kernel) (by decide)]
    decide

end Ledger

end Settlement
