import Settlement.Proofs.Conservation
import Settlement.Proofs.Refusal
import Settlement.Proofs.Terms

/-!
# A bounded supply never overflows

A credit is refused if the balance would not fit in 64 bits. What could make a balance that large is only
what has been put into the bank, since no message makes value: balances, open contracts and escrows are
together never worth more than that. Births take value out of this sum and nothing brings it back, so it
is an upper bound, and it holds without any assumption on hashes. While all that was ever put in fits, what
a contract or an escrow releases fits into any account beside what is there already. Only one sum is worked
out before anybody is known to have the coins, that of an escrow and the share of the joining party; it
can be out of range, but then the party does not have its share.

Results:
* `Effect.held_le`: no message adds to what is held.
* `Ledger.held_run`: in every run what is held is at most what was put in.
* `Ledger.no_overflow`: while what was put in fits, the bank refuses nothing for overflow.
-/
namespace Settlement

/-! ## What is held -/

/-- How much of a denomination a record holds outside the unspent outputs. -/
def Record.locked (d : String) : Record → Nat
  | .contract c => c.locked d
  | .escrow c => c.balance.amountOf d
  | _ => 0

/-- How much of a denomination balances, contracts and escrows hold together. -/
def Custody.held (c : Custody) (d : String) : Nat :=
  c.bank.total d + c.store.total (Record.locked d)

variable {rules : Rules} {block : Block} {c c' : Custody} {m : Message} {op : Operation}

theorem counts_locked (d : String) : Counts d (Record.locked d) := ⟨fun _ => rfl, fun _ => rfl⟩

theorem total_addOutPoints_le (s : Store) (points : List OutPoint) (d : String) :
    (Unspent.addOutPoints s points).total (Record.locked d) ≤ s.total (Record.locked d) := by
  induction points generalizing s with
  | nil => exact Nat.le_refl _
  | cons p points ih => exact Nat.le_trans (ih (s.write (.point p))) (s.total_write_le (.point p) _)

/-- No message adds to what is held. -/
theorem Effect.held_le (he : Effect rules block c m c') (d : String) : c'.held d ≤ c.held d := by
  have hothers := he.exchange (counts_locked d)
  unfold Custody.held
  cases he with
  | @birth m output bank valid denom born fresh paid =>
    have hbank := Bank.total_debit paid d
    have haccount := c.store.total_write_le (.account output) (Record.locked d)
    have hpoint := (c.store.write (.account output)).total_write_le (.point (.ofBirth output.id))
      (Record.locked d)
    simp only [Record.locked] at haccount hpoint
    dsimp only
    omega
  | @spend m input value valid only canonical live owned even authorized =>
    have htx := c.store.total_write_le (.transaction m.tx) (Record.locked d)
    have hspent := (c.store.write (.transaction m.tx)).total_remove_le (.point input.point)
      (Record.locked d)
    have hcreated := total_addOutPoints_le
      ((c.store.write (.transaction m.tx)).remove (.point input.point))
      (Unspent.createdPoints m.tx.hash m.tx.outputs.length) d
    rw [Unspent.applyTransaction_eq]
    simp only [Record.locked] at htx
    dsimp only
    omega
  | addContract | redeemContract | failContract | initEscrow | abortEscrow | joinEscrow
  | spendEscrow =>
    exact Nat.le_of_eq (hothers (by simp [Message.route]) (by simp [Message.route]))

/-- Only funding adds to what is held. -/
theorem Change.held_le (hc : Change rules c op c') (d : String) :
    c'.held d ≤ c.held d + op.funds c.bank d := by
  cases hc with
  | accepted reads effect => exact Nat.le_add_right_of_le (effect.held_le d)
  | refused => exact Nat.le_add_right _ _
  | @funded address coin bank paid =>
    simp only [Custody.held, Operation.funds, paid, Bank.total_credit paid d, Coin.amountOf]
    omega
  | advanced => exact Nat.le_add_right _ _

namespace Ledger

theorem held_run (rules : Rules) (ops : List Operation) (d : String) :
    (run rules ops).custody.held d ≤ funded rules d empty ops := by
  induction ops using List.reverseRecOn with
  | nil => exact Nat.le_refl _
  | append_singleton ops op ih =>
    have hc := (change_perform rules (sound_run rules ops) op).held_le d
    rw [run_concat, funded_append]
    refine Nat.le_trans hc (Nat.add_le_add ih ?_)
    exact Nat.le_refl _

end Ledger

/-! ## Refusals -/

/-- All that is held fits, for every denomination. -/
def Custody.Covered (c : Custody) : Prop := ∀ d, c.held d < UInt64.size

/-- What the bank has said, if it is the bank that has refused. -/
def Error.bankError? : Error → Option BankError
  | unspent (.bank e) | hashLock (.bank e) | escrow (.bank e) => some e
  | _ => none

/-- The bank has not refused for overflow, and an escrow only where the joining party does not have what
it would join with. -/
structure Error.InRange (e : Error) (b : Bank) (m : Message) : Prop where
  bank : ∀ address, e.bankError? ≠ some (.overflow address)
  escrow : e = .escrow .overflow → ∃ j, m = .joinEscrow j ∧
    b.balance j.caller j.amount.denom < j.amount.amount

theorem Bank.debit_error {b : Bank} {address : Address} {coin : Coin} {e : BankError}
    (h : b.debit address coin = .error e) (x : Address) : e ≠ .overflow x := by
  rw [debit_eq] at h
  cases hs : Amount.sub? (b.balance address coin.denom) coin.amount with
  | none =>
    simp only [hs, Except.error.injEq] at h
    simp [← h]
  | some amount => simp [hs] at h

namespace Error.InRange

variable {b : Bank} {e : Error}

theorem other (hb : e.bankError? = none) (he : e ≠ .escrow .overflow) : e.InRange b m :=
  ⟨fun address => by simp [hb], fun h => absurd h he⟩

/-- A debit has no sum to work out. -/
theorem debited {refusal : BankError} {address : Address} {coin : Coin}
    (hd : b.debit address coin = .error refusal) (hb : e.bankError? = some refusal) :
    e.InRange b m := by
  refine ⟨fun x hx => ?_, fun h => by simp [h, Error.bankError?] at hb⟩
  exact Bank.debit_error hd x (Option.some.inj (hb.symm.trans hx))

theorem unspent {e : Unspent.Error} (he : e.Plain) : (Error.unspent e).InRange b m := by
  refine other ?_ (by simp)
  cases e <;> first | rfl | exact he.elim

theorem hashLock {e : HashLock.Error} (he : e.Plain) : (Error.hashLock e).InRange b m := by
  refine other ?_ (by simp)
  cases e <;> first | rfl | exact he.elim

theorem ofEscrow {e : Escrow.Error} (he : e.Plain) : (Error.escrow e).InRange b m := by
  refine other ?_ ?_
  · cases e <;> first | rfl | exact he.elim
  · rintro ⟨⟩
    exact he.elim

end Error.InRange

namespace Custody.Covered

/-- What a record holds can be credited to any account. -/
theorem credit (hc : c.Covered) {r : Record} (hh : c.store.Holds r) (address : Address)
    {coin : Coin} (hle : coin.amount.toNat ≤ r.locked coin.denom) {e : BankError} :
    c.bank.credit address coin ≠ .error e := by
  have hheld := hc coin.denom
  have hbank := c.bank.balance_le_total address coin.denom
  have hrecord := hh.weight_le_total (Record.locked coin.denom)
  unfold held at hheld
  obtain ⟨bank, hok⟩ := Bank.exists_credit_iff.2
    (show (c.bank.balance address coin.denom).toNat + coin.amount.toNat < UInt64.size by omega)
  rw [hok]
  simp

/-- Where a share does not fit into an escrow, its party does not have it. -/
theorem joiner_lacks (hc : c.Covered) {contract : Escrow.Contract} (proper : contract.Proper)
    (hh : c.store.Holds (.escrow contract)) {j : Escrow.Join} (share : j.amount = contract.shareB)
    {e : ValueError} (hsum : contract.balance.add j.amount = .error e) :
    c.bank.balance j.caller j.amount.denom < j.amount.amount := by
  have hdenom : contract.balance.denom = j.amount.denom := by
    rw [share, proper.shares, proper.balance]
  have hlarge : UInt64.size ≤ contract.balance.amount.toNat + j.amount.amount.toNat := by
    unfold Coin.add Amount.add? at hsum
    by_cases hfits : contract.balance.amount.toNat + j.amount.amount.toNat < UInt64.size
    · simp [hdenom, hfits] at hsum
    · omega
  have hheld := hc j.amount.denom
  have hbank := c.bank.balance_le_total j.caller j.amount.denom
  have hrecord := hh.weight_le_total (Record.locked j.amount.denom)
  simp only [Record.locked, Coin.amountOf, hdenom, if_true] at hrecord
  unfold held at hheld
  rw [UInt64.lt_iff_toNat_lt]
  omega

/-- While all that is held fits, no message is refused for a number out of range, but for a joining that
its party cannot pay for. -/
theorem execute_inRange (hc : c.Covered) (hs : c.store.Sound) (ho : c.store.Orderly)
    (rules : Rules) (block : Block) (m : Message) :
    (Ledger.execute rules block m).RefusedOnly (fun e => e.InRange c.bank m) c := by
  cases m with
  | birth m =>
    exact (Unspent.birth_refusedOnly (fun _ => .unspent) fun e he => .debited he rfl).adapt.map _
  | spend m =>
    exact (Unspent.spend_refusedOnly (fun _ => .unspent)
      fun _ _ _ _ _ => .other rfl (by simp)).adapt.map _
  | addContract m =>
    exact (HashLock.add_refusedOnly (fun _ => .hashLock) fun e he => .debited he rfl).adapt.map _
  | redeemContract m =>
    refine (HashLock.redeem_refusedOnly (fun _ => .hashLock)
      (fun _ _ => .other rfl (by simp)) ?_).adapt.map _
    intro contract e hf he
    obtain ⟨hh, -, hopen⟩ := hs.findContract hf
    refine absurd he (hc.credit hh contract.redeemAddress ?_)
    simp [Record.locked, HashLock.Contract.locked, Coin.amountOf, hopen]
  | failContract m =>
    refine (HashLock.fail_refusedOnly (fun _ => .hashLock)
      (fun _ _ => .other rfl (by simp)) ?_).adapt.map _
    intro contract e hf he
    obtain ⟨hh, -, hopen⟩ := hs.findContract hf
    refine absurd he (hc.credit hh contract.timeoutAddress ?_)
    simp [Record.locked, HashLock.Contract.locked, Coin.amountOf, hopen]
  | initEscrow m =>
    exact (Escrow.init_refusedOnly (fun _ => .ofEscrow) fun e he => .debited he rfl).adapt.map _
  | abortEscrow m =>
    refine (Escrow.abort_refusedOnly (fun _ => .ofEscrow)
      (fun _ _ => .other rfl (by simp)) ?_).adapt.map _
    intro contract e hf _ he
    obtain ⟨hh, -⟩ := hs.findEscrow hf
    refine absurd he (hc.credit hh contract.partyA ?_)
    simp [Record.locked, Coin.amountOf]
  | joinEscrow m =>
    refine (Escrow.join_refusedOnly (fun _ => .ofEscrow)
      (fun _ _ => .other rfl (by simp)) ?_ ?_).adapt.map _
    -- the sum is worked out before the party is charged, so it can fail where the charge would have
    · intro contract e hf _ hcaller share hsum
      obtain ⟨hh, -⟩ := hs.findEscrow hf
      exact ⟨fun address => by simp [Error.bankError?],
        fun _ => ⟨m, rfl, hc.joiner_lacks (ho contract hh) hh share hsum⟩⟩
    · intro contract e _ he
      exact .debited he rfl
  | spendEscrow m =>
    refine (Escrow.spend_refusedOnly (fun _ => .ofEscrow)
      (fun _ _ => .other rfl (by simp)) ?_).adapt.map _
    intro contract remaining e hf _ hsub he
    obtain ⟨hh, -⟩ := hs.findEscrow hf
    obtain ⟨hdenom, -, hdiff⟩ := Coin.sub_ok_iff.1 hsub
    refine absurd he (hc.credit hh m.payee ?_)
    simp only [Record.locked, Coin.amountOf, hdenom, if_true]
    omega

end Custody.Covered

/-- What is no message is refused before the bank or an escrow is asked. -/
theorem Envelope.read_error_unsent {envelope : Envelope} {e : Error}
    (h : envelope.read = .error e) : e.bankError? = none ∧ e ≠ .escrow .overflow := by
  unfold Envelope.read at h
  cases hroute : Route.find? envelope.module envelope.operation with
  | none =>
    simp only [hroute, Except.error.injEq] at h
    simp [← h, Error.bankError?]
  | some route =>
    simp only [hroute] at h
    obtain ⟨fault, -, hfault⟩ := mapError_error h
    simp [hfault, Error.bankError?]

/-! ## Runs -/

namespace Ledger

theorem deliver_inRange {rules : Rules} {block : Block} {m : Message} {l : Ledger} {e : Error}
    (hc : l.custody.Covered) (hs : l.store.Sound) (ho : l.store.Orderly)
    (h : (deliver rules block m l).1 = .error e) : e.InRange l.bank m := by
  unfold deliver at h
  cases hx : (execute rules block m).exec l.custody with
  | mk outcome custody =>
    rw [hx] at h
    cases outcome with
    | ok event => simp at h
    | error e' =>
      simp only [Except.error.injEq] at h
      rw [← h]
      exact hc.execute_inRange hs ho rules block m e' _ hx

/-- Where all that is ever put into a bank fits, in every state of a run all that is held fits. -/
theorem covered_stateAt {rules : Rules} {ops : List Operation}
    (h : ∀ d, funded rules d empty ops < UInt64.size) (k : Nat) :
    (stateAt rules ops k).custody.Covered := by
  intro d
  have hheld := held_run rules (ops.take k) d
  have hsplit := funded_append rules d empty (ops.take k) (ops.drop k)
  rw [List.take_append_drop] at hsplit
  have htotal := h d
  show (run rules (ops.take k)).custody.held d < UInt64.size
  omega

/-- In a run in which, for every denomination, all that is put into the bank fits in 64 bits, no delivery
in either form, whatever its message and block, is refused because the bank overflows. A joining is
refused because the escrow overflows only if the joining party does not have the share. -/
theorem no_overflow (rules : Rules) (ops : List Operation)
    (h : ∀ d, funded rules d empty ops < UInt64.size) (k : Nat) (block : Block) :
    (∀ m e, (deliver rules block m (stateAt rules ops k)).1 = .error e →
      e.InRange (stateAt rules ops k).bank m) ∧
    (∀ envelope e, (deliverEnvelope rules block envelope (stateAt rules ops k)).1 = .error e →
      (∀ address, e.bankError? ≠ some (.overflow address)) ∧
      (e = .escrow .overflow → ∃ j, envelope.read = .ok (.joinEscrow j) ∧
        (stateAt rules ops k).bank.balance j.caller j.amount.denom < j.amount.amount)) := by
  have hdeliver : ∀ m e, (deliver rules block m (stateAt rules ops k)).1 = .error e →
      e.InRange (stateAt rules ops k).bank m := fun m e he =>
    deliver_inRange (covered_stateAt h k) (sound_stateAt rules ops k) (orderly_stateAt rules ops k) he
  refine ⟨hdeliver, fun envelope e he => ?_⟩
  unfold deliverEnvelope at he
  cases hread : envelope.read with
  | ok m =>
    rw [hread] at he
    obtain ⟨hbank, hescrow⟩ := hdeliver m e he
    refine ⟨hbank, fun hover => ?_⟩
    obtain ⟨j, hj, hlacks⟩ := hescrow hover
    exact ⟨j, by rw [hj], hlacks⟩
  | error error =>
    rw [hread] at he
    simp only [Except.error.injEq] at he
    obtain ⟨hbank, hescrow⟩ := Envelope.read_error_unsent hread
    rw [← he]
    exact ⟨fun address => by simp [hbank], fun hover => absurd hover hescrow⟩

/-- How much a call offers to the bank, in whatever denomination. -/
def offered : List Operation → Nat
  | [] => 0
  | .fund _ coin :: ops => coin.amount.toNat + offered ops
  | _ :: ops => offered ops

/-- No more is put into the bank than is offered. -/
theorem funded_le_offered (rules : Rules) (d : String) (l : Ledger) (ops : List Operation) :
    funded rules d l ops ≤ offered ops := by
  induction ops generalizing l with
  | nil => exact Nat.le_refl _
  | cons op ops ih =>
    have hrest := ih (op.perform rules l)
    cases op with
    | fund address coin =>
      simp only [funded, offered, Operation.funds]
      split <;> (try split) <;> omega
    | _ =>
      simp only [funded, offered, Operation.funds]
      omega

/-- Alice opens an escrow with a share for Bob that only just fits in 64 bits. -/
def overreach : List Operation := [
  .fund Sample.alice (Sample.stake 5),
  .deliver Sample.block (.initEscrow
    ⟨Sample.savings, Sample.stake 5, Sample.alice, Sample.stake 18446744073709551615, Sample.bob⟩)]

/-- Bob cannot join, since the shares do not fit together, and does not have what he would join with. -/
theorem no_overflow_overreach :
    (∀ d, funded {} d empty overreach < UInt64.size) ∧
    (deliver {} Sample.block
      (.joinEscrow ⟨Sample.savings, Sample.bob, Sample.stake 18446744073709551615⟩)
      (stateAt {} overreach 2)).1 = .error (.escrow .overflow) ∧
    (stateAt {} overreach 2).bank.balance Sample.bob "stake" < 18446744073709551615 := by
  have hfunded : ∀ d, funded {} d empty overreach < UInt64.size := by
    intro d
    have hle := funded_le_offered {} d empty overreach
    have hoffered : offered overreach = 5 := by decide
    have hsize : 5 < UInt64.size := by decide
    omega
  have hover : (deliver {} Sample.block
      (.joinEscrow ⟨Sample.savings, Sample.bob, Sample.stake 18446744073709551615⟩)
      (stateAt {} overreach 2)).1 = .error (.escrow .overflow) := by decide +kernel
  refine ⟨hfunded, hover, ?_⟩
  obtain ⟨j, hj, hlacks⟩ :=
    ((no_overflow {} overreach hfunded 2 Sample.block).1 _ _ hover).escrow rfl
  cases hj
  exact hlacks

end Ledger

end Settlement
