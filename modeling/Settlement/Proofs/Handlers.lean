import Settlement.Ledger

/-!
# When a handler accepts, and what it writes then

A handler is a chain of checks, at most one request to the bank, and the writes. Each link gives one fact
to the specification of the whole: a handler accepts exactly if every check holds and the bank agrees, and
then it has written exactly what is said here. Later proofs use these specifications and never look into a
handler again.

Results:
* `Unspent.birth_ok_iff`, `Unspent.spend_ok_iff`
* `HashLock.add_ok_iff`, `HashLock.redeem_ok_iff`, `HashLock.fail_ok_iff`
* `Escrow.init_ok_iff`, `Escrow.abort_ok_iff`, `Escrow.join_ok_iff`, `Escrow.spend_ok_iff`
-/
namespace Settlement

/-! ## The links of a handler -/

section Links

variable {σ ε δ α β : Type}

theorem exists_unit {p : Unit → Prop} : (∃ a, p a) ↔ p () :=
  ⟨fun ⟨_, h⟩ => h, fun h => ⟨(), h⟩⟩

theorem except_bind_ok_iff {x : Except ε α} {f : α → Except ε β} {b : β} :
    (x >>= f) = .ok b ↔ ∃ a, x = .ok a ∧ f a = .ok b := by
  cases x <;> simp [bind, Except.bind]

@[simp] theorem mapError_ok_eq (f : ε → δ) (a : α) :
    Except.mapError f (.ok a) = .ok a := rfl

@[simp] theorem mapError_error_eq (f : ε → δ) (e : ε) :
    Except.mapError f (.error e : Except ε α) = .error (f e) := rfl

theorem mapError_eq_ok_iff {x : Except ε α} {f : ε → δ} {a : α} :
    x.mapError f = .ok a ↔ x = .ok a := by
  cases x <;> simp

theorem require_ok_iff {condition : Prop} [Decidable condition] {refusal : ε} :
    require condition refusal = .ok () ↔ condition := by
  by_cases h : condition <;> simp [require, h]

namespace Action

theorem exec_check_bind_ok_iff {x : Except ε α} {f : α → Action σ ε β} {s s' : σ} {b : β} :
    (check x >>= f).exec s = (.ok b, s') ↔ ∃ a, x = .ok a ∧ (f a).exec s = (.ok b, s') := by
  rw [exec_bind, exec_check]
  cases x <;> simp

theorem exec_demand_bind_ok_iff {condition : Prop} [Decidable condition] {refusal : ε}
    {f : Unit → Action σ ε β} {s s' : σ} {b : β} :
    (demand condition refusal >>= f).exec s = (.ok b, s') ↔
      condition ∧ (f ()).exec s = (.ok b, s') := by
  rw [exec_bind, exec_demand]
  by_cases h : condition <;> simp [h]

theorem exec_get_bind {f : σ → Action σ ε β} {s : σ} :
    ((get : Action σ ε σ) >>= f).exec s = (f s).exec s := by
  rw [exec_bind, exec_get]

end Action

namespace Custody

variable {refusal : BankError → ε} {address : Address} {coin : Coin} {c c' : Custody} {b : β}

theorem exec_debit_bind_ok_iff {f : Unit → Action Custody ε β} :
    (debit refusal address coin >>= f).exec c = (.ok b, c') ↔
      ∃ bank, c.bank.debit address coin = .ok bank ∧ (f ()).exec ⟨c.store, bank⟩ = (.ok b, c') := by
  rw [Action.exec_bind, exec_debit]
  cases c.bank.debit address coin <;> simp

theorem exec_credit_bind_ok_iff {f : Unit → Action Custody ε β} :
    (credit refusal address coin >>= f).exec c = (.ok b, c') ↔
      ∃ bank, c.bank.credit address coin = .ok bank ∧ (f ()).exec ⟨c.store, bank⟩ = (.ok b, c') := by
  rw [Action.exec_bind, exec_credit]
  cases c.bank.credit address coin <;> simp

theorem exec_write_pure_ok_iff {change : Store → Store} {a : β} :
    (write change >>= fun _ => pure a : Action Custody ε β).exec c = (.ok b, c') ↔
      a = b ∧ ⟨change c.store, c.bank⟩ = c' := by
  rw [Action.exec_bind, exec_write]
  simp

end Custody

end Links

variable {c c' : Custody} {config : Config} {block : Block} {verifier : Verifier}

/-! ## Unspent outputs -/

namespace Unspent

theorem birth_ok_iff {m : Birth} {report : OutputBorn} :
    (birth config block m).exec c = (.ok report, c') ↔
      m.validate = .ok () ∧ m.amount.denom = config.nativeDenom ∧
      ∃ output, output = m.output block (c.bank.sequence m.owner) ∧
        ¬ space.has c.store (accountKey output.id) ∧
        ∃ bank, c.bank.debit m.owner m.amount = .ok bank ∧
          (⟨output.id, output.owner, output.value, output.createdAt⟩ : OutputBorn) = report ∧
          ⟨addAccountOutput c.store output, bank⟩ = c' := by
  simp only [birth, Action.exec_check_bind_ok_iff, Action.exec_demand_bind_ok_iff,
    Action.exec_get_bind, Custody.exec_debit_bind_ok_iff, Custody.exec_write_pure_ok_iff,
    exists_eq_left, exists_unit]

theorem soleInput_ok_iff {t : Transaction} {input : Input} :
    soleInput t = .ok input ↔ t.inputs = [input] := by
  unfold soleInput
  split
  · rename_i i h
    rw [h]
    simp
  · rename_i h
    simp only [reduceCtorEq, false_iff]
    exact h input

theorem spend_ok_iff {m : Spend} {report : TransactionApplied} :
    (spend config verifier m).exec c = (.ok report, c') ↔
      m.validate = .ok () ∧
      ∃ input, m.tx.inputs = [input] ∧ m.tx.isCanonical ∧
        space.has c.store (outPointKey input.point) ∧
        ∃ value spender, resolve c.store input.point = .ok (value, spender) ∧
          m.tx.outputValue? = some value ∧ spender = m.signer ∧
          authorize config verifier input m.tx.hash spender = .ok () ∧
          (⟨m.tx.hash, input.point, createdPoints m.tx.hash m.tx.outputs.length, value⟩ :
            TransactionApplied) = report ∧
          ⟨applyTransaction c.store m.tx input.point, c.bank⟩ = c' := by
  simp only [spend, Action.exec_check_bind_ok_iff, Action.exec_demand_bind_ok_iff,
    Action.exec_get_bind, Custody.exec_write_pure_ok_iff, soleInput_ok_iff, mapError_eq_ok_iff,
    Prod.exists, exists_unit]

end Unspent

/-! ## Hash-locked contracts -/

namespace HashLock

theorem find_ok_iff {s : Store} {hash : Digest} {contract : Contract} :
    find s hash = .ok contract ↔
      space.load Contract.codec s (contractKey hash) = .ok (some contract) := by
  unfold find
  split <;> rename_i h <;> simp [h]

theorem findOpen_ok_iff {s : Store} {hash : Digest} {contract : Contract} :
    findOpen s hash = .ok contract ↔
      space.load Contract.codec s (contractKey hash) = .ok (some contract) ∧
        contract.status = .created := by
  rw [findOpen, except_bind_ok_iff]
  simp only [find_ok_iff, require_bind_ok_iff, pure, Except.pure, Except.ok.injEq]
  constructor
  · intro ⟨found, hl, hc, he⟩
    subst he
    exact ⟨hl, hc⟩
  · intro ⟨hl, hc⟩
    exact ⟨contract, hl, hc, rfl⟩

theorem add_ok_iff {m : Add} {report : Created} :
    (add block m).exec c = (.ok report, c') ↔
      m.validate = .ok () ∧ ¬ space.has c.store (contractKey m.hash) ∧
      ∃ bank, c.bank.debit m.timeoutAddress m.amount = .ok bank ∧
        (⟨m.hash, m.amount, m.redeemAddress, m.timeoutAddress, (m.contract block).expiresAt⟩ :
          Created) = report ∧
        ⟨store c.store m.hash (m.contract block), bank⟩ = c' := by
  simp only [add, Action.exec_check_bind_ok_iff, Action.exec_demand_bind_ok_iff,
    Action.exec_get_bind, Custody.exec_debit_bind_ok_iff, Custody.exec_write_pure_ok_iff,
    exists_unit]
  rfl

theorem redeem_ok_iff {m : Redeem} {report : Redeemed} :
    (redeem block m).exec c = (.ok report, c') ↔
      m.validate = .ok () ∧
      ∃ contract, findOpen c.store (lockOf m.preimage) = .ok contract ∧
        m.caller = contract.redeemAddress ∧ ¬ contract.isExpired block.height ∧
        ∃ bank, c.bank.credit contract.redeemAddress contract.amount = .ok bank ∧
          (⟨lockOf m.preimage, m.preimage, contract.redeemAddress, contract.amount⟩ : Redeemed) =
            report ∧
          ⟨store c.store (lockOf m.preimage) { contract with status := .redeemed }, bank⟩ = c' := by
  simp only [redeem, Action.exec_check_bind_ok_iff, Action.exec_demand_bind_ok_iff,
    Action.exec_get_bind, Custody.exec_credit_bind_ok_iff, Custody.exec_write_pure_ok_iff,
    exists_unit]

theorem fail_ok_iff {m : Fail} {report : Failed} :
    (fail block m).exec c = (.ok report, c') ↔
      m.validate = .ok () ∧
      ∃ contract, findOpen c.store m.hash = .ok contract ∧
        m.caller = contract.timeoutAddress ∧ contract.isExpired block.height ∧
        ∃ bank, c.bank.credit contract.timeoutAddress contract.amount = .ok bank ∧
          (⟨m.hash, contract.timeoutAddress, contract.amount⟩ : Failed) = report ∧
          ⟨store c.store m.hash { contract with status := .failed }, bank⟩ = c' := by
  simp only [fail, Action.exec_check_bind_ok_iff, Action.exec_demand_bind_ok_iff,
    Action.exec_get_bind, Custody.exec_credit_bind_ok_iff, Custody.exec_write_pure_ok_iff,
    exists_unit]

end HashLock

/-! ## Escrows -/

namespace Escrow

theorem find_ok_iff {s : Store} {id : EscrowId} {contract : Contract} :
    find s id = .ok contract ↔
      space.load Contract.codec s (contractKey id) = .ok (some contract) := by
  unfold find
  split <;> rename_i h <;> simp [h]

theorem init_ok_iff {m : Init} {report : Created} :
    (init m).exec c = (.ok report, c') ↔
      m.validate = .ok () ∧ ¬ space.has c.store (contractKey m.id) ∧ m.partyA ≠ m.partyB ∧
      m.shareA.isPositive ∧ m.shareB.isPositive ∧ m.shareA.sameDenom m.shareB ∧
      ∃ bank, c.bank.debit m.partyA m.shareA = .ok bank ∧
        (⟨m.id, m.partyA, m.partyB, m.shareA⟩ : Created) = report ∧
        ⟨store c.store m.id m.contract, bank⟩ = c' := by
  simp only [init, Action.exec_check_bind_ok_iff, Action.exec_demand_bind_ok_iff,
    Action.exec_get_bind, Custody.exec_debit_bind_ok_iff, Custody.exec_write_pure_ok_iff,
    exists_unit]
  rfl

theorem abort_ok_iff {m : Abort} {report : Aborted} :
    (abort m).exec c = (.ok report, c') ↔
      m.validate = .ok () ∧
      ∃ contract, find c.store m.id = .ok contract ∧ contract.stage = .created ∧
        m.caller = contract.partyA ∧
        ∃ bank, c.bank.credit contract.partyA contract.balance = .ok bank ∧
          (⟨contract.id, contract.balance⟩ : Aborted) = report ∧
          ⟨space.delete c.store (contractKey m.id), bank⟩ = c' := by
  simp only [abort, Action.exec_check_bind_ok_iff, Action.exec_demand_bind_ok_iff,
    Action.exec_get_bind, Custody.exec_credit_bind_ok_iff, Custody.exec_write_pure_ok_iff,
    exists_unit]

theorem join_ok_iff {m : Join} {report : Joined} :
    (join m).exec c = (.ok report, c') ↔
      m.validate = .ok () ∧
      ∃ contract, find c.store m.id = .ok contract ∧ contract.stage = .created ∧
        m.caller = contract.partyB ∧ m.amount = contract.shareB ∧
        ∃ balance, contract.balance.add m.amount = .ok balance ∧
          ∃ bank, c.bank.debit contract.partyB m.amount = .ok bank ∧
            (⟨contract.id, balance⟩ : Joined) = report ∧
            ⟨store c.store m.id { contract with balance, stage := .locked }, bank⟩ = c' := by
  simp only [join, Action.exec_check_bind_ok_iff, Action.exec_demand_bind_ok_iff,
    Action.exec_get_bind, Custody.exec_debit_bind_ok_iff, Custody.exec_write_pure_ok_iff,
    mapError_eq_ok_iff, exists_unit]

theorem spend_ok_iff {m : Spend} {report : Spent} :
    (spend m).exec c = (.ok report, c') ↔
      m.validate = .ok () ∧
      ∃ contract, find c.store m.id = .ok contract ∧ contract.stage = .locked ∧
        (m.callerA = contract.partyA ∧ m.callerB = contract.partyB) ∧
        m.amount.sameDenom contract.balance ∧
        ∃ remaining, contract.balance.sub m.amount = .ok remaining ∧
          ∃ bank, c.bank.credit m.payee m.amount = .ok bank ∧
            (⟨contract.id, m.payee, m.amount, remaining⟩ : Spent) = report ∧
            ⟨store c.store m.id { contract with balance := remaining }, bank⟩ = c' := by
  simp only [spend, Action.exec_check_bind_ok_iff, Action.exec_demand_bind_ok_iff,
    Action.exec_get_bind, Custody.exec_credit_bind_ok_iff, Custody.exec_write_pure_ok_iff,
    mapError_eq_ok_iff, exists_unit]

end Escrow

end Settlement
