import Settlement.Proofs.Run

/-!
# What the events report

An accepted message leaves one event, and the event alone says which records have changed and how: what
is written beside it is either in the event or was in the record before (`Reported`). The log of a run is
all the events that it has left, those that were drained, in the order of the batches, and those that were
not. Draining moves events from one part of the log to the other and loses none.

Results:
* `reported_of_accept`: the event of an accepted message reports what was written.
* `Ledger.log_concat`: a call adds its event to the log, and nothing else.
* `Operation.reported_perform`: the store after a call is what the event of the call reports.
-/
namespace Settlement

open Store
open Unspent (AccountOutput)

/-- An event, and the change of the records that it reports. -/
inductive Reported (s : Store) : Event → Store → Prop
  | outputBorn {output : AccountOutput}
      (fresh : s.get? (Key.account output.id).bytes = none) :
      Reported s (.outputBorn ⟨output.id, output.owner, output.value, output.createdAt⟩)
        ((s.write (.account output)).write (.point (.ofBirth output.id)))
  | transactionApplied {t : Transaction} {spent : OutPoint} {value : Amount}
      (live : s.Holds (.point spent)) :
      Reported s
        (.transactionApplied
          ⟨t.hash, spent, Unspent.createdPoints t.hash t.outputs.length, value⟩)
        (Unspent.applyTransaction s t spent)
  | contractCreated {contract : HashLock.Contract}
      (fresh : s.get? (Key.contract contract.hash).bytes = none)
      (unresolved : contract.status = .created) :
      Reported s
        (.contractCreated ⟨contract.hash, contract.amount, contract.redeemAddress,
          contract.timeoutAddress, contract.expiresAt⟩)
        (s.write (.contract contract))
  | contractRedeemed {contract : HashLock.Contract} {preimage : Bytes}
      (held : s.Holds (.contract contract)) (unresolved : contract.status = .created) :
      Reported s
        (.contractRedeemed ⟨contract.hash, preimage, contract.redeemAddress, contract.amount⟩)
        (s.write (.contract { contract with status := .redeemed }))
  | contractFailed {contract : HashLock.Contract}
      (held : s.Holds (.contract contract)) (unresolved : contract.status = .created) :
      Reported s (.contractFailed ⟨contract.hash, contract.timeoutAddress, contract.amount⟩)
        (s.write (.contract { contract with status := .failed }))
  | escrowCreated {contract : Escrow.Contract}
      (fresh : s.get? (Key.escrow contract.id).bytes = none)
      (unjoined : contract.stage = .created) :
      Reported s
        (.escrowCreated ⟨contract.id, contract.partyA, contract.partyB, contract.balance⟩)
        (s.write (.escrow contract))
  | escrowAborted {contract : Escrow.Contract} (held : s.Holds (.escrow contract)) :
      Reported s (.escrowAborted ⟨contract.id, contract.balance⟩) (s.remove (.escrow contract.id))
  | escrowJoined {contract : Escrow.Contract} {balance : Coin}
      (held : s.Holds (.escrow contract)) :
      Reported s (.escrowJoined ⟨contract.id, balance⟩)
        (s.write (.escrow { contract with balance, stage := .locked }))
  | escrowSpent {contract : Escrow.Contract} {payee : Address} {amount remaining : Coin}
      (held : s.Holds (.escrow contract)) :
      Reported s (.escrowSpent ⟨contract.id, payee, amount, remaining⟩)
        (s.write (.escrow { contract with balance := remaining }))

/-- The event of an accepted message reports what was written. -/
theorem reported_of_accept {rules : Rules} {block : Block} {m : Message} {c c' : Custody}
    {event : Event} (hs : c.store.Sound)
    (h : (Ledger.execute rules block m).exec c = (.ok event, c')) :
    Reported c.store event c'.store := by
  cases m with
  | birth m =>
    obtain ⟨report, hx, rfl⟩ := exec_part_ok_iff.1 h
    obtain ⟨-, -, output, -, hn, bank, -, rfl, rfl⟩ := Unspent.birth_ok_iff.1 hx
    rw [addAccountOutput_eq]
    exact .outputBorn (has_eq_false_iff.1 hn)
  | spend m =>
    obtain ⟨report, hx, rfl⟩ := exec_part_ok_iff.1 h
    obtain ⟨-, input, -, -, hl, value, spender, -, -, -, -, rfl, rfl⟩ := Unspent.spend_ok_iff.1 hx
    exact .transactionApplied ((hs.has_point _).1 hl)
  | addContract m =>
    obtain ⟨report, hx, rfl⟩ := exec_part_ok_iff.1 h
    obtain ⟨-, hn, bank, -, rfl, rfl⟩ := HashLock.add_ok_iff.1 hx
    rw [storeContract_eq c.store (m.contract block) (show _ = m.hash from rfl)]
    exact @Reported.contractCreated _ (m.contract block) (has_eq_false_iff.1 hn) rfl
  | redeemContract m =>
    obtain ⟨report, hx, rfl⟩ := exec_part_ok_iff.1 h
    obtain ⟨-, contract, hf, -, -, bank, -, rfl, rfl⟩ := HashLock.redeem_ok_iff.1 hx
    obtain ⟨hh, hk, ho⟩ := hs.findContract hf
    rw [storeContract_eq c.store { contract with status := .redeemed } hk, ← hk]
    exact .contractRedeemed hh ho
  | failContract m =>
    obtain ⟨report, hx, rfl⟩ := exec_part_ok_iff.1 h
    obtain ⟨-, contract, hf, -, -, bank, -, rfl, rfl⟩ := HashLock.fail_ok_iff.1 hx
    obtain ⟨hh, hk, ho⟩ := hs.findContract hf
    rw [storeContract_eq c.store { contract with status := .failed } hk, ← hk]
    exact .contractFailed hh ho
  | initEscrow m =>
    obtain ⟨report, hx, rfl⟩ := exec_part_ok_iff.1 h
    obtain ⟨-, hn, -, -, -, -, bank, -, rfl, rfl⟩ := Escrow.init_ok_iff.1 hx
    rw [storeEscrow_eq c.store m.contract (show _ = m.id from rfl)]
    exact @Reported.escrowCreated _ m.contract (has_eq_false_iff.1 hn) rfl
  | abortEscrow m =>
    obtain ⟨report, hx, rfl⟩ := exec_part_ok_iff.1 h
    obtain ⟨-, contract, hf, -, -, bank, -, rfl, rfl⟩ := Escrow.abort_ok_iff.1 hx
    obtain ⟨hh, hk⟩ := hs.findEscrow hf
    rw [deleteEscrow_eq c.store hk]
    exact .escrowAborted hh
  | joinEscrow m =>
    obtain ⟨report, hx, rfl⟩ := exec_part_ok_iff.1 h
    obtain ⟨-, contract, hf, -, -, -, balance, -, bank, -, rfl, rfl⟩ := Escrow.join_ok_iff.1 hx
    obtain ⟨hh, hk⟩ := hs.findEscrow hf
    rw [storeEscrow_eq c.store { contract with balance, stage := .locked } hk]
    exact .escrowJoined hh
  | spendEscrow m =>
    obtain ⟨report, hx, rfl⟩ := exec_part_ok_iff.1 h
    obtain ⟨-, contract, hf, -, -, -, remaining, -, bank, -, rfl, rfl⟩ := Escrow.spend_ok_iff.1 hx
    obtain ⟨hh, hk⟩ := hs.findEscrow hf
    rw [storeEscrow_eq c.store { contract with balance := remaining } hk]
    exact .escrowSpent hh

/-- The kinds of records that an event speaks of. -/
def Event.touches : Event → List Kind
  | .outputBorn _ => [.account, .point]
  | .transactionApplied _ => [.transaction, .point]
  | .contractCreated _ | .contractRedeemed _ | .contractFailed _ => [.contract]
  | .escrowCreated _ | .escrowAborted _ | .escrowJoined _ | .escrowSpent _ => [.escrow]

section

variable {s s' : Store} {event : Event}

/-- Records of other kinds are as they were. -/
theorem Reported.frame (he : Reported s event s') {q : Record} (hq : q.key.kind ∉ event.touches) :
    s'.Holds q ↔ s.Holds q := by
  cases he with
  | outputBorn fresh =>
    simp only [Event.touches, List.mem_cons, List.not_mem_nil, or_false, not_or] at hq
    rw [holds_write_of_kind hq.2, holds_write_of_kind hq.1]
  | transactionApplied live =>
    simp only [Event.touches, List.mem_cons, List.not_mem_nil, or_false, not_or] at hq
    have hpoint : ∀ p, q ≠ .point p := by
      rintro p rfl
      exact hq.2 rfl
    rw [Unspent.holds_applyTransaction_of_kind hq.1]
    simp [hpoint]
  | escrowAborted held => exact holds_remove_of_kind fun hk => hq (List.mem_singleton.2 hk)
  | _ => exact holds_write_of_kind fun hk => hq (List.mem_singleton.2 hk)

theorem Reported.keeps_account (he : Reported s event s') {output : AccountOutput}
    (h : s.Holds (.account output)) : s'.Holds (.account output) := by
  have hframe := fun hq => (he.frame (q := .account output) hq).2 h
  cases he with
  | outputBorn fresh => exact (account_birth fresh).2 (.inr h)
  | _ => exact hframe (by simp [Event.touches, Record.key, Key.kind])

end

/-! ## Calls -/

namespace Operation

/-- The event that a call leaves, if any. -/
def event? (rules : Rules) (op : Operation) (l : Ledger) : Option Event :=
  match op with
  | deliver block m => (Ledger.deliver rules block m l).1.toOption
  | deliverEnvelope block e => (Ledger.deliverEnvelope rules block e l).1.toOption
  | _ => none

/-- The batch of events that a call hands out: all there are, if it drains them. -/
def drained (op : Operation) (l : Ledger) : List Event :=
  match op with
  | drain => (Ledger.drain l).1
  | _ => []

end Operation

namespace Ledger

variable {rules : Rules} {l : Ledger}

theorem events_deliver (block : Block) (m : Message) :
    (deliver rules block m l).2.events =
      l.events ++ (deliver rules block m l).1.toOption.toList := by
  cases h : deliver rules block m l with
  | mk outcome l' =>
    cases outcome with
    | ok event => exact (deliver_ok h).2
    | error e =>
      rw [deliver_error h]
      exact (List.append_nil _).symm

theorem events_deliverEnvelope (block : Block) (e : Envelope) :
    (deliverEnvelope rules block e l).2.events =
      l.events ++ (deliverEnvelope rules block e l).1.toOption.toList := by
  rcases deliverEnvelope_cases rules block e l with ⟨error, he⟩ | ⟨m, -, he⟩
  · rw [he]
    exact (List.append_nil _).symm
  · rw [he]
    exact events_deliver block m

/-- A delivery that leaves an event has written what the event reports, and any other nothing. -/
theorem reported_deliver (hs : l.store.Sound) (block : Block) (m : Message) :
    match (deliver rules block m l).1.toOption with
    | some event => Reported l.store event (deliver rules block m l).2.store
    | none => (deliver rules block m l).2.store = l.store := by
  cases h : deliver rules block m l with
  | mk outcome l' =>
    cases outcome with
    | ok event => exact reported_of_accept hs (deliver_ok h).1
    | error e => exact congrArg store (deliver_error h)

end Ledger

namespace Operation

variable {rules : Rules} {l : Ledger}

/-- A call takes out the events that it drains and puts in the one that it leaves. -/
theorem events_perform (op : Operation) :
    op.drained l ++ (op.perform rules l).events = l.events ++ (op.event? rules l).toList := by
  cases op with
  | deliver block m => exact Ledger.events_deliver block m
  | deliverEnvelope block e => exact Ledger.events_deliverEnvelope block e
  | fund address coin =>
    have hl : (perform rules (.fund address coin) l).events = l.events := by
      rw [perform, Ledger.fund]
      cases l.bank.credit address coin <;> rfl
    rw [hl]
    exact (List.append_nil _).symm
  | advance address => exact (List.append_nil _).symm
  | drain => rfl

/-- The store after a call is what the event of the call reports, and as it was if there is none. -/
theorem reported_perform (rules : Rules) (hs : l.store.Sound) (op : Operation) :
    match op.event? rules l with
    | some event => Reported l.store event (op.perform rules l).store
    | none => (op.perform rules l).store = l.store := by
  cases op with
  | deliver block m => exact Ledger.reported_deliver hs block m
  | deliverEnvelope block e =>
    rw [event?, perform]
    rcases Ledger.deliverEnvelope_cases rules block e l with ⟨error, he⟩ | ⟨m, -, he⟩
    · rw [he]
      rfl
    · rw [he]
      exact Ledger.reported_deliver hs block m
  | fund address coin =>
    change (perform rules (.fund address coin) l).store = l.store
    rw [perform, Ledger.fund]
    cases l.bank.credit address coin <;> rfl
  | advance address => rfl
  | drain => rfl

end Operation

/-! ## The log of a run -/

namespace Ledger

/-- The batches that a sequence of calls drains, one after the other. -/
def drained (rules : Rules) : Ledger → List Operation → List Event
  | _, [] => []
  | l, op :: ops => op.drained l ++ drained rules (op.perform rules l) ops

/-- All the events of a run: those that were drained on the way, and those still there at the end. -/
def log (rules : Rules) (ops : List Operation) : List Event :=
  drained rules empty ops ++ (run rules ops).events

theorem drained_append (rules : Rules) (l : Ledger) (ops more : List Operation) :
    drained rules l (ops ++ more) =
      drained rules l ops ++ drained rules (perform rules l ops) more := by
  induction ops generalizing l with
  | nil => rfl
  | cons op ops ih =>
    rw [List.cons_append, drained, drained, ih, List.append_assoc]
    rfl

/-- A call adds its event to the log, and nothing else. -/
theorem log_concat (rules : Rules) (ops : List Operation) (op : Operation) :
    log rules (ops ++ [op]) = log rules ops ++ (op.event? rules (run rules ops)).toList := by
  have hlast : drained rules (run rules ops) [op] = op.drained (run rules ops) :=
    List.append_nil _
  rw [log, log, run_concat, drained_append, ← run, hlast, List.append_assoc, op.events_perform,
    List.append_assoc]

end Ledger

end Settlement
