import Settlement.Proofs.Handlers
import Settlement.Proofs.Record

/-!
# What an accepted message does

In a sound store the checks of a handler speak of records, and its writes are writes of records. `Effect`
says for each kind of message what has held before and which records and accounts have changed after. All
that is said about accepted messages follows from it by cases.

Results:
* `effect_of_accept`: what an accepted message has done in a sound store.
* `accept_of_effect`: what can be done in a sound store is accepted.
* `Effect.sound`: the store is sound afterwards.
-/
namespace Settlement

open Store
open Unspent (AccountOutput)

/-! ## Look-ups by handlers -/

namespace Store

variable {s : Store}

theorem has_eq_false_iff {n : Namespace} {key : Bytes} :
    ¬ n.has s key ↔ s.get? (n.full key) = none := by
  unfold Namespace.has Table.contains
  rw [Option.not_isSome_iff_eq_none]

theorem Sound.has_point (hs : s.Sound) (p : OutPoint) :
    Unspent.space.has s (Unspent.outPointKey p) = true ↔ s.Holds (.point p) := by
  unfold Namespace.has Table.contains
  rw [Option.isSome_iff_exists]
  constructor
  · rintro ⟨value, hv⟩
    rcases hs.get? (.point p) with hn | ⟨r, hk, hr⟩
    · exact absurd (hv.symm.trans hn) (by simp)
    · obtain ⟨q, hq⟩ := Option.isSome_iff_exists.1
        ((pointShelf.pick_kind r).2 (congrArg Key.kind hk))
      obtain rfl := (pointShelf.pick_iff r q).1 hq
      cases hk
      exact hr
  · intro h
    exact ⟨_, h⟩

theorem Holds.contract_unique {a b : HashLock.Contract} (ha : s.Holds (.contract a))
    (hb : s.Holds (.contract b)) (h : a.hash = b.hash) : a = b :=
  Record.contract.inj (ha.unique hb (congrArg Key.contract h))

theorem Holds.escrow_unique {a b : Escrow.Contract} (ha : s.Holds (.escrow a))
    (hb : s.Holds (.escrow b)) (h : a.id = b.id) : a = b :=
  Record.escrow.inj (ha.unique hb (congrArg Key.escrow h))

theorem Sound.of_find (hs : s.Sound) {hash : Digest} {contract : HashLock.Contract}
    (h : HashLock.find s hash = .ok contract) :
    s.Holds (.contract contract) ∧ contract.hash = hash := by
  obtain ⟨hk, hh⟩ := hs.of_load contractShelf (k := .contract hash) rfl rfl
    (HashLock.find_ok_iff.1 h)
  exact ⟨hh, Key.contract.inj hk⟩

theorem Holds.findContract {contract : HashLock.Contract} (h : s.Holds (.contract contract)) :
    HashLock.find s contract.hash = .ok contract :=
  HashLock.find_ok_iff.2 (h.load contractShelf rfl)

theorem Holds.findOpen {contract : HashLock.Contract} (h : s.Holds (.contract contract))
    (hc : contract.status = .created) : HashLock.findOpen s contract.hash = .ok contract :=
  HashLock.findOpen_ok_iff.2 ⟨h.load contractShelf rfl, hc⟩

theorem Sound.findContract (hs : s.Sound) {hash : Digest} {contract : HashLock.Contract}
    (h : HashLock.findOpen s hash = .ok contract) :
    s.Holds (.contract contract) ∧ contract.hash = hash ∧ contract.status = .created := by
  obtain ⟨hl, hc⟩ := HashLock.findOpen_ok_iff.1 h
  obtain ⟨hh, hk⟩ := hs.of_find (HashLock.find_ok_iff.2 hl)
  exact ⟨hh, hk, hc⟩

theorem Sound.findEscrow (hs : s.Sound) {id : EscrowId} {contract : Escrow.Contract}
    (h : Escrow.find s id = .ok contract) :
    s.Holds (.escrow contract) ∧ contract.id = id := by
  obtain ⟨hk, hh⟩ := hs.of_load escrowShelf (k := .escrow id) rfl rfl (Escrow.find_ok_iff.1 h)
  exact ⟨hh, Key.escrow.inj hk⟩

theorem Holds.findEscrow {contract : Escrow.Contract} (h : s.Holds (.escrow contract)) :
    Escrow.find s contract.id = .ok contract :=
  Escrow.find_ok_iff.2 (h.load escrowShelf rfl)

/-- A contract is found if one is on record under its digest, and is otherwise not there. -/
theorem Sound.contract_cases (hs : s.Sound) (hash : Digest) :
    (∃ contract, HashLock.find s hash = .ok contract ∧ s.Holds (.contract contract) ∧
      contract.hash = hash) ∨
    HashLock.find s hash = .error (.notFound hash) ∧
      ∀ contract, s.Holds (.contract contract) → contract.hash ≠ hash := by
  rcases hs.load contractShelf (k := .contract hash) rfl rfl with ⟨hl, hn⟩ | ⟨contract, hk, hh, hl⟩
  · have hload : HashLock.space.load HashLock.Contract.codec s (HashLock.contractKey hash) =
        .ok none := hl
    refine .inr ⟨by simp only [HashLock.find, hload], fun contract hh hk => ?_⟩
    have hkey : (Record.contract contract).key = .contract hash := congrArg Key.contract hk
    exact not_holds_of_none hn hkey hh
  · exact .inl ⟨contract, HashLock.find_ok_iff.2 hl, hh, Key.contract.inj hk⟩

theorem Sound.escrow_cases (hs : s.Sound) (id : EscrowId) :
    (∃ contract, Escrow.find s id = .ok contract ∧ s.Holds (.escrow contract) ∧
      contract.id = id) ∨
    Escrow.find s id = .error (.notFound id) ∧
      ∀ contract, s.Holds (.escrow contract) → contract.id ≠ id := by
  rcases hs.load escrowShelf (k := .escrow id) rfl rfl with ⟨hl, hn⟩ | ⟨contract, hk, hh, hl⟩
  · have hload : Escrow.space.load Escrow.Contract.codec s (Escrow.contractKey id) =
        .ok none := hl
    refine .inr ⟨by simp only [Escrow.find, hload], fun contract hh hk => ?_⟩
    have hkey : (Record.escrow contract).key = .escrow id := congrArg Key.escrow hk
    exact not_holds_of_none hn hkey hh
  · exact .inl ⟨contract, Escrow.find_ok_iff.2 hl, hh, Key.escrow.inj hk⟩

/-! ## Writes by handlers -/

theorem addAccountOutput_eq (s : Store) (output : AccountOutput) :
    Unspent.addAccountOutput s output =
      (s.write (.account output)).write (.point (.ofBirth output.id)) := rfl

theorem storeContract_eq (s : Store) {hash : Digest} (contract : HashLock.Contract)
    (h : contract.hash = hash) : HashLock.store s hash contract = s.write (.contract contract) := by
  subst h
  rfl

theorem storeEscrow_eq (s : Store) {id : EscrowId} (contract : Escrow.Contract)
    (h : contract.id = id) : Escrow.store s id contract = s.write (.escrow contract) := by
  subst h
  rfl

theorem deleteEscrow_eq (s : Store) {id : EscrowId} {contract : Escrow.Contract}
    (h : contract.id = id) :
    Escrow.space.delete s (Escrow.contractKey id) = s.remove (.escrow contract.id) := by
  subst h
  rfl

end Store

/-! ## The effects -/

/-- What holds if a message is accepted, and what it leaves. -/
inductive Effect (rules : Rules) (block : Block) (c : Custody) : Message → Custody → Prop
  | birth {m : Unspent.Birth} {output : AccountOutput} {bank : Bank}
      (valid : m.validate = .ok ())
      (denom : m.amount.denom = rules.config.nativeDenom)
      (born : output = m.output block (c.bank.sequence m.owner))
      (fresh : c.store.get? (Key.account output.id).bytes = none)
      (paid : c.bank.debit m.owner m.amount = .ok bank) :
      Effect rules block c (.birth m)
        ⟨(c.store.write (.account output)).write (.point (.ofBirth output.id)), bank⟩
  | spend {m : Unspent.Spend} {input : Input} {value : Amount}
      (valid : m.validate = .ok ())
      (only : m.tx.inputs = [input])
      (canonical : m.tx.isCanonical)
      (live : c.store.Holds (.point input.point))
      (owned : Unspent.resolve c.store input.point = .ok (value, m.signer))
      (even : m.tx.outputValue? = some value)
      (authorized :
        Unspent.authorize rules.config rules.verifier input m.tx.hash m.signer = .ok ()) :
      Effect rules block c (.spend m)
        ⟨Unspent.applyTransaction c.store m.tx input.point, c.bank⟩
  | addContract {m : HashLock.Add} {bank : Bank}
      (valid : m.validate = .ok ())
      (fresh : c.store.get? (Key.contract m.hash).bytes = none)
      (paid : c.bank.debit m.timeoutAddress m.amount = .ok bank) :
      Effect rules block c (.addContract m) ⟨c.store.write (.contract (m.contract block)), bank⟩
  | redeemContract {m : HashLock.Redeem} {contract : HashLock.Contract} {bank : Bank}
      (valid : m.validate = .ok ())
      (held : c.store.Holds (.contract contract))
      (unlocked : contract.hash = HashLock.lockOf m.preimage)
      (unresolved : contract.status = .created)
      (caller : m.caller = contract.redeemAddress)
      (inTime : ¬ contract.isExpired block.height)
      (paid : c.bank.credit contract.redeemAddress contract.amount = .ok bank) :
      Effect rules block c (.redeemContract m)
        ⟨c.store.write (.contract { contract with status := .redeemed }), bank⟩
  | failContract {m : HashLock.Fail} {contract : HashLock.Contract} {bank : Bank}
      (valid : m.validate = .ok ())
      (held : c.store.Holds (.contract contract))
      (named : contract.hash = m.hash)
      (unresolved : contract.status = .created)
      (caller : m.caller = contract.timeoutAddress)
      (expired : contract.isExpired block.height)
      (paid : c.bank.credit contract.timeoutAddress contract.amount = .ok bank) :
      Effect rules block c (.failContract m)
        ⟨c.store.write (.contract { contract with status := .failed }), bank⟩
  | initEscrow {m : Escrow.Init} {bank : Bank}
      (valid : m.validate = .ok ())
      (fresh : c.store.get? (Key.escrow m.id).bytes = none)
      (apart : m.partyA ≠ m.partyB)
      (positiveA : m.shareA.isPositive)
      (positiveB : m.shareB.isPositive)
      (denom : m.shareA.sameDenom m.shareB)
      (paid : c.bank.debit m.partyA m.shareA = .ok bank) :
      Effect rules block c (.initEscrow m) ⟨c.store.write (.escrow m.contract), bank⟩
  | abortEscrow {m : Escrow.Abort} {contract : Escrow.Contract} {bank : Bank}
      (valid : m.validate = .ok ())
      (held : c.store.Holds (.escrow contract))
      (named : contract.id = m.id)
      (unjoined : contract.stage = .created)
      (caller : m.caller = contract.partyA)
      (paid : c.bank.credit contract.partyA contract.balance = .ok bank) :
      Effect rules block c (.abortEscrow m) ⟨c.store.remove (.escrow contract.id), bank⟩
  | joinEscrow {m : Escrow.Join} {contract : Escrow.Contract} {balance : Coin} {bank : Bank}
      (valid : m.validate = .ok ())
      (held : c.store.Holds (.escrow contract))
      (named : contract.id = m.id)
      (unjoined : contract.stage = .created)
      (caller : m.caller = contract.partyB)
      (share : m.amount = contract.shareB)
      (sum : contract.balance.add m.amount = .ok balance)
      (paid : c.bank.debit contract.partyB m.amount = .ok bank) :
      Effect rules block c (.joinEscrow m)
        ⟨c.store.write (.escrow { contract with balance, stage := .locked }), bank⟩
  | spendEscrow {m : Escrow.Spend} {contract : Escrow.Contract} {remaining : Coin} {bank : Bank}
      (valid : m.validate = .ok ())
      (held : c.store.Holds (.escrow contract))
      (named : contract.id = m.id)
      (locked : contract.stage = .locked)
      (callers : m.callerA = contract.partyA ∧ m.callerB = contract.partyB)
      (denom : m.amount.sameDenom contract.balance)
      (difference : contract.balance.sub m.amount = .ok remaining)
      (paid : c.bank.credit m.payee m.amount = .ok bank) :
      Effect rules block c (.spendEscrow m)
        ⟨c.store.write (.escrow { contract with balance := remaining }), bank⟩

theorem exec_part_ok_iff {ε δ α β : Type} {x : Action Custody ε α} {f : ε → δ} {g : α → β}
    {c c' : Custody} {event : β} :
    Action.exec (g <$> (ExceptT.adapt f x : Action Custody δ α)) c = (.ok event, c') ↔
      ∃ a, x.exec c = (.ok a, c') ∧ g a = event := by
  rw [Action.exec_map, Action.exec_adapt]
  cases x.exec c with
  | mk outcome t =>
    cases outcome with
    | error e => simp [Except.map]
    | ok a =>
      simp only [Except.map, mapError_ok_eq, Prod.mk.injEq, Except.ok.injEq]
      constructor
      · rintro ⟨he, ht⟩
        exact ⟨a, ⟨rfl, ht⟩, he⟩
      · rintro ⟨a', ⟨rfl, ht⟩, he⟩
        exact ⟨he, ht⟩

theorem exec_part_error {ε δ α β : Type} {x : Action Custody ε α} {c c' : Custody} {e : ε}
    (h : x.exec c = (.error e, c')) (f : ε → δ) (g : α → β) :
    Action.exec (g <$> (ExceptT.adapt f x : Action Custody δ α)) c = (.error (f e), c') := by
  rw [Action.exec_map, Action.exec_adapt, h]
  rfl

/-- What an accepted message has done in a sound store. -/
theorem effect_of_accept {rules : Rules} {block : Block} {m : Message} {c c' : Custody}
    {event : Event} (hs : c.store.Sound)
    (h : (Ledger.execute rules block m).exec c = (.ok event, c')) : Effect rules block c m c' := by
  cases m with
  | birth m =>
    obtain ⟨report, h, -⟩ := exec_part_ok_iff.1 h
    obtain ⟨hv, hd, output, ho, hn, bank, hb, -, rfl⟩ := Unspent.birth_ok_iff.1 h
    rw [addAccountOutput_eq]
    exact .birth hv hd ho (has_eq_false_iff.1 hn) hb
  | spend m =>
    obtain ⟨report, h, -⟩ := exec_part_ok_iff.1 h
    obtain ⟨hv, input, hi, hc, hl, value, spender, hr, ht, rfl, ha, -, rfl⟩ :=
      Unspent.spend_ok_iff.1 h
    exact .spend hv hi hc ((hs.has_point _).1 hl) hr ht ha
  | addContract m =>
    obtain ⟨report, h, -⟩ := exec_part_ok_iff.1 h
    obtain ⟨hv, hn, bank, hb, -, rfl⟩ := HashLock.add_ok_iff.1 h
    rw [storeContract_eq c.store (m.contract block) (show _ = m.hash from rfl)]
    exact .addContract hv (has_eq_false_iff.1 hn) hb
  | redeemContract m =>
    obtain ⟨report, h, -⟩ := exec_part_ok_iff.1 h
    obtain ⟨hv, contract, hf, hc, ht, bank, hb, -, rfl⟩ := HashLock.redeem_ok_iff.1 h
    obtain ⟨hh, hk, ho⟩ := hs.findContract hf
    rw [storeContract_eq c.store { contract with status := .redeemed } hk]
    exact .redeemContract hv hh hk ho hc ht hb
  | failContract m =>
    obtain ⟨report, h, -⟩ := exec_part_ok_iff.1 h
    obtain ⟨hv, contract, hf, hc, ht, bank, hb, -, rfl⟩ := HashLock.fail_ok_iff.1 h
    obtain ⟨hh, hk, ho⟩ := hs.findContract hf
    rw [storeContract_eq c.store { contract with status := .failed } hk]
    exact .failContract hv hh hk ho hc ht hb
  | initEscrow m =>
    obtain ⟨report, h, -⟩ := exec_part_ok_iff.1 h
    obtain ⟨hv, hn, hp, ha, hb, hd, bank, hbank, -, rfl⟩ := Escrow.init_ok_iff.1 h
    rw [storeEscrow_eq c.store m.contract (show _ = m.id from rfl)]
    exact .initEscrow hv (has_eq_false_iff.1 hn) hp ha hb hd hbank
  | abortEscrow m =>
    obtain ⟨report, h, -⟩ := exec_part_ok_iff.1 h
    obtain ⟨hv, contract, hf, ho, hc, bank, hb, -, rfl⟩ := Escrow.abort_ok_iff.1 h
    obtain ⟨hh, hk⟩ := hs.findEscrow hf
    rw [deleteEscrow_eq c.store hk]
    exact .abortEscrow hv hh hk ho hc hb
  | joinEscrow m =>
    obtain ⟨report, h, -⟩ := exec_part_ok_iff.1 h
    obtain ⟨hv, contract, hf, ho, hc, ha, balance, hsum, bank, hb, -, rfl⟩ := Escrow.join_ok_iff.1 h
    obtain ⟨hh, hk⟩ := hs.findEscrow hf
    rw [storeEscrow_eq c.store { contract with balance, stage := .locked } hk]
    exact .joinEscrow hv hh hk ho hc ha hsum hb
  | spendEscrow m =>
    obtain ⟨report, h, -⟩ := exec_part_ok_iff.1 h
    obtain ⟨hv, contract, hf, ho, hc, hd, remaining, hsub, bank, hb, -, rfl⟩ :=
      Escrow.spend_ok_iff.1 h
    obtain ⟨hh, hk⟩ := hs.findEscrow hf
    rw [storeEscrow_eq c.store { contract with balance := remaining } hk]
    exact .spendEscrow hv hh hk ho hc hd hsub hb

/-- In a sound store a message that can have an effect is accepted and has it. -/
theorem accept_of_effect {rules : Rules} {block : Block} {m : Message} {c c' : Custody}
    (hs : c.store.Sound) (he : Effect rules block c m c') :
    ∃ event, (Ledger.execute rules block m).exec c = (.ok event, c') := by
  cases he with
  | birth valid denom born fresh paid =>
    exact ⟨_, exec_part_ok_iff.2 ⟨_, Unspent.birth_ok_iff.2
      ⟨valid, denom, _, born, has_eq_false_iff.2 fresh, _, paid, rfl, rfl⟩, rfl⟩⟩
  | spend valid only canonical live owned even authorized =>
    exact ⟨_, exec_part_ok_iff.2 ⟨_, Unspent.spend_ok_iff.2 ⟨valid, _, only, canonical,
      (hs.has_point _).2 live, _, _, owned, even, rfl, authorized, rfl, rfl⟩, rfl⟩⟩
  | addContract valid fresh paid =>
    exact ⟨_, exec_part_ok_iff.2 ⟨_, HashLock.add_ok_iff.2
      ⟨valid, has_eq_false_iff.2 fresh, _, paid, rfl, rfl⟩, rfl⟩⟩
  | @redeemContract m contract bank valid held unlocked unresolved caller inTime paid =>
    have hf := held.findOpen unresolved
    rw [unlocked] at hf
    rw [← storeContract_eq c.store { contract with status := .redeemed } unlocked]
    exact ⟨_, exec_part_ok_iff.2 ⟨_, HashLock.redeem_ok_iff.2
      ⟨valid, contract, hf, caller, inTime, bank, paid, rfl, rfl⟩, rfl⟩⟩
  | @failContract m contract bank valid held named unresolved caller expired paid =>
    have hf := held.findOpen unresolved
    rw [named] at hf
    rw [← storeContract_eq c.store { contract with status := .failed } named]
    exact ⟨_, exec_part_ok_iff.2 ⟨_, HashLock.fail_ok_iff.2
      ⟨valid, contract, hf, caller, expired, bank, paid, rfl, rfl⟩, rfl⟩⟩
  | initEscrow valid fresh apart positiveA positiveB denom paid =>
    exact ⟨_, exec_part_ok_iff.2 ⟨_, Escrow.init_ok_iff.2 ⟨valid, has_eq_false_iff.2 fresh, apart,
      positiveA, positiveB, denom, _, paid, rfl, rfl⟩, rfl⟩⟩
  | @abortEscrow m contract bank valid held named unjoined caller paid =>
    have hf := held.findEscrow
    rw [named] at hf
    rw [← deleteEscrow_eq c.store named]
    exact ⟨_, exec_part_ok_iff.2 ⟨_, Escrow.abort_ok_iff.2
      ⟨valid, contract, hf, unjoined, caller, bank, paid, rfl, rfl⟩, rfl⟩⟩
  | @joinEscrow m contract balance bank valid held named unjoined caller share sum paid =>
    have hf := held.findEscrow
    rw [named] at hf
    rw [← storeEscrow_eq c.store { contract with balance, stage := .locked } named]
    exact ⟨_, exec_part_ok_iff.2 ⟨_, Escrow.join_ok_iff.2
      ⟨valid, contract, hf, unjoined, caller, share, balance, sum, bank, paid, rfl, rfl⟩, rfl⟩⟩
  | @spendEscrow m contract remaining bank valid held named locked callers denom difference paid =>
    have hf := held.findEscrow
    rw [named] at hf
    rw [← storeEscrow_eq c.store { contract with balance := remaining } named]
    exact ⟨_, exec_part_ok_iff.2 ⟨_, Escrow.spend_ok_iff.2 ⟨valid, contract, hf, locked, callers,
      denom, remaining, difference, bank, paid, rfl, rfl⟩, rfl⟩⟩

/-- A message that can have an effect is accepted when it is delivered, and has it. -/
theorem Ledger.deliver_of_effect {rules : Rules} {block : Block} {m : Message} {l : Ledger}
    {c' : Custody} (hs : l.store.Sound) (he : Effect rules block l.custody m c') :
    ∃ event, deliver rules block m l = (.ok event, ⟨c', l.events ++ [event]⟩) := by
  obtain ⟨event, hx⟩ := accept_of_effect hs he
  refine ⟨event, ?_⟩
  unfold deliver
  rw [hx]

end Settlement
