import Settlement.Proofs.DoubleSpend

/-!
# The life of a hash-locked contract

Under one digest there is at most one contract, and it goes one way: it is opened, and then it is redeemed
or failed, once. Contracts of other digests, escrows, outpoints and whatever the host does with the bank
do not touch it. What an accepted message does to the contract of a digest is one of three things
(`Turn`): nothing, opening it where there was none, or resolving it where it was unresolved. That a contract
stays and that it was resolved last in a run, and each can begin only where it did not hold before, so it
begins at most once.

Results:
* `Effect.turn`: what an accepted message does to the contract of a digest.
* `Ledger.exists_resolving`: a resolved contract was resolved in an earlier call, which has paid it out.
* `Ledger.contract_lifecycle`: the life of the contract of a digest over a whole run.
-/
namespace Settlement

open HashLock (Contract)

/-! ## Messages about a contract -/

namespace Message

/-- The digest that a message opens a contract for. -/
def opens? : Message → Option Digest
  | addContract m => some m.hash
  | _ => none

/-- The digest whose contract a message resolves. -/
def resolves? : Message → Option Digest
  | redeemContract m => some (HashLock.lockOf m.preimage)
  | failContract m => some m.hash
  | _ => none

theorem resolves?_of_opens? {m : Message} {hash : Digest} (h : m.opens? = some hash) :
    m.resolves? = none := by
  cases m with
  | addContract m => rfl
  | _ => cases h

end Message

/-- Who has been paid the amount of a contract. -/
def HashLock.Contract.payee? (c : Contract) : Option Address :=
  match c.status with
  | .created => none
  | .redeemed => some c.redeemAddress
  | .failed => some c.timeoutAddress

theorem HashLock.Contract.payee?_eq_none_iff {c : Contract} :
    c.payee? = none ↔ c.status = .created := by
  unfold payee?
  cases c.status <;> simp

/-! ## What an accepted message does to the contract of a digest -/

/-- What a call does to the contract of a digest, with the message that it has accepted, if any. -/
inductive Turn (hash : Digest) (c c' : Custody) : Option Message → Prop
  | elsewhere {accepted : Option Message}
      (quiet : ∀ m, accepted = some m → m.opens? ≠ some hash ∧ m.resolves? ≠ some hash)
      (same : ∀ contract : Contract, contract.hash = hash →
        (c'.store.Holds (.contract contract) ↔ c.store.Holds (.contract contract))) :
      Turn hash c c' accepted
  | opened {m : Message} {contract : Contract} (opens : m.opens? = some hash)
      (absent : ∀ other : Contract, c.store.Holds (.contract other) → other.hash ≠ hash)
      (held : c'.store.Holds (.contract contract)) (named : contract.hash = hash)
      (unresolved : contract.status = .created)
      (paid : c.bank.debit contract.timeoutAddress contract.amount = .ok c'.bank) :
      Turn hash c c' (some m)
  | resolved {m : Message} {contract : Contract} {status : HashLock.Status} {payee : Address}
      (resolves : m.resolves? = some hash) (held : c.store.Holds (.contract contract))
      (named : contract.hash = hash) (unresolved : contract.status = .created)
      (left : c'.store.Holds (.contract { contract with status }))
      (due : Contract.payee? { contract with status } = some payee)
      (paid : c.bank.credit payee contract.amount = .ok c'.bank) :
      Turn hash c c' (some m)

section

variable {rules : Rules} {block : Block} {c c' : Custody} {m : Message}

theorem Turn.of_frame {hash : Digest} (hopens : m.opens? ≠ some hash)
    (hresolves : m.resolves? ≠ some hash)
    (hs : ∀ contract : Contract, contract.hash = hash →
      (c'.store.Holds (.contract contract) ↔ c.store.Holds (.contract contract))) :
    Turn hash c c' (some m) := by
  refine .elsewhere (fun m' hm => ?_) hs
  rw [← Option.some.inj hm]
  exact ⟨hopens, hresolves⟩

/-- Writing the contract of one digest leaves that of another as it is. -/
theorem holds_write_contract {s : Store} {contract written : Contract}
    (h : contract.hash ≠ written.hash) :
    (s.write (.contract written)).Holds (.contract contract) ↔ s.Holds (.contract contract) :=
  Store.holds_write_of_key fun hk => h (Key.contract.inj hk)

theorem Effect.turn (he : Effect rules block c m c') (hash : Digest) :
    Turn hash c c' (some m) := by
  cases he with
  | @addContract m bank valid fresh paid =>
    by_cases hm : m.hash = hash
    · subst hm
      refine .opened rfl ?_ Store.holds_write_self rfl rfl paid
      intro other hother hk
      have hkey : (Record.contract other).key = .contract m.hash := congrArg Key.contract hk
      exact Store.not_holds_of_none fresh hkey hother
    · refine .of_frame (fun h => hm (Option.some.inj h)) (by simp [Message.resolves?]) ?_
      rintro contract rfl
      exact holds_write_contract fun he => hm he.symm
  | @redeemContract m contract bank valid held unlocked unresolved caller inTime paid =>
    by_cases hm : contract.hash = hash
    · have hresolves : Message.resolves? (.redeemContract m) = some hash := by
        rw [← hm, unlocked, Message.resolves?]
      exact .resolved hresolves held hm unresolved Store.holds_write_self rfl paid
    · refine .of_frame (by simp [Message.opens?]) ?_ ?_
      · intro h
        exact hm (unlocked.trans (Option.some.inj h))
      · rintro other rfl
        exact holds_write_contract fun he => hm he.symm
  | @failContract m contract bank valid held named unresolved caller expired paid =>
    by_cases hm : contract.hash = hash
    · have hresolves : Message.resolves? (.failContract m) = some hash := by
        rw [← hm, named, Message.resolves?]
      exact .resolved hresolves held hm unresolved Store.holds_write_self rfl paid
    · refine .of_frame (by simp [Message.opens?]) ?_ ?_
      · intro h
        exact hm (named.trans (Option.some.inj h))
      · rintro other rfl
        exact holds_write_contract fun he => hm he.symm
  | birth valid denom born fresh paid =>
    refine .of_frame (by simp [Message.opens?]) (by simp [Message.resolves?]) fun contract _ => ?_
    rw [Store.holds_write_of_kind (by simp [Record.key, Key.kind]),
      Store.holds_write_of_kind (by simp [Record.key, Key.kind])]
  | spend valid only canonical live owned even authorized =>
    refine .of_frame (by simp [Message.opens?]) (by simp [Message.resolves?]) fun contract _ => ?_
    rw [Unspent.holds_applyTransaction_of_kind (by simp [Record.key, Key.kind])]
    simp
  | abortEscrow valid held named unjoined caller paid =>
    exact .of_frame (by simp [Message.opens?]) (by simp [Message.resolves?]) fun contract _ =>
      Store.holds_remove_of_kind (by simp [Record.key, Key.kind])
  | _ =>
    exact .of_frame (by simp [Message.opens?]) (by simp [Message.resolves?]) fun contract _ =>
      Store.holds_write_of_kind (by simp [Record.key, Key.kind])

end

/-! ## Calls -/

/-- A message, if it is accepted. -/
def Ledger.accepts? (rules : Rules) (block : Block) (m : Message) (l : Ledger) : Option Message :=
  match (deliver rules block m l).1 with
  | .ok _ => some m
  | .error _ => none

/-- The message that a call delivers, if it is accepted. -/
def Operation.accepted? (rules : Rules) (op : Operation) (l : Ledger) : Option Message :=
  op.message?.bind fun d => Ledger.accepts? rules d.1 d.2 l

/-- A delivery that is not accepted changes nothing. -/
theorem Operation.perform_of_not_accepted {rules : Rules} {l : Ledger} (op : Operation)
    {block : Block} {m : Message} (hread : op.message? = some (block, m))
    (h : op.accepted? rules l = none) : op.perform rules l = l := by
  rw [op.perform_of_message? hread]
  rw [accepted?, hread, Option.bind_some, Ledger.accepts?] at h
  cases hd : Ledger.deliver rules block m l with
  | mk outcome l' =>
    rw [hd] at h
    cases outcome with
    | ok event => cases h
    | error e => exact Ledger.deliver_error hd

/-- What a call leaves, with the message that it has accepted, if any: the effect of that message, or the
records as they were. -/
inductive Outcome (rules : Rules) (c c' : Custody) : Option Message → Prop
  | accepted {block : Block} {m : Message} (effect : Effect rules block c m c') :
      Outcome rules c c' (some m)
  | quiet (same : c'.store = c.store) : Outcome rules c c' none

theorem Ledger.outcome_deliver {rules : Rules} {l : Ledger} (hs : l.store.Sound) (block : Block)
    (m : Message) :
    Outcome rules l.custody (Ledger.deliver rules block m l).2.custody
      (Ledger.accepts? rules block m l) := by
  unfold accepts?
  cases h : Ledger.deliver rules block m l with
  | mk outcome l' =>
    cases outcome with
    | ok event => exact .accepted (effect_of_accept hs (Ledger.deliver_ok h).1)
    | error e =>
      rw [Ledger.deliver_error h]
      exact .quiet rfl

theorem Operation.outcome (rules : Rules) {l : Ledger} (hs : l.store.Sound) (op : Operation) :
    Outcome rules l.custody (op.perform rules l).custody (op.accepted? rules l) := by
  cases op with
  | deliver block m => exact Ledger.outcome_deliver hs block m
  | deliverEnvelope block e =>
    rw [accepted?, message?, perform, Ledger.deliverEnvelope]
    cases e.read with
    | ok m => exact Ledger.outcome_deliver hs block m
    | error error => exact .quiet rfl
  | fund address coin =>
    refine .quiet ?_
    rw [perform, Ledger.fund]
    cases l.bank.credit address coin <;> rfl
  | advance address => exact .quiet rfl
  | drain => exact .quiet rfl

def Ledger.Accepts (rules : Rules) (block : Block) (m : Message) (l : Ledger) : Prop :=
  ∃ event, (deliver rules block m l).1 = .ok event

theorem Ledger.accepts?_eq_some_iff {rules : Rules} {block : Block} {m : Message} {l : Ledger} :
    accepts? rules block m l = some m ↔ Accepts rules block m l := by
  unfold accepts? Accepts
  cases (deliver rules block m l).1 <;> simp

theorem Ledger.accepts_iff_effect {rules : Rules} {block : Block} {m : Message} {l : Ledger}
    (hs : l.store.Sound) :
    Accepts rules block m l ↔ ∃ c', Effect rules block l.custody m c' := by
  constructor
  · intro ⟨event, hok⟩
    have hd : deliver rules block m l = (.ok event, (deliver rules block m l).2) :=
      Prod.ext hok rfl
    exact ⟨_, effect_of_accept hs (deliver_ok hd).1⟩
  · intro ⟨c', he⟩
    obtain ⟨event, hd⟩ := deliver_of_effect hs he
    exact ⟨event, congrArg Prod.fst hd⟩

theorem Operation.accepted?_eq_some_iff {rules : Rules} {l : Ledger} (hs : l.store.Sound)
    {op : Operation} {block : Block} {m : Message} (hread : op.message? = some (block, m)) :
    op.accepted? rules l = some m ↔ ∃ c', Effect rules block l.custody m c' := by
  rw [accepted?, hread, Option.bind_some, Ledger.accepts?_eq_some_iff,
    Ledger.accepts_iff_effect hs]

theorem Outcome.turn {rules : Rules} {c c' : Custody} {accepted : Option Message}
    (h : Outcome rules c c' accepted) (hash : Digest) : Turn hash c c' accepted := by
  cases h with
  | accepted effect => exact effect.turn hash
  | quiet same =>
    refine .elsewhere (fun m hm => nomatch hm) fun contract _ => ?_
    rw [same]

/-! ## Messages that come too late -/

namespace HashLock

variable {c : Custody} {contract : Contract}

theorem add_of_found (block : Block) {m : Add} (hv : m.validate = .ok ())
    (hh : c.store.Holds (.contract contract)) (hm : contract.hash = m.hash) :
    (add block m).exec c = (.error (.duplicateHash m.hash), c) := by
  have hhas : space.has c.store (contractKey m.hash) = true := by
    have hget : c.store.get? (space.full (contractKey m.hash)) =
        some (Record.contract contract).bytes := by
      rw [← hm]
      exact hh
    rw [Namespace.has, Table.contains, hget, Option.isSome_some]
  simp only [add, Action.exec_bind, Action.exec_check, hv, Action.exec_get, Action.exec_demand,
    if_neg (not_not_intro hhas)]

theorem findOpen_of_resolved (hh : c.store.Holds (.contract contract))
    (hs : contract.status ≠ .created) :
    findOpen c.store contract.hash =
      .error (.alreadyResolved contract.hash contract.status) := by
  rw [findOpen, hh.findContract]
  simp only [bind, Except.bind, require, if_neg hs]

theorem redeem_of_resolved (block : Block) {m : Redeem} (hv : m.validate = .ok ())
    (hh : c.store.Holds (.contract contract)) (hm : contract.hash = lockOf m.preimage)
    (hs : contract.status ≠ .created) :
    (redeem block m).exec c =
      (.error (.alreadyResolved contract.hash contract.status), c) := by
  have hfind := findOpen_of_resolved hh hs
  rw [hm] at hfind ⊢
  simp only [redeem, Action.exec_bind, Action.exec_check, hv, Action.exec_get, hfind]

theorem fail_of_resolved (block : Block) {m : Fail} (hv : m.validate = .ok ())
    (hh : c.store.Holds (.contract contract)) (hm : contract.hash = m.hash)
    (hs : contract.status ≠ .created) :
    (fail block m).exec c =
      (.error (.alreadyResolved contract.hash contract.status), c) := by
  have hfind := findOpen_of_resolved hh hs
  rw [hm] at hfind ⊢
  simp only [fail, Action.exec_bind, Action.exec_check, hv, Action.exec_get, hfind]

end HashLock

namespace Ledger

/-- Both forms of a message are refused. -/
def Refuses (rules : Rules) (block : Block) (m : Message) (l : Ledger) (e : Error) : Prop :=
  (deliver rules block m l).1 = .error e ∧
    ∀ envelope : Envelope, envelope.read = .ok m →
      (deliverEnvelope rules block envelope l).1 = .error e

theorem refuses_of_deliver {rules : Rules} {block : Block} {m : Message} {l : Ledger} {e : Error}
    (h : (deliver rules block m l).1 = .error e) : Refuses rules block m l e := by
  refine ⟨h, fun envelope hread => ?_⟩
  rw [deliverEnvelope_read hread]
  exact h

variable {rules : Rules} {block : Block} {l : Ledger} {contract : Contract} {m : Message}

/-- A contract is not opened where there is one. -/
theorem refuses_opening (hh : l.store.Holds (.contract contract)) (hv : m.validate = .ok ())
    (hm : m.opens? = some contract.hash) :
    Refuses rules block m l (.hashLock (.duplicateHash contract.hash)) := by
  apply refuses_of_deliver
  cases m with
  | addContract m =>
    have hash : contract.hash = m.hash := (Option.some.inj hm).symm
    have hx := HashLock.add_of_found (c := l.custody) block (mapError_eq_ok_iff.1 hv) hh hash
    rw [hash]
    exact deliver_of_refused (exec_part_error hx _ _)
  | _ => cases hm

/-- A resolved contract is not resolved again. -/
theorem refuses_resolving (hh : l.store.Holds (.contract contract))
    (hs : contract.status ≠ .created) (hv : m.validate = .ok ())
    (hm : m.resolves? = some contract.hash) :
    Refuses rules block m l (.hashLock (.alreadyResolved contract.hash contract.status)) := by
  apply refuses_of_deliver
  cases m with
  | redeemContract m =>
    have hx := HashLock.redeem_of_resolved (c := l.custody) block
      (mapError_eq_ok_iff.1 hv) hh (Option.some.inj hm).symm hs
    exact deliver_of_refused (exec_part_error hx _ _)
  | failContract m =>
    have hx := HashLock.fail_of_resolved (c := l.custody) block
      (mapError_eq_ok_iff.1 hv) hh (Option.some.inj hm).symm hs
    exact deliver_of_refused (exec_part_error hx _ _)
  | _ => cases hm

end Ledger

/-! ## Runs -/

namespace Ledger

/-- The message that the call at a place in a run has accepted, if any. -/
def acceptedAt? (rules : Rules) (ops : List Operation) (k : Nat) : Option Message :=
  ops[k]?.bind fun op => op.accepted? rules (stateAt rules ops k)

/-- The call at a place in a run has opened a contract. -/
def OpensAt (rules : Rules) (ops : List Operation) (hash : Digest) (k : Nat) : Prop :=
  ∃ m, acceptedAt? rules ops k = some m ∧ m.opens? = some hash

/-- The call at a place in a run has resolved a contract. -/
def ResolvesAt (rules : Rules) (ops : List Operation) (hash : Digest) (k : Nat) : Prop :=
  ∃ m, acceptedAt? rules ops k = some m ∧ m.resolves? = some hash

variable {rules : Rules} {ops : List Operation} {hash : Digest} {i j k : Nat}

theorem outcome_stateAt (rules : Rules) (ops : List Operation) (k : Nat) :
    Outcome rules (stateAt rules ops k).custody (stateAt rules ops (k + 1)).custody
      (acceptedAt? rules ops k) := by
  cases hop : ops[k]? with
  | none =>
    rw [acceptedAt?, hop, stateAt_succ_of_none rules hop]
    exact .quiet rfl
  | some op =>
    rw [acceptedAt?, hop, stateAt_succ rules hop]
    exact op.outcome rules (sound_stateAt rules ops k)

theorem effect_of_acceptedAt? {m : Message} (h : acceptedAt? rules ops k = some m) :
    ∃ block, Effect rules block (stateAt rules ops k).custody m
      (stateAt rules ops (k + 1)).custody := by
  have houtcome := outcome_stateAt rules ops k
  rw [h] at houtcome
  cases houtcome with
  | accepted effect => exact ⟨_, effect⟩

theorem mem_transactions_of_acceptedAt? {m : Message} (h : acceptedAt? rules ops k = some m)
    {t : Transaction} (ht : t ∈ m.transactions) : t ∈ transactions ops := by
  obtain ⟨op, hop, haccepted⟩ := Option.bind_eq_some_iff.1 h
  obtain ⟨⟨block, m'⟩, hread, haccepts⟩ := Option.bind_eq_some_iff.1 haccepted
  unfold accepts? at haccepts
  split at haccepts
  · cases haccepts
    refine mem_transactions_of_getElem? hop ?_
    rw [Operation.transactions_of_message? hread]
    exact ht
  · cases haccepts

theorem turn_stateAt (rules : Rules) (ops : List Operation) (hash : Digest) (k : Nat) :
    Turn hash (stateAt rules ops k).custody (stateAt rules ops (k + 1)).custody
      (acceptedAt? rules ops k) :=
  (outcome_stateAt rules ops k).turn hash

/-- A contract that is there stays there, with another status at most, and that only if it was
unresolved. -/
theorem contract_stays (hik : i ≤ k) {contract : Contract}
    (h : (stateAt rules ops i).store.Holds (.contract contract)) :
    ∃ status, (stateAt rules ops k).store.Holds (.contract { contract with status }) ∧
      (contract.status = .created ∨ status = contract.status) := by
  induction hik with
  | refl => exact ⟨contract.status, h, .inr rfl⟩
  | @step k hik ih =>
    obtain ⟨status, hk, hor⟩ := ih
    have hturn := turn_stateAt rules ops contract.hash k
    generalize acceptedAt? rules ops k = accepted at hturn
    cases hturn with
    | elsewhere quiet same => exact ⟨status, (same { contract with status } rfl).2 hk, hor⟩
    | opened opens absent held named unresolved paid =>
      exact absurd rfl (absent { contract with status } hk)
    | @resolved m found status' payee resolves held named unresolved left due paid =>
      have hfound := held.contract_unique hk named
      subst hfound
      refine ⟨status', left, .inl ?_⟩
      rcases hor with hc | hc
      · exact hc
      · rw [← hc]
        exact unresolved

/-- A call opens a contract only where there is none. -/
theorem OpensAt.spec (h : OpensAt rules ops hash k) :
    (∀ other : Contract, (stateAt rules ops k).store.Holds (.contract other) → other.hash ≠ hash) ∧
    ∃ contract : Contract, (stateAt rules ops (k + 1)).store.Holds (.contract contract) ∧
      contract.hash = hash ∧ contract.status = .created ∧
      (stateAt rules ops k).bank.debit contract.timeoutAddress contract.amount =
        .ok (stateAt rules ops (k + 1)).bank := by
  obtain ⟨m, hm, ho⟩ := h
  have hturn := turn_stateAt rules ops hash k
  rw [hm] at hturn
  cases hturn with
  | elsewhere quiet same => exact absurd ho (quiet m rfl).1
  | opened opens absent held named unresolved paid =>
    exact ⟨absent, _, held, named, unresolved, paid⟩
  | resolved resolves held named unresolved left due paid =>
    rw [Message.resolves?_of_opens? ho] at resolves
    cases resolves

/-- A call resolves a contract only where it is unresolved. -/
theorem ResolvesAt.spec (h : ResolvesAt rules ops hash k) :
    ∃ (contract : Contract) (status : HashLock.Status),
      (stateAt rules ops k).store.Holds (.contract contract) ∧ contract.hash = hash ∧
      contract.status = .created ∧ status ≠ .created ∧
      (stateAt rules ops (k + 1)).store.Holds (.contract { contract with status }) := by
  obtain ⟨m, hm, hr⟩ := h
  have hturn := turn_stateAt rules ops hash k
  rw [hm] at hturn
  cases hturn with
  | elsewhere quiet same => exact absurd hr (quiet m rfl).2
  | opened opens absent held named unresolved paid =>
    rw [Message.resolves?_of_opens? opens] at hr
    cases hr
  | @resolved m contract status payee resolves held named unresolved left due paid =>
    refine ⟨contract, status, held, named, unresolved, fun hs => ?_, left⟩
    rw [Contract.payee?_eq_none_iff.2 hs] at due
    cases due

/-- A resolved contract was resolved in an earlier call, which has paid it out. -/
theorem exists_resolving {contract : Contract} {payee : Address}
    (h : (stateAt rules ops k).store.Holds (.contract contract))
    (hp : contract.payee? = some payee) :
    ∃ i < k, ResolvesAt rules ops contract.hash i ∧
      (stateAt rules ops i).bank.credit payee contract.amount =
        .ok (stateAt rules ops (i + 1)).bank := by
  induction k with
  | zero => exact absurd h Store.holds_empty
  | succ k ih =>
    generalize haccepted : acceptedAt? rules ops k = accepted
    have hturn := turn_stateAt rules ops contract.hash k
    rw [haccepted] at hturn
    cases hturn with
    | elsewhere quiet same =>
      obtain ⟨i, hi, hrest⟩ := ih ((same contract rfl).1 h)
      exact ⟨i, by omega, hrest⟩
    | opened opens absent held named unresolved paid =>
      -- the contract would be new, but it has been paid out
      have hnew := held.contract_unique h named
      rw [hnew] at unresolved
      rw [Contract.payee?_eq_none_iff.2 unresolved] at hp
      cases hp
    | @resolved m found status payee' resolves held named unresolved left due paid =>
      have hleft := left.contract_unique h named
      subst hleft
      rw [due] at hp
      cases hp
      exact ⟨k, Nat.lt_succ_self k, ⟨m, haccepted, resolves⟩, paid⟩

/-- A contract that is opened was not there before and is there from then on. -/
theorem opensAt_unique (hi : OpensAt rules ops hash i) (hj : OpensAt rules ops hash j) : i = j := by
  let there (k : Nat) : Prop := ∃ contract : Contract,
    contract.hash = hash ∧ (stateAt rules ops k).store.Holds (.contract contract)
  have lasts : ∀ i k, i ≤ k → there i → there k := by
    rintro i k hik ⟨contract, hh, hc⟩
    obtain ⟨status, hs, -⟩ := contract_stays hik hc
    exact ⟨{ contract with status }, hh, hs⟩
  have begins : ∀ i, OpensAt rules ops hash i → ¬ there i ∧ there (i + 1) := by
    intro i h
    obtain ⟨absent, contract, held, named, -⟩ := h.spec
    exact ⟨fun ⟨other, hh, hc⟩ => absent other hc hh, contract, named, held⟩
  exact eq_of_once lasts (begins i hi) (begins j hj)

theorem resolved_stays (hik : i ≤ k) {contract : Contract}
    (h : (stateAt rules ops i).store.Holds (.contract contract))
    (hr : contract.status ≠ .created) :
    (stateAt rules ops k).store.Holds (.contract contract) := by
  obtain ⟨status, hs, hor⟩ := contract_stays hik h
  rcases hor with hc | rfl
  · exact absurd hc hr
  · exact hs

theorem resolvesAt_unique (hi : ResolvesAt rules ops hash i) (hj : ResolvesAt rules ops hash j) :
    i = j := by
  let ended (k : Nat) : Prop := ∃ contract : Contract, contract.hash = hash ∧
    contract.status ≠ .created ∧ (stateAt rules ops k).store.Holds (.contract contract)
  have lasts : ∀ i k, i ≤ k → ended i → ended k := by
    rintro i k hik ⟨contract, hh, hr, hc⟩
    exact ⟨contract, hh, hr, resolved_stays hik hc hr⟩
  have begins : ∀ i, ResolvesAt rules ops hash i → ¬ ended i ∧ ended (i + 1) := by
    intro i h
    obtain ⟨contract, status, held, named, unresolved, hs, left⟩ := h.spec
    refine ⟨?_, { contract with status }, named, hs, left⟩
    rintro ⟨other, hh, hr, hc⟩
    rw [hc.contract_unique held (hh.trans named.symm)] at hr
    exact hr unresolved
  exact eq_of_once lasts (begins i hi) (begins j hj)

/-! ## The life of a contract -/

/-- The life of the contract of a digest over a run. -/
structure Lifecycle (rules : Rules) (ops : List Operation) (hash : Digest) : Prop where
  /-- A contract is opened only where none is found, and is found from then on, unresolved; opening it
  takes its amount from the timeout party. -/
  opened : ∀ k, OpensAt rules ops hash k →
    HashLock.find (stateAt rules ops k).store hash = .error (.notFound hash) ∧
    ∃ contract, HashLock.find (stateAt rules ops (k + 1)).store hash = .ok contract ∧
      contract.status = .created ∧
      (stateAt rules ops k).bank.debit contract.timeoutAddress contract.amount =
        .ok (stateAt rules ops (k + 1)).bank
  /-- At most one call opens it. -/
  opened_once : ∀ i j, OpensAt rules ops hash i → OpensAt rules ops hash j → i = j
  /-- Once found, it is found for ever, with nothing changed but its status, and that only from
  unresolved. -/
  kept : ∀ i k contract, i ≤ k → HashLock.find (stateAt rules ops i).store hash = .ok contract →
    ∃ status, HashLock.find (stateAt rules ops k).store hash = .ok { contract with status } ∧
      (contract.status = .created ∨ status = contract.status)
  /-- A call about it that is refused changes nothing, in the bank or elsewhere. -/
  refused : ∀ (k : Nat) (op : Operation) (block : Block) (m : Message), ops[k]? = some op →
    op.message? = some (block, m) → m.opens? = some hash ∨ m.resolves? = some hash →
    acceptedAt? rules ops k = none → stateAt rules ops (k + 1) = stateAt rules ops k
  /-- While there is none, or it is unresolved, no call has resolved it. -/
  unpaid : ∀ k, (∀ contract, HashLock.find (stateAt rules ops k).store hash = .ok contract →
    contract.status = .created) → ∀ i < k, ¬ ResolvesAt rules ops hash i
  /-- If it is resolved, exactly one call of the run has resolved it, and the bank has then been
  credited its amount to who is due it. -/
  paid : ∀ k contract payee, HashLock.find (stateAt rules ops k).store hash = .ok contract →
    contract.payee? = some payee →
    ∃ i < k, ResolvesAt rules ops hash i ∧
      (stateAt rules ops i).bank.credit payee contract.amount =
        .ok (stateAt rules ops (i + 1)).bank ∧
      ∀ j, ResolvesAt rules ops hash j → j = i
  /-- Where there is one, none is opened. -/
  occupied : ∀ k contract, HashLock.find (stateAt rules ops k).store hash = .ok contract →
    ∀ block m, m.validate = .ok () → m.opens? = some hash →
      Refuses rules block m (stateAt rules ops k) (.hashLock (.duplicateHash hash))
  /-- Once it is resolved, it is not resolved again. -/
  closed : ∀ k contract, HashLock.find (stateAt rules ops k).store hash = .ok contract →
    contract.status ≠ .created → ∀ block m, m.validate = .ok () → m.resolves? = some hash →
      Refuses rules block m (stateAt rules ops k)
        (.hashLock (.alreadyResolved hash contract.status))

/-- Over a whole run, whatever calls it is made of and in whatever blocks, the contract of any digest is
opened at most once, stays with all its terms, and is resolved at most once, by redemption or by failure;
it has been paid out once if it is resolved and otherwise not at all, and every message that would open it
again or resolve it again is refused. -/
theorem contract_lifecycle (rules : Rules) (ops : List Operation) (hash : Digest) :
    Lifecycle rules ops hash where
  opened k h := by
    obtain ⟨absent, contract, held, rfl, unresolved, paid⟩ := h.spec
    refine ⟨?_, contract, held.findContract, unresolved, paid⟩
    have hs := sound_stateAt rules ops k
    rcases hs.contract_cases contract.hash with ⟨other, -, hh, hk⟩ | ⟨hn, -⟩
    · exact absurd hk (absent other hh)
    · exact hn
  opened_once i j hi hj := opensAt_unique hi hj
  kept i k contract hik hf := by
    obtain ⟨hh, rfl⟩ := (sound_stateAt rules ops i).of_find hf
    obtain ⟨status, hs, hor⟩ := contract_stays hik hh
    exact ⟨status, hs.findContract, hor⟩
  refused k op block m hop hread _ hnone := by
    rw [acceptedAt?, hop] at hnone
    rw [stateAt_succ rules hop]
    exact op.perform_of_not_accepted hread hnone
  unpaid k hk i hik hr := by
    obtain ⟨contract, status, -, rfl, -, hs, left⟩ := hr.spec
    have hlast := resolved_stays (Nat.succ_le_of_lt hik) left hs
    exact hs (hk _ hlast.findContract)
  paid k contract payee hf hp := by
    obtain ⟨hh, rfl⟩ := (sound_stateAt rules ops k).of_find hf
    obtain ⟨i, hi, hr, hpaid⟩ := exists_resolving hh hp
    exact ⟨i, hi, hr, hpaid, fun j hj => resolvesAt_unique hj hr⟩
  occupied k contract hf block m hv hm := by
    obtain ⟨hh, rfl⟩ := (sound_stateAt rules ops k).of_find hf
    exact refuses_opening hh hv hm
  closed k contract hf hs block m hv hm := by
    obtain ⟨hh, rfl⟩ := (sound_stateAt rules ops k).of_find hf
    exact refuses_resolving hh hs hv hm

/-- Alice locks coins for Bob, who knows the preimage and takes them. -/
example :
    let lock := HashLock.lockOf [1]
    let last := run {} [.fund Sample.alice (Sample.stake 100),
      .deliver Sample.block (.addContract ⟨Sample.stake 10, lock, 5, Sample.bob, Sample.alice⟩),
      .deliver Sample.block (.redeemContract ⟨[1], Sample.bob⟩)]
    (HashLock.find last.store lock).map Contract.payee? = .ok (some Sample.bob) ∧
      last.bank.balance Sample.bob "stake" = 10 := by decide +kernel

end Ledger

end Settlement
