import Settlement.Proofs.Certificate
import Settlement.Proofs.Lifecycle
import Settlement.Proofs.Value

/-!
# Only a birth that is the same is a duplicate

A birth is refused as a duplicate if there is an account output with its id. Account outputs are written by
births alone and stay when their outpoints are spent, so those on record are exactly the births that the run
has accepted (`account_stateAt_iff`), and an id is on record twice only for one certificate: the same chain,
owner, amount, sequence number and height. A new birth is up to the bank. Its outpoint is new because an
outpoint of a birth is live only with its account output on record; transactions create none of that index
as long as they have no more outputs than there are indices (`Effect.attested`).

Results:
* `Ledger.verdict_deliver`: all that a birth can come to.
* `Ledger.account_stateAt_iff`: the account outputs on record are the births accepted so far.
* `Ledger.births_exact`: which births are duplicates, which others are accepted, and what they leave.
-/
namespace Settlement

open Unspent (AccountOutput Certificate)

/-! ## Certificates -/

def Unspent.Birth.certificate (m : Unspent.Birth) (block : Block) (sequence : UInt64) :
    Certificate :=
  ⟨block.chainId, m.owner, m.amount, sequence, block.height⟩

def Unspent.Certificate.output (c : Certificate) : AccountOutput :=
  ⟨c.id, c.amount.amount, c.owner, c.height⟩

def Unspent.Certificate.point (c : Certificate) : OutPoint := .ofBirth c.output.id

namespace Operation

/-- What a call answers, if it is a delivery. -/
def answer? (rules : Rules) (op : Operation) (l : Ledger) : Option (Except Error Event) :=
  match op with
  | deliver block m => some (Ledger.deliver rules block m l).1
  | deliverEnvelope block e => some (Ledger.deliverEnvelope rules block e l).1
  | _ => none

/-- The certificate of the birth that a call delivers, if it is a birth that is right in itself and in the
native denomination. -/
def certificate? (rules : Rules) (op : Operation) (l : Ledger) : Option Certificate :=
  match op.message? with
  | some (block, .birth m) =>
    if m.validate = .ok () ∧ m.amount.denom = rules.config.nativeDenom then
      some (m.certificate block (l.bank.sequence m.owner))
    else none
  | _ => none

/-- A call is a delivery that is accepted. -/
def Accepted (rules : Rules) (op : Operation) (l : Ledger) : Prop :=
  ∃ event, op.answer? rules l = some (.ok event)

variable {rules : Rules} {op : Operation} {l : Ledger} {block : Block} {m : Message}

theorem answer?_of_message? (h : op.message? = some (block, m)) :
    op.answer? rules l = some (Ledger.deliver rules block m l).1 := by
  cases op with
  | deliver block' m' =>
    cases h
    rfl
  | deliverEnvelope block' e =>
    rw [message?] at h
    split at h
    · next read =>
      cases h
      rw [answer?, Ledger.deliverEnvelope_read read]
    · cases h
  | _ => cases h

theorem certificate?_eq_some_iff {c : Certificate} : op.certificate? rules l = some c ↔
    ∃ block m, op.message? = some (block, .birth m) ∧ m.validate = .ok () ∧
      m.amount.denom = rules.config.nativeDenom ∧
      m.certificate block (l.bank.sequence m.owner) = c := by
  unfold certificate?
  constructor
  · intro h
    split at h
    · next block m read =>
      split at h
      · next right => exact ⟨block, m, read, right.1, right.2, Option.some.inj h⟩
      · cases h
    · cases h
  · rintro ⟨block, m, read, valid, native, rfl⟩
    simp only [read, if_pos (And.intro valid native)]

end Operation

/-! ## One birth -/

namespace Unspent

variable {config : Config} {block : Block} {m : Birth} {c : Custody}

theorem birth_of_found (valid : m.validate = .ok ()) (native : m.amount.denom = config.nativeDenom)
    {output : AccountOutput} (held : c.store.Holds (.account output))
    (same : output.id = (m.output block (c.bank.sequence m.owner)).id) :
    (birth config block m).exec c =
      (.error (.duplicateId (m.output block (c.bank.sequence m.owner)).id), c) := by
  have found : space.has c.store (accountKey (m.output block (c.bank.sequence m.owner)).id) := by
    rw [← same]
    exact Option.isSome_of_eq_some held
  simp only [birth, Action.exec_bind, Action.exec_check, valid, Action.exec_demand, if_pos native,
    Action.exec_get, if_neg (not_not_intro found)]

theorem birth_of_unpaid (valid : m.validate = .ok ()) (native : m.amount.denom = config.nativeDenom)
    (fresh : c.store.get? (Key.account (m.output block (c.bank.sequence m.owner)).id).bytes = none)
    {e : BankError} (unpaid : c.bank.debit m.owner m.amount = .error e) :
    (birth config block m).exec c = (.error (.bank e), c) := by
  simp only [birth, Action.exec_bind, Action.exec_check, valid, Action.exec_demand, if_pos native,
    Action.exec_get, if_pos (Store.has_eq_false_iff.2 fresh), Custody.exec_debit, unpaid]

end Unspent

/-- What becomes of a birth with a certificate: it is refused for a record that has its id, or for want of
funds, or it is paid for and its output put on record. -/
inductive Ledger.Verdict (l : Ledger) (c : Certificate) : Except Error Event × Ledger → Prop
  | duplicate {output : AccountOutput} (held : l.store.Holds (.account output))
      (same : output.id = c.id) : Verdict l c (.error (.unspent (.duplicateId c.id)), l)
  | wanting {e : BankError} (fresh : l.store.get? (Key.account c.id).bytes = none)
      (uncovered : ¬ c.amount.amount ≤ l.bank.balance c.owner c.amount.denom) :
      Verdict l c (.error (.unspent (.bank e)), l)
  | born {bank : Bank} {event : Event} {events : List Event}
      (fresh : l.store.get? (Key.account c.id).bytes = none)
      (covered : c.amount.amount ≤ l.bank.balance c.owner c.amount.denom)
      (paid : l.bank.debit c.owner c.amount = .ok bank) :
      Verdict l c (.ok event,
        ⟨⟨(l.store.write (.account c.output)).write (.point c.point), bank⟩, events⟩)

section

variable {rules : Rules} {block : Block} {m : Unspent.Birth} {l : Ledger}

theorem Ledger.deliver_of_exec_error {e : Error} {m : Message}
    (h : (execute rules block m).exec l.custody = (.error e, l.custody)) :
    deliver rules block m l = (.error e, l) := by
  rw [deliver, h]

theorem Ledger.verdict_deliver (hs : l.store.Sound) (valid : m.validate = .ok ())
    (native : m.amount.denom = rules.config.nativeDenom) :
    l.Verdict (m.certificate block (l.bank.sequence m.owner)) (deliver rules block (.birth m) l) := by
  rcases hs.load Store.accountShelf
    (k := .account (m.certificate block (l.bank.sequence m.owner)).id) rfl rfl with
    ⟨-, fresh⟩ | ⟨output, key, held, -⟩
  · cases paid : l.bank.debit m.owner m.amount with
    | ok bank =>
      obtain ⟨event, delivered⟩ := deliver_of_effect hs (.birth valid native rfl fresh paid)
      rw [delivered]
      exact .born fresh (Bank.exists_debit_iff.1 ⟨bank, paid⟩) paid
    | error e =>
      have refused := Unspent.birth_of_unpaid (c := l.custody) valid native fresh paid
      rw [deliver_of_exec_error (exec_part_error refused _ _)]
      refine .wanting fresh fun covered => ?_
      obtain ⟨bank, paid'⟩ := Bank.exists_debit_iff.2 covered
      cases paid.symm.trans paid'
  · have same : output.id = (m.certificate block (l.bank.sequence m.owner)).id :=
      Key.account.inj key
    have refused := Unspent.birth_of_found (c := l.custody) valid native held same
    rw [deliver_of_exec_error (exec_part_error refused _ _)]
    exact .duplicate held same

end

/-! ## The records of births -/

/-- An accepted message puts one account output on record if it is a birth, and otherwise none, and takes
none away. -/
theorem Effect.account_iff {rules : Rules} {block : Block} {m : Message} {c c' : Custody}
    (he : Effect rules block c m c') {output : AccountOutput} :
    c'.store.Holds (.account output) ↔ c.store.Holds (.account output) ∨
      ∃ b, m = .birth b ∧ output = b.output block (c.bank.sequence b.owner) := by
  cases he with
  | birth valid native born fresh paid =>
    subst born
    rw [account_birth fresh, or_comm]
    simp
  | spend =>
    rw [Unspent.holds_applyTransaction_of_kind (by simp [Record.key, Key.kind])]
    simp
  | abortEscrow =>
    rw [Store.holds_remove_of_kind (by simp [Record.key, Key.kind])]
    simp
  | _ =>
    rw [Store.holds_write_of_kind (by simp [Record.key, Key.kind])]
    simp

/-- A call puts an account output on record if it delivers a birth that is accepted, and takes none away. -/
theorem Operation.account_perform {rules : Rules} {l : Ledger} (hs : l.store.Sound) (op : Operation)
    {output : AccountOutput} :
    (op.perform rules l).store.Holds (.account output) ↔ l.store.Holds (.account output) ∨
      ∃ c, op.certificate? rules l = some c ∧ op.Accepted rules l ∧ output = c.output := by
  cases read : op.message? with
  | none =>
    have houtcome := op.outcome rules hs
    rw [accepted?, read, Option.bind_none] at houtcome
    cases houtcome with
    | quiet same =>
      rw [Ledger.store, same, certificate?, read]
      simp [Ledger.store]
  | some d =>
    obtain ⟨block, m⟩ := d
    rw [op.perform_of_message? read, Accepted, answer?_of_message? read]
    cases delivered : Ledger.deliver rules block m l with
    | mk outcome l' =>
      cases outcome with
      | error e =>
        rw [Ledger.deliver_error delivered]
        simp
      | ok event =>
        have effect := effect_of_accept hs (Ledger.deliver_ok delivered).1
        rw [Ledger.store, effect.account_iff]
        refine or_congr_right ⟨?_, ?_⟩
        · rintro ⟨b, rfl, rfl⟩
          generalize l'.custody = c' at effect
          cases effect with
          | birth valid native =>
            exact ⟨_, certificate?_eq_some_iff.2 ⟨block, b, read, valid, native, rfl⟩,
              ⟨event, rfl⟩, rfl⟩
        · rintro ⟨c, certified, -, rfl⟩
          obtain ⟨block', b, read', -, -, rfl⟩ := certificate?_eq_some_iff.1 certified
          cases read.symm.trans read'
          exact ⟨b, rfl, rfl⟩

/-! ## Live outpoints of births -/

/-- Every live outpoint of a birth has the account output that it stands for. -/
def Store.Attested (s : Store) : Prop :=
  ∀ id, s.Holds (.point (.ofBirth id)) → ∃ output, s.Holds (.account output) ∧ output.id = id

theorem Store.Attested.congr {s s' : Store} (h : s.Attested)
    (account : ∀ output, s.Holds (.account output) → s'.Holds (.account output))
    (point : ∀ p, s'.Holds (.point p) → s.Holds (.point p)) : s'.Attested := by
  intro id live
  obtain ⟨output, held, same⟩ := h id (point _ live)
  exact ⟨output, account output held, same⟩

/-- Transactions create no outpoints of births as long as their indices do not wrap around. -/
theorem Effect.attested {rules : Rules} {block : Block} {m : Message} {c c' : Custody}
    (he : Effect rules block c m c') (hb : Bounded m.transactions) (h : c.store.Attested) :
    c'.store.Attested := by
  cases he with
  | @birth m output bank valid native born fresh paid =>
    intro id live
    rcases point_birth.1 live with new | live
    · exact ⟨output, (account_birth fresh).2 (.inl rfl), (OutPoint.mk.inj new).1.symm⟩
    · obtain ⟨other, held, same⟩ := h id live
      exact ⟨other, (account_birth fresh).2 (.inr held), same⟩
  | @spend m input value valid only canonical live owned even authorized =>
    intro id live
    rw [Unspent.holds_applyTransaction_of_kind (by simp [Record.key, Key.kind])] at live
    rcases live with ⟨p, created, he⟩ | ⟨-, live⟩
    · obtain rfl := Record.point.inj he
      obtain ⟨i, hi, he⟩ := Unspent.mem_createdPoints.1 created
      have bound := hb m.tx (List.mem_singleton.2 rfl)
      exact absurd (OutPoint.mk.inj he).2.symm (ofNat_ne_birthIndex (by omega))
    · obtain ⟨output, held, same⟩ := h id live
      refine ⟨output, ?_, same⟩
      rw [Unspent.holds_applyTransaction_of_kind (by simp [Record.key, Key.kind])]
      exact .inr ⟨nofun, held⟩
  | abortEscrow =>
    exact h.congr (fun _ => (Store.holds_remove_of_kind (by simp [Record.key, Key.kind])).2)
      fun _ => (Store.holds_remove_of_kind (by simp [Record.key, Key.kind])).1
  | _ =>
    exact h.congr (fun _ => (Store.holds_write_of_kind (by simp [Record.key, Key.kind])).2)
      fun _ => (Store.holds_write_of_kind (by simp [Record.key, Key.kind])).1

/-! ## Runs -/

namespace Ledger

/-- What the call at a place in a run answers, if it is a delivery. -/
def answerAt? (rules : Rules) (ops : List Operation) (k : Nat) : Option (Except Error Event) :=
  ops[k]?.bind fun op => op.answer? rules (stateAt rules ops k)

/-- The certificate of the birth that the call at a place in a run delivers, if it delivers one that is
right in itself and in the native denomination. -/
def certificateAt? (rules : Rules) (ops : List Operation) (k : Nat) : Option Certificate :=
  ops[k]?.bind fun op => op.certificate? rules (stateAt rules ops k)

/-- The certificates of a run: what ids are taken of. -/
def certificates (rules : Rules) (ops : List Operation) : List Certificate :=
  (List.range ops.length).filterMap (certificateAt? rules ops)

/-- The call at a place in a run is a delivery that is accepted. -/
def AcceptedAt (rules : Rules) (ops : List Operation) (k : Nat) : Prop :=
  ∃ event, answerAt? rules ops k = some (.ok event)

/-- A birth of this certificate was accepted earlier in the run. -/
def BornBefore (rules : Rules) (ops : List Operation) (k : Nat) (c : Certificate) : Prop :=
  ∃ i < k, certificateAt? rules ops i = some c ∧ AcceptedAt rules ops i

/-- What a birth leaves: the owner has paid exactly the amount, and nobody anything else; there is exactly
one more live outpoint, which was not live before and is worth the amount to the owner. -/
structure Born (c : Certificate) (l l' : Ledger) : Prop where
  paid : ∀ x d, (l.bank.balance x d).toNat =
    (l'.bank.balance x d).toNat + if c.owner = x then c.amount.amountOf d else 0
  fresh : ¬ l.Live c.point
  live : ∀ p, l'.Live p ↔ p = c.point ∨ l.Live p
  resolves : Unspent.resolve l'.store c.point = .ok (c.amount.amount, c.owner)

/-- How the birth of a certificate fares at a place in a run. -/
structure Judged (rules : Rules) (ops : List Operation) (k : Nat) (c : Certificate) : Prop where
  duplicate : (∃ id, answerAt? rules ops k = some (.error (.unspent (.duplicateId id)))) ↔
    BornBefore rules ops k c
  accepted : ¬ BornBefore rules ops k c →
    (AcceptedAt rules ops k ↔
      c.amount.amount ≤ (stateAt rules ops k).bank.balance c.owner c.amount.denom)
  born : AcceptedAt rules ops k → Born c (stateAt rules ops k) (stateAt rules ops (k + 1))

variable {rules : Rules} {ops : List Operation} {k : Nat} {c : Certificate}

theorem bornBefore_succ : BornBefore rules ops (k + 1) c ↔ BornBefore rules ops k c ∨
    certificateAt? rules ops k = some c ∧ AcceptedAt rules ops k :=
  Nat.exists_lt_succ_right

theorem account_stateAt_iff {output : AccountOutput} :
    (stateAt rules ops k).store.Holds (.account output) ↔
      ∃ c, BornBefore rules ops k c ∧ output = c.output := by
  induction k with
  | zero =>
    refine iff_of_false Store.holds_empty ?_
    rintro ⟨c, ⟨i, hi, -⟩, -⟩
    exact absurd hi (Nat.not_lt_zero i)
  | succ k ih =>
    have here : (stateAt rules ops (k + 1)).store.Holds (.account output) ↔
        (stateAt rules ops k).store.Holds (.account output) ∨
          ∃ c, certificateAt? rules ops k = some c ∧ AcceptedAt rules ops k ∧
            output = c.output := by
      cases hop : ops[k]? with
      | none => simp [stateAt_succ_of_none rules hop, certificateAt?, hop]
      | some op =>
        rw [stateAt_succ rules hop, op.account_perform (sound_stateAt rules ops k)]
        simp [certificateAt?, AcceptedAt, answerAt?, hop, Operation.Accepted]
    rw [here, ih]
    simp only [bornBefore_succ, or_and_right, exists_or, and_assoc]

theorem mem_certificates (h : certificateAt? rules ops k = some c) : c ∈ certificates rules ops := by
  refine List.mem_filterMap.2 ⟨k, List.mem_range.2 ?_, h⟩
  obtain ⟨op, hop, -⟩ := Option.bind_eq_some_iff.1 h
  exact (List.getElem?_eq_some_iff.1 hop).1

theorem denom_of_certificateAt? (h : certificateAt? rules ops k = some c) :
    c.amount.denom = rules.config.nativeDenom := by
  obtain ⟨op, -, certified⟩ := Option.bind_eq_some_iff.1 h
  obtain ⟨block, m, -, -, native, rfl⟩ := Operation.certificate?_eq_some_iff.1 certified
  exact native

/-- While all certificates are short and their layouts do not collide, a certificate has the id of an account
output on record exactly if a birth of the same certificate was accepted. -/
theorem bornBefore_iff (short : ∀ c ∈ certificates rules ops, c.Short)
    (apart : Sha256.CollisionFree ((certificates rules ops).map Certificate.layout))
    (asked : certificateAt? rules ops k = some c) :
    BornBefore rules ops k c ↔
      ∃ output, (stateAt rules ops k).store.Holds (.account output) ∧ output.id = c.id := by
  constructor
  · intro before
    exact ⟨c.output, account_stateAt_iff.2 ⟨c, before, rfl⟩, rfl⟩
  · rintro ⟨output, held, same⟩
    obtain ⟨d, before, rfl⟩ := account_stateAt_iff.1 held
    have ⟨i, _, earlier, _⟩ := before
    have hc := mem_certificates asked
    have hd := mem_certificates earlier
    have denom := (denom_of_certificateAt? earlier).trans (denom_of_certificateAt? asked).symm
    have layouts := apart _ (List.mem_map_of_mem hd) _ (List.mem_map_of_mem hc)
    rwa [← Certificate.eq_of_id_eq (short d hd) (short c hc) denom layouts same]

theorem attested_stateAt (rules : Rules) (hb : Bounded (transactions ops)) (k : Nat) :
    (stateAt rules ops k).store.Attested := by
  have delivered : ∀ t ∈ transactions (ops.take k), t ∈ transactions ops :=
    fun _ ht => mem_transactions_take ht
  exact store_run_of rules delivered (fun id live => absurd live Store.holds_empty)
    fun effect hm => effect.attested (hb.mono hm)

theorem born_of_paid {l : Ledger} {bank : Bank} {events : List Event} (hs : l.store.Sound)
    (attested : l.store.Attested) (fresh : l.store.get? (Key.account c.output.id).bytes = none)
    (paid : l.bank.debit c.owner c.amount = .ok bank) :
    Born c l ⟨⟨(l.store.write (.account c.output)).write (.point c.point), bank⟩, events⟩ := by
  have hs' : ((l.store.write (.account c.output)).write (.point c.point)).Sound :=
    (hs.write _).write _
  have held : ((l.store.write (.account c.output)).write (.point c.point)).Holds
      (.account c.output) := (account_birth fresh).2 (.inl rfl)
  refine ⟨fun x d => ?_, fun live => ?_, fun p => ?_, resolve_account held⟩
  · rw [Bank.balance_debit paid x d, ite_and]
    rfl
  · obtain ⟨output, held, same⟩ := attested c.output.id ((hs.has_point _).1 live)
    have key : (Record.account output).key = .account c.output.id := congrArg Key.account same
    exact Store.not_holds_of_none fresh key held
  · rw [Live, Live, hs.has_point]
    exact (hs'.has_point p).trans point_birth

theorem verdict_at (asked : certificateAt? rules ops k = some c) :
    ∃ answer, answerAt? rules ops k = some answer ∧
      (stateAt rules ops k).Verdict c (answer, stateAt rules ops (k + 1)) := by
  obtain ⟨op, hop, certified⟩ := Option.bind_eq_some_iff.1 asked
  obtain ⟨block, m, read, valid, native, rfl⟩ := Operation.certificate?_eq_some_iff.1 certified
  refine ⟨(deliver rules block (.birth m) (stateAt rules ops k)).1, ?_, ?_⟩
  · rw [answerAt?, hop, Option.bind_some, Operation.answer?_of_message? read]
  · rw [stateAt_succ rules hop, op.perform_of_message? read]
    exact verdict_deliver (sound_stateAt rules ops k) valid native

/-- In every run in which no transaction has too many outputs, all births have short texts, and the digest
takes no two of the byte strings that ids are taken of for one: a birth that is right in itself and in the
native denomination is refused as a duplicate exactly if an earlier birth of the run was accepted that had
the same chain, owner, amount, sequence number of the owner, and height. If there was none, it is accepted
exactly if the owner has the amount; and then the owner has paid just that, and there is exactly one new live
outpoint, which is worth the amount to the owner. -/
theorem births_exact (rules : Rules) (ops : List Operation) (hb : Bounded (transactions ops))
    (short : ∀ c ∈ certificates rules ops, c.Short)
    (apart : Sha256.CollisionFree ((certificates rules ops).map Certificate.layout)) (k : Nat)
    (c : Certificate) (asked : certificateAt? rules ops k = some c) : Judged rules ops k c := by
  have before := bornBefore_iff short apart asked
  have new : (stateAt rules ops k).store.get? (Key.account c.id).bytes = none →
      ¬ BornBefore rules ops k c := by
    intro fresh born
    obtain ⟨output, held, same⟩ := before.1 born
    have key : (Record.account output).key = .account c.id := congrArg Key.account same
    exact Store.not_holds_of_none fresh key held
  obtain ⟨answer, answered, verdict⟩ := verdict_at asked
  generalize left : stateAt rules ops (k + 1) = l' at verdict
  cases verdict with
  | duplicate held same =>
    have born := before.2 ⟨_, held, same⟩
    refine ⟨?_, fun clear => absurd born clear, fun accepted => ?_⟩
    · simp [answered, born]
    · simp [AcceptedAt, answered] at accepted
  | wanting fresh uncovered =>
    refine ⟨?_, fun _ => ?_, fun accepted => ?_⟩
    · simp [answered, new fresh]
    · simp [AcceptedAt, answered, uncovered]
    · simp [AcceptedAt, answered] at accepted
  | born fresh covered paid =>
    refine ⟨?_, fun _ => ?_, fun _ => ?_⟩
    · simp [answered, new fresh]
    · simp [AcceptedAt, answered, covered]
    · rw [left]
      exact born_of_paid (sound_stateAt rules ops k) (attested_stateAt rules hb k) fresh paid

/-- Alice turns coins into outpoints: the same amount twice at one sequence number, and once more at the
next one, in transport form. -/
def births : List Operation := [
  .fund Sample.alice (Sample.stake 100),
  .deliver Sample.block (.birth ⟨Sample.stake 40, Sample.alice⟩),
  .deliver Sample.block (.birth ⟨Sample.stake 40, Sample.alice⟩),
  .advance Sample.alice,
  .deliverEnvelope Sample.block (.ofMessage (.birth ⟨Sample.stake 40, Sample.alice⟩))]

def birthAt (sequence : UInt64) : Certificate :=
  ⟨"chain", Sample.alice, Sample.stake 40, sequence, 10⟩

/-- The second birth is refused as a duplicate of the first, and the third one is accepted. -/
theorem births_exact_sample :
    Bounded (transactions births) ∧ (∀ c ∈ certificates {} births, c.Short) ∧
    Sha256.CollisionFree ((certificates {} births).map Certificate.layout) ∧
    certificateAt? {} births 2 = some (birthAt 0) ∧ certificateAt? {} births 4 = some (birthAt 1) ∧
    (∃ id, answerAt? {} births 2 = some (.error (.unspent (.duplicateId id)))) ∧
    Born (birthAt 1) (stateAt {} births 4) (stateAt {} births 5) := by
  have bounded : Bounded (transactions births) := by decide +kernel
  have short : ∀ c ∈ certificates {} births, c.Short := by decide +kernel
  have apart : Sha256.CollisionFree ((certificates {} births).map Certificate.layout) := by
    decide +kernel
  have judged := births_exact {} births bounded short apart
  have places : certificateAt? {} births 1 = some (birthAt 0) ∧
      certificateAt? {} births 2 = some (birthAt 0) ∧
      certificateAt? {} births 4 = some (birthAt 1) := by decide +kernel
  obtain ⟨first, second, third⟩ := places
  have new : (∀ i < 1, certificateAt? {} births i ≠ some (birthAt 0)) ∧
      ∀ i < 4, certificateAt? {} births i ≠ some (birthAt 1) := by decide +kernel
  have accepted := ((judged 1 _ first).accepted fun ⟨i, hi, h, _⟩ => new.1 i hi h).2
    (by decide +kernel)
  have accepted' := ((judged 4 _ third).accepted fun ⟨i, hi, h, _⟩ => new.2 i hi h).2
    (by decide +kernel)
  exact ⟨bounded, short, apart, second, third,
    (judged 2 _ second).duplicate.2 ⟨1, by decide, first, accepted⟩,
    (judged 4 _ third).born accepted'⟩

end Ledger

end Settlement
