import Settlement.Proofs.Refusal
import Settlement.Proofs.Wallet

/-!
# No sequence of messages damages the state

A fatal refusal stops the host, and the only fatal reason is a record that cannot be used: one that cannot
be read, or a live outpoint without the record, the output or the condition it refers to. In a sound store
every record is read, and while the unspent outputs keep their integrity every live outpoint refers to
what is there (`Intact.backed`). So no message and no query meets damage in a state that a run can reach,
whatever messages the run is made of.

Results:
* `Store.Sound.readable`: in a sound store no look-up and no listing fails.
* `Intact.execute_not_fatal`, `Intact.answer_not_fatal`: messages and queries while outpoints are intact.
* `Ledger.never_damaged`: in every state of a run, no delivery and no query is refused for damage.
-/
namespace Settlement

open Unspent (AccountOutput)

variable {s : Store} {ts : List Transaction}

/-! ## Records -/

namespace Store

/-- No look-up and no listing meets a record that cannot be read. -/
structure Readable (s : Store) : Prop where
  account : ∀ id, ∃ found,
    Unspent.space.load AccountOutput.codec s (Unspent.accountKey id) = .ok found
  transaction : ∀ hash, ∃ found,
    Unspent.space.load Transaction.codec s (Unspent.transactionKey hash) = .ok found
  contract : ∀ hash, ∃ found,
    HashLock.space.load HashLock.Contract.codec s (HashLock.contractKey hash) = .ok found
  escrow : ∀ id, ∃ found,
    Escrow.space.load Escrow.Contract.codec s (Escrow.contractKey id) = .ok found
  accounts : ∃ found, Unspent.space.loadAll AccountOutput.codec s Unspent.accountKeys = .ok found
  transactions : ∃ found,
    Unspent.space.loadAll Transaction.codec s Unspent.transactionKeys = .ok found
  points : ∃ found, Unspent.space.loadAll OutPoint.codec s Unspent.outPointKeys = .ok found

theorem Sound.exists_load {α : Type} (hs : s.Sound) (shelf : Shelf α) {k : Key}
    (hk : k.kind = shelf.kind) {key : Bytes} (hkey : shelf.space.full key = k.bytes) :
    ∃ found, shelf.space.load shelf.codec s key = .ok found := by
  rcases hs.load shelf hk hkey with ⟨hn, -⟩ | ⟨a, -, -, ha⟩
  · exact ⟨none, hn⟩
  · exact ⟨some a, ha⟩

theorem Sound.readable (hs : s.Sound) : s.Readable where
  account id := hs.exists_load accountShelf (k := .account id) rfl rfl
  transaction hash := hs.exists_load transactionShelf (k := .transaction hash) rfl rfl
  contract hash := hs.exists_load contractShelf (k := .contract hash) rfl rfl
  escrow id := hs.exists_load escrowShelf (k := .escrow id) rfl rfl
  accounts := ⟨_, hs.loadAll_eq accountShelf⟩
  transactions := ⟨_, hs.loadAll_eq transactionShelf⟩
  points := ⟨_, hs.loadAll_eq pointShelf⟩

theorem Readable.findContract (hr : s.Readable) {hash : Digest} {e : HashLock.Error}
    (h : HashLock.find s hash = .error e) : e = .notFound hash := by
  obtain ⟨found, hl⟩ := hr.contract hash
  unfold HashLock.find at h
  rw [hl] at h
  cases found with
  | none =>
    cases h
    rfl
  | some contract => cases h

theorem Readable.findEscrow (hr : s.Readable) {id : EscrowId} {e : Escrow.Error}
    (h : Escrow.find s id = .error e) : e = .notFound id := by
  obtain ⟨found, hl⟩ := hr.escrow id
  unfold Escrow.find at h
  rw [hl] at h
  cases found with
  | none =>
    cases h
    rfl
  | some contract => cases h

end Store

/-! ## Outpoints -/

/-- An outpoint refers to a record that is there and, if that is a transaction, to an output that it has
and whose condition can be decoded. -/
inductive Unspent.Backed (s : Store) (p : OutPoint) : Prop
  | birth {output : AccountOutput} (index : p.isBirth = true)
      (found : space.load AccountOutput.codec s (accountKey p.source) = .ok (some output))
  | output {t : Transaction} {output : Output} {condition : SpendCondition}
      (index : p.isBirth = false)
      (found : space.load Transaction.codec s (transactionKey p.source) = .ok (some t))
      (listed : outputAt? t p.index = some output)
      (decoded : SpendCondition.decode output.condition = .ok condition)

theorem Unspent.Backed.resolve {p : OutPoint} (h : Unspent.Backed s p) :
    ∃ value owner, Unspent.resolve s p = .ok (value, owner) := by
  cases h with
  | @birth output index found =>
    refine ⟨output.value, output.owner, ?_⟩
    simp only [Unspent.resolve, index, if_true, found, bind, Except.bind]
    rfl
  | @output t output condition index found listed decoded =>
    refine ⟨output.value, condition.spender, ?_⟩
    simp only [Unspent.resolve, index, Bool.false_eq_true, if_false, found, listed, decoded, bind,
      Except.bind]
    rfl

theorem Intact.backed (h : Intact ts s) (hb : Bounded ts) {p : OutPoint} (hp : Created s p) :
    Unspent.Backed s p := by
  cases hp with
  | birth held =>
    exact .birth (decide_eq_true rfl) (held.load Store.accountShelf rfl)
  | @output t i held hi =>
    have ht := hb t (h.known t held)
    obtain ⟨condition, hc⟩ := (h.settled t held).conditions _ (List.getElem_mem hi)
    refine .output (decide_eq_false (ofNat_ne_birthIndex (by omega)))
      (held.load Store.transactionShelf rfl) ?_ hc
    rw [outputAt?_ofNat t (by omega), List.getElem?_eq_getElem hi]

theorem Intact.backed_of_live (h : Intact ts s) (hb : Bounded ts) {p : OutPoint}
    (hp : s.Holds (.point p)) : Unspent.Backed s p :=
  h.backed hb ((h.live_iff p).1 hp).1

/-! ## Messages -/

/-- While the unspent outputs are intact, no message is refused for damage. -/
theorem Intact.execute_not_fatal {c : Custody} (h : Intact ts c.store) (hb : Bounded ts)
    (rules : Rules) (block : Block) (m : Message) :
    (Ledger.execute rules block m).RefusedOnly (fun e => e.isFatal = false) c := by
  have hr := h.sound.readable
  have unspent : ∀ e : Unspent.Error, e.Plain → (Error.unspent e).isFatal = false := by
    intro e he
    cases e <;> first | rfl | exact he.elim
  have hashLock : ∀ e : HashLock.Error, e.Plain → (Error.hashLock e).isFatal = false := by
    intro e he
    cases e <;> first | rfl | exact he.elim
  have escrow : ∀ e : Escrow.Error, e.Plain → (Error.escrow e).isFatal = false := by
    intro e he
    cases e <;> first | rfl | exact he.elim
  have noContract : ∀ hash damage, HashLock.find c.store hash = .error (.damaged damage) →
      (Error.hashLock (.damaged damage)).isFatal = false := by
    intro hash damage hf
    cases hr.findContract hf
  have noEscrow : ∀ id damage, Escrow.find c.store id = .error (.damaged damage) →
      (Error.escrow (.damaged damage)).isFatal = false := by
    intro id damage hf
    cases hr.findEscrow hf
  cases m with
  | birth m => exact (Unspent.birth_refusedOnly unspent fun _ _ => rfl).adapt.map _
  | spend m =>
    refine (Unspent.spend_refusedOnly unspent ?_).adapt.map _
    intro input damage _ hl hd
    obtain ⟨value, owner, hok⟩ :=
      (h.backed_of_live hb ((h.sound.has_point _).1 hl)).resolve
    rw [hok] at hd
    cases hd
  | addContract m => exact (HashLock.add_refusedOnly hashLock fun _ _ => rfl).adapt.map _
  | redeemContract m =>
    exact (HashLock.redeem_refusedOnly hashLock (noContract _) fun _ _ _ _ => rfl).adapt.map _
  | failContract m =>
    exact (HashLock.fail_refusedOnly hashLock (noContract _) fun _ _ _ _ => rfl).adapt.map _
  | initEscrow m => exact (Escrow.init_refusedOnly escrow fun _ _ => rfl).adapt.map _
  | abortEscrow m =>
    exact (Escrow.abort_refusedOnly escrow (noEscrow _) fun _ _ _ _ _ => rfl).adapt.map _
  | joinEscrow m =>
    exact (Escrow.join_refusedOnly escrow (noEscrow _) (fun _ _ _ _ _ _ _ => rfl)
      fun _ _ _ _ => rfl).adapt.map _
  | spendEscrow m =>
    exact (Escrow.spend_refusedOnly escrow (noEscrow _) fun _ _ _ _ _ _ _ => rfl).adapt.map _

theorem Intact.deliver_not_fatal {l : Ledger} (h : Intact ts l.store) (hb : Bounded ts)
    {rules : Rules} {block : Block} {m : Message} {e : Error}
    (hd : (Ledger.deliver rules block m l).1 = .error e) : e.isFatal = false := by
  unfold Ledger.deliver at hd
  cases hx : (Ledger.execute rules block m).exec l.custody with
  | mk outcome custody =>
    rw [hx] at hd
    cases outcome with
    | ok event => cases hd
    | error e' =>
      cases hd
      exact h.execute_not_fatal hb rules block m e _ hx

theorem Envelope.read_error {env : Envelope} {e : Error} (h : env.read = .error e) :
    e.isFatal = false := by
  unfold Envelope.read at h
  split at h
  · cases h
    rfl
  · obtain ⟨fault, -, rfl⟩ := mapError_error h
    rfl

theorem Intact.deliverEnvelope_not_fatal {l : Ledger} (h : Intact ts l.store) (hb : Bounded ts)
    {rules : Rules} {block : Block} {env : Envelope} {e : Error}
    (hd : (Ledger.deliverEnvelope rules block env l).1 = .error e) : e.isFatal = false := by
  unfold Ledger.deliverEnvelope at hd
  split at hd
  · exact h.deliver_not_fatal hb hd
  · rename_i error hread
    cases hd
    exact Envelope.read_error hread

/-! ## Queries -/

/-- While the unspent outputs are intact, no query is refused for damage: it is answered, or what it asks
for is not there. -/
theorem Intact.answer_not_fatal (h : Intact ts s) (hb : Bounded ts) {q : Query} {e : Error}
    (hq : q.answer s = .error e) : e.isFatal = false := by
  have hr := h.sound.readable
  cases q with
  | listAccountOutputs =>
    obtain ⟨found, hl⟩ := hr.accounts
    simp only [Query.answer, Unspent.listAccountOutputs, hl] at hq
    cases hq
  | listOutPoints =>
    obtain ⟨found, hl⟩ := hr.points
    simp only [Query.answer, Unspent.listOutPoints, hl] at hq
    cases hq
  | listTransactions =>
    obtain ⟨found, hl⟩ := hr.transactions
    simp only [Query.answer, Unspent.listTransactions, hl] at hq
    cases hq
  | getTransaction hash =>
    obtain ⟨found, hl⟩ := hr.transaction hash
    simp only [Query.answer, Unspent.getTransaction, hl] at hq
    cases found with
    | none =>
      cases hq
      rfl
    | some t => cases hq
  | balance address =>
    simp only [Query.answer, h.walletOf_eq hb address] at hq
    cases hq
  | getContract hash =>
    simp only [Query.answer] at hq
    cases hf : HashLock.find s hash with
    | ok contract =>
      rw [hf] at hq
      cases hq
    | error e' =>
      rw [hf, hr.findContract hf] at hq
      cases hq
      rfl
  | getEscrow id =>
    simp only [Query.answer] at hq
    cases hf : Escrow.find s id with
    | ok contract =>
      rw [hf] at hq
      cases hq
    | error e' =>
      rw [hf, hr.findEscrow hf] at hq
      cases hq
      rfl

/-! ## Runs -/

namespace Ledger

/-- In every state of a run, whatever calls it is made of, no further message in either form and no query
is refused for damage: every record that is there is read, and every live outpoint refers to a record, an
output and a condition that are there. -/
theorem never_damaged (rules : Rules) (ops : List Operation) (hd : Distinct (transactions ops))
    (hb : Bounded (transactions ops)) :
    (∀ block m error, (deliver rules block m (run rules ops)).1 = .error error →
      error.isFatal = false) ∧
    (∀ block e error, (deliverEnvelope rules block e (run rules ops)).1 = .error error →
      error.isFatal = false) ∧
    (∀ q error, query q (run rules ops) = .error error → error.isFatal = false) ∧
    (run rules ops).store.Readable ∧
    (∀ p, (run rules ops).Live p → Unspent.Backed (run rules ops).store p ∧
      ∃ value owner, Unspent.resolve (run rules ops).store p = .ok (value, owner)) := by
  have hi : Intact (transactions ops) (run rules ops).store := intact_run rules hd hb fun _ ht => ht
  refine ⟨?_, ?_, ?_, hi.sound.readable, ?_⟩
  · intro block m error h
    exact hi.deliver_not_fatal hb h
  · intro block e error h
    exact hi.deliverEnvelope_not_fatal hb h
  · intro q error h
    exact hi.answer_not_fatal hb h
  · intro p hl
    have hbacked := hi.backed_of_live hb ((hi.sound.has_point p).1 hl)
    exact ⟨hbacked, hbacked.resolve⟩

/-- Alice tries to spend an outpoint twice and is refused, but not for damage; what Bob was paid is backed
by her payment. -/
theorem never_damaged_sample :
    Distinct (transactions Sample.ops) ∧ Bounded (transactions Sample.ops) ∧
    (∃ error, (deliver {} Sample.block (.spend Sample.repayment) (run {} Sample.ops)).1 =
      .error error ∧ error.isFatal = false) ∧
    Unspent.Backed (run {} Sample.ops).store ⟨Sample.payment.tx.hash, 0⟩ := by
  obtain ⟨hdeliver, -, -, -, hlive⟩ := never_damaged {} Sample.ops distinct_sample bounded_sample
  have hstate : ((deliver {} Sample.block (.spend Sample.repayment) (run {} Sample.ops)).1 =
        .error (.unspent (.outPointNotFound Sample.point))) ∧
      (run {} Sample.ops).Live ⟨Sample.payment.tx.hash, 0⟩ := by decide +kernel
  obtain ⟨hrefused, hbob⟩ := hstate
  refine ⟨distinct_sample, bounded_sample, ⟨_, hrefused, ?_⟩, (hlive _ hbob).1⟩
  exact hdeliver Sample.block (.spend Sample.repayment) _ hrefused

end Ledger

end Settlement
