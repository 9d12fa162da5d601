import Mathlib.Logic.Function.Basic
import Settlement.Proofs.Report

/-!
# A replica kept from the log

Whoever reads the log and nothing else can keep a replica of the live outpoints, the contracts and the
escrows, as much of each as the events tell. The replica follows the store event by event: what an event
adds, changes or takes away in the replica is what its message has written (`Reflects.apply`). For
contracts and escrows this is one argument about a map that mirrors a kind of records (`View.Mirrors`).

Results:
* `Reflects.apply`: an event takes the replica where its message took the store.
* `Ledger.replay_log`: the log of a run, read from the beginning, gives what the queries answer.
-/
namespace Settlement

open Unspent (AccountOutput)

/-! ## The replica -/

/-- What the log tells of a hash-locked contract. -/
structure HashLock.Summary where
  amount : Coin
  redeemAddress : Address
  timeoutAddress : Address
  expiresAt : Height
  status : Status
  deriving DecidableEq

def HashLock.Contract.summary (c : Contract) : Summary :=
  ⟨c.amount, c.redeemAddress, c.timeoutAddress, c.expiresAt, c.status⟩

/-- What the log tells of an escrow. -/
structure Escrow.Summary where
  partyA : Address
  partyB : Address
  stage : Stage
  balance : Coin
  deriving DecidableEq

def Escrow.Contract.summary (c : Contract) : Summary :=
  ⟨c.partyA, c.partyB, c.stage, c.balance⟩

/-- How an outpoint came to be: by a birth, or by the transaction of a hash. -/
inductive Origin
  | born (owner : Address) (value : Amount)
  | created (hash : Digest)
  deriving DecidableEq

/-- What a reader of the log keeps. -/
structure Replica where
  points : OutPoint → Option Origin
  contracts : Digest → Option HashLock.Summary
  escrows : EscrowId → Option Escrow.Summary

namespace Replica

def empty : Replica := ⟨fun _ => none, fun _ => none, fun _ => none⟩

def setPoint (r : Replica) (p : OutPoint) (entry : Option Origin) : Replica :=
  { r with points := Function.update r.points p entry }

def addPoints (r : Replica) (origin : Origin) (points : List OutPoint) : Replica :=
  { r with points := points.foldl (fun f p => Function.update f p (some origin)) r.points }

def setContract (r : Replica) (hash : Digest) (entry : Option HashLock.Summary) : Replica :=
  { r with contracts := Function.update r.contracts hash entry }

def setEscrow (r : Replica) (id : EscrowId) (entry : Option Escrow.Summary) : Replica :=
  { r with escrows := Function.update r.escrows id entry }

def setStatus (r : Replica) (hash : Digest) (status : HashLock.Status) : Replica :=
  r.setContract hash ((r.contracts hash).map fun c => { c with status })

def changeEscrow (r : Replica) (id : EscrowId) (change : Escrow.Summary → Escrow.Summary) :
    Replica :=
  r.setEscrow id ((r.escrows id).map change)

/-- The replica after one more event. -/
def apply (r : Replica) : Event → Replica
  | .outputBorn e => r.setPoint (.ofBirth e.id) (some (.born e.owner e.value))
  | .transactionApplied e => (r.setPoint e.spent none).addPoints (.created e.hash) e.created
  | .contractCreated e =>
    r.setContract e.hash (some ⟨e.amount, e.redeemAddress, e.timeoutAddress, e.expiresAt, .created⟩)
  | .contractRedeemed e => r.setStatus e.hash .redeemed
  | .contractFailed e => r.setStatus e.hash .failed
  | .escrowCreated e => r.setEscrow e.id (some ⟨e.partyA, e.partyB, .created, e.balance⟩)
  | .escrowAborted e => r.setEscrow e.id none
  | .escrowJoined e =>
    r.changeEscrow e.id fun c => { c with stage := .locked, balance := e.balance }
  | .escrowSpent e => r.changeEscrow e.id fun c => { c with balance := e.remaining }

def replay (events : List Event) : Replica := events.foldl apply empty

theorem replay_append (events more : List Event) :
    replay (events ++ more) = more.foldl apply (replay events) :=
  List.foldl_append

theorem points_setPoint (r : Replica) (q : OutPoint) (entry : Option Origin) (p : OutPoint) :
    (r.setPoint q entry).points p = if p = q then entry else r.points p :=
  Function.update_apply r.points q entry p

theorem points_addPoints (r : Replica) (origin : Origin) (points : List OutPoint) (p : OutPoint) :
    (r.addPoints origin points).points p = if p ∈ points then some origin else r.points p := by
  unfold addPoints
  induction points generalizing r with
  | nil => simp
  | cons q points ih =>
    have hstep := ih { r with points := Function.update r.points q (some origin) }
    simp only [List.foldl_cons] at hstep ⊢
    rw [hstep]
    by_cases hp : p ∈ points
    · simp [hp]
    · by_cases hq : p = q
      · simp [hq]
      · simp [hp, hq]

end Replica

/-! ## Maps that mirror a kind of records -/

/-- A view of a kind of records: what is shown of each, and under which name. -/
structure View (α κ β : Type) where
  shelf : Store.Shelf α
  name : α → κ
  shown : α → β
  name_iff : ∀ a b, (shelf.wrap a).key = (shelf.wrap b).key ↔ name a = name b

namespace View

def contracts : View HashLock.Contract Digest HashLock.Summary where
  shelf := Store.contractShelf
  name := HashLock.Contract.hash
  shown := HashLock.Contract.summary
  name_iff a b := by simp [Store.contractShelf, Record.key]

def escrows : View Escrow.Contract EscrowId Escrow.Summary where
  shelf := Store.escrowShelf
  name := Escrow.Contract.id
  shown := Escrow.Contract.summary
  name_iff a b := by simp [Store.escrowShelf, Record.key]

variable {α κ β : Type} {view : View α κ β} {f : κ → Option β} {s s' : Store} {a : α}

/-- A map has what the view shows of the records in a store, and nothing else. -/
def Mirrors (view : View α κ β) (f : κ → Option β) (s : Store) : Prop :=
  ∀ k v, f k = some v ↔ ∃ a, s.Holds (view.shelf.wrap a) ∧ view.name a = k ∧ view.shown a = v

theorem mirrors_empty (view : View α κ β) : view.Mirrors (fun _ => none) .empty := by
  intro k v
  constructor
  · intro h
    cases h
  · rintro ⟨a, ha, -⟩
    exact absurd ha Store.holds_empty

theorem key_ne (view : View α κ β) {a b : α} (h : view.name b ≠ view.name a) :
    (view.shelf.wrap b).key ≠ (view.shelf.wrap a).key :=
  fun he => h ((view.name_iff b a).1 he)

theorem Mirrors.frame (h : view.Mirrors f s)
    (hs : ∀ a, s'.Holds (view.shelf.wrap a) ↔ s.Holds (view.shelf.wrap a)) : view.Mirrors f s' := by
  intro k v
  simp only [h k v, hs]

theorem Mirrors.shown (h : view.Mirrors f s) (ha : s.Holds (view.shelf.wrap a)) :
    f (view.name a) = some (view.shown a) :=
  (h _ _).2 ⟨a, ha, rfl, rfl⟩

/-- The listing of a sound store shows what the map has. -/
theorem Mirrors.listed (h : view.Mirrors f s) (hs : s.Sound) :
    ∃ found, view.shelf.space.loadAll view.shelf.codec s view.shelf.start = .ok found ∧
      ∀ k v, f k = some v ↔ ∃ e ∈ found, view.name e.2 = k ∧ view.shown e.2 = v := by
  refine ⟨s.listed view.shelf, hs.loadAll_eq view.shelf, fun k v => ?_⟩
  rw [h k v]
  exact (Store.exists_listed view.shelf).symm

variable [DecidableEq κ]

theorem Mirrors.write (h : view.Mirrors f s) (a : α) :
    view.Mirrors (Function.update f (view.name a) (some (view.shown a)))
      (s.write (view.shelf.wrap a)) := by
  intro k v
  by_cases hk : k = view.name a
  · subst hk
    simp only [Function.update_self, Option.some.injEq, Store.holds_write]
    constructor
    · intro hv
      exact ⟨a, .inl rfl, rfl, hv⟩
    · rintro ⟨b, hb | ⟨hne, -⟩, hn, rfl⟩
      · rw [view.shelf.wrap_injective hb]
      · exact absurd ((view.name_iff b a).2 hn) hne
  · rw [Function.update_of_ne hk, h k v]
    refine exists_congr fun b => and_congr_left fun hb => ?_
    exact (Store.holds_write_of_key (view.key_ne fun hn => hk (hb.1.symm.trans hn))).symm

theorem Mirrors.change (h : view.Mirrors f s) (ha : s.Holds (view.shelf.wrap a)) {b : α}
    {g : β → β} (hn : view.name b = view.name a) (hv : view.shown b = g (view.shown a)) :
    view.Mirrors (Function.update f (view.name a) ((f (view.name a)).map g))
      (s.write (view.shelf.wrap b)) := by
  rw [h.shown ha, Option.map_some, ← hn, ← hv]
  exact h.write b

theorem Mirrors.remove (h : view.Mirrors f s) (a : α) :
    view.Mirrors (Function.update f (view.name a) none)
      (s.remove (view.shelf.wrap a).key) := by
  intro k v
  by_cases hk : k = view.name a
  · subst hk
    simp only [Function.update_self, reduceCtorEq, Store.holds_remove, false_iff, not_exists]
    rintro b ⟨⟨hne, -⟩, hn, -⟩
    exact hne ((view.name_iff b a).2 hn)
  · rw [Function.update_of_ne hk, h k v]
    refine exists_congr fun b => and_congr_left fun hb => ?_
    exact (Store.holds_remove_of_key (view.key_ne fun hn => hk (hb.1.symm.trans hn))).symm

end View

/-! ## The replica follows the store -/

/-- An account output of an owner and a value is on record for an outpoint. -/
def Born (s : Store) (p : OutPoint) (owner : Address) (value : Amount) : Prop :=
  ∃ output, s.Holds (.account output) ∧ p = .ofBirth output.id ∧ output.owner = owner ∧
    output.value = value

/-- The replica has what the store holds: the live outpoints, those that were born as they were born, and
all contracts and escrows. -/
structure Reflects (r : Replica) (s : Store) : Prop where
  points : ∀ p, (r.points p).isSome ↔ s.Holds (.point p)
  born : ∀ p owner value, r.points p = some (.born owner value) → Born s p owner value
  contracts : View.contracts.Mirrors r.contracts s
  escrows : View.escrows.Mirrors r.escrows s

theorem reflects_empty : Reflects .empty .empty where
  points p := by
    have hn := @Store.holds_empty (.point p)
    simp [Replica.empty, hn]
  born p owner value h := by cases h
  contracts := View.contracts.mirrors_empty
  escrows := View.escrows.mirrors_empty

section

variable {r : Replica} {s s' : Store} {event : Event}

theorem Reported.points (he : Reported s event s')
    (h : ∀ p, (r.points p).isSome ↔ s.Holds (.point p)) (p : OutPoint) :
    ((r.apply event).points p).isSome ↔ s'.Holds (.point p) := by
  have hframe := fun hq => (h p).trans (he.frame (q := .point p) hq).symm
  cases he with
  | @outputBorn output fresh =>
    rw [point_birth, Replica.apply, Replica.points_setPoint]
    by_cases hb : p = .ofBirth output.id
    · simp [hb]
    · simp [hb, h p]
  | @transactionApplied t spent value live =>
    rw [Unspent.holds_applyTransaction_of_kind (by simp [Record.key, Key.kind]), Replica.apply,
      Replica.points_addPoints, Replica.points_setPoint]
    by_cases hc : p ∈ Unspent.createdPoints t.hash t.outputs.length
    · simp [hc]
    · by_cases hs : p = spent
      · subst hs
        simp [hc]
      · simp [hc, hs, h p]
  | _ => exact hframe (by simp [Event.touches, Record.key, Key.kind])

theorem Reported.born (he : Reported s event s')
    (h : ∀ p owner value, r.points p = some (.born owner value) → Born s p owner value)
    {p : OutPoint} {owner : Address} {value : Amount}
    (hp : (r.apply event).points p = some (.born owner value)) : Born s' p owner value := by
  have hkept : r.points p = some (.born owner value) → Born s' p owner value := by
    intro hr
    obtain ⟨output, ha, hrest⟩ := h p owner value hr
    exact ⟨output, he.keeps_account ha, hrest⟩
  cases he with
  | @outputBorn output fresh =>
    rw [Replica.apply, Replica.points_setPoint] at hp
    split at hp
    · rename_i hb
      cases hp
      exact ⟨output, (account_birth fresh).2 (.inl rfl), hb, rfl, rfl⟩
    · exact hkept hp
  | transactionApplied live =>
    rw [Replica.apply, Replica.points_addPoints, Replica.points_setPoint] at hp
    split at hp
    · cases hp
    · split at hp
      · cases hp
      · exact hkept hp
  | _ => exact hkept hp

theorem Reported.contracts (he : Reported s event s')
    (h : View.contracts.Mirrors r.contracts s) :
    View.contracts.Mirrors (r.apply event).contracts s' := by
  have hframe := fun (hq : Kind.contract ∉ event.touches) =>
    h.frame fun a => he.frame (q := .contract a) hq
  cases he with
  | @contractCreated contract fresh unresolved =>
    have hshown : View.contracts.shown contract = ⟨contract.amount, contract.redeemAddress,
        contract.timeoutAddress, contract.expiresAt, .created⟩ := by
      rw [← unresolved]
      rfl
    have hw := h.write contract
    rw [hshown] at hw
    exact hw
  | contractRedeemed held unresolved => exact h.change held rfl rfl
  | contractFailed held unresolved => exact h.change held rfl rfl
  | _ => exact hframe (by simp [Event.touches])

theorem Reported.escrows (he : Reported s event s') (h : View.escrows.Mirrors r.escrows s) :
    View.escrows.Mirrors (r.apply event).escrows s' := by
  have hframe := fun (hq : Kind.escrow ∉ event.touches) =>
    h.frame fun a => he.frame (q := .escrow a) hq
  cases he with
  | @escrowCreated contract fresh unjoined =>
    have hshown : View.escrows.shown contract =
        ⟨contract.partyA, contract.partyB, .created, contract.balance⟩ := by
      rw [← unjoined]
      rfl
    have hw := h.write contract
    rw [hshown] at hw
    exact hw
  | @escrowAborted contract held => exact h.remove contract
  | escrowJoined held => exact h.change held rfl rfl
  | escrowSpent held => exact h.change held rfl rfl
  | _ => exact hframe (by simp [Event.touches])

/-- An event takes the replica where its message took the store. -/
theorem Reflects.apply (h : Reflects r s) (he : Reported s event s') :
    Reflects (r.apply event) s' where
  points := he.points h.points
  born _ _ _ := he.born h.born
  contracts := he.contracts h.contracts
  escrows := he.escrows h.escrows

end

theorem reflects_replay (rules : Rules) (ops : List Operation) :
    Reflects (.replay (Ledger.log rules ops)) (Ledger.run rules ops).store := by
  induction ops using List.reverseRecOn with
  | nil => exact reflects_empty
  | append_singleton ops op ih =>
    have hstep := op.reported_perform rules (sound_run rules ops)
    rw [Ledger.log_concat, Replica.replay_append, Ledger.run_concat]
    cases he : op.event? rules (Ledger.run rules ops) with
    | some event =>
      rw [he] at hstep
      exact ih.apply hstep
    | none =>
      rw [he] at hstep
      rw [hstep]
      exact ih

/-! ## The replica answers for the store -/

/-- The replica has exactly what the queries and listings of the store answer. -/
structure Replica.Agrees (r : Replica) (s : Store) : Prop where
  /-- The live outpoints are those listed. -/
  points : ∃ points, Query.answer s .listOutPoints = .ok (.outPoints points) ∧ points.Nodup ∧
    ∀ p, p ∈ points ↔ (r.points p).isSome
  /-- An outpoint that was born has the owner and the value that it was born with. -/
  born : ∀ p owner value, r.points p = some (.born owner value) →
    Unspent.resolve s p = .ok (value, owner)
  /-- A contract is found as it is in the replica, or it is not there in either. -/
  contract : ∀ hash, (∃ c, Query.answer s (.getContract hash) = .ok (.contract c) ∧
      r.contracts hash = some c.summary) ∨
    Query.answer s (.getContract hash) = .error (.hashLock (.notFound hash)) ∧
      r.contracts hash = none
  /-- An escrow is found as it is in the replica, or it is not there in either. -/
  escrow : ∀ id, (∃ c, Query.answer s (.getEscrow id) = .ok (.escrow c) ∧
      r.escrows id = some c.summary) ∨
    Query.answer s (.getEscrow id) = .error (.escrow (.notFound id)) ∧ r.escrows id = none
  /-- No contract is stored that the replica does not have. -/
  contracts : ∃ found, HashLock.space.loadAll HashLock.Contract.codec s [] = .ok found ∧
    ∀ hash v, r.contracts hash = some v ↔ ∃ e ∈ found, e.2.hash = hash ∧ e.2.summary = v
  /-- No escrow is stored that the replica does not have. -/
  escrows : ∃ found, Escrow.space.loadAll Escrow.Contract.codec s [] = .ok found ∧
    ∀ id v, r.escrows id = some v ↔ ∃ e ∈ found, e.2.id = id ∧ e.2.summary = v

theorem Reflects.agrees {r : Replica} {s : Store} (h : Reflects r s) (hs : s.Sound) :
    r.Agrees s where
  points := by
    have hl : Unspent.listOutPoints s = .ok (s.records.filterMap Store.pointShelf.pick) :=
      hs.loadAll Store.pointShelf
    refine ⟨_, by rw [Query.answer, hl]; rfl, s.nodup_pick Store.pointShelf, fun p => ?_⟩
    rw [Store.mem_pick, h.points]
    rfl
  born p owner value hp := by
    obtain ⟨output, ha, rfl, rfl, rfl⟩ := h.born p owner value hp
    exact resolve_account ha
  contract hash := by
    rcases hs.contract_cases hash with ⟨contract, hf, hh, rfl⟩ | ⟨hf, hn⟩
    · exact .inl ⟨contract, by rw [Query.answer, hf]; rfl, h.contracts.shown hh⟩
    · refine .inr ⟨by rw [Query.answer, hf]; rfl, Option.eq_none_iff_forall_ne_some.2 ?_⟩
      intro v hv
      obtain ⟨contract, hh, hk, -⟩ := (h.contracts hash v).1 hv
      exact hn contract hh hk
  escrow id := by
    rcases hs.escrow_cases id with ⟨contract, hf, hh, rfl⟩ | ⟨hf, hn⟩
    · exact .inl ⟨contract, by rw [Query.answer, hf]; rfl, h.escrows.shown hh⟩
    · refine .inr ⟨by rw [Query.answer, hf]; rfl, Option.eq_none_iff_forall_ne_some.2 ?_⟩
      intro v hv
      obtain ⟨contract, hh, hk, -⟩ := (h.escrows id v).1 hv
      exact hn contract hh hk
  contracts := h.contracts.listed hs
  escrows := h.escrows.listed hs

namespace Ledger

/-- In every state of a run, whatever calls it is made of and wherever among them the log is drained, the
log read from the beginning gives the live outpoints, the contracts and the escrows of the store. -/
theorem replay_log (rules : Rules) (ops : List Operation) :
    (Replica.replay (log rules ops)).Agrees (run rules ops).store :=
  (reflects_replay rules ops).agrees (sound_run rules ops)

example : (Replica.replay (log {} Sample.ops)).escrows Sample.savings =
    some ⟨Sample.alice, Sample.bob, .locked, Sample.stake 10⟩ := by decide +kernel

end Ledger

end Settlement
