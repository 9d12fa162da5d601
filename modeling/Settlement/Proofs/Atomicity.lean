import Settlement.Ledger

/-!
# A refused message changes nothing

An action that is refused part way leaves behind what it wrote before (`Settlement.Action`), so a handler
leaves nothing behind only because of its order: it reads and checks, then asks the bank, and writes
records last. That order is what the three properties below say of actions:

* `Reads`: the state is the same afterwards, whatever the outcome;
* `Certain`: there is no refusal;
* `Atomic`: a refusal leaves the state as it was.

Reading may come before anything atomic (`Reads.bind`), and after it only what is certain
(`Atomic.bind`). The bank's deposits and withdrawals are atomic because they check before they write.

Results:
* `execute_atomic`: every handler is atomic, in any state, damaged records included.
* `delivery_atomic`: a refused delivery leaves records, bank and events as they were, and an accepted one
  adds its own event and no other.
-/
namespace Settlement

namespace Action

variable {σ τ ε δ α β : Type}

/-- The state is the same afterwards, whatever the outcome. -/
def Reads (x : Action σ ε α) : Prop := ∀ s, (x.exec s).2 = s

/-- There is no refusal. -/
def Certain (x : Action σ ε α) : Prop := ∀ s, ∃ a s', x.exec s = (.ok a, s')

/-- A refusal leaves the state as it was. -/
def Atomic (x : Action σ ε α) : Prop := ∀ s e s', x.exec s = (.error e, s') → s' = s

theorem reads_check (x : Except ε α) : Reads (check x : Action σ ε α) := fun _ => rfl

theorem reads_get : Reads (get : Action σ ε σ) := fun _ => rfl

theorem reads_demand (condition : Prop) [Decidable condition] (refusal : ε) :
    Reads (demand condition refusal : Action σ ε Unit) := by
  intro s
  rw [exec_demand]

theorem Certain.atomic {x : Action σ ε α} (hx : Certain x) : Atomic x := by
  intro s e s' h
  obtain ⟨a, t, ha⟩ := hx s
  rw [ha] at h
  cases h

theorem certain_pure (a : α) : Certain (pure a : Action σ ε α) := fun s => ⟨a, s, rfl⟩

theorem certain_modify (f : σ → σ) : Certain (modify f : Action σ ε PUnit) :=
  fun s => ⟨(), f s, rfl⟩

theorem Certain.bind {x : Action σ ε α} {f : α → Action σ ε β} (hx : Certain x)
    (hf : ∀ a, Certain (f a)) : Certain (x >>= f) := by
  intro s
  obtain ⟨a, s', h⟩ := hx s
  obtain ⟨b, s'', h'⟩ := hf a s'
  exact ⟨b, s'', exec_bind_ok_iff.2 ⟨a, s', h, h'⟩⟩

/-- Reading may come before anything atomic. -/
theorem Reads.bind {x : Action σ ε α} {f : α → Action σ ε β} (hx : Reads x)
    (hf : ∀ a, Atomic (f a)) : Atomic (x >>= f) := by
  intro s e s' h
  have hr := hx s
  rw [exec_bind] at h
  cases hs : x.exec s with
  | mk outcome t =>
    rw [hs] at h hr
    subst hr
    cases outcome with
    | ok a => exact hf a _ e s' h
    | error e' =>
      cases h
      rfl

/-- After something atomic may come only what is certain. -/
theorem Atomic.bind {x : Action σ ε α} {f : α → Action σ ε β} (hx : Atomic x)
    (hf : ∀ a, Certain (f a)) : Atomic (x >>= f) := by
  intro s e s' h
  rw [exec_bind] at h
  cases hs : x.exec s with
  | mk outcome t =>
    rw [hs] at h
    cases outcome with
    | ok a =>
      obtain ⟨b, t', hb⟩ := hf a t
      simp only [hb, Prod.mk.injEq, reduceCtorEq, false_and] at h
    | error e' =>
      cases h
      exact hx s e s' hs

theorem Atomic.within {get : σ → τ} {put : τ → σ → σ} {x : Action τ ε α} (hx : Atomic x)
    (hput : ∀ s, put (get s) s = s) : Atomic (x.within get put) := by
  intro s e s' h
  rw [exec_within] at h
  cases hs : x.exec (get s) with
  | mk outcome t =>
    rw [hs] at h
    cases outcome with
    | ok a => cases h
    | error e' =>
      cases h
      rw [hx _ _ _ hs, hput]

theorem Atomic.adapt {x : Action σ ε α} (hx : Atomic x) (f : ε → δ) :
    Atomic (x.adapt f : Action σ δ α) := by
  intro s e s' h
  rw [exec_adapt] at h
  cases hs : x.exec s with
  | mk outcome t =>
    rw [hs] at h
    cases outcome with
    | ok a => cases h
    | error e' =>
      cases h
      exact hx s _ _ hs

theorem Atomic.map {x : Action σ ε α} (hx : Atomic x) (f : α → β) : Atomic (f <$> x) := by
  intro s e s' h
  rw [exec_map] at h
  cases hs : x.exec s with
  | mk outcome t =>
    rw [hs] at h
    cases outcome with
    | ok a => cases h
    | error e' =>
      cases h
      exact hx s _ _ hs

end Action

/-! ## The bank -/

theorem Bank.deposit_atomic (address : Address) (coin : Coin) :
    (Bank.deposit address coin).Atomic := by
  intro b e b' h
  rw [Bank.exec_deposit] at h
  split at h <;> cases h
  rfl

theorem Bank.withdraw_atomic (address : Address) (coin : Coin) :
    (Bank.withdraw address coin).Atomic := by
  intro b e b' h
  rw [Bank.exec_withdraw] at h
  split at h <;> cases h
  rfl

namespace Custody

variable {ε : Type}

theorem credit_atomic (refusal : BankError → ε) (address : Address) (coin : Coin) :
    (credit refusal address coin).Atomic :=
  ((Bank.deposit_atomic address coin).within fun _ => rfl).adapt refusal

theorem debit_atomic (refusal : BankError → ε) (address : Address) (coin : Coin) :
    (debit refusal address coin).Atomic :=
  ((Bank.withdraw_atomic address coin).within fun _ => rfl).adapt refusal

theorem certain_write (change : Store → Store) : (write change : Action Custody ε Unit).Certain :=
  Action.certain_modify _

/-- The end of every handler: it writes and reports. -/
theorem certain_write_report {α : Type} (change : Store → Store) (a : α) :
    (write change >>= fun _ => pure a : Action Custody ε α).Certain :=
  (certain_write change).bind fun _ => Action.certain_pure a

end Custody

/-! ## The handlers -/

open Settlement.Action Settlement.Custody

theorem Unspent.birth_atomic (config : Config) (block : Block) (m : Unspent.Birth) :
    (Unspent.birth config block m).Atomic := by
  unfold Unspent.birth
  refine (reads_check _).bind fun _ => ?_
  refine (reads_demand _ _).bind fun _ => ?_
  refine reads_get.bind fun c => ?_
  refine (reads_demand _ _).bind fun _ => ?_
  exact (debit_atomic _ _ _).bind fun _ => certain_write_report _ _

/-- A spend asks nothing of the bank, so its last check is followed by its writes. -/
theorem Unspent.spend_atomic (config : Config) (verifier : Verifier) (m : Unspent.Spend) :
    (Unspent.spend config verifier m).Atomic := by
  unfold Unspent.spend
  refine (reads_check _).bind fun _ => ?_
  refine (reads_check _).bind fun input => ?_
  refine (reads_demand _ _).bind fun _ => ?_
  refine reads_get.bind fun c => ?_
  refine (reads_demand _ _).bind fun _ => ?_
  refine (reads_check _).bind fun resolved => ?_
  refine (reads_demand _ _).bind fun _ => ?_
  refine (reads_demand _ _).bind fun _ => ?_
  refine (reads_check _).bind fun _ => ?_
  exact (certain_write_report _ _).atomic

theorem HashLock.add_atomic (block : Block) (m : HashLock.Add) :
    (HashLock.add block m).Atomic := by
  unfold HashLock.add
  refine (reads_check _).bind fun _ => ?_
  refine reads_get.bind fun c => ?_
  refine (reads_demand _ _).bind fun _ => ?_
  exact (debit_atomic _ _ _).bind fun _ => certain_write_report _ _

theorem HashLock.redeem_atomic (block : Block) (m : HashLock.Redeem) :
    (HashLock.redeem block m).Atomic := by
  unfold HashLock.redeem
  refine (reads_check _).bind fun _ => ?_
  refine reads_get.bind fun c => ?_
  refine (reads_check _).bind fun contract => ?_
  refine (reads_demand _ _).bind fun _ => ?_
  refine (reads_demand _ _).bind fun _ => ?_
  exact (credit_atomic _ _ _).bind fun _ => certain_write_report _ _

theorem HashLock.fail_atomic (block : Block) (m : HashLock.Fail) :
    (HashLock.fail block m).Atomic := by
  unfold HashLock.fail
  refine (reads_check _).bind fun _ => ?_
  refine reads_get.bind fun c => ?_
  refine (reads_check _).bind fun contract => ?_
  refine (reads_demand _ _).bind fun _ => ?_
  refine (reads_demand _ _).bind fun _ => ?_
  exact (credit_atomic _ _ _).bind fun _ => certain_write_report _ _

theorem Escrow.init_atomic (m : Escrow.Init) : (Escrow.init m).Atomic := by
  unfold Escrow.init
  refine (reads_check _).bind fun _ => ?_
  refine reads_get.bind fun c => ?_
  refine (reads_demand _ _).bind fun _ => ?_
  refine (reads_demand _ _).bind fun _ => ?_
  refine (reads_demand _ _).bind fun _ => ?_
  refine (reads_demand _ _).bind fun _ => ?_
  refine (reads_demand _ _).bind fun _ => ?_
  exact (debit_atomic _ _ _).bind fun _ => certain_write_report _ _

theorem Escrow.abort_atomic (m : Escrow.Abort) : (Escrow.abort m).Atomic := by
  unfold Escrow.abort
  refine (reads_check _).bind fun _ => ?_
  refine reads_get.bind fun c => ?_
  refine (reads_check _).bind fun contract => ?_
  refine (reads_demand _ _).bind fun _ => ?_
  refine (reads_demand _ _).bind fun _ => ?_
  exact (credit_atomic _ _ _).bind fun _ => certain_write_report _ _

/-- The new balance is worked out before the bank is asked. -/
theorem Escrow.join_atomic (m : Escrow.Join) : (Escrow.join m).Atomic := by
  unfold Escrow.join
  refine (reads_check _).bind fun _ => ?_
  refine reads_get.bind fun c => ?_
  refine (reads_check _).bind fun contract => ?_
  refine (reads_demand _ _).bind fun _ => ?_
  refine (reads_demand _ _).bind fun _ => ?_
  refine (reads_demand _ _).bind fun _ => ?_
  refine (reads_check _).bind fun balance => ?_
  exact (debit_atomic _ _ _).bind fun _ => certain_write_report _ _

theorem Escrow.spend_atomic (m : Escrow.Spend) : (Escrow.spend m).Atomic := by
  unfold Escrow.spend
  refine (reads_check _).bind fun _ => ?_
  refine reads_get.bind fun c => ?_
  refine (reads_check _).bind fun contract => ?_
  refine (reads_demand _ _).bind fun _ => ?_
  refine (reads_demand _ _).bind fun _ => ?_
  refine (reads_demand _ _).bind fun _ => ?_
  refine (reads_check _).bind fun remaining => ?_
  exact (credit_atomic _ _ _).bind fun _ => certain_write_report _ _

/-! ## Deliveries -/

namespace Ledger

theorem execute_atomic (rules : Rules) (block : Block) (m : Message) :
    (execute rules block m).Atomic := by
  cases m with
  | birth m => exact ((Unspent.birth_atomic _ _ m).adapt _).map _
  | spend m => exact ((Unspent.spend_atomic _ _ m).adapt _).map _
  | addContract m => exact ((HashLock.add_atomic _ m).adapt _).map _
  | redeemContract m => exact ((HashLock.redeem_atomic _ m).adapt _).map _
  | failContract m => exact ((HashLock.fail_atomic _ m).adapt _).map _
  | initEscrow m => exact ((Escrow.init_atomic m).adapt _).map _
  | abortEscrow m => exact ((Escrow.abort_atomic m).adapt _).map _
  | joinEscrow m => exact ((Escrow.join_atomic m).adapt _).map _
  | spendEscrow m => exact ((Escrow.spend_atomic m).adapt _).map _

theorem deliver_error {rules : Rules} {block : Block} {m : Message} {l l' : Ledger} {e : Error}
    (h : deliver rules block m l = (.error e, l')) : l' = l := by
  unfold deliver at h
  cases hx : (execute rules block m).exec l.custody with
  | mk outcome custody =>
    rw [hx] at h
    cases outcome with
    | ok event => cases h
    | error e' =>
      cases h
      rw [execute_atomic rules block m _ _ _ hx]

theorem deliver_ok {rules : Rules} {block : Block} {m : Message} {l l' : Ledger} {event : Event}
    (h : deliver rules block m l = (.ok event, l')) :
    (execute rules block m).exec l.custody = (.ok event, l'.custody) ∧
      l'.events = l.events ++ [event] := by
  unfold deliver at h
  cases hx : (execute rules block m).exec l.custody with
  | mk outcome custody =>
    rw [hx] at h
    cases outcome with
    | ok event' =>
      cases h
      exact ⟨rfl, rfl⟩
    | error e => cases h

theorem deliver_of_refused {rules : Rules} {block : Block} {m : Message} {l : Ledger} {e : Error}
    {c : Custody} (h : (execute rules block m).exec l.custody = (.error e, c)) :
    (deliver rules block m l).1 = .error e := by
  rw [deliver, h]

/-- A raw message that is not one leaves everything as it was; any other is delivered. -/
theorem deliverEnvelope_cases (rules : Rules) (block : Block) (e : Envelope) (l : Ledger) :
    (∃ error, deliverEnvelope rules block e l = (.error error, l)) ∨
      ∃ m, e.read = .ok m ∧ deliverEnvelope rules block e l = deliver rules block m l := by
  unfold deliverEnvelope
  cases e.read with
  | ok m => exact .inr ⟨m, rfl, rfl⟩
  | error error => exact .inl ⟨error, rfl⟩

/-- A refused delivery leaves records, bank and events as they were; an accepted one adds its own
event and no other. This holds in every ledger, reachable or not, for both forms of a message. -/
theorem delivery_atomic (rules : Rules) (block : Block) (l : Ledger) :
    (∀ m error l', deliver rules block m l = (.error error, l') → l' = l) ∧
    (∀ m event l', deliver rules block m l = (.ok event, l') →
      l'.events = l.events ++ [event]) ∧
    (∀ e error l', deliverEnvelope rules block e l = (.error error, l') → l' = l) ∧
    (∀ e event l', deliverEnvelope rules block e l = (.ok event, l') →
      l'.events = l.events ++ [event]) := by
  refine ⟨fun m error l' h => deliver_error h, fun m event l' h => (deliver_ok h).2, ?_, ?_⟩
  · intro e error l' h
    rcases deliverEnvelope_cases rules block e l with ⟨error', he⟩ | ⟨m, -, hm⟩
    · rw [he] at h
      cases h
      rfl
    · rw [hm] at h
      exact deliver_error h
  · intro e event l' h
    rcases deliverEnvelope_cases rules block e l with ⟨error', he⟩ | ⟨m, -, hm⟩
    · rw [he] at h
      cases h
    · rw [hm] at h
      exact (deliver_ok h).2

end Ledger

end Settlement
