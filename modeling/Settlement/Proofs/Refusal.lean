import Settlement.Proofs.Handlers
import Settlement.Proofs.Atomicity

/-!
# Why a message is refused

A handler is refused for reasons of three kinds: the message does not fit the rules or what it meets, the
bank refuses, or a record cannot be used. Which reasons are possible in a state is read off the links of
the handler (`RefusedOnly`): a check brings its own, and what follows a check may rely on it. Reasons of
the first kind are the same in every state (`Plain`), so a property of refusals is left to be shown only
where the bank is asked and where records are read.

Results:
* `Unspent.birth_refusedOnly`, `Unspent.spend_refusedOnly`
* `HashLock.add_refusedOnly`, `HashLock.redeem_refusedOnly`, `HashLock.fail_refusedOnly`
* `Escrow.init_refusedOnly`, `Escrow.abort_refusedOnly`, `Escrow.join_refusedOnly`,
  `Escrow.spend_refusedOnly`
-/
namespace Settlement

/-! ## The links of a handler -/

section Links

variable {σ ε δ α β : Type}

namespace Action

/-- In a state, an action is refused only for reasons of a kind. -/
def RefusedOnly (P : ε → Prop) (x : Action σ ε α) (s : σ) : Prop :=
  ∀ e s', x.exec s = (.error e, s') → P e

variable {P : ε → Prop} {s : σ}

theorem refusedOnly_check_bind {x : Except ε α} {f : α → Action σ ε β}
    (hx : ∀ e, x = .error e → P e) (hf : ∀ a, x = .ok a → RefusedOnly P (f a) s) :
    RefusedOnly P (check x >>= f) s := by
  intro e s' h
  rw [exec_bind, exec_check] at h
  cases x with
  | ok a => exact hf a rfl e s' h
  | error e' =>
    cases h
    exact hx e rfl

theorem refusedOnly_demand_bind {condition : Prop} [Decidable condition] {refusal : ε}
    {f : Unit → Action σ ε β} (hr : P refusal) (hf : condition → RefusedOnly P (f ()) s) :
    RefusedOnly P (demand condition refusal >>= f) s := by
  intro e s' h
  rw [exec_bind, exec_demand] at h
  by_cases hc : condition
  · rw [if_pos hc] at h
    exact hf hc e s' h
  · rw [if_neg hc] at h
    cases h
    exact hr

theorem refusedOnly_get_bind {f : σ → Action σ ε β} (hf : RefusedOnly P (f s) s) :
    RefusedOnly P ((get : Action σ ε σ) >>= f) s := by
  intro e s' h
  rw [exec_get_bind] at h
  exact hf e s' h

theorem Certain.refusedOnly {x : Action σ ε α} (hx : Certain x) : RefusedOnly P x s := by
  intro e s' h
  obtain ⟨a, t, ha⟩ := hx s
  rw [ha] at h
  cases h

theorem RefusedOnly.adapt {Q : δ → Prop} {f : ε → δ} {x : Action σ ε α}
    (hx : RefusedOnly (fun e => Q (f e)) x s) :
    RefusedOnly Q (ExceptT.adapt f x : Action σ δ α) s := by
  intro e s' h
  rw [exec_adapt] at h
  cases hs : x.exec s with
  | mk outcome t =>
    rw [hs] at h
    cases outcome with
    | ok a => cases h
    | error e' =>
      cases h
      exact hx e' _ hs

theorem RefusedOnly.map {x : Action σ ε α} (hx : RefusedOnly P x s) (f : α → β) :
    RefusedOnly P (f <$> x) s := by
  intro e s' h
  rw [exec_map] at h
  cases hs : x.exec s with
  | mk outcome t =>
    rw [hs] at h
    cases outcome with
    | ok a => cases h
    | error e' =>
      cases h
      exact hx e _ hs

end Action

namespace Custody

variable {P : ε → Prop} {refusal : BankError → ε} {address : Address} {coin : Coin} {c : Custody}

/-- After the bank was asked nothing is refused. -/
theorem refusedOnly_debit_bind {f : Unit → Action Custody ε β}
    (hd : ∀ e, c.bank.debit address coin = .error e → P (refusal e))
    (hf : ∀ a, (f a).Certain) : (debit refusal address coin >>= f).RefusedOnly P c := by
  intro e s' h
  rw [Action.exec_bind, exec_debit] at h
  cases hb : c.bank.debit address coin with
  | ok bank =>
    rw [hb] at h
    exact (hf ()).refusedOnly e s' h
  | error e' =>
    rw [hb] at h
    cases h
    exact hd e' hb

theorem refusedOnly_credit_bind {f : Unit → Action Custody ε β}
    (hd : ∀ e, c.bank.credit address coin = .error e → P (refusal e))
    (hf : ∀ a, (f a).Certain) : (credit refusal address coin >>= f).RefusedOnly P c := by
  intro e s' h
  rw [Action.exec_bind, exec_credit] at h
  cases hb : c.bank.credit address coin with
  | ok bank =>
    rw [hb] at h
    exact (hf ()).refusedOnly e s' h
  | error e' =>
    rw [hb] at h
    cases h
    exact hd e' hb

end Custody

theorem require_error {P : ε → Prop} {condition : Prop} [Decidable condition] {refusal e : ε}
    (h : require condition refusal = .error e) (hr : P refusal) : P e := by
  unfold require at h
  split at h
  · cases h
  · cases h
    exact hr

theorem require_bind_error {P : ε → Prop} {condition : Prop} [Decidable condition] {refusal e : ε}
    {next : Unit → Except ε α} (h : (require condition refusal >>= next) = .error e)
    (hr : P refusal) (hn : next () = .error e → P e) : P e := by
  by_cases hc : condition
  · rw [require, if_pos hc] at h
    exact hn h
  · rw [require, if_neg hc] at h
    cases h
    exact hr

theorem mapError_error {x : Except ε α} {f : ε → δ} {e : δ} (h : x.mapError f = .error e) :
    ∃ e', x = .error e' ∧ e = f e' := by
  cases x with
  | ok a => cases h
  | error e' =>
    cases h
    exact ⟨e', rfl, rfl⟩

end Links

open Settlement.Action Settlement.Custody

variable {c : Custody} {config : Config} {block : Block} {verifier : Verifier}

/-! ## Unspent outputs -/

namespace Unspent

/-- A refusal that has its reason neither in the bank nor in a record that cannot be used. -/
def Error.Plain : Error → Prop
  | bank _ | damaged _ => False
  | _ => True

variable {P : Error → Prop} (plain : ∀ e : Error, e.Plain → P e)

theorem checkConditions_error {index : Nat} {outputs : List Output} {e : Error}
    (h : checkConditions index outputs = .error e) : e.Plain := by
  induction outputs generalizing index with
  | nil => cases h
  | cons output rest ih =>
    unfold checkConditions at h
    split at h
    · exact ih h
    · cases h
      trivial

theorem Birth.validate_error {m : Birth} {e : Error} (h : m.validate = .error e) : e.Plain :=
  require_bind_error h trivial fun h => require_error h trivial

theorem Spend.validate_error {m : Spend} {e : Error} (h : m.validate = .error e) : e.Plain := by
  refine require_bind_error h trivial fun h => ?_
  refine require_bind_error h trivial fun h => ?_
  exact require_bind_error h trivial checkConditions_error

theorem soleInput_error {t : Transaction} {e : Error} (h : soleInput t = .error e) : e.Plain := by
  unfold soleInput at h
  split at h
  · cases h
  · cases h
    trivial

/-- The reason is that whoever asks may not spend the output. -/
def Error.Unauthorized (e : Error) : Prop := ∃ refusal, e = .unauthorized refusal

/-- Whatever is wrong with a witness, the refusal is of the same kind. -/
theorem checkWitness_error {input : Input} {hash : Digest} {spender : Address} {e : Error}
    (h : checkWitness verifier input hash spender = .error e) : e.Unauthorized := by
  unfold checkWitness at h
  split at h
  · cases h
    exact ⟨_, rfl⟩
  · split at h
    · cases h
      exact ⟨_, rfl⟩
    · exact require_bind_error h ⟨_, rfl⟩ fun h => require_error h ⟨_, rfl⟩

theorem authorize_error {input : Input} {hash : Digest} {spender : Address} {e : Error}
    (h : authorize config verifier input hash spender = .error e) : e.Plain := by
  unfold authorize at h
  split at h
  · obtain ⟨refusal, rfl⟩ := checkWitness_error h
    trivial
  · cases h

include plain

theorem birth_refusedOnly {m : Birth}
    (unpaid : ∀ e, c.bank.debit m.owner m.amount = .error e → P (.bank e)) :
    (birth config block m).RefusedOnly P c := by
  unfold birth
  refine refusedOnly_check_bind (fun e he => plain e (Birth.validate_error he)) fun _ _ => ?_
  refine refusedOnly_demand_bind (plain _ trivial) fun _ => ?_
  refine refusedOnly_get_bind ?_
  refine refusedOnly_demand_bind (plain _ trivial) fun _ => ?_
  exact refusedOnly_debit_bind unpaid fun _ => certain_write_report _ _

/-- Only a live outpoint is resolved. -/
theorem spend_refusedOnly {m : Spend}
    (unresolved : ∀ input damage, m.tx.inputs = [input] → space.has c.store (outPointKey input.point) →
      resolve c.store input.point = .error damage → P (.damaged damage)) :
    (spend config verifier m).RefusedOnly P c := by
  unfold spend
  refine refusedOnly_check_bind (fun e he => plain e (Spend.validate_error he)) fun _ _ => ?_
  refine refusedOnly_check_bind (fun e he => plain e (soleInput_error he)) fun input hi => ?_
  refine refusedOnly_demand_bind (plain _ trivial) fun _ => ?_
  refine refusedOnly_get_bind ?_
  refine refusedOnly_demand_bind (plain _ trivial) fun hl => ?_
  refine refusedOnly_check_bind (fun e he => ?_) fun resolved _ => ?_
  · obtain ⟨damage, hr, rfl⟩ := mapError_error he
    exact unresolved input damage (soleInput_ok_iff.1 hi) hl hr
  · refine refusedOnly_demand_bind (plain _ trivial) fun _ => ?_
    refine refusedOnly_demand_bind (plain _ trivial) fun _ => ?_
    refine refusedOnly_check_bind (fun e he => plain e (authorize_error he)) fun _ _ => ?_
    exact (certain_write_report _ _).refusedOnly

end Unspent

/-! ## Hash-locked contracts -/

namespace HashLock

def Error.Plain : Error → Prop
  | bank _ | damaged _ => False
  | _ => True

variable {P : Error → Prop} (plain : ∀ e : Error, e.Plain → P e)

theorem Add.validate_error {m : Add} {e : Error} (h : m.validate = .error e) : e.Plain := by
  refine require_bind_error h trivial fun h => ?_
  exact require_bind_error h trivial fun h => require_error h trivial

theorem Redeem.validate_error {m : Redeem} {e : Error} (h : m.validate = .error e) : e.Plain :=
  require_bind_error h trivial fun h => require_error h trivial

theorem Fail.validate_error {m : Fail} {e : Error} (h : m.validate = .error e) : e.Plain :=
  require_error h trivial

include plain

theorem findOpen_error {hash : Digest} {e : Error}
    (unreadable : ∀ damage, find c.store hash = .error (.damaged damage) → P (.damaged damage))
    (h : findOpen c.store hash = .error e) : P e := by
  unfold findOpen at h
  cases hf : find c.store hash with
  | error e' =>
    rw [hf] at h
    cases h
    unfold find at hf
    split at hf
    · rename_i damage hl
      cases hf
      refine unreadable damage ?_
      rw [find, hl]
    · cases hf
      exact plain _ trivial
    · cases hf
  | ok contract =>
    rw [hf] at h
    refine require_bind_error h (plain _ trivial) fun h => ?_
    cases h

theorem add_refusedOnly {m : Add}
    (unpaid : ∀ e, c.bank.debit m.timeoutAddress m.amount = .error e → P (.bank e)) :
    (add block m).RefusedOnly P c := by
  unfold add
  refine refusedOnly_check_bind (fun e he => plain e (Add.validate_error he)) fun _ _ => ?_
  refine refusedOnly_get_bind ?_
  refine refusedOnly_demand_bind (plain _ trivial) fun _ => ?_
  exact refusedOnly_debit_bind unpaid fun _ => certain_write_report _ _

theorem redeem_refusedOnly {m : Redeem}
    (unreadable : ∀ damage, find c.store (lockOf m.preimage) = .error (.damaged damage) →
      P (.damaged damage))
    (unpaid : ∀ contract e, findOpen c.store (lockOf m.preimage) = .ok contract →
      c.bank.credit contract.redeemAddress contract.amount = .error e → P (.bank e)) :
    (redeem block m).RefusedOnly P c := by
  unfold redeem
  refine refusedOnly_check_bind (fun e he => plain e (Redeem.validate_error he)) fun _ _ => ?_
  refine refusedOnly_get_bind ?_
  refine refusedOnly_check_bind (fun e he => findOpen_error plain unreadable he)
    fun contract hf => ?_
  refine refusedOnly_demand_bind (plain _ trivial) fun _ => ?_
  refine refusedOnly_demand_bind (plain _ trivial) fun _ => ?_
  exact refusedOnly_credit_bind (fun e he => unpaid contract e hf he)
    fun _ => certain_write_report _ _

theorem fail_refusedOnly {m : Fail}
    (unreadable : ∀ damage, find c.store m.hash = .error (.damaged damage) → P (.damaged damage))
    (unpaid : ∀ contract e, findOpen c.store m.hash = .ok contract →
      c.bank.credit contract.timeoutAddress contract.amount = .error e → P (.bank e)) :
    (fail block m).RefusedOnly P c := by
  unfold fail
  refine refusedOnly_check_bind (fun e he => plain e (Fail.validate_error he)) fun _ _ => ?_
  refine refusedOnly_get_bind ?_
  refine refusedOnly_check_bind (fun e he => findOpen_error plain unreadable he)
    fun contract hf => ?_
  refine refusedOnly_demand_bind (plain _ trivial) fun _ => ?_
  refine refusedOnly_demand_bind (plain _ trivial) fun _ => ?_
  exact refusedOnly_credit_bind (fun e he => unpaid contract e hf he)
    fun _ => certain_write_report _ _

end HashLock

/-! ## Escrows -/

namespace Escrow

/-- A refusal that has its reason neither in the bank, nor in a balance that is out of range, nor in a
record that cannot be used. -/
def Error.Plain : Error → Prop
  | bank _ | overflow | damaged _ => False
  | _ => True

variable {P : Error → Prop} (plain : ∀ e : Error, e.Plain → P e)

theorem Init.validate_error {m : Init} {e : Error} (h : m.validate = .error e) : e.Plain :=
  require_bind_error h trivial fun h => require_error h trivial

theorem Abort.validate_error {m : Abort} {e : Error} (h : m.validate = .error e) : e.Plain :=
  require_error h trivial

theorem Join.validate_error {m : Join} {e : Error} (h : m.validate = .error e) : e.Plain :=
  require_error h trivial

theorem Spend.validate_error {m : Spend} {e : Error} (h : m.validate = .error e) : e.Plain := by
  refine require_bind_error h trivial fun h => ?_
  exact require_bind_error h trivial fun h => require_error h trivial

include plain

theorem find_error {id : EscrowId} {e : Error}
    (unreadable : ∀ damage, find c.store id = .error (.damaged damage) → P (.damaged damage))
    (h : find c.store id = .error e) : P e := by
  unfold find at h
  split at h
  · rename_i damage hl
    cases h
    refine unreadable damage ?_
    rw [find, hl]
  · cases h
    exact plain _ trivial
  · cases h

theorem init_refusedOnly {m : Init}
    (unpaid : ∀ e, c.bank.debit m.partyA m.shareA = .error e → P (.bank e)) :
    (init m).RefusedOnly P c := by
  unfold init
  refine refusedOnly_check_bind (fun e he => plain e (Init.validate_error he)) fun _ _ => ?_
  refine refusedOnly_get_bind ?_
  refine refusedOnly_demand_bind (plain _ trivial) fun _ => ?_
  refine refusedOnly_demand_bind (plain _ trivial) fun _ => ?_
  refine refusedOnly_demand_bind (plain _ trivial) fun _ => ?_
  refine refusedOnly_demand_bind (plain _ trivial) fun _ => ?_
  refine refusedOnly_demand_bind (plain _ trivial) fun _ => ?_
  exact refusedOnly_debit_bind unpaid fun _ => certain_write_report _ _

theorem abort_refusedOnly {m : Abort}
    (unreadable : ∀ damage, find c.store m.id = .error (.damaged damage) → P (.damaged damage))
    (unpaid : ∀ contract e, find c.store m.id = .ok contract → contract.stage = .created →
      c.bank.credit contract.partyA contract.balance = .error e → P (.bank e)) :
    (abort m).RefusedOnly P c := by
  unfold abort
  refine refusedOnly_check_bind (fun e he => plain e (Abort.validate_error he)) fun _ _ => ?_
  refine refusedOnly_get_bind ?_
  refine refusedOnly_check_bind (fun e he => find_error plain unreadable he) fun contract hf => ?_
  refine refusedOnly_demand_bind (plain _ trivial) fun hs => ?_
  refine refusedOnly_demand_bind (plain _ trivial) fun _ => ?_
  exact refusedOnly_credit_bind (fun e he => unpaid contract e hf hs he)
    fun _ => certain_write_report _ _

theorem join_refusedOnly {m : Join}
    (unreadable : ∀ damage, find c.store m.id = .error (.damaged damage) → P (.damaged damage))
    (tooMuch : ∀ contract e, find c.store m.id = .ok contract → contract.stage = .created →
      m.caller = contract.partyB → m.amount = contract.shareB →
      contract.balance.add m.amount = .error e → P .overflow)
    (unpaid : ∀ contract e, find c.store m.id = .ok contract →
      c.bank.debit contract.partyB m.amount = .error e → P (.bank e)) :
    (join m).RefusedOnly P c := by
  unfold join
  refine refusedOnly_check_bind (fun e he => plain e (Join.validate_error he)) fun _ _ => ?_
  refine refusedOnly_get_bind ?_
  refine refusedOnly_check_bind (fun e he => find_error plain unreadable he) fun contract hf => ?_
  refine refusedOnly_demand_bind (plain _ trivial) fun hs => ?_
  refine refusedOnly_demand_bind (plain _ trivial) fun hc => ?_
  refine refusedOnly_demand_bind (plain _ trivial) fun ha => ?_
  refine refusedOnly_check_bind (fun e he => ?_) fun balance _ => ?_
  · obtain ⟨e', hsum, rfl⟩ := mapError_error he
    exact tooMuch contract e' hf hs hc ha hsum
  · exact refusedOnly_debit_bind (fun e he => unpaid contract e hf he)
      fun _ => certain_write_report _ _

theorem spend_refusedOnly {m : Spend}
    (unreadable : ∀ damage, find c.store m.id = .error (.damaged damage) → P (.damaged damage))
    (unpaid : ∀ contract remaining e, find c.store m.id = .ok contract → contract.stage = .locked →
      contract.balance.sub m.amount = .ok remaining →
      c.bank.credit m.payee m.amount = .error e → P (.bank e)) :
    (spend m).RefusedOnly P c := by
  unfold spend
  refine refusedOnly_check_bind (fun e he => plain e (Spend.validate_error he)) fun _ _ => ?_
  refine refusedOnly_get_bind ?_
  refine refusedOnly_check_bind (fun e he => find_error plain unreadable he) fun contract hf => ?_
  refine refusedOnly_demand_bind (plain _ trivial) fun hs => ?_
  refine refusedOnly_demand_bind (plain _ trivial) fun _ => ?_
  refine refusedOnly_demand_bind (plain _ trivial) fun _ => ?_
  refine refusedOnly_check_bind (fun e he => ?_) fun remaining hsub => ?_
  · obtain ⟨e', -, rfl⟩ := mapError_error he
    exact plain _ trivial
  · exact refusedOnly_credit_bind
      (fun e he => unpaid contract remaining e hf hs (mapError_eq_ok_iff.1 hsub) he)
      fun _ => certain_write_report _ _

end Escrow

end Settlement
