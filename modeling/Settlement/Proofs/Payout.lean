import Mathlib.Algebra.BigOperators.Intervals
import Settlement.Proofs.Lifecycle
import Settlement.Proofs.Terms

/-!
# What an escrow has paid

An escrow may be opened, aborted and opened again under the same name, and a locked one pays out any number
of times. Its balance is a number that is read, changed and written back, and what it says is only right if
every one of these steps is: since the escrow was last opened, what it has paid and what it still holds are
together what the two parties put in. An accepted message does to the escrow of a name one of five things
(`Passage`), and the books are kept by looking at each of them.

Results:
* `Effect.passage`: what an accepted message does to the escrow of a name.
* `Ledger.exists_account`: the books of an escrow on record, from the call that opened it.
* `Ledger.pays_iff`: when a locked escrow pays.
* `Ledger.escrow_bookkeeping`: an escrow over a whole run.
-/
namespace Settlement

open Escrow (Contract)

/-! ## Messages about an escrow -/

/-- How much a message pays out of an escrow. -/
def Message.payout (id : EscrowId) : Message → Nat
  | spendEscrow m => if m.id = id then m.amount.amount.toNat else 0
  | _ => 0

theorem Message.payout_of_other {id : EscrowId} {m : Message} (h : m.escrow? ≠ some id) :
    m.payout id = 0 := by
  cases m with
  | spendEscrow m => exact if_neg fun hid => h (congrArg some hid)
  | _ => rfl

namespace Escrow.Contract

/-- The message that has opened an escrow. -/
def opening (c : Contract) : Init := ⟨c.id, c.shareA, c.partyA, c.shareB, c.partyB⟩

/-- The message by which party A takes its share back. -/
def aborting (c : Contract) : Abort := ⟨c.id, c.partyA⟩

/-- The message by which party B adds its share. -/
def joining (c : Contract) : Join := ⟨c.id, c.partyB, c.shareB⟩

/-- A payment in the name of both parties, in the denomination of the escrow. -/
structure Admits (c : Contract) (m : Spend) : Prop where
  valid : m.validate = .ok ()
  named : m.id = c.id
  callerA : m.callerA = c.partyA
  callerB : m.callerB = c.partyB
  denom : m.amount.denom = c.shareA.denom

end Escrow.Contract

/-! ## What an accepted message does to the escrow of a name -/

/-- What a call does to the escrow of a name, with the message that it has accepted, if any. -/
inductive Passage (id : EscrowId) (c c' : Custody) : Option Message → Prop
  | elsewhere {accepted : Option Message}
      (quiet : ∀ m, accepted = some m → m.escrow? ≠ some id)
      (same : ∀ contract : Contract, contract.id = id →
        (c'.store.Holds (.escrow contract) ↔ c.store.Holds (.escrow contract))) :
      Passage id c c' accepted
  | opened {contract : Contract} (named : contract.id = id)
      (absent : ∀ other : Contract, c.store.Holds (.escrow other) → other.id ≠ id)
      (unjoined : contract.stage = .created) (held : c'.store.Holds (.escrow contract))
      (paid : c.bank.debit contract.partyA contract.shareA = .ok c'.bank) :
      Passage id c c' (some (.initEscrow contract.opening))
  | aborted {contract : Contract} (named : contract.id = id)
      (held : c.store.Holds (.escrow contract)) (unjoined : contract.stage = .created)
      (absent : ∀ other : Contract, c'.store.Holds (.escrow other) → other.id ≠ id)
      (paid : c.bank.credit contract.partyA contract.balance = .ok c'.bank) :
      Passage id c c' (some (.abortEscrow contract.aborting))
  | joined {contract : Contract} {balance : Coin} (named : contract.id = id)
      (held : c.store.Holds (.escrow contract)) (unjoined : contract.stage = .created)
      (sum : contract.balance.add contract.shareB = .ok balance)
      (left : c'.store.Holds (.escrow { contract with balance, stage := .locked }))
      (paid : c.bank.debit contract.partyB contract.shareB = .ok c'.bank) :
      Passage id c c' (some (.joinEscrow contract.joining))
  | spent {contract : Contract} {m : Escrow.Spend} {remaining : Coin} (named : contract.id = id)
      (held : c.store.Holds (.escrow contract)) (locked : contract.stage = .locked)
      (valid : m.validate = .ok ()) (about : m.id = id)
      (difference : contract.balance.sub m.amount = .ok remaining)
      (left : c'.store.Holds (.escrow { contract with balance := remaining })) :
      Passage id c c' (some (.spendEscrow m))

theorem Effect.passage {rules : Rules} {block : Block} {c c' : Custody} {m : Message}
    (he : Effect rules block c m c') (id : EscrowId) : Passage id c c' (some m) := by
  by_cases hm : m.escrow? = some id
  · cases he with
    | @initEscrow m bank valid fresh apart positiveA positiveB denom paid =>
      have hid : m.id = id := Option.some.inj hm
      have absent : ∀ other : Contract, c.store.Holds (.escrow other) → other.id ≠ id := by
        intro other hh hk
        have hkey : (Record.escrow other).key = .escrow m.id :=
          congrArg Key.escrow (hk.trans hid.symm)
        exact Store.not_holds_of_none fresh hkey hh
      show Passage id c _ (some (.initEscrow m.contract.opening))
      exact .opened hid absent rfl Store.holds_write_self paid
    | @abortEscrow m contract bank valid held named unjoined caller paid =>
      have hid : contract.id = id := named.trans (Option.some.inj hm)
      have hmessage : m = contract.aborting := by
        cases m
        simp only [Contract.aborting, named, ← caller]
      rw [hmessage]
      refine .aborted hid held unjoined ?_ paid
      intro other hh hk
      exact (Store.holds_remove.1 hh).1 (congrArg Key.escrow (hk.trans hid.symm))
    | @joinEscrow m contract balance bank valid held named unjoined caller share sum paid =>
      have hid : contract.id = id := named.trans (Option.some.inj hm)
      have hmessage : m = contract.joining := by
        cases m
        simp only [Contract.joining, named, ← caller, ← share]
      rw [hmessage]
      rw [share] at sum paid
      exact .joined hid held unjoined sum Store.holds_write_self paid
    | spendEscrow valid held named locked callers denom difference paid =>
      exact .spent (named.trans (Option.some.inj hm)) held locked valid (Option.some.inj hm)
        difference Store.holds_write_self
    | _ => simp [Message.escrow?] at hm
  · refine .elsewhere (fun m' hm' => ?_) fun contract hid => he.escrow_frame ?_
    · rw [← Option.some.inj hm']
      exact hm
    · rw [hid]
      exact hm

theorem Outcome.passage {rules : Rules} {c c' : Custody} {accepted : Option Message}
    (h : Outcome rules c c' accepted) (id : EscrowId) : Passage id c c' accepted := by
  cases h with
  | accepted effect => exact effect.passage id
  | quiet same =>
    refine .elsewhere (fun m hm => by simp at hm) fun contract _ => ?_
    rw [same]

/-- A locked escrow is left as it is, or pays. -/
theorem Passage.of_locked {c c' : Custody} {accepted : Option Message} {contract : Contract}
    (h : Passage contract.id c c' accepted) (hh : c.store.Holds (.escrow contract))
    (locked : contract.stage = .locked) :
    (c'.store.Holds (.escrow contract) ∧
      ∀ m, accepted = some m → m.escrow? ≠ some contract.id) ∨
    ∃ m remaining, accepted = some (.spendEscrow m) ∧ m.validate = .ok () ∧
      contract.balance.sub m.amount = .ok remaining ∧
      c'.store.Holds (.escrow { contract with balance := remaining }) := by
  cases h with
  | elsewhere quiet same => exact .inl ⟨(same contract rfl).2 hh, quiet⟩
  | opened named absent unjoined held paid => exact absurd rfl (absent contract hh)
  | aborted named held unjoined absent paid =>
    have heq := held.escrow_unique hh named
    simp [heq, locked] at unjoined
  | joined named held unjoined sum left paid =>
    have heq := held.escrow_unique hh named
    simp [heq, locked] at unjoined
  | spent named held hlocked valid about difference left =>
    have heq := held.escrow_unique hh named
    subst heq
    exact .inr ⟨_, _, rfl, valid, difference, left⟩

namespace Ledger

/-! ## The books of an escrow -/

/-- How much the calls from one place in a run to another have paid out of an escrow. -/
def paidOut (rules : Rules) (ops : List Operation) (id : EscrowId) (i k : Nat) : Nat :=
  ∑ j ∈ Finset.Ico i k, ((acceptedAt? rules ops j).map (Message.payout id)).getD 0

/-- What has been accepted about an escrow between two places in a run. -/
def Between (rules : Rules) (ops : List Operation) (id : EscrowId) (i k : Nat)
    (P : Nat → Message → Prop) : Prop :=
  ∀ n, i < n → n < k → ∀ m, acceptedAt? rules ops n = some m → m.escrow? = some id → P n m

/-- The books of an escrow that is on record, opened by an earlier call: what was put in, and when, and
what has been paid out of it since. -/
structure Account (rules : Rules) (ops : List Operation) (contract : Contract) (i k : Nat) : Prop where
  before : i < k
  /-- The call has opened the escrow, and party A has put in its share. -/
  opens : acceptedAt? rules ops i = some (.initEscrow contract.opening)
  paidA : (stateAt rules ops i).bank.debit contract.partyA contract.shareA =
    .ok (stateAt rules ops (i + 1)).bank
  /-- Until party B joins, nothing is accepted about the escrow. -/
  unjoined : contract.stage = .created → Between rules ops contract.id i k fun _ _ => False
  /-- One call has locked the escrow, and party B has put in its share; since then nothing but payments is
  accepted about it. -/
  joined : contract.stage = .locked → ∃ j, i < j ∧ j < k ∧
    acceptedAt? rules ops j = some (.joinEscrow contract.joining) ∧
    (stateAt rules ops j).bank.debit contract.partyB contract.shareB =
      .ok (stateAt rules ops (j + 1)).bank ∧
    Between rules ops contract.id i k fun n m => n = j ∨ j < n ∧ ∃ s, m = .spendEscrow s
  /-- What is left and what has been paid is what was put in. -/
  even : contract.stage = .locked →
    contract.balance.amount.toNat + paidOut rules ops contract.id i k =
      contract.shareA.amount.toNat + contract.shareB.amount.toNat

section

variable {rules : Rules} {ops : List Operation} {id : EscrowId} {i j k : Nat}
  {P : Nat → Message → Prop}

theorem passage_stateAt (rules : Rules) (ops : List Operation) (id : EscrowId) (k : Nat) :
    Passage id (stateAt rules ops k).custody (stateAt rules ops (k + 1)).custody
      (acceptedAt? rules ops k) :=
  (outcome_stateAt rules ops k).passage id

theorem paidOut_succ (h : i ≤ k) :
    paidOut rules ops id i (k + 1) = paidOut rules ops id i k +
      ((acceptedAt? rules ops k).map (Message.payout id)).getD 0 :=
  Finset.sum_Ico_succ_top h _

/-- A call that accepts nothing about an escrow pays nothing out of it. -/
theorem payout_of_quiet {accepted : Option Message}
    (quiet : ∀ m, accepted = some m → m.escrow? ≠ some id) :
    (accepted.map (Message.payout id)).getD 0 = 0 := by
  cases accepted with
  | none => rfl
  | some m => exact Message.payout_of_other (quiet m rfl)

theorem Between.succ (h : Between rules ops id i k P)
    (hk : ∀ m, acceptedAt? rules ops k = some m → m.escrow? = some id → P k m) :
    Between rules ops id i (k + 1) P := by
  intro n hin hnk m hm hid
  by_cases hn : n < k
  · exact h n hin hn m hm hid
  · have heq : n = k := by omega
    rw [heq] at hm ⊢
    exact hk m hm hid

theorem between_succ_self (P : Nat → Message → Prop) : Between rules ops id i (i + 1) P := by
  intro n hin hni
  omega

/-- An opening pays nothing, so an escrow about which nothing else was accepted has paid nothing. -/
theorem paidOut_of_unjoined {m : Escrow.Init}
    (opens : acceptedAt? rules ops i = some (.initEscrow m))
    (h : Between rules ops id i k fun _ _ => False) : paidOut rules ops id i k = 0 := by
  refine Finset.sum_eq_zero fun n hn => ?_
  rw [Finset.mem_Ico] at hn
  by_cases hin : i < n
  · refine payout_of_quiet fun m' hm' hid => ?_
    exact h n hin hn.2 m' hm' hid
  · have heq : n = i := by omega
    rw [heq, opens]
    rfl

/-- The books stay right through a call that accepts nothing about the escrow. -/
theorem Account.quiet {contract : Contract} (h : Account rules ops contract i k)
    (quiet : ∀ m, acceptedAt? rules ops k = some m → m.escrow? ≠ some contract.id) :
    Account rules ops contract i (k + 1) where
  before := Nat.lt_succ_of_lt h.before
  opens := h.opens
  paidA := h.paidA
  unjoined hs := (h.unjoined hs).succ fun m hm hid => quiet m hm hid
  joined hs := by
    obtain ⟨j, hij, hjk, joins, paidB, since⟩ := h.joined hs
    refine ⟨j, hij, Nat.lt_succ_of_lt hjk, joins, paidB, since.succ fun m hm hid => ?_⟩
    exact absurd hid (quiet m hm)
  even hs := by
    rw [paidOut_succ (Nat.le_of_lt h.before), payout_of_quiet quiet, Nat.add_zero]
    exact h.even hs

theorem Account.join {contract : Contract} {balance : Coin} (h : Account rules ops contract i k)
    (proper : contract.Proper) (unjoined : contract.stage = .created)
    (joins : acceptedAt? rules ops k = some (.joinEscrow contract.joining))
    (sum : contract.balance.add contract.shareB = .ok balance)
    (paid : (stateAt rules ops k).bank.debit contract.partyB contract.shareB =
      .ok (stateAt rules ops (k + 1)).bank) :
    Account rules ops { contract with balance, stage := .locked } i (k + 1) where
  before := Nat.lt_succ_of_lt h.before
  opens := h.opens
  paidA := h.paidA
  unjoined hs := by simp at hs
  joined _ := by
    refine ⟨k, h.before, Nat.lt_succ_self k, joins, paid, ?_⟩
    refine Between.succ (fun n hin hnk m hm hid => ?_) fun m hm hid => .inl rfl
    exact (h.unjoined unjoined n hin hnk m hm hid).elim
  even _ := by
    obtain ⟨-, -, hsum⟩ := Coin.add_ok_iff.1 sum
    have hnone := paidOut_of_unjoined h.opens (h.unjoined unjoined)
    have hshare := proper.untouched unjoined
    rw [hshare] at hsum
    show balance.amount.toNat + paidOut rules ops contract.id i (k + 1) = _
    rw [paidOut_succ (Nat.le_of_lt h.before), hnone, joins]
    simp only [Option.map_some, Option.getD_some, Message.payout]
    omega

theorem Account.spend {contract : Contract} {remaining : Coin} {m : Escrow.Spend}
    (h : Account rules ops contract i k) (locked : contract.stage = .locked)
    (about : m.id = contract.id) (spends : acceptedAt? rules ops k = some (.spendEscrow m))
    (difference : contract.balance.sub m.amount = .ok remaining) :
    Account rules ops { contract with balance := remaining } i (k + 1) where
  before := Nat.lt_succ_of_lt h.before
  opens := h.opens
  paidA := h.paidA
  unjoined hs := by simp [locked] at hs
  joined _ := by
    obtain ⟨j, hij, hjk, joins, paidB, since⟩ := h.joined locked
    refine ⟨j, hij, Nat.lt_succ_of_lt hjk, joins, paidB, since.succ fun m' hm hid => .inr ⟨hjk, m, ?_⟩⟩
    exact Option.some.inj (hm.symm.trans spends)
  even _ := by
    obtain ⟨-, -, hdiff⟩ := Coin.sub_ok_iff.1 difference
    have heven := h.even locked
    show remaining.amount.toNat + paidOut rules ops contract.id i (k + 1) = _
    rw [paidOut_succ (Nat.le_of_lt h.before), spends]
    simp only [Option.map_some, Option.getD_some, Message.payout, about, if_true]
    omega

/-- An escrow on record was opened by an earlier call, and its books are right since. -/
theorem exists_account {contract : Contract}
    (hh : (stateAt rules ops k).store.Holds (.escrow contract)) :
    ∃ i, Account rules ops contract i k := by
  induction k generalizing contract with
  | zero => exact absurd hh Store.holds_empty
  | succ k ih =>
    generalize haccepted : acceptedAt? rules ops k = accepted
    have hpassage := passage_stateAt rules ops contract.id k
    rw [haccepted] at hpassage
    cases hpassage with
    | elsewhere quiet same =>
      obtain ⟨i, account⟩ := ih ((same contract rfl).1 hh)
      rw [← haccepted] at quiet
      exact ⟨i, account.quiet quiet⟩
    | opened named absent unjoined held paid =>
      -- the books begin here, whatever an earlier escrow of this id has come to
      have heq := held.escrow_unique hh named
      subst heq
      exact ⟨k, Nat.lt_succ_self k, haccepted, paid, fun _ => between_succ_self _,
        fun hl => by simp [unjoined] at hl, fun hl => by simp [unjoined] at hl⟩
    | aborted named held unjoined absent paid => exact absurd rfl (absent contract hh)
    | joined named held unjoined sum left paid =>
      have heq := left.escrow_unique hh named
      subst heq
      obtain ⟨i, account⟩ := ih held
      exact ⟨i, account.join (orderly_stateAt rules ops k _ held) unjoined haccepted sum paid⟩
    | spent named held locked valid about difference left =>
      have heq := left.escrow_unique hh named
      subst heq
      obtain ⟨i, account⟩ := ih held
      exact ⟨i, account.spend locked about haccepted difference⟩

/-! ## Locked escrows -/

/-- An accepted payment is at most the balance, and what it leaves is the rest. -/
theorem balance_of_difference {contract : Contract} {amount remaining : Coin}
    (h : contract.balance.sub amount = .ok remaining) :
    amount.amount.toNat ≤ contract.balance.amount.toNat := by
  obtain ⟨-, -, hdiff⟩ := Coin.sub_ok_iff.1 h
  omega

/-- A locked escrow stays locked, on the same terms, and its balance only goes down. -/
theorem locked_stays (hik : i ≤ k) {contract : Contract} (locked : contract.stage = .locked)
    (hh : (stateAt rules ops i).store.Holds (.escrow contract)) :
    ∃ balance, (stateAt rules ops k).store.Holds (.escrow { contract with balance }) ∧
      balance.denom = contract.balance.denom ∧
      balance.amount.toNat ≤ contract.balance.amount.toNat := by
  induction hik with
  | refl => exact ⟨contract.balance, hh, rfl, Nat.le_refl _⟩
  | @step k hik ih =>
    obtain ⟨balance, hk, hdenom, hle⟩ := ih
    have hpassage := passage_stateAt rules ops contract.id k
    cases @Passage.of_locked _ _ _ { contract with balance } hpassage hk locked with
    | inl kept => exact ⟨balance, kept.1, hdenom, hle⟩
    | inr pays =>
      obtain ⟨m, remaining, -, -, difference, left⟩ := pays
      obtain ⟨-, hrem, hdiff⟩ := Coin.sub_ok_iff.1 difference
      refine ⟨remaining, left, hrem.trans hdenom, ?_⟩
      simp only at hdiff
      omega

/-- Nothing is accepted about a locked escrow that is empty. -/
theorem quiet_of_drained {contract : Contract}
    (hh : (stateAt rules ops k).store.Holds (.escrow contract)) (locked : contract.stage = .locked)
    (empty : contract.balance.amount = 0) :
    (stateAt rules ops (k + 1)).store.Holds (.escrow contract) ∧
      ∀ m, acceptedAt? rules ops k = some m → m.escrow? ≠ some contract.id := by
  cases (passage_stateAt rules ops contract.id k).of_locked hh locked with
  | inl kept => exact kept
  | inr pays =>
    -- a valid payment is positive, and nothing is left to pay it from
    obtain ⟨m, remaining, -, valid, difference, -⟩ := pays
    have hpos := Escrow.Spend.positive_of_valid valid
    have hle := balance_of_difference difference
    simp only [empty, UInt64.toNat_zero] at hle
    omega

theorem drained_stays (hik : i ≤ k) {contract : Contract}
    (hh : (stateAt rules ops i).store.Holds (.escrow contract)) (locked : contract.stage = .locked)
    (empty : contract.balance.amount = 0) :
    (stateAt rules ops k).store.Holds (.escrow contract) ∧
      ∀ n, i ≤ n → n < k → ∀ m, acceptedAt? rules ops n = some m → m.escrow? ≠ some contract.id := by
  induction hik with
  | refl => exact ⟨hh, fun n hin hni => by omega⟩
  | @step k hik ih =>
    obtain ⟨hk, hquiet⟩ := ih
    obtain ⟨hnext, hlast⟩ := quiet_of_drained hk locked empty
    refine ⟨hnext, fun n hin hnk => ?_⟩
    by_cases hn : n < k
    · exact hquiet n hin hn
    · have heq : n = k := by omega
      rw [heq]
      exact hlast

end

section

variable {rules : Rules} {block : Block} {l : Ledger} {contract : Contract} {m : Escrow.Spend}

theorem spend_effect {c c' : Custody} (he : Effect rules block c (.spendEscrow m) c')
    (hh : c.store.Holds (.escrow contract)) (named : m.id = contract.id) :
    ∃ remaining, contract.balance.sub m.amount = .ok remaining ∧
      c.bank.credit m.payee m.amount = .ok c'.bank ∧
      c'.store = c.store.write (.escrow { contract with balance := remaining }) := by
  cases he with
  | spendEscrow valid held hnamed locked callers denom difference paid =>
    have heq := held.escrow_unique hh (hnamed.trans named)
    subst heq
    exact ⟨_, difference, paid, rfl⟩

/-- A locked escrow pays exactly if it has enough and the payee can take it. -/
theorem pays_iff (proper : contract.Proper) (locked : contract.stage = .locked)
    (hh : l.store.Holds (.escrow contract)) (hm : contract.Admits m) :
    (∃ c', Effect rules block l.custody (.spendEscrow m) c') ↔
      m.amount.amount ≤ contract.balance.amount ∧
      (l.bank.balance m.payee m.amount.denom).toNat + m.amount.amount.toNat < UInt64.size := by
  have hdenom : m.amount.denom = contract.balance.denom := hm.denom.trans proper.balance.symm
  constructor
  · intro ⟨c', he⟩
    obtain ⟨remaining, hsub, hpaid, -⟩ := spend_effect he hh hm.named
    exact ⟨UInt64.le_iff_toNat_le.2 (balance_of_difference hsub),
      Bank.exists_credit_iff.1 ⟨_, hpaid⟩⟩
  · intro ⟨henough, hfits⟩
    have hsub : contract.balance.sub m.amount =
        .ok ⟨contract.balance.denom, contract.balance.amount - m.amount.amount⟩ := by
      unfold Coin.sub Amount.sub?
      simp [hdenom, henough]
    obtain ⟨bank, hcredit⟩ := Bank.exists_credit_iff.2 hfits
    exact ⟨_, .spendEscrow hm.valid hh hm.named.symm locked ⟨hm.callerA, hm.callerB⟩
      (decide_eq_true hdenom) hsub hcredit⟩

theorem refuses_overdraft (proper : contract.Proper) (locked : contract.stage = .locked)
    (hh : l.store.Holds (.escrow contract)) (hm : contract.Admits m)
    (hless : contract.balance.amount < m.amount.amount) :
    Refuses rules block (.spendEscrow m) l
      (.escrow (.insufficientBalance m.amount contract.balance)) := by
  have hdenom : m.amount.denom = contract.balance.denom := hm.denom.trans proper.balance.symm
  have hfind : Escrow.find l.custody.store m.id = .ok contract := by
    rw [hm.named]
    exact hh.findEscrow
  have hsub : contract.balance.sub m.amount = .error .underflow := by
    unfold Coin.sub Amount.sub?
    simp [hdenom, UInt64.not_le.2 hless]
  have hsame : m.amount.sameDenom contract.balance = true := decide_eq_true hdenom
  have hx : (Escrow.spend m).exec l.custody =
      (.error (.insufficientBalance m.amount contract.balance), l.custody) := by
    simp only [Escrow.spend, Action.exec_bind, Action.exec_check, hm.valid, Action.exec_get, hfind,
      Action.exec_demand, if_pos locked, hm.callerA, hm.callerB, and_self, if_true, hsame, hsub,
      mapError_error_eq]
  exact refuses_of_deliver (deliver_of_refused (exec_part_error hx _ _))

end

/-! ## Escrows that party B has not joined -/

/-- What a call can do to an escrow that party B has not joined, with the message that it has accepted, if
any: nothing, or party A takes exactly its share back, or party B adds exactly its own. -/
inductive Fate (contract : Contract) (l l' : Ledger) : Option Message → Prop
  | kept {accepted : Option Message}
      (quiet : ∀ m, accepted = some m → m.escrow? ≠ some contract.id)
      (same : Escrow.find l'.store contract.id = .ok contract) : Fate contract l l' accepted
  | aborted (gone : Escrow.find l'.store contract.id = .error (.notFound contract.id))
      (refunded : l.bank.credit contract.partyA contract.shareA = .ok l'.bank) :
      Fate contract l l' (some (.abortEscrow contract.aborting))
  | joined {balance : Coin} (denom : balance.denom = contract.shareA.denom)
      (sum : balance.amount.toNat = contract.shareA.amount.toNat + contract.shareB.amount.toNat)
      (locked : Escrow.find l'.store contract.id = .ok { contract with balance, stage := .locked })
      (paid : l.bank.debit contract.partyB contract.shareB = .ok l'.bank) :
      Fate contract l l' (some (.joinEscrow contract.joining))

theorem fate_of_unjoined {rules : Rules} {l : Ledger} {contract : Contract} (hs : l.store.Sound)
    (proper : contract.Proper) (unjoined : contract.stage = .created)
    (hh : l.store.Holds (.escrow contract)) (op : Operation) :
    Fate contract l (op.perform rules l) (op.accepted? rules l) := by
  have hafter : (op.perform rules l).store.Sound := (change_perform rules hs op).sound hs
  have hpassage := (op.outcome rules hs).passage contract.id
  generalize op.accepted? rules l = accepted at hpassage ⊢
  cases hpassage with
  | elsewhere quiet same => exact .kept quiet ((same contract rfl).2 hh).findEscrow
  | opened named absent _ held paid => exact absurd rfl (absent contract hh)
  | aborted named held _ absent paid =>
    have heq := held.escrow_unique hh named
    subst heq
    rw [proper.untouched unjoined] at paid
    refine .aborted ?_ paid
    cases hafter.escrow_cases _ with
    | inl found =>
      obtain ⟨other, -, hother, hid⟩ := found
      exact absurd hid (absent other hother)
    | inr gone => exact gone.1
  | joined named held _ sum left paid =>
    have heq := held.escrow_unique hh named
    subst heq
    obtain ⟨-, hdenom, hsum⟩ := Coin.add_ok_iff.1 sum
    rw [proper.untouched unjoined] at hdenom hsum
    exact .joined hdenom hsum.symm left.findEscrow paid
  | spent named held locked valid about difference left =>
    have heq := held.escrow_unique hh named
    simp [heq, unjoined] at locked

/-! ## An escrow over a run -/

/-- The escrow of a name over a run. -/
structure Bookkeeping (rules : Rules) (ops : List Operation) (id : EscrowId) : Prop where
  /-- An escrow that is found is on proper terms, and its books are right since an earlier call has opened
  it. -/
  books : ∀ k contract, Escrow.find (stateAt rules ops k).store id = .ok contract →
    contract.id = id ∧ contract.Proper ∧ ∃ i, Account rules ops contract i k
  /-- A locked escrow pays exactly if it has enough and the payee can take it. -/
  pays : ∀ k contract, Escrow.find (stateAt rules ops k).store id = .ok contract →
    contract.stage = .locked → ∀ (op : Operation) block m,
      op.message? = some (block, .spendEscrow m) → contract.Admits m →
      (op.accepted? rules (stateAt rules ops k) = some (.spendEscrow m) ↔
        m.amount.amount ≤ contract.balance.amount ∧
        ((stateAt rules ops k).bank.balance m.payee m.amount.denom).toNat + m.amount.amount.toNat <
          UInt64.size)
  /-- What it pays goes to the payee and is taken off its balance. -/
  paid : ∀ k contract, Escrow.find (stateAt rules ops k).store id = .ok contract →
    ∀ (op : Operation) m, op.accepted? rules (stateAt rules ops k) = some (.spendEscrow m) →
      m.id = id →
      (stateAt rules ops k).bank.credit m.payee m.amount =
        .ok (op.perform rules (stateAt rules ops k)).bank ∧
      ∃ remaining, contract.balance.sub m.amount = .ok remaining ∧
        Escrow.find (op.perform rules (stateAt rules ops k)).store id =
          .ok { contract with balance := remaining }
  /-- It does not pay more than it has. -/
  overdraft : ∀ k contract, Escrow.find (stateAt rules ops k).store id = .ok contract →
    contract.stage = .locked → ∀ block m, contract.Admits m →
      contract.balance.amount < m.amount.amount →
      Refuses rules block (.spendEscrow m) (stateAt rules ops k)
        (.escrow (.insufficientBalance m.amount contract.balance))
  /-- Once locked, it stays locked on the same terms, with no more than it had. -/
  locked : ∀ i k contract, i ≤ k → Escrow.find (stateAt rules ops i).store id = .ok contract →
    contract.stage = .locked →
    ∃ balance, Escrow.find (stateAt rules ops k).store id = .ok { contract with balance } ∧
      balance.denom = contract.balance.denom ∧
      balance.amount.toNat ≤ contract.balance.amount.toNat
  /-- Once locked and empty, it stays as it is, nothing is accepted about it, and every payment out of it
  is refused. -/
  drained : ∀ i k contract, i ≤ k → Escrow.find (stateAt rules ops i).store id = .ok contract →
    contract.stage = .locked → contract.balance.amount = 0 →
    Escrow.find (stateAt rules ops k).store id = .ok contract ∧
    (∀ n, i ≤ n → n < k → ∀ m, acceptedAt? rules ops n = some m → m.escrow? ≠ some id) ∧
    ∀ block m, contract.Admits m → Refuses rules block (.spendEscrow m) (stateAt rules ops k)
      (.escrow (.insufficientBalance m.amount contract.balance))
  /-- Until party B joins, an abort by party A and the joining are all that is accepted about it. -/
  unjoined : ∀ k contract, Escrow.find (stateAt rules ops k).store id = .ok contract →
    contract.stage = .created → ∀ op : Operation,
      Fate contract (stateAt rules ops k) (op.perform rules (stateAt rules ops k))
        (op.accepted? rules (stateAt rules ops k))

theorem bookkeeping (rules : Rules) (ops : List Operation) (id : EscrowId) :
    Bookkeeping rules ops id where
  books k contract hf := by
    obtain ⟨hh, hid⟩ := (sound_stateAt rules ops k).findEscrow hf
    exact ⟨hid, orderly_stateAt rules ops k contract hh, exists_account hh⟩
  pays k contract hf locked op block m hread hm := by
    have hs := sound_stateAt rules ops k
    obtain ⟨hh, -⟩ := hs.findEscrow hf
    rw [Operation.accepted?_eq_some_iff hs hread]
    exact pays_iff (orderly_stateAt rules ops k contract hh) locked hh hm
  paid k contract hf op m hm hid := by
    have hs := sound_stateAt rules ops k
    obtain ⟨hh, hfound⟩ := hs.findEscrow hf
    have houtcome := op.outcome rules hs
    rw [hm] at houtcome
    cases houtcome with
    | accepted effect =>
      obtain ⟨remaining, hsub, hpaid, hstore⟩ := spend_effect effect hh (hid.trans hfound.symm)
      have hleft : (op.perform rules (stateAt rules ops k)).store.Holds
          (.escrow { contract with balance := remaining }) := by
        unfold store
        rw [hstore]
        exact Store.holds_write_self
      refine ⟨hpaid, remaining, hsub, ?_⟩
      rw [← hfound]
      exact hleft.findEscrow
  overdraft k contract hf locked block m hm hless := by
    obtain ⟨hh, -⟩ := (sound_stateAt rules ops k).findEscrow hf
    exact refuses_overdraft (orderly_stateAt rules ops k contract hh) locked hh hm hless
  locked i k contract hik hf hlocked := by
    obtain ⟨hh, hid⟩ := (sound_stateAt rules ops i).findEscrow hf
    obtain ⟨balance, hk, hdenom, hle⟩ := locked_stays hik hlocked hh
    refine ⟨balance, ?_, hdenom, hle⟩
    rw [← hid]
    exact hk.findEscrow
  drained i k contract hik hf hlocked empty := by
    obtain ⟨hh, hid⟩ := (sound_stateAt rules ops i).findEscrow hf
    subst hid
    obtain ⟨hk, hquiet⟩ := drained_stays hik hh hlocked empty
    refine ⟨hk.findEscrow, hquiet, fun block m hm => ?_⟩
    have hpos := Escrow.Spend.positive_of_valid hm.valid
    refine refuses_overdraft (orderly_stateAt rules ops k contract hk) hlocked hk hm ?_
    rw [UInt64.lt_iff_toNat_lt, empty]
    exact hpos
  unjoined k contract hf hcreated op := by
    have hs := sound_stateAt rules ops k
    obtain ⟨hh, -⟩ := hs.findEscrow hf
    exact fate_of_unjoined hs (orderly_stateAt rules ops k contract hh) hcreated hh op

/-- In every state of a run the escrows can be listed, and each lies under its own name and on proper
terms. Over the run each keeps its books: it is opened by one call, with party A's share; until party B
joins it with its own it can only be aborted, which gives party A's share back; from then on it is locked,
what it has paid and what it holds is what the two have put in, and it pays exactly while it has enough. -/
theorem escrow_bookkeeping (rules : Rules) (ops : List Operation) :
    (∀ k, ∃ listing,
      Escrow.space.loadAll Contract.codec (stateAt rules ops k).store [] = .ok listing ∧
      ∀ e ∈ listing, e.1 = Escrow.contractKey e.2.id ∧ e.2.Proper ∧
        Escrow.find (stateAt rules ops k).store e.2.id = .ok e.2) ∧
    ∀ id, Bookkeeping rules ops id := by
  refine ⟨fun k => ?_, bookkeeping rules ops⟩
  refine ⟨_, (sound_stateAt rules ops k).loadAll_eq Store.escrowShelf, ?_⟩
  refine Store.forall_listed Store.escrowShelf fun contract hh => ?_
  exact ⟨Store.escrowShelf.localKey_eq rfl, orderly_stateAt rules ops k contract hh, hh.findEscrow⟩

/-- Alice and Bob pay Alice all that their escrow holds. -/
example :
    let last := run {} (Sample.ops ++ [.deliver Sample.block
      (.spendEscrow ⟨Sample.savings, Sample.stake 10, Sample.alice, Sample.alice, Sample.bob⟩)])
    Escrow.find last.store Sample.savings = .ok { Sample.joint with balance := Sample.stake 0 } ∧
      last.bank.balance Sample.alice "stake" = 35 := by decide +kernel

end Ledger

end Settlement
