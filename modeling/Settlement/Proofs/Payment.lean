import Settlement.Proofs.Condition
import Settlement.Proofs.Spending
import Settlement.Proofs.Wallet

/-!
# Every live outpoint can be paid on

The payment that is made out of a value and an amount passes every check of a spend: its outputs are sorted,
its conditions are those of named addresses, and what is not paid comes back as change unless it is zero.
That the payer has a name, so that the change can be paid to it, is an invariant of runs: births are refused
without an owner, and no condition names nobody. Which wallets change by it is read off the sums over the
live outpoints, in which a zero that is left out makes no difference.

Results:
* `Effect.named`, `Intact.named_of_resolve`: whoever owns a live outpoint has a name.
* `sum_gauge_pay`: what a payment adds to a wallet.
* `Ledger.payment_accepted`: in every state of a run a live outpoint can be paid on by its owner, and the
  wallets change by just that.
-/
namespace Settlement

open Unspent (AccountOutput Wallet)

variable {s : Store} {ts : List Transaction}

/-! ## Owners have names -/

/-- Nothing was born to an address without a name. -/
def Store.Named (s : Store) : Prop :=
  ∀ output, s.Holds (.account output) → ¬ output.owner.isEmpty

theorem Intact.named_of_resolve (h : Intact ts s) (hb : Bounded ts) (hn : s.Named) {p : OutPoint}
    (hp : s.Holds (.point p)) {value : Amount} {owner : Address}
    (hr : Unspent.resolve s p = .ok (value, owner)) : ¬ owner.isEmpty := by
  cases h.created_of_live hp with
  | @birth output held =>
    rw [resolve_account held] at hr
    cases hr
    exact hn output held
  | @output t i held hi =>
    obtain ⟨condition, hc⟩ := (h.settled t held).conditions _ (List.getElem_mem hi)
    rw [resolve_output held hi (hb t (h.known t held)) hc] at hr
    cases hr
    exact (SpendCondition.encode_of_decode hc).2

section Messages

variable {rules : Rules} {block : Block} {c c' : Custody} {m : Message}

theorem Effect.named (he : Effect rules block c m c') (h : c.store.Named) : c'.store.Named := by
  intro o ho
  have hframe := fun (hb : m.route ≠ .birth) (hs : m.route ≠ .spend) =>
    (he.frame hb hs (r := .account o) (by simp [Record.key, Key.kind])
      (by simp [Record.key, Key.kind])).1 ho
  cases he with
  | @birth m output bank valid denom born fresh paid =>
    rcases (account_birth fresh).1 ho with rfl | ho
    · rw [Unspent.Birth.validate, require_bind_ok_iff, require_ok_iff] at valid
      rw [born]
      exact valid.2
    · exact h o ho
  | spend valid only canonical live owned even authorized =>
    rcases (Unspent.holds_applyTransaction_of_kind (by simp [Record.key, Key.kind])).1 ho with
      ⟨p, -, hp⟩ | ⟨-, ho⟩
    · cases hp
    · exact h o ho
  | _ => exact h o (hframe (by simp [Message.route]) (by simp [Message.route]))

end Messages

theorem named_run (rules : Rules) (ops : List Operation) : (Ledger.run rules ops).store.Named :=
  store_run rules ops (fun _ ho => absurd ho Store.holds_empty) Effect.named

/-! ## The payment -/

section Payment

variable {point : OutPoint} {amount change value : Amount} {payer payee : Address}

namespace Transaction

theorem outputs_pay_perm : (pay point amount change payer payee).outputs.Perm
    (.payTo amount payee :: if 0 < change then [.payTo change payer] else []) :=
  List.mergeSort_perm _ _

theorem inputs_pay : (pay point amount change payer payee).inputs = [{ point }] :=
  List.mergeSort_singleton _

theorem length_outputs_pay : (pay point amount change payer payee).outputs.length ≤ 2 := by
  rw [outputs_pay_perm.length_eq]
  split <;> simp

theorem outputs_pay_ne_nil : (pay point amount change payer payee).outputs ≠ [] := by
  intro h
  rw [← List.length_eq_zero_iff, outputs_pay_perm.length_eq] at h
  cases h

/-- Whatever is added up over the outputs of a payment, change that is left out because it is zero makes no
difference if zero counts for nothing. -/
theorem sum_pay {f : Output → Nat} (hzero : f (.payTo 0 payer) = 0) :
    ((pay point amount change payer payee).outputs.map f).sum =
      f (.payTo amount payee) + f (.payTo change payer) := by
  rw [(outputs_pay_perm.map f).sum_nat]
  split
  · simp
  · rename_i hchange
    obtain rfl : change = 0 := by simpa using hchange
    simp [hzero]

theorem mem_outputs_pay {o : Output} (h : o ∈ (pay point amount change payer payee).outputs) :
    o = .payTo amount payee ∨ o = .payTo change payer := by
  rw [outputs_pay_perm.mem_iff, List.mem_cons] at h
  refine h.imp_right fun ho => ?_
  split at ho
  · exact List.mem_singleton.1 ho
  · cases ho

end Transaction

theorem Output.gauge_payTo {f : Amount → Address → Nat} {a : Address} (h : ¬ a.isEmpty)
    (value : Amount) : (Output.payTo value a).gauge f = f value a :=
  gauge_of_decode (SpendCondition.decode_encode h)

/-- A payment out of a live outpoint is all that a spend asks for. -/
theorem Unspent.spendable_pay {l : Ledger} (live : l.Live point)
    (owned : resolve l.store point = .ok (value, payer))
    (even : amount.toNat + change.toNat = value.toNat) (hpayer : ¬ payer.isEmpty)
    (hpayee : ¬ payee.isEmpty) :
    Spendable l ⟨.pay point amount change payer payee, payer⟩ { point } value where
  signer := hpayer
  single := Transaction.inputs_pay
  outputs := Transaction.outputs_pay_ne_nil
  conditions o ho := by
    rcases Transaction.mem_outputs_pay ho with rfl | rfl
    · exact ⟨_, SpendCondition.decode_encode hpayee⟩
    · exact ⟨_, SpendCondition.decode_encode hpayer⟩
  ordered := (Transaction.isCanonical_iff Transaction.inputs_pay).1
    (Transaction.isCanonical_canonicalize _)
  live := live
  owned := owned
  even := (Transaction.sum_pay rfl).trans even

theorem sum_gauge_pay (hpayer : ¬ payer.isEmpty) (hpayee : ¬ payee.isEmpty) (a : Address) :
    ((Transaction.pay point amount change payer payee).outputs.map
        (Output.gauge (Unspent.share a))).sum =
      Unspent.share a amount payee + Unspent.share a change payer := by
  rw [Transaction.sum_pay, Output.gauge_payTo hpayee, Output.gauge_payTo hpayer]
  rw [Output.gauge_payTo hpayer]
  simp [Unspent.share]

end Payment

/-! ## The wallets -/

/-- One wallet is another one after values have gone from it and come to it: in the sum of what it lists,
in the balance, which is that sum in 128 bits, and in the balance as a number if the sums fit. -/
structure Unspent.Wallet.Moved (before after : Wallet) (gone come : Nat) : Prop where
  total : after.total + gone = before.total + come
  balance : after.balance = before.balance - BitVec.ofNat 128 gone + BitVec.ofNat 128 come
  exact : before.total < 2 ^ 128 → after.total < 2 ^ 128 →
    after.balance.toNat + gone = before.balance.toNat + come

theorem Unspent.moved_wallet {s' : Store} {a : Address} {gone come : Nat}
    (h : tally (share a) s' + gone = tally (share a) s + come) :
    (wallet s a).Moved (wallet s' a) gone come := by
  rw [← total_wallet, ← total_wallet] at h
  have hbefore : (wallet s a).balance = BitVec.ofNat 128 (wallet s a).total :=
    Wallet.balance_ofEntries _
  have hafter : (wallet s' a).balance = BitVec.ofNat 128 (wallet s' a).total :=
    Wallet.balance_ofEntries _
  refine ⟨h, ?_, fun hb ha => ?_⟩
  · -- the same equation in 128 bits
    have hsum := congrArg (BitVec.ofNat 128) h
    rw [BitVec.ofNat_add, BitVec.ofNat_add] at hsum
    rw [hbefore, hafter, BitVec.sub_add_comm]
    exact BitVec.eq_sub_iff_add_eq.2 hsum
  · rw [hbefore, hafter, BitVec.toNat_ofNat, BitVec.toNat_ofNat, Nat.mod_eq_of_lt hb,
      Nat.mod_eq_of_lt ha]
    exact h

namespace Sample

/-- Alice pays 15 of her 35 coins to Bob and keeps 20. -/
def transfer : Transaction where
  inputs := [{ point := ⟨payment.tx.hash, 1⟩ }]
  outputs := [.payTo 15 bob, .payTo 20 alice]

theorem pay_eq_transfer :
    Transaction.pay ⟨payment.tx.hash, 1⟩ 15 20 alice bob = transfer := by
  unfold Transaction.pay Transaction.canonicalize
  rw [List.mergeSort_singleton, if_pos (by decide), List.mergeSort_of_pairwise (by decide)]
  rfl

end Sample

namespace Ledger

/-- In every state of a run, and where spenders are authenticated before delivery, the owner of a live
outpoint can pay any part of its value to whoever has a name: the payment with the rest as change is
accepted, and then the wallet of every address has lost the value if it is the payer's, and gained the
change if it is the payer's and the amount if it is the payee's. -/
theorem payment_accepted (rules : Rules) (policy : rules.config.witnessPolicy = .envelope)
    (ops : List Operation) (block : Block) (point : OutPoint) (value amount change : Amount)
    (payer payee : Address)
    (hd : Distinct (.pay point amount change payer payee :: transactions ops))
    (hb : Bounded (transactions ops)) (live : (run rules ops).Live point)
    (owned : Unspent.resolve (run rules ops).store point = .ok (value, payer))
    (even : amount.toNat + change.toNat = value.toNat) (named : ¬ payee.isEmpty) :
    ∃ event l',
      deliver rules block (.spend ⟨.pay point amount change payer payee, payer⟩) (run rules ops) =
        (.ok event, l') ∧
      ∀ a, ∃ before after, query (.balance a) (run rules ops) = .ok (.wallet before) ∧
        query (.balance a) l' = .ok (.wallet after) ∧
        before.Moved after (if payer = a then value.toNat else 0)
          ((if payer = a then change.toNat else 0) + if payee = a then amount.toNat else 0) := by
  have hbt : Bounded (.pay point amount change payer payee :: transactions ops) :=
    List.forall_mem_cons.2 ⟨Nat.le_trans Transaction.length_outputs_pay (by decide), hb⟩
  have hi : Intact (.pay point amount change payer payee :: transactions ops)
      (run rules ops).store :=
    intact_run rules hd hbt fun _ ht => List.mem_cons_of_mem _ ht
  have hpayer : ¬ payer.isEmpty :=
    hi.named_of_resolve hbt (named_run rules ops) ((hi.sound.has_point point).1 live) owned
  have he : Effect rules block (run rules ops).custody
      (.spend ⟨.pay point amount change payer payee, payer⟩) _ :=
    effect_of_spendable policy hi.sound (Unspent.spendable_pay live owned even hpayer named)
  obtain ⟨event, h⟩ := deliver_of_effect hi.sound he
  have hi' := he.intact hi hd hbt fun _ ht => List.mem_cons.2 (.inl (List.mem_singleton.1 ht))
  refine ⟨event, _, h, fun a => ⟨_, _, hi.query_balance hbt a, hi'.query_balance hbt a, ?_⟩⟩
  have htally := he.tally_spend (f := Unspent.share a) hi (hd.mono (by simp)) (hbt.mono (by simp))
    Transaction.inputs_pay owned
  rw [sum_gauge_pay hpayer named a, Nat.add_comm (Unspent.share a amount payee)] at htally
  exact Unspent.moved_wallet htally

/-- By the transfer Bob's wallet gains 15. -/
theorem payment_accepted_transfer :
    Distinct (.pay ⟨Sample.payment.tx.hash, 1⟩ 15 20 Sample.alice Sample.bob ::
      transactions Sample.ops) ∧
    Bounded (transactions Sample.ops) ∧
    (run {} Sample.ops).Live ⟨Sample.payment.tx.hash, 1⟩ ∧
    Unspent.resolve (run {} Sample.ops).store ⟨Sample.payment.tx.hash, 1⟩ =
      .ok (35, Sample.alice) ∧
    ∃ event l', deliver {} Sample.block
        (.spend ⟨.pay ⟨Sample.payment.tx.hash, 1⟩ 15 20 Sample.alice Sample.bob, Sample.alice⟩)
        (run {} Sample.ops) = (.ok event, l') ∧
      ∃ before after, query (.balance Sample.bob) (run {} Sample.ops) = .ok (.wallet before) ∧
        query (.balance Sample.bob) l' = .ok (.wallet after) ∧ before.Moved after 0 15 := by
  have hd : Distinct (.pay ⟨Sample.payment.tx.hash, 1⟩ 15 20 Sample.alice Sample.bob ::
      transactions Sample.ops) := by
    rw [Sample.pay_eq_transfer]
    exact distinct_sample.cons (by decide +kernel)
  obtain ⟨live, owned⟩ := change_owned_sample
  obtain ⟨event, l', h, wallets⟩ := payment_accepted {} rfl Sample.ops Sample.block _ 35 15 20
    Sample.alice Sample.bob hd bounded_sample live owned (by decide) (by decide)
  obtain ⟨before, after, hbefore, hafter, moved⟩ := wallets Sample.bob
  rw [if_neg (by decide), if_neg (by decide), if_pos rfl] at moved
  exact ⟨hd, bounded_sample, live, owned, event, l', h, before, after, hbefore, hafter, moved⟩

end Ledger

end Settlement
