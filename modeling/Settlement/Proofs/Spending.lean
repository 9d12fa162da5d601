import Settlement.Proofs.Canonical
import Settlement.Proofs.Deed
import Settlement.Proofs.DoubleSpend
import Settlement.Proofs.Tally

/-!
# What a spend asks for and what it leaves

A spend is decided by checks of the message and by two facts about the outpoint that it spends: that it is
live, and what it resolves to. The checks stop at the first that fails and add up in 64 bits; what they
come to is one condition in which no order and no overflow is left (`Spendable`). An accepted spend changes
the keys of its own transaction and of outpoints, and no others. So what resolved before resolves as it
did, and the new outpoints resolve to what the outputs say (`Applied`).

Results:
* `effect_of_spendable`, `Effect.spendable`: what is asked for is what the effect of a spend requires.
* `resolve_applyTransaction_ok_iff`: what resolves besides the new outpoints resolves as before.
* `Ledger.spend_exact`: in every state of a run, which spends are accepted and what they leave.
-/
namespace Settlement

variable {s : Store} {ts : List Transaction}

/-! ## What is asked for -/

namespace Unspent

/-- All that an accepted spend has to say, and that has to be so of the outpoint that it spends. -/
structure Spendable (l : Ledger) (m : Spend) (input : Input) (value : Amount) : Prop where
  signer : ¬ m.signer.isEmpty
  single : m.tx.inputs = [input]
  outputs : m.tx.outputs ≠ []
  conditions : ∀ o ∈ m.tx.outputs, ∃ condition, SpendCondition.decode o.condition = .ok condition
  ordered : m.tx.outputs.Pairwise fun a b =>
    a.value < b.value ∨ a.value = b.value ∧ a.condition ≤ b.condition
  live : l.Live input.point
  owned : resolve l.store input.point = .ok (value, m.signer)
  even : (m.tx.outputs.map fun o => o.value.toNat).sum = value.toNat

theorem authorize_of_envelope {config : Config} (policy : config.witnessPolicy = .envelope)
    (verifier : Verifier) (input : Input) (hash : Digest) (spender : Address) :
    authorize config verifier input hash spender = .ok () :=
  if_neg (by rw [policy]; decide)

end Unspent

section

variable {rules : Rules} {block : Block} {l : Ledger} {m : Unspent.Spend} {input : Input}
  {value : Amount}

/-- What is asked for is enough. -/
theorem effect_of_spendable (policy : rules.config.witnessPolicy = .envelope) (hs : l.store.Sound)
    (h : Unspent.Spendable l m input value) :
    Effect rules block l.custody (.spend m)
      ⟨Unspent.applyTransaction l.store m.tx input.point, l.bank⟩ :=
  .spend
    (Unspent.Spend.validate_ok_iff.2 ⟨by simp [h.single], h.outputs, h.signer, h.conditions⟩)
    h.single ((Transaction.isCanonical_iff h.single).2 h.ordered) ((hs.has_point _).1 h.live)
    h.owned (outputValue?_eq_some_iff.2 h.even)
    (Unspent.authorize_of_envelope policy rules.verifier input m.tx.hash m.signer)

/-- And it is needed. -/
theorem Effect.spendable {c' : Custody} (he : Effect rules block l.custody (.spend m) c')
    (hs : l.store.Sound) :
    ∃ input value, Unspent.Spendable l m input value ∧
      c' = ⟨Unspent.applyTransaction l.store m.tx input.point, l.bank⟩ := by
  cases he with
  | @spend _ input value valid only canonical live owned even authorized =>
    obtain ⟨-, outputs, signer, conditions⟩ := Unspent.Spend.validate_ok_iff.1 valid
    refine ⟨input, value, ⟨signer, only, outputs, conditions,
      (Transaction.isCanonical_iff only).1 canonical, (hs.has_point _).2 live, owned,
      outputValue?_eq_some_iff.1 even⟩, rfl⟩

end

/-! ## What is left alone -/

namespace Unspent

variable {t : Transaction} {p spent : OutPoint}

/-- The keys under which a transaction changes anything. -/
theorem mem_edits_applied {e : Edit} (he : e ∈ (t.footprint spent).edits) :
    e.key = .transaction t.hash ∨ ∃ q, e.key = .point q := by
  have hk := List.mem_map_of_mem (f := Edit.key) he
  rw [Transaction.map_key_edits, List.mem_cons, List.mem_cons, List.mem_map] at hk
  rcases hk with hk | hk | ⟨q, -, hk⟩
  · exact .inl hk
  · exact .inr ⟨spent, hk⟩
  · exact .inr ⟨q, hk.symm⟩

/-- Nothing is touched outside the namespace of the unspent outputs. -/
theorem get?_applyTransaction_outside {key : Bytes} (h : ¬ space.path <+: key) :
    (applyTransaction s t spent).get? key = s.get? key := by
  rw [applyTransaction_eq_edited]
  refine Store.get?_edited_of_ne fun e he hk => h ?_
  rcases mem_edits_applied he with hkey | ⟨q, hkey⟩
  · exact ⟨transactionKey t.hash, by rw [← hk, hkey]; rfl⟩
  · exact ⟨outPointKey q, by rw [← hk, hkey]; rfl⟩

theorem resolve_applyTransaction_of_ne (h : p.source ≠ t.hash ∨ p.isBirth = true) :
    resolve (applyTransaction s t spent) p = resolve s p := by
  refine resolve_congr ?_
  rw [applyTransaction_eq_edited]
  refine Store.get?_edited fun e he hk => ?_
  rcases mem_edits_applied he with hkey | ⟨q, hkey⟩
  · rw [hk, OutPoint.sourceKey] at hkey
    split at hkey
    · cases hkey
    · rename_i hbirth
      exact h.elim (fun hne => hne (Key.transaction.inj hkey)) hbirth
  · rw [hk] at hkey
    rcases p.kind_sourceKey with hkind | hkind <;> simp [hkey, Key.kind] at hkind

/-- What resolves and names a transaction on record is one of its outputs. -/
theorem mem_createdPoints_of_resolve (hb : t.outputs.length ≤ Nat.pow 2 31)
    (ht : s.Holds (.transaction t)) (hp : p.source = t.hash) (hn : p.isBirth = false)
    {r : Amount × Address} (h : resolve s p = .ok r) :
    p ∈ createdPoints t.hash t.outputs.length := by
  have hl : space.load Transaction.codec s (transactionKey p.source) = .ok (some t) := by
    rw [hp]
    exact ht.load Store.transactionShelf rfl
  simp only [resolve, hn, Bool.false_eq_true, if_false, hl, bind, Except.bind] at h
  split at h
  · cases h
  · rename_i output ho
    unfold outputAt? at ho
    split at ho
    · rename_i i hi
      obtain ⟨hlt, -⟩ := List.getElem?_eq_some_iff.1 ho
      have hindex : p.index = Int32.ofNat i :=
        Int32.toInt_inj.1 (hi.trans (toInt_ofNat (by omega)).symm)
      exact mem_createdPoints.2 ⟨i, hlt, by rw [← hp, ← hindex]⟩
    · cases ho

theorem resolve_ne_ok_of_fresh (hs : s.Sound)
    (hf : ∀ u, s.Holds (.transaction u) → u.hash ≠ t.hash) (hp : p.source = t.hash)
    (hn : p.isBirth = false) (r : Amount × Address) : resolve s p ≠ .ok r := by
  intro h
  refine get?_sourceKey_of_resolve h ?_
  rw [OutPoint.sourceKey, hn, if_neg Bool.false_ne_true, hp]
  exact hs.get?_transaction hf

/-- A transaction of a new hash leaves what resolves besides its own outputs. -/
theorem resolve_applyTransaction_ok_iff (hs : s.Sound)
    (hf : ∀ u, s.Holds (.transaction u) → u.hash ≠ t.hash)
    (hb : t.outputs.length ≤ Nat.pow 2 31) (hp : p ∉ createdPoints t.hash t.outputs.length)
    {r : Amount × Address} :
    resolve (applyTransaction s t spent) p = .ok r ↔ resolve s p = .ok r := by
  by_cases hsource : p.source = t.hash ∧ p.isBirth = false
  · obtain ⟨hsource, hn⟩ := hsource
    constructor
    · intro hr
      have hheld := holds_transaction_applied s t spent
      exact absurd (mem_createdPoints_of_resolve hb hheld hsource hn hr) hp
    · intro hr
      exact absurd hr (resolve_ne_ok_of_fresh hs hf hsource hn r)
  · rw [resolve_applyTransaction_of_ne]
    by_cases hsame : p.source = t.hash
    · exact .inr (by simpa using fun hn => hsource ⟨hsame, hn⟩)
    · exact .inl hsame

end Unspent

/-! ## What is left -/

/-- What an accepted spend leaves: one outpoint for each output, under its number, in the place of the one
that was spent. The new outpoints were not there before and resolve to what the outputs say, and all others
resolve as before. The bank and all other namespaces are as they were. -/
structure Unspent.Applied (l l' : Ledger) (t : Transaction) (spent : OutPoint) : Prop where
  live_iff : ∀ p, l'.Live p ↔
    l.Live p ∧ p ≠ spent ∨ ∃ i < t.outputs.length, p = ⟨t.hash, Int32.ofNat i⟩
  numbered : ∀ i < t.outputs.length, (Int32.ofNat i).toInt = i
  distinct : ∀ i < t.outputs.length, ∀ j < t.outputs.length,
    (⟨t.hash, Int32.ofNat i⟩ : OutPoint) = ⟨t.hash, Int32.ofNat j⟩ → i = j
  new : ∀ i < t.outputs.length, ¬ l.Live ⟨t.hash, Int32.ofNat i⟩ ∧
    ∀ r, resolve l.store ⟨t.hash, Int32.ofNat i⟩ ≠ .ok r
  resolves : ∀ i (hi : i < t.outputs.length), ∃ condition,
    SpendCondition.decode t.outputs[i].condition = .ok condition ∧
    resolve l'.store ⟨t.hash, Int32.ofNat i⟩ = .ok (t.outputs[i].value, condition.spender)
  others : ∀ p, (∀ i < t.outputs.length, p ≠ ⟨t.hash, Int32.ofNat i⟩) →
    ∀ r, resolve l'.store p = .ok r ↔ resolve l.store p = .ok r
  /-- Where an outpoint does not name the transaction, this is so of failures as well. -/
  elsewhere : ∀ p, p.source ≠ t.hash → resolve l'.store p = resolve l.store p
  bank : l'.bank = l.bank
  outside : ∀ key, ¬ space.path <+: key → l'.store.get? key = l.store.get? key

theorem Intact.applied {l l' : Ledger} (h : Intact ts l.store) {t : Transaction} {input : Input}
    (hd : Distinct (t :: ts)) (hb : t.outputs.length ≤ Nat.pow 2 31) (only : t.inputs = [input])
    (conditions : ∀ o ∈ t.outputs, ∃ condition, SpendCondition.decode o.condition = .ok condition)
    (live : l.Live input.point)
    (he : l'.custody = ⟨Unspent.applyTransaction l.store t input.point, l.bank⟩) :
    Unspent.Applied l l' t input.point := by
  have hf : ∀ u, l.store.Holds (.transaction u) → u.hash ≠ t.hash :=
    fun u hu => h.fresh hd only ((h.sound.has_point _).1 live) hu
  have hstore : l'.store = Unspent.applyTransaction l.store t input.point :=
    congrArg Custody.store he
  have hbank : l'.custody.bank = l.bank := by rw [he]
  have hnumber : ∀ i < t.outputs.length, (OutPoint.mk t.hash (Int32.ofNat i)).isBirth = false :=
    fun i hi => decide_eq_false (ofNat_ne_birthIndex (by omega))
  have hsound := Unspent.sound_applyTransaction h.sound t input.point
  have hheld := Unspent.holds_transaction_applied l.store t input.point
  rw [← hstore] at hsound hheld
  refine ⟨fun p => ?_, fun i hi => toInt_ofNat (by omega), fun i hi j hj he => ?_,
    fun i hi => ⟨fun hl => ?_, ?_⟩, fun i hi => ?_, fun p hp r => ?_, fun p hp => ?_, hbank,
    fun key hk => ?_⟩
  · rw [Ledger.Live, hsound.has_point, hstore, Unspent.point_applyTransaction hf,
      Unspent.mem_createdPoints, Ledger.Live, h.sound.has_point, or_comm, and_comm (a := p ≠ _)]
  · exact ofNat_injective (by omega) (by omega) (OutPoint.mk.inj he).2
  · have hcreated := h.created_of_live ((h.sound.has_point _).1 hl)
    exact not_created_of_fresh hb hf (Unspent.mem_createdPoints.2 ⟨i, hi, rfl⟩) hcreated
  · exact Unspent.resolve_ne_ok_of_fresh h.sound hf rfl (hnumber i hi)
  · obtain ⟨condition, hc⟩ := conditions _ (List.getElem_mem hi)
    exact ⟨condition, hc, resolve_output hheld hi hb hc⟩
  · rw [hstore]
    refine Unspent.resolve_applyTransaction_ok_iff h.sound hf hb fun hmem => ?_
    obtain ⟨i, hi, hpi⟩ := Unspent.mem_createdPoints.1 hmem
    exact hp i hi hpi
  · rw [hstore, Unspent.resolve_applyTransaction_of_ne (.inl hp)]
  · rw [hstore, Unspent.get?_applyTransaction_outside hk]

namespace Ledger

/-- In every state of a run, and where spenders are authenticated before delivery, a spend is accepted
exactly if its signer is not empty, it has one input and at least one output, the conditions of all outputs
can be decoded, the outputs ascend by value and then by condition, the outpoint is live and resolves to the
signer, and the exact sum of the outputs is the value that it resolves to. In particular a spend whose
outputs come to more than fits an amount is refused, and leaves the ledger as it is. An accepted spend
replaces the outpoint by new ones, which resolve to what the outputs say, and changes nothing else. -/
theorem spend_exact (rules : Rules) (policy : rules.config.witnessPolicy = .envelope)
    (ops : List Operation) (block : Block) (m : Unspent.Spend)
    (hd : Distinct (m.tx :: transactions ops)) (hb : Bounded (m.tx :: transactions ops)) :
    ((∃ event l', deliver rules block (.spend m) (run rules ops) = (.ok event, l')) ↔
      ∃ input value, Unspent.Spendable (run rules ops) m input value) ∧
    (2 ^ 64 ≤ (m.tx.outputs.map fun o => o.value.toNat).sum → ∃ error,
      deliver rules block (.spend m) (run rules ops) = (.error error, run rules ops)) ∧
    ∀ event l', deliver rules block (.spend m) (run rules ops) = (.ok event, l') →
      ∃ input, m.tx.inputs = [input] ∧
        Unspent.Applied (run rules ops) l' m.tx input.point := by
  have hi : Intact (transactions ops) (run rules ops).store :=
    intact_run rules (hd.mono fun _ ht => List.mem_cons_of_mem _ ht)
      (hb.mono fun _ ht => List.mem_cons_of_mem _ ht) fun _ ht => ht
  have hneeded : ∀ event l', deliver rules block (.spend m) (run rules ops) = (.ok event, l') →
      ∃ input value, Unspent.Spendable (run rules ops) m input value ∧
        l'.custody = ⟨Unspent.applyTransaction (run rules ops).store m.tx input.point,
          (run rules ops).bank⟩ :=
    fun event l' h => (effect_of_accept hi.sound (deliver_ok h).1).spendable hi.sound
  refine ⟨⟨?_, ?_⟩, fun hsum => ?_, fun event l' h => ?_⟩
  · rintro ⟨event, l', h⟩
    obtain ⟨input, value, hs, -⟩ := hneeded event l' h
    exact ⟨input, value, hs⟩
  · rintro ⟨input, value, hs⟩
    obtain ⟨event, h⟩ := deliver_of_effect hi.sound (effect_of_spendable policy hi.sound hs)
    exact ⟨event, _, h⟩
  · cases h : deliver rules block (.spend m) (run rules ops) with
    | mk outcome l' =>
      cases outcome with
      | error error => exact ⟨error, by rw [deliver_error h]⟩
      | ok event =>
        obtain ⟨input, value, hs, -⟩ := hneeded event l' h
        have hvalue := value.toNat_lt
        have := hs.even
        omega
  · obtain ⟨input, value, hs, he⟩ := hneeded event l' h
    exact ⟨input, hs.single,
      hi.applied hd (hb m.tx List.mem_cons_self) hs.single hs.conditions hs.live he⟩

/-- What Alice has kept of her payment is live and hers. -/
theorem change_owned_sample :
    (run {} Sample.ops).Live ⟨Sample.payment.tx.hash, 1⟩ ∧
      Unspent.resolve (run {} Sample.ops).store ⟨Sample.payment.tx.hash, 1⟩ =
        .ok (35, Sample.alice) := by decide +kernel

/-- Alice passes her change on to Carol: all that is asked for is there, and Carol's outpoint takes the
place of Alice's. -/
theorem spend_exact_change :
    Distinct (Sample.change.tx :: transactions Sample.ops) ∧
    Bounded (Sample.change.tx :: transactions Sample.ops) ∧
    Unspent.Spendable (run {} Sample.ops) Sample.change
      { point := ⟨Sample.payment.tx.hash, 1⟩ } 35 ∧
    ∃ event l',
      deliver {} Sample.block (.spend Sample.change) (run {} Sample.ops) = (.ok event, l') ∧
      Unspent.Applied (run {} Sample.ops) l' Sample.change.tx ⟨Sample.payment.tx.hash, 1⟩ := by
  have hb : Bounded (Sample.change.tx :: transactions Sample.ops) := by decide +kernel
  obtain ⟨live, owned⟩ := change_owned_sample
  have conditions : ∀ o ∈ Sample.change.tx.outputs,
      ∃ condition, SpendCondition.decode o.condition = .ok condition := by
    intro o ho
    rw [List.mem_singleton.1 ho]
    exact ⟨.payToAddress ⟨"carol"⟩, by decide⟩
  have hs : Unspent.Spendable (run {} Sample.ops) Sample.change
      { point := ⟨Sample.payment.tx.hash, 1⟩ } 35 :=
    ⟨by decide, rfl, by decide, conditions, List.pairwise_singleton _ _, live, owned, rfl⟩
  obtain ⟨accepted, -, applied⟩ := spend_exact {} rfl Sample.ops Sample.block Sample.change
    distinct_change hb
  obtain ⟨event, l', h⟩ := accepted.2 ⟨_, _, hs⟩
  obtain ⟨input, only, happlied⟩ := applied event l' h
  obtain rfl := (List.cons.inj only).1
  exact ⟨distinct_change, hb, hs, event, l', h, happlied⟩

end Ledger

end Settlement
