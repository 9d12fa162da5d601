import Settlement.Proofs.Run

/-!
# No outpoint is spent twice

Creation and consumption are recorded in history, and history only grows. An outpoint that becomes live is
created in that step, one that ceases to be live is consumed in that step, and neither can happen again.
So once an outpoint is spent, every later attempt finds it gone.

Results:
* `Ledger.no_double_spend`: over a whole run an outpoint becomes live at most once and is consumed at most
  once, and after it has been spent every further spend of it is refused as not found.
-/
namespace Settlement

/-- An outpoint may be spent. -/
def Ledger.Live (l : Ledger) (p : OutPoint) : Prop :=
  Unspent.space.has l.store (Unspent.outPointKey p) = true

instance {l : Ledger} {p : OutPoint} : Decidable (l.Live p) :=
  inferInstanceAs (Decidable (_ = true))

/-- A call spends an outpoint: it delivers a spend of it, which is accepted. -/
def Operation.Spends (rules : Rules) (op : Operation) (l : Ledger) (p : OutPoint) : Prop :=
  ∃ block m event, op.message? = some (block, .spend m) ∧ (∃ input ∈ m.tx.inputs, input.point = p) ∧
    (Ledger.deliver rules block (.spend m) l).1 = .ok event

/-! ## What is not live cannot be spent -/

theorem Unspent.spend_not_live (config : Config) (verifier : Verifier) {m : Unspent.Spend}
    {input : Input} {c : Custody} (hv : m.validate = .ok ()) (hi : m.tx.inputs = [input])
    (hc : m.tx.isCanonical = true)
    (hl : ¬ Unspent.space.has c.store (Unspent.outPointKey input.point) = true) :
    (Unspent.spend config verifier m).exec c = (.error (.outPointNotFound input.point), c) := by
  have hsole : Unspent.soleInput m.tx = .ok input := Unspent.soleInput_ok_iff.2 hi
  simp only [Unspent.spend, Action.exec_bind, Action.exec_check, hv, hsole, Action.exec_demand,
    if_pos hc, Action.exec_get, if_neg hl]

theorem Ledger.spend_not_live (rules : Rules) (block : Block) {m : Unspent.Spend} {input : Input}
    {l : Ledger} (hv : m.validate = .ok ()) (hi : m.tx.inputs = [input])
    (hc : m.tx.isCanonical = true) (hl : ¬ l.Live input.point) :
    (Ledger.deliver rules block (.spend m) l).1 =
      .error (.unspent (.outPointNotFound input.point)) := by
  have hx := Unspent.spend_not_live rules.config rules.verifier hv hi hc hl
  exact deliver_of_refused (exec_part_error hx _ _)

theorem Ledger.deliverEnvelope_read {rules : Rules} {block : Block} {e : Envelope} {m : Message}
    (h : e.read = .ok m) (l : Ledger) :
    Ledger.deliverEnvelope rules block e l = Ledger.deliver rules block m l := by
  rw [Ledger.deliverEnvelope, h]

/-! ## One step -/

section Step

variable {rules : Rules} {ts : List Transaction} {l : Ledger} {op : Operation} {p : OutPoint}

theorem Intact.live_iff_created (h : Intact ts l.store) :
    l.Live p ↔ Created l.store p ∧ ¬ Consumed l.store p := by
  rw [Ledger.Live, h.sound.has_point, h.live_iff]

theorem Operation.Spends.effect (hs : op.Spends rules l p) (hsound : l.store.Sound) :
    l.Live p ∧ Consumed (op.perform rules l).store p := by
  obtain ⟨block, m, event, hread, ⟨input, hin, rfl⟩, hok⟩ := hs
  have hperform : op.perform rules l = (Ledger.deliver rules block (.spend m) l).2 :=
    op.perform_of_message? hread
  cases hd : Ledger.deliver rules block (.spend m) l with
  | mk outcome l' =>
    rw [hd] at hok hperform
    obtain rfl : outcome = .ok event := hok
    rw [hperform]
    have he := effect_of_accept hsound (Ledger.deliver_ok hd).1
    generalize hc : l'.custody = c' at he
    cases he with
    | @spend _ only value valid honly canonical live owned even authorized =>
      rw [honly, List.mem_singleton] at hin
      subst hin
      refine ⟨(hsound.has_point _).2 live, m.tx, ?_, input, honly, rfl⟩
      rw [Ledger.store, hc]
      exact Unspent.holds_transaction_applied _ _ _

end Step

/-! ## Runs -/

namespace Ledger

section

variable {rules : Rules} {ops : List Operation} (hd : Distinct (transactions ops))
  (hb : Bounded (transactions ops))

include hd hb

/-- An outpoint that becomes live was not created before and is created then. -/
theorem created_of_becomes_live {i : Nat} {p : OutPoint} (hn : ¬ (stateAt rules ops i).Live p)
    (hl : (stateAt rules ops (i + 1)).Live p) :
    ¬ Created (stateAt rules ops i).store p ∧ Created (stateAt rules ops (i + 1)).store p := by
  rw [(intact_stateAt rules hd hb i).live_iff_created] at hn
  rw [(intact_stateAt rules hd hb (i + 1)).live_iff_created] at hl
  refine ⟨fun hc => hn ⟨hc, fun hx => hl.2 ?_⟩, hl.1⟩
  exact hx.mono (extends_stateAt rules hd hb (Nat.le_succ i))

/-- An outpoint that ceases to be live was not consumed before and is consumed then. -/
theorem consumed_of_ceases {i : Nat} {p : OutPoint} (hl : (stateAt rules ops i).Live p)
    (hn : ¬ (stateAt rules ops (i + 1)).Live p) :
    ¬ Consumed (stateAt rules ops i).store p ∧ Consumed (stateAt rules ops (i + 1)).store p := by
  rw [(intact_stateAt rules hd hb i).live_iff_created] at hl
  rw [(intact_stateAt rules hd hb (i + 1)).live_iff_created] at hn
  refine ⟨hl.2, ?_⟩
  by_contra hx
  exact hn ⟨hl.1.mono (extends_stateAt rules hd hb (Nat.le_succ i)), hx⟩

end

/-- What happens in a step and lasts from then on happens in one step only. -/
theorem eq_of_once {holds : Nat → Prop} (lasts : ∀ i k, i ≤ k → holds i → holds k) {i j : Nat}
    (hi : ¬ holds i ∧ holds (i + 1)) (hj : ¬ holds j ∧ holds (j + 1)) : i = j := by
  rcases Nat.lt_trichotomy i j with h | h | h
  · exact absurd (lasts (i + 1) j h hi.2) hj.1
  · exact h
  · exact absurd (lasts (j + 1) i h hj.2) hi.1

/-- Over a whole run, whatever calls it is made of, an outpoint becomes live at most once and ceases to
be live at most once, at most one call spends it, and once it is spent it is not live again: whatever else
a later spend of it says, it is refused because the outpoint is not found. -/
theorem no_double_spend (rules : Rules) (ops : List Operation)
    (hd : Distinct (transactions ops)) (hb : Bounded (transactions ops)) (p : OutPoint) :
    (∀ i j, ¬ (stateAt rules ops i).Live p → (stateAt rules ops (i + 1)).Live p →
      ¬ (stateAt rules ops j).Live p → (stateAt rules ops (j + 1)).Live p → i = j) ∧
    (∀ i j, (stateAt rules ops i).Live p → ¬ (stateAt rules ops (i + 1)).Live p →
      (stateAt rules ops j).Live p → ¬ (stateAt rules ops (j + 1)).Live p → i = j) ∧
    (∀ i j (op op' : Operation), ops[i]? = some op → op.Spends rules (stateAt rules ops i) p →
      ops[j]? = some op' → op'.Spends rules (stateAt rules ops j) p → i = j) ∧
    (∀ i (op : Operation), ops[i]? = some op → op.Spends rules (stateAt rules ops i) p →
      (stateAt rules ops i).Live p ∧ ∀ k, i < k → ¬ (stateAt rules ops k).Live p ∧
        ∀ block m input, m.validate = .ok () → m.tx.inputs = [input] → input.point = p →
          m.tx.isCanonical = true →
          (deliver rules block (.spend m) (stateAt rules ops k)).1 =
            .error (.unspent (.outPointNotFound p)) ∧
          ∀ e : Envelope, e.read = .ok (.spend m) →
            (deliverEnvelope rules block e (stateAt rules ops k)).1 =
              .error (.unspent (.outPointNotFound p))) := by
  have hspent : ∀ i (op : Operation), ops[i]? = some op → op.Spends rules (stateAt rules ops i) p →
      (stateAt rules ops i).Live p ∧ Consumed (stateAt rules ops (i + 1)).store p := by
    intro i op hop hs
    obtain ⟨hl, hx⟩ := hs.effect (intact_stateAt rules hd hb i).sound
    refine ⟨hl, ?_⟩
    rw [stateAt, run_take_succ rules hop]
    exact hx
  -- what has once been created or consumed stays so, which leaves one step for either
  have created : ∀ i k, i ≤ k → Created (stateAt rules ops i).store p →
      Created (stateAt rules ops k).store p :=
    fun i k hik hc => hc.mono (extends_stateAt rules hd hb hik)
  have consumed : ∀ i k, i ≤ k → Consumed (stateAt rules ops i).store p →
      Consumed (stateAt rules ops k).store p :=
    fun i k hik hx => hx.mono (extends_stateAt rules hd hb hik)
  refine ⟨?_, ?_, ?_, ?_⟩
  · intro i j hni hli hnj hlj
    exact eq_of_once created (created_of_becomes_live hd hb hni hli)
      (created_of_becomes_live hd hb hnj hlj)
  · intro i j hli hni hlj hnj
    exact eq_of_once consumed (consumed_of_ceases hd hb hli hni) (consumed_of_ceases hd hb hlj hnj)
  · intro i j op op' hi hsi hj hsj
    obtain ⟨hli, hxi⟩ := hspent i op hi hsi
    obtain ⟨hlj, hxj⟩ := hspent j op' hj hsj
    rw [(intact_stateAt rules hd hb i).live_iff_created] at hli
    rw [(intact_stateAt rules hd hb j).live_iff_created] at hlj
    exact eq_of_once consumed ⟨hli.2, hxi⟩ ⟨hlj.2, hxj⟩
  · intro i op hop hs
    obtain ⟨hl, hx⟩ := hspent i op hop hs
    refine ⟨hl, fun k hk => ?_⟩
    have hdead : ¬ (stateAt rules ops k).Live p := by
      rw [(intact_stateAt rules hd hb k).live_iff_created]
      rintro ⟨-, hn⟩
      exact hn (consumed (i + 1) k hk hx)
    refine ⟨hdead, ?_⟩
    rintro block m input hv hi rfl hc
    have hno := spend_not_live rules block hv hi hc hdead
    refine ⟨hno, fun e he => ?_⟩
    rw [deliverEnvelope_read he]
    exact hno

/-- Alice pays Bob, and can never pay herself out of the same outpoint. -/
theorem no_double_spend_sample :
    Distinct (transactions Sample.ops) ∧ Bounded (transactions Sample.ops) ∧
    (Operation.deliver Sample.block (.spend Sample.payment)).Spends {}
      (stateAt {} Sample.ops 3) Sample.point ∧
    ∀ k, 3 < k → ¬ (stateAt {} Sample.ops k).Live Sample.point ∧
      (deliver {} Sample.block (.spend Sample.repayment) (stateAt {} Sample.ops k)).1 =
        .error (.unspent (.outPointNotFound Sample.point)) := by
  have haccept : (deliver {} Sample.block (.spend Sample.payment)
      (stateAt {} Sample.ops 3)).1.isOk := by decide +kernel
  obtain ⟨event, hevent⟩ := exists_ok_of_isOk haccept
  have hspends : (Operation.deliver Sample.block (.spend Sample.payment)).Spends {}
      (stateAt {} Sample.ops 3) Sample.point :=
    ⟨_, _, event, rfl, ⟨{ point := Sample.point }, List.mem_singleton.2 rfl, rfl⟩, hevent⟩
  refine ⟨distinct_sample, bounded_sample, hspends, fun k hk => ?_⟩
  obtain ⟨-, hlater⟩ := (no_double_spend {} Sample.ops distinct_sample bounded_sample
    Sample.point).2.2.2 3 _ rfl hspends
  obtain ⟨hdead, hno⟩ := hlater k hk
  refine ⟨hdead, ?_⟩
  exact (hno Sample.block Sample.repayment _ (by decide +kernel) rfl rfl (by decide +kernel)).1

end Ledger

end Settlement
