import Settlement.Proofs.DoubleSpend

/-!
# Nobody loses value without having signed

A message names the addresses that must have signed it. What an accepted message takes away it takes from
one of them: the bank is debited for a signer, a spend consumes what the signer owns, and an escrow is
reduced or removed by the parties whose money is in it. For outpoints this rests again on history: a spend
of one outpoint cannot change what another one resolves to.

Results:
* `Effect.balance_le`, `Effect.keeps_outpoint`, `Effect.keeps_escrow`: what an accepted message leaves to an
  address that is not among its signers.
* `Ledger.unsigned_keeps`: the three together, in every state that a run can reach.
-/
namespace Settlement

/-! ## Balances -/

namespace Bank

variable {b b' : Bank} {address x : Address} {coin : Coin}

theorem balance_le_of_credit (h : b.credit address coin = .ok b') (d : String) :
    b.balance x d ≤ b'.balance x d := by
  rw [UInt64.le_iff_toNat_le, balance_credit h]
  omega

theorem balance_eq_of_debit (h : b.debit address coin = .ok b') (hx : address ≠ x) (d : String) :
    b'.balance x d = b.balance x d := by
  have := balance_debit h x d
  rw [if_neg fun he => hx he.1] at this
  exact UInt64.toNat_inj.1 this.symm

end Bank

namespace Escrow.Contract

/-- An address has money in an escrow: it is a party of one that is locked, or has opened one that nobody
has joined. -/
def Concerns (contract : Contract) (x : Address) : Prop :=
  (contract.stage = .locked ∧ (contract.partyA = x ∨ contract.partyB = x)) ∨
    (contract.stage = .created ∧ contract.partyA = x)

/-- An escrow has lost nothing since it was as given: it is between the same parties, and its balance is
of the same denomination and no less. -/
structure Keeps (after before : Contract) : Prop where
  id : after.id = before.id
  partyA : after.partyA = before.partyA
  partyB : after.partyB = before.partyB
  denom : after.balance.denom = before.balance.denom
  amount : before.balance.amount ≤ after.balance.amount

theorem Keeps.refl (contract : Contract) : contract.Keeps contract :=
  ⟨rfl, rfl, rfl, rfl, UInt64.le_refl _⟩

theorem Keeps.of_add {contract : Contract} {stage : Stage} {amount balance : Coin}
    (h : contract.balance.add amount = .ok balance) :
    ({ contract with balance, stage } : Contract).Keeps contract := by
  obtain ⟨-, hdenom, hsum⟩ := Coin.add_ok_iff.1 h
  refine ⟨rfl, rfl, rfl, hdenom, ?_⟩
  rw [UInt64.le_iff_toNat_le]
  simp only
  omega

end Escrow.Contract

section

variable {ts : List Transaction} {rules : Rules} {block : Block} {c c' : Custody} {m : Message}
  {x : Address}

/-- The balances of those who have not signed do not decrease. -/
theorem Effect.balance_le (he : Effect rules block c m c') (hx : x ∉ m.signers) (d : String) :
    c.bank.balance x d ≤ c'.bank.balance x d := by
  cases he with
  | birth valid denom born fresh paid =>
    have hne := List.ne_of_not_mem_cons hx
    rw [Bank.balance_eq_of_debit paid hne.symm]
    exact UInt64.le_refl _
  | spend => exact UInt64.le_refl _
  | addContract valid fresh paid =>
    have hne := List.ne_of_not_mem_cons hx
    rw [Bank.balance_eq_of_debit paid hne.symm]
    exact UInt64.le_refl _
  | redeemContract valid held unlocked unresolved caller inTime paid =>
    exact Bank.balance_le_of_credit paid d
  | failContract valid held named unresolved caller expired paid =>
    exact Bank.balance_le_of_credit paid d
  | initEscrow valid fresh apart positiveA positiveB denom paid =>
    have hne := List.ne_of_not_mem_cons hx
    rw [Bank.balance_eq_of_debit paid hne.symm]
    exact UInt64.le_refl _
  | abortEscrow valid held named unjoined caller paid => exact Bank.balance_le_of_credit paid d
  | joinEscrow valid held named unjoined caller share sum paid =>
    have hne := List.ne_of_not_mem_cons hx
    rw [caller] at hne
    rw [Bank.balance_eq_of_debit paid hne.symm]
    exact UInt64.le_refl _
  | spendEscrow valid held named locked callers denom difference paid =>
    exact Bank.balance_le_of_credit paid d

/-- What those who have not signed own stays live and theirs. -/
theorem Effect.keeps_outpoint (he : Effect rules block c m c') (h : Intact ts c.store)
    (hd : Distinct (m.transactions ++ ts)) (hb : Bounded ts) (hx : x ∉ m.signers) {p : OutPoint}
    {value : Amount} (hp : c.store.Holds (.point p))
    (hr : Unspent.resolve c.store p = .ok (value, x)) :
    c'.store.Holds (.point p) ∧ Unspent.resolve c'.store p = .ok (value, x) := by
  have hext := he.extends h hd
  rw [h.resolve_extends hb hext ((h.live_iff p).1 hp).1]
  refine ⟨?_, hr⟩
  have hframe := fun (hb : m.route ≠ .birth) (hs : m.route ≠ .spend) =>
    (he.frame hb hs (r := .point p) (by simp [Record.key, Key.kind])
      (by simp [Record.key, Key.kind])).2 hp
  cases he with
  | birth valid denom born fresh paid =>
    exact point_birth.2 (.inr hp)
  | @spend m input worth valid only canonical live owned even authorized =>
    refine (Unspent.point_applyTransaction fun u hu => h.fresh hd only live hu).2 (.inr ⟨?_, hp⟩)
    -- the outpoint that is spent belongs to the signer
    intro hspent
    subst hspent
    rw [owned] at hr
    cases hr
    exact hx (List.mem_singleton.2 rfl)
  | _ => exact hframe (by simp [Message.route]) (by simp [Message.route])

/-- The escrows in which those who have not signed have money stay and lose nothing. -/
theorem Effect.keeps_escrow (he : Effect rules block c m c') (hx : x ∉ m.signers)
    {contract : Escrow.Contract} (hh : c.store.Holds (.escrow contract))
    (hc : contract.Concerns x) :
    ∃ contract', c'.store.Holds (.escrow contract') ∧ contract'.Keeps contract := by
  have same : c'.store.Holds (.escrow contract) →
      ∃ contract', c'.store.Holds (.escrow contract') ∧ contract'.Keeps contract :=
    fun h => ⟨contract, h, .refl contract⟩
  cases he with
  | birth =>
    refine same ?_
    rw [Store.holds_write_point]
    exact .inr (hh.write (by simp [Record.key]))
  | spend =>
    refine same ?_
    rw [Unspent.applyTransaction_eq, Unspent.holds_addOutPoints]
    exact .inr ((hh.write (by simp [Record.key])).remove (by simp [Record.key]))
  | addContract => exact same (hh.write (by simp [Record.key]))
  | redeemContract => exact same (hh.write (by simp [Record.key]))
  | failContract => exact same (hh.write (by simp [Record.key]))
  | initEscrow valid fresh apart positiveA positiveB denom paid =>
    exact same (hh.write fun hk => Store.not_holds_of_none fresh hk hh)
  | @abortEscrow m found bank valid held named unjoined caller paid =>
    by_cases hk : contract.id = found.id
    · obtain rfl := Record.escrow.inj (hh.unique held (congrArg Key.escrow hk))
      exfalso
      rcases hc with ⟨hl, -⟩ | ⟨-, ha⟩
      · rw [hl] at unjoined
        cases unjoined
      · rw [ha] at caller
        exact hx (List.mem_singleton.2 caller.symm)
    · exact same (hh.remove fun he => hk (Key.escrow.inj he))
  | @joinEscrow m found balance bank valid held named unjoined caller share sum paid =>
    by_cases hk : contract.id = found.id
    · obtain rfl := Record.escrow.inj (hh.unique held (congrArg Key.escrow hk))
      exact ⟨_, Store.holds_write_self, .of_add sum⟩
    · exact same (hh.write fun he => hk (Key.escrow.inj he))
  | @spendEscrow m found remaining bank valid held named locked callers denom difference paid =>
    by_cases hk : contract.id = found.id
    · obtain rfl := Record.escrow.inj (hh.unique held (congrArg Key.escrow hk))
      exfalso
      rcases hc with ⟨-, ha | hb⟩ | ⟨hs, -⟩
      · exact hx (by simp [Message.signers, Escrow.Spend.signers, callers.1, ha])
      · exact hx (by simp [Message.signers, Escrow.Spend.signers, callers.2, hb])
      · rw [hs] at locked
        cases locked
    · exact same (hh.write fun he => hk (Key.escrow.inj he))

end

/-! ## Runs -/

namespace Ledger

/-- In every state of a run, whatever calls it is made of, a message that is accepted takes nothing from
an address that is not among its signers: no balance of it is less, what it may spend stays live and
worth the same to it, and no escrow that it has money in is removed or loses any. -/
theorem unsigned_keeps (rules : Rules) (ops : List Operation) (block : Block) (m : Message)
    (hd : Distinct (m.transactions ++ transactions ops)) (hb : Bounded (transactions ops))
    {event : Event} {l' : Ledger} (h : deliver rules block m (run rules ops) = (.ok event, l'))
    {x : Address} (hx : x ∉ m.signers) :
    (∀ d, (run rules ops).bank.balance x d ≤ l'.bank.balance x d) ∧
    (∀ p value, (run rules ops).Live p →
      Unspent.resolve (run rules ops).store p = .ok (value, x) →
      l'.Live p ∧ Unspent.resolve l'.store p = .ok (value, x)) ∧
    (∀ id contract, Escrow.find (run rules ops).store id = .ok contract → contract.Concerns x →
      ∃ contract', Escrow.find l'.store id = .ok contract' ∧ contract'.Keeps contract) := by
  have hi : Intact (transactions ops) (run rules ops).store :=
    intact_run rules (hd.mono fun _ ht => List.mem_append_right _ ht) hb fun _ ht => ht
  have he : Effect rules block (run rules ops).custody m l'.custody :=
    effect_of_accept hi.sound (deliver_ok h).1
  have hs : l'.store.Sound := he.sound hi.sound
  refine ⟨fun d => he.balance_le hx d, ?_, ?_⟩
  · intro p value hl hr
    obtain ⟨hp, hr'⟩ := he.keeps_outpoint hi hd hb hx ((hi.sound.has_point p).1 hl) hr
    exact ⟨(hs.has_point p).2 hp, hr'⟩
  · intro id contract hf hc
    obtain ⟨hh, rfl⟩ := hi.sound.findEscrow hf
    obtain ⟨contract', hh', hk⟩ := he.keeps_escrow hx hh hc
    refine ⟨contract', ?_, hk⟩
    rw [← hk.id]
    exact hh'.findEscrow

/-- Alice spends her change, and Bob keeps his coins, his outpoint and what lies in the escrow. -/
theorem unsigned_keeps_sample :
    Sample.bob ∉ (Message.spend Sample.change).signers ∧
    Distinct ((Message.spend Sample.change).transactions ++ transactions Sample.ops) ∧
    Bounded (transactions Sample.ops) ∧
    ∃ event l', deliver {} Sample.block (.spend Sample.change) (run {} Sample.ops) =
        (.ok event, l') ∧
      15 ≤ l'.bank.balance Sample.bob "stake" ∧
      l'.Live ⟨Sample.payment.tx.hash, 0⟩ ∧
      Unspent.resolve l'.store ⟨Sample.payment.tx.hash, 0⟩ = .ok (25, Sample.bob) ∧
      ∃ contract, Escrow.find l'.store Sample.savings = .ok contract ∧
        10 ≤ contract.balance.amount := by
  have hx : Sample.bob ∉ (Message.spend Sample.change).signers := by decide
  have hd : Distinct ((Message.spend Sample.change).transactions ++ transactions Sample.ops) :=
    distinct_change
  have hstate : (deliver {} Sample.block (.spend Sample.change) (run {} Sample.ops)).1.isOk ∧
      (run {} Sample.ops).bank.balance Sample.bob "stake" = 15 ∧
      (run {} Sample.ops).Live ⟨Sample.payment.tx.hash, 0⟩ ∧
      Unspent.resolve (run {} Sample.ops).store ⟨Sample.payment.tx.hash, 0⟩ =
        .ok (25, Sample.bob) ∧
      Escrow.find (run {} Sample.ops).store Sample.savings = .ok Sample.joint := by
    decide +kernel
  obtain ⟨haccept, hbob, hlive, howned, hfound⟩ := hstate
  obtain ⟨event, hevent⟩ := exists_ok_of_isOk haccept
  have hdeliver : deliver {} Sample.block (.spend Sample.change) (run {} Sample.ops) =
      (.ok event, (deliver {} Sample.block (.spend Sample.change) (run {} Sample.ops)).2) := by
    rw [← hevent]
  obtain ⟨hbalance, hpoint, hescrow⟩ :=
    unsigned_keeps {} Sample.ops Sample.block (.spend Sample.change) hd bounded_sample hdeliver hx
  obtain ⟨hlive', howned'⟩ := hpoint ⟨Sample.payment.tx.hash, 0⟩ 25 hlive howned
  obtain ⟨contract, hfind, hkeeps⟩ :=
    hescrow Sample.savings Sample.joint hfound (.inl ⟨rfl, .inr rfl⟩)
  refine ⟨hx, hd, bounded_sample, event, _, hdeliver, ?_, hlive', howned', contract, hfind, ?_⟩
  · rw [← hbob]
    exact hbalance "stake"
  · exact hkeeps.amount

end Ledger

end Settlement
