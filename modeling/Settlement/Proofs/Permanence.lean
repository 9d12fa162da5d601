import Settlement.Proofs.Lifecycle

/-!
# History is never rewritten

A spend writes its transaction under the transaction's hash and does not look whether one lies there, and
the hash leaves the witnesses out. That nothing is written over is therefore a consequence of the invariant
of the unspent outputs: an accepted transaction spends a live outpoint, and a stored one of the same hash
would have consumed it (`Intact.fresh`). Births look for their id themselves. So history only grows
(`Extends`), and in a sound store a record that stays keeps its bytes.

Results:
* `Extends.get?`: what one store has under a key of history, every store that extends it has.
* `Intact.hash_new`: an accepted transaction has the hash of no transaction before it.
* `Ledger.history_permanent`: over a whole run every value under a key of history stays as it was first
  written, and an accepted transaction is found under its hash, witnesses included, ever after.
-/
namespace Settlement

/-! ## Keys of history -/

/-- The keys of account outputs and of transactions, and whatever else begins like them. -/
def Unspent.IsHistory (key : Bytes) : Prop :=
  accountKeys <+: key ∨ transactionKeys <+: key

theorem Unspent.isHistory_accountKey (id : Digest) : IsHistory (accountKey id) :=
  .inl (List.prefix_append _ _)

variable {s s' : Store} {ts : List Transaction}

/-- What lies in a sound store where the records of a shelf are is one of them. -/
theorem Store.Sound.holds_of_get? {α : Type} (hs : s.Sound) (shelf : Store.Shelf α)
    {key value : Bytes} (hp : shelf.start <+: key) (h : shelf.space.get? s key = some value) :
    ∃ a, s.Holds (shelf.wrap a) ∧ (shelf.wrap a).entry = (shelf.space.full key, value) := by
  obtain ⟨r, hr⟩ := hs _ _ h
  obtain ⟨hk, hv⟩ := Prod.mk.inj hr
  have hlead : shelf.kind.lead.isPrefixOf r.key.bytes = true := by
    rw [List.isPrefixOf_iff_prefix, shelf.lead, hk]
    exact (List.prefix_append_right_inj shelf.space.path).2 hp
  obtain ⟨a, ha⟩ := Option.isSome_iff_exists.1
    ((shelf.pick_kind r).2 (Key.lead_isPrefixOf_bytes.1 hlead))
  obtain rfl := (shelf.pick_iff r a).1 ha
  refine ⟨a, ?_, hr⟩
  rw [Holds, hk, hv]
  exact h

/-- What one store has under a key of history, every store that extends it has. -/
theorem Extends.get? (he : Extends s' s) (hs : s.Sound) {key value : Bytes}
    (hk : Unspent.IsHistory key) (h : Unspent.space.get? s key = some value) :
    Unspent.space.get? s' key = some value := by
  have keeps : ∀ r : Record, s'.Holds r → r.entry = (Unspent.space.full key, value) →
      Unspent.space.get? s' key = some value := by
    intro r hr hentry
    obtain ⟨hkey, hvalue⟩ := Prod.mk.inj hentry
    rw [Namespace.get?, ← hkey, ← hvalue]
    exact hr
  rcases hk with hp | hp
  · obtain ⟨output, hheld, hentry⟩ := hs.holds_of_get? Store.accountShelf hp h
    exact keeps _ (he.account output hheld) hentry
  · obtain ⟨t, hheld, hentry⟩ := hs.holds_of_get? Store.transactionShelf hp h
    exact keeps _ (he.transaction t hheld) hentry

/-! ## Accepted transactions -/

theorem Store.Holds.getTransaction {t : Transaction} (h : s.Holds (.transaction t)) :
    Unspent.getTransaction s t.hash = .ok t := by
  have hl : Unspent.space.load Transaction.codec s (Unspent.transactionKey t.hash) =
      .ok (some t) := h.load Store.transactionShelf rfl
  rw [Unspent.getTransaction, hl]

theorem Effect.holds_transaction {rules : Rules} {block : Block} {c c' : Custody}
    {m : Unspent.Spend} (he : Effect rules block c (.spend m) c') :
    c'.store.Holds (.transaction m.tx) := by
  cases he
  exact Unspent.holds_transaction_applied _ _ _

theorem Intact.hash_new {rules : Rules} {block : Block} {c c' : Custody} {m : Unspent.Spend}
    (h : Intact ts c.store) (hd : Distinct (m.tx :: ts)) (he : Effect rules block c (.spend m) c')
    {t : Transaction} (ht : c.store.Holds (.transaction t)) : m.tx.hash ≠ t.hash := by
  cases he with
  | spend valid only canonical live owned even authorized =>
    exact (h.fresh hd only live ht).symm

namespace Ledger

variable {rules : Rules} {ops : List Operation} {k : Nat}

/-- In every run in which only transactions of one layout share a hash, and none has too many outputs:
a value under a key of history stays, byte for byte, in every later state; and once a transaction has been
accepted, its hash leads to it, with the witnesses it was accepted with, in every later state, and no
transaction of that hash is accepted again. -/
theorem history_permanent (rules : Rules) (ops : List Operation) (hd : Distinct (transactions ops))
    (hb : Bounded (transactions ops)) :
    (∀ i k key value, i ≤ k → Unspent.IsHistory key →
      Unspent.space.get? (stateAt rules ops i).store key = some value →
      Unspent.space.get? (stateAt rules ops k).store key = some value) ∧
    (∀ i m, acceptedAt? rules ops i = some (.spend m) → ∀ k, i < k →
      Unspent.space.get? (stateAt rules ops k).store (Unspent.transactionKey m.tx.hash) =
        some (Transaction.codec.encode m.tx) ∧
      query (.getTransaction m.tx.hash) (stateAt rules ops k) = .ok (.transaction m.tx) ∧
      ∀ m', acceptedAt? rules ops k = some (.spend m') → m'.tx.hash ≠ m.tx.hash) := by
  refine ⟨?_, ?_⟩
  · intro i k key value hik hk h
    exact (extends_stateAt rules hd hb hik).get? (sound_stateAt rules ops i) hk h
  · intro i m haccepted k hik
    obtain ⟨block, heffect⟩ := effect_of_acceptedAt? haccepted
    have hheld : (stateAt rules ops k).store.Holds (.transaction m.tx) :=
      (extends_stateAt rules hd hb hik).transaction _ heffect.holds_transaction
    refine ⟨hheld, ?_, ?_⟩
    · rw [query, Query.answer, hheld.getTransaction]
      rfl
    · intro m' haccepted'
      obtain ⟨block', heffect'⟩ := effect_of_acceptedAt? haccepted'
      have hmem : m'.tx ∈ transactions ops :=
        mem_transactions_of_acceptedAt? haccepted' (List.mem_singleton.2 rfl)
      have hd' : Distinct (m'.tx :: transactions ops) :=
        hd.mono (List.cons_subset.2 ⟨hmem, List.Subset.refl _⟩)
      exact (intact_stateAt rules hd hb k).hash_new hd' heffect' hheld

/-- What Alice was born and what she paid Bob stay on record, whatever comes after. -/
theorem history_permanent_sample :
    Distinct (transactions Sample.ops) ∧ Bounded (transactions Sample.ops) ∧
    (∃ value, ∀ k, 3 ≤ k → Unspent.space.get? (stateAt {} Sample.ops k).store
      (Unspent.accountKey Sample.point.source) = some value) ∧
    acceptedAt? {} Sample.ops 3 = some (.spend Sample.payment) ∧
    ∀ k, 3 < k → query (.getTransaction Sample.payment.tx.hash) (stateAt {} Sample.ops k) =
      .ok (.transaction Sample.payment.tx) := by
  obtain ⟨values, spends⟩ := history_permanent {} Sample.ops distinct_sample bounded_sample
  have hborn : (Unspent.space.get? (stateAt {} Sample.ops 3).store
        (Unspent.accountKey Sample.point.source)).isSome = true ∧
      acceptedAt? {} Sample.ops 3 = some (.spend Sample.payment) := by decide +kernel
  obtain ⟨hborn, hpaid⟩ := hborn
  obtain ⟨value, hvalue⟩ := Option.isSome_iff_exists.1 hborn
  refine ⟨distinct_sample, bounded_sample, ⟨value, fun k hk => ?_⟩, hpaid, fun k hk => ?_⟩
  · exact values 3 k _ value hk (Unspent.isHistory_accountKey _) hvalue
  · exact (spends 3 Sample.payment hpaid k hk).2.1

end Ledger

end Settlement
