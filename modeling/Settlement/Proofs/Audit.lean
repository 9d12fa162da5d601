import Settlement.Proofs.DoubleSpend
import Settlement.Proofs.Conservation

/-!
# The unspent outputs audit themselves

The two tables of history, account outputs and transactions, say by themselves which outpoints are live,
so the third table can be checked against them. `Intact` says so of the records. What an audit has to know
beyond that is about each transaction on record: it is the only one that spends its outpoint, and its
outputs come to what that outpoint resolves to (`Accounted`). Both hold when a transaction is accepted, as
the outpoint is live then, and last because history only grows.

Results:
* `Effect.transaction_cases`: where a transaction on record comes from.
* `Effect.accounted`: an accepted message keeps the transactions accounted for.
* `Ledger.unspent_audit`: in every state of a run the three tables agree.
-/
namespace Settlement

open Unspent (AccountOutput)

variable {s s' : Store} {ts : List Transaction}

/-! ## Transactions on record -/

/-- Each transaction is the only one to spend its outpoint, and is worth what that resolves to. -/
structure Accounted (s : Store) : Prop where
  apart : ∀ t u i j, s.Holds (.transaction t) → s.Holds (.transaction u) → t.inputs = [i] →
    u.inputs = [j] → i.point = j.point → t = u
  even : ∀ t input, s.Holds (.transaction t) → t.inputs = [input] →
    ∃ value owner, Unspent.resolve s input.point = .ok (value, owner) ∧ t.outputValue? = some value

theorem accounted_empty : Accounted .empty where
  apart _ _ _ _ ht := absurd ht Store.holds_empty
  even _ _ ht := absurd ht Store.holds_empty

theorem Message.transactions_unique {m : Message} {t u : Transaction} (ht : t ∈ m.transactions)
    (hu : u ∈ m.transactions) : t = u := by
  cases m with
  | spend m =>
    simp only [Message.transactions, List.mem_singleton] at ht hu
    rw [ht, hu]
  | _ => cases ht

section

variable {rules : Rules} {block : Block} {c c' : Custody} {m : Message}

/-- A transaction that is on record after a message was on record before, or the message has spent a live
outpoint by it that was worth its outputs. -/
theorem Effect.transaction_cases (he : Effect rules block c m c') (h : Intact ts c.store)
    (hd : Distinct (m.transactions ++ ts)) {t : Transaction}
    (ht : c'.store.Holds (.transaction t)) :
    c.store.Holds (.transaction t) ∨ t ∈ m.transactions ∧ ∃ input value owner,
      t.inputs = [input] ∧ c.store.Holds (.point input.point) ∧
      Unspent.resolve c.store input.point = .ok (value, owner) ∧ t.outputValue? = some value := by
  have hframe := fun (hb : m.route ≠ .birth) (hs : m.route ≠ .spend) =>
    (he.frame hb hs (r := .transaction t) (by simp [Record.key, Key.kind])
      (by simp [Record.key, Key.kind])).1 ht
  cases he with
  | birth valid denom born fresh paid => exact .inl (transaction_birth.1 ht)
  | @spend m input value valid only canonical live owned even authorized =>
    have hf := fun u hu => h.fresh hd only live (u := u) hu
    rcases (Unspent.transaction_applyTransaction hf).1 ht with rfl | ht
    · exact .inr ⟨by simp [Message.transactions], input, value, m.signer, only, live, owned, even⟩
    · exact .inl ht
  | _ => exact .inl (hframe (by simp [Message.route]) (by simp [Message.route]))

theorem Effect.accounted (he : Effect rules block c m c') (h : Intact ts c.store)
    (ha : Accounted c.store) (hd : Distinct (m.transactions ++ ts)) (hb : Bounded ts) :
    Accounted c'.store := by
  have hext := he.extends h hd
  -- an outpoint that is live has not been spent by a transaction on record
  have hlive : ∀ (p : OutPoint) (u : Transaction) (j : Input), c.store.Holds (.point p) →
      c.store.Holds (.transaction u) → u.inputs = [j] → p ≠ j.point := by
    intro p u j hp hu hj he
    exact ((h.live_iff p).1 hp).2 ⟨u, hu, j, hj, he.symm⟩
  constructor
  · intro t u i j ht hu hi hj hij
    rcases he.transaction_cases h hd ht with ht | ⟨htm, i', _, _, hi', hp, _, _⟩
    · rcases he.transaction_cases h hd hu with hu | ⟨_, j', _, _, hj', hp, _, _⟩
      · exact ha.apart t u i j ht hu hi hj hij
      · rw [hj, List.cons.injEq] at hj'
        rw [← hj'.1] at hp
        exact absurd hij.symm (hlive j.point t i hp ht hi)
    · rcases he.transaction_cases h hd hu with hu | ⟨hum, _⟩
      · rw [hi, List.cons.injEq] at hi'
        rw [← hi'.1] at hp
        exact absurd hij (hlive i.point u j hp hu hj)
      · exact Message.transactions_unique htm hum
  · intro t input ht hi
    rcases he.transaction_cases h hd ht with ht | ⟨_, i, value, owner, hi', hp, hr, hv⟩
    · obtain ⟨value, owner, hr, hv⟩ := ha.even t input ht hi
      have hc : Created c.store input.point :=
        h.created_of_consumed input.point ⟨t, ht, input, hi, rfl⟩
      exact ⟨value, owner, by rw [h.resolve_extends hb hext hc, hr], hv⟩
    · rw [hi, List.cons.injEq] at hi'
      rw [← hi'.1] at hp hr
      exact ⟨value, owner, by rw [h.resolve_extends hb hext (h.created_of_live hp), hr], hv⟩

end

theorem accounted_run (rules : Rules) {ops : List Operation} (hd : Distinct ts) (hb : Bounded ts)
    (hts : ∀ t ∈ Ledger.transactions ops, t ∈ ts) : Accounted (Ledger.run rules ops).store :=
  intact_store_run rules hd hb hts accounted_empty fun effect hi hdm _ ha =>
    effect.accounted hi ha hdm hb

/-! ## The audit -/

/-- The three tables of the unspent outputs agree, each given as its records under their keys. -/
structure Unspent.Audited (s : Store) (accounts : List (Bytes × AccountOutput))
    (transactions : List (Bytes × Transaction)) (points : List (Bytes × OutPoint)) : Prop where
  /-- An account output lies under its id. -/
  account_key : ∀ e ∈ accounts, e.1 = accountKeys ++ Text.utf8 e.2.id.text
  /-- A transaction lies under its hash. -/
  transaction_key : ∀ e ∈ transactions, e.1 = transactionKeys ++ Text.utf8 e.2.hash.text
  /-- A live outpoint lies under its text. -/
  point_key : ∀ e ∈ points, e.1 = outPointKeys ++ Text.utf8 e.2.text
  canonical : ∀ e ∈ transactions, e.2.isCanonical = true
  single : ∀ e ∈ transactions, ∃ input, e.2.inputs = [input]
  outputs : ∀ e ∈ transactions, e.2.outputs ≠ []
  /-- No outpoint is spent by two transactions. -/
  apart : (transactions.map fun e => e.2.inputs.map Input.point).Nodup
  /-- The outputs of a transaction come to what its outpoint resolves to. -/
  even : ∀ e ∈ transactions, ∀ input ∈ e.2.inputs, ∃ value owner,
    resolve s input.point = .ok (value, owner) ∧
      (e.2.outputs.map fun o => o.value.toNat).sum = value.toNat
  /-- Live is what was created, by a birth or as an output, and not spent. -/
  live_iff : ∀ p, p ∈ points.map Prod.snd ↔
    ((∃ e ∈ accounts, p.source = e.2.id ∧ p.index.toInt = -1) ∨
      ∃ e ∈ transactions, ∃ i, i < e.2.outputs.length ∧ p.source = e.2.hash ∧
        p.index.toInt = (i : Int)) ∧
    ∀ e ∈ transactions, ∀ input ∈ e.2.inputs, input.point ≠ p

theorem OutPoint.eq_ofBirth_iff {p : OutPoint} {id : Digest} :
    p = .ofBirth id ↔ p.source = id ∧ p.index.toInt = -1 := by
  have hb : OutPoint.birthIndex.toInt = -1 := by decide
  rw [← hb, Int32.toInt_inj]
  cases p
  simp [OutPoint.ofBirth]

theorem OutPoint.eq_output_iff {p : OutPoint} {hash : Digest} {i : Nat} (h : i < Nat.pow 2 31) :
    p = ⟨hash, Int32.ofNat i⟩ ↔ p.source = hash ∧ p.index.toInt = (i : Int) := by
  rw [← toInt_ofNat h, Int32.toInt_inj]
  cases p
  simp

theorem Intact.created_iff (h : Intact ts s) (hb : Bounded ts) (p : OutPoint) :
    Created s p ↔
      (∃ output, s.Holds (.account output) ∧ p.source = output.id ∧ p.index.toInt = -1) ∨
        ∃ t, s.Holds (.transaction t) ∧ ∃ i, i < t.outputs.length ∧ p.source = t.hash ∧
          p.index.toInt = (i : Int) := by
  have hindex : ∀ t i, s.Holds (.transaction t) → i < t.outputs.length → i < Nat.pow 2 31 :=
    fun t i ht hi => Nat.lt_of_lt_of_le hi (hb t (h.known t ht))
  constructor
  · intro hc
    cases hc with
    | @birth output held => exact .inl ⟨output, held, OutPoint.eq_ofBirth_iff.1 rfl⟩
    | @output t i held hi =>
      exact .inr ⟨t, held, i, hi, (OutPoint.eq_output_iff (hindex t i held hi)).1 rfl⟩
  · rintro (⟨output, held, hp⟩ | ⟨t, held, i, hi, hp⟩)
    · rw [OutPoint.eq_ofBirth_iff.2 hp]
      exact .birth held
    · rw [(OutPoint.eq_output_iff (hindex t i held hi)).2 hp]
      exact .output held hi

/-- While the history is intact and its transactions are accounted for, the tables agree. -/
theorem Intact.audited (h : Intact ts s) (ha : Accounted s) (hb : Bounded ts) :
    Unspent.Audited s (s.listed Store.accountShelf) (s.listed Store.transactionShelf)
      (s.listed Store.pointShelf) where
  account_key := by
    refine Store.forall_listed Store.accountShelf fun output _ => ?_
    rw [Digest.utf8_text]
    exact Store.accountShelf.localKey_eq rfl
  transaction_key := by
    refine Store.forall_listed Store.transactionShelf fun t _ => ?_
    rw [Digest.utf8_text]
    exact Store.transactionShelf.localKey_eq rfl
  point_key := by
    refine Store.forall_listed Store.pointShelf fun p _ => ?_
    rw [OutPoint.utf8_text]
    exact Store.pointShelf.localKey_eq rfl
  canonical := Store.forall_listed Store.transactionShelf fun t ht => (h.settled t ht).canonical
  single := Store.forall_listed Store.transactionShelf fun t ht => (h.settled t ht).single
  outputs := Store.forall_listed Store.transactionShelf fun t ht => (h.settled t ht).outputs
  apart := by
    rw [s.map_listed Store.transactionShelf fun t => t.inputs.map Input.point, List.Nodup,
      List.pairwise_map]
    refine List.Pairwise.imp_of_mem ?_ (s.nodup_pick Store.transactionShelf)
    intro t u ht hu hne he
    have ht := (Store.mem_pick Store.transactionShelf).1 ht
    have hu := (Store.mem_pick Store.transactionShelf).1 hu
    obtain ⟨i, hi⟩ := (h.settled t ht).single
    obtain ⟨j, hj⟩ := (h.settled u hu).single
    rw [hi, hj, List.map_cons, List.map_cons, List.cons.injEq] at he
    exact hne (ha.apart t u i j ht hu hi hj he.1)
  even := by
    refine Store.forall_listed Store.transactionShelf fun t ht => ?_
    intro input hi
    obtain ⟨only, ho⟩ := (h.settled t ht).single
    rw [ho, List.mem_singleton] at hi
    subst hi
    obtain ⟨value, owner, hr, hv⟩ := ha.even t input ht ho
    exact ⟨value, owner, hr, outputValue?_eq_some_iff.1 hv⟩
  live_iff p := by
    rw [Store.map_snd_listed, Store.mem_pick]
    -- created is what a listed record accounts for, not consumed what no listed transaction spends
    refine (h.live_iff p).trans (and_congr ?_ ?_)
    · rw [h.created_iff hb]
      exact or_congr (Store.exists_listed Store.accountShelf).symm
        (Store.exists_listed Store.transactionShelf).symm
    · constructor
      · intro hp
        refine Store.forall_listed Store.transactionShelf fun t ht input hi he => ?_
        obtain ⟨only, ho⟩ := (h.settled t ht).single
        rw [ho, List.mem_singleton] at hi
        exact hp ⟨t, ht, only, ho, hi ▸ he⟩
      · rintro hp ⟨t, ht, input, hi, he⟩
        exact hp _ ((Store.mem_listed Store.transactionShelf).2 ⟨ht, rfl⟩) input (by simp [hi]) he

namespace Ledger

/-- In every state of a run the three tables are listed, and they agree. -/
theorem unspent_audit (rules : Rules) (ops : List Operation) (hd : Distinct (transactions ops))
    (hb : Bounded (transactions ops)) :
    ∃ accounts transactions points,
      Unspent.space.loadAll AccountOutput.codec (run rules ops).store Unspent.accountKeys =
        .ok accounts ∧
      Unspent.space.loadAll Transaction.codec (run rules ops).store Unspent.transactionKeys =
        .ok transactions ∧
      Unspent.space.loadAll OutPoint.codec (run rules ops).store Unspent.outPointKeys = .ok points ∧
      Unspent.Audited (run rules ops).store accounts transactions points := by
  have hi : Intact (transactions ops) (run rules ops).store := intact_run rules hd hb fun _ ht => ht
  have ha : Accounted (run rules ops).store := accounted_run rules hd hb fun _ ht => ht
  have hs : (run rules ops).store.Sound := hi.sound
  exact ⟨_, _, _, hs.loadAll_eq Store.accountShelf, hs.loadAll_eq Store.transactionShelf,
    hs.loadAll_eq Store.pointShelf, hi.audited ha hb⟩

/-- Once Alice has paid Bob, one birth and one transaction account for the two live outpoints. -/
theorem unspent_audit_sample :
    Distinct (transactions Sample.ops) ∧ Bounded (transactions Sample.ops) ∧
    ∃ accounts transactions points,
      Unspent.Audited (run {} Sample.ops).store accounts transactions points ∧
      accounts.length = 1 ∧ transactions.map (fun e => e.2.hash) = [Sample.payment.tx.hash] ∧
      points.length = 2 := by
  obtain ⟨accounts, transactions, points, ha, ht, hp, audited⟩ :=
    unspent_audit {} Sample.ops distinct_sample bounded_sample
  refine ⟨distinct_sample, bounded_sample, accounts, transactions, points, audited, ?_⟩
  have hsizes : (Unspent.space.loadAll AccountOutput.codec (run {} Sample.ops).store
        Unspent.accountKeys).map List.length = .ok 1 ∧
      (Unspent.space.loadAll Transaction.codec (run {} Sample.ops).store
        Unspent.transactionKeys).map (fun l => l.map fun e => e.2.hash) =
          .ok [Sample.payment.tx.hash] ∧
      (Unspent.space.loadAll OutPoint.codec (run {} Sample.ops).store
        Unspent.outPointKeys).map List.length = .ok 2 := by decide +kernel
  simpa only [ha, ht, hp, Except.map, Except.ok.injEq] using hsizes

end Ledger

end Settlement
