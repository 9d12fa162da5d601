import Settlement.Proofs.Permanence
import Settlement.Proofs.Wallet

/-!
# Listings are in order

A listing goes through the store in the order of its keys, and keys are text: a path that all records of a
kind share, then the digits of a digest, and for an outpoint a colon and the index. Digits in one case come in
the order of their values, so the digits of byte strings are ordered as the byte strings are
(`Hex.compare_encode`), and all digests have the same number of them. So what is listed is in the order of the
digests, and none of it depends on what was delivered.

Results:
* `Store.ascending_pick`: the records of a kind ascend by what their keys have behind the path.
* `Ledger.listings_ordered`: after every run account outputs and transactions strictly ascend by digest,
  outpoints ascend by source without one of them twice, and the listings name what look-ups find.
-/
namespace Settlement

/-! ## Digits -/

namespace Hex

theorem compare_digit (case : Case) {m n : Nat} (hm : m < 16) (hn : n < 16) :
    compare (digit case m) (digit case n) = compare m n := by
  have all : ∀ m, m < 16 → ∀ n, n < 16 →
      compare (digit case m) (digit case n) = compare m n := by
    cases case <;> decide
  exact all m hm n hn

/-- Bytes compare by their high halves and then by their low ones. -/
theorem compare_halves (a b : UInt8) :
    compare a b =
      (compare (a.toNat / 16) (b.toNat / 16)).then (compare (a.toNat % 16) (b.toNat % 16)) := by
  have number : compare a b = compare a.toNat b.toNat := by
    simp only [compare, compareOfLessAndEq, UInt8.lt_iff_toNat_lt, ← UInt8.toNat_inj]
  rw [number]
  grind [Ordering.then, Nat.compare_eq_ite_lt]

/-- The digits of byte strings are in the order of the byte strings. -/
theorem compare_encode (case : Case) (a b : Bytes) :
    compare (encode case a) (encode case b) = compare a b := by
  induction a generalizing b with
  | nil => cases b <;> rfl
  | cons x a ih =>
    cases b with
    | nil => rfl
    | cons y b =>
      have hx := x.toNat_lt
      have hy := y.toNat_lt
      rw [encode, encode, compare_cons_cons, compare_cons_cons, compare_cons_cons, ih,
        compare_digit case (by omega) (by omega), compare_digit case (by omega) (by omega),
        compare_halves x y, Ordering.then_assoc]

end Hex

theorem Digest.compare_digits (a b : Digest) : compare a.digits b.digits = compare a b :=
  Hex.compare_encode .upper a.bytes b.bytes

/-- Texts that begin with different digests of one length are told apart by these. -/
theorem compare_append_of_length {a b : Bytes} (h : a.length = b.length) (x y : Bytes) :
    compare (a ++ x) (b ++ y) = (compare a b).then (compare x y) := by
  induction a generalizing b with
  | nil =>
    obtain rfl := List.length_eq_zero_iff.1 h.symm
    rfl
  | cons c a ih =>
    obtain ⟨d, b, rfl⟩ := List.exists_cons_of_length_eq_add_one h.symm
    rw [List.cons_append, List.cons_append, compare_cons_cons, compare_cons_cons,
      ih (Nat.succ.inj h), Ordering.then_assoc]

theorem OutPoint.source_le {p q : OutPoint} (h : compare p.keyBytes q.keyBytes = .lt) :
    (compare p.source q.source).isLE := by
  rw [keyBytes, keyBytes, compare_append_of_length
    (p.source.length_digits.trans q.source.length_digits.symm), Digest.compare_digits] at h
  cases hc : compare p.source q.source with
  | lt => rfl
  | eq => rfl
  | gt =>
    rw [hc] at h
    cases h

/-! ## Records in the order of their keys -/

namespace Store

variable {s : Store}

/-- The records of a kind ascend by what their keys have behind the path. -/
theorem ascending_pick {α : Type} (s : Store) (shelf : Shelf α) :
    (s.records.filterMap shelf.pick).Pairwise fun a b =>
      compare (shelf.wrap a).key.tail (shelf.wrap b).key.tail = .lt := by
  have kind : ∀ a, (shelf.wrap a).key.kind = shelf.kind := fun a =>
    (shelf.pick_kind _).1 (Option.isSome_of_eq_some ((shelf.pick_iff _ a).2 rfl))
  refine List.Pairwise.filterMap shelf.pick ?_ s.ascending_records
  intro r q hrq a ha b hb
  obtain rfl := (shelf.pick_iff r a).1 ha
  obtain rfl := (shelf.pick_iff q b).1 hb
  rwa [Key.bytes_eq, Key.bytes_eq, kind, kind, compare_append_left] at hrq

theorem ascending_accounts (s : Store) :
    (s.records.filterMap accountShelf.pick).Pairwise fun a b => compare a.id b.id = .lt := by
  refine (s.ascending_pick accountShelf).imp fun {a b} h => ?_
  rwa [← Digest.compare_digits]

theorem ascending_transactions (s : Store) :
    (s.records.filterMap transactionShelf.pick).Pairwise fun t u =>
      compare t.hash u.hash = .lt := by
  refine (s.ascending_pick transactionShelf).imp fun {a b} h => ?_
  rwa [← Digest.compare_digits]

theorem ascending_points (s : Store) :
    (s.records.filterMap pointShelf.pick).Pairwise fun p q =>
      (compare p.source q.source).isLE :=
  (s.ascending_pick pointShelf).imp OutPoint.source_le

/-- A look-up of a hash finds the transaction on record that has it, and nothing else. -/
theorem Sound.getTransaction_ok_iff (hs : s.Sound) {hash : Digest} {t : Transaction} :
    Unspent.getTransaction s hash = .ok t ↔ s.Holds (.transaction t) ∧ t.hash = hash := by
  constructor
  · intro h
    rw [Unspent.getTransaction] at h
    split at h
    · cases h
    · cases h
    · next found =>
      cases h
      obtain ⟨hk, held⟩ := hs.of_load transactionShelf (k := .transaction hash) rfl rfl found
      exact ⟨held, Key.transaction.inj hk⟩
  · rintro ⟨held, rfl⟩
    exact held.getTransaction

theorem Sound.listTransactions (hs : s.Sound) : Unspent.listTransactions s =
    .ok ((s.records.filterMap transactionShelf.pick).map fun t => (t.hash, t)) := by
  have hl : Unspent.space.loadAll Transaction.codec s Unspent.transactionKeys =
      .ok (s.listed transactionShelf) := hs.loadAll_eq transactionShelf
  rw [Unspent.listTransactions, hl, Except.map]
  exact congrArg Except.ok (s.map_listed transactionShelf fun t => (t.hash, t))

end Store

/-! ## Listings -/

/-- The answers to the three listings of a ledger, each in the order of its digests, and each with what
look-ups find. -/
structure Ledger.Ordered (l : Ledger) (outputs : List Unspent.AccountOutput)
    (transactions : List (Digest × Transaction)) (points : List OutPoint) : Prop where
  list_outputs : query .listAccountOutputs l = .ok (.accountOutputs outputs)
  outputs_ascend : outputs.Pairwise fun a b => compare a.id b.id = .lt
  list_transactions : query .listTransactions l = .ok (.transactions transactions)
  transactions_ascend : transactions.Pairwise fun a b => compare a.1 b.1 = .lt
  transaction_found : ∀ hash t, (hash, t) ∈ transactions ↔
    query (.getTransaction hash) l = .ok (.transaction t)
  list_points : query .listOutPoints l = .ok (.outPoints points)
  points_nodup : points.Nodup
  points_ascend : points.Pairwise fun p q => (compare p.source q.source).isLE
  point_live : ∀ p, p ∈ points ↔ l.Live p

theorem Ledger.query_getTransaction_ok_iff {l : Ledger} {hash : Digest} {t : Transaction} :
    query (.getTransaction hash) l = .ok (.transaction t) ↔
      Unspent.getTransaction l.store hash = .ok t := by
  rw [query, Query.answer, mapError_eq_ok_iff]
  cases Unspent.getTransaction l.store hash <;> simp [Except.map]

theorem Ledger.ordered_of_sound {l : Ledger} (hs : l.store.Sound) :
    l.Ordered (l.store.records.filterMap Store.accountShelf.pick)
      ((l.store.records.filterMap Store.transactionShelf.pick).map fun t => (t.hash, t))
      (Unspent.livePoints l.store) where
  list_outputs := by
    rw [query, Query.answer, hs.listAccountOutputs]
    rfl
  outputs_ascend := l.store.ascending_accounts
  list_transactions := by
    rw [query, Query.answer, hs.listTransactions]
    rfl
  transactions_ascend := List.pairwise_map.2 l.store.ascending_transactions
  transaction_found hash t := by
    rw [query_getTransaction_ok_iff, hs.getTransaction_ok_iff, List.mem_map]
    constructor
    · rintro ⟨u, held, he⟩
      cases he
      exact ⟨(Store.mem_pick Store.transactionShelf).1 held, rfl⟩
    · rintro ⟨held, rfl⟩
      exact ⟨t, (Store.mem_pick Store.transactionShelf).2 held, rfl⟩
  list_points := by
    rw [query, Query.answer, hs.listOutPoints]
    rfl
  points_nodup := l.store.nodup_pick Store.pointShelf
  points_ascend := l.store.ascending_points
  point_live p := by
    rw [Unspent.mem_livePoints, Ledger.Live, hs.has_point]

/-- After every run, whatever was delivered, the listings answer: account outputs strictly ascend by id;
transactions strictly ascend by hash, and a hash stands there with a transaction exactly if that is what a
look-up of the hash finds; outpoints stand there once each, by ascending source, and are the live ones. -/
theorem Ledger.listings_ordered (rules : Rules) (ops : List Operation) :
    ∃ outputs transactions points, (run rules ops).Ordered outputs transactions points :=
  ⟨_, _, _, ordered_of_sound (sound_run rules ops)⟩

end Settlement
