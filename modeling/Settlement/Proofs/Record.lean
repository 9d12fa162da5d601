import Settlement.Proofs.Key
import Settlement.Proofs.Listing
import Settlement.Proofs.Sum

/-!
# The records in the store

The handlers see bytes under keys. What those bytes say is a record of one of five kinds, and its key
follows from what it says. A store is sound if every entry is the written form of a record under that
record's key. Handlers keep it so, because all they do is write records and remove keys; and in a sound
store every look-up and every listing succeeds.

Results:
* `Record.entry_injective`: the bytes under a key say which record is there.
* `holds_write`, `holds_remove`: which records an update leaves.
* `Sound.load`, `Sound.loadAll`: what look-ups and listings find in a sound store.
* `total_write_new`, `total_write_over`, `total_remove`: a sum over all records before and after an update.
* `total_write_le`, `total_remove_le`: the same whatever was there before.
-/
namespace Settlement

open Unspent (AccountOutput)

/-- What an entry of the store says. -/
inductive Record
  | account (output : AccountOutput)
  | transaction (t : Transaction)
  | point (p : OutPoint)
  | contract (c : HashLock.Contract)
  | escrow (c : Escrow.Contract)
  deriving DecidableEq

namespace Record

def key : Record → Key
  | account output => .account output.id
  | transaction t => .transaction t.hash
  | point p => .point p
  | contract c => .contract c.hash
  | escrow c => .escrow c.id

def bytes : Record → Bytes
  | account output => AccountOutput.codec.encode output
  | transaction t => Transaction.codec.encode t
  | point p => OutPoint.codec.encode p
  | contract c => HashLock.Contract.codec.encode c
  | escrow c => Escrow.Contract.codec.encode c

def entry (r : Record) : Bytes × Bytes := (r.key.bytes, r.bytes)

/-- The bytes under a key say which record is there. -/
theorem eq_of_kind_of_bytes {a b : Record} (hk : a.key.kind = b.key.kind) (hb : a.bytes = b.bytes) :
    a = b := by
  cases a <;> cases b <;> simp only [key, Key.kind, reduceCtorEq] at hk
  · rw [AccountOutput.codec_faithful.encode_injective hb]
  · rw [Transaction.codec_faithful.encode_injective hb]
  · rw [OutPoint.codec_faithful.encode_injective hb]
  · rw [HashLock.Contract.codec_faithful.encode_injective hb]
  · rw [Escrow.Contract.codec_faithful.encode_injective hb]

theorem entry_injective {a b : Record} (h : a.entry = b.entry) : a = b := by
  obtain ⟨hk, hb⟩ := Prod.mk.inj h
  exact eq_of_kind_of_bytes (congrArg Key.kind (Key.bytes_injective hk)) hb

/-- The record of a live outpoint says nothing but which outpoint it is. -/
theorem eq_point_of_key {r : Record} {p : OutPoint} (h : r.key = .point p) : r = .point p := by
  have hk := congrArg Key.kind h
  cases r with
  | point q => rw [Key.point.inj h]
  | _ => cases hk

theorem eq_transaction_of_key {r : Record} {hash : Digest} (h : r.key = .transaction hash) :
    ∃ t, r = .transaction t := by
  have hk := congrArg Key.kind h
  cases r with
  | transaction t => exact ⟨t, rfl⟩
  | _ => cases hk

/-- The records that bytes can be read as, whatever key they are under. -/
def candidates (value : Bytes) : List Record :=
  ((AccountOutput.codec.decode value).toOption.map account).toList ++
    ((Transaction.codec.decode value).toOption.map transaction).toList ++
    ((OutPoint.codec.decode value).toOption.map point).toList ++
    ((HashLock.Contract.codec.decode value).toOption.map contract).toList ++
    ((Escrow.Contract.codec.decode value).toOption.map escrow).toList

/-- The record that an entry is the written form of. -/
def ofEntry? (e : Bytes × Bytes) : Option Record :=
  (candidates e.2).find? fun r => r.entry = e

theorem mem_candidates (r : Record) : r ∈ candidates r.bytes := by
  cases r <;>
    simp only [candidates, bytes, AccountOutput.codec_faithful.decode_encode,
      Transaction.codec_faithful.decode_encode, OutPoint.codec_faithful.decode_encode,
      HashLock.Contract.codec_faithful.decode_encode, Escrow.Contract.codec_faithful.decode_encode,
      Except.toOption, Option.map_some, Option.toList_some, List.mem_append, List.mem_singleton,
      true_or, or_true]

theorem ofEntry?_eq_some_iff {e : Bytes × Bytes} {r : Record} :
    ofEntry? e = some r ↔ r.entry = e := by
  unfold ofEntry?
  constructor
  · intro h
    have hr := List.find?_some h
    exact of_decide_eq_true hr
  · rintro rfl
    cases h : (candidates r.entry.2).find? fun q => q.entry = r.entry with
    | none =>
      have := List.find?_eq_none.1 h r (mem_candidates r)
      exact absurd (decide_eq_true rfl) this
    | some q =>
      have hq := List.find?_some h
      rw [entry_injective (of_decide_eq_true hq)]

end Record

namespace Store

/-- A record lies in the store, under its key. -/
def Holds (s : Store) (r : Record) : Prop := s.get? r.key.bytes = some r.bytes

/-- Every entry is the written form of a record. -/
def Sound (s : Store) : Prop :=
  ∀ key value, s.get? key = some value → ∃ r : Record, r.entry = (key, value)

def write (s : Store) (r : Record) : Store := s.insert r.key.bytes r.bytes

def remove (s : Store) (k : Key) : Store := s.erase k.bytes

/-- The records, in the order of their keys. -/
def records (s : Store) : List Record := s.entries.filterMap Record.ofEntry?

variable {s : Store} {r q : Record}

/-! ## What is there -/

theorem Holds.unique (hr : s.Holds r) (hq : s.Holds q) (h : r.key = q.key) : r = q := by
  unfold Holds at hr hq
  rw [h, hq, Option.some.injEq] at hr
  exact Record.eq_of_kind_of_bytes (congrArg Key.kind h) hr.symm

/-- Under a key a sound store has nothing or a record of that key. -/
theorem Sound.get? (hs : s.Sound) (k : Key) :
    s.get? k.bytes = none ∨ ∃ r : Record, r.key = k ∧ s.Holds r := by
  cases h : Table.get? s k.bytes with
  | none => exact .inl rfl
  | some value =>
    obtain ⟨r, hr⟩ := hs _ _ h
    obtain ⟨hk, hv⟩ := Prod.mk.inj hr
    refine .inr ⟨r, Key.bytes_injective hk, ?_⟩
    rw [Holds, hk, hv, h]

theorem Sound.get?_eq_none (hs : s.Sound) {k : Key} (h : ∀ r, s.Holds r → r.key ≠ k) :
    s.get? k.bytes = none := by
  cases hs.get? k with
  | inl hn => exact hn
  | inr hr =>
    obtain ⟨r, hk, hr⟩ := hr
    exact absurd hk (h r hr)

theorem Sound.get?_point (hs : s.Sound) {p : OutPoint} (h : ¬ s.Holds (.point p)) :
    s.get? (Key.point p).bytes = none := by
  refine hs.get?_eq_none fun r hr hk => ?_
  rw [Record.eq_point_of_key hk] at hr
  exact h hr

theorem Sound.get?_transaction (hs : s.Sound) {hash : Digest}
    (hf : ∀ u, s.Holds (.transaction u) → u.hash ≠ hash) :
    s.get? (Key.transaction hash).bytes = none := by
  refine hs.get?_eq_none fun r hr hk => ?_
  obtain ⟨u, rfl⟩ := Record.eq_transaction_of_key hk
  exact hf u hr (Key.transaction.inj hk)

theorem not_holds_of_none {k : Key} (h : s.get? k.bytes = none) (hk : r.key = k) : ¬ s.Holds r := by
  subst hk
  intro hr
  rw [hr] at h
  cases h

theorem mem_records_iff : r ∈ s.records ↔ s.Holds r := by
  constructor
  · intro h
    obtain ⟨e, he, hr⟩ := List.mem_filterMap.1 h
    rw [Record.ofEntry?_eq_some_iff] at hr
    subst hr
    exact Table.mem_entries_iff.1 he
  · intro h
    exact List.mem_filterMap.2
      ⟨r.entry, Table.mem_entries_iff.2 h, Record.ofEntry?_eq_some_iff.2 rfl⟩

theorem Sound.entries_eq (hs : s.Sound) : s.entries = s.records.map Record.entry := by
  have all : ∀ e ∈ s.entries, ∃ r : Record, r.entry = e := by
    rintro ⟨key, value⟩ he
    exact hs key value (Table.mem_entries_iff.1 he)
  unfold records
  generalize s.entries = l at all ⊢
  induction l with
  | nil => rfl
  | cons e rest ih =>
    obtain ⟨r, rfl⟩ := all e (by simp)
    have ih := ih fun d hd => all d (by simp [hd])
    rw [List.filterMap_cons, Record.ofEntry?_eq_some_iff.2 rfl]
    simp only [List.map_cons, ← ih]

/-! ## Updates -/

theorem sound_empty : Sound .empty := by
  intro key value h
  cases h

theorem holds_empty : ¬ Holds .empty r := by
  intro h
  cases h

theorem Sound.write (hs : s.Sound) (r : Record) : (s.write r).Sound := by
  intro key value h
  rw [Store.write, Table.get?_insert] at h
  split at h
  · rename_i hk
    cases h
    exact ⟨r, by rw [← hk]; rfl⟩
  · exact hs key value h

theorem Sound.remove (hs : s.Sound) (k : Key) : (s.remove k).Sound := by
  intro key value h
  rw [Store.remove, Table.get?_erase] at h
  split at h
  · cases h
  · exact hs key value h

theorem holds_write : (s.write r).Holds q ↔ q = r ∨ q.key ≠ r.key ∧ s.Holds q := by
  unfold Holds Store.write
  rw [Table.get?_insert]
  by_cases hk : r.key = q.key
  · rw [if_pos (by rw [hk]), Option.some.injEq]
    constructor
    · intro hb
      exact .inl (Record.eq_of_kind_of_bytes (congrArg Key.kind hk) hb).symm
    · rintro (rfl | ⟨hne, -⟩)
      · rfl
      · exact absurd hk.symm hne
  · rw [if_neg fun h => hk (Key.bytes_injective h)]
    constructor
    · intro h
      exact .inr ⟨fun he => hk he.symm, h⟩
    · rintro (rfl | ⟨-, h⟩)
      · exact absurd rfl hk
      · exact h

theorem holds_write_self : (s.write r).Holds r := holds_write.2 (.inl rfl)

theorem Holds.write (h : s.Holds q) (hk : q.key ≠ r.key) : (s.write r).Holds q :=
  holds_write.2 (.inr ⟨hk, h⟩)

theorem holds_remove {k : Key} : (s.remove k).Holds q ↔ q.key ≠ k ∧ s.Holds q := by
  unfold Holds Store.remove
  rw [Table.get?_erase]
  by_cases hk : k = q.key
  · rw [if_pos (by rw [hk])]
    constructor
    · intro h
      cases h
    · rintro ⟨hne, -⟩
      exact absurd hk.symm hne
  · rw [if_neg fun h => hk (Key.bytes_injective h)]
    exact ⟨fun h => ⟨fun he => hk he.symm, h⟩, fun h => h.2⟩

theorem Holds.remove {k : Key} (h : s.Holds q) (hk : q.key ≠ k) : (s.remove k).Holds q :=
  holds_remove.2 ⟨hk, h⟩

theorem holds_write_of_key (hk : q.key ≠ r.key) : (s.write r).Holds q ↔ s.Holds q := by
  rw [holds_write]
  constructor
  · rintro (rfl | ⟨-, h⟩)
    · exact absurd rfl hk
    · exact h
  · intro h
    exact .inr ⟨hk, h⟩

theorem holds_remove_of_key {k : Key} (hk : q.key ≠ k) : (s.remove k).Holds q ↔ s.Holds q := by
  rw [holds_remove]
  exact ⟨fun h => h.2, fun h => ⟨hk, h⟩⟩

theorem holds_write_of_kind (hk : q.key.kind ≠ r.key.kind) : (s.write r).Holds q ↔ s.Holds q :=
  holds_write_of_key fun he => hk (by rw [he])

theorem holds_remove_of_kind {k : Key} (hk : q.key.kind ≠ k.kind) :
    (s.remove k).Holds q ↔ s.Holds q :=
  holds_remove_of_key fun he => hk (by rw [he])

theorem holds_write_point {p : OutPoint} :
    (s.write (.point p)).Holds q ↔ q = .point p ∨ s.Holds q := by
  rw [holds_write]
  constructor
  · rintro (h | ⟨-, h⟩)
    · exact .inl h
    · exact .inr h
  · rintro (h | h)
    · exact .inl h
    · by_cases hk : q.key = .point p
      · exact .inl (Record.eq_point_of_key hk)
      · exact .inr ⟨hk, h⟩

/-! ## Look-ups and listings -/

/-- One kind of records: where they lie, how they are written, and how they are told from others. -/
structure Shelf (α : Type) where
  space : Namespace
  start : Bytes
  codec : Json.Codec α
  kind : Kind
  wrap : α → Record
  pick : Record → Option α
  faithful : codec.Faithful
  lead : kind.lead = space.full start
  bytes_wrap : ∀ a, (wrap a).bytes = codec.encode a
  pick_iff : ∀ r a, pick r = some a ↔ r = wrap a
  pick_kind : ∀ r, (pick r).isSome ↔ r.key.kind = kind

def accountShelf : Shelf AccountOutput where
  space := Unspent.space
  start := Unspent.accountKeys
  codec := AccountOutput.codec
  kind := .account
  wrap := .account
  pick r := match r with
    | .account output => some output
    | _ => none
  faithful := AccountOutput.codec_faithful
  lead := rfl
  bytes_wrap _ := rfl
  pick_iff r a := by cases r <;> simp
  pick_kind r := by cases r <;> simp [Record.key, Key.kind]

def transactionShelf : Shelf Transaction where
  space := Unspent.space
  start := Unspent.transactionKeys
  codec := Transaction.codec
  kind := .transaction
  wrap := .transaction
  pick r := match r with
    | .transaction t => some t
    | _ => none
  faithful := Transaction.codec_faithful
  lead := rfl
  bytes_wrap _ := rfl
  pick_iff r a := by cases r <;> simp
  pick_kind r := by cases r <;> simp [Record.key, Key.kind]

def pointShelf : Shelf OutPoint where
  space := Unspent.space
  start := Unspent.outPointKeys
  codec := OutPoint.codec
  kind := .point
  wrap := .point
  pick r := match r with
    | .point p => some p
    | _ => none
  faithful := OutPoint.codec_faithful
  lead := rfl
  bytes_wrap _ := rfl
  pick_iff r a := by cases r <;> simp
  pick_kind r := by cases r <;> simp [Record.key, Key.kind]

def contractShelf : Shelf HashLock.Contract where
  space := HashLock.space
  start := []
  codec := HashLock.Contract.codec
  kind := .contract
  wrap := .contract
  pick r := match r with
    | .contract c => some c
    | _ => none
  faithful := HashLock.Contract.codec_faithful
  lead := rfl
  bytes_wrap _ := rfl
  pick_iff r a := by cases r <;> simp
  pick_kind r := by cases r <;> simp [Record.key, Key.kind]

def escrowShelf : Shelf Escrow.Contract where
  space := Escrow.space
  start := []
  codec := Escrow.Contract.codec
  kind := .escrow
  wrap := .escrow
  pick r := match r with
    | .escrow c => some c
    | _ => none
  faithful := Escrow.Contract.codec_faithful
  lead := rfl
  bytes_wrap _ := rfl
  pick_iff r a := by cases r <;> simp
  pick_kind r := by cases r <;> simp [Record.key, Key.kind]

theorem decode_encode {α : Type} {codec : Json.Codec α} (h : codec.Faithful) (key : Bytes) (a : α) :
    Namespace.decode codec key (codec.encode a) = .ok a := by
  simp only [Namespace.decode, h.decode_encode]

theorem Holds.load {α : Type} (shelf : Shelf α) {a : α} (h : s.Holds (shelf.wrap a)) {key : Bytes}
    (hkey : shelf.space.full key = (shelf.wrap a).key.bytes) :
    shelf.space.load shelf.codec s key = .ok (some a) :=
  Namespace.load_of_get? (shelf.faithful.decode_encode a) (by rw [hkey, h, shelf.bytes_wrap])

/-- A look-up in a sound store finds nothing or the record of that key, and never fails. -/
theorem Sound.load {α : Type} (hs : s.Sound) (shelf : Shelf α) {k : Key} (hk : k.kind = shelf.kind)
    {key : Bytes} (hkey : shelf.space.full key = k.bytes) :
    (shelf.space.load shelf.codec s key = .ok none ∧ s.get? k.bytes = none) ∨
      ∃ a, (shelf.wrap a).key = k ∧ s.Holds (shelf.wrap a) ∧
        shelf.space.load shelf.codec s key = .ok (some a) := by
  rcases hs.get? k with hn | ⟨r, rfl, hr⟩
  · exact .inl ⟨Namespace.load_of_none (by rw [hkey, hn]), hn⟩
  · obtain ⟨a, ha⟩ := Option.isSome_iff_exists.1 ((shelf.pick_kind r).2 hk)
    obtain rfl := (shelf.pick_iff r a).1 ha
    exact .inr ⟨a, rfl, hr, hr.load shelf hkey⟩

theorem Sound.of_load {α : Type} (hs : s.Sound) (shelf : Shelf α) {k : Key}
    (hk : k.kind = shelf.kind) {key : Bytes} (hkey : shelf.space.full key = k.bytes) {a : α}
    (h : shelf.space.load shelf.codec s key = .ok (some a)) :
    (shelf.wrap a).key = k ∧ s.Holds (shelf.wrap a) := by
  rcases hs.load shelf hk hkey with ⟨hn, -⟩ | ⟨found, hkf, hh, hf⟩
  · rw [hn] at h
    cases h
  · rw [hf] at h
    cases h
    exact ⟨hkf, hh⟩

theorem Shelf.wrap_injective {α : Type} (shelf : Shelf α) {a b : α}
    (h : shelf.wrap a = shelf.wrap b) : a = b := by
  have ha : shelf.pick (shelf.wrap a) = some a := (shelf.pick_iff _ a).2 rfl
  rw [h, (shelf.pick_iff _ b).2 rfl] at ha
  exact (Option.some.inj ha).symm

/-- A key in the part of the store that a kind of records lies in. -/
def Shelf.localKey {α : Type} (shelf : Shelf α) (a : α) : Bytes :=
  (shelf.wrap a).key.bytes.drop shelf.space.path.length

theorem Shelf.localKey_eq {α : Type} (shelf : Shelf α) {a : α} {key : Bytes}
    (hkey : shelf.space.full key = (shelf.wrap a).key.bytes) : shelf.localKey a = key := by
  rw [Shelf.localKey, ← hkey, Namespace.full, List.drop_left]

/-- The records of a kind under their keys, in the order of these. -/
def listed {α : Type} (s : Store) (shelf : Shelf α) : List (Bytes × α) :=
  (s.records.filterMap shelf.pick).map fun a => (shelf.localKey a, a)

theorem map_listed {α β : Type} (s : Store) (shelf : Shelf α) (f : α → β) :
    (s.listed shelf).map (fun e => f e.2) = (s.records.filterMap shelf.pick).map f := by
  rw [listed, List.map_map]
  rfl

theorem map_snd_listed {α : Type} (s : Store) (shelf : Shelf α) :
    (s.listed shelf).map Prod.snd = s.records.filterMap shelf.pick :=
  (s.map_listed shelf id).trans (List.map_id _)

theorem Sound.loadAll_eq {α : Type} (hs : s.Sound) (shelf : Shelf α) :
    shelf.space.loadAll shelf.codec s shelf.start = .ok (s.listed shelf) := by
  unfold Namespace.loadAll Namespace.iterate listed
  rw [Store.iterate_eq_filter, hs.entries_eq, ← shelf.lead]
  induction s.records with
  | nil => rfl
  | cons r rest ih =>
    rw [List.map_cons, List.filter_cons, List.filterMap_cons]
    by_cases hk : r.key.kind = shelf.kind
    · obtain ⟨a, ha⟩ := Option.isSome_iff_exists.1 ((shelf.pick_kind r).2 hk)
      have hr := (shelf.pick_iff r a).1 ha
      have he : shelf.kind.lead.isPrefixOf r.entry.1 = true := Key.lead_isPrefixOf_bytes.2 hk
      have hb : r.entry.2 = shelf.codec.encode a := by
        rw [hr]
        exact shelf.bytes_wrap a
      have hl : r.entry.1.drop shelf.space.path.length = shelf.localKey a := by
        rw [hr]
        rfl
      rw [if_pos he, ha, List.map_cons, List.mapM_cons, ih]
      simp only [hb, hl, decode_encode shelf.faithful]
      rfl
    · have hn : shelf.pick r = none := by
        rw [← Option.not_isSome_iff_eq_none, shelf.pick_kind]
        exact hk
      have he : ¬ shelf.kind.lead.isPrefixOf r.entry.1 = true :=
        fun h => hk (Key.lead_isPrefixOf_bytes.1 h)
      rw [if_neg he, hn]
      exact ih

theorem Sound.loadAll {α : Type} (hs : s.Sound) (shelf : Shelf α) :
    (shelf.space.loadAll shelf.codec s shelf.start).map (fun l => l.map Prod.snd) =
      .ok (s.records.filterMap shelf.pick) := by
  rw [hs.loadAll_eq shelf, Except.map, map_snd_listed]

theorem mem_pick {α : Type} (shelf : Shelf α) {a : α} :
    a ∈ s.records.filterMap shelf.pick ↔ s.Holds (shelf.wrap a) := by
  rw [List.mem_filterMap]
  constructor
  · rintro ⟨r, hr, ha⟩
    rw [← (shelf.pick_iff r a).1 ha]
    exact mem_records_iff.1 hr
  · intro h
    exact ⟨shelf.wrap a, mem_records_iff.2 h, (shelf.pick_iff _ a).2 rfl⟩

theorem mem_listed {α : Type} (shelf : Shelf α) {key : Bytes} {a : α} :
    (key, a) ∈ s.listed shelf ↔ s.Holds (shelf.wrap a) ∧ key = shelf.localKey a := by
  rw [listed, List.mem_map]
  constructor
  · rintro ⟨b, hb, he⟩
    cases he
    exact ⟨(mem_pick shelf).1 hb, rfl⟩
  · rintro ⟨ha, rfl⟩
    exact ⟨a, (mem_pick shelf).2 ha, rfl⟩

theorem forall_listed {α : Type} (shelf : Shelf α) {P : Bytes × α → Prop}
    (h : ∀ a, s.Holds (shelf.wrap a) → P (shelf.localKey a, a)) : ∀ e ∈ s.listed shelf, P e := by
  rintro ⟨key, a⟩ he
  obtain ⟨ha, rfl⟩ := (mem_listed shelf).1 he
  exact h a ha

theorem exists_listed {α : Type} (shelf : Shelf α) {P : α → Prop} :
    (∃ e ∈ s.listed shelf, P e.2) ↔ ∃ a, s.Holds (shelf.wrap a) ∧ P a := by
  constructor
  · rintro ⟨⟨key, a⟩, he, ha⟩
    exact ⟨a, ((mem_listed shelf).1 he).1, ha⟩
  · rintro ⟨a, hh, ha⟩
    exact ⟨(shelf.localKey a, a), (mem_listed shelf).2 ⟨hh, rfl⟩, ha⟩

theorem ascending_records (s : Store) :
    s.records.Pairwise fun r q => compare r.key.bytes q.key.bytes = .lt := by
  refine List.Pairwise.filterMap Record.ofEntry? ?_ s.ascending
  intro a b hab r hr q hq
  rw [Record.ofEntry?_eq_some_iff] at hr hq
  subst hr hq
  exact hab

theorem nodup_records (s : Store) : s.records.Nodup := by
  refine s.ascending_records.imp fun {r q} before same => ?_
  exact Table.ne_of_compare_lt before (congrArg (fun r : Record => r.key.bytes) same)

theorem nodup_pick {α : Type} (s : Store) (shelf : Shelf α) :
    (s.records.filterMap shelf.pick).Nodup := by
  refine List.Pairwise.filterMap shelf.pick ?_ s.nodup_records
  rintro r q hrq a hr b hq rfl
  rw [shelf.pick_iff] at hr hq
  exact hrq (hr.trans hq.symm)

/-! ## Sums over the records -/

/-- The sum of a weight over all records. -/
def total (s : Store) (weight : Record → Nat) : Nat := (s.records.map weight).sum

theorem total_eq_sum (s : Store) (weight : Record → Nat) :
    s.total weight = s.sum fun e => ((Record.ofEntry? e).map weight).getD 0 := by
  unfold total records Table.sum
  induction s.entries with
  | nil => rfl
  | cons e rest ih =>
    rw [List.filterMap_cons, List.map_cons, List.sum_cons]
    cases h : Record.ofEntry? e with
    | none => simp [ih]
    | some r => simp [ih]

/-- A record where nothing was before adds its weight. -/
theorem total_write_new (weight : Record → Nat) (h : s.get? r.key.bytes = none) :
    (s.write r).total weight = s.total weight + weight r := by
  have hi := Table.sum_insert s (fun e => ((Record.ofEntry? e).map weight).getD 0) r.key.bytes r.bytes
  rw [Table.weightAt_of_none _ h] at hi
  have he : Record.ofEntry? (r.key.bytes, r.bytes) = some r := Record.ofEntry?_eq_some_iff.2 rfl
  rw [total_eq_sum, total_eq_sum, Store.write]
  simpa only [he, Option.map_some, Option.getD_some, Nat.add_zero] using hi

/-- A record in the place of another one adds its weight and takes away that of the other. -/
theorem total_write_over (weight : Record → Nat) (h : s.Holds q) (hk : q.key = r.key) :
    (s.write r).total weight + weight q = s.total weight + weight r := by
  have hi := Table.sum_insert s (fun e => ((Record.ofEntry? e).map weight).getD 0) r.key.bytes r.bytes
  rw [← hk, Table.weightAt_of_get? _ h, hk] at hi
  have he : Record.ofEntry? (r.key.bytes, r.bytes) = some r := Record.ofEntry?_eq_some_iff.2 rfl
  have hq : Record.ofEntry? (r.key.bytes, q.bytes) = some q :=
    Record.ofEntry?_eq_some_iff.2 (by rw [← hk]; rfl)
  rw [total_eq_sum, total_eq_sum, Store.write]
  simpa only [he, hq, Option.map_some, Option.getD_some] using hi

theorem total_remove (weight : Record → Nat) (h : s.Holds q) :
    (s.remove q.key).total weight + weight q = s.total weight := by
  have hi := Table.sum_erase s (fun e => ((Record.ofEntry? e).map weight).getD 0) q.key.bytes
  rw [Table.weightAt_of_get? _ h] at hi
  have hq : Record.ofEntry? (q.key.bytes, q.bytes) = some q := Record.ofEntry?_eq_some_iff.2 rfl
  rw [total_eq_sum, total_eq_sum, Store.remove]
  simpa only [hq, Option.map_some, Option.getD_some] using hi

theorem total_write_le (s : Store) (r : Record) (weight : Record → Nat) :
    (s.write r).total weight ≤ s.total weight + weight r := by
  have hi := Table.sum_insert s (fun e => ((Record.ofEntry? e).map weight).getD 0) r.key.bytes r.bytes
  have he : Record.ofEntry? (r.key.bytes, r.bytes) = some r := Record.ofEntry?_eq_some_iff.2 rfl
  rw [total_eq_sum, total_eq_sum, Store.write]
  simp only [he, Option.map_some, Option.getD_some] at hi
  omega

theorem total_remove_le (s : Store) (k : Key) (weight : Record → Nat) :
    (s.remove k).total weight ≤ s.total weight := by
  have hi := Table.sum_erase s (fun e => ((Record.ofEntry? e).map weight).getD 0) k.bytes
  rw [total_eq_sum, total_eq_sum, Store.remove]
  omega

theorem Holds.weight_le_total (h : s.Holds q) (weight : Record → Nat) : weight q ≤ s.total weight := by
  have hi := total_remove weight h
  omega

theorem total_congr {f g : Record → Nat} (h : ∀ r, s.Holds r → f r = g r) :
    s.total f = s.total g := by
  unfold total
  congr 1
  apply List.map_congr_left
  intro r hr
  exact h r (mem_records_iff.1 hr)

theorem sum_filter_ne_zero (weight : Record → Nat) (rs : List Record) :
    ((rs.filter fun r => weight r ≠ 0).map weight).sum = (rs.map weight).sum := by
  induction rs with
  | nil => rfl
  | cons r rs ih =>
    rw [List.filter_cons]
    split
    · rw [List.map_cons, List.map_cons, List.sum_cons, List.sum_cons, ih]
    · rename_i hr
      have hzero : weight r = 0 := by simpa using hr
      rw [List.map_cons, List.sum_cons, ih, hzero, Nat.zero_add]

/-- Stores that hold the same records of any weight have the same total. -/
theorem total_eq_of_holds {t : Store} {weight : Record → Nat}
    (h : ∀ r, weight r ≠ 0 → (t.Holds r ↔ s.Holds r)) : t.total weight = s.total weight := by
  have hperm : (t.records.filter fun r => weight r ≠ 0).Perm
      (s.records.filter fun r => weight r ≠ 0) := by
    refine (List.perm_ext_iff_of_nodup (t.nodup_records.filter _) (s.nodup_records.filter _)).2 ?_
    intro r
    simp only [List.mem_filter, mem_records_iff, decide_eq_true_eq]
    exact ⟨fun hr => ⟨(h r hr.2).1 hr.1, hr.2⟩, fun hr => ⟨(h r hr.2).2 hr.1, hr.2⟩⟩
  rw [total, total, ← sum_filter_ne_zero weight t.records, ← sum_filter_ne_zero weight s.records]
  exact (hperm.map weight).sum_nat

/-- A weight that only records of one kind have adds up over the records of that kind. -/
theorem total_eq_sum_pick {α : Type} (s : Store) (shelf : Shelf α) {weight : Record → Nat}
    (h : ∀ r, shelf.pick r = none → weight r = 0) :
    s.total weight = ((s.records.filterMap shelf.pick).map fun a => weight (shelf.wrap a)).sum := by
  unfold total
  induction s.records with
  | nil => rfl
  | cons r rs ih =>
    rw [List.map_cons, List.sum_cons, ih, List.filterMap_cons]
    cases hr : shelf.pick r with
    | none => rw [h r hr, Nat.zero_add]
    | some a => rw [(shelf.pick_iff r a).1 hr, List.map_cons, List.sum_cons]

end Store

end Settlement
