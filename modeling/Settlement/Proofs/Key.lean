import Settlement.Escrow
import Settlement.HashLock
import Settlement.Proofs.Json.Compound
import Settlement.Proofs.Utf8
import Settlement.Unspent

/-!
# Keys and written forms of records

Five kinds of records lie in one store. The keys of a kind begin with its path, no path begins another
one, and what follows the path names the record: so two keys are the same bytes only if they are of one
kind and name one thing. What lies under a key is read back: every type that is stored has a faithful
codec.

Results:
* `lead_apart`: whatever begins with the path of a kind is no key of another kind.
* `Key.bytes_injective`: different keys are different bytes.
* `codec_faithful`, for each type that is stored: what was written for a record is read as that record, and
  two records with the same bytes are the same.
-/
namespace Settlement

/-! ## Stored records are read back -/

section

open Json

theorem OutPoint.codec_faithful : OutPoint.codec.Faithful :=
  recordCodec_faithful
    ⟨digestCodec_faithful, by decide, int32Codec_faithful, by decide, trivial⟩ fun _ => rfl

theorem Coin.codec_faithful : Coin.codec.Faithful :=
  recordCodec_faithful
    ⟨textCodec_faithful, by decide, uint64Codec_faithful, by decide, trivial⟩ fun _ => rfl

theorem Input.codec_faithful : Input.codec.Faithful :=
  recordCodec_faithful
    ⟨OutPoint.codec_faithful, by decide, listCodec_faithful byteCodec_faithful, by decide,
      uint32Codec_faithful, by decide, trivial⟩ fun _ => rfl

theorem Output.codec_faithful : Output.codec.Faithful :=
  recordCodec_faithful
    ⟨uint64Codec_faithful, by decide, listCodec_faithful byteCodec_faithful, by decide, trivial⟩
    fun _ => rfl

theorem Transaction.codec_faithful : Transaction.codec.Faithful :=
  recordCodec_faithful
    ⟨listCodec_faithful Input.codec_faithful, by decide, listCodec_faithful Output.codec_faithful,
      by decide, uint32Codec_faithful, by decide, trivial⟩ fun _ => rfl

theorem Unspent.AccountOutput.codec_faithful : Unspent.AccountOutput.codec.Faithful :=
  recordCodec_faithful
    ⟨digestCodec_faithful, by decide, uint64Codec_faithful, by decide, addressCodec_faithful,
      by decide, int64Codec_faithful, by decide, trivial⟩ fun _ => rfl

theorem HashLock.Status.codec_faithful : HashLock.Status.codec.Faithful :=
  unionCodec_faithful (by decide)
    ⟨Variant.bare_faithful _ _, Variant.bare_faithful _ _, Variant.bare_faithful _ _⟩
    fun a => by cases a <;> rfl

theorem HashLock.Contract.codec_faithful : HashLock.Contract.codec.Faithful :=
  recordCodec_faithful
    ⟨Coin.codec_faithful, by decide, digestCodec_faithful, by decide, int64Codec_faithful, by decide,
      addressCodec_faithful, by decide, addressCodec_faithful, by decide,
      HashLock.Status.codec_faithful, by decide, int64Codec_faithful, by decide, trivial⟩
    fun _ => rfl

theorem Escrow.Stage.codec_faithful : Escrow.Stage.codec.Faithful :=
  unionCodec_faithful (by decide)
    ⟨Variant.bare_faithful _ _, Variant.bare_faithful _ _, Variant.bare_faithful _ _⟩
    fun a => by cases a <;> rfl

theorem Escrow.Contract.codec_faithful : Escrow.Contract.codec.Faithful :=
  recordCodec_faithful
    ⟨escrowIdCodec_faithful, by decide, Escrow.Stage.codec_faithful, by decide, Coin.codec_faithful,
      by decide, addressCodec_faithful, by decide, Coin.codec_faithful, by decide,
      addressCodec_faithful, by decide, Coin.codec_faithful, by decide, trivial⟩
    fun _ => rfl

end

/-! ## Keys never clash -/

/-! ### Names -/

theorem Digest.digits_injective {a b : Digest} (h : a.digits = b.digits) : a = b := by
  have ha := Digest.ofDigits_digits a
  rw [h, Digest.ofDigits_digits] at ha
  cases ha
  rfl

theorem Digest.length_digits (d : Digest) : d.digits.length = 64 := by
  rw [Digest.digits, Hex.length_encode, d.length_bytes]

theorem Decimal.digits_injective {m n : Nat} (h : digits m = digits n) : m = n := by
  rw [← value_digits m, h, value_digits]

theorem Decimal.signed_injective {i j : Int} (h : signed i = signed j) : i = j := by
  have minus : ∀ m n, digits m ≠ 0x2D :: digits n := by
    intro m n he
    have := isDigit_digits m 0x2D (by simp [he])
    cases this
  cases i with
  | ofNat m =>
    cases j with
    | ofNat n => rw [digits_injective h]
    | negSucc n => exact absurd h (minus m (n + 1))
  | negSucc m =>
    cases j with
    | ofNat n => exact absurd h.symm (minus n (m + 1))
    | negSucc n =>
      have := digits_injective (List.cons.inj h).2
      congr 1
      omega

theorem OutPoint.keyBytes_injective {a b : OutPoint} (h : a.keyBytes = b.keyBytes) : a = b := by
  obtain ⟨source, index⟩ := a
  obtain ⟨source', index'⟩ := b
  have hl : source.digits.length = source'.digits.length := by
    rw [Digest.length_digits, Digest.length_digits]
  obtain ⟨hd, ht⟩ := List.append_inj h hl
  have hs : source = source' := Digest.digits_injective hd
  have hi : index = index' := Int32.toInt_inj.1 (Decimal.signed_injective (List.cons.inj ht).2)
  rw [hs, hi]

theorem Decimal.digits_lt (n : Nat) : ∀ b ∈ digits n, b < 0x80 := by
  intro b hb
  have h := isDigit_digits n b hb
  simp only [isDigit, Bool.and_eq_true, decide_eq_true_eq] at h
  exact UInt8.lt_of_le_of_lt h.2 (by decide)

theorem Decimal.signed_lt (i : Int) : ∀ b ∈ signed i, b < 0x80 := by
  intro b hb
  cases i with
  | ofNat n => exact digits_lt n b hb
  | negSucc n =>
    rcases List.mem_cons.1 hb with rfl | hb
    · decide
    · exact digits_lt (n + 1) b hb

theorem OutPoint.utf8_text (p : OutPoint) : Text.utf8 p.text = p.keyBytes := by
  refine Text.utf8_ascii ?_
  intro b hb
  rcases List.mem_append.1 hb with hb | hb
  · exact Hex.encode_lt .upper p.source.bytes b hb
  · rcases List.mem_cons.1 hb with rfl | hb
    · decide
    · exact Decimal.signed_lt p.index.toInt b hb

theorem EscrowId.bytes_injective {a b : EscrowId} (h : a.bytes = b.bytes) : a = b := by
  obtain ⟨a⟩ := a
  obtain ⟨b⟩ := b
  exact congrArg EscrowId.mk (Text.utf8_injective h)

/-! ### Kinds of records -/

inductive Kind
  | account
  | transaction
  | point
  | contract
  | escrow
  deriving DecidableEq

/-- What all keys of a kind begin with. -/
def Kind.lead : Kind → Bytes
  | account => Unspent.space.full Unspent.accountKeys
  | transaction => Unspent.space.full Unspent.transactionKeys
  | point => Unspent.space.full Unspent.outPointKeys
  | contract => HashLock.space.full []
  | escrow => Escrow.space.full []

/-- Two paths that one text begins with agree in their first bytes. -/
theorem take_eq_of_isPrefixOf {a b rest : Bytes} (h : a.isPrefixOf (b ++ rest) = true) :
    a.take b.length = b.take a.length := by
  induction a generalizing b with
  | nil => simp
  | cons x a ih =>
    cases b with
    | nil => simp
    | cons y b =>
      simp only [List.cons_append, List.isPrefixOf, Bool.and_eq_true, beq_iff_eq] at h
      simp only [List.length_cons, List.take_succ_cons, h.1, ih h.2]

/-- Whatever begins with the path of a kind is no key of another kind. -/
theorem lead_apart {a b : Kind} {rest : Bytes} (h : a.lead.isPrefixOf (b.lead ++ rest) = true) :
    a = b := by
  have all : ∀ a b : Kind, a.lead.take b.lead.length = b.lead.take a.lead.length → a = b := by
    intro a b
    cases a <;> cases b <;> decide +kernel
  exact all a b (take_eq_of_isPrefixOf h)

/-! ### Keys -/

/-- What the ledger keeps a record about. -/
inductive Key
  | account (id : Digest)
  | transaction (hash : Digest)
  | point (point : OutPoint)
  | contract (hash : Digest)
  | escrow (id : EscrowId)
  deriving DecidableEq

namespace Key

def kind : Key → Kind
  | account _ => .account
  | transaction _ => .transaction
  | point _ => .point
  | contract _ => .contract
  | escrow _ => .escrow

/-- The bytes behind the path. -/
def tail : Key → Bytes
  | account id => id.digits
  | transaction hash => hash.digits
  | point p => p.keyBytes
  | contract hash => hash.digits
  | escrow id => id.bytes

/-- The key in the store. -/
def bytes : Key → Bytes
  | account id => Unspent.space.full (Unspent.accountKey id)
  | transaction hash => Unspent.space.full (Unspent.transactionKey hash)
  | point p => Unspent.space.full (Unspent.outPointKey p)
  | contract hash => HashLock.space.full (HashLock.contractKey hash)
  | escrow id => Escrow.space.full (Escrow.contractKey id)

theorem bytes_eq (k : Key) : k.bytes = k.kind.lead ++ k.tail := by
  cases k <;>
    simp only [bytes, kind, Kind.lead, tail, Namespace.full, Unspent.accountKey,
      Unspent.transactionKey, Unspent.outPointKey, HashLock.contractKey, Escrow.contractKey,
      List.append_assoc, List.nil_append]

theorem lead_isPrefixOf_bytes {kind : Kind} {k : Key} :
    kind.lead.isPrefixOf k.bytes = true ↔ k.kind = kind := by
  rw [bytes_eq]
  constructor
  · intro h
    exact (lead_apart h).symm
  · rintro rfl
    exact List.isPrefixOf_iff_prefix.2 (List.prefix_append _ _)

theorem bytes_injective {a b : Key} (h : a.bytes = b.bytes) : a = b := by
  have hk : a.kind = b.kind := by
    have : a.kind.lead.isPrefixOf a.bytes = true := lead_isPrefixOf_bytes.2 rfl
    rw [h] at this
    exact (lead_isPrefixOf_bytes.1 this).symm
  rw [bytes_eq, bytes_eq, hk] at h
  have ht := List.append_cancel_left h
  cases a <;> cases b <;> cases hk
  · rw [Digest.digits_injective ht]
  · rw [Digest.digits_injective ht]
  · rw [OutPoint.keyBytes_injective ht]
  · rw [Digest.digits_injective ht]
  · rw [EscrowId.bytes_injective ht]

end Key

end Settlement
