import Settlement.Proofs.Layout
import Settlement.Proofs.Utf8

/-!
# What the id of a birth says

The id of an account output is the digest of five fields: chain, owner, amount, the owner's sequence number,
and height. Each field comes after its length in four bytes, so that a field at the head of a row is known as
soon as its length fits there. The third field is the amount as it is shown, digits with the denomination
right behind them, and a denomination may begin with digits itself: of two amounts of one denomination the
digits are known all the same, as the denomination can be taken off the end.

Results:
* `Certificate.layout_injective`: of births in one denomination whose fields fit, no two have one layout.
* `Certificate.eq_of_id_eq`: nor one id, unless the digest takes two of the layouts for one.
-/
namespace Settlement

theorem Decimal.length_digits_le (n : UInt64) : (digits n.toNat).length ≤ 20 := by
  have h := n.toNat_lt
  rw [digits, List.length_map, Nat.length_toDigits_le_iff (by decide) (by decide)]
  omega

theorem Coin.utf8_text (c : Coin) :
    Text.utf8 c.text = Decimal.digits c.amount.toNat ++ Text.utf8 c.denom := by
  rw [text, Text.utf8_append, Decimal.text, Text.utf8_ascii (Decimal.digits_lt _)]

/-- A field behind its length, at the head of a row, is known, and so is the rest of the row. -/
theorem field_append_inj {f g r s : Bytes} (hf : f.length < UInt32.size) (hg : g.length < UInt32.size)
    (h : Bytes.bigEndian 4 f.length ++ f ++ r = Bytes.bigEndian 4 g.length ++ g ++ s) :
    f = g ∧ r = s := by
  rw [List.append_assoc, List.append_assoc] at h
  obtain ⟨length, h⟩ := Bytes.bigEndian_append_inj hf hg h
  exact List.append_inj h length

/-- The digest takes no two of these byte strings for one. -/
def Sha256.CollisionFree (inputs : List Bytes) : Prop :=
  ∀ a ∈ inputs, ∀ b ∈ inputs, digest a = digest b → a = b

instance {inputs : List Bytes} : Decidable (Sha256.CollisionFree inputs) :=
  inferInstanceAs (Decidable (∀ a ∈ inputs, ∀ b ∈ inputs, Sha256.digest a = Sha256.digest b → a = b))

namespace Unspent

/-- What the id of an account output is the digest of. -/
structure Certificate where
  chainId : String
  owner : Address
  amount : Coin
  sequence : UInt64
  height : Height
  deriving DecidableEq

namespace Certificate

def fields (c : Certificate) : List Bytes :=
  [Text.utf8 c.chainId, c.owner.bytes, Text.utf8 c.amount.text,
    Bytes.bigEndian 8 c.sequence.toNat, Bytes.bigEndian 8 c.height.toUInt64.toNat]

/-- The byte string that is hashed. -/
def layout (c : Certificate) : Bytes :=
  c.fields.flatMap fun field => Bytes.bigEndian 4 field.length ++ field

def id (c : Certificate) : Digest :=
  accountOutputId c.chainId c.owner c.amount c.sequence c.height

theorem id_eq (c : Certificate) : c.id = Sha256.digest c.layout := rfl

/-- Chain, owner and denomination are so short that every field fits the four bytes of its length, the
amount with its twenty digits included. -/
structure Short (c : Certificate) : Prop where
  chainId : (Text.utf8 c.chainId).length < 2 ^ 32 - 20
  owner : c.owner.bytes.length < 2 ^ 32 - 20
  denom : (Text.utf8 c.amount.denom).length < 2 ^ 32 - 20

variable {c d : Certificate}

instance : Decidable c.Short :=
  decidable_of_iff ((Text.utf8 c.chainId).length < 2 ^ 32 - 20 ∧ c.owner.bytes.length < 2 ^ 32 - 20 ∧
      (Text.utf8 c.amount.denom).length < 2 ^ 32 - 20)
    ⟨fun h => ⟨h.1, h.2.1, h.2.2⟩, fun h => ⟨h.chainId, h.owner, h.denom⟩⟩

theorem Short.fits (h : c.Short) : ∀ field ∈ c.fields, field.length < UInt32.size := by
  have size : UInt32.size = 2 ^ 32 := rfl
  have chainId := h.chainId
  have owner := h.owner
  have denom := h.denom
  have digits := Decimal.length_digits_le c.amount.amount
  simp only [fields, List.forall_mem_cons, Coin.utf8_text, List.length_append, Bytes.length_bigEndian,
    List.not_mem_nil, false_imp_iff, implies_true, and_true, size]
  omega

/-- Reading a layout from its head gives the fields one after the other. -/
theorem fields_eq_of_layout_eq (hc : c.Short) (hd : d.Short) (h : c.layout = d.layout) :
    c.fields = d.fields := by
  rw [layout, layout, ← List.append_nil (c.fields.flatMap _),
    ← List.append_nil (d.fields.flatMap _)] at h
  have known := flatMap_append_inj (g := fun field => field)
    (fun f hf g hg _ _ => field_append_inj (hc.fits f hf) (hd.fits g hg)) rfl h
  simpa using known.1

/-- Of births in one denomination whose fields fit, no two have one layout. -/
theorem layout_injective (hc : c.Short) (hd : d.Short) (denom : c.amount.denom = d.amount.denom)
    (h : c.layout = d.layout) : c = d := by
  have fields := fields_eq_of_layout_eq hc hd h
  obtain ⟨chainId, ⟨owner⟩, ⟨cd, amount⟩, sequence, height⟩ := c
  obtain ⟨chainId', ⟨owner'⟩, ⟨dd, amount'⟩, sequence', height'⟩ := d
  obtain rfl : cd = dd := denom
  simp only [Certificate.fields, List.cons.injEq, and_true, Coin.utf8_text, Address.bytes,
    List.append_cancel_right_eq] at fields
  obtain ⟨hchain, howner, hamount, hsequence, hheight⟩ := fields
  have hamount := UInt64.toNat_inj.1 (Decimal.digits_injective hamount)
  have hsequence := UInt64.toNat_inj.1
    (Bytes.bigEndian_injective sequence.toNat_lt sequence'.toNat_lt hsequence)
  have hheight := UInt64.toNat_inj.1
    (Bytes.bigEndian_injective height.toUInt64.toNat_lt height'.toUInt64.toNat_lt hheight)
  have hheight : height = height' := congrArg Int64.ofUInt64 hheight
  rw [Text.utf8_injective hchain, Text.utf8_injective howner, hamount, hsequence, hheight]

/-- Nor have two of them one id, unless the digest takes their layouts for one. -/
theorem eq_of_id_eq (hc : c.Short) (hd : d.Short) (denom : c.amount.denom = d.amount.denom)
    (apart : Sha256.digest c.layout = Sha256.digest d.layout → c.layout = d.layout)
    (h : c.id = d.id) : c = d := by
  rw [id_eq, id_eq] at h
  exact layout_injective hc hd denom (apart h)

end Certificate

end Unspent

end Settlement
