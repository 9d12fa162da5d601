import Settlement.Proofs.Utf8
import Settlement.Transaction

/-!
# Spend conditions as bytes

A condition that pays to an address is the tag byte 1 and the name of the address. Reading takes the tag off
and asks for a name: some text, and not the empty one. So what is read writes the same bytes again, no two
addresses share a condition, and of all addresses only the one without a name is not read back.

Results:
* `decode_ok_iff`: the conditions that bytes state.
* `exists_decode_ok_iff`: the bytes that state one.
* `codec_exact`: which bytes are read, that they are written again, which addresses are read back, and that
  outputs for different addresses have different conditions.
-/
namespace Settlement

theorem Address.isEmpty_iff {a : Address} : a.isEmpty ↔ a.name = "" :=
  String.isEmpty_iff

namespace SpendCondition

variable {a b : Address} {bytes : Bytes} {c : SpendCondition}

theorem decode_encode (named : ¬ a.isEmpty) :
    decode (payToAddress a).encode = .ok (payToAddress a) := by
  rw [encode, decode, if_pos rfl, Address.bytes, Text.ofUtf8?_utf8]
  exact if_neg named

/-- What bytes state writes the same bytes again, and it has a name. -/
theorem encode_of_decode (h : decode bytes = .ok c) : c.encode = bytes ∧ ¬ c.spender.isEmpty := by
  cases bytes with
  | nil => cases h
  | cons tag payload =>
    rw [decode] at h
    split at h
    · next tagged =>
      subst tagged
      split at h
      · cases h
      · next name read =>
        split at h
        · cases h
        · next named =>
          cases h
          exact ⟨congrArg (addressTag :: ·) (Text.ofUtf8?_eq_some_iff.1 read), named⟩
    · cases h

theorem decode_ok_iff : decode bytes = .ok c ↔ c.encode = bytes ∧ ¬ c.spender.isEmpty := by
  refine ⟨encode_of_decode, ?_⟩
  obtain ⟨a⟩ := c
  rintro ⟨rfl, named⟩
  exact decode_encode named

/-- The bytes that state a condition: the tag and some text behind it. -/
theorem exists_decode_ok_iff : (∃ c, decode bytes = .ok c) ↔
    ∃ payload, bytes = 0x01 :: payload ∧ payload ≠ [] ∧ Text.WellFormed payload := by
  simp only [decode_ok_iff, Address.isEmpty_iff, Text.wellFormed_iff]
  constructor
  · rintro ⟨⟨a⟩, rfl, named⟩
    exact ⟨a.bytes, rfl, mt Text.utf8_eq_nil_iff.1 named, a.name, rfl⟩
  · rintro ⟨_, rfl, named, name, rfl⟩
    exact ⟨payToAddress ⟨name⟩, rfl, mt Text.utf8_eq_nil_iff.2 named⟩

-- A slash in two bytes, and half of a surrogate pair.
example : decode [0x01, 0xC0, 0xAF] = .error .notText := by decide
example : decode [0x01, 0xED, 0xA0, 0x80] = .error .notText := by decide

theorem encode_injective (h : (payToAddress a).encode = (payToAddress b).encode) : a = b := by
  obtain ⟨a⟩ := a
  obtain ⟨b⟩ := b
  exact congrArg Address.mk (Text.utf8_injective (List.cons.inj h).2)

/-- Exactly the tag with a text behind it that is not empty is read, and it is written again byte by byte;
exactly the addresses with a name are read back; and what pays to different addresses has different
conditions, whatever the values. -/
theorem codec_exact :
    (∀ bytes, (∃ c, decode bytes = .ok c) ↔
      ∃ payload, bytes = 0x01 :: payload ∧ payload ≠ [] ∧ Text.WellFormed payload) ∧
    (∀ bytes c, decode bytes = .ok c → c.encode = bytes) ∧
    (∀ a, decode (payToAddress a).encode = .ok (payToAddress a) ↔ a.name ≠ "") ∧
    ∀ v w a b, (Output.payTo v a).condition = (Output.payTo w b).condition → a = b := by
  refine ⟨fun _ => exists_decode_ok_iff, fun _ _ h => (encode_of_decode h).1, fun a => ?_,
    fun _ _ _ _ h => encode_injective h⟩
  rw [decode_ok_iff, Address.isEmpty_iff]
  exact and_iff_right rfl

end SpendCondition

end Settlement
