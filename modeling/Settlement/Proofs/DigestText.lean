import Settlement.Proofs.Iteration
import Settlement.Proofs.Order

/-!
# Digests as text

A digest is read from 64 hexadecimal digits, in capitals or not, and is shown in capitals. Reading looks at
the bytes of a text: an odd number of them is refused first, then the first one that is no digit, and only
what is hexadecimal throughout is refused for its length. Digits are ASCII, so that a text of digits has as
many bytes as characters. The capitals come behind the figures among characters as well as among values, and
so texts are ordered as the digests are.

Results:
* `Hex.outcome_decodePairs`, `Digest.reading_ofText`: what pairs of digits and what texts are read as.
* `Text.isHexDigit_utf8_iff`: the bytes of a text are digits exactly if its characters are.
* `Digest.compare_eq_lt_iff`: digests are ordered as their texts.
* `Digest.text_exact`: which texts are read, and how they are shown again; which are refused, and as what;
  that every digest is read back; and the order.
-/
namespace Settlement

/-! ## Bytes and characters -/

namespace Text

/-- The character that a byte is the code of. -/
def char (b : UInt8) : Char := Char.ofNat b.toNat

theorem of_byte {P : UInt8 → Prop} (all : ∀ n, n < 256 → P (UInt8.ofNat n)) (b : UInt8) : P b := by
  rw [← UInt8.ofNat_toNat (x := b)]
  exact all b.toNat b.toNat_lt

theorem char_lt_char {a b : UInt8} (h : a < b) : char a < char b := by
  have code : ∀ b : UInt8, (char b).val.toNat = b.toNat := of_byte (by decide +kernel)
  rw [Char.lt_def, UInt32.lt_iff_toNat_lt, code, code]
  exact UInt8.lt_iff_toNat_lt.1 h

theorem toList_ascii (codes : Bytes) : (ascii codes).toList = codes.map char := String.toList_ofList

/-- A text whose bytes are all below 0x80 consists of the characters with these codes. -/
theorem toList_eq_map_utf8 {s : String} (h : ∀ b ∈ utf8 s, b < 0x80) : s.toList = (utf8 s).map char := by
  have back : ascii (utf8 s) = s := utf8_injective (utf8_ascii h)
  rw [← toList_ascii, back]

theorem lt_of_isHexDigit {b : UInt8} (h : (char b).isHexDigit) : b < 0x80 :=
  of_byte (P := fun b => (char b).isHexDigit → b < 0x80) (by decide +kernel) b h

/-- A digit has one byte, its code. -/
theorem utf8EncodeChar_of_isHexDigit {c : Char} (h : c.isHexDigit) :
    ∃ b, String.utf8EncodeChar c = [b] ∧ char b = c := by
  have small : c.toNat < 128 := by
    have hf : 'f'.val.toNat = 102 := rfl
    have hF : 'F'.val.toNat = 70 := rfl
    have h9 : '9'.val.toNat = 57 := rfl
    have code : c.toNat = c.val.toNat := rfl
    simp only [Char.isHexDigit, Char.isDigit, Bool.or_eq_true, Bool.and_eq_true, decide_eq_true_eq,
      ge_iff_le, UInt32.le_iff_toNat_le] at h
    omega
  have one : ∀ n, n < 128 → String.utf8EncodeChar (Char.ofNat n) = [UInt8.ofNat n] ∧
      char (UInt8.ofNat n) = Char.ofNat n := by decide
  have hc := one c.toNat small
  rw [Char.ofNat_toNat] at hc
  exact ⟨_, hc⟩

theorem isHexDigit_utf8_iff {s : String} :
    (∀ b ∈ utf8 s, (char b).isHexDigit) ↔ ∀ c ∈ s.toList, c.isHexDigit := by
  constructor
  · intro h c hc
    rw [toList_eq_map_utf8 fun b hb => lt_of_isHexDigit (h b hb)] at hc
    obtain ⟨b, hb, rfl⟩ := List.mem_map.1 hc
    exact h b hb
  · intro h b hb
    rw [utf8_eq_flatMap] at hb
    obtain ⟨c, hc, hb⟩ := List.mem_flatMap.1 hb
    obtain ⟨code, bytes, shown⟩ := utf8EncodeChar_of_isHexDigit (h c hc)
    rw [bytes, List.mem_singleton] at hb
    rw [hb, shown]
    exact h c hc

theorem length_utf8_of_isHexDigit {s : String} (h : ∀ b ∈ utf8 s, (char b).isHexDigit) :
    (utf8 s).length = s.length := by
  rw [← String.length_toList, toList_eq_map_utf8 fun b hb => lt_of_isHexDigit (h b hb),
    List.length_map]

end Text

/-! ## Pairs of digits -/

namespace Hex

open Text (char)

/-- The digits are the bytes that have a value. A value is below sixteen, and its digit is the capital of
the one that it was read from. -/
theorem digit_of_value? (b : UInt8) : ((value? b).isSome = (char b).isHexDigit) ∧
    ∀ n ∈ value? b, n < 16 ∧ char (digit .upper n) = (char b).toUpper :=
  Text.of_byte (P := fun b => ((value? b).isSome = (char b).isHexDigit) ∧
    ∀ n ∈ value? b, n < 16 ∧ char (digit .upper n) = (char b).toUpper) (by decide +kernel) b

theorem encode_pair (case : Case) {h l : Nat} (hh : h < 16) (hl : l < 16) (bytes : Bytes) :
    encode case (UInt8.ofNat (h * 16 + l) :: bytes) =
      digit case h :: digit case l :: encode case bytes := by
  have value : (UInt8.ofNat (h * 16 + l)).toNat = h * 16 + l := by
    rw [UInt8.toNat_ofNat']
    omega
  rw [encode, value, show (h * 16 + l) / 16 = h by omega, show (h * 16 + l) % 16 = l by omega]

/-- What reading pairs of digits from a position on comes to: bytes whose digits are those that were read,
in capitals, or the first byte that is no digit. -/
inductive Outcome (position : Nat) (digits : Bytes) : Except Error Bytes → Prop
  | read {bytes : Bytes} (valid : ∀ b ∈ digits, (char b).isHexDigit)
      (shown : (encode .upper bytes).map char = digits.map fun b => (char b).toUpper) :
      Outcome position digits (.ok bytes)
  | stray (before : Bytes) {b : UInt8} {behind : Bytes} (parts : digits = before ++ b :: behind)
      (valid : ∀ d ∈ before, (char d).isHexDigit) (invalid : (char b).isHexDigit = false) :
      Outcome position digits (.error (.badDigit b (position + before.length)))

theorem outcome_decodePairs (position : Nat) {digits : Bytes} (even : digits.length % 2 = 0) :
    Outcome position digits (decodePairs position digits) := by
  fun_induction decodePairs position digits with
  | case1 position high low rest ih =>
    have behind := ih (by simp only [List.length_cons] at even; omega)
    obtain ⟨isHigh, valueHigh⟩ := digit_of_value? high
    obtain ⟨isLow, valueLow⟩ := digit_of_value? low
    cases hh : value? high with
    | none =>
      rw [hh] at isHigh
      simp only [digitAt, hh, bind, Except.bind]
      exact .stray [] rfl (by simp) isHigh.symm
    | some h =>
      rw [hh] at isHigh
      obtain ⟨smallHigh, shownHigh⟩ := valueHigh h hh
      cases hl : value? low with
      | none =>
        rw [hl] at isLow
        simp only [digitAt, hh, hl, bind, Except.bind]
        exact .stray [high] rfl (by simpa using isHigh.symm) isLow.symm
      | some l =>
        rw [hl] at isLow
        obtain ⟨smallLow, shownLow⟩ := valueLow l hl
        simp only [digitAt, hh, hl, bind, Except.bind, pure, Except.pure]
        generalize decodePairs (position + 2) rest = result at behind ⊢
        -- a stray byte further on is reported at its place in the whole text
        cases behind with
        | read valid shown =>
          refine .read (by simpa [← isHigh, ← isLow] using valid) ?_
          simp only [encode_pair .upper smallHigh smallLow, List.map_cons, shownHigh, shownLow, shown]
        | stray before parts valid invalid =>
          have place : position + 2 + before.length = position + (high :: low :: before).length := by
            simp only [List.length_cons]
            omega
          rw [place]
          exact .stray _ (by rw [parts]; rfl) (by simpa [← isHigh, ← isLow] using valid) invalid
  | case2 digits _ short =>
    cases digits with
    | nil => exact .read (by simp) rfl
    | cons high behind =>
      cases behind with
      | nil => cases even
      | cons low rest => exact (short high low rest rfl).elim

end Hex

/-! ## Texts -/

namespace Digest

open Text (char)

inductive Reading (s : String) : Except ValueError Digest → Prop
  | odd (odd : (Text.utf8 s).length % 2 = 1) : Reading s (.error (.invalidHex .oddLength))
  | stray {before behind : Bytes} {b : UInt8} (even : (Text.utf8 s).length % 2 = 0)
      (parts : Text.utf8 s = before ++ b :: behind)
      (valid : ∀ d ∈ before, (char d).isHexDigit) (invalid : (char b).isHexDigit = false) :
      Reading s (.error (.invalidHex (.badDigit b before.length)))
  | length {n : Nat} (valid : ∀ b ∈ Text.utf8 s, (char b).isHexDigit)
      (even : (Text.utf8 s).length = 2 * n) (wrong : n ≠ 32) :
      Reading s (.error (.invalidLength 32 n))
  | digest {d : Digest} (valid : ∀ b ∈ Text.utf8 s, (char b).isHexDigit)
      (full : (Text.utf8 s).length = 64) (shown : d.text = s.toUpper) : Reading s (.ok d)

/-- Bytes whose digits are those of a text in capitals are shown as the text in capitals. -/
theorem text_eq_toUpper {s : String} {bytes : Bytes}
    (valid : ∀ b ∈ Text.utf8 s, (char b).isHexDigit)
    (shown : (Hex.encode .upper bytes).map char = (Text.utf8 s).map fun b => (char b).toUpper) :
    Hex.text .upper bytes = s.toUpper := by
  have upper : s.toUpper.toList = s.toList.map Char.toUpper := String.toList_map
  rw [← String.toList_inj, Hex.text, Text.toList_ascii, shown, upper,
    Text.toList_eq_map_utf8 fun b hb => Text.lt_of_isHexDigit (valid b hb), List.map_map]
  rfl

theorem reading_ofText (s : String) : Reading s (ofText s) := by
  rw [ofText, ofDigits, Hex.decode]
  by_cases odd : (Text.utf8 s).length % 2 = 1
  · rw [if_pos odd]
    exact .odd odd
  · have even : (Text.utf8 s).length % 2 = 0 := by omega
    have outcome := Hex.outcome_decodePairs 0 even
    rw [if_neg odd]
    generalize Hex.decodePairs 0 (Text.utf8 s) = result at outcome
    cases outcome with
    | stray before parts valid invalid =>
      rw [Nat.zero_add]
      exact .stray even parts valid invalid
    | @read bytes valid shown =>
      have count : 2 * bytes.length = (Text.utf8 s).length := by
        have lengths := congrArg List.length shown
        rwa [List.length_map, List.length_map, Hex.length_encode] at lengths
      simp only [ofBytes]
      split
      · next full => exact .digest valid (by omega) (text_eq_toUpper valid shown)
      · next wrong => exact .length valid count.symm wrong

theorem Reading.exists_ok_iff {s : String} {r : Except ValueError Digest} (h : Reading s r) :
    (∃ d, r = .ok d) ↔ (Text.utf8 s).length = 64 ∧ ∀ b ∈ Text.utf8 s, (char b).isHexDigit := by
  cases h with
  | odd odd => exact iff_of_false nofun fun h => by omega
  | @stray before behind b even parts valid invalid =>
    refine iff_of_false nofun fun h => ?_
    have hb := h.2 b (by simp [parts])
    rw [invalid] at hb
    cases hb
  | length valid even wrong => exact iff_of_false nofun fun h => by omega
  | digest valid full shown => exact iff_of_true ⟨_, rfl⟩ ⟨full, valid⟩

theorem Reading.exists_invalidHex_iff {s : String} {r : Except ValueError Digest}
    (h : Reading s r) : (∃ cause, r = .error (.invalidHex cause)) ↔
      (Text.utf8 s).length % 2 = 1 ∨ ∃ b ∈ Text.utf8 s, ¬ (char b).isHexDigit := by
  have proper : (Text.utf8 s).length % 2 = 0 → (∀ b ∈ Text.utf8 s, (char b).isHexDigit) →
      ¬ ((Text.utf8 s).length % 2 = 1 ∨ ∃ b ∈ Text.utf8 s, ¬ (char b).isHexDigit) := by
    rintro even valid (odd | ⟨b, hb, invalid⟩)
    · omega
    · exact invalid (valid b hb)
  cases h with
  | odd odd => exact iff_of_true ⟨_, rfl⟩ (.inl odd)
  | @stray before behind b even parts valid invalid =>
    exact iff_of_true ⟨_, rfl⟩ (.inr ⟨b, by simp [parts], by simp [invalid]⟩)
  | length valid even wrong => exact iff_of_false nofun (proper (by omega) valid)
  | digest valid full shown => exact iff_of_false nofun (proper (by omega) valid)

/-! ## The order -/

theorem text_lt_of_compare {a b : Digest} (h : compare a b = .lt) : a.text < b.text := by
  rw [← compare_digits, Bytes.compare_eq_lt_iff] at h
  rw [String.lt_iff, text, text, Hex.text, Hex.text, Text.toList_ascii, Text.toList_ascii]
  exact List.map_lt (fun _ _ => Text.char_lt_char) h

theorem compare_eq_lt_iff {a b : Digest} : compare a b = .lt ↔ a.text < b.text := by
  constructor
  · exact text_lt_of_compare
  · intro before
    cases h : compare a b with
    | lt => rfl
    | eq =>
      obtain rfl : a = b := ext (Std.LawfulEqOrd.eq_of_compare h)
      exact (String.lt_irrefl _ before).elim
    | gt =>
      have after : compare b.bytes a.bytes = .lt := Std.OrientedCmp.lt_of_gt h
      exact (String.lt_asymm before (text_lt_of_compare after)).elim

/-! ## All together -/

/-- A text is read as a digest exactly if it is 64 hexadecimal digits, and the digest is shown as the same
text in capitals. A text of an odd number of bytes, or with a byte that is no digit, is refused as no
hexadecimal, and any other is refused for its length, which is reported in pairs of digits. Every digest
comes back from its own text, and digests are ordered as their texts are. -/
theorem text_exact :
    (∀ s, (∃ d, ofText s = .ok d) ↔ s.length = 64 ∧ ∀ c ∈ s.toList, c.isHexDigit) ∧
    (∀ s d, ofText s = .ok d → d.text = s.toUpper) ∧
    (∀ s, (∃ cause, ofText s = .error (.invalidHex cause)) ↔
      (Text.utf8 s).length % 2 = 1 ∨ ∃ b ∈ Text.utf8 s, ¬ (char b).isHexDigit) ∧
    (∀ s, (∀ d, ofText s ≠ .ok d) → (∀ cause, ofText s ≠ .error (.invalidHex cause)) →
      ofText s = .error (.invalidLength 32 ((Text.utf8 s).length / 2))) ∧
    (∀ d, ofText d.text = .ok d) ∧
    ∀ a b : Digest, compare a b = .lt ↔ a.text < b.text := by
  refine ⟨fun s => ?_, fun s d h => ?_, fun s => (reading_ofText s).exists_invalidHex_iff,
    fun s unread hex => ?_, ofText_text, fun _ _ => compare_eq_lt_iff⟩
  · rw [(reading_ofText s).exists_ok_iff, ← Text.isHexDigit_utf8_iff]
    refine and_congr_left fun valid => ?_
    rw [Text.length_utf8_of_isHexDigit valid]
  · have reading := reading_ofText s
    rw [h] at reading
    cases reading with
    | digest valid full shown => exact shown
  · have reading := reading_ofText s
    generalize ofText s = r at reading unread hex ⊢
    cases reading with
    | odd => exact (hex _ rfl).elim
    | stray => exact (hex _ rfl).elim
    | length valid even wrong => rw [even, Nat.mul_div_cancel_left _ (by decide)]
    | digest => exact (unread _ rfl).elim

def mixedText : String := String.ofList (List.replicate 32 ['a', 'B']).flatten

/-- Letters of either case are read and shown in capitals; digits that are too few are reported as such. -/
theorem text_exact_mixed :
    (∃ d, ofText mixedText = .ok d ∧ d.text = mixedText.toUpper) ∧
    (∀ cause, ofText "c0de" ≠ .error (.invalidHex cause)) ∧
    ofText "c0de" = .error (.invalidLength 32 2) := by
  obtain ⟨read, shown, hex, other, -⟩ := text_exact
  have letters : mixedText.toList = (List.replicate 32 ['a', 'B']).flatten := String.toList_ofList
  have digits : ∀ c ∈ mixedText.toList, c.isHexDigit := by
    intro c hc
    rw [letters] at hc
    obtain ⟨pair, hp, hc⟩ := List.mem_flatten.1 hc
    rw [List.eq_of_mem_replicate hp] at hc
    rcases List.mem_cons.1 hc with rfl | hc
    · rfl
    · rw [List.eq_of_mem_singleton hc]
      rfl
  obtain ⟨d, hd⟩ := (read mixedText).2 ⟨String.length_ofList, digits⟩
  have valid : ∀ cause, ofText "c0de" ≠ .error (.invalidHex cause) := fun cause h =>
    absurd ((hex "c0de").1 ⟨cause, h⟩) (by decide +kernel)
  have unread : ∀ d, ofText "c0de" ≠ .ok d := fun d h =>
    absurd ((read "c0de").1 ⟨d, h⟩) (by decide +kernel)
  exact ⟨⟨d, hd, shown _ _ hd⟩, valid, other _ unread valid⟩

end Digest

end Settlement
