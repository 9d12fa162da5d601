import Settlement.Json.Codec

/-!
# Codecs that read what they write

A codec is faithful if reading what it wrote gives the value back and stops right behind it. Nothing
marks the end of a number but what follows it, so that is promised only where a text may break off after
a value (`Ends`). A list tells an element from its closing bracket by the first byte, so what is written
also has to begin with a byte that starts a value (`Opens`).

Results:
* `Faithful.decode_encode`: a whole text that was written for a value denotes that value.
* `Faithful.refine`, `Faithful.rename`: a type that is written as another type is as faithful.
* `Number.read_signed`: an integer of 64 bits, signed or unsigned, is read back from its digits.
* `integerCodec_reads`: the same between any two bounds in that range; with it the codecs of bytes and of
  words of every width.
* `wideCodec_faithful`: numbers of 128 bits, which are read as digits only.
* `readTextBody_escaped`: a text is read back from between its quotes, whatever its characters.
* `textCodec_faithful`, and with it the codecs of digests, addresses and escrow names.
-/
namespace Settlement

namespace Json

/-! ## Blanks and marks -/

theorem skipBlank_cons {b : UInt8} (h : isBlank b = false) (rest : Bytes) :
    skipBlank (b :: rest) = b :: rest := by
  simp [skipBlank, h]

@[simp] theorem Mark.not_blank (mark : Mark) : isBlank mark.byte = false := by
  cases mark <;> rfl

@[simp] theorem skipBlank_mark (mark : Mark) (rest : Bytes) :
    skipBlank (mark.byte :: rest) = mark.byte :: rest :=
  skipBlank_cons mark.not_blank rest

@[simp] theorem expectMark_self (mark : Mark) (rest : Bytes) :
    expectMark mark (mark.byte :: rest) = .ok rest := by
  simp [expectMark]

theorem Mark.byte_inj {a b : Mark} : a.byte = b.byte ↔ a = b := by
  cases a <;> cases b <;> decide

/-! ## Faithful codecs -/

/-- Whether a text may break off here: nothing follows, or a mark that comes after values. -/
def Ends (rest : Bytes) : Prop :=
  ∀ b ∈ rest.head?, b = Mark.comma.byte ∨ b = Mark.closeList.byte ∨ b = Mark.closeObject.byte

theorem ends_nil : Ends [] := by
  intro b hb
  cases hb

theorem ends_comma (rest : Bytes) : Ends (Mark.comma.byte :: rest) := by
  intro b hb
  cases hb
  exact .inl rfl

theorem ends_closeList (rest : Bytes) : Ends (Mark.closeList.byte :: rest) := by
  intro b hb
  cases hb
  exact .inr (.inl rfl)

theorem ends_closeObject (rest : Bytes) : Ends (Mark.closeObject.byte :: rest) := by
  intro b hb
  cases hb
  exact .inr (.inr rfl)

/-- Whether a text begins with a byte that can start a value. -/
def Opens (text : Bytes) : Prop :=
  ∃ b rest, text = b :: rest ∧ isBlank b = false ∧ b ≠ Mark.closeList.byte

theorem opens_mark {mark : Mark} (h : mark ≠ .closeList) (rest : Bytes) :
    Opens (mark.byte :: rest) :=
  ⟨mark.byte, rest, rfl, mark.not_blank, fun he => h (Mark.byte_inj.1 he)⟩

theorem Opens.append {text : Bytes} (h : Opens text) (rest : Bytes) : Opens (text ++ rest) := by
  obtain ⟨b, more, rfl, hb, hc⟩ := h
  exact ⟨b, more ++ rest, rfl, hb, hc⟩

theorem Opens.skipBlank {text : Bytes} (h : Opens text) : skipBlank text = text := by
  obtain ⟨b, more, rfl, hb, -⟩ := h
  exact skipBlank_cons hb more

theorem Opens.length_pos {text : Bytes} (h : Opens text) : 0 < text.length := by
  obtain ⟨b, more, rfl, -⟩ := h
  simp

namespace Codec

variable {α β : Type}

/-- A codec reads what it writes, and stops right behind it. -/
structure Faithful (c : Codec α) : Prop where
  opens : ∀ a, Opens (c.write a)
  reads : ∀ a limit rest, Ends rest → (c.write a).length < limit →
    c.read limit (c.write a ++ rest) = .ok (a, rest)

/-- A whole text that was written for a value denotes that value. -/
theorem Faithful.decode_encode {c : Codec α} (h : c.Faithful) (a : α) :
    c.decode (c.encode a) = .ok a := by
  have hr := h.reads a ((c.write a).length + 1) [] ends_nil (by omega)
  rw [List.append_nil] at hr
  simp only [decode, encode, hr, bind, Except.bind]
  rfl

theorem Faithful.map_decode_encode {c : Codec α} (h : c.Faithful) (f : α → β) (a : α) :
    (c.decode (c.encode a)).map f = .ok (f a) := by
  rw [h.decode_encode]
  rfl

theorem Faithful.encode_injective {c : Codec α} (h : c.Faithful) {a b : α}
    (he : c.encode a = c.encode b) : a = b := by
  have ha := h.decode_encode a
  rw [he, h.decode_encode b] at ha
  cases ha
  rfl

theorem Faithful.refine {c : Codec β} (h : c.Faithful) {toBase : α → β}
    {ofBase : β → Except Fault α} (back : ∀ a, ofBase (toBase a) = .ok a) :
    (c.refine toBase ofBase).Faithful where
  opens a := h.opens (toBase a)
  reads a limit rest hrest hl := by
    have hr := h.reads (toBase a) limit rest hrest hl
    simp only [Codec.refine, hr, back, bind, Except.bind, pure, Except.pure]

theorem Faithful.rename {c : Codec β} (h : c.Faithful) {toBase : α → β} {ofBase : β → α}
    (back : ∀ a, ofBase (toBase a) = a) : (c.rename toBase ofBase).Faithful :=
  h.refine fun a => by rw [back]

end Codec

end Json

/-!
## Integers are read back

An integer is written in digits without leading zeros and read as a number literal. What may follow a
value is no digit, no point and no exponent, so the literal ends where the digits do, and it has neither
fraction nor exponent: it denotes the integer itself.
-/

namespace Decimal

/-- No number but zero is written with a zero in front. -/
theorem head?_digits {n : Nat} (h : 0 < n) : (digits n).head? ≠ some 0x30 := by
  induction n using Nat.strongRecOn with
  | ind n ih =>
    by_cases hn : n < 10
    · have all : ∀ n, n < 10 → 0 < n →
          ([UInt8.ofNat n.digitChar.toNat] : Bytes).head? ≠ some 0x30 := by decide
      rw [digits, Nat.toDigits_of_lt_base hn]
      exact all n hn h
    · have hq := ih (n / 10) (by omega) (by omega)
      have hd : digits n = digits (n / 10) ++ [UInt8.ofNat (n % 10).digitChar.toNat] := by
        rw [digits, Nat.toDigits_of_base_le (by omega) (by omega), List.map_append]
        rfl
      obtain ⟨b, rest, hb⟩ := List.exists_cons_of_ne_nil (digits_ne_nil (n / 10))
      rw [hb] at hq
      rw [hd, hb]
      exact hq

theorem digits_eq_cons (n : Nat) : ∃ b rest, digits n = b :: rest ∧ isDigit b = true := by
  cases h : digits n with
  | nil => exact absurd h (digits_ne_nil n)
  | cons b rest => exact ⟨b, rest, rfl, isDigit_digits n b (by simp [h])⟩

theorem isDigit_apart {b : UInt8} (h : isDigit b = true) :
    b ≠ 0x2D ∧ Json.isBlank b = false ∧ b ≠ Json.Mark.closeList.byte := by
  refine ⟨?_, ?_, ?_⟩
  · rintro rfl
    cases h
  · rw [Bool.eq_false_iff]
    intro hb
    simp only [Json.isBlank, Bool.or_eq_true, decide_eq_true_eq] at hb
    rcases hb with ((rfl | rfl) | rfl) | rfl <;> cases h
  · rintro rfl
    cases h

end Decimal

namespace Json

/-! ### Where a literal ends -/

theorem Ends.cases {rest : Bytes} (h : Ends rest) :
    rest = [] ∨ ∃ more, rest = Mark.comma.byte :: more ∨ rest = Mark.closeList.byte :: more ∨
      rest = Mark.closeObject.byte :: more := by
  cases rest with
  | nil => exact .inl rfl
  | cons b more =>
    rcases h b rfl with rfl | rfl | rfl
    · exact .inr ⟨more, .inl rfl⟩
    · exact .inr ⟨more, .inr (.inl rfl)⟩
    · exact .inr ⟨more, .inr (.inr rfl)⟩

theorem splitDigits_of_ends {rest : Bytes} (h : Ends rest) : splitDigits rest = ([], rest) := by
  rcases h.cases with rfl | ⟨more, rfl | rfl | rfl⟩ <;> rfl

theorem readFraction_of_ends {rest : Bytes} (h : Ends rest) :
    readFraction rest = .ok (none, rest) := by
  rcases h.cases with rfl | ⟨more, rfl | rfl | rfl⟩ <;> rfl

theorem readExponent_of_ends {rest : Bytes} (h : Ends rest) :
    readExponent rest = .ok (none, rest) := by
  rcases h.cases with rfl | ⟨more, rfl | rfl | rfl⟩ <;> rfl

theorem splitDigits_digits (n : Nat) {rest : Bytes} (h : Ends rest) :
    splitDigits (Decimal.digits n ++ rest) = (Decimal.digits n, rest) := by
  have hs := splitDigits_of_ends h
  simp only [splitDigits, Prod.mk.injEq] at hs ⊢
  rw [List.takeWhile_append_of_pos (Decimal.isDigit_digits n),
    List.dropWhile_append_of_pos (Decimal.isDigit_digits n), hs.1, hs.2, List.append_nil]
  exact ⟨rfl, rfl⟩

theorem readWhole_digits (n : Nat) {rest : Bytes} (h : Ends rest) :
    readWhole (Decimal.digits n ++ rest) = .ok (Decimal.digits n, rest) := by
  have hr : readDigits (Decimal.digits n ++ rest) = .ok (Decimal.digits n, rest) := by
    rw [readDigits, splitDigits_digits n h]
    obtain ⟨b, more, hb, -⟩ := Decimal.digits_eq_cons n
    rw [hb]
  have hz : ¬ ((Decimal.digits n).length > 1 ∧ (Decimal.digits n).head? = some 0x30) := by
    rintro ⟨hl, hh⟩
    by_cases hn : 0 < n
    · exact Decimal.head?_digits hn hh
    · have : n = 0 := by omega
      subst this
      exact absurd hl (by decide)
  simp only [readWhole, hr, bind, Except.bind, if_neg hz]
  rfl

/-! ### Integers -/

/-- The literal that an integer is written as. -/
def Literal.ofInt (i : Int) : Literal :=
  ⟨i < 0, Decimal.digits i.natAbs, none, none⟩

theorem Literal.read_signed (i : Int) {rest : Bytes} (h : Ends rest) :
    Literal.read (Decimal.signed i ++ rest) = .ok (Literal.ofInt i, rest) := by
  cases i with
  | ofNat n =>
    obtain ⟨b, more, hb, hd⟩ := Decimal.digits_eq_cons n
    have hw := readWhole_digits n h
    have hm := (Decimal.isDigit_apart hd).1
    rw [hb, List.cons_append] at hw
    rw [Decimal.signed, hb, List.cons_append, Literal.read]
    · simp only [hw, readFraction_of_ends h, readExponent_of_ends h, bind, Except.bind, pure,
        Except.pure, Literal.ofInt, Int.ofNat_eq_natCast, Int.natAbs_natCast, hb]
      rw [decide_eq_false (by omega)]
    · intro more' he
      exact hm (List.cons.inj he).1
  | negSucc n =>
    simp only [Literal.read, Decimal.signed, List.cons_append, readWhole_digits (n + 1) h,
      readFraction_of_ends h, readExponent_of_ends h, bind, Except.bind, pure, Except.pure,
      Literal.ofInt, Int.natAbs_negSucc, Nat.succ_eq_add_one]
    rw [decide_eq_true (Int.negSucc_lt_zero n)]

/-- The integers of 64 bits, signed or unsigned. -/
def Readable (i : Int) : Prop := -9223372036854775808 ≤ i ∧ i < 18446744073709551616

theorem Literal.integer?_ofInt {i : Int} (h : Readable i) : (Literal.ofInt i).integer? = some i := by
  obtain ⟨hl, hh⟩ := h
  simp only [Literal.integer?, Literal.ofInt, Decimal.value_digits, Option.isSome_none,
    Bool.false_eq_true, or_self, if_false, decide_eq_true_eq]
  split
  · rw [if_pos (by omega), Option.some.injEq]
    omega
  · have hs : UInt64.size = 18446744073709551616 := rfl
    rw [if_pos (by omega), Option.some.injEq]
    omega

theorem Number.read_signed {i : Int} (hi : Readable i) {rest : Bytes} (h : Ends rest) :
    Number.read (Decimal.signed i ++ rest) = .ok (.integer i, rest) := by
  simp only [Number.read, Literal.read_signed i h, bind, Except.bind, Literal.integer?_ofInt hi]
  rfl

theorem signed_eq_cons (i : Int) :
    ∃ b rest, Decimal.signed i = b :: rest ∧ startsNumber b = true ∧ isBlank b = false ∧
      b ≠ Mark.closeList.byte := by
  cases i with
  | ofNat n =>
    obtain ⟨b, rest, hb, hd⟩ := Decimal.digits_eq_cons n
    obtain ⟨-, hk, hc⟩ := Decimal.isDigit_apart hd
    exact ⟨b, rest, hb, by simp [startsNumber, hd], hk, hc⟩
  | negSucc n => exact ⟨0x2D, _, rfl, by decide, by decide, by decide⟩

theorem opens_signed (i : Int) : Opens (Decimal.signed i) := by
  obtain ⟨b, rest, hb, -, hk, hc⟩ := signed_eq_cons i
  exact ⟨b, rest, hb, hk, hc⟩

/-- An integer between bounds in the range of 64 bits is read back from its digits. -/
theorem integerCodec_reads (expected : String) {low high : Int} (hlow : -9223372036854775808 ≤ low)
    (hhigh : high < 18446744073709551616) {i : Int} (hi : low ≤ i ∧ i ≤ high) {rest : Bytes}
    (h : Ends rest) (limit : Nat) :
    (integerCodec expected low high).read limit (Decimal.signed i ++ rest) = .ok (i, rest) := by
  have hn := Number.read_signed (i := i) ⟨by omega, by omega⟩ h
  obtain ⟨b, more, hb, hs, hk, -⟩ := signed_eq_cons i
  change readInteger expected low high (Decimal.signed i ++ rest) = _
  rw [hb, List.cons_append] at hn ⊢
  rw [readInteger, skipBlank_cons hk]
  simp only [hs, if_true, hn, bind, Except.bind, if_pos hi]
  rfl

theorem integerCodec_faithful {α : Type} {expected : String} {low high : Int}
    (hlow : -9223372036854775808 ≤ low) (hhigh : high < 18446744073709551616) {toInt : α → Int}
    {ofInt : Int → α} (bounds : ∀ a, low ≤ toInt a ∧ toInt a ≤ high)
    (back : ∀ a, ofInt (toInt a) = a) :
    ((integerCodec expected low high).rename toInt ofInt).Faithful where
  opens a := opens_signed (toInt a)
  reads a limit rest h _ := by
    have hr := integerCodec_reads expected hlow hhigh (bounds a) h limit
    change ((integerCodec expected low high).rename toInt ofInt).read limit
      (Decimal.signed (toInt a) ++ rest) = _
    simp only [Codec.rename, Codec.refine, hr, back, bind, Except.bind, pure, Except.pure]

theorem byteCodec_faithful : byteCodec.Faithful :=
  integerCodec_faithful (by decide) (by decide)
    (fun n => by have := n.toNat_lt; omega) fun n => by simp

theorem uint32Codec_faithful : uint32Codec.Faithful :=
  integerCodec_faithful (by decide) (by decide)
    (fun n => by have := n.toNat_lt; omega) fun n => by simp

theorem uint64Codec_faithful : uint64Codec.Faithful :=
  integerCodec_faithful (by decide) (by decide)
    (fun n => by have := n.toNat_lt; omega) fun n => by simp

theorem int32Codec_faithful : int32Codec.Faithful :=
  integerCodec_faithful (by decide) (by decide)
    (fun n => by have := n.le_toInt; have := n.toInt_lt; omega) fun n => by simp

theorem int64Codec_faithful : int64Codec.Faithful :=
  integerCodec_faithful (by decide) (by decide)
    (fun n => by have := n.le_toInt; have := n.toInt_lt; omega) fun n => by simp

theorem wideCodec_faithful : wideCodec.Faithful where
  opens n := opens_signed n.toNat
  reads n limit rest h _ := by
    change readWide (Decimal.digits n.toNat ++ rest) = _
    have hd : skipBlank (Decimal.digits n.toNat ++ rest) = Decimal.digits n.toNat ++ rest :=
      ((opens_signed n.toNat).append rest).skipBlank
    simp only [readWide, hd, readWhole_digits n.toNat h, bind, Except.bind, Decimal.value_digits,
      BitVec.ofNat_toNat, BitVec.setWidth_eq, if_true]
    rfl

end Json

/-!
## Strings are read back

Reading a string works off one escaped byte after another, so the round trip of a text is an induction
over its bytes, and its step is `readBytes?_escapeByte`: the escaped form of a byte, at the front of any
text, is read as that byte.
-/

namespace Json

/-- The two digits of a control character without a letter denote that character. -/
theorem unit_control {b : UInt8} (h : b < 0x20) :
    unit? 0x30 0x30 (Hex.digit .lower (b.toNat / 16)) (Hex.digit .lower (b.toNat % 16)) =
      some b.toNat := by
  have hb := b.toNat_lt
  have hn : b.toNat < 32 := UInt8.lt_iff_toNat_lt.1 h
  rw [unit?, Hex.value?_digit .lower (show b.toNat / 16 < 16 by omega),
    Hex.value?_digit .lower (show b.toNat % 16 < 16 by omega)]
  have hz : Hex.value? 0x30 = some 0 := rfl
  simp only [hz, Option.bind_eq_bind, Option.bind_some, Option.pure_def, Option.some.injEq]
  omega

/-- A unit below the surrogates, outside any pair, is a character of its own. -/
theorem joinUnit_control {b : UInt8} (h : b < 0x20) :
    joinUnit? none b.toNat = some (.bytes [b]) := by
  have hn : b.toNat < 32 := UInt8.lt_iff_toNat_lt.1 h
  have all : ∀ n, n < 32 → scalarBytes n = [UInt8.ofNat n] := by decide
  rw [joinUnit?, if_neg (by omega), if_neg (by omega), all _ hn, UInt8.ofNat_toNat]

theorem unescapeLetter_escapeLetter {b letter : UInt8} (h : escapeLetter? b = some letter) :
    unescapeLetter? letter = some b ∧ letter ≠ 0x75 := by
  unfold escapeLetter? at h
  repeat' split at h
  all_goals cases h
  all_goals
    subst b
    decide

theorem readBytes?_letter {letter c : UInt8} (hu : letter ≠ 0x75)
    (hc : unescapeLetter? letter = some c) (done rest : Bytes) :
    readBytes? none done (0x5C :: letter :: rest) = readBytes? none (c :: done) rest := by
  rw [readBytes?.eq_def]
  simp only [Mark.byte, if_true, if_neg hu, hc]

theorem readBytes?_escapeByte (b : UInt8) (done rest : Bytes) :
    readBytes? none done (escapeByte b ++ rest) = readBytes? none (b :: done) rest := by
  unfold escapeByte
  split
  · rename_i hb
    have hu : unescapeLetter? b = some b := by
      rcases hb with rfl | rfl <;> rfl
    have hn : b ≠ 0x75 := by
      rcases hb with rfl | rfl <;> decide
    exact readBytes?_letter hn hu done rest
  · rename_i hb
    split
    · rename_i hc
      cases hl : escapeLetter? b with
      | some letter =>
        obtain ⟨hu, hn⟩ := unescapeLetter_escapeLetter hl
        exact readBytes?_letter hn hu done rest
      | none =>
        simp only [List.cons_append, List.nil_append]
        rw [readBytes?.eq_def]
        simp only [Mark.byte, if_true, unit_control hc, Option.bind_some, joinUnit_control hc,
          List.reverse_singleton, List.singleton_append]
    · rename_i hc
      have hs : b ≠ Mark.backslash.byte := fun h => hb (.inr h)
      have hq : b ≠ Mark.quote.byte := fun h => hb (.inl h)
      rw [List.singleton_append, readBytes?.eq_def]
      simp only [if_neg hs, if_neg hq, if_neg hc, Option.isSome_none, Bool.false_eq_true, if_false]

theorem readBytes?_escaped (bytes done rest : Bytes) :
    readBytes? none done (bytes.flatMap escapeByte ++ Mark.quote.byte :: rest) =
      some (done.reverse ++ bytes, rest) := by
  induction bytes generalizing done with
  | nil =>
    rw [List.flatMap_nil, List.nil_append, List.append_nil, readBytes?.eq_def]
    rfl
  | cons b bytes ih =>
    rw [List.flatMap_cons, List.append_assoc, readBytes?_escapeByte, ih, List.reverse_cons,
      List.append_assoc, List.singleton_append]

/-- The text between the quotes is read back, and the closing quote is passed. -/
theorem readTextBody_escaped (s : String) (rest : Bytes) :
    readTextBody ((Text.utf8 s).flatMap escapeByte ++ Mark.quote.byte :: rest) = .ok (s, rest) := by
  rw [readTextBody, readBytes?_escaped]
  simp only [List.reverse_nil, List.nil_append, Text.ofUtf8?_utf8]

theorem writeText_append (s : String) (rest : Bytes) :
    writeText s ++ rest =
      Mark.quote.byte :: ((Text.utf8 s).flatMap escapeByte ++ Mark.quote.byte :: rest) := by
  simp only [writeText, List.cons_append, List.append_assoc, List.nil_append]

theorem opens_writeText (s : String) : Opens (writeText s) :=
  opens_mark (by decide) _

/-! ### Texts and what is written as text -/

theorem textCodec_faithful : textCodec.Faithful where
  opens := opens_writeText
  reads s limit rest _ _ := by
    change readText (writeText s ++ rest) = _
    rw [writeText_append, readText, skipBlank_mark]
    simp only [if_true, readTextBody_escaped]

theorem digestCodec_faithful : digestCodec.Faithful :=
  textCodec_faithful.refine fun d => by rw [Digest.ofText_text]

theorem addressCodec_faithful : addressCodec.Faithful :=
  textCodec_faithful.rename fun _ => rfl

theorem escrowIdCodec_faithful : escrowIdCodec.Faithful :=
  textCodec_faithful.rename fun _ => rfl

end Json

end Settlement
