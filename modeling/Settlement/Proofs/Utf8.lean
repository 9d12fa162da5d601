import Mathlib.Data.List.Forall2
import Settlement.Text.Utf8

/-!
# Well-formed UTF-8

A text's bytes are those of its characters, one after the other. Which bytes a character can have is the
table `followers?` of the Unicode standard: a lead byte says how many bytes are behind it and in what ranges,
so that overlong forms, surrogates, scalars past the last and characters broken off are all left out.
`WellFormed` reads a byte string by this table and knows nothing of texts.

Results:
* `utf8_eq_flatMap`, `utf8_injective`: the bytes of a text, and that they are those of no other.
* `matches_of_utf8EncodeChar`, `Matches.exists_utf8EncodeChar`: the bytes of one character are those that
  fit the table.
* `wellFormed_iff`: the bytes of texts are the well-formed ones.
* `ofUtf8?_eq_some_iff`: reading finds the text of these bytes.
-/
namespace Settlement.Text

/-! ## The bytes of a text -/

theorem utf8_injective {s t : String} (h : utf8 s = utf8 t) : s = t := by
  have hs := ofUtf8?_utf8 s
  rw [h, ofUtf8?_utf8] at hs
  exact (Option.some.inj hs).symm

theorem utf8_eq_flatMap (s : String) : utf8 s = s.toList.flatMap String.utf8EncodeChar := by
  have h := String.toByteArray_ofList (l := s.toList)
  rw [String.ofList_toList] at h
  simp [utf8, h, List.utf8Encode]

theorem utf8_append (s t : String) : utf8 (s ++ t) = utf8 s ++ utf8 t := by
  simp [utf8, String.toByteArray_append]

theorem utf8_eq_nil_iff {s : String} : utf8 s = [] ↔ s = "" :=
  ⟨fun h => utf8_injective h, fun h => h ▸ rfl⟩

/-- Reading gives the one text that has these bytes. -/
theorem ofUtf8?_eq_some_iff {bytes : Bytes} {s : String} :
    ofUtf8? bytes = some s ↔ utf8 s = bytes := by
  constructor
  · intro h
    rw [ofUtf8?, String.fromUTF8?] at h
    split at h
    · rw [← Option.some.inj h]
      simp [utf8, String.fromUTF8]
    · cases h
  · rintro rfl
    exact ofUtf8?_utf8 s

/-! ## The table -/

/-- Every byte lies in the range for its place, and there are as many bytes as ranges. -/
def Fits (ranges : List (UInt8 × UInt8)) (bytes : Bytes) : Prop :=
  List.Forall₂ (fun range b => within range.1 range.2 b) ranges bytes

/-- A lead byte and the bytes behind it are one character by the table. -/
def Matches (lead : UInt8) (tail : Bytes) : Prop :=
  ∃ ranges, followers? lead = some ranges ∧ Fits ranges tail

/-- A sequence of characters, each a lead byte with the bytes that it asks for. -/
inductive WellFormed : Bytes → Prop
  | nil : WellFormed []
  | cons {lead : UInt8} {tail rest : Bytes} (char : Matches lead tail) (more : WellFormed rest) :
      WellFormed (lead :: tail ++ rest)

theorem within_iff {low high b : UInt8} :
    within low high b ↔ low.toNat ≤ b.toNat ∧ b.toNat ≤ high.toNat := by
  simp [within, UInt8.le_iff_toNat_le]

@[simp] theorem fits_nil_iff {bytes : Bytes} : Fits [] bytes ↔ bytes = [] :=
  List.forall₂_nil_left_iff

@[simp] theorem fits_cons_nil {range : UInt8 × UInt8} {ranges : List (UInt8 × UInt8)} :
    Fits (range :: ranges) [] ↔ False :=
  iff_of_false nofun id

@[simp] theorem fits_cons_cons {low high b : UInt8} {ranges : List (UInt8 × UInt8)} {bytes : Bytes} :
    Fits ((low, high) :: ranges) (b :: bytes) ↔
      (low.toNat ≤ b.toNat ∧ b.toNat ≤ high.toNat) ∧ Fits ranges bytes := by
  rw [Fits, List.forall₂_cons, within_iff]
  rfl

theorem followers?_eq (lead : UInt8) : followers? lead =
    if lead.toNat < 128 then some []
    else if 194 ≤ lead.toNat ∧ lead.toNat ≤ 223 then some [(0x80, 0xBF)]
    else if lead.toNat = 224 then some [(0xA0, 0xBF), (0x80, 0xBF)]
    else if lead.toNat = 237 then some [(0x80, 0x9F), (0x80, 0xBF)]
    else if 225 ≤ lead.toNat ∧ lead.toNat ≤ 239 then some [(0x80, 0xBF), (0x80, 0xBF)]
    else if lead.toNat = 240 then some [(0x90, 0xBF), (0x80, 0xBF), (0x80, 0xBF)]
    else if 241 ≤ lead.toNat ∧ lead.toNat ≤ 243 then
      some [(0x80, 0xBF), (0x80, 0xBF), (0x80, 0xBF)]
    else if lead.toNat = 244 then some [(0x80, 0x8F), (0x80, 0xBF), (0x80, 0xBF)]
    else none := by
  simp only [followers?, within_iff, UInt8.lt_iff_toNat_lt, ← UInt8.toNat_inj]
  rfl

theorem matches_one {lead : UInt8} : Matches lead [] ↔ lead.toNat < 128 := by
  rw [Matches, followers?_eq]
  repeat' split
  all_goals simp [*]

theorem matches_two {lead a : UInt8} : Matches lead [a] ↔
    (194 ≤ lead.toNat ∧ lead.toNat ≤ 223) ∧ 128 ≤ a.toNat ∧ a.toNat ≤ 191 := by
  rw [Matches, followers?_eq]
  repeat' split
  all_goals simp only [Option.some.injEq, reduceCtorEq, exists_eq_left', false_and, exists_false,
    fits_cons_cons, fits_cons_nil, fits_nil_iff, UInt8.reduceToNat, and_false, and_true, false_iff]
  all_goals omega

theorem matches_three {lead a b : UInt8} : Matches lead [a, b] ↔
    (224 ≤ lead.toNat ∧ lead.toNat ≤ 239) ∧ (128 ≤ a.toNat ∧ a.toNat ≤ 191) ∧
      (128 ≤ b.toNat ∧ b.toNat ≤ 191) ∧
      (lead.toNat = 224 → 160 ≤ a.toNat) ∧ (lead.toNat = 237 → a.toNat ≤ 159) := by
  rw [Matches, followers?_eq]
  repeat' split
  all_goals simp only [Option.some.injEq, reduceCtorEq, exists_eq_left', false_and, exists_false,
    fits_cons_cons, fits_cons_nil, fits_nil_iff, UInt8.reduceToNat, and_false, and_true, false_iff]
  all_goals omega

theorem matches_four {lead a b d : UInt8} : Matches lead [a, b, d] ↔
    (240 ≤ lead.toNat ∧ lead.toNat ≤ 244) ∧ (128 ≤ a.toNat ∧ a.toNat ≤ 191) ∧
      (128 ≤ b.toNat ∧ b.toNat ≤ 191) ∧ (128 ≤ d.toNat ∧ d.toNat ≤ 191) ∧
      (lead.toNat = 240 → 144 ≤ a.toNat) ∧ (lead.toNat = 244 → a.toNat ≤ 143) := by
  rw [Matches, followers?_eq]
  repeat' split
  all_goals simp only [Option.some.injEq, reduceCtorEq, exists_eq_left', false_and, exists_false,
    fits_cons_cons, fits_nil_iff, UInt8.reduceToNat, and_false, and_true, false_iff]
  all_goals omega

theorem not_matches_five {lead a b d e : UInt8} {more : Bytes} :
    ¬ Matches lead (a :: b :: d :: e :: more) := by
  rw [Matches, followers?_eq]
  repeat' split
  all_goals simp

/-! ## Characters -/

theorem matches_of_utf8EncodeChar {c : Char} {lead : UInt8} {tail : Bytes}
    (h : String.utf8EncodeChar c = lead :: tail) : Matches lead tail := by
  have valid : c.val.toNat < 55296 ∨ 57343 < c.val.toNat ∧ c.val.toNat < 1114112 := c.valid
  unfold String.utf8EncodeChar at h
  simp only at h
  repeat' split at h
  all_goals
    obtain ⟨rfl, rfl⟩ := List.cons.inj h
    simp only [matches_one, matches_two, matches_three, matches_four, UInt8.toNat_ofNat']
    omega

theorem ofNat_eq {n : Nat} {b : UInt8} (h : n = b.toNat) : UInt8.ofNat n = b := by
  rw [h, UInt8.ofNat_toNat]

theorem exists_char {n : Nat} (valid : n < 55296 ∨ 57343 < n ∧ n < 1114112) :
    ∃ c : Char, c.val.toNat = n :=
  ⟨Char.ofNatAux n valid, rfl⟩

/-- Bytes that fit the table are those of a character: the one whose scalar their payload bits write. -/
theorem Matches.exists_utf8EncodeChar {lead : UInt8} {tail : Bytes} (h : Matches lead tail) :
    ∃ c, String.utf8EncodeChar c = lead :: tail := by
  match tail, h with
  | [], h =>
    rw [matches_one] at h
    obtain ⟨c, scalar⟩ := exists_char (n := lead.toNat) (by omega)
    refine ⟨c, ?_⟩
    simp only [String.utf8EncodeChar, scalar]
    rw [if_pos (by omega), ofNat_eq rfl]
  | [a], h =>
    rw [matches_two] at h
    obtain ⟨c, scalar⟩ := exists_char (n := (lead.toNat - 192) * 64 + (a.toNat - 128)) (by omega)
    refine ⟨c, ?_⟩
    simp only [String.utf8EncodeChar, scalar]
    rw [if_neg (by omega), if_pos (by omega), ofNat_eq (b := lead) (by omega),
      ofNat_eq (b := a) (by omega)]
  | [a, b], h =>
    rw [matches_three] at h
    obtain ⟨c, scalar⟩ := exists_char
      (n := (lead.toNat - 224) * 4096 + (a.toNat - 128) * 64 + (b.toNat - 128)) (by omega)
    refine ⟨c, ?_⟩
    simp only [String.utf8EncodeChar, scalar]
    rw [if_neg (by omega), if_neg (by omega), if_pos (by omega), ofNat_eq (b := lead) (by omega),
      ofNat_eq (b := a) (by omega), ofNat_eq (b := b) (by omega)]
  | [a, b, d], h =>
    rw [matches_four] at h
    obtain ⟨c, scalar⟩ := exists_char (n := (lead.toNat - 240) * 262144 + (a.toNat - 128) * 4096
      + (b.toNat - 128) * 64 + (d.toNat - 128)) (by omega)
    refine ⟨c, ?_⟩
    simp only [String.utf8EncodeChar, scalar]
    rw [if_neg (by omega), if_neg (by omega), if_neg (by omega), ofNat_eq (b := lead) (by omega),
      ofNat_eq (b := a) (by omega), ofNat_eq (b := b) (by omega), ofNat_eq (b := d) (by omega)]
  | a :: b :: d :: e :: more, h => exact absurd h not_matches_five

/-! ## Texts -/

theorem wellFormed_utf8 (s : String) : WellFormed (utf8 s) := by
  rw [utf8_eq_flatMap]
  induction s.toList with
  | nil => exact .nil
  | cons c cs ih =>
    rw [List.flatMap_cons]
    cases h : String.utf8EncodeChar c with
    | nil => exact absurd h String.utf8EncodeChar_ne_nil
    | cons lead tail => exact .cons (matches_of_utf8EncodeChar h) ih

/-- Well-formed bytes are those of a text, read off character by character. -/
theorem WellFormed.exists_utf8 {bytes : Bytes} (h : WellFormed bytes) : ∃ s, utf8 s = bytes := by
  induction h with
  | nil => exact ⟨"", rfl⟩
  | cons char _ ih =>
    obtain ⟨c, hc⟩ := char.exists_utf8EncodeChar
    obtain ⟨s, hs⟩ := ih
    refine ⟨String.ofList (c :: s.toList), ?_⟩
    rw [utf8_eq_flatMap, String.toList_ofList, List.flatMap_cons, hc, ← utf8_eq_flatMap, hs]

/-- The well-formed byte strings are those that texts have. -/
theorem wellFormed_iff {bytes : Bytes} : WellFormed bytes ↔ ∃ s, utf8 s = bytes :=
  ⟨WellFormed.exists_utf8, fun ⟨s, h⟩ => h ▸ wellFormed_utf8 s⟩

end Settlement.Text
