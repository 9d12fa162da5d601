import Settlement.Bytes

/-!
# Text as UTF-8 bytes

Addresses, denominations and identifiers are text; keys, records and hash inputs carry their UTF-8
bytes. `utf8` writes, `ofUtf8?` reads and refuses anything that is not well formed, and `lossy`
shows arbitrary bytes to a reader of messages, one replacement character for each longest piece
that could have begun a character.

Results:
* `ofUtf8?_utf8`: text read back from its own bytes is unchanged.
* `utf8_ascii`: a text made of ASCII codes has those codes as its bytes.
-/
namespace Settlement.Text

def utf8 (s : String) : Bytes :=
  s.toByteArray.data.toList

/-- The text whose UTF-8 bytes these are, if they are well formed. -/
def ofUtf8? (bytes : Bytes) : Option String :=
  String.fromUTF8? ⟨bytes.toArray⟩

theorem ofUtf8?_utf8 (s : String) : ofUtf8? (utf8 s) = some s := by
  have h : (⟨(utf8 s).toArray⟩ : ByteArray) = s.toByteArray := by
    simp [utf8]
  simp only [ofUtf8?, h, String.fromUTF8?, s.isValidUTF8, dif_pos]
  rfl

/-! ## Plain ASCII -/

/-- The text whose characters have these codes. -/
def ascii (codes : Bytes) : String :=
  String.ofList (codes.map fun b => Char.ofNat b.toNat)

theorem utf8_ascii {codes : Bytes} (h : ∀ b ∈ codes, b < 0x80) : utf8 (ascii codes) = codes := by
  have one : ∀ n, n < 128 → String.utf8EncodeChar (Char.ofNat n) = [UInt8.ofNat n] := by decide
  have all : (codes.map fun b => Char.ofNat b.toNat).flatMap String.utf8EncodeChar = codes := by
    induction codes with
    | nil => rfl
    | cons b rest ih =>
      have hb : b.toNat < 128 := by
        simpa [UInt8.lt_iff_toNat_lt] using h b (by simp)
      simp only [List.map_cons, List.flatMap_cons, one _ hb, UInt8.ofNat_toNat,
        ih fun b hb => h b (by simp [hb])]
      rfl
  simp only [utf8, ascii, String.toByteArray_ofList, List.utf8Encode, all]
  simp

/-! ## Showing arbitrary bytes -/

def within (low high b : UInt8) : Bool :=
  low ≤ b && b ≤ high

/-- The bytes that may follow a leading byte, position by position; `none` for a byte that leads
no character. Overlong forms, surrogates and scalars past the last are excluded here. -/
def followers? (lead : UInt8) : Option (List (UInt8 × UInt8)) :=
  let tail : UInt8 × UInt8 := (0x80, 0xBF)
  if lead < 0x80 then some []
  else if within 0xC2 0xDF lead then some [tail]
  else if lead = 0xE0 then some [(0xA0, 0xBF), tail]
  else if lead = 0xED then some [(0x80, 0x9F), tail]
  else if within 0xE1 0xEF lead then some [tail, tail]
  else if lead = 0xF0 then some [(0x90, 0xBF), tail, tail]
  else if within 0xF1 0xF3 lead then some [tail, tail, tail]
  else if lead = 0xF4 then some [(0x80, 0x8F), tail, tail]
  else none

/-- How many of the bytes fit the expected ranges before the first that does not. -/
def fitting : List (UInt8 × UInt8) → Bytes → Nat
  | (low, high) :: more, b :: rest => if within low high b then fitting more rest + 1 else 0
  | _, _ => 0

/-- The pieces of a byte string: whole characters, and the longest beginnings of characters that
were broken off, each with whether it is whole. -/
def pieces (fuel : Nat) (bytes : Bytes) : List (Bool × Bytes) :=
  match fuel, bytes with
  | 0, _ => []
  | _, [] => []
  | fuel + 1, lead :: rest =>
    match followers? lead with
    | none => (false, [lead]) :: pieces fuel rest
    | some ranges =>
      let n := fitting ranges rest
      (n == ranges.length, lead :: rest.take n) :: pieces fuel (rest.drop n)

/-- The text with one replacement character for every piece that is not a whole character. -/
def lossy (bytes : Bytes) : String :=
  (pieces bytes.length bytes).foldl
    (fun shown piece =>
      if piece.1 then shown ++ (ofUtf8? piece.2).getD "\uFFFD" else shown.push '\uFFFD') ""

end Settlement.Text
