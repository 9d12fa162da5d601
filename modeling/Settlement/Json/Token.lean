import Settlement.Decimal
import Settlement.Text.Quoted

/-!
# Tokens

What a text in JSON is made of: blanks and punctuation, numbers, strings, and whole values that nobody
asks for. A text that is not JSON, or that breaks off, is `malformed` without further detail; one that is
JSON but not the expected record is refused for the first thing that is wrong in reading order.
-/
namespace Settlement.Json

/-! ## Why a record could not be read -/

/-- What stands in the text where something else was expected. -/
inductive Found
  | boolean (value : Bool)
  | integer (value : Int)
  | real
  | text (value : String)
  | null
  | sequence
  | map
  | bareVariant
  deriving DecidableEq

/-- Why a record could not be read. -/
inductive Fault
  | malformed
  | missingField (name : String)
  | duplicateField (name : String)
  | unknownVariant (name : String) (known : List String)
  | wrongType (found : Found) (expected : String)
  | wrongValue (found : Found) (expected : String)
  | wrongLength (found : Nat) (expected : String)
  | refused (reason : String)
  deriving DecidableEq

/-- A name between the marks that messages put around names. -/
def marked (name : String) : String :=
  "`" ++ name ++ "`"

/-- The wording for what was found; the digits of a number with a fraction or an exponent, or of one
too large for any integer, are not repeated. -/
def Found.message : Found → String
  | .boolean value => "boolean " ++ marked (if value then "true" else "false")
  | .integer value => "integer " ++ marked (Decimal.signedText value)
  | .real => "floating point"
  | .text value => "string " ++ Text.quoted value
  | .null => "null"
  | .sequence => "sequence"
  | .map => "map"
  | .bareVariant => "unit variant"

/-- The wording for a choice of names. -/
def oneOf : List String → String
  | [] => "nothing"
  | [only] => marked only
  | [first, second] => marked first ++ " or " ++ marked second
  | names => "one of " ++ ", ".intercalate (names.map marked)

def Fault.message : Fault → String
  | .malformed => "malformed JSON"
  | .missingField name => "missing field " ++ marked name
  | .duplicateField name => "duplicate field " ++ marked name
  | .unknownVariant name known =>
    "unknown variant " ++ marked name ++ ", expected " ++ oneOf known
  | .wrongType found expected => "invalid type: " ++ found.message ++ ", expected " ++ expected
  | .wrongValue found expected => "invalid value: " ++ found.message ++ ", expected " ++ expected
  | .wrongLength found expected =>
    "invalid length " ++ Decimal.text found ++ ", expected " ++ expected
  | .refused reason => reason

/-!
## Blanks and punctuation

The bytes between tokens, and the single bytes that tokens are set apart by.
-/

/-- Space, tab, line feed and carriage return may stand around any token. -/
def isBlank (b : UInt8) : Bool :=
  b = 0x20 || b = 0x09 || b = 0x0A || b = 0x0D

/-- The text from its next token on. -/
def skipBlank (input : Bytes) : Bytes :=
  input.dropWhile isBlank

/-- The bytes that set tokens apart. -/
inductive Mark
  | openList
  | closeList
  | openObject
  | closeObject
  | comma
  | colon
  | quote
  | backslash
  deriving DecidableEq

def Mark.byte : Mark → UInt8
  | openList => 0x5B
  | closeList => 0x5D
  | openObject => 0x7B
  | closeObject => 0x7D
  | comma => 0x2C
  | colon => 0x3A
  | quote => 0x22
  | backslash => 0x5C

/-- The text after the mark that has to be next. -/
def expectMark (mark : Mark) (input : Bytes) : Except Fault Bytes :=
  match skipBlank input with
  | b :: rest => if b = mark.byte then .ok rest else .error .malformed
  | [] => .error .malformed

/-- The text after a word whose bytes have to be next. -/
def expectWord (word : Bytes) (input : Bytes) : Except Fault Bytes :=
  if word.isPrefixOf input then .ok (input.drop word.length) else .error .malformed

/-!
## Numbers

A number literal is an optional minus sign, digits without superfluous leading zeros, an optional
fraction and an optional exponent. It denotes an integer if it has neither fraction nor exponent and
fits 64 bits, signed or unsigned; everything else, negative zero included, denotes a real, which no
record holds. A literal too large for a double is refused as malformed, so the reader follows the
significand and the exponent that a double would be made from.
-/

/-- What a number literal denotes, as far as integer fields can tell. -/
inductive Number
  | integer (value : Int)
  | real
  deriving DecidableEq

structure Literal where
  negative : Bool
  whole : Bytes
  fraction : Option Bytes
  /-- Whether the exponent is negative, and its digits. -/
  exponent : Option (Bool × Bytes)

/-- The longest run of digits at the front, and the rest. -/
def splitDigits (input : Bytes) : Bytes × Bytes :=
  (input.takeWhile Decimal.isDigit, input.dropWhile Decimal.isDigit)

/-- A run of at least one digit. -/
def readDigits (input : Bytes) : Except Fault (Bytes × Bytes) :=
  match splitDigits input with
  | ([], _) => .error .malformed
  | split => .ok split

/-- Digits of which only a single one may be zero at the front. -/
def readWhole (input : Bytes) : Except Fault (Bytes × Bytes) := do
  let (digits, rest) ← readDigits input
  if digits.length > 1 ∧ digits.head? = some 0x30 then .error .malformed
  else pure (digits, rest)

/-- A point and at least one digit, if a point is next. -/
def readFraction (input : Bytes) : Except Fault (Option Bytes × Bytes) :=
  match input with
  | 0x2E :: rest => do
    let (digits, rest) ← readDigits rest
    pure (some digits, rest)
  | _ => .ok (none, input)

/-- An exponent with an optional sign, if its letter is next. -/
def readExponent (input : Bytes) : Except Fault (Option (Bool × Bytes) × Bytes) :=
  match input with
  | letter :: rest =>
    if letter = 0x65 ∨ letter = 0x45 then do
      let (negative, rest) := match rest with
        | 0x2B :: rest => (false, rest)
        | 0x2D :: rest => (true, rest)
        | rest => (false, rest)
      let (digits, rest) ← readDigits rest
      pure (some (negative, digits), rest)
    else .ok (none, input)
  | [] => .ok (none, input)

def Literal.read (input : Bytes) : Except Fault (Literal × Bytes) := do
  let (negative, input) := match input with
    | 0x2D :: rest => (true, rest)
    | input => (false, input)
  let (whole, input) ← readWhole input
  let (fraction, input) ← readFraction input
  let (exponent, input) ← readExponent input
  pure (⟨negative, whole, fraction, exponent⟩, input)

/-! ### The range of a double -/

/-- The nearest number with 53 significant bits, a tie going to the even one. -/
def roundTo53Bits (n : Nat) : Nat :=
  let extra := n.log2 + 1 - 53
  let unit := 1 <<< extra
  let q := n / unit
  let r := n % unit
  if 2 * r > unit ∨ (2 * r = unit ∧ q % 2 = 1) then (q + 1) * unit else q * unit

/-- A significand of 64 bits and a power of ten. -/
structure Scaled where
  significand : Nat
  exponent : Int

/-- Appends the digits of the whole part. The first digit that no longer fits, and all after it,
only raise the exponent. -/
def Scaled.appendWhole (s : Scaled) : Bytes → Scaled
  | [] => s
  | b :: rest =>
    let next := s.significand * 10 + Decimal.digitValue b
    if next < UInt64.size then Scaled.appendWhole ⟨next, s.exponent⟩ rest
    else ⟨s.significand, s.exponent + (rest.length + 1)⟩

/-- Appends the digits of the fraction, each lowering the exponent. The first digit that no longer
fits, and all after it, are dropped. -/
def Scaled.appendFraction (s : Scaled) : Bytes → Scaled
  | [] => s
  | b :: rest =>
    let next := s.significand * 10 + Decimal.digitValue b
    if next < UInt64.size then Scaled.appendFraction ⟨next, s.exponent - 1⟩ rest else s

/-- Whether the number made from rounding the significand and the power of ten, and then their
product, stays below infinity. -/
def Scaled.isFinite (s : Scaled) : Bool :=
  s.significand = 0 || s.exponent < 0 ||
    (s.exponent ≤ 308 &&
      roundTo53Bits s.significand * roundTo53Bits (Nat.pow 10 s.exponent.toNat)
        < (1 <<< 1024) - (1 <<< 970))

def Literal.scaled (l : Literal) : Scaled :=
  let s := Scaled.appendFraction (Scaled.appendWhole ⟨0, 0⟩ l.whole) (l.fraction.getD [])
  match l.exponent with
  | none => s
  | some (true, digits) => ⟨s.significand, s.exponent - Decimal.value digits⟩
  | some (false, digits) => ⟨s.significand, s.exponent + Decimal.value digits⟩

/-! ### Values -/

def Literal.integer? (l : Literal) : Option Int :=
  let n := Decimal.value l.whole
  if l.fraction.isSome ∨ l.exponent.isSome then none
  else if l.negative then
    if 0 < n ∧ n ≤ 9223372036854775808 then some (-(n : Int)) else none
  else if n < UInt64.size then some n
  else none

def Number.read (input : Bytes) : Except Fault (Number × Bytes) := do
  let (literal, rest) ← Literal.read input
  match literal.integer? with
  | some value => pure (.integer value, rest)
  | none => if literal.scaled.isFinite then pure (.real, rest) else .error .malformed

def startsNumber (b : UInt8) : Bool :=
  b = 0x2D || Decimal.isDigit b

/-!
## Strings

A string is written between quotes. A quote, a backslash and the 32 control characters are escaped;
all other text is written as its UTF-8 bytes. Reading takes any escape of the format, refuses
unescaped control characters and escapes of lone surrogates, and checks at the closing quote that the
bytes are well-formed text.
-/

/-! ### Writing -/

/-- The letter that escapes a control character, for those that have one. -/
def escapeLetter? (b : UInt8) : Option UInt8 :=
  if b = 0x08 then some 0x62
  else if b = 0x09 then some 0x74
  else if b = 0x0A then some 0x6E
  else if b = 0x0C then some 0x66
  else if b = 0x0D then some 0x72
  else none

/-- One byte of a text, escaped if it has to be. -/
def escapeByte (b : UInt8) : Bytes :=
  if b = 0x22 ∨ b = 0x5C then [0x5C, b]
  else if b < 0x20 then
    match escapeLetter? b with
    | some letter => [0x5C, letter]
    | none => [0x5C, 0x75, 0x30, 0x30,
        Hex.digit .lower (b.toNat / 16), Hex.digit .lower (b.toNat % 16)]
  else [b]

def writeText (s : String) : Bytes :=
  Mark.quote.byte :: (Text.utf8 s).flatMap escapeByte ++ [Mark.quote.byte]

/-! ### Reading -/

/-- What a letter after a backslash stands for, for the escapes of a single letter. -/
def unescapeLetter? (b : UInt8) : Option UInt8 :=
  if b = 0x22 ∨ b = 0x5C ∨ b = 0x2F then some b
  else if b = 0x62 then some 0x08
  else if b = 0x66 then some 0x0C
  else if b = 0x6E then some 0x0A
  else if b = 0x72 then some 0x0D
  else if b = 0x74 then some 0x09
  else none

/-- The 16-bit unit that four hexadecimal digits denote. -/
def unit? (p q r s : UInt8) : Option Nat := do
  let p ← Hex.value? p
  let q ← Hex.value? q
  let r ← Hex.value? r
  let s ← Hex.value? s
  pure (((p * 16 + q) * 16 + r) * 16 + s)

def scalarBytes (scalar : Nat) : Bytes :=
  String.utf8EncodeChar (Char.ofNat scalar)

/-- The outcome of an escaped unit: the first half of a surrogate pair, or the bytes of a character. -/
inductive UnitOutcome
  | opens (high : Nat)
  | bytes (bytes : Bytes)

/-- Joins an escaped unit to the first half of a pair that waits for its second half, if one does. -/
def joinUnit? (waiting : Option Nat) (unit : Nat) : Option UnitOutcome :=
  let isHigh := 0xD800 ≤ unit ∧ unit ≤ 0xDBFF
  let isLow := 0xDC00 ≤ unit ∧ unit ≤ 0xDFFF
  match waiting with
  | some high =>
    if isLow then some (.bytes (scalarBytes (0x10000 + (high - 0xD800) * 0x400 + (unit - 0xDC00))))
    else none
  | none =>
    if isHigh then some (.opens unit)
    else if isLow then none
    else some (.bytes (scalarBytes unit))

/-- The bytes of a string whose opening quote has been read, and the rest after its closing quote.
`done` holds the bytes so far, last first; nothing but the second half may follow a first half of a
pair that is `waiting`. -/
def readBytes? (waiting : Option Nat) (done : Bytes) : Bytes → Option (Bytes × Bytes)
  | [] => none
  | b :: rest =>
    if b = Mark.backslash.byte then
      match rest with
      | [] => none
      | letter :: rest =>
        if letter = 0x75 then
          match rest with
          | p :: q :: r :: s :: rest =>
            match (unit? p q r s).bind (joinUnit? waiting) with
            | none => none
            | some (.opens high) => readBytes? (some high) done rest
            | some (.bytes bytes) => readBytes? none (bytes.reverse ++ done) rest
          | _ => none
        else
          match waiting, unescapeLetter? letter with
          | none, some c => readBytes? none (c :: done) rest
          | _, _ => none
    else if waiting.isSome then none
    else if b = Mark.quote.byte then some (done.reverse, rest)
    else if b < 0x20 then none
    else readBytes? none (b :: done) rest

/-- The text of a string whose opening quote has been read. -/
def readTextBody (input : Bytes) : Except Fault (String × Bytes) :=
  match readBytes? none [] input with
  | none => .error .malformed
  | some (bytes, rest) =>
    match Text.ofUtf8? bytes with
    | some s => .ok (s, rest)
    | none => .error .malformed

/-!
## Passing over values

A member that no field is named for is passed over. Its value has to follow the grammar, at any
depth, but numbers may have any size, and strings may hold any bytes and escapes of lone surrogates.
-/

/-- The rest after a string whose opening quote has been read. -/
def skipTextBody : Bytes → Except Fault Bytes
  | [] => .error .malformed
  | b :: rest =>
    if b = Mark.quote.byte then .ok rest
    else if b = Mark.backslash.byte then
      match rest with
      | 0x75 :: p :: q :: r :: s :: rest =>
        if ([p, q, r, s].all fun d => (Hex.value? d).isSome) then skipTextBody rest
        else .error .malformed
      | letter :: rest =>
        if (unescapeLetter? letter).isSome then skipTextBody rest else .error .malformed
      | [] => .error .malformed
    else if b < 0x20 then .error .malformed
    else skipTextBody rest

def nullWord : Bytes := [0x6E, 0x75, 0x6C, 0x6C]

def trueWord : Bytes := [0x74, 0x72, 0x75, 0x65]

def falseWord : Bytes := [0x66, 0x61, 0x6C, 0x73, 0x65]

/-- The rest after a value that is neither a list nor an object. -/
def skipScalar (input : Bytes) : Except Fault Bytes :=
  match input with
  | [] => .error .malformed
  | b :: rest =>
    if b = Mark.quote.byte then skipTextBody rest
    else if startsNumber b then (Literal.read input).map Prod.snd
    else if b = 0x6E then expectWord nullWord input
    else if b = 0x74 then expectWord trueWord input
    else if b = 0x66 then expectWord falseWord input
    else .error .malformed

/-- What encloses a value that is being passed over. -/
inductive Enclosure
  | list
  | object
  deriving DecidableEq

/-- Where the passing over of a value stands: before a value, or after one (or after the opening of
an enclosure, where a comma is not allowed). -/
inductive Stage
  | value
  | next (comma : Bool)

def Enclosure.closing : Enclosure → Mark
  | list => .closeList
  | object => .closeObject

/-- The text from the value of a member on, its key passed over; a list has no keys. -/
def Enclosure.skipKey (e : Enclosure) (input : Bytes) : Except Fault Bytes :=
  match e with
  | list => .ok input
  | object => do
    let rest ← expectMark .quote input
    let rest ← skipTextBody rest
    expectMark .colon rest

/-- Passes over the rest of a value inside the given enclosures, innermost first. Two turns use up at
least one byte. -/
def skipWithin : (turns : Nat) → Stage → List Enclosure → Bytes → Except Fault Bytes
  | 0, _, _, _ => .error .malformed
  | turns + 1, .value, around, input =>
    match skipBlank input with
    | [] => .error .malformed
    | b :: rest =>
      if b = Mark.openList.byte then skipWithin turns (.next false) (.list :: around) rest
      else if b = Mark.openObject.byte then skipWithin turns (.next false) (.object :: around) rest
      else
        match skipScalar (b :: rest) with
        | .ok rest => skipWithin turns (.next true) around rest
        | .error fault => .error fault
  | _ + 1, .next _, [], input => .ok input
  | turns + 1, .next comma, e :: around, input =>
    match skipBlank input with
    | [] => .error .malformed
    | b :: rest =>
      if b = e.closing.byte then skipWithin turns (.next true) around rest
      else
        match (if comma then expectMark .comma (b :: rest) else .ok (b :: rest)) with
        | .error fault => .error fault
        | .ok rest =>
          match e.skipKey rest with
          | .ok rest => skipWithin turns .value (e :: around) rest
          | .error fault => .error fault

/-- The rest after one value of any kind, in a text of fewer than `limit` bytes. -/
def skipValue (limit : Nat) (input : Bytes) : Except Fault Bytes :=
  skipWithin (2 * limit) .value [] input

/-! ### Naming what is there -/

/-- What stands at the front of a text, named for a complaint. A scalar is read completely first, so
one that breaks off is malformed; a list or an object is named by its opening. -/
def Found.read (input : Bytes) : Except Fault Found :=
  match skipBlank input with
  | [] => .error .malformed
  | b :: rest =>
    if b = Mark.openList.byte then .ok .sequence
    else if b = Mark.openObject.byte then .ok .map
    else if b = Mark.quote.byte then do
      let (s, _) ← readTextBody rest
      pure (.text s)
    else if startsNumber b then do
      match ← Number.read (b :: rest) with
      | (.integer value, _) => pure (.integer value)
      | (.real, _) => pure .real
    else if b = 0x6E then (expectWord nullWord (b :: rest)).map fun _ => .null
    else if b = 0x74 then (expectWord trueWord (b :: rest)).map fun _ => .boolean true
    else if b = 0x66 then (expectWord falseWord (b :: rest)).map fun _ => .boolean false
    else .error .malformed

/-- The complaint that something else was expected here. -/
def wrongType {α : Type} (expected : String) (input : Bytes) : Except Fault α := do
  let found ← Found.read input
  .error (.wrongType found expected)

end Settlement.Json
