import Settlement.Identifier
import Settlement.Json.Token

/-!
# Codecs

A codec writes the values of one type and reads them back from the front of a text. Writing is
compact: no blanks anywhere. A whole text is one value with nothing but blanks around it.

Reading is given a limit that the length of the whole text stays below. A loop over the elements of a
list or the members of an object uses up at least one byte in each turn but the first, so it never
takes more turns than the limit.
-/
namespace Settlement.Json

/-- How the values of a type are written and read. -/
structure Codec (α : Type) where
  /-- The one written form of a value. -/
  write : α → Bytes
  /-- The value at the front of a text, and the rest. -/
  read : (limit : Nat) → Bytes → Except Fault (α × Bytes)

namespace Codec

variable {α β : Type}

def encode (c : Codec α) (a : α) : Bytes :=
  c.write a

/-- The value that a whole text denotes. -/
def decode (c : Codec α) (input : Bytes) : Except Fault α := do
  let (a, rest) ← c.read (input.length + 1) input
  if skipBlank rest = [] then pure a else .error .malformed

/-- The codec of a type whose values are written as those of another type. Reading may refuse a value
of the other type. -/
def refine (c : Codec β) (toBase : α → β) (ofBase : β → Except Fault α) : Codec α where
  write a := c.write (toBase a)
  read limit input := do
    let (b, rest) ← c.read limit input
    let a ← ofBase b
    pure (a, rest)

/-- The codec of a type that is another type under a new name. -/
def rename (c : Codec β) (toBase : α → β) (ofBase : β → α) : Codec α :=
  c.refine toBase fun b => .ok (ofBase b)

end Codec

/-! ## Single values -/

def readText (input : Bytes) : Except Fault (String × Bytes) :=
  match skipBlank input with
  | [] => .error .malformed
  | b :: rest =>
    if b = Mark.quote.byte then readTextBody rest else wrongType "a string" (b :: rest)

def textCodec : Codec String where
  write := writeText
  read _ := readText

/-- The integer at the front, if it lies between the bounds. -/
def readInteger (expected : String) (low high : Int) (input : Bytes) :
    Except Fault (Int × Bytes) :=
  match skipBlank input with
  | [] => .error .malformed
  | b :: rest =>
    if startsNumber b then do
      let (number, rest) ← Number.read (b :: rest)
      match number with
      | .real => .error (.wrongType .real expected)
      | .integer value =>
        if low ≤ value ∧ value ≤ high then pure (value, rest)
        else .error (.wrongValue (.integer value) expected)
    else wrongType expected (b :: rest)

/-- Integers between two bounds, in digits. -/
def integerCodec (expected : String) (low high : Int) : Codec Int where
  write := Decimal.signed
  read _ := readInteger expected low high

def byteCodec : Codec UInt8 :=
  (integerCodec "u8" 0 255).rename (fun n => (n.toNat : Int)) fun i => UInt8.ofNat i.toNat

def uint32Codec : Codec UInt32 :=
  (integerCodec "u32" 0 4294967295).rename (fun n => (n.toNat : Int))
    fun i => UInt32.ofNat i.toNat

def uint64Codec : Codec UInt64 :=
  (integerCodec "u64" 0 18446744073709551615).rename (fun n => (n.toNat : Int))
    fun i => UInt64.ofNat i.toNat

def int32Codec : Codec Int32 :=
  (integerCodec "i32" (-2147483648) 2147483647).rename Int32.toInt Int32.ofInt

def int64Codec : Codec Int64 :=
  (integerCodec "i64" (-9223372036854775808) 9223372036854775807).rename Int64.toInt Int64.ofInt

/-- The number of 128 bits at the front: plain digits and nothing else. -/
def readWide (input : Bytes) : Except Fault (BitVec 128 × Bytes) := do
  let (digits, rest) ← readWhole (skipBlank input)
  let n := Decimal.value digits
  let wide := BitVec.ofNat 128 n
  if wide.toNat = n then pure (wide, rest) else .error .malformed

def wideCodec : Codec (BitVec 128) where
  write n := Decimal.digits n.toNat
  read _ := readWide

def digestCodec : Codec Digest :=
  textCodec.refine Digest.text fun s =>
    match Digest.ofText s with
    | .ok d => .ok d
    | .error e => .error (.refused e.message)

def addressCodec : Codec Address :=
  textCodec.rename Address.name Address.mk

def escrowIdCodec : Codec EscrowId :=
  textCodec.rename EscrowId.name EscrowId.mk

/-!
## Lists and pairs

A list of values of one type, and a list of exactly two values of two types.
-/

section Lists

variable {α β : Type}

/-- The text from the next element on, or `none` at the closing bracket, which is left in place. -/
def nextElement (first : Bool) (input : Bytes) : Except Fault (Option Bytes) :=
  match skipBlank input with
  | [] => .error .malformed
  | b :: rest =>
    if b = Mark.closeList.byte then .ok none
    else if first then .ok (some (b :: rest))
    else if b = Mark.comma.byte then
      match skipBlank rest with
      | [] => .error .malformed
      | c :: rest => if c = Mark.closeList.byte then .error .malformed else .ok (some (c :: rest))
    else .error .malformed

/-- The elements up to the closing bracket, and the rest after it; `done` holds the elements so far,
last first. -/
def readElements (read : Bytes → Except Fault (α × Bytes)) :
    (turns : Nat) → (first : Bool) → (done : List α) → Bytes → Except Fault (List α × Bytes)
  | 0, _, _, _ => .error .malformed
  | turns + 1, first, done, input =>
    match nextElement first input with
    | .error fault => .error fault
    | .ok none =>
      match expectMark .closeList input with
      | .ok rest => .ok (done.reverse, rest)
      | .error fault => .error fault
    | .ok (some input) =>
      match read input with
      | .ok (a, rest) => readElements read turns false (a :: done) rest
      | .error fault => .error fault

/-- The elements after the first, each behind a comma. -/
def writeMore (c : Codec α) (values : List α) : Bytes :=
  values.flatMap fun a => Mark.comma.byte :: c.write a

def writeElements (c : Codec α) : List α → Bytes
  | [] => []
  | a :: rest => c.write a ++ writeMore c rest

def listCodec (c : Codec α) : Codec (List α) where
  write values := Mark.openList.byte :: writeElements c values ++ [Mark.closeList.byte]
  read limit input :=
    match skipBlank input with
    | [] => .error .malformed
    | b :: rest =>
      if b = Mark.openList.byte then readElements (c.read limit) limit true [] rest
      else wrongType "a sequence" (b :: rest)

/-- One value of a list of exactly two, `index` of which have been read. -/
def readHalf (read : Bytes → Except Fault (α × Bytes)) (index : Nat) (input : Bytes) :
    Except Fault (α × Bytes) := do
  match ← nextElement (index = 0) input with
  | some input => read input
  | none => .error (.wrongLength index "a tuple of size 2")

/-- Pairs, as lists of two. -/
def pairCodec (c : Codec α) (d : Codec β) : Codec (α × β) where
  write p := Mark.openList.byte :: c.write p.1 ++ Mark.comma.byte :: d.write p.2
    ++ [Mark.closeList.byte]
  read limit input :=
    match skipBlank input with
    | [] => .error .malformed
    | b :: rest =>
      if b = Mark.openList.byte then do
        let (x, rest) ← readHalf (c.read limit) 0 rest
        let (y, rest) ← readHalf (d.read limit) 1 rest
        let rest ← expectMark .closeList rest
        pure ((x, y), rest)
      else wrongType "a tuple of size 2" (b :: rest)

end Lists

/-!
## Records

A record has named fields in a fixed order. It is written as an object with all its fields in that
order. It is read from an object with the fields in any order, where members of other names are passed
over, or from a list of the fields in order. A field that has a fallback may be missing, in a list
only at its end.
-/

/-- The fields of a record in their order: `ρ` is the row of their values, `σ` the row of slots that
fill up while an object is read. -/
inductive Fields : (ρ σ : Type) → Type 1
  | done : Fields Unit Unit
  | field {α ρ σ : Type} (name : String) (codec : Codec α) (fallback : Option α)
      (more : Fields ρ σ) : Fields (α × ρ) (Option α × σ)

namespace Fields

def count {ρ σ : Type} : Fields ρ σ → Nat
  | done => 0
  | field _ _ _ more => more.count + 1

/-- The slots before any member has been read. -/
def vacant {ρ σ : Type} : Fields ρ σ → σ
  | done => ()
  | field _ _ _ more => (none, more.vacant)

/-- Reads what follows the key of a member: the value of the field of that name, which must not have
been read before, or any value if no field has that name. -/
def readMember {ρ σ : Type} (limit : Nat) (key : String) :
    Fields ρ σ → σ → Bytes → Except Fault (σ × Bytes)
  | done, (), input => do
    let rest ← expectMark .colon input
    let rest ← skipValue limit rest
    pure ((), rest)
  | field name codec _ more, (slot, slots), input =>
    if key = name then
      match slot with
      | some _ => .error (.duplicateField name)
      | none => do
        let rest ← expectMark .colon input
        let (a, rest) ← codec.read limit rest
        pure ((some a, slots), rest)
    else do
      let (slots, rest) ← more.readMember limit key slots input
      pure ((slot, slots), rest)

/-- The values of all fields, once no more members follow; the first field that was neither read nor
has a fallback is missing. -/
def complete {ρ σ : Type} : Fields ρ σ → σ → Except Fault ρ
  | done, () => .ok ()
  | field name _ fallback more, (slot, slots) =>
    match slot.or fallback with
    | none => .error (.missingField name)
    | some a => do
      let values ← more.complete slots
      pure (a, values)

/-- Reads members up to the closing brace, and gives the slots and the rest after the brace. -/
def readMembers {ρ σ : Type} (limit : Nat) (fields : Fields ρ σ) :
    (turns : Nat) → (first : Bool) → σ → Bytes → Except Fault (σ × Bytes)
  | 0, _, _, _ => .error .malformed
  | turns + 1, first, slots, input =>
    match skipBlank input with
    | [] => .error .malformed
    | b :: rest =>
      if b = Mark.closeObject.byte then .ok (slots, rest)
      else do
        let rest ← if first then pure (b :: rest) else expectMark .comma (b :: rest)
        let rest ← expectMark .quote rest
        let (key, rest) ← readTextBody rest
        let (slots, rest) ← fields.readMember limit key slots rest
        fields.readMembers limit turns false slots rest

/-- Reads the values of the fields in order from a list, of which `index` have been read; `tooShort`
is the complaint when the list ends before a field without a fallback. -/
def readInOrder {ρ σ : Type} (limit : Nat) (tooShort : Nat → Fault) :
    Fields ρ σ → (index : Nat) → Bytes → Except Fault (ρ × Bytes)
  | done, _, input => .ok ((), input)
  | field _ codec fallback more, index, input => do
    match ← nextElement (index = 0) input with
    | some input =>
      let (a, rest) ← codec.read limit input
      let (values, rest) ← more.readInOrder limit tooShort (index + 1) rest
      pure ((a, values), rest)
    | none =>
      match fallback with
      | none => .error (tooShort index)
      | some a =>
        let (values, rest) ← more.readInOrder limit tooShort (index + 1) input
        pure ((a, values), rest)

def writeMember {α : Type} (name : String) (codec : Codec α) (a : α) : Bytes :=
  writeText name ++ Mark.colon.byte :: codec.write a

/-- The members after the first, each behind a comma. -/
def writeMore {ρ σ : Type} : Fields ρ σ → ρ → Bytes
  | done, () => []
  | field name codec _ more, (a, values) =>
    Mark.comma.byte :: writeMember name codec a ++ more.writeMore values

/-- All members, set apart by commas. -/
def write {ρ σ : Type} : Fields ρ σ → ρ → Bytes
  | done, () => []
  | field name codec _ more, (a, values) => writeMember name codec a ++ more.writeMore values

end Fields

/-- The codec of a record type whose values correspond to rows of field values. -/
def recordCodec {α ρ σ : Type} (name : String) (fields : Fields ρ σ) (toRow : α → ρ)
    (ofRow : ρ → α) : Codec α where
  write a := Mark.openObject.byte :: fields.write (toRow a) ++ [Mark.closeObject.byte]
  read limit input :=
    match skipBlank input with
    | [] => .error .malformed
    | b :: rest =>
      if b = Mark.openObject.byte then do
        let (slots, rest) ← fields.readMembers limit limit true fields.vacant rest
        let values ← fields.complete slots
        pure (ofRow values, rest)
      else if b = Mark.openList.byte then do
        let tooShort (found : Nat) : Fault := .wrongLength found
          ("struct " ++ name ++ " with " ++ Decimal.text fields.count ++ " elements")
        let (values, rest) ← fields.readInOrder limit tooShort 0 rest
        let rest ← expectMark .closeList rest
        pure (ofRow values, rest)
      else wrongType ("struct " ++ name) (b :: rest)

/-!
## Unions

A value of a union is of one of several named variants. A bare variant is written as its name, a
variant that carries a value as an object with one member: the variant's name and the value. A bare
variant is also read from such an object if the value is null.
-/

/-- One variant of a union. -/
inductive Variant (α : Type) : Type 1
  /-- A variant that is a single value of the union. -/
  | bare (name : String) (value : α) (is : α → Bool)
  /-- A variant that carries a value: how to put it into the union, and how to find it there. -/
  | carrying {β : Type} (name : String) (codec : Codec β) (wrap : β → α) (unwrap? : α → Option β)

namespace Variant

variable {α : Type}

def name : Variant α → String
  | bare name _ _ => name
  | carrying name _ _ _ => name

/-- The written form of a value, if it is of this variant. -/
def write? (v : Variant α) (a : α) : Option Bytes :=
  match v with
  | bare name _ is => if is a then some (writeText name) else none
  | carrying name codec _ unwrap? =>
    (unwrap? a).map fun b =>
      Mark.openObject.byte :: writeText name ++ Mark.colon.byte :: codec.write b
        ++ [Mark.closeObject.byte]

/-- The value that the plain name of a variant stands for. -/
def readPlain : Variant α → Except Fault α
  | bare _ value _ => .ok value
  | carrying .. => .error (.wrongType .bareVariant "newtype variant")

/-- What follows the name and the colon in the object form. -/
def readContent (v : Variant α) (limit : Nat) (input : Bytes) : Except Fault (α × Bytes) :=
  match v with
  | carrying _ codec wrap _ => do
    let (b, rest) ← codec.read limit input
    pure (wrap b, rest)
  | bare _ value _ =>
    match skipBlank input with
    | 0x6E :: rest => do
      let rest ← expectWord nullWord (0x6E :: rest)
      pure (value, rest)
    | input => wrongType "unit" input

/-- The complaint about a name that no variant has, which lists the names there are. -/
def unknown (variants : List (Variant α)) (given : String) : Fault :=
  .unknownVariant given (variants.map Variant.name)

def find? (variants : List (Variant α)) (given : String) : Option (Variant α) :=
  List.find? (fun v => v.name = given) variants

end Variant

/-- The codec of a union, given by its variants in their order. -/
def unionCodec {α : Type} (variants : List (Variant α)) : Codec α where
  write a := (variants.findSome? fun v => v.write? a).getD []
  read limit input :=
    match skipBlank input with
    | [] => .error .malformed
    | b :: rest =>
      if b = Mark.openObject.byte then do
        let rest ← expectMark .quote rest
        let (given, rest) ← readTextBody rest
        match Variant.find? variants given with
        | none => .error (Variant.unknown variants given)
        | some v => do
          let rest ← expectMark .colon rest
          let (a, rest) ← v.readContent limit rest
          let rest ← expectMark .closeObject rest
          pure (a, rest)
      else if b = Mark.quote.byte then do
        let (given, rest) ← readTextBody rest
        match Variant.find? variants given with
        | none => .error (Variant.unknown variants given)
        | some v => do
          let a ← v.readPlain
          pure (a, rest)
      else .error .malformed

end Settlement.Json
