import Settlement.Coin
import Settlement.Hashing.Sha256

/-!
# Transactions

A transaction spends outpoints and creates outputs. Each input carries a witness that is no part of
what is signed. In canonical form the inputs ascend by outpoint and the outputs by value and then by the
bytes of the spend condition. A transaction is signed and named by the double SHA-256 of its layout, in
which all integers are big-endian and witnesses are left out:

* lock time, 4 bytes;
* number of inputs, 4 bytes, and for each input the source, 32 bytes, the index, 4 bytes, and the
  sequence, 4 bytes;
* number of outputs, 4 bytes, and for each output the value, 8 bytes, the length of the condition,
  4 bytes, and the condition.
-/
namespace Settlement

/-!
## Outpoints

An outpoint names a spendable output: output number `index` of the transaction `source`, or, with the
index minus one, the account output `source`. Outpoints are ordered by source, then by signed index.
-/

/-- The name of a spendable output. -/
structure OutPoint where
  source : Digest
  index : Int32
  deriving DecidableEq, Inhabited

namespace OutPoint

/-- The index that marks account outputs. -/
def birthIndex : Int32 := -1

def ofBirth (id : Digest) : OutPoint := ⟨id, birthIndex⟩

def isBirth (o : OutPoint) : Bool := o.index = birthIndex

instance : Ord OutPoint :=
  ⟨fun a b => (compare a.source b.source).then (compare a.index.toInt b.index.toInt)⟩

/-- The bytes of an outpoint in a key. -/
def keyBytes (o : OutPoint) : Bytes :=
  o.source.digits ++ 0x3A :: Decimal.signed o.index.toInt

def text (o : OutPoint) : String :=
  Text.ascii o.keyBytes

instance : ToString OutPoint := ⟨text⟩

def codec : Json.Codec OutPoint :=
  Json.recordCodec "OutPoint"
    (.field "source_id" Json.digestCodec none <|
      .field "index" Json.int32Codec none .done)
    (fun o => (o.source, o.index, ()))
    fun (source, index, ()) => ⟨source, index⟩

end OutPoint

/-!
## Spend conditions

An output says in bytes who may spend it: a tag byte, then what the tag needs. The one condition there
is pays to an address: the byte 1 and the address.
-/

/-- Who may spend an output. -/
inductive SpendCondition
  | payToAddress (address : Address)
  deriving DecidableEq

namespace SpendCondition

/-- Why bytes are no spend condition. -/
inductive Error
  | empty
  | notText
  | noAddress
  | unknownTag (tag : UInt8)
  deriving DecidableEq

def Error.message : Error → String
  | empty => "empty spend condition"
  | notText => "pay-to-address payload is not UTF-8"
  | noAddress => "pay-to-address with empty address"
  | unknownTag tag => "unknown spend condition tag 0x" ++ Hex.text .lower [tag]

def addressTag : UInt8 := 0x01

def encode : SpendCondition → Bytes
  | payToAddress address => addressTag :: address.bytes

def decode : Bytes → Except Error SpendCondition
  | [] => .error .empty
  | tag :: payload =>
    if tag = addressTag then
      match Text.ofUtf8? payload with
      | none => .error .notText
      | some name => if name.isEmpty then .error .noAddress else .ok (.payToAddress ⟨name⟩)
    else .error (.unknownTag tag)

/-- The address that may spend. -/
def spender : SpendCondition → Address
  | payToAddress address => address

end SpendCondition

/-! ## Inputs and outputs -/

/-- An input: the output it spends and what authorizes that. -/
structure Input where
  point : OutPoint
  witness : Bytes := []
  sequence : UInt32 := 0
  deriving DecidableEq

/-- An output: an amount of the native denomination and the bytes of its spend condition. -/
structure Output where
  value : Amount
  condition : Bytes
  deriving DecidableEq

def Output.payTo (value : Amount) (address : Address) : Output :=
  ⟨value, (SpendCondition.payToAddress address).encode⟩

/-- A transfer of value. -/
structure Transaction where
  inputs : List Input
  outputs : List Output
  lockTime : UInt32 := 0
  deriving DecidableEq

/-- The sum of the output values, if it fits an amount. -/
def Transaction.outputValue? (t : Transaction) : Option Amount :=
  t.outputs.foldlM (fun sum output => Amount.add? sum output.value) 0

/-! ### As records -/

/-- Inputs as records; the witness and the sequence may be left out. -/
def Input.codec : Json.Codec Input :=
  Json.recordCodec "TxIn"
    (.field "input" OutPoint.codec none <|
      .field "witness" (Json.listCodec Json.byteCodec) (some []) <|
        .field "sequence" Json.uint32Codec (some 0) .done)
    (fun i => (i.point, i.witness, i.sequence, ()))
    fun (point, witness, sequence, ()) => ⟨point, witness, sequence⟩

def Output.codec : Json.Codec Output :=
  Json.recordCodec "TxOut"
    (.field "value" Json.uint64Codec none <|
      .field "spend_condition" (Json.listCodec Json.byteCodec) none .done)
    (fun o => (o.value, o.condition, ()))
    fun (value, condition, ()) => ⟨value, condition⟩

/-- Transactions as records; the lock time may be left out. -/
def Transaction.codec : Json.Codec Transaction :=
  Json.recordCodec "Transaction"
    (.field "inputs" (Json.listCodec Input.codec) none <|
      .field "outputs" (Json.listCodec Output.codec) none <|
        .field "lock_time" Json.uint32Codec (some 0) .done)
    (fun t => (t.inputs, t.outputs, t.lockTime, ()))
    fun (inputs, outputs, lockTime, ()) => ⟨inputs, outputs, lockTime⟩

/-! ## Canonical form and hash -/

def Input.le (a b : Input) : Bool :=
  (compare a.point b.point).isLE

/-- Outputs are ordered by value, then by the bytes of the condition. -/
def Output.le (a b : Output) : Bool :=
  ((compare a.value b.value).then (compare a.condition b.condition)).isLE

/-- Whether no element comes after its successor. -/
def ascends {α : Type} (le : α → α → Bool) : List α → Bool
  | a :: b :: rest => le a b && ascends le (b :: rest)
  | _ => true

namespace Transaction

/-- The transaction with inputs and outputs in canonical order; equals keep their places. -/
def canonicalize (t : Transaction) : Transaction :=
  { t with inputs := t.inputs.mergeSort Input.le, outputs := t.outputs.mergeSort Output.le }

def isCanonical (t : Transaction) : Bool :=
  ascends Input.le t.inputs && ascends Output.le t.outputs

/-- The signed part of an input. -/
def inputLayout (i : Input) : Bytes :=
  i.point.source.bytes ++ Bytes.bigEndian 4 i.point.index.toUInt32.toNat
    ++ Bytes.bigEndian 4 i.sequence.toNat

/-- The signed part of an output. -/
def outputLayout (o : Output) : Bytes :=
  Bytes.bigEndian 8 o.value.toNat ++ Bytes.bigEndian 4 o.condition.length ++ o.condition

/-- What is signed: everything but the witnesses, in the order given. -/
def layout (t : Transaction) : Bytes :=
  Bytes.bigEndian 4 t.lockTime.toNat
    ++ Bytes.bigEndian 4 t.inputs.length ++ t.inputs.flatMap inputLayout
    ++ Bytes.bigEndian 4 t.outputs.length ++ t.outputs.flatMap outputLayout

/-- The name of a transaction. -/
def hash (t : Transaction) : Digest :=
  Sha256.digest (Sha256.digest t.layout).bytes

/-- The payment of `amount` to `payee` out of one outpoint, with the change, unless it is zero, going
back to `payer`. -/
def pay (source : OutPoint) (amount change : Amount) (payer payee : Address) : Transaction :=
  canonicalize {
    inputs := [{ point := source }]
    outputs := Output.payTo amount payee :: if 0 < change then [Output.payTo change payer] else [] }

end Transaction

end Settlement
