import Settlement.Authorization
import Settlement.Custody

/-!
# Unspent outputs

A birth takes an amount out of the bank and makes it an account output. A spend consumes one live
outpoint and creates one for each output of its transaction. The namespace holds three tables: account
outputs by id, transactions by hash, and the outpoints that are unspent. The first two are history and never
shrink; an outpoint is there exactly while it is unspent.

Each message can be checked in itself, before any state is looked at, and names the addresses that must have
signed it. All checks come before the first write.
-/
namespace Settlement.Unspent

/-- Value taken out of the bank into a spendable output. -/
structure AccountOutput where
  id : Digest
  value : Amount
  owner : Address
  createdAt : Height
  deriving DecidableEq

def AccountOutput.codec : Json.Codec AccountOutput :=
  Json.recordCodec "AccountOutput"
    (.field "id" Json.digestCodec none <|
      .field "value" Json.uint64Codec none <|
        .field "owner" Json.addressCodec none <|
          .field "created_at_block" Json.int64Codec none .done)
    (fun o => (o.id, o.value, o.owner, o.createdAt, ()))
    fun (id, value, owner, createdAt, ()) => ⟨id, value, owner, createdAt⟩

/-- The id of an account output: the digest of five fields, each behind its length in 4 bytes, so that
neighbouring fields cannot run into each other. -/
def accountOutputId (chainId : String) (owner : Address) (amount : Coin) (sequence : UInt64)
    (height : Height) : Digest :=
  let fields := [Text.utf8 chainId, owner.bytes, Text.utf8 amount.text,
    Bytes.bigEndian 8 sequence.toNat, Bytes.bigEndian 8 height.toUInt64.toNat]
  Sha256.digest (fields.flatMap fun field => Bytes.bigEndian 4 field.length ++ field)

/-! ## Keys -/

def space : Namespace := Namespace.top.child "utxo"

/-- What the keys of account outputs begin with. -/
def accountKeys : Bytes := Text.utf8 "acc/"

/-- What the keys of unspent outpoints begin with. -/
def outPointKeys : Bytes := Text.utf8 "utxo/"

/-- What the keys of transactions begin with. -/
def transactionKeys : Bytes := Text.utf8 "tx/"

def accountKey (id : Digest) : Bytes := accountKeys ++ id.digits

def outPointKey (point : OutPoint) : Bytes := outPointKeys ++ point.keyBytes

def transactionKey (hash : Digest) : Bytes := transactionKeys ++ hash.digits

/-! ## What an outpoint is worth -/

/-- The output a transaction has at an index, if any. -/
def outputAt? (t : Transaction) (index : Int32) : Option Output :=
  match index.toInt with
  | .ofNat i => t.outputs[i]?
  | .negSucc _ => none

/-- The value of a live outpoint and the address that may spend it, from the record it refers to. -/
def resolve (s : Store) (point : OutPoint) : Except Damage (Amount × Address) :=
  if point.isBirth then do
    let key := accountKey point.source
    match ← space.load AccountOutput.codec s key with
    | none => .error ⟨key, .missing .accountOutput⟩
    | some output => pure (output.value, output.owner)
  else do
    let key := transactionKey point.source
    match ← space.load Transaction.codec s key with
    | none => .error ⟨key, .missing .transaction⟩
    | some t =>
      match outputAt? t point.index with
      | none => .error ⟨key, .missing .outputIndex⟩
      | some output =>
        match SpendCondition.decode output.condition with
        | .error cause => .error ⟨key, .badCondition cause⟩
        | .ok condition => pure (output.value, condition.spender)

/-! ## Why births and spends are refused -/

/-- What is wrong with a message in itself. -/
inductive Complaint
  | amountNotPositive (amount : Coin)
  | noOwner
  | noInputs
  | noOutputs
  | noSigner
  | badOutput (index : Nat) (cause : SpendCondition.Error)
  deriving DecidableEq

def Complaint.message : Complaint → String
  | amountNotPositive amount => "birth amount must be positive, got " ++ amount.text
  | noOwner => "owner address is empty"
  | noInputs => "transaction has no inputs"
  | noOutputs => "transaction has no outputs"
  | noSigner => "signer address is empty"
  | badOutput index cause => "output " ++ Decimal.text index ++ ": " ++ cause.message

/-- Why a signer may not spend an output. -/
inductive Refusal
  | notOwner (signer : Address) (point : OutPoint) (owner : Address)
  | malformedWitness (point : OutPoint)
  | invalidKey
  | foreignKey (signer owner : Address)
  | uncovered (hash : Digest)
  deriving DecidableEq

def Refusal.message : Refusal → String
  | notOwner signer point owner =>
    signer.name ++ " cannot spend " ++ point.text ++ " owned by " ++ owner.name
  | malformedWitness point => "input " ++ point.text ++ " has a malformed witness"
  | invalidKey => "witness public key is invalid"
  | foreignKey signer owner =>
    "witness key belongs to " ++ signer.name ++ ", output is spendable by " ++ owner.name
  | uncovered hash => "witness signature does not cover transaction " ++ hash.text

inductive Error
  | invalidMessage (complaint : Complaint)
  | unsupportedInputCount (count : Nat)
  | nonCanonicalOrder
  | outPointNotFound (point : OutPoint)
  /-- The outputs are missing where their sum fits no amount. -/
  | valueNotConserved (inputs : Amount) (outputs : Option Amount)
  | unauthorized (refusal : Refusal)
  | denomMismatch (expected actual : String)
  | duplicateId (id : Digest)
  | notFound (hash : Digest)
  | bank (error : BankError)
  | damaged (damage : Damage)
  deriving DecidableEq

namespace Error

def kind : Error → String
  | invalidMessage _ => "InvalidMessage"
  | unsupportedInputCount _ => "UnsupportedInputCount"
  | nonCanonicalOrder => "NonCanonicalOrder"
  | outPointNotFound _ => "OutPointNotFound"
  | valueNotConserved .. => "ValueConservationViolation"
  | unauthorized _ => "Unauthorized"
  | denomMismatch .. => "DenomMismatch"
  | duplicateId _ => "DuplicateId"
  | notFound _ => "NotFound"
  | bank error => "Bank." ++ error.kind
  | damaged _ => "State.Corrupt"

def message : Error → String
  | invalidMessage complaint => "Invalid message: " ++ complaint.message
  | unsupportedInputCount count =>
    "Unsupported input count: " ++ Decimal.text count ++ " (exactly one input is supported)"
  | nonCanonicalOrder => "Transaction inputs or outputs are not in canonical order"
  | outPointNotFound point => "OutPoint not found or already spent: " ++ point.text
  | valueNotConserved inputs outputs =>
    "Value conservation violated: inputs " ++ Decimal.text inputs.toNat ++ ", outputs " ++
      match outputs with
      | some total => Decimal.text total.toNat
      | none => "overflow"
  | unauthorized refusal => "Unauthorized: " ++ refusal.message
  | denomMismatch expected actual =>
    "Denomination mismatch: expected " ++ expected ++ ", got " ++ actual
  | duplicateId id => "Account output already exists: " ++ id.text
  | notFound hash => "Transaction not found: " ++ hash.text
  | bank error => error.message
  | damaged damage => damage.message

def isFatal : Error → Bool
  | damaged _ => true
  | _ => false

end Error

/-! ## Messages -/

/-- Turns an amount of the owner's balance into a spendable output. -/
structure Birth where
  amount : Coin
  owner : Address
  deriving DecidableEq

namespace Birth

def validate (m : Birth) : Except Error Unit := do
  require (m.amount.isPositive) (.invalidMessage (.amountNotPositive m.amount))
  require (¬ m.owner.isEmpty) (.invalidMessage .noOwner)

def signers (m : Birth) : List Address := [m.owner]

def codec : Json.Codec Birth :=
  Json.recordCodec "BirthOutput"
    (.field "amount" Coin.codec none <|
      .field "owner" Json.addressCodec none .done)
    (fun m => (m.amount, m.owner, ()))
    fun (amount, owner, ()) => ⟨amount, owner⟩

end Birth

/-- Applies a transaction in the name of a signer. -/
structure Spend where
  tx : Transaction
  signer : Address
  deriving DecidableEq

/-- Checks that the conditions of all outputs, numbered from `index` on, can be decoded. -/
def checkConditions : (index : Nat) → List Output → Except Error Unit
  | _, [] => .ok ()
  | index, output :: rest =>
    match SpendCondition.decode output.condition with
    | .ok _ => checkConditions (index + 1) rest
    | .error cause => .error (.invalidMessage (.badOutput index cause))

namespace Spend

def validate (m : Spend) : Except Error Unit := do
  require (m.tx.inputs ≠ []) (.invalidMessage .noInputs)
  require (m.tx.outputs ≠ []) (.invalidMessage .noOutputs)
  require (¬ m.signer.isEmpty) (.invalidMessage .noSigner)
  checkConditions 0 m.tx.outputs

def signers (m : Spend) : List Address := [m.signer]

def codec : Json.Codec Spend :=
  Json.recordCodec "SpendTx"
    (.field "tx" Transaction.codec none <|
      .field "signer" Json.addressCodec none .done)
    (fun m => (m.tx, m.signer, ()))
    fun (tx, signer, ()) => ⟨tx, signer⟩

end Spend

/-! ## What is reported -/

structure OutputBorn where
  id : Digest
  owner : Address
  value : Amount
  block : Height
  deriving DecidableEq

def OutputBorn.codec : Json.Codec OutputBorn :=
  Json.recordCodec "OutputBorn"
    (.field "id" Json.digestCodec none <|
      .field "owner" Json.addressCodec none <|
        .field "value" Json.uint64Codec none <|
          .field "block" Json.int64Codec none .done)
    (fun e => (e.id, e.owner, e.value, e.block, ()))
    fun (id, owner, value, block, ()) => ⟨id, owner, value, block⟩

structure TransactionApplied where
  hash : Digest
  spent : OutPoint
  created : List OutPoint
  value : Amount
  deriving DecidableEq

def TransactionApplied.codec : Json.Codec TransactionApplied :=
  Json.recordCodec "TransactionApplied"
    (.field "tx_hash" Json.digestCodec none <|
      .field "spent" OutPoint.codec none <|
        .field "created" (Json.listCodec OutPoint.codec) none <|
          .field "value" Json.uint64Codec none .done)
    (fun e => (e.hash, e.spent, e.created, e.value, ()))
    fun (hash, spent, created, value, ()) => ⟨hash, spent, created, value⟩

/-! ## Births and spends -/

/-- What a birth will write. -/
def Birth.output (m : Birth) (block : Block) (sequence : UInt64) : AccountOutput where
  id := accountOutputId block.chainId m.owner m.amount sequence block.height
  value := m.amount.amount
  owner := m.owner
  createdAt := block.height

/-- The store with an account output and its outpoint. -/
def addAccountOutput (s : Store) (output : AccountOutput) : Store :=
  let point := OutPoint.ofBirth output.id
  space.put OutPoint.codec (space.put AccountOutput.codec s (accountKey output.id) output)
    (outPointKey point) point

def birth (config : Config) (block : Block) (m : Birth) : Action Custody Error OutputBorn := do
  Action.check m.validate
  Action.demand (m.amount.denom = config.nativeDenom)
    (.denomMismatch config.nativeDenom m.amount.denom)
  let c ← get
  let output := m.output block (c.bank.sequence m.owner)
  Action.demand (¬ space.has c.store (accountKey output.id)) (.duplicateId output.id)
  Custody.debit .bank m.owner m.amount
  Custody.write fun s => addAccountOutput s output
  pure ⟨output.id, output.owner, output.value, output.createdAt⟩

/-- Checks that the witness of an input is a signature of the transaction's hash by the spender. -/
def checkWitness (verifier : Verifier) (input : Input) (hash : Digest) (spender : Address) :
    Except Error Unit :=
  match Witness.ofBytes? input.witness with
  | none => .error (.unauthorized (.malformedWitness input.point))
  | some witness =>
    match verifier.addressOf? witness.key with
    | none => .error (.unauthorized .invalidKey)
    | some signer => do
      require (signer = spender) (.unauthorized (.foreignKey signer spender))
      require (verifier.verify witness.key hash.bytes witness.signature)
        (.unauthorized (.uncovered hash))

/-- Checks the witness of an input if the policy asks for it. -/
def authorize (config : Config) (verifier : Verifier) (input : Input) (hash : Digest)
    (spender : Address) : Except Error Unit :=
  if config.witnessPolicy = .verify then checkWitness verifier input hash spender else .ok ()

/-- The only input of a transaction. -/
def soleInput (t : Transaction) : Except Error Input :=
  match t.inputs with
  | [input] => .ok input
  | inputs => .error (.unsupportedInputCount inputs.length)

/-- The outpoints that a transaction with this hash and so many outputs creates. -/
def createdPoints (hash : Digest) (count : Nat) : List OutPoint :=
  (List.range count).map fun i => ⟨hash, Int32.ofNat i⟩

def addOutPoints (s : Store) (points : List OutPoint) : Store :=
  points.foldl (fun s point => space.put OutPoint.codec s (outPointKey point) point) s

/-- The store after a transaction that spends an outpoint. -/
def applyTransaction (s : Store) (t : Transaction) (spent : OutPoint) : Store :=
  addOutPoints
    (space.delete (space.put Transaction.codec s (transactionKey t.hash) t) (outPointKey spent))
    (createdPoints t.hash t.outputs.length)

/-- Carries out a spend. The checks are, in order: the message in itself, the number of inputs, the
canonical order, that the outpoint is live, that no value is lost or made, that the signer is the
spender, and, if witnesses are to be verified, the witness. -/
def spend (config : Config) (verifier : Verifier) (m : Spend) :
    Action Custody Error TransactionApplied := do
  Action.check m.validate
  let input ← Action.check (soleInput m.tx)
  Action.demand m.tx.isCanonical .nonCanonicalOrder
  let c ← get
  let spent := input.point
  Action.demand (space.has c.store (outPointKey spent)) (.outPointNotFound spent)
  let (value, spender) ← Action.check ((resolve c.store spent).mapError .damaged)
  let total := m.tx.outputValue?
  Action.demand (total = some value) (.valueNotConserved value total)
  Action.demand (spender = m.signer) (.unauthorized (.notOwner m.signer spent spender))
  Action.check (authorize config verifier input m.tx.hash spender)
  Custody.write fun s => applyTransaction s m.tx spent
  pure ⟨m.tx.hash, spent, createdPoints m.tx.hash m.tx.outputs.length, value⟩

/-!
## Listings

Listings are in key order. A wallet is what one address may spend, with its total, which may exceed any
single amount.
-/

structure WalletEntry where
  source : Digest
  index : Int32
  value : Amount
  deriving DecidableEq

def WalletEntry.codec : Json.Codec WalletEntry :=
  Json.recordCodec "OutPointValue"
    (.field "source_id" Json.digestCodec none <|
      .field "index" Json.int32Codec none <|
        .field "value" Json.uint64Codec none .done)
    (fun e => (e.source, e.index, e.value, ()))
    fun (source, index, value, ()) => ⟨source, index, value⟩

/-- What an address may spend. -/
structure Wallet where
  balance : BitVec 128
  entries : List WalletEntry
  deriving DecidableEq

def Wallet.codec : Json.Codec Wallet :=
  Json.recordCodec "Wallet"
    (.field "balance" Json.wideCodec none <|
      .field "entries" (Json.listCodec WalletEntry.codec) none .done)
    (fun w => (w.balance, w.entries, ()))
    fun (balance, entries, ()) => ⟨balance, entries⟩

def Wallet.ofEntries (entries : List WalletEntry) : Wallet :=
  ⟨BitVec.ofNat 128 (entries.foldl (fun total e => total + e.value.toNat) 0), entries⟩

/-- All account outputs ever born. -/
def listAccountOutputs (s : Store) : Except Damage (List AccountOutput) :=
  (space.loadAll AccountOutput.codec s accountKeys).map fun l => l.map Prod.snd

/-- All live outpoints. -/
def listOutPoints (s : Store) : Except Damage (List OutPoint) :=
  (space.loadAll OutPoint.codec s outPointKeys).map fun l => l.map Prod.snd

/-- All transactions ever applied, with their hashes. -/
def listTransactions (s : Store) : Except Damage (List (Digest × Transaction)) :=
  (space.loadAll Transaction.codec s transactionKeys).map fun l => l.map fun e => (e.2.hash, e.2)

def getTransaction (s : Store) (hash : Digest) : Except Error Transaction :=
  match space.load Transaction.codec s (transactionKey hash) with
  | .error damage => .error (.damaged damage)
  | .ok none => .error (.notFound hash)
  | .ok (some t) => .ok t

/-- What an address may spend. Every live outpoint is resolved, whoever owns it. -/
def walletOf (s : Store) (address : Address) : Except Damage Wallet := do
  let points ← listOutPoints s
  let resolved ← points.mapM fun point => (resolve s point).map fun r => (point, r)
  pure <| Wallet.ofEntries <| resolved.filterMap fun (point, value, owner) =>
    if owner = address then some ⟨point.source, point.index, value⟩ else none

end Settlement.Unspent
