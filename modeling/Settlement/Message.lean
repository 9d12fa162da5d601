import Settlement.Escrow
import Settlement.HashLock
import Settlement.Unspent

/-!
# Messages and their transport form

In transport a message is a route, given by the names of a module and an operation, and a payload, the
record of the message. Every message has exactly one route, and the route says how to read the payload.
-/
namespace Settlement

/-!
## Why a delivery or a query is refused

A refusal comes from the part of the ledger that the message is for, or from before it reached one.
Refusals leave everything as it was and may be mended and sent again. Only damage to the stored state is
fatal: the host has to stop.
-/

/-- Why a delivery or a query is refused. -/
inductive Error
  | unspent (error : Unspent.Error)
  | hashLock (error : HashLock.Error)
  | escrow (error : Escrow.Error)
  | unknownOperation (module operation : String)
  | unreadablePayload (module operation : String) (fault : Json.Fault)
  deriving DecidableEq

namespace Error

/-- The name of the refusal, from the outermost part to the innermost. -/
def kind : Error → String
  | unspent error => "Utxo." ++ error.kind
  | hashLock error => "Htlc." ++ error.kind
  | escrow error => "Escrow." ++ error.kind
  | unknownOperation .. => "UnknownOperation"
  | unreadablePayload .. => "InvalidMessage"

def message : Error → String
  | unspent error => "UTXO: " ++ error.message
  | hashLock error => "HTLC: " ++ error.message
  | escrow error => "Escrow: " ++ error.message
  | unknownOperation module operation => "Unknown operation: " ++ module ++ "/" ++ operation
  | unreadablePayload module operation fault =>
    "Invalid message: " ++ module ++ "/" ++ operation ++ ": undecodable payload: " ++ fault.message

/-- Whether the state is damaged, rather than the message refused. -/
def isFatal : Error → Bool
  | unspent error => error.isFatal
  | hashLock error => error.isFatal
  | escrow error => error.isFatal
  | _ => false

end Error

/-! ## Messages and routes -/

/-- Everything the ledger can be asked to do. -/
inductive Message
  | birth (m : Unspent.Birth)
  | spend (m : Unspent.Spend)
  | addContract (m : HashLock.Add)
  | redeemContract (m : HashLock.Redeem)
  | failContract (m : HashLock.Fail)
  | initEscrow (m : Escrow.Init)
  | abortEscrow (m : Escrow.Abort)
  | joinEscrow (m : Escrow.Join)
  | spendEscrow (m : Escrow.Spend)
  deriving DecidableEq

/-- Where a message goes. -/
inductive Route
  | birth
  | spend
  | addContract
  | redeemContract
  | failContract
  | initEscrow
  | abortEscrow
  | joinEscrow
  | spendEscrow
  deriving DecidableEq

namespace Route

def all : List Route :=
  [birth, spend, addContract, redeemContract, failContract, initEscrow, abortEscrow, joinEscrow,
    spendEscrow]

def module : Route → String
  | birth | spend => "utxo"
  | addContract | redeemContract | failContract => "htlc"
  | initEscrow | abortEscrow | joinEscrow | spendEscrow => "multisig"

def operation : Route → String
  | birth => "birth_acc_output"
  | spend => "tx"
  | addContract => "add_htlc"
  | redeemContract => "redeem_htlc"
  | failContract => "fail_htlc"
  | initEscrow => "init_multisig"
  | abortEscrow => "abort_multisig"
  | joinEscrow => "join_multisig"
  | spendEscrow => "spend_multisig"

def find? (module operation : String) : Option Route :=
  all.find? fun r => r.module = module ∧ r.operation = operation

/-- The message on a route that a payload denotes. -/
def read (payload : Bytes) : Route → Except Json.Fault Message
  | birth => (Unspent.Birth.codec.decode payload).map .birth
  | spend => (Unspent.Spend.codec.decode payload).map .spend
  | addContract => (HashLock.Add.codec.decode payload).map .addContract
  | redeemContract => (HashLock.Redeem.codec.decode payload).map .redeemContract
  | failContract => (HashLock.Fail.codec.decode payload).map .failContract
  | initEscrow => (Escrow.Init.codec.decode payload).map .initEscrow
  | abortEscrow => (Escrow.Abort.codec.decode payload).map .abortEscrow
  | joinEscrow => (Escrow.Join.codec.decode payload).map .joinEscrow
  | spendEscrow => (Escrow.Spend.codec.decode payload).map .spendEscrow

end Route

namespace Message

def route : Message → Route
  | birth _ => .birth
  | spend _ => .spend
  | addContract _ => .addContract
  | redeemContract _ => .redeemContract
  | failContract _ => .failContract
  | initEscrow _ => .initEscrow
  | abortEscrow _ => .abortEscrow
  | joinEscrow _ => .joinEscrow
  | spendEscrow _ => .spendEscrow

def signers : Message → List Address
  | birth m => m.signers
  | spend m => m.signers
  | addContract m => m.signers
  | redeemContract m => m.signers
  | failContract m => m.signers
  | initEscrow m => m.signers
  | abortEscrow m => m.signers
  | joinEscrow m => m.signers
  | spendEscrow m => m.signers

/-- Checks a message in itself, before any state is looked at. -/
def validate : Message → Except Error Unit
  | birth m => m.validate.mapError .unspent
  | spend m => m.validate.mapError .unspent
  | addContract m => m.validate.mapError .hashLock
  | redeemContract m => m.validate.mapError .hashLock
  | failContract m => m.validate.mapError .hashLock
  | initEscrow m => m.validate.mapError .escrow
  | abortEscrow m => m.validate.mapError .escrow
  | joinEscrow m => m.validate.mapError .escrow
  | spendEscrow m => m.validate.mapError .escrow

def payload : Message → Bytes
  | birth m => Unspent.Birth.codec.encode m
  | spend m => Unspent.Spend.codec.encode m
  | addContract m => HashLock.Add.codec.encode m
  | redeemContract m => HashLock.Redeem.codec.encode m
  | failContract m => HashLock.Fail.codec.encode m
  | initEscrow m => Escrow.Init.codec.encode m
  | abortEscrow m => Escrow.Abort.codec.encode m
  | joinEscrow m => Escrow.Join.codec.encode m
  | spendEscrow m => Escrow.Spend.codec.encode m

end Message

/-- A message in transport. -/
structure Envelope where
  module : String
  operation : String
  payload : Bytes
  deriving DecidableEq

namespace Envelope

def ofMessage (m : Message) : Envelope :=
  ⟨m.route.module, m.route.operation, m.payload⟩

def read (e : Envelope) : Except Error Message :=
  match Route.find? e.module e.operation with
  | none => .error (.unknownOperation e.module e.operation)
  | some route => (route.read e.payload).mapError (.unreadablePayload e.module e.operation)

def codec : Json.Codec Envelope :=
  Json.recordCodec "RawMessage"
    (.field "module" Json.textCodec none <|
      .field "operation" Json.textCodec none <|
        .field "payload" (Json.listCodec Json.byteCodec) none .done)
    (fun e => (e.module, e.operation, e.payload, ()))
    fun (module, operation, payload, ()) => ⟨module, operation, payload⟩

end Envelope

end Settlement
