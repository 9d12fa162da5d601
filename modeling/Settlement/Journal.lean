import Settlement.Ledger

/-!
# The journal

What the ledger tells its operator about a delivery, line by line: that it arrived, what an accepted
message did, and how it ended. The lines follow from the block, the message and the outcome alone.
-/
namespace Settlement

/-- How much a line matters. -/
inductive Level
  | debug
  | info
  | warn
  | error
  deriving DecidableEq

def Level.text : Level → String
  | debug => "DEBUG"
  | info => "INFO"
  | warn => "WARN"
  | error => "ERROR"

/-- A line: what happened, and named details in order. -/
structure JournalLine where
  level : Level
  title : String
  details : List (String × String)
  deriving DecidableEq

namespace JournalLine

/-- The details that name a delivery. -/
def address (module operation : String) (block : Block) : List (String × String) :=
  [("module", module), ("operation", operation),
    ("height", Decimal.signedText block.height.toInt)]

/-- What an accepted message did. Escrows go by the name that the message gives. -/
def ofEvent (block : Block) (m : Message) (event : Event) : JournalLine :=
  let height := ("height", Decimal.signedText block.height.toInt)
  let named (id : EscrowId) : EscrowId :=
    match m with
    | .abortEscrow m => m.id
    | .joinEscrow m => m.id
    | .spendEscrow m => m.id
    | _ => id
  match event with
  | .outputBorn e =>
    ⟨.debug, "account output born",
      [("id", e.id.text), ("owner", e.owner.name), ("value", Decimal.text e.value.toNat)]⟩
  | .transactionApplied e =>
    ⟨.debug, "transaction applied",
      [("hash", e.hash.text), ("spent", e.spent.text),
        ("outputs", Decimal.text e.created.length), ("value", Decimal.text e.value.toNat)]⟩
  | .contractCreated e =>
    ⟨.debug, "htlc created",
      [("hash", e.hash.text), ("amount", e.amount.text),
        ("expires_at", Decimal.signedText e.expiresAt.toInt)]⟩
  | .contractRedeemed e => ⟨.debug, "htlc redeemed", [("hash", e.hash.text), height]⟩
  | .contractFailed e => ⟨.debug, "htlc failed", [("hash", e.hash.text), height]⟩
  | .escrowCreated e =>
    ⟨.debug, "escrow created", [("id", (named e.id).name), ("balance", e.balance.text)]⟩
  | .escrowAborted e =>
    ⟨.debug, "escrow aborted", [("id", (named e.id).name), ("refunded", e.refunded.text)]⟩
  | .escrowJoined e =>
    ⟨.debug, "escrow joined", [("id", (named e.id).name), ("balance", e.balance.text)]⟩
  | .escrowSpent e =>
    ⟨.debug, "escrow spent",
      [("id", (named e.id).name), ("to", e.payee.name), ("amount", e.amount.text)]⟩

def ofDelivery (block : Block) (m : Message) (outcome : Except Error Event) :
    List JournalLine :=
  let address := address m.route.module m.route.operation block
  ⟨.debug, "delivering message", address⟩ ::
    match outcome with
    | .ok event => [ofEvent block m event, ⟨.info, "message applied", address⟩]
    | .error error =>
      let details := address ++ [("error", error.message)]
      if error.isFatal then [⟨.error, "corrupt module state", details⟩]
      else [⟨.warn, "message rejected", details⟩]

def ofEnvelope (block : Block) (e : Envelope) (outcome : Except Error Event) :
    List JournalLine :=
  match e.read with
  | .ok m => ofDelivery block m outcome
  | .error error =>
    [⟨.warn, "message rejected before routing",
      address e.module e.operation block ++ [("error", error.message)]⟩]

end JournalLine

end Settlement
