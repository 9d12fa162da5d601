import Settlement.Message

/-!
# The ledger

The ledger delivers messages to the part they are for, keeps the log of events, and answers queries. An
accepted message changes records and bank and appends one event, which says what the message did. Queries
read the store and change nothing.
-/
namespace Settlement

/-! ## Events -/

/-- What an accepted message did. -/
inductive Event
  | outputBorn (e : Unspent.OutputBorn)
  | transactionApplied (e : Unspent.TransactionApplied)
  | contractCreated (e : HashLock.Created)
  | contractRedeemed (e : HashLock.Redeemed)
  | contractFailed (e : HashLock.Failed)
  | escrowCreated (e : Escrow.Created)
  | escrowAborted (e : Escrow.Aborted)
  | escrowJoined (e : Escrow.Joined)
  | escrowSpent (e : Escrow.Spent)
  deriving DecidableEq

def Event.codec : Json.Codec Event :=
  Json.unionCodec [
    .carrying "OutputBorn" Unspent.OutputBorn.codec outputBorn
      fun | outputBorn e => some e | _ => none,
    .carrying "TransactionApplied" Unspent.TransactionApplied.codec transactionApplied
      fun | transactionApplied e => some e | _ => none,
    .carrying "HtlcCreated" HashLock.Created.codec contractCreated
      fun | contractCreated e => some e | _ => none,
    .carrying "HtlcRedeemed" HashLock.Redeemed.codec contractRedeemed
      fun | contractRedeemed e => some e | _ => none,
    .carrying "HtlcFailed" HashLock.Failed.codec contractFailed
      fun | contractFailed e => some e | _ => none,
    .carrying "EscrowCreated" Escrow.Created.codec escrowCreated
      fun | escrowCreated e => some e | _ => none,
    .carrying "EscrowAborted" Escrow.Aborted.codec escrowAborted
      fun | escrowAborted e => some e | _ => none,
    .carrying "EscrowJoined" Escrow.Joined.codec escrowJoined
      fun | escrowJoined e => some e | _ => none,
    .carrying "EscrowSpent" Escrow.Spent.codec escrowSpent
      fun | escrowSpent e => some e | _ => none]

/-! ## Queries -/

/-- What can be asked. -/
inductive Query
  | listAccountOutputs
  | listOutPoints
  | listTransactions
  | getTransaction (hash : Digest)
  | balance (address : Address)
  | getContract (hash : Digest)
  | getEscrow (id : EscrowId)
  deriving DecidableEq

def Query.codec : Json.Codec Query :=
  Json.unionCodec [
    .bare "ListAccountOutputs" .listAccountOutputs (· = .listAccountOutputs),
    .bare "ListOutPoints" .listOutPoints (· = .listOutPoints),
    .bare "ListTransactions" .listTransactions (· = .listTransactions),
    .carrying "GetTransaction" Json.digestCodec getTransaction
      fun | getTransaction hash => some hash | _ => none,
    .carrying "Balance" Json.addressCodec balance
      fun | balance address => some address | _ => none,
    .carrying "GetHtlc" Json.digestCodec getContract
      fun | getContract hash => some hash | _ => none,
    .carrying "GetEscrow" Json.escrowIdCodec getEscrow
      fun | getEscrow id => some id | _ => none]

/-- What is answered. -/
inductive Answer
  | accountOutputs (outputs : List Unspent.AccountOutput)
  | outPoints (points : List OutPoint)
  | transactions (transactions : List (Digest × Transaction))
  | transaction (t : Transaction)
  | wallet (w : Unspent.Wallet)
  | contract (c : HashLock.Contract)
  | escrow (e : Escrow.Contract)
  deriving DecidableEq

def Answer.codec : Json.Codec Answer :=
  Json.unionCodec [
    .carrying "AccountOutputs" (Json.listCodec Unspent.AccountOutput.codec) accountOutputs
      fun | accountOutputs outputs => some outputs | _ => none,
    .carrying "OutPoints" (Json.listCodec OutPoint.codec) outPoints
      fun | outPoints points => some points | _ => none,
    .carrying "Transactions"
      (Json.listCodec (Json.pairCodec Json.digestCodec Transaction.codec)) transactions
      fun | transactions ts => some ts | _ => none,
    .carrying "Transaction" Transaction.codec transaction
      fun | transaction t => some t | _ => none,
    .carrying "Wallet" Unspent.Wallet.codec wallet
      fun | wallet w => some w | _ => none,
    .carrying "Htlc" HashLock.Contract.codec contract
      fun | contract c => some c | _ => none,
    .carrying "Escrow" Escrow.Contract.codec escrow
      fun | escrow e => some e | _ => none]

def Query.answer (s : Store) : Query → Except Error Answer
  | listAccountOutputs =>
    ((Unspent.listAccountOutputs s).map .accountOutputs).mapError fun d => .unspent (.damaged d)
  | listOutPoints =>
    ((Unspent.listOutPoints s).map .outPoints).mapError fun d => .unspent (.damaged d)
  | listTransactions =>
    ((Unspent.listTransactions s).map .transactions).mapError fun d => .unspent (.damaged d)
  | getTransaction hash => ((Unspent.getTransaction s hash).map .transaction).mapError .unspent
  | balance address =>
    ((Unspent.walletOf s address).map .wallet).mapError fun d => .unspent (.damaged d)
  | getContract hash => ((HashLock.find s hash).map .contract).mapError .hashLock
  | getEscrow id => ((Escrow.find s id).map .escrow).mapError .escrow

/-! ## Delivery -/

/-- What stays fixed over the life of a ledger. -/
structure Rules where
  config : Config := {}
  verifier : Verifier := .ed25519

/-- The state of the ledger: records, bank, and the events not yet drained, oldest first. -/
structure Ledger where
  custody : Custody
  events : List Event
  deriving DecidableEq

namespace Ledger

def empty : Ledger := ⟨⟨.empty, .empty⟩, []⟩

def store (l : Ledger) : Store := l.custody.store

def bank (l : Ledger) : Bank := l.custody.bank

/-- Carries out a message in the part of the ledger it is for. -/
def execute (rules : Rules) (block : Block) : Message → Action Custody Error Event
  | .birth m => .outputBorn <$> (Unspent.birth rules.config block m).adapt .unspent
  | .spend m =>
    .transactionApplied <$> (Unspent.spend rules.config rules.verifier m).adapt .unspent
  | .addContract m => .contractCreated <$> (HashLock.add block m).adapt .hashLock
  | .redeemContract m => .contractRedeemed <$> (HashLock.redeem block m).adapt .hashLock
  | .failContract m => .contractFailed <$> (HashLock.fail block m).adapt .hashLock
  | .initEscrow m => .escrowCreated <$> (Escrow.init m).adapt .escrow
  | .abortEscrow m => .escrowAborted <$> (Escrow.abort m).adapt .escrow
  | .joinEscrow m => .escrowJoined <$> (Escrow.join m).adapt .escrow
  | .spendEscrow m => .escrowSpent <$> (Escrow.spend m).adapt .escrow

/-- Delivers a message in a block: the outcome, and the ledger afterwards. Only an accepted message
leaves an event; whatever either wrote stays. -/
def deliver (rules : Rules) (block : Block) (m : Message) (l : Ledger) :
    Except Error Event × Ledger :=
  match (execute rules block m).exec l.custody with
  | (.ok event, custody) => (.ok event, ⟨custody, l.events ++ [event]⟩)
  | (.error error, custody) => (.error error, { l with custody })

def deliverEnvelope (rules : Rules) (block : Block) (e : Envelope) (l : Ledger) :
    Except Error Event × Ledger :=
  match e.read with
  | .ok m => deliver rules block m l
  | .error error => (.error error, l)

def query (q : Query) (l : Ledger) : Except Error Answer :=
  q.answer l.store

/-! ### What the host does -/

/-- Puts new coins into an account. -/
def fund (address : Address) (coin : Coin) (l : Ledger) : Except BankError Ledger :=
  (l.bank.credit address coin).map fun bank => { l with custody := { l.custody with bank } }

def advance (address : Address) (l : Ledger) : Ledger :=
  { l with custody := { l.custody with bank := l.bank.advance address } }

def drain (l : Ledger) : List Event × Ledger :=
  (l.events, { l with events := [] })

/-- Writes a value under a full key, or removes the key. -/
def overwrite (key : Bytes) (value : Option Bytes) (l : Ledger) : Ledger :=
  let store := match value with
    | some value => Namespace.top.set l.store key value
    | none => Namespace.top.delete l.store key
  { l with custody := { l.custody with store } }

end Ledger

end Settlement
