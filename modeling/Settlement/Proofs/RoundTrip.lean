import Settlement.Ledger
import Settlement.Proofs.Record

/-!
# Everything that is written is read back

Messages, events, queries, answers, envelopes, blocks and configurations are written by codecs that are put
together from those of single values, in the same ways as the codecs of stored records. Each is faithful
because its parts are: a record if its fields are and have names of their own, a union if its variants are.

Results:
* `Message.read_payload`: the payload of a message is read back on the route of the message.
* `Json.Codec.all_read_back`: a value of any type that has a codec is read back from its written form.
-/
namespace Settlement

open Json

/-! ## Messages -/

theorem Unspent.Birth.codec_faithful : Unspent.Birth.codec.Faithful :=
  recordCodec_faithful
    ⟨Coin.codec_faithful, by decide, addressCodec_faithful, by decide, trivial⟩ fun _ => rfl

theorem Unspent.Spend.codec_faithful : Unspent.Spend.codec.Faithful :=
  recordCodec_faithful
    ⟨Transaction.codec_faithful, by decide, addressCodec_faithful, by decide, trivial⟩ fun _ => rfl

theorem HashLock.Add.codec_faithful : HashLock.Add.codec.Faithful :=
  recordCodec_faithful
    ⟨Coin.codec_faithful, by decide, digestCodec_faithful, by decide, int64Codec_faithful, by decide,
      addressCodec_faithful, by decide, addressCodec_faithful, by decide, trivial⟩ fun _ => rfl

theorem HashLock.Redeem.codec_faithful : HashLock.Redeem.codec.Faithful :=
  recordCodec_faithful
    ⟨listCodec_faithful byteCodec_faithful, by decide, addressCodec_faithful, by decide, trivial⟩
    fun _ => rfl

theorem HashLock.Fail.codec_faithful : HashLock.Fail.codec.Faithful :=
  recordCodec_faithful
    ⟨digestCodec_faithful, by decide, addressCodec_faithful, by decide, trivial⟩ fun _ => rfl

theorem Escrow.Init.codec_faithful : Escrow.Init.codec.Faithful :=
  recordCodec_faithful
    ⟨escrowIdCodec_faithful, by decide, Coin.codec_faithful, by decide, addressCodec_faithful,
      by decide, Coin.codec_faithful, by decide, addressCodec_faithful, by decide, trivial⟩
    fun _ => rfl

theorem Escrow.Abort.codec_faithful : Escrow.Abort.codec.Faithful :=
  recordCodec_faithful
    ⟨escrowIdCodec_faithful, by decide, addressCodec_faithful, by decide, trivial⟩ fun _ => rfl

theorem Escrow.Join.codec_faithful : Escrow.Join.codec.Faithful :=
  recordCodec_faithful
    ⟨escrowIdCodec_faithful, by decide, addressCodec_faithful, by decide, Coin.codec_faithful,
      by decide, trivial⟩ fun _ => rfl

theorem Escrow.Spend.codec_faithful : Escrow.Spend.codec.Faithful :=
  recordCodec_faithful
    ⟨escrowIdCodec_faithful, by decide, Coin.codec_faithful, by decide, addressCodec_faithful,
      by decide, addressCodec_faithful, by decide, addressCodec_faithful, by decide, trivial⟩
    fun _ => rfl

theorem Envelope.codec_faithful : Envelope.codec.Faithful :=
  recordCodec_faithful
    ⟨textCodec_faithful, by decide, textCodec_faithful, by decide,
      listCodec_faithful byteCodec_faithful, by decide, trivial⟩ fun _ => rfl

theorem Message.read_payload (m : Message) : m.route.read m.payload = .ok m := by
  cases m with
  | birth m => exact Unspent.Birth.codec_faithful.map_decode_encode birth m
  | spend m => exact Unspent.Spend.codec_faithful.map_decode_encode spend m
  | addContract m => exact HashLock.Add.codec_faithful.map_decode_encode addContract m
  | redeemContract m => exact HashLock.Redeem.codec_faithful.map_decode_encode redeemContract m
  | failContract m => exact HashLock.Fail.codec_faithful.map_decode_encode failContract m
  | initEscrow m => exact Escrow.Init.codec_faithful.map_decode_encode initEscrow m
  | abortEscrow m => exact Escrow.Abort.codec_faithful.map_decode_encode abortEscrow m
  | joinEscrow m => exact Escrow.Join.codec_faithful.map_decode_encode joinEscrow m
  | spendEscrow m => exact Escrow.Spend.codec_faithful.map_decode_encode spendEscrow m

/-! ## Events -/

theorem Unspent.OutputBorn.codec_faithful : Unspent.OutputBorn.codec.Faithful :=
  recordCodec_faithful
    ⟨digestCodec_faithful, by decide, addressCodec_faithful, by decide, uint64Codec_faithful,
      by decide, int64Codec_faithful, by decide, trivial⟩ fun _ => rfl

theorem Unspent.TransactionApplied.codec_faithful : Unspent.TransactionApplied.codec.Faithful :=
  recordCodec_faithful
    ⟨digestCodec_faithful, by decide, OutPoint.codec_faithful, by decide,
      listCodec_faithful OutPoint.codec_faithful, by decide, uint64Codec_faithful, by decide,
      trivial⟩ fun _ => rfl

theorem HashLock.Created.codec_faithful : HashLock.Created.codec.Faithful :=
  recordCodec_faithful
    ⟨digestCodec_faithful, by decide, Coin.codec_faithful, by decide, addressCodec_faithful,
      by decide, addressCodec_faithful, by decide, int64Codec_faithful, by decide, trivial⟩
    fun _ => rfl

theorem HashLock.Redeemed.codec_faithful : HashLock.Redeemed.codec.Faithful :=
  recordCodec_faithful
    ⟨digestCodec_faithful, by decide, listCodec_faithful byteCodec_faithful, by decide,
      addressCodec_faithful, by decide, Coin.codec_faithful, by decide, trivial⟩ fun _ => rfl

theorem HashLock.Failed.codec_faithful : HashLock.Failed.codec.Faithful :=
  recordCodec_faithful
    ⟨digestCodec_faithful, by decide, addressCodec_faithful, by decide, Coin.codec_faithful,
      by decide, trivial⟩ fun _ => rfl

theorem Escrow.Created.codec_faithful : Escrow.Created.codec.Faithful :=
  recordCodec_faithful
    ⟨escrowIdCodec_faithful, by decide, addressCodec_faithful, by decide, addressCodec_faithful,
      by decide, Coin.codec_faithful, by decide, trivial⟩ fun _ => rfl

theorem Escrow.Aborted.codec_faithful : Escrow.Aborted.codec.Faithful :=
  recordCodec_faithful
    ⟨escrowIdCodec_faithful, by decide, Coin.codec_faithful, by decide, trivial⟩ fun _ => rfl

theorem Escrow.Joined.codec_faithful : Escrow.Joined.codec.Faithful :=
  recordCodec_faithful
    ⟨escrowIdCodec_faithful, by decide, Coin.codec_faithful, by decide, trivial⟩ fun _ => rfl

theorem Escrow.Spent.codec_faithful : Escrow.Spent.codec.Faithful :=
  recordCodec_faithful
    ⟨escrowIdCodec_faithful, by decide, addressCodec_faithful, by decide, Coin.codec_faithful,
      by decide, Coin.codec_faithful, by decide, trivial⟩ fun _ => rfl

/-- The variants of a union differ in what they carry, so each is looked at by itself. -/
theorem Event.codec_faithful : Event.codec.Faithful := by
  refine unionCodec_faithful (by decide)
    ⟨⟨Unspent.OutputBorn.codec_faithful, ?_⟩, ⟨Unspent.TransactionApplied.codec_faithful, ?_⟩,
      ⟨HashLock.Created.codec_faithful, ?_⟩, ⟨HashLock.Redeemed.codec_faithful, ?_⟩,
      ⟨HashLock.Failed.codec_faithful, ?_⟩, ⟨Escrow.Created.codec_faithful, ?_⟩,
      ⟨Escrow.Aborted.codec_faithful, ?_⟩, ⟨Escrow.Joined.codec_faithful, ?_⟩,
      ⟨Escrow.Spent.codec_faithful, ?_⟩⟩
    fun a => by cases a <;> rfl
  all_goals
    intro a b h
    cases a <;> cases h
    rfl

/-! ## Queries and answers -/

theorem Query.codec_faithful : Query.codec.Faithful := by
  refine unionCodec_faithful (by decide)
    ⟨Variant.bare_faithful _ _, Variant.bare_faithful _ _, Variant.bare_faithful _ _,
      ⟨digestCodec_faithful, ?_⟩, ⟨addressCodec_faithful, ?_⟩, ⟨digestCodec_faithful, ?_⟩,
      ⟨escrowIdCodec_faithful, ?_⟩⟩
    fun a => by cases a <;> rfl
  all_goals
    intro a b h
    cases a <;> cases h
    rfl

theorem Unspent.WalletEntry.codec_faithful : Unspent.WalletEntry.codec.Faithful :=
  recordCodec_faithful
    ⟨digestCodec_faithful, by decide, int32Codec_faithful, by decide, uint64Codec_faithful, by decide,
      trivial⟩ fun _ => rfl

theorem Unspent.Wallet.codec_faithful : Unspent.Wallet.codec.Faithful :=
  recordCodec_faithful
    ⟨wideCodec_faithful, by decide, listCodec_faithful Unspent.WalletEntry.codec_faithful, by decide,
      trivial⟩ fun _ => rfl

theorem Answer.codec_faithful : Answer.codec.Faithful := by
  refine unionCodec_faithful (by decide)
    ⟨⟨listCodec_faithful Unspent.AccountOutput.codec_faithful, ?_⟩,
      ⟨listCodec_faithful OutPoint.codec_faithful, ?_⟩,
      ⟨listCodec_faithful (pairCodec_faithful digestCodec_faithful Transaction.codec_faithful), ?_⟩,
      ⟨Transaction.codec_faithful, ?_⟩, ⟨Unspent.Wallet.codec_faithful, ?_⟩,
      ⟨HashLock.Contract.codec_faithful, ?_⟩, ⟨Escrow.Contract.codec_faithful, ?_⟩⟩
    fun a => by cases a <;> rfl
  all_goals
    intro a b h
    cases a <;> cases h
    rfl

/-! ## Blocks and configurations -/

theorem Block.codec_faithful : Block.codec.Faithful :=
  recordCodec_faithful
    ⟨int64Codec_faithful, by decide, textCodec_faithful, by decide, trivial⟩ fun _ => rfl

theorem WitnessPolicy.codec_faithful : WitnessPolicy.codec.Faithful :=
  unionCodec_faithful (by decide) ⟨Variant.bare_faithful _ _, Variant.bare_faithful _ _⟩
    fun a => by cases a <;> rfl

theorem Config.codec_faithful : Config.codec.Faithful :=
  recordCodec_faithful
    ⟨textCodec_faithful, by decide, WitnessPolicy.codec_faithful, by decide, trivial⟩ fun _ => rfl

/-! ## All of them -/

/-- Every value is read back from its written form, whatever key that is stored under. -/
def Json.Codec.ReadsBack {α : Type} (codec : Codec α) : Prop :=
  ∀ (key : Bytes) (a : α), Namespace.decode codec key (codec.encode a) = .ok a

theorem Json.Codec.Faithful.readsBack {α : Type} {codec : Codec α} (h : codec.Faithful) :
    codec.ReadsBack :=
  Store.decode_encode h

/-- A value of any type that has a codec is read back from its written form: stored records, messages,
what goes in and out of the ledger, and what it reports and is told. -/
theorem Json.Codec.all_read_back :
    (Unspent.AccountOutput.codec.ReadsBack ∧ OutPoint.codec.ReadsBack ∧
      Transaction.codec.ReadsBack ∧ HashLock.Contract.codec.ReadsBack ∧
      Escrow.Contract.codec.ReadsBack) ∧
    (Unspent.Birth.codec.ReadsBack ∧ Unspent.Spend.codec.ReadsBack ∧ HashLock.Add.codec.ReadsBack ∧
      HashLock.Redeem.codec.ReadsBack ∧ HashLock.Fail.codec.ReadsBack ∧
      Escrow.Init.codec.ReadsBack ∧ Escrow.Abort.codec.ReadsBack ∧ Escrow.Join.codec.ReadsBack ∧
      Escrow.Spend.codec.ReadsBack) ∧
    Envelope.codec.ReadsBack ∧ Query.codec.ReadsBack ∧ Answer.codec.ReadsBack ∧
    Event.codec.ReadsBack ∧ Block.codec.ReadsBack ∧ Config.codec.ReadsBack := by
  refine ⟨?stored, ?messages, ?_⟩
  case stored =>
    exact ⟨Unspent.AccountOutput.codec_faithful.readsBack, OutPoint.codec_faithful.readsBack,
      Transaction.codec_faithful.readsBack, HashLock.Contract.codec_faithful.readsBack,
      Escrow.Contract.codec_faithful.readsBack⟩
  case messages =>
    exact ⟨Unspent.Birth.codec_faithful.readsBack, Unspent.Spend.codec_faithful.readsBack,
      HashLock.Add.codec_faithful.readsBack, HashLock.Redeem.codec_faithful.readsBack,
      HashLock.Fail.codec_faithful.readsBack, Escrow.Init.codec_faithful.readsBack,
      Escrow.Abort.codec_faithful.readsBack, Escrow.Join.codec_faithful.readsBack,
      Escrow.Spend.codec_faithful.readsBack⟩
  exact ⟨Envelope.codec_faithful.readsBack, Query.codec_faithful.readsBack,
    Answer.codec_faithful.readsBack, Event.codec_faithful.readsBack, Block.codec_faithful.readsBack,
    Config.codec_faithful.readsBack⟩

end Settlement
