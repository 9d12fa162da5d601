import Settlement.Proofs.Canonical
import Settlement.Proofs.Deed
import Settlement.Proofs.DoubleSpend
import Settlement.Proofs.Verification

/-!
# Signing is what verification asks for

Signing puts a witness into every input and changes nothing else. What is signed has no witnesses in it, so
a signed transaction has the layout and the hash of the unsigned one, and the signature is of the very hash
that verification asks for. Nor does the examination of a spend look at witnesses, so it finds the same of
both. The witness holds the key, then the signature, and the key speaks for the address that spends: with
the signer's own signatures valid, verification accepts signed what would be accepted unsigned without it.
What the two then leave differs in the witnesses of the transaction on record alone.

Results:
* `Transaction.isCanonical_unsigned`, `Unspent.examine_unsigned`: what does not look at witnesses.
* `Unspent.applyTransaction_match`: what is left of transactions that differ in their witnesses alone.
* `Ledger.deliver_verify_of_copy`: a spend with its signatures under verification, and without where nobody
  verifies.
* `Transaction.sign_authorizes`: what signing changes, and that verification accepts it.
-/
namespace Settlement

open Unspent (resolve)

/-! ## What does not look at witnesses -/

def Input.unsigned (i : Input) : Input := { i with witness := [] }

namespace Transaction

variable {t u : Transaction}

theorem isCanonical_unsigned (t : Transaction) : t.unsigned.isCanonical = t.isCanonical := by
  rw [Bool.eq_iff_iff, isCanonical_iff_pairwise, isCanonical_iff_pairwise, unsigned, List.pairwise_map]
  rfl

theorem outputs_eq_of_unsigned (same : u.unsigned = t.unsigned) : u.outputs = t.outputs :=
  congrArg (·.outputs) same

theorem layout_eq_of_unsigned (same : u.unsigned = t.unsigned) : u.layout = t.layout := by
  rw [← layout_unsigned u, same, layout_unsigned]

theorem hash_eq_of_unsigned (same : u.unsigned = t.unsigned) : u.hash = t.hash := by
  rw [hash, hash, layout_eq_of_unsigned same]

theorem isCanonical_eq_of_unsigned (same : u.unsigned = t.unsigned) :
    u.isCanonical = t.isCanonical := by
  rw [← isCanonical_unsigned u, same, isCanonical_unsigned]

end Transaction

theorem Action.demand_congr {σ ε : Type} {p q : Prop} [Decidable p] [Decidable q] (h : p ↔ q)
    (refusal : ε) : (demand p refusal : Action σ ε Unit) = demand q refusal := by
  by_cases hq : q <;> simp [demand, h, hq]

theorem Action.check_map_bind {σ ε α β γ : Type} (x : Except ε α) (f : α → β)
    (g : β → Action σ ε γ) :
    (check (x.map f) >>= g : Action σ ε γ) = check x >>= fun a => g (f a) := by
  cases x <;> rfl

namespace Unspent

def Finding.unsigned (found : Finding) : Finding := { found with input := found.input.unsigned }

theorem validate_unsigned (m : Spend) :
    Spend.validate ⟨m.tx.unsigned, m.signer⟩ = m.validate := by
  obtain ⟨⟨inputs, outputs, lockTime⟩, signer⟩ := m
  cases inputs <;> rfl

theorem soleInput_unsigned (t : Transaction) :
    soleInput t.unsigned = (soleInput t).map Input.unsigned := by
  obtain ⟨inputs, outputs, lockTime⟩ := t
  rcases inputs with _ | ⟨input, _ | ⟨second, rest⟩⟩
  · rfl
  · rfl
  · simp [soleInput, Transaction.unsigned, Except.map]

/-- The examination of a spend does not look at witnesses. -/
theorem examine_unsigned (m : Spend) :
    examine ⟨m.tx.unsigned, m.signer⟩ = Finding.unsigned <$> examine m := by
  have hcanonical : m.tx.unsigned.isCanonical = true ↔ m.tx.isCanonical = true := by
    rw [Transaction.isCanonical_unsigned]
  simp only [examine, validate_unsigned, soleInput_unsigned, Action.check_map_bind, map_bind, map_pure]
  rw [Action.demand_congr hcanonical]
  rfl

/-- The examination lets nobody but the spender pass. -/
theorem spender_of_examine {m : Spend} {found : Finding} {c c' : Custody}
    (h : (examine m).exec c = (.ok found, c')) : found.spender = m.signer := by
  simp only [examine, Action.exec_check_bind_ok_iff, Action.exec_demand_bind_ok_iff,
    Action.exec_get_bind] at h
  obtain ⟨-, -, input, -, -, -, ⟨value, spender⟩, -, -, hsigner, he⟩ := h
  cases he
  exact hsigner

end Unspent

/-! ## What transactions leave that differ in their witnesses alone -/

theorem Store.get?_edited_congr {s t : Store} {edits : List Edit} {key : Bytes}
    (h : s.get? key = t.get? key) : (s.edited edits).get? key = (t.edited edits).get? key := by
  induction edits generalizing s t with
  | nil => exact h
  | cons e edits ih =>
    refine ih (s := s.edit e) (t := t.edit e) ?_
    rw [get?_edit, get?_edit, h]

/-- Two custodies differ in the record of one transaction at most, and all outpoints resolve to the same in
both. -/
structure Custody.Match (hash : Digest) (c d : Custody) : Prop where
  bank : c.bank = d.bank
  elsewhere : ∀ key, key ≠ (Key.transaction hash).bytes → c.store.get? key = d.store.get? key
  resolve : ∀ p, resolve c.store p = resolve d.store p

theorem Custody.Match.refl (hash : Digest) (c : Custody) : Custody.Match hash c c :=
  ⟨rfl, fun _ _ => rfl, fun _ => rfl⟩

theorem Custody.Match.has_point {hash : Digest} {c d : Custody} (h : Custody.Match hash c d)
    (p : OutPoint) :
    Unspent.space.has c.store (Unspent.outPointKey p) =
      Unspent.space.has d.store (Unspent.outPointKey p) := by
  have hkey : (Key.point p).bytes ≠ (Key.transaction hash).bytes :=
    fun he => by cases Key.bytes_injective he
  exact congrArg Option.isSome (h.elsewhere _ hkey)

namespace Unspent

section Copies

variable {t u : Transaction} (same : u.unsigned = t.unsigned) (s : Store) (spent : OutPoint)

include same

theorem get?_applyTransaction_congr {key : Bytes} (h : key ≠ (Key.transaction t.hash).bytes) :
    (applyTransaction s u spent).get? key = (applyTransaction s t spent).get? key := by
  rw [applyTransaction_eq_edited, applyTransaction_eq_edited]
  simp only [Transaction.footprint, Transaction.hash_eq_of_unsigned same,
    Transaction.outputs_eq_of_unsigned same]
  -- the records of the transactions lie under one key, and the other changes are the same
  refine Store.get?_edited_congr (s := s.edit (.write (.transaction u)))
    (t := s.edit (.write (.transaction t))) ?_
  have hu : (Edit.write (.transaction u)).key.bytes ≠ key := by
    rw [Edit.key, Record.key, Transaction.hash_eq_of_unsigned same]
    exact h.symm
  have ht : (Edit.write (.transaction t)).key.bytes ≠ key := h.symm
  rw [Store.get?_edit, Store.get?_edit, if_neg hu, if_neg ht]

theorem resolve_applyTransaction_congr (p : OutPoint) :
    resolve (applyTransaction s u spent) p = resolve (applyTransaction s t spent) p := by
  by_cases hp : p.sourceKey = .transaction t.hash
  · obtain ⟨hbirth, hsource⟩ : p.isBirth = false ∧ p.source = t.hash := by
      unfold OutPoint.sourceKey at hp
      split at hp
      · cases hp
      · rename_i hbirth
        exact ⟨by simpa using hbirth, Key.transaction.inj hp⟩
    have hu : space.load Transaction.codec (applyTransaction s u spent)
        (transactionKey p.source) = .ok (some u) := by
      rw [hsource, ← Transaction.hash_eq_of_unsigned same]
      exact (holds_transaction_applied s u spent).load Store.transactionShelf rfl
    have ht : space.load Transaction.codec (applyTransaction s t spent)
        (transactionKey p.source) = .ok (some t) := by
      rw [hsource]
      exact (holds_transaction_applied s t spent).load Store.transactionShelf rfl
    have houtput : outputAt? u p.index = outputAt? t p.index := by
      rw [outputAt?, outputAt?, Transaction.outputs_eq_of_unsigned same]
    simp only [resolve, hbirth, Bool.false_eq_true, if_false, hu, ht, bind, Except.bind, houtput]
  · exact resolve_congr (get?_applyTransaction_congr same s spent fun h => hp (Key.bytes_injective h))

theorem applyTransaction_match (bank : Bank) :
    Custody.Match t.hash ⟨applyTransaction s u spent, bank⟩ ⟨applyTransaction s t spent, bank⟩ where
  bank := rfl
  elsewhere _ := get?_applyTransaction_congr same s spent
  resolve := resolve_applyTransaction_congr same s spent

end Copies

/-! ## Spends -/

theorem settle_exec (m : Spend) (found : Finding) (c : Custody) :
    (settle m found).exec c =
      (.ok ⟨m.tx.hash, found.input.point, createdPoints m.tx.hash m.tx.outputs.length, found.value⟩,
        ⟨applyTransaction c.store m.tx found.input.point, c.bank⟩) :=
  Custody.exec_write_pure_ok_iff.2 ⟨rfl, rfl⟩

section Copies

variable {t u : Transaction} {signer : Address} (same : u.unsigned = t.unsigned)

include same

/-- Two examinations, of transactions that differ in their witnesses alone, stop for the same reason or find
the same. -/
theorem examine_copy (signer : Address) (c : Custody) :
    (∃ e c', (examine ⟨u, signer⟩).exec c = (.error e, c') ∧
      (examine ⟨t, signer⟩).exec c = (.error e, c')) ∨
    ∃ found found', (examine ⟨u, signer⟩).exec c = (.ok found, c) ∧
      (examine ⟨t, signer⟩).exec c = (.ok found', c) ∧ found.unsigned = found'.unsigned := by
  -- both find what the examination without witnesses finds
  have hx : (Finding.unsigned <$> examine ⟨u, signer⟩).exec c =
      (Finding.unsigned <$> examine ⟨t, signer⟩).exec c := by
    rw [← examine_unsigned, ← examine_unsigned, same]
  rw [Action.exec_map, Action.exec_map] at hx
  cases hu : (examine ⟨u, signer⟩).exec c with
  | mk outcome c₁ =>
    cases ht : (examine ⟨t, signer⟩).exec c with
    | mk outcome' c₂ =>
      rw [hu, ht] at hx
      obtain ⟨houtcome, hc⟩ := Prod.mk.inj hx
      obtain rfl : c₁ = c₂ := hc
      cases outcome with
      | error e =>
        cases outcome' with
        | ok found' => cases houtcome
        | error e' =>
          obtain rfl : e = e' := Except.error.inj houtcome
          exact .inl ⟨e, c₁, rfl, rfl⟩
      | ok found =>
        cases outcome' with
        | error e' => cases houtcome
        | ok found' =>
          obtain ⟨-, -, rfl⟩ := examine_ok hu
          exact .inr ⟨found, found', rfl, rfl, Except.ok.inj houtcome⟩

/-- With its signatures, a spend fares under verification as it does without them where nobody verifies:
it is accepted with the same report or refused for the same reason. -/
theorem spend_verify_of_copy {verifier : Verifier} (config : Config) (other : Verifier)
    (signed : ∀ i ∈ u.inputs, Signed verifier i.witness t.hash signer) (c : Custody) :
    ∃ outcome c₁ c₂,
      (spend { config with witnessPolicy := .verify } verifier ⟨u, signer⟩).exec c =
        (outcome, c₁) ∧
      (spend { config with witnessPolicy := .envelope } other ⟨t, signer⟩).exec c =
        (outcome, c₂) ∧
      Custody.Match t.hash c₁ c₂ := by
  rcases examine_copy same signer c with ⟨e, c', hu, ht⟩ | ⟨found, found', hu, ht, hfound⟩
  · exact ⟨_, c', c', spend_of_examine_error hu, spend_of_examine_error ht, .refl _ _⟩
  · have hpoint : found.input.point = found'.input.point :=
      congrArg (fun f => f.input.point) hfound
    have hvalue : found.value = found'.value := congrArg (·.value) hfound
    have hsigned : Signed verifier found.input.witness u.hash found.spender := by
      rw [spender_of_examine hu, Transaction.hash_eq_of_unsigned same]
      exact signed found.input (by rw [(examine_ok hu).1]; exact List.mem_cons_self)
    have hverify := spend_verify_of_signed config hu hsigned
    have henvelope : (spend { config with witnessPolicy := .envelope } other ⟨t, signer⟩).exec c = _ :=
      spend_envelope_of_examine config ht
    rw [settle_exec] at hverify henvelope
    rw [Transaction.hash_eq_of_unsigned same, Transaction.outputs_eq_of_unsigned same, hpoint,
      hvalue] at hverify
    exact ⟨_, _, _, hverify, henvelope, applyTransaction_match same _ _ _⟩

end Copies

end Unspent

/-! ## Deliveries -/

namespace Ledger

/-- Two ledgers differ in the record of one transaction at most: they have the same coins, events and live
outpoints, and these resolve to the same. -/
structure Match (hash : Digest) (l l' : Ledger) : Prop where
  custody : Custody.Match hash l.custody l'.custody
  live : ∀ p, l.Live p ↔ l'.Live p
  events : l.events = l'.events

theorem deliver_spend (rules : Rules) (block : Block) (m : Unspent.Spend) (l : Ledger) :
    deliver rules block (.spend m) l =
      match (Unspent.spend rules.config rules.verifier m).exec l.custody with
      | (.ok report, c) =>
        (.ok (.transactionApplied report), ⟨c, l.events ++ [.transactionApplied report]⟩)
      | (.error e, c) => (.error (.unspent e), ⟨c, l.events⟩) := by
  rw [deliver, execute, Action.exec_map, Action.exec_adapt]
  cases (Unspent.spend rules.config rules.verifier m).exec l.custody with
  | mk outcome c => cases outcome <;> rfl

/-- In any ledger, the delivery of a spend with its signatures has the outcome under verification that it
has without them where nobody verifies, and leaves the same but for the witnesses on record. -/
theorem deliver_verify_of_copy {t u : Transaction} {signer : Address} {verifier : Verifier}
    (config : Config) (other : Verifier) (block : Block) (same : u.unsigned = t.unsigned)
    (signed : ∀ i ∈ u.inputs, Unspent.Signed verifier i.witness t.hash signer) (l : Ledger) :
    let verified := deliver ⟨{ config with witnessPolicy := .verify }, verifier⟩ block
      (.spend ⟨u, signer⟩) l
    let bare := deliver ⟨{ config with witnessPolicy := .envelope }, other⟩ block
      (.spend ⟨t, signer⟩) l
    verified.1 = bare.1 ∧ Match t.hash verified.2 bare.2 := by
  obtain ⟨outcome, c₁, c₂, h₁, h₂, hmatch⟩ :=
    Unspent.spend_verify_of_copy same config other signed l.custody
  have hlive := fun p => Bool.eq_iff_iff.1 (hmatch.has_point p)
  simp only [deliver_spend, h₁, h₂]
  cases outcome with
  | ok report => exact ⟨rfl, hmatch, hlive, rfl⟩
  | error e => exact ⟨rfl, hmatch, hlive, rfl⟩

end Ledger

/-! ## Signing -/

theorem Verifier.ed25519_verify : ed25519.verify = Ed25519.verify := rfl

theorem Verifier.ed25519_addressOf?_publicKey (k : Ed25519.SigningKey) :
    Verifier.ed25519.addressOf? k.publicKey = some k.address := by
  simp [ed25519, Ed25519.SigningKey.address]

namespace Transaction

variable (k : Ed25519.SigningKey) (t : Transaction)

theorem unsigned_sign : (t.sign k).unsigned = t.unsigned := by
  simp only [sign, unsigned, List.map_map, Function.comp_def]

theorem witness_of_mem_sign {i : Input} (hi : i ∈ (t.sign k).inputs) :
    i.witness = (Witness.sign k t.hash.bytes).bytes := by
  obtain ⟨j, -, rfl⟩ := List.mem_map.1 hi
  rfl

theorem ofBytes?_witness_of_mem_sign {i : Input} (hi : i ∈ (t.sign k).inputs) :
    Witness.ofBytes? i.witness = some ⟨k.publicKey, k.sign t.hash.bytes⟩ := by
  rw [witness_of_mem_sign k t hi]
  exact Witness.ofBytes?_bytes k.length_publicKey (k.length_sign _)

/-- The witnesses of a signed transaction are signed by the address of the key, if the key's own signature
of the hash is valid. -/
theorem signed_of_mem_sign
    (valid : Ed25519.verify k.publicKey t.hash.bytes (k.sign t.hash.bytes) = true)
    {i : Input} (hi : i ∈ (t.sign k).inputs) :
    Unspent.Signed .ed25519 i.witness t.hash k.address := by
  obtain ⟨length, hw⟩ := Witness.ofBytes?_eq_some_iff.1 (ofBytes?_witness_of_mem_sign k t hi)
  obtain ⟨hkey, hsignature⟩ := Witness.mk.inj hw
  refine ⟨length, ?_, ?_⟩
  · rw [← hkey, Verifier.ed25519_addressOf?_publicKey]
  · rw [← hkey, ← hsignature, Verifier.ed25519_verify, valid]

/-- Signing changes witnesses alone: layout, hash and canonical order are as they were, and every witness
reads as the key and its signature of the hash. If that signature is valid then, in any ledger, the signed
transaction delivered by the address of the key where witnesses are verified has the outcome of the
transaction as it was, delivered by the same address where they are not: it is accepted with the same event
or refused for the same reason, and leaves the same live outpoints. -/
theorem sign_authorizes :
    (t.sign k).unsigned = t.unsigned ∧ (t.sign k).layout = t.layout ∧
      (t.sign k).hash = t.hash ∧ (t.sign k).isCanonical = t.isCanonical ∧
      (∀ i ∈ (t.sign k).inputs,
        Witness.ofBytes? i.witness = some ⟨k.publicKey, k.sign t.hash.bytes⟩) ∧
      (Ed25519.verify k.publicKey t.hash.bytes (k.sign t.hash.bytes) = true →
        ∀ (config : Config) (other : Verifier) (block : Block) (l : Ledger),
          let verified := Ledger.deliver ⟨{ config with witnessPolicy := .verify }, .ed25519⟩ block
            (.spend ⟨t.sign k, k.address⟩) l
          let bare := Ledger.deliver ⟨{ config with witnessPolicy := .envelope }, other⟩ block
            (.spend ⟨t, k.address⟩) l
          verified.1 = bare.1 ∧ Ledger.Match t.hash verified.2 bare.2) := by
  have same := unsigned_sign k t
  refine ⟨same, layout_eq_of_unsigned same, hash_eq_of_unsigned same, isCanonical_eq_of_unsigned same,
    fun i => ofBytes?_witness_of_mem_sign k t, fun valid config other block l => ?_⟩
  exact Ledger.deliver_verify_of_copy config other block same
    (fun i => signed_of_mem_sign k t valid) l

end Transaction

namespace Sample

def key : Ed25519.SigningKey := ⟨List.replicate 32 7⟩

/-- The birth of an output that belongs to the key. -/
def keyBirth : Unspent.Birth := ⟨stake 60, key.address⟩

def keyed : List Operation := [.fund key.address (stake 60), .deliver block (.birth keyBirth)]

/-- What the key pays out of it. -/
def keyPayment : Transaction where
  inputs := [{ point := .ofBirth (keyBirth.output block 0).id }]
  outputs := [.payTo 60 bob]

end Sample

namespace Transaction

/-- The key's own signature of its payment is valid, and signed the payment is accepted under
verification. -/
theorem sign_authorizes_sample :
    Ed25519.verify Sample.key.publicKey Sample.keyPayment.hash.bytes
      (Sample.key.sign Sample.keyPayment.hash.bytes) = true ∧
    (Ledger.deliver ⟨{ witnessPolicy := .verify }, .ed25519⟩ Sample.block
      (.spend ⟨Sample.keyPayment.sign Sample.key, Sample.key.address⟩)
      (Ledger.run {} Sample.keyed)).1.isOk ∧
    (Ledger.deliver ⟨{ witnessPolicy := .verify }, .ed25519⟩ Sample.block
      (.spend ⟨Sample.keyPayment.sign Sample.key, Sample.key.address⟩)
      (Ledger.run {} Sample.keyed)).2.Live ⟨Sample.keyPayment.hash, 0⟩ := by
  have valid : Ed25519.verify Sample.key.publicKey Sample.keyPayment.hash.bytes
      (Sample.key.sign Sample.keyPayment.hash.bytes) = true := by decide +kernel
  have hbare :
      (Ledger.deliver ⟨{ witnessPolicy := .envelope }, .ed25519⟩ Sample.block
        (.spend ⟨Sample.keyPayment, Sample.key.address⟩) (Ledger.run {} Sample.keyed)).1.isOk ∧
      (Ledger.deliver ⟨{ witnessPolicy := .envelope }, .ed25519⟩ Sample.block
        (.spend ⟨Sample.keyPayment, Sample.key.address⟩) (Ledger.run {} Sample.keyed)).2.Live
          ⟨Sample.keyPayment.hash, 0⟩ := by decide +kernel
  obtain ⟨-, -, -, -, -, delivers⟩ := sign_authorizes Sample.key Sample.keyPayment
  obtain ⟨outcome, left⟩ := delivers valid {} .ed25519 Sample.block (Ledger.run {} Sample.keyed)
  exact ⟨valid, by rw [outcome]; exact hbare.1, (left.live _).2 hbare.2⟩

end Transaction

end Settlement
