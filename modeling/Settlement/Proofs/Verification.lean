import Settlement.Proofs.Refusal
import Settlement.Proofs.Run

/-!
# Verifying witnesses only adds a check

A spend first examines the message and the records, which it does in the same way under both policies and
without writing. What the policy decides is whether, between the examination and the first write, the
witness of the only input is checked against the address that the records name as the spender.

Results:
* `Unspent.checkWitness_ok_iff`: a witness passes exactly if it is signed by the spender.
* `Unspent.spend_eq`: a spend is the examination, the policy's check and the writes.
* `Unspent.verify_refines_envelope`: the two policies compared, in any store and with any verifier.
-/
namespace Settlement

theorem Witness.ofBytes?_eq_some_iff {bytes : Bytes} {w : Witness} :
    Witness.ofBytes? bytes = some w ↔
      bytes.length = 96 ∧ w = ⟨bytes.take 32, bytes.drop 32⟩ := by
  unfold Witness.ofBytes?
  by_cases h : bytes.length = 96 <;> simp [h, eq_comm]

namespace Unspent

variable {verifier : Verifier} {input : Input} {hash : Digest} {spender : Address}

/-! ## The check of a witness -/

/-- A witness holds a key of the spender and, after it, a signature of the hash that is valid under that
key, and nothing else. -/
structure Signed (verifier : Verifier) (witness : Bytes) (hash : Digest) (spender : Address) :
    Prop where
  length : witness.length = 96
  key : verifier.addressOf? (witness.take 32) = some spender
  signature : verifier.verify (witness.take 32) hash.bytes (witness.drop 32) = true

theorem checkWitness_ok_iff :
    checkWitness verifier input hash spender = .ok () ↔
      Signed verifier input.witness hash spender := by
  constructor
  · intro h
    unfold checkWitness at h
    split at h
    · cases h
    · rename_i w hw
      obtain ⟨length, rfl⟩ := Witness.ofBytes?_eq_some_iff.1 hw
      split at h
      · cases h
      · rename_i signer key
        obtain ⟨owner, signature⟩ := require_bind_ok_iff.1 h
        exact ⟨length, owner ▸ key, require_ok_iff.1 signature⟩
  · intro ⟨length, key, signature⟩
    have hw := Witness.ofBytes?_eq_some_iff.2 ⟨length, rfl⟩
    simp only [checkWitness, hw, key]
    exact require_bind_ok_iff.2 ⟨trivial, require_ok_iff.2 signature⟩

/-! ## A spend in three parts -/

/-- What a spend finds out before its witness is looked at. -/
structure Finding where
  input : Input
  value : Amount
  spender : Address

/-- The part of a spend that both policies share: all checks but that of the witness. -/
def examine (m : Spend) : Action Custody Error Finding := do
  Action.check m.validate
  let input ← Action.check (soleInput m.tx)
  Action.demand m.tx.isCanonical .nonCanonicalOrder
  let c ← get
  let spent := input.point
  Action.demand (space.has c.store (outPointKey spent)) (.outPointNotFound spent)
  let (value, spender) ← Action.check ((resolve c.store spent).mapError .damaged)
  let total := m.tx.outputValue?
  Action.demand (total = some value) (.valueNotConserved value total)
  Action.demand (spender = m.signer) (.unauthorized (.notOwner m.signer spent spender))
  pure ⟨input, value, spender⟩

/-- The part of a spend that writes. -/
def settle (m : Spend) (found : Finding) : Action Custody Error TransactionApplied := do
  Custody.write fun s => applyTransaction s m.tx found.input.point
  pure ⟨m.tx.hash, found.input.point, createdPoints m.tx.hash m.tx.outputs.length, found.value⟩

theorem spend_eq (config : Config) (verifier : Verifier) (m : Spend) :
    spend config verifier m = (do
      let found ← examine m
      Action.check (authorize config verifier found.input m.tx.hash found.spender)
      settle m found) := by
  simp only [spend, examine, settle, bind_assoc, pure_bind]

theorem authorize_envelope (config : Config) :
    authorize { config with witnessPolicy := .envelope } verifier input hash spender = .ok () := rfl

theorem authorize_verify (config : Config) :
    authorize { config with witnessPolicy := .verify } verifier input hash spender =
      checkWitness verifier input hash spender := rfl

section Parts

variable {config : Config} {m : Spend} {found : Finding} {c c' : Custody}

/-- What has been found is the only input, with what the records say of its outpoint, and finding it
has written nothing. -/
theorem examine_ok (h : (examine m).exec c = (.ok found, c')) :
    m.tx.inputs = [found.input] ∧
      resolve c.store found.input.point = .ok (found.value, found.spender) ∧ c' = c := by
  simp only [examine, Action.exec_check_bind_ok_iff, Action.exec_demand_bind_ok_iff,
    Action.exec_get_bind, soleInput_ok_iff, mapError_eq_ok_iff, Prod.exists] at h
  obtain ⟨-, -, input, only, -, -, value, spender, resolved, -, -, he⟩ := h
  cases he
  exact ⟨only, resolved, rfl⟩

/-- What stops the examination stops the spend, whatever the policy. -/
theorem spend_of_examine_error {e : Error} (h : (examine m).exec c = (.error e, c')) :
    (spend config verifier m).exec c = (.error e, c') := by
  rw [spend_eq, Action.exec_bind, h]

theorem spend_of_examine_ok (h : (examine m).exec c = (.ok found, c')) :
    (spend config verifier m).exec c =
      match authorize config verifier found.input m.tx.hash found.spender with
      | .ok () => (settle m found).exec c'
      | .error e => (.error e, c') := by
  rw [spend_eq, Action.exec_bind, h]
  simp only [Action.exec_bind, Action.exec_check]
  cases authorize config verifier found.input m.tx.hash found.spender <;> rfl

theorem settle_ok (m : Spend) (found : Finding) (c : Custody) :
    ∃ report c', (settle m found).exec c = (.ok report, c') :=
  Custody.certain_write_report _ _ c

end Parts

/-! ## The two policies -/

section Policies

variable {m : Spend} {found : Finding} {c c' : Custody}

theorem spend_envelope_of_examine (config : Config) (h : (examine m).exec c = (.ok found, c')) :
    (spend { config with witnessPolicy := .envelope } verifier m).exec c =
      (settle m found).exec c' := by
  rw [spend_of_examine_ok h, authorize_envelope]

/-- With a signature by the spender the policies do not differ. -/
theorem spend_verify_of_signed (config : Config) (h : (examine m).exec c = (.ok found, c'))
    (signed : Signed verifier found.input.witness m.tx.hash found.spender) :
    (spend { config with witnessPolicy := .verify } verifier m).exec c =
      (settle m found).exec c' := by
  rw [spend_of_examine_ok h, authorize_verify, checkWitness_ok_iff.2 signed]

/-- Without one, verification refuses the spend before its first write. -/
theorem spend_verify_of_unsigned (config : Config) (h : (examine m).exec c = (.ok found, c'))
    (unsigned : ¬ Signed verifier found.input.witness m.tx.hash found.spender) :
    ∃ e : Error, e.Unauthorized ∧
      (spend { config with witnessPolicy := .verify } verifier m).exec c = (.error e, c') := by
  rw [spend_of_examine_ok h, authorize_verify]
  cases hw : checkWitness verifier found.input m.tx.hash found.spender with
  | ok => exact absurd (checkWitness_ok_iff.1 hw) unsigned
  | error e => exact ⟨e, checkWitness_error hw, rfl⟩

/-- What passes verification is signed, and is written as it would be without. -/
theorem signed_of_spend_verify {config : Config} {report : TransactionApplied} {c₂ : Custody}
    (h : (examine m).exec c = (.ok found, c'))
    (hv : (spend { config with witnessPolicy := .verify } verifier m).exec c = (.ok report, c₂)) :
    Signed verifier found.input.witness m.tx.hash found.spender ∧
      (settle m found).exec c' = (.ok report, c₂) := by
  by_cases signed : Signed verifier found.input.witness m.tx.hash found.spender
  · exact ⟨signed, spend_verify_of_signed config h signed ▸ hv⟩
  · obtain ⟨e, -, he⟩ := spend_verify_of_unsigned config h signed
    rw [he] at hv
    cases hv

end Policies

/-- In any store and with any verifier, a spend that is refused without verification is refused with it
for the same reason. One that is accepted without it is accepted with it exactly if the witness of its
only input is signed by the address that the spent outpoint resolves to; then report, records and bank
are the same, and otherwise it is refused as not authorized and nothing changes. -/
theorem verify_refines_envelope (config : Config) (verifier : Verifier) (m : Spend) (c : Custody) :
    (∀ e c', (spend { config with witnessPolicy := .envelope } verifier m).exec c = (.error e, c') →
      (spend { config with witnessPolicy := .verify } verifier m).exec c = (.error e, c')) ∧
    ∀ report c',
      (spend { config with witnessPolicy := .envelope } verifier m).exec c = (.ok report, c') →
      ∃ input value spender, m.tx.inputs = [input] ∧
        resolve c.store input.point = .ok (value, spender) ∧
        ((∃ report' c'',
            (spend { config with witnessPolicy := .verify } verifier m).exec c =
              (.ok report', c'')) ↔
          Signed verifier input.witness m.tx.hash spender) ∧
        (∀ report' c'',
          (spend { config with witnessPolicy := .verify } verifier m).exec c = (.ok report', c'') →
            report' = report ∧ c'' = c') ∧
        (¬ Signed verifier input.witness m.tx.hash spender →
          ∃ e : Error, e.Unauthorized ∧
            (spend { config with witnessPolicy := .verify } verifier m).exec c = (.error e, c)) := by
  cases hx : (examine m).exec c with
  | mk outcome c₁ =>
    cases outcome with
    | error e =>
      rw [spend_of_examine_error hx, spend_of_examine_error hx]
      refine ⟨fun e c' h => h, fun report c' h => ?_⟩
      cases h
    | ok found =>
      obtain ⟨only, resolved, rfl⟩ := examine_ok hx
      rw [spend_envelope_of_examine config hx]
      constructor
      · intro e c' h
        obtain ⟨report, c₂, hs⟩ := settle_ok m found c₁
        rw [hs] at h
        cases h
      · intro report c' hs
        refine ⟨found.input, found.value, found.spender, only, resolved, ⟨?_, ?_⟩, ?_, ?_⟩
        · intro ⟨report', c'', hv⟩
          exact (signed_of_spend_verify hx hv).1
        · intro signed
          exact ⟨report, c', (spend_verify_of_signed config hx signed).trans hs⟩
        · intro report' c'' hv
          have hs' := (signed_of_spend_verify hx hv).2
          rw [hs] at hs'
          cases hs'
          exact ⟨rfl, rfl⟩
        · exact spend_verify_of_unsigned config hx

end Unspent

namespace Sample

/-- The payment with 96 bytes as its witness. -/
def witnessed : Unspent.Spend where
  tx := { payment.tx with inputs := [{ point, witness := List.replicate 96 0 }] }
  signer := alice

/-- Whoever takes every key for Alice's and every signature for valid. -/
def credulous : Verifier := ⟨fun _ _ _ => true, fun _ => some alice⟩

/-- The records and the bank once Alice's output is born. -/
def born : Custody := (Ledger.run {} (ops.take 3)).custody

end Sample

/-- Without a witness Alice's payment is refused under verification alone; with one that the verifier
takes for hers it is accepted under both policies. -/
theorem Unspent.verify_refines_envelope_sample :
    (∃ e : Unspent.Error, e.Unauthorized ∧
      (Unspent.spend { witnessPolicy := .verify } .ed25519 Sample.payment).exec Sample.born =
        (.error e, Sample.born)) ∧
    ∃ report c,
      (Unspent.spend { witnessPolicy := .envelope } Sample.credulous Sample.witnessed).exec
        Sample.born = (.ok report, c) ∧
      (Unspent.spend { witnessPolicy := .verify } Sample.credulous Sample.witnessed).exec
        Sample.born = (.ok report, c) := by
  have hborn : ((Unspent.spend {} .ed25519 Sample.payment).exec Sample.born).1.isOk ∧
      ((Unspent.spend {} Sample.credulous Sample.witnessed).exec Sample.born).1.isOk ∧
      Unspent.resolve Sample.born.store Sample.point = .ok (60, Sample.alice) := by
    decide +kernel
  obtain ⟨hbare, hwitnessed, howned⟩ := hborn
  constructor
  · obtain ⟨report, c, hreport⟩ := Action.exists_of_isOk hbare
    obtain ⟨input, value, spender, only, -, -, -, refused⟩ :=
      (Unspent.verify_refines_envelope {} .ed25519 Sample.payment Sample.born).2 report c hreport
    refine refused fun signed => ?_
    obtain rfl := (List.cons.inj only).1
    exact absurd signed.length (by decide)
  · obtain ⟨report, c, hreport⟩ := Action.exists_of_isOk hwitnessed
    obtain ⟨input, value, spender, only, resolved, accepted, same, -⟩ :=
      (Unspent.verify_refines_envelope {} Sample.credulous Sample.witnessed Sample.born).2 report c
        hreport
    obtain rfl := (List.cons.inj only).1
    obtain ⟨rfl, rfl⟩ := Prod.mk.inj (Except.ok.inj (howned.symm.trans resolved))
    obtain ⟨report', c', hv⟩ := accepted.2 ⟨by decide, rfl, rfl⟩
    obtain ⟨rfl, rfl⟩ := same report' c' hv
    exact ⟨report', c', hreport, hv⟩

end Settlement
