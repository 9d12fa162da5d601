import Mathlib.Data.List.Induction
import Settlement.Proofs.Atomicity
import Settlement.Proofs.Integrity

/-!
# Runs of a ledger

A run is any sequence of calls on an empty ledger: deliveries in either form, any messages in any blocks,
and what the host does with the bank and the log in between. `Change` says what one call can do to records
and bank; an invariant of runs is shown for `Change` once and then holds in every state of every run.

Results:
* `change_perform`: every call makes one of the changes.
* `sound_run`: no run leaves anything but records in the store.
* `intact_run`: in every run the unspent outputs keep their integrity.
* `extends_stateAt`: in every run history only grows.
-/
namespace Settlement

inductive Operation
  | deliver (block : Block) (m : Message)
  | deliverEnvelope (block : Block) (e : Envelope)
  | fund (address : Address) (coin : Coin)
  | advance (address : Address)
  | drain

namespace Operation

/-- The ledger after a call. A funding that is refused changes nothing. -/
def perform (rules : Rules) (op : Operation) (l : Ledger) : Ledger :=
  match op with
  | deliver block m => (Ledger.deliver rules block m l).2
  | deliverEnvelope block e => (Ledger.deliverEnvelope rules block e l).2
  | fund address coin =>
    match Ledger.fund address coin l with
    | .ok l' => l'
    | .error _ => l
  | advance address => Ledger.advance address l
  | drain => (Ledger.drain l).2

/-- The message that a call delivers and its block, if it is a delivery and can be read. -/
def message? : Operation → Option (Block × Message)
  | deliver block m => some (block, m)
  | deliverEnvelope block e =>
    match e.read with
    | .ok m => some (block, m)
    | .error _ => none
  | _ => none

/-- The transaction that a call delivers, if any. -/
def transactions (op : Operation) : List Transaction :=
  match op.message? with
  | some (_, m) => m.transactions
  | none => []

theorem transactions_of_message? {op : Operation} {block : Block} {m : Message}
    (h : op.message? = some (block, m)) : op.transactions = m.transactions := by
  rw [transactions, h]

/-- A call that delivers a message does what the delivery of the message does. -/
theorem perform_of_message? {rules : Rules} {l : Ledger} {block : Block} {m : Message}
    (op : Operation) (h : op.message? = some (block, m)) :
    op.perform rules l = (Ledger.deliver rules block m l).2 := by
  cases op with
  | deliver block' m' =>
    cases h
    rfl
  | deliverEnvelope block' e =>
    rw [message?] at h
    split at h
    · rename_i m' he
      cases h
      rw [perform, Ledger.deliverEnvelope, he]
    · cases h
  | _ => cases h

def isDelivery : Operation → Bool
  | deliver .. | deliverEnvelope .. => true
  | _ => false

/-- How much of a denomination a call puts into the bank: the amount of a funding, if it is accepted. -/
def funds (op : Operation) (bank : Bank) (d : String) : Nat :=
  match op with
  | fund address coin =>
    match bank.credit address coin with
    | .ok _ => if coin.denom = d then coin.amount.toNat else 0
    | .error _ => 0
  | _ => 0

end Operation

namespace Ledger

def perform (rules : Rules) (l : Ledger) (ops : List Operation) : Ledger :=
  ops.foldl (fun l op => op.perform rules l) l

/-- The ledger after a sequence of calls on an empty one. -/
def run (rules : Rules) (ops : List Operation) : Ledger := perform rules empty ops

/-- The transactions that a sequence of calls delivers, accepted or not. -/
def transactions (ops : List Operation) : List Transaction := ops.flatMap Operation.transactions

/-- How much of a denomination has been put into the bank by a sequence of calls. -/
def funded (rules : Rules) (d : String) : Ledger → List Operation → Nat
  | _, [] => 0
  | l, op :: ops => op.funds l.bank d + funded rules d (op.perform rules l) ops

theorem run_append (rules : Rules) (ops more : List Operation) :
    run rules (ops ++ more) = perform rules (run rules ops) more := by
  simp only [run, perform, List.foldl_append]

theorem run_concat (rules : Rules) (ops : List Operation) (op : Operation) :
    run rules (ops ++ [op]) = op.perform rules (run rules ops) := by
  rw [run_append]
  rfl

theorem run_take_succ (rules : Rules) {ops : List Operation} {k : Nat} {op : Operation}
    (h : ops[k]? = some op) :
    run rules (ops.take (k + 1)) = op.perform rules (run rules (ops.take k)) := by
  rw [List.take_add_one, h, Option.toList_some, run_concat]

theorem funded_append (rules : Rules) (d : String) (l : Ledger) (ops more : List Operation) :
    funded rules d l (ops ++ more) =
      funded rules d l ops + funded rules d (perform rules l ops) more := by
  induction ops generalizing l with
  | nil => simp [funded, perform]
  | cons op ops ih =>
    rw [List.cons_append, funded, funded, ih, Nat.add_assoc]
    rfl

theorem transactions_concat_subset {ts : List Transaction} {ops : List Operation} {op : Operation}
    (h : ∀ t ∈ transactions (ops ++ [op]), t ∈ ts) :
    (∀ t ∈ transactions ops, t ∈ ts) ∧ ∀ t ∈ op.transactions, t ∈ ts := by
  simp only [transactions, List.flatMap_append, List.flatMap_singleton, List.mem_append] at h
  exact ⟨fun t ht => h t (.inl ht), fun t ht => h t (.inr ht)⟩

theorem mem_transactions_of_getElem? {ops : List Operation} {k : Nat} {op : Operation}
    (h : ops[k]? = some op) {t : Transaction} (ht : t ∈ op.transactions) :
    t ∈ transactions ops :=
  List.mem_flatMap.2 ⟨op, List.mem_of_getElem? h, ht⟩

theorem mem_transactions_take {ops : List Operation} {k : Nat} {t : Transaction}
    (h : t ∈ transactions (ops.take k)) : t ∈ transactions ops := by
  obtain ⟨op, ho, ht⟩ := List.mem_flatMap.1 h
  exact List.mem_flatMap.2 ⟨op, List.mem_of_mem_take ho, ht⟩

end Ledger

/-! ## What a call can do -/

/-- The changes that a call can make to records and bank. -/
inductive Change (rules : Rules) (c : Custody) : Operation → Custody → Prop
  | accepted {op : Operation} {block : Block} {m : Message} {c' : Custody}
      (reads : op.message? = some (block, m)) (effect : Effect rules block c m c') :
      Change rules c op c'
  | refused {op : Operation} (quiet : ∀ d, op.funds c.bank d = 0) : Change rules c op c
  | funded {address : Address} {coin : Coin} {bank : Bank}
      (paid : c.bank.credit address coin = .ok bank) :
      Change rules c (.fund address coin) ⟨c.store, bank⟩
  | advanced {address : Address} :
      Change rules c (.advance address) ⟨c.store, c.bank.advance address⟩

theorem change_deliver {rules : Rules} {l : Ledger} (hs : l.store.Sound) {op : Operation}
    {block : Block} {m : Message} (hread : op.message? = some (block, m))
    (quiet : ∀ d, op.funds l.bank d = 0) :
    Change rules l.custody op (Ledger.deliver rules block m l).2.custody := by
  cases h : Ledger.deliver rules block m l with
  | mk outcome l' =>
    cases outcome with
    | ok event => exact .accepted hread (effect_of_accept hs (Ledger.deliver_ok h).1)
    | error e =>
      rw [Ledger.deliver_error h]
      exact .refused quiet

theorem change_perform (rules : Rules) {l : Ledger} (hs : l.store.Sound) (op : Operation) :
    Change rules l.custody op (op.perform rules l).custody := by
  cases op with
  | deliver block m => exact change_deliver hs rfl fun _ => rfl
  | deliverEnvelope block e =>
    rcases Ledger.deliverEnvelope_cases rules block e l with ⟨error, he⟩ | ⟨m, hm, he⟩
    · rw [Operation.perform, he]
      exact .refused fun _ => rfl
    · rw [Operation.perform, he]
      exact change_deliver hs (by rw [Operation.message?, hm]) fun _ => rfl
  | fund address coin =>
    rw [Operation.perform, Ledger.fund]
    cases h : l.bank.credit address coin with
    | ok bank => exact .funded h
    | error e =>
      refine .refused fun d => ?_
      rw [Operation.funds, show l.custody.bank.credit address coin = .error e from h]
  | advance address => exact .advanced
  | drain => exact .refused fun _ => rfl

variable {rules : Rules} {ts : List Transaction} {c c' : Custody} {op : Operation}

/-- What every accepted message keeps of the records, every call keeps. -/
theorem Change.keeps (hc : Change rules c op c') {P : Store → Prop}
    (accepted : ∀ {block m}, op.transactions = m.transactions → Effect rules block c m c' →
      P c.store → P c'.store)
    (h : P c.store) : P c'.store := by
  cases hc with
  | accepted reads effect => exact accepted (Operation.transactions_of_message? reads) effect h
  | refused => exact h
  | funded => exact h
  | advanced => exact h

theorem Change.extends (hc : Change rules c op c') (h : Intact ts c.store) (hd : Distinct ts)
    (hts : ∀ t ∈ op.transactions, t ∈ ts) : Extends c'.store c.store := by
  refine hc.keeps (P := fun s => Extends s c.store) (fun htx effect _ => ?_) (Extends.refl _)
  exact effect.extends h (hd.mono (List.append_subset.2 ⟨htx ▸ hts, List.Subset.refl ts⟩))

theorem Change.sound (hc : Change rules c op c') (h : c.store.Sound) : c'.store.Sound :=
  hc.keeps (fun _ effect => effect.sound) h

/-! ## What holds throughout a run -/

theorem sound_run (rules : Rules) (ops : List Operation) : (Ledger.run rules ops).store.Sound := by
  induction ops using List.reverseRecOn with
  | nil => exact Store.sound_empty
  | append_singleton ops op ih =>
    rw [Ledger.run_concat]
    exact (change_perform rules ih op).sound ih

/-- What is so where there are no records, and is kept by every accepted message that delivers none but
certain transactions, is so in every run that delivers none but these. -/
theorem store_run_of (rules : Rules) {ops : List Operation}
    (hts : ∀ t ∈ Ledger.transactions ops, t ∈ ts) {P : Store → Prop} (empty : P .empty)
    (step : ∀ {block m c c'}, Effect rules block c m c' → (∀ t ∈ m.transactions, t ∈ ts) →
      P c.store → P c'.store) :
    P (Ledger.run rules ops).store := by
  induction ops using List.reverseRecOn with
  | nil => exact empty
  | append_singleton ops op ih =>
    obtain ⟨hops, hop⟩ := Ledger.transactions_concat_subset hts
    rw [Ledger.run_concat]
    exact (change_perform rules (sound_run rules ops) op).keeps
      (fun htx effect => step effect (htx ▸ hop)) (ih hops)

/-- What is so where there are no records, and is kept by every accepted message, is so in every run. -/
theorem store_run (rules : Rules) (ops : List Operation) {P : Store → Prop} (empty : P .empty)
    (step : ∀ {block m c c'}, Effect rules block c m c' → P c.store → P c'.store) :
    P (Ledger.run rules ops).store :=
  store_run_of rules (fun _ ht => ht) empty fun effect _ => step effect

/-- In every run in which only transactions of one layout share a hash, and none has too many outputs,
the unspent outputs keep their integrity. -/
theorem intact_run (rules : Rules) {ops : List Operation} (hd : Distinct ts) (hb : Bounded ts)
    (hts : ∀ t ∈ Ledger.transactions ops, t ∈ ts) : Intact ts (Ledger.run rules ops).store :=
  store_run_of rules hts (intact_empty ts) fun effect hm h => effect.intact h hd hb hm

/-- In such a run this is so of what accepted messages keep while the unspent outputs have their integrity
and the transactions of the message are distinct from all others. -/
theorem intact_store_run (rules : Rules) {ops : List Operation} (hd : Distinct ts) (hb : Bounded ts)
    (hts : ∀ t ∈ Ledger.transactions ops, t ∈ ts) {P : Store → Prop} (empty : P .empty)
    (step : ∀ {block m c c'}, Effect rules block c m c' → Intact ts c.store →
      Distinct (m.transactions ++ ts) → Bounded (m.transactions ++ ts) → P c.store → P c'.store) :
    P (Ledger.run rules ops).store := by
  refine (store_run_of rules hts (P := fun s => Intact ts s ∧ P s) ⟨intact_empty ts, empty⟩ ?_).2
  rintro block m c c' effect hm ⟨hi, h⟩
  have hall := List.append_subset.2 ⟨hm, List.Subset.refl ts⟩
  exact ⟨effect.intact hi hd hb hm, step effect hi (hd.mono hall) (hb.mono hall) h⟩

namespace Ledger

/-- The ledger after the first calls of a run. -/
def stateAt (rules : Rules) (ops : List Operation) (k : Nat) : Ledger := run rules (ops.take k)

theorem stateAt_succ (rules : Rules) {ops : List Operation} {k : Nat} {op : Operation}
    (h : ops[k]? = some op) :
    stateAt rules ops (k + 1) = op.perform rules (stateAt rules ops k) :=
  run_take_succ rules h

theorem stateAt_succ_of_none (rules : Rules) {ops : List Operation} {k : Nat}
    (h : ops[k]? = none) : stateAt rules ops (k + 1) = stateAt rules ops k := by
  have hlen : ops.length ≤ k := List.getElem?_eq_none_iff.1 h
  rw [stateAt, stateAt, List.take_of_length_le (by omega), List.take_of_length_le (by omega)]

theorem sound_stateAt (rules : Rules) (ops : List Operation) (k : Nat) :
    (stateAt rules ops k).store.Sound :=
  sound_run rules (ops.take k)

section

variable (rules : Rules) {ops : List Operation} (hd : Distinct (transactions ops))
  (hb : Bounded (transactions ops))

include hd hb

theorem intact_stateAt (k : Nat) : Intact (transactions ops) (stateAt rules ops k).store :=
  intact_run rules hd hb fun _ ht => mem_transactions_take ht

theorem extends_stateAt {i k : Nat} (h : i ≤ k) :
    Extends (stateAt rules ops k).store (stateAt rules ops i).store := by
  induction h with
  | refl => exact Extends.refl _
  | @step k _ ih =>
    refine Extends.trans ?_ ih
    cases hop : ops[k]? with
    | none =>
      rw [stateAt_succ_of_none rules hop]
      exact Extends.refl _
    | some op =>
      have hk := intact_stateAt rules hd hb k
      have hc := change_perform rules hk.sound op
      rw [stateAt_succ rules hop]
      exact hc.extends hk hd fun t ht => mem_transactions_of_getElem? hop ht

end

end Ledger

/-! ## A run

Alice turns coins into an outpoint and pays Bob out of it. She tries to pay out of it once more, which is
refused, and puts the rest of her coins into a contract and into an escrow that Bob joins. -/

namespace Sample

def alice : Address := ⟨"alice"⟩

def bob : Address := ⟨"bob"⟩

def block : Block := ⟨10, "chain"⟩

def stake (amount : Amount) : Coin := ⟨"stake", amount⟩

def savings : EscrowId := ⟨"savings"⟩

def birth : Unspent.Birth := ⟨stake 60, alice⟩

/-- The outpoint that the birth creates. -/
def point : OutPoint := .ofBirth (birth.output block 0).id

/-- Alice pays Bob and keeps the change. -/
def payment : Unspent.Spend where
  tx := { inputs := [{ point }], outputs := [.payTo 25 bob, .payTo 35 alice] }
  signer := alice

/-- Alice pays herself out of the same outpoint. -/
def repayment : Unspent.Spend where
  tx := { inputs := [{ point, sequence := 1 }], outputs := [.payTo 60 alice] }
  signer := alice

/-- Alice passes her change on. -/
def change : Unspent.Spend where
  tx := { inputs := [{ point := ⟨payment.tx.hash, 1⟩ }], outputs := [.payTo 35 ⟨"carol"⟩] }
  signer := alice

/-- The escrow once Bob has joined it. -/
def joint : Escrow.Contract :=
  ⟨savings, .locked, stake 5, alice, stake 5, bob, stake 10⟩

def ops : List Operation := [
  .fund alice (stake 100),
  .fund bob (stake 20),
  .deliver block (.birth birth),
  .deliver block (.spend payment),
  .deliverEnvelope block (.ofMessage (.spend repayment)),
  .deliver block (.addContract ⟨stake 10, .zero, 5, bob, alice⟩),
  .deliver block (.initEscrow ⟨savings, stake 5, alice, stake 5, bob⟩),
  .deliver block (.joinEscrow ⟨savings, bob, stake 5⟩)]

end Sample

theorem exists_ok_of_isOk {ε α : Type} {x : Except ε α} (h : x.isOk) : ∃ a, x = .ok a := by
  cases x with
  | ok a => exact ⟨a, rfl⟩
  | error => cases h

theorem Action.exists_of_isOk {σ ε α : Type} {x : Action σ ε α} {s : σ} (h : (x.exec s).1.isOk) :
    ∃ a s', x.exec s = (.ok a, s') := by
  obtain ⟨a, ha⟩ := exists_ok_of_isOk h
  exact ⟨a, _, Prod.ext ha rfl⟩

theorem distinct_sample : Distinct (Ledger.transactions Sample.ops) := by decide +kernel

theorem distinct_change : Distinct (Sample.change.tx :: Ledger.transactions Sample.ops) :=
  distinct_sample.cons (by decide +kernel)

theorem bounded_sample : Bounded (Ledger.transactions Sample.ops) := by decide +kernel

end Settlement
