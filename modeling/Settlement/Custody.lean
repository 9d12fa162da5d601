import Settlement.Bank
import Settlement.Store

/-!
# What the handlers work on

A handler is an action on the records and the bank, in a block: it reads and checks, asks the bank, writes
records, and ends with a report or, at any point before, with a refusal.

Results:
* `require_bind_ok_iff`: what is said after a requirement holds only if the requirement does.
* `exec_credit`, `exec_debit`: the bank's part of a handler either is carried out or changes nothing.
-/
namespace Settlement

/-!
## Blocks

The ledger learns of a block only its height and the name of its chain. Heights may come in any
order, and may be negative.
-/

abbrev Height := Int64

/-- The sum of two heights, held at the ends of the range if it lies outside. -/
def Height.addClamped (a b : Height) : Height :=
  let sum := a.toInt + b.toInt
  if sum < Int64.minValue.toInt then Int64.minValue
  else if sum ≤ Int64.maxValue.toInt then Int64.ofInt sum
  else Int64.maxValue

/-- The block that a message is delivered in. -/
structure Block where
  height : Height
  chainId : String
  deriving DecidableEq

def Block.codec : Json.Codec Block :=
  Json.recordCodec "BlockInfo"
    (.field "height" Json.int64Codec none <|
      .field "chain_id" Json.textCodec none .done)
    (fun b => (b.height, b.chainId, ()))
    fun (height, chainId, ()) => ⟨height, chainId⟩

/-! ## Records and bank -/

/-- All that holds value: the records and the bank. -/
structure Custody where
  store : Store
  bank : Bank
  deriving DecidableEq

namespace Custody

variable {ε : Type}

def credit (refusal : BankError → ε) (address : Address) (coin : Coin) : Action Custody ε Unit :=
  ((Bank.deposit address coin).within Custody.bank fun bank c => { c with bank }).adapt refusal

def debit (refusal : BankError → ε) (address : Address) (coin : Coin) : Action Custody ε Unit :=
  ((Bank.withdraw address coin).within Custody.bank fun bank c => { c with bank }).adapt refusal

def write (change : Store → Store) : Action Custody ε Unit :=
  modify fun c => { c with store := change c.store }

theorem exec_credit (refusal : BankError → ε) (address : Address) (coin : Coin) (c : Custody) :
    (credit refusal address coin).exec c =
      match c.bank.credit address coin with
      | .ok bank => (.ok (), { c with bank })
      | .error e => (.error (refusal e), c) := by
  rw [credit, Action.exec_adapt, Action.exec_within, Bank.credit_eq, Bank.exec_deposit]
  cases Amount.add? (c.bank.balance address coin.denom) coin.amount <;> rfl

theorem exec_debit (refusal : BankError → ε) (address : Address) (coin : Coin) (c : Custody) :
    (debit refusal address coin).exec c =
      match c.bank.debit address coin with
      | .ok bank => (.ok (), { c with bank })
      | .error e => (.error (refusal e), c) := by
  rw [debit, Action.exec_adapt, Action.exec_within, Bank.debit_eq, Bank.exec_withdraw]
  cases Amount.sub? (c.bank.balance address coin.denom) coin.amount <;> rfl

@[simp] theorem exec_write (change : Store → Store) (c : Custody) :
    (write change : Action Custody ε Unit).exec c = (.ok (), { c with store := change c.store }) :=
  Action.exec_modify _ c

end Custody

/-- Goes on if a condition holds, and refuses otherwise. -/
def require {ε : Type} (condition : Prop) [Decidable condition] (refusal : ε) : Except ε Unit :=
  if condition then .ok () else .error refusal

theorem require_bind_ok_iff {ε α : Type} {condition : Prop} [Decidable condition] {refusal : ε}
    {next : Unit → Except ε α} {a : α} :
    (require condition refusal >>= next) = .ok a ↔ condition ∧ next () = .ok a := by
  by_cases h : condition <;> simp [require, h, bind, Except.bind]

end Settlement
