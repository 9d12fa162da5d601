import Settlement.Action
import Settlement.Coin
import Settlement.Table

/-!
# The bank

Balances by holder and denomination, and a sequence number for each account. Every credit and debit is
checked, and one that is refused changes nothing. A credit of nothing still makes an entry; a debit of
nothing makes one only for an account that holds some denomination already.

Results:
* `balance_credit`, `balance_debit`: what an accepted update does to every balance.
-/
namespace Settlement

instance : Std.TransOrd Address :=
  inferInstanceAs (Std.TransCmp (compareOn Address.name))

instance : Std.LawfulEqOrd Address where
  eq_of_compare {a b} h := by
    cases a; cases b
    simpa [compare] using Std.LawfulEqOrd.eq_of_compare (α := String) h

/-- What a balance belongs to: an address and a denomination. -/
structure Holding where
  address : Address
  denom : String
  deriving DecidableEq

namespace Holding

instance : Ord Holding := ⟨compareLex (compareOn Holding.address) (compareOn Holding.denom)⟩

instance : Std.TransOrd Holding :=
  inferInstanceAs (Std.TransCmp (compareLex (compareOn Holding.address) (compareOn Holding.denom)))

instance : Std.LawfulEqOrd Holding where
  eq_of_compare {a b} h := by
    cases a; cases b
    simp only [compare, compareLex_eq_eq, compareOn] at h
    simp only [mk.injEq]
    exact ⟨Std.LawfulEqOrd.eq_of_compare h.1, Std.LawfulEqOrd.eq_of_compare h.2⟩

end Holding

/-- Why the bank refuses. -/
inductive BankError
  | insufficientFunds (address : Address) (required available : Coin)
  | overflow (address : Address)
  deriving DecidableEq

namespace BankError

def kind : BankError → String
  | insufficientFunds .. => "InsufficientFunds"
  | overflow _ => "Overflow"

def message : BankError → String
  | insufficientFunds address required available =>
    "Insufficient funds for " ++ address.name ++ ": required " ++ required.text ++ ", available "
      ++ available.text
  | overflow address => "Arithmetic overflow crediting " ++ address.name

end BankError

structure Bank where
  balances : Table Holding Amount
  sequences : Table Address UInt64
  deriving DecidableEq

namespace Bank

def empty : Bank := ⟨.empty, .empty⟩

instance : Inhabited Bank := ⟨empty⟩

def balance (b : Bank) (address : Address) (denom : String) : Amount :=
  (b.balances.get? ⟨address, denom⟩).getD 0

/-- The entries of an account, by denomination. -/
def holdings (b : Bank) (address : Address) : List (String × Amount) :=
  (b.balances.entries.filter fun e => e.1.address = address).map fun e => (e.1.denom, e.2)

/-- Whether an account has any entry. -/
def knows (b : Bank) (address : Address) : Bool :=
  b.balances.entries.any fun e => e.1.address = address

def setBalance (b : Bank) (address : Address) (denom : String) (amount : Amount) : Bank :=
  { b with balances := b.balances.insert ⟨address, denom⟩ amount }

def deposit (address : Address) (coin : Coin) : Action Bank BankError Unit := do
  let b ← get
  match Amount.add? (b.balance address coin.denom) coin.amount with
  | some amount => set (b.setBalance address coin.denom amount)
  | none => throw (.overflow address)

def withdraw (address : Address) (coin : Coin) : Action Bank BankError Unit := do
  let b ← get
  let available := b.balance address coin.denom
  match Amount.sub? available coin.amount with
  | some amount => set (if b.knows address then b.setBalance address coin.denom amount else b)
  | none => throw (.insufficientFunds address coin ⟨coin.denom, available⟩)

/-- The bank after a deposit. -/
def credit (b : Bank) (address : Address) (coin : Coin) : Except BankError Bank :=
  (deposit address coin).outcome b

/-- The bank after a withdrawal. -/
def debit (b : Bank) (address : Address) (coin : Coin) : Except BankError Bank :=
  (withdraw address coin).outcome b

def sequence (b : Bank) (address : Address) : UInt64 :=
  (b.sequences.get? address).getD 0

def advance (b : Bank) (address : Address) : Bank :=
  { b with sequences := b.sequences.insert address (b.sequence address + 1) }

/-- The balances that differ between two banks, with their later amounts. -/
def changes (before after : Bank) : List (Holding × Option Amount) :=
  before.balances.changes after.balances

/-! ## Updates -/

/-- A deposit either is carried out or changes nothing. -/
theorem exec_deposit (b : Bank) (address : Address) (coin : Coin) :
    (deposit address coin).exec b =
      match Amount.add? (b.balance address coin.denom) coin.amount with
      | some amount => (.ok (), b.setBalance address coin.denom amount)
      | none => (.error (.overflow address), b) := by
  rw [deposit, Action.exec_bind, Action.exec_get]
  cases h : Amount.add? (b.balance address coin.denom) coin.amount <;> simp [h]

/-- A withdrawal either is carried out or changes nothing. -/
theorem exec_withdraw (b : Bank) (address : Address) (coin : Coin) :
    (withdraw address coin).exec b =
      match Amount.sub? (b.balance address coin.denom) coin.amount with
      | some amount =>
        (.ok (), if b.knows address then b.setBalance address coin.denom amount else b)
      | none => (.error (.insufficientFunds address coin
          ⟨coin.denom, b.balance address coin.denom⟩), b) := by
  rw [withdraw, Action.exec_bind, Action.exec_get]
  cases h : Amount.sub? (b.balance address coin.denom) coin.amount <;> simp [h]

theorem credit_eq (b : Bank) (address : Address) (coin : Coin) :
    b.credit address coin =
      match Amount.add? (b.balance address coin.denom) coin.amount with
      | some amount => .ok (b.setBalance address coin.denom amount)
      | none => .error (.overflow address) := by
  rw [credit, Action.outcome, exec_deposit]
  cases Amount.add? (b.balance address coin.denom) coin.amount <;> rfl

theorem debit_eq (b : Bank) (address : Address) (coin : Coin) :
    b.debit address coin =
      match Amount.sub? (b.balance address coin.denom) coin.amount with
      | some amount => .ok (if b.knows address then b.setBalance address coin.denom amount else b)
      | none => .error (.insufficientFunds address coin
          ⟨coin.denom, b.balance address coin.denom⟩) := by
  rw [debit, Action.outcome, exec_withdraw]
  cases Amount.sub? (b.balance address coin.denom) coin.amount <;> rfl

/-- A credit is accepted exactly if the new balance fits. -/
theorem exists_credit_iff {b : Bank} {address : Address} {coin : Coin} :
    (∃ b', b.credit address coin = .ok b') ↔
      (b.balance address coin.denom).toNat + coin.amount.toNat < UInt64.size := by
  rw [credit_eq]
  unfold Amount.add?
  split <;> simp_all

/-- A debit is accepted exactly if the balance covers it. -/
theorem exists_debit_iff {b : Bank} {address : Address} {coin : Coin} :
    (∃ b', b.debit address coin = .ok b') ↔ coin.amount ≤ b.balance address coin.denom := by
  rw [debit_eq]
  unfold Amount.sub?
  split <;> simp_all

/-! ## Balances after updates -/

theorem balance_setBalance {b : Bank} {address x : Address} {denom d : String} {amount : Amount} :
    (b.setBalance address denom amount).balance x d =
      if address = x ∧ denom = d then amount else b.balance x d := by
  simp only [balance, setBalance, Table.get?_insert, Holding.mk.injEq]
  split <;> rfl

/-- An account without entries has nothing. -/
theorem balance_of_not_knows {b : Bank} {address : Address} (h : b.knows address = false)
    (denom : String) : b.balance address denom = 0 := by
  unfold balance
  cases hg : b.balances.get? ⟨address, denom⟩ with
  | none => rfl
  | some amount =>
    have hm := Table.mem_entries_iff.2 hg
    simp only [knows, List.any_eq_false, decide_eq_true_eq] at h
    exact absurd rfl (h _ hm)

theorem balance_credit {b b' : Bank} {address : Address} {coin : Coin}
    (h : b.credit address coin = .ok b') (x : Address) (d : String) :
    (b'.balance x d).toNat =
      (b.balance x d).toNat + if address = x ∧ coin.denom = d then coin.amount.toNat else 0 := by
  rw [credit_eq] at h
  split at h
  · rename_i amount ha
    cases h
    rw [Amount.add?_eq_some_iff] at ha
    rw [balance_setBalance]
    split
    · rename_i hx
      rw [← hx.1, ← hx.2, ← ha]
    · simp
  · cases h

theorem balance_debit {b b' : Bank} {address : Address} {coin : Coin}
    (h : b.debit address coin = .ok b') (x : Address) (d : String) :
    (b.balance x d).toNat =
      (b'.balance x d).toNat + if address = x ∧ coin.denom = d then coin.amount.toNat else 0 := by
  rw [debit_eq] at h
  cases hs : Amount.sub? (b.balance address coin.denom) coin.amount with
  | none => simp [hs] at h
  | some amount =>
    simp only [hs, Except.ok.injEq] at h
    rw [Amount.sub?_eq_some_iff] at hs
    subst h
    split
    · rw [balance_setBalance]
      split
      · rename_i hx
        rw [← hx.1, ← hx.2, hs, Nat.add_comm]
      · simp
    · rename_i hk
      split
      · rename_i hx
        have hz := balance_of_not_knows (by simpa using hk) coin.denom
        rw [hz] at hs
        rw [← hx.1, ← hx.2, hz]
        simp only [UInt64.toNat_zero] at hs ⊢
        omega
      · simp

end Bank

end Settlement
