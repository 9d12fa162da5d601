import Settlement.Proofs.Value

/-!
# The bank keeps exact books

Whoever calls the bank, and in whatever order, finds in every balance what was paid into it and not paid out
again, no more and no less. The arithmetic is that of unbounded numbers: a credit that would not fit is
refused, and so is a debit of more than there is, and a call that is refused leaves no trace, not even an
entry. What one call does is said once (`Call.exec_cases`); the rest is an induction over the calls.

Results:
* `Call.exec_cases`: a call is carried out and moves exactly its coin, or it is refused and changes nothing.
* `balance_run`: every balance after any calls on any bank.
* `books_exact`: from an empty bank on every balance is the difference of what was paid in and out, the calls
  that are accepted are those that the balances allow, and what is refused changes nothing.
-/
namespace Settlement.Bank

inductive Call
  | fund (address : Address) (coin : Coin)
  | credit (address : Address) (coin : Coin)
  | debit (address : Address) (coin : Coin)
  | advance (address : Address)
  deriving DecidableEq

namespace Call

def action : Call → Action Bank BankError Unit
  | fund address coin | credit address coin => deposit address coin
  | debit address coin => withdraw address coin
  | advance address => modify fun b => b.advance address

def Succeeds (call : Call) (b : Bank) : Prop := (call.action.exec b).1 = .ok ()

/-- What a call pays into a balance. -/
def paidIn (x : Address) (d : String) : Call → Nat
  | fund address coin | credit address coin => if address = x then coin.amountOf d else 0
  | debit .. | advance _ => 0

/-- What a call pays out of a balance. -/
def paidOut (x : Address) (d : String) : Call → Nat
  | debit address coin => if address = x then coin.amountOf d else 0
  | fund .. | credit .. | advance _ => 0

/-- What a call needs of the balance that it is about. -/
def Allowed (b : Bank) : Call → Prop
  | fund address coin | credit address coin =>
    (b.balance address coin.denom).toNat + coin.amount.toNat < UInt64.size
  | debit address coin => coin.amount.toNat ≤ (b.balance address coin.denom).toNat
  | advance _ => True

end Call

/-! ## One call -/

variable {b b' : Bank}

theorem outcome_eq_ok_iff {x : Action Bank BankError Unit} :
    x.outcome b = .ok b' ↔ x.exec b = (.ok (), b') := by
  rw [Action.outcome]
  cases x.exec b with
  | mk result after => cases result <;> simp

theorem deposit_cases (b : Bank) (address : Address) (coin : Coin) :
    ((b.balance address coin.denom).toNat + coin.amount.toNat < UInt64.size ∧
      ∃ b', (deposit address coin).exec b = (.ok (), b') ∧ ∀ x d, (b'.balance x d).toNat =
        (b.balance x d).toNat + if address = x then coin.amountOf d else 0) ∨
    (¬ (b.balance address coin.denom).toNat + coin.amount.toNat < UInt64.size ∧
      ∃ e, (deposit address coin).exec b = (.error e, b)) := by
  by_cases fits : (b.balance address coin.denom).toNat + coin.amount.toNat < UInt64.size
  · obtain ⟨b', credited⟩ := exists_credit_iff.2 fits
    refine .inl ⟨fits, b', outcome_eq_ok_iff.1 credited, fun x d => ?_⟩
    rw [balance_credit credited x d, ite_and, Coin.amountOf]
  · refine .inr ⟨fits, .overflow address, ?_⟩
    rw [exec_deposit, Amount.add?_eq_none_iff.2 (Nat.not_lt.1 fits)]

theorem withdraw_cases (b : Bank) (address : Address) (coin : Coin) :
    (coin.amount.toNat ≤ (b.balance address coin.denom).toNat ∧
      ∃ b', (withdraw address coin).exec b = (.ok (), b') ∧ ∀ x d, (b.balance x d).toNat =
        (b'.balance x d).toNat + if address = x then coin.amountOf d else 0) ∨
    (¬ coin.amount.toNat ≤ (b.balance address coin.denom).toNat ∧
      ∃ e, (withdraw address coin).exec b = (.error e, b)) := by
  rw [← UInt64.le_iff_toNat_le]
  by_cases covered : coin.amount ≤ b.balance address coin.denom
  · obtain ⟨b', debited⟩ := exists_debit_iff.2 covered
    refine .inl ⟨covered, b', outcome_eq_ok_iff.1 debited, fun x d => ?_⟩
    rw [balance_debit debited x d, ite_and, Coin.amountOf]
  · have refused := exec_withdraw b address coin
    rw [Amount.sub?, if_neg covered] at refused
    exact .inr ⟨covered, _, refused⟩

/-- A call is carried out exactly if it is allowed, and then moves its coin and nothing else; otherwise it
is refused and changes nothing. -/
theorem Call.exec_cases (call : Call) (b : Bank) :
    (call.Allowed b ∧ ∃ b', call.action.exec b = (.ok (), b') ∧ ∀ x d,
      (b'.balance x d).toNat + call.paidOut x d = (b.balance x d).toNat + call.paidIn x d) ∨
    (¬ call.Allowed b ∧ ∃ e, call.action.exec b = (.error e, b)) := by
  cases call with
  | fund address coin => exact deposit_cases b address coin
  | credit address coin => exact deposit_cases b address coin
  | debit address coin =>
    rcases withdraw_cases b address coin with ⟨covered, b', done, balances⟩ | refused
    · exact .inl ⟨covered, b', done, fun x d => (balances x d).symm⟩
    · exact .inr refused
  | advance address => exact .inl ⟨trivial, b.advance address, rfl, fun x d => rfl⟩

/-! ## Any calls -/

def run (b : Bank) (calls : List Call) : Bank :=
  calls.foldl (fun b call => (call.action.exec b).2) b

/-- Those of the calls that the bank carries out. -/
def carriedOut (b : Bank) : List Call → List Call
  | [] => []
  | call :: rest =>
    match call.action.exec b with
    | (.ok (), b') => call :: carriedOut b' rest
    | (.error _, b') => carriedOut b' rest

def paidIn (calls : List Call) (x : Address) (d : String) : Nat :=
  (calls.map (Call.paidIn x d)).sum

def paidOut (calls : List Call) (x : Address) (d : String) : Nat :=
  (calls.map (Call.paidOut x d)).sum

/-- What is paid into a balance is in it or has been paid out. -/
theorem balance_run (b : Bank) (calls : List Call) (x : Address) (d : String) :
    ((b.run calls).balance x d).toNat + paidOut (b.carriedOut calls) x d =
      (b.balance x d).toNat + paidIn (b.carriedOut calls) x d := by
  induction calls generalizing b with
  | nil => rfl
  | cons call rest ih =>
    rw [run, List.foldl_cons, ← run, carriedOut]
    rcases call.exec_cases b with ⟨-, b', done, balances⟩ | ⟨-, e, refused⟩
    · have step := balances x d
      have later := ih b'
      simp only [done, paidOut, paidIn, List.map_cons, List.sum_cons] at later ⊢
      omega
    · simp only [refused]
      exact ih b

/-- A bank keeps exact books of some calls. -/
structure Books (calls : List Call) (b : Bank) : Prop where
  balance : ∀ x d, ((b.balance x d).toNat : Int) =
    paidIn (empty.carriedOut calls) x d - paidOut (empty.carriedOut calls) x d
  fund : ∀ address coin, (Call.fund address coin).Succeeds b ↔
    (b.balance address coin.denom).toNat + coin.amount.toNat < UInt64.size
  credit : ∀ address coin, (Call.credit address coin).Succeeds b ↔
    (b.balance address coin.denom).toNat + coin.amount.toNat < UInt64.size
  debit : ∀ address coin, (Call.debit address coin).Succeeds b ↔
    coin.amount.toNat ≤ (b.balance address coin.denom).toNat
  advance : ∀ address, (Call.advance address).Succeeds b
  refused : ∀ call : Call, ¬ call.Succeeds b → (call.action.exec b).2 = b

theorem Call.succeeds_iff (call : Call) (b : Bank) : call.Succeeds b ↔ call.Allowed b := by
  rw [Succeeds]
  rcases call.exec_cases b with ⟨allowed, b', done, -⟩ | ⟨forbidden, e, refused⟩
  · simp [done, allowed]
  · simp [refused, forbidden]

theorem Call.exec_of_not_succeeds {call : Call} (h : ¬ call.Succeeds b) :
    (call.action.exec b).2 = b := by
  rcases call.exec_cases b with ⟨allowed, -⟩ | ⟨-, e, refused⟩
  · exact absurd ((call.succeeds_iff b).2 allowed) h
  · rw [refused]

/-- After any calls from an empty bank on, every balance is, in unbounded numbers, what the calls that were
carried out have paid into just this balance less what they have paid out of it; a call is carried out next
exactly if a debit is covered by its balance and a credit leaves one that fits; and one that is refused
leaves the bank as it is, its entries included. -/
theorem books_exact (calls : List Call) : Books calls (empty.run calls) where
  balance x d := by
    have h := balance_run empty calls x d
    have zero : (empty.balance x d).toNat = 0 := rfl
    omega
  fund address coin := (Call.fund address coin).succeeds_iff _
  credit address coin := (Call.credit address coin).succeeds_iff _
  debit address coin := (Call.debit address coin).succeeds_iff _
  advance address := ((Call.advance address).succeeds_iff _).2 trivial
  refused _ h := Call.exec_of_not_succeeds h

end Settlement.Bank
