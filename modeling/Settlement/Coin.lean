import Settlement.Json.Codec

/-!
# Denominated amounts

A coin is an amount, in the smallest unit, of one denomination. It is written as the amount's digits
followed by the denomination. Arithmetic is checked: nothing wraps, and denominations never mix.

Results:
* `add_ok_iff`, `sub_ok_iff`: a sum or a difference exists exactly when the denominations agree and
  the exact result fits.
-/
namespace Settlement

/-- An amount in the smallest unit of a denomination. -/
abbrev Amount := UInt64

/-- The sum of two amounts, if it fits. -/
def Amount.add? (a b : Amount) : Option Amount :=
  if a.toNat + b.toNat < UInt64.size then some (a + b) else none

/-- The difference of two amounts, if it is not negative. -/
def Amount.sub? (a b : Amount) : Option Amount :=
  if b ≤ a then some (a - b) else none

theorem Amount.add?_eq_some_iff {a b c : Amount} :
    Amount.add? a b = some c ↔ a.toNat + b.toNat = c.toNat := by
  unfold Amount.add?
  have hc := c.toNat_lt_size
  split
  · rename_i h
    rw [Option.some.injEq, ← UInt64.toNat_inj, UInt64.toNat_add]
    exact (Nat.mod_eq_of_lt h).symm ▸ Iff.rfl
  · simp only [reduceCtorEq, false_iff]
    omega

theorem Amount.add?_eq_none_iff {a b : Amount} :
    Amount.add? a b = none ↔ UInt64.size ≤ a.toNat + b.toNat := by
  unfold Amount.add?
  split <;> simp <;> omega

theorem Amount.sub?_eq_some_iff {a b c : Amount} :
    Amount.sub? a b = some c ↔ a.toNat = b.toNat + c.toNat := by
  unfold Amount.sub?
  have ha := a.toNat_lt
  split
  · rename_i h
    rw [Option.some.injEq, ← UInt64.toNat_inj, UInt64.toNat_sub_of_le a b h]
    rw [UInt64.le_iff_toNat_le] at h
    omega
  · rename_i h
    rw [UInt64.le_iff_toNat_le] at h
    simp only [reduceCtorEq, false_iff]
    omega

structure Coin where
  denom : String
  amount : Amount
  deriving DecidableEq, Inhabited

namespace Coin

def isPositive (c : Coin) : Bool := 0 < c.amount

def isZero (c : Coin) : Bool := c.amount = 0

def sameDenom (a b : Coin) : Bool := a.denom = b.denom

/-- A coin as it is shown: the amount, then the denomination. -/
def text (c : Coin) : String :=
  Decimal.text c.amount.toNat ++ c.denom

instance : ToString Coin := ⟨text⟩

def add (a b : Coin) : Except ValueError Coin :=
  if a.denom ≠ b.denom then .error (.denomMismatch a.denom b.denom)
  else
    match Amount.add? a.amount b.amount with
    | some amount => .ok ⟨a.denom, amount⟩
    | none => .error .overflow

def sub (a b : Coin) : Except ValueError Coin :=
  if a.denom ≠ b.denom then .error (.denomMismatch a.denom b.denom)
  else
    match Amount.sub? a.amount b.amount with
    | some amount => .ok ⟨a.denom, amount⟩
    | none => .error .underflow

theorem add_ok_iff {a b c : Coin} :
    add a b = .ok c ↔ a.denom = b.denom ∧ c.denom = a.denom ∧
      a.amount.toNat + b.amount.toNat = c.amount.toNat := by
  rw [← Amount.add?_eq_some_iff]
  unfold add
  by_cases h : a.denom = b.denom
  · cases hs : Amount.add? a.amount b.amount <;> cases c <;> simp [h, eq_comm]
  · simp [h]

theorem sub_ok_iff {a b c : Coin} :
    sub a b = .ok c ↔ a.denom = b.denom ∧ c.denom = a.denom ∧
      a.amount.toNat = b.amount.toNat + c.amount.toNat := by
  rw [← Amount.sub?_eq_some_iff]
  unfold sub
  by_cases h : a.denom = b.denom
  · cases hs : Amount.sub? a.amount b.amount <;> cases c <;> simp [h, eq_comm]
  · simp [h]

/-- Reads an amount directly followed by a denomination of ASCII letters and digits. The amount is
the longest run of digits at the start, so a denomination never starts with one. -/
def ofText (s : String) : Except ValueError Coin :=
  let run := s.toList.takeWhile Char.isDigit
  let denom := s.toList.dropWhile Char.isDigit
  let amount := Nat.ofDigitChars 10 run 0
  if run ≠ [] ∧ denom ≠ [] ∧ denom.all Char.isAlphanum ∧ amount < UInt64.size then
    .ok ⟨String.ofList denom, UInt64.ofNat amount⟩
  else .error (.invalidCoin s)

def codec : Json.Codec Coin :=
  Json.recordCodec "Coin"
    (.field "denom" Json.textCodec none <|
      .field "amount" Json.uint64Codec none .done)
    (fun c => (c.denom, c.amount, ()))
    fun (denom, amount, ()) => ⟨denom, amount⟩

end Coin

end Settlement
