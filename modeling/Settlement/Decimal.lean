import Settlement.Text.Utf8

/-!
# Decimal text

Whole numbers are written with the fewest decimal digits, with a minus sign in front if negative, and
read digit by digit.

Results:
* `value_digits`: the digits of a number read back as the number.
* `isDigit_digits`: a written number holds digits only.
-/
namespace Settlement.Decimal

def isDigit (b : UInt8) : Bool :=
  0x30 ≤ b && b ≤ 0x39

def digitValue (b : UInt8) : Nat :=
  b.toNat - 0x30

/-- The digits of a number, without leading zeros. -/
def digits (n : Nat) : Bytes :=
  (Nat.toDigits 10 n).map fun c => UInt8.ofNat c.toNat

/-- The number a run of digits denotes. -/
def value (run : Bytes) : Nat :=
  run.foldl (fun n b => n * 10 + digitValue b) 0

/-- The digits of an integer, after a minus sign if it is negative. -/
def signed : Int → Bytes
  | .ofNat n => digits n
  | .negSucc n => 0x2D :: digits (n + 1)

def text (n : Nat) : String :=
  Text.ascii (digits n)

def signedText (i : Int) : String :=
  Text.ascii (signed i)

/-- The digit characters carry the codes that `isDigit` accepts. -/
theorem isDigit_ofChar {c : Char} (h : c.isDigit) :
    isDigit (UInt8.ofNat c.toNat) = true ∧
      digitValue (UInt8.ofNat c.toNat) = c.toNat - '0'.toNat := by
  have hc : 48 ≤ c.toNat ∧ c.toNat ≤ 57 := by
    simp only [Char.isDigit, Bool.and_eq_true, decide_eq_true_eq, ge_iff_le] at h
    exact ⟨h.1, h.2⟩
  have all : ∀ n, n ≤ 57 → 48 ≤ n → isDigit (UInt8.ofNat n) = true ∧
      digitValue (UInt8.ofNat n) = n - '0'.toNat := by decide
  exact all _ hc.2 hc.1

theorem isDigit_digits (n : Nat) : ∀ b ∈ digits n, isDigit b = true := by
  intro b hb
  simp only [digits, List.mem_map] at hb
  obtain ⟨c, hc, rfl⟩ := hb
  exact (isDigit_ofChar (Nat.isDigit_of_mem_toDigits (by omega) (by omega) hc)).1

theorem digits_ne_nil (n : Nat) : digits n ≠ [] := by
  simp [digits, Nat.toDigits_ne_nil]

theorem value_digits (n : Nat) : value (digits n) = n := by
  have fold : ∀ (cs : List Char) (start : Nat), (∀ c ∈ cs, c.isDigit) →
      (cs.map fun c => UInt8.ofNat c.toNat).foldl (fun n b => n * 10 + digitValue b) start
        = Nat.ofDigitChars 10 cs start := by
    intro cs
    induction cs with
    | nil => intro start _; rfl
    | cons c rest ih =>
      intro start hd
      simp only [List.map_cons, List.foldl_cons, (isDigit_ofChar (hd c (by simp))).2]
      rw [ih _ fun c hc => hd c (by simp [hc]), Nat.ofDigitChars_cons, Nat.mul_comm]
  rw [value, digits, fold _ 0 fun c hc => Nat.isDigit_of_mem_toDigits (by omega) (by omega) hc]
  exact Nat.ofDigitChars_ten_toDigits

end Settlement.Decimal
