import Settlement.Coin

/-!
# Coins as text

A coin is shown as the digits of its amount and its denomination right behind them, and nothing marks where
the one ends and the other begins. Reading takes all digits at the start for the amount. So what is read has
a denomination that begins with a letter, zeros in front of the amount are gone when it is shown again, and
exactly the coins with such a denomination come back from their own text.

Results:
* `Decimal.toDigits_ofDigitChars`: the digits of the number that a run of digits denotes are the run without
  its superfluous zeros.
* `Coin.ofText_ok_iff`: the coins that texts state.
* `Coin.text_grammar`: which texts are read, as what, how that is shown, and which coins are read back.
-/
namespace Settlement

/-! ## Runs of digits -/

namespace Decimal

/-- A run of digits without the zeros in front that say nothing. The last digit stays, whatever it is. -/
def trimmed : List Char → List Char
  | '0' :: c :: run => trimmed (c :: run)
  | run => run

/-- What is so of the ten digits is so of all digits. -/
theorem of_isDigit {P : Char → Prop} (ten : ∀ n, n ≤ 57 → 48 ≤ n → P (Char.ofNat n)) {c : Char}
    (h : c.isDigit) : P c := by
  have hc := Char.isDigit_iff_toNat.1 h
  rw [← Char.ofNat_toNat c]
  exact ten c.toNat hc.2 hc.1

theorem digitChar_of_isDigit {c : Char} (h : c.isDigit) : (c.toNat - '0'.toNat).digitChar = c :=
  of_isDigit (P := fun c => (c.toNat - '0'.toNat).digitChar = c) (by decide) h

theorem digit_lt_ten {c : Char} (h : c.isDigit) : c.toNat - '0'.toNat < 10 :=
  of_isDigit (P := fun c => c.toNat - '0'.toNat < 10) (by decide) h

/-- Digits behind a positive number are written behind its digits. -/
theorem toDigits_ofDigitChars_of_pos {run : List Char} (digits : ∀ c ∈ run, c.isDigit) {n : Nat}
    (pos : 0 < n) : Nat.toDigits 10 (Nat.ofDigitChars 10 run n) = Nat.toDigits 10 n ++ run := by
  induction run generalizing n with
  | nil => simp
  | cons c run ih =>
    have hc : c.isDigit := digits c List.mem_cons_self
    have rest : ∀ d ∈ run, d.isDigit := fun d hd => digits d (List.mem_cons_of_mem c hd)
    rw [Nat.ofDigitChars_cons, ih rest (by omega),
      ← Nat.toDigits_append_toDigits (by decide) pos (digit_lt_ten hc),
      Nat.toDigits_of_lt_base (digit_lt_ten hc), digitChar_of_isDigit hc, List.append_assoc,
      List.singleton_append]

theorem toDigits_ofDigitChars {run : List Char} (nonempty : run ≠ [])
    (digits : ∀ c ∈ run, c.isDigit) :
    Nat.toDigits 10 (Nat.ofDigitChars 10 run 0) = trimmed run := by
  fun_induction trimmed run with
  | case1 c run ih =>
    rw [Nat.ofDigitChars_cons]
    exact ih (List.cons_ne_nil c run) fun d hd => digits d (List.mem_cons_of_mem _ hd)
  | case2 run significant =>
    obtain ⟨c, rest, rfl⟩ := List.exists_cons_of_ne_nil nonempty
    have hc : c.isDigit := digits c List.mem_cons_self
    have behind : ∀ d ∈ rest, d.isDigit := fun d hd => digits d (List.mem_cons_of_mem c hd)
    rw [Nat.ofDigitChars_cons, Nat.mul_zero, Nat.zero_add]
    by_cases zero : c = '0'
    · subst zero
      cases rest with
      | nil => rfl
      | cons d rest => exact (significant d rest rfl).elim
    · have pos : 0 < c.toNat - '0'.toNat := by
        have least : '0'.toNat ≤ c.toNat := (Char.isDigit_iff_toNat.1 hc).1
        have other : c.toNat ≠ '0'.toNat := fun h => zero (Char.toNat_inj.1 h)
        omega
      rw [toDigits_ofDigitChars_of_pos behind pos, Nat.toDigits_of_lt_base (digit_lt_ten hc),
        digitChar_of_isDigit hc, List.singleton_append]

theorem toList_text (n : Nat) : (text n).toList = Nat.toDigits 10 n := by
  have code : ∀ c ∈ Nat.toDigits 10 n, Char.ofNat (UInt8.ofNat c.toNat).toNat = c := fun c hc =>
    of_isDigit (P := fun c => Char.ofNat (UInt8.ofNat c.toNat).toNat = c) (by decide)
      (Nat.isDigit_of_mem_toDigits (by decide) (by decide) hc)
  rw [text, Text.ascii, String.toList_ofList, digits, List.map_map]
  exact (List.map_congr_left code).trans (List.map_id _)

end Decimal

namespace Coin

/-! ## Denominations -/

/-- Whether a denomination can stand behind an amount: it is an ASCII letter, and then ASCII letters and
digits. -/
def isDenomination : List Char → Bool
  | [] => false
  | letter :: more => letter.isAlpha && more.all Char.isAlphanum

/-- What can stand behind an amount are letters and digits, and no digit first. -/
theorem isDenomination_iff {cs : List Char} : isDenomination cs ↔
    cs ≠ [] ∧ cs.all Char.isAlphanum ∧ cs.takeWhile Char.isDigit = [] := by
  cases cs with
  | nil => simp [isDenomination]
  | cons c cs =>
    have apart : c.isDigit → c.isAlpha = false :=
      Decimal.of_isDigit (P := fun c => c.isAlpha = false) (by decide)
    rw [isDenomination, List.all_cons, List.takeWhile_cons, Char.isAlphanum]
    cases letter : c.isAlpha <;> cases digit : c.isDigit <;> simp_all

/-! ## Reading -/

/-- A run of digits whose number is an amount, and a denomination: the two parts of the text of a coin. -/
structure Legible (run denom : List Char) : Prop where
  nonempty : run ≠ []
  digits : ∀ c ∈ run, c.isDigit
  fits : Nat.ofDigitChars 10 run 0 < UInt64.size
  denomination : isDenomination denom

def ofParts (run denom : List Char) : Coin :=
  ⟨String.ofList denom, UInt64.ofNat (Nat.ofDigitChars 10 run 0)⟩

variable {s : String} {c : Coin} {run denom : List Char}

theorem Legible.toNat_amount (h : Legible run denom) :
    (ofParts run denom).amount.toNat = Nat.ofDigitChars 10 run 0 :=
  UInt64.toNat_ofNat_of_lt h.fits

/-- The digits end where the denomination begins. -/
theorem Legible.split (h : Legible run denom) :
    (run ++ denom).takeWhile Char.isDigit = run ∧ (run ++ denom).dropWhile Char.isDigit = denom := by
  have first := (isDenomination_iff.1 h.denomination).2.2
  have rest := List.takeWhile_append_dropWhile (p := Char.isDigit) (l := denom)
  rw [List.takeWhile_append_of_pos h.digits, List.dropWhile_append_of_pos h.digits, first,
    List.append_nil]
  rw [first, List.nil_append] at rest
  exact ⟨rfl, rest⟩

theorem takeWhile_dropWhile_isDigit (cs : List Char) :
    (cs.dropWhile Char.isDigit).takeWhile Char.isDigit = [] := by
  induction cs with
  | nil => rfl
  | cons c cs ih =>
    rw [List.dropWhile_cons]
    split
    · exact ih
    · next other => rw [List.takeWhile_cons, if_neg other]

/-- A text is read as the coin of its two parts, and not at all if it has no such parts. -/
theorem ofText_ok_iff : ofText s = .ok c ↔
    ∃ run denom, s.toList = run ++ denom ∧ Legible run denom ∧ c = ofParts run denom := by
  rw [ofText]
  constructor
  · intro h
    split at h
    · next legible =>
      obtain ⟨nonempty, denominated, letters, fits⟩ := legible
      cases h
      refine ⟨_, _, List.takeWhile_append_dropWhile.symm,
        ⟨nonempty, List.all_eq_true.1 List.all_takeWhile, fits, ?_⟩, rfl⟩
      exact isDenomination_iff.2 ⟨denominated, letters, takeWhile_dropWhile_isDigit _⟩
    · cases h
  · rintro ⟨run, denom, parts, legible, rfl⟩
    obtain ⟨denominated, letters, -⟩ := isDenomination_iff.1 legible.denomination
    rw [parts, legible.split.1, legible.split.2]
    exact if_pos ⟨legible.nonempty, denominated, letters, legible.fits⟩

theorem ofText_error {e : ValueError} (h : ofText s = .error e) : e = .invalidCoin s := by
  rw [ofText] at h
  split at h
  · cases h
  · cases h
    rfl

/-! ## Showing -/

theorem toList_text (c : Coin) : c.text.toList = Nat.toDigits 10 c.amount.toNat ++ c.denom.toList := by
  rw [text, String.toList_append, Decimal.toList_text]

theorem Legible.toList_text (h : Legible run denom) :
    (ofParts run denom).text.toList = Decimal.trimmed run ++ denom := by
  rw [Coin.toList_text, h.toNat_amount, Decimal.toDigits_ofDigitChars h.nonempty h.digits, ofParts,
    String.toList_ofList]

theorem legible_toDigits (h : isDenomination c.denom.toList) :
    Legible (Nat.toDigits 10 c.amount.toNat) c.denom.toList where
  nonempty := Nat.toDigits_ne_nil
  digits _ hd := Nat.isDigit_of_mem_toDigits (by decide) (by decide) hd
  fits := by
    rw [Nat.ofDigitChars_ten_toDigits]
    exact c.amount.toNat_lt
  denomination := h

theorem ofText_text_iff : ofText c.text = .ok c ↔ isDenomination c.denom.toList := by
  rw [ofText_ok_iff]
  constructor
  · rintro ⟨run, denom, -, legible, rfl⟩
    rw [ofParts, String.toList_ofList]
    exact legible.denomination
  · intro h
    refine ⟨_, _, toList_text c, legible_toDigits h, ?_⟩
    rw [ofParts, Nat.ofDigitChars_ten_toDigits, String.ofList_toList, UInt64.ofNat_toNat]

/-! ## Both -/

/-- A text is read exactly if it is a run of digits whose number is an amount and then a denomination of a
letter followed by letters and digits. What is read is that amount of that denomination, and is shown as the
same text without the superfluous zeros. A coin comes back from its own text exactly if it has such a
denomination; of any other the text is refused or says another coin. -/
theorem text_grammar :
    (∀ s, (∃ c, ofText s = .ok c) ↔ ∃ run denom, s.toList = run ++ denom ∧ Legible run denom) ∧
    (∀ s run denom, s.toList = run ++ denom → Legible run denom → ∃ c, ofText s = .ok c ∧
      c.amount.toNat = Nat.ofDigitChars 10 run 0 ∧ c.denom.toList = denom ∧
      c.text.toList = Decimal.trimmed run ++ denom) ∧
    (∀ c, ofText c.text = .ok c ↔ isDenomination c.denom.toList) ∧
    ∀ c, ¬ isDenomination c.denom.toList →
      ofText c.text = .error (.invalidCoin c.text) ∨ ∃ d, d ≠ c ∧ ofText c.text = .ok d := by
  refine ⟨fun s => ?_, ?_, fun c => ofText_text_iff, ?_⟩
  · simp only [ofText_ok_iff]
    constructor
    · rintro ⟨c, run, denom, parts, legible, -⟩
      exact ⟨run, denom, parts, legible⟩
    · rintro ⟨run, denom, parts, legible⟩
      exact ⟨ofParts run denom, run, denom, parts, legible, rfl⟩
  · intro s run denom parts legible
    exact ⟨ofParts run denom, ofText_ok_iff.2 ⟨run, denom, parts, legible, rfl⟩,
      legible.toNat_amount, String.toList_ofList, legible.toList_text⟩
  · intro c unreadable
    cases h : ofText c.text with
    | error e => exact .inl (congrArg Except.error (ofText_error h))
    | ok d =>
      refine .inr ⟨d, ?_, rfl⟩
      rintro rfl
      exact unreadable (ofText_text_iff.1 h)

/-- Two zeros in front, and a digit behind the first letter; and a denomination whose digit goes to the
amount. -/
theorem text_grammar_padded :
    Legible ['0', '0', '7'] ['u', '2'] ∧
    (∃ c, ofText "007u2" = .ok c ∧ c.amount.toNat = 7 ∧ c.denom.toList = ['u', '2'] ∧
      c.text.toList = ['7', 'u', '2']) ∧
    ¬ isDenomination "7up".toList ∧ ofText (text ⟨"7up", 5⟩) ≠ .ok ⟨"7up", 5⟩ := by
  obtain ⟨-, reads, -, misreads⟩ := text_grammar
  have legible : Legible ['0', '0', '7'] ['u', '2'] :=
    ⟨by decide, by simp, by decide, by decide⟩
  have other : ¬ isDenomination "7up".toList := by decide +kernel
  refine ⟨legible, reads "007u2" _ _ (by decide +kernel) legible, other, ?_⟩
  rcases misreads ⟨"7up", 5⟩ other with h | ⟨d, different, h⟩
  · rw [h]
    nofun
  · rw [h]
    exact fun same => different (Except.ok.inj same)

end Coin

end Settlement
