import ScriptRun.Proofs.Decimal.Numerals
import ScriptRun.Proofs.Decimal.Shortest

/-!
# The text of a float is read as the same float

Digits with an exponent are read as the float that their number rounds to. The digits of a text of a
float are the shortest ones with zeros around them, and these round to the float.
-/

namespace ScriptRun.Decimal

open Text

/-! ### The size of digits -/

variable {digits : Text}

theorem digit_lt {c : Char} (h : isPlainDigit c = true) : c.toNat - 0x30 < 10 := by
  simp only [isPlainDigit, Bool.and_eq_true, decide_eq_true_eq] at h
  have hnine : c.toNat ≤ '9'.toNat := h.2
  have hcode : '9'.toNat = 0x39 := rfl
  omega

theorem digit_pos {c : Char} (h : isPlainDigit c = true) (hzero : c ≠ '0') :
    0 < c.toNat - 0x30 := by
  simp only [isPlainDigit, Bool.and_eq_true, decide_eq_true_eq] at h
  have hle : '0'.toNat ≤ c.toNat := h.1
  have hne : c.toNat ≠ '0'.toNat := by
    intro heq
    exact hzero (Char.toNat_inj.1 heq)
  have hcode : '0'.toNat = 0x30 := rfl
  omega

theorem plainValue_cons (c : Char) (digits : Text) :
    plainValue (c :: digits) = (c.toNat - 0x30) * 10 ^ digits.length + plainValue digits := by
  have hone : plainValue [c] = c.toNat - 0x30 := by simp [plainValue]
  rw [← List.singleton_append, plainValue_append, hone]

theorem plainValue_lt (hdigits : ∀ c ∈ digits, isPlainDigit c = true) :
    plainValue digits < 10 ^ digits.length := by
  induction digits with
  | nil => decide
  | cons c digits ih =>
    obtain ⟨hc, hdigits⟩ := List.forall_mem_cons.1 hdigits
    have hdigit := Nat.mul_le_mul_right (10 ^ digits.length) (Nat.le_of_lt_succ (digit_lt hc))
    have hrest := ih hdigits
    rw [plainValue_cons, List.length_cons, Nat.pow_succ]
    omega

theorem pow_le_plainValue {c : Char} (hc : isPlainDigit c = true) (hzero : c ≠ '0') (digits : Text) :
    10 ^ digits.length ≤ plainValue (c :: digits) := by
  have hdigit := Nat.mul_le_mul_right (10 ^ digits.length) (digit_pos hc hzero)
  rw [plainValue_cons]
  omega

theorem plainValue_dropWhile (digits : Text) :
    plainValue (digits.dropWhile (· = '0')) = plainValue digits := by
  induction digits with
  | nil => rfl
  | cons c digits ih =>
    by_cases hzero : c = '0'
    · have hnone : '0'.toNat - 0x30 = 0 := rfl
      rw [List.dropWhile_cons_of_pos (by simpa using hzero), ih, plainValue_cons, hzero, hnone,
        Nat.zero_mul, Nat.zero_add]
    · rw [List.dropWhile_cons_of_neg (by simpa using hzero)]

/-- Digits without the zeros in front of them show how large their number is. -/
theorem significant_cases (hdigits : ∀ c ∈ digits, isPlainDigit c = true) :
    digits.dropWhile (· = '0') = [] ∧ plainValue digits = 0 ∨
      0 < (digits.dropWhile (· = '0')).length ∧
        10 ^ ((digits.dropWhile (· = '0')).length - 1) ≤ plainValue digits ∧
        plainValue digits < 10 ^ (digits.dropWhile (· = '0')).length := by
  have hplain : ∀ c ∈ digits.dropWhile (· = '0'), isPlainDigit c = true := fun c hc =>
    hdigits c ((List.dropWhile_suffix _).subset hc)
  have hhead := List.head?_dropWhile_not (· = '0') digits
  rw [← plainValue_dropWhile digits]
  generalize digits.dropWhile (· = '0') = significant at *
  cases significant with
  | nil => exact .inl ⟨rfl, rfl⟩
  | cons c rest =>
    have hzero : c ≠ '0' := by simpa using hhead
    exact .inr ⟨Nat.succ_pos _, pow_le_plainValue (hplain c List.mem_cons_self) hzero rest,
      plainValue_lt hplain⟩

/-! ### Digits with an exponent -/

theorem ofScientific_zero (negative : Bool) (hdigits : ∀ c ∈ digits, isPlainDigit c = true)
    (hvalue : plainValue digits = 0) (shift : ℤ) :
    ofScientific negative digits shift = (Parts.finite negative 0 leastExponent).toFloat := by
  obtain ⟨hempty, -⟩ | ⟨-, hle, -⟩ := significant_cases hdigits
  · rw [ofScientific, hempty]
    rfl
  · have hpos : 0 < 10 ^ ((digits.dropWhile (· = '0')).length - 1) := Nat.pow_pos (by decide)
    omega

/-- Floats have less than four hundred digits on either side of the point. -/
theorem Rounds.bounds {mantissa : ℕ} {exponent : ℤ} {v : ℚ} (hv : Rounds mantissa exponent v)
    (h : IsPositive mantissa exponent) : (10 : ℚ) ^ (-400 : ℤ) < v ∧ v < 10 ^ (400 : ℤ) := by
  have hpositive : (1 : ℚ) ≤ mantissa := by exact_mod_cast h.positive
  have hsmall : (mantissa : ℚ) + 1 ≤ 2 ^ (53 : ℤ) := by
    have htwice : ((2 * leastNormal : ℕ) : ℚ) = 2 ^ (53 : ℤ) := by norm_num [leastNormal]
    rw [← htwice]
    exact_mod_cast h.small
  have hbelow : below mantissa exponent ≤ 1 / 2 := by
    obtain hhalf | ⟨hquarter, -⟩ := below_cases mantissa exponent
    · exact hhalf.le
    · rw [hquarter]
      norm_num
  have hpos : (0 : ℚ) < 2 ^ exponent := by positivity
  have hten : (2 : ℚ) ^ (1200 : ℤ) ≤ 10 ^ (400 : ℤ) := by
    have hpow : (2 : ℚ) ^ (1200 : ℤ) = (2 ^ (3 : ℤ)) ^ (400 : ℤ) := (zpow_mul 2 3 400)
    rw [hpow]
    exact zpow_le_zpow_left₀ (by decide) (by norm_num) (by norm_num)
  constructor
  · calc (10 : ℚ) ^ (-400 : ℤ) ≤ 2 ^ (-1200 : ℤ) := by
          rw [zpow_neg, zpow_neg]
          exact inv_anti₀ (by positivity) hten
      _ < 2 ^ (-1075 : ℤ) := zpow_lt_zpow_right₀ one_lt_two (by norm_num)
      _ ≤ 2 ^ (exponent - 1) := zpow_le_zpow_right₀ one_le_two (by
          have hleast := h.least
          rw [leastExponent] at hleast
          omega)
      _ = 1 / 2 * 2 ^ exponent := by
          rw [zpow_sub_one₀ two_ne_zero]
          ring
      _ ≤ (mantissa - below mantissa exponent) * 2 ^ exponent := by
          exact mul_le_mul_of_nonneg_right (by linarith) hpos.le
      _ ≤ v := hv.low
  · calc v ≤ (mantissa + 1 / 2) * 2 ^ exponent := hv.high
      _ ≤ 2 ^ (53 : ℤ) * 2 ^ (971 : ℤ) :=
          mul_le_mul (by linarith) (zpow_le_zpow_right₀ one_le_two h.most) hpos.le (by positivity)
      _ < 2 ^ (1200 : ℤ) := by
          rw [← zpow_add₀ two_ne_zero]
          exact zpow_lt_zpow_right₀ one_lt_two (by norm_num)
      _ ≤ 10 ^ (400 : ℤ) := hten

theorem ofScientific_of_rounds (negative : Bool) {mantissa : ℕ} {exponent shift : ℤ}
    (h : IsPositive mantissa exponent) (hdigits : ∀ c ∈ digits, isPlainDigit c = true)
    (hv : Rounds mantissa exponent (plainValue digits * 10 ^ shift)) :
    ofScientific negative digits shift = (Parts.finite negative mantissa exponent).toFloat := by
  obtain ⟨hleast, hmost⟩ := hv.bounds h
  have hten : (10 : ℚ) ≠ 0 := by norm_num
  have hshift : (0 : ℚ) < 10 ^ shift := by positivity
  have hvalue := plainValue_dropWhile digits
  obtain ⟨-, hzero⟩ | ⟨hlength, hle, hlt⟩ := significant_cases hdigits
  · rw [hzero, Nat.cast_zero, zero_mul] at hleast
    exact absurd hleast (not_lt.2 (by positivity))
  have hpositive : 0 < plainValue digits := lt_of_lt_of_le (Nat.pow_pos (by decide)) hle
  rw [ofScientific]
  generalize digits.dropWhile (· = '0') = significant at *
  have hmagnitude_gt : ¬ shift + significant.length < -400 := by
    intro hsmall
    have hlt' : (plainValue digits : ℚ) < 10 ^ (significant.length : ℤ) := by
      rw [zpow_natCast]
      exact_mod_cast hlt
    have hbound : (10 : ℚ) ^ shift * 10 ^ (significant.length : ℤ) ≤ 10 ^ (-400 : ℤ) := by
      rw [← zpow_add₀ hten]
      exact zpow_le_zpow_right₀ (by norm_num) hsmall.le
    nlinarith
  have hmagnitude_le : ¬ 400 < shift + significant.length := by
    intro hlarge
    have hle' : (10 : ℚ) ^ ((significant.length - 1 : ℕ) : ℤ) ≤ plainValue digits := by
      rw [zpow_natCast]
      exact_mod_cast hle
    have hbound : (10 : ℚ) ^ (400 : ℤ) ≤ 10 ^ shift * 10 ^ ((significant.length - 1 : ℕ) : ℤ) := by
      rw [← zpow_add₀ hten]
      exact zpow_le_zpow_right₀ (by norm_num) (by omega)
    nlinarith
  have hempty : significant.isEmpty = false := by
    rw [List.isEmpty_eq_false_iff]
    exact List.ne_nil_of_length_pos hlength
  have hfraction : ((plainValue digits * Nat.pow 10 shift.toNat : ℕ) : ℚ) /
      (Nat.pow 10 (-shift).toNat : ℕ) = plainValue digits * 10 ^ shift :=
    scaled_mul_eq (by decide) (plainValue digits) shift
  simp only [hempty, Bool.false_eq_true, if_false, if_neg hmagnitude_gt, if_neg hmagnitude_le, hvalue]
  refine ofFraction_of_rounds negative h ?_ ?_ ?_
  · rw [hfraction]
    exact hv
  · exact Nat.mul_pos hpositive (Nat.pow_pos (by decide))
  · exact Nat.pow_pos (by decide)

/-- The digits of the text of a float are read as that float. -/
theorem ofScientific_exactText {x : Float} {negative : Bool} {mantissa : ℕ} {exponent : ℤ}
    (hx : Parts.ofFloat x = .finite negative mantissa exponent) :
    ∃ (numeral digits : Text) (shift : ℤ),
      exactText x = (if negative then ['-'] else []) ++ numeral ∧ IsFloat numeral digits shift ∧
        ofScientific negative digits shift = x := by
  obtain ⟨numeral, digits, shift, htext, hfloat, hvalue⟩ := exactText_finite hx
  have hback := Parts.toFloat_ofFloat x
  rw [hx] at hback
  refine ⟨numeral, digits, shift, htext, hfloat, ?_⟩
  by_cases hzero : mantissa = 0
  · rw [if_pos hzero] at hvalue
    rw [ofScientific_zero negative hfloat.isPlainDigit hvalue]
    rw [hzero, toFloat_of_lt _ _ (by decide)] at hback
    rw [toFloat_of_lt _ _ (by decide)]
    exact hback
  · have hpositive := isPositive_of_ofFloat hx hzero
    rw [if_neg hzero] at hvalue
    obtain ⟨zeros, rfl, hvalue⟩ := hvalue
    rw [← hback]
    apply ofScientific_of_rounds negative hpositive hfloat.isPlainDigit
    have hshortest := shortest_rounds hpositive
    have hnumber : (plainValue digits : ℚ) * 10 ^ ((shortest mantissa exponent).exponent - zeros) =
        (shortest mantissa exponent).value := by
      rw [hvalue, Digits.value, zpow_sub₀ (by norm_num), zpow_natCast]
      push_cast
      field_simp
    rw [hnumber]
    exact hshortest

end ScriptRun.Decimal
