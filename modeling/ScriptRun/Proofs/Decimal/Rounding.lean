import Mathlib
import ScriptRun.Proofs.Decimal.Parts

/-!
# The float nearest to a number

A positive number is divided by the power of two that leaves a quotient of 53 bits, and the quotient
is rounded. The power is the only one that fits (`IsScale.le`), so a number between the middles of a
float and its neighbours is rounded to this float (`ofFraction_of_rounds`). The least mantissa needs
care: below it the floats are twice as close, and the quotient may be carried into the exponent.
-/

namespace ScriptRun.Decimal

/-! ### Rounding a quotient -/

theorem roundDiv_eq {num den k : ℕ} (hden : 0 < den) (hlow : 2 * k * den ≤ 2 * num + den)
    (hhigh : 2 * num ≤ 2 * k * den + den)
    (htie : 2 * k * den = 2 * num + den ∨ 2 * num = 2 * k * den + den → k % 2 = 0) :
    roundDiv num den = k := by
  have hnum : den * (num / den) + num % den = num := Nat.div_add_mod num den
  have hrest : num % den < den := Nat.mod_lt num hden
  rw [roundDiv]
  generalize num / den = floor at *
  generalize num % den = rest at *
  subst hnum
  have hfloor : floor ≤ k := by
    by_contra hlt
    have hmul := Nat.mul_le_mul_left den (Nat.lt_of_not_le hlt)
    rw [Nat.mul_succ] at hmul
    nlinarith
  have hk : k ≤ floor + 1 := by
    by_contra hlt
    have hmul := Nat.mul_le_mul_left den (Nat.lt_of_not_le hlt)
    rw [Nat.mul_succ, Nat.mul_succ] at hmul
    nlinarith
  obtain rfl | rfl : k = floor ∨ k = floor + 1 := by omega
  · have hcomm : 2 * k * den = 2 * (den * k) := by ring
    rw [if_pos]
    omega
  · have hcomm : 2 * (floor + 1) * den = 2 * (den * floor) + 2 * den := by ring
    rw [if_neg]
    omega

/-! ### The power of two -/

/-- The exponent with which a float nearest to a positive number is written. -/
structure IsScale (v : ℚ) (q : ℤ) : Prop where
  least : leastExponent ≤ q
  small : v / 2 ^ q < 2 ^ 53
  large : q = leastExponent ∨ 2 ^ 52 ≤ v / 2 ^ q

theorem IsScale.le {v : ℚ} {q q' : ℤ} (h : IsScale v q) (h' : IsScale v q') : q ≤ q' := by
  by_contra hlt
  have hne : q ≠ leastExponent := by
    have := h'.least
    omega
  have hlarge := h.large.resolve_left hne
  have hsmall := h'.small
  obtain ⟨n, rfl⟩ : ∃ n : ℕ, q = q' + 1 + n := ⟨(q - q' - 1).toNat, by omega⟩
  have hpow : (2 : ℚ) ^ (q' + 1 + (n : ℤ)) = 2 ^ q' * 2 * 2 ^ n := by
    rw [zpow_add₀ two_ne_zero, zpow_add₀ two_ne_zero, zpow_one, zpow_natCast]
  have hone : (1 : ℚ) ≤ 2 ^ n := one_le_pow₀ one_le_two
  have hq : (0 : ℚ) < 2 ^ q' := by positivity
  rw [hpow, le_div_iff₀ (by positivity)] at hlarge
  rw [div_lt_iff₀ hq] at hsmall
  nlinarith

theorem zpow_mul_toNat {b : ℚ} (hb : b ≠ 0) (q : ℤ) : b ^ q * b ^ (-q).toNat = b ^ q.toNat := by
  rw [← zpow_natCast, ← zpow_natCast, ← zpow_add₀ hb]
  congr 1
  omega

/-- A fraction of whole numbers over a power is one of whole numbers. -/
theorem scaled_eq {b : ℕ} (hb : b ≠ 0) (num den : ℕ) (q : ℤ) :
    ((num * Nat.pow b (-q).toNat : ℕ) : ℚ) / (den * Nat.pow b q.toNat : ℕ) =
      num / den / (b : ℚ) ^ q := by
  have hb' : (b : ℚ) ≠ 0 := by exact_mod_cast hb
  have hpow := zpow_mul_toNat hb' q
  have hq : (b : ℚ) ^ q ≠ 0 := zpow_ne_zero q hb'
  have hcast (n : ℕ) : ((Nat.pow b n : ℕ) : ℚ) = (b : ℚ) ^ n := Nat.cast_pow b n
  have hminus : (b : ℚ) ^ (-q).toNat ≠ 0 := pow_ne_zero _ hb'
  rw [Nat.cast_mul, Nat.cast_mul, hcast, hcast, ← hpow, div_div,
    mul_comm ((b : ℚ) ^ q), ← mul_assoc, mul_comm (num : ℚ), mul_comm (den : ℚ), mul_assoc,
    mul_div_mul_left _ _ hminus]

theorem scaled_mul_eq {b : ℕ} (hb : b ≠ 0) (num : ℕ) (q : ℤ) :
    ((num * Nat.pow b q.toNat : ℕ) : ℚ) / (Nat.pow b (-q).toNat : ℕ) = num * (b : ℚ) ^ q := by
  have h := scaled_eq hb num 1 (-q)
  rw [neg_neg, one_mul, Nat.cast_one, div_one, zpow_neg, div_inv_eq_mul] at h
  exact h

theorem overTwo_eq (num den : ℕ) (q : ℤ) :
    ((num * Nat.pow 2 (-q).toNat : ℕ) : ℚ) / (den * Nat.pow 2 q.toNat : ℕ) = num / den / 2 ^ q :=
  scaled_eq two_ne_zero num den q

theorem scaled_div_lt_iff {num den : ℕ} (hden : 0 < den) (q : ℤ) :
    num * Nat.pow 2 (-q).toNat / (den * Nat.pow 2 q.toNat) < 2 * leastNormal ↔
      (num : ℚ) / den / 2 ^ q < 2 ^ 53 := by
  have hpos : 0 < den * Nat.pow 2 q.toNat := Nat.mul_pos hden (Nat.pow_pos (by decide))
  have hpos' : (0 : ℚ) < (den * Nat.pow 2 q.toNat : ℕ) := by exact_mod_cast hpos
  have hnormal : ((2 * leastNormal : ℕ) : ℚ) = 2 ^ 53 := by norm_num [leastNormal]
  rw [Nat.div_lt_iff_lt_mul hpos, ← overTwo_eq, div_lt_iff₀ hpos', ← hnormal]
  exact_mod_cast Iff.rfl

/-- A guess of the scale from the lengths of the numerator and the denominator is at most one too
small. -/
theorem guess_bounds {num den : ℕ} (hnum : 0 < num) (hden : 0 < den) :
    2 ^ 52 * (2 : ℚ) ^ ((num.log2 : ℤ) - den.log2 - 53) < num / den ∧
      (num : ℚ) / den < 2 ^ 54 * (2 : ℚ) ^ ((num.log2 : ℤ) - den.log2 - 53) := by
  have hnum_low : (2 : ℚ) ^ num.log2 ≤ num := by exact_mod_cast Nat.log2_self_le hnum.ne'
  have hnum_high : (num : ℚ) < 2 ^ (num.log2 + 1) := by exact_mod_cast Nat.lt_log2_self
  have hden_low : (2 : ℚ) ^ den.log2 ≤ den := by exact_mod_cast Nat.log2_self_le hden.ne'
  have hden_high : (den : ℚ) < 2 ^ (den.log2 + 1) := by exact_mod_cast Nat.lt_log2_self
  have hden' : (0 : ℚ) < den := by exact_mod_cast hden
  have hpow : (2 : ℚ) ^ ((num.log2 : ℤ) - den.log2 - 53) * 2 ^ den.log2 * 2 ^ 53 = 2 ^ num.log2 := by
    rw [← zpow_natCast, ← zpow_natCast, ← zpow_natCast, ← zpow_add₀ two_ne_zero,
      ← zpow_add₀ two_ne_zero]
    congr 1
    push_cast
    omega
  have hguess : (0 : ℚ) < 2 ^ ((num.log2 : ℤ) - den.log2 - 53) := by positivity
  rw [pow_succ] at hnum_high hden_high
  constructor
  · rw [lt_div_iff₀ hden']
    nlinarith
  · rw [div_lt_iff₀ hden']
    nlinarith

theorem nearest_spec {num den : ℕ} (hnum : 0 < num) (hden : 0 < den) :
    ∃ q : ℤ, IsScale (num / den) q ∧ nearest num den =
      (roundDiv (num * Nat.pow 2 (-q).toNat) (den * Nat.pow 2 q.toNat), q) := by
  obtain ⟨hlow, hhigh⟩ := guess_bounds hnum hden
  rw [nearest]
  generalize (num.log2 : ℤ) - den.log2 - 53 = guess at *
  dsimp only
  have hmax : guess ≤ max guess leastExponent := le_max_left _ _
  have hleast : leastExponent ≤ max guess leastExponent := le_max_right _ _
  have hscale : max guess leastExponent = leastExponent ∨ max guess leastExponent = guess := by
    omega
  generalize max guess leastExponent = low at *
  have hpos : (0 : ℚ) < 2 ^ low := by positivity
  split_ifs with hsmall
  · refine ⟨low, ⟨hleast, (scaled_div_lt_iff hden low).1 hsmall, ?_⟩, rfl⟩
    obtain hlow_eq | rfl := hscale
    · exact .inl hlow_eq
    · refine .inr ?_
      rw [le_div_iff₀ hpos]
      exact hlow.le
  · rw [scaled_div_lt_iff hden, not_lt, le_div_iff₀ hpos] at hsmall
    have hmono : (2 : ℚ) ^ guess ≤ 2 ^ low := zpow_le_zpow_right₀ one_le_two hmax
    have hsucc : (2 : ℚ) ^ (low + 1) = 2 ^ low * 2 := zpow_add_one₀ two_ne_zero low
    refine ⟨low + 1, ⟨by omega, ?_, .inr ?_⟩, rfl⟩
    · rw [hsucc, div_lt_iff₀ (by positivity)]
      nlinarith
    · rw [hsucc, le_div_iff₀ (by positivity)]
      nlinarith

/-! ### Numbers that round to a float -/

/-- Half the distance to the float below, in units of the last place. -/
def below (mantissa : ℕ) (exponent : ℤ) : ℚ :=
  if mantissa = leastNormal ∧ leastExponent < exponent then 1 / 4 else 1 / 2

/-- A number that rounds to a positive float. A number in the middle between two floats rounds to the
one with the even mantissa. -/
structure Rounds (mantissa : ℕ) (exponent : ℤ) (v : ℚ) : Prop where
  low : (mantissa - below mantissa exponent) * 2 ^ exponent ≤ v
  high : v ≤ (mantissa + 1 / 2) * 2 ^ exponent
  tie : v = (mantissa - below mantissa exponent) * 2 ^ exponent ∨
    v = (mantissa + 1 / 2) * 2 ^ exponent → mantissa % 2 = 0

theorem roundDiv_scaled {num den k : ℕ} {q : ℤ} (hden : 0 < den)
    (hlow : (k - 1 / 2 : ℚ) * 2 ^ q ≤ num / den) (hhigh : (num : ℚ) / den ≤ (k + 1 / 2) * 2 ^ q)
    (htie : (num : ℚ) / den = (k - 1 / 2) * 2 ^ q ∨ (num : ℚ) / den = (k + 1 / 2) * 2 ^ q →
      k % 2 = 0) :
    roundDiv (num * Nat.pow 2 (-q).toNat) (den * Nat.pow 2 q.toNat) = k := by
  have hq : (0 : ℚ) < 2 ^ q := by positivity
  have hpos : 0 < den * Nat.pow 2 q.toNat := Nat.mul_pos hden (Nat.pow_pos (by decide))
  have hpos' : (0 : ℚ) < (den * Nat.pow 2 q.toNat : ℕ) := by exact_mod_cast hpos
  rw [← le_div_iff₀ hq, ← overTwo_eq, le_div_iff₀ hpos'] at hlow
  rw [← div_le_iff₀ hq, ← overTwo_eq, div_le_iff₀ hpos'] at hhigh
  rw [← div_eq_iff hq.ne', ← div_eq_iff hq.ne', ← overTwo_eq, div_eq_iff hpos'.ne',
    div_eq_iff hpos'.ne'] at htie
  generalize den * Nat.pow 2 q.toNat = d at *
  generalize num * Nat.pow 2 (-q).toNat = n at *
  refine roundDiv_eq hpos ?_ ?_ ?_
  · have hlow' : (2 * k * d : ℚ) ≤ 2 * n + d := by linarith
    exact_mod_cast hlow'
  · have hhigh' : (2 * n : ℚ) ≤ 2 * k * d + d := by linarith
    exact_mod_cast hhigh'
  · intro h
    apply htie
    refine h.imp ?_ ?_
    · intro h
      have h' : (2 * k * d : ℚ) = 2 * n + d := by exact_mod_cast h
      linarith
    · intro h
      have h' : (2 * n : ℚ) = 2 * k * d + d := by exact_mod_cast h
      linarith

theorem below_cases (mantissa : ℕ) (exponent : ℤ) :
    below mantissa exponent = 1 / 2 ∨
      below mantissa exponent = 1 / 4 ∧ mantissa = leastNormal ∧ leastExponent < exponent := by
  rw [below]
  split_ifs with h
  · exact .inr ⟨rfl, h⟩
  · exact .inl rfl

theorem leastNormal_cast : (leastNormal : ℚ) = 2 ^ 52 := by norm_num [leastNormal]

section Nearest

variable {mantissa num den : ℕ} {exponent : ℤ}

theorem nearest_of_isScale (h : Rounds mantissa exponent (num / den)) (hnum : 0 < num)
    (hden : 0 < den) (hscale : IsScale (num / den) exponent) :
    nearest num den = (mantissa, exponent) := by
  obtain ⟨q, hq, hnearest⟩ := nearest_spec hnum hden
  obtain rfl : q = exponent := le_antisymm (hq.le hscale) (hscale.le hq)
  have hpos : (0 : ℚ) < 2 ^ q := by positivity
  have hlow := h.low
  rw [hnearest, roundDiv_scaled hden _ h.high _]
  · obtain hbelow | ⟨hbelow, -⟩ := below_cases mantissa q
    · rwa [hbelow] at hlow
    · rw [hbelow] at hlow
      linarith
  · intro htie
    apply h.tie
    obtain hbelow | ⟨hbelow, -⟩ := below_cases mantissa q
    · rwa [hbelow]
    · rw [hbelow] at hlow ⊢
      refine htie.imp ?_ id
      intro heq
      linarith

/-- Below the least mantissa the floats are closer, and a number may round to it from there. -/
theorem nearest_of_below (hpositive : IsPositive mantissa exponent)
    (h : Rounds mantissa exponent (num / den)) (hnum : 0 < num) (hden : 0 < den)
    (hexponent : leastExponent < exponent) (hbelow : (num : ℚ) / den < 2 ^ 52 * 2 ^ exponent) :
    mantissa = leastNormal ∧ nearest num den = (2 * leastNormal, exponent - 1) := by
  have hpos : (0 : ℚ) < 2 ^ exponent := by positivity
  have hhalf : (2 : ℚ) ^ exponent = 2 ^ (exponent - 1) * 2 := by
    rw [← zpow_add_one₀ two_ne_zero, sub_add_cancel]
  have hlow := h.low
  have hnormal : leastNormal ≤ mantissa := hpositive.normal.resolve_left (by omega)
  have hnormal' : (2 : ℚ) ^ 52 ≤ mantissa := by
    rw [← leastNormal_cast]
    exact_mod_cast hnormal
  have hmantissa : mantissa = leastNormal := by
    by_contra hne
    have hsucc : leastNormal + 1 ≤ mantissa := by omega
    have hsucc' : (2 : ℚ) ^ 52 + 1 ≤ mantissa := by
      rw [← leastNormal_cast]
      exact_mod_cast hsucc
    rw [below, if_neg (by tauto)] at hlow
    nlinarith
  subst hmantissa
  rw [below, if_pos ⟨rfl, hexponent⟩, leastNormal_cast, hhalf] at hlow
  rw [hhalf] at hbelow
  have hpos' : (0 : ℚ) < 2 ^ (exponent - 1) := by positivity
  have hscale : IsScale (num / den) (exponent - 1) := by
    refine ⟨by omega, ?_, .inr ?_⟩
    · rw [div_lt_iff₀ hpos']
      linarith
    · rw [le_div_iff₀ hpos']
      nlinarith
  obtain ⟨q, hq, hnearest⟩ := nearest_spec hnum hden
  obtain rfl : q = exponent - 1 := le_antisymm (hq.le hscale) (hscale.le hq)
  have htwice : ((2 * leastNormal : ℕ) : ℚ) = 2 ^ 53 := by norm_num [leastNormal]
  refine ⟨rfl, ?_⟩
  rw [hnearest, roundDiv_scaled hden _ _ fun _ => Nat.mul_mod_right 2 _]
  · rw [htwice]
    linarith
  · rw [htwice]
    nlinarith

theorem nearest_of_rounds (hpositive : IsPositive mantissa exponent)
    (h : Rounds mantissa exponent (num / den)) (hnum : 0 < num) (hden : 0 < den) :
    nearest num den = (mantissa, exponent) ∨
      mantissa = leastNormal ∧ leastExponent < exponent ∧
        nearest num den = (2 * leastNormal, exponent - 1) := by
  by_cases hbelow : leastExponent < exponent ∧ (num : ℚ) / den < 2 ^ 52 * 2 ^ exponent
  · obtain ⟨hexponent, hbelow⟩ := hbelow
    obtain ⟨hmantissa, hnearest⟩ := nearest_of_below hpositive h hnum hden hexponent hbelow
    exact .inr ⟨hmantissa, hexponent, hnearest⟩
  · refine .inl (nearest_of_isScale h hnum hden ⟨hpositive.least, ?_, ?_⟩)
    · have hhigh := h.high
      have hsmall : mantissa + 1 ≤ 2 * leastNormal := hpositive.small
      have hsmall' : (mantissa : ℚ) + 1 ≤ 2 * 2 ^ 52 := by
        rw [← leastNormal_cast]
        exact_mod_cast hsmall
      have hpos : (0 : ℚ) < 2 ^ exponent := by positivity
      rw [div_lt_iff₀ hpos]
      nlinarith
    · by_cases hexponent : exponent = leastExponent
      · exact .inl hexponent
      · have hlt : leastExponent < exponent := lt_of_le_of_ne hpositive.least (Ne.symm hexponent)
        refine .inr ?_
        rw [le_div_iff₀ (by positivity)]
        exact not_lt.1 fun hv => hbelow ⟨hlt, hv⟩

end Nearest

/-- A mantissa that is rounded up to a power of two is that of the next exponent. -/
theorem toFloat_carried (negative : Bool) {exponent : ℤ} (h : leastExponent < exponent) :
    (Parts.finite negative (2 * leastNormal) (exponent - 1)).toFloat =
      (Parts.finite negative leastNormal exponent).toFloat := by
  have hlarge : ¬ 2 * leastNormal < leastNormal := by decide
  have hne : leastNormal ≠ 2 * leastNormal := by decide
  have hcarried : (exponent - 1 + 1075).toNat + 1 = (exponent + 1075).toNat := by
    rw [leastExponent] at h
    omega
  simp only [Parts.toFloat, if_neg hlarge, if_neg (lt_irrefl leastNormal), if_pos trivial, if_neg hne,
    hcarried, Nat.sub_self, Nat.add_zero]

theorem ofFraction_of_rounds (negative : Bool) {mantissa num den : ℕ} {exponent : ℤ}
    (hpositive : IsPositive mantissa exponent) (h : Rounds mantissa exponent (num / den))
    (hnum : 0 < num) (hden : 0 < den) :
    ofFraction negative num den = (Parts.finite negative mantissa exponent).toFloat := by
  rw [ofFraction, if_neg hnum.ne']
  obtain hnearest | ⟨rfl, hexponent, hnearest⟩ := nearest_of_rounds hpositive h hnum hden
  · rw [hnearest]
  · rw [hnearest]
    exact toFloat_carried negative hexponent

end ScriptRun.Decimal
