import ScriptRun.Decimal.Shortest
import ScriptRun.Proofs.Decimal.Rounding

/-!
# The shortest digits round to the float

Digits are looked for on finer and finer grids. What is found on a grid rounds to the float because
it was tried (`roundsTo_iff`), and a grid of seventeen digits always has such digits
(`exists_onGrid`).
-/

namespace ScriptRun.Decimal

def Digits.value (d : Digits) : ℚ := d.digits * 10 ^ d.exponent

theorem Digits.value_normal_go (n : ℕ) (e : ℤ) (fuel : ℕ) :
    (Digits.normal.go n e fuel).value = n * 10 ^ e := by
  induction fuel generalizing n e with
  | zero => rfl
  | succ fuel ih =>
    rw [Digits.normal.go]
    split_ifs with h
    · have hn : (n : ℚ) = (n / 10 : ℕ) * 10 := by
        have hmul : n = n / 10 * 10 := by omega
        exact_mod_cast hmul
      rw [ih, zpow_add_one₀ (by norm_num), hn]
      ring
    · rfl

theorem Digits.value_normal (d : Digits) : d.normal.value = d.value :=
  Digits.value_normal_go d.digits d.exponent d.digits

theorem scaleTwo_value (n : ℕ) (e : ℤ) :
    ((scaleTwo n e).1 : ℚ) / (scaleTwo n e).2 = n * 2 ^ e :=
  scaled_mul_eq two_ne_zero n e

theorem overTen_value (num den : ℕ) (k : ℤ) :
    ((overTen num den k).1 : ℚ) / (overTen num den k).2 = num / den / 10 ^ k :=
  scaled_eq (by decide) num den k

/-! ### The leading digit -/

theorem pow_length_le {n : ℕ} (hn : 0 < n) : 10 ^ ((Nat.toDigits 10 n).length - 1) ≤ n := by
  by_contra hlt
  rw [not_le] at hlt
  by_cases hone : (Nat.toDigits 10 n).length - 1 = 0
  · rw [hone] at hlt
    omega
  · have hlength := (Nat.length_toDigits_le_iff (by decide) (Nat.pos_of_ne_zero hone)).2 hlt
    omega

theorem lt_pow_length (n : ℕ) : n < 10 ^ (Nat.toDigits 10 n).length :=
  (Nat.length_toDigits_le_iff (by decide) (List.length_pos_iff.2 Nat.toDigits_ne_nil)).1 le_rfl

theorem leadingExponent_le {num den : ℕ} (hnum : 0 < num) (hden : 0 < den) :
    (10 : ℚ) ^ leadingExponent num den ≤ num / den := by
  have hden' : (0 : ℚ) < den := by exact_mod_cast hden
  have hlow : (10 : ℚ) ^ ((Nat.toDigits 10 num).length - 1) ≤ num := by
    exact_mod_cast pow_length_le hnum
  have hhigh : (den : ℚ) < 10 ^ (Nat.toDigits 10 den).length := by
    exact_mod_cast lt_pow_length den
  have hlength : 0 < (Nat.toDigits 10 num).length := List.length_pos_iff.2 Nat.toDigits_ne_nil
  rw [leadingExponent, le_div_iff₀ hden']
  generalize (Nat.toDigits 10 num).length = numLength at *
  generalize (Nat.toDigits 10 den).length = denLength at *
  split_ifs with hguess
  · have hpow := zpow_mul_toNat (show (10 : ℚ) ≠ 0 by norm_num) (numLength - denLength : ℤ)
    have hguess' : (den : ℚ) * 10 ^ (numLength - denLength : ℤ).toNat ≤
        num * 10 ^ (-(numLength - denLength : ℤ)).toNat := by
      exact_mod_cast hguess
    rw [← hpow] at hguess'
    have hpos : (0 : ℚ) < 10 ^ (-(numLength - denLength : ℤ)).toNat := by positivity
    nlinarith
  · have hpow : (10 : ℚ) ^ (numLength - denLength - 1 : ℤ) * 10 ^ denLength =
        10 ^ (numLength - 1) := by
      rw [← zpow_natCast, ← zpow_natCast, ← zpow_add₀ (by norm_num)]
      congr 1
      omega
    have hpos : (0 : ℚ) < 10 ^ (numLength - denLength - 1 : ℤ) := by positivity
    nlinarith

/-! ### Digits that read back -/

theorem rounds_iff {mantissa : ℕ} {exponent : ℤ} {v : ℚ} :
    Rounds mantissa exponent v ↔
      if mantissa % 2 = 0 then
        (mantissa - below mantissa exponent) * 2 ^ exponent ≤ v ∧
          v ≤ (mantissa + 1 / 2) * 2 ^ exponent
      else
        (mantissa - below mantissa exponent) * 2 ^ exponent < v ∧
          v < (mantissa + 1 / 2) * 2 ^ exponent := by
  split_ifs with heven
  · constructor
    · intro h
      exact ⟨h.low, h.high⟩
    · intro h
      exact ⟨h.1, h.2, fun _ => heven⟩
  · constructor
    · intro h
      exact ⟨lt_of_le_of_ne h.low fun heq => heven (h.tie (.inl heq.symm)),
        lt_of_le_of_ne h.high fun heq => heven (h.tie (.inr heq))⟩
    · intro h
      refine ⟨h.1.le, h.2.le, ?_⟩
      intro htie
      exact absurd htie (not_or.2 ⟨h.1.ne', h.2.ne⟩)

theorem roundsTo_iff {mantissa : ℕ} (exponent : ℤ) (hmantissa : 0 < mantissa) (d : Digits) :
    roundsTo mantissa exponent d = true ↔ Rounds mantissa exponent d.value := by
  obtain ⟨digits, k⟩ := d
  have hten := zpow_mul_toNat (show (10 : ℚ) ≠ 0 by norm_num) k
  have htwo := zpow_mul_toNat (show (2 : ℚ) ≠ 0 by norm_num) exponent
  have hcast (b n : ℕ) : ((Nat.pow b n : ℕ) : ℚ) = (b : ℚ) ^ n := Nat.cast_pow b n
  -- Both sides are multiplied by all powers that stand in a denominator.
  obtain ⟨c, hc⟩ : ∃ c : ℚ, c = 4 * (10 ^ (-k).toNat * 2 ^ (-exponent).toNat) := ⟨_, rfl⟩
  have hpos : 0 < c := by
    rw [hc]
    positivity
  have hle : (if mantissa = leastNormal ∧ leastExponent < exponent then 1 else 2) ≤ 4 * mantissa := by
    split_ifs <;> omega
  have hbelow : ((if mantissa = leastNormal ∧ leastExponent < exponent then 1 else 2 : ℕ) : ℚ) =
      4 * below mantissa exponent := by
    rw [below]
    split_ifs <;> norm_num
  rw [roundsTo, rounds_iff]
  dsimp only
  generalize (if mantissa = leastNormal ∧ leastExponent < exponent then 1 else 2) = b at *
  have htens : ((digits * Nat.pow 10 k.toNat * 4 * Nat.pow 2 (-exponent).toNat : ℕ) : ℚ) =
      Digits.value ⟨digits, k⟩ * c := by
    rw [hc, Digits.value, Nat.cast_mul, Nat.cast_mul, Nat.cast_mul, hcast, hcast, Nat.cast_ofNat,
      Nat.cast_ofNat, ← hten, Nat.cast_ofNat]
    ring
  have hunit : ((Nat.pow 10 (-k).toNat * Nat.pow 2 exponent.toNat : ℕ) : ℚ) * 4 = 2 ^ exponent * c := by
    rw [hc, Nat.cast_mul, hcast, hcast, Nat.cast_ofNat, Nat.cast_ofNat, ← htwo]
    ring
  have hlow : (((4 * mantissa - b) * (Nat.pow 10 (-k).toNat * Nat.pow 2 exponent.toNat) : ℕ) : ℚ) =
      (mantissa - below mantissa exponent) * 2 ^ exponent * c := by
    rw [mul_assoc, ← hunit, Nat.cast_mul, Nat.cast_sub hle, hbelow]
    push_cast
    ring
  have hhigh : (((4 * mantissa + 2) * (Nat.pow 10 (-k).toNat * Nat.pow 2 exponent.toNat) : ℕ) : ℚ) =
      (mantissa + 1 / 2) * 2 ^ exponent * c := by
    rw [mul_assoc, ← hunit, Nat.cast_mul]
    push_cast
    ring
  split_ifs with heven
  · rw [Bool.and_eq_true, decide_eq_true_eq, decide_eq_true_eq, ← Nat.cast_le (α := ℚ), hlow, htens,
      ← Nat.cast_le (α := ℚ), htens, hhigh, mul_le_mul_iff_left₀ hpos, mul_le_mul_iff_left₀ hpos]
  · rw [Bool.and_eq_true, decide_eq_true_eq, decide_eq_true_eq, ← Nat.cast_lt (α := ℚ), hlow, htens,
      ← Nat.cast_lt (α := ℚ), htens, hhigh, mul_lt_mul_iff_left₀ hpos, mul_lt_mul_iff_left₀ hpos]

theorem rounds_of_near {mantissa : ℕ} {exponent : ℤ} (h : IsPositive mantissa exponent) {v : ℚ}
    (hv : |v - mantissa * 2 ^ exponent| < mantissa * 2 ^ exponent / 2 ^ 54) :
    Rounds mantissa exponent v := by
  obtain ⟨hlow, hhigh⟩ := abs_lt.1 hv
  have hpos : (0 : ℚ) < 2 ^ exponent := by positivity
  have hsmall : (mantissa : ℚ) ≤ 2 ^ 53 := by
    have htwice : ((2 * leastNormal : ℕ) : ℚ) = 2 ^ 53 := by norm_num [leastNormal]
    rw [← htwice]
    exact_mod_cast h.small.le
  have hbelow : (mantissa : ℚ) / 2 ^ 54 ≤ below mantissa exponent := by
    obtain hhalf | ⟨hquarter, hleast, -⟩ := below_cases mantissa exponent
    · rw [hhalf]
      linarith
    · rw [hquarter, hleast, leastNormal_cast]
      norm_num
  have hlow' : (mantissa - below mantissa exponent) * 2 ^ exponent < v := by
    nlinarith
  have hhigh' : v < (mantissa + 1 / 2) * 2 ^ exponent := by
    nlinarith
  rw [rounds_iff]
  split_ifs
  · exact ⟨hlow'.le, hhigh'.le⟩
  · exact ⟨hlow', hhigh'⟩

theorem onGrid_rounds {mantissa : ℕ} {exponent k : ℤ} (hmantissa : 0 < mantissa) {d : Digits}
    (h : onGrid mantissa exponent k = some d) : Rounds mantissa exponent d.value := by
  rw [← roundsTo_iff exponent hmantissa]
  simp only [onGrid] at h
  split at h
  · rename_i hlow hhigh
    rw [Bool.and_eq_true] at hlow
    split_ifs at h
    · rw [← Option.some.inj h]
      exact hlow.1
    · rw [← Option.some.inj h]
      exact hhigh
  · rename_i hlow _
    rw [Bool.and_eq_true] at hlow
    rw [← Option.some.inj h]
    exact hlow.1
  · rename_i _ hhigh
    rw [← Option.some.inj h]
    exact hhigh
  · exact absurd h (by simp)

/-- On a grid of seventeen digits a neighbour of the float rounds to it. -/
theorem exists_onGrid {mantissa : ℕ} {exponent k : ℤ} (h : IsPositive mantissa exponent)
    (hk : (10 : ℚ) ^ k * 10 ^ 16 ≤ mantissa * 2 ^ exponent) :
    ∃ d, onGrid mantissa exponent k = some d := by
  have hgrid : (0 : ℚ) < 10 ^ k := by positivity
  have hvalue := overTen_value (scaleTwo mantissa exponent).1 (scaleTwo mantissa exponent).2 k
  rw [scaleTwo_value] at hvalue
  rw [onGrid]
  dsimp only
  generalize (overTen (scaleTwo mantissa exponent).1 (scaleTwo mantissa exponent).2 k) = fraction at *
  obtain ⟨num, den⟩ := fraction
  dsimp only at hvalue ⊢
  have hden : 0 < den := by
    apply Nat.pos_of_ne_zero
    rintro rfl
    rw [Nat.cast_zero, div_zero, eq_comm, div_eq_zero_iff] at hvalue
    obtain hzero | hzero := hvalue
    · have hpos : (0 : ℚ) < 10 ^ k * 10 ^ 16 := by positivity
      linarith
    · exact hgrid.ne' hzero
  have hfloor_le : (num / den : ℕ) * (10 : ℚ) ^ k ≤ mantissa * 2 ^ exponent := by
    rw [← le_div_iff₀ hgrid, ← hvalue]
    exact Nat.cast_div_le
  have hlt_floor : (mantissa * 2 ^ exponent : ℚ) < ((num / den : ℕ) + 1) * 10 ^ k := by
    have hden' : (0 : ℚ) < den := by exact_mod_cast hden
    rw [← div_lt_iff₀ hgrid, ← hvalue, div_lt_iff₀ hden']
    exact_mod_cast Nat.lt_mul_of_div_lt (Nat.lt_succ_self (num / den)) hden
  have hfloor : num / den ≠ 0 := by
    intro hzero
    rw [hzero] at hlt_floor
    norm_num at hlt_floor
    linarith
  generalize num / den = floor at *
  have hnear : roundsTo mantissa exponent ⟨floor, k⟩ = true ∨
      roundsTo mantissa exponent ⟨floor + 1, k⟩ = true := by
    rw [roundsTo_iff exponent h.positive, roundsTo_iff exponent h.positive]
    by_cases hmiddle : (mantissa * 2 ^ exponent : ℚ) - floor * 10 ^ k ≤ 10 ^ k / 2
    · refine .inl (rounds_of_near h ?_)
      rw [Digits.value, abs_lt]
      dsimp only
      constructor
      · linarith
      · linarith
    · refine .inr (rounds_of_near h ?_)
      rw [Digits.value, abs_lt]
      push_cast
      constructor
      · linarith
      · linarith
  rw [bne_iff_ne.2 hfloor, Bool.and_true]
  cases hlow : roundsTo mantissa exponent ⟨floor, k⟩ with
  | true =>
    cases hhigh : roundsTo mantissa exponent ⟨floor + 1, k⟩ with
    | true =>
      dsimp only
      split_ifs
      · exact ⟨_, rfl⟩
      · exact ⟨_, rfl⟩
    | false => exact ⟨_, rfl⟩
  | false =>
    rw [hnear.resolve_left (by simp [hlow])]
    exact ⟨_, rfl⟩

theorem shortest_rounds {mantissa : ℕ} {exponent : ℤ} (h : IsPositive mantissa exponent) :
    Rounds mantissa exponent (shortest mantissa exponent).value := by
  have hvalue := scaleTwo_value mantissa exponent
  rw [shortest]
  dsimp only
  generalize scaleTwo mantissa exponent = fraction at *
  obtain ⟨num, den⟩ := fraction
  dsimp only at hvalue ⊢
  have hpos : (0 : ℚ) < mantissa * 2 ^ exponent := by
    have hmantissa : (0 : ℚ) < mantissa := by exact_mod_cast h.positive
    positivity
  have hnum : 0 < num := by
    apply Nat.pos_of_ne_zero
    rintro rfl
    rw [Nat.cast_zero, zero_div] at hvalue
    exact hpos.ne hvalue
  have hden : 0 < den := by
    apply Nat.pos_of_ne_zero
    rintro rfl
    rw [Nat.cast_zero, div_zero] at hvalue
    exact hpos.ne hvalue
  have hleading := leadingExponent_le hnum hden
  rw [hvalue] at hleading
  generalize leadingExponent num den = leading at *
  have hgrid : (10 : ℚ) ^ (leading - 16) * 10 ^ 16 ≤ mantissa * 2 ^ exponent := by
    rw [← zpow_natCast, ← zpow_add₀ (by norm_num), Nat.cast_ofNat, sub_add_cancel]
    exact hleading
  obtain ⟨d, hd⟩ := exists_onGrid h hgrid
  rw [Digits.value_normal]
  cases hhit : (List.range 17).findSome? fun n : ℕ => onGrid mantissa exponent (leading - n) with
  | some d =>
    obtain ⟨n, -, hn⟩ := List.exists_of_findSome?_eq_some hhit
    exact onGrid_rounds h.positive hn
  | none =>
    rw [List.findSome?_eq_none_iff] at hhit
    have hlast := hhit 16 (by decide)
    rw [Nat.cast_ofNat, hd] at hlast
    exact absurd hlast (by simp)

end ScriptRun.Decimal
