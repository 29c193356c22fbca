import Mathlib
import ScriptRun.Decimal.Layout
import ScriptRun.Decimal.Reading

/-!
# What a written number looks like

The numeral of a whole number is made of plain digits, has no needless zero in front and gives the
number back. The text of a finite float is such a numeral with a fraction, an exponent or both after
it, and a minus before it if the float is negative. That and which digits it has at which place is
all a reader has to know of it.
-/

namespace ScriptRun.Decimal

open Text

/-! ### Whole numbers -/

theorem isPlainDigit_of_mem_ofNat {n : Nat} {c : Char} (hc : c ∈ ofNat n) :
    isPlainDigit c = true := by
  have hdigit := Nat.isDigit_of_mem_toDigits (by decide) (by decide) hc
  simpa [isPlainDigit, Char.isDigit, Char.le_def] using hdigit

theorem plainValue_ofNat (n : Nat) : plainValue (ofNat n) = n := by
  have hread := Nat.ofDigitChars_ten_toDigits (n := n)
  simpa [plainValue, ofNat, Nat.ofDigitChars, Nat.mul_comm] using hread

theorem plainValue_append (s t : Text) :
    plainValue (s ++ t) = plainValue s * 10 ^ t.length + plainValue t := by
  have hfold (n : Nat) : t.foldl (fun n c => n * 10 + (c.toNat - 0x30)) n =
      n * 10 ^ t.length + plainValue t := by
    induction t generalizing n with
    | nil => simp [plainValue]
    | cons c t ih =>
      rw [plainValue, List.foldl_cons, List.foldl_cons, ih, ih (0 * 10 + (c.toNat - 0x30)),
        List.length_cons, Nat.pow_succ]
      ring
  rw [plainValue, List.foldl_append, ← plainValue, hfold]

theorem plainValue_zeros (n : Nat) : plainValue (List.replicate n '0') = 0 := by
  induction n with
  | zero => rfl
  | succ n ih =>
    rw [List.replicate_succ', plainValue_append, ih]
    rfl

theorem plainValue_padded (width n : Nat) : plainValue (padded width n) = n := by
  rw [padded, plainValue_append, plainValue_zeros, plainValue_ofNat, Nat.zero_mul, Nat.zero_add]

theorem ofNat_ne_nil (n : Nat) : ofNat n ≠ [] := Nat.toDigits_ne_nil

theorem length_ofNat_le {n count : Nat} (hcount : 0 < count) (hn : n < Nat.pow 10 count) :
    (ofNat n).length ≤ count :=
  (Nat.length_toDigits_le_iff (by decide) hcount).mpr hn

theorem head?_ofNat {n : Nat} (hn : n ≠ 0) : (ofNat n).head? ≠ some '0' := by
  induction n using Nat.strong_induction_on with
  | _ n ih =>
    rw [ofNat, Nat.toDigits_eq_if (by decide)]
    split_ifs with hsmall
    · interval_cases n <;> simp_all [Nat.digitChar]
    · have hhead := ih (n / 10) (by omega) (by omega)
      obtain ⟨c, rest, hdigits⟩ := List.exists_cons_of_ne_nil (ofNat_ne_nil (n / 10))
      rw [hdigits] at hhead
      rwa [← ofNat, hdigits]

/-- Digits without a needless zero in front. -/
def IsWhole (t : Text) : Prop :=
  t = ['0'] ∨ t ≠ [] ∧ t.head? ≠ some '0' ∧ ∀ c ∈ t, isPlainDigit c = true

theorem isWhole_ofNat (n : Nat) : IsWhole (ofNat n) := by
  by_cases hn : n = 0
  · exact .inl (by rw [hn]; rfl)
  · exact .inr ⟨ofNat_ne_nil n, head?_ofNat hn, fun c hc => isPlainDigit_of_mem_ofNat hc⟩

theorem IsWhole.ne_nil {t : Text} (h : IsWhole t) : t ≠ [] := by
  obtain rfl | ⟨hne, -, -⟩ := h
  · exact List.cons_ne_nil _ _
  · exact hne

theorem IsWhole.isPlainDigit {t : Text} (h : IsWhole t) {c : Char} (hc : c ∈ t) :
    isPlainDigit c = true := by
  obtain rfl | ⟨-, -, hdigits⟩ := h
  · rw [List.mem_singleton.mp hc]
    rfl
  · exact hdigits c hc

/-! ### Floats -/

def IsFraction (t : Text) : Prop :=
  ∃ digits, t = '.' :: digits ∧ digits ≠ [] ∧ ∀ c ∈ digits, isPlainDigit c = true

/-- A numeral that shows that it is of a float, all its digits, and the exponent of the last one. -/
inductive IsFloat : Text → Text → Int → Prop
  | fraction {whole fraction : Text} : IsWhole whole → IsFraction fraction →
    IsFloat (whole ++ fraction) (whole ++ fraction.tail) (-fraction.tail.length)
  | exponent {whole : Text} (e : Int) : IsWhole whole → IsFloat (whole ++ exponentText e) whole e
  | both {whole fraction : Text} (e : Int) : IsWhole whole → IsFraction fraction →
    IsFloat (whole ++ (fraction ++ exponentText e)) (whole ++ fraction.tail)
      (e - fraction.tail.length)

section IsFloat

variable {t digits : Text} {shift : Int}

theorem IsFloat.exists_whole (h : IsFloat t digits shift) :
    ∃ whole more, t = whole ++ more ∧ IsWhole whole := by
  cases h with
  | fraction hwhole _ => exact ⟨_, _, rfl, hwhole⟩
  | exponent e hwhole => exact ⟨_, _, rfl, hwhole⟩
  | both e hwhole _ => exact ⟨_, _, rfl, hwhole⟩

theorem IsFloat.isPlainDigit (h : IsFloat t digits shift) :
    ∀ c ∈ digits, isPlainDigit c = true := by
  have happend {whole fraction : Text} (hwhole : IsWhole whole) (hfraction : IsFraction fraction) :
      ∀ c ∈ whole ++ fraction.tail, Decimal.isPlainDigit c = true := by
    obtain ⟨digits, rfl, -, hdigits⟩ := hfraction
    intro c hc
    obtain hc | hc := List.mem_append.mp hc
    · exact hwhole.isPlainDigit hc
    · exact hdigits c hc
  cases h with
  | fraction hwhole hfraction => exact happend hwhole hfraction
  | exponent e hwhole => exact fun c hc => hwhole.isPlainDigit hc
  | both e hwhole hfraction => exact happend hwhole hfraction

end IsFloat

theorem isPlainDigit_of_mem_padded {width n : Nat} {c : Char} (hc : c ∈ padded width n) :
    isPlainDigit c = true := by
  rw [padded, List.mem_append] at hc
  obtain hzero | hdigit := hc
  · rw [List.eq_of_mem_replicate hzero]
    rfl
  · exact isPlainDigit_of_mem_ofNat hdigit

theorem Digits.normal_go_ne_zero {n : Nat} (e : Int) (fuel : Nat) (hn : n ≠ 0) :
    (Digits.normal.go n e fuel).digits ≠ 0 := by
  induction fuel generalizing n e with
  | zero => exact hn
  | succ fuel ih =>
    rw [Digits.normal.go]
    split_ifs with h
    · exact ih _ (by omega)
    · exact hn

theorem Digits.normal_ne_zero {d : Digits} (hd : d.digits ≠ 0) : d.normal.digits ≠ 0 :=
  Digits.normal_go_ne_zero _ _ hd

theorem onGrid_ne_zero {mantissa : Nat} {exponent k : Int} {d : Digits}
    (h : onGrid mantissa exponent k = some d) : d.digits ≠ 0 := by
  simp only [onGrid] at h
  split at h
  · rename_i hlow _
    simp only [Bool.and_eq_true, bne_iff_ne] at hlow
    split_ifs at h <;> simp only [Option.some.injEq] at h <;> subst h
    · exact hlow.2
    · exact Nat.succ_ne_zero _
  · rename_i hlow _
    simp only [Bool.and_eq_true, bne_iff_ne] at hlow
    simp only [Option.some.injEq] at h
    subst h
    exact hlow.2
  · simp only [Option.some.injEq] at h
    subst h
    exact Nat.succ_ne_zero _
  · simp at h

theorem shortest_ne_zero {mantissa : Nat} (exponent : Int) (h : mantissa ≠ 0) :
    (shortest mantissa exponent).digits ≠ 0 := by
  refine Digits.normal_ne_zero ?_
  rcases hhit : (List.range 17).findSome? _ with - | d
  · exact h
  · obtain ⟨n, -, hn⟩ := List.exists_of_findSome?_eq_some hhit
    exact onGrid_ne_zero hn

/-- The first digits of a positive number are a whole number of their own. -/
theorem IsWhole.take {digits : Text} (h : IsWhole digits) (n : Nat) :
    IsWhole (digits.take (n + 1)) := by
  obtain rfl | ⟨hne, hhead, hdigits⟩ := h
  · exact .inl (by simp)
  · obtain ⟨c, rest, rfl⟩ := List.exists_cons_of_ne_nil hne
    exact .inr ⟨List.cons_ne_nil _ _, hhead, fun c hc => hdigits c (List.mem_of_mem_take hc)⟩

/-- A positive number, laid out exactly, shows that it is a float. Its digits are those of the number
and perhaps zeros after them. -/
theorem isFloat_digits {d : Digits} (hd : d.digits ≠ 0) : ∃ (digits : Text) (zeros : Nat),
    IsFloat (Layout.exact.digits d) digits (d.exponent - zeros) ∧
      plainValue digits = d.digits * 10 ^ zeros := by
  have hdigits : ∀ c ∈ Nat.toDigits 10 d.digits, isPlainDigit c = true := fun c hc =>
    isPlainDigit_of_mem_ofNat hc
  have hwhole : IsWhole (Nat.toDigits 10 d.digits) := isWhole_ofNat d.digits
  have hpositive : (Nat.toDigits 10 d.digits).head? ≠ some '0' := head?_ofNat hd
  have hvalue : plainValue (Nat.toDigits 10 d.digits) = d.digits := plainValue_ofNat d.digits
  simp only [Layout.digits, Layout.exact]
  generalize Nat.toDigits 10 d.digits = digits at *
  have hlength : 0 < digits.length := List.length_pos_iff.mpr hwhole.ne_nil
  have hsplit (n : Nat) : digits.take n ++ digits.drop n = digits := List.take_append_drop n digits
  have hdrop (n : Nat) : ∀ c ∈ digits.drop n, isPlainDigit c = true := fun c hc =>
    hdigits c (List.mem_of_mem_drop hc)
  split_ifs with hscientific htail hwide hinside
  · have hone : digits.length = 1 := by
      rw [List.isEmpty_iff, List.drop_eq_nil_iff] at htail
      omega
    have hshift : d.exponent + digits.length - 1 = d.exponent - (0 : Nat) := by omega
    refine ⟨digits, 0, ?_, ?_⟩
    · rw [List.append_nil, List.take_of_length_le hone.le, ← hshift]
      exact .exponent _ hwhole
    · rw [hvalue, Nat.pow_zero, Nat.mul_one]
  · have hshift : d.exponent + digits.length - 1 - (digits.drop 1).length =
        d.exponent - (0 : Nat) := by
      rw [List.length_drop]
      omega
    refine ⟨digits.take 1 ++ digits.drop 1, 0, ?_, ?_⟩
    · rw [List.append_assoc, ← hshift]
      refine .both _ (hwhole.take 0) ⟨_, rfl, ?_, hdrop 1⟩
      simpa using htail
    · rw [hsplit, hvalue, Nat.pow_zero, Nat.mul_one]
  · refine ⟨digits ++ List.replicate d.exponent.toNat '0' ++ ['0'], d.exponent.toNat + 1, ?_, ?_⟩
    · have hshift : -((['0'] : Text).length : Int) = d.exponent - (d.exponent.toNat + 1 : Nat) := by
        rw [List.length_singleton]
        omega
      rw [← hshift]
      refine .fraction ?_ ⟨['0'], rfl, List.cons_ne_nil _ _, List.forall_mem_singleton.mpr rfl⟩
      obtain ⟨c, rest, rfl⟩ := List.exists_cons_of_ne_nil hwhole.ne_nil
      refine .inr ⟨List.cons_ne_nil _ _, hpositive, fun c hc => ?_⟩
      obtain hc | hc := List.mem_append.mp hc
      · exact hdigits c hc
      · rw [List.eq_of_mem_replicate hc]
        rfl
    · rw [List.append_assoc, ← List.replicate_succ', plainValue_append, plainValue_zeros, hvalue,
        List.length_replicate, Nat.add_zero]
  · obtain ⟨before, hbefore⟩ : ∃ n, (d.exponent + digits.length - 1).toNat + 1 = n + 1 := ⟨_, rfl⟩
    have hshift : -((digits.drop (before + 1)).length : Int) = d.exponent - (0 : Nat) := by
      rw [List.length_drop]
      omega
    refine ⟨digits.take (before + 1) ++ digits.drop (before + 1), 0, ?_, ?_⟩
    · rw [hbefore, ← hshift]
      refine .fraction (hwhole.take _) ⟨_, rfl, ?_, hdrop _⟩
      rw [ne_eq, List.drop_eq_nil_iff]
      omega
    · rw [hsplit, hvalue, Nat.pow_zero, Nat.mul_one]
  · obtain ⟨zeros, hzeros⟩ : ∃ n, (-(d.exponent + digits.length - 1) - 1).toNat = n := ⟨_, rfl⟩
    have hshift : -((List.replicate zeros '0' ++ digits).length : Int) = d.exponent - (0 : Nat) := by
      rw [List.length_append, List.length_replicate]
      omega
    refine ⟨['0'] ++ (List.replicate zeros '0' ++ digits), 0, ?_, ?_⟩
    · change IsFloat (['0'] ++ '.' :: (List.replicate _ '0' ++ digits)) _ _
      rw [hzeros, ← hshift]
      refine .fraction (.inl rfl) ⟨_, rfl, List.append_ne_nil_of_right_ne_nil _ hwhole.ne_nil, ?_⟩
      intro c hc
      obtain hc | hc := List.mem_append.mp hc
      · rw [List.eq_of_mem_replicate hc]
        rfl
      · exact hdigits c hc
    · have hnone : plainValue ['0'] = 0 := rfl
      rw [plainValue_append, plainValue_append, plainValue_zeros, hnone, hvalue, Nat.zero_mul,
        Nat.zero_mul, Nat.zero_add, Nat.zero_add, Nat.pow_zero, Nat.mul_one]

/-- The text of a float that is a number. -/
theorem exactText_finite {x : Float} {negative : Bool} {mantissa : Nat} {exponent : Int}
    (hx : Parts.ofFloat x = .finite negative mantissa exponent) :
    ∃ (numeral digits : Text) (shift : Int),
      exactText x = (if negative then ['-'] else []) ++ numeral ∧ IsFloat numeral digits shift ∧
        if mantissa = 0 then plainValue digits = 0
        else ∃ zeros : Nat, shift = (shortest mantissa exponent).exponent - zeros ∧
          plainValue digits = (shortest mantissa exponent).digits * 10 ^ zeros := by
  simp only [exactText, Layout.float, hx]
  by_cases hzero : mantissa = 0
  · refine ⟨['0', '.', '0'], ['0', '0'], -1, ?_, ?_, ?_⟩
    · rw [if_pos hzero]
      rfl
    · exact .fraction (.inl rfl)
        ⟨['0'], rfl, List.cons_ne_nil _ _, List.forall_mem_singleton.mpr rfl⟩
    · rw [if_pos hzero]
      rfl
  · obtain ⟨digits, zeros, hfloat, hvalue⟩ := isFloat_digits (shortest_ne_zero exponent hzero)
    refine ⟨_, digits, _, ?_, hfloat, ?_⟩
    · rw [if_neg hzero]
    · rw [if_neg hzero]
      exact ⟨zeros, rfl, hvalue⟩

end ScriptRun.Decimal
