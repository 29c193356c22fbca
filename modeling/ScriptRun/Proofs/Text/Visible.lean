import Mathlib
import ScriptRun.Proofs.Decimal.Numerals
import ScriptRun.Text.Sanitized
import ScriptRun.Time.Moment

/-!
# Lines that stay lines

A line that was made safe for a log consists of visible characters and tabs, and nothing that ends a
line is visible. It is therefore one line of the file whatever it was before, by whatever is taken
for the end of a line.
-/

namespace ScriptRun

namespace Text

theorem isPrintable_of_isLineEnd {c : Char} (h : isLineEnd c = true) : isPrintable c = false := by
  have hseparators : ∀ n, n = 0x85 ∨ n = 0x2028 ∨ n = 0x2029 → inRanges n hiddenRanges = true := by
    rintro n (rfl | rfl | rfl) <;> decide +kernel
  simp only [isLineEnd, Bool.or_eq_true, Bool.and_eq_true, decide_eq_true_eq, beq_iff_eq] at h
  unfold isPrintable
  by_cases hascii : c.toNat < 0x80
  · rw [if_pos hascii]
    simp only [Bool.and_eq_false_iff, decide_eq_false_iff_not]
    omega
  · rw [if_neg hascii, hseparators c.toNat (by omega)]
    rfl

theorem isPrintable_digitChar {n : Nat} (h : n < 16) : isPrintable n.digitChar = true := by
  interval_cases n <;> rfl

theorem isPrintable_of_mem_hex {width n : Nat} {c : Char} (hc : c ∈ hex width n) :
    isPrintable c = true := by
  have hdigits : ∀ n, ∀ c ∈ Nat.toDigits 16 n, isPrintable c = true := by
    intro n
    induction n using Nat.strong_induction_on with
    | _ n ih =>
      rw [Nat.toDigits_eq_if (by decide)]
      split_ifs with hsmall
      · simpa using isPrintable_digitChar hsmall
      · intro c hc
        rcases List.mem_append.1 hc with hhigh | hlow
        · exact ih (n / 16) (by omega) c hhigh
        · rw [List.mem_singleton.1 hlow]
          exact isPrintable_digitChar (Nat.mod_lt n (by decide))
  rcases List.mem_append.1 hc with hzero | hdigit
  · rw [List.eq_of_mem_replicate hzero]
    rfl
  · exact hdigits n c hdigit

theorem isPrintable_of_isPlainDigit {c : Char} (h : Decimal.isPlainDigit c = true) :
    isPrintable c = true := by
  simp only [Decimal.isPlainDigit, Bool.and_eq_true, decide_eq_true_eq, Char.le_def] at h
  obtain ⟨hlow, hhigh⟩ := h
  have hlow : 48 ≤ c.toNat := hlow
  have hhigh : c.toNat ≤ 57 := hhigh
  unfold isPrintable
  rw [if_pos (by omega)]
  simp only [Bool.and_eq_true, decide_eq_true_eq]
  omega

/-- A text without anything that ends a line. -/
def IsUnbroken (t : Text) : Prop := ∀ c ∈ t, isLineEnd c = false

theorem isUnbroken_append {s t : Text} : IsUnbroken (s ++ t) ↔ IsUnbroken s ∧ IsUnbroken t :=
  List.forall_mem_append

theorem isUnbroken_cons {c : Char} {t : Text} :
    IsUnbroken (c :: t) ↔ isLineEnd c = false ∧ IsUnbroken t :=
  List.forall_mem_cons

theorem isUnbroken_of_isPrintable {t : Text} (h : ∀ c ∈ t, isPrintable c = true) :
    IsUnbroken t := by
  intro c hc
  by_contra hend
  have hhidden := isPrintable_of_isLineEnd (Bool.eq_true_of_not_eq_false hend)
  rw [h c hc] at hhidden
  exact absurd hhidden (by decide)

theorem isUnbroken_padded (width n : Nat) : IsUnbroken (padded width n) :=
  isUnbroken_of_isPrintable fun _ hc =>
    isPrintable_of_isPlainDigit (Decimal.isPlainDigit_of_mem_padded hc)

/-- A text of visible characters and tabs. -/
def IsShown (t : Text) : Prop := ∀ c ∈ t, isPrintable c = true ∨ c = '\t'

theorem isShown_of_isPrintable {t : Text} (h : ∀ c ∈ t, isPrintable c = true) : IsShown t :=
  fun c hc => .inl (h c hc)

theorem isShown_append {s t : Text} (hs : IsShown s) (ht : IsShown t) : IsShown (s ++ t) :=
  List.forall_mem_append.mpr ⟨hs, ht⟩

theorem isUnbroken_of_isShown {t : Text} (h : IsShown t) : IsUnbroken t := by
  intro c hc
  obtain hprintable | rfl := h c hc
  · have hsingle : IsUnbroken [c] := isUnbroken_of_isPrintable (by simpa using hprintable)
    exact hsingle c (List.mem_singleton_self c)
  · rfl

theorem isShown_safeChar (c : Char) : IsShown (safeChar c) := by
  unfold safeChar
  split_ifs with hshown
  · intro other hother
    rw [List.mem_singleton.mp hother]
    simpa [or_comm] using hshown
  · apply isShown_of_isPrintable
    refine List.forall_mem_cons.mpr ⟨rfl, List.forall_mem_cons.mpr ⟨rfl, ?_⟩⟩
    exact fun other hother => isPrintable_of_mem_hex hother

theorem isShown_truncated (limit : Int) {t : Text} (ht : IsShown t) :
    IsShown (truncated limit t) := by
  have hmark : truncationMark.all isPrintable = true := rfl
  unfold truncated
  split_ifs
  · exact isShown_append (fun c hc => ht c (List.mem_of_mem_take hc))
      (isShown_of_isPrintable (List.all_eq_true.mp hmark))
  · exact ht

theorem isShown_sanitized (limit : Int) (line : Text) : IsShown (sanitized limit line) := by
  unfold sanitized
  refine isShown_truncated limit fun c hc => ?_
  obtain ⟨other, -, hother⟩ := List.mem_flatMap.mp hc
  exact isShown_safeChar other c hother

/-- A line as it is written to a log is not broken, whatever it was before. -/
theorem isUnbroken_sanitized (limit : Int) (line : Text) : IsUnbroken (sanitized limit line) :=
  isUnbroken_of_isShown (isShown_sanitized limit line)

/-- One line of a file with its line feed. -/
def IsLine (t : Text) : Prop := ∃ line, t = line ++ ['\n'] ∧ IsUnbroken line

end Text

namespace Time.Moment

theorem isUnbroken_clockText (m : Moment) : m.clockText.IsUnbroken := by
  unfold clockText
  simp only [List.append_assoc, List.cons_append, Text.isUnbroken_append, Text.isUnbroken_cons,
    Text.isUnbroken_padded, true_and, and_true]
  decide

end Time.Moment

end ScriptRun
