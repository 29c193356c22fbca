import ScriptRun.Proofs.Status.Grammar
import ScriptRun.Proofs.Text.Lines

/-!
# Short lines have a reading

A line is refused only for a number with too many digits. The digits of a number are a run of digits
of the line, so a line whose runs of digits are no longer than a number may be is not refused. In
particular none is that a line buffer has handed out, as long as its limit is not above that of
numbers.
-/

namespace ScriptRun.Status

open Text

/-- No run of digits in a text is longer than a number may be. -/
def FewDigits (t : Text) : Prop :=
  ∀ run, run <:+: t → IsRun isDigit run → run.length ≤ Decimal.digitLimit

theorem FewDigits.of_length_le {t : Text} (h : t.length ≤ Decimal.digitLimit) : FewDigits t := by
  intro run hrun _
  exact Nat.le_trans hrun.length_le h

theorem FewDigits.number_eq {t s digits : Text} (h : FewDigits t) (hs : s <:+ t)
    (hdigits : digits <:+: s) (hrun : IsRun isDigit digits) :
    number digits = .ok (digitsValue digits) := by
  have hlength := h digits (hdigits.trans hs.isInfix) hrun
  rw [number, Decimal.readDigits, if_neg (by omega)]

theorem Rule.read_eq_ok {t : Text} (h : FewDigits t) (rule : Rule) :
    ∃ found, rule.read t = .ok found := by
  cases rule with
  | running =>
    rw [Rule.read]
    split
    · exact ⟨none, rfl⟩
    · split
      · rename_i digits name hfound
        obtain ⟨s, hread, hs, -, -⟩ := firstAt_of_leftmost? hfound
        obtain ⟨rest, hat, -⟩ := runningAt?_eq_some_iff.1 hread
        rw [h.number_eq hs hat.isInfix_digits hat.1]
        exact ⟨_, rfl⟩
      · exact ⟨none, rfl⟩
  | passed =>
    rw [Rule.read]
    split
    · rename_i digits name duration hfound
      obtain ⟨s, hread, hs, -, -⟩ := firstAt_of_leftmost? hfound
      obtain ⟨rest, hat, -, hlast⟩ := passedAt?_eq_some_iff.1 hread
      obtain ⟨u, hu, hsuffix, -⟩ := lastAt_of_rightmost? hlast
      have hduration := durationAt?_eq_some_iff.1 hu
      have htaken : rest.takeWhile (· ≠ '\n') <+: rest := List.takeWhile_prefix _
      have hinfix : duration <:+: rest :=
        (hduration.isInfix_digits.trans hsuffix.isInfix).trans htaken.isInfix
      rw [h.number_eq hs hat.isInfix_digits hat.isRun_digits,
        h.number_eq (hat.rest_suffix.trans hs) hinfix hduration.1]
      exact ⟨_, rfl⟩
    · exact ⟨none, rfl⟩
  | failed =>
    rw [Rule.read]
    split
    · rename_i digits name rest hfound
      obtain ⟨s, hread, hs, -, -⟩ := firstAt_of_leftmost? hfound
      obtain ⟨hat, -⟩ := marked?_eq_some_iff.1 hread
      rw [h.number_eq hs hat.isInfix_digits hat.isRun_digits]
      exact ⟨_, rfl⟩
    · exact ⟨none, rfl⟩
  | locationStarted =>
    rw [Rule.read]
    split
    · rename_i digits hfound
      obtain ⟨s, hread, hs, -, -⟩ := firstAt_of_leftmost? hfound
      have hat := loadedAt?_eq_some_iff.1 hread
      rw [h.number_eq hs hat.isInfix_digits hat.1]
      exact ⟨_, rfl⟩
    · exact ⟨none, rfl⟩
  | locationStopped => exact ⟨_, rfl⟩

theorem readBy_eq_ok {t : Text} (h : FewDigits t) (rules : List Rule) :
    ∃ reading, readBy t rules = .ok reading := by
  induction rules with
  | nil => exact ⟨.unmatched, rfl⟩
  | cons rule rest ih =>
    obtain ⟨found, hfound⟩ := Rule.read_eq_ok h rule
    rw [readBy, hfound]
    cases found with
    | some reading => exact ⟨reading, rfl⟩
    | none => exact ih

theorem length_normalizedLine_le (line : Text) : (normalizedLine line).length ≤ line.length :=
  Nat.le_trans (isPrefix_trimEnd _).length_le (stripFrom_sublist 0 line).length_le

/-- A line that is no longer than a number may be is not refused. -/
theorem classify_eq_ok {line : Text} (h : line.length ≤ Decimal.digitLimit) :
    ∃ found, classify line = .ok found := by
  have hfew := FewDigits.of_length_le (Nat.le_trans (length_normalizedLine_le line) h)
  obtain ⟨reading, hreading⟩ := readBy_eq_ok hfew Rule.all
  exact ⟨⟨normalizedLine line, reading⟩, by rw [classify, classifyBy, hreading]; rfl⟩

/-- No line that a buffer hands out is refused, if its limit is one that numbers keep. -/
theorem classify_outputLines {limit : Nat} (hpos : 1 ≤ limit) (hlimit : limit ≤ Decimal.digitLimit)
    {t line : Text} (h : line ∈ outputLines limit t) : ∃ found, classify line = .ok found := by
  obtain ⟨part, -, hpart⟩ := List.mem_flatMap.1 h
  have hlength := length_le_of_mem_pieces (by omega) hpart
  exact classify_eq_ok (Nat.le_trans hlength hlimit)

end ScriptRun.Status
