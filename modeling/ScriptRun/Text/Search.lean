import ScriptRun.Text.Basic

/-!
# Searching a text

A reader tries to read something at the beginning of a text. The searches try it at every position,
the end of the text included, from the left or from the right.
-/

namespace ScriptRun.Text

/-- What a reader reads at the first position at which it succeeds. -/
def leftmost? {α : Type} (read : Text → Option α) : Text → Option α
  | [] => read []
  | c :: rest => (read (c :: rest)).or (leftmost? read rest)

/-- What a reader reads at the last position at which it succeeds. -/
def rightmost? {α : Type} (read : Text → Option α) : Text → Option α
  | [] => read []
  | c :: rest => (rightmost? read rest).or (read (c :: rest))

/-- A search fails exactly if the reader fails at every position. -/
theorem leftmost?_eq_none_iff {α : Type} {read : Text → Option α} {t : Text} :
    leftmost? read t = none ↔ ∀ s, s <:+ t → read s = none := by
  induction t with
  | nil => simp [leftmost?]
  | cons c rest ih =>
    simp only [leftmost?, Option.or_eq_none_iff, ih, List.suffix_cons_iff]
    constructor
    · rintro ⟨h, hr⟩ s (rfl | hs)
      · exact h
      · exact hr s hs
    · exact fun h => ⟨h _ (.inl rfl), fun s hs => h s (.inr hs)⟩

theorem rightmost?_eq_none_iff {α : Type} {read : Text → Option α} {t : Text} :
    rightmost? read t = none ↔ ∀ s, s <:+ t → read s = none := by
  induction t with
  | nil => simp [rightmost?]
  | cons c rest ih =>
    simp only [rightmost?, Option.or_eq_none_iff, ih, List.suffix_cons_iff]
    constructor
    · rintro ⟨hr, h⟩ s (rfl | hs)
      · exact h
      · exact hr s hs
    · exact fun h => ⟨fun s hs => h s (.inr hs), h _ (.inl rfl)⟩

end ScriptRun.Text
