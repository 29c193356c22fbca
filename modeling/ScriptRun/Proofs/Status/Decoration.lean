import ScriptRun.Proofs.Text.Runs
import ScriptRun.Status.Classification

/-!
# Colours and padding

A tool colours its output with escape sequences, which may stand between any two characters of a
line, and pads its lines with white space. The three classes of characters in a bracketed sequence
have no character in common, so that a sequence ends where it is meant to whatever comes after it.
-/

namespace ScriptRun

namespace Text

/-- A well-formed escape sequence. -/
inductive IsSequence : Text → Prop
  | single {c : Char} (hc : '@' ≤ c ∧ c ≤ 'Z' ∨ c ∈ ['\\', ']', '^', '_']) :
      IsSequence [escape, c]
  | bracketed {parameters intermediates : Text} {final : Char}
      (hparameters : ∀ c ∈ parameters, '0' ≤ c ∧ c ≤ '?')
      (hintermediates : ∀ c ∈ intermediates, ' ' ≤ c ∧ c ≤ '/')
      (hfinal : '@' ≤ final ∧ final ≤ '~') :
      IsSequence (escape :: '[' :: (parameters ++ (intermediates ++ [final])))

/-- A text with escape sequences before, between and after its characters. -/
inductive Decorated : Text → Text → Prop
  | nil : Decorated [] []
  | char (c : Char) {t u : Text} (h : Decorated t u) : Decorated (c :: t) (c :: u)
  | sequence {s t u : Text} (hs : IsSequence s) (h : Decorated t u) : Decorated t (s ++ u)

theorem Decorated.append {t u t' u' : Text} (h : Decorated t u) (h' : Decorated t' u') :
    Decorated (t ++ t') (u ++ u') := by
  induction h with
  | nil => exact h'
  | char c _ ih => exact ih.char c
  | sequence hs _ ih =>
    rw [List.append_assoc]
    exact ih.sequence hs

theorem Decorated.refl (t : Text) : Decorated t t := by
  induction t with
  | nil => exact .nil
  | cons c t ih => exact ih.char c

theorem between_iff {low high c : Char} :
    (decide (low.toNat ≤ c.toNat) && decide (c.toNat ≤ high.toNat)) = true ↔
      low ≤ c ∧ c ≤ high := by
  rw [Bool.and_eq_true, decide_eq_true_eq, decide_eq_true_eq]
  rfl

theorem isSingle_of {c : Char} (h : '@' ≤ c ∧ c ≤ 'Z' ∨ c ∈ ['\\', ']', '^', '_']) :
    isSingle c = true := by
  rw [isSingle, Bool.or_eq_true]
  rcases h with hletter | hother
  · exact .inl (between_iff.2 hletter)
  · refine .inr ?_
    simp only [List.mem_cons, List.not_mem_nil, or_false] at hother
    rcases hother with rfl | rfl | rfl | rfl <;> decide

/-- The characters of the three parts of a bracketed sequence are told apart by their codes. -/
theorem excludes_of_sequence : Excludes isIntermediate isParameter ∧ Excludes isFinal isParameter ∧
    Excludes isFinal isIntermediate := by
  refine ⟨?_, ?_, ?_⟩ <;> intro c hc
  all_goals
    simp only [isParameter, isIntermediate, isFinal, Bool.and_eq_true, decide_eq_true_eq,
      Bool.and_eq_false_iff, decide_eq_false_iff_not] at hc ⊢
    omega

/-- A sequence is recognised to its end and no further. -/
theorem sequenceLength?_of_isSequence {s : Text} (hs : IsSequence s) (u : Text) :
    ∃ body, s = escape :: body ∧ sequenceLength? (body ++ u) = some body.length := by
  cases hs with
  | @single c hc =>
    refine ⟨[c], rfl, ?_⟩
    rw [List.singleton_append, sequenceLength?, if_pos (isSingle_of hc)]
    rfl
  | @bracketed parameters intermediates final hparameters hintermediates hfinal =>
    have hparameters : ∀ c ∈ parameters, isParameter c = true :=
      fun c hc => (@between_iff '0' '?' c).2 (hparameters c hc)
    have hintermediates : ∀ c ∈ intermediates, isIntermediate c = true :=
      fun c hc => (@between_iff ' ' '/' c).2 (hintermediates c hc)
    have hfinal : isFinal final = true := (@between_iff '@' '~' final).2 hfinal
    obtain ⟨hparts, hlast, hlast'⟩ := excludes_of_sequence
    have hends : Breaks isIntermediate (final :: u) :=
      breaks_cons.2 (hlast' final hfinal)
    have hstops : Breaks isParameter (intermediates ++ final :: u) := by
      cases intermediates with
      | nil => exact breaks_cons.2 (hlast final hfinal)
      | cons c more =>
        exact breaks_cons.2 (hparts c (hintermediates c List.mem_cons_self))
    refine ⟨'[' :: (parameters ++ (intermediates ++ [final])), rfl, ?_⟩
    have hbody : '[' :: (parameters ++ (intermediates ++ [final])) ++ u =
        '[' :: (parameters ++ (intermediates ++ final :: u)) := by simp
    have hbracket : ¬isSingle '[' = true := by decide
    rw [hbody, sequenceLength?, if_neg hbracket, if_pos rfl]
    simp only [takeWhile_append_of_breaks hparameters hstops,
      dropWhile_append_of_breaks hparameters hstops,
      takeWhile_append_of_breaks hintermediates hends,
      dropWhile_append_of_breaks hintermediates hends, if_pos hfinal]
    simp only [List.length_cons, List.length_append, List.length_nil, Option.some.injEq]
    omega

theorem stripEscapes_sequence {s : Text} (hs : IsSequence s) (u : Text) :
    stripEscapes (s ++ u) = stripEscapes u := by
  obtain ⟨body, rfl, hlength⟩ := sequenceLength?_of_isSequence hs u
  rw [stripEscapes, List.cons_append, stripFrom, if_pos rfl, hlength]
  simp only
  rw [stripFrom_eq_drop, List.drop_left]
  rfl

/-- Without its sequences a decorated text is what it was. -/
theorem stripEscapes_of_decorated {t u : Text} (h : Decorated t u) (ht : escape ∉ t) :
    stripEscapes u = t := by
  induction h with
  | nil => rfl
  | @char c t u _ ih =>
    rw [List.mem_cons, not_or] at ht
    have hrest := ih ht.2
    rw [stripEscapes] at hrest ⊢
    rw [stripFrom, if_neg (Ne.symm ht.1), hrest]
  | sequence hs _ ih => rw [stripEscapes_sequence hs, ih ht]

theorem trimEnd_append_of_isBlank {blanks : Text} (h : ∀ c ∈ blanks, isBlank c = true) (t : Text) :
    trimEnd (t ++ blanks) = trimEnd t := by
  have hreverse : ∀ c ∈ blanks.reverse, isBlank c = true := by
    intro c hc
    exact h c (List.mem_reverse.1 hc)
  rw [trimEnd, trimEnd, List.reverse_append, List.dropWhile_append_of_pos hreverse]

end Text

namespace Status

open Text

/-- Escape sequences anywhere in a line, and white space after it, with sequences in it or not, are
not seen by the classification: the line is cleaned to what it was, and says the same. -/
theorem classify_decorated {t u blanks padding : Text} (ht : escape ∉ t) (hu : Decorated t u)
    (hblanks : ∀ c ∈ blanks, isBlank c = true) (hpadding : Decorated blanks padding) :
    stripEscapes u = t ∧ classify (u ++ padding) = classify t := by
  have hescape : escape ∉ t ++ blanks := by
    intro hmem
    rcases List.mem_append.1 hmem with hin | hin
    · exact ht hin
    · exact Bool.false_ne_true (hblanks escape hin)
  have hnormal : normalizedLine (u ++ padding) = normalizedLine t := by
    rw [normalizedLine, stripEscapes_of_decorated (hu.append hpadding) hescape,
      trimEnd_append_of_isBlank hblanks, normalizedLine, stripEscapes_of_not_mem ht]
  refine ⟨stripEscapes_of_decorated hu ht, ?_⟩
  rw [classify, classifyBy, hnormal]
  rfl

/-- A colour is changed inside the index, and the padding is coloured too. -/
theorem classify_decorated_passed :
    let plain := "✓ [1".toList ++ "2] tapOn (5ms)".toList
    let coloured := "\x1b[1;32m".toList ++ ("✓ [1".toList ++
      ("\x1bM".toList ++ "2] tapOn (5ms)".toList))
    let padding := "\t".toList ++ ("\x1b[0 q".toList ++ " ".toList)
    escape ∉ plain ∧ Decorated plain coloured ∧ Decorated ['\t', ' '] padding ∧
      stripEscapes coloured = plain ∧
      classify (coloured ++ padding) = .ok ⟨plain, .passed 12 "tapOn".toList 5⟩ := by
  intro plain coloured padding
  have hplain : escape ∉ plain := by decide
  have hcolour : IsSequence "\x1b[1;32m".toList :=
    @IsSequence.bracketed ['1', ';', '3', '2'] [] 'm' (by simp) (by simp) (by decide)
  have hreverse : IsSequence "\x1bM".toList := @IsSequence.single 'M' (by decide)
  have hcursor : IsSequence "\x1b[0 q".toList :=
    @IsSequence.bracketed ['0'] [' '] 'q' (by simp) (by simp) (by decide)
  have hcoloured : Decorated plain coloured :=
    ((Decorated.refl _).append ((Decorated.refl _).sequence hreverse)).sequence hcolour
  have hpadding : Decorated ['\t', ' '] padding :=
    (Decorated.refl ['\t']).append ((Decorated.refl [' ']).sequence hcursor)
  have hblanks : ∀ c ∈ ['\t', ' '], isBlank c = true := by
    rw [List.forall_mem_cons, List.forall_mem_singleton]
    decide
  have hread : classify plain = .ok ⟨plain, .passed 12 "tapOn".toList 5⟩ := by decide +kernel
  obtain ⟨hstripped, hsame⟩ := classify_decorated hplain hcoloured hblanks hpadding
  exact ⟨hplain, hcoloured, hpadding, hstripped, hsame.trans hread⟩

end Status

end ScriptRun
