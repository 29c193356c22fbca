import Mathlib
import ScriptRun.Text.Hex
import ScriptRun.Yaml.Input

/-!
# What the lexer still has to read

Whatever the lexer does, what it still has to read is a suffix of the text that it was given.
Looking ahead fetches pieces and leaves all of it, and passing over characters takes them away from
its front. So what is found wrong at some place is found in the text.
-/

set_option mvcgen.warning false

namespace ScriptRun.Yaml

open Text Std.Do

/-- What a step of any kind does, said of its runs. -/
theorem triple_iff {ε σ α : Type} {m : EStateM ε σ α} {P : σ → Prop} {Q : α → σ → Prop}
    {E : ε → Prop} :
    ⦃fun s => ⌜P s⌝⦄ m ⦃post⟨fun a s => ⌜Q a s⌝, fun fault _ => ⌜E fault⌝⟩⦄ ↔
      ∀ s, P s → match m s with
        | .ok a s => Q a s
        | .error fault _ => E fault := by
  refine forall_congr' fun s => imp_congr_right fun _ => ?_
  simp only [wp, PredTrans.apply, EStateM.run]
  cases m s with
  | ok a s => exact Iff.rfl
  | error fault s => exact Iff.rfl

/-- Whether a fault is one that a message is made of. -/
def Fault.isHandled : Fault → Bool
  | .problem _ | .undecodable _ | .meaningless _ => true
  | _ => false

/-- The text that a lexer was given. -/
structure Source where
  text : Text

def hexNumber (digits : Text) : Nat := digits.foldl (fun n c => n * 16 + (hexValue? c).getD 0) 0

/-- Whether a text holds an escape for a number that is too large to be a code point: eight digits,
the first of which is 8 or more. -/
def HasLargeEscape (t : Text) : Prop :=
  ∃ digits, '\\' :: 'U' :: digits <:+: t ∧ digits.length = 8 ∧
    (∀ c ∈ digits, (hexValue? c).isSome) ∧ 0x7fffffff < hexNumber digits

/-- Whether a fault can be found in a text before anything is known of its nodes. -/
def Source.Allows (source : Source) (fault : Fault) : Prop :=
  fault.isHandled ∨ (∃ message, fault = .tooLarge message) ∧ HasLargeEscape source.text

namespace Lexer

/-- What has not been passed over. -/
def remaining (s : Lexer) : Text := s.rest ++ s.later.flatten

/-- Whether a lexer still reads the text that it was given. -/
def Within (source : Source) (s : Lexer) : Prop := s.remaining <:+ source.text

/-- What looking ahead does to a lexer: it fetches pieces. -/
structure Fetched (s s' : Lexer) : Prop where
  remaining : s'.remaining = s.remaining
  rest : s.rest <+: s'.rest

theorem Fetched.refl (s : Lexer) : Fetched s s := ⟨rfl, List.prefix_refl _⟩

theorem Fetched.trans {s s' s'' : Lexer} (h : Fetched s s') (h' : Fetched s' s'') :
    Fetched s s'' :=
  ⟨h'.remaining.trans h.remaining, h.rest.trans h'.rest⟩

/-- What passing over at most `k` characters does to a lexer: it takes them from the front of what
is left, beginning with those that were fetched. -/
def Passed (k : Nat) (s s' : Lexer) : Prop :=
  ∃ passed, passed ++ s'.remaining = s.remaining ∧ s.rest.take k <+: passed ∧ passed.length ≤ k

theorem Passed.within {source : Source} {k : Nat} {s s' : Lexer} (h : s.Passed k s')
    (hs : s.Within source) : s'.Within source := by
  obtain ⟨passed, hpassed, -⟩ := h
  exact (hpassed ▸ List.suffix_append passed _).trans hs

theorem Passed.one {s s' : Lexer} {c : Char} (h : s.Passed 1 s') (hc : s.rest[0]? = some c) :
    s.remaining = c :: s'.remaining := by
  obtain ⟨passed, hpassed, hfetched, hlength⟩ := h
  cases hrest : s.rest with
  | nil => simp [hrest] at hc
  | cons first rest =>
    obtain rfl : first = c := by simpa [hrest] using hc
    rw [hrest, List.take_succ_cons, List.take_zero] at hfetched
    obtain rfl : [first] = passed := hfetched.eq_of_length_le hlength
    exact hpassed.symm

/-- A character that was fetched stands among those that are left. -/
theorem getElem?_remaining {s : Lexer} {k : Nat} {c : Char} (h : s.rest[k]? = some c) :
    s.remaining[k]? = some c := by
  rw [remaining, List.getElem?_append_left (List.getElem?_eq_some_iff.1 h).1, h]

theorem Fetched.within {source : Source} {s s' : Lexer} (h : Fetched s s') (hs : s.Within source) :
    s'.Within source := by
  rw [Within, h.remaining]
  exact hs

end Lexer

namespace Lex

/-- A step that goes on reading the text that the lexer was given, and stops only with a fault that
can be found in it. -/
abbrev Reads (source : Source) {α : Type} (m : Lex α) : Prop :=
  ⦃fun s => ⌜s.Within source⌝⦄ m
    ⦃post⟨fun _ s => ⌜s.Within source⌝, fun fault _ => ⌜source.Allows fault⌝⟩⦄

/-- A step that looks ahead from a state. -/
abbrev Looks (s : Lexer) {α : Type} (m : Lex α) : Prop :=
  ⦃fun s' => ⌜s.Fetched s'⌝⦄ m
    ⦃post⟨fun _ s' => ⌜Lexer.Fetched s s'⌝, fun fault _ => ⌜fault.isHandled⌝⟩⦄

/-- A step that only stops. -/
abbrev Stops {α : Type} (m : Lex α) : Prop :=
  ⦃⌜True⌝⦄ m ⦃post⟨fun _ _ => ⌜False⌝, fun fault _ => ⌜fault.isHandled⌝⟩⦄

variable {source : Source} {α : Type}

theorem Reads.of_within {m : Lex α} {P : Lexer → Prop} (h : Reads source m)
    (hP : ∀ s, P s → s.Within source) :
    ⦃fun s => ⌜P s⌝⦄ m
      ⦃post⟨fun _ s => ⌜s.Within source⌝, fun fault _ => ⌜source.Allows fault⌝⟩⦄ :=
  triple_iff.2 fun s hs => triple_iff.1 h s (hP s hs)

theorem Reads.of_looks {m : Lex α} (h : ∀ s, Looks s m) : Reads source m := by
  refine triple_iff.2 fun s hs => ?_
  have hrun := triple_iff.1 (h s) s (.refl s)
  split at hrun
  · exact hrun.within hs
  · exact .inl hrun

theorem Reads.of_stops {m : Lex α} (h : Stops m) : Reads source m := by
  mvcgen [h]
  case vc1 => exact False.elim
  case vc2 => exact .inl

theorem isHandled_of_checkAllowed {position : Nat} {t : Text} {fault : Fault}
    (h : checkAllowed position t = .error fault) : fault.isHandled := by
  unfold checkAllowed at h
  split at h
  · injection h with h
    subst h
    rfl
  · cases h

theorem looks_fetchPiece (s : Lexer) : Looks s fetchPiece := by
  mvcgen [fetchPiece]
  case vc1 h _ _ _ _ hlater _ =>
    exact h.trans ⟨by simp [Lexer.remaining, hlater], List.prefix_append _ _⟩
  case vc2 hchecked => exact isHandled_of_checkAllowed hchecked

theorem looks_fetchUpTo (pieces count : Nat) (s : Lexer) : Looks s (fetchUpTo pieces count) := by
  induction pieces with
  | zero => mvcgen [fetchUpTo]
  | succ pieces ih =>
    have hpiece := looks_fetchPiece s
    mvcgen [fetchUpTo, hpiece, ih]

/-! ### The functions of the lexer that look ahead -/

theorem looks_need (count : Nat) (s : Lexer) : Looks s (need count) := by
  have hfetch := fun pieces => looks_fetchUpTo pieces count s
  mvcgen [need, hfetch]

theorem looks_ahead (count : Nat) (s : Lexer) : Looks s (ahead count) := by
  have hneed := looks_need count s
  mvcgen [ahead, hneed]

theorem peek_spec (k : Nat) (s : Lexer) :
    ⦃fun s' => ⌜s.Fetched s'⌝⦄ peek k
      ⦃post⟨fun c s' => ⌜s.Fetched s' ∧ (c ≠ stop → s'.rest[k]? = some c)⌝,
        fun fault _ => ⌜fault.isHandled⌝⟩⦄ := by
  have hneed := looks_need (k + 1) s
  mvcgen [peek, hneed]
  case vc1 h _ hc => exact ⟨h, fun _ => hc⟩
  case vc3 h =>
    refine ⟨h, fun hc => ?_⟩
    cases hrest : (_ : Lexer).rest[k]? with
    | none => simp [hrest] at hc
    | some c => rfl

theorem looks_look (find : Text → Text) (isTooLittle : Text → Bool) (pieces : Nat) (s : Lexer) :
    Looks s (look find isTooLittle pieces) := by
  induction pieces with
  | zero => mvcgen [look]
  | succ pieces ih =>
    have hpiece := looks_fetchPiece s
    mvcgen [look, hpiece, ih]

theorem looks_lookWhile (k : Nat) (p : Char → Bool) (s : Lexer) : Looks s (lookWhile k p) := by
  have hlook := fun find isTooLittle pieces => looks_look find isTooLittle pieces s
  mvcgen [lookWhile, hlook]

@[spec] theorem discard_spec {ε σ : Type} {m : EStateM ε σ α}
    {Q : PostCond PUnit (.except ε (.arg σ .pure))} :
    ⦃wp⟦m⟧ (fun _ => Q.1 ⟨⟩, Q.2)⦄ discard m ⦃Q⦄ := by
  have hdiscard : discard m = (fun _ => ⟨⟩) <$> m := congrFun (congrFun map_const PUnit.unit) m
  rw [hdiscard]
  mvcgen

/-! ### Passing over characters -/

/-- Passing over characters takes the fetched ones from the front of what is left. -/
theorem pass_spec (k : Nat) (s : Lexer) :
    ⦃fun s' => ⌜s' = s⌝⦄ pass k
      ⦃post⟨fun _ s' => ⌜s.rest.take k ++ s'.remaining = s.remaining⌝, fun _ _ => ⌜False⌝⟩⦄ := by
  induction k generalizing s with
  | zero =>
    mvcgen [pass]
    case vc1 h => rw [h, List.take_zero, List.nil_append]
  | succ k ih =>
    mvcgen [pass, ih]
    case vc1 s' h passed _ _ =>
      subst s'
      dsimp only [passed]
      split
      · next hrest => exact fun hk => by simpa [hrest] using hk
      · next c rest hrest =>
        intro hk
        rw [hrest, List.take_succ_cons, List.cons_append, hk, Lexer.remaining, Lexer.remaining,
          hrest, List.cons_append]

/-- What is passed over begins with what was fetched of it. -/
theorem forward_spec (k : Nat) (s : Lexer) :
    ⦃fun s' => ⌜s' = s⌝⦄ forward k
      ⦃post⟨fun _ s' => ⌜s.Passed k s'⌝, fun fault _ => ⌜fault.isHandled⌝⟩⦄ := by
  have hneed := looks_need (k + 1) s
  mvcgen [forward, hneed, pass_spec]
  case vc1 h => exact h ▸ .refl s
  case vc2 h _ _ =>
    intro hpassed
    rw [h.remaining] at hpassed
    obtain ⟨more, hmore⟩ := h.rest
    exact ⟨_, hpassed, hmore ▸ (List.prefix_append _ _).take k, List.length_take_le _ _⟩

/-! ### Problems -/

theorem stops_problem (context : Option (Text × Option Mark)) (what : Text) (mark : Mark) :
    Stops (problem context what mark : Lex α) := by
  mvcgen [problem]

theorem stops_fail (context : Option (Text × Option Mark)) (what : Text) :
    Stops (fail context what : Lex α) := by
  have hproblem mark : Stops (problem context what mark : Lex α) := stops_problem context what mark
  mvcgen [fail, here, hproblem]

theorem stops_unexpected (what : String) (start : Mark) (expected : String) (c : Char) :
    Stops (unexpected what start expected c : Lex α) :=
  stops_fail _ _

/-! ### What every function before the lexer does -/

variable (source)

@[spec] theorem reads_ahead (k : Nat) : Reads source (ahead k) := .of_looks (looks_ahead k)

@[spec] theorem reads_peek (k : Nat) : Reads source (peek k) := by
  refine .of_looks fun s => ?_
  have hpeek := peek_spec k s
  mvcgen [hpeek]
  case vc2 => exact fun hfetched _ => hfetched

@[spec] theorem reads_lookWhile (k : Nat) (p : Char → Bool) : Reads source (lookWhile k p) :=
  .of_looks (looks_lookWhile k p)

@[spec] theorem reads_here : Reads source here := by mvcgen [here]

@[spec] theorem reads_problem (context : Option (Text × Option Mark)) (what : Text) (mark : Mark) :
    Reads source (problem context what mark : Lex α) :=
  .of_stops (stops_problem context what mark)

@[spec] theorem reads_fail (context : Option (Text × Option Mark)) (what : Text) :
    Reads source (fail context what : Lex α) :=
  .of_stops (stops_fail context what)

@[spec] theorem reads_unexpected (what : String) (start : Mark) (expected : String) (c : Char) :
    Reads source (unexpected what start expected c : Lex α) :=
  .of_stops (stops_unexpected what start expected c)

@[spec] theorem reads_forward (k : Nat) : Reads source (forward k) := by
  refine triple_iff.2 fun s hs => ?_
  have hrun := triple_iff.1 (forward_spec k s) s rfl
  split at hrun
  · exact hrun.within hs
  · exact .inl hrun

@[spec] theorem reads_skipWhile (p : Char → Bool) : Reads source (skipWhile p) := by
  mvcgen [skipWhile]

@[spec] theorem reads_lineBreak : Reads source lineBreak := by mvcgen [lineBreak]

@[spec] theorem reads_rounds : Reads source rounds := by mvcgen [rounds]

@[spec] theorem reads_emit (token : Token) (start : Mark) : Reads source (emit token start) := by
  mvcgen [emit]

@[spec] theorem reads_emitChars (token : Token) (k : Nat) : Reads source (emitChars token k) := by
  mvcgen [emitChars]

@[spec] theorem reads_atDocumentMark (mark : Text) : Reads source (atDocumentMark mark) := by
  mvcgen [atDocumentMark]

@[spec] theorem reads_atSeparator : Reads source atSeparator := by mvcgen [atSeparator]

@[spec] theorem reads_missingColon (key : PossibleKey) :
    Reads source (missingColon key : Lex α) := by
  mvcgen [missingColon]

@[spec] theorem reads_dropStaleKeys : Reads source dropStaleKeys := by mvcgen [dropStaleKeys]

@[spec] theorem reads_dropKey : Reads source dropKey := by mvcgen [dropKey]

@[spec] theorem reads_saveKey : Reads source saveKey := by mvcgen [saveKey]

@[spec] theorem reads_unwind_go (column : Int) (k : Nat) : Reads source (unwind.go column k) := by
  induction k with
  | zero => mvcgen [unwind.go]
  | succ k ih =>
    mvcgen [unwind.go, ih]
    case vc2 h closed =>
      dsimp only [closed]
      split <;> exact h

@[spec] theorem reads_unwind (column : Int) : Reads source (unwind column) := by mvcgen [unwind]

@[spec] theorem reads_indentTo (column : Nat) : Reads source (indentTo column) := by
  mvcgen [indentTo]

@[spec] theorem reads_allowKey (allowed : Bool) : Reads source (allowKey allowed) := by
  mvcgen [allowKey]

end Lex

end ScriptRun.Yaml
