import Mathlib
import ScriptRun.Proofs.Yaml.Fetching
import ScriptRun.Yaml.Lexer

/-!
# Escapes

The only fault before the nodes of a document that no message is made of is an escape for a number
beyond all code points: `\U` and eight digits, the first of which is 8 or more. When a quoted scalar
stops with it, this escape stands in the text: the digits that the lexer looked at follow a letter
that it passed over, and that follows a backslash (`escapeSequence_spec`).
-/

set_option mvcgen.warning false

namespace ScriptRun.Yaml

open Text Std.Do

/-! ### Hexadecimal digits -/

theorem hexValue?_lt {c : Char} {d : Nat} (h : hexValue? c = some d) : d < 16 := by
  unfold hexValue? at h
  split_ifs at h with hdigit hlower hupper
  · have hle : c.toNat ≤ 57 := hdigit.2
    obtain rfl : c.toNat - 0x30 = d := by simpa using h
    omega
  · have hle : c.toNat ≤ 102 := hlower.2
    obtain rfl : c.toNat - 0x61 + 10 = d := by simpa using h
    omega
  · have hle : c.toNat ≤ 70 := hupper.2
    obtain rfl : c.toNat - 0x41 + 10 = d := by simpa using h
    omega

theorem hexNumber_append (digits : Text) (c : Char) :
    hexNumber (digits ++ [c]) = hexNumber digits * 16 + (hexValue? c).getD 0 := by
  rw [hexNumber, List.foldl_append]
  rfl

theorem hexNumber_lt (digits : Text) : hexNumber digits < 16 ^ digits.length := by
  induction digits using List.reverseRecOn with
  | nil => decide
  | append_singleton digits c ih =>
    have hdigit : (hexValue? c).getD 0 < 16 := by
      cases hd : hexValue? c with
      | none => decide
      | some d => exact hexValue?_lt hd
    rw [hexNumber_append, List.length_append, List.length_singleton, Nat.pow_succ]
    omega

/-- Hexadecimal digits that a text begins with, and their value. -/
structure StartsHex (t digits : Text) (value : Nat) : Prop where
  stands : digits <+: t
  isHex : ∀ c ∈ digits, (hexValue? c).isSome
  value : hexNumber digits = value

theorem StartsHex.snoc {t digits : Text} {value d : Nat} {c : Char}
    (h : StartsHex t digits value) (hc : t[digits.length]? = some c) (hd : hexValue? c = some d) :
    StartsHex t (digits ++ [c]) (value * 16 + d) := by
  obtain ⟨⟨rest, rfl⟩, hhex, rfl⟩ := h
  cases rest with
  | nil => simp at hc
  | cons first rest =>
    obtain rfl : first = c := by simpa using hc
    refine ⟨⟨rest, by simp⟩, fun x hx => ?_, by rw [hexNumber_append, hd]; rfl⟩
    rcases List.mem_append.1 hx with hx | hx
    · exact hhex x hx
    · rw [List.mem_singleton.1 hx, hd]
      rfl

/-- Whether a backslash of a text has just been passed over. -/
def Lexer.AfterBackslash (source : Source) (s : Lexer) : Prop :=
  '\\' :: s.remaining <:+ source.text

theorem Lexer.AfterBackslash.within {source : Source} {s : Lexer} (h : s.AfterBackslash source) :
    s.Within source :=
  (List.suffix_cons _ _).trans h

namespace Lex

variable {source : Source}

/-! ### The escapes of a quoted scalar -/

@[spec] theorem reads_hexDigits (what : String) (start : Mark) (expected : String) (k count : Nat) :
    Reads source (hexDigits what start expected k count) := by
  induction count with
  | zero =>
    unfold hexDigits
    mvcgen
  | succ count ih =>
    unfold hexDigits
    mvcgen [ih]

theorem hexDigits_spec (what : String) (start : Mark) (expected : String) (count : Nat)
    (s : Lexer) :
    ⦃fun s' => ⌜s.Fetched s'⌝⦄ hexDigits what start expected 0 count
      ⦃post⟨fun value s' => ⌜s.Fetched s' ∧
          ∃ digits, digits.length = count ∧ StartsHex s.remaining digits value⌝,
        fun fault _ => ⌜fault.isHandled⌝⟩⦄ := by
  induction count with
  | zero =>
    unfold hexDigits
    mvcgen
    case vc1 h => exact ⟨h, [], rfl, List.nil_prefix, by simp, rfl⟩
  | succ count ih =>
    have hpeek := peek_spec (0 + count) s
    have hstops c : Stops (unexpected what start expected c : Lex Nat) :=
      stops_unexpected what start expected c
    unfold hexDigits
    mvcgen [ih, hpeek, hstops, -reads_peek, -reads_hexDigits, -reads_unexpected]
    case vc2 h => exact h.1
    case vc3 h c _ hd _ hc =>
      obtain ⟨-, digits, rfl, hdigits⟩ := h
      obtain ⟨hfetched, hstands⟩ := hc
      have hstop : c ≠ stop := by
        rintro rfl
        simp [stop, hexValue?] at hd
      have hremaining := Lexer.getElem?_remaining (hstands hstop)
      rw [hfetched.remaining, Nat.zero_add] at hremaining
      exact ⟨hfetched, _, by simp, hdigits.snoc hremaining hd⟩
    case vc4 => exact False.elim

theorem codePoint_spec (code : Nat) (s : Lexer) :
    ⦃fun s' => ⌜s' = s⌝⦄ codePoint code
      ⦃post⟨fun _ s' => ⌜s' = s⌝, fun fault _ =>
        ⌜fault.isHandled ∨ (∃ message, fault = .tooLarge message) ∧ 0x7fffffff < code⌝⟩⦄ := by
  unfold codePoint
  mvcgen
  case vc1 hcode _ _ => exact .inr ⟨⟨_, rfl⟩, hcode⟩
  case vc2 => exact .inl rfl

theorem count_of_large {c : Char} {count : Nat} {digits : Text}
    (hcount : escapeDigits? c = some count) (hlength : digits.length = count)
    (hlarge : 0x7fffffff < hexNumber digits) : c = 'U' ∧ count = 8 := by
  have hlt := hexNumber_lt digits
  unfold escapeDigits? at hcount
  split at hcount
  · obtain rfl : count = 2 := by simpa using hcount.symm
    rw [hlength] at hlt
    omega
  · obtain rfl : count = 4 := by simpa using hcount.symm
    rw [hlength] at hlt
    omega
  · exact ⟨rfl, by simpa using hcount.symm⟩
  · cases hcount

theorem hasLargeEscape {s s' s'' : Lexer} {c : Char} {count value : Nat} {digits : Text}
    (hs : s.AfterBackslash source) (hc : s.Fetched s' ∧ (c ≠ stop → s'.rest[0]? = some c))
    (hcount : escapeDigits? c = some count)
    (hpassed : s'.Passed 1 s'') (hlength : digits.length = count)
    (hdigits : StartsHex s''.remaining digits value)
    (hlarge : 0x7fffffff < value) : HasLargeEscape source.text := by
  obtain ⟨⟨rest, hrest⟩, hhex, rfl⟩ := hdigits
  obtain ⟨rfl, rfl⟩ := count_of_large hcount hlength hlarge
  have hremaining := hpassed.one (hc.2 (by decide))
  rw [hc.1.remaining, ← hrest] at hremaining
  rw [Lexer.AfterBackslash, hremaining] at hs
  refine ⟨digits, ?_, hlength, hhex, hlarge⟩
  exact List.IsInfix.trans ⟨[], rest, by simp⟩ hs.isInfix

@[spec] theorem reads_quotedBreaks (start : Mark) (k : Nat) :
    Reads source (quotedBreaks start k) := by
  induction k with
  | zero =>
    unfold quotedBreaks
    mvcgen
  | succ k ih =>
    unfold quotedBreaks
    mvcgen [ih]

theorem escapeSequence_spec (start : Mark) :
    ⦃fun s => ⌜s.AfterBackslash source⌝⦄ escapeSequence start
      ⦃post⟨fun _ s => ⌜s.Within source⌝, fun fault _ => ⌜source.Allows fault⌝⟩⦄ := by
  unfold escapeSequence
  mvcgen [peek_spec, forward_spec, hexDigits_spec, codePoint_spec, -reads_peek, -reads_forward,
    -reads_hexDigits]
  case vc1 | vc4 => exact .refl _
  case vc2 h _ _ _ _ _ _ hpeek _ _ hpassed => exact hpassed.within (hpeek.1.within h.within)
  case vc3 | vc6 | vc8 | vc9 | vc14 => exact .inl
  case vc5 h _ _ _ _ _ hpeek _ _ hpassed _ _ hdigits _ _ hsame _ _ hpassed' =>
    have hwithin := hpassed.within (hpeek.1.within h.within)
    exact hpassed'.within (hsame ▸ hdigits.1.within hwithin)
  case vc7 h _ _ hcount _ _ hpeek _ _ hpassed _ _ hdigits _ _ =>
    obtain ⟨-, digits, hlength, hdigits⟩ := hdigits
    rintro (hfault | ⟨hfault, hlarge⟩)
    · exact .inl hfault
    · exact .inr ⟨hfault, hasLargeEscape h hpeek hcount hpassed hlength hdigits hlarge⟩
  case vc10 h _ _ _ _ _ hpeek | vc13 h _ _ _ _ _ hpeek => exact hpeek.1.within h.within

theorem peek_within_spec :
    ⦃fun s => ⌜s.Within source⌝⦄ peek
      ⦃post⟨fun c s => ⌜s.Within source ∧ (c ≠ stop → s.rest[0]? = some c)⌝,
        fun fault _ => ⌜source.Allows fault⌝⟩⦄ := by
  refine triple_iff.2 fun s hs => ?_
  have hrun := triple_iff.1 (peek_spec 0 s) s (.refl s)
  split at hrun
  · exact ⟨hrun.1.within hs, hrun.2⟩
  · exact .inl hrun

theorem forward_backslash_spec :
    ⦃fun s => ⌜s.Within source ∧ ('\\' ≠ stop → s.rest[0]? = some '\\')⌝⦄ forward 1
      ⦃post⟨fun _ s => ⌜s.AfterBackslash source⌝, fun fault _ => ⌜source.Allows fault⌝⟩⦄ := by
  refine triple_iff.2 fun s ⟨hs, hc⟩ => ?_
  have hrun := triple_iff.1 (forward_spec 1 s) s rfl
  split at hrun
  · rw [Lexer.AfterBackslash, ← hrun.one (hc (by decide))]
    exact hs
  · exact .inl hrun

@[spec] theorem reads_quotedSpaces (start : Mark) : Reads source (quotedSpaces start) := by
  unfold quotedSpaces
  mvcgen

@[spec] theorem reads_quotedRest (double : Bool) (start : Mark) (k : Nat) :
    Reads source (quotedRest double start k) := by
  induction k with
  | zero =>
    unfold quotedRest
    mvcgen
  | succ k ih =>
    unfold quotedRest
    refine Triple.bind _ _ (reads_skipWhile source _) fun run => ?_
    refine Triple.bind _ _ peek_within_spec fun c => ?_
    by_cases hc : double = true ∧ c = '\\'
    · obtain ⟨rfl, rfl⟩ := hc
      mvcgen [forward_backslash_spec, escapeSequence_spec, -reads_forward, ih]
    · refine Reads.of_within ?_ fun s hs => hs.1
      mvcgen [escapeSequence_spec, ih]
      -- No backslash of a double-quoted scalar stands here, so this is not the place of an escape.
      case vc6 hback _ _ _ _ _ => exact absurd (by simpa using hback) hc
      case vc16 hback _ _ _ => exact absurd (by simpa using hback) hc

@[spec] theorem reads_quotedScalar (double : Bool) : Reads source (quotedScalar double) := by
  unfold quotedScalar
  mvcgen

end Lex

end ScriptRun.Yaml
