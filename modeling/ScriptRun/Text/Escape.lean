import ScriptRun.Text.Basic

/-!
# Terminal escape sequences

An escape sequence is the escape character followed by one character of `@` to `Z`, `\` to `_`, or
by a bracket, any number of parameter characters `0` to `?`, any number of intermediate characters
from the space to `/`, and one final character `@` to `~`. Removing them looks at each character
once; what is left is not looked at again.
-/

namespace ScriptRun.Text

def escape : Char := '\x1b'

/-- Parameter characters of a bracketed sequence. -/
def isParameter (c : Char) : Bool := 0x30 ≤ c.toNat && c.toNat ≤ 0x3f

/-- Intermediate characters of a bracketed sequence. -/
def isIntermediate (c : Char) : Bool := 0x20 ≤ c.toNat && c.toNat ≤ 0x2f

/-- Final characters of a bracketed sequence. -/
def isFinal (c : Char) : Bool := 0x40 ≤ c.toNat && c.toNat ≤ 0x7e

/-- Characters that make a sequence of two together with the escape character. -/
def isSingle (c : Char) : Bool :=
  (0x40 ≤ c.toNat && c.toNat ≤ 0x5a) || (0x5c ≤ c.toNat && c.toNat ≤ 0x5f)

/-- The number of characters that belong to an escape sequence after its escape character, if the
text there completes one. -/
def sequenceLength? : Text → Option Nat
  | [] => none
  | c :: rest =>
    if isSingle c then some 1
    else if c = '[' then
      let parameters := rest.takeWhile isParameter
      let afterParameters := rest.dropWhile isParameter
      let intermediates := afterParameters.takeWhile isIntermediate
      match afterParameters.dropWhile isIntermediate with
      | final :: _ =>
        if isFinal final then some (1 + parameters.length + intermediates.length + 1) else none
      | [] => none
    else none

/-- Removes the escape sequences after passing over the first `skip` characters, which belong to a
sequence already recognised. -/
def stripFrom : Nat → Text → Text
  | _, [] => []
  | skip + 1, _ :: rest => stripFrom skip rest
  | 0, c :: rest =>
    if c = escape then
      match sequenceLength? rest with
      | some n => stripFrom n rest
      | none => c :: stripFrom 0 rest
    else c :: stripFrom 0 rest

/-- The text without its terminal escape sequences. -/
def stripEscapes (t : Text) : Text := stripFrom 0 t

theorem stripFrom_eq_drop (n : Nat) (t : Text) : stripFrom n t = stripFrom 0 (t.drop n) := by
  induction n generalizing t with
  | zero => rfl
  | succ n ih =>
    cases t with
    | nil => simp [stripFrom]
    | cons c rest => simp [stripFrom, ih]

/-- A text without the escape character is left alone. -/
theorem stripEscapes_of_not_mem {t : Text} (h : escape ∉ t) : stripEscapes t = t := by
  induction t with
  | nil => rfl
  | cons c rest ih =>
    have hc : c ≠ escape := fun e => h (by simp [e])
    have hr : escape ∉ rest := fun m => h (by simp [m])
    have := ih hr
    simp only [stripEscapes] at this ⊢
    simp [stripFrom, hc, this]

end ScriptRun.Text
