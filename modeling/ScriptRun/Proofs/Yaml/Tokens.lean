import Mathlib
import ScriptRun.Proofs.Yaml.Escapes

/-!
# What can be wrong with the tokens of a document

Every function of the lexer goes on reading the text that it was given. What it stops with is a
fault that a message is made of, or a large escape that stands in the text (`reads_peekToken`,
`reads_nextToken`).
-/

set_option mvcgen.warning false

namespace ScriptRun.Yaml

open Text Std.Do

namespace Lex

variable (source : Source)

/-! ### Blank space, directives, anchors and tags -/

@[spec] theorem reads_skipComment : Reads source skipComment := by
  unfold skipComment
  mvcgen

@[spec] theorem reads_skipBlank (k : Nat) : Reads source (skipBlank k) := by
  induction k with
  | zero =>
    unfold skipBlank
    mvcgen
  | succ k ih =>
    unfold skipBlank
    mvcgen [ih]

@[spec] theorem reads_versionNumber (start : Mark) : Reads source (versionNumber start) := by
  unfold versionNumber
  mvcgen
  all_goals exact .inl rfl

@[spec] theorem reads_tagHandle (what : String) (start : Mark) :
    Reads source (tagHandle what start) := by
  unfold tagHandle
  mvcgen

@[spec] theorem reads_uriBytes (what : String) (start : Mark) (k : Nat) :
    Reads source (uriBytes what start k) := by
  induction k with
  | zero =>
    unfold uriBytes
    mvcgen
  | succ k ih =>
    unfold uriBytes
    mvcgen [ih]

@[spec] theorem reads_uriChars (what : String) (start : Mark) (k : Nat) :
    Reads source (uriChars what start k) := by
  induction k with
  | zero =>
    unfold uriChars
    mvcgen
  | succ k ih =>
    unfold uriChars
    mvcgen [ih]

@[spec] theorem reads_uri (name : String) (start : Mark) : Reads source (uri name start) := by
  unfold uri
  mvcgen

@[spec] theorem reads_directive : Reads source directive := by
  unfold directive
  -- So many states are passed here that a search for contradictions among them is slow.
  mvcgen -trivial
  all_goals assumption

@[spec] theorem reads_anchorOrAlias (isAlias : Bool) : Reads source (anchorOrAlias isAlias) := by
  unfold anchorOrAlias
  mvcgen

@[spec] theorem reads_tag : Reads source tag := by
  unfold tag
  mvcgen

/-! ### Block scalars and plain scalars -/

@[spec] theorem reads_skipSpaces (k : Nat) : Reads source (skipSpaces k) := by
  induction k with
  | zero =>
    unfold skipSpaces
    mvcgen
  | succ k ih =>
    unfold skipSpaces
    mvcgen [ih]

@[spec] theorem reads_blockBreaks (indent k : Nat) : Reads source (blockBreaks indent k) := by
  induction k with
  | zero =>
    unfold blockBreaks
    mvcgen
  | succ k ih =>
    unfold blockBreaks
    mvcgen [ih]

@[spec] theorem reads_blockIndentation (k widest : Nat) :
    Reads source (blockIndentation k widest) := by
  induction k generalizing widest with
  | zero =>
    unfold blockIndentation
    mvcgen
  | succ k ih =>
    unfold blockIndentation
    mvcgen [ih]

@[spec] theorem reads_blockLines (folded : Bool) (indent k : Nat) (breaks : Text) :
    Reads source (blockLines folded indent k breaks) := by
  induction k generalizing breaks with
  | zero =>
    unfold blockLines
    mvcgen
  | succ k ih =>
    unfold blockLines
    mvcgen [ih]

@[spec] theorem reads_increment? (start : Mark) : Reads source (increment? start) := by
  unfold increment?
  mvcgen

@[spec] theorem reads_chomping? : Reads source chomping? := by
  unfold chomping?
  mvcgen

@[spec] theorem reads_blockScalar (folded : Bool) : Reads source (blockScalar folded) := by
  unfold blockScalar
  mvcgen -trivial
  all_goals assumption

@[spec] theorem reads_plainBreaks (k : Nat) : Reads source (plainBreaks k) := by
  induction k with
  | zero =>
    unfold plainBreaks
    mvcgen
  | succ k ih =>
    unfold plainBreaks
    mvcgen [ih]

@[spec] theorem reads_plainSpaces : Reads source plainSpaces := by
  unfold plainSpaces
  mvcgen

@[spec] theorem reads_lookPlain (inFlow : Bool) : Reads source (lookPlain inFlow) := by
  refine .of_looks fun s => ?_
  have hlook := fun find isTooLittle pieces => looks_look find isTooLittle pieces s
  unfold lookPlain
  mvcgen [hlook]

@[spec] theorem reads_plainRest (indent : Int) (k : Nat) (blanks : Text) :
    Reads source (plainRest indent k blanks) := by
  induction k generalizing blanks with
  | zero =>
    unfold plainRest
    mvcgen
  | succ k ih =>
    unfold plainRest
    mvcgen [ih]

@[spec] theorem reads_plainScalar : Reads source plainScalar := by
  unfold plainScalar
  mvcgen

/-! ### Tokens -/

@[spec] theorem reads_fetchEnd : Reads source fetchEnd := by
  unfold fetchEnd
  mvcgen

@[spec] theorem reads_fetchDocumentMark (token : Token) :
    Reads source (fetchDocumentMark token) := by
  unfold fetchDocumentMark
  mvcgen

@[spec] theorem reads_fetchFlowStart (token : Token) : Reads source (fetchFlowStart token) := by
  unfold fetchFlowStart
  mvcgen

@[spec] theorem reads_fetchFlowEnd (token : Token) : Reads source (fetchFlowEnd token) := by
  unfold fetchFlowEnd
  mvcgen

@[spec] theorem reads_openBlock (token : Token) : Reads source (openBlock token) := by
  unfold openBlock
  mvcgen

@[spec] theorem reads_fetchBlockEntry : Reads source fetchBlockEntry := by
  unfold fetchBlockEntry
  mvcgen

@[spec] theorem reads_fetchKey : Reads source fetchKey := by
  unfold fetchKey
  mvcgen

@[spec] theorem reads_insertAt (number : Nat) (tokens : List Placed) :
    Reads source (insertAt number tokens) := by
  unfold insertAt
  mvcgen

@[spec] theorem reads_fetchValue : Reads source fetchValue := by
  unfold fetchValue
  mvcgen

@[spec] theorem reads_fetchSimple {read : Lex Unit} (h : Reads source read) :
    Reads source (fetchSimple read) := by
  unfold fetchSimple
  mvcgen [h]

@[spec] theorem reads_atPlain (c : Char) : Reads source (atPlain c) := by
  unfold atPlain
  mvcgen

@[spec] theorem reads_atIndicator (c : Char) : Reads source (atIndicator c) := by
  unfold atIndicator
  mvcgen

@[spec] theorem reads_fetch : Reads source fetch := by
  unfold fetch
  mvcgen

@[spec] theorem reads_isSettled : Reads source isSettled := by
  unfold isSettled
  mvcgen

@[spec] theorem reads_settle (k : Nat) : Reads source (settle k) := by
  induction k with
  | zero =>
    unfold settle
    mvcgen
  | succ k ih =>
    unfold settle
    mvcgen [ih]

@[spec] theorem reads_peekToken : Reads source peekToken := by
  unfold peekToken
  mvcgen

@[spec] theorem reads_nextToken : Reads source nextToken := by
  unfold nextToken
  mvcgen

end Lex

end ScriptRun.Yaml
