import ScriptRun.Text.CaseRanges
import ScriptRun.Text.CharClass

/-!
# Lower case

The form of a text in lower case. Most letters have a single letter as theirs, whatever stands beside
them. The dotted capital i has two characters, and the Greek sigma has a form of its own at the end
of a word.
-/

namespace ScriptRun.Text

/-- The form in lower case of a character that is taken for itself. -/
def lowerChar (c : Char) : Char :=
  if c.toNat < 0x80 then lowerAscii c
  else
    let n := c.toNat
    match lowerRuns.find? fun run => run.1 ≤ n && n ≤ run.2.1 && (n - run.1) % run.2.2.1 = 0 with
    | some run => Char.ofNat ((n : Int) + run.2.2.2).toNat
    | none => c

/-- Characters that are passed over when the neighbours of a letter are asked for their case. -/
def isPassedOver (c : Char) : Bool :=
  if c.toNat < 0x80 then ['\'', '.', ':', '^', '\x60'].contains c
  else inRanges c.toNat passedOverRanges

/-- Characters that have a case and are not passed over. -/
def isCased (c : Char) : Bool :=
  if c.toNat < 0x80 then c.isAlpha else inRanges c.toNat casedRanges

/-- Whether a letter stands at the end of a word. `before` holds the characters before it, the
nearest first, and `after` those after it. -/
def endsWord (before after : Text) : Bool :=
  let meetsCase (t : Text) : Bool := (t.dropWhile isPassedOver).head?.any isCased
  meetsCase before && !meetsCase after

/-- The form in lower case of a text that follows other characters, of which the nearest is first. -/
def lowerAfter (before : Text) : Text → Text
  | [] => []
  | c :: rest =>
    let form : Text :=
      if c = 'Σ' then [if endsWord before rest then 'ς' else 'σ']
      else if c = 'İ' then ['i', '\u0307']
      else [lowerChar c]
    form ++ lowerAfter (c :: before) rest

def lower (t : Text) : Text := lowerAfter [] t

end ScriptRun.Text
