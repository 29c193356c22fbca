import ScriptRun.Yaml.Timestamp

/-!
# What a plain scalar means

A plain scalar without a tag is a truth value, a float, an integer, the merge key, null, a timestamp,
the value key or an indicator if it has the form of one, tried in this order, and otherwise a text.
The forms are those of YAML 1.1: `yes` and `off` are truth values, `0x1f`, `017` and `1:30` are
integers, and a float has a point. Other scalars are taken in the same way if they are marked with
the tag `!`, so the form may be followed by a line feed.
-/

namespace ScriptRun.Yaml

open Text

/-- The prefix of the tags that the language defines. -/
def tagBase : Text := "tag:yaml.org,2002:".toList

/-- A tag that the language defines. -/
def stdTag (name : String) : Text := tagBase ++ name.toList

namespace Scalar

/-- The text after a sign, if it has one. -/
def unsigned (t : Text) : Text := (Decimal.splitSign t).2

def isDigitOrLine (c : Char) : Bool := c.isDigit || c = '_'

/-- Whether a text is an exponent with its sign, or empty. -/
def isExponent : Text → Bool
  | [] => true
  | e :: sign :: digits =>
    (e = 'e' || e = 'E') && (sign = '-' || sign = '+') && !digits.isEmpty && digits.all Char.isDigit
  | _ => false

/-- Whether a text is one or two digits below sixty. -/
def isSixtieth (t : Text) : Bool :=
  match t with
  | [a] => a.isDigit
  | [a, b] => '0' ≤ a && a ≤ '5' && b.isDigit
  | _ => false

/-- Whether a text begins with a digit and goes on with digits and underscores. -/
def isNumeral (t : Text) : Bool :=
  match t with
  | c :: rest => c.isDigit && rest.all isDigitOrLine
  | [] => false

def truthWords : List (String × Bool) :=
  [("yes", true), ("no", false), ("true", true), ("false", false), ("on", true), ("off", false)]

/-- Whether a text is a word in lower case, capitalised, or in upper case. -/
def isWordForm (word : String) (t : Text) : Bool :=
  let lower := word.toList
  let upper := lower.map Char.toUpper
  t = lower || t = upper || t = upper.take 1 ++ lower.drop 1

def isTruth (t : Text) : Bool := truthWords.any fun w => isWordForm w.1 t

def isFloat (t : Text) : Bool :=
  let u := unsigned t
  let signed := u.length != t.length
  let isInf := match u with
    | '.' :: word => isWordForm "inf" word
    | _ => false
  let isNan := !signed && (t = ".nan".toList || t = ".NaN".toList || t = ".NAN".toList)
  let whole := u.takeWhile isDigitOrLine
  let positional := match u.drop whole.length with
    | '.' :: rest =>
      if whole.isEmpty then
        !signed && (rest.head?.any Char.isDigit) && isExponent (rest.dropWhile isDigitOrLine)
      else isNumeral whole && isExponent (rest.dropWhile isDigitOrLine)
    | _ => false
  let parts := splitAt ':' u
  let sexagesimal := match parts with
    | first :: (_ :: _) =>
      let last := parts.getLast?.getD []
      let middle := (parts.drop 1).dropLast
      let seconds := last.takeWhile (· ≠ '.')
      isNumeral first && middle.all isSixtieth && isSixtieth seconds &&
        (last.drop seconds.length).head? = some '.' &&
        (last.drop (seconds.length + 1)).all isDigitOrLine
    | _ => false
  isInf || isNan || positional || sexagesimal

def isInt (t : Text) : Bool :=
  let u := unsigned t
  let based (base : Char) (isDigit : Char → Bool) : Bool :=
    match u with
    | '0' :: b :: digits => b = base && !digits.isEmpty && digits.all fun c => isDigit c || c = '_'
    | _ => false
  let octal := match u with
    | '0' :: digits => !digits.isEmpty && digits.all fun c => ('0' ≤ c && c ≤ '7') || c = '_'
    | _ => false
  let positive (t : Text) : Bool := isNumeral t && t.head? != some '0'
  let sexagesimal := match splitAt ':' u with
    | first :: (next :: more) => positive first && (next :: more).all isSixtieth
    | _ => false
  let isHex (c : Char) : Bool := c.isDigit || ('a' ≤ c && c ≤ 'f') || ('A' ≤ c && c ≤ 'F')
  based 'b' (fun c => c = '0' || c = '1') || octal || u = ['0'] || positive u ||
    based 'x' isHex || sexagesimal

def isNull (t : Text) : Bool := t.isEmpty || t = ['~'] || isWordForm "null" t

/-- The tag of a text that ends no line. -/
def tagOf (t : Text) : Text :=
  if isTruth t then stdTag "bool"
  else if isFloat t then stdTag "float"
  else if isInt t then stdTag "int"
  else if t = ['<', '<'] then stdTag "merge"
  else if isNull t then stdTag "null"
  else if Timestamp.isPlain t then stdTag "timestamp"
  else if t = ['='] then stdTag "value"
  else if t = ['!'] || t = ['&'] || t = ['*'] then stdTag "yaml"
  else stdTag "str"

def withoutLineFeed (t : Text) : Text := if t.getLast? = some '\n' then t.dropLast else t

/-- The tag of a plain scalar without one. A line feed at the end does not count, but alone it is a
text. -/
def plainTag (t : Text) : Text := if t = ['\n'] then stdTag "str" else tagOf (withoutLineFeed t)

end Scalar

end ScriptRun.Yaml
