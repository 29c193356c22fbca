import ScriptRun.Decimal.Reading
import ScriptRun.Json.Value
import ScriptRun.Text.Hex

/-!
# Reading values

The grammar of the data format with the words for infinity and not-a-number, a limit on the digits
of an integer, and no control characters inside a text. A later field of the same name replaces the
value of an earlier one. An escaped surrogate without its partner is read as the replacement
character.

Reading a list or an object recurses on a measure that the length of the input bounds, since every
nested value takes at least one character.
-/

namespace ScriptRun.Json

open Text

def isSpace (c : Char) : Bool := c = ' ' || c = '\t' || c = '\n' || c = '\r'

def skipSpace (t : Text) : Text := t.dropWhile isSpace

/-- Four hexadecimal digits. -/
def unit? : Text → Option (Nat × Text)
  | a :: b :: c :: d :: rest => do
    let a ← hexValue? a
    let b ← hexValue? b
    let c ← hexValue? c
    let d ← hexValue? d
    some (((a * 16 + b) * 16 + c) * 16 + d, rest)
  | _ => none

/-- Code units from U+D800 on that begin a pair. -/
def isHigh (n : Nat) : Bool := 0xd800 ≤ n && n ≤ 0xdbff

/-- Code units that end a pair. -/
def isLow (n : Nat) : Bool := 0xdc00 ≤ n && n ≤ 0xdfff

/-- The character of an escape after `\u`, with the rest. -/
def escapedUnit? (t : Text) : Option (Char × Text) := do
  let (n, rest) ← unit? t
  if isHigh n then
    match rest with
    | '\\' :: 'u' :: more =>
      match unit? more with
      | some (low, after) =>
        if isLow low then some (Char.ofNat (0x10000 + (n - 0xd800) * 0x400 + (low - 0xdc00)), after)
        else some ('\ufffd', rest)
      | none => some ('\ufffd', rest)
    | _ => some ('\ufffd', rest)
  else if isLow n then some ('\ufffd', rest)
  else some (Char.ofNat n, rest)

def simpleEscape? (c : Char) : Option Char :=
  match c with
  | '"' => some '"'
  | '\\' => some '\\'
  | '/' => some '/'
  | 'b' => some '\x08'
  | 'f' => some '\x0c'
  | 'n' => some '\n'
  | 'r' => some '\r'
  | 't' => some '\t'
  | _ => none

/-- The rest of a text value after its opening quote. The fuel is at least the length of the
input. -/
def readStr? : Nat → Text → Option (Text × Text)
  | 0, _ => none
  | _ + 1, [] => none
  | _ + 1, '"' :: rest => some ([], rest)
  | fuel + 1, '\\' :: 'u' :: rest => do
    let (c, rest) ← escapedUnit? rest
    let (t, rest) ← readStr? fuel rest
    some (c :: t, rest)
  | fuel + 1, '\\' :: c :: rest => do
    let c ← simpleEscape? c
    let (t, rest) ← readStr? fuel rest
    some (c :: t, rest)
  | fuel + 1, c :: rest =>
    if c.toNat < 0x20 || c = '\\' then none
    else do
      let (t, rest) ← readStr? fuel rest
      some (c :: t, rest)

/-- The digits of the fraction after a point, if there are any. -/
def fraction? : Text → Option (Text × Text)
  | '.' :: rest =>
    let digits := rest.takeWhile Decimal.isPlainDigit
    if digits.isEmpty then none else some (digits, rest.dropWhile Decimal.isPlainDigit)
  | _ => none

/-- The exponent after an `e`, if it has digits. -/
def exponent? : Text → Option (Int × Text)
  | c :: rest =>
    if c = 'e' ∨ c = 'E' then
      let (negative, rest) := Decimal.splitSign rest
      let digits := rest.takeWhile Decimal.isPlainDigit
      if digits.isEmpty then none
      else
        let n : Int := Decimal.plainValue digits
        some (if negative then -n else n, rest.dropWhile Decimal.isPlainDigit)
    else none
  | [] => none

/-- An unsigned number: a zero, or digits that begin with none. With a fraction or an exponent it
is a float. -/
def readNumber? (negative : Bool) (t : Text) : Option (Json × Text) :=
  let whole := match t with
    | '0' :: _ => ['0']
    | _ => t.takeWhile Decimal.isPlainDigit
  let rest := t.drop whole.length
  if whole.isEmpty then none
  else
    match fraction? rest, exponent? rest with
    | some (digits, rest), _ =>
      let shift : Int := digits.length
      match exponent? rest with
      | some (e, rest) => some (.float (Decimal.ofScientific negative (whole ++ digits) (e - shift)), rest)
      | none => some (.float (Decimal.ofScientific negative (whole ++ digits) (-shift)), rest)
    | none, some (e, rest) => some (.float (Decimal.ofScientific negative whole e), rest)
    | none, none =>
      if Decimal.digitLimit < whole.length then none
      else
        let n : Int := Decimal.plainValue whole
        some (.int (if negative then -n else n), rest)

def words : List (String × Json) :=
  [("null", .null), ("true", .bool true), ("false", .bool false),
    ("NaN", .float Decimal.Parts.nan.toFloat),
    ("Infinity", .float (Decimal.Parts.infinite false).toFloat),
    ("-Infinity", .float (Decimal.Parts.infinite true).toFloat)]

def readAtom? (t : Text) : Option (Json × Text) :=
  match words.findSome? fun w => (dropLead? w.1.toList t).map (w.2, ·) with
  | some found => some found
  | none =>
    match t with
    | '-' :: rest => readNumber? true rest
    | _ => readNumber? false t

mutual

/-- A value at the beginning of a text without leading white space. -/
def readValue? : Nat → Text → Option (Json × Text)
  | 0, _ => none
  | fuel + 1, t =>
    match t with
    | '"' :: rest => (readStr? (rest.length + 1) rest).map fun (s, rest) => (.str s, rest)
    | '[' :: rest =>
      match skipSpace rest with
      | ']' :: rest => some (.arr [], rest)
      | rest => (readItems? fuel rest).map fun (items, rest) => (.arr items, rest)
    | '\x7b' :: rest =>
      match skipSpace rest with
      | '\x7d' :: rest => some (.obj [], rest)
      | rest => (readFields? fuel rest).map fun (fields, rest) => (ofFields fields, rest)
    | _ => readAtom? t

/-- The items of a list up to its closing bracket. -/
def readItems? : Nat → Text → Option (List Json × Text)
  | 0, _ => none
  | fuel + 1, t => do
    let (item, rest) ← readValue? fuel t
    match skipSpace rest with
    | ',' :: rest =>
      let (items, rest) ← readItems? fuel (skipSpace rest)
      some (item :: items, rest)
    | ']' :: rest => some ([item], rest)
    | _ => none

/-- The fields of an object up to its closing brace. -/
def readFields? : Nat → Text → Option (List (Text × Json) × Text)
  | 0, _ => none
  | fuel + 1, t =>
    match t with
    | '"' :: rest => do
      let (name, rest) ← readStr? (rest.length + 1) rest
      match skipSpace rest with
      | ':' :: rest =>
        let (value, rest) ← readValue? fuel (skipSpace rest)
        match skipSpace rest with
        | ',' :: rest =>
          let (fields, rest) ← readFields? fuel (skipSpace rest)
          some ((name, value) :: fields, rest)
        | '\x7d' :: rest => some ([(name, value)], rest)
        | _ => none
      | _ => none
    | _ => none

end

/-- The value that a text holds, if it holds one and nothing else. -/
def read? (t : Text) : Option Json := do
  let t := skipSpace t
  let (value, rest) ← readValue? (t.length + 1) t
  if (skipSpace rest).isEmpty then some value else none

end ScriptRun.Json
