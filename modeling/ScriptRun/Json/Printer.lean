import ScriptRun.Decimal.Layout
import ScriptRun.Json.Value
import ScriptRun.Text.Quoted

/-!
# Writing values

A style says whether the fields of an object are written in the order of their names, whether
characters beyond ASCII are escaped, and whether nested values stand on lines of their own. In every
style a control character inside a text is escaped, so a value written on one line holds no line
feed and no carriage return.
-/

namespace ScriptRun.Json

structure Style where
  sortsFields : Bool
  asciiOnly : Bool
  indent : Option Nat

/-- One line, characters as they are, fields by name: a record of an event file. -/
def Style.record : Style := ⟨true, false, none⟩

/-- One line in ASCII, fields as they come: a command to the tool. -/
def Style.command : Style := ⟨false, true, none⟩

/-- Indented by two, fields by name: a report of the command line. -/
def Style.report : Style := ⟨true, false, some 2⟩

def unitEscape (n : Nat) : Text := '\\' :: 'u' :: Text.hex 4 n

/-- A character beyond ASCII as one escape, or as two for its surrogate pair. -/
def wideEscape (c : Char) : Text :=
  let n := c.toNat
  if n < 0x10000 then unitEscape n
  else unitEscape (0xd800 + (n - 0x10000) / 0x400) ++ unitEscape (0xdc00 + (n - 0x10000) % 0x400)

def charText (asciiOnly : Bool) (c : Char) : Text :=
  if c = '"' then ['\\', '"']
  else if c = '\\' then ['\\', '\\']
  else if c = '\n' then ['\\', 'n']
  else if c = '\r' then ['\\', 'r']
  else if c = '\t' then ['\\', 't']
  else if c.toNat = 0x0c then ['\\', 'f']
  else if c.toNat = 0x08 then ['\\', 'b']
  else if c.toNat < 0x20 then unitEscape c.toNat
  else if asciiOnly && 0x7f ≤ c.toNat then wideEscape c
  else [c]

def strText (asciiOnly : Bool) (t : Text) : Text := '"' :: t.flatMap (charText asciiOnly) ++ ['"']

def floatText (x : Float) : Text :=
  if x.isNaN then "NaN".toList
  else if x.isInf then (if x < 0 then "-Infinity" else "Infinity").toList
  else Decimal.exactText x

/-- Whether a field name comes before another or is equal to it, by code points. -/
def nameLe (a b : Text) : Bool := !decide (b < a)

def lineBreak (indent : Option Nat) (depth : Nat) : Text :=
  match indent with
  | some width => '\n' :: List.replicate (width * depth) ' '
  | none => []

def between (indent : Option Nat) (depth : Nat) : Text :=
  if indent.isSome then ',' :: lineBreak indent depth else [',', ' ']

/-- The items in brackets, on lines of their own if the style indents. -/
def enclosed (indent : Option Nat) (depth : Nat) (opening closing : Char) (items : List Text) :
    Text :=
  if items.isEmpty then [opening, closing]
  else
    opening :: lineBreak indent (depth + 1) ++ Text.join (between indent (depth + 1)) items ++
      lineBreak indent depth ++ [closing]

mutual

/-- Writes a value that stands inside `depth` others. -/
def render (s : Style) (depth : Nat) : Json → Text
  | .null => "null".toList
  | .bool b => (if b then "true" else "false").toList
  | .int n => Text.ofInt n
  | .float x => floatText x
  | .str t => strText s.asciiOnly t
  | .arr items => enclosed s.indent depth '[' ']' (renderItems s (depth + 1) items)
  | .obj fields =>
    let written := renderFields s (depth + 1) fields
    let ordered :=
      if s.sortsFields then written.mergeSort (fun a b => nameLe a.1 b.1) else written
    enclosed s.indent depth '\x7b' '\x7d' (ordered.map (·.2))

def renderItems (s : Style) (depth : Nat) : List Json → List Text
  | [] => []
  | item :: rest => render s depth item :: renderItems s depth rest

def renderFields (s : Style) (depth : Nat) : List (Text × Json) → List (Text × Text)
  | [] => []
  | (name, value) :: rest =>
    (name, strText s.asciiOnly name ++ ':' :: ' ' :: render s depth value) ::
      renderFields s depth rest

end

def text (s : Style) (value : Json) : Text := render s 0 value

end ScriptRun.Json
