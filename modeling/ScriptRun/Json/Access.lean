import ScriptRun.Decimal.Number

/-!
# Reading data

What a value holds if it is of a kind, and the fields of an object. A field that is missing reads
like null.
-/

namespace ScriptRun.Json

def text? : Json → Option Text
  | .str t => some t
  | _ => none

def int? : Json → Option Int
  | .int n => some n
  | _ => none

def bool? : Json → Option Bool
  | .bool b => some b
  | _ => none

/-- The items of a list; any other value has none. -/
def items : Json → List Json
  | .arr items => items
  | _ => []

/-- The fields of an object; any other value has none. -/
def fields : Json → List (Text × Json)
  | .obj fields => fields
  | _ => []

def valueAt (value : Json) (name : String) : Json := (value.get? name.toList).getD .null

def textAt? (value : Json) (name : String) : Option Text := (value.valueAt name).text?

def intAt? (value : Json) (name : String) : Option Int := (value.valueAt name).int?

def numberAt? (value : Json) (name : String) : Option Number := Number.ofJson? (value.valueAt name)

/-- The text in a field; empty if there is none. -/
def textAt (value : Json) (name : String) : Text := (value.textAt? name).getD []

/-- The integer in a field; zero if there is none. -/
def intAt (value : Json) (name : String) : Int := (value.intAt? name).getD 0

/-- The truth value in a field; false if there is none. -/
def boolAt (value : Json) (name : String) : Bool := (value.valueAt name).bool?.getD false

def itemsAt (value : Json) (name : String) : List Json := (value.valueAt name).items

def textsAt (value : Json) (name : String) : List Text := (value.itemsAt name).filterMap text?

/-- An integer or null. -/
def ofInt? : Option Int → Json
  | some n => .int n
  | none => .null

def ofTexts (texts : List Text) : Json := .arr (texts.map str)

end ScriptRun.Json
