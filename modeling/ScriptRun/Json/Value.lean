import ScriptRun.Text.Basic

/-!
# Values of the data format

A value is null, a truth value, an integer of any size, a float, a text, a list, or an object. An
object is a list of named fields in the order in which they were first given; a name occurs once.
-/

namespace ScriptRun

inductive Json where
  | null
  | bool (b : Bool)
  | int (n : Int)
  | float (x : Float)
  | str (t : Text)
  | arr (items : List Json)
  | obj (fields : List (Text × Json))

namespace Json

/-- Gives a name a value: in its place if it is there, at the end otherwise. -/
def setField (name : Text) (value : Json) : List (Text × Json) → List (Text × Json)
  | [] => [(name, value)]
  | (other, old) :: rest =>
    if other = name then (name, value) :: rest else (other, old) :: setField name value rest

def field? (name : Text) : List (Text × Json) → Option Json
  | [] => none
  | (other, value) :: rest => if other = name then some value else field? name rest

theorem field?_setField_self (name : Text) (value : Json) (fields : List (Text × Json)) :
    field? name (setField name value fields) = some value := by
  induction fields with
  | nil => simp [setField, field?]
  | cons f rest ih =>
    obtain ⟨other, old⟩ := f
    by_cases h : other = name <;> simp [setField, field?, h, ih]

/-- The value of a name, if the value is an object that has it. -/
def get? (name : Text) : Json → Option Json
  | .obj fields => field? name fields
  | _ => none

/-- An object from names and values, a later value replacing an earlier one. -/
def ofFields (fields : List (Text × Json)) : Json :=
  .obj (fields.foldl (fun made f => setField f.1 f.2 made) [])

def ofText? : Option Text → Json
  | some t => .str t
  | none => .null

def ofNat? : Option Nat → Json
  | some n => .int n
  | none => .null

/-- An object from names written as string literals. -/
def record (fields : List (String × Json)) : Json := .obj (fields.map fun f => (f.1.toList, f.2))

/-- Whether a value counts as present: null, false, zero and what is empty do not. -/
def truthy : Json → Bool
  | .null => false
  | .bool b => b
  | .int n => n != 0
  | .float x => !(x == 0.0)
  | .str t => !t.isEmpty
  | .arr items => !items.isEmpty
  | .obj fields => !fields.isEmpty

end Json

end ScriptRun
