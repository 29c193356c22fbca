import ScriptRun.Decimal.Layout
import ScriptRun.Json.Value
import ScriptRun.Yaml.Timestamp
import ScriptRun.Yaml.Token

/-!
# Values of a settings document

A value is shown in messages in a form of its own, and becomes data where settings are listed. A list
or a mapping that holds itself is cut where it comes back.
-/

namespace ScriptRun.Yaml

open Text

inductive Value where
  | null
  | bool (b : Bool)
  | int (n : Int)
  | float (x : Float)
  | str (t : Text)
  | bytes (b : List UInt8)
  | moment (t : Timestamp)
  | list (items : List Value)
  /-- A name and a value, as an item of a list. -/
  | pair (name value : Value)
  | map (pairs : List (Value × Value))
  /-- Distinct members, in the order in which they are shown. -/
  | set (members : List Value)
  /-- A list inside itself. -/
  | listAgain
  /-- A mapping inside itself. -/
  | mapAgain

namespace Value

mutual

def shown : Value → Text
  | .null => "None".toList
  | .bool b => (if b then "True" else "False").toList
  | .int n => Text.ofInt n
  | .float x => Decimal.exactText x
  | .str t => quoted t
  | .bytes b => quotedBytes b
  | .moment t => t.shown
  | .list items => '[' :: join [',', ' '] (shownItems items) ++ [']']
  | .pair name value => '(' :: shown name ++ ',' :: ' ' :: shown value ++ [')']
  | .map pairs => '\x7b' :: join [',', ' '] (shownPairs pairs) ++ ['\x7d']
  | .set [] => "set()".toList
  | .set members => '\x7b' :: join [',', ' '] (shownItems members) ++ ['\x7d']
  | .listAgain => "[...]".toList
  | .mapAgain => "\x7b...\x7d".toList

def shownItems : List Value → List Text
  | [] => []
  | item :: rest => shown item :: shownItems rest

def shownPairs : List (Value × Value) → List Text
  | [] => []
  | (key, value) :: rest => (shown key ++ ':' :: ' ' :: shown value) :: shownPairs rest

end

mutual

/-- Whether a value can be shown: every integer in it has few enough digits to be written. -/
def isShowable : Value → Bool
  | .int n => Decimal.isWritable n
  | .list items | .set items => areShowable items
  | .pair name value => isShowable name && isShowable value
  | .map pairs => haveShowable pairs
  | _ => true

def areShowable : List Value → Bool
  | [] => true
  | item :: rest => isShowable item && areShowable rest

def haveShowable : List (Value × Value) → Bool
  | [] => true
  | (key, value) :: rest => isShowable key && isShowable value && haveShowable rest

end

/-- The text of a value where it is used as a name: a text as it is, a timestamp in its plain form,
and any other value as it is shown. -/
def name : Value → Text
  | .str t => t
  | .moment t => t.text
  | value => value.shown

def kind : Value → Text
  | .null => "NoneType".toList
  | .bool _ => "bool".toList
  | .int _ => "int".toList
  | .float _ => "float".toList
  | .str _ => "str".toList
  | .bytes _ => "bytes".toList
  | .moment t => (if t.time.isSome then "datetime" else "date").toList
  | .list _ | .listAgain => "list".toList
  | .pair .. => "tuple".toList
  | .map _ | .mapAgain => "dict".toList
  | .set _ => "set".toList

/-- Whether a value counts as present: null, false, zero and what is empty do not. -/
def truthy : Value → Bool
  | .null => false
  | .bool b => b
  | .int n => n != 0
  | .float x => !(x == 0.0)
  | .str t => !t.isEmpty
  | .bytes b => !b.isEmpty
  | .list items | .set items => !items.isEmpty
  | .map pairs => !pairs.isEmpty
  | .moment _ | .pair .. | .listAgain | .mapAgain => true

def text? : Value → Option Text
  | .str t => some t
  | _ => none

def isSameNumber (n : Int) (x : Float) : Bool :=
  match Decimal.Parts.ofFloat x with
  | .finite negative mantissa exponent =>
    let (num, den) := Decimal.scaleTwo mantissa exponent
    n * den = if negative then -(num : Int) else num
  | _ => false

/-- Whether two values are the same key. Numbers of different kinds are, if they are equal. -/
def isSameKey : Value → Value → Bool
  | .null, .null => true
  | .bool a, .bool b => a = b
  | .int a, .int b => a = b
  | .float a, .float b => a == b || (a.isNaN && b.isNaN)
  | .bool a, .int b | .int b, .bool a => (if a then 1 else 0) = b
  | .bool a, .float b | .float b, .bool a => isSameNumber (if a then 1 else 0) b
  | .int a, .float b | .float b, .int a => isSameNumber a b
  | .str a, .str b => a = b
  | .bytes a, .bytes b => a = b
  | .moment a, .moment b => a.isSame b
  | _, _ => false

/-! ## Data -/

mutual

def ofJson : Json → Value
  | .null => .null
  | .bool b => .bool b
  | .int n => .int n
  | .float x => .float x
  | .str t => .str t
  | .arr items => .list (ofItems items)
  | .obj fields => .map (ofFields fields)

def ofItems : List Json → List Value
  | [] => []
  | item :: rest => ofJson item :: ofItems rest

def ofFields : List (Text × Json) → List (Value × Value)
  | [] => []
  | (name, value) :: rest => (.str name, ofJson value) :: ofFields rest

end

mutual

/-- A settings value as data. A value of a kind that the data format lacks becomes an object that
names its kind, and a pair becomes a list. Of keys with the same name the last one counts. -/
def toJson : Value → Json
  | .null => .null
  | .bool b => .bool b
  | .int n => .int n
  | .float x => .float x
  | .str t => .str t
  | .list items => .arr (toItems items)
  | .pair name value => .arr [toJson name, toJson value]
  | .map pairs => .ofFields (toFields pairs)
  | value@(.bytes _) | value@(.moment _) | value@(.set _) | value@.listAgain | value@.mapAgain =>
    .record [("object", .str value.kind)]

def toItems : List Value → List Json
  | [] => []
  | item :: rest => toJson item :: toItems rest

def toFields : List (Value × Value) → List (Text × Json)
  | [] => []
  | (key, value) :: rest => (key.name, toJson value) :: toFields rest

end

end Value

end ScriptRun.Yaml
