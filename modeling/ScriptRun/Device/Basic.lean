import ScriptRun.Json.Access
import ScriptRun.Json.Reader
import ScriptRun.Text.CharClass

/-!
# Devices

A device is a target on which a script can run. A source lists devices; it may fail at one call and
answer at another.
-/

namespace ScriptRun

structure Device where
  id : Text
  name : Text
  /-- `android`, `ios` or `web`. -/
  platform : Text
  /-- The state in the words of the source. -/
  state : Text
  /-- `physical`, `simulator`, `emulator` or `browser`. -/
  type : Text
  deriving DecidableEq, Repr

namespace Device

def platforms : List Text := ["android".toList, "ios".toList, "web".toList]

/-- Whether the source says, in any case, that the device can be used. -/
def isAvailable (d : Device) : Bool :=
  let state := d.state.map Text.lowerAscii
  state == "device".toList || state == "available".toList

/-- The browser that is always there. -/
def browser : Device :=
  { id := "chrome".toList, name := "Chrome".toList, platform := "web".toList
    state := "Available".toList, type := "browser".toList }

def toJson (d : Device) : Json :=
  .record [("id", .str d.id), ("name", .str d.name), ("platform", .str d.platform),
    ("state", .str d.state), ("type", .str d.type)]

/-- A device as data, with whether it can be used. -/
def reportJson (d : Device) : Json :=
  .obj (Json.setField "is_available".toList (.bool d.isAvailable) d.toJson.fields)

/-- A device from data with exactly the fields of `toJson`. -/
def ofJson? : Json → Option Device
  | .obj fields => do
    let field (name : String) : Option Text :=
      match Json.field? name.toList fields with
      | some (.str t) => some t
      | _ => none
    if fields.length = 5 then
      some { id := ← field "id", name := ← field "name", platform := ← field "platform",
             state := ← field "state", type := ← field "type" }
    else none
  | _ => none

/-- The devices that a text lists as data. -/
def ofListing? (listing : Text) : Option (List Device) :=
  match Json.read? listing with
  | some (.arr items) => items.mapM ofJson?
  | _ => none

inductive NamingFault where
  | incomplete
  deriving DecidableEq, Repr

def NamingFault.message : NamingFault → Text
  | .incomplete => "--platform and --device must be given together".toList

/-- The device named by a platform and an identifier. Both must be given or neither; an empty one
counts as not given. The tool needs nothing else, so the rest is filled in. -/
def named (platform id : Option Text) : Except NamingFault (Option Device) :=
  let given (t : Option Text) : Option Text := t.bind fun t => if t.isEmpty then none else some t
  match given platform, given id with
  | none, none => .ok none
  | some platform, some id =>
    let type := if platform = "web".toList then "browser" else "physical"
    .ok (some { id, name := id, platform, state := "device".toList, type := type.toList })
  | _, _ => .error .incomplete

end Device

end ScriptRun
