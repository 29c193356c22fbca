import ScriptRun.Decimal.Number
import ScriptRun.Device.Source

/-!
# The device list and the selected device

A catalog keeps the list that its sources gave when they were last asked, until that is too old. All
sources are asked together, one after the other, and one that fails contributes nothing. The browser,
if it is included, comes last. An empty list is never fresh.
-/

namespace ScriptRun.Device

structure Catalog where
  sources : List Source
  /-- For how many seconds a list stays fresh. -/
  freshFor : Number := .float 10.0
  includesBrowser : Bool := true
  devices : List Device := []
  /-- The clock reading when the sources were last asked. -/
  askedAt : Option Float := none
  selected : Option Device := none
  /-- The sources in the order in which they were called so far, each by its position. -/
  called : List Nat := []

namespace Catalog

/-- Whether the list can be used without asking again. -/
def isFresh (c : Catalog) (reading : Float) : Bool :=
  match c.askedAt with
  | some askedAt => !c.devices.isEmpty && decide (reading - askedAt < c.freshFor.toFloat)
  | none => false

def contribution : Answer → List Device
  | .ok devices => devices
  | .error _ => []

@[simp] theorem contribution_ok (devices : List Device) :
    contribution (.ok devices) = devices := rfl

/-- A call that fails contributes nothing. -/
@[simp] theorem contribution_error (fault : SourceFault) : contribution (.error fault) = [] := rfl

theorem mem_contribution_iff {d : Device} {answer : Answer} :
    d ∈ contribution answer ↔ ∃ devices, answer = .ok devices ∧ d ∈ devices := by
  cases answer <;> simp

def call (c : Catalog) (position : Nat) : Answer × Catalog :=
  match c.sources[position]? with
  | some source =>
    let (answer, source) := source.query
    (answer, { c with
      sources := c.sources.set position source
      called := c.called ++ [position] })
  | none => (.ok [], c)

/-- Calls the sources at positions one after the other, whatever comes of a call. -/
def gather (c : Catalog) : List Nat → List Device × Catalog
  | [] => ([], c)
  | position :: rest =>
    let (answer, c) := c.call position
    let (devices, c) := c.gather rest
    (contribution answer ++ devices, c)

def ask (c : Catalog) (reading : Float) : Catalog :=
  let (devices, c) := c.gather (List.range c.sources.length)
  { c with
    devices := devices ++ if c.includesBrowser then [browser] else []
    askedAt := some reading }

/-- The list, asked for again if that is forced or the list is not fresh. -/
def refresh (c : Catalog) (force : Bool) (reading : Float) : List Device × Catalog :=
  let c := if !force && c.isFresh reading then c else c.ask reading
  (c.devices, c)

def find (c : Catalog) (id : Text) (reading : Float) : Option Device × Catalog :=
  let (devices, c) := c.refresh false reading
  (devices.find? fun d => d.id == id, c)

def select (c : Catalog) (d : Option Device) : Catalog := { c with selected := d }

/-- The types of devices from the most to the least wanted. -/
def preference : List (List Text) :=
  [["physical".toList], ["emulator".toList, "simulator".toList], ["browser".toList]]

/-- The first available device of the most wanted type. -/
def best? (devices : List Device) : Option Device :=
  let available := devices.filter isAvailable
  preference.findSome? fun types => available.find? fun d => types.contains d.type

/-- Selects the best device of a new list; without one the selection stays. -/
def autoSelect (c : Catalog) (reading : Float) : Option Device × Catalog :=
  let (devices, c) := c.refresh true reading
  match best? devices with
  | some d => (some d, c.select (some d))
  | none => (none, c)

/-- The device that needs no question: the first physical one, or the only one, of the available
devices that are no browsers. -/
def obvious? (devices : List Device) : Option Device :=
  let active := devices.filter fun d => d.platform != "web".toList && d.isAvailable
  match active.find? fun d => d.type == "physical".toList, active with
  | some d, _ => some d
  | none, [d] => some d
  | none, _ => none

/-- Keeps the selected device, or selects the one that needs no question. -/
def ensureSelected (c : Catalog) (reading : Float) : Option Device × Catalog :=
  match c.selected with
  | some d => (some d, c)
  | none =>
    let (devices, c) := c.refresh true reading
    let c := c.select (obvious? devices)
    (c.selected, c)

end Catalog

end ScriptRun.Device
