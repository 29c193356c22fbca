import Mathlib.Tactic.Common
import ScriptRun.Gps.Control
import ScriptRun.Proofs.Files.Memory
import ScriptRun.Proofs.Json.RoundTrip

/-!
# The control file holds one whole command

Between two steps there is at most one file, the control file, and it holds the last command that
was sent, unless the tool has collected that. A request is carried out exactly if its command is
good; the files have no part in that, and a request that is refused leaves them alone.
-/

namespace ScriptRun.Gps

open Files

theorem draftPath_ne (path : Text) : draftPath path ≠ path := by
  intro h
  have hlength := congrArg List.length h
  rw [draftPath, List.length_append] at hlength
  have hsuffix : ".tmp".toList.length = 4 := rfl
  omega

/-! ### The text of a command -/

def Command.field : Command → Text × Json
  | .speed kmh => ("speed".toList, .float kmh)
  | .mode m => ("speedMode".toList, .str m.word)
  | .paused holds => ("paused".toList, .bool holds)

theorem Command.toJson_eq (c : Command) : c.toJson = .obj [c.field] := by
  cases c <;> rfl

theorem Command.isWritable (c : Command) : Status.EventFile.isWritable c.toJson = true := by
  cases c <;> rfl

/-- Nothing in a command is written otherwise than in a record. -/
theorem Command.text_eq (c : Command) : c.text = c.toJson.text .record := by
  have hname : Json.strText true c.field.1 = Json.strText false c.field.1 := by
    cases c <;> rfl
  have hvalue : Json.render .command 1 c.field.2 = Json.render .record 1 c.field.2 := by
    cases c with
    | speed kmh => rfl
    | mode m => cases m <;> decide
    | paused holds => rfl
  have hfield : Json.strText true c.field.1 ++ ':' :: ' ' :: Json.render .command 1 c.field.2 =
      Json.strText false c.field.1 ++ ':' :: ' ' :: Json.render .record 1 c.field.2 := by
    rw [hname, hvalue]
  rw [Command.text, c.toJson_eq, Json.text, Json.text, Json.render, Json.render]
  simp only [Json.renderFields, List.mergeSort_singleton, ite_self]
  exact congrArg (fun t => Json.enclosed none 0 '\x7b' '\x7d' [t]) hfield

theorem Command.read?_text (c : Command) : Json.read? c.text = some c.toJson := by
  have hvalue : c.field.2.settled = c.field.2 := by
    cases c <;> rfl
  rw [c.text_eq, Json.read?_text c.isWritable, c.toJson_eq, Json.settled]
  simp only [Json.settledFields, Json.byName, List.mergeSort_singleton, hvalue]
  rfl

/-! ### One request -/

/-- Files in memory after a command is written beside the control file and moved there. -/
def delivered (path : Text) (c : Command) (m : Memory) : Memory :=
  ((m.set (draftPath path) c.text).erase (draftPath path)).set path c.text

theorem send_memory (path : Text) (c : Command) (m : Memory) :
    (send path c).outcome m = (.ok (), delivered path c m) := by
  have hwrite : (Store.write (draftPath path) c.text : Action Memory Unit) m =
      .ok () (m.set (draftPath path) c.text) := rfl
  have hdraft : (m.set (draftPath path) c.text).get? (draftPath path) = some c.text :=
    m.get?_set_self c.text
  have hrename := Memory.rename_eq hdraft path
  simp only [send, Action.outcome, EStateM.run, bind, EStateM.bind, hwrite, hrename]
  rfl

/-- A request is carried out exactly if its command is good, and only then are files changed. -/
theorem carryOut_memory (path : Text) (r : Request) (m : Memory) :
    carryOut path r m =
      (r.command, match r.command with
        | .ok c => delivered path c m
        | .error _ => m) := by
  rw [carryOut]
  cases r.command with
  | error fault => rfl
  | ok c =>
    dsimp only
    rw [send_memory]

/-! ### Any history of the file -/

/-- What the user asks for or the tool does. -/
inductive Step where
  | request (r : Request)
  | collect

inductive Outcome where
  | sent (c : Command)
  | refused (fault : Fault)
  | collected (content : Option Text)

def perform (path : Text) (m : Memory) : Step → Outcome × Memory
  | .request r =>
    match carryOut path r m with
    | (.ok c, m) => (.sent c, m)
    | (.error fault, m) => (.refused fault, m)
  | .collect =>
    let (content, m) := collect path m
    (.collected content, m)

def performAll (path : Text) (m : Memory) : List Step → List Outcome × Memory
  | [] => ([], m)
  | step :: rest =>
    let (outcome, m) := perform path m step
    let (outcomes, m) := performAll path m rest
    (outcome :: outcomes, m)

/-- The command that waits for the tool after one more step. -/
def Outcome.next (waiting : Option Command) : Outcome → Option Command
  | .sent c => some c
  | .refused _ => waiting
  | .collected _ => none

/-- The command that was sent last, unless the tool has collected since. -/
def waiting (outcomes : List Outcome) : Option Command := outcomes.foldl Outcome.next none

/-- The only file is the control file, with the whole of the command that waits. -/
def Holds (path : Text) (waiting : Option Command) (m : Memory) : Prop :=
  m.files = waiting.toList.map fun c => (path, c.text)

theorem Holds.sent {path : Text} {waiting : Option Command} {m : Memory}
    (h : Holds path waiting m) (c : Command) : Holds path (some c) (delivered path c m) := by
  have hdraft := draftPath_ne path
  show Memory.put path c.text (Memory.remove (draftPath path)
    (Memory.put (draftPath path) c.text m.files)) = [(path, c.text)]
  rw [h]
  cases waiting with
  | none => simp [Memory.put, Memory.remove]
  | some old => simp [Memory.put, Memory.remove, hdraft.symm]

theorem Holds.collected {path : Text} {waiting : Option Command} {m : Memory}
    (h : Holds path waiting m) : Holds path none (m.erase path) := by
  show Memory.remove path m.files = []
  rw [h]
  cases waiting with
  | none => rfl
  | some old => simp [Memory.remove]

theorem Holds.get? {path : Text} {waiting : Option Command} {m : Memory}
    (h : Holds path waiting m) (other : Text) :
    m.get? other = if other = path then waiting.map Command.text else none := by
  rw [Memory.get?, h]
  cases waiting with
  | none => simp [Memory.lookup]
  | some c => simp [Memory.lookup, eq_comm]

theorem Holds.perform {path : Text} {waiting : Option Command} {m : Memory}
    (h : Holds path waiting m) (step : Step) :
    Holds path ((perform path m step).1.next waiting) (perform path m step).2 := by
  cases step with
  | collect => exact h.collected
  | request r =>
    rw [Gps.perform, carryOut_memory]
    cases r.command with
    | ok c => exact h.sent c
    | error fault => exact h

theorem Holds.performAll {path : Text} {waiting : Option Command} {m : Memory}
    (h : Holds path waiting m) (steps : List Step) :
    Holds path ((performAll path m steps).1.foldl Outcome.next waiting)
      (performAll path m steps).2 := by
  induction steps generalizing waiting m with
  | nil => exact h
  | cons step rest ih => exact ih (h.perform step)

/-- Whatever was asked for and however often the tool has collected, the draft is gone, and the
control file is there exactly if a command was sent since the tool collected last. It holds then the
whole text of the command that was sent last, which is read as that command, an object of one field.
A request is refused for its own sake only, and then all files stay as they were. -/
theorem control_file_whole (path : Text) (steps : List Step) :
    let waiting := waiting (performAll path {} steps).1
    let m := (performAll path {} steps).2
    m.files = waiting.toList.map (fun c => (path, c.text)) ∧
      Store.contains m (draftPath path) = false ∧
      Store.contains m path = waiting.isSome ∧
      (∀ c, waiting = some c → m.get? path = some c.text ∧
        Json.read? c.text = some c.toJson ∧ c.toJson = .obj [c.field]) ∧
      (collect path m).1 = waiting.map Command.text ∧
      ∀ r : Request, (carryOut path r m).1 = r.command ∧
        ∀ fault, (carryOut path r m).1 = .error fault → (carryOut path r m).2 = m := by
  intro waiting m
  have hnew : Holds path none ({} : Memory) := rfl
  have hholds : Holds path waiting m := hnew.performAll steps
  have hcontent : m.get? path = waiting.map Command.text := by
    rw [hholds.get?, if_pos rfl]
  refine ⟨hholds, ?_, ?_, ?_, hcontent, ?_⟩
  · show (m.get? (draftPath path)).isSome = false
    rw [hholds.get?, if_neg (draftPath_ne path)]
    rfl
  · show (m.get? path).isSome = waiting.isSome
    rw [hcontent, Option.isSome_map]
  · intro c hc
    refine ⟨?_, c.read?_text, c.toJson_eq⟩
    rw [hcontent, hc, Option.map_some]
  · intro r
    rw [carryOut_memory]
    refine ⟨rfl, ?_⟩
    intro fault hfault
    have hcommand : r.command = .error fault := hfault
    rw [hcommand]

end ScriptRun.Gps
