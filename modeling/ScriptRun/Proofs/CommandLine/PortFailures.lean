import ScriptRun.Proofs.Settings.Loading

/-!
# No port for the inspector

Two commands look for a port from the one that is set: one prints it, and the other serves the
inspector on it. If the search fails, neither of them launches anything. A range without a free port
is reported by both, but a range that is none of ports is reported by the first only; the second
breaks off (`port_failures`).
-/

namespace ScriptRun.Inspect.Inspector

open Run Settings Status

variable {ω : Type} {ports : Ports} {first : Int} {fault : Port.SearchFault}

/-- An inspector that finds no port has tried some, and that is all. -/
theorem prepare_of_findFree_error {i : Inspector ω} (hcurrent : i.current = none)
    (hfault : (Port.findFree ports.isFree first none).1 = .error fault) (l : Listener ω)
    (tool : Tool) (platform : Text) (device : Option Text) :
    i.prepare l tool (.ok first) ports platform device =
      (.error (.search fault),
        { i with probes := i.probes + (Port.findFree ports.isFree first none).2.length }) := by
  have hstop : (i.stop l).2 = i := by rw [stop, hcurrent]
  rw [prepare, hstop]
  generalize Port.findFree ports.isFree first none = result at hfault
  obtain ⟨found, tried⟩ := result
  obtain rfl : found = .error fault := hfault
  rfl

theorem start_of_findFree_error {i : Inspector ω} {s : Settings} (hcurrent : i.current = none)
    (hfirst : s.firstPort = .ok first)
    (hfault : (Port.findFree ports.isFree first none).1 = .error fault) (l : Listener ω)
    (tool : Tool) (platform : Text) (device : Option Text) :
    i.start l tool s ports platform device =
      (.error (.search fault),
        { i with probes := i.probes + (Port.findFree ports.isFree first none).2.length }) := by
  rw [start, hfirst, prepare_of_findFree_error hcurrent hfault]

end ScriptRun.Inspect.Inspector

namespace ScriptRun.CommandLine

open Inspect Settings

theorem firstPort_of_int {s : Settings} {first : Int} (h : s.inspectorPort = .int first) :
    s.firstPort = .ok first := by
  rw [firstPort, h]

/-- How the program ends when a command has ended. -/
def ended : EStateM.Result Breakdown World Int → Ending × World
  | .ok code w => (.exited code, w)
  | .error breakdown w => (.broken breakdown, w)

theorem program_of_load {words : List Text} {i : Invocation} {w : World} {s : Settings}
    (hwords : Invocation.ofWords words = .ok i)
    (hload : Settings.load w.tree w.environment i.config = .ok s) :
    program words w = ended ((i.perform s).run w) := by
  have hget : (get : Act World).run w = .ok w w := rfl
  have hinvoke : (invoke i).run w = (i.perform s).run w := by
    rw [invoke, run_bind_ok hget, hload]
  unfold program
  rw [hwords]
  dsimp only
  rw [hinvoke]
  cases (i.perform s).run w <;> rfl

section Failure

variable {w : World} {s : Settings} {first : Int} {fault : Port.SearchFault}

theorem run_freePort_of_findFree_error (hfirst : s.inspectorPort = .int first)
    (hfault : (Port.findFree w.ports.isFree first none).1 = .error fault) (json : Bool) :
    (freePort s json none).run w = .ok 1 (w.shows (errorLine fault.message)) := by
  have hget : (get : Act World).run w = .ok w w := rfl
  rw [freePort]
  simp only [Option.map_none, Option.getD_none, firstPort_of_int hfirst]
  rw [run_bind_ok hget]
  simp only [hfault]
  exact run_refuse 1 fault.message w

/-- A command that serves the inspector has no message for a range that is none of ports. -/
theorem run_inspect_of_findFree_error (hfirst : s.inspectorPort = .int first)
    (hfault : (Port.findFree w.ports.isFree first none).1 = .error fault) (json : Bool)
    (request : InspectRequest) :
    (inspect s json request).run w =
      match fault with
      | .noneFree .. => .ok 1 (w.shows (errorLine fault.message))
      | .invalidRange .. => .error (.inspect (.search fault)) w := by
  have hget : (get : Act World).run w = .ok w w := rfl
  rw [inspect, run_bind_ok hget]
  dsimp only
  rw [Inspector.start_of_findFree_error rfl (firstPort_of_int hfirst) hfault]
  cases fault with
  | invalidRange low high => rfl
  | noneFree low high => exact run_refuse 1 _ w

variable {words : List Text} {i : Invocation} (hwords : Invocation.ofWords words = .ok i)
  (hload : Settings.load w.tree w.environment i.config = .ok s)
  (hfirst : s.inspectorPort = .int first)
  (hfault : (Port.findFree w.ports.isFree first none).1 = .error fault)

include hwords hload hfirst hfault

theorem program_freePort (haction : i.action = .freePort none) :
    program words w = (.exited 1, w.shows (errorLine fault.message)) := by
  rw [program_of_load hwords hload, Invocation.perform, haction]
  dsimp only
  rw [run_freePort_of_findFree_error hfirst hfault]
  rfl

theorem program_inspect {request : InspectRequest} (haction : i.action = .inspect request) :
    program words w = match fault with
      | .noneFree .. => (.exited 1, w.shows (errorLine fault.message))
      | .invalidRange .. => (.broken (.inspect (.search fault)), w) := by
  rw [program_of_load hwords hload, Invocation.perform, haction]
  dsimp only
  rw [run_inspect_of_findFree_error hfirst hfault]
  cases fault <;> rfl

end Failure

/-- How the two commands that look for a port end if there is none. Looked for on its own, it is
reported with the exit code 1, whatever the failure is. For the inspector it is reported in the same
way if no port of the range is free, and if the range is none of ports the program breaks off. In all
cases nothing but the report has changed, so no process was launched. -/
theorem port_failures {words : List Text} {i : Invocation} {w : World} {s : Settings} {first : Int}
    {fault : Port.SearchFault} (hwords : Invocation.ofWords words = .ok i)
    (hload : Settings.load w.tree w.environment i.config = .ok s)
    (hfirst : s.inspectorPort = .int first)
    (hfault : (Port.findFree w.ports.isFree first none).1 = .error fault) :
    (i.action = .freePort none →
      program words w = (.exited 1, w.shows (errorLine fault.message))) ∧
    ∀ request, i.action = .inspect request →
      program words w = match fault with
        | .noneFree .. => (.exited 1, w.shows (errorLine fault.message))
        | .invalidRange .. => (.broken (.inspect (.search fault)), w) :=
  ⟨program_freePort hwords hload hfirst hfault,
    fun _ haction => program_inspect hwords hload hfirst hfault haction⟩

/-- A world without settings in which all ports are taken. -/
def takenWorld : World where
  tree := ⟨[]⟩
  environment := []
  ports := { isFree := fun _ => false, accepts := fun _ => false }

theorem port_failures_all_taken :
    program ["free-port".toList] takenWorld =
      (.exited 1, takenWorld.shows (errorLine "no free port in 9333..9433".toList)) ∧
    program ["inspect".toList, "--platform".toList, "ios".toList] takenWorld =
      (.exited 1, takenWorld.shows (errorLine "no free port in 9333..9433".toList)) := by
  have hfault : (Port.findFree takenWorld.ports.isFree 9333 none).1 =
      .error (.noneFree 9333 9433) := by decide +kernel
  have hmessage : (Port.SearchFault.noneFree 9333 9433).message =
      "no free port in 9333..9433".toList := by decide +kernel
  rw [← hmessage]
  exact ⟨(port_failures (i := { action := .freePort none }) rfl rfl rfl hfault).1 rfl,
    (port_failures (i := { action := .inspect { platform := "ios".toList } }) rfl rfl rfl
      hfault).2 _ rfl⟩

/-! ### A port that is none -/

/-- A settings file with a port to begin with that is none. -/
def zeroPortTree : Files.Tree :=
  ⟨[(["lse.yaml".toList], .file (Text.Utf8.encode "inspector_base_port: 0\n".toList) false)]⟩

/-- A world with that file and nothing else, in which all ports are free. -/
def zeroPortWorld : World where
  tree := zeroPortTree
  environment := []
  ports := { isFree := fun _ => true, accepts := fun _ => false }

theorem load_zeroPort :
    ∃ s, Settings.load zeroPortTree [] none = .ok s ∧ s.inspectorPort = .int 0 := by
  have hbytes : zeroPortTree.bytes defaultFile =
      .ok (Text.Utf8.encode "inspector_base_port: 0\n".toList) := by decide
  have hpieces : Files.textPieces pieceSize (Text.Utf8.encode "inspector_base_port: 0\n".toList) =
      (["inspector_base_port: 0\n".toList], none) :=
    Files.textPieces_of_block (by decide) (by decide) rfl rfl rfl (by decide) (by decide)
  have hchosen : chosenFile zeroPortTree [] none = some defaultFile := by decide
  have hport : (Settings.load zeroPortTree [] none).toOption.any (fun s =>
      match s.inspectorPort with | .int n => n == 0 | _ => false) = true := by
    rw [Settings.load, hchosen]
    dsimp only
    rw [filePairs, fileValue, hbytes]
    dsimp only
    rw [hpieces]
    decide +kernel
  cases hload : Settings.load zeroPortTree [] none with
  | error fault =>
    rw [hload] at hport
    cases hport
  | ok s =>
    rw [hload] at hport
    refine ⟨s, rfl, ?_⟩
    change (match s.inspectorPort with | .int n => n == 0 | _ => false) = true at hport
    split at hport
    · rename_i n hn
      rw [hn, beq_iff_eq.1 hport]
    · cases hport

/-- The search fails at once, and only one of the commands reports it. -/
theorem zero_port_unreported :
    (Port.findFree zeroPortWorld.ports.isFree 0 none).1 = .error (.invalidRange 0 100) ∧
    program ["free-port".toList] zeroPortWorld =
      (.exited 1, zeroPortWorld.shows (errorLine "invalid port range 0..100".toList)) ∧
    program ["inspect".toList, "--platform".toList, "ios".toList] zeroPortWorld =
      (.broken (.inspect (.search (.invalidRange 0 100))), zeroPortWorld) := by
  obtain ⟨s, hload, hport⟩ := load_zeroPort
  have hfault : (Port.findFree zeroPortWorld.ports.isFree 0 none).1 =
      .error (.invalidRange 0 100) := rfl
  have hmessage : (Port.SearchFault.invalidRange 0 100).message =
      "invalid port range 0..100".toList := by decide +kernel
  have hfree : Invocation.ofWords ["free-port".toList] = .ok { action := .freePort none } := rfl
  have hinspect : Invocation.ofWords ["inspect".toList, "--platform".toList, "ios".toList] =
      .ok { action := .inspect { platform := "ios".toList } } := rfl
  refine ⟨hfault, ?_, program_inspect (w := zeroPortWorld) hinspect hload hport hfault rfl⟩
  rw [← hmessage]
  exact program_freePort hfree hload hport hfault rfl

end ScriptRun.CommandLine
