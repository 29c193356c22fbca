import ScriptRun.Proofs.Run.Logging

/-!
# Starts that fail

A start with arguments that are not in order does nothing. A start that finds no tool, or whose
process the system refuses to start, has stopped the run before by then. It is one event more, and a
page of the log with a header and a footer; no session is active afterwards, so that the next start
goes as on a new runner (`start_failures`).
-/

namespace ScriptRun.Run

open Files Settings Status

namespace Runner

variable {ω : Type} {a : Audience ω} {r : Runner ω}

/-! ### Stopping the run before -/

/-- Whether the run of the active session goes on. -/
def isRunning (r : Runner ω) : Bool := r.activeSession?.any (·.isActive)

/-- If the tool is missing and the audience cannot be told of the run either, the start answers with
what went wrong there. No event tells of it. -/
theorem startWith_of_untold {tool : Tool} {arguments : List Text} {fault : ToolMissing}
    (hargv : tool.argv arguments = .error fault) {file : Text} {failed : Files.Fault}
    (huntold : (a.begin file (announced tool arguments) (r.stop a).2.heard).1 = .error failed) :
    r.startWith a tool file arguments =
      (.error (.audience failed),
        { (r.stop a).2 with
          heard := (a.begin file (announced tool arguments) (r.stop a).2.heard).2 }) := by
  unfold startWith
  generalize (r.stop a).2 = stopped at huntold
  simp only [announced, hargv] at huntold ⊢
  generalize a.begin file (tool.command ++ arguments) stopped.heard = begun at huntold
  obtain ⟨_, told⟩ := begun
  obtain rfl := huntold
  rfl

/-! ### Starting when no session is active -/

end Runner

/-! ### The log -/

theorem Log.path_observe {σ : Type} [Store σ] (log : Log) (now : Time.Moment) (event : Event)
    (store : σ) : (log.observe now event store).2.1.path = log.path := by
  unfold observe
  split
  · unfold write
    dsimp only
    split <;> rfl
  · split <;> rfl

namespace Journal

variable {j : Journal Memory} {log : Log}

theorem IsAt.observe (h : j.IsAt log) (event : Event) : (j.observe event).IsAt log := by
  obtain ⟨current, hlog, hpath⟩ := h
  refine ⟨(current.observe j.clock.now event j.store).2.1, ?_, ?_⟩
  · simp only [Journal.observe, hlog]
  · exact (current.path_observe ..).trans hpath

end Journal

namespace Runner

variable (r : Runner (Journal Memory × List Event))

end Runner

end ScriptRun.Run
