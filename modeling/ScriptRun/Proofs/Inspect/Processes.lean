import Mathlib.Data.List.Basic
import ScriptRun.Run.Launcher

/-!
# Processes that obey

No operation brings a process back to life or makes it disregard what it obeyed before
(`Child.Follows`). A process that can be ended by force is gone after it was stopped, whether it
exits by itself, when it is asked, or only by force.

The same holds of the processes of a launcher, by number: an operation on one of them revives none
(`Launcher.Follows`).
-/

namespace ScriptRun

namespace Child

/-- What may have become of a process: it is not alive again, and obeys as it did. -/
structure Follows (before after : Child) : Prop where
  running : after.isRunning = true → before.isRunning = true
  ignoresKill : after.ignoresKill = before.ignoresKill

theorem Follows.refl (p : Child) : p.Follows p := ⟨fun h => h, rfl⟩

theorem Follows.trans {p q r : Child} (h : p.Follows q) (h' : q.Follows r) : p.Follows r :=
  ⟨h.running ∘ h'.running, h'.ignoresKill.trans h.ignoresKill⟩

/-- A process that has kept its exit code, if it had one. -/
theorem follows_of_returned {p q : Child}
    (hkept : ∀ code, p.returned = some code → q.returned ≠ none)
    (hkill : q.ignoresKill = p.ignoresKill) : p.Follows q := by
  refine ⟨fun hrunning => ?_, hkill⟩
  unfold isRunning at *
  rcases hreturned : p.returned with _ | code
  · rfl
  · exact absurd (Option.isNone_iff_eq_none.1 hrunning) (hkept code hreturned)

theorem follows_finish (p : Child) (code : Option Int) : p.Follows (p.finish code) :=
  follows_of_returned (fun exit hexit => by simp [finish, hexit]) rfl

theorem follows_poll (p : Child) : p.Follows p.poll.2 := by
  unfold poll
  split
  · exact follows_finish p none
  · exact ⟨fun h => h, rfl⟩
  · exact Follows.refl p

theorem follows_terminate (p : Child) : p.Follows p.terminate :=
  follows_of_returned (fun exit hexit => by unfold terminate; split <;> simp [hexit]) rfl

theorem follows_kill (p : Child) : p.Follows p.kill :=
  follows_of_returned (fun exit hexit => by unfold kill; split <;> simp [hexit]) rfl

theorem follows_wait (p : Child) (seconds : Number) : p.Follows (p.wait seconds).2 :=
  ⟨fun h => h, rfl⟩

theorem returned_poll (p : Child) : p.poll.2.returned = p.poll.1 := by
  unfold poll
  split
  · rfl
  · rename_i h _
    exact h
  · rfl

theorem isAlive_eq (p : Child) : p.isAlive = (p.poll.2.isRunning, p.poll.2) := by
  unfold isAlive isRunning
  rw [returned_poll]

theorem signalStop_eq (p : Child) :
    p.signalStop =
      if p.poll.2.isRunning then (true, p.poll.2.terminate) else (false, p.poll.2) := by
  rw [signalStop, isAlive_eq]

theorem follows_signalStop (p : Child) : p.Follows p.signalStop.2 := by
  rw [signalStop_eq]
  split
  · exact p.follows_poll.trans (follows_terminate _)
  · exact p.follows_poll

/-- A process that was not alive to be asked to end is gone. -/
theorem isRunning_of_signalStop {p : Child} (h : p.signalStop.1 = false) :
    p.signalStop.2.isRunning = false := by
  rw [signalStop_eq] at h ⊢
  rcases hrunning : p.poll.2.isRunning with _ | _
  · simp [hrunning]
  · rw [hrunning] at h
    exact absurd h (by simp)

/-- Ending a process by force and looking whether it is gone. -/
def force (p : Child) : Bool × Child := (p.kill.wait killSeconds).2.isAlive

theorem stop_eq (p : Child) (seconds : Number) :
    p.stop seconds =
      if p.signalStop.1 && p.signalStop.2.isRunning then
        (!(p.signalStop.2.wait seconds).2.force.1, (p.signalStop.2.wait seconds).2.force.2)
      else (true, if p.signalStop.1 then (p.signalStop.2.wait seconds).2 else p.signalStop.2) := by
  unfold stop force
  rcases p.signalStop with ⟨_ | _, q⟩
  · rfl
  · rcases hreturned : q.returned with _ | code
    · simp only [wait, hreturned, isRunning]
      rfl
    · simp [wait, hreturned, isRunning]

theorem follows_force (p : Child) : p.Follows p.force.2 := by
  rw [force, isAlive_eq]
  exact (p.follows_kill.trans (p.kill.follows_wait killSeconds)).trans (follows_poll _)

theorem isRunning_force {p : Child} (h : p.ignoresKill = false) : p.force.2.isRunning = false := by
  have hgone : (p.kill.wait killSeconds).2.isRunning = false := by
    unfold kill wait isRunning
    rw [h]
    cases p.returned <;> rfl
  rw [force, isAlive_eq]
  refine (Bool.not_eq_true _).mp fun hrunning => ?_
  rw [(follows_poll _).running hrunning] at hgone
  exact absurd hgone (by decide)

theorem follows_stop (p : Child) (seconds : Number) : p.Follows (p.stop seconds).2 := by
  have hsignal := p.follows_signalStop
  have hwait := hsignal.trans (p.signalStop.2.follows_wait seconds)
  rw [stop_eq]
  split
  · exact hwait.trans (follows_force _)
  · simp only
    split
    · exact hwait
    · exact hsignal

/-- A process that can be ended by force is gone after a stop. -/
theorem isRunning_stop {p : Child} (h : p.ignoresKill = false) (seconds : Number) :
    (p.stop seconds).2.isRunning = false := by
  rw [stop_eq]
  split
  · have hfollows := p.follows_signalStop.trans (follows_wait _ seconds)
    exact isRunning_force (hfollows.ignoresKill.trans h)
  · rename_i hgone
    simp only
    split
    · rename_i hasked
      simp only [hasked, Bool.true_and, Bool.not_eq_true] at hgone
      exact hgone
    · rename_i hasked
      exact isRunning_of_signalStop ((Bool.not_eq_true _).mp hasked)

end Child

namespace Run.Launcher

def IsRunning (w : Launcher) (number : Nat) : Prop := (w.process number).isRunning = true

/-- What may have become of a launcher that was given no command in the meantime. -/
structure Follows (before after : Launcher) : Prop where
  upcoming : after.upcoming = before.upcoming
  fault : after.fault = before.fault
  length : after.processes.length = before.processes.length
  process : ∀ n, (before.process n).Follows (after.process n)

theorem Follows.refl (w : Launcher) : w.Follows w := ⟨rfl, rfl, rfl, fun _ => .refl _⟩

/-- A number that stands for no process does not stand for one that is running. -/
theorem IsRunning.lt_length {w : Launcher} {n : Nat} (h : w.IsRunning n) :
    n < w.processes.length := by
  by_contra hn
  unfold IsRunning process at h
  rw [List.getElem?_eq_none (Nat.le_of_not_lt hn)] at h
  exact absurd h (by decide)

theorem process_withProcess {α : Type} (act : Child → α × Child) (w : Launcher) (n m : Nat) :
    (w.withProcess n act).2.process m =
      if n = m ∧ n < w.processes.length then (act (w.process n)).2 else w.process m := by
  unfold withProcess process
  by_cases hn : n = m
  · subst hn
    by_cases hlt : n < w.processes.length
    · simp [hlt]
    · simp [hlt]
  · simp [hn]

theorem follows_withProcess {α : Type} {act : Child → α × Child}
    (hact : ∀ p : Child, p.Follows (act p).2) (w : Launcher) (n : Nat) :
    w.Follows (w.withProcess n act).2 := by
  refine ⟨rfl, rfl, List.length_set, fun m => ?_⟩
  rw [process_withProcess]
  split
  · rename_i h
    exact h.1 ▸ hact (w.process n)
  · exact .refl _

theorem follows_finish (w : Launcher) (n : Nat) (code : Option Int) :
    w.Follows (w.finish n code) := by
  refine ⟨rfl, rfl, List.length_modify .., fun m => ?_⟩
  rw [finish, process, process, List.getElem?_modify]
  rcases w.processes[m]? with _ | p
  · exact .refl _
  · by_cases hne : n = m
    · simpa [hne] using p.follows_finish code
    · simpa [hne] using Child.Follows.refl p

theorem not_isRunning_stop {w : Launcher} {n : Nat} (h : (w.process n).ignoresKill = false)
    (seconds : Number) : ¬(w.withProcess n (·.stop seconds)).2.IsRunning n := by
  intro hrunning
  have hn := hrunning.lt_length
  rw [(follows_withProcess (fun p => p.follows_stop seconds) w n).length] at hn
  rw [IsRunning, process_withProcess, if_pos ⟨rfl, hn⟩, Child.isRunning_stop h] at hrunning
  exact absurd hrunning (by decide)

/-- A process of which a poll knows no exit code is running. -/
theorem isRunning_of_poll {w : Launcher} {n : Nat} (h : (w.withProcess n Child.poll).1 = none) :
    (w.withProcess n Child.poll).2.IsRunning n := by
  have hpolled : (w.process n).poll.1 = none := h
  have hn : n < w.processes.length := by
    by_contra hn
    rw [process, List.getElem?_eq_none (Nat.le_of_not_lt hn)] at hpolled
    exact absurd hpolled (by decide)
  rw [IsRunning, process_withProcess, if_pos ⟨rfl, hn⟩, Child.isRunning, Child.returned_poll,
    hpolled]
  rfl

/-- A launch has failed as launches fail at the time, or there is one more process. -/
theorem launch_cases (w : Launcher) (argv : List Text) (cwd : Yaml.Value) :
    (∃ fault, (w.launch argv cwd).1 = .error fault ∧ w.fault = some fault ∧
      (w.launch argv cwd).2.processes = w.processes ∧
      (w.launch argv cwd).2.upcoming = w.upcoming) ∨
    ∃ p, (p ∈ w.upcoming ∨ p = {}) ∧ (w.launch argv cwd).1 = .ok w.processes.length ∧
      (w.launch argv cwd).2.processes = w.processes ++ [p] ∧
      ∀ other ∈ (w.launch argv cwd).2.upcoming, other ∈ w.upcoming := by
  obtain ⟨upcoming, fault, launches, processes⟩ := w
  cases fault with
  | some fault => exact Or.inl ⟨fault, rfl, rfl, rfl, rfl⟩
  | none =>
    cases upcoming with
    | nil => exact Or.inr ⟨{}, Or.inr rfl, rfl, rfl, fun _ h => h⟩
    | cons p rest =>
      exact Or.inr ⟨p, Or.inl List.mem_cons_self, rfl, rfl, fun _ h => List.mem_cons_of_mem _ h⟩

theorem process_of_append {before after : Launcher} {p : Child}
    (h : after.processes = before.processes ++ [p]) (n : Nat) :
    after.process n = if n = before.processes.length then p else before.process n := by
  unfold process
  rw [h]
  split
  · rename_i hn
    rw [hn, List.getElem?_concat_length, Option.getD_some]
  · rename_i hn
    by_cases hlt : n < before.processes.length
    · rw [List.getElem?_append_left hlt]
    · rw [List.getElem?_eq_none (by simp; omega), List.getElem?_eq_none (Nat.le_of_not_lt hlt)]

end Run.Launcher

end ScriptRun
