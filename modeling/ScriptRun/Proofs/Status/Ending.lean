import Mathlib.Data.List.Basic
import ScriptRun.Proofs.Status.Effect

/-!
# A run ends once

An operation on an active engine either goes on with the run or ends it, and then the event that
says how is the last that it publishes. On an engine whose run has ended no operation does anything
(`Effect.IsStep`). What an engine has published is therefore at any time the events of a run that
goes on, or such events and then the one that has ended the run (`Course`), whatever operations came
in whatever order.
-/

namespace ScriptRun.Status

namespace Event

/-- How a run has ended, if an event says so. -/
def outcome? : Event → Option Outcome
  | .runComplete _ => some .completed
  | .runAborted => some .aborted
  | .spawnFailed _ => some .spawnFailed
  | .readinessTimedOut .. => some .readinessTimedOut
  | .statusChange _ | .mockLocationStarted _ | .mockLocationStopped | .logLine .. => none

def exitCode? : Event → Option Int
  | .runComplete code => some code
  | _ => none

theorem isSome_outcome? (event : Event) : event.outcome?.isSome = event.isTerminal := by
  cases event <;> rfl

theorem isSome_exitCode? (event : Event) :
    event.exitCode?.isSome ↔ event.outcome? = some .completed := by
  cases event <;> simp [exitCode?, outcome?]

end Event

/-! ### One operation -/

namespace Effect

/-- An effect that ends a run with an event. -/
structure Concludes (effect : Effect) (e : Engine) (event : Event) : Prop where
  events : ∃ more, effect.events = more ++ [event] ∧ ∀ other ∈ more, other.isTerminal = false
  terminal : event.isTerminal = true
  outcome : effect.engine.outcome = event.outcome?
  exitCode : effect.engine.exitCode = event.exitCode?.or e.exitCode

/-- An effect that an operation may have: none on a run that has ended; an active run goes on or
ends with the given event. -/
structure IsStep (effect : Effect) (e : Engine) (closing : Option Event) : Prop where
  idle : e.outcome ≠ none → effect = ⟨[], e⟩
  active : e.outcome = none →
    effect.Continues e ∨ ∃ event, closing = some event ∧ effect.Concludes e event

theorem isStep_nil (e : Engine) : (⟨[], e⟩ : Effect).IsStep e none :=
  ⟨fun _ => rfl, fun _ => Or.inl (continues_nil e)⟩

end Effect

namespace Engine

theorem isActive_iff {e : Engine} : e.isActive = true ↔ e.outcome = none :=
  Option.isNone_iff_eq_none

theorem concludes_conclude (e : Engine) {outcome : Outcome} {exitCode : Option Int} {event : Event}
    (houtcome : event.outcome? = some outcome) (hcode : exitCode = event.exitCode?.or e.exitCode) :
    (e.conclude outcome exitCode event).Concludes e event := by
  refine ⟨⟨[], rfl, fun _ h => absurd h List.not_mem_nil⟩, ?_, houtcome.symm, hcode⟩
  rw [← Event.isSome_outcome?, houtcome]
  rfl

theorem isStep_feed (e : Engine) (stream : Stream) (chunk : Chunk) :
    (e.feed stream chunk).2.IsStep e none := by
  refine ⟨fun h => ?_, fun h => Or.inl ?_⟩
  · rw [feed, if_neg fun hactive => h (isActive_iff.1 hactive)]
  · rw [feed, if_pos (isActive_iff.2 h)]
    refine (handles_handleLines _ stream _).congr ?_ ?_
    · rw [outcome_withBuffer]
    · rw [exitCode_withBuffer]

theorem isStep_processExited (e : Engine) (code : Int) :
    (e.processExited code).2.IsStep e (some (.runComplete code)) := by
  refine ⟨fun h => ?_, fun h => ?_⟩
  · rw [processExited, if_neg fun hactive => h (isActive_iff.1 hactive)]
  · rw [processExited, if_pos (isActive_iff.2 h)]
    have hout := e.continues_flush .stdout
    rcases hfirst : e.flush .stdout with ⟨_ | _, first⟩
    · rw [hfirst] at hout
      exact Or.inl hout
    · rw [hfirst] at hout
      have herr := hout.andThen (first.engine.continues_flush .stderr)
      rcases hsecond : first.engine.flush .stderr with ⟨_ | _, second⟩
      · rw [hsecond] at herr
        simp only [hsecond]
        exact Or.inl herr
      · rw [hsecond] at herr
        simp only [hsecond]
        exact Or.inr ⟨_, rfl, ⟨_, rfl, herr.events⟩, rfl, rfl, rfl⟩

/-- An operation that ends an active run and is refused after that. -/
theorem isStep_of_concludes {e : Engine} {effect : Effect} {event : Event}
    (h : effect.Concludes e event) :
    (if e.isActive then (true, effect) else (false, ⟨[], e⟩)).2.IsStep e (some event) := by
  refine ⟨fun hended => ?_, fun hactive => Or.inr ⟨event, rfl, ?_⟩⟩
  · rw [if_neg fun hactive => hended (isActive_iff.1 hactive)]
  · rw [if_pos (isActive_iff.2 hactive)]
    exact h

theorem isStep_stop (e : Engine) : e.stop.2.IsStep e (some .runAborted) := by
  obtain ⟨hevents, hterminal, houtcome, hcode⟩ :=
    e.cleared.concludes_conclude (show Event.runAborted.outcome? = some .aborted from rfl) rfl
  exact isStep_of_concludes ⟨hevents, hterminal, houtcome, hcode⟩

theorem isStep_spawnFailed (e : Engine) (reason : Text) :
    (e.spawnFailed reason).2.IsStep e (some (.spawnFailed reason)) :=
  isStep_of_concludes (e.concludes_conclude rfl rfl)

theorem isStep_readinessTimedOut (e : Engine) (port : Int) (timeout : Number) :
    (e.readinessTimedOut port timeout).2.IsStep e (some (.readinessTimedOut port timeout)) :=
  isStep_of_concludes (e.concludes_conclude rfl rfl)

end Engine

/-! ### The course of a run -/

/-- The events of a run that goes on, or those of a run that has ended. -/
inductive Course : Engine → List Event → Prop
  | going {e : Engine} {events : List Event} (houtcome : e.outcome = none)
      (hcode : e.exitCode = none) (hevents : ∀ event ∈ events, event.isTerminal = false) :
      Course e events
  | ended {e : Engine} {events : List Event} {event : Event}
      (hevents : ∀ other ∈ events, other.isTerminal = false) (hterminal : event.isTerminal = true)
      (houtcome : e.outcome = event.outcome?) (hcode : e.exitCode = event.exitCode?) :
      Course e (events ++ [event])

namespace Course

variable {e : Engine} {events : List Event}

theorem new (file : Text) (limit : Nat) : Course (Engine.new file limit) [] :=
  .going rfl rfl fun _ h => absurd h List.not_mem_nil

theorem step (h : Course e events) {effect : Effect} {closing : Option Event}
    (hstep : effect.IsStep e closing) : Course effect.engine (events ++ effect.events) := by
  cases h with
  | going houtcome hcode hevents =>
    rcases hstep.active houtcome with hcontinues | ⟨event, -, hconcludes⟩
    · refine .going (hcontinues.outcome.trans houtcome) (hcontinues.exitCode.trans hcode) ?_
      intro event hevent
      rcases List.mem_append.1 hevent with hbefore | hafter
      · exact hevents event hbefore
      · exact hcontinues.events event hafter
    · obtain ⟨⟨more, hmore, hopen⟩, hterminal, hended, hexit⟩ := hconcludes
      rw [hcode, Option.or_none] at hexit
      rw [hmore, ← List.append_assoc]
      refine .ended (fun other hother => ?_) hterminal hended hexit
      rcases List.mem_append.1 hother with hbefore | hafter
      · exact hevents other hbefore
      · exact hopen other hafter
  | ended hevents hterminal houtcome hcode =>
    have hended : e.outcome ≠ none := by
      rw [houtcome, ← Option.isSome_iff_ne_none, Event.isSome_outcome?]
      exact hterminal
    rw [hstep.idle hended, List.append_nil]
    exact .ended hevents hterminal houtcome hcode

/-- An event that ends the run is the last one, and says how the run has ended. -/
theorem of_terminal (h : Course e events) {event : Event} (hmem : event ∈ events)
    (hterminal : event.isTerminal = true) :
    events.getLast? = some event ∧ e.outcome = event.outcome? ∧ e.exitCode = event.exitCode? := by
  cases h with
  | going houtcome hcode hevents =>
    rw [hevents event hmem] at hterminal
    exact absurd hterminal (by decide)
  | ended hevents hlast houtcome hcode =>
    rcases List.mem_append.1 hmem with hbefore | hend
    · rw [hevents event hbefore] at hterminal
      exact absurd hterminal (by decide)
    · obtain rfl := List.mem_singleton.1 hend
      exact ⟨List.getLast?_concat, houtcome, hcode⟩

theorem countP_terminal_le (h : Course e events) : events.countP (·.isTerminal) ≤ 1 := by
  have hnone : ∀ {l : List Event}, (∀ event ∈ l, event.isTerminal = false) →
      l.countP (·.isTerminal) = 0 := fun hl => by
    refine List.countP_eq_zero.2 fun event hevent => ?_
    rw [hl event hevent]
    decide
  cases h with
  | going houtcome hcode hevents =>
    rw [hnone hevents]
    exact Nat.zero_le 1
  | ended hevents hterminal houtcome hcode =>
    refine Nat.le_of_eq ?_
    rw [List.countP_append, hnone hevents, List.countP_singleton, if_pos hterminal]

theorem exists_terminal_iff (h : Course e events) :
    (∃ event ∈ events, event.isTerminal = true) ↔ e.outcome ≠ none := by
  constructor
  · rintro ⟨event, hmem, hterminal⟩
    rw [(h.of_terminal hmem hterminal).2.1, ← Option.isSome_iff_ne_none, Event.isSome_outcome?]
    exact hterminal
  · intro hended
    cases h with
    | going houtcome hcode hevents => exact absurd houtcome hended
    | ended hevents hterminal houtcome hcode =>
      exact ⟨_, List.mem_append_right _ List.mem_cons_self, hterminal⟩

/-- The exit code is known exactly if the run is complete. -/
theorem isSome_exitCode_iff (h : Course e events) :
    e.exitCode.isSome ↔ e.outcome = some .completed := by
  cases h with
  | going houtcome hcode hevents => simp [houtcome, hcode]
  | ended hevents hterminal houtcome hcode => rw [houtcome, hcode, Event.isSome_exitCode?]

end Course

/-! ### Operations in any order -/

inductive Operation where
  | chunk (stream : Stream) (chunk : Chunk)
  | exited (code : Int)
  | stop
  | spawnFailed (reason : Text)
  | readinessTimedOut (port : Int) (timeout : Number)

namespace Operation

/-- The event by which an operation ends a run. -/
def closing? : Operation → Option Event
  | .chunk .. => none
  | .exited code => some (.runComplete code)
  | .stop => some .runAborted
  | .spawnFailed reason => some (.spawnFailed reason)
  | .readinessTimedOut port timeout => some (.readinessTimedOut port timeout)

/-- The answer of an operation on a run that has ended: taking a chunk has none to give. -/
def refusal : Operation → Except NumeralTooLong (Option Bool)
  | .chunk .. => .ok none
  | .exited _ | .stop | .spawnFailed _ | .readinessTimedOut .. => .ok (some false)

end Operation

def Live.perform {σ : Type} (l : Listener σ) (s : Live σ) :
    Operation → Except NumeralTooLong (Option Bool) × Live σ
  | .chunk stream chunk =>
    let (answer, s) := s.feed l stream chunk
    (answer.map fun _ => none, s)
  | .exited code =>
    let (answer, s) := s.processExited l code
    (answer.map some, s)
  | .stop =>
    let (answer, s) := s.stop l
    (.ok (some answer), s)
  | .spawnFailed reason =>
    let (answer, s) := s.spawnFailed l reason
    (.ok (some answer), s)
  | .readinessTimedOut port timeout =>
    let (answer, s) := s.readinessTimedOut l port timeout
    (.ok (some answer), s)

def Live.performAll {σ : Type} (l : Listener σ) (s : Live σ) (ops : List Operation) : Live σ :=
  ops.foldl (fun s op => (s.perform l op).2) s

namespace Engine

def perform (e : Engine) : Operation → Effect
  | .chunk stream chunk => (e.feed stream chunk).2
  | .exited code => (e.processExited code).2
  | .stop => e.stop.2
  | .spawnFailed reason => (e.spawnFailed reason).2
  | .readinessTimedOut port timeout => (e.readinessTimedOut port timeout).2

def performAll (e : Engine) : List Operation → Effect
  | [] => ⟨[], e⟩
  | op :: ops => (e.perform op).andThen ((e.perform op).engine.performAll ops)

theorem performAll_append (e : Engine) (ops more : List Operation) :
    e.performAll (ops ++ more) =
      (e.performAll ops).andThen ((e.performAll ops).engine.performAll more) := by
  induction ops generalizing e with
  | nil => rfl
  | cons op ops ih =>
    rw [List.cons_append, performAll, performAll, ih]
    simp only [Effect.andThen, List.append_assoc]

theorem isStep_perform (e : Engine) (op : Operation) : (e.perform op).IsStep e op.closing? := by
  cases op with
  | chunk stream chunk => exact e.isStep_feed stream chunk
  | exited code => exact e.isStep_processExited code
  | stop => exact e.isStep_stop
  | spawnFailed reason => exact e.isStep_spawnFailed reason
  | readinessTimedOut port timeout => exact e.isStep_readinessTimedOut port timeout

theorem performAll_of_ended {e : Engine} (h : e.outcome ≠ none) (ops : List Operation) :
    e.performAll ops = ⟨[], e⟩ := by
  induction ops with
  | nil => rfl
  | cons op ops ih =>
    rw [performAll, (e.isStep_perform op).idle h, ih]
    rfl

theorem course_performAll {e : Engine} {events : List Event} (h : Course e events)
    (ops : List Operation) :
    Course (e.performAll ops).engine (events ++ (e.performAll ops).events) := by
  induction ops generalizing e events with
  | nil => rwa [performAll, List.append_nil]
  | cons op ops ih =>
    have hrest := ih (h.step (e.isStep_perform op))
    rwa [List.append_assoc] at hrest

/-- An event that ends the run is the closing event of an operation on it while it was active. -/
theorem exists_closing {e : Engine} (hactive : e.outcome = none) {ops : List Operation}
    {event : Event} (hmem : event ∈ (e.performAll ops).events)
    (hterminal : event.isTerminal = true) :
    ∃ before op after, ops = before ++ op :: after ∧ op.closing? = some event ∧
      (e.performAll before).engine.outcome = none := by
  induction ops generalizing e with
  | nil => exact absurd hmem List.not_mem_nil
  | cons op ops ih =>
    rcases (e.isStep_perform op).active hactive with hcontinues | ⟨last, hclosing, hconcludes⟩
    · rcases List.mem_append.1 hmem with hfirst | hrest
      · rw [hcontinues.events event hfirst] at hterminal
        exact absurd hterminal (by decide)
      · obtain ⟨before, op', after, hops, hclosing, hbefore⟩ :=
          ih (hcontinues.outcome.trans hactive) hrest
        exact ⟨op :: before, op', after, by rw [hops, List.cons_append], hclosing, hbefore⟩
    · -- after this operation nothing is published any more
      obtain ⟨⟨more, hmore, hopen⟩, hlast, houtcome, -⟩ := hconcludes
      have hended : (e.perform op).engine.outcome ≠ none := by
        rw [houtcome, ← Option.isSome_iff_ne_none, Event.isSome_outcome?]
        exact hlast
      rw [performAll, performAll_of_ended hended] at hmem
      simp only [Effect.andThen, List.append_nil, hmore] at hmem
      rcases List.mem_append.1 hmem with hbefore | hend
      · rw [hopen event hbefore] at hterminal
        exact absurd hterminal (by decide)
      · obtain rfl := List.mem_singleton.1 hend
        exact ⟨[], op, ops, rfl, hclosing, hactive⟩

end Engine

namespace Live

variable {σ : Type} {l : Listener σ}

theorem perform_eq (hl : l.IsQuiet) (s : Live σ) (op : Operation) :
    (s.perform l op).2 = s.after l (s.engine.perform op) := by
  cases op with
  | chunk stream chunk => rw [perform, feed_eq hl]; rfl
  | exited code => rw [perform, processExited_eq hl]; rfl
  | stop => rw [perform, stop_eq]; rfl
  | spawnFailed reason => rw [perform, spawnFailed_eq]; rfl
  | readinessTimedOut port timeout => rw [perform, readinessTimedOut_eq]; rfl

theorem performAll_eq (hl : l.IsQuiet) (s : Live σ) (ops : List Operation) :
    s.performAll l ops = s.after l (s.engine.performAll ops) := by
  induction ops generalizing s with
  | nil => rfl
  | cons op ops ih =>
    rw [performAll, List.foldl_cons, ← performAll, ih, perform_eq hl, Engine.performAll,
      after_andThen]
    rfl

theorem perform_of_ended (l : Listener σ) {s : Live σ} (h : s.engine.outcome ≠ none)
    (op : Operation) : s.perform l op = (op.refusal, s) := by
  have hidle : ¬s.engine.isActive = true := fun hactive => h (Engine.isActive_iff.1 hactive)
  cases op with
  | chunk stream chunk => rw [perform, feed.eq_def, if_neg hidle]; rfl
  | exited code => rw [perform, processExited, if_neg hidle]; rfl
  | stop => rw [perform, stop, if_neg hidle]; rfl
  | spawnFailed reason => rw [perform, spawnFailed, if_neg hidle]; rfl
  | readinessTimedOut port timeout => rw [perform, readinessTimedOut, if_neg hidle]; rfl

end Live

/-- Whatever is done with a new engine, in whatever order, its run ends at most once. At most one
event that ends the run is published, and after it nothing; there is one exactly if the run has an
outcome, it agrees with the outcome and the exit code, and it comes from an operation on the active
run. Once the run has ended, every operation is refused and changes nothing. Stopping an active run
publishes only that, and keeps the table and the counters. -/
theorem ends_once (file : Text) (limit : Nat) (ops : List Operation) :
    ∃ (events : List Event) (e : Engine),
      (∀ {σ : Type} (observe : Event → σ → σ) (heard : σ),
        (⟨Engine.new file limit, heard⟩ : Live σ).performAll (.observing observe) ops =
          ⟨e, events.foldl (fun heard event => observe event heard) heard⟩) ∧
      events.countP (·.isTerminal) ≤ 1 ∧
      ((∃ event ∈ events, event.isTerminal = true) ↔ e.outcome ≠ none) ∧
      (∀ event ∈ events, event.isTerminal = true →
        events.getLast? = some event ∧ e.outcome = event.outcome? ∧
        e.exitCode = event.exitCode? ∧
        ∃ before op after, ops = before ++ op :: after ∧ op.closing? = some event ∧
          ((Engine.new file limit).performAll before).engine.outcome = none) ∧
      (e.exitCode.isSome ↔ e.outcome = some .completed) ∧
      (e.outcome ≠ none → ∀ {σ : Type} (l : Listener σ) (heard : σ) (op : Operation),
        (⟨e, heard⟩ : Live σ).perform l op = (op.refusal, ⟨e, heard⟩)) ∧
      (e.outcome = none → ∀ {σ : Type} (observe : Event → σ → σ) (heard : σ), ∃ stopped,
        (⟨e, heard⟩ : Live σ).perform (.observing observe) .stop =
          (.ok (some true), ⟨stopped, observe .runAborted heard⟩) ∧
        stopped.outcome = some .aborted ∧ stopped.table = e.table ∧
        stopped.linesSeen = e.linesSeen ∧ stopped.linesSuppressed = e.linesSuppressed) := by
  have hcourse := Engine.course_performAll (Course.new file limit) ops
  rw [List.nil_append] at hcourse
  refine ⟨((Engine.new file limit).performAll ops).events,
    ((Engine.new file limit).performAll ops).engine, fun observe heard => ?_,
    hcourse.countP_terminal_le, hcourse.exists_terminal_iff, fun event hmem hterminal => ?_,
    hcourse.isSome_exitCode_iff, fun hended _ l heard op => ?_, fun hactive _ observe heard => ?_⟩
  · rw [Live.performAll_eq (Listener.isQuiet_observing observe)]
    rfl
  · obtain ⟨hlast, houtcome, hcode⟩ := hcourse.of_terminal hmem hterminal
    exact ⟨hlast, houtcome, hcode, Engine.exists_closing rfl hmem hterminal⟩
  · exact Live.perform_of_ended l hended op
  · have hgoes : ((Engine.new file limit).performAll ops).engine.isActive = true :=
      Engine.isActive_iff.2 hactive
    rw [Live.perform, Live.stop, if_pos hgoes]
    exact ⟨_, rfl, rfl, rfl, rfl, rfl⟩

end ScriptRun.Status
