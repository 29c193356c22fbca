import ScriptRun.Status.Engine

/-!
# What an engine publishes to quiet listeners

A listener that never asks for the run to be stopped has no influence on the engine. Every operation
then has an effect that depends on the engine alone: the events that it publishes, in order, and the
engine after it. The effects are written down here without a listener, and `Live` is shown to have
them: whatever a quiet listener makes of events, it hears exactly these.

What the proofs need of an operation is therefore a fact about its effect.
-/

namespace ScriptRun.Status

variable {σ : Type}

/-- A listener that never asks for the run to be stopped. -/
def Listener.IsQuiet (l : Listener σ) : Prop := ∀ heard event, (l.hear heard event).2 = false

def Listener.hearAll (l : Listener σ) (heard : σ) (events : List Event) : σ :=
  events.foldl (fun heard event => (l.hear heard event).1) heard

theorem Listener.hearAll_append (l : Listener σ) (heard : σ) (events more : List Event) :
    l.hearAll heard (events ++ more) = l.hearAll (l.hearAll heard events) more :=
  List.foldl_append

theorem Listener.isQuiet_recorder : Listener.recorder.IsQuiet := fun _ _ => rfl

theorem Listener.isQuiet_observing (observe : Event → σ → σ) :
    (Listener.observing observe).IsQuiet := fun _ _ => rfl

/-- The recorder has written down what it hears. -/
theorem Listener.hearAll_recorder (heard : Array Event) (events : List Event) :
    Listener.recorder.hearAll heard events = heard ++ events.toArray := by
  induction events generalizing heard with
  | nil => simp [Listener.hearAll]
  | cons event events ih =>
    rw [← List.singleton_append, Listener.hearAll_append, ih]
    simp [Listener.hearAll, Listener.recorder]

/-- The events that an operation publishes, and the engine after it. -/
structure Effect where
  events : List Event
  engine : Engine

def Live.after (s : Live σ) (l : Listener σ) (effect : Effect) : Live σ :=
  ⟨effect.engine, l.hearAll s.heard effect.events⟩

def Effect.andThen (first second : Effect) : Effect :=
  ⟨first.events ++ second.events, second.engine⟩

theorem Live.after_andThen (s : Live σ) (l : Listener σ) (first second : Effect) :
    s.after l (first.andThen second) = (s.after l first).after l second := by
  simp only [Live.after, Effect.andThen, Listener.hearAll_append]

namespace Engine

/-! ### The effects -/

/-- Publishing an event in the middle of a run. -/
def publish (e : Engine) (event : Event) : Effect := ⟨[event], e⟩

def setStatus (e : Engine) (index : Nat) (state : CommandState) (message : Text)
    (durationMs : Option Int) : Effect :=
  match e.table.apply index state (some message) durationMs with
  | (true, table) => { e with table }.publish (.statusChange table)
  | (false, _) => ⟨[], e⟩

def act (e : Engine) : Reading → Effect
  | .running index name => e.setStatus index .running ("Running: ".toList ++ name) none
  | .passed index name ms =>
    let effect := e.setStatus index .passed ("Passed: ".toList ++ name) (some ms)
    { effect with engine := { effect.engine with currentIndex := index + 1 } }
  | .failed index name => e.setStatus index .failed ("Failed: ".toList ++ name) none
  | .locationStarted points => e.publish (.mockLocationStarted points)
  | .locationStopped => e.publish .mockLocationStopped
  | .unmatched => ⟨[], e⟩

def report (e : Engine) (stream : Stream) (line : Text) : Effect :=
  let e := { e with linesSeen := e.linesSeen + 1 }
  if stream = .stderr && isNoise line then
    ⟨[], { e with linesSuppressed := e.linesSuppressed + 1 }⟩
  else e.publish (.logLine stream.name line)

def handleLine (e : Engine) (stream : Stream) (line : Text) :
    Except NumeralTooLong Unit × Effect :=
  let reported := e.report stream line
  match classify line with
  | .ok found => (.ok (), reported.andThen (reported.engine.act found.reading))
  | .error fault => (.error fault, reported)

def handleLines (e : Engine) (stream : Stream) : List Text → Except NumeralTooLong Unit × Effect
  | [] => (.ok (), ⟨[], e⟩)
  | line :: rest =>
    match e.handleLine stream line with
    | (.ok (), effect) =>
      let (answer, more) := effect.engine.handleLines stream rest
      (answer, effect.andThen more)
    | (.error fault, effect) => (.error fault, effect)

def buffer (e : Engine) : Stream → LineBuffer
  | .stdout => e.stdout
  | .stderr => e.stderr

def withBuffer (e : Engine) (stream : Stream) (b : LineBuffer) : Engine :=
  match stream with
  | .stdout => { e with stdout := b }
  | .stderr => { e with stderr := b }

def feed (e : Engine) (stream : Stream) (chunk : Chunk) : Except NumeralTooLong Unit × Effect :=
  if e.isActive then
    let (lines, b) := (e.buffer stream).feed chunk
    (e.withBuffer stream b).handleLines stream lines
  else (.ok (), ⟨[], e⟩)

def flush (e : Engine) (stream : Stream) : Except NumeralTooLong Unit × Effect :=
  let (lines, b) := (e.buffer stream).flush
  (e.withBuffer stream b).handleLines stream lines

def conclude (e : Engine) (outcome : Outcome) (exitCode : Option Int) (event : Event) : Effect :=
  { e with outcome := some outcome, exitCode }.publish event

def processExited (e : Engine) (code : Int) : Except NumeralTooLong Bool × Effect :=
  if e.isActive then
    match e.flush .stdout with
    | (.error fault, first) => (.error fault, first)
    | (.ok (), first) =>
      match first.engine.flush .stderr with
      | (.error fault, second) => (.error fault, first.andThen second)
      | (.ok (), second) =>
        (.ok true, (first.andThen second).andThen
          (second.engine.conclude .completed (some code) (.runComplete code)))
  else (.ok false, ⟨[], e⟩)

def cleared (e : Engine) : Engine := { e with stdout := e.stdout.clear, stderr := e.stderr.clear }

def stop (e : Engine) : Bool × Effect :=
  if e.isActive then (true, e.cleared.conclude .aborted e.exitCode .runAborted)
  else (false, ⟨[], e⟩)

def spawnFailed (e : Engine) (reason : Text) : Bool × Effect :=
  if e.isActive then (true, e.conclude .spawnFailed e.exitCode (.spawnFailed reason))
  else (false, ⟨[], e⟩)

def readinessTimedOut (e : Engine) (port : Int) (timeout : Number) : Bool × Effect :=
  if e.isActive then
    (true, e.conclude .readinessTimedOut e.exitCode (.readinessTimedOut port timeout))
  else (false, ⟨[], e⟩)

end Engine

namespace Live

/-! ### Live engines have them -/

variable {l : Listener σ}

theorem publish_eq (hl : l.IsQuiet) (s : Live σ) (event : Event) :
    s.publish l event = s.after l (s.engine.publish event) := by
  obtain ⟨heard, hhear⟩ : ∃ heard, l.hear s.heard event = (heard, false) :=
    ⟨(l.hear s.heard event).1, Prod.ext rfl (hl s.heard event)⟩
  unfold publish
  simp only [Bool.false_eq_true, if_false, after, Engine.publish, Listener.hearAll,
    List.foldl_cons, List.foldl_nil, hhear]

theorem setStatus_eq (hl : l.IsQuiet) (s : Live σ) (index : Nat) (state : CommandState)
    (message : Text) (durationMs : Option Int) :
    s.setStatus l index state message durationMs =
      s.after l (s.engine.setStatus index state message durationMs) := by
  unfold setStatus Engine.setStatus
  rcases s.engine.table.apply index state (some message) durationMs with ⟨_ | _, table⟩
  · rfl
  · exact publish_eq hl _ _

theorem act_eq (hl : l.IsQuiet) (s : Live σ) (r : Reading) :
    s.act l r = s.after l (s.engine.act r) := by
  cases r with
  | running index name => exact setStatus_eq hl s index .running _ none
  | passed index name ms =>
    rw [act, setStatus_eq hl]
    rfl
  | failed index name => exact setStatus_eq hl s index .failed _ none
  | locationStarted points => exact publish_eq hl s _
  | locationStopped => exact publish_eq hl s _
  | unmatched => rfl

theorem report_eq (hl : l.IsQuiet) (s : Live σ) (stream : Stream) (line : Text) :
    s.report l stream line = s.after l (s.engine.report stream line) := by
  unfold report Engine.report
  split
  · rfl
  · exact publish_eq hl _ _

theorem handleLine_eq (hl : l.IsQuiet) (s : Live σ) (stream : Stream) (line : Text) :
    s.handleLine l stream line =
      ((s.engine.handleLine stream line).1, s.after l (s.engine.handleLine stream line).2) := by
  unfold handleLine Engine.handleLine
  rw [report_eq hl]
  cases classify line with
  | ok found =>
    simp only [act_eq hl, after_andThen]
    rfl
  | error fault => rfl

theorem handleLines_eq (hl : l.IsQuiet) (s : Live σ) (stream : Stream) (lines : List Text) :
    s.handleLines l stream lines =
      ((s.engine.handleLines stream lines).1, s.after l (s.engine.handleLines stream lines).2) := by
  induction lines generalizing s with
  | nil => rfl
  | cons line rest ih =>
    rw [handleLines, Engine.handleLines, handleLine_eq hl]
    rcases s.engine.handleLine stream line with ⟨_ | _, effect⟩
    · rfl
    · simp only [ih, after_andThen]
      rfl

theorem feed_eq (hl : l.IsQuiet) (s : Live σ) (stream : Stream) (chunk : Chunk) :
    s.feed l stream chunk =
      ((s.engine.feed stream chunk).1, s.after l (s.engine.feed stream chunk).2) := by
  unfold feed Engine.feed
  split
  · cases stream with
    | stdout => exact handleLines_eq hl _ _ _
    | stderr => exact handleLines_eq hl _ _ _
  · rfl

theorem flush_eq (hl : l.IsQuiet) (s : Live σ) (stream : Stream) :
    s.flush l stream =
      ((s.engine.flush stream).1, s.after l (s.engine.flush stream).2) := by
  cases stream with
  | stdout => exact handleLines_eq hl _ _ _
  | stderr => exact handleLines_eq hl _ _ _

theorem conclude_eq (s : Live σ) (outcome : Outcome) (exitCode : Option Int) (event : Event) :
    s.conclude l outcome exitCode event = s.after l (s.engine.conclude outcome exitCode event) :=
  rfl

theorem processExited_eq (hl : l.IsQuiet) (s : Live σ) (code : Int) :
    s.processExited l code =
      ((s.engine.processExited code).1, s.after l (s.engine.processExited code).2) := by
  unfold processExited Engine.processExited
  split
  · rw [flush_eq hl]
    rcases s.engine.flush .stdout with ⟨_ | _, first⟩
    · rfl
    · have hengine : (s.after l first).engine = first.engine := rfl
      simp only [flush_eq hl, hengine]
      rcases first.engine.flush .stderr with ⟨_ | _, second⟩
      · simp only [after_andThen]
      · simp only [after_andThen, conclude_eq]
        rfl
  · rfl

theorem stop_eq (s : Live σ) :
    s.stop l = (s.engine.stop.1, s.after l s.engine.stop.2) := by
  unfold stop Engine.stop
  split
  · rfl
  · rfl

theorem spawnFailed_eq (s : Live σ) (reason : Text) :
    s.spawnFailed l reason =
      ((s.engine.spawnFailed reason).1, s.after l (s.engine.spawnFailed reason).2) := by
  unfold spawnFailed Engine.spawnFailed
  split
  · rfl
  · rfl

theorem readinessTimedOut_eq (s : Live σ) (port : Int) (timeout : Number) :
    s.readinessTimedOut l port timeout =
      ((s.engine.readinessTimedOut port timeout).1,
        s.after l (s.engine.readinessTimedOut port timeout).2) := by
  unfold readinessTimedOut Engine.readinessTimedOut
  split
  · rfl
  · rfl

end Live

/-! ### Effects in the middle of a run

Handling a line publishes no event that ends the run, and it leaves alone what only the arrival of a
chunk or the end of the run changes. -/

namespace Effect

/-- An effect by which an active run goes on. -/
structure Continues (effect : Effect) (e : Engine) : Prop where
  outcome : effect.engine.outcome = e.outcome
  exitCode : effect.engine.exitCode = e.exitCode
  events : ∀ event ∈ effect.events, event.isTerminal = false

/-- An effect of handling lines, by which the buffers stay as they are. -/
structure Handles (effect : Effect) (e : Engine) : Prop extends Continues effect e where
  buffer : ∀ stream, effect.engine.buffer stream = e.buffer stream

variable {first second : Effect} {e : Engine}

theorem continues_nil (e : Engine) : (⟨[], e⟩ : Effect).Continues e :=
  ⟨rfl, rfl, fun _ h => absurd h List.not_mem_nil⟩

theorem handles_nil (e : Engine) : (⟨[], e⟩ : Effect).Handles e :=
  ⟨continues_nil e, fun _ => rfl⟩

theorem Continues.andThen (h : first.Continues e) (h' : second.Continues first.engine) :
    (first.andThen second).Continues e := by
  refine ⟨h'.outcome.trans h.outcome, h'.exitCode.trans h.exitCode, fun event hevent => ?_⟩
  rcases List.mem_append.1 hevent with hfirst | hsecond
  · exact h.events event hfirst
  · exact h'.events event hsecond

theorem Handles.andThen (h : first.Handles e) (h' : second.Handles first.engine) :
    (first.andThen second).Handles e :=
  ⟨h.toContinues.andThen h'.toContinues, fun stream => (h'.buffer stream).trans (h.buffer stream)⟩

/-- Only the outcome and the exit code of the engine before matter. -/
theorem Continues.congr {e' : Engine} (h : first.Continues e) (houtcome : e.outcome = e'.outcome)
    (hcode : e.exitCode = e'.exitCode) : first.Continues e' :=
  ⟨h.outcome.trans houtcome, h.exitCode.trans hcode, h.events⟩

end Effect

namespace Engine

theorem buffer_withBuffer (e : Engine) (stream other : Stream) (b : LineBuffer) :
    (e.withBuffer stream b).buffer other = if other = stream then b else e.buffer other := by
  cases stream with
  | stdout => cases other <;> rfl
  | stderr => cases other <;> rfl

@[simp] theorem outcome_withBuffer (e : Engine) (stream : Stream) (b : LineBuffer) :
    (e.withBuffer stream b).outcome = e.outcome := by
  cases stream <;> rfl

@[simp] theorem exitCode_withBuffer (e : Engine) (stream : Stream) (b : LineBuffer) :
    (e.withBuffer stream b).exitCode = e.exitCode := by
  cases stream <;> rfl

theorem handles_publish (e : Engine) {event : Event} (h : event.isTerminal = false) :
    (e.publish event).Handles e := by
  refine ⟨⟨rfl, rfl, fun other hother => ?_⟩, fun _ => rfl⟩
  rw [List.mem_singleton.1 hother, h]

theorem handles_setStatus (e : Engine) (index : Nat) (state : CommandState) (message : Text)
    (durationMs : Option Int) : (e.setStatus index state message durationMs).Handles e := by
  unfold setStatus
  rcases e.table.apply index state (some message) durationMs with ⟨_ | _, table⟩
  · exact Effect.handles_nil e
  · have hpublish := { e with table }.handles_publish
      (show (Event.statusChange table).isTerminal = false from rfl)
    exact ⟨hpublish.congr rfl rfl, fun stream => by cases stream <;> rfl⟩

theorem handles_act (e : Engine) (r : Reading) : (e.act r).Handles e := by
  cases r with
  | running index name => exact e.handles_setStatus index .running _ none
  | passed index name ms =>
    obtain ⟨⟨houtcome, hcode, hevents⟩, hbuffer⟩ :=
      e.handles_setStatus index .passed ("Passed: ".toList ++ name) (some ms)
    refine ⟨⟨houtcome, hcode, hevents⟩, fun stream => ?_⟩
    rw [← hbuffer stream]
    cases stream <;> rfl
  | failed index name => exact e.handles_setStatus index .failed _ none
  | locationStarted points => exact e.handles_publish rfl
  | locationStopped => exact e.handles_publish rfl
  | unmatched => exact Effect.handles_nil e

theorem handles_report (e : Engine) (stream : Stream) (line : Text) :
    (e.report stream line).Handles e := by
  unfold report
  split
  · refine ⟨⟨rfl, rfl, fun _ h => absurd h List.not_mem_nil⟩, fun other => ?_⟩
    cases other <;> rfl
  · refine ⟨⟨rfl, rfl, fun event hevent => ?_⟩, fun other => ?_⟩
    · rw [List.mem_singleton.1 hevent]
      rfl
    · cases other <;> rfl

theorem handles_handleLine (e : Engine) (stream : Stream) (line : Text) :
    (e.handleLine stream line).2.Handles e := by
  unfold handleLine
  cases classify line with
  | ok found => exact (e.handles_report stream line).andThen (handles_act _ _)
  | error fault => exact e.handles_report stream line

theorem handles_handleLines (e : Engine) (stream : Stream) (lines : List Text) :
    (e.handleLines stream lines).2.Handles e := by
  induction lines generalizing e with
  | nil => exact Effect.handles_nil e
  | cons line rest ih =>
    have hline := e.handles_handleLine stream line
    rw [handleLines]
    generalize e.handleLine stream line = handled at hline
    rcases handled with ⟨_ | _, effect⟩
    · exact hline
    · exact hline.andThen (ih effect.engine)

theorem continues_flush (e : Engine) (stream : Stream) : (e.flush stream).2.Continues e := by
  refine (handles_handleLines _ stream _).congr ?_ ?_
  · rw [outcome_withBuffer]
  · rw [exitCode_withBuffer]

end Engine

end ScriptRun.Status
