import ScriptRun.Proofs.Status.Ending

/-!
# Stopping a run while it speaks

A listener may stop the run while it hears an event. What is proved here of any listener at all is
how far such a stop reaches. It does not reach into the operation that is going on: the lines that
are left of it are handled as they would have been, and their events follow the one that says that
the run was aborted. An exit that is being handled even completes the run. From the next operation
on, the stop is final like any other.

The proof follows the engine beside the effect that the operation has for quiet listeners
(`Beside`).
-/

namespace ScriptRun.Status

variable {σ : Type}

namespace Listener

/-- The listener, which also keeps the trace of all events. -/
def traced (l : Listener σ) : Listener (σ × List Event) :=
  ⟨fun heard event => (((l.hear heard.1 event).1, heard.2 ++ [event]), (l.hear heard.1 event).2)⟩

/-- Whether a listener asks for a stop while it hears events in order. -/
def asks (l : Listener σ) (heard : σ) : List Event → Bool
  | [] => false
  | event :: events => (l.hear heard event).2 || l.asks (l.hear heard event).1 events

theorem asks_append (l : Listener σ) (heard : σ) (events more : List Event) :
    l.asks heard (events ++ more) =
      (l.asks heard events || l.asks (l.hearAll heard events) more) := by
  induction events generalizing heard with
  | nil => rfl
  | cons event events ih =>
    rw [List.cons_append, asks, ih, asks, Bool.or_assoc]
    rfl

theorem hearAll_traced (l : Listener σ) (told : σ × List Event) (events : List Event) :
    (l.traced.hearAll told events).2 = told.2 ++ events := by
  induction events generalizing told with
  | nil => exact (List.append_nil _).symm
  | cons event events ih =>
    have hrest := ih (l.traced.hear told event).1
    rwa [show (l.traced.hear told event).1.2 = told.2 ++ [event] from rfl,
      List.append_assoc] at hrest

end Listener

/-- The engine after a stop. -/
def Engine.aborted (e : Engine) : Engine := { e.cleared with outcome := some .aborted }

/-- A live engine in the middle of an operation, beside the effect that the operation has for quiet
listeners: nobody has asked for a stop, or somebody has on hearing an event. -/
inductive Beside (l : Listener σ) (told : σ × List Event) (effect : Effect)
    (s : Live (σ × List Event)) : Prop
  | going (hactive : effect.engine.outcome = none) (hengine : s.engine = effect.engine)
      (hbears : l.asks told.1 effect.events = false)
      (hheard : s.heard = (l.hearAll told.1 effect.events, told.2 ++ effect.events))
  | stopped {before after : List Event} {event : Event} (hactive : effect.engine.outcome = none)
      (hengine : s.engine = effect.engine.aborted)
      (hevents : effect.events = before ++ event :: after)
      (hbears : l.asks told.1 before = false)
      (hasks : (l.hear (l.hearAll told.1 before) event).2 = true)
      (hheard : s.heard.2 = told.2 ++ before ++ event :: .runAborted :: after)

namespace Beside

variable {l : Listener σ} {told : σ × List Event} {effect : Effect} {s : Live (σ × List Event)}

theorem begin (l : Listener σ) {e : Engine} (hactive : e.outcome = none) (told : σ × List Event) :
    Beside l told ⟨[], e⟩ ⟨e, told⟩ :=
  .going hactive rfl rfl (Prod.ext rfl (List.append_nil _).symm)

theorem table (h : Beside l told effect s) : s.engine.table = effect.engine.table := by
  cases h with
  | going _ hengine => rw [hengine]
  | stopped _ hengine => rw [hengine]; rfl

/-- A change of the engine that has nothing to do with a stop. -/
theorem modify (h : Beside l told effect s) (f : Engine → Engine)
    (hf : ∀ e, (f e).outcome = e.outcome ∧ f e.aborted = (f e).aborted) :
    Beside l told ⟨effect.events, f effect.engine⟩ { s with engine := f s.engine } := by
  cases h with
  | going hactive hengine hbears hheard =>
    exact .going ((hf _).1.trans hactive) (congrArg f hengine) hbears hheard
  | stopped hactive hengine hevents hbears hasks hheard =>
    refine .stopped ((hf _).1.trans hactive) ?_ hevents hbears hasks hheard
    rw [hengine, (hf _).2]

theorem publish (h : Beside l told effect s) (event : Event) :
    Beside l told (effect.andThen (effect.engine.publish event)) (s.publish l.traced event) := by
  obtain ⟨engine, heard, trace⟩ := s
  cases h with
  | going hactive hengine hbears hheard =>
    obtain rfl : engine = effect.engine := hengine
    obtain ⟨rfl, rfl⟩ := Prod.mk.inj hheard
    unfold Live.publish
    rcases hasks : (l.hear (l.hearAll told.1 effect.events) event).2 with _ | _
    · simp only [Listener.traced, hasks, Bool.false_eq_true, if_false]
      refine .going hactive rfl ?_ ?_
      · simp [Effect.andThen, Engine.publish, l.asks_append, hbears, Listener.asks, hasks]
      · simp [Effect.andThen, Engine.publish, Listener.hearAll]
    · simp only [Listener.traced, hasks, if_true, Live.stop, Engine.isActive_iff.2 hactive]
      refine .stopped hactive rfl rfl hbears hasks ?_
      simp [Live.conclude]
  | @stopped before after asking hactive hengine hevents hbears hasks hheard =>
    obtain rfl : engine = effect.engine.aborted := hengine
    obtain rfl : trace = told.2 ++ before ++ asking :: .runAborted :: after := hheard
    -- a run that was stopped is not stopped again
    have hidle : ∀ heard : σ × List Event,
        ((⟨effect.engine.aborted, heard⟩ : Live _).stop l.traced).2 =
          ⟨effect.engine.aborted, heard⟩ := fun _ => rfl
    have hmore : (effect.andThen (effect.engine.publish event)).events =
        before ++ asking :: (after ++ [event]) := by
      simp [Effect.andThen, Engine.publish, hevents]
    unfold Live.publish
    simp only [Listener.traced] at hidle ⊢
    simp only [hidle, ite_self]
    refine .stopped hactive rfl hmore hbears hasks ?_
    simp

/-! ### Handling lines -/

theorem nothing (h : Beside l told effect s) (e : Engine) (he : e = effect.engine) :
    Beside l told (effect.andThen ⟨[], e⟩) s := by
  rw [Effect.andThen, List.append_nil, he]
  exact h

theorem setStatus (h : Beside l told effect s) (index : Nat) (state : CommandState)
    (message : Text) (durationMs : Option Int) :
    Beside l told (effect.andThen (effect.engine.setStatus index state message durationMs))
      (s.setStatus l.traced index state message durationMs) := by
  unfold Live.setStatus Engine.setStatus
  rw [h.table]
  rcases effect.engine.table.apply index state (some message) durationMs with ⟨_ | _, table⟩
  · exact h.nothing _ rfl
  · exact (h.modify (fun e => { e with table }) fun _ => ⟨rfl, rfl⟩).publish (.statusChange table)

theorem act (h : Beside l told effect s) (r : Reading) :
    Beside l told (effect.andThen (effect.engine.act r)) (s.act l.traced r) := by
  cases r with
  | running index name => exact h.setStatus index .running _ none
  | passed index name ms =>
    exact (h.setStatus index .passed ("Passed: ".toList ++ name) (some ms)).modify
      (fun e => { e with currentIndex := index + 1 }) fun _ => ⟨rfl, rfl⟩
  | failed index name => exact h.setStatus index .failed _ none
  | locationStarted points => exact h.publish (.mockLocationStarted points)
  | locationStopped => exact h.publish .mockLocationStopped
  | unmatched => exact h.nothing _ rfl

theorem report (h : Beside l told effect s) (stream : Stream) (line : Text) :
    Beside l told (effect.andThen (effect.engine.report stream line))
      (s.report l.traced stream line) := by
  have hseen := h.modify (fun e => { e with linesSeen := e.linesSeen + 1 }) fun _ => ⟨rfl, rfl⟩
  unfold Live.report Engine.report
  simp only
  split
  · exact (hseen.modify (fun e => { e with linesSuppressed := e.linesSuppressed + 1 })
      fun _ => ⟨rfl, rfl⟩).nothing _ rfl
  · exact hseen.publish (.logLine stream.name line)

theorem handleLine (h : Beside l told effect s) (stream : Stream) (line : Text) :
    (s.handleLine l.traced stream line).1 = (effect.engine.handleLine stream line).1 ∧
      Beside l told (effect.andThen (effect.engine.handleLine stream line).2)
        (s.handleLine l.traced stream line).2 := by
  have hreported := h.report stream line
  unfold Live.handleLine Engine.handleLine
  cases classify line with
  | ok found =>
    have hacted := hreported.act found.reading
    simp only [Effect.andThen, List.append_assoc] at hacted
    exact ⟨rfl, hacted⟩
  | error fault => exact ⟨rfl, hreported⟩

theorem handleLines (h : Beside l told effect s) (stream : Stream) (lines : List Text) :
    (s.handleLines l.traced stream lines).1 = (effect.engine.handleLines stream lines).1 ∧
      Beside l told (effect.andThen (effect.engine.handleLines stream lines).2)
        (s.handleLines l.traced stream lines).2 := by
  induction lines generalizing effect s with
  | nil => exact ⟨rfl, h.nothing _ rfl⟩
  | cons line rest ih =>
    obtain ⟨hanswer, hhandled⟩ := h.handleLine stream line
    rw [Live.handleLines, Engine.handleLines]
    rcases hlive : s.handleLine l.traced stream line with ⟨answer, handled⟩
    rcases hquiet : effect.engine.handleLine stream line with ⟨_ | _, next⟩
    · rw [hlive, hquiet] at hanswer hhandled
      obtain rfl : answer = _ := hanswer
      exact ⟨rfl, hhandled⟩
    · rw [hlive, hquiet] at hanswer hhandled
      obtain rfl : answer = _ := hanswer
      obtain ⟨hanswers, hrest⟩ := ih hhandled
      simp only [Effect.andThen, List.append_assoc] at hrest
      exact ⟨hanswers, hrest⟩

end Beside

/-! ### Operations on an active run -/

/-- A chunk is handled to its end, whatever the listener asks for. -/
theorem Live.feed_traced (l : Listener σ) {e : Engine} (hactive : e.outcome = none)
    (told : σ × List Event) (stream : Stream) (chunk : Chunk) :
    (feed l.traced ⟨e, told⟩ stream chunk).1 = (e.feed stream chunk).1 ∧
      Beside l told (e.feed stream chunk).2 (feed l.traced ⟨e, told⟩ stream chunk).2 := by
  have hfed : ∀ b, Beside l told ⟨[], e.withBuffer stream b⟩ ⟨e.withBuffer stream b, told⟩ :=
    fun b => .begin l (by rw [Engine.outcome_withBuffer, hactive]) told
  unfold feed Engine.feed
  rw [if_pos (Engine.isActive_iff.2 hactive), if_pos (Engine.isActive_iff.2 hactive)]
  cases stream with
  | stdout => exact (hfed _).handleLines .stdout _
  | stderr => exact (hfed _).handleLines .stderr _

namespace Beside

variable {l : Listener σ} {told : σ × List Event} {effect : Effect} {s : Live (σ × List Event)}

/-- What is left of a stream is handled as it would have been, unless a stop has dropped it. -/
theorem flush (h : Beside l told effect s) (stream : Stream) :
    ∃ more, more.Continues effect.engine ∧
      Beside l told (effect.andThen more) (s.flush l.traced stream).2 := by
  obtain ⟨engine, heard⟩ := s
  cases h with
  | going hactive hengine hbears hheard =>
    obtain rfl : engine = effect.engine := hengine
    have hflushed : Beside l told
        ⟨effect.events, effect.engine.withBuffer stream (effect.engine.buffer stream).flush.2⟩
        ⟨effect.engine.withBuffer stream (effect.engine.buffer stream).flush.2, heard⟩ :=
      .going (by rw [Engine.outcome_withBuffer, hactive]) rfl hbears hheard
    have hlines := (hflushed.handleLines stream (effect.engine.buffer stream).flush.1).2
    refine ⟨(effect.engine.flush stream).2, effect.engine.continues_flush stream, ?_⟩
    cases stream with
    | stdout => exact hlines
    | stderr => exact hlines
  | stopped hactive hengine hevents hbears hasks hheard =>
    obtain rfl : engine = effect.engine.aborted := hengine
    have hkept : (Live.flush l.traced ⟨effect.engine.aborted, heard⟩ stream).2 =
        ⟨effect.engine.aborted, heard⟩ := by
      cases stream <;> rfl
    rw [hkept]
    refine ⟨⟨[], effect.engine⟩, Effect.continues_nil _, ?_⟩
    exact nothing (.stopped hactive rfl hevents hbears hasks hheard) _ rfl

end Beside

/-- An exit is handled to its end: the run is complete even if it was stopped, unless a line was
refused. -/
theorem Live.processExited_traced (l : Listener σ) {e : Engine} (hactive : e.outcome = none)
    (told : σ × List Event) (code : Int) :
    ∃ (effect : Effect) (spoken : Live (σ × List Event)), effect.Continues e ∧
      Beside l told effect spoken ∧
      ((∃ fault, processExited l.traced ⟨e, told⟩ code = (.error fault, spoken)) ∨
        processExited l.traced ⟨e, told⟩ code =
          (.ok true, spoken.conclude l.traced .completed (some code) (.runComplete code))) := by
  obtain ⟨first, hfirst, hspoken⟩ := (Beside.begin l hactive told).flush .stdout
  unfold processExited
  rw [if_pos (Engine.isActive_iff.2 hactive)]
  rcases hout : flush l.traced ⟨e, told⟩ .stdout with ⟨fault | _, spoken⟩
  · rw [hout] at hspoken
    exact ⟨first, spoken, hfirst, hspoken, Or.inl ⟨fault, rfl⟩⟩
  · rw [hout] at hspoken
    obtain ⟨second, hsecond, hended⟩ := hspoken.flush .stderr
    simp only
    rcases herr : flush l.traced spoken .stderr with ⟨fault | _, last⟩
    · rw [herr] at hended
      exact ⟨first.andThen second, last, hfirst.andThen hsecond, hended, Or.inl ⟨fault, rfl⟩⟩
    · rw [herr] at hended
      exact ⟨first.andThen second, last, hfirst.andThen hsecond, hended, Or.inr rfl⟩

/-! ### Whole runs -/

/-- The events that have ended a run with an outcome: none, one, or the one of a stop and that of
the exit that was being handled when it came. -/
inductive EndedBy : Option Outcome → List Event → Prop
  | active : EndedBy none []
  | once {event : Event} {outcome : Outcome} (h : event.outcome? = some outcome) :
      EndedBy (some outcome) [event]
  | overtaken (code : Int) : EndedBy (some .completed) [.runAborted, .runComplete code]

def endings (trace : List Event) : List Event := trace.filter (·.isTerminal)

theorem endings_append (trace more : List Event) :
    endings (trace ++ more) = endings trace ++ endings more :=
  List.filter_append ..

theorem endings_of_open {events : List Event} (h : ∀ event ∈ events, event.isTerminal = false) :
    endings events = [] :=
  List.filter_eq_nil_iff.2 fun event hevent => by simp [h event hevent]

/-- In the middle of an operation the run goes on, or it was stopped once. -/
theorem Beside.endings {l : Listener σ} {told : σ × List Event} {effect : Effect}
    {s : Live (σ × List Event)} (h : Beside l told effect s) {e : Engine}
    (heffect : effect.Continues e) (htold : endings told.2 = []) :
    s.engine.outcome = none ∧ endings s.heard.2 = [] ∨
      s.engine.outcome = some .aborted ∧ endings s.heard.2 = [.runAborted] := by
  have hopen := heffect.events
  cases h with
  | going hactive hengine hbears hheard =>
    refine Or.inl ⟨hengine ▸ hactive, ?_⟩
    rw [hheard, endings_append, htold, endings_of_open hopen]
    rfl
  | stopped hactive hengine hevents hbears hasks hheard =>
    rw [hevents, List.forall_mem_append, List.forall_mem_cons] at hopen
    obtain ⟨hbefore, hevent, hafter⟩ := hopen
    refine Or.inr ⟨hengine ▸ rfl, ?_⟩
    rw [hheard, endings_append, endings_append, htold, endings_of_open hbefore]
    have hrest := endings_of_open hafter
    unfold ScriptRun.Status.endings at hrest ⊢
    rw [List.filter_cons_of_neg (by simp [hevent]), List.filter_cons_of_pos rfl, hrest]
    rfl

theorem Effect.IsStep.endedBy {effect : Effect} {e : Engine} {closing : Option Event}
    (h : effect.IsStep e closing) (hactive : e.outcome = none) {trace : List Event}
    (htrace : endings trace = []) :
    EndedBy effect.engine.outcome (endings (trace ++ effect.events)) := by
  rw [endings_append, htrace, List.nil_append]
  rcases h.active hactive with hcontinues | ⟨event, -, ⟨more, hmore, hopen⟩, hterminal, hended, -⟩
  · rw [hcontinues.outcome, hactive, endings_of_open hcontinues.events]
    exact .active
  · obtain ⟨outcome, houtcome⟩ := Option.isSome_iff_exists.1 (event.isSome_outcome?.trans hterminal)
    rw [hended, houtcome, hmore, endings_append, endings_of_open hopen, List.nil_append, endings,
      List.filter_cons_of_pos hterminal, List.filter_nil]
    exact .once houtcome

namespace Live

/-- An operation that takes no output has its effect whatever the listener answers. -/
theorem endedBy_after (l : Listener σ) {s : Live (σ × List Event)} {effect : Effect}
    {closing : Option Event} (hstep : effect.IsStep s.engine closing)
    (hactive : s.engine.outcome = none) (htrace : endings s.heard.2 = []) :
    EndedBy (s.after l.traced effect).engine.outcome
      (endings (s.after l.traced effect).heard.2) := by
  rw [after, Listener.hearAll_traced]
  exact hstep.endedBy hactive htrace

theorem endedBy_perform (l : Listener σ) {s : Live (σ × List Event)}
    (h : EndedBy s.engine.outcome (endings s.heard.2)) (op : Operation) :
    EndedBy (s.perform l.traced op).2.engine.outcome
      (endings (s.perform l.traced op).2.heard.2) := by
  by_cases hactive : s.engine.outcome = none
  · have htrace : endings s.heard.2 = [] := by
      rw [hactive] at h
      generalize endings s.heard.2 = ended at h
      cases h
      rfl
    have hmidway : ∀ {effect : Effect} {spoken : Live (σ × List Event)},
        effect.Continues s.engine → Beside l s.heard effect spoken →
        EndedBy spoken.engine.outcome (endings spoken.heard.2) := fun heffect hspoken => by
      obtain ⟨houtcome, hended⟩ | ⟨houtcome, hended⟩ := hspoken.endings heffect htrace
      · rw [houtcome, hended]
        exact .active
      · rw [houtcome, hended]
        exact .once rfl
    cases op with
    | chunk stream chunk =>
      have hcontinues : (s.engine.feed stream chunk).2.Continues s.engine := by
        rcases (s.engine.isStep_feed stream chunk).active hactive with h | ⟨_, hnone, -⟩
        · exact h
        · exact nomatch hnone
      exact hmidway hcontinues (feed_traced l hactive s.heard stream chunk).2
    | exited code =>
      obtain ⟨effect, spoken, heffect, hspoken, hexited⟩ :=
        processExited_traced l hactive s.heard code
      rw [perform]
      obtain ⟨fault, hexited⟩ | hexited := hexited
      · rw [hexited]
        exact hmidway heffect hspoken
      · rw [hexited]
        show EndedBy (some .completed) (endings (spoken.heard.2 ++ [.runComplete code]))
        rw [endings_append]
        obtain ⟨-, hended⟩ | ⟨-, hended⟩ := hspoken.endings heffect htrace
        · rw [hended]
          exact .once rfl
        · rw [hended]
          exact .overtaken code
    | stop =>
      rw [perform, stop_eq]
      exact endedBy_after l s.engine.isStep_stop hactive htrace
    | spawnFailed reason =>
      rw [perform, spawnFailed_eq]
      exact endedBy_after l (s.engine.isStep_spawnFailed reason) hactive htrace
    | readinessTimedOut port timeout =>
      rw [perform, readinessTimedOut_eq]
      exact endedBy_after l (s.engine.isStep_readinessTimedOut port timeout) hactive htrace
  · rw [perform_of_ended l.traced hactive]
    exact h

theorem endedBy_performAll (l : Listener σ) {s : Live (σ × List Event)}
    (h : EndedBy s.engine.outcome (endings s.heard.2)) (ops : List Operation) :
    EndedBy (s.performAll l.traced ops).engine.outcome
      (endings (s.performAll l.traced ops).heard.2) := by
  induction ops generalizing s with
  | nil => exact h
  | cons op ops ih => exact ih (endedBy_perform l h op)

end Live

/-- Whatever a listener answers, a run is ended once by the end of each operation and is final then:
all operations after it are refused and change nothing. But a stop that a listener asks for does not
end the operation in which it comes. A chunk is handled to its end, with the events that it has for
quiet listeners; the one that says that the run was aborted stands among them. An exit is handled to
its end too, and completes the run that was aborted. -/
theorem stop_from_listener (l : Listener σ) (heard : σ) (file : Text) (limit : Nat)
    (ops : List Operation) :
    let s := (⟨Engine.new file limit, (heard, [])⟩ : Live _).performAll l.traced ops
    EndedBy s.engine.outcome (endings s.heard.2) ∧
    (s.engine.outcome ≠ none → ∀ op, s.perform l.traced op = (op.refusal, s)) ∧
    (s.engine.outcome = none → ∀ stream chunk,
      (s.feed l.traced stream chunk).1 = (s.engine.feed stream chunk).1 ∧
      Beside l s.heard (s.engine.feed stream chunk).2 (s.feed l.traced stream chunk).2) ∧
    (s.engine.outcome = none → ∀ code, ∃ effect spoken, effect.Continues s.engine ∧
      Beside l s.heard effect spoken ∧
      ((∃ fault, s.processExited l.traced code = (.error fault, spoken)) ∨
        s.processExited l.traced code =
          (.ok true, spoken.conclude l.traced .completed (some code) (.runComplete code)))) :=
  ⟨Live.endedBy_performAll l .active ops, Live.perform_of_ended l.traced,
    fun hactive stream chunk => Live.feed_traced l hactive _ stream chunk,
    fun hactive code => Live.processExited_traced l hactive _ code⟩

/-- Asks for a stop at every line of the log. -/
def hasty : Listener Unit :=
  ⟨fun _ event => ((), match event with | .logLine .. => true | _ => false)⟩

def hastyRun (output : String) : Live (Unit × List Event) :=
  (Live.feed hasty.traced ⟨Engine.new [] 80, ((), [])⟩ .stdout (.text output.toList)).2

/-- A stop at the first of two lines is followed by the second one and by what it says. A stop at
the unfinished line that an exit hands out is followed by the completion of the run. -/
theorem stop_not_final :
    let fed := hastyRun "building\n✓ [0] launchApp (5ms)\n"
    let exited := (Live.processExited hasty.traced (hastyRun "building") 0).2
    (fed.heard.2.map Event.type =
        ["log_line", "run_aborted", "log_line", "status_change"].map String.toList ∧
      fed.engine.outcome = some .aborted ∧ fed.engine.linesSeen = 2 ∧
      fed.engine.currentIndex = 1 ∧ fed.engine.table.get? 0 ≠ none) ∧
    exited.heard.2.map Event.type =
        ["log_line", "run_aborted", "run_complete"].map String.toList ∧
      exited.engine.outcome = some .completed ∧ exited.engine.exitCode = some 0 := by
  decide +kernel

end ScriptRun.Status
