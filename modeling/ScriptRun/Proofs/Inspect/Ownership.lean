import ScriptRun.Proofs.Inspect.Interleaving
import ScriptRun.Proofs.Inspect.Processes
import ScriptRun.Proofs.Port.Waiting

/-!
# What an inspector owns

An inspector owns at most one process and at most one engine that goes on: those of the current
session, or of the one that a start is just about. What is said here of all states, also of those
in the middle of a start or a stop, is which process may be running and which engine may be active
(`Shared.Owned`). Nothing that others do gives the inspector more, and every action of the caller
that gives something up leaves it gone.
-/

namespace ScriptRun.Inspect

open Run Settings Status

variable {ω : Type}

/-! ### Output sessions -/

namespace Inspector

def engines (i : Inspector ω) : List Engine := i.outputs.map (·.engine)

theorem getElem?_engines (i : Inspector ω) (n : Nat) :
    i.engines[n]? = i.outputs[n]?.map (·.engine) :=
  List.getElem?_map ..

theorem length_engines (i : Inspector ω) : i.engines.length = i.outputs.length :=
  List.length_map ..

theorem frame_withOutput (i : Inspector ω) (n : Nat) (act : Session → ω → Session × ω) :
    (i.withOutput n act).launcher = i.launcher ∧ (i.withOutput n act).current = i.current := by
  unfold withOutput
  split <;> exact ⟨rfl, rfl⟩

/-- What is done to an output session is a turn of its engine. -/
theorem turn_withOutput {l : Listener ω} {act : Session → ω → Session × ω}
    (hact : Session.Steps l act) (i : Inspector ω) (n : Nat) :
    ∃ events, (i.withOutput n act).heard = l.hearAll i.heard events ∧
      Turn n i.engines events (i.withOutput n act).engines := by
  rcases hs : i.outputs[n]? with _ | s
  · rw [withOutput_of_none hs]
    exact ⟨[], rfl, .idle _⟩
  · obtain ⟨effect, closing, hstep, hengine, hheard⟩ := hact s i.heard
    have hbefore : i.engines[n]? = some s.engine := by
      rw [getElem?_engines, hs, Option.map_some]
    rw [withOutput_of_some hs]
    refine ⟨effect.events, hheard, ?_⟩
    have hturn := Turn.step hbefore hstep
    rw [← hengine] at hturn
    simpa only [engines, List.map_set] using hturn

/-- An action on an engine that ends its run, if it has not ended before. -/
structure Ends (l : Listener ω) (act : Live ω → Live ω) : Prop where
  step : ∀ live, ∃ (effect : Effect) (closing : Option Event), effect.IsStep live.engine closing ∧
    act live = live.after l effect
  ended : ∀ live, (act live).engine.outcome ≠ none

theorem ends_stop (l : Listener ω) : Ends l fun live => (live.stop l).2 := by
  refine ⟨fun live => ⟨_, _, live.engine.isStep_stop, by rw [Live.stop_eq]⟩, fun live => ?_⟩
  unfold Live.stop
  split
  · exact Option.some_ne_none _
  · rename_i hended
    exact fun houtcome => hended (Engine.isActive_iff.2 houtcome)

theorem ends_readinessTimedOut (l : Listener ω) (port : Int) (timeout : Number) :
    Ends l fun live => (live.readinessTimedOut l port timeout).2 := by
  refine ⟨fun live => ⟨_, _, live.engine.isStep_readinessTimedOut port timeout,
    by rw [Live.readinessTimedOut_eq]⟩, fun live => ?_⟩
  unfold Live.readinessTimedOut
  split
  · exact Option.some_ne_none _
  · rename_i hended
    exact fun houtcome => hended (Engine.isActive_iff.2 houtcome)

theorem Ends.steps {l : Listener ω} {act : Live ω → Live ω} (hact : Ends l act) :
    Session.Steps l fun s heard =>
      ({ s with engine := (act ⟨s.engine, heard⟩).engine }, (act ⟨s.engine, heard⟩).heard) := by
  intro s heard
  obtain ⟨effect, closing, hstep, heq⟩ := hact.step ⟨s.engine, heard⟩
  exact ⟨effect, closing, hstep, congrArg Live.engine heq, congrArg Live.heard heq⟩

theorem ended_withEngine {l : Listener ω} {act : Live ω → Live ω} (hact : Ends l act)
    (i : Inspector ω) (n : Nat) {e : Engine} (he : (i.withEngine n act).engines[n]? = some e) :
    e.outcome ≠ none := by
  rw [getElem?_engines, withEngine] at he
  rcases hs : i.outputs[n]? with _ | s
  · rw [withOutput_of_none hs, hs] at he
    exact absurd he (by simp)
  · rw [withOutput_of_some hs, List.getElem?_set_self (List.getElem?_eq_some_iff.1 hs).1] at he
    rw [← Option.some.inj he]
    exact hact.ended _

end Inspector

/-! ### What an attempt has published -/

namespace Attempt

/-- What an attempt has published is the course of its engine, or all there is to say of a tool that
could not be started. -/
def IsRecorded (engines : List Engine) (t : Attempt) : Prop :=
  match t.answer with
  | .ok n => ∃ e, engines[n]? = some e ∧ Course e t.events
  | .error _ => ∃ event : Event, event.isTerminal = true ∧ t.events = [event]

theorem output?_eq_some {t : Attempt} {n : Nat} : t.output? = some n ↔ t.answer = .ok n := by
  unfold output?
  cases t.answer with
  | ok m => simp [Except.toOption]
  | error fault => simp [Except.toOption]

theorem output?_eq_none {t : Attempt} : t.output? = none ↔ ∃ fault, t.answer = .error fault := by
  unfold output?
  cases t.answer with
  | ok m => simp [Except.toOption]
  | error fault => simp [Except.toOption]

theorem answer_credit (n : Nat) (events : List Event) (t : Attempt) :
    (t.credit n events).answer = t.answer := by
  unfold credit
  split <;> rfl

theorem map_credit_nil (n : Nat) (attempts : List Attempt) :
    attempts.map (credit n []) = attempts := by
  conv_rhs => rw [← List.map_id attempts]
  refine List.map_congr_left fun t _ => ?_
  unfold credit
  split
  · rw [List.append_nil]
    rfl
  · rfl

/-- Events that are credited to the last attempt alone come after all others. -/
theorem flatMap_credit {before : List Attempt} {t : Attempt} {n : Nat} (ht : t.output? = some n)
    (hbefore : ∀ other ∈ before, other.output? ≠ some n) (events : List Event) :
    ((before ++ [t]).map (credit n events)).flatMap (·.events) =
      (before ++ [t]).flatMap (·.events) ++ events := by
  have hothers : before.map (credit n events) = before := by
    conv_rhs => rw [← List.map_id before]
    exact List.map_congr_left fun other hother => if_neg (hbefore other hother)
  rw [List.map_append, hothers, List.map_singleton, credit, if_pos ht]
  simp

theorem IsRecorded.turn {t : Attempt} {engines engines' : List Engine} (h : t.IsRecorded engines)
    {n : Nat} {events : List Event} (hturn : Turn n engines events engines') :
    (t.credit n events).IsRecorded engines' := by
  rcases houtput : t.output? with _ | m
  · obtain ⟨fault, hfault⟩ := output?_eq_none.1 houtput
    rw [credit, houtput, if_neg (by simp)]
    unfold IsRecorded at h ⊢
    rwa [hfault] at h ⊢
  · have hanswer := output?_eq_some.1 houtput
    unfold IsRecorded at h
    rw [hanswer] at h
    obtain ⟨e, he, hcourse⟩ := h
    by_cases hm : m = n
    · subst hm
      obtain ⟨effect, closing, hstep, rfl, rfl⟩ := hturn.exists_step he
      rw [credit, houtput, if_pos rfl]
      unfold IsRecorded
      rw [hanswer]
      exact ⟨_, List.getElem?_set_self (List.getElem?_eq_some_iff.1 he).1, hcourse.step hstep⟩
    · rw [credit, houtput, if_neg fun hn => hm (Option.some.inj hn)]
      unfold IsRecorded
      rw [hanswer]
      refine ⟨e, ?_, hcourse⟩
      cases hturn with
      | idle => exact he
      | step hengine hstep => rw [List.getElem?_set_ne fun hn => hm hn.symm, he]

theorem IsRecorded.more {t : Attempt} {engines : List Engine} (h : t.IsRecorded engines)
    (more : List Engine) : t.IsRecorded (engines ++ more) := by
  unfold IsRecorded at h ⊢
  split at h
  · obtain ⟨e, he, hcourse⟩ := h
    exact ⟨e, by rw [List.getElem?_append_left (List.getElem?_eq_some_iff.1 he).1, he], hcourse⟩
  · exact h

end Attempt

/-- An audience that observes and keeps the trace of all events. -/
def tracing (observe : Event → ω → ω) : Listener (ω × List Event) :=
  (Audience.tracing observe fun _ _ told => (.ok (), told)).toListener

/-! ### The invariant -/

namespace Shared

/-- At most one process is running, the given one, and at most one engine is active, that of the
given output session, which belongs to the last attempt. The current session is the given one. At
least the given number of processes were started. The given answers are those of all attempts, one
for each output session, and what was published is what the attempts have published. -/
structure Owned (w : Shared ω) (started : Nat) (answers : List (Except StartFault Nat))
    (process output : Option Nat) (current : Option Serving) : Prop where
  started : started ≤ w.inspector.launcher.processes.length
  made : w.attempts.map (·.answer) = answers
  sessions : answers.filterMap Except.toOption = List.range w.inspector.engines.length
  newest : ∀ n, output = some n → answers.getLast? = some (.ok n)
  trace : w.inspector.heard.2 = w.attempts.flatMap (·.events)
  known : ∀ n, process = some n → n < w.inspector.launcher.processes.length
  running : ∀ n, w.inspector.launcher.IsRunning n → process = some n
  active : ∀ n e, w.inspector.engines[n]? = some e → e.outcome = none → output = some n
  current : w.inspector.current = current
  obeys : ∀ n, (w.inspector.launcher.process n).ignoresKill = false
  upcoming : ∀ p ∈ w.inspector.launcher.upcoming, p.ignoresKill = false
  refuses : ∀ fault, w.inspector.launcher.fault = some fault → fault.isRefusal = true
  schedule : Obey w.schedule
  recorded : ∀ t ∈ w.attempts, t.IsRecorded w.inspector.engines

namespace Owned

variable {w : Shared ω} {started : Nat} {answers : List (Except StartFault Nat)}
  {process output : Option Nat} {current : Option Serving}

/-- An action on the processes that revives none. -/
theorem follows (h : w.Owned started answers process output current)
    {i : Inspector (ω × List Event)} (hlauncher : w.inspector.launcher.Follows i.launcher)
    (hengines : i.engines = w.inspector.engines) (hheard : i.heard = w.inspector.heard)
    (hcurrent : i.current = w.inspector.current) :
    Owned { w with inspector := i } started answers process output current := by
  exact {
    started := hlauncher.length ▸ h.started
    made := h.made
    sessions := hengines ▸ h.sessions
    newest := h.newest
    trace := hheard ▸ h.trace
    known := hlauncher.length ▸ h.known
    running := fun n hn => h.running n ((hlauncher.process n).running hn)
    active := hengines ▸ h.active
    current := hcurrent.trans h.current
    obeys := fun n => (hlauncher.process n).ignoresKill.trans (h.obeys n)
    upcoming := hlauncher.upcoming ▸ h.upcoming
    refuses := hlauncher.fault ▸ h.refuses
    schedule := h.schedule
    recorded := hengines ▸ h.recorded }

variable (observe : Event → ω → ω)

/-- What a turn publishes is published by the last attempt. -/
theorem trace_turn (h : w.Owned started answers process output current) {n : Nat}
    {events : List Event} {engines : List Engine}
    (hturn : Turn n w.inspector.engines events engines) :
    (w.attempts.map (Attempt.credit n events)).flatMap (·.events) =
      w.inspector.heard.2 ++ events := by
  rw [h.trace]
  by_cases hgoes : ∃ e, w.inspector.engines[n]? = some e ∧ e.outcome = none
  · obtain ⟨e, he, houtcome⟩ := hgoes
    have hmade : (w.attempts.map (·.answer)).getLast? = some (.ok n) :=
      h.made ▸ h.newest n (h.active n e he houtcome)
    have hnodup : (w.attempts.filterMap Attempt.output?).Nodup := by
      have hsessions := h.sessions
      rw [← h.made, List.filterMap_map] at hsessions
      exact hsessions ▸ List.nodup_range
    rw [List.getLast?_map, Option.map_eq_some_iff] at hmade
    obtain ⟨t, hlast, hanswer⟩ := hmade
    have ht : t.output? = some n := Attempt.output?_eq_some.2 hanswer
    obtain ⟨before, hattempts⟩ := List.getLast?_eq_some_iff.1 hlast
    rw [hattempts, List.filterMap_append, List.filterMap_cons_some ht] at hnodup
    rw [hattempts]
    refine Attempt.flatMap_credit ht (fun other hin hother => ?_) events
    exact (List.nodup_append.1 hnodup).2.2 n (List.mem_filterMap.2 ⟨other, hin, hother⟩) n
      List.mem_cons_self rfl
  · -- the run of the session has ended, so nothing was published
    obtain ⟨rfl, -⟩ := hturn.eq_of_ended fun e he houtcome => hgoes ⟨e, he, houtcome⟩
    rw [Attempt.map_credit_nil, List.append_nil]

/-- A turn of an output session, whose events its attempt is credited with. -/
theorem turn (h : w.Owned started answers process output current) {n : Nat}
    {i : Inspector (ω × List Event)} {events : List Event}
    (hlauncher : i.launcher = w.inspector.launcher) (hcurrent : i.current = w.inspector.current)
    (hheard : i.heard = (tracing observe).hearAll w.inspector.heard events)
    (hturn : Turn n w.inspector.engines events i.engines) :
    (w.turn n i).Owned started answers process output current := by
  have htrace : i.heard.2 = w.inspector.heard.2 ++ events := by
    rw [hheard, tracing, trace_hearAll]
  have hpublished : published w.inspector i = events := by
    rw [published, htrace, List.drop_left]
  refine {
    started := hlauncher ▸ h.started
    newest := h.newest
    known := hlauncher ▸ h.known
    running := hlauncher ▸ h.running
    current := hcurrent.trans h.current
    obeys := hlauncher ▸ h.obeys
    upcoming := hlauncher ▸ h.upcoming
    refuses := hlauncher ▸ h.refuses
    schedule := h.schedule
    made := ?made, sessions := ?sessions, trace := ?trace, active := ?active
    recorded := ?recorded }
  case made =>
    rw [Shared.turn, List.map_map, ← h.made]
    exact List.map_congr_left fun t _ => Attempt.answer_credit ..
  case sessions =>
    rw [h.sessions, ← hturn.length_eq]
    rfl
  case trace => rw [Shared.turn, hpublished, h.trace_turn hturn, htrace]
  case active =>
    intro m e he houtcome
    have hm : m < w.inspector.engines.length := by
      rw [← hturn.length_eq]
      exact (List.getElem?_eq_some_iff.1 he).1
    refine h.active m _ (List.getElem?_eq_getElem hm) ?_
    -- an engine that had ended before the turn would still have ended
    by_contra hended
    have hsame := hturn.getElem?_of_ended (List.getElem?_eq_getElem hm) hended
    rw [show (w.turn n i).inspector.engines = i.engines from rfl, hsame] at he
    exact hended (Option.some.inj he ▸ houtcome)
  case recorded =>
    intro t ht
    obtain ⟨t, hin, rfl⟩ := List.mem_map.1 ht
    rw [hpublished]
    exact (h.recorded t hin).turn hturn

theorem withOutput (h : w.Owned started answers process output current) {n : Nat}
    {act : Session → (ω × List Event) → Session × (ω × List Event)}
    (hact : Session.Steps (tracing observe) act) :
    (w.turn n (w.inspector.withOutput n act)).Owned started answers process output current := by
  obtain ⟨events, hheard, hturn⟩ := Inspector.turn_withOutput hact w.inspector n
  obtain ⟨hlauncher, hcurrent⟩ := w.inspector.frame_withOutput n act
  exact h.turn observe hlauncher hcurrent hheard hturn

theorem move (h : w.Owned started answers process output current) {m : Move} (hm : m.Obeys) :
    (w.move (tracing observe) m).Owned started answers process output current := by
  have hquiet : (tracing observe).IsQuiet := Listener.isQuiet_observing _
  cases m with
  | prepare upcoming fault => exact { h with upcoming := hm.1, refuses := hm.2 }
  | finish process code => exact h.follows (Launcher.follows_finish ..) rfl rfl rfl
  | poll n =>
    exact h.follows (Launcher.follows_withProcess Child.follows_poll _ n) rfl rfl rfl
  | read n stream =>
    exact h.follows (.refl _) (Session.engines_modify_read ..) rfl rfl
  | pump n => exact h.withOutput observe (Session.steps_pump hquiet)
  | deliverExit n => exact h.withOutput observe (Session.steps_deliverReturned hquiet _)

theorem moves (h : w.Owned started answers process output current) {moves : List Move}
    (hmoves : ∀ m ∈ moves, m.Obeys) :
    (moves.foldl (Shared.move (tracing observe)) w).Owned started answers process output
      current := by
  induction moves generalizing w with
  | nil => exact h
  | cons m moves ih =>
    obtain ⟨hfirst, hrest⟩ := List.forall_mem_cons.1 hmoves
    exact ih (h.move observe hfirst) hrest

theorem yield (h : w.Owned started answers process output current) :
    (w.yield (tracing observe)).Owned started answers process output current := by
  have hschedule := h.schedule
  unfold Shared.yield
  split
  · exact h
  · rename_i next rest hnext
    rw [hnext] at hschedule
    have hrest : Owned { w with schedule := rest } started answers process output current :=
      { h with schedule := fun moves hmoves => hschedule moves (List.mem_cons_of_mem _ hmoves) }
    exact hrest.moves observe (hschedule next List.mem_cons_self)

/-- An action of the caller that touches no engine and revives no process. -/
theorem act (h : w.Owned started answers process output current) {α : Type}
    (action : Inspector (ω × List Event) → α × Inspector (ω × List Event))
    (hlauncher : ∀ i : Inspector _, i.launcher.Follows (action i).2.launcher)
    (houtputs : ∀ i, (action i).2.outputs = i.outputs)
    (hheard : ∀ i, (action i).2.heard = i.heard)
    (hcurrent : ∀ i, (action i).2.current = i.current) :
    (w.act (tracing observe) action).2.Owned started answers process output current := by
  have hyield := h.yield observe
  refine hyield.follows (hlauncher _) ?_ (hheard _) (hcurrent _)
  rw [Inspector.engines, houtputs, Inspector.engines]

theorem poll (h : w.Owned started answers process output current) (n : Nat) :
    (w.act (tracing observe) (·.poll n)).2.Owned started answers process output current :=
  h.act observe (·.poll n) (fun _ => Launcher.follows_withProcess Child.follows_poll _ n)
    (fun _ => rfl) (fun _ => rfl) fun _ => rfl

/-- Stopping a process leaves none running, if no other was. -/
theorem stopProcess (h : w.Owned started answers process output current) {n : Nat}
    (hn : ∀ m, process = some m → m = n) :
    (w.act (tracing observe) (·.stopProcess n)).2.Owned started answers none output current := by
  have hyield := h.yield observe
  have hstop := h.act observe (·.stopProcess n)
    (fun _ => Launcher.follows_withProcess (fun p => p.follows_stop _) _ n) (fun _ => rfl)
    (fun _ => rfl) fun _ => rfl
  refine { hstop with known := fun m hm => absurd hm (by simp), running := fun m hm => ?_ }
  obtain rfl := hn m (hstop.running m hm)
  exact absurd hm (Launcher.not_isRunning_stop (hyield.obeys m) _)

/-- Ending the run of an engine leaves none active, if no other was. -/
theorem actOn (h : w.Owned started answers process output current) {n : Nat}
    {action : Live (ω × List Event) → Live (ω × List Event)}
    (haction : Inspector.Ends (tracing observe) action) (hn : ∀ m, output = some m → m = n) :
    (w.actOn (tracing observe) n action).Owned started answers process none current := by
  have hyield := h.yield observe
  have hturned :
      (w.actOn (tracing observe) n action).Owned started answers process output current :=
    hyield.withOutput observe haction.steps
  refine { hturned with
    newest := fun m hm => absurd hm (by simp), active := fun m e he houtcome => ?_ }
  obtain rfl := hn m (hturned.active m e he houtcome)
  exact absurd houtcome (Inspector.ended_withEngine haction _ m he)

theorem stop
    (h : w.Owned started answers (current.map (·.process)) (current.map (·.output)) current) :
    (w.stop (tracing observe)).2.Owned started answers none none none := by
  have hcurrent := h.current
  unfold Shared.stop
  rw [hcurrent]
  rcases current with _ | serving
  · exact h
  · have hnone : Owned { w with inspector := { w.inspector with current := none } } started answers
        (some serving.process) (some serving.output) none := { h with current := rfl }
    have hended := hnone.actOn observe (Inspector.ends_stop (tracing observe))
      fun m hm => (Option.some.inj hm).symm
    exact hended.stopProcess observe fun m hm => (Option.some.inj hm).symm

end Owned

end Shared

end ScriptRun.Inspect
