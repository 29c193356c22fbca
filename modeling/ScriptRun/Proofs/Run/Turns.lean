import Mathlib.Data.List.Basic
import ScriptRun.Proofs.Status.Ending
import ScriptRun.Run.Runner

/-!
# Turns of sessions

What the pumps and the stops of a runner do are turns of single sessions: the engine of the session
takes one step, the audience hears what that publishes, and all other engines stay as they are.
Starting a run is a turn of the session before it, which is stopped, and then either a new session
whose engine has published nothing, or one event about a run that has no session.

The audience is one that only observes. Besides what it makes of the events it keeps their trace.
-/

namespace ScriptRun.Run

open Settings Status

variable {ω : Type}

/-- An audience that observes, is told of runs, and keeps the trace of all events. -/
def Audience.tracing (observe : Event → ω → ω)
    (begin : Text → List Text → ω → Except Files.Fault Unit × ω) : Audience (ω × List Event) :=
  { Listener.observing (fun event heard => (observe event heard.1, heard.2 ++ [event])) with
    begin := fun file argv heard =>
      let (answer, told) := begin file argv heard.1
      (answer, (told, heard.2)) }

section Tracing

variable (observe : Event → ω → ω) (begin : Text → List Text → ω → Except Files.Fault Unit × ω)

theorem isQuiet_tracing : (Audience.tracing observe begin).toListener.IsQuiet :=
  Listener.isQuiet_observing _

theorem trace_hearAll (heard : ω × List Event) (events : List Event) :
    ((Audience.tracing observe begin).toListener.hearAll heard events).2 = heard.2 ++ events := by
  induction events generalizing heard with
  | nil => exact (List.append_nil _).symm
  | cons event events ih =>
    rw [← List.singleton_append, Listener.hearAll_append, ih, ← List.append_assoc]
    rfl

theorem trace_begin (file : Text) (argv : List Text) (heard : ω × List Event) :
    ((Audience.tracing observe begin).begin file argv heard).2.2 = heard.2 :=
  rfl

end Tracing

/-! ### Sessions -/

/-- What an action does to the engine of a session is a step of it, and the audience hears it. -/
def Session.Steps (l : Listener ω) (act : Session → ω → Session × ω) : Prop :=
  ∀ s heard, ∃ (effect : Effect) (closing : Option Event), effect.IsStep s.engine closing ∧
    (act s heard).1.engine = effect.engine ∧ (act s heard).2 = l.hearAll heard effect.events

namespace Session

variable {l : Listener ω}

theorem steps_pump (hl : l.IsQuiet) : Steps l fun s heard => s.pump l heard := by
  intro s heard
  rcases hqueue : s.queue with _ | ⟨item, rest⟩
  · refine ⟨⟨[], s.engine⟩, none, Effect.isStep_nil _, ?_⟩
    simp only [pump, hqueue, true_and]
    rfl
  · cases item with
    | chunk stream bytes =>
      refine ⟨_, none, s.engine.isStep_feed stream (.bytes bytes), ?_⟩
      simp only [pump, hqueue, Live.feed_eq hl, Live.after, and_self]
    | ended stream =>
      refine ⟨⟨[], s.engine⟩, none, Effect.isStep_nil _, ?_⟩
      simp only [pump, hqueue, true_and]
      rfl

theorem steps_deliverExit (hl : l.IsQuiet) (code : Int) :
    Steps l fun s heard => s.deliverExit l code heard := by
  intro s heard
  by_cases hready : s.openStreams = 0 ∧ s.queue = [] ∧ s.isDone = false
  · refine ⟨_, _, s.engine.isStep_processExited code, ?_⟩
    simp only [deliverExit, if_pos hready, Live.processExited_eq hl, Live.after, and_self]
  · refine ⟨⟨[], s.engine⟩, none, Effect.isStep_nil _, ?_⟩
    simp only [deliverExit, if_neg hready, true_and]
    rfl

theorem steps_stop (l : Listener ω) : Steps l fun s heard => (s.stop l heard).2 := by
  intro s heard
  refine ⟨_, _, s.engine.isStep_stop, ?_⟩
  simp only [stop, Live.stop_eq, Live.after, and_self]

theorem engine_read (stream : Stream) (s : Session) : (s.read stream).engine = s.engine := by
  unfold read
  split
  · rfl
  · cases stream <;> rfl
  · cases stream <;> rfl

/-- Reading changes no engine. -/
theorem engines_modify_read (sessions : List Session) (n : Nat) (stream : Stream) :
    (sessions.modify n (·.read stream)).map (·.engine) = sessions.map (·.engine) := by
  refine List.ext_getElem? fun i => ?_
  rw [List.getElem?_map, List.getElem?_map, List.getElem?_modify]
  cases sessions[i]? with
  | none => rfl
  | some s =>
    by_cases hn : n = i
    · simp [hn, engine_read]
    · simp [hn]

/-- Handing over the exit code of a process, if it has exited. -/
theorem steps_deliverReturned (hl : l.IsQuiet) (returned : Session → Option Int) :
    Steps l fun s heard =>
      match returned s with
      | some code => s.deliverExit l code heard
      | none => (s, heard) := by
  intro s heard
  simp only
  cases returned s with
  | some code => exact steps_deliverExit hl code s heard
  | none => exact ⟨⟨[], s.engine⟩, none, Effect.isStep_nil _, rfl, rfl⟩

end Session

/-! ### Turns -/

/-- Session `n` takes a turn: its engine takes a step, or there is nothing for it to do. -/
inductive Turn (n : Nat) : List Engine → List Event → List Engine → Prop
  | idle (engines : List Engine) : Turn n engines [] engines
  | step {engines : List Engine} {e : Engine} {effect : Effect} {closing : Option Event}
      (hengine : engines[n]? = some e) (hstep : effect.IsStep e closing) :
      Turn n engines effect.events (engines.set n effect.engine)

namespace Turn

variable {n : Nat} {engines engines' : List Engine} {events : List Event}

theorem set_self {e : Engine} (h : engines[n]? = some e) : engines.set n e = engines := by
  obtain ⟨hn, hget⟩ := List.getElem?_eq_some_iff.1 h
  rw [← hget, List.set_getElem_self]

/-- In a turn of a session that there is, its engine takes a step. -/
theorem exists_step (h : Turn n engines events engines') {e : Engine} (he : engines[n]? = some e) :
    ∃ (effect : Effect) (closing : Option Event), effect.IsStep e closing ∧
      events = effect.events ∧ engines' = engines.set n effect.engine := by
  cases h with
  | idle => exact ⟨⟨[], e⟩, none, Effect.isStep_nil e, rfl, (set_self he).symm⟩
  | step hengine hstep =>
    rw [he] at hengine
    obtain rfl := Option.some.inj hengine
    exact ⟨_, _, hstep, rfl, rfl⟩

/-- A turn of a session whose run has ended does nothing. -/
theorem eq_of_ended (h : Turn n engines events engines')
    (hended : ∀ e, engines[n]? = some e → e.outcome ≠ none) : events = [] ∧ engines' = engines := by
  cases h with
  | idle => exact ⟨rfl, rfl⟩
  | step hengine hstep =>
    rw [hstep.idle (hended _ hengine)]
    exact ⟨rfl, set_self hengine⟩

/-- An engine whose run has ended stays as it is, whichever session takes a turn. -/
theorem getElem?_of_ended (h : Turn n engines events engines') {m : Nat} {e : Engine}
    (he : engines[m]? = some e) (hended : e.outcome ≠ none) : engines'[m]? = some e := by
  cases h with
  | idle => exact he
  | @step e' effect closing hengine hstep =>
    by_cases hm : n = m
    · subst hm
      rw [he] at hengine
      obtain rfl := Option.some.inj hengine
      rw [hstep.idle hended, set_self he, he]
    · rw [List.getElem?_set_ne hm, he]

theorem length_eq (h : Turn n engines events engines') : engines'.length = engines.length := by
  cases h with
  | idle => rfl
  | step hengine hstep => exact List.length_set

end Turn

namespace Runner

def engines (r : Runner ω) : List Engine := r.sessions.map (·.engine)

/-- What a turn of session `n` does to a runner. -/
structure Turns (l : Listener ω) (n : Nat) (r r' : Runner ω) (events : List Event) : Prop where
  heard : r'.heard = l.hearAll r.heard events
  active : r'.active = r.active
  engines : Turn n r.engines events r'.engines

theorem turns_refl (l : Listener ω) (n : Nat) (r : Runner ω) : r.Turns l n r [] :=
  ⟨rfl, rfl, .idle _⟩

theorem getElem?_engines (r : Runner ω) (n : Nat) :
    r.engines[n]? = r.sessions[n]?.map (·.engine) :=
  List.getElem?_map ..

variable {l : Listener ω}

theorem turns_withSession {act : Session → ω → Session × ω} (hact : Session.Steps l act)
    (r : Runner ω) (n : Nat) : ∃ events, r.Turns l n (r.withSession n act) events := by
  unfold withSession
  rcases hsession : r.sessions[n]? with _ | s
  · exact ⟨[], r.turns_refl l n⟩
  · obtain ⟨effect, closing, hstep, hengine, hheard⟩ := hact s r.heard
    have hbefore : r.engines[n]? = some s.engine := by
      rw [getElem?_engines, hsession, Option.map_some]
    refine ⟨effect.events, hheard, rfl, ?_⟩
    have hturn := Turn.step hbefore hstep
    rw [← hengine] at hturn
    simpa only [engines, List.map_set] using hturn

theorem turns_pump {a : Audience ω} (ha : a.toListener.IsQuiet) (r : Runner ω) (n : Nat) :
    ∃ events, r.Turns a.toListener n (r.pump a n) events :=
  turns_withSession (Session.steps_pump ha) r n

theorem turns_deliverExit {a : Audience ω} (ha : a.toListener.IsQuiet) (r : Runner ω) (n : Nat) :
    ∃ events, r.Turns a.toListener n (r.deliverExit a n) events :=
  turns_withSession
    (Session.steps_deliverReturned ha fun s => (r.launcher.process s.process).returned) r n

theorem turns_stopSession (a : Audience ω) (r : Runner ω) (n : Nat) :
    ∃ events, r.Turns a.toListener n (r.stopSession a n).2 events := by
  -- signalling the process touches the launcher only
  have hsame : (r.stopSession a n).2.heard =
        (r.withSession n fun s heard => (s.stop a.toListener heard).2).heard ∧
      (r.stopSession a n).2.active =
        (r.withSession n fun s heard => (s.stop a.toListener heard).2).active ∧
      (r.stopSession a n).2.engines =
        (r.withSession n fun s heard => (s.stop a.toListener heard).2).engines := by
    unfold stopSession withSession
    cases r.sessions[n]? with
    | none => exact ⟨rfl, rfl, rfl⟩
    | some s => exact ⟨rfl, rfl, rfl⟩
  obtain ⟨hsameHeard, hsameActive, hsameEngines⟩ := hsame
  obtain ⟨events, hheard, hactive, hengines⟩ := turns_withSession (Session.steps_stop _) r n
  refine ⟨events, hsameHeard.trans hheard, hsameActive.trans hactive, ?_⟩
  rwa [hsameEngines]

theorem engines_read (r : Runner ω) (n : Nat) (stream : Stream) :
    (r.read n stream).engines = r.engines :=
  Session.engines_modify_read ..

/-! ### Stopping -/

theorem stop_of_active_eq_none {a : Audience ω} {r : Runner ω} (h : r.active = none) :
    r.stop a = (false, r) := by
  rw [stop, h]

theorem turns_stop (a : Audience ω) {r : Runner ω} {n : Nat} (h : r.active = some n) :
    ∃ events, r.Turns a.toListener n (r.stop a).2 events := by
  have hsession : r.activeSession? = r.sessions[n]? := by
    rw [activeSession?, h, Option.bind_some]
  rw [stop, h, hsession]
  rcases hs : r.sessions[n]? with _ | s
  · exact ⟨[], r.turns_refl _ n⟩
  · by_cases hactive : s.isActive = true
    · simp only [if_pos hactive]
      exact turns_stopSession a r n
    · simp only [if_neg hactive]
      exact ⟨[], r.turns_refl _ n⟩

/-- After a stop the run of the active session has ended. -/
theorem ended_of_stop {a : Audience ω} {r : Runner ω} {n : Nat} (h : r.active = some n)
    {e : Engine} (he : (r.stop a).2.engines[n]? = some e) : e.outcome ≠ none := by
  have hsession : r.activeSession? = r.sessions[n]? := by
    rw [activeSession?, h, Option.bind_some]
  rw [stop, h, hsession] at he
  rcases hs : r.sessions[n]? with _ | s
  · simp only [hs] at he
    rw [getElem?_engines, hs] at he
    exact absurd he (by simp)
  · by_cases hactive : s.isActive = true
    · have hengine : (s.engine.stop).2.engine = e := by
        simp only [hs, if_pos hactive] at he
        rw [getElem?_engines, stopSession, hs] at he
        simpa [Session.stop, Live.stop_eq, Live.after, (List.getElem?_eq_some_iff.1 hs).1] using he
      rw [← hengine, Engine.stop, if_pos (show s.engine.isActive = true from hactive)]
      exact Option.some_ne_none _
    · simp only [hs, if_neg hactive] at he
      rw [getElem?_engines, hs, Option.map_some] at he
      obtain rfl := Option.some.inj he
      exact fun houtcome => hactive (Engine.isActive_iff.2 houtcome)

end Runner

/-! ### Starting -/

/-- Whether a start was broken off by its surroundings: the launcher has failed in another way than
by refusing to start a process, or the audience could not be told. -/
def StartFault.isBrokenOff : StartFault → Bool
  | .launch _ | .audience _ => true
  | .index _ | .missing _ | .refused _ => false

/-- What a start does after the run before it has been stopped: it makes a new session with an
engine that has published nothing, or tells of a run that has no session, or is broken off. -/
inductive Began (before after : Runner (ω × List Event)) : Except StartFault Nat → Prop
  | entered {e : Engine} (hheard : after.heard.2 = before.heard.2)
      (hengines : after.engines = before.engines ++ [e])
      (hactive : after.active = some before.engines.length) (hcourse : Course e []) :
      Began before after (.ok before.engines.length)
  | refused {fault : StartFault} {reason : Text} (hfault : fault.isBrokenOff = false)
      (hheard : after.heard.2 = before.heard.2 ++ [.spawnFailed reason])
      (hengines : after.engines = before.engines) : Began before after (.error fault)
  | brokenOff {fault : StartFault} (hfault : fault.isBrokenOff = true)
      (hheard : after.heard.2 = before.heard.2) (hengines : after.engines = before.engines) :
      Began before after (.error fault)

/-- The engines of old sessions stay as they are. -/
theorem Began.getElem?_engines {before after : Runner (ω × List Event)}
    {answer : Except StartFault Nat} (h : Began before after answer) {n : Nat} {e : Engine}
    (he : before.engines[n]? = some e) : after.engines[n]? = some e := by
  cases h with
  | entered hheard hengines hactive hcourse =>
    rw [hengines, List.getElem?_append_left (List.getElem?_eq_some_iff.1 he).1, he]
  | refused hfault hheard hengines => rw [hengines, he]
  | brokenOff hfault hheard hengines => rw [hengines, he]

section Starting

variable (observe : Event → ω → ω) (begin : Text → List Text → ω → Except Files.Fault Unit × ω)

theorem spawnFailed_tracing (r : Runner (ω × List Event)) (file : Text) (limit : Nat)
    (reason : Text) :
    (r.spawnFailed (.tracing observe begin) (Engine.new file limit) reason).heard.2 =
        r.heard.2 ++ [.spawnFailed reason] ∧
      (r.spawnFailed (.tracing observe begin) (Engine.new file limit) reason).engines =
        r.engines :=
  ⟨rfl, rfl⟩

/-- Launching a process publishes nothing and leaves all sessions alone. -/
theorem launch_tracing (r : Runner (ω × List Event)) (cwd : Yaml.Value) (file : Text)
    (argv : List Text) :
    (r.launch (.tracing observe begin) cwd file argv).2.heard.2 = r.heard.2 ∧
      (r.launch (.tracing observe begin) cwd file argv).2.engines = r.engines := by
  have htrace := trace_begin observe begin file argv r.heard
  unfold Runner.launch
  rcases hbegin : (Audience.tracing observe begin).begin file argv r.heard with ⟨_ | _, told⟩
  · rw [hbegin] at htrace
    exact ⟨htrace, rfl⟩
  · rw [hbegin] at htrace
    exact ⟨htrace, rfl⟩

theorem began_startWith (r : Runner (ω × List Event)) (tool : Tool) (file : Text)
    (arguments : List Text) :
    Began (r.stop (.tracing observe begin)).2
      (r.startWith (.tracing observe begin) tool file arguments).2
      (r.startWith (.tracing observe begin) tool file arguments).1 := by
  unfold Runner.startWith
  generalize (r.stop (.tracing observe begin)).2 = before
  simp only
  rcases tool.argv arguments with missing | argv
  · have htrace := trace_begin observe begin file (tool.command ++ arguments) before.heard
    rcases hbegin : (Audience.tracing observe begin).begin file (tool.command ++ arguments)
      before.heard with ⟨_ | _, told⟩
    · rw [hbegin] at htrace
      exact .brokenOff rfl htrace rfl
    · rw [hbegin] at htrace
      obtain ⟨hheard, hengines⟩ := spawnFailed_tracing observe begin { before with heard := told }
        file Text.defaultLineLimit missing.message
      simp only at htrace hheard
      rw [htrace] at hheard
      exact .refused rfl hheard hengines
  · obtain ⟨htrace, hengines⟩ := launch_tracing observe begin before tool.cwd file argv
    rcases hlaunch : before.launch (.tracing observe begin) tool.cwd file argv with
      ⟨fault | process, launched⟩
    · rw [hlaunch] at htrace hengines
      cases fault with
      | refused reason =>
        obtain ⟨hheard, hkept⟩ := spawnFailed_tracing observe begin launched file
          Text.defaultLineLimit (refusal argv reason)
        simp only at htrace hengines
        rw [htrace] at hheard
        simp only [hlaunch]
        exact .refused rfl hheard (hkept.trans hengines)
      | invalid reason =>
        simp only [hlaunch]
        exact .brokenOff rfl htrace hengines
      | crashed reason =>
        simp only [hlaunch]
        exact .brokenOff rfl htrace hengines
    · rw [hlaunch] at htrace hengines
      simp only at htrace hengines
      have hcount : launched.sessions.length = before.engines.length := by
        rw [← hengines, Runner.engines, List.length_map]
      simp only [hlaunch, Runner.enter, hcount]
      refine .entered htrace ?_ rfl (Course.new file Text.defaultLineLimit)
      rw [← hengines]
      exact List.map_append ..

end Starting

/-! ### Ordinary surroundings

A start is broken off only where the launcher fails in an unusual way or the audience fails. -/

/-- Whether the system has refused to start a process, which is the usual way to fail. -/
def LaunchFault.isRefusal : LaunchFault → Bool
  | .refused _ => true
  | .invalid _ | .crashed _ => false

theorem fault_launch (w : Launcher) (argv : List Text) (cwd : Yaml.Value) :
    (w.launch argv cwd).2.fault = w.fault ∧
      ∀ fault, (w.launch argv cwd).1 = .error fault → w.fault = some fault := by
  obtain ⟨upcoming, fault, launches, processes⟩ := w
  cases fault with
  | none =>
    cases upcoming with
    | nil => exact ⟨rfl, fun _ h => absurd h (by simp [Launcher.launch])⟩
    | cons p rest => exact ⟨rfl, fun _ h => absurd h (by simp [Launcher.launch])⟩
  | some fault => exact ⟨rfl, fun _ h => congrArg some (Except.error.inj h)⟩

namespace Runner

variable {a : Audience ω}

theorem launcher_withSession (r : Runner ω) (n : Nat) (act : Session → ω → Session × ω) :
    (r.withSession n act).launcher = r.launcher := by
  unfold withSession
  split <;> rfl

theorem fault_stop (r : Runner ω) : (r.stop a).2.launcher.fault = r.launcher.fault := by
  unfold stop stopSession
  split
  · split
    · split
      · rfl
      · rfl
    · rfl
  · rfl

/-- Launching a process of which the audience can be told. -/
theorem launch_eq {r : Runner ω} {file : Text} {argv : List Text}
    (htold : (a.begin file argv r.heard).1 = .ok ()) (cwd : Yaml.Value) :
    r.launch a cwd file argv =
      ((r.launcher.launch argv cwd).1,
        { r with
          launcher := (r.launcher.launch argv cwd).2
          heard := (a.begin file argv r.heard).2 }) := by
  unfold launch
  generalize a.begin file argv r.heard = begun at htold
  obtain ⟨_, told⟩ := begun
  obtain rfl := htold
  rfl

/-- If the launcher fails only by refusing and the audience does not fail, no start is broken off.
-/
theorem startWith_ordinary (hbegin : ∀ file argv heard, (a.begin file argv heard).1 = .ok ())
    {r : Runner ω} (hfault : ∀ fault, r.launcher.fault = some fault → fault.isRefusal = true)
    (tool : Tool) (file : Text) (arguments : List Text) :
    (r.startWith a tool file arguments).2.launcher.fault = r.launcher.fault ∧
      ∀ fault, (r.startWith a tool file arguments).1 = .error fault →
        fault.isBrokenOff = false := by
  have hstop := fault_stop (a := a) r
  unfold startWith
  generalize (r.stop a).2 = before at hstop
  simp only
  rcases tool.argv arguments with missing | argv
  · have htold := hbegin file (tool.command ++ arguments) before.heard
    generalize a.begin file (tool.command ++ arguments) before.heard = begun at htold
    obtain ⟨_, told⟩ := begun
    obtain rfl := htold
    refine ⟨hstop, fun fault h => ?_⟩
    rw [← Except.error.inj h]
    rfl
  · have htold := hbegin file argv before.heard
    have hlaunch := launch_eq htold tool.cwd
    obtain ⟨hkept, hwhy⟩ := fault_launch before.launcher argv tool.cwd
    rcases hanswer : (before.launcher.launch argv tool.cwd).1 with fault | process
    · have hrefusal := hfault fault (hstop ▸ hwhy fault hanswer)
      cases fault with
      | refused reason =>
        simp only [hlaunch, hanswer]
        refine ⟨hkept.trans hstop, fun other h => ?_⟩
        rw [← Except.error.inj h]
        rfl
      | invalid reason => exact absurd hrefusal Bool.false_ne_true
      | crashed reason => exact absurd hrefusal Bool.false_ne_true
    · simp only [hlaunch, hanswer]
      exact ⟨hkept.trans hstop, fun other h => absurd h (by simp)⟩

end Runner

end ScriptRun.Run
