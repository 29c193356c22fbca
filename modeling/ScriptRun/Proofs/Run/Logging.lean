import ScriptRun.Proofs.Run.Attempts
import ScriptRun.Proofs.Run.Page

/-!
# Every run leaves one log

A runner whose audience is a journal in memory writes one page for every attempt to start a run.
While events arrive they belong to the last attempt, whose page is the one that the journal shows;
the next attempt ends the run before, which puts the footer on its page, and only then moves that
page aside.

What carries this is `Watched.Logged`: there is a page for every attempt, with its events, the
journal shows the last one, and the file beside it holds the one before.
-/

namespace ScriptRun

/-- The stream and the text of a line of output. -/
def Status.Event.output? : Status.Event → Option (Text × Text)
  | .logLine stream text => some (stream, text)
  | _ => none

namespace Run

open Files Settings Status

/-- The command of a run as the audience is told of it: with its program found, or as it was set if
the program is missing. -/
def announced (tool : Tool) (arguments : List Text) : List Text :=
  match tool.argv arguments with
  | .ok argv => argv
  | .error _ => tool.command ++ arguments

/-- The run that a start asks for if its arguments are in order: its file and its command. -/
def Step.request? : Step → Option (Text × List Text)
  | .start tool file index device =>
    match arguments file index device with
    | .ok arguments => some (file, announced tool arguments)
    | .error _ => none
  | _ => none

/-! ### What the audience hears -/

section Tracing

variable {ω : Type} (observe : Event → ω → ω)
  (begin : Text → List Text → ω → Except Files.Fault Unit × ω)

theorem told_hearAll (heard : ω × List Event) (events : List Event) :
    ((Audience.tracing observe begin).toListener.hearAll heard events).1 =
      events.foldl (fun told event => observe event told) heard.1 := by
  induction events generalizing heard with
  | nil => rfl
  | cons event events ih => exact ih _

end Tracing

/-- If the audience does not fail, it hears of a start after the run before has been stopped: it is
told that the run begins, and hears at most that it could not be started. -/
theorem Runner.exists_heard_startWith {ω : Type} {a : Audience ω}
    (hbegin : ∀ file argv heard, (a.begin file argv heard).1 = .ok ()) (r : Runner ω) (tool : Tool)
    (file : Text) (arguments : List Text) :
    ∃ events : List Event, events.length ≤ 1 ∧
      (r.startWith a tool file arguments).2.heard = a.toListener.hearAll
        (a.begin file (announced tool arguments) (r.stop a).2.heard).2 events := by
  unfold startWith announced
  generalize (r.stop a).2 = before
  simp only
  rcases tool.argv arguments with missing | argv
  · have htold := hbegin file (tool.command ++ arguments) before.heard
    generalize a.begin file (tool.command ++ arguments) before.heard = begun at htold
    obtain ⟨_, told⟩ := begun
    obtain rfl := htold
    exact ⟨[.spawnFailed missing.message], le_rfl, rfl⟩
  · have hlaunch := launch_eq (hbegin file argv before.heard) tool.cwd
    rcases hanswer : (before.launcher.launch argv tool.cwd).1 with fault | process
    · cases fault with
      | refused reason =>
        simp only [hlaunch, hanswer]
        exact ⟨[.spawnFailed (refusal argv reason)], le_rfl, rfl⟩
      | invalid reason =>
        simp only [hlaunch, hanswer]
        exact ⟨[], Nat.zero_le 1, rfl⟩
      | crashed reason =>
        simp only [hlaunch, hanswer]
        exact ⟨[], Nat.zero_le 1, rfl⟩
    · simp only [hlaunch, hanswer]
      exact ⟨[], Nat.zero_le 1, rfl⟩

/-! ### Which attempt a turn belongs to -/

/-- An operation publishes nothing after an event that ends the run. -/
theorem isTerminal_of_mem_dropLast {effect : Effect} {e : Engine} {closing : Option Event}
    (h : effect.IsStep e closing) {event : Event} (hevent : event ∈ effect.events.dropLast) :
    event.isTerminal = false := by
  by_cases houtcome : e.outcome = none
  · rcases h.active houtcome with hcontinues | ⟨last, -, ⟨more, hmore, hopen⟩, -, -, -⟩
    · exact hcontinues.events event (List.mem_of_mem_dropLast hevent)
    · rw [hmore, List.dropLast_concat] at hevent
      exact hopen event hevent
  · rw [h.idle houtcome] at hevent
    exact absurd hevent List.not_mem_nil

/-- A turn that publishes anything belongs to the last attempt, whose run goes on until then. -/
theorem Watched.Orderly.attempts_turn {ω : Type} {w : Watched ω} (h : w.Orderly) {n : Nat}
    {r : Runner (ω × List Event)} {events : List Event}
    (hheard : r.heard.2 = w.runner.heard.2 ++ events)
    (hturn : Turn n w.runner.engines events r.engines) :
    (events = [] ∧ (w.turn n r).attempts = w.attempts) ∨
      ∃ before t, w.attempts = before ++ [t] ∧
        (w.turn n r).attempts = before ++ [{ t with events := t.events ++ events }] ∧
        (∀ event ∈ t.events, event.isTerminal = false) ∧
        ∀ event ∈ events.dropLast, event.isTerminal = false := by
  by_cases hgoes : ∃ e, w.runner.engines[n]? = some e ∧ e.outcome = none
  · obtain ⟨e, he, houtcome⟩ := hgoes
    obtain ⟨effect, closing, hstep, rfl, -⟩ := hturn.exists_step he
    obtain ⟨before, t, hattempts, htn, -, hcredited⟩ := h.attempts_of_active he houtcome hheard
    refine Or.inr ⟨before, t, hattempts, hcredited, ?_, fun _ => isTerminal_of_mem_dropLast hstep⟩
    have hrecorded := h.recorded t (hattempts ▸ List.mem_append_right _ List.mem_cons_self)
    unfold Attempt.IsRecorded at hrecorded
    rw [Attempt.session?_eq_some.1 htn] at hrecorded
    obtain ⟨e', he', hcourse⟩ := hrecorded
    rw [he] at he'
    obtain rfl := Option.some.inj he'
    exact fun event hevent => Bool.eq_false_of_not_eq_true fun hterminal =>
      hcourse.exists_terminal_iff.1 ⟨event, hevent, hterminal⟩ houtcome
  · obtain ⟨rfl, -⟩ := hturn.eq_of_ended fun e he houtcome => hgoes ⟨e, he, houtcome⟩
    refine Or.inl ⟨rfl, ?_⟩
    rw [Watched.turn, published_eq hheard, Attempt.map_credit_nil]

/-! ### Pages and attempts -/

/-- The audience of a runner that keeps a journal, with the trace of all events. -/
def Audience.journaling : Audience (Journal Memory × List Event) :=
  .tracing Journal.observe Journal.begin

/-- The pages that were written tell of the attempts, one each. The journal shows the last of them,
and the file beside its log holds the one before. -/
structure Watched.Logged (w : Watched (Journal Memory)) (log : Log) (pages : List Page) : Prop where
  place : w.runner.heard.1.IsAt log
  events : pages.map Page.events = w.attempts.map (·.events)
  last : ∀ p, pages.getLast? = some p → w.runner.heard.1.Shows log p
  previous : ∀ p, pages.dropLast.getLast? = some p →
    w.runner.heard.1.store.get? log.previousPath = some p.text

namespace Watched.Logged

variable {w : Watched (Journal Memory)} {log : Log} {pages : List Page}

theorem of_shows {init : List Page} {p : Page} (hshows : w.runner.heard.1.Shows log p)
    (hevents : (init ++ [p]).map Page.events = w.attempts.map (·.events))
    (hprevious : ∀ q, init.getLast? = some q →
      w.runner.heard.1.store.get? log.previousPath = some q.text) : w.Logged log (init ++ [p]) := by
  obtain ⟨current, hlog, hpath, -, -⟩ := hshows.writing
  refine ⟨⟨current, hlog, hpath⟩, hevents, fun q hq => ?_, fun q hq => hprevious q ?_⟩
  · rw [List.getLast?_concat] at hq
    obtain rfl := Option.some.inj hq
    exact hshows
  · rwa [List.dropLast_concat] at hq

/-- A turn of a session, whose events the journal hears. -/
theorem turn (h : w.Logged log pages) (horderly : w.Orderly) {n : Nat}
    {r : Runner (Journal Memory × List Event)} {events : List Event}
    (hturns : w.runner.Turns Audience.journaling.toListener n r events) :
    ∃ pages', (w.turn n r).Logged log pages' ∧
      pages'.map Page.request = pages.map Page.request := by
  have htold : r.heard.1 = events.foldl (fun j event => j.observe event) w.runner.heard.1 := by
    rw [hturns.heard]
    exact told_hearAll ..
  have htrace : r.heard.2 = w.runner.heard.2 ++ events := by
    rw [hturns.heard]
    exact trace_hearAll ..
  obtain ⟨hplace, hevents, hlast, hprevious⟩ := h
  rcases horderly.attempts_turn htrace hturns.engines with
    ⟨rfl, hattempts⟩ | ⟨before, t, hattempts, hcredited, hopen, hbefore⟩
  · have hsame : (w.turn n r).runner.heard.1 = w.runner.heard.1 := htold
    refine ⟨pages, ⟨?_, ?_, ?_, ?_⟩, rfl⟩
    · rwa [hsame]
    · rwa [hattempts]
    · rwa [hsame]
    · rwa [hsame]
  · -- the last page is that of the last attempt
    rw [hattempts, List.map_append] at hevents
    obtain ⟨init, rest, rfl, hinit, hrest⟩ := List.map_eq_append_iff.1 hevents
    obtain ⟨p, rfl, hp⟩ := List.map_eq_singleton_iff.1 hrest
    have hshows : w.runner.heard.1.Shows log p := hlast p List.getLast?_concat
    have hpopen : p.IsOpen := fun event hevent =>
      hopen event ((show p.events = t.events from hp) ▸ hevent)
    obtain ⟨hafter, hkept⟩ := hshows.observeAll (fun _ => hpopen) hbefore
    rw [← htold] at hafter hkept
    refine ⟨init ++ [p.noteAll w.runner.heard.1.clock.now events],
      .of_shows hafter ?_ fun q hq => hkept.trans (hprevious q ?_), ?_⟩
    · rw [hcredited, List.map_append, List.map_append, hinit]
      simp [Page.events_noteAll, hp]
    · rw [List.dropLast_concat, hq]
    · simp [Page.request_noteAll]

/-- Only the log, its store and the events of the attempts matter. -/
theorem congr (h : w.Logged log pages) {other : Watched (Journal Memory)}
    (hlog : other.runner.heard.1.log = w.runner.heard.1.log)
    (hstore : other.runner.heard.1.store = w.runner.heard.1.store)
    (hattempts : other.attempts = w.attempts) : other.Logged log pages := by
  obtain ⟨⟨current, hcurrent, hpath⟩, hevents, hlast, hprevious⟩ := h
  refine ⟨⟨current, hlog.trans hcurrent, hpath⟩, by rw [hattempts, hevents], fun p hp => ?_,
    fun p hp => ?_⟩
  · obtain ⟨⟨now, hnow, hwriting⟩, hcontent⟩ := hlast p hp
    exact ⟨⟨now, hlog.trans hnow, hwriting⟩, hstore ▸ hcontent⟩
  · rw [hstore]
    exact hprevious p hp

theorem stop (h : w.Logged log pages) (horderly : w.Orderly) :
    ∃ pages', (w.stop Audience.journaling).Logged log pages' ∧
      pages'.map Page.request = pages.map Page.request := by
  unfold Watched.stop
  split
  · rename_i n hactive
    obtain ⟨events, hturns⟩ := Runner.turns_stop Audience.journaling (r := w.runner) hactive
    exact h.turn horderly hturns
  · rename_i hactive
    rw [Runner.stop_of_active_eq_none hactive]
    exact ⟨pages, h, rfl⟩

/-- A start ends the page before and begins another one. -/
theorem start (h : w.Logged log pages) (horderly : w.Orderly) (tool : Tool) (file : Text)
    (arguments : List Text) :
    let stopped := w.stop Audience.journaling
    let started := w.runner.startWith Audience.journaling tool file arguments
    ∃ pages', Watched.Logged
        ⟨started.2, stopped.attempts ++ [⟨started.1, published stopped.runner started.2⟩]⟩ log
        pages' ∧
      pages'.map Page.request = pages.map Page.request ++ [(file, announced tool arguments)] := by
  intro stopped started
  obtain ⟨pages, hstopped, hrequests⟩ := h.stop horderly
  have hrunner : stopped.runner = (w.runner.stop Audience.journaling).2 := w.runner_stop _
  have hbegin : ∀ file argv heard, (Audience.journaling.begin file argv heard).1 = .ok () :=
    fun file argv heard => Journal.begin_memory heard.1 file argv
  obtain ⟨events, hlength, hheard⟩ :=
    Runner.exists_heard_startWith hbegin w.runner tool file arguments
  rw [← hrunner] at hheard
  have htold : started.2.heard.1 = events.foldl (fun j event => j.observe event)
      (stopped.runner.heard.1.begin file (announced tool arguments)).2 := by
    rw [hheard]
    exact told_hearAll ..
  have htrace : started.2.heard.2 = stopped.runner.heard.2 ++ events := by
    rw [hheard]
    exact trace_hearAll ..
  obtain ⟨-, hbegun, -, hmoved⟩ :=
    Journal.shows_begin hstopped.place file (announced tool arguments)
  have hbefore : ∀ event ∈ events.dropLast, event.isTerminal = false := by
    have hnothing : events.dropLast.length = 0 := by
      rw [List.length_dropLast]
      omega
    rw [List.eq_nil_of_length_eq_zero hnothing]
    exact fun event hevent => absurd hevent List.not_mem_nil
  obtain ⟨hafter, hkept⟩ :=
    hbegun.observeAll (fun _ event hevent => absurd hevent List.not_mem_nil) hbefore
  rw [← htold] at hafter hkept
  refine ⟨pages ++ [_], .of_shows hafter ?_ fun q hq =>
    hkept.trans (hmoved _ (hstopped.last q hq).content), ?_⟩
  · rw [List.map_append, List.map_append, hstopped.events, published_eq htrace]
    simp only [List.map_singleton, Page.events_noteAll]
    rfl
  · rw [List.map_append, hrequests, List.map_singleton, Page.request_noteAll]
    rfl

theorem step (h : w.Logged log pages) (horderly : w.Orderly) (s : Step) :
    ∃ pages', (w.step Audience.journaling s).Logged log pages' ∧
      pages'.map Page.request = pages.map Page.request ++ s.request?.toList := by
  have hquiet : Audience.journaling.toListener.IsQuiet := Listener.isQuiet_observing _
  have hnone : pages.map Page.request = pages.map Page.request ++ (none : Option _).toList :=
    (List.append_nil _).symm
  cases s with
  | prepare upcoming fault => exact ⟨pages, h.congr rfl rfl rfl, hnone⟩
  | finish process code => exact ⟨pages, h.congr rfl rfl rfl, hnone⟩
  | read n stream => exact ⟨pages, h.congr rfl rfl rfl, hnone⟩
  | pump n =>
    obtain ⟨events, hturns⟩ := Runner.turns_pump hquiet w.runner n
    obtain ⟨pages', hlogged, hrequests⟩ := h.turn horderly hturns
    exact ⟨pages', hlogged, hrequests.trans hnone⟩
  | deliverExit n =>
    obtain ⟨events, hturns⟩ := Runner.turns_deliverExit hquiet w.runner n
    obtain ⟨pages', hlogged, hrequests⟩ := h.turn horderly hturns
    exact ⟨pages', hlogged, hrequests.trans hnone⟩
  | stop =>
    obtain ⟨pages', hlogged, hrequests⟩ := h.stop horderly
    exact ⟨pages', hlogged, hrequests.trans hnone⟩
  | start tool file index device =>
    rw [Watched.step, Step.request?, Runner.start]
    rcases Run.arguments file index device with fault | arguments
    · exact ⟨pages, h, hnone⟩
    · exact h.start horderly tool file arguments

end Watched.Logged

/-! ### Histories -/

namespace Watched

def setClock (w : Watched (Journal Memory)) (now : Time.Clock) : Watched (Journal Memory) :=
  { w with
    runner := { w.runner with
      heard := ({ w.runner.heard.1 with clock := now }, w.runner.heard.2) } }

/-- A new runner with a journal, after steps at the times that its clock showed. -/
def follow (journal : Journal Memory) (history : List (Time.Clock × Step)) :
    Watched (Journal Memory) :=
  history.foldl (fun w h => (w.setClock h.1).step .journaling h.2)
    { runner := { heard := (journal, []) } }

theorem follow_concat (journal : Journal Memory) (history : List (Time.Clock × Step))
    (h : Time.Clock × Step) :
    follow journal (history ++ [h]) =
      ((follow journal history).setClock h.1).step .journaling h.2 := by
  rw [follow, List.foldl_concat]
  rfl

variable {w : Watched (Journal Memory)}

theorem Orderly.setClock (h : w.Orderly) (now : Time.Clock) : (w.setClock now).Orderly :=
  h.congr rfl rfl rfl

theorem Logged.setClock {log : Log} {pages : List Page} (h : w.Logged log pages)
    (now : Time.Clock) : (w.setClock now).Logged log pages :=
  h.congr rfl rfl rfl

theorem Orderly.follow (journal : Journal Memory) (history : List (Time.Clock × Step)) :
    (Watched.follow journal history).Orderly := by
  induction history using List.reverseRecOn with
  | nil => exact Orderly.run Journal.observe Journal.begin journal []
  | append_singleton history h ih =>
    rw [follow_concat]
    exact (ih.setClock h.1).step Journal.observe Journal.begin h.2

theorem Ordinary.follow (journal : Journal Memory) {history : List (Time.Clock × Step)}
    (hsteps : ∀ h ∈ history, h.2.isOrdinary = true) :
    (Watched.follow journal history).Ordinary := by
  have hbegin : ∀ file argv heard, (Audience.journaling.begin file argv heard).1 = .ok () :=
    fun file argv heard => Journal.begin_memory heard.1 file argv
  induction history using List.reverseRecOn with
  | nil => exact Ordinary.run hbegin journal fun s hs => absurd hs List.not_mem_nil
  | append_singleton history h ih =>
    obtain ⟨hbefore, hlast⟩ := List.forall_mem_append.1 hsteps
    obtain ⟨hlauncher, hattempts⟩ := ih hbefore
    have hnow : ((Watched.follow journal history).setClock h.1).Ordinary := ⟨hlauncher, hattempts⟩
    rw [follow_concat]
    exact hnow.step hbegin (hlast h List.mem_cons_self)

end Watched

/-! ### What a page tells of an attempt -/

/-- Whether an attempt has ended: the run of its session has, or it could not be started. -/
def Attempt.HasEnded (engines : List Engine) (t : Attempt) : Prop :=
  match t.answer with
  | .ok n => ∃ e, engines[n]? = some e ∧ e.isActive = false
  | .error fault => fault.isBrokenOff = false

/-- An attempt has ended exactly if the last of its events says so. -/
theorem Attempt.IsRecorded.hasEnded_iff {t : Attempt} {engines : List Engine}
    (h : t.IsRecorded engines) :
    t.HasEnded engines ↔ ∃ event, t.events.getLast? = some event ∧ event.isTerminal = true := by
  obtain ⟨answer, events⟩ := t
  rcases answer with fault | n
  · rcases hbroken : fault.isBrokenOff with _ | _
    · simp only [IsRecorded, hbroken, Bool.false_eq_true, if_false] at h
      obtain ⟨event, hterminal, rfl⟩ := h
      simp [HasEnded, hbroken, hterminal]
    · simp only [IsRecorded, hbroken, if_true] at h
      simp [HasEnded, hbroken, h]
  · obtain ⟨e, he, hcourse⟩ := h
    have hactive : e.isActive = false ↔ e.outcome ≠ none := by
      rw [← Bool.not_eq_true, Engine.isActive_iff]
    simp only [HasEnded, he, Option.some.injEq, exists_eq_left', hactive,
      ← hcourse.exists_terminal_iff]
    constructor
    · rintro ⟨event, hmem, hterminal⟩
      exact ⟨event, (hcourse.of_terminal hmem hterminal).1, hterminal⟩
    · rintro ⟨event, hlast, hterminal⟩
      exact ⟨event, List.mem_of_getLast? hlast, hterminal⟩

/-- The lines of a page are those of its events, in order. -/
theorem Page.lines_forall₂ (p : Page) :
    List.Forall₂
      (fun line (said : Text × Text) =>
        line.IsLine ∧ ∃ now, line = Log.stamped now (Log.shown said.1 said.2))
      p.lines (p.events.filterMap Event.output?) := by
  unfold lines events
  induction p.notes with
  | nil => exact .nil
  | cons note notes ih =>
    obtain ⟨now, event⟩ := note
    cases event with
    | logLine stream text => exact .cons ⟨Log.isLine_stamped .., now, rfl⟩ ih
    | statusChange | mockLocationStarted | mockLocationStopped | runComplete | runAborted
    | spawnFailed | readinessTimedOut => exact ih

/-- A page tells of an attempt: it has one line for every line of output, in order, and a footer
exactly if the attempt has ended, with the result that its last event gives and the number of the
lines. -/
structure Page.Tells (p : Page) (engines : List Engine) (t : Attempt) : Prop where
  lines : List.Forall₂
    (fun line (said : Text × Text) =>
      line.IsLine ∧ ∃ now, line = Log.stamped now (Log.shown said.1 said.2))
    p.lines (t.events.filterMap Event.output?)
  footer : p.footer ≠ [] ↔ t.HasEnded engines
  result : ∀ event ∈ t.events, event.isTerminal = true → ∃ result now,
    Log.result? event = some result ∧
      p.footer = Log.footer
        { directory := [], keep := none, started := some p.began
          linesLogged := (t.events.filterMap Event.output?).length } result now

theorem Watched.Orderly.tells {ω : Type} {w : Watched ω} (h : w.Orderly) {t : Attempt}
    (ht : t ∈ w.attempts) {p : Page} (hp : p.events = t.events) :
    p.Tells w.runner.engines t := by
  have hlines := p.lines_forall₂
  rw [hp] at hlines
  refine ⟨hlines, ?_, fun event hevent hterminal => ?_⟩
  · rw [(h.recorded t ht).hasEnded_iff, Page.footer_ne_nil_iff, hp]
  · have hlast := (h.terminal_last ht).2 event hevent hterminal
    rw [← hp, Page.events, List.getLast?_map] at hlast
    obtain ⟨⟨now, other⟩, hnote, rfl⟩ := Option.map_eq_some_iff.1 hlast
    obtain ⟨result, hresult⟩ :=
      Option.isSome_iff_exists.1 ((Page.isSome_result? other).trans hterminal)
    refine ⟨result, now, hresult, ?_⟩
    rw [Page.footer, hnote, Option.map_some, Option.getD_some, Page.closing, hresult,
      hlines.length_eq]

end Run

end ScriptRun
