import Mathlib.Data.List.Nodup
import Mathlib.Data.List.Range
import ScriptRun.Proofs.Run.Turns

/-!
# Runs are not mixed

Readers and pumps of old sessions live on while a runner starts new ones, and all engines publish to
the same audience. Every event is credited here to the attempt whose engine has published it
(`Watched`). The audience then hears the events of one attempt after those of another, each closed
by the event that ends it, whatever the order of the steps.

What carries this is `Watched.Orderly`: no engine is active but that of the last attempt, and the
events of every attempt are the course of its engine.
-/

namespace ScriptRun.Run

open Settings Status

variable {ω : Type}

/-- An attempt to start a run with arguments that are in order: how the start was answered, and what
was published about the run so far. -/
structure Attempt where
  answer : Except StartFault Nat
  events : List Event

namespace Attempt

def session? (t : Attempt) : Option Nat := t.answer.toOption

/-- Whether the surroundings have broken an attempt off. -/
def isBrokenOff (t : Attempt) : Bool :=
  match t.answer with
  | .ok _ => false
  | .error fault => fault.isBrokenOff

/-- The attempt with the events of a turn of session `n`, if that is its session. -/
def credit (n : Nat) (events : List Event) (t : Attempt) : Attempt :=
  if t.session? = some n then { t with events := t.events ++ events } else t

/-- What an attempt has published is the course of its engine, or all there is to say of a run that
could not be started. -/
def IsRecorded (engines : List Engine) (t : Attempt) : Prop :=
  match t.answer with
  | .ok n => ∃ e, engines[n]? = some e ∧ Course e t.events
  | .error fault =>
    if fault.isBrokenOff then t.events = []
    else ∃ event : Event, event.isTerminal = true ∧ t.events = [event]

end Attempt

inductive Step where
  /-- It is settled what the next launches give. -/
  | prepare (upcoming : List Child) (fault : Option LaunchFault)
  | finish (process : Nat) (code : Option Int)
  | read (session : Nat) (stream : Stream)
  | pump (session : Nat)
  | deliverExit (session : Nat)
  | stop
  | start (tool : Tool) (file : Text) (index : Option Int) (device : Option Device)

/-- Whether a step is a start with arguments that are in order. -/
def Step.isAttempt : Step → Bool
  | .start _ file index device => (arguments file index device).isOk
  | _ => false

/-- A runner with the attempts that were made with it, oldest first. -/
structure Watched (ω : Type) where
  runner : Runner (ω × List Event)
  attempts : List Attempt := []

/-- What the audience has heard between two states. -/
def published (before after : Runner (ω × List Event)) : List Event :=
  after.heard.2.drop before.heard.2.length

namespace Watched

/-- The runner goes on by a turn of session `n`, whose events belong to its attempt. -/
def turn (w : Watched ω) (n : Nat) (r : Runner (ω × List Event)) : Watched ω :=
  { runner := r, attempts := w.attempts.map (Attempt.credit n (published w.runner r)) }

/-- The active run is stopped, which is a turn of its session. -/
def stop (a : Audience (ω × List Event)) (w : Watched ω) : Watched ω :=
  match w.runner.active with
  | some n => w.turn n (w.runner.stop a).2
  | none => { w with runner := (w.runner.stop a).2 }

/-- One step. What a start publishes after the run before it has been stopped belongs to the new
attempt. -/
def step (a : Audience (ω × List Event)) (w : Watched ω) : Step → Watched ω
  | .prepare upcoming fault =>
    { w with runner := { w.runner with launcher := { w.runner.launcher with upcoming, fault } } }
  | .finish process code =>
    { w with runner := { w.runner with launcher := w.runner.launcher.finish process code } }
  | .read n stream => { w with runner := w.runner.read n stream }
  | .pump n => w.turn n (w.runner.pump a n)
  | .deliverExit n => w.turn n (w.runner.deliverExit a n)
  | .stop => w.stop a
  | .start tool file index device =>
    let (answer, runner) := w.runner.start a tool file index device
    match arguments file index device with
    | .error _ => { w with runner }
    | .ok _ =>
      let stopped := w.stop a
      { runner, attempts := stopped.attempts ++ [⟨answer, published stopped.runner runner⟩] }

def run (a : Audience (ω × List Event)) (heard : ω) (steps : List Step) : Watched ω :=
  steps.foldl (step a) { runner := { heard := (heard, []) } }

theorem runner_stop (a : Audience (ω × List Event)) (w : Watched ω) :
    (w.stop a).runner = (w.runner.stop a).2 := by
  unfold stop
  split <;> rfl

/-! ### The invariant -/

/-- The attempts account for the trace and for the sessions, and only the engine of the last one may
be active. -/
structure Orderly (w : Watched ω) : Prop where
  trace : w.runner.heard.2 = w.attempts.flatMap (·.events)
  sessions : w.attempts.filterMap Attempt.session? = List.range w.runner.engines.length
  recorded : ∀ t ∈ w.attempts, t.IsRecorded w.runner.engines
  active : ∀ n e, w.runner.engines[n]? = some e → e.outcome = none →
    w.runner.active = some n ∧ w.attempts.getLast?.bind Attempt.session? = some n

end Watched

theorem Attempt.session?_eq_some {t : Attempt} {n : Nat} :
    t.session? = some n ↔ t.answer = .ok n := by
  unfold session?
  cases t.answer with
  | ok m => simp [Except.toOption]
  | error fault => simp [Except.toOption]

theorem Attempt.map_credit_nil (n : Nat) (attempts : List Attempt) :
    attempts.map (credit n []) = attempts := by
  conv_rhs => rw [← List.map_id attempts]
  refine List.map_congr_left fun t _ => ?_
  unfold credit
  split
  · rw [List.append_nil]
    rfl
  · rfl

theorem Attempt.map_credit_of_ne {n : Nat} {attempts : List Attempt}
    (h : ∀ t ∈ attempts, t.session? ≠ some n) (events : List Event) :
    attempts.map (credit n events) = attempts := by
  conv_rhs => rw [← List.map_id attempts]
  exact List.map_congr_left fun t ht => if_neg (h t ht)

/-- What is recorded of an attempt concerns only the engine of its session. -/
theorem Attempt.IsRecorded.congr {t : Attempt} {engines engines' : List Engine}
    (h : t.IsRecorded engines)
    (hengines : ∀ n, t.session? = some n → ∀ e, engines[n]? = some e → engines'[n]? = some e) :
    t.IsRecorded engines' := by
  unfold IsRecorded at h ⊢
  rcases hanswer : t.answer with fault | n
  · rwa [hanswer] at h
  · rw [hanswer] at h
    obtain ⟨e, he, hcourse⟩ := h
    exact ⟨e, hengines n (Attempt.session?_eq_some.2 hanswer) e he, hcourse⟩

/-- The engine of the session of an attempt takes a step. -/
theorem Attempt.IsRecorded.append {t : Attempt} {engines : List Engine} (h : t.IsRecorded engines)
    {n : Nat} (hn : t.session? = some n) {e : Engine} (he : engines[n]? = some e) {effect : Effect}
    {closing : Option Event} (hstep : effect.IsStep e closing) :
    IsRecorded (engines.set n effect.engine) { t with events := t.events ++ effect.events } := by
  unfold IsRecorded at h ⊢
  rw [Attempt.session?_eq_some.1 hn] at h
  obtain ⟨e', he', hcourse⟩ := h
  rw [he] at he'
  obtain rfl := Option.some.inj he'
  rw [Attempt.session?_eq_some.1 hn]
  exact ⟨_, List.getElem?_set_self (List.getElem?_eq_some_iff.1 he).1, hcourse.step hstep⟩

theorem published_eq {before after : Runner (ω × List Event)} {events : List Event}
    (h : after.heard.2 = before.heard.2 ++ events) : published before after = events := by
  rw [published, h, List.drop_left]

namespace Watched.Orderly

variable {w : Watched ω}

/-- Only the engines, the active session and the trace matter. -/
theorem congr (h : w.Orderly) {r : Runner (ω × List Event)}
    (hengines : r.engines = w.runner.engines) (hactive : r.active = w.runner.active)
    (hheard : r.heard.2 = w.runner.heard.2) : Orderly { w with runner := r } := by
  obtain ⟨htrace, hsessions, hrecorded, hlast⟩ := h
  refine ⟨hheard.trans htrace, ?_, ?_, ?_⟩
  · rw [hengines, hsessions]
  · rw [hengines]
    exact hrecorded
  · rw [hengines, hactive]
    exact hlast

/-- Two attempts do not share a session. -/
theorem session_unique (h : w.Orderly) {before after : List Attempt} {t other : Attempt} {n : Nat}
    (hattempts : w.attempts = before ++ t :: after) (ht : t.session? = some n)
    (hother : other ∈ before ∨ other ∈ after) : other.session? ≠ some n := by
  intro hn
  have hnodup : (w.attempts.filterMap Attempt.session?).Nodup := by
    rw [h.sessions]
    exact List.nodup_range
  rw [hattempts, List.filterMap_append, List.filterMap_cons_some ht] at hnodup
  obtain ⟨-, hafter, hbefore⟩ := List.nodup_append.1 hnodup
  rcases hother with hin | hin
  · exact hbefore n (List.mem_filterMap.2 ⟨other, hin, hn⟩) n List.mem_cons_self rfl
  · exact (List.nodup_cons.1 hafter).1 (List.mem_filterMap.2 ⟨other, hin, hn⟩)

/-- The active session is that of the last attempt, which the events of a turn are credited to. -/
theorem attempts_of_active (h : w.Orderly) {n : Nat} {r : Runner (ω × List Event)} {e : Engine}
    (he : w.runner.engines[n]? = some e) (houtcome : e.outcome = none) {events : List Event}
    (hheard : r.heard.2 = w.runner.heard.2 ++ events) :
    ∃ before t, w.attempts = before ++ [t] ∧ t.session? = some n ∧
      (∀ other ∈ before, other.session? ≠ some n) ∧
      (w.turn n r).attempts = before ++ [{ t with events := t.events ++ events }] := by
  obtain ⟨t, ht, htn⟩ := Option.bind_eq_some_iff.1 (h.active n e he houtcome).2
  obtain ⟨before, hattempts⟩ := List.getLast?_eq_some_iff.1 ht
  have hbefore : ∀ other ∈ before, other.session? ≠ some n := fun other hin =>
    h.session_unique hattempts htn (Or.inl hin)
  refine ⟨before, t, hattempts, htn, hbefore, ?_⟩
  rw [Watched.turn, published_eq hheard, hattempts, List.map_append,
    Attempt.map_credit_of_ne hbefore, List.map_singleton, Attempt.credit, if_pos htn]

/-- A turn of the active session. -/
theorem turn_of_active (h : w.Orderly) {n : Nat} {r : Runner (ω × List Event)} {e : Engine}
    (he : w.runner.engines[n]? = some e) (houtcome : e.outcome = none) {effect : Effect}
    {closing : Option Event} (hstep : effect.IsStep e closing)
    (hactive : r.active = w.runner.active)
    (hheard : r.heard.2 = w.runner.heard.2 ++ effect.events)
    (hengines : r.engines = w.runner.engines.set n effect.engine) : (w.turn n r).Orderly := by
  obtain ⟨hcurrent, hlast⟩ := h.active n e he houtcome
  obtain ⟨before, t, hattempts, htn, hbefore, hcredited⟩ :=
    h.attempts_of_active he houtcome hheard
  have hset : (w.turn n r).runner.engines = w.runner.engines.set n effect.engine := hengines
  refine ⟨?_, ?_, fun other hother => ?_, fun m e' he' houtcome' => ?_⟩
  · rw [hcredited]
    refine hheard.trans ?_
    rw [h.trace, hattempts]
    simp
  · rw [hset, List.length_set, ← h.sessions, hcredited, hattempts, List.filterMap_append,
      List.filterMap_append]
    rfl
  · rw [hset]
    rw [hcredited] at hother
    rcases List.mem_append.1 hother with hin | hin
    · have hrecorded := h.recorded other (hattempts ▸ List.mem_append_left _ hin)
      refine hrecorded.congr fun m hm e' he' => ?_
      have hne : n ≠ m := fun hn => hbefore other hin (hn ▸ hm)
      rw [List.getElem?_set_ne hne, he']
    · rw [List.mem_singleton.1 hin]
      have hrecorded := h.recorded t (hattempts ▸ List.mem_append_right _ List.mem_cons_self)
      exact hrecorded.append htn he hstep
  · by_cases hm : m = n
    · subst hm
      refine ⟨hactive.trans hcurrent, ?_⟩
      rw [hcredited, List.getLast?_concat]
      exact htn
    · -- any other active engine would belong to the last attempt too
      rw [hset, List.getElem?_set_ne fun hn => hm hn.symm] at he'
      have hother := (h.active m e' he' houtcome').2
      rw [hlast] at hother
      exact absurd (Option.some.inj hother).symm hm

/-- A turn of any session. -/
theorem turn (h : w.Orderly) {n : Nat} {r : Runner (ω × List Event)} {events : List Event}
    (hactive : r.active = w.runner.active) (hheard : r.heard.2 = w.runner.heard.2 ++ events)
    (hturn : Turn n w.runner.engines events r.engines) : (w.turn n r).Orderly := by
  by_cases hgoes : ∃ e, w.runner.engines[n]? = some e ∧ e.outcome = none
  · obtain ⟨e, he, houtcome⟩ := hgoes
    obtain ⟨effect, closing, hstep, rfl, hengines⟩ := hturn.exists_step he
    exact h.turn_of_active he houtcome hstep hactive hheard hengines
  · -- the run of the session has ended, so nothing happens
    obtain ⟨rfl, hengines⟩ := hturn.eq_of_ended fun e he houtcome => hgoes ⟨e, he, houtcome⟩
    rw [Watched.turn, published_eq hheard, Attempt.map_credit_nil]
    rw [List.append_nil] at hheard
    exact h.congr hengines hactive hheard

/-- An attempt that starts no session. It leaves all engines alone. -/
theorem failed (h : w.Orderly)
    (hended : ∀ (n : Nat) (e : Engine), w.runner.engines[n]? = some e → e.outcome ≠ none)
    {after : Runner (ω × List Event)} {fault : StartFault} {events : List Event}
    (hheard : after.heard.2 = w.runner.heard.2 ++ events)
    (hengines : after.engines = w.runner.engines)
    (hrecorded : Attempt.IsRecorded w.runner.engines ⟨.error fault, events⟩) :
    Orderly ⟨after, w.attempts ++ [⟨.error fault, events⟩]⟩ := by
  refine ⟨?_, ?_, fun t ht => ?_, fun n e he houtcome => ?_⟩
  · rw [hheard, h.trace]
    simp
  · rw [hengines, ← h.sessions, List.filterMap_append]
    exact List.append_nil _
  · rw [hengines]
    rcases List.mem_append.1 ht with hin | hin
    · exact h.recorded t hin
    · rwa [List.mem_singleton.1 hin]
  · rw [hengines] at he
    exact absurd houtcome (hended n e he)

/-- An attempt that starts a new session, when no engine is active. -/
theorem entered (h : w.Orderly)
    (hended : ∀ (n : Nat) (e : Engine), w.runner.engines[n]? = some e → e.outcome ≠ none)
    {after : Runner (ω × List Event)} {e : Engine} (hheard : after.heard.2 = w.runner.heard.2)
    (hengines : after.engines = w.runner.engines ++ [e])
    (hactive : after.active = some w.runner.engines.length) (hcourse : Course e []) :
    Orderly ⟨after, w.attempts ++ [⟨.ok w.runner.engines.length, []⟩]⟩ := by
  refine ⟨?_, ?_, fun t ht => ?_, fun n e' he' houtcome => ?_⟩
  · rw [hheard, h.trace]
    simp
  · rw [hengines, List.length_append, List.length_singleton, List.range_succ, ← h.sessions,
      List.filterMap_append]
    rfl
  · rw [hengines]
    rcases List.mem_append.1 ht with hin | hin
    · refine (h.recorded t hin).congr fun n _ e' he' => ?_
      rw [List.getElem?_append_left (List.getElem?_eq_some_iff.1 he').1, he']
    · rw [List.mem_singleton.1 hin]
      exact ⟨e, List.getElem?_concat_length, hcourse⟩
  · by_cases hn : n < w.runner.engines.length
    · rw [hengines, List.getElem?_append_left hn] at he'
      exact absurd houtcome (hended n e' he')
    · have hlength := (List.getElem?_eq_some_iff.1 he').1
      rw [hengines, List.length_append, List.length_singleton] at hlength
      obtain rfl : n = w.runner.engines.length := by omega
      refine ⟨hactive, ?_⟩
      rw [List.getLast?_concat]
      rfl

theorem began (h : w.Orderly)
    (hended : ∀ (n : Nat) (e : Engine), w.runner.engines[n]? = some e → e.outcome ≠ none)
    {after : Runner (ω × List Event)} {answer : Except StartFault Nat}
    (hbegan : Began w.runner after answer) :
    Orderly ⟨after, w.attempts ++ [⟨answer, published w.runner after⟩]⟩ := by
  cases hbegan with
  | entered hheard hengines hactive hcourse =>
    rw [published_eq (hheard.trans (List.append_nil _).symm)]
    exact h.entered hended hheard hengines hactive hcourse
  | refused hfault hheard hengines =>
    rw [published_eq hheard]
    refine h.failed hended hheard hengines ?_
    simp only [Attempt.IsRecorded, hfault]
    exact ⟨_, rfl, rfl⟩
  | brokenOff hfault hheard hengines =>
    have hnothing := hheard.trans (List.append_nil _).symm
    rw [published_eq hnothing]
    refine h.failed hended hnothing hengines ?_
    simp only [Attempt.IsRecorded, hfault, if_true]

section Steps

variable (observe : Event → ω → ω) (begin : Text → List Text → ω → Except Files.Fault Unit × ω)

theorem stop (h : w.Orderly) : (w.stop (.tracing observe begin)).Orderly := by
  unfold Watched.stop
  split
  · rename_i n hactive
    obtain ⟨events, hheard, hsame, hturn⟩ :=
      Runner.turns_stop (.tracing observe begin) (r := w.runner) hactive
    exact h.turn hsame (by rw [hheard, trace_hearAll]) hturn
  · rename_i hactive
    rw [Runner.stop_of_active_eq_none hactive]
    exact h

/-- After a stop no engine is active. -/
theorem ended_of_stop (h : w.Orderly) {n : Nat} {e : Engine}
    (he : (w.runner.stop (.tracing observe begin)).2.engines[n]? = some e) : e.outcome ≠ none := by
  intro houtcome
  have hrunner := w.runner_stop (.tracing observe begin)
  obtain ⟨hactive, -⟩ := (h.stop observe begin).active n e (hrunner ▸ he) houtcome
  rcases hbefore : w.runner.active with _ | m
  · rw [hrunner, Runner.stop_of_active_eq_none hbefore, hbefore] at hactive
    exact absurd hactive (by simp)
  · obtain ⟨events, -, hsame, -⟩ :=
      Runner.turns_stop (.tracing observe begin) (r := w.runner) hbefore
    rw [hrunner, hsame, hbefore] at hactive
    obtain rfl := Option.some.inj hactive
    exact Runner.ended_of_stop hbefore he houtcome

theorem step (h : w.Orderly) (s : Step) : (w.step (.tracing observe begin) s).Orderly := by
  have hquiet := isQuiet_tracing observe begin
  cases s with
  | prepare upcoming fault => exact h.congr rfl rfl rfl
  | finish process code => exact h.congr rfl rfl rfl
  | read n stream => exact h.congr (Runner.engines_read w.runner n stream) rfl rfl
  | pump n =>
    obtain ⟨events, hheard, hactive, hturn⟩ := Runner.turns_pump hquiet w.runner n
    exact h.turn hactive (by rw [hheard, trace_hearAll]) hturn
  | deliverExit n =>
    obtain ⟨events, hheard, hactive, hturn⟩ := Runner.turns_deliverExit hquiet w.runner n
    exact h.turn hactive (by rw [hheard, trace_hearAll]) hturn
  | stop => exact h.stop observe begin
  | start tool file index device =>
    rw [Watched.step, Runner.start]
    rcases arguments file index device with fault | args
    · exact h
    · have hrunner := w.runner_stop (.tracing observe begin)
      have hbegan := began_startWith observe begin w.runner tool file args
      rw [← hrunner] at hbegan
      refine (h.stop observe begin).began (fun n e he => ?_) hbegan
      rw [hrunner] at he
      exact h.ended_of_stop observe begin he

theorem run (heard : ω) (steps : List Step) :
    (Watched.run (.tracing observe begin) heard steps).Orderly := by
  have hnew : ({ runner := { heard := (heard, []) } } : Watched ω).Orderly := by
    refine ⟨rfl, rfl, fun t ht => absurd ht List.not_mem_nil, fun n e he => ?_⟩
    exact absurd he (by simp [Runner.engines])
  exact List.foldlRecOn steps _ hnew fun w h s _ => h.step observe begin s

end Steps

/-! ### What the invariant says -/

theorem at_most_one_active (h : w.Orderly) {n m : Nat} {e e' : Engine}
    (hn : w.runner.engines[n]? = some e) (hm : w.runner.engines[m]? = some e')
    (he : e.outcome = none) (he' : e'.outcome = none) : n = m := by
  obtain ⟨hactive, -⟩ := h.active n e hn he
  obtain ⟨hactive', -⟩ := h.active m e' hm he'
  rw [hactive] at hactive'
  exact Option.some.inj hactive'

/-- In what was published about one attempt there is at most one event that ends it, and it is the
last. -/
theorem terminal_last (h : w.Orderly) {t : Attempt} (ht : t ∈ w.attempts) :
    t.events.countP (·.isTerminal) ≤ 1 ∧
      ∀ event ∈ t.events, event.isTerminal = true → t.events.getLast? = some event := by
  have hrecorded := h.recorded t ht
  unfold Attempt.IsRecorded at hrecorded
  split at hrecorded
  · obtain ⟨e, -, hcourse⟩ := hrecorded
    exact ⟨hcourse.countP_terminal_le,
      fun event hevent hterminal => (hcourse.of_terminal hevent hterminal).1⟩
  · split at hrecorded
    · rw [hrecorded]
      exact ⟨Nat.zero_le 1, fun event hevent => absurd hevent List.not_mem_nil⟩
    · obtain ⟨event, hterminal, hevents⟩ := hrecorded
      rw [hevents]
      refine ⟨by simp [hterminal], fun other hother _ => ?_⟩
      rw [List.mem_singleton.1 hother]
      rfl

/-- An attempt that another one has followed is closed by an event that ends it, unless it was
broken off. -/
theorem closed (h : w.Orderly) {before after : List Attempt} {t : Attempt}
    (hattempts : w.attempts = before ++ t :: after) (hafter : after ≠ []) :
    if t.isBrokenOff then t.events = []
    else ∃ event : Event, event.isTerminal = true ∧ t.events.getLast? = some event := by
  have hrecorded := h.recorded t (hattempts ▸ List.mem_append_right _ List.mem_cons_self)
  unfold Attempt.IsRecorded at hrecorded
  unfold Attempt.isBrokenOff
  rcases hanswer : t.answer with fault | n
  · rw [hanswer] at hrecorded
    simp only at hrecorded ⊢
    split
    · rename_i hbroken
      rwa [if_pos hbroken] at hrecorded
    · rename_i hbroken
      rw [if_neg hbroken] at hrecorded
      obtain ⟨event, hterminal, hevents⟩ := hrecorded
      exact ⟨event, hterminal, by rw [hevents]; rfl⟩
  · rw [hanswer] at hrecorded
    obtain ⟨e, he, hcourse⟩ := hrecorded
    rw [if_neg Bool.false_ne_true]
    generalize t.events = events at hcourse
    cases hcourse with
    | going houtcome hcode hevents =>
      -- then its session would also be that of the last attempt
      obtain ⟨init, last, rfl⟩ := (List.eq_nil_or_concat after).resolve_left hafter
      have hlast := (h.active n e he houtcome).2
      rw [hattempts, List.concat_eq_append, ← List.cons_append, ← List.append_assoc,
        List.getLast?_concat, Option.bind_some] at hlast
      refine absurd hlast (h.session_unique hattempts (Attempt.session?_eq_some.2 hanswer) ?_)
      exact Or.inr (by simp)
    | ended hevents hterminal houtcome hcode => exact ⟨_, hterminal, List.getLast?_concat⟩

end Watched.Orderly

namespace Watched

variable (observe : Event → ω → ω) (begin : Text → List Text → ω → Except Files.Fault Unit × ω)

variable {observe begin} in
/-- A turn of a session whose run has ended does nothing. -/
theorem turn_of_ended {w : Watched ω} {n : Nat} {r : Runner (ω × List Event)} {events : List Event}
    (hturns : w.runner.Turns (Audience.tracing observe begin).toListener n r events)
    (hended : ∀ e, w.runner.engines[n]? = some e → e.outcome ≠ none) :
    (w.turn n r).runner.heard = w.runner.heard ∧ (w.turn n r).runner.engines = w.runner.engines ∧
      (w.turn n r).attempts = w.attempts := by
  obtain ⟨rfl, hengines⟩ := hturns.engines.eq_of_ended hended
  refine ⟨hturns.heard, hengines, ?_⟩
  rw [turn, published_eq (by rw [hturns.heard, trace_hearAll]), Attempt.map_credit_nil]

/-- What arrives for a session whose run has ended has no effect. -/
theorem late_turn {w : Watched ω} {n : Nat}
    (hended : ∀ e, w.runner.engines[n]? = some e → e.outcome ≠ none) {s : Step}
    (hs : s = .pump n ∨ s = .deliverExit n) :
    (w.step (.tracing observe begin) s).runner.heard = w.runner.heard ∧
      (w.step (.tracing observe begin) s).runner.engines = w.runner.engines ∧
      (w.step (.tracing observe begin) s).attempts = w.attempts := by
  have hquiet := isQuiet_tracing observe begin
  rcases hs with rfl | rfl
  · obtain ⟨events, hturns⟩ := Runner.turns_pump hquiet w.runner n
    exact turn_of_ended hturns hended
  · obtain ⟨events, hturns⟩ := Runner.turns_deliverExit hquiet w.runner n
    exact turn_of_ended hturns hended

/-- The engine of a run that has ended never changes again. -/
theorem engine_of_ended {w : Watched ω} {n : Nat} {e : Engine} (he : w.runner.engines[n]? = some e)
    (hended : e.outcome ≠ none) (s : Step) :
    (w.step (.tracing observe begin) s).runner.engines[n]? = some e := by
  have hquiet := isQuiet_tracing observe begin
  have hstop : (w.runner.stop (.tracing observe begin)).2.engines[n]? = some e := by
    rcases hactive : w.runner.active with _ | m
    · rw [Runner.stop_of_active_eq_none hactive, he]
    · obtain ⟨events, -, -, hturn⟩ :=
        Runner.turns_stop (.tracing observe begin) (r := w.runner) hactive
      exact hturn.getElem?_of_ended he hended
  cases s with
  | prepare upcoming fault => exact he
  | finish process code => exact he
  | read m stream =>
    rw [step, Runner.engines_read]
    exact he
  | pump m =>
    obtain ⟨events, -, -, hturn⟩ := Runner.turns_pump hquiet w.runner m
    exact hturn.getElem?_of_ended he hended
  | deliverExit m =>
    obtain ⟨events, -, -, hturn⟩ := Runner.turns_deliverExit hquiet w.runner m
    exact hturn.getElem?_of_ended he hended
  | stop =>
    rw [step, runner_stop]
    exact hstop
  | start tool file index device =>
    rw [step, Runner.start]
    rcases arguments file index device with fault | args
    · exact he
    · exact (began_startWith observe begin w.runner tool file args).getElem?_engines hstop

theorem length_attempts_stop (a : Audience (ω × List Event)) (w : Watched ω) :
    (w.stop a).attempts.length = w.attempts.length := by
  unfold stop
  split
  · exact List.length_map _
  · rfl

theorem length_attempts_step (a : Audience (ω × List Event)) (w : Watched ω) (s : Step) :
    (w.step a s).attempts.length = w.attempts.length + if s.isAttempt then 1 else 0 := by
  cases s with
  | prepare upcoming fault => rfl
  | finish process code => rfl
  | read n stream => rfl
  | pump n => exact List.length_map _
  | deliverExit n => exact List.length_map _
  | stop => exact length_attempts_stop a w
  | start tool file index device =>
    rw [step, Step.isAttempt]
    rcases arguments file index device with fault | args
    · rfl
    · rw [if_pos (show (Except.ok args : Except NegativeIndex _).isOk = true from rfl)]
      simp only [List.length_append, List.length_singleton, length_attempts_stop]

/-- Every start with arguments in order is an attempt, and nothing else is. -/
theorem length_attempts_run (a : Audience (ω × List Event)) (heard : ω) (steps : List Step) :
    (run a heard steps).attempts.length = steps.countP Step.isAttempt := by
  have hall : ∀ w : Watched ω, (steps.foldl (step a) w).attempts.length =
      w.attempts.length + steps.countP Step.isAttempt := by
    induction steps with
    | nil => exact fun w => rfl
    | cons s steps ih =>
      intro w
      rw [List.foldl_cons, ih, length_attempts_step, List.countP_cons]
      omega
  rw [run, hall]
  exact Nat.zero_add _

/-! ### Ordinary surroundings -/

end Watched

/-- Whether a step leaves the launcher one that fails only by refusing. -/
def Step.isOrdinary : Step → Bool
  | .prepare _ (some fault) => fault.isRefusal
  | _ => true

theorem Attempt.isBrokenOff_credit (n : Nat) (events : List Event) (t : Attempt) :
    (t.credit n events).isBrokenOff = t.isBrokenOff := by
  unfold credit
  split <;> rfl

namespace Watched

/-- The launcher fails only by refusing, and no attempt was broken off. -/
structure Ordinary (w : Watched ω) : Prop where
  launcher : ∀ fault, w.runner.launcher.fault = some fault → fault.isRefusal = true
  attempts : ∀ t ∈ w.attempts, t.isBrokenOff = false

namespace Ordinary

variable {w : Watched ω}

theorem turn (h : w.Ordinary) (n : Nat) {r : Runner (ω × List Event)}
    (hr : r.launcher.fault = w.runner.launcher.fault) : (w.turn n r).Ordinary := by
  refine ⟨fun fault hfault => h.launcher fault (hr ▸ hfault), fun t ht => ?_⟩
  obtain ⟨t, hin, rfl⟩ := List.mem_map.1 ht
  rw [Attempt.isBrokenOff_credit]
  exact h.attempts t hin

theorem stop (h : w.Ordinary) (a : Audience (ω × List Event)) : (w.stop a).Ordinary := by
  unfold Watched.stop
  split
  · exact h.turn _ (Runner.fault_stop w.runner)
  · refine ⟨fun fault hfault => ?_, h.attempts⟩
    rw [Runner.fault_stop] at hfault
    exact h.launcher fault hfault

theorem step (h : w.Ordinary) {a : Audience (ω × List Event)}
    (hbegin : ∀ file argv heard, (a.begin file argv heard).1 = .ok ()) {s : Step}
    (hs : s.isOrdinary = true) : (w.step a s).Ordinary := by
  cases s with
  | prepare upcoming fault =>
    refine ⟨fun other hother => ?_, h.attempts⟩
    obtain rfl : fault = some other := hother
    exact hs
  | finish process code => exact ⟨h.launcher, h.attempts⟩
  | read n stream => exact ⟨h.launcher, h.attempts⟩
  | pump n => exact h.turn n (by rw [Runner.pump, Runner.launcher_withSession])
  | deliverExit n => exact h.turn n (by rw [Runner.deliverExit, Runner.launcher_withSession])
  | stop => exact h.stop a
  | start tool file index device =>
    rw [Watched.step, Runner.start]
    rcases arguments file index device with fault | args
    · exact ⟨h.launcher, h.attempts⟩
    · obtain ⟨hfault, hanswer⟩ := Runner.startWith_ordinary hbegin h.launcher tool file args
      refine ⟨fun fault hother => h.launcher fault (hfault ▸ hother), fun t ht => ?_⟩
      rcases List.mem_append.1 ht with hin | hin
      · exact (h.stop a).attempts t hin
      · rw [List.mem_singleton.1 hin]
        unfold Attempt.isBrokenOff
        split
        · rfl
        · rename_i fault hfailed
          exact hanswer fault hfailed

theorem run {a : Audience (ω × List Event)}
    (hbegin : ∀ file argv heard, (a.begin file argv heard).1 = .ok ()) (heard : ω)
    {steps : List Step} (hsteps : ∀ s ∈ steps, s.isOrdinary = true) :
    (Watched.run a heard steps).Ordinary := by
  have hnew : ({ runner := { heard := (heard, []) } } : Watched ω).Ordinary := by
    refine ⟨fun fault hfault => ?_, fun t ht => absurd ht List.not_mem_nil⟩
    exact absurd hfault (by simp)
  exact List.foldlRecOn steps _ hnew fun w h s hs => h.step hbegin (hsteps s hs)

end Ordinary

end Watched

/-- A runner does not mix runs, whatever its readers, pumps and users do in whatever order. At most
one engine is active, that of the last attempt. The audience hears the events of the attempts one
after another; those of an attempt have at most one event that ends it, as their last, and have it
as soon as there is another attempt. A stop ends the active run, the engine of a run that has ended
never changes again, and what arrives for it publishes nothing and changes no other engine either.

An attempt without such an event is one that was broken off and has published nothing. There is none
if the launcher fails only by refusing to start a process, and the audience does not fail. -/
theorem runs_not_mixed (observe : Event → ω → ω)
    (begin : Text → List Text → ω → Except Files.Fault Unit × ω) (heard : ω) (steps : List Step) :
    let w := Watched.run (.tracing observe begin) heard steps
    (∀ (n m : Nat) (e e' : Engine), w.runner.engines[n]? = some e → w.runner.engines[m]? = some e' →
      e.isActive = true → e'.isActive = true → n = m) ∧
    (∀ (n : Nat) (e : Engine), w.runner.engines[n]? = some e → e.isActive = true →
      w.attempts.getLast?.bind Attempt.session? = some n) ∧
    w.attempts.length = steps.countP Step.isAttempt ∧
    w.runner.heard.2 = w.attempts.flatMap (·.events) ∧
    (∀ t ∈ w.attempts, t.events.countP (·.isTerminal) ≤ 1 ∧
      ∀ event ∈ t.events, event.isTerminal = true → t.events.getLast? = some event) ∧
    (∀ (before after : List Attempt) (t : Attempt), w.attempts = before ++ t :: after → after ≠ [] →
      if t.isBrokenOff then t.events = []
      else ∃ event : Event, event.isTerminal = true ∧ t.events.getLast? = some event) ∧
    ((∀ s ∈ steps, s.isOrdinary = true) → (∀ file argv told, (begin file argv told).1 = .ok ()) →
      ∀ t ∈ w.attempts, t.isBrokenOff = false) ∧
    (∀ (n : Nat) (e : Engine),
      (w.step (.tracing observe begin) .stop).runner.engines[n]? = some e → e.isActive = false) ∧
    (∀ (n : Nat) (e : Engine), w.runner.engines[n]? = some e → e.isActive = false →
      ∀ s, (w.step (.tracing observe begin) s).runner.engines[n]? = some e) ∧
    (∀ (n : Nat) (e : Engine), w.runner.engines[n]? = some e → e.isActive = false →
      ∀ s, s = .pump n ∨ s = .deliverExit n →
        (w.step (.tracing observe begin) s).runner.heard = w.runner.heard ∧
        (w.step (.tracing observe begin) s).runner.engines = w.runner.engines ∧
        (w.step (.tracing observe begin) s).attempts = w.attempts) := by
  intro w
  have h : w.Orderly := Watched.Orderly.run observe begin heard steps
  have hidle : ∀ {e : Engine}, e.isActive = false ↔ e.outcome ≠ none := fun {e} => by
    rw [← Bool.not_eq_true, Engine.isActive_iff]
  refine ⟨fun n m e e' hn hm he he' => ?_, fun n e hn he => ?_,
    Watched.length_attempts_run _ heard steps, h.trace, fun t ht => h.terminal_last ht,
    fun before after t hattempts hafter => h.closed hattempts hafter, fun hsteps hbegin => ?_,
    fun n e hn => ?_, fun n e hn he s => Watched.engine_of_ended observe begin hn (hidle.1 he) s,
    fun n e hn he s hs => ?_⟩
  · exact h.at_most_one_active hn hm (Engine.isActive_iff.1 he) (Engine.isActive_iff.1 he')
  · exact (h.active n e hn (Engine.isActive_iff.1 he)).2
  · have hnever : ∀ file argv (told : ω × List Event),
        ((Audience.tracing observe begin).begin file argv told).1 = .ok () :=
      fun file argv told => hbegin file argv told.1
    exact (Watched.Ordinary.run hnever heard hsteps).attempts
  · rw [Watched.step, Watched.runner_stop] at hn
    exact hidle.2 (h.ended_of_stop observe begin hn)
  · refine Watched.late_turn observe begin (fun e' he' => ?_) hs
    rw [hn] at he'
    obtain rfl := Option.some.inj he'
    exact hidle.1 he

end ScriptRun.Run
