import ScriptRun.Proofs.Inspect.Ownership
import ScriptRun.Proofs.Port.Waiting

/-!
# An inspector leaks no process

A start that fails leaves no process behind, and one that succeeds leaves the process that it serves
and no other. Each of its three phases takes what the inspector owns (`Shared.Owned`) from one state
to the next: the launch adds a process and an engine, the wait adds nothing, and the conclusion
keeps both as the current session or gives both up.

The terminal events of an attempt are counted by its engine. An engine that is no longer active has
published exactly one, whether the exit of its process was delivered before the decision on its
readiness or after it.
-/

namespace ScriptRun.Inspect

open Run Settings Status

variable {ω : Type}

/-! ### The launch -/

/-- What a start does up to the launch, when there is no current inspector: it starts a process
whose engine has published nothing yet, or it starts none. -/
inductive Begun (before after : Inspector (ω × List Event)) : Except StartFault Serving → Prop
  | entered {serving : Serving} {p : Child} {e : Engine}
      (hprocess : serving.process = before.launcher.processes.length)
      (houtput : serving.output = before.engines.length)
      (hprocesses : after.launcher.processes = before.launcher.processes ++ [p])
      (hp : p ∈ before.launcher.upcoming ∨ p = {})
      (hupcoming : ∀ other ∈ after.launcher.upcoming, other ∈ before.launcher.upcoming)
      (hfault : after.launcher.fault = before.launcher.fault)
      (hengines : after.engines = before.engines ++ [e]) (hcourse : Course e [])
      (hheard : after.heard.2 = before.heard.2) (hcurrent : after.current = before.current) :
      Begun before after (.ok serving)
  | failed {fault : StartFault} {events : List Event}
      (hprocesses : after.launcher.processes = before.launcher.processes)
      (hupcoming : after.launcher.upcoming = before.launcher.upcoming)
      (hfault : after.launcher.fault = before.launcher.fault)
      (hengines : after.engines = before.engines) (hcurrent : after.current = before.current)
      (hheard : after.heard.2 = before.heard.2 ++ events)
      (hrecorded : if foundPort (.error fault) then
        Attempt.IsRecorded before.engines ⟨.error fault, events⟩ else events = []) :
      Begun before after (.error fault)

/-- The count of the ports that were tried does not matter. -/
theorem Begun.of_probes {before after : Inspector (ω × List Event)} {probes : Nat}
    {answer : Except StartFault Serving} (h : Begun { before with probes } after answer) :
    Begun before after answer := by
  cases h with
  | entered hprocess houtput hprocesses hp hupcoming hfault hengines hcourse hheard hcurrent =>
    exact .entered hprocess houtput hprocesses hp hupcoming hfault hengines hcourse hheard hcurrent
  | failed hprocesses hupcoming hfault hengines hcurrent hheard hrecorded =>
    exact .failed hprocesses hupcoming hfault hengines hcurrent hheard hrecorded

section Starting

variable (observe : Event → ω → ω)

theorem begun_launch (tool : Tool) (platform : Text) (device : Option Text) (port : Int)
    {i : Inspector (ω × List Event)}
    (hrefuses : ∀ fault, i.launcher.fault = some fault → fault.isRefusal = true) :
    Begun i (i.launch (tracing observe) tool platform device port).2
      (i.launch (tracing observe) tool platform device port).1 := by
  unfold Inspector.launch
  rcases tool.argv (inspectArguments platform port device) with missing | argv
  · exact .failed rfl rfl rfl rfl rfl rfl ⟨.spawnFailed missing.message, rfl, rfl⟩
  · have hcases := i.launcher.launch_cases argv tool.cwd
    have hfault := (fault_launch i.launcher argv tool.cwd).1
    rcases hlaunch : i.launcher.launch argv tool.cwd with ⟨launched, launcher⟩
    rw [hlaunch] at hcases hfault
    simp only [hlaunch] at hcases hfault ⊢
    obtain ⟨fault, rfl, hcause, hprocesses, hupcoming⟩ | ⟨p, hp, rfl, hprocesses, hupcoming⟩ :=
      hcases
    · -- of any other fault nothing would be published
      have hrefusal := hrefuses fault hcause
      cases fault with
      | refused reason =>
        exact .failed hprocesses hupcoming hfault rfl rfl rfl
          ⟨.spawnFailed (refusal argv reason), rfl, rfl⟩
      | invalid reason => exact absurd hrefusal (by simp [LaunchFault.isRefusal])
      | crashed reason => exact absurd hrefusal (by simp [LaunchFault.isRefusal])
    · exact .entered rfl i.length_engines.symm hprocesses hp hupcoming hfault List.map_append
        (Course.new ..) rfl rfl

theorem begun_prepare (tool : Tool) (first : Except PortFault Int) (ports : Ports)
    (platform : Text) (device : Option Text) {i : Inspector (ω × List Event)}
    (hcurrent : i.current = none)
    (hrefuses : ∀ fault, i.launcher.fault = some fault → fault.isRefusal = true) :
    Begun i (i.prepare (tracing observe) tool first ports platform device).2
      (i.prepare (tracing observe) tool first ports platform device).1 := by
  unfold Inspector.prepare
  rw [show i.stop (tracing observe) = (false, i) by rw [Inspector.stop, hcurrent]]
  rcases first with fault | first
  · exact .failed rfl rfl rfl rfl rfl (List.append_nil _).symm rfl
  · rcases hfound : Port.findFree ports.isFree first none with ⟨fault | port, tried⟩
    · simp only [hfound]
      exact .failed rfl rfl rfl rfl rfl (List.append_nil _).symm rfl
    · simp only [hfound]
      refine .of_probes (begun_launch observe tool platform device port ?_)
      exact hrefuses

end Starting

/-- The attempt that a start has added up to the launch, if it has found a port. -/
def newAttempt (answer : Except StartFault Serving) (events : List Event) : List Attempt :=
  if foundPort answer then [⟨answer.map (·.output), events⟩] else []

namespace Shared.Owned

variable {w : Shared ω} {started : Nat} {answers : List (Except StartFault Nat)}

/-- A new process and a new engine are all that runs. -/
theorem enter (h : w.Owned started answers none none none) {i : Inspector (ω × List Event)}
    {serving : Serving} (hbegun : Begun w.inspector i (.ok serving)) :
    Owned
      { w with
        inspector := i
        attempts := w.attempts ++ [⟨.ok serving.output, published w.inspector i⟩] }
      started (answers ++ [.ok serving.output]) (some serving.process) (some serving.output) none ∧
      started ≤ serving.process := by
  cases hbegun with
  | @entered _ p e hprocess houtput hprocesses hp hupcoming hfault hengines hcourse hheard
      hcurrent =>
    have hlength : i.launcher.processes.length = w.inspector.launcher.processes.length + 1 := by
      rw [hprocesses, List.length_append, List.length_singleton]
    have hprocess_of := Launcher.process_of_append hprocesses
    have hpublished : published w.inspector i = [] := by
      rw [published, hheard, List.drop_length]
    refine ⟨{
      started := hlength ▸ Nat.le_succ_of_le h.started
      current := hcurrent.trans h.current
      upcoming := fun other hother => h.upcoming _ (hupcoming _ hother)
      refuses := hfault ▸ h.refuses
      schedule := h.schedule
      made := ?made, sessions := ?sessions, newest := ?newest, trace := ?trace, known := ?known
      running := ?running, active := ?active, obeys := ?obeys, recorded := ?recorded },
      hprocess ▸ h.started⟩
    case made =>
      rw [List.map_append, h.made]
      rfl
    case sessions =>
      rw [List.filterMap_append, h.sessions, hengines, List.length_append, List.length_singleton,
        List.range_succ, houtput]
      rfl
    case newest =>
      intro n hn
      rw [List.getLast?_concat, Option.some.inj hn]
    case trace =>
      rw [hheard, h.trace, hpublished]
      simp
    case known =>
      intro n hn
      obtain rfl := Option.some.inj hn
      exact hlength ▸ hprocess ▸ Nat.lt_succ_self _
    case running =>
      intro n hn
      by_cases hnew : n = w.inspector.launcher.processes.length
      · rw [hprocess, hnew]
      · rw [Launcher.IsRunning, hprocess_of, if_neg hnew] at hn
        exact absurd (h.running n hn) (by simp)
    case active =>
      intro n e' he' houtcome
      by_cases hold : n < w.inspector.engines.length
      · -- none of the old engines is active
        rw [hengines, List.getElem?_append_left hold] at he'
        exact absurd (h.active n e' he' houtcome) (by simp)
      · have hn := (List.getElem?_eq_some_iff.1 he').1
        rw [hengines, List.length_append, List.length_singleton] at hn
        exact congrArg some (by omega)
    case obeys =>
      intro n
      rw [hprocess_of]
      split
      · rcases hp with hp | rfl
        · exact h.upcoming p hp
        · rfl
      · exact h.obeys n
    case recorded =>
      intro t ht
      rw [hengines]
      rcases List.mem_append.1 ht with hin | hin
      · exact (h.recorded t hin).more [e]
      · obtain rfl := List.mem_singleton.1 hin
        rw [hpublished, houtput]
        exact ⟨e, List.getElem?_concat_length .., hcourse⟩

/-- A start that has launched nothing leaves nothing. -/
theorem fail (h : w.Owned started answers none none none) {i : Inspector (ω × List Event)}
    {fault : StartFault} (hbegun : Begun w.inspector i (.error fault)) :
    Owned
      { w with
        inspector := i
        attempts := w.attempts ++ newAttempt (.error fault) (published w.inspector i) }
      started (answers ++ (newAttempt (.error fault) []).map (·.answer)) none none none := by
  cases hbegun with
  | @failed _ events hprocesses hupcoming hfault hengines hcurrent hheard hrecorded =>
    have hlauncher : ∀ n, i.launcher.process n = w.inspector.launcher.process n := fun n => by
      rw [Launcher.process, Launcher.process, hprocesses]
    have hpublished : published w.inspector i = events := by
      rw [published, hheard, List.drop_left]
    rw [hpublished]
    unfold newAttempt
    refine {
      started := hprocesses ▸ h.started
      newest := fun n hn => absurd hn (by simp)
      known := fun n hn => absurd hn (by simp)
      active := hengines ▸ h.active
      current := hcurrent.trans h.current
      obeys := fun n => hlauncher n ▸ h.obeys n
      upcoming := hupcoming ▸ h.upcoming
      refuses := hfault ▸ h.refuses
      schedule := h.schedule
      made := ?made, sessions := ?sessions, trace := ?trace, running := ?running
      recorded := ?recorded }
    case made =>
      rw [List.map_append, h.made]
      split <;> rfl
    case sessions =>
      rw [List.filterMap_append, h.sessions, hengines]
      split <;> exact List.append_nil _
    case trace =>
      rw [hheard, h.trace, List.flatMap_append]
      split at hrecorded
      · rename_i hfound
        rw [if_pos hfound, List.flatMap_singleton]
      · rename_i hfound
        rw [if_neg hfound, hrecorded, List.flatMap_nil]
    case running =>
      intro n hn
      rw [Launcher.IsRunning, hlauncher] at hn
      exact h.running n hn
    case recorded =>
      intro t ht
      rw [hengines]
      rcases List.mem_append.1 ht with hin | hin
      · exact h.recorded t hin
      · split at hin
        · rename_i hfound
          obtain rfl := List.mem_singleton.1 hin
          rwa [if_pos hfound] at hrecorded
        · exact absurd hin List.not_mem_nil

variable (observe : Event → ω → ω)

theorem prepare {current : Option Serving}
    (h : w.Owned started answers (current.map (·.process)) (current.map (·.output)) current)
    (tool : Tool) (first : Except PortFault Int) (ports : Ports) (platform : Text)
    (device : Option Text) :
    let prepared := w.prepare (tracing observe) tool first ports platform device
    prepared.2.Owned started (answers ++ (newAttempt prepared.1 []).map (·.answer))
      (prepared.1.toOption.map (·.process)) (prepared.1.toOption.map (·.output)) none ∧
      ∀ serving, prepared.1 = .ok serving → started ≤ serving.process := by
  unfold Shared.prepare Shared.launch
  have hyield := (h.stop observe).yield observe
  generalize (w.stop (tracing observe)).2.yield (tracing observe) = stopped at hyield
  have hbegun := begun_prepare observe tool first ports platform device hyield.current
    hyield.refuses
  simp only
  generalize stopped.inspector.prepare (tracing observe) tool first ports platform device = prepared
    at hbegun
  obtain ⟨fault | serving, i⟩ := prepared
  · exact ⟨hyield.fail hbegun, nofun⟩
  · obtain ⟨hentered, hnew⟩ := hyield.enter hbegun
    exact ⟨hentered, fun other hother => Except.ok.inj hother ▸ hnew⟩

theorem withClock {process output : Option Nat} {current : Option Serving}
    (h : w.Owned started answers process output current) (clock : Time.Clock) :
    Owned { w with inspector := { w.inspector with clock } } started answers process output
      current :=
  h.follows (.refl _) rfl rfl rfl

theorem awaitPort {process output : Option Nat} {current : Option Serving}
    (h : w.Owned started answers process output current) (ports : Ports) (timeout : Number)
    (serving : Serving) :
    (w.awaitPort (tracing observe) ports timeout serving).2.Owned started answers process output
      current := by
  unfold Shared.awaitPort
  generalize Port.manyRounds = rounds
  refine Port.waitUntil_keeps (P := fun w => Owned w started answers process output current)
    (fun _ hs => hs.poll observe _) (fun _ hs => ?_) (fun _ hs => ?_) rounds h
  · exact hs.act observe (Inspector.surroundings ports serving.process).connects
      (fun _ => .refl _) (fun _ => rfl) (fun _ => rfl) fun _ => rfl
  · exact (hs.yield observe).withClock _

/-- The conclusion keeps the process and the engine as those of the current session, or gives both
up. -/
theorem conclude {serving : Serving}
    (h : w.Owned started answers (some serving.process) (some serving.output) none)
    (timeout : Number) (wait : Port.Wait) :
    let concluded := w.conclude (tracing observe) timeout serving wait
    concluded.2.Owned started answers (concluded.1.toOption.map (·.process))
      (concluded.1.toOption.map (·.output)) concluded.1.toOption := by
  unfold Shared.conclude
  split
  · exact { h.yield observe with current := rfl }
  · have hended := (h.poll observe serving.process).actOn observe
      (Inspector.ends_readinessTimedOut (tracing observe) serving.port timeout)
      fun n hn => (Option.some.inj hn).symm
    exact hended.stopProcess observe fun n hn => (Option.some.inj hn).symm

end Shared.Owned

/-! ### A start -/

namespace Shared

/-- The wait of a start has ended with a connection. The last time it asked before, the process was
alive. -/
def Connects (l : Listener (ω × List Event)) (ports : Ports) (timeout : Number) (serving : Serving)
    (launched after : Shared ω) : Prop :=
  let world := among l (Inspector.surroundings ports serving.process)
  ∃ last polled connected,
    Port.Rounds world (launched.inspector.clock.reading + timeout.toFloat) launched last ∧
    world.hasExited last = (false, polled) ∧
    polled.inspector.launcher.IsRunning serving.process ∧
    world.connects polled = (true, connected) ∧
    after = (connected.act l fun i => ((), { i with current := some serving })).2

theorem isRunning_of_hasExited {l : Listener (ω × List Event)} {ports : Ports} {process : Nat}
    {w polled : Shared ω}
    (h : (among l (Inspector.surroundings ports process)).hasExited w = (false, polled)) :
    polled.inspector.launcher.IsRunning process := by
  obtain ⟨hanswer, rfl⟩ := Prod.mk.inj h
  exact Launcher.isRunning_of_poll
    (Option.isNone_iff_eq_none.1 (Option.isSome_eq_false_iff.1 hanswer))

/-- A start that has launched the tool connects to it, or fails after it has found a port. -/
theorem conclude_cases (l : Listener (ω × List Event)) (ports : Ports) (timeout : Number)
    (serving : Serving) (launched : Shared ω) :
    let waited := launched.awaitPort l ports timeout serving
    let concluded := waited.2.conclude l timeout serving waited.1
    (concluded.1 = .ok serving ∧ Connects l ports timeout serving launched concluded.2) ∨
      ∃ fault, foundPort (.error fault) = true ∧ concluded.1 = .error fault := by
  unfold awaitPort
  generalize Port.manyRounds = rounds
  rcases hwaited : Port.waitUntil (among l (Inspector.surroundings ports serving.process))
    (launched.inspector.clock.reading + timeout.toFloat) rounds launched with ⟨wait, waited⟩
  simp only
  unfold conclude
  split
  · rename_i hready
    obtain rfl : wait = .ready := of_decide_eq_true hready
    obtain ⟨last, polled, hrounds, halive, hconnects⟩ := Port.waitUntil_eq_ready hwaited
    exact Or.inl ⟨rfl, last, polled, waited, hrounds, halive, isRunning_of_hasExited halive,
      hconnects, rfl⟩
  · exact Or.inr ⟨_, rfl, rfl⟩

variable {w : Shared ω} {started : Nat} {answers : List (Except StartFault Nat)}
  {current : Option Serving}

theorem Owned.start
    (h : w.Owned started answers (current.map (·.process)) (current.map (·.output)) current)
    (observe : Event → ω → ω) (tool : Tool) (first : Except PortFault Int) (timeout : Number)
    (ports : Ports) (platform : Text) (device : Option Text) :
    let begun := w.start (tracing observe) tool first timeout ports platform device
    (∃ made, made.length = (if foundPort begun.1 then 1 else 0) ∧
      begun.2.Owned started (answers ++ made) (begun.1.toOption.map (·.process))
        (begun.1.toOption.map (·.output)) begun.1.toOption) ∧
    ∀ serving, begun.1 = .ok serving → started ≤ serving.process ∧ ∃ launched,
      w.prepare (tracing observe) tool first ports platform device = (.ok serving, launched) ∧
      Connects (tracing observe) ports timeout serving (launched.yield (tracing observe))
        begun.2 := by
  obtain ⟨hprepared, hnew⟩ := h.prepare observe tool first ports platform device
  rcases hprepare : w.prepare (tracing observe) tool first ports platform device with
    ⟨fault | serving, launched⟩
  · rw [hprepare] at hprepared
    rw [start_of_error hprepare]
    refine ⟨⟨_, ?_, hprepared⟩, nofun⟩
    rw [List.length_map, newAttempt]
    split <;> rfl
  · rw [hprepare] at hprepared hnew
    have hconcluded :=
      ((hprepared.yield observe).awaitPort observe ports timeout serving).conclude observe timeout
        ((launched.yield (tracing observe)).awaitPort (tracing observe) ports timeout serving).1
    have hcases := conclude_cases (tracing observe) ports timeout serving
      (launched.yield (tracing observe))
    rw [start_of_ok hprepare]
    simp only at hconcluded hcases
    generalize ((launched.yield (tracing observe)).awaitPort (tracing observe) ports timeout
      serving).2.conclude (tracing observe) timeout serving _ = concluded at hconcluded hcases
    refine ⟨⟨_, ?_, hconcluded⟩, fun other hother => ?_⟩
    · obtain ⟨hok, -⟩ | ⟨fault, hfound, herror⟩ := hcases
      · rw [hok]
        rfl
      · rw [herror, if_pos hfound]
        rfl
    · obtain ⟨hok, hconnects⟩ | ⟨fault, hfound, herror⟩ := hcases
      · obtain rfl := Except.ok.inj (hok.symm.trans hother)
        exact ⟨hnew _ rfl, launched, rfl, hconnects⟩
      · exact absurd (herror.symm.trans hother) nofun

end Shared

/-! ### Any sequence of calls -/

/-- What can happen to an inspector: others do something, or it is called, with what others do
between the actions of the call. -/
inductive Happening where
  | others (move : Move)
  | start (schedule : List (List Move)) (tool : Tool) (first : Except PortFault Int)
      (timeout : Number) (ports : Ports) (platform : Text) (device : Option Text)
  | stop (schedule : List (List Move))

def Happening.Obeys : Happening → Prop
  | .others move => move.Obeys
  | .start schedule .. | .stop schedule => Obey schedule

namespace Shared

def happen (l : Listener (ω × List Event)) (w : Shared ω) : Happening → Shared ω
  | .others move => w.move l move
  | .start schedule tool first timeout ports platform device =>
    (start l tool first timeout ports platform device { w with schedule }).2
  | .stop schedule => (stop l { w with schedule }).2

/-- What has become of a new inspector. -/
def run (l : Listener (ω × List Event)) (heard : ω) (happenings : List Happening) : Shared ω :=
  happenings.foldl (happen l) { inspector := { heard := (heard, []) } }

/-- There is no session, and no process is running. -/
def IsEmpty (w : Shared ω) : Prop :=
  w.inspector.current = none ∧ ∀ n, ¬w.inspector.launcher.IsRunning n

/-- What is owned is what belongs to the current session, as it is while no call is in progress. -/
def Settled (w : Shared ω) : Prop :=
  w.Owned w.inspector.launcher.processes.length (w.attempts.map (·.answer))
    (w.inspector.current.map (·.process)) (w.inspector.current.map (·.output)) w.inspector.current

variable {w : Shared ω} {started : Nat} {answers : List (Except StartFault Nat)}
  {current : Option Serving}

theorem Owned.settled
    (h : w.Owned started answers (current.map (·.process)) (current.map (·.output)) current) :
    w.Settled := by
  unfold Settled
  rw [h.made, h.current]
  exact { h with started := Nat.le_refl _ }

theorem Owned.isEmpty (h : w.Owned started answers none none none) : w.IsEmpty :=
  ⟨h.current, fun n hn => nomatch h.running n hn⟩

namespace Settled

theorem scheduled (h : w.Settled) {schedule : List (List Move)} (hschedule : Obey schedule) :
    Settled { w with schedule } :=
  { h with schedule := hschedule }

theorem happen (h : w.Settled) (observe : Event → ω → ω) {happening : Happening}
    (hobeys : happening.Obeys) : (w.happen (tracing observe) happening).Settled := by
  cases happening with
  | others move => exact Owned.settled (h.move observe hobeys)
  | start schedule tool first timeout ports platform device =>
    obtain ⟨⟨made, -, hstarted⟩, -⟩ :=
      (h.scheduled hobeys).start observe tool first timeout ports platform device
    exact hstarted.settled
  | stop schedule => exact @Owned.settled _ _ _ _ none ((h.scheduled hobeys).stop observe)

theorem run (observe : Event → ω → ω) (heard : ω) {happenings : List Happening}
    (hobey : ∀ happening ∈ happenings, happening.Obeys) :
    (Shared.run (tracing observe) heard happenings).Settled := by
  have hnew : Settled ({ inspector := { heard := (heard, []) } } : Shared ω) := by
    refine ⟨Nat.le_refl _, rfl, rfl, nofun, rfl, nofun, fun n hn => ?_, nofun, rfl, fun n => rfl,
      nofun, nofun, nofun, nofun⟩
    exact absurd hn.lt_length (Nat.not_lt_zero n)
  exact List.foldlRecOn happenings _ hnew fun w h happening hin => h.happen observe (hobey _ hin)

/-- An attempt whose session is not the current one has said how it has ended. -/
theorem countP_terminal (h : w.Settled) {t : Attempt} (ht : t ∈ w.attempts) :
    t.events.countP (·.isTerminal) ≤ 1 ∧
      ((∀ n, t.output? = some n → w.inspector.current.map (·.output) ≠ some n) →
        t.events.countP (·.isTerminal) = 1) := by
  have hrecorded := h.recorded t ht
  unfold Attempt.IsRecorded at hrecorded
  rcases hanswer : t.answer with fault | n
  · rw [hanswer] at hrecorded
    obtain ⟨event, hterminal, hevents⟩ := hrecorded
    rw [hevents, List.countP_singleton, if_pos hterminal]
    exact ⟨Nat.le_refl 1, fun _ => rfl⟩
  · rw [hanswer] at hrecorded
    obtain ⟨e, he, hcourse⟩ := hrecorded
    refine ⟨hcourse.countP_terminal_le, fun hother => ?_⟩
    have hended : e.outcome ≠ none := fun houtcome =>
      hother n (Attempt.output?_eq_some.2 hanswer) (h.active n e he houtcome)
    have hsome : 0 < t.events.countP (·.isTerminal) :=
      List.countP_pos_iff.2 (hcourse.exists_terminal_iff.2 hended)
    exact Nat.le_antisymm hcourse.countP_terminal_le hsome

end Settled

end Shared

/-- An inspector leaks no process, whatever calls are made and whatever others do between any two
actions of a call, as long as its processes can be ended by force and launches fail only by refusal.
While no call is in progress, a process that is running is that of the current session. All that was
published was published by the attempts, one after another, and an attempt has published exactly one
event that ends it once it has failed or its session is no longer the current one.

A stop leaves no session and no running process. So does a start that fails. A start that succeeds
makes its session the current one. No process is running then but that of the session, which was
alive when the wait asked for the last time before it connected. The start of `Inspector` is one of
these starts. -/
theorem inspector_leaks_no_process (observe : Event → ω → ω) (heard : ω)
    (happenings : List Happening) (hobey : ∀ happening ∈ happenings, happening.Obeys) :
    let w := Shared.run (tracing observe) heard happenings
    (∀ n, w.inspector.launcher.IsRunning n → w.inspector.current.map (·.process) = some n) ∧
    w.inspector.heard.2 = w.attempts.flatMap (·.events) ∧
    w.attempts.filterMap Attempt.output? = List.range w.inspector.outputs.length ∧
    (∀ t ∈ w.attempts, t.events.countP (·.isTerminal) ≤ 1 ∧
      ((∀ n, t.output? = some n → w.inspector.current.map (·.output) ≠ some n) →
        t.events.countP (·.isTerminal) = 1)) ∧
    (∀ schedule, Obey schedule → (Shared.stop (tracing observe) { w with schedule }).2.IsEmpty) ∧
    (∀ schedule tool first timeout ports platform device, Obey schedule →
      let begun := Shared.start (tracing observe) tool first timeout ports platform device
        { w with schedule }
      begun.2.attempts.length = w.attempts.length + (if foundPort begun.1 then 1 else 0) ∧
      match begun.1 with
      | .ok serving =>
        begun.2.inspector.current = some serving ∧
        (∀ n, begun.2.inspector.launcher.IsRunning n → n = serving.process) ∧
        (∀ previous, w.inspector.current = some previous →
          ¬begun.2.inspector.launcher.IsRunning previous.process) ∧
        ∃ launched, Shared.prepare (tracing observe) tool first ports platform device
            { w with schedule } = (.ok serving, launched) ∧
          Shared.Connects (tracing observe) ports timeout serving
            (launched.yield (tracing observe)) begun.2
      | .error _ => begun.2.IsEmpty) ∧
    ∀ tool (s : Settings) timeout ports platform device,
      secondsOf s.readinessTimeout = .ok timeout → ∃ schedule, Obey schedule ∧
        let begun := Shared.start (tracing observe) tool s.firstPort timeout ports platform device
          { w with schedule }
        (begun.1, begun.2.inspector) =
          w.inspector.start (tracing observe) tool s ports platform device := by
  intro w
  have h : w.Settled := Shared.Settled.run observe heard hobey
  refine ⟨h.running, h.trace, ?_, fun t ht => h.countP_terminal ht,
    fun schedule hschedule => ((h.scheduled hschedule).stop observe).isEmpty,
    fun schedule tool first timeout ports platform device hschedule => ?_,
    fun tool s timeout ports platform device htimeout =>
      Shared.start_eq _ tool s htimeout ports platform device w.inspector w.attempts⟩
  · have hsessions := h.sessions
    rwa [List.filterMap_map, Inspector.length_engines] at hsessions
  · obtain ⟨⟨made, hmade, hstarted⟩, hserving⟩ :=
      (h.scheduled hschedule).start observe tool first timeout ports platform device
    generalize Shared.start (tracing observe) tool first timeout ports platform device
      { w with schedule } = begun at hmade hstarted hserving
    refine ⟨?_, ?_⟩
    · have hattempts := congrArg List.length hstarted.made
      rw [List.length_map, List.length_append, List.length_map, hmade] at hattempts
      exact hattempts
    · obtain ⟨fault | serving, after⟩ := begun
      · exact hstarted.isEmpty
      · obtain ⟨hnew, hconnects⟩ := hserving serving rfl
        have hrunning : ∀ n, after.inspector.launcher.IsRunning n → n = serving.process :=
          fun n hn => (Option.some.inj (hstarted.running n hn)).symm
        refine ⟨hstarted.current, hrunning, fun previous hprevious halive => ?_, hconnects⟩
        have hknown := h.known previous.process (by rw [hprevious, Option.map_some])
        exact absurd (hrunning _ halive ▸ hknown) (Nat.not_lt.2 hnew)

/-- Two starts and a stop. The process of the first start ignores a request to end and its port
never accepts a connection; that of the second is connected to and then finishes of itself. -/
def twoStarts : List Happening :=
  let tool : Tool := { command := [], resolved := .ok ["lumi".toList], cwd := .null }
  let stubborn : Child := { returned := none, ignoresTerminate := true }
  let taken : Ports := { isFree := fun port => port != 7001, accepts := fun _ => false }
  let served : Ports := { isFree := fun _ => true, accepts := fun _ => true }
  [.others (.prepare [stubborn, { returned := none }] none),
    .start [[], [.read 0 .stdout]] tool (.ok 7001) (.float 0.5) taken "android".toList none,
    .start [[.poll 0]] tool (.ok 7001) (.float 0.5) served "android".toList none,
    .others (.finish 1 (some 3)), .others (.deliverExit 1), .stop [[.deliverExit 0]]]

theorem twoStarts_leak_no_process :
    (∀ happening ∈ twoStarts, happening.Obeys) ∧
      let w := Shared.run (tracing fun _ (_ : Unit) => ()) () twoStarts
      ∀ n, w.inspector.launcher.IsRunning n → w.inspector.current.map (·.process) = some n := by
  have hobey : ∀ happening ∈ twoStarts, happening.Obeys := by
    simp [twoStarts, Happening.Obeys, Move.Obeys, Obey]
  exact ⟨hobey, (inspector_leaks_no_process _ () twoStarts hobey).1⟩

end ScriptRun.Inspect
