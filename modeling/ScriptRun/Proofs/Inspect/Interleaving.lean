import ScriptRun.Inspect.Inspector
import ScriptRun.Proofs.Run.Turns

/-!
# An inspector among others

While an inspector is started or stopped, processes finish by themselves, readers and pumps go on,
and anybody may look whether a process is alive. Here all of these act between any two actions of
the caller, as a schedule says (`Shared`): the same actions as those of `Inspector`, one at a time.
With nobody in between but the readers and the pump that run to the end before the wait, a start is
the one that `Inspector.start` does (`Shared.start_eq`).

Every event is credited to the attempt whose engine has published it. An attempt is a start that has
found a free port.
-/

namespace ScriptRun.Inspect

open Run Settings Status

variable {ω : Type}

/-- What others do. -/
inductive Move where
  /-- It is settled what the next launches give. -/
  | prepare (upcoming : List Child) (fault : Option LaunchFault)
  | finish (process : Nat) (code : Option Int)
  | poll (process : Nat)
  | read (output : Nat) (stream : Stream)
  | pump (output : Nat)
  | deliverExit (output : Nat)

/-- Whether a move brings only processes that can be ended by force, and launches that fail only as
the system refuses to start a process. -/
def Move.Obeys : Move → Prop
  | .prepare upcoming fault =>
    (∀ p ∈ upcoming, p.ignoresKill = false) ∧ ∀ other, fault = some other → other.isRefusal = true
  | _ => True

def Obey (schedule : List (List Move)) : Prop := ∀ moves ∈ schedule, ∀ m ∈ moves, m.Obeys

/-- A start that has found a free port: the number of its output session, or why there is none, and
what was published about it so far. -/
structure Attempt where
  answer : Except StartFault Nat
  events : List Event

namespace Attempt

def output? (t : Attempt) : Option Nat := t.answer.toOption

/-- The attempt with the events of a turn of session `n`, if that is its session. -/
def credit (n : Nat) (events : List Event) (t : Attempt) : Attempt :=
  if t.output? = some n then { t with events := t.events ++ events } else t

end Attempt

/-- Whether a start has come as far as a free port. -/
def foundPort : Except StartFault Serving → Bool
  | .error (.port _) | .error (.search _) => false
  | _ => true

/-- An inspector with the attempts made so far, and what others will do before each of the next
actions of its caller. -/
structure Shared (ω : Type) where
  inspector : Inspector (ω × List Event)
  attempts : List Attempt := []
  schedule : List (List Move) := []

def published (before after : Inspector (ω × List Event)) : List Event :=
  after.heard.2.drop before.heard.2.length

namespace Shared

variable (l : Listener (ω × List Event))

/-- The inspector goes on by a turn of session `n`, whose events belong to its attempt. -/
def turn (w : Shared ω) (n : Nat) (i : Inspector (ω × List Event)) : Shared ω :=
  { w with
    inspector := i
    attempts := w.attempts.map (Attempt.credit n (published w.inspector i)) }

def move (w : Shared ω) : Move → Shared ω
  | .prepare upcoming fault =>
    { w with
      inspector := { w.inspector with
        launcher := { w.inspector.launcher with upcoming, fault } } }
  | .finish process code =>
    { w with
      inspector := { w.inspector with launcher := w.inspector.launcher.finish process code } }
  | .poll process => { w with inspector := (w.inspector.poll process).2 }
  | .read n stream =>
    { w with
      inspector := { w.inspector with
        outputs := w.inspector.outputs.modify n (·.read stream) } }
  | .pump n => w.turn n (w.inspector.withOutput n fun s heard => s.pump l heard)
  | .deliverExit n => w.turn n (w.inspector.deliverExit l n)

/-- Others do what they are scheduled to do next. -/
def yield (w : Shared ω) : Shared ω :=
  match w.schedule with
  | [] => w
  | moves :: rest => moves.foldl (move l) { w with schedule := rest }

/-- An action of the caller that publishes nothing. -/
def act {α : Type} (action : Inspector (ω × List Event) → α × Inspector (ω × List Event))
    (w : Shared ω) : α × Shared ω :=
  let w := w.yield l
  let (answer, inspector) := action w.inspector
  (answer, { w with inspector })

/-- An action of the caller on the engine of output session `n`. -/
def actOn (n : Nat) (action : Live (ω × List Event) → Live (ω × List Event)) (w : Shared ω) :
    Shared ω :=
  let w := w.yield l
  w.turn n (w.inspector.withEngine n action)

def stop (w : Shared ω) : Bool × Shared ω :=
  match w.inspector.current with
  | none => (false, w)
  | some serving =>
    let w := { w with inspector := { w.inspector with current := none } }
    (w.actOn l serving.output fun live => (live.stop l).2).act l (·.stopProcess serving.process)

/-- Finds a port and launches the tool on it, when there is no current inspector. What is published
belongs to the new attempt. -/
def launch (tool : Tool) (first : Except PortFault Int) (ports : Ports) (platform : Text)
    (device : Option Text) (w : Shared ω) : Except StartFault Serving × Shared ω :=
  let w := w.yield l
  let (answer, inspector) := w.inspector.prepare l tool first ports platform device
  let made : List Attempt :=
    if foundPort answer then [⟨answer.map (·.output), published w.inspector inspector⟩] else []
  (answer, { w with inspector, attempts := w.attempts ++ made })

def prepare (tool : Tool) (first : Except PortFault Int) (ports : Ports) (platform : Text)
    (device : Option Text) (w : Shared ω) : Except StartFault Serving × Shared ω :=
  (w.stop l).2.launch l tool first ports platform device

/-- What a wait sees and does, with others in between. -/
def among {τ : Type} (world : Port.Surroundings (Inspector (ω × List Event)) τ) :
    Port.Surroundings (Shared ω) τ where
  hasExited := act l world.hasExited
  connects := act l world.connects
  now w := world.now w.inspector
  pause w := (w.act l fun i => ((), world.pause i)).2

def awaitPort (ports : Ports) (timeout : Number) (serving : Serving) (w : Shared ω) :
    Port.Wait × Shared ω :=
  Port.waitUntil (among l (Inspector.surroundings ports serving.process))
    (w.inspector.clock.reading + timeout.toFloat) Port.manyRounds w

def conclude (timeout : Number) (serving : Serving) (wait : Port.Wait) (w : Shared ω) :
    Except StartFault Serving × Shared ω :=
  if wait.isReady then w.act l fun i => (.ok serving, { i with current := some serving })
  else
    let (returned, w) := w.act l (·.poll serving.process)
    let w := w.actOn l serving.output fun live =>
      (live.readinessTimedOut l serving.port timeout).2
    let (_, w) := w.act l (·.stopProcess serving.process)
    (.error (.notReady { port := serving.port, timeout, exited := returned.isSome }), w)

/-- Starts an inspector. The time that its port gets is a number of seconds. -/
def start (tool : Tool) (first : Except PortFault Int) (timeout : Number) (ports : Ports)
    (platform : Text) (device : Option Text) (w : Shared ω) :
    Except StartFault Serving × Shared ω :=
  match w.prepare l tool first ports platform device with
  | (.error fault, w) => (.error fault, w)
  | (.ok serving, w) =>
    let (wait, w) := (w.yield l).awaitPort l ports timeout serving
    w.conclude l timeout serving wait

end Shared

/-! ### With nobody in between

The readers and the pump of a session are others too. What they do when they run to the end is a
list of moves, which is all that is scheduled in `Inspector.start`. -/

namespace Inspector

variable {l : Listener ω}

theorem withOutput_of_some {i : Inspector ω} {n : Nat} {s : Session} (h : i.outputs[n]? = some s)
    (act : Session → ω → Session × ω) :
    i.withOutput n act =
      { i with
        outputs := i.outputs.set n (act s i.heard).1
        heard := (act s i.heard).2 } := by
  rw [withOutput, h]

theorem withOutput_of_none {i : Inspector ω} {n : Nat} (h : i.outputs[n]? = none)
    (act : Session → ω → Session × ω) : i.withOutput n act = i := by
  rw [withOutput, h]

theorem withOutput_withOutput (i : Inspector ω) (n : Nat) (act act' : Session → ω → Session × ω) :
    (i.withOutput n act).withOutput n act' =
      i.withOutput n fun s heard => act' (act s heard).1 (act s heard).2 := by
  rcases hs : i.outputs[n]? with _ | s
  · rw [withOutput_of_none hs, withOutput_of_none hs, withOutput_of_none hs]
  · have hn := (List.getElem?_eq_some_iff.1 hs).1
    rw [withOutput_of_some hs, withOutput_of_some hs,
      withOutput_of_some (show (i.outputs.set n _)[n]? = some _ from List.getElem?_set_self hn)]
    simp only [List.set_set]

theorem withOutput_id (i : Inspector ω) (n : Nat) : i.withOutput n Prod.mk = i := by
  rcases hs : i.outputs[n]? with _ | s
  · exact withOutput_of_none hs _
  · have hset : i.outputs.set n s = i.outputs := by
      obtain ⟨hn, rfl⟩ := List.getElem?_eq_some_iff.1 hs
      exact List.set_getElem_self hn
    rw [withOutput_of_some hs, hset]

theorem current_stop (l : Listener ω) (i : Inspector ω) : (i.stop l).2.current = none := by
  unfold stop
  rcases hcurrent : i.current with _ | serving
  · exact hcurrent
  · unfold stopProcess withEngine withOutput
    simp only
    split <;> rfl

/-- The first phase of a start begins with a stop, whether or not there has just been one. -/
theorem prepare_stop (l : Listener ω) (tool : Tool) (first : Except PortFault Int) (ports : Ports)
    (platform : Text) (device : Option Text) (i : Inspector ω) :
    (i.stop l).2.prepare l tool first ports platform device =
      i.prepare l tool first ports platform device := by
  have hstopped : ((i.stop l).2.stop l) = (false, (i.stop l).2) := by
    rw [stop, current_stop]
  unfold prepare
  rw [hstopped]

end Inspector

namespace Shared

variable {l : Listener (ω × List Event)}

/-- Others can bring an inspector to a state, whatever is known of its attempts, and without
bringing it a process. -/
def Others (l : Listener (ω × List Event)) (i i' : Inspector (ω × List Event)) : Prop :=
  ∃ moves : List Move, (∀ m ∈ moves, m.Obeys) ∧
    ∀ w : Shared ω, w.inspector = i → (moves.foldl (move l) w).inspector = i'

theorem Others.refl (i : Inspector (ω × List Event)) : Others l i i :=
  ⟨[], fun _ h => absurd h List.not_mem_nil, fun _ h => h⟩

theorem Others.single {i i' : Inspector (ω × List Event)} (m : Move) (hm : m.Obeys)
    (h : ∀ w : Shared ω, w.inspector = i → (w.move l m).inspector = i') : Others l i i' :=
  ⟨[m], List.forall_mem_singleton.2 hm, h⟩

theorem Others.trans {i j k : Inspector (ω × List Event)} (h : Others l i j) (h' : Others l j k) :
    Others l i k := by
  obtain ⟨moves, hobey, hmoves⟩ := h
  obtain ⟨more, hobey', hmore⟩ := h'
  refine ⟨moves ++ more, List.forall_mem_append.2 ⟨hobey, hobey'⟩, fun w hw => ?_⟩
  rw [List.foldl_append]
  exact hmore _ (hmoves w hw)

/-- An action on an output session that others can do, they can do as often as its state says. -/
theorem Others.repeat {n : Nat} (act : Session × (ω × List Event) → Session × (ω × List Event))
    (h : ∀ i, Others l i (i.withOutput n fun s heard => act (s, heard))) (count : Session → Nat)
    (i : Inspector (ω × List Event)) :
    Others l i (i.withOutput n fun s heard => Nat.repeat act (count s) (s, heard)) := by
  have hfixed : ∀ count,
      Others l i (i.withOutput n fun s heard => Nat.repeat act count (s, heard)) := by
    intro count
    induction count with
    | zero =>
      rw [show (fun s heard => Nat.repeat act 0 (s, heard)) = Prod.mk from rfl,
        Inspector.withOutput_id]
      exact .refl i
    | succ count ih =>
      have hnext := ih.trans (h _)
      rwa [Inspector.withOutput_withOutput] at hnext
  rcases hs : i.outputs[n]? with _ | s
  · rw [Inspector.withOutput_of_none hs]
    exact .refl i
  · have hcount := hfixed (count s)
    rwa [Inspector.withOutput_of_some hs] at hcount ⊢

variable (l)

theorem others_read (n : Nat) (stream : Stream) (i : Inspector (ω × List Event)) :
    Others l i (i.withOutput n fun s heard => (s.read stream, heard)) := by
  refine .single (.read n stream) trivial fun w hw => ?_
  rw [move, hw]
  rcases hs : i.outputs[n]? with _ | s
  · rw [Inspector.withOutput_of_none hs, List.modify_eq_self (List.getElem?_eq_none_iff.1 hs)]
  · rw [Inspector.withOutput_of_some hs, List.modify_eq_set_getElem?, hs]
    rfl

theorem others_pump (n : Nat) (i : Inspector (ω × List Event)) :
    Others l i (i.withOutput n fun s heard => s.pump l heard) :=
  .single (.pump n) trivial fun _ hw => by rw [move, hw, turn]

theorem others_deliverExit (n : Nat) (i : Inspector (ω × List Event)) :
    Others l i (i.deliverExit l n) :=
  .single (.deliverExit n) trivial fun _ hw => by rw [move, hw, turn]

/-- How many steps the reader of a stream has left. -/
def stepsLeft (stream : Stream) (s : Session) : Nat :=
  match s.unread stream with
  | none => 0
  | some left => left.length + 1

theorem readAll_eq (stream : Stream) (s : Session) (heard : ω × List Event) :
    (s.readAll stream, heard) =
      Nat.repeat (fun now => (now.1.read stream, now.2)) (stepsLeft stream s) (s, heard) := by
  have hpair : ∀ count, Nat.repeat (fun now => (now.1.read stream, now.2)) count (s, heard) =
      (Nat.repeat (·.read stream) count s, heard) := by
    intro count
    induction count with
    | zero => rfl
    | succ count ih => rw [Nat.repeat, ih, Nat.repeat]
  rw [hpair]
  unfold Session.readAll stepsLeft
  rcases s.unread stream with _ | left <;> rfl

theorem others_readAll (n : Nat) (stream : Stream) (i : Inspector (ω × List Event)) :
    Others l i (i.withOutput n fun s heard => (s.readAll stream, heard)) := by
  simp only [readAll_eq]
  exact .repeat (fun now => (now.1.read stream, now.2)) (others_read l n stream)
    (stepsLeft stream) i

theorem others_pumpAll (n : Nat) (i : Inspector (ω × List Event)) :
    Others l i (i.withOutput n fun s heard => s.pumpAll l heard) :=
  .repeat (fun now => now.1.pump l now.2) (others_pump l n) (fun s => s.queue.length) i

/-- The readers and the pump of a session go as far as they can. -/
theorem others_drain (n : Nat) (i : Inspector (ω × List Event)) : Others l i (i.drain l n) := by
  have hread := (others_readAll l n .stdout i).trans (others_readAll l n .stderr _)
  have hdrain := hread.trans (others_pumpAll l n _)
  rw [Inspector.withOutput_withOutput, Inspector.withOutput_withOutput] at hdrain
  exact hdrain.trans (others_deliverExit l n _)

variable {l}

/-! What the actions of the caller are when nothing is scheduled before them. -/

/-- What is scheduled in a stop with nobody in between. -/
def pauses (i : Inspector (ω × List Event)) : List (List Move) :=
  if i.current.isSome then [[], []] else []

theorem stop_of_pauses (i : Inspector (ω × List Event)) (attempts : List Attempt)
    (rest : List (List Move)) :
    ∃ credited, (stop l ⟨i, attempts, pauses i ++ rest⟩).2 = ⟨(i.stop l).2, credited, rest⟩ := by
  unfold stop pauses Inspector.stop
  rcases hcurrent : i.current with _ | serving
  · exact ⟨attempts, rfl⟩
  · exact ⟨_, rfl⟩

theorem prepare_of_pauses (tool : Tool) (first : Except PortFault Int) (ports : Ports)
    (platform : Text) (device : Option Text) (i : Inspector (ω × List Event))
    (attempts : List Attempt) (rest : List (List Move)) :
    ∃ made, prepare l tool first ports platform device ⟨i, attempts, pauses i ++ [] :: rest⟩ =
      ((i.prepare l tool first ports platform device).1,
        ⟨(i.prepare l tool first ports platform device).2, made, rest⟩) := by
  obtain ⟨credited, hstopped⟩ := stop_of_pauses (l := l) i attempts ([] :: rest)
  rw [prepare, hstopped, ← Inspector.prepare_stop]
  exact ⟨_, rfl⟩

theorem waitUntil_of_nil {τ : Type} [LE τ] [DecidableLE τ]
    (world : Port.Surroundings (Inspector (ω × List Event)) τ) (deadline : τ) (rounds : Nat)
    (i : Inspector (ω × List Event)) (attempts : List Attempt) :
    Port.waitUntil (among l world) deadline rounds ⟨i, attempts, []⟩ =
      ((Port.waitUntil world deadline rounds i).1,
        ⟨(Port.waitUntil world deadline rounds i).2, attempts, []⟩) := by
  induction rounds generalizing i with
  | zero => rfl
  | succ rounds ih =>
    have hexited : (among l world).hasExited ⟨i, attempts, []⟩ =
      ((world.hasExited i).1, ⟨(world.hasExited i).2, attempts, []⟩) := rfl
    rw [Port.waitUntil, Port.waitUntil, hexited]
    rcases world.hasExited i with ⟨_ | _, asked⟩
    · have hconnects : (among l world).connects ⟨asked, attempts, []⟩ =
        ((world.connects asked).1, ⟨(world.connects asked).2, attempts, []⟩) := rfl
      simp only [hconnects]
      rcases world.connects asked with ⟨_ | _, tried⟩
      · simp only
        rw [show (among l world).now ⟨tried, attempts, []⟩ = world.now tried from rfl]
        split
        · rfl
        · exact ih (world.pause tried)
      · rfl
    · rfl

theorem awaitPort_of_nil (ports : Ports) (timeout : Number) (serving : Serving)
    (i : Inspector (ω × List Event)) (attempts : List Attempt) :
    awaitPort l ports timeout serving ⟨i, attempts, []⟩ =
      ((i.awaitPort ports timeout serving).1,
        ⟨(i.awaitPort ports timeout serving).2, attempts, []⟩) := by
  unfold awaitPort Inspector.awaitPort
  generalize Port.manyRounds = rounds
  exact waitUntil_of_nil ..

theorem conclude_of_nil (timeout : Number) (serving : Serving) (wait : Port.Wait)
    (i : Inspector (ω × List Event)) (attempts : List Attempt) :
    let concluded := conclude l timeout serving wait ⟨i, attempts, []⟩
    (concluded.1, concluded.2.inspector) = i.conclude l timeout serving wait := by
  unfold conclude Inspector.conclude
  split <;> rfl

theorem schedule_moves (moves : List Move) (w : Shared ω) :
    (moves.foldl (move l) w).schedule = w.schedule := by
  induction moves generalizing w with
  | nil => rfl
  | cons m moves ih =>
    rw [List.foldl_cons, ih]
    cases m <;> rfl

theorem start_of_ok {tool : Tool} {first : Except PortFault Int} {ports : Ports} {platform : Text}
    {device : Option Text} {w launched : Shared ω} {serving : Serving}
    (h : w.prepare l tool first ports platform device = (.ok serving, launched))
    (timeout : Number) :
    w.start l tool first timeout ports platform device =
      ((launched.yield l).awaitPort l ports timeout serving).2.conclude l timeout serving
        ((launched.yield l).awaitPort l ports timeout serving).1 := by
  rw [start, h]

theorem start_of_error {tool : Tool} {first : Except PortFault Int} {ports : Ports}
    {platform : Text} {device : Option Text} {w after : Shared ω} {fault : StartFault}
    (h : w.prepare l tool first ports platform device = (.error fault, after)) (timeout : Number) :
    w.start l tool first timeout ports platform device = (.error fault, after) := by
  rw [start, h]

/-- What others can do, they can be scheduled to do. -/
theorem yield_of_others {i i' : Inspector (ω × List Event)} (h : Others l i i') :
    ∃ moves : List Move, (∀ m ∈ moves, m.Obeys) ∧
      ∀ attempts, ∃ credited, yield l ⟨i, attempts, [moves]⟩ = ⟨i', credited, []⟩ := by
  obtain ⟨moves, hobey, hmoves⟩ := h
  refine ⟨moves, hobey, fun attempts => ?_⟩
  have hschedule := schedule_moves (l := l) moves ⟨i, attempts, []⟩
  have hinspector := hmoves ⟨i, attempts, []⟩ rfl
  show ∃ credited, moves.foldl (move l) ⟨i, attempts, []⟩ = _
  generalize moves.foldl (move l) ⟨i, attempts, []⟩ = moved at hschedule hinspector
  exact ⟨moved.attempts, by rw [← hinspector, ← show moved.schedule = [] from hschedule]⟩

theorem obey_pauses (i : Inspector (ω × List Event)) {rest : List (List Move)} (h : Obey rest) :
    Obey (pauses i ++ rest) := by
  refine List.forall_mem_append.2 ⟨?_, h⟩
  unfold pauses
  split <;> simp

/-- With nobody in between but the readers and the pump, which run to the end before the wait, a
start is the one that an inspector does. -/
theorem start_eq (l : Listener (ω × List Event)) (tool : Tool) (s : Settings) {timeout : Number}
    (htimeout : secondsOf s.readinessTimeout = .ok timeout) (ports : Ports) (platform : Text)
    (device : Option Text) (i : Inspector (ω × List Event)) (attempts : List Attempt) :
    ∃ schedule, Obey schedule ∧
      let started := start l tool s.firstPort timeout ports platform device ⟨i, attempts, schedule⟩
      (started.1, started.2.inspector) = i.start l tool s ports platform device := by
  have hprepare := prepare_of_pauses (l := l) tool s.firstPort ports platform device i attempts
  unfold Inspector.start
  rcases hprepared : i.prepare l tool s.firstPort ports platform device with
    ⟨fault | serving, launched⟩
  · obtain ⟨made, hmade⟩ := hprepare []
    rw [hprepared] at hmade
    refine ⟨pauses i ++ [[]], obey_pauses i (by simp [Obey]), ?_⟩
    rw [start_of_error hmade]
  · obtain ⟨moves, hobey, hmoves⟩ := yield_of_others (others_drain l serving.output launched)
    obtain ⟨made, hmade⟩ := hprepare [moves]
    obtain ⟨credited, hdrained⟩ := hmoves made
    rw [hprepared] at hmade
    refine ⟨pauses i ++ [[], moves], obey_pauses i (by simpa [Obey] using hobey), ?_⟩
    rw [start_of_ok hmade, hdrained, awaitPort_of_nil]
    simp only [htimeout]
    generalize (launched.drain l serving.output).awaitPort ports timeout serving = waited
    exact conclude_of_nil ..

end Shared

end ScriptRun.Inspect
