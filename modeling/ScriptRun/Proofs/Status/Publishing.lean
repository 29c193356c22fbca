import ScriptRun.Status.Bus

/-!
# Whom an event reaches

An event reaches every registration that there is when its delivery begins, once and in order, and
nothing else, whatever the observers do meanwhile. At any time the registrations are those that the
calls made so far leave, and it makes no difference whether a call was made from outside or by an
observer that was hearing an event.
-/

namespace ScriptRun.Status

variable {Observer α σ ε : Type}

def Happening.calls : Happening Observer α ε → List (Bus.Call Observer)
  | .called call => [call]
  | .delivered delivery => delivery.calls

def Delivery.failure? (d : Delivery Observer α ε) : Option (α × ε) := d.error.map (d.event, ·)

namespace Audience

/-- The calls on the bus in the order in which they were made, from outside and by observers. -/
def calls (s : Audience Observer α σ ε) : List (Bus.Call Observer) :=
  s.trace.flatMap Happening.calls

inductive Step (Observer α : Type) where
  | called (call : Bus.Call Observer)
  | published (event : α)

variable [BEq Observer]

def perform (conduct : Conduct Observer α σ ε) (s : Audience Observer α σ ε) :
    Step Observer α → Except ε Unit × Audience Observer α σ ε
  | .called call => (.ok (), s.call call)
  | .published event => s.publish conduct event

/-- Steps in order, up to one that an error gets out of. -/
def performAll (conduct : Conduct Observer α σ ε) (s : Audience Observer α σ ε) :
    List (Step Observer α) → Except ε Unit × Audience Observer α σ ε
  | [] => (.ok (), s)
  | step :: rest =>
    match s.perform conduct step with
    | (.ok (), s) => s.performAll conduct rest
    | (.error error, s) => (.error error, s)

/-- The state after one delivery. A failure goes no further than the note of it. -/
def afterDelivery (s : Audience Observer α σ ε) (delivery : Delivery Observer α ε) (memory : σ) :
    Audience Observer α σ ε :=
  { bus := s.bus.performAll delivery.calls
    memory
    trace := s.trace ++ [.delivered delivery]
    failures := s.failures ++ delivery.failure?.toList }

theorem tellAll_cons (conduct : Conduct Observer α σ ε) (event : α) (s : Audience Observer α σ ε)
    (observer : Observer) (rest : List Observer) :
    s.tellAll conduct event (observer :: rest) =
      let reaction := conduct event observer s.memory s.bus
      (s.afterDelivery ⟨event, observer, reaction.calls, reaction.error⟩ reaction.memory).tellAll
        conduct event rest := by
  generalize hreaction : conduct event observer s.memory s.bus = reaction
  obtain ⟨calls, memory, error⟩ := reaction
  rw [tellAll, tell, hreaction]
  cases error with
  | none => simp [afterDelivery, Delivery.failure?]
  | some error => rfl

/-- What the deliveries of an event make of a bus and its observers. -/
structure Told (event : α) (deliveries : List (Delivery Observer α ε))
    (s s' : Audience Observer α σ ε) : Prop where
  events : ∀ delivery ∈ deliveries, delivery.event = event
  trace : s'.trace = s.trace ++ deliveries.map .delivered
  bus : s'.bus = s.bus.performAll (deliveries.flatMap (·.calls))
  failures : s'.failures = s.failures ++ deliveries.filterMap (·.failure?)

theorem Told.cons {event : α} {deliveries : List (Delivery Observer α ε)}
    {s s' : Audience Observer α σ ε} {delivery : Delivery Observer α ε} {memory : σ}
    (hevent : delivery.event = event)
    (h : Told event deliveries (s.afterDelivery delivery memory) s') :
    Told event (delivery :: deliveries) s s' := by
  constructor
  · exact List.forall_mem_cons.mpr ⟨hevent, h.events⟩
  · rw [h.trace, afterDelivery, List.append_assoc, List.map_cons, List.singleton_append]
  · rw [h.bus, afterDelivery, List.flatMap_cons, Bus.performAll_append]
  · rw [h.failures, afterDelivery, List.append_assoc]
    cases hfailure : delivery.failure? with
    | none => simp [hfailure]
    | some failure => simp [hfailure]

/-- Every observer of a list is told once and in order, whatever those before it have done. -/
theorem exists_told (conduct : Conduct Observer α σ ε) (event : α) (observers : List Observer)
    (s : Audience Observer α σ ε) :
    ∃ deliveries s', s.tellAll conduct event observers = (.ok (), s') ∧
      deliveries.map (·.observer) = observers ∧ Told event deliveries s s' := by
  induction observers generalizing s with
  | nil => exact ⟨[], s, rfl, rfl, by simp, by simp, rfl, by simp⟩
  | cons observer rest ih =>
    rw [tellAll_cons]
    generalize conduct event observer s.memory s.bus = reaction
    obtain ⟨deliveries, s', hs', hobservers, htold⟩ :=
      ih (s.afterDelivery ⟨event, observer, reaction.calls, reaction.error⟩ reaction.memory)
    refine ⟨_ :: deliveries, s', hs', ?_, htold.cons rfl⟩
    rw [List.map_cons, hobservers]

/-! ### Any history of a bus -/

/-- The bus is as all the calls would have left it outside of any delivery, and every failure was
noted. -/
structure Settled (bus : Bus Observer) (s : Audience Observer α σ ε) : Prop where
  bus : s.bus = bus.performAll s.calls
  failures : s.failures = s.deliveries.filterMap (·.failure?)

theorem Settled.call {bus : Bus Observer} {s : Audience Observer α σ ε} (h : Settled bus s)
    (call : Bus.Call Observer) : Settled bus (s.call call) := by
  constructor
  · rw [Audience.call, calls, List.flatMap_append, Bus.performAll_append, h.bus]
    rfl
  · rw [Audience.call, deliveries, List.filterMap_append, h.failures]
    exact congrArg _ (List.append_nil _).symm

theorem Settled.told {bus : Bus Observer} {event : α} {deliveries : List (Delivery Observer α ε)}
    {s s' : Audience Observer α σ ε} (h : Settled bus s) (htold : Told event deliveries s s') :
    Settled bus s' := by
  constructor
  · rw [htold.bus, h.bus, calls, calls, htold.trace, List.flatMap_append, Bus.performAll_append,
      List.flatMap_map]
    rfl
  · have hdelivered : (deliveries.map Happening.delivered).filterMap Happening.delivery? =
        deliveries := by
      rw [List.filterMap_map]
      exact List.filterMap_some
    rw [htold.failures, h.failures, Audience.deliveries, Audience.deliveries, htold.trace,
      List.filterMap_append, hdelivered, List.filterMap_append]

theorem Settled.performAll {bus : Bus Observer} {s : Audience Observer α σ ε} (h : Settled bus s)
    (conduct : Conduct Observer α σ ε) (steps : List (Step Observer α)) :
    ∃ s', s.performAll conduct steps = (.ok (), s') ∧ Settled bus s' := by
  induction steps generalizing s with
  | nil => exact ⟨s, rfl, h⟩
  | cons step rest ih =>
    cases step with
    | called call => exact ih (h.call call)
    | published event =>
      obtain ⟨deliveries, s', hs', -, htold⟩ := exists_told conduct event s.bus.observers s
      obtain ⟨final, hfinal, hsettled⟩ := ih (h.told htold)
      refine ⟨final, ?_, hsettled⟩
      rw [Audience.performAll, Audience.perform, publish, hs']
      exact hfinal

/-- Whatever has happened at a bus, no error has got out of it, and its registrations are those that
the calls made so far leave. An event goes to each of them once, in order, and to nothing else. What
the observers do to the bus meanwhile is seen by the next event, as if it had been done outside. -/
theorem publish_tells_registered (conduct : Conduct Observer α σ ε) (bus : Bus Observer)
    (memory : σ) (steps : List (Step Observer α)) (event next : α) :
    let history := Audience.performAll conduct { bus, memory } steps
    let published := history.2.publish conduct event
    let later := published.2.publish conduct next
    history.1 = .ok () ∧ history.2.bus = bus.performAll history.2.calls ∧
      published.1 = .ok () ∧ published.2.bus = bus.performAll published.2.calls ∧
      (∃ deliveries : List (Delivery Observer α ε),
        deliveries.map (·.observer) = history.2.bus.observers ∧
          Told event deliveries history.2 published.2) ∧
      later.1 = .ok () ∧
      ∃ deliveries : List (Delivery Observer α ε),
        deliveries.map (·.observer) = (bus.performAll published.2.calls).observers ∧
          Told next deliveries published.2 later.2 := by
  intro history published later
  have hnew : Settled bus ({ bus, memory } : Audience Observer α σ ε) := ⟨rfl, rfl⟩
  obtain ⟨s, hhistory, hs⟩ := hnew.performAll conduct steps
  obtain rfl : history.2 = s := congrArg Prod.snd hhistory
  obtain ⟨deliveries, s', hpublished, hobservers, htold⟩ :=
    exists_told conduct event history.2.bus.observers history.2
  obtain rfl : published.2 = s' := congrArg Prod.snd hpublished
  have hs' := hs.told htold
  obtain ⟨more, s'', hlater, hmore, htold'⟩ :=
    exists_told conduct next published.2.bus.observers published.2
  obtain rfl : later.2 = s'' := congrArg Prod.snd hlater
  rw [hs'.bus] at hmore
  exact ⟨congrArg Prod.fst hhistory, hs.bus, congrArg Prod.fst hpublished, hs'.bus,
    ⟨deliveries, hobservers, htold⟩, congrArg Prod.fst hlater, more, hmore, htold'⟩

end Audience

end ScriptRun.Status
