/-!
# Observers and their handles

A bus keeps its observers in the order in which they subscribed; the same observer may be registered
several times. Each subscription gets a handle. Calling a handle takes the first registration of its
observer off the list, if there is one.

An event goes to the observers registered when its delivery begins. An observer that hears an event
may make calls on the bus and may then fail. A failure is noted and keeps no other observer from
being told.
-/

namespace ScriptRun.Status

/-- The observers of a bus, and for each handle the observer it was given for. -/
structure Bus (Observer : Type) where
  observers : List Observer := []
  handles : List Observer := []
  deriving DecidableEq, Repr

namespace Bus

/-- What is done to a bus. Handles are numbered in the order in which they are given. -/
inductive Call (Observer : Type) where
  | subscribe (observer : Observer)
  | unsubscribe (handle : Nat)
  deriving DecidableEq, Repr

variable {Observer : Type} [BEq Observer]

/-- Registers an observer; its handle is the number of subscriptions before it. -/
def subscribe (bus : Bus Observer) (observer : Observer) : Bus Observer :=
  { observers := bus.observers ++ [observer], handles := bus.handles ++ [observer] }

/-- Calls a handle. A handle that was never given does nothing. -/
def unsubscribe (bus : Bus Observer) (handle : Nat) : Bus Observer :=
  match bus.handles[handle]? with
  | some observer => { bus with observers := bus.observers.erase observer }
  | none => bus

def perform (bus : Bus Observer) : Call Observer → Bus Observer
  | .subscribe observer => bus.subscribe observer
  | .unsubscribe handle => bus.unsubscribe handle

def performAll (bus : Bus Observer) (calls : List (Call Observer)) : Bus Observer :=
  calls.foldl perform bus

theorem performAll_append (bus : Bus Observer) (calls more : List (Call Observer)) :
    bus.performAll (calls ++ more) = (bus.performAll calls).performAll more :=
  List.foldl_append

end Bus

/-- What an observer does with an event: the calls that it makes, what the observers remember
afterwards, and the error that it ends with, if it fails. -/
structure Reaction (Observer σ ε : Type) where
  calls : List (Bus.Call Observer)
  memory : σ
  error : Option ε

/-- How observers take events. It depends on what they remember and on the bus as they find it. -/
abbrev Conduct (Observer α σ ε : Type) :=
  α → Observer → σ → Bus Observer → Reaction Observer σ ε

structure Delivery (Observer α ε : Type) where
  event : α
  observer : Observer
  calls : List (Bus.Call Observer)
  error : Option ε

/-- What happens at a bus: a call from outside, or a delivery. -/
inductive Happening (Observer α ε : Type) where
  | called (call : Bus.Call Observer)
  | delivered (delivery : Delivery Observer α ε)

def Happening.delivery? {Observer α ε : Type} :
    Happening Observer α ε → Option (Delivery Observer α ε)
  | .called _ => none
  | .delivered delivery => some delivery

/-- A bus with its observers: what they remember, what has happened, and the failures that were
noted. -/
structure Audience (Observer α σ ε : Type) where
  bus : Bus Observer := {}
  memory : σ
  trace : List (Happening Observer α ε) := []
  failures : List (α × ε) := []

namespace Audience

variable {Observer α σ ε : Type}

def deliveries (s : Audience Observer α σ ε) : List (Delivery Observer α ε) :=
  s.trace.filterMap Happening.delivery?

variable [BEq Observer]

/-- A call from outside of any delivery. -/
def call (s : Audience Observer α σ ε) (c : Bus.Call Observer) : Audience Observer α σ ε :=
  { s with bus := s.bus.perform c, trace := s.trace ++ [.called c] }

/-- Calls an observer. What it has done to the bus before it fails stays done. -/
def tell (conduct : Conduct Observer α σ ε) (event : α) (s : Audience Observer α σ ε)
    (observer : Observer) : Except ε Unit × Audience Observer α σ ε :=
  let reaction := conduct event observer s.memory s.bus
  let s := { s with
    bus := s.bus.performAll reaction.calls
    memory := reaction.memory
    trace := s.trace ++ [.delivered ⟨event, observer, reaction.calls, reaction.error⟩] }
  match reaction.error with
  | some error => (.error error, s)
  | none => (.ok (), s)

def note (s : Audience Observer α σ ε) (event : α) (error : ε) : Audience Observer α σ ε :=
  { s with failures := s.failures ++ [(event, error)] }

/-- Calls observers in order, also after one that fails. -/
def tellAll (conduct : Conduct Observer α σ ε) (event : α) (s : Audience Observer α σ ε) :
    List Observer → Except ε Unit × Audience Observer α σ ε
  | [] => (.ok (), s)
  | observer :: rest =>
    match s.tell conduct event observer with
    | (.ok (), s) => s.tellAll conduct event rest
    | (.error error, s) => (s.note event error).tellAll conduct event rest

/-- Tells the observers that are registered now. -/
def publish (conduct : Conduct Observer α σ ε) (s : Audience Observer α σ ε) (event : α) :
    Except ε Unit × Audience Observer α σ ε :=
  s.tellAll conduct event s.bus.observers

end Audience

end ScriptRun.Status
