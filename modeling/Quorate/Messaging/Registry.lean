import Quorate.Gate
import Quorate.Notice

/-!
The registry of requests waiting for their replies. Every registration has a gate, whose only
signal handle the registry holds: a reply opens it, and a registration that is replaced or
forgotten closes it.
-/

namespace Quorate.Messaging

structure Registry where
  /-- The registrations in force, no request twice. -/
  entries : List (MessageId × Registration) := []
  /-- The gates of all registrations ever made, by number. -/
  gates : Nat → Gate Unit := fun _ => {}
  /-- The number of registrations ever made, and so the number of the next one. -/
  issued : Nat := 0

namespace Registry

def find? (registry : Registry) (request : MessageId) : Option Registration :=
  registry.entries.lookup request

def size (registry : Registry) : Nat := registry.entries.length

def setGate (registry : Registry) (number : Nat) (gate : Gate Unit) : Registry :=
  { registry with
    gates := fun other => if other = number then gate else registry.gates other }

def erase (registry : Registry) (request : MessageId) : Registry :=
  { registry with entries := registry.entries.filter fun entry => entry.1 ≠ request }

/-- Ends the registration of a request. The answer tells whether there was one. -/
def forget (registry : Registry) (request : MessageId) : Registry × Bool :=
  match registry.find? request with
  | none => (registry, false)
  | some registration =>
      ((registry.erase request).setGate registration.number
        (registry.gates registration.number).drop, true)

/-- Registers a request, in place of any earlier registration of it, and gives the number. -/
def register (registry : Registry) (request : MessageId) (handler : Handler) : Registry × Nat :=
  let number := registry.issued
  let cleared := (registry.forget request).1
  ({ cleared with
      entries := (request, ⟨number, handler⟩) :: cleared.entries
      gates := fun other => if other = number then {} else cleared.gates other
      issued := number + 1 }, number)

/-- A registration that is dropped as soon as it is made. -/
def discard (registry : Registry) : Registry × Nat :=
  let number := registry.issued
  ({ registry with
      gates := fun other => if other = number then ({} : Gate Unit).drop else registry.gates other
      issued := number + 1 }, number)

/-- Hands a reply to the registration of its request: the gate opens, then the handler runs. The
answer tells whether there was a registration. -/
def dispatch (registry : Registry) (reply : Reply) : Registry × Bool × List Notice :=
  match registry.find? reply.request with
  | none => (registry, false, [.reported (.replyUnrequested reply.request reply.sender)])
  | some registration =>
      ((registry.erase reply.request).setGate registration.number
        ((registry.gates registration.number).signal ()).1.drop, true,
        [.handled registration reply])

/-! ### Sequences of operations -/

inductive Operation where
  | register (request : MessageId) (handler : Handler)
  | forget (request : MessageId)
  | dispatch (reply : Reply)
deriving DecidableEq, Repr

def Operation.request : Operation → MessageId
  | .register request _ => request
  | .forget request => request
  | .dispatch reply => reply.request

def perform (registry : Registry) : Operation → Registry × List Notice
  | .register request handler => ((registry.register request handler).1, [])
  | .forget request => ((registry.forget request).1, [])
  | .dispatch reply => ((registry.dispatch reply).1, (registry.dispatch reply).2.2)

def performAll : List Operation → Registry → Registry × List Notice
  | [], registry => (registry, [])
  | operation :: rest, registry =>
      let (registry, notices) := registry.perform operation
      let (registry, later) := performAll rest registry
      (registry, notices ++ later)

/-- Operations lead from one registry to the other, and the notices tell of the same callbacks. -/
def Leads (operations : List Operation) (before after : Registry) (notices : List Notice) : Prop :=
  after = (performAll operations before).1 ∧
    ∀ number, Notice.deliveries number notices =
      Notice.deliveries number (performAll operations before).2

end Registry
end Quorate.Messaging
