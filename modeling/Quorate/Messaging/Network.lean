import Quorate.Messaging.Registry
import Quorate.Placement

/-!
The network within one process. A peer may have a responder; a request to it is answered after the
peer's delay, and without a delay before the submission returns. Routed messages go to the peer
of greatest weight for their key.
-/

namespace Quorate.Messaging

/-- What a peer answers to a message; none leaves it unanswered. -/
abbrev Responder := Message → Option (List UInt8)

structure Endpoint where
  responder : Option Responder := none
  delay : Duration := ⟨0⟩

structure Errand where
  message : Message
  target : Peer
  responder : Responder
  delay : Duration

structure Network where
  /-- No peer twice. -/
  endpoints : List (Peer × Endpoint) := []
  rejecting : Bool := false
  delivered : List MessageId := []
  registry : Registry := {}

inductive Submission where
  | refused
  | accepted (errand : Option Errand)

namespace Network

def setEndpoint (network : Network) (peer : Peer) (endpoint : Endpoint) : Network :=
  { network with
    endpoints := network.endpoints.filter (fun entry => entry.1 ≠ peer) ++ [(peer, endpoint)] }

def route (network : Network) (key : String) : Option Peer :=
  (Placement.rank key (network.endpoints.map Prod.fst)).head?

def answer (network : Network) (errand : Errand) : Network × List Notice :=
  match errand.responder errand.message with
  | none => (network, [])
  | some payload =>
      let (registry, _, notices) :=
        network.registry.dispatch (errand.message.reply errand.target payload)
      ({ network with registry := registry }, notices)

def errandAt (endpoint : Endpoint) (target : Peer) (message : Message) : Option Errand :=
  if message.expectsResponse then
    endpoint.responder.map fun responder => ⟨message, target, responder, endpoint.delay⟩
  else none

/-- Delivers a message to a peer. An answer without delay is given at once. -/
def deliver (network : Network) (target : Peer) (message : Message) :
    Network × Submission × List Notice :=
  if network.rejecting then (network, .refused, [])
  else
    match network.endpoints.lookup target with
    | none => (network, .refused, [.reported (.peerUnknown target)])
    | some endpoint =>
        let network := { network with delivered := network.delivered ++ [message.id] }
        match errandAt endpoint target message with
        | none => (network, .accepted none, [])
        | some errand =>
            if errand.delay.nanos = 0 then
              let (network, notices) := network.answer errand
              (network, .accepted none, notices)
            else (network, .accepted (some errand), [])

def sendDirect (network : Network) (message : Message) : Network × Submission × List Notice :=
  match message.route with
  | .direct target => network.deliver target message
  | .routed _ => (network, .refused, [])

def sendRouted (network : Network) (message : Message) : Network × Submission × List Notice :=
  match message.route with
  | .direct _ => (network, .refused, [])
  | .routed key =>
      match network.route key with
      | some target => network.deliver target message
      | none => (network, .refused, [])

def submit (network : Network) (message : Message) : Network × Submission × List Notice :=
  if message.isDirect then network.sendDirect message else network.sendRouted message

end Network
end Quorate.Messaging
