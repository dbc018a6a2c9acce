import Quorate.Messaging.Network

/-!
One exchange: a message is submitted, and if it is a request its reply is waited for, no longer
than a given time. `start` runs up to the wait, `look` tells at any later time whether the wait is
over, and `cancel` abandons it. A request is registered before it is submitted, so that a reply
cannot come too early, and forgotten when the exchange ends, in whatever way.
-/

namespace Quorate.Messaging

/-- What carries the messages: the network, or something that takes every message and keeps
neither it nor the registration. -/
inductive Carrier where
  | network
  | discarding
deriving DecidableEq, Repr

structure Exchange where
  message : Message
  recipient : RecipientKey
  timeout : Duration
  handler : Handler := .recording
  name : Option String := none
  carrier : Carrier := .network
deriving DecidableEq, Repr

inductive Exchange.Progress where
  | ended (result : Except SendFailure Unit)
  | waiting (registration : Nat) (deadline : Nat)
deriving Repr

inductive Exchange.Stage where
  | idle
  | active (progress : Exchange.Progress)
  | cancelled
deriving Repr

structure Exchange.Opening where
  network : Network
  registration : Option Nat
  submission : Submission
  notices : List Notice

structure Exchange.Step where
  network : Network
  progress : Exchange.Progress
  notices : List Notice := []
  /-- An answer that the network still owes. -/
  errand : Option Errand := none

namespace Carrier

def register (carrier : Carrier) (network : Network) (request : MessageId) (handler : Handler) :
    Network × Nat :=
  let (registry, number) := match carrier with
    | .network => network.registry.register request handler
    | .discarding => network.registry.discard
  ({ network with registry := registry }, number)

def forget (carrier : Carrier) (network : Network) (request : MessageId) : Network :=
  match carrier with
  | .network => { network with registry := (network.registry.forget request).1 }
  | .discarding => network

def submit (carrier : Carrier) (network : Network) (message : Message) :
    Network × Submission × List Notice :=
  match carrier with
  | .network => network.submit message
  | .discarding => (network, .accepted none, [])

end Carrier

namespace Exchange

def finish (exchange : Exchange) (network : Network) (result : Except SendFailure Unit)
    (notices : List Notice) : Step :=
  { network := exchange.carrier.forget network exchange.message.id
    progress := .ended result
    notices := notices }

/-- Looks at the gate of a registration, and at the clock only if it is neither open nor closed. -/
def look (exchange : Exchange) (network : Network) (registration deadline now : Nat) : Step :=
  let id := exchange.message.id
  let route := exchange.message.route
  match (network.registry.gates registration).pollUntil (deadline ≤ now) exchange.timeout with
  | none => { network := network, progress := .waiting registration deadline }
  | some (.ok ()) =>
      exchange.finish network (.ok ())
        [.counted .responsesReceived, .reported (.responseReceived id route)]
  | some (.error (.timedOut waited)) =>
      exchange.finish network (.error (.timeout waited))
        [.counted .responseTimeouts,
         .reported (.responseMissing waited id route exchange.recipient)]
  | some (.error .closed) =>
      exchange.finish network (.error .interrupted) [.reported (.responseDropped id route)]

def afterSending (exchange : Exchange) (network : Network) : Submission → Step
  | .refused =>
      { network := network
        progress := .ended (.error .rejected)
        notices := [.counted .messagesRejected,
          .reported (.messageRefused exchange.message.id exchange.message.route)] }
  | .accepted errand =>
      { network := network
        progress := .ended (.ok ())
        notices := [.counted .messagesSent,
          .reported (.messageSent exchange.message.id exchange.message.route)]
        errand := errand }

def afterRequest (exchange : Exchange) (network : Network) (registration now : Nat) :
    Submission → Step
  | .refused =>
      exchange.finish network (.error .rejected)
        [.counted .messagesRejected,
         .reported (.messageRefused exchange.message.id exchange.message.route)]
  | .accepted errand =>
      let step := exchange.look network registration (now + exchange.timeout.ticks) now
      { step with notices := .counted .messagesSent :: step.notices, errand := errand }

def enroll (exchange : Exchange) (network : Network) : Network × Option Nat :=
  if exchange.message.expectsResponse then
    let (network, registration) :=
      exchange.carrier.register network exchange.message.id exchange.handler
    (network, some registration)
  else (network, none)

def openWith (exchange : Exchange)
    (submit : Network → Message → Network × Submission × List Notice) (network : Network) :
    Opening :=
  let (network, registration) := exchange.enroll network
  let (network, submission, notices) := submit network exchange.message
  ⟨network, registration, submission, notices⟩

/-- What follows the submission. A request goes on to the wait for its reply. -/
def proceed (exchange : Exchange) (opening : Opening) (now : Nat) : Step :=
  match opening.registration with
  | none => exchange.afterSending opening.network opening.submission
  | some registration =>
      exchange.afterRequest opening.network registration now opening.submission

def follow (exchange : Exchange) (opening : Opening) (now : Nat) : Step :=
  let step := exchange.proceed opening now
  { step with notices := opening.notices ++ step.notices }

/-- Submits the message and goes on to the wait for the reply, if there is one. -/
def start (exchange : Exchange) (network : Network) (now : Nat) : Step :=
  exchange.follow (exchange.openWith exchange.carrier.submit network) now

def cancel (exchange : Exchange) (network : Network) : Network :=
  exchange.carrier.forget network exchange.message.id

end Exchange
end Quorate.Messaging
