import Quorate.Messaging.Exchange

/-!
Any number of exchanges over one network, one step at a time and in any order. Between their steps
the clock moves, owed answers are given, peers and settings change, and replies turn up that nobody
asked for. What carries a message may be any transport that hands replies to the registry and does
nothing else with it; `Transport.loopback` is the one in use. Every start names the transport anew,
so one that keeps a state of its own is covered as well.
-/

namespace Quorate.Messaging

/-- A submission that hands replies to the registry, and if it refuses a message, none to it. -/
def Conveys (network : Network) (message : Message)
    (outcome : Network × Submission × List Notice) : Prop :=
  ∃ replies : List Reply,
    Registry.Leads (replies.map .dispatch) network.registry outcome.1.registry outcome.2.2 ∧
      (outcome.2.1 = .refused → ∀ reply, reply ∈ replies → reply.request ≠ message.id)

structure Transport where
  submit : Network → Message → Network × Submission × List Notice
  conveys : ∀ network message, Conveys network message (submit network message)

theorem Conveys.of_silent (network after : Network) (message : Message) (submission : Submission)
    (notices : List Notice) (same : after.registry = network.registry)
    (silent : ∀ number, Notice.deliveries number notices = []) :
    Conveys network message (after, submission, notices) := by
  refine ⟨[], ⟨same, silent⟩, ?_⟩
  intro _refused reply present
  cases present

namespace Network

theorem answer_leads (network : Network) (errand : Errand) :
    ∃ replies : List Reply,
      Registry.Leads (replies.map .dispatch) network.registry (network.answer errand).1.registry
        (network.answer errand).2 := by
  unfold answer
  cases errand.responder errand.message with
  | none => exact ⟨[], rfl, fun _ => rfl⟩
  | some payload =>
      refine ⟨[errand.message.reply errand.target payload], rfl, ?_⟩
      intro number
      unfold Registry.performAll Registry.performAll
      exact (congrArg (Notice.deliveries number) (List.append_nil _)).symm

theorem deliver_conveys (network : Network) (target : Peer) (message : Message) :
    Conveys network message (network.deliver target message) := by
  unfold deliver
  split
  · exact .of_silent network network message .refused [] rfl fun _ => rfl
  · split
    · exact .of_silent network network message .refused _ rfl fun _ => rfl
    · dsimp only
      split
      · exact .of_silent network _ message (.accepted none) [] rfl fun _ => rfl
      · next errand _ =>
          split
          · obtain ⟨replies, leads⟩ := answer_leads
              { network with delivered := network.delivered ++ [message.id] } errand
            exact ⟨replies, leads, nofun⟩
          · exact .of_silent network _ message (.accepted (some errand)) [] rfl fun _ => rfl

theorem submit_conveys (network : Network) (message : Message) :
    Conveys network message (network.submit message) := by
  have refused : Conveys network message (network, .refused, []) :=
    .of_silent network network message .refused [] rfl fun _ => rfl
  unfold submit sendDirect sendRouted
  split
  · split
    · exact network.deliver_conveys _ message
    · exact refused
  · split
    · exact refused
    · split
      · exact network.deliver_conveys _ message
      · exact refused

end Network

def Transport.loopback : Transport := ⟨Network.submit, Network.submit_conveys⟩

/-- An exchange over the network starts by way of this transport. -/
theorem Exchange.start_eq_loopback (exchange : Exchange) (network : Network) (now : Nat)
    (networked : exchange.carrier = .network) :
    exchange.start network now =
      exchange.follow (exchange.openWith Transport.loopback.submit network) now := by
  have submits : exchange.carrier.submit = Transport.loopback.submit := by
    rw [networked]
    rfl
  unfold start
  rw [submits]

structure Course where
  stage : Exchange.Stage := .idle
  started : Nat := 0
  /-- Whether the transport took its message. -/
  accepted : Option Bool := none
  /-- The numbers of the registrations that its steps made. -/
  registrations : List Nat := []

structure Traffic (ι : Type) where
  network : Network := {}
  clock : Nat := 0
  courses : ι → Course := fun _ => {}
  /-- Answers still owed, with the times from which on they are given. -/
  errands : List (Nat × Errand) := []
  history : List Notice := []

inductive Move (ι : Type) where
  | start (index : ι) (transport : Transport)
  | look (index : ι)
  | cancel (index : ι)
  | answer (errand : Nat)
  | dispatch (reply : Reply)
  | elapse (ticks : Nat)
  | reconfigure (endpoints : List (Peer × Endpoint)) (rejecting : Bool)

namespace Submission

def taken : Submission → Bool
  | .refused => false
  | .accepted _ => true

theorem eq_refused {submission : Submission} (refused : submission.taken = false) :
    submission = .refused := by
  cases submission with
  | refused => rfl
  | accepted errand => cases refused

theorem exists_errand {submission : Submission} (accepted : submission.taken = true) :
    ∃ errand, submission = .accepted errand := by
  cases submission with
  | refused => cases accepted
  | accepted errand => exact ⟨errand, rfl⟩

end Submission

namespace Traffic

variable {ι : Type} [DecidableEq ι]

def setCourse (traffic : Traffic ι) (index : ι) (course : Course) : Traffic ι :=
  { traffic with
    courses := fun other => if other = index then course else traffic.courses other }

def take (traffic : Traffic ι) (index : ι) (course : Course) (step : Exchange.Step) : Traffic ι :=
  let first := traffic.network.registry.issued
  let made := List.range' first (step.network.registry.issued - first)
  { traffic.setCourse index
      { course with
        stage := .active step.progress, registrations := course.registrations ++ made } with
    network := step.network
    errands := traffic.errands ++
      step.errand.toList.map fun errand => (traffic.clock + errand.delay.ticks, errand)
    history := traffic.history ++ step.notices }

variable (exchanges : ι → Exchange)

def start (traffic : Traffic ι) (index : ι) (transport : Transport) : Traffic ι :=
  match (traffic.courses index).stage with
  | .idle =>
      let opening := (exchanges index).openWith transport.submit traffic.network
      traffic.take index
        { traffic.courses index with
          started := traffic.clock, accepted := some opening.submission.taken }
        ((exchanges index).follow opening traffic.clock)
  | _ => traffic

def look (traffic : Traffic ι) (index : ι) : Traffic ι :=
  match (traffic.courses index).stage with
  | .active (.waiting registration deadline) =>
      traffic.take index (traffic.courses index)
        ((exchanges index).look traffic.network registration deadline traffic.clock)
  | _ => traffic

def cancel (traffic : Traffic ι) (index : ι) : Traffic ι :=
  let course := traffic.courses index
  match course.stage with
  | .idle => traffic.setCourse index { course with stage := .cancelled }
  | .active (.waiting _ _) =>
      { traffic.setCourse index { course with stage := .cancelled } with
        network := (exchanges index).cancel traffic.network }
  | _ => traffic

def answer (traffic : Traffic ι) (number : Nat) : Traffic ι :=
  match traffic.errands[number]? with
  | some (due, errand) =>
      if due ≤ traffic.clock then
        let (network, notices) := traffic.network.answer errand
        { traffic with
          network := network
          errands := traffic.errands.eraseIdx number
          history := traffic.history ++ notices }
      else traffic
  | none => traffic

def dispatch (traffic : Traffic ι) (reply : Reply) : Traffic ι :=
  let (registry, _, notices) := traffic.network.registry.dispatch reply
  { traffic with
    network := { traffic.network with registry := registry }
    history := traffic.history ++ notices }

def step (traffic : Traffic ι) : Move ι → Traffic ι
  | .start index transport => traffic.start exchanges index transport
  | .look index => traffic.look exchanges index
  | .cancel index => traffic.cancel exchanges index
  | .answer number => traffic.answer number
  | .dispatch reply => traffic.dispatch reply
  | .elapse ticks => { traffic with clock := traffic.clock + ticks }
  | .reconfigure endpoints rejecting =>
      { traffic with
        network := { traffic.network with endpoints := endpoints, rejecting := rejecting } }

def run (moves : List (Move ι)) (traffic : Traffic ι) : Traffic ι :=
  moves.foldl (step exchanges) traffic

end Traffic
end Quorate.Messaging
