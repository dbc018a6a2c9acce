import Quorate.Messaging.Traffic
import Quorate.Proofs.Messaging.Registry

/-!
What the steps of an exchange over a network do to its registry, and how they end.
-/

namespace Quorate.Messaging

open Registry

namespace Exchange

variable (exchange : Exchange) (networked : exchange.carrier = .network)

/-- The step ends the exchange, and nothing happens to the registry but that it forgets the
message. -/
structure Ends (network : Network) (result : Except SendFailure Unit) (step : Step) : Prop where
  ended : step.progress = .ended result
  leads : Leads [.forget exchange.message.id] network.registry step.network.registry step.notices

structure Stays (network : Network) (progress : Progress) (step : Step) : Prop where
  stays : step.progress = progress
  leads : Leads [] network.registry step.network.registry step.notices

include networked in
private theorem finish_ends (network : Network) (result : Except SendFailure Unit)
    (notices : List Notice) (silent : ∀ number, Notice.deliveries number notices = []) :
    exchange.Ends network result (exchange.finish network result notices) := by
  refine ⟨rfl, ?_, ?_⟩
  · unfold finish Carrier.forget
    rw [networked]
    rfl
  · intro number
    exact silent number

/-- A look at a gate finds it open, closed, shut for too long, or shut. -/
inductive Looks (network : Network) (registration deadline now : Nat) (step : Step) : Prop where
  | opened (polled : (network.registry.gates registration).poll = some (.ok ()))
      (ends : exchange.Ends network (.ok ()) step)
  | closed (polled : (network.registry.gates registration).poll = some (.error .closed))
      (ends : exchange.Ends network (.error .interrupted) step)
  | expired (polled : (network.registry.gates registration).poll = none) (late : deadline ≤ now)
      (ends : exchange.Ends network (.error (.timeout exchange.timeout)) step)
  | shut (polled : (network.registry.gates registration).poll = none) (early : now < deadline)
      (stays : Stays network (.waiting registration deadline) step)

include networked in
theorem look_looks (network : Network) (registration deadline now : Nat) :
    exchange.Looks network registration deadline now
      (exchange.look network registration deadline now) := by
  have finished := exchange.finish_ends networked network
  cases polled : (network.registry.gates registration).poll with
  | none =>
      by_cases late : deadline ≤ now
      · refine .expired polled late ?_
        unfold look Gate.pollUntil
        simp only [polled, late, decide_true, if_true]
        exact finished _ _ fun _ => rfl
      · refine .shut polled (Nat.lt_of_not_le late) ?_
        unfold look Gate.pollUntil
        simp only [polled, late, decide_false, Bool.false_eq_true, if_false]
        exact ⟨rfl, .refl fun _ => rfl⟩
  | some result =>
      cases result with
      | ok value =>
          refine .opened polled ?_
          unfold look Gate.pollUntil
          simp only [polled]
          exact finished _ _ fun _ => rfl
      | error fault =>
          cases fault with
          | closed =>
              refine .closed polled ?_
              unfold look Gate.pollUntil
              simp only [polled]
              exact finished _ _ fun _ => rfl
          | timedOut waited =>
              unfold Gate.poll at polled
              split at polled
              · cases polled
              · split at polled <;> cases polled

variable {exchange} in
theorem Looks.leads {network : Network} {registration deadline now : Nat} {step : Step}
    (looks : exchange.Looks network registration deadline now step) :
    ∃ operations, Leads operations network.registry step.network.registry step.notices ∧
      ∀ operation, operation ∈ operations → operation = .forget exchange.message.id := by
  have only : ∀ operation, operation ∈ [Operation.forget exchange.message.id] →
      operation = .forget exchange.message.id := fun operation => List.mem_singleton.mp
  cases looks with
  | opened polled ends => exact ⟨_, ends.leads, only⟩
  | closed polled ends => exact ⟨_, ends.leads, only⟩
  | expired polled late ends => exact ⟨_, ends.leads, only⟩
  | shut polled early stays => exact ⟨_, stays.leads, nofun⟩

/-! ### What is recorded -/

private theorem delivered_finish (network : Network) (result : Except SendFailure Unit)
    (notices : List Notice) :
    (exchange.finish network result notices).network.delivered = network.delivered := by
  unfold finish Carrier.forget
  cases exchange.carrier <;> rfl

theorem delivered_look (network : Network) (registration deadline now : Nat) :
    (exchange.look network registration deadline now).network.delivered = network.delivered := by
  unfold look
  dsimp only
  split
  · rfl
  · exact exchange.delivered_finish network _ _
  · exact exchange.delivered_finish network _ _
  · exact exchange.delivered_finish network _ _

theorem delivered_proceed (opening : Opening) (now : Nat) :
    (exchange.proceed opening now).network.delivered = opening.network.delivered := by
  unfold proceed
  cases opening.registration with
  | none => cases opening.submission <;> rfl
  | some registration =>
      cases opening.submission with
      | refused => exact exchange.delivered_finish _ _ _
      | accepted errand => exact exchange.delivered_look _ _ _ _

theorem delivered_enroll (network : Network) :
    (exchange.enroll network).1.delivered = network.delivered := by
  unfold enroll
  split <;> rfl

/-! ### The start -/

include networked in
theorem openWith_request (request : exchange.message.expectsResponse = true)
    (transport : Transport) (network : Network) :
    let opening := exchange.openWith transport.submit network
    opening.registration = some network.registry.issued ∧
      ∃ replies : List Reply,
        Leads (replies.map .dispatch)
            (network.registry.register exchange.message.id exchange.handler).1
            opening.network.registry opening.notices ∧
          (opening.submission.taken = false →
            ∀ reply, reply ∈ replies → reply.request ≠ exchange.message.id) := by
  intro opening
  have enrolled : exchange.enroll network =
      ({ network with
          registry := (network.registry.register exchange.message.id exchange.handler).1 },
        some network.registry.issued) := by
    unfold enroll Carrier.register
    rw [if_pos request, networked]
    rfl
  have opened : opening = exchange.openWith transport.submit network := rfl
  unfold openWith at opened
  rw [enrolled] at opened
  obtain ⟨replies, leads, refused⟩ := transport.conveys
    { network with
      registry := (network.registry.register exchange.message.id exchange.handler).1 }
    exchange.message
  rw [opened]
  exact ⟨rfl, replies, leads, fun taken => refused (Submission.eq_refused taken)⟩

theorem enroll_oneWay (oneWay : exchange.message.expectsResponse = false) (network : Network) :
    exchange.enroll network = (network, none) := by
  unfold enroll
  rw [if_neg (by rw [oneWay]; exact Bool.false_ne_true)]

theorem openWith_oneWay (oneWay : exchange.message.expectsResponse = false)
    (transport : Transport) (network : Network) :
    let opening := exchange.openWith transport.submit network
    opening.registration = none ∧
      ∃ replies : List Reply,
        Leads (replies.map .dispatch) network.registry opening.network.registry
          opening.notices := by
  intro opening
  have opened : opening = exchange.openWith transport.submit network := rfl
  unfold openWith at opened
  rw [exchange.enroll_oneWay oneWay] at opened
  obtain ⟨replies, leads, _refused⟩ := transport.conveys network exchange.message
  rw [opened]
  exact ⟨rfl, replies, leads⟩

theorem proceed_oneWay (opening : Opening) (now : Nat) (oneWay : opening.registration = none) :
    Stays opening.network
      (.ended (if opening.submission.taken then .ok () else .error .rejected))
      (exchange.proceed opening now) := by
  unfold proceed
  rw [oneWay]
  cases opening.submission with
  | refused => exact ⟨rfl, .refl fun _ => rfl⟩
  | accepted errand => exact ⟨rfl, .refl fun _ => rfl⟩

include networked in
theorem proceed_refused (opening : Opening) (registration now : Nat)
    (registered : opening.registration = some registration)
    (refused : opening.submission.taken = false) :
    exchange.Ends opening.network (.error .rejected) (exchange.proceed opening now) := by
  unfold proceed
  rw [registered, Submission.eq_refused refused]
  exact exchange.finish_ends networked opening.network _ _ fun _ => rfl

include networked in
theorem proceed_accepted (opening : Opening) (registration now : Nat)
    (registered : opening.registration = some registration)
    (accepted : opening.submission.taken = true) :
    exchange.Looks opening.network registration (now + exchange.timeout.ticks) now
      (exchange.proceed opening now) := by
  obtain ⟨errand, submitted⟩ := Submission.exists_errand accepted
  unfold proceed
  rw [registered, submitted]
  -- The step differs from the look only in what it owes and in a notice of the submission.
  cases exchange.look_looks networked opening.network registration
    (now + exchange.timeout.ticks) now with
  | opened polled ends => exact .opened polled ⟨ends.ended, ends.leads⟩
  | closed polled ends => exact .closed polled ⟨ends.ended, ends.leads⟩
  | expired polled late ends => exact .expired polled late ⟨ends.ended, ends.leads⟩
  | shut polled early stays => exact .shut polled early ⟨stays.stays, stays.leads⟩

include networked in
private theorem proceed_leads (opening : Opening) (registration now : Nat)
    (registered : opening.registration = some registration) :
    ∃ operations,
      Leads operations opening.network.registry (exchange.proceed opening now).network.registry
        (exchange.proceed opening now).notices ∧
        ∀ operation, operation ∈ operations → operation = .forget exchange.message.id := by
  cases taken : opening.submission.taken with
  | false =>
      have ends := exchange.proceed_refused networked opening registration now registered taken
      exact ⟨_, ends.leads, fun _ => List.mem_singleton.mp⟩
  | true =>
      exact (exchange.proceed_accepted networked opening registration now registered taken).leads

theorem follow_oneWay_leads (oneWay : exchange.message.expectsResponse = false)
    (transport : Transport) (network : Network) (now : Nat) :
    let step := exchange.follow (exchange.openWith transport.submit network) now
    ∃ replies : List Reply,
      Leads (replies.map .dispatch) network.registry step.network.registry step.notices := by
  intro step
  obtain ⟨bare, replies, leads⟩ := exchange.openWith_oneWay oneWay transport network
  have stays := exchange.proceed_oneWay _ now bare
  have whole := leads.append stays.leads
  rw [List.append_nil] at whole
  exact ⟨replies, whole⟩

include networked in
theorem follow_request_leads (request : exchange.message.expectsResponse = true)
    (transport : Transport) (network : Network) (now : Nat) :
    let step := exchange.follow (exchange.openWith transport.submit network) now
    step.network.registry.issued = network.registry.issued + 1 ∧
      ∃ rest, Leads (.register exchange.message.id exchange.handler :: rest) network.registry
          step.network.registry step.notices ∧
        ∀ operation, operation ∈ rest → operation.About exchange.message.id := by
  intro step
  obtain ⟨registered, replies, leads, _refused⟩ :=
    exchange.openWith_request networked request transport network
  have registering : Leads [.register exchange.message.id exchange.handler] network.registry
    _ _ := .single _
  obtain ⟨forgets, forgetting, only⟩ := exchange.proceed_leads networked _ _ now registered
  refine ⟨?_, replies.map .dispatch ++ forgets,
    registering.append (leads.append forgetting), ?_⟩
  · refine (forgetting.issued_eq ?_).trans leads.issued_eq_of_dispatches
    intro operation present
    rw [only operation present]
    exact nofun
  · intro operation present other different
    rcases List.mem_append.mp present with reply | late
    · exact Operation.foreign_of_dispatches replies other operation reply
    · rw [only operation late]
      exact different

include networked in
/-- Apart from the replies that come in, all that a start does concerns the message. -/
theorem follow_leads (transport : Transport) (network : Network) (now : Nat) :
    let step := exchange.follow (exchange.openWith transport.submit network) now
    ∃ operations, Leads operations network.registry step.network.registry step.notices ∧
      ∀ operation, operation ∈ operations → operation.About exchange.message.id := by
  intro step
  cases expects : exchange.message.expectsResponse with
  | false =>
      obtain ⟨replies, leads⟩ := exchange.follow_oneWay_leads expects transport network now
      refine ⟨_, leads, ?_⟩
      intro operation present other _different
      exact Operation.foreign_of_dispatches replies other operation present
  | true =>
      obtain ⟨_issued, rest, leads, about⟩ :=
        exchange.follow_request_leads networked expects transport network now
      refine ⟨_, leads, ?_⟩
      intro operation present other different
      rcases List.mem_cons.mp present with rfl | late
      · exact different
      · exact about operation late other different

end Exchange
end Quorate.Messaging
