import Quorate.Proofs.Messaging.Exchange

/-!
How an exchange ends, whatever else happens on the network. The invariant is the exchange's
`Standing`: what its course so far says about the registry and about what its callback has heard.
Steps of others keep it as long as nobody else uses the identity of its message, and its own steps
lead from one standing to the next.
-/

namespace Quorate.Messaging

open Registry

variable (exchange : Exchange)

def Course.Waits (course : Course) : Prop :=
  ∃ registration deadline, course.stage = .active (.waiting registration deadline)

inductive Standing (registry : Registry) (heard : Record) : Course → Prop where
  | idle (started : Nat) : Standing registry heard ⟨.idle, started, none, []⟩
  | cancelled (course : Course) (stage : course.stage = .cancelled) :
      Standing registry heard course
  | refused (started : Nat) (registrations : List Nat)
      (bare : exchange.message.expectsResponse = false → registrations = [])
      (withdrawn : ∀ number, number ∈ registrations → registry.Withdrawn heard number) :
      Standing registry heard
        ⟨.active (.ended (.error .rejected)), started, some false, registrations⟩
  | sent (started : Nat) (oneWay : exchange.message.expectsResponse = false) :
      Standing registry heard ⟨.active (.ended (.ok ())), started, some true, []⟩
  | waiting (started number : Nat) (request : exchange.message.expectsResponse = true)
      (live : registry.Live heard exchange.message.id ⟨number, exchange.handler⟩) :
      Standing registry heard
        ⟨.active (.waiting number (started + exchange.timeout.ticks)), started, some true,
          [number]⟩
  | received (started number : Nat) (reply : Reply)
      (request : exchange.message.expectsResponse = true)
      (answered : registry.Answered heard exchange.message.id ⟨number, exchange.handler⟩ reply) :
      Standing registry heard ⟨.active (.ended (.ok ())), started, some true, [number]⟩
  | timedOut (started number : Nat) (request : exchange.message.expectsResponse = true)
      (withdrawn : registry.Withdrawn heard number) :
      Standing registry heard
        ⟨.active (.ended (.error (.timeout exchange.timeout))), started, some true, [number]⟩

variable {exchange} {registry after : Registry} {heard : Record}

theorem Standing.of_idle {course : Course} (standing : Standing exchange registry heard course)
    (idle : course.stage = .idle) : course.registrations = [] := by
  cases standing with
  | cancelled course stage =>
      rw [stage] at idle
      cases idle
  | idle started => rfl
  | _ => cases idle

theorem Standing.of_waiting {course : Course} (standing : Standing exchange registry heard course)
    {number deadline : Nat} (waits : course.stage = .active (.waiting number deadline)) :
    exchange.message.expectsResponse = true ∧
      registry.Live heard exchange.message.id ⟨number, exchange.handler⟩ ∧
      deadline = course.started + exchange.timeout.ticks ∧ course.accepted = some true ∧
      course.registrations = [number] := by
  cases standing with
  | cancelled course stage =>
      rw [stage] at waits
      cases waits
  | waiting started other request live =>
      cases waits
      exact ⟨request, live, rfl, rfl, rfl⟩
  | _ => cases waits

/-- Whatever others do leaves an exchange its standing, and while it is not waiting for a reply they
may even use the identity of its message. -/
theorem Standing.leads {course : Course} (standing : Standing exchange registry heard course)
    {operations : List Operation} {notices : List Notice}
    (leads : Leads operations registry after notices) (sound : registry.Sound heard)
    (foreign : course.Waits → course.registrations.flatMap heard = [] →
      ∀ operation, operation ∈ operations → operation.Foreign exchange.message.id) :
    Standing exchange after (heard.extend notices) course := by
  cases standing with
  | idle started => exact .idle started
  | cancelled course stage => exact .cancelled course stage
  | refused started registrations bare withdrawn =>
      refine .refused started registrations bare ?_
      intro number present
      exact leads.withdrawn sound (withdrawn number present)
  | sent started oneWay => exact .sent started oneWay
  | waiting started number request live =>
      refine .waiting started number request ?_
      rcases live with found | ⟨reply, answered⟩
      · have silent : heard number = [] := sound.unheard _ _ found
        have waits : Course.Waits
            ⟨.active (.waiting number (started + exchange.timeout.ticks)), started, some true,
              [number]⟩ := ⟨_, _, rfl⟩
        exact leads.live sound (foreign waits (by simp [silent])) (.inl found)
      · exact .inr ⟨reply, leads.answered sound answered⟩
  | received started number reply request answered =>
      exact .received started number reply request (leads.answered sound answered)
  | timedOut started number request withdrawn =>
      exact .timedOut started number request (leads.withdrawn sound withdrawn)

theorem Standing.find?_of_unheard {course : Course}
    (standing : Standing exchange registry heard course) {number deadline : Nat}
    (waits : course.stage = .active (.waiting number deadline)) (silent : heard number = []) :
    registry.find? exchange.message.id = some ⟨number, exchange.handler⟩ := by
  obtain ⟨_request, live, _due, _accepted, _registrations⟩ := standing.of_waiting waits
  rcases live with found | ⟨reply, answered⟩
  · exact found
  · have once : heard number = [(exchange.handler, reply)] := answered.once
    rw [silent] at once
    cases once

/-! ### Its own steps -/

private theorem Looks.resolve {network : Network} {registration : Registration} {deadline now : Nat}
    {step : Exchange.Step} (sound : network.registry.Sound heard)
    (live : network.registry.Live heard exchange.message.id registration)
    (looks : exchange.Looks network registration.number deadline now step) :
    (∃ reply, network.registry.Answered heard exchange.message.id registration reply ∧
        exchange.Ends network (.ok ()) step) ∨
      (network.registry.find? exchange.message.id = some registration ∧ deadline ≤ now ∧
        exchange.Ends network (.error (.timeout exchange.timeout)) step) ∨
      (network.registry.find? exchange.message.id = some registration ∧ now < deadline ∧
        Exchange.Stays network (.waiting registration.number deadline) step) := by
  rcases live with found | ⟨reply, answered⟩
  · have unopened := sound.poll_of_found found
    cases looks with
    | opened polled ends =>
        rw [unopened] at polled
        cases polled
    | closed polled ends =>
        rw [unopened] at polled
        cases polled
    | expired polled late ends => exact .inr (.inl ⟨found, late, ends⟩)
    | shut polled early stays => exact .inr (.inr ⟨found, early, stays⟩)
  · have opened := answered.poll
    cases looks with
    | opened polled ends => exact .inl ⟨reply, answered, ends⟩
    | closed polled ends =>
        rw [opened] at polled
        cases polled
    | expired polled late ends =>
        rw [opened] at polled
        cases polled
    | shut polled early stays =>
        rw [opened] at polled
        cases polled

theorem Standing.look {network : Network} (sound : network.registry.Sound heard)
    (request : exchange.message.expectsResponse = true) (started number now : Nat)
    (live : network.registry.Live heard exchange.message.id ⟨number, exchange.handler⟩)
    {step : Exchange.Step}
    (looks : exchange.Looks network number (started + exchange.timeout.ticks) now step) :
    Standing exchange step.network.registry (heard.extend step.notices)
      ⟨.active step.progress, started, some true, [number]⟩ := by
  rcases Looks.resolve sound live looks with
    ⟨reply, answered, ends⟩ | ⟨found, late, ends⟩ | ⟨_found, early, stays⟩
  · rw [ends.ended]
    exact .received started number reply request (ends.leads.answered sound answered)
  · rw [ends.ended]
    exact .timedOut started number request (ends.leads.forgotten sound found)
  · rw [stays.stays]
    exact .waiting started number request (stays.leads.live sound nofun live)

theorem Standing.start_oneWay {network : Network}
    (oneWay : exchange.message.expectsResponse = false) (transport : Transport) (now : Nat) :
    let opening := exchange.openWith transport.submit network
    let step := exchange.follow opening now
    Standing exchange step.network.registry (heard.extend step.notices)
      ⟨.active step.progress, now, some opening.submission.taken,
        List.range' network.registry.issued
          (step.network.registry.issued - network.registry.issued)⟩ := by
  intro opening step
  obtain ⟨bare, _replies, _leads⟩ := exchange.openWith_oneWay oneWay transport network
  have stays := exchange.proceed_oneWay opening now bare
  obtain ⟨replies, leads⟩ := exchange.follow_oneWay_leads oneWay transport network now
  have issued : step.network.registry.issued = network.registry.issued :=
    leads.issued_eq_of_dispatches
  have progress : step.progress =
      .ended (if opening.submission.taken then .ok () else .error .rejected) := stays.stays
  rw [issued, Nat.sub_self, progress]
  cases opening.submission.taken with
  | false => exact .refused now [] (fun _ => rfl) nofun
  | true => exact .sent now oneWay

theorem Standing.start_request (networked : exchange.carrier = .network) {network : Network}
    (sound : network.registry.Sound heard) (request : exchange.message.expectsResponse = true)
    (transport : Transport) (now : Nat) :
    let opening := exchange.openWith transport.submit network
    let step := exchange.follow opening now
    Standing exchange step.network.registry (heard.extend step.notices)
      ⟨.active step.progress, now, some opening.submission.taken,
        List.range' network.registry.issued
          (step.network.registry.issued - network.registry.issued)⟩ := by
  intro opening step
  obtain ⟨registered, replies, leads, refused⟩ :=
    exchange.openWith_request networked request transport network
  obtain ⟨registering, found⟩ := sound.register exchange.message.id exchange.handler
  have issued : step.network.registry.issued = network.registry.issued + 1 :=
    (exchange.follow_request_leads networked request transport network now).1
  have made : List.range' network.registry.issued
      (step.network.registry.issued - network.registry.issued) = [network.registry.issued] := by
    rw [issued, Nat.add_sub_cancel_left]
    rfl
  have told : heard.extend step.notices =
      (heard.extend opening.notices).extend (exchange.proceed opening now).notices :=
    heard.extend_append opening.notices _
  -- The registration was there before the message left, so a reply cannot have come too early.
  have soundLater := leads.sound registering
  rw [made, told]
  cases taken : opening.submission.taken with
  | false =>
      have ends := exchange.proceed_refused networked opening _ now registered taken
      have unanswered : ∀ operation, operation ∈ replies.map Operation.dispatch →
          operation.request ≠ exchange.message.id := by
        intro operation present
        obtain ⟨reply, among, rfl⟩ := List.mem_map.mp present
        exact refused taken reply among
      have still := (leads.find?_eq exchange.message.id unanswered).trans found
      have progress : step.progress = .ended (.error .rejected) := ends.ended
      rw [progress]
      refine .refused now [network.registry.issued] ?_ ?_
      · intro oneWay
        rw [request] at oneWay
        cases oneWay
      · intro number present
        rw [List.mem_singleton.mp present]
        exact ends.leads.forgotten soundLater still
  | true =>
      have live := leads.live registering
        (Operation.foreign_of_dispatches replies exchange.message.id) (.inl found)
      exact Standing.look soundLater request now network.registry.issued now live
        (exchange.proceed_accepted networked opening _ now registered taken)

/-! ### The outcome -/

/-- What the caller of an exchange is told, and what its callbacks have run on. -/
structure Outcome (exchange : Exchange) (course : Course) (callbacks : List (Handler × Reply)) :
    Prop where
  undecided : course.stage = .idle ↔ course.accepted = none
  rejected : course.stage = .active (.ended (.error .rejected)) ↔ course.accepted = some false
  refused : course.accepted = some false → callbacks = []
  oneWay : exchange.message.expectsResponse = false →
    course.registrations = [] ∧ callbacks = [] ∧
      (course.accepted = some true → course.stage = .active (.ended (.ok ())))
  /-- No callback has run, or one, once, on a reply to the message. -/
  once : callbacks = [] ∨
    ∃ reply, callbacks = [(exchange.handler, reply)] ∧ reply.request = exchange.message.id
  request : exchange.message.expectsResponse = true → course.accepted = some true →
    (callbacks ≠ [] ∧ course.stage = .active (.ended (.ok ()))) ∨
      (callbacks = [] ∧ course.stage = .active (.ended (.error (.timeout exchange.timeout)))) ∨
      ∃ registration, course.stage =
        .active (.waiting registration (course.started + exchange.timeout.ticks))

theorem Standing.outcome {course : Course} (standing : Standing exchange registry heard course)
    (sound : registry.Sound heard) (kept : course.stage ≠ .cancelled) :
    Outcome exchange course (course.registrations.flatMap heard) := by
  cases standing with
  | cancelled course stage => exact absurd stage kept
  | idle started =>
      constructor
      case once => exact .inl rfl
      all_goals simp
  | refused started registrations bare withdrawn =>
      have silent : registrations.flatMap heard = [] := by
        rw [List.flatMap_eq_nil_iff]
        intro number present
        exact (withdrawn number present).unheard
      constructor
      case once => exact .inl silent
      case oneWay => exact fun oneWay => ⟨bare oneWay, silent, nofun⟩
      all_goals simp [silent]
  | sent started oneWay =>
      constructor
      case once => exact .inl rfl
      all_goals simp [oneWay]
  | waiting started number request live =>
      have heardOnce : heard number = [] ∨ ∃ reply, heard number = [(exchange.handler, reply)] ∧
          reply.request = exchange.message.id := by
        rcases live with found | ⟨reply, answered⟩
        · exact .inl (sound.unheard _ _ found)
        · exact .inr ⟨reply, answered.once, answered.addressed⟩
      constructor
      case once => simpa using heardOnce
      all_goals simp [request]
  | received started number reply request answered =>
      have once : heard number = [(exchange.handler, reply)] := answered.once
      constructor
      case once => exact .inr ⟨reply, by simp [once], answered.addressed⟩
      all_goals simp [request, once]
  | timedOut started number request withdrawn =>
      have silent : heard number = [] := withdrawn.unheard
      constructor
      case once => exact .inl (by simp [silent])
      all_goals simp [request, silent]

theorem Standing.flatMap_heard {course : Course}
    (standing : Standing exchange registry heard course) {operations : List Operation}
    {notices : List Notice} (leads : Leads operations registry after notices)
    (sound : registry.Sound heard) (result : Except SendFailure Unit)
    (ended : course.stage = .active (.ended result)) :
    course.registrations.flatMap (heard.extend notices) = course.registrations.flatMap heard := by
  cases standing with
  | cancelled course stage =>
      rw [stage] at ended
      cases ended
  | idle started => cases ended
  | waiting started number request live => cases ended
  | sent started oneWay => rfl
  | refused started registrations bare withdrawn =>
      have before : registrations.flatMap heard = [] := by
        rw [List.flatMap_eq_nil_iff]
        exact fun number present => (withdrawn number present).unheard
      have later : registrations.flatMap (heard.extend notices) = [] := by
        rw [List.flatMap_eq_nil_iff]
        exact fun number present => (leads.withdrawn sound (withdrawn number present)).unheard
      exact later.trans before.symm
  | received started number reply request answered =>
      have before := answered.once
      have later := (leads.answered sound answered).once
      exact congrArg (· ++ []) (later.trans before.symm)
  | timedOut started number request withdrawn =>
      have before := withdrawn.unheard
      have later := (leads.withdrawn sound withdrawn).unheard
      exact congrArg (· ++ []) (later.trans before.symm)

theorem Looks.progress {network : Network} {registration : Registration} {deadline now : Nat}
    {step : Exchange.Step} (sound : network.registry.Sound heard)
    (live : network.registry.Live heard exchange.message.id registration)
    (looks : exchange.Looks network registration.number deadline now step) :
    (heard registration.number ≠ [] → step.progress = .ended (.ok ())) ∧
      (heard registration.number = [] → deadline ≤ now →
        step.progress = .ended (.error (.timeout exchange.timeout))) := by
  rcases Looks.resolve sound live looks with
    ⟨reply, answered, ends⟩ | ⟨found, late, ends⟩ | ⟨found, early, stays⟩
  · refine ⟨fun _ran => ends.ended, ?_⟩
    intro silent
    rw [answered.once] at silent
    cases silent
  · have silent := sound.unheard _ _ found
    exact ⟨fun ran => absurd silent ran, fun _silent _late => ends.ended⟩
  · have silent := sound.unheard _ _ found
    refine ⟨fun ran => absurd silent ran, ?_⟩
    intro _silent late
    exact absurd late (Nat.not_le_of_lt early)

end Quorate.Messaging
