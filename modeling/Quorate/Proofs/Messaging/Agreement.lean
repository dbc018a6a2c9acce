import Quorate.Proofs.Messaging.Pending

/-!
Networks that agree but for one request. They deliver alike, and whatever is done at both of them
leaves them in agreement: a submission, an answer, a step of an exchange of any other message. The
exchange of that message changes nothing but for its own request. Registrations may have other
numbers on either side.
-/

namespace Quorate.Messaging

open Registry

/-! ### Registries and networks that agree but for one request -/

namespace Registry

def pendingBut (registry : Registry) (absent : MessageId) : List (MessageId × Handler) :=
  registry.pending.filter fun entry => entry.1 ≠ absent

private theorem Operation.filter_amend (operation : Operation) (absent : MessageId)
    (pending : List (MessageId × Handler)) :
    ((operation.amend pending).filter fun entry => entry.1 ≠ absent) =
      (operation.amend (pending.filter fun entry => entry.1 ≠ absent)).filter
        fun entry => entry.1 ≠ absent := by
  have swap : ∀ request : MessageId,
      ((pending.filter fun entry => entry.1 ≠ request).filter fun entry => entry.1 ≠ absent) =
        (((pending.filter fun entry => entry.1 ≠ absent).filter fun entry =>
          entry.1 ≠ request).filter fun entry => entry.1 ≠ absent) := by
    intro request
    simp only [List.filter_filter]
    congr 1
    funext entry
    cases decide (entry.1 ≠ absent) <;> simp
  cases operation with
  | register request handler =>
      unfold amend
      rw [List.filter_cons, List.filter_cons, swap request]
  | forget request => exact swap request
  | dispatch reply => exact swap reply.request

private theorem Operation.filter_amend_of_request (operation : Operation)
    (pending : List (MessageId × Handler)) :
    ((operation.amend pending).filter fun entry => entry.1 ≠ operation.request) =
      pending.filter fun entry => entry.1 ≠ operation.request := by
  have twice : ∀ request : MessageId,
      ((pending.filter fun entry => entry.1 ≠ request).filter fun entry => entry.1 ≠ request) =
        pending.filter fun entry => entry.1 ≠ request := by
    intro request
    simp only [List.filter_filter, Bool.and_self]
  cases operation with
  | register request handler =>
      exact (List.filter_cons_of_neg (by simp [Operation.request])).trans (twice request)
  | forget request => exact twice request
  | dispatch reply => exact twice reply.request

private theorem pendingBut_perform (registry : Registry) (operation : Operation)
    (absent : MessageId) :
    (registry.perform operation).1.pendingBut absent =
      (operation.amend (registry.pendingBut absent)).filter fun entry => entry.1 ≠ absent := by
  unfold pendingBut
  rw [pending_perform]
  exact operation.filter_amend absent registry.pending

private theorem pendingBut_perform_of_request (registry : Registry) (operation : Operation) :
    (registry.perform operation).1.pendingBut operation.request =
      registry.pendingBut operation.request := by
  unfold pendingBut
  rw [pending_perform]
  exact operation.filter_amend_of_request registry.pending

theorem mem_requests_of_pendingBut {left right : Registry} {absent : MessageId}
    (same : right.pendingBut absent = left.pendingBut absent) (request : MessageId)
    (different : request ≠ absent) : request ∈ right.requests ↔ request ∈ left.requests := by
  have within : ∀ registry : Registry, request ∈ registry.requests ↔
      request ∈ (registry.pendingBut absent).map Prod.fst := by
    intro registry
    simp [requests, pendingBut, different]
  rw [within, within, same]

theorem Live.poll_eq {registry : Registry} {heard : Record} {request : MessageId}
    {registration : Registration} (live : registry.Live heard request registration)
    (sound : registry.Sound heard)
    (own : registry.find? request = some registration ∨ registry.find? request = none) :
    (registry.gates registration.number).poll =
      if request ∈ registry.requests then none else some (.ok ()) := by
  rcases own with found | absent
  · rw [if_pos ((registry.mem_requests_iff request).mpr ⟨registration, found⟩)]
    exact sound.poll_of_found found
  · have missing : request ∉ registry.requests := by
      rw [mem_requests_iff, absent]
      exact nofun
    rw [if_neg missing]
    rcases live with found | ⟨reply, answered⟩
    · rw [absent] at found
      cases found
    · exact answered.poll

end Registry

/-- The networks deliver alike, and the same requests but for one stand in their registries. -/
structure Network.Agrees (absent : MessageId) (full reduced : Network) : Prop where
  endpoints : reduced.endpoints = full.endpoints
  rejecting : reduced.rejecting = full.rejecting
  pending : reduced.registry.pendingBut absent = full.registry.pendingBut absent

namespace Network.Agrees

variable {absent : MessageId} {full middle reduced : Network}

theorem refl (network : Network) : Agrees absent network network := ⟨rfl, rfl, rfl⟩

theorem trans (first : Agrees absent full middle) (second : Agrees absent middle reduced) :
    Agrees absent full reduced :=
  ⟨second.endpoints.trans first.endpoints, second.rejecting.trans first.rejecting,
    second.pending.trans first.pending⟩

theorem perform (agrees : Agrees absent full reduced) (operation : Operation) :
    Agrees absent { full with registry := (full.registry.perform operation).1 }
      { reduced with registry := (reduced.registry.perform operation).1 } where
  endpoints := agrees.endpoints
  rejecting := agrees.rejecting
  pending := by
    rw [pendingBut_perform, pendingBut_perform, agrees.pending]

theorem perform_absent (network : Network) (operation : Operation)
    (same : operation.request = absent) :
    Agrees absent { network with registry := (network.registry.perform operation).1 } network where
  endpoints := rfl
  rejecting := rfl
  pending := by
    rw [← same, pendingBut_perform_of_request]

private theorem delivering (agrees : Agrees absent full reduced) (message : Message) :
    Agrees absent { full with delivered := full.delivered ++ [message.id] }
      { reduced with delivered := reduced.delivered ++ [message.id] } :=
  ⟨agrees.endpoints, agrees.rejecting, agrees.pending⟩

theorem answer (agrees : Agrees absent full reduced) (errand : Errand) :
    Agrees absent (full.answer errand).1 (reduced.answer errand).1 := by
  unfold Network.answer
  cases errand.responder errand.message with
  | none => exact agrees
  | some payload => exact agrees.perform (.dispatch (errand.message.reply errand.target payload))

theorem answer_absent (network : Network) (errand : Errand) (same : errand.message.id = absent) :
    Agrees absent (network.answer errand).1 network := by
  unfold Network.answer
  cases errand.responder errand.message with
  | none => exact refl network
  | some payload =>
      exact perform_absent network (.dispatch (errand.message.reply errand.target payload)) same

end Network.Agrees

/-! ### Submissions -/

namespace Network

private theorem errandAt_message {endpoint : Endpoint} {target : Peer} {message : Message}
    {errand : Errand} (owed : errandAt endpoint target message = some errand) :
    errand.message = message := by
  unfold errandAt at owed
  split at owed
  · obtain ⟨responder, _, rfl⟩ := Option.map_eq_some_iff.mp owed
    rfl
  · cases owed

structure Agrees.Submitted (absent : MessageId)
    (full reduced : Network × Submission × List Notice) : Prop where
  networks : Agrees absent full.1 reduced.1
  submissions : reduced.2.1 = full.2.1

private theorem Agrees.deliver {absent : MessageId} {full reduced : Network}
    (agrees : Agrees absent full reduced) (target : Peer) (message : Message) :
    Agrees.Submitted absent (full.deliver target message) (reduced.deliver target message) := by
  obtain ⟨endpoints, rejecting, delivered, registry⟩ := reduced
  have recorded := agrees.delivering message
  obtain rfl : endpoints = full.endpoints := agrees.endpoints
  obtain rfl : rejecting = full.rejecting := agrees.rejecting
  unfold Network.deliver
  split
  · exact ⟨agrees, rfl⟩
  · cases full.endpoints.lookup target with
    | none => exact ⟨agrees, rfl⟩
    | some endpoint =>
        dsimp only
        cases errandAt endpoint target message with
        | none => exact ⟨recorded, rfl⟩
        | some errand =>
            dsimp only
            split
            · exact ⟨recorded.answer errand, rfl⟩
            · exact ⟨recorded, rfl⟩

private theorem Agrees.submit {absent : MessageId} {full reduced : Network}
    (agrees : Agrees absent full reduced) (message : Message) :
    Agrees.Submitted absent (full.submit message) (reduced.submit message) := by
  have routes : ∀ key, reduced.route key = full.route key := by
    intro key
    unfold route
    rw [agrees.endpoints]
  unfold Network.submit sendDirect sendRouted
  split
  · cases message.route with
    | direct target => exact agrees.deliver target message
    | routed key => exact ⟨agrees, rfl⟩
  · cases message.route with
    | direct target => exact ⟨agrees, rfl⟩
    | routed key =>
        dsimp only
        rw [routes]
        cases full.route key with
        | none => exact ⟨agrees, rfl⟩
        | some target => exact agrees.deliver target message

/-- A submission changes nothing but for the message, and an answer still owed is one to it. -/
structure Confined (network : Network) (message : Message)
    (outcome : Network × Submission × List Notice) : Prop where
  agrees : Agrees message.id outcome.1 network
  owed : ∀ errand, outcome.2.1 = .accepted (some errand) → errand.message = message

private theorem deliver_confined (network : Network) (target : Peer) (message : Message) :
    Confined network message (network.deliver target message) := by
  have unchanged : Agrees message.id network network := .refl network
  unfold deliver
  split
  · exact ⟨unchanged, nofun⟩
  · cases network.endpoints.lookup target with
    | none => exact ⟨unchanged, nofun⟩
    | some endpoint =>
        have recorded : Agrees message.id
            { network with delivered := network.delivered ++ [message.id] } network :=
          ⟨rfl, rfl, rfl⟩
        dsimp only
        cases owed : errandAt endpoint target message with
        | none => exact ⟨recorded, nofun⟩
        | some errand =>
            have own := errandAt_message owed
            dsimp only
            split
            · exact ⟨(Agrees.answer_absent _ errand (congrArg Message.id own)).trans recorded,
                nofun⟩
            · refine ⟨recorded, ?_⟩
              intro other same
              cases same
              exact own

private theorem submit_confined (network : Network) (message : Message) :
    Confined network message (network.submit message) := by
  have refused : Confined network message (network, .refused, []) := ⟨.refl network, nofun⟩
  unfold submit sendDirect sendRouted
  split
  · cases message.route with
    | direct target => exact network.deliver_confined target message
    | routed key => exact refused
  · cases message.route with
    | direct target => exact refused
    | routed key =>
        dsimp only
        cases network.route key with
        | none => exact refused
        | some target => exact network.deliver_confined target message

end Network

/-! ### Steps of an exchange -/

namespace Exchange

def Stage.unnumbered : Stage → Stage
  | .active (.waiting _ deadline) => .active (.waiting 0 deadline)
  | stage => stage

theorem Stage.alike_of_unnumbered {left right : Stage}
    (same : right.unnumbered = left.unnumbered) :
    (right = left ∧ ∀ number deadline, left ≠ .active (.waiting number deadline)) ∨
      ∃ number other deadline, left = .active (.waiting number deadline) ∧
        right = .active (.waiting other deadline) := by
  unfold unnumbered at same
  split at same
  · split at same
    · cases same
      exact .inr ⟨_, _, _, rfl, rfl⟩
    · next notWaiting => exact absurd same.symm (notWaiting _ _)
  · next notWaiting =>
      split at same
      · exact absurd same (notWaiting _ _)
      · next neither => exact .inl ⟨same, neither⟩

structure Step.Agrees (absent : MessageId) (full reduced : Step) : Prop where
  networks : Network.Agrees absent full.network reduced.network
  stages : (Stage.active reduced.progress).unnumbered = (Stage.active full.progress).unnumbered
  errands : reduced.errand = full.errand

variable {exchange : Exchange} (networked : exchange.carrier = .network)
variable {absent : MessageId} {full reduced : Network}

include networked

private theorem finish_network (network : Network) (result : Except SendFailure Unit)
    (notices : List Notice) :
    (exchange.finish network result notices).network =
      { network with registry := (network.registry.perform (.forget exchange.message.id)).1 } := by
  unfold finish Carrier.forget
  rw [networked]
  rfl

private theorem finish_agrees (agrees : Network.Agrees absent full reduced)
    (result : Except SendFailure Unit) (notices : List Notice) :
    Step.Agrees absent (exchange.finish full result notices)
      (exchange.finish reduced result notices) where
  networks := by
    rw [finish_network networked, finish_network networked]
    exact agrees.perform _
  stages := rfl
  errands := rfl

theorem look_agrees (agrees : Network.Agrees absent full reduced)
    (number other deadline now : Nat)
    (polled : (reduced.registry.gates other).poll = (full.registry.gates number).poll) :
    Step.Agrees absent (exchange.look full number deadline now)
      (exchange.look reduced other deadline now) := by
  unfold look Gate.pollUntil
  rw [polled]
  dsimp only
  split
  · exact ⟨agrees, rfl, rfl⟩
  · exact finish_agrees networked agrees _ _
  · exact finish_agrees networked agrees _ _
  · exact finish_agrees networked agrees _ _

omit networked in
theorem look_errand (network : Network) (number deadline now : Nat) :
    (exchange.look network number deadline now).errand = none := by
  unfold look
  dsimp only
  split <;> rfl

private theorem finish_absent (network : Network) (result : Except SendFailure Unit)
    (notices : List Notice) :
    Network.Agrees exchange.message.id (exchange.finish network result notices).network
      network := by
  rw [finish_network networked]
  exact .perform_absent network _ rfl

theorem look_absent (network : Network) (number deadline now : Nat) :
    Network.Agrees exchange.message.id (exchange.look network number deadline now).network
      network := by
  unfold look
  dsimp only
  split
  · exact .refl network
  · exact finish_absent networked network _ _
  · exact finish_absent networked network _ _
  · exact finish_absent networked network _ _

theorem enroll_network (network : Network) :
    (exchange.enroll network).1 =
      if exchange.message.expectsResponse then
        { network with
          registry :=
            (network.registry.perform (.register exchange.message.id exchange.handler)).1 }
      else network := by
  unfold enroll Carrier.register
  rw [networked]
  split <;> rfl

private theorem openWith_agrees (agrees : Network.Agrees absent full reduced) :
    Network.Agrees absent (exchange.openWith Network.submit full).network
        (exchange.openWith Network.submit reduced).network ∧
      (exchange.openWith Network.submit reduced).submission =
        (exchange.openWith Network.submit full).submission := by
  have enrolled : Network.Agrees absent (exchange.enroll full).1 (exchange.enroll reduced).1 := by
    rw [enroll_network networked, enroll_network networked]
    split
    · exact agrees.perform _
    · exact agrees
  have submitted := enrolled.submit exchange.message
  exact ⟨submitted.networks, submitted.submissions⟩

private theorem openWith_confined (network : Network) :
    Network.Agrees exchange.message.id (exchange.openWith Network.submit network).network
        network ∧
      ∀ errand, (exchange.openWith Network.submit network).submission = .accepted (some errand) →
        errand.message = exchange.message := by
  have confined := (exchange.enroll network).1.submit_confined exchange.message
  have enrolled : Network.Agrees exchange.message.id (exchange.enroll network).1 network := by
    rw [enroll_network networked]
    split
    · exact .perform_absent network _ rfl
    · exact .refl network
  exact ⟨confined.agrees.trans enrolled, confined.owed⟩

theorem openWith_poll (request : exchange.message.expectsResponse = true) {network : Network}
    {heard : Record} (sound : network.registry.Sound heard) :
    let after := (exchange.openWith Network.submit network).network.registry
    (after.gates network.registry.issued).poll =
      if exchange.message.id ∈ after.requests then none else some (.ok ()) := by
  intro after
  obtain ⟨_registered, replies, leads, _refused⟩ :=
    exchange.openWith_request networked request .loopback network
  obtain ⟨registering, found⟩ := sound.register exchange.message.id exchange.handler
  have foreign := Operation.foreign_of_dispatches replies exchange.message.id
  have own := leads.find?_of_foreign exchange.message.id foreign
  rw [found] at own
  exact (leads.live registering foreign (.inl found)).poll_eq (leads.sound registering) own

theorem follow_agrees (agrees : Network.Agrees absent full reduced)
    (different : exchange.message.id ≠ absent) {whole part : Record}
    (sound : full.registry.Sound whole) (reducedSound : reduced.registry.Sound part)
    (now : Nat) :
    Step.Agrees absent (exchange.follow (exchange.openWith Network.submit full) now)
      (exchange.follow (exchange.openWith Network.submit reduced) now) := by
  obtain ⟨opened, submissions⟩ := openWith_agrees networked agrees
  have proceeds : Step.Agrees absent
      (exchange.proceed (exchange.openWith Network.submit full) now)
      (exchange.proceed (exchange.openWith Network.submit reduced) now) := by
    unfold proceed
    cases expects : exchange.message.expectsResponse with
    | false =>
        obtain ⟨bare, _⟩ := exchange.openWith_oneWay expects .loopback full
        obtain ⟨reducedBare, _⟩ := exchange.openWith_oneWay expects .loopback reduced
        change (exchange.openWith Network.submit full).registration = none at bare
        change (exchange.openWith Network.submit reduced).registration = none at reducedBare
        rw [bare, reducedBare, submissions]
        cases (exchange.openWith Network.submit full).submission with
        | refused => exact ⟨opened, rfl, rfl⟩
        | accepted errand => exact ⟨opened, rfl, rfl⟩
    | true =>
        obtain ⟨registered, _⟩ := exchange.openWith_request networked expects .loopback full
        obtain ⟨reducedRegistered, _⟩ :=
          exchange.openWith_request networked expects .loopback reduced
        change (exchange.openWith Network.submit full).registration = _ at registered
        change (exchange.openWith Network.submit reduced).registration = _ at reducedRegistered
        rw [registered, reducedRegistered, submissions]
        cases (exchange.openWith Network.submit full).submission with
        | refused => exact finish_agrees networked opened _ _
        | accepted errand =>
            have polled := openWith_poll networked expects sound
            have reducedPolled := openWith_poll networked expects reducedSound
            simp only [mem_requests_of_pendingBut opened.pending _ different] at reducedPolled
            have looked := look_agrees networked opened full.registry.issued
              reduced.registry.issued (now + exchange.timeout.ticks) now
              (reducedPolled.trans polled.symm)
            exact ⟨looked.networks, looked.stages, rfl⟩
  exact ⟨proceeds.networks, proceeds.stages, proceeds.errands⟩

/-- What a start leaves owed is an answer to the message, and otherwise it changes nothing but for
the message. -/
theorem follow_confined (network : Network) (now : Nat) :
    let step := exchange.follow (exchange.openWith Network.submit network) now
    Network.Agrees exchange.message.id step.network network ∧
      ∀ errand, step.errand = some errand → errand.message = exchange.message := by
  intro step
  obtain ⟨agrees, owed⟩ := openWith_confined networked network
  have proceeds : Network.Agrees exchange.message.id
        (exchange.proceed (exchange.openWith Network.submit network) now).network network ∧
      ∀ errand,
        (exchange.proceed (exchange.openWith Network.submit network) now).errand = some errand →
          errand.message = exchange.message := by
    unfold proceed
    cases (exchange.openWith Network.submit network).registration with
    | none =>
        cases submission : (exchange.openWith Network.submit network).submission with
        | refused => exact ⟨agrees, nofun⟩
        | accepted errand =>
            refine ⟨agrees, fun other same => owed other ?_⟩
            rw [submission]
            exact congrArg Submission.accepted same
    | some number =>
        cases submission : (exchange.openWith Network.submit network).submission with
        | refused => exact ⟨(finish_absent networked _ _ _).trans agrees, nofun⟩
        | accepted errand =>
            refine ⟨(look_absent networked _ _ _ _).trans agrees, fun other same => owed other ?_⟩
            rw [submission]
            exact congrArg Submission.accepted same
  exact proceeds

end Exchange
end Quorate.Messaging
