import Quorate.Proofs.Messaging.Agreement
import Quorate.Proofs.Messaging.Routing

/-!
Which peer takes a message, and what the network has promised once it has. A request that is
answered at once no longer stands in the registry when its submission returns, and one that will be
answered later has an answer owed to it.
-/

namespace Quorate.Messaging

open Registry

def Errand.replies (errand : Errand) : Bool := (errand.responder errand.message).isSome

namespace Network

variable (network : Network) (message : Message)

/-! ### The peer that takes a message -/

/-- The peer that takes a message and what it does with messages, if any does. -/
def taker? : Option (Peer × Endpoint) :=
  if network.rejecting then none
  else
    let target? := match message.route with
      | .direct target => some target
      | .routed key => network.route key
    target?.bind fun target => (network.endpoints.lookup target).map fun endpoint =>
      (target, endpoint)

variable {network message}

private theorem taker?_congr {other : Network} (endpoints : other.endpoints = network.endpoints)
    (rejecting : other.rejecting = network.rejecting) :
    other.taker? message = network.taker? message := by
  unfold taker? route
  rw [endpoints, rejecting]

theorem taker?_eq_none_iff :
    network.taker? message = none ↔
      network.rejecting = true ∨
        (∃ target, message.route = .direct target ∧ target ∉ network.peers) ∨
        ((∃ key, message.route = .routed key) ∧ network.peers = []) := by
  have unknown : ∀ target, network.endpoints.lookup target = none ↔ target ∉ network.peers := by
    intro target
    constructor
    · intro missing registered
      obtain ⟨endpoint, found⟩ := network.exists_endpoint registered
      rw [missing] at found
      cases found
    · intro absent
      refine List.lookup_eq_none_iff.mpr fun entry present => bne_iff_ne.mpr ?_
      rintro rfl
      exact absent (List.mem_map_of_mem present)
  unfold taker?
  cases network.rejecting with
  | true => simp
  | false =>
      cases message.route with
      | direct target => simp [unknown]
      | routed key =>
          cases routed : network.route key with
          | none => simp [routed, (network.route_eq_none_iff key).mp routed]
          | some target =>
              -- The peer that a key belongs to is one of those there are.
              have registered : target ∈ network.peers :=
                (Placement.mem_rankBy _ _).mp (List.mem_of_mem_head? routed)
              simp [routed, unknown, registered, List.ne_nil_of_mem registered]

theorem taker?_eq_some {target : Peer} {endpoint : Endpoint}
    (takes : network.taker? message = some (target, endpoint)) :
    network.submit message = network.deliver target message ∧ network.rejecting = false ∧
      network.endpoints.lookup target = some endpoint := by
  unfold taker? at takes
  split at takes
  · cases takes
  · next accepting =>
      obtain ⟨found, aimed, taken⟩ := Option.bind_eq_some_iff.mp takes
      obtain ⟨other, known, same⟩ := Option.map_eq_some_iff.mp taken
      cases same
      refine ⟨?_, Bool.eq_false_iff.mpr accepting, known⟩
      unfold submit sendDirect sendRouted Message.isDirect
      cases routed : message.route with
      | direct peer =>
          rw [routed] at aimed
          cases aimed
          rfl
      | routed key =>
          rw [routed] at aimed
          change network.route key = some target at aimed
          simp [aimed]

private theorem submit_of_taker?_eq_none (untaken : network.taker? message = none) :
    (network.submit message).1 = network ∧ (network.submit message).2.1 = .refused := by
  have refused : ∀ target, (network.rejecting = true ∨ network.endpoints.lookup target = none) →
      (network.deliver target message).1 = network ∧
        (network.deliver target message).2.1 = .refused := by
    intro target reason
    unfold deliver
    split
    · exact ⟨rfl, rfl⟩
    · next accepting => simp [reason.resolve_left accepting]
  have known : ∀ target, (match message.route with
      | .direct target => some target
      | .routed key => network.route key) = some target →
        network.rejecting = true ∨ network.endpoints.lookup target = none := by
    intro target aimed
    unfold taker? at untaken
    split at untaken
    · next rejecting => exact .inl rejecting
    · dsimp only at untaken
      rw [aimed] at untaken
      exact .inr (Option.map_eq_none_iff.mp untaken)
  unfold submit sendDirect sendRouted Message.isDirect
  cases routed : message.route with
  | direct target =>
      rw [routed] at known
      exact refused target (known target rfl)
  | routed key =>
      rw [routed] at known
      dsimp only
      cases aimed : network.route key with
      | none => exact ⟨rfl, rfl⟩
      | some target => exact refused target (known target aimed)

/-! ### What is promised -/

theorem mem_requests_answer (network : Network) (errand : Errand) (request : MessageId) :
    request ∈ (network.answer errand).1.registry.requests ↔
      request ∈ network.registry.requests ∧
        ¬(errand.message.id = request ∧ errand.replies = true) := by
  unfold answer Errand.replies
  cases errand.responder errand.message with
  | none => simp
  | some payload =>
      let reply := errand.message.reply errand.target payload
      have pending := network.registry.pending_perform (.dispatch reply)
      change (network.registry.dispatch reply).1.pending = _ at pending
      change request ∈ (network.registry.dispatch reply).1.requests ↔ _
      unfold requests
      rw [pending]
      simp [Operation.amend, reply, Message.reply, @eq_comm _ errand.message.id request]

private theorem errandAt_replies {endpoint : Endpoint} {target : Peer} {errand : Errand}
    (owed : errandAt endpoint target message = some errand) :
    errand.replies = (endpoint.reply? target message).isSome := by
  obtain ⟨own, _target, _delay, reply⟩ := errandAt_eq_some owed
  rw [← reply, Option.isSome_map, ← own]
  rfl

/-- What the network has done for a request that a peer has taken, and what it has promised. -/
structure Promises (network : Network) (message : Message) (target : Peer) (endpoint : Endpoint)
    (outcome : Network × Submission × List Notice) : Prop where
  recorded : outcome.1.delivered = network.delivered ++ [message.id]
  /-- The request stands in the registry unless it was answered at once. -/
  standing : message.id ∈ outcome.1.registry.requests ↔
    message.id ∈ network.registry.requests ∧
      ¬(endpoint.delay.nanos = 0 ∧ (endpoint.reply? target message).isSome = true)
  /-- A reply that was not given at once is owed after the delay. -/
  owed : ∃ errand, outcome.2.1 = .accepted errand ∧
    (errand.toList.filter Errand.replies).map Errand.delay =
      if endpoint.delay.nanos ≠ 0 ∧ (endpoint.reply? target message).isSome = true then
        [endpoint.delay]
      else []

theorem deliver_promises {target : Peer} {endpoint : Endpoint}
    (accepting : network.rejecting = false)
    (found : network.endpoints.lookup target = some endpoint) :
    Promises network message target endpoint (network.deliver target message) := by
  unfold deliver
  rw [if_neg (by rw [accepting]; exact Bool.false_ne_true), found]
  dsimp only
  cases awaited : errandAt endpoint target message with
  | none =>
      have silent := errandAt_eq_none awaited
      constructor
      case recorded => rfl
      case standing => simp [silent]
      case owed => exact ⟨none, rfl, by simp [silent]⟩
  | some errand =>
      obtain ⟨own, _target, delay, _reply⟩ := errandAt_eq_some awaited
      have replies := errandAt_replies awaited
      dsimp only
      rw [delay]
      by_cases immediate : endpoint.delay.nanos = 0
      · rw [if_pos immediate]
        constructor
        case recorded => rw [delivered_answer]
        case standing => simp [mem_requests_answer, own, replies, immediate]
        case owed => exact ⟨none, rfl, by simp [immediate]⟩
      · rw [if_neg immediate]
        constructor
        case recorded => rfl
        case standing => simp [immediate]
        case owed =>
          refine ⟨some errand, rfl, ?_⟩
          cases answers : (endpoint.reply? target message).isSome with
          | false => simp [replies, answers]
          | true => simp [replies, answers, immediate, delay]

private theorem taken_submit (network : Network) (message : Message) :
    (network.submit message).2.1.taken = (network.taker? message).isSome := by
  cases takes : network.taker? message with
  | none => rw [(submit_of_taker?_eq_none takes).2]; rfl
  | some taker =>
      obtain ⟨submitted, accepting, found⟩ := taker?_eq_some takes
      obtain ⟨errand, accepted, _delays⟩ := (deliver_promises accepting found).owed
      rw [submitted, accepted]
      rfl

private theorem delivered_submit (network : Network) (message : Message) :
    (network.submit message).1.delivered =
      network.delivered ++ if (network.taker? message).isSome then [message.id] else [] := by
  cases takes : network.taker? message with
  | none =>
      rw [(submit_of_taker?_eq_none takes).1]
      exact (List.append_nil _).symm
  | some taker =>
      obtain ⟨submitted, accepting, found⟩ := taker?_eq_some takes
      rw [submitted]
      exact (deliver_promises accepting found).recorded

/-! ### One-way messages -/

def withResponders (network : Network) (responders : Peer → Option Responder) : Network :=
  { network with
    endpoints := network.endpoints.map fun entry =>
      (entry.1, { entry.2 with responder := responders entry.1 }) }

private theorem peers_withResponders (network : Network) (responders : Peer → Option Responder) :
    (network.withResponders responders).peers = network.peers := by
  simp [peers, withResponders]

private theorem lookup_withResponders (network : Network) (responders : Peer → Option Responder)
    (target : Peer) :
    (network.withResponders responders).endpoints.lookup target =
      (network.endpoints.lookup target).map fun endpoint =>
        { endpoint with responder := responders target } := by
  change (network.endpoints.map _).lookup target = _
  induction network.endpoints with
  | nil => rfl
  | cons entry rest ih =>
      obtain ⟨peer, endpoint⟩ := entry
      rw [List.map_cons, List.lookup_cons, List.lookup_cons, ih]
      by_cases same : target = peer
      · simp [same]
      · rw [beq_false_of_ne same]

private theorem deliver_oneWay (oneWay : message.expectsResponse = false) {target : Peer}
    {endpoint : Endpoint} (accepting : network.rejecting = false)
    (found : network.endpoints.lookup target = some endpoint) :
    network.deliver target message =
      ({ network with delivered := network.delivered ++ [message.id] }, .accepted none, []) := by
  have unowed : errandAt endpoint target message = none := by
    unfold errandAt
    rw [if_neg (by rw [oneWay]; exact Bool.false_ne_true)]
  unfold deliver
  rw [if_neg (by rw [accepting]; exact Bool.false_ne_true), found]
  dsimp only
  rw [unowed]

theorem submit_withResponders (network : Network) (oneWay : message.expectsResponse = false)
    (responders : Peer → Option Responder) :
    (network.withResponders responders).submit message =
      ((network.submit message).1.withResponders responders, (network.submit message).2) := by
  have delivered : ∀ target, (network.withResponders responders).deliver target message =
      ((network.deliver target message).1.withResponders responders,
        (network.deliver target message).2) := by
    intro target
    have lookup := network.lookup_withResponders responders target
    cases rejecting : network.rejecting with
    | true => simp [deliver, withResponders, rejecting]
    | false =>
        have accepting : (network.withResponders responders).rejecting = false := rejecting
        cases found : network.endpoints.lookup target with
        | none =>
            rw [found] at lookup
            simp [deliver, lookup, found, rejecting, accepting]
        | some endpoint =>
            rw [found] at lookup
            rw [deliver_oneWay oneWay rejecting found, deliver_oneWay oneWay accepting lookup]
            rfl
  have routes : ∀ key, (network.withResponders responders).route key = network.route key := by
    intro key
    exact congrArg (fun peers => (Placement.rank key peers).head?)
      (network.peers_withResponders responders)
  unfold submit sendDirect sendRouted Message.isDirect
  cases message.route with
  | direct target => exact delivered target
  | routed key =>
      dsimp only
      rw [routes]
      cases network.route key with
      | none => rfl
      | some target => exact delivered target

end Network

namespace Exchange

variable (exchange : Exchange) (network : Network)

/-! ### The start of an exchange -/

theorem taker?_enroll (message : Message) :
    (exchange.enroll network).1.taker? message = network.taker? message := by
  unfold enroll
  split <;> exact Network.taker?_congr rfl rfl

theorem taken_openWith :
    (exchange.openWith Network.submit network).submission.taken =
      (network.taker? exchange.message).isSome := by
  rw [← exchange.taker?_enroll network]
  exact (exchange.enroll network).1.taken_submit exchange.message

theorem delivered_follow (now : Nat) :
    (exchange.follow (exchange.openWith Network.submit network) now).network.delivered =
      network.delivered ++
        if (network.taker? exchange.message).isSome then [exchange.message.id] else [] := by
  refine (exchange.delivered_proceed _ now).trans ?_
  refine ((exchange.enroll network).1.delivered_submit exchange.message).trans ?_
  rw [exchange.delivered_enroll, exchange.taker?_enroll]

theorem follow_oneWay {network : Network} (oneWay : exchange.message.expectsResponse = false)
    (takes : (network.taker? exchange.message).isSome = true) (now : Nat) :
    let step := exchange.follow (exchange.openWith Network.submit network) now
    step.network = { network with delivered := network.delivered ++ [exchange.message.id] } ∧
      step.errand = none := by
  intro step
  obtain ⟨⟨target, endpoint⟩, takes⟩ := Option.isSome_iff_exists.mp takes
  obtain ⟨submitted, accepting, found⟩ := Network.taker?_eq_some takes
  have opened : exchange.openWith Network.submit network =
      ⟨{ network with delivered := network.delivered ++ [exchange.message.id] }, none,
        .accepted none, []⟩ := by
    unfold openWith
    rw [exchange.enroll_oneWay oneWay]
    dsimp only
    rw [submitted, Network.deliver_oneWay oneWay accepting found]
  have stepped : step = exchange.follow (exchange.openWith Network.submit network) now := rfl
  rw [opened] at stepped
  rw [stepped]
  exact ⟨rfl, rfl⟩

end Exchange
end Quorate.Messaging
