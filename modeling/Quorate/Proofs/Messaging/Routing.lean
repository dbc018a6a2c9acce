import Quorate.Messaging.Network
import Quorate.Proofs.Placement
import Quorate.Store.Cluster

/-!
Where routed messages go. The network asks the same ranking as the store does, so a key belongs to
the same peer for both of them, and a peer that is sent a request is the one that answers it.
-/

namespace Quorate.Messaging

open Placement Store

def Endpoint.reply? (endpoint : Endpoint) (peer : Peer) (message : Message) : Option Reply :=
  if message.expectsResponse then (endpoint.responder.bind (· message)).map (message.reply peer)
  else none

private theorem Endpoint.reply?_eq_some {endpoint : Endpoint} {peer : Peer} {message : Message}
    {reply : Reply} (answers : endpoint.reply? peer message = some reply) :
    reply.sender = peer ∧ reply.request = message.id := by
  unfold Endpoint.reply? at answers
  split at answers
  · obtain ⟨_payload, _, rfl⟩ := Option.map_eq_some_iff.mp answers
    exact ⟨rfl, rfl⟩
  · cases answers

private theorem Registry.handled_mem_dispatch_iff (registry : Registry) (reply other : Reply)
    (registration : Registration) :
    .handled registration other ∈ (registry.dispatch reply).2.2 ↔
      reply = other ∧ registry.find? reply.request = some registration := by
  unfold dispatch
  cases registry.find? reply.request with
  | none => simp
  | some found =>
      simp only [List.mem_singleton, Notice.handled.injEq, Option.some.injEq]
      constructor
      · rintro ⟨rfl, rfl⟩
        exact ⟨rfl, rfl⟩
      · rintro ⟨rfl, rfl⟩
        exact ⟨rfl, rfl⟩

namespace Network

def peers (network : Network) : List Peer := network.endpoints.map Prod.fst

def registering (network : Network) (registrations : List (Peer × Endpoint)) : Network :=
  registrations.foldl (fun network entry => network.setEndpoint entry.1 entry.2) network

variable (network : Network) (key : String)

private theorem mem_peers_setEndpoint (peer other : Peer) (endpoint : Endpoint) :
    other ∈ (network.setEndpoint peer endpoint).peers ↔ other = peer ∨ other ∈ network.peers := by
  unfold peers setEndpoint
  simp only [List.map_append, List.map_cons, List.map_nil, List.mem_append, List.mem_map,
    List.mem_filter, List.mem_singleton, decide_eq_true_iff]
  by_cases same : other = peer
  · simp only [same, or_true, true_or]
  · simp only [same, or_false, false_or]
    constructor
    · rintro ⟨entry, ⟨present, _⟩, rfl⟩
      exact ⟨entry, present, rfl⟩
    · rintro ⟨entry, present, rfl⟩
      exact ⟨entry, ⟨present, same⟩, rfl⟩

private theorem mem_peers_registering (registrations : List (Peer × Endpoint)) (peer : Peer) :
    peer ∈ (network.registering registrations).peers ↔
      peer ∈ registrations.map Prod.fst ∨ peer ∈ network.peers := by
  induction registrations generalizing network with
  | nil => simp [registering]
  | cons entry rest ih =>
      change peer ∈ ((network.setEndpoint entry.1 entry.2).registering rest).peers ↔ _
      rw [ih, mem_peers_setEndpoint, List.map_cons, List.mem_cons]
      exact or_left_comm.trans or_assoc.symm

theorem exists_endpoint {peer : Peer} (registered : peer ∈ network.peers) :
    ∃ endpoint, network.endpoints.lookup peer = some endpoint := by
  obtain ⟨entry, present, rfl⟩ := List.mem_map.mp registered
  have found := List.lookup_isSome_iff.mpr ⟨entry, present, beq_self_eq_true entry.1⟩
  exact Option.isSome_iff_exists.mp found

/-! ### The peer that a key belongs to -/

theorem route_eq_none_iff : network.route key = none ↔ network.peers = [] :=
  head?_rankBy_eq_none_iff

variable {network key}

private theorem route_eq_some_iff (apart : Apart (weight key) network.peers) {peer : Peer} :
    network.route key = some peer ↔
      peer ∈ network.peers ∧
        ∀ other, other ∈ network.peers → other ≠ peer → weight key other < weight key peer :=
  apart.head?_rankBy_eq_some_iff

private theorem head?_rank_eq_route (apart : Apart (weight key) network.peers) (others : List Peer)
    (same : ∀ peer, peer ∈ others ↔ peer ∈ network.peers) :
    (rank key others).head? = network.route key := by
  have apartToo : Apart (weight key) others := fun left among right also =>
    apart left ((same left).mp among) right ((same right).mp also)
  refine Option.ext fun peer => ?_
  rw [route_eq_some_iff apart]
  refine apartToo.head?_rankBy_eq_some_iff.trans ?_
  simp only [same]

private theorem head?_responsible_eq_route (apart : Apart (weight key) network.peers)
    (cluster : Cluster)
    (same : ∀ peer, peer ∈ cluster.peers ↔ peer ∈ network.peers) (positive : 0 < cluster.factor) :
    (cluster.responsible key).head? = network.route key := by
  unfold Cluster.responsible select selectBy
  rw [List.head?_take, if_neg (Nat.ne_of_gt positive)]
  exact head?_rank_eq_route apart cluster.peers same

/-! ### Deliveries -/

private theorem handled_mem_answer_iff (network : Network) (errand : Errand)
    (registration : Registration) (reply : Reply) :
    .handled registration reply ∈ (network.answer errand).2 ↔
      (errand.responder errand.message).map (errand.message.reply errand.target) = some reply ∧
        network.registry.find? errand.message.id = some registration := by
  unfold answer
  cases errand.responder errand.message with
  | none => simp
  | some payload =>
      rw [Option.map_some, Option.some.injEq]
      exact network.registry.handled_mem_dispatch_iff _ reply registration

theorem delivered_answer (network : Network) (errand : Errand) :
    (network.answer errand).1.delivered = network.delivered := by
  unfold answer
  cases errand.responder errand.message <;> rfl

theorem errandAt_eq_none {endpoint : Endpoint} {target : Peer} {message : Message}
    (unowed : errandAt endpoint target message = none) :
    endpoint.reply? target message = none := by
  unfold errandAt at unowed
  unfold Endpoint.reply?
  split at unowed
  · rw [Option.map_eq_none_iff.mp unowed]
    exact ite_self none
  · next oneWay => rw [if_neg oneWay]

theorem errandAt_eq_some {endpoint : Endpoint} {target : Peer} {message : Message}
    {errand : Errand} (owed : errandAt endpoint target message = some errand) :
    errand.message = message ∧ errand.target = target ∧ errand.delay = endpoint.delay ∧
      (errand.responder message).map (message.reply target) = endpoint.reply? target message := by
  unfold errandAt at owed
  split at owed
  · next expects =>
      obtain ⟨responder, found, rfl⟩ := Option.map_eq_some_iff.mp owed
      unfold Endpoint.reply?
      rw [if_pos expects, found]
      exact ⟨rfl, rfl, rfl, rfl⟩
  · cases owed

/-- What comes of a message that is taken by a peer: it is recorded, and the reply of the peer
reaches whoever is registered for it when it is given, at once or after the delay. -/
structure Delivers (network : Network) (message : Message) (target : Peer) (endpoint : Endpoint)
    (outcome : Network × Submission × List Notice) : Prop where
  recorded : outcome.1.delivered = network.delivered ++ [message.id]
  accepted : ∃ errand, outcome.2.1 = .accepted errand ∧
    ∀ owed, errand = some owed → owed.message = message ∧ owed.target = target
  atOnce : ∀ registration reply, .handled registration reply ∈ outcome.2.2 ↔
    endpoint.delay.nanos = 0 ∧ endpoint.reply? target message = some reply ∧
      network.registry.find? message.id = some registration
  later : ∀ (after : Network) registration reply,
    (∃ errand, outcome.2.1 = .accepted (some errand) ∧
      .handled registration reply ∈ (after.answer errand).2) ↔
    endpoint.delay.nanos ≠ 0 ∧ endpoint.reply? target message = some reply ∧
      after.registry.find? message.id = some registration

private theorem deliver_delivers {message : Message} {target : Peer} {endpoint : Endpoint}
    (accepting : network.rejecting = false)
    (found : network.endpoints.lookup target = some endpoint) :
    Delivers network message target endpoint (network.deliver target message) := by
  unfold deliver
  rw [if_neg (by rw [accepting]; exact Bool.false_ne_true), found]
  dsimp only
  cases owed : errandAt endpoint target message with
  | none =>
      have silent := errandAt_eq_none owed
      constructor
      case recorded => rfl
      case accepted => exact ⟨none, rfl, nofun⟩
      case atOnce => simp [silent]
      case later => simp [silent]
  | some errand =>
      obtain ⟨own, aimed, delay, reply⟩ := errandAt_eq_some owed
      dsimp only
      rw [delay]
      by_cases immediate : endpoint.delay.nanos = 0
      · rw [if_pos immediate]
        constructor
        case recorded => rw [delivered_answer]
        case accepted => exact ⟨none, rfl, nofun⟩
        case atOnce =>
          intro registration other
          rw [handled_mem_answer_iff, own, aimed, reply, and_iff_right immediate]
        case later => simp [immediate]
      · rw [if_neg immediate]
        constructor
        case recorded => rfl
        case accepted =>
          refine ⟨some errand, rfl, ?_⟩
          rintro _ ⟨⟩
          exact ⟨own, aimed⟩
        case atOnce => simp [immediate]
        case later =>
          intro after registration other
          rw [and_iff_right immediate, ← reply]
          have given := handled_mem_answer_iff after errand registration other
          rw [own, aimed] at given
          rw [← given]
          constructor
          · rintro ⟨_, ⟨⟩, handled⟩
            exact handled
          · intro handled
            exact ⟨errand, rfl, handled⟩

private theorem submit_routed {message : Message} (routed : message.route = .routed key) :
    network.submit message =
      match network.route key with
      | some target => network.deliver target message
      | none => (network, .refused, []) := by
  unfold submit sendRouted Message.isDirect
  rw [routed]
  rfl

private theorem submit_routed_eq_refused_iff {message : Message}
    (routed : message.route = .routed key) (apart : Apart (weight key) network.peers) :
    (network.submit message).2.1 = .refused ↔ network.rejecting = true ∨ network.peers = [] := by
  rw [submit_routed routed]
  cases target : network.route key with
  | none => simp [(network.route_eq_none_iff key).mp target]
  | some peer =>
      have registered := ((route_eq_some_iff apart).mp target).1
      cases rejecting : network.rejecting with
      | true => simp [deliver, rejecting]
      | false =>
          obtain ⟨endpoint, found⟩ := network.exists_endpoint registered
          have delivers : Delivers network message peer endpoint (network.deliver peer message) :=
            deliver_delivers rejecting found
          obtain ⟨errand, accepted, _⟩ := delivers.accepted
          dsimp only
          rw [accepted]
          simp [List.ne_nil_of_mem registered]

/-- A ranking does not depend on how the peers are listed, as long as no two weigh the same. So the
owner of a key is the same for every network with these peers, however they were registered and
registered again, and for every store with them; and it is the owner that takes a routed message
and whose name is on the reply. -/
theorem routing_agrees (network : Network) (key : String)
    (apart : Apart (weight key) network.peers) :
    (∀ (weigh : Peer → UInt64) (peers others : List Peer), Apart weigh peers →
      others.Perm peers → rankBy weigh others = rankBy weigh peers) ∧
      (∀ other : Network, (∀ peer, peer ∈ other.peers ↔ peer ∈ network.peers) →
        other.route key = network.route key) ∧
      (∀ registrations, (∀ peer, peer ∈ registrations.map Prod.fst ↔ peer ∈ network.peers) →
        (registering {} registrations).route key = network.route key) ∧
      (network.route key = none ↔ network.peers = []) ∧
      (∀ peer, network.route key = some peer ↔
        peer ∈ network.peers ∧
          ∀ other, other ∈ network.peers → other ≠ peer → weight key other < weight key peer) ∧
      (∀ cluster : Cluster, (∀ peer, peer ∈ cluster.peers ↔ peer ∈ network.peers) →
        0 < cluster.factor → (cluster.responsible key).head? = network.route key) ∧
      ∀ message : Message, message.route = .routed key →
        ((network.submit message).2.1 = .refused ↔
          network.rejecting = true ∨ network.peers = []) ∧
        ∀ peer, network.route key = some peer → network.rejecting = false →
          ∃ endpoint, network.endpoints.lookup peer = some endpoint ∧
            Delivers network message peer endpoint (network.submit message) ∧
            ∀ reply, endpoint.reply? peer message = some reply →
              reply.sender = peer ∧ reply.request = message.id := by
  refine ⟨?_, ?_, ?_, network.route_eq_none_iff key, fun peer => route_eq_some_iff apart, ?_, ?_⟩
  · intro weigh peers others apart same
    exact apart.rankBy_congr same
  · intro other same
    exact head?_rank_eq_route apart other.peers same
  · intro registrations same
    apply head?_rank_eq_route apart
    intro peer
    rw [← same peer]
    exact (mem_peers_registering {} registrations peer).trans (or_iff_left List.not_mem_nil)
  · intro cluster same positive
    exact head?_responsible_eq_route apart cluster same positive
  · intro message routed
    refine ⟨submit_routed_eq_refused_iff routed apart, ?_⟩
    intro peer owner accepting
    obtain ⟨endpoint, found⟩ := network.exists_endpoint ((route_eq_some_iff apart).mp owner).1
    refine ⟨endpoint, found, ?_, fun reply answers => Endpoint.reply?_eq_some answers⟩
    rw [submit_routed routed, owner]
    exact deliver_delivers accepting found

/-- The second peer is registered twice, first without a responder. -/
def neighbours : List (Peer × Endpoint) :=
  [(⟨"peer-2"⟩, {}), (⟨"peer-1"⟩, { responder := some fun _ => some [1] }),
    (⟨"peer-2"⟩, { responder := some fun _ => some [2] }), (⟨"peer-3"⟩, {})]

theorem routing_agrees_neighbours :
    let id : MessageId := ⟨0, "m"⟩
    let message : Message :=
      { id := id, sender := ⟨"a"⟩, route := .routed "user-b", expectsResponse := true }
    let network : Network :=
      { registering {} neighbours with registry := (({} : Registry).register id .recording).1 }
    let owner : Peer := ⟨"peer-2"⟩
    Apart (weight "user-b") network.peers ∧ network.route "user-b" = some owner ∧
      (registering {} neighbours.reverse).route "user-b" = some owner ∧
      ((Cluster.create 3 2 ⟨0⟩).responsible "user-b").head? = some owner ∧
      (network.submit message).1.delivered = [id] ∧
      .handled ⟨0, .recording⟩ ⟨id, owner, [2]⟩ ∈ (network.submit message).2.2 := by
  intro id message network owner
  have apart : Apart (weight "user-b") network.peers := by
    unfold Apart
    decide +kernel
  obtain ⟨_, _, registered, _, chosen, placed, sending⟩ := routing_agrees network "user-b" apart
  have route : network.route "user-b" = some owner := by
    rw [chosen]
    decide +kernel
  have backwards : (registering {} neighbours.reverse).route "user-b" = some owner := by
    have known : ∀ peer, peer ∈ neighbours.reverse.map Prod.fst → peer ∈ network.peers := by
      decide +kernel
    have named : ∀ peer, peer ∈ network.peers → peer ∈ neighbours.reverse.map Prod.fst := by
      decide +kernel
    rw [registered neighbours.reverse fun peer => ⟨known peer, named peer⟩, route]
  have head : ((Cluster.create 3 2 ⟨0⟩).responsible "user-b").head? = some owner := by
    rw [placed _ _ (by decide), route]
    intro peer
    have same : (Cluster.create 3 2 ⟨0⟩).peers.Perm network.peers := by decide +kernel
    exact same.mem_iff
  obtain ⟨endpoint, found, delivers, _⟩ := (sending message rfl).2 owner route rfl
  have answering : endpoint = { responder := some fun _ => some [2] } :=
    (Option.some.inj found).symm
  subst answering
  refine ⟨apart, route, backwards, head, delivers.recorded, ?_⟩
  exact (delivers.atOnce ⟨0, .recording⟩ ⟨id, owner, [2]⟩).mpr ⟨rfl, rfl, rfl⟩

end Network
end Quorate.Messaging
