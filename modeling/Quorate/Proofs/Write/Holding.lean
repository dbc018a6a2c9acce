import Quorate.Proofs.Store.Answers
import Quorate.Proofs.Write.Workload

/-!
What an accepted put leaves behind. Peers answer `ok` exactly when they store, but a quorum only
asks that few enough peers deny. With the behaviours that have a name of their own, a peer that
answers without denying has answered `ok`, so the version is held by most of those that answered.
-/

namespace Quorate

open Store

namespace Store

/-- The behaviour answers with no status that is neither `ok` nor a denial. -/
def Behavior.Plain (behavior : Behavior) : Prop := ∀ code, behavior = .status code → code < 3

instance (behavior : Behavior) : Decidable behavior.Plain :=
  match behavior with
  | .status code =>
      decidable_of_iff (code < 3)
        ⟨fun small _ same => Behavior.status.inj same ▸ small, fun plain => plain code rfl⟩
  | .accept => .isTrue nofun
  | .deny => .isTrue nofun
  | .denySecurity => .isTrue nofun
  | .denyTimes _ => .isTrue nofun
  | .silent => .isTrue nofun
  | .offline => .isTrue nofun

private theorem Status.ofCode_of_lt (code : UInt8) (small : code < 3)
    (kind : (ofCode code).denies = false) : ofCode code = .ok := by
  revert code
  decide +kernel

private theorem Behavior.Plain.status? {behavior : Behavior} (plain : behavior.Plain)
    (present : behavior ≠ .offline) (kind : behavior.fails = false) :
    behavior.status? = some .ok := by
  cases behavior with
  | accept => rfl
  | denyTimes count =>
      cases count with
      | zero => rfl
      | succ count => cases kind
  | status code => exact congrArg some (Status.ofCode_of_lt code (plain code rfl) kind)
  | offline => exact absurd rfl present
  | deny => cases kind
  | denySecurity => cases kind
  | silent => cases kind

namespace Cluster

variable {cluster : Cluster} {request : Request} {response : Response}

private theorem mem_holders_of_put (completed : (cluster.complete .put request).1 = .ok response)
    (plain : ∀ replica, replica ∈ cluster.replicas →
      replica.peer ∈ cluster.responsible request.location → replica.behavior.Plain)
    (ack : Ack) (answers : ack ∈ response.acks)
    (sound : ack.peer ∉ Quorum.failedPeers response.acks) :
    ack.peer ∈ (cluster.complete .put request).2.holders request.versionKey request.value := by
  rw [Quorum.mem_failedPeers_iff _ (peers_of_complete_nodup completed) ack answers] at sound
  obtain ⟨replica, found, online, chosen, rfl⟩ := exists_replica_of_ack completed answers
  have present : replica ∈ cluster.replicas := List.mem_of_find?_eq_some found
  change ¬Quorum.CountsAgainst (replica.putAck request) at sound
  rw [replica.putAck_countsAgainst_iff, Bool.not_eq_true] at sound
  have stores := (plain replica present chosen).status? online sound
  have held : (replica.applied request .put).shelf.get? request.versionKey =
      some request.value := by
    change (replica.put request).2.shelf.get? request.versionKey = some request.value
    rw [replica.put_shelf, if_pos stores, Shelf.get?_insert, if_pos rfl]
  have kept : replica.applied request .put ∈ (cluster.complete .put request).2.replicas := by
    rw [cluster.replicas_complete_ok .put request completed]
    exact List.mem_map.mpr ⟨replica, present, if_pos chosen⟩
  have named : (replica.ack request .put).peer = (replica.applied request .put).peer :=
    (replica.applied_peer request .put).symm
  rw [named]
  exact List.mem_map_of_mem (List.mem_filter.mpr ⟨kept, decide_eq_true held⟩)

def Plain (cluster : Cluster) (location : String) : Prop :=
  ∀ replica, replica ∈ cluster.replicas → replica.peer ∈ cluster.responsible location →
    replica.behavior.Plain

instance (cluster : Cluster) (location : String) : Decidable (cluster.Plain location) :=
  inferInstanceAs (Decidable (∀ replica, replica ∈ cluster.replicas → _ → _))

/-- An accepted put is held by somebody. -/
theorem exists_mem_holders_of_put (completed : (cluster.complete .put request).1 = .ok response)
    (accepted : (Quorum.evaluate (.ok response)).accepted = true)
    (plain : cluster.Plain request.location) :
    ∃ peer, peer ∈ (cluster.complete .put request).2.holders request.versionKey request.value := by
  have more := Quorum.majority_of_accepted response.acks (peers_of_complete_nodup completed)
    accepted _ (mem_holders_of_put completed plain)
  obtain ⟨peer, kept⟩ := List.exists_mem_of_length_pos (by omega :
    0 < ((response.acks.map Ack.peer).filter
      (· ∈ (cluster.complete .put request).2.holders request.versionKey request.value)).length)
  exact ⟨peer, of_decide_eq_true (List.mem_filter.mp kept).2⟩

end Cluster
end Store

namespace Workload

variable {ι : Type} [DecidableEq ι]

private theorem run_only {index : ι} {request : Request} (moves : List (Move ι))
    (workload : Workload ι) (own : (workload.writes index).write.request = request)
    (untouched : Along (PutOnlyBy index request.versionKey) moves workload)
    (absent : workload.cluster.Absent request.versionKey) :
    (workload.run moves).cluster.Only request.versionKey request.value := by
  refine (Along.invariant
    (fun workload => (workload.writes index).write.request = request ∧
      workload.cluster.Only request.versionKey request.value)
    ?_ moves workload untouched ⟨own, ?_⟩).2
  · rintro workload move putOnly ⟨own, only⟩
    refine ⟨(run_request [move] workload index).trans own, step_only ?_ only⟩
    intro asked applies same
    obtain rfl := putOnly asked applies same
    rw [applies.own.2, own]
  · exact fun entry present => .inl (absent entry present)

/-- An accepted put is held by every peer that answered and did not fail it, which are more than
half of those that answered, and at least one. If nobody held the version at some earlier time, and
nobody but the write has put it since, then the store has the content of the write for it. -/
theorem accepted_put_is_held (before : Workload ι) (move : Move ι) (request : Request)
    (response : Response) :
    let decision := Quorum.evaluate (.ok response)
    let answering := response.acks.map Ack.peer
    let after := before.step move
    let holding := after.cluster.holders request.versionKey request.value
    before.due? move = some (.put, request) →
      (before.cluster.complete .put request).1 = .ok response →
      decision.accepted = true →
      (∀ replica, replica ∈ before.cluster.replicas →
        replica.peer ∈ before.cluster.responsible request.location → replica.behavior.Plain) →
      (∀ peer, peer ∈ answering → peer ∉ decision.failed → peer ∈ holding) ∧
        answering.Nodup ∧ decision.answered = answering.length ∧
        answering.length < 2 * (answering.filter (· ∈ holding)).length ∧
        0 < (answering.filter (· ∈ holding)).length ∧
        ∀ (index : ι) (earlier : Workload ι) (moves : List (Move ι)),
          move = .advance index → before = earlier.run moves →
            earlier.cluster.replicaCount request.versionKey = 0 →
              Along (PutOnlyBy index request.versionKey) moves earlier →
                after.cluster.get? request.versionKey = some request.value := by
  intro decision answering after holding due completed accepted plain
  have applies : before.Applies move .put request := ⟨due, response, completed⟩
  have failed : decision.failed = Quorum.failedPeers response.acks :=
    congrArg Quorum.Decision.failed (Quorum.evaluate_eq (.ok response))
  have answered : decision.answered = response.acks.length :=
    congrArg Quorum.Decision.answered (Quorum.evaluate_eq (.ok response))
  have held : ∀ ack, ack ∈ response.acks → ack.peer ∉ Quorum.failedPeers response.acks →
      ack.peer ∈ holding := by
    intro ack present sound
    change ack.peer ∈ after.cluster.holders request.versionKey request.value
    rw [applies.cluster]
    exact Cluster.mem_holders_of_put completed plain ack present sound
  have distinct := Cluster.peers_of_complete_nodup completed
  have majority : answering.length < 2 * (answering.filter (· ∈ holding)).length := by
    have more := Quorum.majority_of_accepted response.acks distinct accepted holding held
    rw [← List.length_map Ack.peer] at more
    exact more
  refine ⟨?_, distinct, ?_, majority, by omega, ?_⟩
  · intro peer present sound
    obtain ⟨ack, among, rfl⟩ := List.mem_map.mp present
    rw [failed] at sound
    exact held ack among sound
  · rw [answered, List.length_map]
  · rintro index earlier moves rfl rfl none untouched
    obtain ⟨peer, kept⟩ := List.exists_mem_of_length_pos (by omega :
      0 < (answering.filter (· ∈ holding)).length)
    have holder : peer ∈ holding := of_decide_eq_true (List.mem_filter.mp kept).2
    have own : (earlier.writes index).write.request = request :=
      (run_request moves earlier index).symm.trans applies.own.2.symm
    have only := run_only moves earlier own untouched (Cluster.absent_iff_replicaCount.mpr none)
    have onlyAfter : after.cluster.Only request.versionKey request.value := by
      apply step_only _ only
      intro asked again _same
      exact congrArg Request.value (again.own.2.trans applies.own.2.symm)
    exact onlyAfter.get?_of_holder holder

/-- The first put has failed outright and was taken back; the peer accepts the second one. -/
def secondAttempt : List (Move Unit) :=
  [.failNextPuts 1, .advance (), .advance (), .advance (), .advance (),
    .behave ⟨"peer-1"⟩ (.denyTimes 0), .advance ()]

theorem accepted_put_is_held_secondAttempt :
    let request : Request := { location := "loc", content := "content", value := [1] }
    let earlier : Workload Unit :=
      start (Cluster.create 1 1 ⟨0⟩) (fun _ => request) fun _ => 3
    let before := earlier.run secondAttempt
    let response : Response := ⟨[.withStatus ⟨"peer-1"⟩ request.versionKey .ok]⟩
    let after := before.step (.advance ())
    before.due? (.advance ()) = some (.put, request) ∧
      (before.cluster.complete .put request).1 = .ok response ∧
      (Quorum.evaluate (.ok response)).accepted = true ∧
      (∀ replica, replica ∈ before.cluster.replicas →
        replica.peer ∈ before.cluster.responsible request.location → replica.behavior.Plain) ∧
      earlier.cluster.replicaCount request.versionKey = 0 ∧
      Along (PutOnlyBy () request.versionKey) secondAttempt earlier ∧
      ⟨"peer-1"⟩ ∈ after.cluster.holders request.versionKey [1] ∧
      after.cluster.get? request.versionKey = some [1] := by
  intro request earlier before response after
  have due : before.due? (.advance ()) = some (.put, request) := by decide +kernel
  have completed : (before.cluster.complete .put request).1 = .ok response := by decide +kernel
  have accepted : (Quorum.evaluate (.ok response)).accepted = true := by decide +kernel
  have plain : ∀ replica, replica ∈ before.cluster.replicas →
      replica.peer ∈ before.cluster.responsible request.location → replica.behavior.Plain := by
    have behaviors : ∀ replica, replica ∈ before.cluster.replicas →
        replica.behavior = .denyTimes 0 := by
      decide +kernel
    intro replica present _chosen code same
    rw [behaviors replica present] at same
    cases same
  have untouched : Along (PutOnlyBy () request.versionKey) secondAttempt earlier := by
    refine ⟨?_, ?_, ?_, ?_, ?_, ?_, ?_, trivial⟩
    all_goals
      intro asked applies _same
      first
        | rfl
        | cases applies.1
  have empty : earlier.cluster.replicaCount request.versionKey = 0 := by decide +kernel
  obtain ⟨held, _, _, _, _, got⟩ :=
    accepted_put_is_held before (.advance ()) request response due completed accepted plain
  exact ⟨due, completed, accepted, plain, empty, untouched,
    held ⟨"peer-1"⟩ (by decide) (by decide),
    got () earlier secondAttempt rfl rfl empty untouched⟩

end Workload
end Quorate
