import Quorate.Proofs.Store.Answers
import Quorate.Proofs.Write.Frame
import Quorate.Proofs.Write.Placement

/-!
The answers to the calls on a store, at any time and whoever makes them. Every call for a location
is answered by the same peers in the same order, until one of them goes offline or comes back; and a
version that has been removed stays away from them until it is put again.
-/

namespace Quorate.Workload

open Store

variable {ι : Type} [DecidableEq ι]

/-- No put of the version is applied by the move. -/
def Unput (key : VersionKey) (workload : Workload ι) (move : Move ι) : Prop :=
  ∀ request, workload.Applies move .put request → request.versionKey ≠ key

private theorem Unput.without {workload : Workload ι} {move : Move ι} {key : VersionKey}
    (unput : Unput key workload move) {peers : List Peer}
    (without : workload.cluster.Without peers key) :
    (workload.step move).cluster.Without peers key := by
  apply workload.step_everywhere move _ _ without
  · intro peer shelf erased lacks among
    rw [Shelf.get?_erase, lacks among]
    exact ite_self none
  · intro request applies peer shelf _chosen lacks among
    rw [Shelf.get?_insert, if_neg (unput request applies).symm]
    exact lacks among

private theorem removal_finds_nothing {after : Workload ι} {request : Request} {peers : List Peer}
    {moves : List (Move ι)} (without : after.cluster.Without peers request.versionKey)
    (unput : Along (Unput request.versionKey) moves after)
    (same : (after.run moves).cluster.respondents request.location = peers)
    (working : (after.run moves).cluster.failingRemovals = false) :
    (after.run moves).cluster.complete .remove request =
      (.ok ⟨peers.map (Ack.withStatus · request.versionKey .notFound)⟩,
        (after.run moves).cluster) := by
  have still : (after.run moves).cluster.Without peers request.versionKey :=
    Along.invariant (fun workload => workload.cluster.Without peers request.versionKey)
      (fun _ _ spared lacks => spared.without lacks) moves after unput without
  rw [← same] at still ⊢
  exact still.complete_remove working

/-- A call that does not fail is answered by the peers that are responsible for its location and not
offline, in the order of all peers and by each of them once. Silent peers give no status for a put;
the others give the one that their behaviour says. For a removal every peer says whether it has held
the version, and none of them holds it afterwards. Until a put of it is applied again, a further
removal finds the version nowhere and changes nothing, however the peers behave by then, as long as
the same ones are offline. -/
theorem completion_answers (before : Workload ι) (move : Move ι) (call : Call) (request : Request)
    (response : Response) :
    let cluster := before.cluster
    let after := before.step move
    let key := request.versionKey
    let named := response.acks.map Ack.peer
    let foundNowhere : Response := ⟨named.map (Ack.withStatus · key .notFound)⟩
    before.due? move = some (call, request) →
      (cluster.complete call request).1 = .ok response →
      named = cluster.respondents request.location ∧
        named.Sublist cluster.peers ∧ named.Nodup ∧
        (∀ peer, peer ∈ named ↔ peer ∈ cluster.responsible request.location ∧
          cluster.behavior? peer ≠ some .offline) ∧
        match call with
        | .put =>
            ∀ ack, ack ∈ response.acks →
              (ack.statuses = none ↔ cluster.behavior? ack.peer = some .silent) ∧
              (ack.statuses = none ∨ ∃ status,
                (cluster.behavior? ack.peer).bind Behavior.status? = some status ∧
                  ack.statuses = some [(key, status)])
        | .remove =>
            (∀ ack, ack ∈ response.acks →
              ack.statuses =
                some [(key, if (cluster.content? ack.peer key).isSome then .ok else .notFound)] ∧
              after.cluster.content? ack.peer key = none) ∧
            after.cluster.complete .remove request = (.ok foundNowhere, after.cluster) ∧
            ∀ moves, Along (Unput key) moves after →
              let later := (after.run moves).cluster
              (∀ peer, later.behavior? peer = some .offline ↔
                cluster.behavior? peer = some .offline) →
              later.failingRemovals = false →
                later.complete .remove request = (.ok foundNowhere, later) := by
  intro cluster after key named foundNowhere due completed
  have responding : named = cluster.respondents request.location :=
    Cluster.peers_of_complete completed
  refine ⟨responding, ?_, ?_, ?_, ?_⟩
  · rw [responding]
    exact List.filter_sublist
  · rw [responding]
    exact cluster.respondents_nodup request.location
  · rw [responding]
    exact cluster.mem_respondents_iff request.location
  · cases call with
    | put => exact fun ack present => Cluster.statuses_of_put completed present
    | remove =>
        have reached : after.cluster = (cluster.complete .remove request).2 :=
          before.cluster_of_due move due
        have without : after.cluster.Without named key := by
          rw [reached, responding]
          exact .of_removed completed
        have again : ∀ moves, Along (Unput key) moves after →
            let later := (after.run moves).cluster
            (∀ peer, later.behavior? peer = some .offline ↔
              cluster.behavior? peer = some .offline) →
            later.failingRemovals = false →
              later.complete .remove request = (.ok foundNowhere, later) := by
          intro moves unput later offline working
          have layout := run_layout (move :: moves) before
          have same : later.respondents request.location = named :=
            (Cluster.respondents_congr request.location layout.1 layout.2 offline).trans
              responding.symm
          exact removal_finds_nothing without unput same working
        refine ⟨?_, ?_, again⟩
        · intro ack present
          exact ⟨Cluster.statuses_of_removal completed present,
            without.content? (List.mem_map_of_mem present)⟩
        · have behaviors : after.cluster.profile = cluster.profile := by
            rw [reached]
            exact cluster.profile_completeRemoval request
          have working : after.cluster.failingRemovals = false := by
            rw [reached, Cluster.failingRemovals_complete]
            exact Cluster.working_of_removed completed
          refine again [] trivial ?_ working
          intro peer
          change after.cluster.behavior? peer = some .offline ↔ _
          rw [cluster.behavior?_congr behaviors]

/-- All three peers are responsible. The first one is silent and holds nothing, the second one is
offline and holds the version, and so does the third one. -/
def mixedTrio : Cluster :=
  { replicas :=
      [{ peer := ⟨"peer-1"⟩, behavior := .silent },
        { peer := ⟨"peer-2"⟩, behavior := .offline,
          shelf := ⟨[(⟨"loc", "content", 0⟩, [2])]⟩ },
        { peer := ⟨"peer-3"⟩, shelf := ⟨[(⟨"loc", "content", 0⟩, [3])]⟩ }]
    distinct := by decide
    factor := 5 }

theorem completion_answers_mixedTrio :
    let request : Request := { location := "loc", content := "content" }
    let key := request.versionKey
    let before : Workload Unit :=
      (start mixedTrio (fun _ => request) fun _ => 0).run [.submit .remove request]
    let response : Response :=
      ⟨[.withStatus ⟨"peer-1"⟩ key .notFound, .withStatus ⟨"peer-3"⟩ key .ok]⟩
    let foundNowhere : Response :=
      ⟨[.withStatus ⟨"peer-1"⟩ key .notFound, .withStatus ⟨"peer-3"⟩ key .notFound]⟩
    let after := before.step (.complete 0)
    let moves : List (Move Unit) :=
      [.failNextPuts 1, .submit .put request, .complete 0]
    let later := (after.run moves).cluster
    before.due? (.complete 0) = some (.remove, request) ∧
      (before.cluster.complete .remove request).1 = .ok response ∧
      Along (Unput key) moves after ∧
      after.cluster.content? ⟨"peer-3"⟩ key = none ∧
      later.complete .remove request = (.ok foundNowhere, later) := by
  intro request key before response foundNowhere after moves later
  have due : before.due? (.complete 0) = some (.remove, request) := rfl
  have completed : (before.cluster.complete .remove request).1 = .ok response := by
    obtain ⟨⟨acks⟩, completed⟩ := before.cluster.exists_response_remove request rfl
    have given : acks = response.acks := by
      refine (Cluster.acks_of_complete completed).trans ?_
      rw [List.filter_congr fun replica present =>
        Cluster.answers_of_factor request.location (by decide) present]
      rfl
    rw [completed, given]
  have unput : Along (Unput key) moves after := by
    refine ⟨?_, ?_, ?_, trivial⟩
    · intro asked applies
      cases applies.1
    · intro asked applies
      cases applies.1
    · rintro asked ⟨due, stored, completed⟩
      obtain rfl : request = asked := congrArg Prod.snd (Option.some.inj due)
      cases completed
  obtain ⟨_, _, _, _, answers, _, again⟩ :=
    completion_answers before (.complete 0) .remove request response due completed
  refine ⟨due, completed, unput, ?_, ?_⟩
  · exact (answers (.withStatus ⟨"peer-3"⟩ key .ok) (by decide)).2
  · have behaviors : later.profile = before.cluster.profile :=
      before.cluster.profile_completeRemoval request
    refine again moves unput ?_ rfl
    intro peer
    rw [before.cluster.behavior?_congr behaviors]

end Quorate.Workload
