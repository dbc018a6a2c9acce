import Quorate.Placement
import Quorate.Store.Replica

/-!
The simulated store. A call has two moments: its submission, which may be refused, and its
completion, at which the responsible peers apply it and answer. Between the two anything may
happen to the store.
-/

namespace Quorate.Store

structure Cluster where
  replicas : List Replica
  distinct : (replicas.map Replica.peer).Nodup
  /-- How many peers are responsible for a location. -/
  factor : Nat
  latency : Duration := ⟨0⟩
  rejecting : Bool := false
  /-- How many more puts fail at their completion. -/
  failingPuts : Nat := 0
  failingRemovals : Bool := false
  /-- Puts accepted for submission. -/
  puts : UInt32 := 0
  /-- Removals accepted for submission. -/
  removals : UInt32 := 0
deriving DecidableEq, Repr

namespace Cluster

def peerNames (count : Nat) : List Peer :=
  (List.range count).map fun index => ⟨"peer-" ++ Text.decimalText (index + 1)⟩

theorem peerNames_nodup (count : Nat) : (peerNames count).Nodup := by
  unfold peerNames List.Nodup
  rw [List.pairwise_map]
  refine List.Pairwise.imp ?_ List.nodup_range
  intro left right different same
  have texts := congrArg (fun peer : Peer => peer.name.toList) same
  simp only [String.toList_append, List.append_cancel_left_eq, String.toList_inj] at texts
  exact different (Nat.succ.inj (Text.decimalText_injective texts))

def create (count factor : Nat) (latency : Duration) : Cluster :=
  { replicas := (peerNames count).map fun peer => { peer := peer }
    distinct := by
      rw [List.map_map]
      exact (List.map_id (peerNames count)).symm ▸ peerNames_nodup count
    factor := factor
    latency := latency }

def peers (cluster : Cluster) : List Peer := cluster.replicas.map Replica.peer

/-- The peers that receive the puts for a location, of greatest weight first. -/
def responsible (cluster : Cluster) (location : String) : List Peer :=
  Placement.select location cluster.peers cluster.factor

def changeFirst (found : Replica → Bool) (change : Replica → Replica) :
    List Replica → List Replica
  | [] => []
  | replica :: rest =>
      if found replica then change replica :: rest else replica :: changeFirst found change rest

theorem map_changeFirst {β : Type} (view : Replica → β) (found : Replica → Bool)
    (change : Replica → Replica) (keeps : ∀ replica, view (change replica) = view replica)
    (replicas : List Replica) :
    (changeFirst found change replicas).map view = replicas.map view := by
  induction replicas with
  | nil => rfl
  | cons replica rest ih =>
      unfold changeFirst
      split
      · simp only [List.map_cons, keeps]
      · simp only [List.map_cons, ih]

def setBehavior (cluster : Cluster) (peer : Peer) (behavior : Behavior) : Cluster :=
  { cluster with
    replicas := changeFirst (fun replica => replica.peer = peer)
      (fun replica => { replica with behavior := behavior }) cluster.replicas
    distinct := by
      rw [map_changeFirst]
      · exact cluster.distinct
      · intro replica
        rfl }

def replicaCount (cluster : Cluster) (key : VersionKey) : Nat :=
  cluster.replicas.countP fun replica => replica.shelf.holds key

/-- The content that the first holder of a version has for it. -/
def get? (cluster : Cluster) (key : VersionKey) : Option (List UInt8) :=
  cluster.replicas.findSome? fun replica => replica.shelf.get? key

/-- Every responsible replica applies a change, which leaves it its name, and answers; the others
stay as they are. -/
def apply (cluster : Cluster) (location : String) (change : Replica → Option Ack × Replica)
    (keeps : ∀ replica, (change replica).2.peer = replica.peer) : Response × Cluster :=
  let chosen := cluster.responsible location
  let results := cluster.replicas.map fun replica =>
    if replica.peer ∈ chosen then change replica else (none, replica)
  (⟨results.filterMap Prod.fst⟩,
    { cluster with
      replicas := results.map Prod.snd
      distinct := by
        have same : (results.map Prod.snd).map Replica.peer = cluster.peers := by
          simp only [results, List.map_map, peers]
          apply List.map_congr_left
          intro replica _present
          simp only [Function.comp_apply]
          split
          · exact keeps replica
          · rfl
        rw [same]
        exact cluster.distinct })

/-- Submits a call. A refusal changes nothing. -/
def submit (cluster : Cluster) (call : Call) : Except Failure Cluster :=
  if cluster.rejecting then .error (.submissionRejected "simulated DHT refuses submissions")
  else
    match call with
    | .put => .ok { cluster with puts := cluster.puts + 1 }
    | .remove => .ok { cluster with removals := cluster.removals + 1 }

def completePut (cluster : Cluster) (request : Request) : Completion × Cluster :=
  match cluster.failingPuts with
  | left + 1 =>
      (.error (.futureFailed ("simulated put failure for " ++ request.versionKey.text)),
        { cluster with failingPuts := left })
  | 0 =>
      let (response, cluster) := cluster.apply request.location (Replica.put request)
        (Replica.put_peer request)
      (.ok response, cluster)

def completeRemoval (cluster : Cluster) (request : Request) : Completion × Cluster :=
  if cluster.failingRemovals then
    (.error (.futureFailed ("simulated remove failure for " ++ request.versionKey.text)), cluster)
  else
    let (response, cluster) := cluster.apply request.location (Replica.remove request.versionKey)
      (Replica.remove_peer request.versionKey)
    (.ok response, cluster)

def complete (cluster : Cluster) (call : Call) (request : Request) : Completion × Cluster :=
  match call with
  | .put => cluster.completePut request
  | .remove => cluster.completeRemoval request

end Cluster
end Quorate.Store
