import Quorate.Store.Cluster
import Quorate.Write.Basic

/-!
Any number of writes on one store, one step at a time and in any order. A write takes two steps for
a call: it submits the call, and later hears how the call ended. Between these steps others make
calls of their own, peers change their behaviour, the store is told to refuse or to fail, calls are
abandoned, and the task that drives a write may go away.
-/

namespace Quorate

open Store

structure Workload.Participant where
  write : Write
  /-- Whether the store has taken a call of the write and not completed it yet. -/
  underway : Bool := false
  /-- What the write has told so far. -/
  notices : List Notice := []
deriving DecidableEq, Repr

structure Workload (ι : Type) where
  cluster : Cluster
  writes : ι → Workload.Participant
  /-- Calls of others that the store has taken and not completed yet. -/
  calls : List (Call × Request) := []

namespace Workload

inductive Move (ι : Type) where
  | advance (index : ι)
  | lose (index : ι)
  | submit (call : Call) (request : Request)
  | complete (number : Nat)
  | abandon (number : Nat)
  | behave (peer : Peer) (behavior : Behavior)
  | rejectSubmissions (on : Bool)
  | failNextPuts (count : Nat)
  | failRemovals (on : Bool)
deriving DecidableEq, Repr

namespace Participant

def of (request : Request) (budget : UInt32) : Participant :=
  { write := { request := request, budget := budget } }

def receive (participant : Participant) (completion : Completion) : Participant :=
  let (write, notices) := participant.write.receive completion
  { write := write, notices := participant.notices ++ notices }

/-- Completes the call that is under way, or else submits the next one. A call refused on the spot
has failed. -/
def advance (participant : Participant) (cluster : Cluster) : Participant × Cluster :=
  match participant.write.call? with
  | none => (participant, cluster)
  | some call =>
      if participant.underway then
        let (completion, cluster) := cluster.complete call participant.write.request
        (participant.receive completion, cluster)
      else
        let participant :=
          { participant with
            notices := participant.notices ++ [Notice.counted (Write.counterOf call)] }
        match cluster.submit call with
        | .error failure => (participant.receive (.error failure), cluster)
        | .ok cluster => ({ participant with underway := true }, cluster)

def lose (participant : Participant) : Participant :=
  { participant with write := participant.write.lose, underway := false }

end Participant

variable {ι : Type} [DecidableEq ι]

def start (cluster : Cluster) (requests : ι → Request) (budgets : ι → UInt32) : Workload ι :=
  { cluster := cluster, writes := fun index => .of (requests index) (budgets index) }

def setWrite (workload : Workload ι) (index : ι) (participant : Participant) : Workload ι :=
  { workload with
    writes := fun other => if other = index then participant else workload.writes other }

def advance (workload : Workload ι) (index : ι) : Workload ι :=
  let (participant, cluster) := (workload.writes index).advance workload.cluster
  { workload.setWrite index participant with cluster := cluster }

def submit (workload : Workload ι) (call : Call) (request : Request) : Workload ι :=
  match workload.cluster.submit call with
  | .error _ => workload
  | .ok cluster =>
      { workload with cluster := cluster, calls := workload.calls ++ [(call, request)] }

def complete (workload : Workload ι) (number : Nat) : Workload ι :=
  match workload.calls[number]? with
  | none => workload
  | some (call, request) =>
      { workload with
        cluster := (workload.cluster.complete call request).2
        calls := workload.calls.eraseIdx number }

def step (workload : Workload ι) : Move ι → Workload ι
  | .advance index => workload.advance index
  | .lose index => workload.setWrite index (workload.writes index).lose
  | .submit call request => workload.submit call request
  | .complete number => workload.complete number
  | .abandon number => { workload with calls := workload.calls.eraseIdx number }
  | .behave peer behavior =>
      { workload with cluster := workload.cluster.setBehavior peer behavior }
  | .rejectSubmissions on => { workload with cluster := { workload.cluster with rejecting := on } }
  | .failNextPuts count =>
      { workload with cluster := { workload.cluster with failingPuts := count } }
  | .failRemovals on =>
      { workload with cluster := { workload.cluster with failingRemovals := on } }

def run (moves : List (Move ι)) (workload : Workload ι) : Workload ι := moves.foldl step workload

end Workload
end Quorate
