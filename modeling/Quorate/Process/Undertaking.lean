import Quorate.Process.Step
import Quorate.Workload

/-!
A put step among all else that goes on at its store, one step at a time. An execution starts a write
and waits for its verdict; the write has a task of its own, which goes on when the execution is
abandoned. A rollback makes a single call and waits for its end. No execution or rollback begins
before the last one has ended.
-/

namespace Quorate.Process

open Store

/-- What the step waits for. -/
inductive Undertaking.Stage where
  | idle
  | executing (write : Nat)
  | removing
deriving DecidableEq, Repr

/-- What an execution or a rollback has come to. -/
inductive Undertaking.Event where
  /-- The execution has started the write, or none because its request is not a valid one. -/
  | executed (write : Option Nat) (result : Except Failure Unit)
  | abandoned (write : Nat)
  | rolledBack (calls : List Call) (result : Except Failure Unit)
deriving Repr

structure Undertaking where
  put : PutStep
  /-- The store and the writes of the executions, which are numbered as they are started. -/
  workload : Workload Nat
  started : Nat := 0
  stage : Undertaking.Stage := .idle
  history : List Undertaking.Event := []
  /-- What the step has told so far, beside what its writes have. -/
  notices : List Notice := []

namespace Undertaking

inductive Move where
  | execute
  /-- The wait of an execution is looked at, and ends if there is a verdict. -/
  | conclude
  /-- Whoever waits for an execution goes away. -/
  | giveUp
  | rollback
  /-- The removal of a rollback is completed. -/
  | finish
  | elsewhere (move : Workload.Move Nat)
deriving DecidableEq, Repr

def of (put : PutStep) (cluster : Cluster) : Undertaking :=
  { put := put
    workload := .start cluster (fun _ => put.request) fun _ => put.budget }

/-- Only writes that were started go on. Nobody has a handle on their tasks to end them by. -/
def permits (started : Nat) : Workload.Move Nat → Bool
  | .advance write => decide (write < started)
  | .lose _ => false
  | _ => true

variable (undertaking : Undertaking)

def ending (event : Event) (notices : List Notice) : Undertaking :=
  { undertaking with
    stage := .idle
    history := undertaking.history ++ [event]
    notices := undertaking.notices ++ notices }

def execute : Undertaking :=
  let executing := { undertaking with put := undertaking.put.executing }
  match undertaking.put.request.check with
  | .error failure => executing.ending (.executed none (.error failure)) []
  | .ok _ =>
      { executing with
        started := undertaking.started + 1
        stage := .executing undertaking.started }

def conclude (write : Nat) : Undertaking :=
  match (undertaking.workload.writes write).write.awaited? with
  | none => undertaking
  | some (accepted, notices) =>
      undertaking.ending (.executed (some write) (undertaking.put.outcome accepted)) notices

/-- The end of a rollback that has made its call. -/
def removed (completion : Completion) : Undertaking :=
  let (removed, notices) := removalOutcome undertaking.put.request completion
  undertaking.ending (.rolledBack [.remove] (.ok ()))
    (notices ++ undertaking.put.rollbackNotices removed)

def setCluster (cluster : Cluster) : Undertaking :=
  { undertaking with workload := { undertaking.workload with cluster := cluster } }

def rollback : Undertaking :=
  let (put, needed) := undertaking.put.rollingBack
  let clearing := { undertaking with put := put }
  if needed then
    match undertaking.workload.cluster.submit .remove with
    | .error failure => clearing.removed (.error failure)
    | .ok cluster => { clearing.setCluster cluster with stage := .removing }
  else clearing.ending (.rolledBack [] (.ok ())) []

def finish : Undertaking :=
  let (completion, cluster) :=
    undertaking.workload.cluster.complete .remove undertaking.put.request
  (undertaking.setCluster cluster).removed completion

def elsewhere (move : Workload.Move Nat) : Undertaking :=
  if permits undertaking.started move then
    { undertaking with workload := undertaking.workload.step move }
  else undertaking

/-- A move that is out of place does nothing. -/
def step (undertaking : Undertaking) (move : Move) : Undertaking :=
  match undertaking.stage, move with
  | .idle, .execute => undertaking.execute
  | .idle, .rollback => undertaking.rollback
  | .executing write, .conclude => undertaking.conclude write
  | .executing write, .giveUp => undertaking.ending (.abandoned write) []
  | .removing, .finish => undertaking.finish
  | _, .elsewhere move => undertaking.elsewhere move
  | _, _ => undertaking

def run (moves : List Move) (undertaking : Undertaking) : Undertaking := moves.foldl step undertaking

end Undertaking
end Quorate.Process
