import Quorate.Process.Step
import Quorate.Write.Manager

/-!
A put step whose executions and rollbacks are run to their ends, one after the other. What the store
is does not matter, nor who else changes it between the calls of the step. The calls that the step
makes are recorded, for each execution and each rollback by itself.
-/

namespace Quorate

open Store

variable {σ τ : Type}

/-- A store, and the calls that it has been given, whether it took them or not. -/
structure Write.Recorded (σ : Type) where
  store : σ
  calls : List (Call × Request) := []

def Write.recording (service : Write.Service σ) : Write.Service (Write.Recorded σ) :=
  fun call request recorded =>
    let (completion, store) := service call request recorded.store
    (completion, { store := store, calls := recorded.calls ++ [(call, request)] })

/-- Removes a version and tells whether that worked, once the call has come to its end. -/
def Manager.remove (service : Write.Service σ) (request : Request) (site : Write.Site σ) :
    Option Bool × Write.Site σ :=
  let (completion, store) := service .remove request site.store
  (completion.map fun completion => (Process.removalOutcome request completion).1,
    { site with store := store })

namespace Process

namespace PutStep

variable (step : PutStep)

def manager : Manager := { budget := step.budget, metered := step.metered }

/-- The step executes with the given way to put. There is no result if the put does not end. -/
def execute (put : Request → τ → Except Failure (Option Bool) × τ) (site : τ) :
    Option (Except Failure Unit) × PutStep × τ :=
  let marked := step.executing
  let (verdict, site) := put marked.request site
  let result := match verdict with
    | .error failure => some (.error failure)
    | .ok accepted => accepted.map marked.outcome
  (result, marked, site)

/-- The step rolls back with the given way to remove, and reports something unless the removal does
not end. -/
def rollback (remove : Request → τ → Option Bool × τ) (site : τ) :
    Option (List Notice) × PutStep × τ :=
  let (cleared, needed) := step.rollingBack
  if needed then
    let (removed, site) := remove cleared.request site
    (removed.map cleared.rollbackNotices, cleared, site)
  else (some [], cleared, site)

end PutStep

inductive Session.Action where
  | execute
  | rollback
deriving DecidableEq, Repr

/-- What an execution or a rollback has done: its calls, and its result if it has come to one. -/
structure Session.Dealing where
  action : Session.Action
  calls : List (Call × Request)
  result : Option (Except Failure Unit)
deriving Repr

structure Session (σ : Type) where
  put : PutStep
  site : Write.Site σ
  history : List Session.Dealing := []

namespace Session

variable (service : Write.Service σ) (age : σ → σ → Duration) (session : Session σ)

/-- The site of the session with a record that begins anew. -/
def unrecorded : Write.Site (Write.Recorded σ) :=
  { store := { store := session.site.store }, board := session.site.board }

/-- The session after an execution or a rollback that leaves the step and its site like this. -/
def ending (action : Action) (result : Option (Except Failure Unit)) (put : PutStep)
    (site : Write.Site (Write.Recorded σ)) : Session σ :=
  { put := put
    site := { store := site.store.store, board := site.board }
    history := session.history ++ [⟨action, site.store.calls, result⟩] }

/-- The way to put of an execution. -/
def putting (request : Request) (site : Write.Site (Write.Recorded σ)) :
    Except Failure (Option Bool) × Write.Site (Write.Recorded σ) :=
  session.put.manager.put (Write.recording service)
    (fun before after => age before.store after.store) request site

def execute : Session σ :=
  let (result, put, site) :=
    session.put.execute (session.putting service age) session.unrecorded
  session.ending .execute result put site

/-- A rollback never fails. -/
def rollback : Session σ :=
  let (notices, put, site) :=
    session.put.rollback (Manager.remove (Write.recording service)) session.unrecorded
  session.ending .rollback (notices.map fun _ => .ok ()) put site

def perform : Action → Session σ
  | .execute => session.execute service age
  | .rollback => session.rollback service

def run (actions : List Action) : Session σ := actions.foldl (perform service age) session

end Session
end Process
end Quorate
