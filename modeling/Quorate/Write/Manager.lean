import Quorate.Write.Run

/-!
The two ways to put something and wait for the verdict. A coordinator starts a write for any
request; a manager is the entry from outside and first judges the keys of the request. What the
store is does not matter to either, nor who else changes it between the calls of the write.
-/

namespace Quorate

open Store

/-- What a write finds and leaves behind: a store, and the counters of metered writes. -/
structure Write.Site (σ : Type) where
  store : σ
  board : Metrics.Board := {}

structure Coordinator where
  budget : UInt32
  metered : Bool := true
deriving DecidableEq, Repr

structure Manager where
  budget : UInt32
  metered : Bool := true
deriving DecidableEq, Repr

variable {σ : Type}

namespace Coordinator

def start (coordinator : Coordinator) (request : Request) : Write :=
  { request := request, budget := coordinator.budget }

/-- A write from its submission to the end of the wait for its verdict; `age` tells how long it took
from the store before and after it. There is no end if the wait goes on for ever. -/
def put (coordinator : Coordinator) (service : Write.Service σ) (age : σ → σ → Duration)
    (request : Request) (site : Write.Site σ) : Option Bool × Write.Site σ :=
  let write := coordinator.start request
  let ((write, notices), store) := write.run service write.callsLeft site.store
  let board :=
    if coordinator.metered then Notice.recordAll (age site.store store) notices site.board
    else site.board
  (write.awaited?.map Prod.fst, { store := store, board := board })

end Coordinator

namespace Manager

def coordinator (manager : Manager) : Coordinator :=
  { budget := manager.budget, metered := manager.metered }

/-- Starts a write without waiting for its verdict. -/
def submit (manager : Manager) (request : Request) : Except Failure Write :=
  match request.check with
  | .error failure => .error failure
  | .ok _ => .ok (manager.coordinator.start request)

def put (manager : Manager) (service : Write.Service σ) (age : σ → σ → Duration)
    (request : Request) (site : Write.Site σ) : Except Failure (Option Bool) × Write.Site σ :=
  match request.check with
  | .error failure => (.error failure, site)
  | .ok _ =>
      let (verdict, site) := manager.coordinator.put service age request site
      (.ok verdict, site)

end Manager
end Quorate
