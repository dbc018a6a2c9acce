import Quorate.Store.Response
import Quorate.Store.Shelf

/-!
One simulated peer of the store: how it behaves, what it holds, and how it answers.
-/

namespace Quorate.Store

/-- How a peer answers puts. `denyTimes n` denies the next `n` and accepts from then on. -/
inductive Behavior where
  | accept
  | deny
  | denySecurity
  | denyTimes (count : Nat)
  | silent
  | status (code : UInt8)
  | offline
deriving DecidableEq, Repr

structure Replica where
  peer : Peer
  behavior : Behavior := .accept
  shelf : Shelf := {}
deriving DecidableEq, Repr

namespace Behavior

/-- The status that answers a put; none for a peer that gives no status. -/
def status? : Behavior → Option Status
  | .accept => some .ok
  | .deny => some .failed
  | .denySecurity => some .failedSecurity
  | .denyTimes 0 => some .ok
  | .denyTimes (_ + 1) => some .failed
  | .silent => none
  | .status code => some (Status.ofCode code)
  | .offline => none

def next : Behavior → Behavior
  | .denyTimes 0 => .accept
  | .denyTimes (count + 1) => .denyTimes count
  | behavior => behavior

end Behavior

namespace Replica

/-- A put is stored exactly when it is answered with `ok`. -/
def put (request : Request) (replica : Replica) : Option Ack × Replica :=
  if replica.behavior = .offline then (none, replica)
  else
    let key := request.versionKey
    match replica.behavior.status? with
    | none => (some (.silent replica.peer), replica)
    | some status =>
        let shelf :=
          if status = .ok then replica.shelf.insert key request.value else replica.shelf
        (some (.withStatus replica.peer key status),
          { replica with behavior := replica.behavior.next, shelf := shelf })

/-- Every peer that is not offline removes, whatever it answers to puts. -/
def remove (key : VersionKey) (replica : Replica) : Option Ack × Replica :=
  if replica.behavior = .offline then (none, replica)
  else
    let status := if replica.shelf.holds key then Status.ok else Status.notFound
    (some (.withStatus replica.peer key status),
      { replica with shelf := replica.shelf.erase key })

@[simp]
theorem put_peer (request : Request) (replica : Replica) :
    (replica.put request).2.peer = replica.peer := by
  unfold put
  split
  · rfl
  · split <;> rfl

@[simp]
theorem remove_peer (key : VersionKey) (replica : Replica) :
    (replica.remove key).2.peer = replica.peer := by
  unfold remove
  split <;> rfl

end Replica
end Quorate.Store
