import Quorate.Failure
import Quorate.Peer
import Quorate.Store.Status
import Quorate.Store.Version

/-!
What a store call brings back: one acknowledgement for every peer that answered.
-/

namespace Quorate.Store

/-- Statuses by version key, in ascending order of the keys. -/
abbrev Statuses := List (VersionKey × Status)

def Statuses.insert (key : VersionKey) (status : Status) : Statuses → Statuses
  | [] => [(key, status)]
  | entry :: rest =>
      if entry.1 = key then (key, status) :: rest
      else if key.before entry.1 then (key, status) :: entry :: rest
      else entry :: insert key status rest

/-- What one peer answered; a silent peer gives no statuses back. -/
structure Ack where
  peer : Peer
  statuses : Option Statuses
deriving DecidableEq, Repr

def Ack.silent (peer : Peer) : Ack := ⟨peer, none⟩

def Ack.withStatus (peer : Peer) (key : VersionKey) (status : Status) : Ack :=
  ⟨peer, some [(key, status)]⟩

structure Response where
  acks : List Ack := []
deriving DecidableEq, Repr

/-- How a store call ends. A call refused on the spot ends with a failure as well. -/
abbrev Completion := Except Failure Response

inductive Call where
  | put
  | remove
deriving DecidableEq, Repr

def Call.name : Call → String
  | .put => "put"
  | .remove => "remove"

end Quorate.Store
