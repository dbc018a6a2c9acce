import Quorate.Journal

/-!
The quorum rule: a put is accepted when fewer than half of the peers that answered count against
it. A peer counts against a put when it gave no statuses back or denied one.
-/

namespace Quorate.Quorum

open Store

structure Decision where
  /-- The peers that count against the put, in the order of their answers. -/
  failed : List Peer
  answered : Nat
  accepted : Bool
deriving DecidableEq, Repr

/-- A tie is no quorum. -/
def holds (failed answered : Nat) : Bool := decide (failed * 2 < answered)

/-- The same rule on words of 64 bits, where doubling may wrap. -/
def holdsInWords (failed answered : UInt64) : Bool := decide (failed * 2 < answered)

def denied (ack : Ack) : Bool :=
  match ack.statuses with
  | none => false
  | some statuses => statuses.any fun entry => entry.2.denies

/-- The failed peers after one more answer. A peer that denies is listed once; a silent answer is
listed for every time it is given. -/
def failedWith (failed : List Peer) (ack : Ack) : List Peer :=
  if ack.statuses.isNone then failed ++ [ack.peer]
  else if denied ack && !failed.contains ack.peer then failed ++ [ack.peer]
  else failed

def failedPeers (acks : List Ack) : List Peer := acks.foldl failedWith []

/-- The decision on a completed put. A failure and an empty response accept nothing. -/
def evaluate : Completion → Decision
  | .error _ => ⟨[], 0, false⟩
  | .ok response =>
      if response.acks.isEmpty then ⟨[], 0, false⟩
      else
        let failed := failedPeers response.acks
        ⟨failed, response.acks.length, holds failed.length response.acks.length⟩

/-- The failed peers after one more status of a peer, which is listed once for all its denials. -/
def failedWithStatus (peer : Peer) (failed : List Peer) (entry : VersionKey × Status) :
    List Peer :=
  if entry.2.denies && !failed.contains peer then failed ++ [peer] else failed

/-- The failed peers after one more answer, whose statuses are gone through one by one. -/
def failedWithStatuses (failed : List Peer) (ack : Ack) : List Peer :=
  match ack.statuses with
  | none => failed ++ [ack.peer]
  | some statuses => statuses.foldl (failedWithStatus ack.peer) failed

/-- The decision made by two loops, over the answers and over the statuses of each, with the sizes
of the lists as words of 64 bits. -/
def evaluateInWords : Completion → Decision
  | .error _ => ⟨[], 0, false⟩
  | .ok response =>
      if response.acks.isEmpty then ⟨[], 0, false⟩
      else
        let failed := response.acks.foldl failedWithStatuses []
        let answered := UInt64.ofNat response.acks.length
        ⟨failed, answered.toNat, holdsInWords (UInt64.ofNat failed.length) answered⟩

def entryRemarks (peer : Peer) (entry : VersionKey × Status) : List Journal.Event :=
  if entry.2 = .ok then []
  else if entry.2.denies then [.putDenied peer entry.1 entry.2]
  else [.statusUnexpected peer entry.2]

def ackRemarks (ack : Ack) : List Journal.Event :=
  match ack.statuses with
  | none => [.statusMissing ack.peer]
  | some statuses => statuses.flatMap (entryRemarks ack.peer)

def remarks : Completion → List Journal.Event
  | .error failure => [.putUnsuccessful failure]
  | .ok response =>
      if response.acks.isEmpty then [.responseEmpty]
      else
        let decision := evaluate (.ok response)
        response.acks.flatMap ackRemarks
          ++ if decision.accepted then []
            else [.contactsFailed decision.failed.length decision.answered]

end Quorate.Quorum
