import Quorate.Hash.Blake3
import Quorate.Peer
import Quorate.Text.Numeral

/-!
Rendezvous placement. Every peer has a weight for every key, and the peers of greatest weight are
responsible for it. Rankings and selections are defined for arbitrary weights; `weight` is the one
in use.
-/

namespace Quorate.Placement

/-- Peers by descending weight; peers of equal weight keep their order. -/
def rankBy (weigh : Peer → UInt64) (peers : List Peer) : List Peer :=
  peers.mergeSort fun left right => decide (weigh right ≤ weigh left)

/-- The given number of peers of greatest weight, or all if there are fewer. -/
def selectBy (weigh : Peer → UInt64) (peers : List Peer) (count : Nat) : List Peer :=
  (rankBy weigh peers).take count

def weight (key : String) (peer : Peer) : UInt64 :=
  Hash.Blake3.hashPrefix (Text.utf8 key ++ Text.utf8 peer.name)

def rank (key : String) (peers : List Peer) : List Peer := rankBy (weight key) peers

def select (key : String) (peers : List Peer) (count : Nat) : List Peer :=
  selectBy (weight key) peers count

end Quorate.Placement
