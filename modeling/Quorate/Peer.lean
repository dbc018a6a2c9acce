/-!
Peers, known by name. Names compare by code points, as the names' UTF-8 bytes do.
-/

namespace Quorate

structure Peer where
  name : String
deriving DecidableEq, Repr

def Peer.sort (peers : List Peer) : List Peer :=
  peers.mergeSort fun left right => decide (left.name ≤ right.name)

end Quorate
