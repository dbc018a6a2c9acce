import Quorate.Store.Cluster
import Quorate.Write.Run

/-!
A write that nobody else disturbs: every call completes before anything else happens to the store.
-/

namespace Quorate

open Store

namespace Store.Cluster

/-- Carries one call from its submission to its end. A call refused on the spot has failed. -/
def serve : Write.Service Cluster := fun call request cluster =>
  match cluster.submit call with
  | .error failure => (some (.error failure), cluster)
  | .ok cluster =>
      let (completion, cluster) := cluster.complete call request
      (some completion, cluster)

def put (cluster : Cluster) (request : Request) (budget : UInt32) :
    Except Failure (Bool × Cluster) :=
  match request.check with
  | .error failure => .error failure
  | .ok _ =>
      let write : Write := { request := request, budget := budget }
      let (write, cluster) := write.drive serve write.callsLeft cluster
      .ok (write.verdict?.getD false, cluster)

end Store.Cluster
end Quorate
