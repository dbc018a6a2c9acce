import Quorate.Proofs.Write.Manager
import Quorate.Scenario.Run

/-!
The steps of a scenario that put. A put is a submission followed by the wait for the verdict, but
for the name of the write, which nobody learns; and a checked submission is an unchecked one once
its keys are fit.
-/

namespace Quorate.Scenario.State

open Store Simulation

variable (state : State)

variable (name : String) (spec : PutSpec)

end Quorate.Scenario.State
