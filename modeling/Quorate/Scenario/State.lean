import Quorate.Scenario.Step
import Quorate.Simulation.Schedule

/-!
The state of a scenario: a simulated world and the names that its steps have given to things in it.
-/

namespace Quorate.Scenario

open Store Messaging Simulation

/-- A named gate: its number in the world, and which of its handles the scenario still has. -/
structure GateName where
  number : Nat
  slots : List Bool
deriving DecidableEq, Repr

structure State where
  setup : Setup
  world : World
  serial : Nat := 0
  messages : List (String × Message) := []
  writes : List (String × Nat) := []
  sends : List (String × Nat) := []
  waiters : List (String × Nat) := []
  steps : List (String × Process.Step) := []
  /-- Registrations by the name of their gate, with the registry that they are in. -/
  registrations : List (String × Bool × Nat) := []
  gates : List (String × GateName) := []

namespace State

def initial (setup : Setup) : State :=
  { setup := setup
    world := { cluster := Cluster.create setup.peers setup.replicas setup.latency } }

def say (state : State) (answer : Answer) : State × Answer := (state, answer)

def changeCluster (state : State) (change : Cluster → Cluster) : State :=
  { state with world := { state.world with cluster := change state.world.cluster } }

def changeNetwork (state : State) (change : Network → Network) : State :=
  { state with world := { state.world with network := change state.world.network } }

def await (state : State) (task : Task) : Task × State :=
  let (task, world) := state.world.await task
  (task, { state with world := world })

def noteAside (state : State) (notices : List Notice) : State :=
  { state with world := state.world.noteAside notices }

/-- The message that a name stands for. A draft becomes a message with an identity of its own. -/
def message? (state : State) (name : MessageName) : Option (Message × State) :=
  match name.draft with
  | some draft =>
      let message := { draft with id := ⟨state.serial, name.label⟩ }
      some (message,
        { state with
          serial := state.serial + 1
          messages := (name.label, message) :: state.messages })
  | none => (state.messages.lookup name.label).map fun message => (message, state)

def withMessage (state : State) (name : MessageName)
    (perform : Message → State → State × Answer) : State × Answer :=
  match state.message? name with
  | none => state.say (.unknownName name.label)
  | some (message, state) => perform message state

end State
end Quorate.Scenario
