import Quorate.Scenario.State

/-!
Steps of a scenario that use gates.
-/

namespace Quorate.Scenario.State

open Simulation

def withGate (state : State) (name : String) (perform : GateName → State × Answer) :
    State × Answer :=
  match state.gates.lookup name with
  | none => state.say (.unknownName name)
  | some gate => perform gate

/-- A name that is given anew lets go of the handles that it had. -/
def newGate (state : State) (name : String) : State × Answer :=
  let world := match state.gates.lookup name with
    | none => state.world
    | some old => (old.slots.filter id).foldl
        (fun world _ => world.changeGate old.number Gate.drop) state.world
  ({ state with
      world := { world with gates := world.gates ++ [({} : Gate String)] }
      gates := (name, ⟨world.gates.length, [true]⟩) :: state.gates }, .done)

def setSlots (state : State) (name : String) (gate : GateName) (slots : List Bool) : State :=
  { state with gates := (name, { gate with slots := slots }) :: state.gates }

def hasHandle (gate : GateName) (handle : Nat) : Bool := gate.slots.getD handle false

def gateClone (state : State) (name : String) (handle : Nat) : State × Answer :=
  state.withGate name fun gate =>
    let kept := hasHandle gate handle
    let world := if kept then state.world.changeGate gate.number Gate.clone else state.world
    (({ state with world := world }).setSlots name gate (gate.slots ++ [kept]),
      .handle gate.slots.length)

def gateSignal (state : State) (name : String) (handle : Nat) (value : String) : State × Answer :=
  state.withGate name fun gate =>
    match hasHandle gate handle, state.world.gate? gate.number with
    | true, some found =>
        let (changed, first) := found.signal value
        ({ state with world := state.world.changeGate gate.number fun _ => changed },
          .signalled (some first))
    | _, _ => (state, .signalled none)

def gateDrop (state : State) (name : String) (handle : Nat) : State × Answer :=
  state.withGate name fun gate =>
    if hasHandle gate handle then
      (({ state with world := state.world.changeGate gate.number Gate.drop }).setSlots name gate
        (gate.slots.set handle false), .flag true)
    else (state, .flag false)

def gateHold (state : State) (name : String) (handle millis : Nat) (value : Option String) :
    State × Answer :=
  state.withGate name fun gate =>
    if hasHandle gate handle then
      let holder : HolderRun :=
        { gate := gate.number, value := value, due := state.world.clock + millis }
      let (world, _) := state.world.spawn (.holder holder)
      (({ state with world := world }).setSlots name gate (gate.slots.set handle false),
        .flag true)
    else (state, .flag false)

def gateLook (state : State) (name : String) : State × Answer :=
  state.withGate name fun gate =>
    match state.world.gate? gate.number with
    | none => state.say (.unknownName name)
    | some found =>
        (state, .gateView
          (gate.slots.map fun kept => if kept then some found.isOpen else none)
          found.isOpen found.peek)

def waiterFor (state : State) (gate : GateName) (timeout : Option Duration) : WaiterRun :=
  { gate := gate.number
    waited := timeout.getD ⟨0⟩
    deadline := timeout.map fun timeout => state.world.clock + timeout.ticks }

def waiterAnswer : Task → Answer
  | .waiter run =>
      match run.result with
      | some result => .gateResult result
      | none => .stuck
  | _ => .stuck

def gateWait (state : State) (name : String) (timeout : Option Duration) : State × Answer :=
  state.withGate name fun gate =>
    let (task, state) := state.await (.waiter (state.waiterFor gate timeout))
    (state, waiterAnswer task)

def gateWaitTask (state : State) (name task : String) (timeout : Option Duration) :
    State × Answer :=
  state.withGate name fun gate =>
    let (world, number) := state.world.spawn (.waiter (state.waiterFor gate timeout))
    ({ state with world := world, waiters := (task, number) :: state.waiters }, .done)

def gateJoin (state : State) (name : String) : State × Answer :=
  match state.waiters.lookup name with
  | none => state.say (.unknownName name)
  | some number =>
      let (_, state) := state.await (.join number false)
      match state.world.tasks[number]? with
      | some task => (state, waiterAnswer task)
      | none => (state, .stuck)

end Quorate.Scenario.State
