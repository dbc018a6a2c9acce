import Quorate.Scenario.State

/-!
Steps of a scenario that exchange messages or handle registrations.
-/

namespace Quorate.Scenario.State

open Messaging Simulation

def exchangeOf (state : State) (spec : SendSpec) (message : Message) : Exchange :=
  { message := message
    recipient := spec.recipient
    timeout := spec.timeout.getD state.setup.timeout
    handler := spec.handler
    name := spec.name
    carrier := spec.carrier }

def exchangeAnswer (run : ExchangeRun) : Option Answer :=
  match run.stage with
  | .active (.ended (.ok _)) => some .done
  | .active (.ended (.error failure)) => some (.failed (.sendFailed failure))
  | .cancelled => some .cancelled
  | _ => none

def runExchange (state : State) (run : ExchangeRun) : State × Answer :=
  match state.await (.exchange run) with
  | (.exchange run, state) => (state, (exchangeAnswer run).getD .stuck)
  | (_, state) => (state, .stuck)

def send (state : State) (spec : SendSpec) (mode : SendMode) : State × Answer :=
  state.withMessage spec.message fun message state =>
    let run : ExchangeRun := { exchange := state.exchangeOf spec message, metered := spec.metered }
    match mode with
    | .awaited => state.runExchange run
    | .cancelled after =>
        state.runExchange { run with cancelAt := some (state.world.clock + after) }
    | .spawned task =>
        let (world, number) := state.world.spawn (.exchange run)
        ({ state with world := world, sends := (task, number) :: state.sends },
          .spawned run.exchange.timeout.millis)

def sent (state : State) (number : Nat) : Answer :=
  match state.world.tasks[number]? with
  | some (.exchange run) =>
      match exchangeAnswer run with
      | some .cancelled => .aborted
      | some answer => answer
      | none => .stuck
  | _ => .stuck

def join (state : State) (name : String) : State × Answer :=
  match state.sends.lookup name with
  | none => state.say (.unknownName name)
  | some number =>
      let (_, state) := state.await (.join number false)
      (state, state.sent number)

def abortTask : Task → Task
  | .exchange run => .exchange { run with aborted := true }
  | task => task

def abort (state : State) (name : String) : State × Answer :=
  match state.sends.lookup name with
  | none => state.say (.unknownName name)
  | some number =>
      ({ state with
          world := { state.world with tasks := state.world.tasks.modify number abortTask } }, .done)

def transportSend (state : State) (name : MessageName) (direct : Bool) : State × Answer :=
  state.withMessage name fun message state =>
    let network := state.world.network
    let (network, submission, notices) :=
      if direct then network.sendDirect message else network.sendRouted message
    let world := { state.world with network := network }.noteAside notices
    match submission with
    | .refused => ({ state with world := world }, .flag false)
    | .accepted none => ({ state with world := world }, .flag true)
    | .accepted (some errand) =>
        let (world, _) := world.spawn (.errand ⟨errand, world.clock + errand.delay.ticks, false⟩)
        ({ state with world := world }, .flag true)

/-! ### Registrations -/

def register (state : State) (name : MessageName) (gate : String) (onNetwork : Bool) :
    State × Answer :=
  state.withMessage name fun message state =>
    let world := state.world
    let registry := if onNetwork then world.network.registry else world.spare
    let (registry, number) := registry.register message.id .recording
    let world :=
      if onNetwork then { world with network := { world.network with registry := registry } }
      else { world with spare := registry }
    ({ state with
        world := world
        registrations := (gate, onNetwork, number) :: state.registrations },
      .registrySize world.spare.size)

def forget (state : State) (name : MessageName) (onNetwork : Bool) : State × Answer :=
  state.withMessage name fun message state =>
    if onNetwork then
      (state.changeNetwork fun network =>
        { network with registry := (network.registry.forget message.id).1 }, .done)
    else
      let (spare, changed) := state.world.spare.forget message.id
      ({ state with world := { state.world with spare := spare } },
        .registryChange changed spare.size)

def dispatch (state : State) (name : MessageName) (sender : Peer) (payload : List UInt8) :
    State × Answer :=
  state.withMessage name fun message state =>
    let (spare, changed, notices) := state.world.spare.dispatch (message.reply sender payload)
    let world := { state.world with spare := spare }.noteAside notices
    ({ state with world := world }, .registryChange changed spare.size)

def registered (state : State) (gate : String) : Answer :=
  match state.registrations.lookup gate with
  | none => .unknownName gate
  | some (onNetwork, number) =>
      let registry := if onNetwork then state.world.network.registry else state.world.spare
      let gate := registry.gates number
      .registration gate.isOpen gate.peek.isSome (gate.pollUntil true ⟨0⟩)

end Quorate.Scenario.State
