import Quorate.Simulation.World

/-!
How tasks run. A turn carries a task from where it waits to where it waits next, without anything
else happening in between. `wakeable` tells whether a turn would get anywhere, `due?` at what time
it would at the latest, and `effort` bounds the turns that are left.
-/

namespace Quorate.Simulation

open Store Messaging

namespace Pause

def isOver (pause : Pause) (now : Nat) : Bool :=
  match pause with
  | .untried => true
  | .yielding => true
  | .sleeping due => due ≤ now

def due? : Pause → Option Nat
  | .sleeping due => some due
  | _ => none

end Pause

namespace WriteRun

def receive (run : WriteRun) (completion : Completion) (world : World) : WriteRun × World :=
  let (write, notices) := run.write.receive completion
  ({ run with write := write, pause := .untried },
    world.note (some (.put run.write.request)) run.metered run.started notices)

/-- Makes calls until the store takes one or the write has ended. The first argument bounds the
number of calls. -/
def issue : Nat → WriteRun → World → WriteRun × World
  | 0, run, world => (run, world)
  | left + 1, run, world =>
      match run.write.call? with
      | none => (run, world)
      | some call =>
          let world := world.note (some (.put run.write.request)) run.metered run.started
            [.counted (Write.counterOf call)]
          match world.cluster.submit call with
          | .error failure =>
              let (run, world) := run.receive (.error failure) world
              issue left run world
          | .ok cluster =>
              let world := { world with cluster := cluster }
              ({ run with pause := world.pauseOf }, world)

def complete (run : WriteRun) (call : Call) (world : World) : WriteRun × World :=
  let (completion, cluster) := world.cluster.complete call run.write.request
  run.receive completion { world with cluster := cluster }

def turn (run : WriteRun) (world : World) : WriteRun × World :=
  let (run, world) := match run.pause, run.write.call? with
    | .untried, _ => (run, world)
    | _, none => (run, world)
    | _, some call => run.complete call world
  run.issue run.write.callsLeft world

end WriteRun

namespace CallRun

def finish (run : CallRun) (completion : Completion) : CallRun :=
  { run with completion := some completion }

def turn (run : CallRun) (world : World) : CallRun × World :=
  match run.pause with
  | .untried =>
      match world.cluster.submit run.call with
      | .error failure => (run.finish (.error failure), world)
      | .ok cluster =>
          let world := { world with cluster := cluster }
          ({ run with pause := world.pauseOf }, world)
  | _ =>
      let (completion, cluster) := world.cluster.complete run.call run.request
      (run.finish completion, { world with cluster := cluster })

end CallRun

namespace ExchangeRun

def span (run : ExchangeRun) : Option Journal.Span := some (.correlator run.exchange.name)

/-- Takes over the outcome of a step; an answer that is still owed becomes a task. -/
def take (run : ExchangeRun) (step : Exchange.Step) (world : World) : ExchangeRun × World :=
  let world := { world with network := step.network }.note run.span run.metered world.clock
    step.notices
  let world := match step.errand with
    | none => world
    | some errand =>
        (world.spawn (.errand ⟨errand, world.clock + errand.delay.ticks, false⟩)).1
  ({ run with stage := .active step.progress }, world)

def cancel (run : ExchangeRun) (world : World) : ExchangeRun × World :=
  match run.stage with
  | .idle => ({ run with stage := .cancelled }, world)
  | .active (.waiting _ _) =>
      ({ run with stage := .cancelled },
        { world with network := run.exchange.cancel world.network })
  | .active (.ended _) => (run, world)
  | .cancelled => (run, world)

def givenUp (run : ExchangeRun) (now : Nat) : Bool :=
  match run.cancelAt with
  | none => false
  | some due => due ≤ now

def advance (run : ExchangeRun) (world : World) : ExchangeRun × World :=
  match run.stage with
  | .idle => run.take (run.exchange.start world.network world.clock) world
  | .active (.waiting registration deadline) =>
      run.take (run.exchange.look world.network registration deadline world.clock) world
  | .active (.ended _) => (run, world)
  | .cancelled => (run, world)

/-- The exchange goes on as far as it can, and only if it still waits then may it be given up; one
that was aborted does not go on at all. -/
def turn (run : ExchangeRun) (world : World) : ExchangeRun × World :=
  if run.aborted then run.cancel world
  else
    let (run, world) := run.advance world
    if run.givenUp world.clock then run.cancel world else (run, world)

def ended (run : ExchangeRun) : Bool :=
  match run.stage with
  | .active (.ended _) => true
  | .cancelled => true
  | _ => false

def wakeable (run : ExchangeRun) (world : World) : Bool :=
  match run.stage with
  | .idle => true
  | .active (.waiting registration deadline) =>
      run.aborted || ((world.network.registry.gates registration).poll).isSome
        || deadline ≤ world.clock || run.givenUp world.clock
  | .active (.ended _) => false
  | .cancelled => false

def due? (run : ExchangeRun) : Option Nat :=
  match run.stage with
  | .active (.waiting _ deadline) =>
      match run.cancelAt with
      | none => some deadline
      | some due => some (min due deadline)
  | _ => none

end ExchangeRun

namespace ErrandRun

def turn (run : ErrandRun) (world : World) : ErrandRun × World :=
  let (network, notices) := world.network.answer run.errand
  ({ run with done := true }, { world with network := network }.noteAside notices)

end ErrandRun

namespace HolderRun

def turn (run : HolderRun) (world : World) : HolderRun × World :=
  ({ run with done := true },
    world.changeGate run.gate fun gate =>
      match run.value with
      | none => gate.drop
      | some value => (gate.signal value).1.drop)

end HolderRun

namespace WaiterRun

def expired (run : WaiterRun) (now : Nat) : Bool :=
  match run.deadline with
  | none => false
  | some deadline => deadline ≤ now

def poll (run : WaiterRun) (world : World) : Option (Except Gate.Fault String) :=
  match world.gate? run.gate with
  | none => some (.error .closed)
  | some gate => gate.pollUntil (run.expired world.clock) run.waited

def turn (run : WaiterRun) (world : World) : WaiterRun × World :=
  ({ run with result := run.poll world }, world)

end WaiterRun

namespace Task

def ended : Task → Bool
  | .write run => run.write.call?.isNone
  | .call run => run.completion.isSome
  | .exchange run => run.ended
  | .errand run => run.done
  | .holder run => run.done
  | .waiter run => run.result.isSome
  | .sleep _ done => done
  | .verdict _ result => result.isSome
  | .join _ done => done

def endedIn (world : World) (number : Nat) : Bool :=
  match world.tasks[number]? with
  | some task => task.ended
  | none => true

def wakeable (task : Task) (world : World) : Bool :=
  !task.ended &&
    match task with
    | .write run => run.pause.isOver world.clock
    | .call run => run.pause.isOver world.clock
    | .exchange run => run.wakeable world
    | .errand run => run.due ≤ world.clock
    | .holder run => run.due ≤ world.clock
    | .waiter run => (run.poll world).isSome
    | .sleep due _ => due ≤ world.clock
    | .verdict number _ =>
        match world.write? number with
        | some found => found.awaited?.isSome
        | none => true
    | .join number _ => endedIn world number

/-- Whether a task has given way to the others and goes on only after them. -/
def yielding : Task → Bool
  | .write run => run.pause = .yielding
  | .call run => run.pause = .yielding
  | _ => false

def due? (task : Task) : Option Nat :=
  if task.ended then none
  else
    match task with
    | .write run => run.pause.due?
    | .call run => run.pause.due?
    | .exchange run => run.due?
    | .errand run => some run.due
    | .holder run => some run.due
    | .waiter run => run.deadline
    | .sleep due _ => some due
    | .verdict _ _ => none
    | .join _ _ => none

def turn (task : Task) (world : World) : Task × World :=
  match task with
  | .write run =>
      let (run, world) := run.turn world
      (.write run, world)
  | .call run =>
      let (run, world) := run.turn world
      (.call run, world)
  | .exchange run =>
      let (run, world) := run.turn world
      (.exchange run, world)
  | .errand run =>
      let (run, world) := run.turn world
      (.errand run, world)
  | .holder run =>
      let (run, world) := run.turn world
      (.holder run, world)
  | .waiter run =>
      let (run, world) := run.turn world
      (.waiter run, world)
  | .sleep due _ => (.sleep due true, world)
  | .verdict number _ =>
      match (world.write? number).bind Write.awaited? with
      | some (accepted, notices) => (.verdict number (some accepted), world.noteAside notices)
      | none => (.verdict number none, world)
  | .join number _ => (.join number true, world)

/-- The turns left, at most, those of the tasks that it starts included. -/
def effort : Task → Nat
  | .write run => run.write.callsLeft + 1
  | .call _ => 2
  | .exchange _ => 4
  | _ => 1

end Task
end Quorate.Simulation
