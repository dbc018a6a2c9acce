import Quorate.Messaging.Exchange
import Quorate.Store.Cluster
import Quorate.Write.Basic

/-!
The state of a simulation: a store, a network, named gates, everything that runs in the background,
and one clock. Times are whole milliseconds since the start.
-/

namespace Quorate.Simulation

open Store Messaging

inductive Pause where
  | untried
  /-- It ends as soon as everything else has had its turn. -/
  | yielding
  | sleeping (due : Nat)
deriving DecidableEq, Repr

structure WriteRun where
  write : Write
  pause : Pause := .untried
  metered : Bool := true
  started : Nat
deriving DecidableEq, Repr

structure CallRun where
  call : Call
  request : Request
  pause : Pause := .untried
  completion : Option Completion := none
deriving Repr

structure ExchangeRun where
  exchange : Exchange
  metered : Bool := true
  stage : Exchange.Stage := .idle
  cancelAt : Option Nat := none
  /-- It is to end without another turn of its own. -/
  aborted : Bool := false
deriving Repr

structure ErrandRun where
  errand : Errand
  due : Nat
  done : Bool := false

/-- A task that holds a signal handle: it may signal, and then drops the handle. -/
structure HolderRun where
  gate : Nat
  value : Option String
  due : Nat
  done : Bool := false
deriving DecidableEq, Repr

structure WaiterRun where
  gate : Nat
  waited : Duration
  deadline : Option Nat
  result : Option (Except Gate.Fault String) := none
deriving Repr

/-- Anything that can run, with its result once it has ended. Tasks are known by their number in
the world. -/
inductive Task where
  | write (run : WriteRun)
  | call (run : CallRun)
  | exchange (run : ExchangeRun)
  | errand (run : ErrandRun)
  | holder (run : HolderRun)
  | waiter (run : WaiterRun)
  | sleep (due : Nat) (done : Bool)
  | verdict (write : Nat) (result : Option Bool)
  | join (task : Nat) (done : Bool)

structure World where
  clock : Nat := 0
  cluster : Cluster
  network : Network := {}
  /-- A registry apart from that of the network. -/
  spare : Registry := {}
  board : Metrics.Board := {}
  gates : List (Gate String) := []
  tasks : List Task := []
  /-- What has been reported since the journal was last read. -/
  journal : List Journal.Entry := []
  inbox : List Reply := []

namespace World

def note (world : World) (span : Option Journal.Span) (metered : Bool) (started : Nat)
    (notices : List Notice) : World :=
  let elapsed := Duration.ofMillis (world.clock - started)
  { world with
    board := if metered then Notice.recordAll elapsed notices world.board else world.board
    journal := world.journal ++ Notice.entries span notices
    inbox := world.inbox ++ Notice.recorded notices }

/-- Takes note of what belongs to no write and no exchange. -/
def noteAside (world : World) (notices : List Notice) : World :=
  world.note none false world.clock notices

def spawn (world : World) (task : Task) : World × Nat :=
  ({ world with tasks := world.tasks ++ [task] }, world.tasks.length)

def write? (world : World) (number : Nat) : Option Write :=
  match world.tasks[number]? with
  | some (.write run) => some run.write
  | _ => none

def gate? (world : World) (number : Nat) : Option (Gate String) := world.gates[number]?

def changeGate (world : World) (number : Nat) (change : Gate String → Gate String) : World :=
  { world with gates := world.gates.modify number change }

/-- The pause of a call that the store has taken. -/
def pauseOf (world : World) : Pause :=
  if world.cluster.latency.nanos = 0 then .yielding
  else .sleeping (world.clock + world.cluster.latency.ticks)

end World
end Quorate.Simulation
