import Quorate.Process.Step
import Quorate.Simulation.World

/-!
The steps that a scenario consists of, and what it learns from each. Writes, tasks, messages,
process steps and gates are known by names that the scenario chooses.
-/

namespace Quorate.Scenario

open Store Messaging

structure Setup where
  peers : Nat := 5
  replicas : Nat := 3
  latency : Duration := ⟨0⟩
  retries : UInt32 := 3
  timeout : Duration := Duration.ofMillis 10000
deriving DecidableEq, Repr

/-- A message by its label. With a draft, a new message gets the label. -/
structure MessageName where
  label : String
  draft : Option Message := none
deriving DecidableEq, Repr

structure PutSpec where
  request : Request
  retries : Option UInt32 := none
  metered : Bool := true
deriving DecidableEq, Repr

structure SendSpec where
  message : MessageName
  recipient : RecipientKey
  timeout : Option Duration := none
  name : Option String := none
  metered : Bool := true
  handler : Handler := .recording
  carrier : Carrier := .network
deriving DecidableEq, Repr

inductive SendMode where
  | awaited
  | cancelled (after : Nat)
  | spawned (task : String)
deriving DecidableEq, Repr

inductive Step where
  | sleep (millis : Nat)
  | behave (peer : Peer) (behavior : Behavior)
  | rejectSubmissions (on : Bool)
  | failNextPuts (count : Nat)
  | failRemovals (on : Bool)
  | peers
  | responsible (location : String)
  | storeCall (call : Call) (request : Request)
  | look (key : VersionKey)
  | put (spec : PutSpec)
  | remove (request : Request)
  | submit (write : String) (spec : PutSpec) (checked : Bool)
  | verdict (write : String)
  | wait (write : String)
  | addEndpoint (peer : Peer) (endpoint : Endpoint)
  | rejectSends (on : Bool)
  | route (key : String)
  | delivered
  | send (spec : SendSpec) (mode : SendMode)
  | join (task : String)
  | abort (task : String)
  | transportSend (message : MessageName) (direct : Bool)
  | register (message : MessageName) (gate : String) (onNetwork : Bool)
  | forget (message : MessageName) (onNetwork : Bool)
  | dispatch (message : MessageName) (sender : Peer) (payload : List UInt8)
  | registered (gate : String)
  | putStep (step : String) (spec : PutSpec)
  | messageStep (step : String) (spec : SendSpec)
  | execute (step : String)
  | rollback (step : String)
  | gate (gate : String)
  | gateClone (gate : String) (handle : Nat)
  | gateSignal (gate : String) (handle : Nat) (value : String)
  | gateDrop (gate : String) (handle : Nat)
  /-- Moves a handle into a task that after a time signals a value, if there is one, and then drops
  the handle. -/
  | gateHold (gate : String) (handle millis : Nat) (value : Option String)
  | gateLook (gate : String)
  | gateWait (gate : String) (timeout : Option Duration)
  | gateWaitTask (gate task : String) (timeout : Option Duration)
  | gateJoin (task : String)

inductive Answer where
  | done
  | flag (value : Bool)
  | failed (failure : Failure)
  | names (names : List String)
  | chosen (peer : Option String)
  | response (response : Response)
  | holding (replicas : Nat) (content : Option (List UInt8))
  | progress (done : Bool) (verdict : Option Bool)
  | submitted (done : Bool) (verdict : Option Bool) (key : VersionKey)
  | spawned (timeoutMillis : Nat)
  | cancelled
  | aborted
  | registrySize (size : Nat)
  | registryChange (changed : Bool) (size : Nat)
  | registration (isOpen hasValue : Bool) (wait : Option (Except Gate.Fault Unit))
  | handle (index : Nat)
  | signalled (first : Option Bool)
  | gateView (handles : List (Option Bool)) (isOpen : Bool) (value : Option String)
  | gateResult (result : Except Gate.Fault String)
  | unknownName (name : String)
  | stuck

structure Observation where
  answer : Answer
  puts : UInt32
  removals : UInt32
  pending : Nat
  delivered : Nat
  tally : List UInt64
  clock : Nat
  received : List Reply
  journal : List Journal.Entry

end Quorate.Scenario
