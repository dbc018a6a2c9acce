import Quorate.Scenario.State

/-!
Steps of a scenario that use the store, by single calls and by writes.
-/

namespace Quorate.Scenario.State

open Store Simulation

def call (state : State) (call : Call) (request : Request) : Option Completion × State :=
  match state.await (.call { call := call, request := request }) with
  | (.call run, state) => (run.completion, state)
  | (_, state) => (none, state)

def storeCall (state : State) (call : Call) (request : Request) : State × Answer :=
  match state.call call request with
  | (some (.ok response), state) => (state, .response response)
  | (some (.error failure), state) => (state, .failed failure)
  | (none, state) => (state, .stuck)

def remove (state : State) (request : Request) : Option Bool × State :=
  match state.call .remove request with
  | (none, state) => (none, state)
  | (some completion, state) =>
      let (removed, notices) := Process.removalOutcome request completion
      (some removed, state.noteAside notices)

/-! ### Writes -/

def submitWrite (state : State) (spec : PutSpec) : Nat × State :=
  let run : WriteRun :=
    { write := { request := spec.request, budget := spec.retries.getD state.setup.retries }
      metered := spec.metered
      started := state.world.clock }
  let (world, number) := state.world.spawn (.write run)
  (number, { state with world := world })

def waitFor (state : State) (write : Nat) : Option Bool × State :=
  match state.await (.verdict write none) with
  | (.verdict _ result, state) => (result, state)
  | (_, state) => (none, state)

def put (state : State) (spec : PutSpec) : Except Failure (Option Bool) × State :=
  match spec.request.check with
  | .error failure => (.error failure, state)
  | .ok _ =>
      let (write, state) := state.submitWrite spec
      let (verdict, state) := state.waitFor write
      (.ok verdict, state)

def submit (state : State) (name : String) (spec : PutSpec) (checked : Bool) : State × Answer :=
  match if checked then spec.request.check else .ok () with
  | .error failure => (state, .failed failure)
  | .ok _ =>
      let (number, state) := state.submitWrite spec
      let write := state.world.write? number
      ({ state with writes := (name, number) :: state.writes },
        .submitted ((write.map Write.isDone).getD false) (write.bind Write.verdict?)
          spec.request.versionKey)

def progress (state : State) (name : String) : Answer :=
  match (state.writes.lookup name).bind state.world.write? with
  | none => .unknownName name
  | some write => .progress write.isDone write.verdict?

def flagOrStuck : Option Bool → Answer
  | some value => .flag value
  | none => .stuck

end Quorate.Scenario.State
