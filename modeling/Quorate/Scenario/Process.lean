import Quorate.Scenario.Messaging
import Quorate.Scenario.Storage

/-!
Steps of a scenario that execute the steps of a process and roll them back.
-/

namespace Quorate.Scenario.State

open Simulation

def execute (state : State) (name : String) : State × Answer :=
  match state.steps.lookup name with
  | none => state.say (.unknownName name)
  | some (.message step) => state.runExchange { exchange := step.exchange, metered := step.metered }
  | some (.put step) =>
      let state := { state with steps := (name, .put step.executing) :: state.steps }
      match state.put ⟨step.request, some step.budget, step.metered⟩ with
      | (.error failure, state) => (state, .failed failure)
      | (.ok none, state) => (state, .stuck)
      | (.ok (some accepted), state) =>
          match step.outcome accepted with
          | .ok _ => (state, .done)
          | .error failure => (state, .failed failure)

def rollback (state : State) (name : String) : State × Answer :=
  match state.steps.lookup name with
  | none => state.say (.unknownName name)
  | some (.message _) => (state, .done)
  | some (.put step) =>
      let (cleared, needed) := step.rollingBack
      let state := { state with steps := (name, .put cleared) :: state.steps }
      if needed then
        match state.remove step.request with
        | (none, state) => (state, .stuck)
        | (some removed, state) => (state.noteAside (step.rollbackNotices removed), .done)
      else (state, .done)

end Quorate.Scenario.State
