import Quorate.Proofs.Process.Session
import Quorate.Proofs.Process.Undertaking
import Quorate.Scenario.Process

/-!
The named put steps of a scenario are put steps among all else at its store. What an execution or a
rollback does at once, the step of the scenario does; and where one of them waits, the task that the
scenario waits for does, at each of its turns, what the wait would do at that time.
-/

namespace Quorate

open Store Simulation Process

private theorem Simulation.World.await_of_ended (world : World) (task : Task)
    (ready : task.wakeable world = true) (ends : (task.turn world).1.ended = true) :
    world.await task = task.turn world := by
  unfold await
  dsimp only
  rw [if_pos ready]
  unfold awaitWithin
  rw [if_pos ends]

namespace Scenario.State

variable {state : State} {name : String} {undertaking : Undertaking}

/-- The scenario knows the step by this name, and its store is the one that the step uses. -/
structure Knows (state : State) (name : String) (undertaking : Undertaking) : Prop where
  named : state.steps.lookup name = some (.put undertaking.put)
  cluster : state.world.cluster = undertaking.workload.cluster

/-! ### Executions and rollbacks -/

def executionAnswer : Option (Except Failure Unit) → Answer
  | some (.ok _) => .done
  | some (.error failure) => .failed failure
  | none => .stuck

/-- A named put step executes with the put of the scenario. -/
theorem execute_eq_step {put : PutStep} (named : state.steps.lookup name = some (.put put)) :
    let marked : State := { state with steps := (name, .put put.executing) :: state.steps }
    let ended := put.execute
      (fun request state => state.put ⟨request, some put.budget, put.metered⟩) marked
    state.execute name = (ended.2.2, executionAnswer ended.1) := by
  unfold State.execute
  rw [named]
  dsimp only
  rw [PutStep.execute_eq]
  generalize State.put _ _ = ended
  obtain ⟨verdict, after⟩ := ended
  cases verdict with
  | error failure => rfl
  | ok accepted =>
      cases accepted with
      | none => rfl
      | some accepted => cases accepted <;> rfl

def closeRollback : Option (List Notice) → State → State × Answer
  | some notices, state => (state.noteAside notices, .done)
  | none, state => (state, .stuck)

private theorem noteAside_nil (state : State) : state.noteAside [] = state := by
  unfold noteAside World.noteAside World.note Notice.entries Notice.recorded
  simp

/-- A named put step rolls back with the removal of the scenario. -/
theorem rollback_eq_step {put : PutStep} (named : state.steps.lookup name = some (.put put)) :
    let cleared : State :=
      { state with steps := (name, .put { put with executed := false }) :: state.steps }
    let ended := put.rollback (fun request state => state.remove request) cleared
    state.rollback name = closeRollback ended.1 ended.2.2 := by
  intro cleared
  unfold State.rollback PutStep.rollingBack
  rw [named]
  dsimp only
  cases executed : put.executed with
  | false =>
      rw [PutStep.rollback_of_unmarked cleared _ executed, if_neg Bool.false_ne_true]
      exact congrArg (fun state => (state, Answer.done)) cleared.noteAside_nil.symm
  | true =>
      rw [PutStep.rollback_of_marked cleared _ executed, if_pos rfl]
      generalize cleared.remove put.request = ended
      obtain ⟨removed, after⟩ := ended
      cases removed <;> rfl

/-- The removal of the scenario is that of a manager for which a scenario is a store. -/
theorem remove_eq_manager (state : State) (request : Request) :
    (state.remove request).1 =
      (Manager.remove (fun call request state => state.call call request) request
        { store := state }).1 := by
  unfold State.remove Manager.remove
  dsimp only
  generalize state.call .remove request = ended
  obtain ⟨completion, after⟩ := ended
  cases completion <;> rfl

private theorem call_of_rejecting (state : State) (call : Call) (request : Request)
    (rejecting : state.world.cluster.rejecting = true) :
    state.call call request = (some (.error Cluster.refusal), state) := by
  have turn : Task.turn (.call { call := call, request := request }) state.world =
      (.call { call := call, request := request, completion := some (.error Cluster.refusal) },
        state.world) := by
    unfold Task.turn CallRun.turn
    dsimp only
    rw [Cluster.submit_eq, if_pos rejecting]
    rfl
  unfold State.call State.await
  rw [state.world.await_of_ended _ rfl (by rw [turn]; rfl), turn]

theorem write?_submitWrite (state : State) (put : PutStep) :
    let (number, after) := state.submitWrite ⟨put.request, some put.budget, put.metered⟩
    after.world.write? number = some (Workload.Participant.of put.request put.budget).write := by
  unfold submitWrite World.spawn World.write?
  dsimp only
  rw [List.getElem?_concat_length]
  rfl

namespace Knows

theorem execute_refused (knows : Knows state name undertaking)
    (idle : undertaking.stage = .idle) {failure : Failure}
    (invalid : undertaking.put.request.check = .error failure) :
    Knows (state.execute name).1 name (undertaking.step .execute) ∧
      (state.execute name).2 = .failed failure := by
  have executed : undertaking.step .execute =
      undertaking.marked.ending (.executed none (.error failure)) [] := by
    rw [undertaking.execute_eq idle]
    unfold Undertaking.execute
    rw [invalid]
    rfl
  rw [executed]
  unfold State.execute State.put
  rw [knows.named]
  dsimp only
  rw [invalid]
  exact ⟨⟨List.lookup_cons_self, knows.cluster⟩, rfl⟩

theorem rollback_spared (knows : Knows state name undertaking)
    (idle : undertaking.stage = .idle) (unmarked : undertaking.put.executed = false) :
    Knows (state.rollback name).1 name (undertaking.step .rollback) ∧
      (state.rollback name).2 = .done := by
  rw [undertaking.rollback_eq idle, undertaking.rollback_of_unmarked unmarked]
  unfold State.rollback PutStep.rollingBack
  rw [knows.named]
  dsimp only
  rw [if_neg (by rw [unmarked]; exact Bool.false_ne_true), ← unmarked]
  exact ⟨⟨List.lookup_cons_self, knows.cluster⟩, rfl⟩

theorem rollback_refused (knows : Knows state name undertaking)
    (idle : undertaking.stage = .idle) (executed : undertaking.put.executed = true)
    (rejecting : undertaking.workload.cluster.rejecting = true) :
    Knows (state.rollback name).1 name (undertaking.step .rollback) ∧
      (state.rollback name).2 = .done := by
  rw [undertaking.rollback_eq idle, undertaking.rollback_of_rejecting executed rejecting]
  unfold State.rollback PutStep.rollingBack State.remove
  rw [knows.named]
  dsimp only
  rw [if_pos executed, call_of_rejecting _ _ _ (by rw [knows.cluster]; exact rejecting)]
  exact ⟨⟨List.lookup_cons_self, knows.cluster⟩, rfl⟩

end Knows
end Scenario.State

/-! ### Waits -/

namespace Simulation

variable {undertaking : Undertaking} {world : World}

/-- The removal that the scenario waits for is submitted at its first turn. -/
theorem CallRun.turn_rollback (shared : world.cluster = undertaking.workload.cluster)
    (idle : undertaking.stage = .idle) (executed : undertaking.put.executed = true)
    (accepting : undertaking.workload.cluster.rejecting = false) :
    let run : CallRun := { call := .remove, request := undertaking.put.request }
    (run.turn world).1 = { run with pause := (run.turn world).2.pauseOf } ∧
      (run.turn world).2.cluster = (undertaking.step .rollback).workload.cluster := by
  intro run
  have taken : world.cluster.submit run.call =
      .ok (undertaking.workload.cluster.taking .remove) := by
    rw [Cluster.submit_eq, shared, if_neg (by rw [accepting]; exact Bool.false_ne_true)]
  have turn : run.turn world =
      ({ run with
          pause := { world with
            cluster := undertaking.workload.cluster.taking .remove : World }.pauseOf },
        { world with cluster := undertaking.workload.cluster.taking .remove }) := by
    unfold CallRun.turn
    dsimp only
    rw [taken]
  rw [turn, undertaking.rollback_eq idle, undertaking.rollback_of_accepting executed accepting]
  exact ⟨rfl, rfl⟩

theorem CallRun.turn_finish (run : CallRun) (shared : world.cluster = undertaking.workload.cluster)
    (removing : undertaking.stage = .removing) (called : run.call = .remove)
    (own : run.request = undertaking.put.request) (paused : run.pause ≠ .untried) :
    ∃ completion, (run.turn world).1.completion = some completion ∧
      (run.turn world).2.cluster = (undertaking.step .finish).workload.cluster ∧
      (undertaking.step .finish).notices =
        undertaking.notices ++ (removalOutcome run.request completion).2 ++
          undertaking.put.rollbackNotices (removalOutcome run.request completion).1 := by
  have turn : run.turn world =
      (run.finish (world.cluster.complete run.call run.request).1,
        { world with cluster := (world.cluster.complete run.call run.request).2 }) := by
    unfold CallRun.turn
    cases pause : run.pause with
    | untried => exact absurd pause paused
    | yielding => rfl
    | sleeping due => rfl
  rw [turn, undertaking.finish_eq removing, shared, called, own]
  refine ⟨_, rfl, rfl, ?_⟩
  rw [List.append_assoc]
  rfl

/-- The wait for a verdict ends at the turn at which the wait of the execution would end. -/
theorem Task.turn_conclude {number write : Nat} (executing : undertaking.stage = .executing write)
    (shared : world.write? number = some (undertaking.workload.writes write).write) :
    ∃ result told, Task.turn (.verdict number none) world = (.verdict number result, told) ∧
      undertaking.step .conclude =
        match result with
        | none => undertaking
        | some accepted =>
            undertaking.ending (.executed (some write) (undertaking.put.outcome accepted))
              ((undertaking.workload.writes write).write.awaited?.elim [] Prod.snd) := by
  unfold Task.turn
  dsimp only
  rw [shared, Option.bind_some, undertaking.conclude_eq executing]
  unfold Undertaking.conclude
  cases (undertaking.workload.writes write).write.awaited? with
  | none => exact ⟨none, world, rfl, rfl⟩
  | some ended => exact ⟨some ended.1, world.noteAside ended.2, rfl, rfl⟩

end Simulation
end Quorate
