import Quorate.Association
import Quorate.Process.Undertaking
import Quorate.Proofs.Write.Remaining

/-!
What a put step keeps to in any course of events. Its mark tells whether anything was executed since
the last rollback, an execution reports the verdict of the write that it started, and a rollback
makes the one call there is to make, or none.
-/

namespace Quorate.Process.Undertaking

open Store

/-! ### Moves -/

section Moves

variable (undertaking : Undertaking)

def cleared : Undertaking :=
  { undertaking with put := { undertaking.put with executed := false } }

def marked : Undertaking := { undertaking with put := undertaking.put.executing }

inductive StepsTo : Move → Undertaking → Prop
  | stays (move : Move) : StepsTo move undertaking
  | elsewhere {move : Workload.Move Nat} (permitted : permits undertaking.started move = true) :
      StepsTo (.elsewhere move)
        { undertaking with workload := undertaking.workload.step move }
  | refused {failure : Failure} (idle : undertaking.stage = .idle)
      (invalid : undertaking.put.request.check = .error failure) :
      StepsTo .execute (undertaking.marked.ending (.executed none (.error failure)) [])
  | starts (idle : undertaking.stage = .idle) (valid : undertaking.put.request.check = .ok ()) :
      StepsTo .execute
        { undertaking.marked with
          started := undertaking.started + 1
          stage := .executing undertaking.started }
  | concludes {write : Nat} {accepted : Bool} {notices : List Notice}
      (executing : undertaking.stage = .executing write)
      (awaited : (undertaking.workload.writes write).write.awaited? = some (accepted, notices)) :
      StepsTo .conclude
        (undertaking.ending (.executed (some write) (undertaking.put.outcome accepted)) notices)
  | givesUp {write : Nat} (executing : undertaking.stage = .executing write) :
      StepsTo .giveUp (undertaking.ending (.abandoned write) [])
  | spares (idle : undertaking.stage = .idle) (unmarked : undertaking.put.executed = false) :
      StepsTo .rollback (undertaking.ending (.rolledBack [] (.ok ())) [])
  | fails (idle : undertaking.stage = .idle) (executed : undertaking.put.executed = true)
      (rejecting : undertaking.workload.cluster.rejecting = true) :
      StepsTo .rollback (undertaking.cleared.removed (.error Cluster.refusal))
  | removes (idle : undertaking.stage = .idle) (executed : undertaking.put.executed = true)
      (accepting : undertaking.workload.cluster.rejecting = false) :
      StepsTo .rollback
        { undertaking.cleared.setCluster (undertaking.workload.cluster.taking .remove) with
          stage := .removing }
  | finishes (removing : undertaking.stage = .removing) :
      StepsTo .finish undertaking.finish

theorem execute_eq (idle : undertaking.stage = .idle) :
    undertaking.step .execute = undertaking.execute := by
  unfold step
  rw [idle]

theorem rollback_eq (idle : undertaking.stage = .idle) :
    undertaking.step .rollback = undertaking.rollback := by
  unfold step
  rw [idle]

theorem conclude_eq {write : Nat} (executing : undertaking.stage = .executing write) :
    undertaking.step .conclude = undertaking.conclude write := by
  unfold step
  rw [executing]

theorem finish_eq (removing : undertaking.stage = .removing) :
    undertaking.step .finish = undertaking.finish := by
  unfold step
  rw [removing]

theorem elsewhere_eq (move : Workload.Move Nat) :
    undertaking.step (.elsewhere move) = undertaking.elsewhere move := by
  unfold step
  cases undertaking.stage <;> rfl

theorem rollback_of_unmarked (unmarked : undertaking.put.executed = false) :
    undertaking.rollback = undertaking.ending (.rolledBack [] (.ok ())) [] := by
  obtain ⟨⟨request, budget, metered, executed⟩, workload, started, stage, history, notices⟩ :=
    undertaking
  obtain rfl : executed = false := unmarked
  rfl

theorem rollback_of_rejecting (executed : undertaking.put.executed = true)
    (rejecting : undertaking.workload.cluster.rejecting = true) :
    undertaking.rollback = undertaking.cleared.removed (.error Cluster.refusal) := by
  unfold rollback PutStep.rollingBack
  rw [executed]
  dsimp only
  rw [if_pos rfl, Cluster.submit_eq, if_pos rejecting]
  rfl

theorem rollback_of_accepting (executed : undertaking.put.executed = true)
    (accepting : undertaking.workload.cluster.rejecting = false) :
    undertaking.rollback =
      { undertaking.cleared.setCluster (undertaking.workload.cluster.taking .remove) with
        stage := .removing } := by
  unfold rollback PutStep.rollingBack
  rw [executed]
  dsimp only
  rw [if_pos rfl, Cluster.submit_eq, if_neg (by rw [accepting]; exact Bool.false_ne_true)]
  rfl

theorem stepsTo_step (move : Move) : undertaking.StepsTo move (undertaking.step move) := by
  cases move with
  | elsewhere move =>
      rw [undertaking.elsewhere_eq]
      unfold Undertaking.elsewhere
      split
      · next permitted => exact .elsewhere permitted
      · exact .stays _
  | execute =>
      cases stage : undertaking.stage with
      | idle =>
          rw [undertaking.execute_eq stage]
          unfold execute
          cases checked : undertaking.put.request.check with
          | error failure => exact .refused stage checked
          | ok _ => exact .starts stage checked
      | _ => unfold step; rw [stage]; exact .stays _
  | rollback =>
      cases stage : undertaking.stage with
      | idle =>
          rw [undertaking.rollback_eq stage]
          cases executed : undertaking.put.executed with
          | false =>
              rw [undertaking.rollback_of_unmarked executed]
              exact .spares stage executed
          | true =>
              cases rejecting : undertaking.workload.cluster.rejecting with
              | true =>
                  rw [undertaking.rollback_of_rejecting executed rejecting]
                  exact .fails stage executed rejecting
              | false =>
                  rw [undertaking.rollback_of_accepting executed rejecting]
                  exact .removes stage executed rejecting
      | _ => unfold step; rw [stage]; exact .stays _
  | conclude =>
      cases stage : undertaking.stage with
      | executing write =>
          rw [undertaking.conclude_eq stage]
          unfold conclude
          cases awaited : (undertaking.workload.writes write).write.awaited? with
          | none => exact .stays _
          | some ended => exact .concludes stage awaited
      | _ => unfold step; rw [stage]; exact .stays _
  | giveUp =>
      cases stage : undertaking.stage with
      | executing write =>
          unfold step
          rw [stage]
          exact .givesUp stage
      | _ => unfold step; rw [stage]; exact .stays _
  | finish =>
      cases stage : undertaking.stage with
      | removing =>
          rw [undertaking.finish_eq stage]
          exact .finishes stage
      | _ => unfold step; rw [stage]; exact .stays _

theorem run_invariant (kept : Undertaking → Prop) (moves : List Move)
    (step : ∀ before move after, move ∈ moves → before.StepsTo move after → kept before →
      kept after)
    (holds : kept undertaking) : kept (undertaking.run moves) := by
  induction moves generalizing undertaking with
  | nil => exact holds
  | cons move rest ih =>
      exact ih (undertaking.step move)
        (fun before move after among => step before move after (List.mem_cons_of_mem _ among))
        (step _ move _ List.mem_cons_self (undertaking.stepsTo_step move) holds)

end Moves

/-! ### History -/

/-- The executions since the last rollback, or since the beginning. -/
def outstanding (history : List Event) : List Event :=
  history.foldl (fun recent event =>
    match event with
    | .rolledBack _ _ => []
    | _ => recent ++ [event]) []

private theorem outstanding_rolledBack (history : List Event) (calls : List Call)
    (result : Except Failure Unit) : outstanding (history ++ [.rolledBack calls result]) = [] :=
  List.foldl_append

private theorem outstanding_executed (history : List Event) (write : Option Nat)
    (result : Except Failure Unit) :
    outstanding (history ++ [.executed write result]) =
      outstanding history ++ [.executed write result] := List.foldl_append

private theorem outstanding_abandoned (history : List Event) (write : Nat) :
    outstanding (history ++ [.abandoned write]) = outstanding history ++ [.abandoned write] :=
  List.foldl_append

def Marked (undertaking : Undertaking) : Prop :=
  match undertaking.stage with
  | .idle => undertaking.put.executed = true ↔ outstanding undertaking.history ≠ []
  | .executing _ => undertaking.put.executed = true
  | .removing => undertaking.put.executed = false ∧ outstanding undertaking.history ≠ []

section Marked

variable {undertaking : Undertaking}

theorem Marked.of_idle (marked : undertaking.Marked) (stage : undertaking.stage = .idle) :
    undertaking.put.executed = true ↔ outstanding undertaking.history ≠ [] := by
  unfold Marked at marked
  rw [stage] at marked
  exact marked

private theorem Marked.of_executing (marked : undertaking.Marked) {write : Nat}
    (stage : undertaking.stage = .executing write) : undertaking.put.executed = true := by
  unfold Marked at marked
  rw [stage] at marked
  exact marked

private theorem Marked.of_removing (marked : undertaking.Marked)
    (stage : undertaking.stage = .removing) :
    undertaking.put.executed = false ∧ outstanding undertaking.history ≠ [] := by
  unfold Marked at marked
  rw [stage] at marked
  exact marked

private theorem Marked.ending_execution {event : Event} {notices : List Notice}
    (executed : undertaking.put.executed = true)
    (added : outstanding (undertaking.history ++ [event]) =
      outstanding undertaking.history ++ [event]) :
    (undertaking.ending event notices).Marked := by
  refine iff_of_true executed ?_
  change outstanding (undertaking.history ++ [event]) ≠ []
  rw [added]
  exact List.concat_ne_nil _ _

private theorem Marked.ending_rollback {calls : List Call} {result : Except Failure Unit}
    {notices : List Notice} (unmarked : undertaking.put.executed = false) :
    (undertaking.ending (.rolledBack calls result) notices).Marked := by
  refine iff_of_false ?_ (not_not_intro (outstanding_rolledBack _ _ _))
  change ¬undertaking.put.executed = true
  rw [unmarked]
  exact Bool.false_ne_true

private theorem Marked.step {move : Move} {after : Undertaking} (marked : undertaking.Marked)
    (steps : undertaking.StepsTo move after) : after.Marked := by
  cases steps with
  | stays => exact marked
  | elsewhere permitted => exact marked
  | refused idle invalid => exact ending_execution rfl (outstanding_executed _ _ _)
  | starts idle valid => exact rfl
  | concludes executing awaited =>
      exact ending_execution (marked.of_executing executing) (outstanding_executed _ _ _)
  | givesUp executing =>
      exact ending_execution (marked.of_executing executing) (outstanding_abandoned _ _)
  | spares idle unmarked => exact ending_rollback unmarked
  | fails idle executed rejecting => exact ending_rollback rfl
  | removes idle executed accepting => exact ⟨rfl, (marked.of_idle idle).mp executed⟩
  | finishes removing => exact ending_rollback (marked.of_removing removing).1

end Marked

/-- Every rollback came out well, and made the one call that there was to make, if any. -/
def Undone (history : List Event) : Prop :=
  ∀ number calls result, history[number]? = some (.rolledBack calls result) →
    result = .ok () ∧ calls = if outstanding (history.take number) = [] then [] else [.remove]

private theorem Undone.concat {history : List Event} (undone : Undone history) {event : Event}
    (fits : ∀ calls result, event = .rolledBack calls result →
      result = .ok () ∧ calls = if outstanding history = [] then [] else [.remove]) :
    Undone (history ++ [event]) := by
  intro number calls result found
  rcases Numbering.getElem?_concat_iff.mp found with before | ⟨rfl, same⟩
  · have within : number < history.length := (List.getElem?_eq_some_iff.mp before).1
    rw [List.take_append_of_le_length (Nat.le_of_lt within)]
    exact undone number calls result before
  · rw [List.take_left]
    exact fits calls result same

/-- What an execution that started this write, or none, may report. -/
inductive Reports (request : Request) (writes : Nat → Workload.Participant) :
    Option Nat → Except Failure Unit → Prop
  | invalid {failure : Failure} (checked : request.check = .error failure) :
      Reports request writes none (.error failure)
  | verdict {write : Nat} {accepted : Bool}
      (decided : (writes write).write.verdict? = some accepted) :
      Reports request writes (some write)
        (if accepted then .ok () else .error (.putFailed request.text))

/-! ### Invariants -/

theorem present_of_permits {started : Nat} {move : Workload.Move Nat}
    (permitted : permits started move = true) (write : Nat) : move ≠ .lose write := by
  rintro rfl
  cases permitted

private theorem not_advance_of_permits {started write : Nat} {move : Workload.Move Nat}
    (permitted : permits started move = true) (later : started ≤ write) :
    move ≠ .advance write := by
  rintro rfl
  exact Nat.not_lt_of_le later (of_decide_eq_true permitted)

structure Sound (request : Request) (budget : UInt32) (undertaking : Undertaking) : Prop where
  request_eq : undertaking.put.request = request
  tended : undertaking.workload.Tended request budget
  fresh : ∀ write, undertaking.started ≤ write →
    undertaking.workload.writes write = .of request budget
  current : ∀ write, undertaking.stage = .executing write → write < undertaking.started
  marked : undertaking.Marked
  undone : Undone undertaking.history
  reported : ∀ write result, .executed write result ∈ undertaking.history →
    Reports request undertaking.workload.writes write result

namespace Sound

variable {request : Request} {budget : UInt32} {undertaking : Undertaking}

theorem of (request : Request) (budget : UInt32) (metered : Bool) {cluster : Cluster}
    (placed : cluster.Placed) :
    (of { request, budget, metered } cluster).Sound request budget where
  request_eq := rfl
  tended := ⟨placed, fun _ => .start request budget⟩
  fresh := fun _ _ => rfl
  current := nofun
  marked := iff_of_false Bool.false_ne_true (not_not_intro rfl)
  undone := nofun
  reported := nofun

private theorem reported_concat (sound : undertaking.Sound request budget) {event : Event}
    (reports : ∀ write result, event = .executed write result →
      Reports request undertaking.workload.writes write result)
    (write : Option Nat) (result : Except Failure Unit)
    (present : .executed write result ∈ undertaking.history ++ [event]) :
    Reports request undertaking.workload.writes write result := by
  rcases List.mem_append.mp present with before | here
  · exact sound.reported write result before
  · exact reports write result (List.mem_singleton.mp here).symm

private theorem undone_concat_nil (sound : undertaking.Sound request budget)
    (idle : undertaking.stage = .idle) (unmarked : undertaking.put.executed = false) :
    Undone (undertaking.history ++ [.rolledBack [] (.ok ())]) := by
  apply sound.undone.concat
  intro calls result same
  cases same
  have none : outstanding undertaking.history = [] := by
    refine Decidable.not_not.mp fun owing => ?_
    have mark := (sound.marked.of_idle idle).mpr owing
    rw [unmarked] at mark
    cases mark
  exact ⟨rfl, (if_pos none).symm⟩

private theorem undone_concat_removal (sound : undertaking.Sound request budget)
    (owing : outstanding undertaking.history ≠ []) :
    Undone (undertaking.history ++ [.rolledBack [.remove] (.ok ())]) := by
  apply sound.undone.concat
  intro calls result same
  cases same
  exact ⟨rfl, (if_neg owing).symm⟩

theorem step {move : Move} {after : Undertaking} (sound : undertaking.Sound request budget)
    (steps : undertaking.StepsTo move after) : after.Sound request budget := by
  have marked := sound.marked.step steps
  cases steps with
  | stays => exact sound
  | elsewhere permitted =>
      have present := present_of_permits permitted
      exact
        { sound with
          tended := sound.tended.step _ present
          fresh := by
            intro write later
            rw [undertaking.workload.writes_step, if_neg (not_advance_of_permits permitted later),
              if_neg (present write)]
            exact sound.fresh write later
          marked := marked
          reported := by
            intro write result told
            cases sound.reported write result told with
            | invalid checked => exact .invalid checked
            | @verdict number accepted decided =>
                exact .verdict (undertaking.workload.verdict?_step _ number (present number)
                  (sound.tended.alive number) decided) }
  | refused idle invalid =>
      rw [sound.request_eq] at invalid
      exact
        { sound with
          current := nofun
          marked := marked
          undone := sound.undone.concat nofun
          reported := sound.reported_concat fun _ _ same => by
            cases same
            exact .invalid invalid }
  | starts idle valid =>
      exact
        { sound with
          fresh := fun write later => sound.fresh write (Nat.le_of_succ_le later)
          current := fun write same => by
            cases same
            exact Nat.lt_succ_self _
          marked := marked }
  | @concludes write accepted notices executing awaited =>
      have told := (sound.tended.alive write).awaited?_eq
      rw [awaited] at told
      exact
        { sound with
          current := nofun
          marked := marked
          undone := sound.undone.concat nofun
          reported := sound.reported_concat fun _ _ same => by
            cases same
            rw [← sound.request_eq]
            exact .verdict told.symm }
  | givesUp executing =>
      exact
        { sound with
          current := nofun
          marked := marked
          undone := sound.undone.concat nofun
          reported := sound.reported_concat nofun }
  | spares idle unmarked =>
      exact
        { sound with
          current := nofun
          marked := marked
          undone := sound.undone_concat_nil idle unmarked
          reported := sound.reported_concat nofun }
  | fails idle executed rejecting =>
      exact
        { sound with
          current := nofun
          marked := marked
          undone := sound.undone_concat_removal ((sound.marked.of_idle idle).mp executed)
          reported := sound.reported_concat nofun }
  | removes idle executed accepting =>
      exact
        { sound with
          tended := ⟨sound.tended.placed.taking .remove, sound.tended.alive⟩
          current := nofun
          marked := marked }
  | finishes removing =>
      exact
        { sound with
          tended := ⟨sound.tended.placed.complete .remove _, sound.tended.alive⟩
          current := nofun
          marked := marked
          undone := sound.undone_concat_removal (sound.marked.of_removing removing).2
          reported := sound.reported_concat nofun }

theorem run (sound : undertaking.Sound request budget) (moves : List Move) :
    (undertaking.run moves).Sound request budget :=
  undertaking.run_invariant (Sound request budget) moves
    (fun _ _ _ _ steps sound => sound.step steps) sound

end Sound
/-! ### Until the next execution -/

/-- Nothing is executed in the run, and all else that goes on is allowed where it happens. -/
def Quietly (allowed : Workload Nat → Workload.Move Nat → Prop) : List Move → Undertaking → Prop
  | [], _ => True
  | move :: rest, undertaking =>
      move ≠ .execute ∧
        (∀ elsewhere, move = .elsewhere elsewhere → allowed undertaking.workload elsewhere) ∧
        Quietly allowed rest (undertaking.step move)

structure Resting (undertaking : Undertaking) : Prop where
  idle : undertaking.stage = .idle
  unmarked : undertaking.put.executed = false

variable {undertaking after : Undertaking} {move : Move}

/-- As long as nothing is executed, a step with nothing to undo lets the store alone. -/
theorem Resting.step (resting : undertaking.Resting) (steps : undertaking.StepsTo move after)
    (unexecuted : move ≠ .execute) :
    after.Resting ∧ after.started = undertaking.started ∧
      (after.workload = undertaking.workload ∨
        ∃ elsewhere, move = .elsewhere elsewhere ∧
          permits undertaking.started elsewhere = true ∧
          after.workload = undertaking.workload.step elsewhere) := by
  have unlike : ∀ {stage : Stage}, undertaking.stage = stage → stage ≠ .idle → False :=
    fun same other => other (same.symm.trans resting.idle)
  have unmarked : undertaking.put.executed ≠ true := by
    rw [resting.unmarked]
    exact Bool.false_ne_true
  cases steps with
  | stays => exact ⟨resting, rfl, .inl rfl⟩
  | elsewhere permitted =>
      exact ⟨⟨resting.idle, resting.unmarked⟩, rfl, .inr ⟨_, rfl, permitted, rfl⟩⟩
  | refused idle invalid => exact absurd rfl unexecuted
  | starts idle valid => exact absurd rfl unexecuted
  | concludes executing awaited => exact (unlike executing nofun).elim
  | givesUp executing => exact (unlike executing nofun).elim
  | spares idle _ => exact ⟨⟨rfl, resting.unmarked⟩, rfl, .inl rfl⟩
  | fails idle executed rejecting => exact absurd executed unmarked
  | removes idle executed accepting => exact absurd executed unmarked
  | finishes removing => exact (unlike removing nofun).elim

theorem Sound.finish_absent {request : Request} {budget : UInt32}
    (sound : undertaking.Sound request budget) (removing : undertaking.stage = .removing)
    {response : Response}
    (removed : (undertaking.workload.cluster.complete .remove request).1 = .ok response)
    (online : undertaking.workload.cluster.Online request.location) :
    (undertaking.step .finish).Resting ∧
      (undertaking.step .finish).workload.cluster.Absent request.versionKey := by
  rw [undertaking.finish_eq removing]
  refine ⟨⟨rfl, (sound.marked.of_removing removing).1⟩, ?_⟩
  change (undertaking.workload.cluster.complete .remove undertaking.put.request).2.Absent _
  rw [sound.request_eq]
  exact sound.tended.placed.absent_of_removed request removed online

theorem Quietly.invariant {allowed : Workload Nat → Workload.Move Nat → Prop}
    (kept : Workload Nat → Prop) {started : Nat}
    (step : ∀ workload move, permits started move = true → allowed workload move →
      kept workload → kept (workload.step move))
    {moves : List Move} (quietly : Quietly allowed moves undertaking)
    (resting : undertaking.Resting) (same : undertaking.started = started)
    (holds : kept undertaking.workload) : kept (undertaking.run moves).workload := by
  induction moves generalizing undertaking with
  | nil => exact holds
  | cons move rest ih =>
      obtain ⟨unexecuted, permitted, later⟩ := quietly
      obtain ⟨still, count, here | ⟨elsewhere, rfl, permits, here⟩⟩ :=
        resting.step (undertaking.stepsTo_step move) unexecuted
      · exact ih later still (count.trans same) (by rw [here]; exact holds)
      · refine ih later still (count.trans same) ?_
        rw [here]
        exact step _ _ (same ▸ permits) (permitted elsewhere rfl) holds

end Quorate.Process.Undertaking
