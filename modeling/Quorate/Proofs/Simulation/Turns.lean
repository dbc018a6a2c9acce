import Quorate.Proofs.Write.Workload
import Quorate.Simulation.Task

/-!
Turns of simulated writes. A write that has its turn in a simulation goes on until the store takes a
call or there is none to make. That is a number of its steps in a workload, with nothing in between.
-/

namespace Quorate.Simulation.WriteRun

open Store Workload

def underway (run : WriteRun) : Bool := decide (run.pause ≠ .untried)

def participant (run : WriteRun) (notices : List Notice) : Participant :=
  { write := run.write, underway := run.underway, notices := notices }

private theorem underway_pauseOf (run : WriteRun) (world : World) :
    underway { run with pause := world.pauseOf } = true := by
  unfold underway World.pauseOf
  dsimp only
  split <;> rfl

private theorem participant_receive (run : WriteRun) (world : World) (completion : Completion)
    (participant : Participant) (own : participant.write = run.write) :
    participant.receive completion =
      (run.receive completion world).1.participant (participant.receive completion).notices := by
  obtain ⟨write, underway, notices⟩ := participant
  obtain rfl := own
  rfl

private theorem issue_of_rejecting (left : Nat) (run : WriteRun) (world : World) {call : Call}
    (wanted : run.write.call? = some call) (rejecting : world.cluster.rejecting = true) :
    ∃ told : World, told.cluster = world.cluster ∧
      let (later, after) :=
        run.receive (.error Cluster.refusal) told
      issue (left + 1) run world = issue left later after := by
  refine ⟨world.note (some (.put run.write.request)) run.metered run.started
    [.counted (Write.counterOf call)], rfl, ?_⟩
  dsimp only
  rw [issue, wanted]
  dsimp only
  rw [Cluster.submit_eq]
  have refused : (world.note (some (.put run.write.request)) run.metered run.started
    [.counted (Write.counterOf call)]).cluster.rejecting = true := rejecting
  rw [if_pos refused]

private theorem issue_of_accepting (left : Nat) (run : WriteRun) (world : World) {call : Call}
    (wanted : run.write.call? = some call) (accepting : world.cluster.rejecting = false) :
    ∃ told : World, told.cluster = world.cluster.taking call ∧
      issue (left + 1) run world = ({ run with pause := told.pauseOf }, told) := by
  refine ⟨{ world.note (some (.put run.write.request)) run.metered run.started
    [.counted (Write.counterOf call)] with cluster := world.cluster.taking call }, rfl, ?_⟩
  rw [issue, wanted]
  dsimp only
  rw [Cluster.submit_eq]
  have taken : ¬(world.note (some (.put run.write.request)) run.metered run.started
      [.counted (Write.counterOf call)]).cluster.rejecting = true := by
    change ¬world.cluster.rejecting = true
    rw [accepting]
    exact Bool.false_ne_true
  rw [if_neg taken]
  rfl

private theorem issue_eq_advances (left : Nat) (run : WriteRun) (world : World)
    (notices : List Notice) (resting : run.pause = .untried) :
    ∃ count later, (run.participant notices).advances world.cluster count =
      ((issue left run world).1.participant later, (issue left run world).2.cluster) := by
  induction left generalizing run world notices with
  | zero => exact ⟨0, notices, rfl⟩
  | succ left ih =>
      cases wanted : run.write.call? with
      | none =>
          refine ⟨0, notices, ?_⟩
          rw [issue, wanted]
          rfl
      | some call =>
          have still : (run.participant notices).underway = false := by
            unfold participant underway
            rw [resting]
            rfl
          cases rejecting : world.cluster.rejecting with
          | true =>
              obtain ⟨told, same, issued⟩ := issue_of_rejecting left run world wanted rejecting
              dsimp only at issued
              have step := (run.participant notices).advance_of_rejecting world.cluster wanted still
                rejecting
              rw [participant_receive run told _ _ rfl] at step
              obtain ⟨count, later, reached⟩ := ih (run.receive (.error Cluster.refusal) told).1
                (run.receive (.error Cluster.refusal) told).2
                (((run.participant notices).calling call).receive
                  (.error Cluster.refusal)).notices rfl
              refine ⟨count + 1, later, ?_⟩
              rw [Participant.advances_succ, step, issued, ← reached, ← same]
              rfl
          | false =>
              obtain ⟨told, taken, issued⟩ := issue_of_accepting left run world wanted rejecting
              have step := (run.participant notices).advance_of_accepting world.cluster wanted still
                rejecting
              refine ⟨1, ((run.participant notices).calling call).notices, ?_⟩
              rw [Participant.advances_succ, step, issued, ← taken]
              unfold participant
              rw [underway_pauseOf]
              rfl

private theorem issue_of_no_call (left : Nat) (run : WriteRun) (world : World)
    (idle : run.write.call? = none) : issue left run world = (run, world) := by
  cases left with
  | zero => rfl
  | succ left => rw [issue, idle]

/-- A turn is a number of steps of the write, and nobody else comes in between. -/
theorem turn_eq_advances (run : WriteRun) (world : World) (notices : List Notice) :
    ∃ count later, (run.participant notices).advances world.cluster count =
      ((run.turn world).1.participant later, (run.turn world).2.cluster) := by
  by_cases resting : run.pause = .untried
  · have issued : run.turn world = run.issue run.write.callsLeft world := by
      unfold turn
      rw [resting]
    rw [issued]
    exact issue_eq_advances _ run world notices resting
  · cases wanted : run.write.call? with
    | none =>
        have ended : run.turn world = (run, world) := by
          unfold turn
          rw [wanted]
          cases run.pause <;> exact issue_of_no_call _ run world wanted
        rw [ended]
        exact ⟨0, notices, rfl⟩
    | some call =>
        have completed : run.turn world = issue (run.complete call world).1.write.callsLeft
            (run.complete call world).1 (run.complete call world).2 := by
          unfold turn
          rw [wanted]
          cases pause : run.pause with
          | untried => exact absurd pause resting
          | yielding => rfl
          | sleeping due => rfl
        have underway : (run.participant notices).underway = true := decide_eq_true resting
        have step := (run.participant notices).advance_of_underway world.cluster wanted underway
        obtain ⟨count, later, reached⟩ := issue_eq_advances
          (run.complete call world).1.write.callsLeft (run.complete call world).1
          (run.complete call world).2
          ((run.participant notices).receive
            (world.cluster.complete call run.write.request).1).notices rfl
        refine ⟨count + 1, later, ?_⟩
        rw [Participant.advances_succ, step, completed, ← reached]
        rfl

end Quorate.Simulation.WriteRun
