import Quorate.Proofs.Write.Accounts
import Quorate.Proofs.Write.Audience

/-!
How much a write still has to do. Unless its task is lost, a write comes to its verdict in a number
of its own steps that is known beforehand, whatever else happens to the store meanwhile and however
its calls end. The greatest budget is the exception, as it allows any number of retries.
-/

namespace Quorate

open Store

namespace Write

/-- The write has got somewhere, and its task has not gone away. -/
structure Alive (request : Request) (budget : UInt32) (write : Write) : Prop where
  progress : ∃ ends, Audience.Progress request budget write ends
  present : write.stage ≠ .lost

section Alive

variable {request : Request} {budget : UInt32} {write : Write}

private theorem present_receive (present : write.stage ≠ .lost) (completion : Completion) :
    (write.receive completion).1.stage ≠ .lost := by
  have hears := write.hears_receive completion
  generalize write.receive completion = outcome at hears ⊢
  cases hears with
  | idle none => exact present
  | accepted putting events => nofun
  | denied putting givingUp exceeded events => nofun
  | removed removing notices remarks => nofun
  | gaveUp removing notices remarks => nofun

namespace Alive

theorem start (request : Request) (budget : UInt32) :
    Alive request budget { request := request, budget := budget } where
  progress := ⟨[], .putting [] nofun nofun⟩
  present := nofun

theorem receive (alive : Alive request budget write) (completion : Completion) :
    Alive request budget (write.receive completion).1 where
  progress := alive.progress.elim fun _ progress => ⟨_, progress.receive completion⟩
  present := present_receive alive.present completion

theorem request_eq (alive : Alive request budget write) : write.request = request := by
  obtain ⟨ends, progress⟩ := alive.progress
  cases progress with
  | lost _ _ gone closed => exact absurd gone alive.present
  | _ => rfl

theorem awaited?_eq (alive : Alive request budget write) :
    write.awaited?.map Prod.fst = write.verdict? := by
  obtain ⟨ends, progress⟩ := alive.progress
  rw [progress.awaited?_eq, if_neg alive.present]

private theorem verdict?_eq_none_iff (alive : Alive request budget write) :
    write.verdict? = none ↔ write.call? ≠ none := by
  obtain ⟨ends, progress⟩ := alive.progress
  rw [progress.verdict?_eq_none_iff]
  exact or_iff_left alive.present

theorem call?_of_verdict? (alive : Alive request budget write) {accepted : Bool}
    (decided : write.verdict? = some accepted) : write.call? = none := by
  refine Decidable.not_not.mp fun busy => ?_
  rw [alive.verdict?_eq_none_iff.mpr busy] at decided
  cases decided

theorem exists_verdict (alive : Alive request budget write) (idle : write.call? = none) :
    ∃ accepted notices, write.verdict? = some accepted ∧
      write.awaited? = some (accepted, notices) := by
  have decided : write.verdict? ≠ none := fun none => alive.verdict?_eq_none_iff.mp none idle
  obtain ⟨accepted, found⟩ := Option.ne_none_iff_exists'.mp decided
  have awaited := alive.awaited?_eq.trans found
  obtain ⟨⟨told, notices⟩, ended, rfl⟩ := Option.map_eq_some_iff.mp awaited
  exact ⟨told, notices, found, ended⟩

end Alive
end Alive

/-! ### Calls -/

/-- The calls that the write still makes, at most. -/
def callsToCome (write : Write) : Nat :=
  let rounds := write.budget.toNat + 1 - write.retries.toNat
  match write.stage with
  | .putting => 2 * rounds
  | .removing false => 2 * rounds + 1
  | .removing true => 1
  | .decided _ => 0
  | .lost => 0

section Calls

variable (request : Request) {budget : UInt32} {count : Nat}

private theorem rounds_attempting (bounded : budget.toNat + 1 < UInt32.size)
    (le : count ≤ budget.toNat + 1) :
    (attempting request budget count).retries.toNat = count := by
  rw [retries_attempting]
  exact Nat.mod_eq_of_lt (Nat.lt_of_le_of_lt le bounded)

private theorem callsToCome_attempting (bounded : budget.toNat + 1 < UInt32.size)
    (le : count ≤ budget.toNat + 1) :
    (attempting request budget count).callsToCome = 2 * (budget.toNat + 1 - count) := by
  change 2 * (budget.toNat + 1 - (attempting request budget count).retries.toNat) = _
  rw [rounds_attempting request bounded le]

private theorem callsToCome_takingBack (bounded : budget.toNat + 1 < UInt32.size)
    (le : count ≤ budget.toNat + 1) (givingUp : Bool) :
    (takingBack request budget count givingUp).callsToCome =
      if givingUp then 1 else 2 * (budget.toNat + 1 - count) + 1 := by
  cases givingUp with
  | true => rfl
  | false =>
      change 2 * (budget.toNat + 1 - (attempting request budget count).retries.toNat) + 1 = _
      rw [rounds_attempting request bounded le]
      rfl

variable {request} {write : Write}

theorem Alive.callsToCome_le (alive : Alive request budget write)
    (bounded : budget.toNat + 1 < UInt32.size) :
    write.callsToCome ≤ 2 * (budget.toNat + 1) := by
  obtain ⟨ends, progress⟩ := alive.progress
  cases progress with
  | putting _ missed within =>
      have le := within.le bounded
      rw [callsToCome_attempting request bounded (by omega)]
      omega
  | removing earlier _ heard missed within givingUp exceeded =>
      have le := within.le bounded
      rw [callsToCome_takingBack request bounded (by omega)]
      split <;> omega
  | reached earlier _ last found within accepted => exact Nat.zero_le _
  | failed earlier _ missed => exact Nat.zero_le _
  | lost _ _ gone closed => exact absurd gone alive.present

/-- The end of a call leaves fewer calls to come. -/
theorem Alive.callsToCome_receive (alive : Alive request budget write)
    (bounded : budget.toNat + 1 < UInt32.size) (busy : write.call? ≠ none)
    (completion : Completion) :
    (write.receive completion).1.callsToCome < write.callsToCome := by
  obtain ⟨ends, progress⟩ := alive.progress
  cases progress with
  | putting _ missed within =>
      have le := within.le bounded
      rw [callsToCome_attempting request bounded (by omega)]
      cases accepted : (Quorum.evaluate completion).accepted with
      | true =>
          rw [receive_accepted request budget ends.length completion accepted]
          change 0 < _
          omega
      | false =>
          rw [receive_missed request budget ends.length completion accepted,
            callsToCome_takingBack request bounded (by omega)]
          split <;> omega
  | removing earlier _ heard missed within givingUp exceeded =>
      have le := within.le bounded
      rw [callsToCome_takingBack request bounded (by omega), receive_removed]
      cases givingUp with
      | true => exact Nat.one_pos
      | false =>
          change (attempting request budget (earlier + 1)).callsToCome < _
          rw [callsToCome_attempting request bounded (by omega)]
          exact Nat.lt_succ_self _
  | reached earlier _ last found within accepted => exact absurd rfl busy
  | failed earlier _ missed => exact absurd rfl busy
  | lost _ _ gone closed => exact absurd gone alive.present

end Calls
end Write

/-! ### Steps -/

namespace Workload

/-- A call takes two steps, and one of them is done when the store has taken it. -/
def Participant.stepsToCome (participant : Participant) : Nat :=
  2 * participant.write.callsToCome - if participant.underway then 1 else 0

section Steps

variable {request : Request} {budget : UInt32} {participant : Participant}

private theorem Participant.stepsToCome_le (alive : participant.write.Alive request budget)
    (bounded : budget.toNat + 1 < UInt32.size) :
    participant.stepsToCome ≤ 4 * (budget.toNat + 1) := by
  have calls := alive.callsToCome_le bounded
  unfold stepsToCome
  omega

private theorem Participant.stepsToCome_advance (alive : participant.write.Alive request budget)
    (bounded : budget.toNat + 1 < UInt32.size) (busy : participant.write.call? ≠ none)
    (cluster : Cluster) :
    (participant.advance cluster).1.stepsToCome < participant.stepsToCome := by
  have fewer := alive.callsToCome_receive bounded busy
  have step := participant.advancesTo_advance cluster
  generalize participant.advance cluster = outcome at step ⊢
  cases step with
  | idle none => exact absurd none busy
  | @completed call wanted underway =>
      have less := fewer (cluster.complete call participant.write.request).1
      change 2 * (participant.write.receive _).1.callsToCome - 0 <
        2 * participant.write.callsToCome - if participant.underway then 1 else 0
      rw [if_pos underway]
      omega
  | refused wanted resting rejecting =>
      have less := fewer (.error Cluster.refusal)
      change 2 * (participant.write.receive _).1.callsToCome - 0 <
        2 * participant.write.callsToCome - if participant.underway then 1 else 0
      rw [if_neg (by rw [resting]; exact Bool.false_ne_true)]
      omega
  | taken wanted resting accepting =>
      have more := fewer (.error Cluster.refusal)
      change 2 * participant.write.callsToCome - 1 <
        2 * participant.write.callsToCome - if participant.underway then 1 else 0
      rw [if_neg (by rw [resting]; exact Bool.false_ne_true)]
      omega

variable {ι : Type} [DecidableEq ι]

private theorem alive_step (workload : Workload ι) (move : Move ι) (index : ι)
    (present : move ≠ .lose index) (alive : (workload.writes index).write.Alive request budget) :
    ((workload.step move).writes index).write.Alive request budget :=
  workload.step_write_of_present move (Write.Alive request budget)
    (fun _ completion alive => alive.receive completion) index present alive

structure Tended (request : Request) (budget : UInt32) (workload : Workload ι) : Prop where
  placed : workload.cluster.Placed
  alive : ∀ index, (workload.writes index).write.Alive request budget

theorem Tended.step {workload : Workload ι} (tended : workload.Tended request budget)
    (move : Move ι) (present : ∀ index, move ≠ .lose index) :
    (workload.step move).Tended request budget where
  placed := workload.step_placed move tended.placed
  alive := fun index => workload.alive_step move index (present index) (tended.alive index)

theorem verdict?_step (workload : Workload ι) (move : Move ι) (index : ι)
    (present : move ≠ .lose index) (alive : (workload.writes index).write.Alive request budget)
    {accepted : Bool} (decided : (workload.writes index).write.verdict? = some accepted) :
    ((workload.step move).writes index).write.verdict? = some accepted := by
  have idle := alive.call?_of_verdict? decided
  refine (workload.step_write_of_present move
    (fun write => write.call? = none ∧ write.verdict? = some accepted) ?_ index present
    ⟨idle, decided⟩).2
  intro write completion kept
  rw [Write.receive_of_no_call kept.1]
  exact kept

private theorem run_stepsToCome (bounded : budget.toNat + 1 < UInt32.size) (index : ι)
    (moves : List (Move ι)) (present : .lose index ∉ moves) (workload : Workload ι)
    (alive : (workload.writes index).write.Alive request budget) :
    ((workload.run moves).writes index).write.call? = none ∨
      ((workload.run moves).writes index).stepsToCome + moves.count (.advance index) ≤
        (workload.writes index).stepsToCome := by
  induction moves generalizing workload with
  | nil => exact .inr (Nat.le_refl _)
  | cons move rest ih =>
      have here : move ≠ .lose index := fun same => present (same ▸ List.mem_cons_self)
      have later := ih (fun among => present (List.mem_cons_of_mem move among))
        (workload.step move) (workload.alive_step move index here alive)
      by_cases own : move = .advance index
      · subst own
        by_cases idle : (workload.writes index).write.call? = none
        · exact .inl (run_no_call _ workload index idle)
        · refine later.imp_right fun remaining => ?_
          have less := Participant.stepsToCome_advance alive bounded idle workload.cluster
          rw [workload.writes_step, if_pos rfl] at remaining
          rw [List.count_cons_self]
          change ((workload.run (.advance index :: rest)).writes index).stepsToCome + _ ≤ _
            at remaining
          omega
      · refine later.imp_right fun remaining => ?_
        rw [workload.writes_step, if_neg own, if_neg here] at remaining
        rw [List.count_cons_of_ne own]
        exact remaining

private theorem alive_run (index : ι) (moves : List (Move ι)) (present : .lose index ∉ moves)
    (workload : Workload ι) (alive : (workload.writes index).write.Alive request budget) :
    ((workload.run moves).writes index).write.Alive request budget := by
  induction moves generalizing workload with
  | nil => exact alive
  | cons move rest ih =>
      have here : move ≠ .lose index := fun same => present (same ▸ List.mem_cons_self)
      exact ih (fun among => present (List.mem_cons_of_mem move among)) (workload.step move)
        (workload.alive_step move index here alive)

/-- A write that is not lost makes no more calls after so many steps of its own. -/
theorem run_idle (bounded : budget.toNat + 1 < UInt32.size) (index : ι) (moves : List (Move ι))
    (present : .lose index ∉ moves) (workload : Workload ι)
    (alive : (workload.writes index).write.Alive request budget)
    (enough : 4 * (budget.toNat + 1) ≤ moves.count (.advance index)) :
    ((workload.run moves).writes index).write.call? = none := by
  rcases workload.run_stepsToCome bounded index moves present alive with idle | remaining
  · exact idle
  · have most := Participant.stepsToCome_le alive bounded
    have still := workload.alive_run index moves present alive
    refine Decidable.not_not.mp fun busy => ?_
    have less := Participant.stepsToCome_advance still bounded busy (workload.run moves).cluster
    omega

end Steps
end Workload
end Quorate
