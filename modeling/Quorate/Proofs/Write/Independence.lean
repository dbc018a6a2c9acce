import Quorate.Proofs.Write.Verdict
import Quorate.Proofs.Write.Workload

/-!
Writes among each other. As long as the peers keep their behaviour and the store takes every call,
how a put ends depends on nothing that a write changes: not on what the peers hold, and not on how
many calls there were. So a write goes through the steps that it goes through alone, whenever its
turn comes.
-/

namespace Quorate

open Store

namespace Store

private theorem Behavior.next_eq {behavior : Behavior}
    (fixed : ∀ count, behavior ≠ .denyTimes count) : behavior.next = behavior := by
  cases behavior with
  | denyTimes count => exact absurd rfl (fixed count)
  | _ => rfl

namespace Cluster

/-- No peer is about to change its behaviour by itself. -/
def Fixed (cluster : Cluster) : Prop :=
  ∀ entry, entry ∈ cluster.profile → ∀ count, entry.2 ≠ .denyTimes count

def taken (cluster : Cluster) : Call → UInt32
  | .put => cluster.puts
  | .remove => cluster.removals

/-- The store is as it was, but for what the peers hold, for the numbers of calls, and for removals
that fail. -/
structure Like (cluster now : Cluster) : Prop where
  profile : now.profile = cluster.profile
  factor : now.factor = cluster.factor
  accepting : now.rejecting = false
  sound : now.failingPuts = 0

variable {cluster now other : Cluster}

private theorem rejecting_taking (now : Cluster) (call : Call) :
    (now.taking call).rejecting = now.rejecting := by
  cases call <;> rfl

private theorem rejecting_complete (now : Cluster) (call : Call) (request : Request) :
    (now.complete call request).2.rejecting = now.rejecting := by
  cases call with
  | put => exact (now.completePut_settings request).2.1
  | remove => exact (now.completeRemoval_settings request).2.1

private theorem Like.taking (like : cluster.Like now) (call : Call) :
    cluster.Like (now.taking call) := by
  cases call with
  | put => exact ⟨like.profile, like.factor, like.accepting, like.sound⟩
  | remove => exact ⟨like.profile, like.factor, like.accepting, like.sound⟩

private theorem Like.complete (like : cluster.Like now) (fixed : cluster.Fixed) (call : Call)
    (request : Request) : cluster.Like (now.complete call request).2 := by
  have factor := (now.factor_complete call request).trans like.factor
  have accepting := (now.rejecting_complete call request).trans like.accepting
  cases call with
  | put =>
      refine ⟨?_, factor, accepting, ?_⟩
      · change (now.completePut request).2.profile = cluster.profile
        rw [now.profile_completePut, if_pos like.sound, like.profile]
        refine (List.map_congr_left ?_).trans (List.map_id cluster.profile)
        intro entry present
        rw [Behavior.next_eq (fixed entry present), ite_self]
        rfl
      · obtain ⟨_, _, failing, _⟩ := now.completePut_settings request
        change (now.completePut request).2.failingPuts = 0
        rw [failing, like.sound]
  | remove =>
      obtain ⟨_, _, failing, _⟩ := now.completeRemoval_settings request
      exact ⟨(now.profile_completeRemoval request).trans like.profile, factor, accepting,
        failing.trans like.sound⟩

private theorem taken_complete (now : Cluster) (call kind : Call) (request : Request) :
    (now.complete call request).2.taken kind = now.taken kind := by
  cases call with
  | put =>
      obtain ⟨_, _, _, puts, removals⟩ := now.completePut_settings request
      cases kind with
      | put => exact puts
      | remove => exact removals
  | remove =>
      obtain ⟨_, _, _, puts, removals⟩ := now.completeRemoval_settings request
      cases kind with
      | put => exact puts
      | remove => exact removals

private theorem taken_taking (now : Cluster) (call kind : Call) :
    (now.taking call).taken kind = now.taken kind + if call = kind then 1 else 0 := by
  cases call <;> cases kind <;> simp [Cluster.taking, taken]

theorem serve_eq (now : Cluster) (call : Call) (request : Request)
    (accepting : now.rejecting = false) :
    serve call request now =
      (some ((now.taking call).complete call request).1,
        ((now.taking call).complete call request).2) := by
  unfold serve
  rw [now.submit_eq, if_neg (by rw [accepting]; exact Bool.false_ne_true)]

private theorem acks_eq_profile (request : Request) :
    (now.apply request.location (Replica.put request) (Replica.put_peer request)).1.acks =
      (now.profile.filter fun entry =>
        decide (entry.1 ∈ now.responsible request.location) &&
          decide (entry.2 ≠ .offline)).map fun entry =>
        ⟨entry.1, entry.2.status?.map fun status => [(request.versionKey, status)]⟩ := by
  rw [acks_apply_put]
  unfold profile
  rw [List.filter_map, List.map_map]
  rfl

private theorem complete_put_of_sound (sound : now.failingPuts = 0) (request : Request) :
    (now.complete .put request).1 = .ok (now.apply request.location (Replica.put request)
      (Replica.put_peer request)).1 := by
  change (now.completePut request).1 = _
  unfold completePut
  rw [sound]

private theorem Like.put_eq (like : cluster.Like now) (also : cluster.Like other)
    (request : Request) : (now.complete .put request).1 = (other.complete .put request).1 := by
  have profile := like.profile.trans also.profile.symm
  have responsible : now.responsible request.location = other.responsible request.location := by
    apply responsible_congr request.location _ (like.factor.trans also.factor.symm)
    rw [peers_eq_profile, peers_eq_profile, profile]
  have acks := now.acks_eq_profile request
  rw [profile, responsible, ← other.acks_eq_profile request] at acks
  rw [complete_put_of_sound like.sound, complete_put_of_sound also.sound]
  exact congrArg (fun acks => (.ok ⟨acks⟩ : Completion)) acks

end Cluster
end Store

/-! ### Single steps -/

namespace Write

def issued (call : Call) (notices : List Notice) : Nat :=
  notices.count (.counted (counterOf call))

private theorem issued_append (call : Call) (notices later : List Notice) :
    issued call (notices ++ later) = issued call notices + issued call later :=
  List.count_append

private theorem issued_counted (call kind : Call) :
    issued kind [.counted (counterOf call)] = if call = kind then 1 else 0 := by
  cases call <;> cases kind <;> rfl

private theorem issued_receive (write : Write) (completion : Completion) (call : Call) :
    issued call (write.receive completion).2 = 0 := by
  have reported : ∀ events : List Journal.Event, issued call (events.map .reported) = 0 := by
    intro events
    apply List.count_eq_zero_of_not_mem
    intro present
    obtain ⟨event, _, same⟩ := List.mem_map.mp present
    cases same
  cases stage : write.stage with
  | putting =>
      have heard : write.receive completion = write.receivePut completion := by
        unfold receive
        rw [stage]
      rw [heard]
      unfold receivePut
      dsimp only
      split
      · rw [issued_append, reported]
        rfl
      · split
        · rw [issued_append, reported]
          rfl
        · rw [issued_append, reported]
          rfl
  | removing givingUp =>
      have heard : write.receive completion = write.receiveRemoval givingUp completion := by
        unfold receive
        rw [stage]
      rw [heard]
      cases givingUp <;> cases completion <;> cases call <;> rfl
  | decided accepted =>
      unfold receive
      rw [stage]
      rfl
  | lost =>
      unfold receive
      rw [stage]
      rfl

private theorem receive_congr (write : Write) (call : Call) (wanted : write.call? = some call)
    (left right : Completion) (same : call = .put → left = right) :
    (write.receive left).1 = (write.receive right).1 := by
  unfold receive
  cases stage : write.stage with
  | putting =>
      unfold call? at wanted
      rw [stage] at wanted
      cases wanted
      rw [same rfl]
  | removing givingUp => cases givingUp <;> rfl
  | decided accepted => rfl
  | lost => rfl

end Write

namespace Workload

namespace Participant

def issued (participant : Participant) (call : Call) : Nat :=
  Write.issued call participant.notices

/-- The same but for what was told besides the calls. -/
structure Matches (left right : Participant) : Prop where
  write : left.write = right.write
  underway : left.underway = right.underway
  issued : ∀ call, left.issued call = right.issued call

private theorem receive_write (participant : Participant) (completion : Completion) :
    (participant.receive completion).write = (participant.write.receive completion).1 := rfl

private theorem receive_notices (participant : Participant) (call : Call)
    (completion : Completion) :
    ((participant.calling call).receive completion).notices =
      participant.notices ++ [.counted (Write.counterOf call)] ++
        (participant.write.receive completion).2 := rfl

private theorem receive_underway (participant : Participant) (completion : Completion) :
    (participant.receive completion).underway = false := rfl

private theorem issued_receive (participant : Participant) (completion : Completion) (call : Call) :
    (participant.receive completion).issued call = participant.issued call := by
  change Write.issued call (participant.notices ++ (participant.write.receive completion).2) = _
  rw [Write.issued_append, Write.issued_receive]
  rfl

private theorem issued_calling (participant : Participant) (call kind : Call) :
    (participant.calling call).issued kind =
      participant.issued kind + if call = kind then 1 else 0 := by
  change Write.issued kind (participant.notices ++ [.counted (Write.counterOf call)]) = _
  rw [Write.issued_append, Write.issued_counted]
  rfl

variable {cluster now other : Cluster} {left right : Participant}

private theorem advance_taken (participant : Participant) (accepting : now.rejecting = false) :
    ∀ call, ∃ more, (participant.advance now).1.issued call = participant.issued call + more ∧
      (participant.advance now).2.taken call = now.taken call + UInt32.ofNat more := by
  intro kind
  have step := participant.advancesTo_advance now
  generalize participant.advance now = outcome at step ⊢
  cases step with
  | idle none => exact ⟨0, rfl, (UInt32.add_zero _).symm⟩
  | @completed call wanted underway =>
      refine ⟨0, participant.issued_receive _ kind, ?_⟩
      exact (now.taken_complete call kind _).trans (UInt32.add_zero _).symm
  | refused wanted resting rejecting =>
      rw [accepting] at rejecting
      cases rejecting
  | @taken call wanted resting accepting =>
      have issued := participant.issued_calling call kind
      have taken := now.taken_taking call kind
      by_cases same : call = kind
      · rw [if_pos same] at issued taken
        exact ⟨1, issued, taken⟩
      · rw [if_neg same] at issued taken
        exact ⟨0, issued, taken⟩

private theorem advance_like (participant : Participant) (like : cluster.Like now)
    (fixed : cluster.Fixed) : cluster.Like (participant.advance now).2 := by
  have step := participant.advancesTo_advance now
  generalize participant.advance now = outcome at step ⊢
  cases step with
  | idle none => exact like
  | @completed call wanted underway => exact like.complete fixed call _
  | refused wanted resting rejecting => exact like
  | @taken call wanted resting accepting => exact like.taking call

/-- On stores that are alike a write takes the same step. -/
theorem Matches.advance (matching : left.Matches right) (like : cluster.Like now)
    (also : cluster.Like other) : (left.advance now).1.Matches (right.advance other).1 := by
  have step := left.advancesTo_advance now
  generalize left.advance now = outcome at step ⊢
  cases step with
  | idle none =>
      rw [right.advance_of_no_call other (matching.write ▸ none)]
      exact matching
  | @completed call wanted underway =>
      rw [right.advance_of_underway other (matching.write ▸ wanted) (matching.underway ▸ underway)]
      refine ⟨?_, ?_, ?_⟩
      · rw [left.receive_write, right.receive_write, ← matching.write]
        apply left.write.receive_congr call wanted
        rintro rfl
        exact like.put_eq also left.write.request
      · rw [left.receive_underway, right.receive_underway]
      · intro kind
        rw [left.issued_receive, right.issued_receive, matching.issued]
  | refused wanted resting rejecting =>
      rw [like.accepting] at rejecting
      cases rejecting
  | @taken call wanted resting accepting =>
      rw [right.advance_of_accepting other (matching.write ▸ wanted) (matching.underway ▸ resting)
        also.accepting]
      refine ⟨matching.write, rfl, ?_⟩
      intro kind
      have counted := left.issued_calling call kind
      rw [matching.issued, ← right.issued_calling call kind] at counted
      exact counted

/-! ### Steps of one write -/

private theorem advances_eq_of_no_call (participant : Participant) (cluster : Cluster)
    (first second : Nat) (idle : (participant.advances cluster first).1.write.call? = none)
    (idleToo : (participant.advances cluster second).1.write.call? = none) :
    participant.advances cluster first = participant.advances cluster second := by
  rcases Nat.le_total first second with before | after
  · obtain ⟨count, rfl⟩ := Nat.exists_eq_add_of_le before
    rw [advances_add, advances_of_no_call _ _ idle]
  · obtain ⟨count, rfl⟩ := Nat.exists_eq_add_of_le after
    rw [advances_add, advances_of_no_call _ _ idleToo]

private theorem advances_final (participant : Participant) (cluster : Cluster)
    (final : participant.write.Final) (count : Nat) :
    (participant.advances cluster count).1.write.Final := by
  induction count generalizing participant cluster with
  | zero => exact final
  | succ count ih =>
      apply ih
      exact participant.advance_write cluster (fun _ completion final => final.receive completion)
        final

private theorem advances_taken (participant : Participant) (like : cluster.Like now)
    (fixed : cluster.Fixed) (call : Call) (count : Nat) :
    ∃ more, (participant.advances now count).1.issued call = participant.issued call + more ∧
      (participant.advances now count).2.taken call = now.taken call + UInt32.ofNat more := by
  induction count generalizing participant now with
  | zero => exact ⟨0, rfl, (UInt32.add_zero _).symm⟩
  | succ count ih =>
      obtain ⟨first, issued, taken⟩ := participant.advance_taken like.accepting call
      obtain ⟨more, issuedLater, takenLater⟩ :=
        ih (participant.advance now).1 (participant.advance_like like fixed)
      refine ⟨first + more, ?_, ?_⟩
      · rw [advances_succ, issuedLater, issued, Nat.add_assoc]
      · rw [advances_succ, takenLater, taken, UInt32.add_assoc, ← UInt32.ofNat_add]

private theorem advance_twice (participant : Participant) (accepting : now.rejecting = false)
    (resting : participant.underway = false) {call : Call}
    (wanted : participant.write.call? = some call) (count : Nat) :
    let completed := (now.taking call).complete call participant.write.request
    participant.advances now (count + 2) =
      ((participant.calling call).receive completed.1).advances completed.2 count := by
  intro completed
  have submitting := participant.advance_of_accepting now wanted resting accepting
  have completing := Participant.advance_of_underway
    { participant.calling call with underway := true } (now.taking call) wanted rfl
  rw [advances_succ, submitting, advances_succ, completing]
  rfl

private theorem advances_eq_run (left : Nat) (participant : Participant)
    (accepting : now.rejecting = false) (resting : participant.underway = false) :
    let outcome := participant.write.run Cluster.serve left now
    participant.advances now (2 * left) =
      ({ write := outcome.1.1, notices := participant.notices ++ outcome.1.2 }, outcome.2) := by
  have still : ∀ participant : Participant, participant.underway = false →
      participant =
        { write := participant.write, notices := participant.notices ++ [] } := by
    rintro ⟨write, underway, notices⟩ rfl
    rw [List.append_nil]
  induction left generalizing participant now with
  | zero => exact congrArg (·, now) (still participant resting)
  | succ left ih =>
      cases wanted : participant.write.call? with
      | none =>
          dsimp only
          rw [participant.advances_of_no_call now wanted, Write.run_of_no_call _ _ _ _ wanted]
          exact congrArg (·, now) (still participant resting)
      | some call =>
          have served := participant.write.run_succ Cluster.serve left now call wanted
            (now.serve_eq call participant.write.request accepting)
          have still := ((now.taking call).rejecting_complete call participant.write.request).trans
            ((now.rejecting_taking call).trans accepting)
          dsimp only at served ⊢
          rw [served, Nat.mul_add_one, participant.advance_twice accepting resting wanted,
            ih _ still rfl]
          generalize (now.taking call).complete call participant.write.request = completed
          refine Prod.ext (congrArg (Participant.mk _ false) ?_) rfl
          rw [receive_notices, List.append_assoc, List.append_assoc]
          rfl

private theorem advances_alone (request : Request) (budget : UInt32)
    (accepting : now.rejecting = false) :
    let write : Write := { request := request, budget := budget }
    let alone := write.run Cluster.serve write.callsLeft now
    (of request budget).advances now (2 * write.callsLeft) =
      ({ write := alone.1.1, notices := alone.1.2 }, alone.2) :=
  advances_eq_run _ (of request budget) accepting rfl

end Participant

/-! ### Any order -/

variable {ι : Type} [DecidableEq ι]

/-- The move belongs to a write, or has to do with removals only. -/
def Move.Calm (move : Move ι) : Prop :=
  (∃ index, move = .advance index) ∨ ∃ on, move = .failRemovals on

variable {cluster : Cluster}

private theorem step_like (workload : Workload ι) (move : Move ι) (calm : move.Calm)
    (like : cluster.Like workload.cluster) (fixed : cluster.Fixed) :
    cluster.Like (workload.step move).cluster := by
  rcases calm with ⟨index, rfl⟩ | ⟨on, rfl⟩
  · exact (workload.writes index).advance_like like fixed
  · exact ⟨like.profile, like.factor, like.accepting, like.sound⟩

private theorem run_matches (moves : List (Move ι)) (calm : ∀ move, move ∈ moves → move.Calm)
    (index : ι) (workload : Workload ι) (own : Participant) (other : Cluster)
    (matching : (workload.writes index).Matches own) (like : cluster.Like workload.cluster)
    (also : cluster.Like other) (fixed : cluster.Fixed) :
    ((workload.run moves).writes index).Matches
      (own.advances other (moves.count (.advance index))).1 := by
  induction moves generalizing workload own other with
  | nil => exact matching
  | cons move rest ih =>
      have calmMove := calm move List.mem_cons_self
      have later := step_like workload move calmMove like fixed
      have calmRest : ∀ move, move ∈ rest → move.Calm :=
        fun other present => calm other (List.mem_cons_of_mem _ present)
      by_cases mine : move = .advance index
      · subst mine
        rw [List.count_cons_self]
        refine ih calmRest (workload.step (.advance index)) _ _ ?_ later
          (own.advance_like also fixed)
        change ((workload.advance index).writes index).Matches _
        rw [workload.advance_self]
        exact matching.advance like also
      · rw [List.count_cons_of_ne mine]
        refine ih calmRest (workload.step move) own other ?_ later also
        rcases calmMove with ⟨mover, rfl⟩ | ⟨on, rfl⟩
        · have different : index ≠ mover := fun same => mine (congrArg Move.advance same.symm)
          change ((workload.setWrite mover _).writes index).Matches _
          rw [workload.setWrite_of_ne different]
          exact matching
        · exact matching

/-! ### The numbers of calls -/

section Sum

variable [Fintype ι]

theorem sum_grown {before after : ι → Nat} (index : ι) (more : Nat)
    (others : ∀ other, other ≠ index → after other = before other)
    (grown : after index = before index + more) :
    ∑ other, after other = ∑ other, before other + more := by
  have each : ∀ other, after other = before other + if other = index then more else 0 := by
    intro other
    by_cases own : other = index
    · subst own
      rw [if_pos rfl, grown]
    · rw [if_neg own, others other own, Nat.add_zero]
  rw [Finset.sum_congr rfl fun other _ => each other, Finset.sum_add_distrib,
    Finset.sum_ite_eq', if_pos (Finset.mem_univ index)]

theorem sum_replace {α : Type} (values : ι → α) (index : ι) (value : α) (count : α → Nat)
    (more : Nat) (grown : count value = count (values index) + more) :
    ∑ other, count (if other = index then value else values other) =
      ∑ other, count (values other) + more := by
  apply sum_grown index more
  · intro other different
    rw [if_neg different]
  · rw [if_pos rfl, grown]

private theorem sum_setWrite (workload : Workload ι) (index : ι) (participant : Participant)
    (count : Participant → Nat) (more : Nat)
    (grown : count participant = count (workload.writes index) + more) :
    ∑ other, count ((workload.setWrite index participant).writes other) =
      ∑ other, count (workload.writes other) + more :=
  sum_replace workload.writes index participant count more grown

private theorem run_taken (moves : List (Move ι)) (calm : ∀ move, move ∈ moves → move.Calm)
    (workload : Workload ι) (like : cluster.Like workload.cluster) (fixed : cluster.Fixed)
    (call : Call) (before : UInt32)
    (taken : workload.cluster.taken call =
      before + UInt32.ofNat (∑ index, (workload.writes index).issued call)) :
    (workload.run moves).cluster.taken call =
      before + UInt32.ofNat (∑ index, ((workload.run moves).writes index).issued call) := by
  induction moves generalizing workload with
  | nil => exact taken
  | cons move rest ih =>
      have calmMove := calm move List.mem_cons_self
      refine ih (fun other present => calm other (List.mem_cons_of_mem _ present))
        (workload.step move) (step_like workload move calmMove like fixed) ?_
      rcases calmMove with ⟨index, rfl⟩ | ⟨on, rfl⟩
      · obtain ⟨more, issued, takenNow⟩ :=
          (workload.writes index).advance_taken like.accepting call
        have sum := workload.sum_setWrite index
          ((workload.writes index).advance workload.cluster).1 (Participant.issued · call) more
          issued
        change ((workload.writes index).advance workload.cluster).2.taken call =
          before + UInt32.ofNat (∑ other, ((workload.setWrite index
            ((workload.writes index).advance workload.cluster).1).writes other).issued call)
        rw [sum, takenNow, taken, UInt32.ofNat_add, UInt32.add_assoc]
      · exact taken

end Sum

/-! ### Independence -/

private theorem exists_verdict_alone (cluster : Cluster) (request : Request) (budget : UInt32)
    (accepting : cluster.rejecting = false) (bounded : budget.toNat + 1 < UInt32.size) :
    let write : Write := { request := request, budget := budget }
    ∃ verdict, (write.run Cluster.serve write.callsLeft cluster).1.1.verdict? = some verdict := by
  rcases Write.first_or_none (cluster.Good request.location) budget.toNat with
    ⟨count, within, good, least⟩ | none
  · exact ⟨true, (cluster.drive_of_first_good request budget accepting bounded count within good
      least).1⟩
  · exact ⟨false, (cluster.drive_of_none_good request budget accepting bounded none).1⟩

/-- A write that has a verdict, or has had steps enough for one, is where it would be alone. -/
theorem run_matches_alone (requests : ι → Request) (budgets : ι → UInt32) (moves : List (Move ι))
    (calm : ∀ move, move ∈ moves → move.Calm) (index : ι)
    (bounded : (budgets index).toNat + 1 < UInt32.size) (like : cluster.Like cluster)
    (fixed : cluster.Fixed) :
    let write : Write := { request := requests index, budget := budgets index }
    let alone := write.run Cluster.serve write.callsLeft cluster
    let final := ((start cluster requests budgets).run moves).writes index
    (2 * write.callsLeft ≤ moves.count (.advance index) ∨
        ∃ verdict, final.write.verdict? = some verdict) →
      final.Matches { write := alone.1.1, notices := alone.1.2 } := by
  intro write alone final ended
  have last := Participant.advances_alone (requests index) (budgets index) like.accepting
  have finals := Participant.advances_final (.of (requests index) (budgets index)) cluster
    (.start _ _)
  obtain ⟨verdict, decided⟩ :=
    exists_verdict_alone cluster (requests index) (budgets index) like.accepting bounded
  have idle := finals (2 * write.callsLeft) verdict (by rw [last]; exact decided)
  have matching := run_matches moves calm index (start cluster requests budgets)
    (.of (requests index) (budgets index)) cluster ⟨rfl, rfl, fun _ => rfl⟩ like like fixed
  have reached : (Participant.of (requests index) (budgets index)).advances cluster
      (moves.count (.advance index)) =
        (Participant.of (requests index) (budgets index)).advances cluster
          (2 * write.callsLeft) := by
    rcases ended with enough | ⟨published, known⟩
    · obtain ⟨count, total⟩ := Nat.exists_eq_add_of_le enough
      rw [total, Participant.advances_add, Participant.advances_of_no_call _ _ idle]
    · rw [matching.write] at known
      exact Participant.advances_eq_of_no_call _ _ _ _ (finals _ published known) idle
  rw [reached, last] at matching
  exact matching

/-- Writes do not influence each other, in whatever order they make their steps, and whether
removals fail or not. A write that has made enough steps has the verdict that it would have alone,
and one that has a verdict has made as many calls as alone. The store has taken the calls of all of
them, modulo the size of its counters. -/
theorem run_independent [Fintype ι] (cluster : Cluster) (requests : ι → Request)
    (budgets : ι → UInt32) (moves : List (Move ι))
    (fixed : ∀ replica, replica ∈ cluster.replicas → ∀ count, replica.behavior ≠ .denyTimes count)
    (accepting : cluster.rejecting = false) (sound : cluster.failingPuts = 0)
    (bounded : ∀ index, (budgets index).toNat + 1 < UInt32.size)
    (calm : ∀ move, move ∈ moves → move.Calm) :
    let write (index : ι) : Write := { request := requests index, budget := budgets index }
    let alone (index : ι) := (write index).run Cluster.serve (write index).callsLeft cluster
    let final := (start cluster requests budgets).run moves
    (∀ index, ∃ verdict, (alone index).1.1.verdict? = some verdict ∧
      (2 * (write index).callsLeft ≤ moves.count (.advance index) →
        (final.writes index).write.verdict? = some verdict) ∧
      ∀ published, (final.writes index).write.verdict? = some published →
        published = verdict ∧
          ∀ call, (final.writes index).issued call = Write.issued call (alone index).1.2) ∧
      (∀ index call, (alone index).2.taken call =
        cluster.taken call + UInt32.ofNat (Write.issued call (alone index).1.2)) ∧
      ∀ call, final.cluster.taken call =
        cluster.taken call + UInt32.ofNat (∑ index, (final.writes index).issued call) := by
  intro write alone final
  have steady : cluster.Fixed := List.forall_mem_map.mpr fixed
  have like : cluster.Like cluster := ⟨rfl, rfl, accepting, sound⟩
  refine ⟨?_, ?_, ?_⟩
  · intro index
    obtain ⟨verdict, decided⟩ :=
      exists_verdict_alone cluster (requests index) (budgets index) accepting (bounded index)
    have reached :=
      run_matches_alone requests budgets moves calm index (bounded index) like steady
    refine ⟨verdict, decided, ?_, ?_⟩
    · intro enough
      rw [(reached (.inl enough)).write]
      exact decided
    · intro published known
      have matching := reached (.inr ⟨published, known⟩)
      rw [matching.write] at known
      exact ⟨Option.some.inj (known.symm.trans decided), matching.issued⟩
  · intro index call
    obtain ⟨more, issued, taken⟩ := Participant.advances_taken
      (.of (requests index) (budgets index)) like steady call (2 * (write index).callsLeft)
    rw [Participant.advances_alone _ _ accepting] at issued taken
    have counted : Write.issued call (alone index).1.2 = more := issued.trans (Nat.zero_add more)
    rw [counted]
    exact taken
  · intro call
    apply run_taken moves calm _ like steady call
    have none : ∑ index, ((start cluster requests budgets).writes index).issued call = 0 :=
      Finset.sum_eq_zero fun _ _ => rfl
    rw [none]
    exact (UInt32.add_zero _).symm

/-- One peer, which denies every put, and a counter of puts that is about to start over. -/
def denyingPeer : Cluster :=
  { replicas := [{ peer := ⟨"peer-1"⟩, behavior := .deny }], distinct := by decide, factor := 1
    puts := 4294967295 }

def takingTurns : List (Move Bool) :=
  .failRemovals true :: (List.replicate 12 [.advance true, .advance false]).flatten

def sameVersion (_index : Bool) : Request := { location := "loc", content := "content" }

def oneRetry (index : Bool) : UInt32 := if index then 1 else 0

/-- Both write the same version, one with a retry and the other without. -/
theorem run_independent_takingTurns :
    let write (index : Bool) : Write :=
      { request := sameVersion index, budget := oneRetry index }
    let alone (index : Bool) :=
      (write index).run Cluster.serve (write index).callsLeft denyingPeer
    let final := (start denyingPeer sameVersion oneRetry).run takingTurns
    (∀ replica, replica ∈ denyingPeer.replicas → ∀ count, replica.behavior ≠ .denyTimes count) ∧
      denyingPeer.rejecting = false ∧ denyingPeer.failingPuts = 0 ∧
      (∀ index, (oneRetry index).toNat + 1 < UInt32.size) ∧
      (∀ move, move ∈ takingTurns → move.Calm) ∧
      (∀ index, (final.writes index).write.verdict? = some false) ∧
      (final.writes true).issued .put = 2 ∧ (final.writes false).issued .put = 1 ∧
      (∀ index, (alone index).1.1.verdict? = some false ∧
        ∀ call, (final.writes index).issued call = Write.issued call (alone index).1.2) ∧
      final.cluster.taken .put = 2 := by
  have fixed : ∀ replica, replica ∈ denyingPeer.replicas →
      ∀ count, replica.behavior ≠ .denyTimes count := by
    intro replica present count
    rw [List.mem_singleton.mp present]
    exact nofun
  have bounded : ∀ index, (oneRetry index).toNat + 1 < UInt32.size := by decide
  have calm : ∀ move, move ∈ takingTurns → move.Calm := by
    intro move present
    rcases List.mem_cons.mp present with rfl | turn
    · exact .inr ⟨true, rfl⟩
    · obtain ⟨pair, among, inside⟩ := List.mem_flatten.mp turn
      rw [List.eq_of_mem_replicate among] at inside
      rcases List.mem_pair.mp inside with rfl | rfl
      · exact .inl ⟨true, rfl⟩
      · exact .inl ⟨false, rfl⟩
  obtain ⟨each, _, total⟩ :=
    run_independent denyingPeer sameVersion oneRetry takingTurns fixed rfl rfl bounded calm
  have verdicts : ∀ index, (((start denyingPeer sameVersion oneRetry).run takingTurns).writes
      index).write.verdict? = some false := by
    decide +kernel
  have first : (((start denyingPeer sameVersion oneRetry).run takingTurns).writes
      true).issued .put = 2 := by
    decide +kernel
  have second : (((start denyingPeer sameVersion oneRetry).run takingTurns).writes
      false).issued .put = 1 := by
    decide +kernel
  dsimp only at each total ⊢
  refine ⟨fixed, rfl, rfl, bounded, calm, verdicts, first, second, ?_, ?_⟩
  · intro index
    obtain ⟨verdict, decided, _, published⟩ := each index
    obtain ⟨same, counted⟩ := published false (verdicts index)
    rw [← same] at decided
    exact ⟨decided, counted⟩
  · rw [total .put, Fintype.sum_bool, first, second]
    decide +kernel

end Workload
end Quorate
