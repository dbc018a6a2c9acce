import Quorate.Proofs.Process.Undertaking
import Quorate.Proofs.Write.Frame
import Quorate.Proofs.Write.Holding

/-!
Rollbacks of abandoned executions. The write of such an execution goes on by itself, and nothing
orders its calls and the removal of the rollback. What it puts after the removal it takes back
itself if the put is not accepted; but an accepted put stays, as nobody removes it any more.
-/

namespace Quorate

open Store

/-- The write is about to take back what it has put, or has put it for good. -/
def Write.Answerable (write : Write) : Prop :=
  write.call? = some .remove ∨ write.verdict? = some true

namespace Write.Alive

variable {request : Request} {budget : UInt32} {write : Write}

private theorem answerable_of_put (alive : Alive request budget write)
    (putting : write.call? = some .put) (completion : Completion) :
    (write.receive completion).1.Answerable := by
  obtain ⟨ends, progress⟩ := alive.progress
  cases progress with
  | putting _ missed within =>
      cases accepted : (Quorum.evaluate completion).accepted with
      | true =>
          rw [receive_accepted request budget ends.length completion accepted]
          exact .inr rfl
      | false =>
          rw [receive_missed request budget ends.length completion accepted]
          exact .inl rfl
  | removing count _ heard missed within givingUp exceeded => cases putting
  | reached count _ last found within accepted => cases putting
  | failed count _ missed => cases putting
  | lost _ _ gone closed => exact absurd gone alive.present

private theorem accepted_of_receive (alive : Alive request budget write) (busy : write.call? ≠ none)
    {completion : Completion} (decided : (write.receive completion).1.verdict? = some true) :
    write.call? = some .put ∧ (Quorum.evaluate completion).accepted = true := by
  obtain ⟨ends, progress⟩ := alive.progress
  cases progress with
  | putting _ missed within =>
      cases accepted : (Quorum.evaluate completion).accepted with
      | true => exact ⟨rfl, rfl⟩
      | false =>
          rw [receive_missed request budget ends.length completion accepted] at decided
          cases decided
  | removing count _ heard missed within givingUp exceeded =>
      rw [receive_removed] at decided
      cases givingUp <;> cases decided
  | reached count _ last found within accepted => exact absurd rfl busy
  | failed count _ missed => exact absurd rfl busy
  | lost _ _ gone closed => exact absurd gone alive.present

end Write.Alive

/-! ### Moves -/

namespace Workload

variable {ι : Type}

/-- The store does what it is asked to do, and nobody but the writes uses the version. -/
structure Undisturbed (request : Request) (workload : Workload ι) (move : Move ι) : Prop where
  accepting : workload.cluster.rejecting = false
  working : workload.cluster.failingRemovals = false
  online : workload.cluster.Online request.location
  alone : ∀ call, workload.OnlyByWrites call request.versionKey move

variable {request : Request} {budget : UInt32} {workload : Workload ι} {move : Move ι}

private theorem Undisturbed.spares (undisturbed : Undisturbed request workload move)
    (idle : ∀ index, move = .advance index → (workload.writes index).write.call? = none) :
    Spares request.versionKey workload move := by
  intro call asked applies same
  obtain ⟨index, rfl⟩ := undisturbed.alone call asked applies same
  have wanted := applies.own.1
  rw [idle index rfl] at wanted
  cases wanted

variable [DecidableEq ι]

namespace Tended

private theorem step_of_absent (tended : workload.Tended request budget)
    (undisturbed : Undisturbed request workload move)
    (absent : workload.cluster.Absent request.versionKey) :
    (workload.step move).cluster.Absent request.versionKey ∨
      ∃ index, move = .advance index ∧ (workload.writes index).write.call? ≠ none ∧
        ((workload.step move).writes index).write.Answerable := by
  by_cases puts : ∃ asked, workload.Applies move .put asked ∧
      asked.versionKey = request.versionKey
  · obtain ⟨asked, applies, same⟩ := puts
    obtain ⟨index, rfl⟩ := undisturbed.alone .put asked applies same
    have putting := applies.own.1
    refine .inr ⟨index, rfl, by rw [putting]; nofun, ?_⟩
    rw [workload.writes_step, if_pos rfl, (workload.writes index).advance_of_underway
      workload.cluster putting ((workload.writes index).underway_of_due? applies.1)]
    exact (tended.alive index).answerable_of_put putting _
  · refine .inl (step_absent ?_ absent)
    intro asked applies same
    exact puts ⟨asked, applies, same⟩

private theorem step_of_answerable (tended : workload.Tended request budget)
    (present : ∀ index, move ≠ .lose index)
    (undisturbed : Undisturbed request workload move) (index : ι)
    (answerable : (workload.writes index).write.Answerable) :
    (workload.step move).cluster.Absent request.versionKey ∨
      ((workload.step move).writes index).write.Answerable := by
  rcases answerable with removing | accepted
  · by_cases own : move = .advance index
    · subst own
      rw [workload.writes_step, if_pos rfl]
      change ((workload.writes index).advance workload.cluster).2.Absent request.versionKey ∨ _
      have step := (workload.writes index).advancesTo_advance workload.cluster
      generalize (workload.writes index).advance workload.cluster = outcome at step ⊢
      cases step with
      | idle none =>
          rw [none] at removing
          cases removing
      | completed wanted underway =>
          obtain rfl : _ = Call.remove := Option.some.inj (wanted.symm.trans removing)
          obtain ⟨response, removed⟩ :=
            workload.cluster.exists_response_remove request undisturbed.working
          rw [(tended.alive index).request_eq]
          exact .inl (tended.placed.absent_of_removed request removed undisturbed.online)
      | refused wanted resting rejecting =>
          rw [undisturbed.accepting] at rejecting
          cases rejecting
      | taken wanted resting accepting => exact .inr (.inl removing)
    · rw [workload.writes_step, if_neg own, if_neg (present index)]
      exact .inr (.inl removing)
  · exact .inr (.inr (workload.verdict?_step move index (present index)
      (tended.alive index) accepted))

private theorem step_of_held (tended : workload.Tended request budget)
    (present : ∀ index, move ≠ .lose index) (undisturbed : Undisturbed request workload move)
    (plain : workload.cluster.Plain request.location) (index : ι)
    (others : ∀ other, other ≠ index → move = .advance other →
      (workload.writes other).write.call? = none)
    (held : (workload.writes index).write.verdict? = some true →
      0 < workload.cluster.replicaCount request.versionKey)
    (decided : ((workload.step move).writes index).write.verdict? = some true) :
    0 < (workload.step move).cluster.replicaCount request.versionKey := by
  by_cases before : (workload.writes index).write.verdict? = some true
  · have spares : Spares request.versionKey workload move := by
      apply undisturbed.spares
      intro other moves
      by_cases same : other = index
      · subst same
        exact (tended.alive other).call?_of_verdict? before
      · exact others other same moves
    obtain ⟨peer, content⟩ := Cluster.replicaCount_pos_iff.mp (held before)
    rw [← spares.content? peer] at content
    exact Cluster.replicaCount_pos_iff.mpr ⟨peer, content⟩
  · rw [workload.writes_step] at decided
    by_cases own : move = .advance index
    · subst own
      rw [if_pos rfl] at decided
      change 0 < ((workload.writes index).advance workload.cluster).2.replicaCount _
      have step := (workload.writes index).advancesTo_advance workload.cluster
      generalize (workload.writes index).advance workload.cluster = outcome at step decided ⊢
      cases step with
      | idle none => exact absurd decided before
      | @completed call wanted underway =>
          have busy : (workload.writes index).write.call? ≠ none := by rw [wanted]; nofun
          obtain ⟨putting, accepted⟩ := (tended.alive index).accepted_of_receive busy decided
          obtain rfl : call = .put := Option.some.inj (wanted.symm.trans putting)
          rw [(tended.alive index).request_eq] at accepted ⊢
          cases completed : (workload.cluster.complete .put request).1 with
          | error failure =>
              rw [completed] at accepted
              cases accepted
          | ok response =>
              rw [completed] at accepted
              obtain ⟨peer, holder⟩ :=
                Cluster.exists_mem_holders_of_put completed accepted plain
              exact Cluster.replicaCount_pos_of_holder holder
      | refused wanted resting rejecting =>
          rw [undisturbed.accepting] at rejecting
          cases rejecting
      | taken wanted resting accepting => exact absurd decided before
    · rw [if_neg own, if_neg (present index)] at decided
      exact absurd decided before

end Tended
end Workload

/-! ### Rollbacks -/

namespace Process.Undertaking

open Workload

variable {request : Request} {budget : UInt32} {undertaking : Undertaking}

private theorem Quietly.and {left right : Workload Nat → Workload.Move Nat → Prop}
    {moves : List Move}
    (first : Quietly left moves undertaking) (second : Quietly right moves undertaking) :
    Quietly (fun workload move => left workload move ∧ right workload move) moves undertaking := by
  induction moves generalizing undertaking with
  | nil => trivial
  | cons move rest ih =>
      exact ⟨first.1, fun elsewhere same => ⟨first.2.1 elsewhere same, second.2.1 elsewhere same⟩,
        ih first.2.2 second.2.2⟩

private theorem absent_or_answerable (tended : undertaking.workload.Tended request budget)
    (resting : undertaking.Resting)
    (absent : undertaking.workload.cluster.Absent request.versionKey) {later : List Move}
    (quietly : Quietly (Undisturbed request) later undertaking) :
    (undertaking.run later).workload.cluster.Absent request.versionKey ∨
      ∃ write, write < undertaking.started ∧
        (undertaking.workload.writes write).write.call? ≠ none ∧
        ((undertaking.run later).workload.writes write).write.Answerable := by
  refine (quietly.invariant
    (fun workload => workload.Tended request budget ∧
      (∀ write, (workload.writes write).write.call? ≠ none →
        (undertaking.workload.writes write).write.call? ≠ none) ∧
      (workload.cluster.Absent request.versionKey ∨
        ∃ write, write < undertaking.started ∧
          (undertaking.workload.writes write).write.call? ≠ none ∧
          (workload.writes write).write.Answerable))
    ?_ resting rfl ⟨tended, fun _ busy => busy, .inl absent⟩).2.2
  rintro workload move permitted undisturbed ⟨tended, earlier, holds⟩
  have present := present_of_permits permitted
  refine ⟨tended.step move present, fun write busy => earlier write fun idle =>
    busy (run_no_call [move] workload write idle), ?_⟩
  rcases holds with absent | ⟨write, before, outlasts, answerable⟩
  · refine (tended.step_of_absent undisturbed absent).imp_right ?_
    rintro ⟨write, rfl, busy, answerable⟩
    exact ⟨write, of_decide_eq_true permitted, earlier write busy, answerable⟩
  · exact (tended.step_of_answerable present undisturbed write answerable).imp_right
      fun still => ⟨write, before, outlasts, still⟩

private theorem held_of_accepted (tended : undertaking.workload.Tended request budget)
    (resting : undertaking.Resting) (write : Nat)
    (undecided : (undertaking.workload.writes write).write.call? ≠ none)
    (others : ∀ other, other < undertaking.started → other ≠ write →
      (undertaking.workload.writes other).write.call? = none)
    {later : List Move} (quietly : Quietly (Undisturbed request) later undertaking)
    (plain : Quietly (fun workload _ => workload.cluster.Plain request.location) later undertaking)
    (accepted :
      ((undertaking.run later).workload.writes write).write.verdict? = some true) :
    0 < (undertaking.run later).workload.cluster.replicaCount request.versionKey := by
  refine ((quietly.and plain).invariant
    (fun workload => workload.Tended request budget ∧
      (∀ other, other < undertaking.started → other ≠ write →
        (workload.writes other).write.call? = none) ∧
      ((workload.writes write).write.verdict? = some true →
        0 < workload.cluster.replicaCount request.versionKey))
    ?_ resting rfl ⟨tended, others, ?_⟩).2.2 accepted
  · rintro workload move permitted ⟨undisturbed, plain⟩ ⟨tended, idle, held⟩
    have present := present_of_permits permitted
    refine ⟨tended.step move present, fun other before different =>
      run_no_call [move] workload other (idle other before different), ?_⟩
    refine tended.step_of_held present undisturbed plain write ?_ held
    rintro other different rfl
    exact idle other (of_decide_eq_true permitted) different
  · intro decided
    exact absurd ((tended.alive write).call?_of_verdict? decided) undecided

/-- A rollback is run to its end, and so are all writes that were still at work when it removed the
version. If all of these fail then nobody holds the version. If there is one of them, and it is
accepted, then somebody does. -/
theorem run_rolledBack (request : Request) (budget : UInt32) (metered : Bool)
    (count factor : Nat) (latency : Duration) (moves later : List Move) :
    let before :=
      (of { request, budget, metered } (Cluster.create count factor latency)).run moves
    let final := (before.step .finish).run later
    let verdict? := fun write => (final.workload.writes write).write.verdict?
    let outlasts := fun write =>
      write < before.started ∧ (before.workload.writes write).write.call? ≠ none
    before.stage = .removing →
      before.workload.cluster.failingRemovals = false →
      before.workload.cluster.Online request.location →
      Quietly (Undisturbed request) later (before.step .finish) →
      (∀ write, write < before.started → (final.workload.writes write).write.call? = none) →
        ((∀ write, outlasts write → verdict? write = some false) →
          final.workload.cluster.replicaCount request.versionKey = 0) ∧
        ∀ write, outlasts write → (∀ other, outlasts other → other = write) →
          Quietly (fun workload _ => workload.cluster.Plain request.location) later
            (before.step .finish) →
          verdict? write = some true →
            0 < final.workload.cluster.replicaCount request.versionKey := by
  intro before final verdict? outlasts removing working online quietly finished
  have sound : before.Sound request budget :=
    (Sound.of request budget metered (Cluster.Placed.create count factor latency)).run moves
  obtain ⟨response, removed⟩ := before.workload.cluster.exists_response_remove request working
  obtain ⟨resting, absent⟩ := sound.finish_absent removing removed online
  have still := sound.step (before.stepsTo_step .finish)
  have started : (before.step .finish).started = before.started := by
    rw [before.finish_eq removing]
    rfl
  have writes : (before.step .finish).workload.writes = before.workload.writes := by
    rw [before.finish_eq removing]
    rfl
  constructor
  · intro failed
    rcases absent_or_answerable still.tended resting absent quietly with
      gone | ⟨write, earlier, busy, taking | accepted⟩
    · exact Cluster.absent_iff_replicaCount.mp gone
    · rw [started] at earlier
      rw [finished write earlier] at taking
      cases taking
    · rw [started] at earlier
      rw [writes] at busy
      cases (failed write ⟨earlier, busy⟩).symm.trans accepted
  · intro write outlasting only plain accepted
    refine held_of_accepted still.tended resting write ?_ ?_ quietly plain accepted
    · rw [writes]
      exact outlasting.2
    · rw [started, writes]
      intro other earlier different
      refine Decidable.not_not.mp fun busy => ?_
      exact different (only other ⟨earlier, busy⟩)

/-- The execution is abandoned, and the rollback calls, while the first put is under way. The peer
will deny it. -/
def abandonedPut : List Move :=
  [.elsewhere (.behave ⟨"peer-1"⟩ (.denyTimes 1)), .execute, .elsewhere (.advance 0), .giveUp,
    .rollback]

theorem run_rolledBack_abandonedPut :
    let request : Request := { location := "loc", content := "content", value := [1] }
    let before := fun budget =>
      (of { request, budget } (Cluster.create 1 1 ⟨0⟩)).run abandonedPut
    let failing := List.replicate 3 (Move.elsewhere (.advance 0))
    let storing := List.replicate 5 (Move.elsewhere (.advance 0))
    let failed := ((before 0).step .finish).run failing
    let stored := ((before 1).step .finish).run storing
    (before 0).stage = .removing ∧ (before 1).stage = .removing ∧
      Quietly (Undisturbed request) failing ((before 0).step .finish) ∧
      Quietly (Undisturbed request) storing ((before 1).step .finish) ∧
      (failed.workload.writes 0).write.verdict? = some false ∧
      failed.workload.cluster.replicaCount request.versionKey = 0 ∧
      (stored.workload.writes 0).write.verdict? = some true ∧
      0 < stored.workload.cluster.replicaCount request.versionKey := by
  intro request before failing storing failed stored
  have undisturbed : ∀ workload : Workload Nat, workload.cluster.rejecting = false →
      workload.cluster.failingRemovals = false → workload.cluster.Online request.location →
        Undisturbed request workload (.advance 0) :=
    fun workload accepting working online =>
      ⟨accepting, working, online, fun _ _ _ _ => ⟨0, rfl⟩⟩
  have failingQuietly : Quietly (Undisturbed request) failing ((before 0).step .finish) := by
    refine ⟨nofun, ?_, nofun, ?_, nofun, ?_, trivial⟩
    all_goals
      rintro _ ⟨rfl⟩
      exact undisturbed _ (by decide +kernel) (by decide +kernel) (by decide +kernel)
  have storingQuietly : Quietly (Undisturbed request) storing ((before 1).step .finish) := by
    refine ⟨nofun, ?_, nofun, ?_, nofun, ?_, nofun, ?_, nofun, ?_, trivial⟩
    all_goals
      rintro _ ⟨rfl⟩
      exact undisturbed _ (by decide +kernel) (by decide +kernel) (by decide +kernel)
  have plain : Quietly (fun workload _ => workload.cluster.Plain request.location) storing
      ((before 1).step .finish) := by
    refine ⟨nofun, ?_, nofun, ?_, nofun, ?_, nofun, ?_, nofun, ?_, trivial⟩
    all_goals
      rintro _ ⟨rfl⟩
      decide +kernel
  have first := run_rolledBack request 0 true 1 1 ⟨0⟩ abandonedPut failing (by decide +kernel)
    (by decide +kernel) (by decide +kernel) failingQuietly (by decide +kernel)
  have second := run_rolledBack request 1 true 1 1 ⟨0⟩ abandonedPut storing (by decide +kernel)
    (by decide +kernel) (by decide +kernel) storingQuietly (by decide +kernel)
  have single : (before 0).started = 1 ∧ (before 1).started = 1 := by decide +kernel
  refine ⟨by decide +kernel, by decide +kernel, failingQuietly, storingQuietly,
    by decide +kernel, first.1 ?_, by decide +kernel, second.2 0 ?_ ?_ plain (by decide +kernel)⟩
  · rintro write ⟨earlier, _⟩
    rw [single.1] at earlier
    obtain rfl := Nat.lt_one_iff.mp earlier
    decide +kernel
  · exact ⟨by decide +kernel, by decide +kernel⟩
  · rintro other ⟨earlier, _⟩
    rw [single.2] at earlier
    exact Nat.lt_one_iff.mp earlier

/-- The first put fails outright. While it is being taken back the rollback makes its call, and the
write puts once more before the rollback removes anything. -/
def overtakingPut : List Move :=
  [.elsewhere (.failNextPuts 1), .execute, .elsewhere (.advance 0), .giveUp,
    .elsewhere (.advance 0), .elsewhere (.advance 0), .rollback, .elsewhere (.advance 0),
    .elsewhere (.advance 0)]

/-- The rollback comes to its end and has removed the version, and then the put is accepted. -/
theorem abandoned_put_outlasts_rollback :
    let request : Request := { location := "loc", content := "content", value := [1] }
    let before :=
      (of { request, budget := 1 } (Cluster.create 1 1 ⟨0⟩)).run overtakingPut
    let removed := before.step .finish
    let final := removed.step (.elsewhere (.advance 0))
    request.check = .ok () ∧ before.stage = .removing ∧
      before.workload.cluster.failingRemovals = false ∧
      before.workload.cluster.Online request.location ∧
      removed.stage = .idle ∧ removed.workload.cluster.replicaCount request.versionKey = 0 ∧
      final.started = 1 ∧ (final.workload.writes 0).write.call? = none ∧
      final.workload.cluster.Online request.location ∧
      final.workload.cluster.replicaCount request.versionKey = 1 := by
  decide +kernel

end Process.Undertaking
end Quorate
