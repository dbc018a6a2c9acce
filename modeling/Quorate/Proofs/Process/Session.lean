import Mathlib.Data.List.Induction
import Quorate.Association
import Quorate.Process.Session
import Quorate.Proofs.Write.Rounds
import Quorate.Write.Alone

/-!
Whether a rollback has anything to undo. It removes the version exactly if something was executed
since the last rollback. An execution begins with a put, unless the request has an unfit key; then
it makes no call at all. So a rollback may remove a version that was never put.
-/

namespace Quorate

open Store

variable {σ : Type} (service : Write.Service σ)

/-! ### Records -/

namespace Write

variable (write : Write) (recorded : Recorded σ)

private theorem perform_recording (call : Call) :
    write.perform (recording service) call recorded =
      ((write.perform service call recorded.store).1,
        { store := (write.perform service call recorded.store).2,
          calls := recorded.calls ++ [(call, write.request)] }) := by
  unfold perform recording
  cases service call write.request recorded.store with
  | mk completion store => cases completion <;> rfl

/-- Nothing but the record depends on the recording, and the record only grows. -/
theorem run_recording (left : Nat) :
    ∃ later, run (recording service) left write recorded =
      ((run service left write recorded.store).1,
        { store := (run service left write recorded.store).2,
          calls := recorded.calls ++ later }) := by
  induction left generalizing write recorded with
  | zero =>
      refine ⟨[], ?_⟩
      rw [List.append_nil]
      rfl
  | succ left ih =>
      cases wanted : write.call? with
      | none =>
          refine ⟨[], ?_⟩
          rw [run_of_no_call _ _ write recorded wanted,
            run_of_no_call service _ write recorded.store wanted, List.append_nil]
      | some call =>
          obtain ⟨later, rest⟩ := ih (write.perform service call recorded.store).1.1
            (write.perform (recording service) call recorded).2
          refine ⟨(call, write.request) :: later, ?_⟩
          rw [write.perform_recording service recorded call] at rest
          simp only [run, wanted, write.perform_recording service recorded call, rest,
            List.append_assoc, List.singleton_append]

private theorem calls_run_recording (left : Nat) {call : Call} (wanted : write.call? = some call) :
    ∃ later, (run (recording service) (left + 1) write recorded).2.calls =
      recorded.calls ++ (call, write.request) :: later := by
  let performed := write.perform (recording service) call recorded
  obtain ⟨later, rest⟩ := performed.1.1.run_recording service performed.2 left
  refine ⟨later, ?_⟩
  have first : performed.2.calls = recorded.calls ++ [(call, write.request)] :=
    congrArg (fun outcome => outcome.2.calls) (write.perform_recording service recorded call)
  have whole : (run (recording service) (left + 1) write recorded).2.calls =
      performed.2.calls ++ later := by
    simp only [run, wanted]
    exact congrArg (fun outcome => outcome.2.calls) rest
  rw [whole, first, List.append_assoc]
  rfl

end Write

namespace Manager

variable (manager : Manager) {request : Request}

private theorem put_of_refused {failure : Failure} (refused : request.check = .error failure)
    (age : σ → σ → Duration) (site : Write.Site σ) :
    manager.put service age request site = (.error failure, site) := by
  unfold put
  rw [refused]

private theorem calls_put (valid : request.check = .ok ())
    (age : Write.Recorded σ → Write.Recorded σ → Duration) (site : Write.Site (Write.Recorded σ)) :
    ∃ later, (manager.put (Write.recording service) age request site).2.store.calls =
      site.store.calls ++ (.put, request) :: later := by
  let write := manager.coordinator.start request
  obtain ⟨later, made⟩ :=
    write.calls_run_recording service site.store (write.callsLeft - 1) rfl
  refine ⟨later, ?_⟩
  unfold put
  rw [valid]
  exact made

end Manager

namespace Process

/-! ### Steps -/

namespace PutStep

variable {τ : Type} (step : PutStep) (site : τ)

theorem execute_eq (put : Request → τ → Except Failure (Option Bool) × τ) :
    step.execute put site =
      (match (put step.request site).1 with
        | .error failure => some (.error failure)
        | .ok accepted => accepted.map step.outcome,
        step.executing, (put step.request site).2) := rfl

variable {step} (remove : Request → τ → Option Bool × τ)

theorem rollback_of_unmarked (unmarked : step.executed = false) :
    step.rollback remove site = (some [], step, site) := by
  obtain ⟨request, budget, metered, executed⟩ := step
  obtain rfl : executed = false := unmarked
  rfl

theorem rollback_of_marked (marked : step.executed = true) :
    step.rollback remove site =
      ((remove step.request site).1.map step.rollbackNotices,
        { step with executed := false }, (remove step.request site).2) := by
  unfold rollback rollingBack
  rw [marked]
  rfl

end PutStep

/-! ### Executions and rollbacks -/

namespace Session

deriving instance DecidableEq for Dealing

variable (age : σ → σ → Duration)

/-- The executions since the last rollback, or since the beginning. -/
def pending (history : List Dealing) : List Dealing :=
  history.foldl (fun recent dealing =>
    match dealing.action with
    | .execute => recent ++ [dealing]
    | .rollback => []) []

private theorem pending_concat (history : List Dealing) (dealing : Dealing) :
    pending (history ++ [dealing]) =
      match dealing.action with
      | .execute => pending history ++ [dealing]
      | .rollback => [] := List.foldl_append

private theorem mem_of_pending {history : List Dealing} {dealing : Dealing}
    (present : dealing ∈ pending history) : dealing ∈ history ∧ dealing.action = .execute := by
  induction history using List.reverseRecOn with
  | nil => cases present
  | append_singleton earlier last ih =>
      rw [pending_concat] at present
      cases action : last.action with
      | rollback =>
          rw [action] at present
          cases present
      | execute =>
          rw [action] at present
          rcases List.mem_append.mp present with before | here
          · exact ⟨List.mem_append_left _ (ih before).1, (ih before).2⟩
          · rw [List.mem_singleton.mp here]
            exact ⟨List.mem_append_right _ List.mem_cons_self, action⟩

/-- What an execution or a rollback does, by what is pending at its beginning. -/
def Accounts (request : Request) (before : List Dealing) (dealing : Dealing) : Prop :=
  match dealing.action with
  | .execute =>
      (request.check = .ok () → ∃ later, dealing.calls = (.put, request) :: later) ∧
      ∀ failure, request.check = .error failure →
        dealing.calls = [] ∧ dealing.result = some (.error failure)
  | .rollback => dealing.calls = if before = [] then [] else [(.remove, request)]

/-- If the version is removed by a rollback, then it was put by an execution that is pending. -/
def Due (before : List Dealing) (dealing : Dealing) : Prop :=
  (∃ request, (.remove, request) ∈ dealing.calls) →
    ∃ execution, execution ∈ before ∧ ∃ request, (.put, request) ∈ execution.calls

structure Sound (request : Request) (session : Session σ) : Prop where
  request_eq : session.put.request = request
  /-- The mark tells whether there is an execution to undo. -/
  marked : session.put.executed = true ↔ pending session.history ≠ []
  accounted : ∀ number dealing, session.history[number]? = some dealing →
    Accounts request (pending (session.history.take number)) dealing

namespace Sound

variable {request : Request} {session : Session σ}

private theorem accounted_concat (sound : session.Sound request) {last : Dealing}
    (accounts : Accounts request (pending session.history) last) (number : Nat)
    (dealing : Dealing) (found : (session.history ++ [last])[number]? = some dealing) :
    Accounts request (pending ((session.history ++ [last]).take number)) dealing := by
  rcases Numbering.getElem?_concat_iff.mp found with before | ⟨rfl, rfl⟩
  · have within : number < session.history.length := (List.getElem?_eq_some_iff.mp before).1
    rw [List.take_append_of_le_length (Nat.le_of_lt within)]
    exact sound.accounted number dealing before
  · rw [List.take_left]
    exact accounts

private theorem execute (sound : session.Sound request) :
    (session.execute service age).Sound request := by
  let ended := session.putting service age session.put.request session.unrecorded
  have executes : session.execute service age =
      session.ending .execute
        (match ended.1 with
          | .error failure => some (.error failure)
          | .ok accepted => accepted.map session.put.outcome)
        session.put.executing ended.2 := by
    unfold Session.execute
    rw [PutStep.execute_eq]
  obtain rfl := sound.request_eq
  rw [executes]
  refine ⟨rfl, ?_, sound.accounted_concat ⟨?_, ?_⟩⟩
  · refine iff_of_true rfl ?_
    change pending (session.history ++ [_]) ≠ []
    rw [pending_concat]
    exact List.concat_ne_nil _ _
  · intro valid
    exact session.put.manager.calls_put service valid _ session.unrecorded
  · intro failure refused
    have same : ended = (.error failure, session.unrecorded) :=
      session.put.manager.put_of_refused (Write.recording service) refused _ _
    rw [same]
    exact ⟨rfl, rfl⟩

private theorem rollback (sound : session.Sound request) :
    (session.rollback service).Sound request := by
  obtain rfl := sound.request_eq
  have nothing : ∀ last : Dealing, last.action = .rollback →
      pending (session.history ++ [last]) = [] := by
    intro last action
    rw [pending_concat, action]
  cases marked : session.put.executed with
  | false =>
      have none : pending session.history = [] := by
        refine Decidable.not_not.mp fun owing => ?_
        have mark := sound.marked.mpr owing
        rw [marked] at mark
        cases mark
      unfold Session.rollback
      rw [PutStep.rollback_of_unmarked _ _ marked]
      refine ⟨rfl, ?_, sound.accounted_concat (if_pos none).symm⟩
      exact iff_of_false (by rw [Bool.not_eq_true]; exact marked)
        (not_not_intro (nothing _ rfl))
  | true =>
      unfold Session.rollback
      rw [PutStep.rollback_of_marked _ _ marked]
      refine ⟨rfl, ?_, sound.accounted_concat (if_neg (sound.marked.mp marked)).symm⟩
      exact iff_of_false Bool.false_ne_true (not_not_intro (nothing _ rfl))

private theorem run (sound : session.Sound request) (actions : List Action) :
    (session.run service age actions).Sound request := by
  induction actions generalizing session with
  | nil => exact sound
  | cons action rest ih =>
      cases action with
      | execute => exact ih (sound.execute service age)
      | rollback => exact ih (sound.rollback service)

private theorem accounted_of_pending (sound : session.Sound request) {number : Nat}
    {execution : Dealing} (present : execution ∈ pending (session.history.take number)) :
    execution.action = .execute ∧ ∃ before, Accounts request before execution := by
  obtain ⟨among, action⟩ := mem_of_pending present
  obtain ⟨index, found⟩ := List.mem_iff_getElem?.mp (List.mem_of_mem_take among)
  exact ⟨action, _, sound.accounted index execution found⟩

end Sound

private theorem actions_run (actions : List Action) (session : Session σ) :
    (session.run service age actions).history.map Dealing.action =
      session.history.map Dealing.action ++ actions := by
  induction actions generalizing session with
  | nil => exact (List.append_nil _).symm
  | cons action rest ih =>
      refine (ih (session.perform service age action)).trans ?_
      have added : (session.perform service age action).history.map Dealing.action =
          session.history.map Dealing.action ++ [action] := by
        cases action <;> exact List.map_append
      rw [added, List.append_assoc]
      rfl

/-- A rollback is due unless what it undoes are executions of a request with an unfit key. -/
theorem Accounts.due_iff {request : Request} {before : List Dealing} {rollback : Dealing}
    (accounts : Accounts request before rollback) (action : rollback.action = .rollback)
    (executions : ∀ execution, execution ∈ before →
      execution.action = .execute ∧ ∃ earlier, Accounts request earlier execution) :
    Due before rollback ↔ before = [] ∨ request.check = .ok () := by
  unfold Accounts at accounts
  rw [action] at accounts
  have calls : rollback.calls = if before = [] then [] else [(.remove, request)] := accounts
  constructor
  · intro due
    by_cases none : before = []
    · exact .inl none
    · rw [if_neg none] at calls
      obtain ⟨execution, present, asked, put⟩ := due ⟨request, by rw [calls]; exact .head _⟩
      obtain ⟨executed, earlier, accounts⟩ := executions execution present
      unfold Accounts at accounts
      rw [executed] at accounts
      cases judged : request.check with
      | ok _ => exact .inr rfl
      | error failure =>
          rw [(accounts.2 failure judged).1] at put
          cases put
  · rintro (none | valid) ⟨asked, removal⟩
    · rw [calls, if_pos none] at removal
      cases removal
    · have some : before ≠ [] := by
        rintro rfl
        rw [calls, if_pos rfl] at removal
        cases removal
      obtain ⟨execution, present⟩ := List.exists_mem_of_ne_nil before some
      obtain ⟨executed, earlier, accounts⟩ := executions execution present
      unfold Accounts at accounts
      rw [executed] at accounts
      obtain ⟨later, made⟩ := accounts.1 valid
      exact ⟨execution, present, request, by rw [made]; exact .head _⟩

/-- Executions and rollbacks in any order, on any store. A rollback makes one call, the removal, if
anything was executed since the last one, and otherwise none. An execution begins with a put if the
keys of the request are fit; otherwise it reports what is wrong with them and makes no call. So the
rollbacks that have nothing to undo, and remove the version all the same, are those that follow an
execution of a request with an unfit key. -/
theorem run_due (request : Request) (budget : UInt32) (metered : Bool) (site : Write.Site σ)
    (actions : List Action) :
    let first : Session σ := { put := { request, budget, metered }, site := site }
    let history := (first.run service age actions).history
    history.map Dealing.action = actions ∧
      ∀ number dealing, history[number]? = some dealing →
        let before := pending (history.take number)
        match dealing.action with
        | .execute =>
            (request.check = .ok () → ∃ later, dealing.calls = (.put, request) :: later) ∧
            ∀ failure, request.check = .error failure →
              dealing.calls = [] ∧ dealing.result = some (.error failure)
        | .rollback =>
            dealing.calls = (if before = [] then [] else [(.remove, request)]) ∧
            (Due before dealing ↔ before = [] ∨ request.check = .ok ()) := by
  intro first history
  have start : first.Sound request :=
    ⟨rfl, iff_of_false Bool.false_ne_true (not_not_intro rfl), nofun⟩
  have sound := start.run service age actions
  refine ⟨actions_run service age actions first, ?_⟩
  intro number dealing found before
  have accounts : Accounts request before dealing := sound.accounted number dealing found
  have due := fun action => accounts.due_iff action fun _ present =>
    sound.accounted_of_pending present
  obtain ⟨action, calls, result⟩ := dealing
  cases action with
  | execute => exact accounts
  | rollback => exact ⟨accounts, due rfl⟩

/-- The second rollback has something to undo, unlike the first one. -/
theorem run_due_twoRollbacks :
    let request : Request := { location := "loc", content := "content" }
    let first : Session Cluster :=
      { put := { request, budget := 3 }, site := { store := Cluster.create 1 1 ⟨0⟩ } }
    let actions : List Action := [.rollback, .execute, .rollback]
    let history := (first.run Cluster.serve (fun _ _ => ⟨0⟩) actions).history
    let spared : Dealing := ⟨.rollback, [], some (.ok ())⟩
    let removing : Dealing := ⟨.rollback, [(.remove, request)], some (.ok ())⟩
    request.check = .ok () ∧
      history[0]? = some spared ∧ Due (pending (history.take 0)) spared ∧
      history[2]? = some removing ∧ Due (pending (history.take 2)) removing := by
  intro request first actions history spared removing
  have valid : request.check = .ok () := by decide +kernel
  have past : history =
      [spared, ⟨.execute, [(.put, request)], some (.ok ())⟩, removing] := by
    decide +kernel
  have spares : history[0]? = some spared := by rw [past]; rfl
  have removes : history[2]? = some removing := by rw [past]; rfl
  obtain ⟨_, accounts⟩ := run_due Cluster.serve (fun _ _ => ⟨0⟩) request 3 true
    { store := Cluster.create 1 1 ⟨0⟩ } actions
  exact ⟨valid, spares, (accounts 0 spared spares).2.mpr (.inl rfl),
    removes, (accounts 2 removing removes).2.mpr (.inr valid)⟩

/-- Somebody else has stored the version, whose location is empty. The execution refuses to put it
and makes no call, and the rollback removes it. -/
theorem rollback_without_put :
    let request : Request := { location := "", content := "content", value := [1] }
    let stored := (Cluster.serve .put request (Cluster.create 1 1 ⟨0⟩)).2
    let first : Session Cluster := { put := { request, budget := 3 }, site := { store := stored } }
    let last := first.run Cluster.serve (fun _ _ => ⟨0⟩) [.execute, .rollback]
    stored.replicaCount request.versionKey = 1 ∧
      last.site.store.replicaCount request.versionKey = 0 ∧
      ∃ executed rollback, last.history = [executed, rollback] ∧
        executed.calls = [] ∧ rollback.action = .rollback ∧
        rollback.calls = [(.remove, request)] ∧ ¬Due [executed] rollback := by
  intro request stored first last
  refine ⟨by decide +kernel, by decide +kernel, _, _, rfl, rfl, rfl, rfl, ?_⟩
  intro due
  obtain ⟨execution, present, asked, put⟩ := due ⟨request, .head _⟩
  rw [List.mem_singleton.mp present] at put
  cases put

end Session
end Process
end Quorate
