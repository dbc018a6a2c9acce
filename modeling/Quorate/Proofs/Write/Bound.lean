import Mathlib.Data.Nat.Find
import Quorate.Proofs.Write.Rehearsal

/-!
The bound on retries over the whole range of budgets, for stores that never reach the quorum. A
write counts its retries in a word of the same width as its budget, and compares after counting.
So the greatest budget is never exceeded: the count starts again at zero, and the write goes on.
With any other budget the count never wraps, and the write ends.
-/

namespace Quorate.Write

open Store

/-! ### Counting in words -/

section Words

variable (budget : UInt32) (attempt : Nat)

private theorem not_budget_lt_of_le (within : attempt ≤ budget.toNat) :
    ¬budget < UInt32.ofNat attempt := by
  have bounded : attempt < UInt32.size := Nat.lt_of_le_of_lt within budget.toNat_lt_size
  rw [budget_lt_iff budget attempt bounded]
  exact Nat.not_lt_of_le within

private theorem not_budget_lt_of_greatest (greatest : budget.toNat + 1 = UInt32.size) :
    ¬budget < UInt32.ofNat attempt := by
  rw [UInt32.lt_iff_toNat_lt]
  have bounded := (UInt32.ofNat attempt).toNat_lt_size
  omega

theorem retries_attempting (request : Request) :
    (attempting request budget attempt).retries.toNat = attempt % UInt32.size :=
  UInt32.toNat_ofNat'

end Words

/-- So many failed puts do not exceed the budget, as far as counting in words can tell. -/
def Within (budget : UInt32) (count : Nat) : Prop :=
  ∀ earlier, earlier < count → ¬budget < UInt32.ofNat (earlier + 1)

private theorem within_of_le (budget : UInt32) (count : Nat) (le : count ≤ budget.toNat) :
    Within budget count :=
  fun earlier less => not_budget_lt_of_le budget (earlier + 1) (Nat.le_trans less le)

theorem Within.le {budget : UInt32} {count : Nat} (within : Within budget count)
    (bounded : budget.toNat + 1 < UInt32.size) : count ≤ budget.toNat := by
  by_contra more
  have exceeds := within budget.toNat (Nat.lt_of_not_le more)
  rw [budget_lt_iff budget (budget.toNat + 1) bounded] at exceeds
  exact exceeds (Nat.lt_succ_self _)

/-! ### So many calls -/

section Service

variable {σ : Type} (service : Service σ) (request : Request) (budget : UInt32)
variable (attempt count left : Nat) (store : σ)

private theorem drive_add (first later : Nat) (write : Write) (store : σ) :
    drive service (first + later) write store =
      drive service later (drive service first write store).1
        (drive service first write store).2 := by
  induction first generalizing write store with
  | zero =>
      rw [Nat.zero_add]
      rfl
  | succ first ih =>
      cases wanted : write.call? with
      | none =>
          have still : ∀ left, drive service left write store = (write, store) :=
            fun left => drive_of_no_call service left write store wanted
          rw [still, still, still]
      | some call =>
          rw [Nat.succ_add, drive_perform service _ write store call wanted,
            drive_perform service _ write store call wanted]
          exact ih _ _

private theorem drive_one_put (refuses : Refuses service request store 0) :
    drive service 1 (attempting request budget attempt) store =
      (takingBack request budget (attempt + 1) (decide (budget < UInt32.ofNat (attempt + 1))),
        (service .put request store).2) := by
  obtain ⟨⟨completion, ended, refused⟩, _⟩ := refuses
  have driven := drive_succ service 0 (attempting request budget attempt) store .put rfl
    completion ended
  rw [receive_missed request budget attempt completion refused] at driven
  exact driven

/-- The write goes through the next round unless the count exceeds the budget. -/
theorem drive_round (refuses : Refuses service request store 0)
    (more : ¬budget < UInt32.ofNat (attempt + 1)) :
    drive service 2 (attempting request budget attempt) store =
      (attempting request budget (attempt + 1), takenBack service request store) := by
  obtain ⟨removal, removed⟩ := refuses.2
  have driven := drive_succ service 0 (takingBack request budget (attempt + 1) false)
    (service .put request store).2 .remove rfl removal removed
  rw [receive_removed] at driven
  rw [drive_add service 1 1, drive_one_put service request budget attempt store refuses,
    decide_eq_false more]
  exact driven

private theorem drive_rounds (refuses : ∀ earlier, Refuses service request store earlier)
    (within : Within budget count) :
    drive service (2 * count) (attempting request budget 0) store =
      (attempting request budget count, afterRounds service request count store) := by
  induction count with
  | zero => rfl
  | succ count ih =>
      have before := ih fun earlier less => within earlier (Nat.lt_succ_of_lt less)
      have more := within count (Nat.lt_succ_self count)
      rw [Nat.mul_succ, drive_add, before,
        drive_round service request budget count _ (refuses count) more, ← afterRounds_succ]

private theorem drive_rounds_and_put (refuses : ∀ earlier, Refuses service request store earlier)
    (within : Within budget count) :
    drive service (2 * count + 1) (attempting request budget 0) store =
      (takingBack request budget (count + 1) (decide (budget < UInt32.ofNat (count + 1))),
        (service .put request (afterRounds service request count store)).2) := by
  rw [drive_add, drive_rounds service request budget count store refuses within,
    drive_one_put service request budget count _ (refuses count)]

/-- Where a write stands after so many calls: between two rounds, within one, or at its end. -/
inductive Stands (left : Nat) : Write × σ → Prop where
  | putting (count : Nat) (made : left = 2 * count) (within : Within budget count) :
      Stands left (attempting request budget count, afterRounds service request count store)
  | removing (count : Nat) (givingUp : Bool) (made : left = 2 * count + 1)
      (within : Within budget count) :
      Stands left (takingBack request budget (count + 1) givingUp,
        (service .put request (afterRounds service request count store)).2)
  | decided (bounded : budget.toNat + 1 < UInt32.size) (enough : 2 * (budget.toNat + 1) ≤ left) :
      Stands left ((attempting request budget (budget.toNat + 1)).settle false,
        afterRounds service request (budget.toNat + 1) store)

private theorem stands_drive (refuses : ∀ earlier, Refuses service request store earlier) :
    Stands service request budget store left
      (drive service left (attempting request budget 0) store) := by
  have going : ∀ count, left / 2 = count → Within budget count →
      Stands service request budget store left
        (drive service left (attempting request budget 0) store) := by
    intro count half within
    rcases Nat.mod_two_eq_zero_or_one left with even | odd
    · obtain rfl : left = 2 * count := by omega
      rw [drive_rounds service request budget count store refuses within]
      exact .putting count rfl within
    · obtain rfl : left = 2 * count + 1 := by omega
      rw [drive_rounds_and_put service request budget count store refuses within]
      exact .removing count _ rfl within
  have size := budget.toNat_lt_size
  by_cases bounded : budget.toNat + 1 < UInt32.size
  · by_cases enough : 2 * (budget.toNat + 1) ≤ left
    · have driven := drive_until_exhausted service request budget 0 left store budget.toNat
        (fun earlier _within => refuses earlier) (Nat.zero_add _) bounded (by omega)
      rw [driven, Nat.zero_add]
      exact .decided bounded enough
    · exact going _ rfl (within_of_le budget _ (by omega))
  · have greatest : budget.toNat + 1 = UInt32.size := by omega
    exact going _ rfl fun earlier _less => not_budget_lt_of_greatest budget _ greatest

end Service

/-! ### The calls of a script -/

def Script.calls (script : Script) : List Call :=
  (script.contacts.filterMap Contact.issue?).map Prod.fst

section Script

variable (request : Request) (script : Script)

private theorem calls_serve (call : Call) :
    (Script.serve call request script).2.calls = script.calls ++ [call] := by
  unfold Script.calls
  rw [serve_contacts, List.filterMap_append, Cue.filterMap_issue?, List.map_append]
  rfl

private theorem calls_afterRounds (count : Nat) :
    (afterRounds Script.serve request count script).calls =
      script.calls ++ (List.replicate count [Call.put, Call.remove]).flatten := by
  unfold Script.calls
  rw [filterMap_afterRounds, List.map_append]
  unfold roundIssues
  rw [List.map_flatten, List.map_replicate]
  rfl

private theorem count_rounds (call : Call) (count : Nat) :
    (List.replicate count [Call.put, Call.remove]).flatten.count call = count := by
  rw [List.count_flatten, List.map_replicate, List.sum_replicate_nat]
  cases call <;> exact Nat.mul_one count

private theorem length_rounds (count : Nat) :
    (List.replicate count [Call.put, Call.remove]).flatten.length = 2 * count := by
  rw [List.length_flatten, List.map_replicate, List.sum_replicate_nat]
  exact Nat.mul_comm count 2

end Script

/-! ### The whole range -/

section Range

variable {request : Request} {budget : UInt32} {script : Script} {left : Nat}
variable {state : Write × Script}

private theorem Stands.retries (stands : Stands Script.serve request budget script left state)
    (fresh : script.calls = []) :
    state.1.retries.toNat = state.2.calls.count .put % UInt32.size := by
  cases stands with
  | putting count made within =>
      rw [retries_attempting, calls_afterRounds, fresh, List.nil_append, count_rounds]
  | removing count givingUp made within =>
      have counted : (takingBack request budget (count + 1) givingUp).retries.toNat =
          (count + 1) % UInt32.size := retries_attempting budget (count + 1) request
      rw [counted, calls_serve, calls_afterRounds, fresh, List.nil_append, List.count_append,
        count_rounds]
      rfl
  | decided bounded enough =>
      have counted : ((attempting request budget (budget.toNat + 1)).settle false).retries.toNat =
          (budget.toNat + 1) % UInt32.size := retries_attempting budget (budget.toNat + 1) request
      rw [counted, calls_afterRounds, fresh, List.nil_append, count_rounds]

private theorem Stands.count_put_le (stands : Stands Script.serve request budget script left state)
    (fresh : script.calls = []) (bounded : budget.toNat + 1 < UInt32.size) :
    state.2.calls.count .put ≤ budget.toNat + 1 := by
  cases stands with
  | putting count made within =>
      have most := within.le bounded
      rw [calls_afterRounds, fresh, List.nil_append, count_rounds]
      omega
  | removing count givingUp made within =>
      have most := within.le bounded
      rw [calls_serve, calls_afterRounds, fresh, List.nil_append, List.count_append,
        count_rounds]
      exact Nat.succ_le_succ most
  | decided bounded enough =>
      rw [calls_afterRounds, fresh, List.nil_append, count_rounds]

private theorem Stands.of_enough (stands : Stands Script.serve request budget script left state)
    (fresh : script.calls = []) (bounded : budget.toNat + 1 < UInt32.size)
    (enough : 2 * (budget.toNat + 1) ≤ left) :
    state.2.calls = (List.replicate (budget.toNat + 1) [Call.put, Call.remove]).flatten ∧
      state.1.verdict? = some false := by
  cases stands with
  | putting count made within =>
      have most := within.le bounded
      omega
  | removing count givingUp made within =>
      have most := within.le bounded
      omega
  | decided bounded enough =>
      rw [calls_afterRounds, fresh]
      exact ⟨rfl, settle_verdict? request budget _ false⟩

private theorem Stands.of_greatest (stands : Stands Script.serve request budget script left state)
    (fresh : script.calls = []) (greatest : budget.toNat + 1 = UInt32.size) :
    state.2.calls.length = left ∧ state.1.call?.isSome = true ∧ state.1.verdict? = none := by
  cases stands with
  | putting count made within =>
      rw [calls_afterRounds, fresh, List.nil_append, length_rounds, made]
      exact ⟨rfl, rfl, rfl⟩
  | removing count givingUp made within =>
      rw [calls_serve, calls_afterRounds, fresh, List.nil_append, List.length_append,
        length_rounds, made]
      exact ⟨rfl, rfl, rfl⟩
  | decided bounded enough => exact absurd greatest (Nat.ne_of_lt bounded)

end Range

/-- When no put ever reaches the quorum, the retries are the failed puts, counted in words. Below
the greatest budget the count never wraps, and the write fails after one round more than the budget
allows retries. With the greatest budget it makes calls without end. -/
theorem drive_of_never_accepted (request : Request) (budget : UInt32) (puts removals : Nat → Cue)
    (putsSurvived : Survived puts) (removalsSurvived : Survived removals)
    (missed : ∀ attempt, ¬AcceptedAt puts attempt) :
    let after := fun left =>
      drive Script.serve left { request, budget } { puts := puts, removals := removals }
    let made := fun left => (after left).2.calls
    (∀ left, (after left).1.retries.toNat = (made left).count .put % UInt32.size) ∧
      (budget.toNat + 1 < UInt32.size →
        (∀ left, (after left).1.retries.toNat = (made left).count .put) ∧
          ∀ left, 2 * (budget.toNat + 1) ≤ left →
            made left = (List.replicate (budget.toNat + 1) [Call.put, Call.remove]).flatten ∧
              (made left).count .put = budget.toNat + 1 ∧
              (made left).count .remove = budget.toNat + 1 ∧
              (after left).1.verdict? = some false) ∧
      (budget.toNat + 1 = UInt32.size → ∀ left,
        (made left).length = left ∧ (after left).1.call?.isSome = true ∧
          (after left).1.verdict? = none) := by
  intro after made
  have stands : ∀ left, Stands Script.serve request budget
      { puts := puts, removals := removals } left (after left) := fun left =>
    stands_drive Script.serve request budget left _ fun attempt =>
      refuses_of_not_acceptedAt request puts removals putsSurvived removalsSurvived attempt
        (missed attempt)
  have counted := fun left => (stands left).retries rfl
  refine ⟨counted, ?_, ?_⟩
  · intro bounded
    constructor
    · intro left
      have most := (stands left).count_put_le rfl bounded
      rw [counted]
      exact Nat.mod_eq_of_lt (Nat.lt_of_le_of_lt most bounded)
    · intro left enough
      obtain ⟨calls, verdict⟩ := (stands left).of_enough rfl bounded enough
      refine ⟨calls, ?_, ?_, verdict⟩
      · exact (congrArg (List.count Call.put) calls).trans (count_rounds _ _)
      · exact (congrArg (List.count Call.remove) calls).trans (count_rounds _ _)
  · intro greatest left
    exact (stands left).of_greatest rfl greatest

/-- A store that refuses every call, a budget of two retries, and the greatest budget. -/
theorem drive_of_never_accepted_refusals :
    let request : Request := { location := "loc", content := "content" }
    let refusing : Nat → Cue := fun _ => { outcome := .refused (.submissionRejected "no") }
    let after := fun budget left =>
      drive Script.serve left { request, budget } { puts := refusing, removals := refusing }
    Survived refusing ∧ (∀ attempt, ¬AcceptedAt refusing attempt) ∧
      (2 : UInt32).toNat + 1 < UInt32.size ∧ (4294967295 : UInt32).toNat + 1 = UInt32.size ∧
      (after 2 6).2.calls = [.put, .remove, .put, .remove, .put, .remove] ∧
      (after 2 6).1.verdict? = some false ∧
      ∀ left, (after 4294967295 left).1.verdict? = none := by
  intro request refusing after
  have survived : Survived refusing := fun _ => nofun
  have missed : ∀ attempt, ¬AcceptedAt refusing attempt := by
    rintro attempt ⟨completion, ended, accepted⟩
    cases ended
    cases accepted
  have small : (2 : UInt32).toNat + 1 < UInt32.size := by decide
  have greatest : (4294967295 : UInt32).toNat + 1 = UInt32.size := by decide
  obtain ⟨_, ending, _⟩ :=
    drive_of_never_accepted request 2 refusing refusing survived survived missed
  obtain ⟨_, _, endless⟩ :=
    drive_of_never_accepted request 4294967295 refusing refusing survived survived missed
  obtain ⟨calls, _, _, verdict⟩ := (ending small).2 6 (by decide)
  exact ⟨survived, missed, small, greatest, calls, verdict,
    fun left => (endless greatest left).2.2⟩

/-- With the greatest budget a write that is refused everything is back at its start after as many
puts as there are words, and so it will never have a verdict. -/
theorem greatest_budget_starts_again :
    let write : Write :=
      { request := { location := "loc", content := "content" }, budget := 4294967295 }
    let refusing : Nat → Cue := fun _ => { outcome := .refused (.submissionRejected "no") }
    let after :=
      drive Script.serve (2 * UInt32.size) write { puts := refusing, removals := refusing }
    after.2.calls.count .put = 4294967296 ∧ after.1 = write ∧ after.1.verdict? = none := by
  intro write refusing after
  have survived : Survived refusing := fun _ => nofun
  have refuses : ∀ attempt,
      Refuses Script.serve write.request { puts := refusing, removals := refusing } attempt := by
    intro attempt
    apply refuses_of_not_acceptedAt write.request refusing refusing survived survived
    rintro ⟨completion, ended, accepted⟩
    cases ended
    cases accepted
  have within : Within write.budget UInt32.size :=
    fun earlier _less => not_budget_lt_of_greatest _ (earlier + 1) (by decide)
  have rounds := drive_rounds Script.serve write.request write.budget UInt32.size
    { puts := refusing, removals := refusing } refuses within
  have start : attempting write.request write.budget 0 = write := rfl
  have wrapped : attempting write.request write.budget UInt32.size = write := rfl
  rw [start, wrapped] at rounds
  have driven : after = (write, _) := rounds
  have fresh : ({ puts := refusing, removals := refusing } : Script).calls = [] := rfl
  rw [driven, calls_afterRounds, fresh, List.nil_append, count_rounds]
  exact ⟨rfl, rfl, rfl⟩

end Quorate.Write
