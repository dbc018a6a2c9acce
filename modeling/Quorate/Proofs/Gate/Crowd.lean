import Mathlib.Data.List.Induction
import Quorate.Association
import Quorate.Gate.Crowd

/-!
A gate is assigned once. Whatever the crowd does, the first signal is the one that opens the gate,
and its value is what everybody finds from then on, early or late, with handles left or without.
A gate that the last handle leaves without a value stays closed.
-/

namespace Quorate.Gate

variable {α : Type}

/-! ### Waits -/

namespace Wait

variable (wait : Wait α) (gate : Gate α) (now : Nat)

private theorem poll_eq_ok_iff (value : α) :
    wait.poll gate now = some (.ok value) ↔ gate.peek = some value := by
  rw [← gate.poll_eq_ok_iff]
  unfold poll pollUntil
  cases wait.timeout with
  | none => rfl
  | some timeout =>
      cases ended : gate.poll with
      | none => simp
      | some result => rfl

private theorem poll_eq_closed_iff :
    wait.poll gate now = some (.error .closed) ↔ gate.peek = none ∧ gate.handles = 0 := by
  have closed := gate.poll_eq_error_iff .closed
  rw [and_iff_left rfl] at closed
  rw [← closed]
  unfold poll pollUntil
  cases wait.timeout with
  | none => rfl
  | some timeout =>
      cases ended : gate.poll with
      | none => simp
      | some result => rfl

private theorem poll_eq_timedOut_iff (waited : Duration) :
    wait.poll gate now = some (.error (.timedOut waited)) ↔
      wait.timeout = some waited ∧ (gate.peek = none ∧ gate.handles ≠ 0) ∧
        wait.started + waited.ticks ≤ now := by
  rw [← gate.poll_eq_none_iff]
  unfold poll pollUntil
  cases wait.timeout with
  | none =>
      have never := gate.poll_eq_error_iff (.timedOut waited)
      simp [never]
  | some timeout =>
      cases ended : gate.poll with
      | none =>
          by_cases same : timeout = waited
          · simp [same]
          · simp [same]
      | some result =>
          have never := gate.poll_eq_error_iff (.timedOut waited)
          rw [ended] at never
          simp [never]

end Wait

/-! ### Moves -/

namespace Crowd

variable (crowd : Crowd α)

inductive StepsTo : Move α → Crowd α → Prop
  | signalled {handle : Nat} (held : crowd.holds handle = true) (value : α) :
      StepsTo (.signal handle value)
        { crowd with
          gate := (crowd.gate.signal value).1
          signals := crowd.signals ++ [(value, (crowd.gate.signal value).2)] }
  | cloned {handle : Nat} (held : crowd.holds handle = true) :
      StepsTo (.clone handle)
        { crowd with gate := crowd.gate.clone, handles := crowd.handles ++ [true] }
  | dropped {handle : Nat} (held : crowd.holds handle = true) :
      StepsTo (.drop handle)
        { crowd with gate := crowd.gate.drop, handles := crowd.handles.set handle false }
  /-- There is no such handle, or none any more. -/
  | refused (move : Move α) : StepsTo move crowd
  | began (timeout : Option Duration) :
      StepsTo (.wait timeout)
        { crowd with waits := crowd.waits ++ [{ timeout := timeout, started := crowd.clock }] }
  | looked (wait : Nat) :
      StepsTo (.look wait)
        { crowd with waits := crowd.waits.modify wait (Wait.look crowd.gate crowd.clock) }
  | elapsed (ticks : Nat) :
      StepsTo (.elapse ticks) { crowd with clock := crowd.clock + ticks }

private theorem stepsTo_step (move : Move α) : crowd.StepsTo move (crowd.step move) := by
  cases move with
  | signal handle value =>
      change crowd.StepsTo _ (crowd.signal handle value)
      unfold signal
      split
      · next held => exact .signalled held value
      · exact .refused _
  | clone handle =>
      change crowd.StepsTo _ (crowd.clone handle)
      unfold clone
      split
      · next held => exact .cloned held
      · exact .refused _
  | drop handle =>
      change crowd.StepsTo _ (crowd.drop handle)
      unfold drop
      split
      · next held => exact .dropped held
      · exact .refused _
  | wait timeout => exact .began timeout
  | look wait => exact .looked wait
  | elapse ticks => exact .elapsed ticks

private theorem run_append_singleton (moves : List (Move α)) (move : Move α) :
    crowd.run (moves ++ [move]) = (crowd.run moves).step move :=
  List.foldl_append

private theorem run_invariant (kept : Crowd α → Prop)
    (step : ∀ crowd move after, kept crowd → StepsTo crowd move after → kept after)
    (moves : List (Move α)) (holds : kept crowd) : kept (crowd.run moves) := by
  induction moves generalizing crowd with
  | nil => exact holds
  | cons move rest ih => exact ih _ (step crowd move _ holds (crowd.stepsTo_step move))

/-! ### Handles and signals -/

def first? : Option α := crowd.signals.head?.map Prod.fst

/-- Every handle has been dropped, and none has signalled. -/
def Abandoned : Prop := crowd.signals = [] ∧ ∀ handle, crowd.holds handle = false

/-- The gate knows how many handles are left, and holds the value of the first signal, which alone
was told that it opened the gate. -/
structure Orderly : Prop where
  counted : crowd.gate.handles = crowd.handles.count true
  assigned : crowd.gate.peek = crowd.first?
  answered : ∀ number value answer, crowd.signals[number]? = some (value, answer) →
    (answer = true ↔ number = 0)

private theorem Orderly.initial : ({} : Crowd α).Orderly where
  counted := rfl
  assigned := rfl
  answered := by
    intro number value answer found
    cases found

variable {crowd}

private theorem first?_eq_none_iff : crowd.first? = none ↔ crowd.signals = [] := by
  unfold first?
  rw [Option.map_eq_none_iff, List.head?_eq_none_iff]

private theorem first?_append {value : α} (first : crowd.first? = some value)
    (later : List (α × Bool)) :
    { crowd with signals := crowd.signals ++ later }.first? = some value := by
  unfold first? at first ⊢
  obtain ⟨signal, head, same⟩ := Option.map_eq_some_iff.mp first
  rw [List.head?_append, head]
  exact congrArg some same

private theorem getElem?_of_holds {handle : Nat} (held : crowd.holds handle = true) :
    crowd.handles[handle]? = some true := by
  unfold holds at held
  rw [List.getD_eq_getElem?_getD] at held
  cases found : crowd.handles[handle]? with
  | none =>
      rw [found] at held
      cases held
  | some kept =>
      rw [found] at held
      exact congrArg some held

private theorem forall_holds_iff :
    (∀ handle, crowd.holds handle = false) ↔ crowd.handles.count true = 0 := by
  rw [List.count_eq_zero]
  constructor
  · intro dropped present
    obtain ⟨handle, found⟩ := List.mem_iff_getElem?.mp present
    have gone := dropped handle
    unfold holds at gone
    rw [List.getD_eq_getElem?_getD, found] at gone
    cases gone
  · intro absent handle
    by_contra held
    exact absent (List.mem_of_getElem? (getElem?_of_holds (Bool.not_eq_false _ ▸ held)))

namespace Orderly

private theorem abandoned_iff (orderly : crowd.Orderly) :
    crowd.Abandoned ↔ crowd.gate.peek = none ∧ crowd.gate.handles = 0 := by
  unfold Abandoned
  rw [orderly.assigned, orderly.counted, first?_eq_none_iff, forall_holds_iff]

private theorem signalled (orderly : crowd.Orderly) (value : α) :
    { crowd with
      gate := (crowd.gate.signal value).1
      signals := crowd.signals ++ [(value, (crowd.gate.signal value).2)] : Crowd α }.Orderly := by
  cases found : crowd.gate.peek with
  | none =>
      have nothing : crowd.signals = [] :=
        first?_eq_none_iff.mp (orderly.assigned.symm.trans found)
      rw [crowd.gate.signal_of_peek_none found, nothing]
      refine ⟨orderly.counted, rfl, ?_⟩
      intro number other answer here
      cases number with
      | zero =>
          cases here
          exact iff_of_true rfl rfl
      | succ number => cases here
  | some present =>
      have earlier : crowd.first? = some present := orderly.assigned.symm.trans found
      have some : crowd.signals ≠ [] := by
        intro nothing
        rw [first?_eq_none_iff.mpr nothing] at earlier
        cases earlier
      rw [crowd.gate.signal_of_peek_some found]
      refine ⟨orderly.counted, ?_, ?_⟩
      · exact found.trans (first?_append earlier _).symm
      · intro number other answer here
        -- There is an earlier signal, so the new one is not the first and opens nothing.
        rcases Numbering.getElem?_concat_iff.mp here with before | ⟨rfl, same⟩
        · exact orderly.answered number other answer before
        · have length := List.length_pos_iff.mpr some
          cases same
          exact iff_of_false Bool.false_ne_true (Nat.ne_of_gt length)

private theorem step (crowd : Crowd α) (move : Move α) (after : Crowd α) (orderly : crowd.Orderly)
    (steps : crowd.StepsTo move after) : after.Orderly := by
  cases steps with
  | signalled held value => exact orderly.signalled value
  | cloned held =>
      refine ⟨?_, orderly.assigned, orderly.answered⟩
      change crowd.gate.handles + 1 = (crowd.handles ++ [true]).count true
      rw [orderly.counted, List.count_append]
      rfl
  | @dropped handle held =>
      refine ⟨?_, orderly.assigned, orderly.answered⟩
      change crowd.gate.handles - 1 = (crowd.handles.set handle false).count true
      obtain ⟨bound, found⟩ := List.getElem?_eq_some_iff.mp (getElem?_of_holds held)
      rw [orderly.counted, List.count_set bound, found]
      rfl
  | refused => exact orderly
  | began timeout => exact ⟨orderly.counted, orderly.assigned, orderly.answered⟩
  | looked wait => exact ⟨orderly.counted, orderly.assigned, orderly.answered⟩
  | elapsed ticks => exact ⟨orderly.counted, orderly.assigned, orderly.answered⟩

private theorem run (orderly : crowd.Orderly) (moves : List (Move α)) : (crowd.run moves).Orderly :=
  crowd.run_invariant Orderly step moves orderly

end Orderly

/-! ### What lasts -/

private theorem first?_run {value : α} (moves : List (Move α)) (first : crowd.first? = some value) :
    (crowd.run moves).first? = some value := by
  apply crowd.run_invariant (fun crowd => crowd.first? = some value) _ moves first
  intro crowd move after before steps
  cases steps with
  | signalled held later => exact first?_append before _
  | _ => exact before

private theorem Abandoned.run (abandoned : crowd.Abandoned) (moves : List (Move α)) :
    (crowd.run moves).Abandoned := by
  apply crowd.run_invariant Abandoned _ moves abandoned
  intro crowd move after before steps
  have none : ∀ {handle}, crowd.holds handle ≠ true := by
    intro handle held
    rw [before.2 handle] at held
    cases held
  cases steps with
  | signalled held value => exact absurd held none
  | cloned held => exact absurd held none
  | dropped held => exact absurd held none
  | _ => exact before

private theorem waits_step_cases (move : Move α) {number : Nat} {wait : Wait α}
    (found : (crowd.step move).waits[number]? = some wait) :
    crowd.waits[number]? = some wait ∨ wait.result = none ∨
      move = .look number ∧ wait.poll crowd.gate crowd.clock = wait.result := by
  have steps := crowd.stepsTo_step move
  generalize crowd.step move = after at found steps
  cases steps with
  | began timeout =>
      rcases Numbering.getElem?_concat_iff.mp found with before | ⟨_, rfl⟩
      · exact .inl before
      · exact .inr (.inl rfl)
  | looked other =>
      rw [List.getElem?_modify] at found
      obtain ⟨old, present, looked⟩ := Option.map_eq_some_iff.mp found
      by_cases same : other = number
      · rw [if_pos same] at looked
        unfold Wait.look at looked
        split at looked
        · subst looked
          exact .inr (.inr ⟨congrArg Move.look same, rfl⟩)
        · rw [← looked]
          exact .inl present
      · rw [if_neg same] at looked
        rw [← looked]
        exact .inl present
  | _ => exact .inl found

private theorem waits_run {number : Nat} {wait : Wait α} {result : Except Fault α}
    (moves : List (Move α)) (found : crowd.waits[number]? = some wait)
    (ended : wait.result = some result) : (crowd.run moves).waits[number]? = some wait := by
  apply crowd.run_invariant (fun crowd => crowd.waits[number]? = some wait) _ moves found
  intro crowd move after before steps
  cases steps with
  | began timeout => exact Numbering.getElem?_concat_of_some before
  | looked other =>
      have still : wait.look crowd.gate crowd.clock = wait := by
        unfold Wait.look
        rw [ended]
      rw [List.getElem?_modify, before, Option.map_eq_map, Option.map_some, still, ite_self]
  | _ => exact before

/-- Every end that a wait has come to was seen by a look at it. -/
theorem exists_look (moves : List (Move α)) {number : Nat} {wait : Wait α}
    {result : Except Fault α} (found : (run moves {}).waits[number]? = some wait)
    (ended : wait.result = some result) :
    ∃ earlier later, moves = earlier ++ .look number :: later ∧
      wait.poll (run earlier {}).gate (run earlier {}).clock = some result := by
  induction moves using List.reverseRecOn with
  | nil => cases found
  | append_singleton moves move ih =>
      rw [run_append_singleton] at found
      rcases waits_step_cases move found with before | fresh | ⟨rfl, looked⟩
      · obtain ⟨earlier, later, rfl, seen⟩ := ih before
        exact ⟨earlier, later ++ [move], by simp, seen⟩
      · rw [ended] at fresh
        cases fresh
      · exact ⟨moves, [], rfl, looked.trans ended⟩

/-! ### What a wait comes to -/

/-- The wait can end in this way, by what the crowd has done so far. -/
def Ends (crowd : Crowd α) (wait : Wait α) : Except Fault α → Prop
  | .ok value => crowd.first? = some value
  | .error .closed => crowd.Abandoned
  | .error (.timedOut waited) =>
      wait.timeout = some waited ∧ crowd.first? = none ∧ ¬crowd.Abandoned ∧
        wait.started + waited.ticks ≤ crowd.clock

private theorem Orderly.poll_eq_some_iff (orderly : crowd.Orderly) (wait : Wait α)
    (result : Except Fault α) :
    wait.poll crowd.gate crowd.clock = some result ↔ crowd.Ends wait result := by
  cases result with
  | ok value =>
      rw [wait.poll_eq_ok_iff, orderly.assigned]
      rfl
  | error fault =>
      cases fault with
      | closed =>
          rw [wait.poll_eq_closed_iff, ← orderly.abandoned_iff]
          rfl
      | timedOut waited =>
          have open? : (crowd.gate.peek = none ∧ crowd.gate.handles ≠ 0) ↔
              crowd.first? = none ∧ ¬crowd.Abandoned := by
            rw [orderly.abandoned_iff, orderly.assigned]
            tauto
          rw [wait.poll_eq_timedOut_iff, open?]
          unfold Ends
          rw [and_assoc]

private theorem waits_look {number : Nat} {wait : Wait α} (found : crowd.waits[number]? = some wait)
    (resting : wait.result = none) :
    (crowd.step (.look number)).waits[number]? =
      some { wait with result := wait.poll crowd.gate crowd.clock } := by
  have looked : wait.look crowd.gate crowd.clock =
      { wait with result := wait.poll crowd.gate crowd.clock } := by
    unfold Wait.look
    rw [resting]
  change (crowd.waits.modify number _)[number]? = _
  rw [List.getElem?_modify, found, Option.map_eq_map, Option.map_some, if_pos rfl, looked]

/-- Whatever the crowd does, the first signal and no other is told that it opened the gate, and
from then on its value is what there is to see. A wait ends with the value of the first signal; or
the gate was abandoned, and then it stays so; or there was neither, and it ran out of its own time
when it was looked at. -/
theorem run_single_assignment (moves : List (Move α)) :
    let crowd := run moves {}
    (∀ number value answer, crowd.signals[number]? = some (value, answer) →
      (answer = true ↔ number = 0)) ∧
      (crowd.gate.peek = crowd.first? ∧ crowd.gate.isOpen = crowd.first?.isSome) ∧
      (∀ later value, crowd.first? = some value → (crowd.run later).gate.peek = some value) ∧
      (∀ later, crowd.Abandoned → (crowd.run later).gate.peek = none) ∧
      ∀ number wait, crowd.waits[number]? = some wait →
        (wait.result = none → ∀ result,
          ((crowd.step (.look number)).waits[number]?).bind Wait.result = some result ↔
            crowd.Ends wait result) ∧
        ∀ result, wait.result = some result →
          (∀ value, result = .ok value → crowd.first? = some value) ∧
            (result = .error .closed → crowd.Abandoned) ∧
            (∃ earlier later, moves = earlier ++ .look number :: later ∧
              (run earlier {}).Ends wait result) ∧
            ∀ later, (crowd.run later).waits[number]? = some wait := by
  intro crowd
  have always : ∀ moves, (run moves ({} : Crowd α)).Orderly := Orderly.initial.run
  have orderly := always moves
  refine ⟨orderly.answered, ⟨orderly.assigned, congrArg Option.isSome orderly.assigned⟩, ?_, ?_, ?_⟩
  · intro later value first
    rw [(orderly.run later).assigned]
    exact first?_run later first
  · intro later abandoned
    exact ((orderly.run later).abandoned_iff.mp (abandoned.run later)).1
  · intro number wait found
    constructor
    · intro resting result
      rw [waits_look found resting]
      exact orderly.poll_eq_some_iff wait result
    · intro result ended
      obtain ⟨earlier, later, rfl, seen⟩ := exists_look moves found ended
      have ends := ((always earlier).poll_eq_some_iff wait result).mp seen
      have since : crowd = (run earlier {}).run (.look number :: later) := List.foldl_append
      refine ⟨?_, ?_, ⟨earlier, later, rfl, ends⟩, fun after => waits_run after found ended⟩
      · rintro value rfl
        rw [since]
        exact first?_run _ ends
      · rintro rfl
        rw [since]
        exact Abandoned.run ends _

/-- One wait has no time at all and ends before the first signal; another one has none either, but
begins when the last handle has gone. -/
def race : List (Move String) :=
  [.wait (some ⟨0⟩), .look 0, .clone 0, .drop 0, .signal 1 "first", .signal 1 "second", .drop 1,
    .wait (some ⟨0⟩), .look 1]

theorem run_single_assignment_race :
    let crowd := run race {}
    let early : Wait String := ⟨some ⟨0⟩, 0, some (.error (.timedOut ⟨0⟩))⟩
    let late : Wait String := ⟨some ⟨0⟩, 0, some (.ok "first")⟩
    crowd.signals = [("first", true), ("second", false)] ∧
      (∀ handle, crowd.holds handle = false) ∧
      (∀ later, (crowd.run later).gate.peek = some "first") ∧
      (∃ earlier later, race = earlier ++ .look 0 :: later ∧
        (run earlier {}).Ends early (.error (.timedOut ⟨0⟩))) ∧
      ∀ later, (crowd.run later).waits[1]? = some late := by
  intro crowd early late
  obtain ⟨_, _, stays, _, waits⟩ := run_single_assignment race
  obtain ⟨_, _, looked, _⟩ := (waits 0 early rfl).2 _ rfl
  obtain ⟨_, _, _, lasts⟩ := (waits 1 late rfl).2 _ rfl
  exact ⟨rfl, forall_holds_iff.mpr rfl, fun later => stays later "first" rfl, looked, lasts⟩

end Crowd
end Quorate.Gate
