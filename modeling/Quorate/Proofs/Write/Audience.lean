import Quorate.Association
import Quorate.Proofs.Write.Bound
import Quorate.Proofs.Write.Workload
import Quorate.Write.Audience

/-!
Whoever asks for the verdict of a write is told the same. There is none while calls are made. A put
that reached the quorum makes it true if the task lives on to publish it, and a task that gives up
makes it false. If the task goes away there will never be a verdict, and every wait ends as if it
had been false.
-/

namespace Quorate.Write

open Store

/-- The budget allows this attempt: the first one, and as many retries. No count of retries exceeds
the greatest budget, which therefore allows any attempt. -/
def Budgeted (budget : UInt32) (attempt : Nat) : Prop :=
  budget.toNat + 1 < UInt32.size → attempt ≤ budget.toNat

private theorem Within.succ {budget : UInt32} {count : Nat} (within : Within budget count)
    (more : ¬budget < UInt32.ofNat (count + 1)) : Within budget (count + 1) := by
  intro earlier less
  rcases Nat.lt_succ_iff_lt_or_eq.mp less with before | rfl
  · exact within earlier before
  · exact more

private theorem verdict?_of_closed {write : Write} (closed : write.gate = { handles := 0 }) :
    write.verdict? = none := by
  unfold verdict?
  rw [closed]
  rfl

namespace Audience

/-- Some attempt within the budget reached the quorum, and the task heard of it. -/
def Reached (budget : UInt32) (ends : List Completion) : Prop :=
  ∃ attempt completion, ends[attempt]? = some completion ∧ Budgeted budget attempt ∧
    (Quorum.evaluate completion).accepted = true

def Missed (ends : List Completion) : Prop :=
  ∀ completion ∈ ends, (Quorum.evaluate completion).accepted = false

private theorem Missed.concat {ends : List Completion} (missed : Missed ends) {last : Completion}
    (refused : (Quorum.evaluate last).accepted = false) : Missed (ends ++ [last]) := by
  intro completion present
  rcases List.mem_append.mp present with before | here
  · exact missed completion before
  · rw [List.mem_singleton.mp here]
    exact refused

private theorem Missed.not_reached {ends : List Completion} (missed : Missed ends)
    (budget : UInt32) : ¬Reached budget ends := by
  rintro ⟨attempt, completion, found, _, accepted⟩
  rw [missed completion (List.mem_of_getElem? found)] at accepted
  cases accepted

/-! ### How far the task has got -/

section Progress

variable (request : Request) (budget : UInt32)

/-- What the task has heard of its puts, at every point that it can be at. -/
inductive Progress : Write → List Completion → Prop
  | putting (ends : List Completion) (missed : Missed ends) (within : Within budget ends.length) :
      Progress (attempting request budget ends.length) ends
  | removing (count : Nat) (ends : List Completion) (heard : ends.length = count + 1)
      (missed : Missed ends) (within : Within budget count) (givingUp : Bool)
      (exceeded : givingUp = decide (budget < UInt32.ofNat (count + 1))) :
      Progress (takingBack request budget (count + 1) givingUp) ends
  | reached (count : Nat) (ends : List Completion) (last : Completion)
      (found : ends[count]? = some last) (within : Within budget count)
      (accepted : (Quorum.evaluate last).accepted = true) :
      Progress ((attempting request budget count).settle true) ends
  | failed (count : Nat) (ends : List Completion) (missed : Missed ends) :
      Progress ((attempting request budget count).settle false) ends
  | lost (write : Write) (ends : List Completion) (gone : write.stage = .lost)
      (closed : write.gate = { handles := 0 }) : Progress write ends

variable {request budget} {write : Write} {ends : List Completion}

namespace Progress

theorem receive (progress : Progress request budget write ends) (completion : Completion) :
    Progress request budget (write.receive completion).1 (noted write ends completion) := by
  cases progress with
  | putting _ missed within =>
      change Progress request budget _ (ends ++ [completion])
      cases accepted : (Quorum.evaluate completion).accepted with
      | true =>
          rw [receive_accepted request budget ends.length completion accepted]
          exact .reached ends.length _ completion List.getElem?_concat_length within accepted
      | false =>
          rw [receive_missed request budget ends.length completion accepted]
          exact .removing ends.length _ List.length_append (missed.concat accepted) within _ rfl
  | removing count _ heard missed within givingUp exceeded =>
      change Progress request budget _ ends
      rw [receive_removed]
      cases givingUp with
      | true => exact .failed (count + 1) ends missed
      | false =>
          have more := within.succ (of_decide_eq_false exceeded.symm)
          rw [← heard] at more ⊢
          exact .putting ends missed more
  | reached count _ last found within accepted =>
      exact .reached count ends last found within accepted
  | failed count _ missed => exact .failed count ends missed
  | lost _ _ gone closed =>
      have idle : write.call? = none := by
        unfold call?
        rw [gone]
      unfold noted
      rw [receive_of_no_call idle, idle]
      exact .lost write ends gone closed

theorem lose (progress : Progress request budget write ends) {call : Call}
    (wanted : write.call? = some call) (heard : List Completion) :
    Progress request budget write.lose heard := by
  cases progress with
  | putting _ missed within => exact .lost _ heard rfl rfl
  | removing count _ length missed within givingUp exceeded => exact .lost _ heard rfl rfl
  | reached count _ last found within accepted => cases wanted
  | failed count _ missed => cases wanted
  | lost _ _ gone closed =>
      unfold call? at wanted
      rw [gone] at wanted
      cases wanted

theorem awaited?_eq (progress : Progress request budget write ends) :
    write.awaited?.map Prod.fst = if write.stage = .lost then some false else write.verdict? := by
  cases progress with
  | lost _ _ gone closed =>
      unfold awaited?
      rw [closed, if_pos gone]
      rfl
  | _ => rfl

theorem verdict?_eq_none_iff (progress : Progress request budget write ends) :
    write.verdict? = none ↔ write.call? ≠ none ∨ write.stage = .lost := by
  cases progress with
  | putting _ missed within => exact iff_of_true rfl (.inl nofun)
  | removing count _ heard missed within givingUp exceeded => exact iff_of_true rfl (.inl nofun)
  | reached count _ last found within accepted =>
      exact iff_of_false nofun (not_or_intro (not_not_intro rfl) nofun)
  | failed count _ missed => exact iff_of_false nofun (not_or_intro (not_not_intro rfl) nofun)
  | lost _ _ gone closed => exact iff_of_true (verdict?_of_closed closed) (.inr gone)

theorem verdict?_of_lost (progress : Progress request budget write ends)
    (gone : write.stage = .lost) : write.verdict? = none :=
  progress.verdict?_eq_none_iff.mpr (.inr gone)

private theorem verdict?_iff (progress : Progress request budget write ends) :
    write.verdict? = some true ↔ Reached budget ends ∧ write.stage ≠ .lost := by
  cases progress with
  | putting _ missed within => exact iff_of_false nofun fun lived => missed.not_reached _ lived.1
  | removing count _ heard missed within givingUp exceeded =>
      exact iff_of_false nofun fun lived => missed.not_reached _ lived.1
  | reached count _ last found within accepted =>
      exact iff_of_true rfl ⟨⟨count, last, found, within.le, accepted⟩, nofun⟩
  | failed count _ missed => exact iff_of_false nofun fun lived => missed.not_reached _ lived.1
  | lost _ _ gone closed =>
      rw [verdict?_of_closed closed]
      exact iff_of_false nofun fun lived => lived.2 gone

private theorem awaited?_of_verdict? (progress : Progress request budget write ends)
    {verdict : Bool} (decided : write.verdict? = some verdict) :
    write.awaited?.map Prod.fst = some verdict := by
  rw [progress.awaited?_eq, decided]
  apply if_neg
  intro gone
  rw [progress.verdict?_of_lost gone] at decided
  cases decided

private theorem awaited?_iff (progress : Progress request budget write ends) {ended : Bool}
    (awaited : write.awaited?.map Prod.fst = some ended) :
    ended = true ↔ Reached budget ends ∧ write.stage ≠ .lost := by
  rw [← progress.verdict?_iff]
  rw [progress.awaited?_eq] at awaited
  split at awaited
  · next gone =>
      cases awaited
      rw [progress.verdict?_of_lost gone]
      exact iff_of_false Bool.false_ne_true nofun
  · rw [awaited, Option.some_inj]

private theorem call?_of_awaited (progress : Progress request budget write ends) {ended : Bool}
    (awaited : write.awaited?.map Prod.fst = some ended) : write.call? = none := by
  cases progress with
  | putting _ missed within => cases awaited
  | removing count _ heard missed within givingUp exceeded => cases awaited
  | lost _ _ gone closed =>
      unfold call?
      rw [gone]
  | _ => rfl

end Progress
end Progress

/-! ### Moves -/

variable {request : Request} {budget : UInt32} {audience : Audience}

def Died (audience : Audience) : Prop := audience.write.stage = .lost

instance : Decidable audience.Died := inferInstanceAs (Decidable (_ = _))

private theorem run_invariant (kept : Audience → Prop)
    (step : ∀ audience move, kept audience → kept (audience.step move)) (moves : List Move)
    (holds : kept audience) : kept (audience.run moves) := by
  induction moves generalizing audience with
  | nil => exact holds
  | cons move rest ih => exact ih (step audience move holds)

private theorem step_of_no_call (idle : audience.write.call? = none) (move : Move) :
    (audience.step move).write = audience.write := by
  cases move with
  | hear completion => exact receive_of_no_call idle completion
  | die heard =>
      change (audience.die heard).write = audience.write
      unfold die
      rw [idle]
  | wait => rfl
  | look wait => rfl

private theorem waits_step {number : Nat} {ended : Bool}
    (resolved : audience.waits[number]? = some (some ended)) (move : Move) :
    (audience.step move).waits[number]? = some (some ended) := by
  cases move with
  | hear completion => exact resolved
  | die heard =>
      change (audience.die heard).waits[number]? = _
      unfold die
      split <;> exact resolved
  | wait => exact Numbering.getElem?_concat_of_some resolved
  | look wait =>
      change (audience.waits.modify wait (look audience.write))[number]? = _
      rw [List.getElem?_modify, resolved, Option.map_eq_map, Option.map_some]
      unfold look
      rw [ite_self]

private theorem waits_step_cases {number : Nat} {ended : Bool} {move : Move}
    (resolved : (audience.step move).waits[number]? = some (some ended)) :
    audience.waits[number]? = some (some ended) ∨
      (audience.step move).write = audience.write ∧
        audience.write.awaited?.map Prod.fst = some ended := by
  cases move with
  | hear completion => exact .inl resolved
  | die heard =>
      change (audience.die heard).waits[number]? = _ at resolved
      unfold die at resolved
      split at resolved <;> exact .inl resolved
  | wait =>
      rcases Numbering.getElem?_concat_iff.mp resolved with before | ⟨_, fresh⟩
      · exact .inl before
      · cases fresh
  | look wait =>
      change (audience.waits.modify wait (look audience.write))[number]? = _ at resolved
      rw [List.getElem?_modify] at resolved
      obtain ⟨old, present, looked⟩ := Option.map_eq_some_iff.mp resolved
      by_cases same : wait = number
      · rw [if_pos same] at looked
        cases old with
        | none => exact .inr ⟨rfl, looked⟩
        | some _ => exact .inl (present.trans (congrArg some looked))
      · rw [if_neg same] at looked
        exact .inl (present.trans (congrArg some looked))

private theorem waits_look {number : Nat} {wait : Option Bool}
    (found : audience.waits[number]? = some wait) :
    (audience.step (.look number)).waits[number]? = some (look audience.write wait) := by
  change (audience.waits.modify number (look audience.write))[number]? = _
  rw [List.getElem?_modify, found, Option.map_eq_map, Option.map_some, if_pos rfl]

/-- Every wait that has come to its end has come to what it would come to now. -/
structure Coherent (request : Request) (budget : UInt32) (audience : Audience) : Prop where
  progress : Progress request budget audience.write audience.ends
  agreed : ∀ (number : Nat) (ended : Bool), audience.waits[number]? = some (some ended) →
    audience.write.awaited?.map Prod.fst = some ended

namespace Coherent

theorem of (request : Request) (budget : UInt32) : Coherent request budget (of request budget) where
  progress := .putting [] nofun nofun
  agreed := nofun

private theorem progress_step (coherent : Coherent request budget audience) (move : Move) :
    Progress request budget (audience.step move).write (audience.step move).ends := by
  cases move with
  | hear completion => exact coherent.progress.receive completion
  | die heard =>
      change Progress request budget (audience.die heard).write (audience.die heard).ends
      unfold die
      split
      · exact coherent.progress
      · next call wanted => exact coherent.progress.lose wanted _
  | wait => exact coherent.progress
  | look wait => exact coherent.progress

private theorem step (coherent : Coherent request budget audience) (move : Move) :
    Coherent request budget (audience.step move) where
  progress := coherent.progress_step move
  agreed := by
    intro number ended resolved
    rcases waits_step_cases resolved with before | ⟨still, awaited⟩
    -- A wait that ended before found a write that makes no more calls.
    · have awaited := coherent.agreed number ended before
      rw [step_of_no_call (coherent.progress.call?_of_awaited awaited)]
      exact awaited
    · rw [still]
      exact awaited

theorem run (coherent : Coherent request budget audience) (moves : List Move) :
    Coherent request budget (audience.run moves) :=
  run_invariant (Coherent request budget) (fun _ move coherent => coherent.step move) moves coherent

end Coherent

/-- A write that is driven by a store takes such moves, whatever the store does. -/
theorem exists_run_drive {σ : Type} (service : Service σ) (left : Nat) (store : σ)
    (audience : Audience) :
    ∃ moves, (audience.run moves).write = (drive service left audience.write store).1 := by
  induction left generalizing store audience with
  | zero => exact ⟨[], rfl⟩
  | succ left ih =>
      cases wanted : audience.write.call? with
      | none =>
          rw [drive_of_no_call service (left + 1) audience.write store wanted]
          exact ⟨[], rfl⟩
      | some call =>
          rw [drive_perform service left audience.write store call wanted]
          unfold perform
          cases service call audience.write.request store with
          | mk ended after =>
              cases ended with
              | none =>
                  have gone : (audience.die none).write = audience.write.lose := by
                    unfold die
                    rw [wanted]
                  obtain ⟨moves, driven⟩ := ih after (audience.die none)
                  rw [gone] at driven
                  exact ⟨.die none :: moves, driven⟩
              | some completion =>
                  obtain ⟨moves, driven⟩ := ih after (audience.hear completion)
                  exact ⟨.hear completion :: moves, driven⟩

private theorem write_run_of_no_call (idle : audience.write.call? = none) (moves : List Move) :
    (audience.run moves).write = audience.write := by
  apply run_invariant (fun after => after.write = audience.write) _ moves rfl
  intro after move same
  rw [step_of_no_call (by rw [same]; exact idle), same]

/-- At every point of every run the verdict is true just if an attempt within the budget reached the
quorum and the task lived to publish it, and so is every wait that has ended. A wait that is looked
at ends as soon as there is a verdict or the task has gone. Neither a verdict nor the end of a wait
ever changes; after the death of the task there is no verdict, and all waits end with false. -/
theorem run_observers_agree (request : Request) (budget : UInt32) (moves : List Move) :
    let audience := run moves (of request budget)
    (audience.write.verdict? = some true ↔ Reached budget audience.ends ∧ ¬audience.Died) ∧
      (∀ (number : Nat) (ended : Bool), audience.waits[number]? = some (some ended) →
        (ended = true ↔ Reached budget audience.ends ∧ ¬audience.Died)) ∧
      (audience.write.verdict? = none ↔ audience.write.call? ≠ none ∨ audience.Died) ∧
      audience.write.isDone = audience.write.verdict?.isSome ∧
      (∀ number : Nat, audience.waits[number]? = some none →
        (audience.step (.look number)).waits[number]? =
          some (if audience.Died then some false else audience.write.verdict?)) ∧
      ∀ later,
        let after := audience.run later
        (∀ verdict, audience.write.verdict? = some verdict →
          after.write.verdict? = some verdict) ∧
        (∀ (number : Nat) (ended : Bool), audience.waits[number]? = some (some ended) →
          after.waits[number]? = some (some ended)) ∧
        (audience.Died → after.write.verdict? = none ∧
          ∀ number < after.waits.length,
            (after.step (.look number)).waits[number]? = some (some false)) := by
  intro audience
  have coherent := (Coherent.of request budget).run moves
  have progress := coherent.progress
  refine ⟨progress.verdict?_iff, ?_, progress.verdict?_eq_none_iff, rfl, ?_, ?_⟩
  · intro number ended resolved
    exact progress.awaited?_iff (coherent.agreed number ended resolved)
  · intro number pending
    rw [waits_look pending]
    exact congrArg some progress.awaited?_eq
  · intro later after
    have settled : ∀ {ended}, audience.write.awaited?.map Prod.fst = some ended →
        after.write = audience.write := fun awaited =>
      write_run_of_no_call (progress.call?_of_awaited awaited) later
    refine ⟨?_, ?_, ?_⟩
    · intro verdict decided
      rw [settled (progress.awaited?_of_verdict? decided)]
      exact decided
    · intro number ended resolved
      exact run_invariant (fun after => after.waits[number]? = some (some ended))
        (fun _ move resolved => waits_step resolved move) later resolved
    · intro died
      -- The write stays as the death of its task has left it, so all waits end as they would then.
      have awaited : audience.write.awaited?.map Prod.fst = some false := by
        rw [progress.awaited?_eq]
        exact if_pos died
      have same := settled awaited
      rw [← same] at awaited
      refine ⟨?_, ?_⟩
      · rw [same]
        exact progress.verdict?_of_lost died
      · intro number within
        have found := List.getElem?_eq_getElem within
        rw [waits_look found]
        cases wait : after.waits[number] with
        | none => exact congrArg some awaited
        | some ended =>
            rw [wait] at found
            have agreed := (coherent.run later).agreed number ended found
            rw [awaited] at agreed
            cases agreed
            rfl

/-- The second attempt reaches the quorum. Of two tasks that hear of it, one publishes the verdict
while a wait is pending, and the other goes away before that. -/
theorem run_observers_agree_retried :
    let request : Request := { location := "loc", content := "content" }
    let accepted : Completion := .ok ⟨[.withStatus ⟨"peer"⟩ request.versionKey .ok]⟩
    let before : List Move := [.wait, .hear (.error (.submissionRejected "no")), .hear (.ok {})]
    let published := run (before ++ [.look 0, .hear accepted, .wait, .look 0]) (of request 1)
    let perished := run (before ++ [.die (some accepted), .look 0]) (of request 1)
    (Reached 1 published.ends ∧ ¬published.Died) ∧
      (∀ later, (published.run later).write.verdict? = some true ∧
        (published.run later).waits[0]? = some (some true)) ∧
      (published.step (.look 1)).waits[1]? = some (some true) ∧
      (Reached 1 perished.ends ∧ perished.Died) ∧
      ∀ later, (perished.run later).write.verdict? = none ∧
        (perished.run later).waits[0]? = some (some false) := by
  intro request accepted before published perished
  have within : Budgeted 1 1 := fun _ => Nat.le_refl 1
  obtain ⟨decided, _, _, _, pending, lasting⟩ := run_observers_agree request 1
    (before ++ [.look 0, .hear accepted, .wait, .look 0])
  obtain ⟨_, _, _, _, _, perishing⟩ := run_observers_agree request 1
    (before ++ [.die (some accepted), .look 0])
  refine ⟨decided.mp rfl, ?_, pending 1 rfl, ⟨⟨1, accepted, rfl, within, rfl⟩, rfl⟩, ?_⟩
  · intro later
    obtain ⟨verdict, waits, _⟩ := lasting later
    exact ⟨verdict true rfl, waits 0 true rfl⟩
  · intro later
    obtain ⟨_, waits, died⟩ := perishing later
    exact ⟨(died rfl).1, waits 0 false rfl⟩

end Audience
end Quorate.Write
