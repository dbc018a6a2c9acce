import Quorate.Proofs.Messaging.Absence
import Quorate.Proofs.Messaging.Punctuality
import Quorate.Proofs.Messaging.Taking

/-!
A peer that has taken a request has promised a reply at a certain time, or none. In a run that keeps
time the promise stands until the exchange ends, whatever the other exchanges do: the reply comes
just at that time, and the wait is over then or when its own time is up.
-/

namespace Quorate.Messaging

open Registry

variable {ι : Type}

def Errand.repliesTo (errand : Errand) (request : MessageId) : Bool :=
  errand.message.id = request && errand.replies

/-- Nobody cancels the exchange with the move, and nobody but the network replies to it. -/
def Move.Spares (exchanges : ι → Exchange) (index : ι) : Move ι → Prop
  | .cancel other => other ≠ index
  | .dispatch reply => reply.request ≠ (exchanges index).message.id
  | _ => True

theorem Move.Passive.spares {move : Move ι} (passive : move.Passive) (exchanges : ι → Exchange)
    (index : ι) : move.Spares exchanges index := by
  cases move with
  | cancel other => cases passive
  | dispatch reply => cases passive
  | _ => trivial

namespace Exchange

theorem follow_errand (exchange : Exchange) (opening : Opening) (now : Nat)
    {errand : Option Errand} (submitted : opening.submission = .accepted errand) :
    (exchange.follow opening now).errand = errand := by
  change (exchange.proceed opening now).errand = _
  unfold proceed
  rw [submitted]
  cases opening.registration <;> rfl

end Exchange

namespace Traffic

variable (exchanges : ι → Exchange)

/-! ### Answers that are owed -/

def owed (traffic : Traffic ι) (index : ι) : List Nat :=
  (traffic.errands.filter fun entry => entry.2.repliesTo (exchanges index).message.id).map Prod.fst

theorem mem_owed_iff (traffic : Traffic ι) (index : ι) (time : Nat) :
    time ∈ traffic.owed exchanges index ↔
      ∃ errand, (time, errand) ∈ traffic.errands ∧
        errand.repliesTo (exchanges index).message.id = true := by
  simp [owed]

def Attributed (traffic : Traffic ι) : Prop :=
  ∀ entry, entry ∈ traffic.errands → ∃ index, (traffic.courses index).stage ≠ .idle ∧
    entry.2.message = (exchanges index).message

theorem Attributed.initial : Attributed exchanges ({} : Traffic ι) := nofun

theorem Attributed.owed_eq_nil {traffic : Traffic ι} (attributed : Attributed exchanges traffic)
    (apart : ∀ left right, (exchanges left).message.id = (exchanges right).message.id →
      left = right) {index : ι} (idle : (traffic.courses index).stage = .idle) :
    traffic.owed exchanges index = [] := by
  refine List.eq_nil_iff_forall_not_mem.mpr fun time present => ?_
  obtain ⟨errand, owed, replies⟩ := (mem_owed_iff exchanges traffic index time).mp present
  obtain ⟨other, begun, message⟩ := attributed _ owed
  have own : errand.message.id = (exchanges index).message.id := by
    unfold Errand.repliesTo at replies
    exact of_decide_eq_true (Bool.and_eq_true_iff.mp replies).1
  have same : other = index := apart other index ((congrArg Message.id message).symm.trans own)
  exact begun (same ▸ idle)

variable [DecidableEq ι]

theorem owed_take (traffic : Traffic ι) (mover index : ι) (course : Course)
    (step : Exchange.Step) :
    (traffic.take mover course step).owed exchanges index =
      traffic.owed exchanges index ++
        (step.errand.toList.filter (·.repliesTo (exchanges index).message.id)).map
          fun errand => traffic.clock + errand.delay.ticks := by
  unfold owed take
  dsimp only
  rw [List.filter_append, List.map_append, List.filter_map, List.map_map]
  rfl

section Networked

variable (networked : ∀ index, (exchanges index).carrier = .network)

include networked

private theorem begun_step (traffic : Traffic ι) (move : Move ι) (index : ι)
    (begun : (traffic.courses index).stage ≠ .idle) :
    ((traffic.step exchanges move).courses index).stage ≠ .idle := by
  by_cases waits : (traffic.courses index).Waits
  · obtain ⟨number, deadline, waits⟩ := waits
    by_cases own : move.index? = some index
    · cases move with
      | start mover transport =>
          cases own
          change ((traffic.start exchanges index transport).courses index).stage ≠ _
          unfold start
          rw [waits]
          exact begun
      | look mover =>
          cases own
          change ((traffic.look exchanges index).courses index).stage ≠ _
          unfold look
          rw [waits]
          dsimp only
          rw [take_stage]
          exact nofun
      | cancel mover =>
          cases own
          change ((traffic.cancel exchanges index).courses index).stage ≠ _
          unfold cancel
          dsimp only
          rw [waits]
          have cancelled := congrArg Course.stage (traffic.setCourse_self index
            { traffic.courses index with stage := .cancelled })
          exact fun idle => Exchange.Stage.noConfusion (cancelled.symm.trans idle)
      | _ => cases own
    · obtain ⟨operations, notices, effect⟩ := step_effect exchanges networked traffic move
      rw [effect.courses index own]
      exact begun
  · rw [step_courses_of_resting exchanges networked traffic move index begun waits]
    exact begun

private theorem Attributed.step {traffic : Traffic ι} (attributed : Attributed exchanges traffic)
    (move : Move ι) (timely : move.Timely traffic) :
    Attributed exchanges (traffic.step exchanges move) := by
  intro entry present
  rcases mem_errands_step exchanges networked traffic move timely entry present with
    earlier | ⟨index, transport, rfl, idle, message, _later⟩
  · obtain ⟨index, begun, message⟩ := attributed entry earlier
    exact ⟨index, begun_step exchanges networked traffic move index begun, message⟩
  · refine ⟨index, ?_, message⟩
    change ((traffic.start exchanges index transport).courses index).stage ≠ _
    unfold start
    rw [idle]
    dsimp only
    rw [take_stage]
    exact nofun

theorem Attributed.run (moves : List (Move ι)) {traffic : Traffic ι}
    (attributed : Attributed exchanges traffic) (timely : Timely exchanges moves traffic) :
    Attributed exchanges (traffic.run exchanges moves) := by
  induction moves generalizing traffic with
  | nil => exact attributed
  | cons move rest ih => exact ih (attributed.step exchanges networked move timely.1) timely.2

end Networked

/-! ### What others do -/

/-- A move either makes no difference to the exchange, or gives it a reply that was owed to it. -/
inductive Reaches (index : ι) (before after : Traffic ι) : Prop where
  | passes (course : after.courses index = before.courses index)
      (standing : (exchanges index).message.id ∈ after.network.registry.requests ↔
        (exchanges index).message.id ∈ before.network.registry.requests)
      (owed : after.owed exchanges index = before.owed exchanges index)
  | replies (course : after.courses index = before.courses index)
      (gone : (exchanges index).message.id ∉ after.network.registry.requests)
      (due : ∃ time, time ∈ before.owed exchanges index ∧ time ≤ before.clock)
      (instant : after.clock = before.clock)

variable {exchanges} in
omit [DecidableEq ι] in
private theorem Reaches.course_eq {index : ι} {before after : Traffic ι}
    (reaches : Reaches exchanges index before after) :
    after.courses index = before.courses index := by
  cases reaches with
  | passes course standing owed => exact course
  | replies course gone due instant => exact course

variable {exchanges} in
omit [DecidableEq ι] in
private theorem Reaches.absent {index : ι} {before after : Traffic ι}
    (reaches : Reaches exchanges index before after)
    (gone : (exchanges index).message.id ∉ before.network.registry.requests) :
    (exchanges index).message.id ∉ after.network.registry.requests := by
  cases reaches with
  | passes course standing owed => exact fun present => gone (standing.mp present)
  | replies course gone due instant => exact gone

omit [DecidableEq ι] in
private theorem answer_reaches (traffic : Traffic ι) (index : ι) (number : Nat) :
    Reaches exchanges index traffic (traffic.answer number) := by
  unfold Traffic.answer
  cases found : traffic.errands[number]? with
  | none => exact .passes rfl Iff.rfl rfl
  | some entry =>
      obtain ⟨time, errand⟩ := entry
      dsimp only
      split
      · next due =>
          have answered := traffic.network.mem_requests_answer errand
            (exchanges index).message.id
          cases own : errand.repliesTo (exchanges index).message.id with
          | false =>
              refine .passes rfl (answered.trans (and_iff_left ?_)) ?_
              · unfold Errand.repliesTo at own
                simpa using own
              · have kept := (filter_eraseIdx
                  (fun entry : Nat × Errand => entry.2.repliesTo (exchanges index).message.id)
                  traffic.errands number (time, errand) found).1 own
                exact congrArg (List.map Prod.fst) kept
          | true =>
              have addressed : errand.message.id = (exchanges index).message.id ∧
                  errand.replies = true := by
                unfold Errand.repliesTo at own
                simpa using own
              refine .replies rfl (fun standing => (answered.mp standing).2 addressed) ?_ rfl
              exact ⟨time, (mem_owed_iff exchanges traffic index time).mpr
                ⟨errand, List.mem_of_getElem? found, own⟩, due⟩
      · exact .passes rfl Iff.rfl rfl

private theorem Reaches.of_take {traffic : Traffic ι} {mover index : ι} (different : mover ≠ index)
    (distinct : (exchanges index).message.id ≠ (exchanges mover).message.id) (course : Course)
    {step : Exchange.Step}
    (agrees : Network.Agrees (exchanges mover).message.id step.network traffic.network)
    (owed : ∀ errand, step.errand = some errand → errand.message = (exchanges mover).message) :
    Reaches exchanges index traffic (traffic.take mover course step) := by
  refine .passes (if_neg different.symm) ?_ ?_
  · exact (mem_requests_of_pendingBut agrees.pending _ distinct).symm
  · rw [owed_take, List.filter_eq_nil_iff.mpr, List.map_nil, List.append_nil]
    intro errand among replies
    unfold Errand.repliesTo at replies
    rw [owed errand (Option.mem_toList.mp among)] at replies
    have same := of_decide_eq_true (Bool.and_eq_true_iff.mp replies).1
    exact distinct same.symm

section Others

variable (networked : ∀ index, (exchanges index).carrier = .network)
  (apart : ∀ left right, (exchanges left).message.id = (exchanges right).message.id →
    left = right)

include networked apart

private theorem step_reaches (traffic : Traffic ι) (index : ι)
    (begun : (traffic.courses index).stage ≠ .idle) (move : Move ι)
    (timely : move.Timely traffic) (spares : move.Spares exchanges index)
    (unseen : move ≠ .look index) :
    Reaches exchanges index traffic (traffic.step exchanges move) := by
  have unchanged : Reaches exchanges index traffic traffic := .passes rfl Iff.rfl rfl
  have distinct : ∀ {mover}, mover ≠ index →
      (exchanges index).message.id ≠ (exchanges mover).message.id :=
    fun different same => different (apart index _ same).symm
  cases move with
  | start mover transport =>
      obtain rfl : transport = .loopback := timely
      change Reaches exchanges index traffic (traffic.start exchanges mover .loopback)
      unfold start
      split
      · next idle =>
          have different : mover ≠ index := fun same => begun (same ▸ idle)
          obtain ⟨agrees, own⟩ :=
            Exchange.follow_confined (networked mover) traffic.network traffic.clock
          exact .of_take exchanges different (distinct different) _ agrees own
      · exact unchanged
  | look mover =>
      have different : mover ≠ index := fun same => unseen (congrArg Move.look same)
      change Reaches exchanges index traffic (traffic.look exchanges mover)
      unfold look
      split
      · next number deadline waits =>
          refine .of_take exchanges different (distinct different) _
            (Exchange.look_absent (networked mover) traffic.network _ _ _) ?_
          rw [Exchange.look_errand]
          exact nofun
      · exact unchanged
  | cancel mover =>
      have different : mover ≠ index := spares
      change Reaches exchanges index traffic (traffic.cancel exchanges mover)
      unfold cancel
      dsimp only
      split
      · exact .passes (if_neg different.symm) Iff.rfl rfl
      · refine .passes (if_neg different.symm) ?_ rfl
        dsimp only
        unfold Exchange.cancel Carrier.forget
        rw [networked mover]
        have agrees : Network.Agrees (exchanges mover).message.id _ traffic.network :=
          .perform_absent traffic.network (.forget (exchanges mover).message.id) rfl
        exact (mem_requests_of_pendingBut agrees.pending _ (distinct different)).symm
      · exact unchanged
  | answer number => exact answer_reaches exchanges traffic index number
  | dispatch reply =>
      have agrees : Network.Agrees reply.request _ traffic.network :=
        .perform_absent traffic.network (.dispatch reply) rfl
      have other : (exchanges index).message.id ≠ reply.request := Ne.symm spares
      exact .passes rfl (mem_requests_of_pendingBut agrees.pending _ other).symm rfl
  | elapse ticks => exact .passes rfl Iff.rfl rfl
  | reconfigure endpoints rejecting => exact .passes rfl Iff.rfl rfl

end Others

/-! ### The promise -/

/-- Where an exchange stands that is promised a reply at a certain time, or none. -/
inductive Pledged (index : ι) (deadline : Nat) (pledge : Option Nat) (traffic : Traffic ι) :
    Prop where
  | unanswered
      (waits : ∃ number, (traffic.courses index).stage = .active (.waiting number deadline))
      (standing : (exchanges index).message.id ∈ traffic.network.registry.requests)
      (owed : traffic.owed exchanges index = pledge.toList)
  | answered
      (waits : ∃ number, (traffic.courses index).stage = .active (.waiting number deadline))
      (gone : (exchanges index).message.id ∉ traffic.network.registry.requests)
      (now : pledge = some traffic.clock)
  | received (ended : (traffic.courses index).stage = .active (.ended (.ok ())))
      (time : Nat) (promised : pledge = some time) (given : time ≤ traffic.clock)
      (early : time ≤ deadline)
  | expired (ended : (traffic.courses index).stage =
        .active (.ended (.error (.timeout (exchanges index).timeout))))
      (late : deadline ≤ traffic.clock)
      (unkept : ∀ time, pledge = some time → deadline ≤ time)

section Steps

variable (networked : ∀ index, (exchanges index).carrier = .network)
  (apart : ∀ left right, (exchanges left).message.id = (exchanges right).message.id →
    left = right)
variable {index : ι} {deadline : Nat} {pledge : Option Nat} {traffic : Traffic ι}
  (orderly : Orderly exchanges traffic) (punctual : traffic.Punctual)

include networked apart orderly punctual

/-- A look ends the wait if the reply has come or the time is up, and makes no difference before. -/
theorem Pledged.look (pledged : Pledged exchanges index deadline pledge traffic) :
    Pledged exchanges index deadline pledge (traffic.look exchanges index) := by
  have clock : (traffic.look exchanges index).clock = traffic.clock :=
    clock_step exchanges traffic (.look index)
  have stage : ∀ number, (traffic.courses index).stage = .active (.waiting number deadline) →
      ((traffic.look exchanges index).courses index).stage =
        .active ((exchanges index).look traffic.network number deadline
          traffic.clock).progress := by
    intro number waits
    unfold Traffic.look
    rw [waits]
    exact traffic.take_stage index _ _
  have unmoved : ¬(traffic.courses index).Waits →
      traffic.look exchanges index = traffic := by
    intro resting
    unfold Traffic.look
    split
    · next number due waits => exact absurd ⟨number, due, waits⟩ resting
    · rfl
  cases pledged with
  | unanswered waits standing owed =>
      obtain ⟨number, waits⟩ := waits
      have polled := orderly.poll exchanges apart index waits
      rw [if_pos standing] at polled
      have looks := (exchanges index).look_looks (networked index) traffic.network number deadline
        traffic.clock
      cases looks with
      | opened opened ends =>
          rw [polled] at opened
          cases opened
      | closed closed ends =>
          rw [polled] at closed
          cases closed
      | expired polled late ends =>
          refine .expired ((stage number waits).trans (congrArg _ ends.ended)) ?_ ?_
          · rw [clock]
            exact late
          · intro time promised
            have among : time ∈ traffic.owed exchanges index := by
              rw [owed, promised]
              exact List.mem_singleton_self time
            obtain ⟨errand, present, _replies⟩ :=
              (mem_owed_iff exchanges traffic index time).mp among
            exact late.trans (punctual.owed _ present)
      | shut polled early stays =>
          refine .unanswered ⟨number, (stage number waits).trans (congrArg _ stays.stays)⟩ ?_ ?_
          · have same : (traffic.look exchanges index).network.registry =
                traffic.network.registry := by
              unfold Traffic.look
              rw [waits]
              exact stays.leads.1
            rw [same]
            exact standing
          · unfold Traffic.owed at owed ⊢
            rw [errands_look]
            exact owed
  | answered waits gone now =>
      obtain ⟨number, waits⟩ := waits
      have polled := orderly.poll exchanges apart index waits
      rw [if_neg gone] at polled
      have ends := (exchanges index).look_looks (networked index) traffic.network number deadline
        traffic.clock
      cases ends with
      | opened opened ends =>
          refine .received ((stage number waits).trans (congrArg _ ends.ended)) _ now ?_ ?_
          · exact Nat.le_of_eq clock.symm
          · exact punctual.waits index number deadline waits
      | closed closed ends =>
          rw [polled] at closed
          cases closed
      | expired shut late ends =>
          rw [polled] at shut
          cases shut
      | shut shut early stays =>
          rw [polled] at shut
          cases shut
  | received ended time promised given early =>
      rw [unmoved (Course.Over.not_waits (.inl ⟨_, ended⟩))]
      exact .received ended time promised given early
  | expired ended late unkept =>
      rw [unmoved (Course.Over.not_waits (.inl ⟨_, ended⟩))]
      exact .expired ended late unkept

private theorem Pledged.step (pledged : Pledged exchanges index deadline pledge traffic)
    (move : Move ι) (timely : move.Timely traffic) (spares : move.Spares exchanges index) :
    Pledged exchanges index deadline pledge (traffic.step exchanges move) := by
  by_cases looked : move = .look index
  · subst looked
    exact pledged.look exchanges networked apart orderly punctual
  have clock := clock_step exchanges traffic move
  have ended : ∀ {result}, (traffic.courses index).stage = .active (.ended result) →
      ((traffic.step exchanges move).courses index).stage = .active (.ended result) := by
    intro result ended
    rw [step_courses_of_ended exchanges networked traffic move index result ended]
    exact ended
  have reaches : ∀ {number}, (traffic.courses index).stage = .active (.waiting number deadline) →
      Reaches exchanges index traffic (traffic.step exchanges move) := by
    intro number waits
    refine step_reaches exchanges networked apart traffic index ?_ move timely spares looked
    rw [waits]
    exact nofun
  cases pledged with
  | unanswered waits standing owed =>
      obtain ⟨number, waits⟩ := waits
      cases reaches waits with
      | passes course still same =>
          exact .unanswered ⟨number, (congrArg _ course).trans waits⟩ (still.mpr standing)
            (same.trans owed)
      | replies course gone due instant =>
          obtain ⟨time, among, past⟩ := due
          obtain ⟨errand, present, _replies⟩ :=
            (mem_owed_iff exchanges traffic index time).mp among
          -- A reply that is given is not early, and in a run that keeps time it is not late.
          have onTime : time = traffic.clock := Nat.le_antisymm past (punctual.owed _ present)
          rw [owed, Option.mem_toList] at among
          refine .answered ⟨number, (congrArg _ course).trans waits⟩ gone ?_
          rw [instant, ← onTime]
          exact among
  | answered waits gone now =>
      obtain ⟨number, waits⟩ := waits
      have instant : (traffic.step exchanges move).clock = traffic.clock := by
        rw [clock]
        cases move with
        | elapse ticks =>
            -- No time passes before the reply that has come is looked at.
            have polled := orderly.poll exchanges apart index waits
            rw [if_neg gone, (Permits.waits timely index number deadline waits).1] at polled
            cases polled
        | _ => rfl
      have course := (reaches waits).course_eq
      refine .answered ⟨number, (congrArg _ course).trans waits⟩ ((reaches waits).absent gone) ?_
      rw [instant]
      exact now
  | received stage time promised given early =>
      refine .received (ended stage) time promised ?_ early
      rw [clock]
      exact given.trans (Nat.le_add_right _ _)
  | expired stage late unkept =>
      refine .expired (ended stage) ?_ unkept
      rw [clock]
      exact late.trans (Nat.le_add_right _ _)

theorem Pledged.run (pledged : Pledged exchanges index deadline pledge traffic)
    (moves : List (Move ι)) (timely : Timely exchanges moves traffic)
    (spares : ∀ move, move ∈ moves → move.Spares exchanges index) :
    Pledged exchanges index deadline pledge (traffic.run exchanges moves) := by
  induction moves generalizing traffic with
  | nil => exact pledged
  | cons move rest ih =>
      refine ih (orderly.run exchanges networked apart [move])
        (punctual.step exchanges networked move timely.1) ?_ timely.2
        fun other present => spares other (List.mem_cons_of_mem _ present)
      exact pledged.step exchanges networked apart orderly punctual move timely.1
        (spares move List.mem_cons_self)

end Steps

end Traffic
end Quorate.Messaging
