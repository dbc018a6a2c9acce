import Quorate.Proofs.Messaging.Outcome

/-!
Exchanges among each other. Every move does some operations to the registry, and only its own
exchange may be affected by them otherwise than by a reply; so every exchange keeps its standing
along every run, whatever the order of the moves.
-/

namespace Quorate.Messaging

open Registry

variable {ι : Type}

def Move.index? : Move ι → Option ι
  | .start index _ => some index
  | .look index => some index
  | .cancel index => some index
  | _ => none

namespace Traffic

def heard (traffic : Traffic ι) : Record := fun number =>
  Notice.deliveries number traffic.history

/-- What the callbacks of an exchange's registrations have run on. -/
def callbacks (traffic : Traffic ι) (index : ι) : List (Handler × Reply) :=
  (traffic.courses index).registrations.flatMap traffic.heard

theorem callbacks_of_registrations (traffic : Traffic ι) (index : ι) (number : Nat)
    (registrations : (traffic.courses index).registrations = [number]) :
    traffic.callbacks index = traffic.heard number := by
  unfold callbacks
  rw [registrations, List.flatMap_cons, List.flatMap_nil, List.append_nil]

variable (exchanges : ι → Exchange)

/-! ### What a move can do -/

/-- A move of one exchange, or of none: the courses of the others stay, and whatever happens to the
registry is foreign to them. -/
structure Effect (mover : Option ι) (before after : Traffic ι) (operations : List Operation)
    (notices : List Notice) : Prop where
  courses : ∀ index, mover ≠ some index → after.courses index = before.courses index
  history : after.history = before.history ++ notices
  leads : Leads operations before.network.registry after.network.registry notices
  foreign : ∀ operation, operation ∈ operations → ∀ request,
    (∀ index, mover = some index → (exchanges index).message.id ≠ request) →
      operation.Foreign request

variable {exchanges} in
theorem Effect.heard {mover : Option ι} {before after : Traffic ι} {operations : List Operation}
    {notices : List Notice} (effect : Effect exchanges mover before after operations notices) :
    after.heard = before.heard.extend notices := by
  funext number
  unfold Traffic.heard
  rw [effect.history, Notice.deliveries_append]
  rfl

variable {exchanges} in
theorem Effect.sound {mover : Option ι} {before after : Traffic ι} {operations : List Operation}
    {notices : List Notice} (effect : Effect exchanges mover before after operations notices)
    (sound : before.network.registry.Sound before.heard) :
    after.network.registry.Sound after.heard := by
  rw [effect.heard]
  exact effect.leads.sound sound

theorem Effect.none (mover : Option ι) (traffic : Traffic ι) :
    Effect exchanges mover traffic traffic [] [] where
  courses _ _ := rfl
  history := (List.append_nil _).symm
  leads := .refl fun _ => rfl
  foreign := nofun

private theorem answer_effect (traffic : Traffic ι) (number : Nat) :
    ∃ operations notices, Effect exchanges none traffic (traffic.answer number)
      operations notices := by
  unfold answer
  split
  · next due errand _owed =>
      split
      · obtain ⟨replies, leads⟩ := traffic.network.answer_leads errand
        refine ⟨_, _, fun _ _ => rfl, rfl, leads, ?_⟩
        intro operation present request _apart
        exact Operation.foreign_of_dispatches replies request operation present
      · exact ⟨[], [], .none exchanges _ traffic⟩
  · exact ⟨[], [], .none exchanges _ traffic⟩

theorem dispatch_effect (traffic : Traffic ι) (reply : Reply) :
    Effect exchanges none traffic (traffic.dispatch reply) [.dispatch reply]
      (traffic.network.registry.dispatch reply).2.2 := by
  refine ⟨fun _ _ => rfl, rfl, .single _, ?_⟩
  intro operation present request _apart
  rw [List.mem_singleton.mp present]
  trivial

variable [DecidableEq ι]

theorem setCourse_self (traffic : Traffic ι) (index : ι) (course : Course) :
    (traffic.setCourse index course).courses index = course := if_pos rfl

theorem take_self (traffic : Traffic ι) (index : ι) (course : Course) (step : Exchange.Step) :
    (traffic.take index course step).courses index =
      { course with
        stage := .active step.progress
        registrations := course.registrations ++ List.range' traffic.network.registry.issued
          (step.network.registry.issued - traffic.network.registry.issued) } := if_pos rfl

private theorem heard_take (traffic : Traffic ι) (index : ι) (course : Course)
    (step : Exchange.Step) :
    (traffic.take index course step).heard = traffic.heard.extend step.notices := by
  funext number
  exact Notice.deliveries_append number traffic.history step.notices

theorem take_stage (traffic : Traffic ι) (index : ι) (course : Course) (step : Exchange.Step) :
    ((traffic.take index course step).courses index).stage = .active step.progress :=
  congrArg Course.stage (traffic.take_self index course step)

variable {exchanges} in
theorem Effect.of_take {traffic : Traffic ι} {index : ι} {course : Course} {step : Exchange.Step}
    {operations : List Operation}
    (leads : Leads operations traffic.network.registry step.network.registry step.notices)
    (about : ∀ operation, operation ∈ operations → operation.About (exchanges index).message.id) :
    Effect exchanges (some index) traffic (traffic.take index course step) operations
      step.notices where
  courses _ different := if_neg fun same => different (congrArg some same.symm)
  history := rfl
  leads := leads
  foreign operation present request apart := about operation present request (apart index rfl)

section Moves

variable (networked : ∀ index, (exchanges index).carrier = .network)

include networked

private theorem start_effect (traffic : Traffic ι) (index : ι) (transport : Transport) :
    ∃ operations notices, Effect exchanges (some index) traffic
      (traffic.start exchanges index transport) operations notices := by
  unfold start
  split
  · obtain ⟨operations, leads, about⟩ := (exchanges index).follow_leads (networked index) transport
      traffic.network traffic.clock
    exact ⟨operations, _, .of_take leads about⟩
  · exact ⟨[], [], .none exchanges _ traffic⟩

theorem look_effect (traffic : Traffic ι) (index : ι) :
    ∃ operations notices, Effect exchanges (some index) traffic (traffic.look exchanges index)
      operations notices := by
  unfold look
  split
  · next registration deadline _waiting =>
      obtain ⟨operations, leads, only⟩ := ((exchanges index).look_looks (networked index)
        traffic.network registration deadline traffic.clock).leads
      refine ⟨operations, _, .of_take leads ?_⟩
      intro operation present request different
      rw [only operation present]
      exact different
  · exact ⟨[], [], .none exchanges _ traffic⟩

omit networked in
theorem cancel_effect_of_not_waiting (traffic : Traffic ι) (index : ι)
    (resting : ¬(traffic.courses index).Waits) :
    Effect exchanges (some index) traffic (traffic.cancel exchanges index) [] [] := by
  unfold cancel
  dsimp only
  split
  · exact ⟨fun other different => if_neg fun same => different (congrArg some same.symm),
      (List.append_nil _).symm, .refl fun _ => rfl, nofun⟩
  · next registration deadline waits => exact absurd ⟨registration, deadline, waits⟩ resting
  · exact .none exchanges _ traffic

theorem cancel_effect_of_waiting (traffic : Traffic ι) (index : ι)
    (waits : (traffic.courses index).Waits) :
    Effect exchanges (some index) traffic (traffic.cancel exchanges index)
      [.forget (exchanges index).message.id] [] := by
  obtain ⟨registration, deadline, stage⟩ := waits
  unfold cancel
  dsimp only
  rw [stage]
  refine ⟨fun other different => if_neg fun same => different (congrArg some same.symm),
    (List.append_nil _).symm, ?_, ?_⟩
  · dsimp only
    unfold Exchange.cancel Carrier.forget
    rw [networked index]
    exact .single _
  · intro operation present request apart
    rw [List.mem_singleton.mp present]
    exact apart index rfl

private theorem cancel_effect (traffic : Traffic ι) (index : ι) :
    ∃ operations notices, Effect exchanges (some index) traffic (traffic.cancel exchanges index)
      operations notices := by
  by_cases waits : (traffic.courses index).Waits
  · exact ⟨_, _, cancel_effect_of_waiting exchanges networked traffic index waits⟩
  · exact ⟨_, _, cancel_effect_of_not_waiting exchanges traffic index waits⟩

/-- Every move has an effect of its exchange. -/
theorem step_effect (traffic : Traffic ι) (move : Move ι) :
    ∃ operations notices, Effect exchanges move.index? traffic (traffic.step exchanges move)
      operations notices := by
  cases move with
  | start index transport => exact start_effect exchanges networked traffic index transport
  | look index => exact look_effect exchanges networked traffic index
  | cancel index => exact cancel_effect exchanges networked traffic index
  | answer number => exact answer_effect exchanges traffic number
  | dispatch reply => exact ⟨_, _, dispatch_effect exchanges traffic reply⟩
  | elapse ticks =>
      exact ⟨[], [], fun _ _ => rfl, (List.append_nil _).symm, .refl fun _ => rfl, nofun⟩
  | reconfigure endpoints rejecting =>
      exact ⟨[], [], fun _ _ => rfl, (List.append_nil _).symm, .refl fun _ => rfl, nofun⟩

end Moves

/-! ### The invariant -/

/-- The registry is sound, and every exchange has its standing. -/
structure Consistent (traffic : Traffic ι) : Prop where
  sound : traffic.network.registry.Sound traffic.heard
  standing : ∀ index, Standing (exchanges index) traffic.network.registry traffic.heard
    (traffic.courses index)

omit [DecidableEq ι] in
theorem Consistent.initial : Consistent exchanges {} where
  sound := .initial
  standing _ := .idle 0

section Standings

variable (networked : ∀ index, (exchanges index).carrier = .network)
variable {traffic : Traffic ι} (index : ι)
  (sound : traffic.network.registry.Sound traffic.heard)
  (standing : Standing (exchanges index) traffic.network.registry traffic.heard
    (traffic.courses index))

include networked sound standing

private theorem start_standing (transport : Transport) :
    let after := traffic.start exchanges index transport
    Standing (exchanges index) after.network.registry after.heard (after.courses index) := by
  unfold start
  split
  · next idle =>
      have bare := standing.of_idle idle
      dsimp only
      rw [take_self, heard_take]
      dsimp only
      rw [bare, List.nil_append]
      cases expects : (exchanges index).message.expectsResponse with
      | false => exact .start_oneWay expects transport traffic.clock
      | true => exact .start_request (networked index) sound expects transport traffic.clock
  · exact standing

private theorem look_standing :
    let after := traffic.look exchanges index
    Standing (exchanges index) after.network.registry after.heard (after.courses index) := by
  unfold look
  split
  · next registration deadline waits =>
      obtain ⟨request, live, due, accepted, registrations⟩ := standing.of_waiting waits
      have looks := (exchanges index).look_looks (networked index) traffic.network registration
        deadline traffic.clock
      obtain ⟨operations, leads, only⟩ := looks.leads
      have issued := leads.issued_eq fun operation present => by
        rw [only operation present]
        exact nofun
      rw [due] at looks
      dsimp only
      rw [take_self, heard_take]
      rw [issued, Nat.sub_self, List.range'_zero, List.append_nil, accepted, registrations, due]
      exact .look sound request _ registration _ live looks
  · exact standing

omit networked sound in
private theorem cancel_standing :
    let after := traffic.cancel exchanges index
    Standing (exchanges index) after.network.registry after.heard (after.courses index) := by
  unfold cancel
  dsimp only
  split
  · exact .cancelled _ (congrArg Course.stage (traffic.setCourse_self index _))
  · exact .cancelled _ (congrArg Course.stage (traffic.setCourse_self index _))
  · exact standing

/-- The moves of an exchange keep its standing. -/
theorem step_standing (move : Move ι) (own : move.index? = some index) :
    let after := traffic.step exchanges move
    Standing (exchanges index) after.network.registry after.heard (after.courses index) := by
  cases move with
  | start mover transport =>
      cases own
      exact start_standing exchanges networked index sound standing transport
  | look mover =>
      cases own
      exact look_standing exchanges networked index sound standing
  | cancel mover =>
      cases own
      exact cancel_standing exchanges index standing
  | _ => cases own

end Standings

private theorem Consistent.step (networked : ∀ index, (exchanges index).carrier = .network)
    (apart : ∀ left right, (exchanges left).message.id = (exchanges right).message.id →
      left = right) {traffic : Traffic ι} (consistent : Consistent exchanges traffic)
    (move : Move ι) : Consistent exchanges (traffic.step exchanges move) := by
  obtain ⟨operations, notices, effect⟩ := step_effect exchanges networked traffic move
  constructor
  case sound => exact effect.sound consistent.sound
  case standing =>
    intro index
    by_cases own : move.index? = some index
    · exact step_standing exchanges networked index consistent.sound (consistent.standing index)
        move own
    · rw [effect.heard, effect.courses index own]
      apply (consistent.standing index).leads effect.leads consistent.sound
      intro _waits _silent operation present
      apply effect.foreign operation present
      intro mover moves same
      exact own (moves.trans (congrArg some (apart mover index same)))

theorem Consistent.run (networked : ∀ index, (exchanges index).carrier = .network)
    (apart : ∀ left right, (exchanges left).message.id = (exchanges right).message.id →
      left = right) (moves : List (Move ι)) (traffic : Traffic ι)
    (consistent : Consistent exchanges traffic) :
    Consistent exchanges (traffic.run exchanges moves) := by
  induction moves generalizing traffic with
  | nil => exact consistent
  | cons move rest ih => exact ih _ (consistent.step exchanges networked apart move)

/-! ### Outcomes -/

private theorem accepted_start (traffic : Traffic ι) (index : ι) (transport : Transport)
    (idle : (traffic.courses index).stage = .idle) :
    ((traffic.start exchanges index transport).courses index).accepted =
      some ((exchanges index).openWith transport.submit traffic.network).submission.taken := by
  unfold start
  rw [idle]
  exact congrArg Course.accepted (traffic.take_self index _ _)

section Courses

variable (networked : ∀ index, (exchanges index).carrier = .network)

include networked

private theorem step_kept (traffic : Traffic ι) (move : Move ι) (index : ι)
    (kept : (traffic.courses index).stage ≠ .cancelled) (different : move ≠ .cancel index) :
    ((traffic.step exchanges move).courses index).stage ≠ .cancelled := by
  by_cases own : move.index? = some index
  · cases move with
    | start mover transport =>
        cases own
        change ((traffic.start exchanges index transport).courses index).stage ≠ _
        unfold start
        split
        · dsimp only
          rw [take_stage]
          exact nofun
        · exact kept
    | look mover =>
        cases own
        change ((traffic.look exchanges index).courses index).stage ≠ _
        unfold look
        split
        · rw [take_stage]
          exact nofun
        · exact kept
    | cancel mover =>
        cases own
        exact absurd rfl different
    | _ => cases own
  · obtain ⟨operations, notices, effect⟩ := step_effect exchanges networked traffic move
    rw [effect.courses index own]
    exact kept

theorem run_kept (moves : List (Move ι)) (traffic : Traffic ι) (index : ι)
    (kept : (traffic.courses index).stage ≠ .cancelled)
    (different : ∀ move, move ∈ moves → move ≠ .cancel index) :
    ((traffic.run exchanges moves).courses index).stage ≠ .cancelled := by
  induction moves generalizing traffic with
  | nil => exact kept
  | cons move rest ih =>
      apply ih
      · exact step_kept exchanges networked traffic move index kept (different _ List.mem_cons_self)
      · exact fun other present => different other (List.mem_cons_of_mem _ present)

theorem step_courses_of_resting (traffic : Traffic ι) (move : Move ι) (index : ι)
    (begun : (traffic.courses index).stage ≠ .idle)
    (resting : ¬(traffic.courses index).Waits) :
    (traffic.step exchanges move).courses index = traffic.courses index := by
  by_cases own : move.index? = some index
  · cases move with
    | start mover transport =>
        cases own
        change (traffic.start exchanges index transport).courses index = _
        unfold start
        split
        · next idle => exact absurd idle begun
        · rfl
    | look mover =>
        cases own
        change (traffic.look exchanges index).courses index = _
        unfold look
        split
        · next registration deadline waits => exact absurd ⟨registration, deadline, waits⟩ resting
        · rfl
    | cancel mover =>
        cases own
        change (traffic.cancel exchanges index).courses index = _
        unfold cancel
        dsimp only
        split
        · next idle => exact absurd idle begun
        · next registration deadline waits => exact absurd ⟨registration, deadline, waits⟩ resting
        · rfl
    | _ => cases own
  · obtain ⟨operations, notices, effect⟩ := step_effect exchanges networked traffic move
    exact effect.courses index own

theorem step_courses_of_ended (traffic : Traffic ι) (move : Move ι) (index : ι)
    (result : Except SendFailure Unit)
    (ended : (traffic.courses index).stage = .active (.ended result)) :
    (traffic.step exchanges move).courses index = traffic.courses index := by
  apply step_courses_of_resting exchanges networked traffic move index
  · rw [ended]
    exact nofun
  · rintro ⟨registration, deadline, waits⟩
    rw [ended] at waits
    cases waits

private theorem Consistent.step_ended {traffic : Traffic ι}
    (consistent : Consistent exchanges traffic) (move : Move ι) (index : ι)
    (result : Except SendFailure Unit)
    (ended : (traffic.courses index).stage = .active (.ended result)) :
    (traffic.step exchanges move).courses index = traffic.courses index ∧
      (traffic.step exchanges move).callbacks index = traffic.callbacks index := by
  have same := step_courses_of_ended exchanges networked traffic move index result ended
  obtain ⟨operations, notices, effect⟩ := step_effect exchanges networked traffic move
  refine ⟨same, ?_⟩
  unfold callbacks
  rw [same, effect.heard]
  exact (consistent.standing index).flatMap_heard effect.leads consistent.sound result ended

private theorem Consistent.run_ended
    (apart : ∀ left right, (exchanges left).message.id = (exchanges right).message.id →
      left = right)
    {traffic : Traffic ι} (consistent : Consistent exchanges traffic) (moves : List (Move ι))
    (index : ι) (result : Except SendFailure Unit)
    (ended : (traffic.courses index).stage = .active (.ended result)) :
    (traffic.run exchanges moves).courses index = traffic.courses index ∧
      (traffic.run exchanges moves).callbacks index = traffic.callbacks index := by
  induction moves generalizing traffic with
  | nil => exact ⟨rfl, rfl⟩
  | cons move rest ih =>
      obtain ⟨course, callbacks⟩ :=
        consistent.step_ended exchanges networked move index result ended
      have stillEnded : ((traffic.step exchanges move).courses index).stage =
          .active (.ended result) := by
        rw [course]
        exact ended
      obtain ⟨laterCourse, laterCallbacks⟩ :=
        ih (consistent.step exchanges networked apart move) stillEnded
      exact ⟨laterCourse.trans course, laterCallbacks.trans callbacks⟩

/-- A wait that goes on is over at the first look after the callback has run or the time is up. -/
theorem look_progress {traffic : Traffic ι} (index : ι)
    (sound : traffic.network.registry.Sound traffic.heard)
    (standing : Standing (exchanges index) traffic.network.registry traffic.heard
      (traffic.courses index)) (registration deadline : Nat)
    (waits : (traffic.courses index).stage = .active (.waiting registration deadline)) :
    let looked := (traffic.look exchanges index).courses index
    (traffic.callbacks index ≠ [] → looked.stage = .active (.ended (.ok ()))) ∧
      (traffic.callbacks index = [] → deadline ≤ traffic.clock →
        looked.stage = .active (.ended (.error (.timeout (exchanges index).timeout)))) := by
  obtain ⟨_request, live, _due, _accepted, registrations⟩ := standing.of_waiting waits
  have progress := Looks.progress sound live
    ((exchanges index).look_looks (networked index) traffic.network registration deadline
      traffic.clock)
  have callbacks := traffic.callbacks_of_registrations index registration registrations
  unfold look
  rw [waits, callbacks]
  dsimp only
  rw [take_stage]
  constructor
  · intro ran
    rw [progress.1 ran]
  · intro silent late
    rw [progress.2 silent late]

private theorem Consistent.look_progress {traffic : Traffic ι}
    (consistent : Consistent exchanges traffic) (index : ι) (registration deadline : Nat)
    (waits : (traffic.courses index).stage = .active (.waiting registration deadline)) :
    let looked := (traffic.look exchanges index).courses index
    (traffic.callbacks index ≠ [] → looked.stage = .active (.ended (.ok ()))) ∧
      (traffic.callbacks index = [] → deadline ≤ traffic.clock →
        looked.stage = .active (.ended (.error (.timeout (exchanges index).timeout)))) :=
  Traffic.look_progress exchanges networked index consistent.sound (consistent.standing index)
    registration deadline waits

end Courses

/-- Whatever the order of the moves, an exchange that nobody cancels is told what became of its
message: what the transport said, and for a request whether its callback has run. It does not wait
beyond the next look once there is something to tell, and what it was told stays true. -/
theorem run_outcome (networked : ∀ index, (exchanges index).carrier = .network)
    (apart : ∀ left right, (exchanges left).message.id = (exchanges right).message.id →
      left = right)
    (moves : List (Move ι)) (index : ι) (kept : ∀ move, move ∈ moves → move ≠ .cancel index) :
    let traffic : Traffic ι := run exchanges moves {}
    let course := traffic.courses index
    Outcome (exchanges index) course (traffic.callbacks index) ∧
      (course.stage = .idle → ∀ transport,
        ((traffic.start exchanges index transport).courses index).accepted =
          some ((exchanges index).openWith transport.submit traffic.network).submission.taken) ∧
      (∀ registration deadline, course.stage = .active (.waiting registration deadline) →
        let looked := (traffic.look exchanges index).courses index
        (traffic.callbacks index ≠ [] → looked.stage = .active (.ended (.ok ()))) ∧
          (traffic.callbacks index = [] → deadline ≤ traffic.clock →
            looked.stage = .active (.ended (.error (.timeout (exchanges index).timeout))))) ∧
      (∀ result, course.stage = .active (.ended result) → ∀ later,
        (traffic.run exchanges later).courses index = course ∧
          (traffic.run exchanges later).callbacks index = traffic.callbacks index) := by
  intro traffic course
  have consistent : Consistent exchanges traffic :=
    Consistent.run exchanges networked apart moves {} (Consistent.initial exchanges)
  have uncancelled : course.stage ≠ .cancelled :=
    run_kept exchanges networked moves {} index nofun kept
  refine ⟨?_, ?_, ?_, ?_⟩
  · exact (consistent.standing index).outcome consistent.sound uncancelled
  · intro idle transport
    exact accepted_start exchanges traffic index transport idle
  · exact consistent.look_progress exchanges networked index
  · intro result ended later
    exact consistent.run_ended exchanges networked apart later index result ended

def twoRequests (index : Bool) : Exchange where
  message :=
    { id := ⟨index.toNat, "request"⟩, sender := ⟨"a"⟩, route := .direct ⟨"b"⟩,
      expectsResponse := true }
  recipient := ⟨[]⟩
  timeout := .ofMillis 5

def replyTo (index : Bool) : Reply := (twoRequests index).message.reply ⟨"b"⟩ []

/-- One request is answered twice, and late, but before anybody looks; the time of the other one is
up when its reply comes. -/
def lateReplies : List (Move Bool) :=
  [.reconfigure [(⟨"b"⟩, {})] false, .start true .loopback, .start false .loopback, .elapse 20,
    .dispatch (replyTo true), .dispatch (replyTo true), .look true, .look false,
    .dispatch (replyTo false)]

theorem run_outcome_lateReplies :
    (∀ index, (twoRequests index).carrier = .network) ∧
      (∀ left right, (twoRequests left).message.id = (twoRequests right).message.id →
        left = right) ∧
      (∀ index move, move ∈ lateReplies → move ≠ .cancel index) ∧
      ((run twoRequests lateReplies {}).courses true).stage = .active (.ended (.ok ())) ∧
      (run twoRequests lateReplies {}).callbacks true ≠ [] ∧
      ((run twoRequests lateReplies {}).courses false).stage =
        .active (.ended (.error (.timeout (.ofMillis 5)))) ∧
      (run twoRequests lateReplies {}).callbacks false = [] := by
  have networked : ∀ index, (twoRequests index).carrier = .network := fun _ => rfl
  have apart : ∀ left right, (twoRequests left).message.id = (twoRequests right).message.id →
      left = right := by decide
  have kept : ∀ index move, move ∈ lateReplies → move ≠ .cancel index := by
    intro index move present same
    simp [lateReplies, same] at present
  have answered : ((run twoRequests lateReplies {}).courses true).stage =
      .active (.ended (.ok ())) := rfl
  have timedOut : ((run twoRequests lateReplies {}).courses false).stage =
      .active (.ended (.error (.timeout (.ofMillis 5)))) := rfl
  have firstTaken : ((run twoRequests lateReplies {}).courses true).accepted = some true := rfl
  have secondTaken : ((run twoRequests lateReplies {}).courses false).accepted = some true :=
    rfl
  obtain ⟨first, _⟩ := run_outcome twoRequests networked apart lateReplies true (kept true)
  obtain ⟨second, _⟩ := run_outcome twoRequests networked apart lateReplies false (kept false)
  refine ⟨networked, apart, kept, answered, ?_, timedOut, ?_⟩
  · rcases first.request rfl firstTaken with ⟨ran, _⟩ | ⟨_, stage⟩ | ⟨registration, stage⟩
    · exact ran
    · rw [answered] at stage
      cases stage
    · rw [answered] at stage
      cases stage
  · rcases second.request rfl secondTaken with ⟨_, stage⟩ | ⟨silent, _⟩ | ⟨registration, stage⟩
    · rw [timedOut] at stage
      cases stage
    · exact silent
    · rw [timedOut] at stage
      cases stage

end Traffic
end Quorate.Messaging
