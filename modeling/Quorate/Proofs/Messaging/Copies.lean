import Quorate.Proofs.Messaging.Traffic

/-!
Exchanges of copies of one message. A registration is known by the identity of its message only, so
an exchange that registers a copy replaces the registration in force, and one that ends its wait
forgets it, whoever made it. As long as nobody does so while an exchange waits unanswered, copies do
not matter to it; once somebody does, its wait ends without a reply, whatever follows.
-/

namespace Quorate.Messaging

open Registry

def SendFailure.ofFault : Gate.Fault → SendFailure
  | .closed => .interrupted
  | .timedOut waited => .timeout waited

private theorem Exchange.Looks.ends_of_polled {exchange : Exchange} {network : Network}
    {registration deadline now : Nat} {step : Exchange.Step}
    (looks : exchange.Looks network registration deadline now step)
    {answer : Except Gate.Fault Unit}
    (polled : (network.registry.gates registration).poll = some answer) :
    exchange.Ends network (answer.mapError SendFailure.ofFault) step := by
  cases looks with
  | opened passable ends =>
      rw [passable] at polled
      cases polled
      exact ends
  | closed shut ends =>
      rw [shut] at polled
      cases polled
      exact ends
  | expired unanswered late ends =>
      rw [unanswered] at polled
      cases polled
  | shut unanswered early stays =>
      rw [unanswered] at polled
      cases polled

/-- From one course to the other, the exchange has registered its message or ended its wait. -/
def Course.Shifts (before after : Course) : Prop :=
  after.registrations ≠ before.registrations ∨ (before.Waits ∧ ¬after.Waits)

private theorem Course.not_shifts (course : Course) : ¬course.Shifts course
  | .inl changed => changed rfl
  | .inr ⟨waits, ended⟩ => ended waits

namespace Traffic

variable {ι : Type} (exchanges : ι → Exchange)

/-- The exchange waits, and its callbacks have not run. -/
def Awaits (traffic : Traffic ι) (index : ι) : Prop :=
  (traffic.courses index).Waits ∧ traffic.callbacks index = []

/-! ### What an exchange does under the identity of its message -/

/-- The operations of a move that registers the message or ends the wait for it begin with one under
its identity; those of any other move are replies. -/
structure Acts (index : ι) (before after : Traffic ι) : Prop where
  shifting : (before.courses index).Shifts (after.courses index) →
    ∃ first rest notices, Effect exchanges (some index) before after (first :: rest) notices ∧
      ¬first.Foreign (exchanges index).message.id
  resting : ¬(before.courses index).Shifts (after.courses index) →
    ∃ operations notices, Effect exchanges (some index) before after operations notices ∧
      ∀ operation, operation ∈ operations → ∀ request, operation.Foreign request

private theorem Acts.none (index : ι) (traffic : Traffic ι) :
    Acts exchanges index traffic traffic where
  shifting shifts := absurd shifts (Course.not_shifts _)
  resting _ := ⟨[], [], .none exchanges _ traffic, nofun⟩

variable {exchanges} in
private theorem Acts.of_shifts {index : ι} {before after : Traffic ι} {first : Operation}
    {rest : List Operation} {notices : List Notice}
    (shifts : (before.courses index).Shifts (after.courses index))
    (effect : Effect exchanges (some index) before after (first :: rest) notices)
    (aimed : ¬first.Foreign (exchanges index).message.id) :
    Acts exchanges index before after where
  shifting _ := ⟨first, rest, notices, effect, aimed⟩
  resting still := absurd shifts still

variable {exchanges} in
private theorem Acts.of_rests {index : ι} {before after : Traffic ι} {operations : List Operation}
    {notices : List Notice} (rests : ¬(before.courses index).Shifts (after.courses index))
    (effect : Effect exchanges (some index) before after operations notices)
    (foreign : ∀ operation, operation ∈ operations → ∀ request, operation.Foreign request) :
    Acts exchanges index before after where
  shifting shifts := absurd shifts rests
  resting _ := ⟨operations, notices, effect, foreign⟩

variable [DecidableEq ι]

private theorem registrations_cancel (traffic : Traffic ι) (index : ι) :
    ((traffic.cancel exchanges index).courses index).registrations =
      (traffic.courses index).registrations := by
  have same := congrArg Course.registrations
    (traffic.setCourse_self index { traffic.courses index with stage := .cancelled })
  unfold cancel
  dsimp only
  split
  · exact same
  · exact same
  · rfl

section Moves

variable (networked : ∀ index, (exchanges index).carrier = .network)

include networked

private theorem start_acts (traffic : Traffic ι) (index : ι) (transport : Transport) :
    Acts exchanges index traffic (traffic.start exchanges index transport) := by
  unfold start
  split
  · next idle =>
      dsimp only
      have notWaiting : ¬(traffic.courses index).Waits := by
        rintro ⟨registration, deadline, waits⟩
        rw [idle] at waits
        cases waits
      cases expects : (exchanges index).message.expectsResponse with
      | false =>
          obtain ⟨replies, leads⟩ := (exchanges index).follow_oneWay_leads expects transport
            traffic.network traffic.clock
          have replied : ∀ operation, operation ∈ replies.map Operation.dispatch →
              ∀ request, operation.Foreign request :=
            fun operation present request =>
              Operation.foreign_of_dispatches replies request operation present
          refine .of_rests ?_ (.of_take leads ?_) replied
          · rw [take_self, leads.issued_eq_of_dispatches, Nat.sub_self]
            rintro (changed | ⟨waits, _⟩)
            · exact changed (List.append_nil _)
            · exact notWaiting waits
          · exact fun operation present request _ => replied operation present request
      | true =>
          obtain ⟨issued, rest, leads, about⟩ := (exchanges index).follow_request_leads
            (networked index) expects transport traffic.network traffic.clock
          refine .of_shifts (.inl ?_) (.of_take leads ?_) ?_
          · rw [take_self, issued, Nat.add_sub_cancel_left]
            exact fun same => List.cons_ne_nil _ _ (List.append_right_eq_self.mp same)
          · intro operation present other different
            rcases List.mem_cons.mp present with rfl | late
            · exact different
            · exact about operation late other different
          · exact fun foreign => foreign rfl
  · exact .none exchanges index traffic

private theorem look_acts (traffic : Traffic ι) (index : ι) :
    Acts exchanges index traffic (traffic.look exchanges index) := by
  unfold look
  split
  · next registration deadline waiting =>
      have waits : (traffic.courses index).Waits := ⟨registration, deadline, waiting⟩
      have ending : ∀ {step : Exchange.Step} {result : Except SendFailure Unit},
          (exchanges index).Ends traffic.network result step →
            Acts exchanges index traffic
              (traffic.take index (traffic.courses index) step) := by
        intro step result ends
        refine .of_shifts (.inr ⟨waits, ?_⟩) (.of_take ends.leads ?_) ?_
        · rintro ⟨number, later, still⟩
          rw [take_stage, ends.ended] at still
          cases still
        · intro operation present request different
          rw [List.mem_singleton.mp present]
          exact different
        · exact fun foreign => foreign rfl
      cases (exchanges index).look_looks (networked index) traffic.network registration deadline
        traffic.clock with
      | opened polled ends => exact ending ends
      | closed polled ends => exact ending ends
      | expired polled late ends => exact ending ends
      | shut polled early stays =>
          refine .of_rests ?_ (.of_take stays.leads nofun) nofun
          have issued := stays.leads.issued_eq nofun
          rw [take_self, issued, Nat.sub_self, stays.stays]
          rintro (changed | ⟨_, ended⟩)
          · exact changed (List.append_nil _)
          · exact ended ⟨registration, deadline, rfl⟩
  · exact .none exchanges index traffic

private theorem cancel_acts (traffic : Traffic ι) (index : ι) :
    Acts exchanges index traffic (traffic.cancel exchanges index) := by
  by_cases waits : (traffic.courses index).Waits
  · have effect := cancel_effect_of_waiting exchanges networked traffic index waits
    refine .of_shifts (.inr ⟨waits, ?_⟩) effect fun foreign => foreign rfl
    obtain ⟨registration, deadline, stage⟩ := waits
    unfold cancel
    dsimp only
    rw [stage]
    dsimp only
    rw [setCourse_self]
    rintro ⟨number, later, still⟩
    cases still
  · refine .of_rests ?_ (cancel_effect_of_not_waiting exchanges traffic index waits) nofun
    rintro (changed | ⟨waiting, _⟩)
    · exact changed (registrations_cancel exchanges traffic index)
    · exact waits waiting

private theorem step_acts (traffic : Traffic ι) (move : Move ι) (index : ι)
    (own : move.index? = some index) :
    Acts exchanges index traffic (traffic.step exchanges move) := by
  cases move with
  | start mover transport =>
      cases own
      exact start_acts exchanges networked traffic index transport
  | look mover =>
      cases own
      exact look_acts exchanges networked traffic index
  | cancel mover =>
      cases own
      exact cancel_acts exchanges networked traffic index
  | _ => cases own

private theorem mover_of_shifts (traffic : Traffic ι) (move : Move ι) (index : ι)
    (shifts : (traffic.courses index).Shifts ((traffic.step exchanges move).courses index)) :
    move.index? = some index := by
  obtain ⟨operations, notices, effect⟩ := step_effect exchanges networked traffic move
  by_cases own : move.index? = some index
  · exact own
  · rw [effect.courses index own] at shifts
    exact absurd shifts (Course.not_shifts _)

end Moves

/-! ### Copies -/

/-- While the exchange waits unanswered, another one registers a copy of its message or ends the
wait for a copy. -/
def Disturbs (traffic : Traffic ι) (index : ι) (move : Move ι) : Prop :=
  traffic.Awaits index ∧
    ∃ other, other ≠ index ∧ (exchanges other).message.id = (exchanges index).message.id ∧
      (traffic.courses other).Shifts ((traffic.step exchanges move).courses other)

def Undisturbed (index : ι) : List (Move ι) → Traffic ι → Prop
  | [], _ => True
  | move :: rest, traffic =>
      ¬Disturbs exchanges traffic index move ∧
        Undisturbed index rest (traffic.step exchanges move)

/-- The registry is sound, and one exchange has its standing, whatever the others have. -/
structure Steady (traffic : Traffic ι) (index : ι) : Prop where
  sound : traffic.network.registry.Sound traffic.heard
  standing : Standing (exchanges index) traffic.network.registry traffic.heard
    (traffic.courses index)

/-- The registration of an exchange has ended, and the exchange has been told of it or will be at
its next look. -/
structure Resolved (traffic : Traffic ι) (index : ι) (number : Nat)
    (answer : Except Gate.Fault Unit) (told : List (Handler × Reply)) : Prop where
  sound : traffic.network.registry.Sound traffic.heard
  decided : traffic.network.registry.Decided traffic.heard number answer told
  registrations : (traffic.courses index).registrations = [number]
  stage : (∃ deadline, (traffic.courses index).stage = .active (.waiting number deadline)) ∨
    (traffic.courses index).stage = .active (.ended (answer.mapError SendFailure.ofFault))

section Steps

variable (networked : ∀ index, (exchanges index).carrier = .network)
variable {traffic : Traffic ι} {index : ι}

include networked

/-- A move of another exchange that does not disturb this one does nothing under the identity of its
message while it waits unanswered, but for replies. -/
theorem foreign_of_not_disturbs (move : Move ι)
    (calm : ¬Disturbs exchanges traffic index move) (other : move.index? ≠ some index) :
    ∃ operations notices,
      Effect exchanges move.index? traffic (traffic.step exchanges move) operations notices ∧
        (traffic.Awaits index → ∀ operation, operation ∈ operations →
          operation.Foreign (exchanges index).message.id) := by
  obtain ⟨operations, notices, effect⟩ := step_effect exchanges networked traffic move
  cases moves : move.index? with
  | none =>
      rw [moves] at effect
      refine ⟨operations, notices, effect, ?_⟩
      intro _awaits operation present
      exact effect.foreign operation present _ nofun
  | some mover =>
      rw [moves] at effect other
      have different : mover ≠ index := fun same => other (congrArg some same)
      by_cases same : (exchanges mover).message.id = (exchanges index).message.id
      · by_cases shifts :
            (traffic.courses mover).Shifts ((traffic.step exchanges move).courses mover)
        · refine ⟨operations, notices, effect, ?_⟩
          intro awaits
          exact absurd ⟨awaits, mover, different, same, shifts⟩ calm
        · obtain ⟨replies, heard, resting, foreign⟩ :=
            (step_acts exchanges networked traffic move mover moves).resting shifts
          refine ⟨replies, heard, resting, ?_⟩
          exact fun _awaits operation present => foreign operation present _
      · refine ⟨operations, notices, effect, ?_⟩
        intro _awaits operation present
        apply effect.foreign operation present
        intro index found
        cases found
        exact same

private theorem Steady.step (steady : Steady exchanges traffic index) (move : Move ι)
    (calm : ¬Disturbs exchanges traffic index move) :
    Steady exchanges (traffic.step exchanges move) index := by
  by_cases own : move.index? = some index
  · obtain ⟨operations, notices, effect⟩ := step_effect exchanges networked traffic move
    exact ⟨effect.sound steady.sound,
      step_standing exchanges networked index steady.sound steady.standing move own⟩
  · obtain ⟨operations, notices, effect, foreign⟩ :=
      foreign_of_not_disturbs exchanges networked move calm own
    constructor
    case sound => exact effect.sound steady.sound
    case standing =>
      rw [effect.heard, effect.courses index own]
      exact steady.standing.leads effect.leads steady.sound
        fun waits silent => foreign ⟨waits, silent⟩

private theorem Steady.run (moves : List (Move ι)) (traffic : Traffic ι)
    (steady : Steady exchanges traffic index)
    (undisturbed : Undisturbed exchanges index moves traffic) :
    Steady exchanges (traffic.run exchanges moves) index := by
  induction moves generalizing traffic with
  | nil => exact steady
  | cons move rest ih =>
      exact ih _ (steady.step exchanges networked move undisturbed.1) undisturbed.2

omit [DecidableEq ι] networked in
private theorem Steady.registered (steady : Steady exchanges traffic index) {number deadline : Nat}
    (waits : (traffic.courses index).stage = .active (.waiting number deadline))
    (silent : traffic.callbacks index = []) :
    (traffic.courses index).registrations = [number] ∧
      traffic.network.registry.find? (exchanges index).message.id =
        some ⟨number, (exchanges index).handler⟩ := by
  obtain ⟨_request, _live, _due, _accepted, registrations⟩ := steady.standing.of_waiting waits
  rw [traffic.callbacks_of_registrations index number registrations] at silent
  exact ⟨registrations, steady.standing.find?_of_unheard waits silent⟩

omit [DecidableEq ι] networked in
private theorem Steady.dispatch (steady : Steady exchanges traffic index) {number deadline : Nat}
    (waits : (traffic.courses index).stage = .active (.waiting number deadline))
    (silent : traffic.callbacks index = []) (reply : Reply)
    (addressed : reply.request = (exchanges index).message.id) :
    Resolved (traffic.dispatch reply) index number (.ok ())
      [((exchanges index).handler, reply)] := by
  obtain ⟨registrations, found⟩ := steady.registered exchanges waits silent
  rw [← addressed] at found
  have effect := dispatch_effect exchanges traffic reply
  refine ⟨effect.sound steady.sound, ?_, registrations, .inl ⟨deadline, waits⟩⟩
  rw [effect.heard]
  exact (steady.sound.dispatch_answered reply _ found).decided

private theorem Steady.disturb (steady : Steady exchanges traffic index) {number deadline : Nat}
    (waits : (traffic.courses index).stage = .active (.waiting number deadline)) (move : Move ι)
    (disturbs : Disturbs exchanges traffic index move) :
    Resolved (traffic.step exchanges move) index number (.error .closed) [] := by
  obtain ⟨⟨_, silent⟩, other, different, same, shifts⟩ := disturbs
  have moves := mover_of_shifts exchanges networked traffic move other shifts
  obtain ⟨first, rest, notices, effect, aimed⟩ :=
    (step_acts exchanges networked traffic move other moves).shifting shifts
  have course := effect.courses index fun equal => different (Option.some.inj equal)
  obtain ⟨registrations, found⟩ := steady.registered exchanges waits silent
  rw [same] at aimed
  refine ⟨effect.sound steady.sound, ?_, ?_, ?_⟩
  · rw [effect.heard]
    exact effect.leads.cut_of_not_foreign steady.sound found aimed
  · rw [course]
    exact registrations
  · rw [course]
    exact .inl ⟨deadline, waits⟩

omit networked in
private theorem Resolved.step_course {number : Nat} {answer : Except Gate.Fault Unit}
    {told : List (Handler × Reply)} (resolved : Resolved traffic index number answer told)
    (networked : (exchanges index).carrier = .network) (move : Move ι)
    (own : move.index? = some index) (kept : move ≠ .cancel index) :
    (traffic.step exchanges move).courses index = traffic.courses index ∨
      ((traffic.step exchanges move).courses index).registrations = [number] ∧
        ((traffic.step exchanges move).courses index).stage =
          .active (.ended (answer.mapError SendFailure.ofFault)) := by
  cases move with
  | start mover transport =>
      cases own
      refine .inl ?_
      change (traffic.start exchanges index transport).courses index = _
      unfold start
      rcases resolved.stage with ⟨deadline, stage⟩ | stage <;> rw [stage]
  | look mover =>
      cases own
      change (traffic.look exchanges index).courses index = _ ∨
        ((traffic.look exchanges index).courses index).registrations = _ ∧
          ((traffic.look exchanges index).courses index).stage = _
      rcases resolved.stage with ⟨deadline, stage⟩ | stage
      · have ends := ((exchanges index).look_looks networked traffic.network number deadline
          traffic.clock).ends_of_polled resolved.decided.polled
        have issued := ends.leads.issued_eq fun operation present => by
          rw [List.mem_singleton.mp present]
          exact nofun
        refine .inr ?_
        unfold look
        rw [stage]
        dsimp only
        rw [take_self, issued, Nat.sub_self, ends.ended, resolved.registrations]
        exact ⟨rfl, rfl⟩
      · refine .inl ?_
        unfold look
        rw [stage]
  | cancel mover =>
      cases own
      exact absurd rfl kept
  | _ => cases own

private theorem Resolved.step {number : Nat} {answer : Except Gate.Fault Unit}
    {told : List (Handler × Reply)} (resolved : Resolved traffic index number answer told)
    (move : Move ι) (kept : move ≠ .cancel index) :
    Resolved (traffic.step exchanges move) index number answer told := by
  obtain ⟨operations, notices, effect⟩ := step_effect exchanges networked traffic move
  have course : (traffic.step exchanges move).courses index = traffic.courses index ∨
      ((traffic.step exchanges move).courses index).registrations = [number] ∧
        ((traffic.step exchanges move).courses index).stage =
          .active (.ended (answer.mapError SendFailure.ofFault)) := by
    by_cases own : move.index? = some index
    · exact resolved.step_course exchanges (networked index) move own kept
    · exact .inl (effect.courses index own)
  have sound := effect.sound resolved.sound
  have decided := effect.leads.decided resolved.sound resolved.decided
  rw [← effect.heard] at decided
  rcases course with same | ⟨registrations, ended⟩
  · refine ⟨sound, decided, ?_, ?_⟩
    · rw [same]
      exact resolved.registrations
    · rw [same]
      exact resolved.stage
  · exact ⟨sound, decided, registrations, .inr ended⟩

private theorem Resolved.run {number : Nat} {answer : Except Gate.Fault Unit}
    {told : List (Handler × Reply)} (moves : List (Move ι)) (traffic : Traffic ι)
    (resolved : Resolved traffic index number answer told)
    (kept : ∀ move, move ∈ moves → move ≠ .cancel index) :
    Resolved (traffic.run exchanges moves) index number answer told := by
  induction moves generalizing traffic with
  | nil => exact resolved
  | cons move rest ih =>
      apply ih
      · exact resolved.step exchanges networked move (kept move List.mem_cons_self)
      · exact fun other present => kept other (List.mem_cons_of_mem _ present)

private theorem Resolved.tell {number : Nat} {answer : Except Gate.Fault Unit}
    {told : List (Handler × Reply)} (resolved : Resolved traffic index number answer told) :
    traffic.callbacks index = told ∧
      ((traffic.look exchanges index).courses index).stage =
        .active (.ended (answer.mapError SendFailure.ofFault)) := by
  constructor
  · rw [traffic.callbacks_of_registrations index number resolved.registrations]
    exact resolved.decided.told
  · rcases resolved.stage with ⟨deadline, stage⟩ | stage
    · have ends := ((exchanges index).look_looks (networked index) traffic.network number deadline
        traffic.clock).ends_of_polled resolved.decided.polled
      unfold look
      rw [stage]
      dsimp only
      rw [take_stage, ends.ended]
    · unfold look
      rw [stage]
      exact stage

/-- Exchanges may share a message. One that nobody cancels has its outcome as long as the others do
not disturb it: its registration stands while it waits unanswered, and the first reply to the
message ends the wait well, whatever happens before the next look. A disturbance ends the wait,
too, and no reply reaches the exchange any more. -/
theorem run_undisturbed (moves : List (Move ι)) (index : ι)
    (kept : ∀ move, move ∈ moves → move ≠ .cancel index)
    (undisturbed : Undisturbed exchanges index moves {}) :
    let traffic : Traffic ι := run exchanges moves {}
    let course := traffic.courses index
    let id := (exchanges index).message.id
    let handler := (exchanges index).handler
    Outcome (exchanges index) course (traffic.callbacks index) ∧
      ∀ number deadline, course.stage = .active (.waiting number deadline) →
        (traffic.callbacks index ≠ [] →
          ((traffic.look exchanges index).courses index).stage = .active (.ended (.ok ()))) ∧
        (traffic.callbacks index = [] →
          traffic.network.registry.find? id = some ⟨number, handler⟩ ∧
          ∀ later : List (Move ι), (∀ move, move ∈ later → move ≠ .cancel index) →
            (∀ reply, reply.request = id →
              let answered := (traffic.dispatch reply).run exchanges later
              answered.callbacks index = [(handler, reply)] ∧
                ((answered.look exchanges index).courses index).stage =
                  .active (.ended (.ok ()))) ∧
            (∀ move, Disturbs exchanges traffic index move →
              let disturbed := (traffic.step exchanges move).run exchanges later
              disturbed.callbacks index = [] ∧
                ((disturbed.look exchanges index).courses index).stage =
                  .active (.ended (.error .interrupted)))) := by
  intro traffic course id handler
  have steady : Steady exchanges traffic index :=
    Steady.run exchanges networked moves {} ⟨.initial, .idle 0⟩ undisturbed
  have uncancelled : course.stage ≠ .cancelled :=
    run_kept exchanges networked moves {} index nofun kept
  refine ⟨steady.standing.outcome steady.sound uncancelled, ?_⟩
  intro number deadline waits
  refine ⟨?_, ?_⟩
  · exact (look_progress exchanges networked index steady.sound steady.standing number deadline
      waits).1
  · intro silent
    refine ⟨(steady.registered exchanges waits silent).2, ?_⟩
    intro later keptLater
    constructor
    · intro reply addressed
      have resolved := steady.dispatch exchanges waits silent reply addressed
      exact (resolved.run exchanges networked later _ keptLater).tell exchanges networked
    · intro move disturbs
      have resolved := steady.disturb exchanges networked waits move disturbs
      exact (resolved.run exchanges networked later _ keptLater).tell exchanges networked

end Steps

def copies (_index : Bool) : Exchange := twoRequests true

/-- The second exchange registers the request anew, in place of the first. -/
def replacement : List (Move Bool) :=
  [.reconfigure [(⟨"b"⟩, {})] false, .start false .loopback, .start true .loopback]

theorem run_undisturbed_replacement :
    (∀ index, (copies index).carrier = .network) ∧
      (∀ move, move ∈ replacement → move ≠ .cancel true) ∧
      Undisturbed copies true replacement {} ∧
      Disturbs copies (run copies replacement {}) true (.look false) ∧
      (let answered := ((run copies replacement {}).dispatch (replyTo true)).run copies
        [.look false]
      answered.callbacks true = [(.recording, replyTo true)] ∧
        ((answered.look copies true).courses true).stage = .active (.ended (.ok ()))) ∧
      (let disturbed := ((run copies replacement {}).step copies (.look false)).run copies
        [.dispatch (replyTo true)]
      disturbed.callbacks true = [] ∧
        ((disturbed.look copies true).courses true).stage =
          .active (.ended (.error .interrupted))) := by
  have networked : ∀ index, (copies index).carrier = .network := fun _ => rfl
  have kept : ∀ move, move ∈ replacement → move ≠ .cancel true := by
    intro move present same
    simp [replacement, same] at present
  have idle : ∀ traffic : Traffic Bool, (traffic.courses true).stage = .idle →
      ∀ move, ¬Disturbs copies traffic true move := by
    rintro traffic stage move ⟨⟨⟨registration, deadline, waits⟩, _⟩, _⟩
    rw [stage] at waits
    cases waits
  have undisturbed : Undisturbed copies true replacement {} :=
    ⟨idle _ rfl _, idle _ rfl _, idle _ rfl _, trivial⟩
  have waits : ((run copies replacement {}).courses true).stage = .active (.waiting 1 5) :=
    rfl
  have disturbs : Disturbs copies (run copies replacement {}) true (.look false) := by
    refine ⟨⟨⟨1, 5, waits⟩, rfl⟩, false, Bool.false_ne_true, rfl, .inr ⟨⟨0, 5, rfl⟩, ?_⟩⟩
    rintro ⟨registration, deadline, still⟩
    cases still
  obtain ⟨_outcome, waiting⟩ :=
    run_undisturbed copies networked replacement true kept undisturbed
  obtain ⟨_found, onwards⟩ := (waiting 1 5 waits).2 rfl
  refine ⟨networked, kept, undisturbed, disturbs, ?_, ?_⟩
  · exact (onwards [.look false] (by simp)).1 (replyTo true) rfl
  · exact (onwards [.dispatch (replyTo true)] (by simp)).2 (.look false) disturbs

/-- The first exchange ends because its registration was replaced, and its end takes away the
registration of the other: the reply comes in time and is not delivered. -/
theorem end_of_copy_forgets_registration :
    let waiting : Traffic Bool := run copies replacement {}
    let ended := waiting.step copies (.look false)
    let replied := ended.step copies (.dispatch (replyTo true))
    let id := (twoRequests true).message.id
    (waiting.courses true).stage = .active (.waiting 1 5) ∧
      waiting.network.registry.find? id = some ⟨1, .recording⟩ ∧
      waiting.network.registry.issued = 2 ∧
      (ended.courses false).stage = .active (.ended (.error .interrupted)) ∧
      (ended.courses true).stage = .active (.waiting 1 5) ∧
      ended.network.registry.find? id = none ∧
      (ended.network.registry.gates 1).poll = some (.error .closed) ∧
      replied.clock < 5 ∧
      replied.callbacks true = [] ∧
      ((replied.look copies true).courses true).stage = .active (.ended (.error .interrupted)) :=
  ⟨rfl, rfl, rfl, rfl, rfl, rfl, rfl, by decide, rfl, rfl⟩

end Traffic
end Quorate.Messaging
