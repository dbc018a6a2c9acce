import Quorate.Proofs.Messaging.Agreement

/-!
A run as it would be without one of its exchanges: the same moves, but for those of the exchange and
for the answers to its message. Over the network within one process the others do not notice. They
stand as they do in the whole run, and so do their requests in the registry; only the registrations
may have other numbers.
-/

namespace Quorate.Messaging

open Registry

namespace Traffic

/-! ### What is left of a run -/

theorem filter_eraseIdx {α : Type} (kept : α → Bool) (items : List α) (number : Nat) (item : α)
    (found : items[number]? = some item) :
    (kept item = false → (items.eraseIdx number).filter kept = items.filter kept) ∧
      (kept item = true →
        (items.filter kept)[(items.take number).countP kept]? = some item ∧
          (items.eraseIdx number).filter kept =
            (items.filter kept).eraseIdx ((items.take number).countP kept)) := by
  induction items generalizing number with
  | nil => cases found
  | cons head rest ih =>
      cases number with
      | zero =>
          cases found
          constructor
          · intro dropped
            simp [dropped]
          · intro stays
            simp [stays]
      | succ number =>
          obtain ⟨drops, stays⟩ := ih number found
          cases first : kept head with
          | false => simpa [first] using ⟨drops, stays⟩
          | true => simpa [first] using ⟨drops, stays⟩

variable {ι : Type} [DecidableEq ι] (exchanges : ι → Exchange)

def concernsOthers (index : ι) (owed : Nat × Errand) : Bool :=
  owed.2.message.id ≠ (exchanges index).message.id

/-- What is left of a move without the exchange. Owed answers are given by their places. -/
def spare (traffic : Traffic ι) (index : ι) : Move ι → List (Move ι)
  | .answer number =>
      match traffic.errands[number]? with
      | none => []
      | some owed =>
          if concernsOthers exchanges index owed then
            [.answer ((traffic.errands.take number).countP (concernsOthers exchanges index))]
          else []
  | move => if move.index? = some index then [] else [move]

private theorem spare_of_own (traffic : Traffic ι) {index : ι} {move : Move ι}
    (own : move.index? = some index) : traffic.spare exchanges index move = [] := by
  cases move with
  | start mover transport => exact if_pos own
  | look mover => exact if_pos own
  | cancel mover => exact if_pos own
  | _ => cases own

private theorem spare_of_other (traffic : Traffic ι) {index other : ι} {move : Move ι}
    (moves : move.index? = some other) (different : other ≠ index) :
    traffic.spare exchanges index move = [move] := by
  have resting : move.index? ≠ some index := by
    rw [moves]
    exact fun same => different (Option.some.inj same)
  cases move with
  | start mover transport => exact if_neg resting
  | look mover => exact if_neg resting
  | cancel mover => exact if_neg resting
  | _ => cases moves

/-- The moves that are left of a run without the exchange. -/
def without (index : ι) : List (Move ι) → Traffic ι → List (Move ι)
  | [], _ => []
  | move :: rest, traffic =>
      traffic.spare exchanges index move ++ without index rest (traffic.step exchanges move)

/-- Every exchange has its standing, and no request is in the registry without one that waits. -/
structure Orderly (traffic : Traffic ι) : Prop where
  consistent : Consistent exchanges traffic
  attended : Attended exchanges traffic

/-- Where a run stands, and where it would stand without the exchange. -/
structure Lacks (index : ι) (full reduced : Traffic ι) : Prop where
  clock : reduced.clock = full.clock
  network : Network.Agrees (exchanges index).message.id full.network reduced.network
  errands : reduced.errands = full.errands.filter (concernsOthers exchanges index)
  absent : (reduced.courses index).stage = .idle
  stages : ∀ other, other ≠ index →
    (reduced.courses other).stage.unnumbered = (full.courses other).stage.unnumbered

omit [DecidableEq ι] in
private theorem Lacks.initial (index : ι) : Lacks exchanges index {} {} where
  clock := rfl
  network := .refl _
  errands := rfl
  absent := rfl
  stages _ _ := rfl

section Orderly

variable (networked : ∀ index, (exchanges index).carrier = .network)
  (apart : ∀ left right, (exchanges left).message.id = (exchanges right).message.id →
    left = right)

include apart

omit [DecidableEq ι] in
theorem Orderly.poll {traffic : Traffic ι} (orderly : Orderly exchanges traffic) (index : ι)
    {number deadline : Nat}
    (waits : (traffic.courses index).stage = .active (.waiting number deadline)) :
    (traffic.network.registry.gates number).poll =
      if (exchanges index).message.id ∈ traffic.network.registry.requests then none
      else some (.ok ()) := by
  obtain ⟨_request, live, _⟩ := (orderly.consistent.standing index).of_waiting waits
  apply live.poll_eq orderly.consistent.sound
  cases found : traffic.network.registry.find? (exchanges index).message.id with
  | none => exact .inr rfl
  | some registration =>
      obtain ⟨later, waiting⟩ := orderly.attended.attends exchanges apart index registration found
      have same : registration.number = number := by
        rw [waits] at waiting
        cases waiting
        rfl
      rcases live with standing | ⟨reply, answered⟩
      · exact .inl (found.symm.trans standing)
      · exact absurd same (answered.gone.nowhere _ registration found)

omit [DecidableEq ι] in
/-- The requests in force are those that are waited for and not answered yet. -/
theorem Orderly.mem_requests_iff {traffic : Traffic ι} (orderly : Orderly exchanges traffic)
    (index : ι) :
    (exchanges index).message.id ∈ traffic.network.registry.requests ↔
      (traffic.courses index).Waits ∧ traffic.callbacks index = [] := by
  have standing := orderly.consistent.standing index
  rw [Registry.mem_requests_iff]
  constructor
  · rintro ⟨registration, found⟩
    obtain ⟨deadline, waits⟩ :=
      orderly.attended.attends exchanges apart index registration found
    obtain ⟨_request, _live, _due, _accepted, registrations⟩ := standing.of_waiting waits
    rw [traffic.callbacks_of_registrations index _ registrations]
    exact ⟨⟨_, deadline, waits⟩, orderly.consistent.sound.unheard _ registration found⟩
  · rintro ⟨⟨number, deadline, waits⟩, silent⟩
    obtain ⟨_request, _live, _due, _accepted, registrations⟩ := standing.of_waiting waits
    rw [traffic.callbacks_of_registrations index number registrations] at silent
    exact ⟨_, standing.find?_of_unheard waits silent⟩

include networked

theorem Orderly.run (moves : List (Move ι)) {traffic : Traffic ι}
    (orderly : Orderly exchanges traffic) : Orderly exchanges (traffic.run exchanges moves) :=
  ⟨orderly.consistent.run exchanges networked apart moves,
    orderly.attended.run exchanges networked apart moves⟩

end Orderly

section Lacks

variable {exchanges} {index other : ι} {full reduced : Traffic ι}
  (lacks : Lacks exchanges index full reduced)

include lacks

/-! ### Moves of the exchange that is left out -/

private theorem Lacks.setCourse_absent (course : Course) :
    Lacks exchanges index (full.setCourse index course) reduced where
  clock := lacks.clock
  network := lacks.network
  errands := lacks.errands
  absent := lacks.absent
  stages other different := by
    unfold Traffic.setCourse
    dsimp only
    rw [if_neg different]
    exact lacks.stages other different

omit [DecidableEq ι] in
private theorem Lacks.of_network {network : Network}
    (agrees : Network.Agrees (exchanges index).message.id network full.network) :
    Lacks exchanges index { full with network := network } reduced :=
  { lacks with network := agrees.trans lacks.network }

private theorem Lacks.take_absent (course : Course) (step : Exchange.Step)
    (agrees : Network.Agrees (exchanges index).message.id step.network full.network)
    (owed : ∀ errand, step.errand = some errand → errand.message = (exchanges index).message) :
    Lacks exchanges index (full.take index course step) reduced := by
  have made := lacks.setCourse_absent { course with
    stage := .active step.progress
    registrations := course.registrations ++
      List.range' full.network.registry.issued
        (step.network.registry.issued - full.network.registry.issued) }
  refine ⟨made.clock, agrees.trans made.network, ?_, made.absent, made.stages⟩
  unfold Traffic.take
  dsimp only
  rw [List.filter_append, ← lacks.errands, List.filter_eq_nil_iff.mpr, List.append_nil]
  intro entry present
  obtain ⟨errand, among, rfl⟩ := List.mem_map.mp present
  simp [concernsOthers, owed errand (Option.mem_toList.mp among)]

section Networked

variable (networked : (exchanges index).carrier = .network)

include networked

private theorem Lacks.start_absent :
    Lacks exchanges index (full.start exchanges index .loopback) reduced := by
  unfold start
  split
  · obtain ⟨agrees, owed⟩ :=
      Exchange.follow_confined networked full.network full.clock
    exact lacks.take_absent _ _ agrees owed
  · exact lacks

private theorem Lacks.look_absent : Lacks exchanges index (full.look exchanges index) reduced := by
  unfold look
  split
  · next number deadline _waits =>
      apply lacks.take_absent _ _ (Exchange.look_absent networked full.network _ _ _)
      intro errand owed
      have none := (exchanges index).look_errand full.network number deadline full.clock
      rw [none] at owed
      cases owed
  · exact lacks

private theorem Lacks.cancel_absent :
    Lacks exchanges index (full.cancel exchanges index) reduced := by
  unfold cancel
  dsimp only
  split
  · exact lacks.setCourse_absent _
  · apply (lacks.setCourse_absent _).of_network
    unfold Exchange.cancel Carrier.forget
    rw [networked]
    exact .perform_absent full.network (.forget (exchanges index).message.id) rfl
  · exact lacks

end Networked

/-! ### Moves of the others -/

private theorem Lacks.setCourse (different : other ≠ index) (course reducedCourse : Course)
    (same : reducedCourse.stage.unnumbered = course.stage.unnumbered) :
    Lacks exchanges index (full.setCourse other course)
      (reduced.setCourse other reducedCourse) where
  clock := lacks.clock
  network := lacks.network
  errands := lacks.errands
  absent := (congrArg Course.stage (if_neg different.symm)).trans lacks.absent
  stages third distinct := by
    unfold Traffic.setCourse
    dsimp only
    split
    · exact same
    · exact lacks.stages third distinct

omit [DecidableEq ι] in
private theorem Lacks.withNetwork {network reducedNetwork : Network}
    (agrees : Network.Agrees (exchanges index).message.id network reducedNetwork) :
    Lacks exchanges index { full with network := network }
      { reduced with network := reducedNetwork } :=
  { lacks with network := agrees }

private theorem Lacks.take (different : other ≠ index) (course reducedCourse : Course)
    (step reducedStep : Exchange.Step)
    (agrees : Exchange.Step.Agrees (exchanges index).message.id step reducedStep)
    (owed : ∀ errand, step.errand = some errand →
      errand.message.id ≠ (exchanges index).message.id) :
    Lacks exchanges index (full.take other course step)
      (reduced.take other reducedCourse reducedStep) := by
  have made := lacks.setCourse different
    { course with
      stage := .active step.progress
      registrations := course.registrations ++ List.range' full.network.registry.issued
        (step.network.registry.issued - full.network.registry.issued) }
    { reducedCourse with
      stage := .active reducedStep.progress
      registrations := reducedCourse.registrations ++
        List.range' reduced.network.registry.issued
          (reducedStep.network.registry.issued - reduced.network.registry.issued) }
    agrees.stages
  refine ⟨made.clock, agrees.networks, ?_, made.absent, made.stages⟩
  unfold Traffic.take
  dsimp only
  rw [List.filter_append, lacks.errands, lacks.clock, agrees.errands]
  congr 1
  refine (List.filter_eq_self.mpr ?_).symm
  intro entry present
  obtain ⟨errand, among, rfl⟩ := List.mem_map.mp present
  exact decide_eq_true (owed errand (Option.mem_toList.mp among))

section Others

variable (networked : ∀ index, (exchanges index).carrier = .network)
  (apart : ∀ left right, (exchanges left).message.id = (exchanges right).message.id →
    left = right)
  (orderly : Orderly exchanges full) (reducedOrderly : Orderly exchanges reduced)

include networked apart orderly reducedOrderly

private theorem Lacks.start_other (different : other ≠ index) :
    Lacks exchanges index (full.start exchanges other .loopback)
      (reduced.start exchanges other .loopback) := by
  have distinct : (exchanges other).message.id ≠ (exchanges index).message.id :=
    fun same => different (apart other index same)
  unfold start
  rcases Exchange.Stage.alike_of_unnumbered (lacks.stages other different) with
    ⟨same, _⟩ | ⟨number, held, deadline, waits, reducedWaits⟩
  · rw [same]
    cases (full.courses other).stage with
    | idle =>
        apply lacks.take different
        · rw [lacks.clock]
          exact Exchange.follow_agrees (networked other) lacks.network distinct
            orderly.consistent.sound reducedOrderly.consistent.sound full.clock
        · intro errand owed
          rw [(Exchange.follow_confined (networked other) full.network full.clock).2 errand owed]
          exact distinct
    | active progress => exact lacks
    | cancelled => exact lacks
  · rw [waits, reducedWaits]
    exact lacks

private theorem Lacks.look_other (different : other ≠ index) :
    Lacks exchanges index (full.look exchanges other) (reduced.look exchanges other) := by
  have distinct : (exchanges other).message.id ≠ (exchanges index).message.id :=
    fun same => different (apart other index same)
  unfold look
  rcases Exchange.Stage.alike_of_unnumbered (lacks.stages other different) with
    ⟨same, resting⟩ | ⟨number, held, deadline, waits, reducedWaits⟩
  · rw [same]
    split
    · next number deadline waits => exact absurd waits (resting number deadline)
    · exact lacks
  · have polled := orderly.poll exchanges apart other waits
    have reducedPolled := reducedOrderly.poll exchanges apart other reducedWaits
    simp only [mem_requests_of_pendingBut lacks.network.pending _ distinct] at reducedPolled
    rw [waits, reducedWaits, lacks.clock]
    apply lacks.take different
    · exact Exchange.look_agrees (networked other) lacks.network number held deadline full.clock
        (reducedPolled.trans polled.symm)
    · intro errand owed
      have none := (exchanges other).look_errand full.network number deadline full.clock
      rw [none] at owed
      cases owed

omit apart orderly reducedOrderly in
private theorem Lacks.cancel_other (different : other ≠ index) :
    Lacks exchanges index (full.cancel exchanges other) (reduced.cancel exchanges other) := by
  unfold cancel
  dsimp only
  rcases Exchange.Stage.alike_of_unnumbered (lacks.stages other different) with
    ⟨same, resting⟩ | ⟨number, held, deadline, waits, reducedWaits⟩
  · rw [same]
    split
    · exact lacks.setCourse different _ _ rfl
    · next number deadline waits => exact absurd waits (resting number deadline)
    · exact lacks
  · have abandoned := lacks.setCourse different
      { full.courses other with stage := .cancelled }
      { reduced.courses other with stage := .cancelled } rfl
    rw [waits, reducedWaits]
    refine abandoned.withNetwork ?_
    unfold Exchange.cancel Carrier.forget
    rw [networked other]
    exact lacks.network.perform (.forget (exchanges other).message.id)

end Others

/-! ### Moves of nobody -/

private theorem Lacks.answer (number : Nat) :
    Lacks exchanges index (full.answer number)
      (reduced.run exchanges (full.spare exchanges index (.answer number))) := by
  unfold Traffic.answer spare
  dsimp only
  cases found : full.errands[number]? with
  | none => exact lacks
  | some owed =>
      obtain ⟨due, errand⟩ := owed
      obtain ⟨drops, stays⟩ :=
        filter_eraseIdx (concernsOthers exchanges index) full.errands number (due, errand) found
      dsimp only
      cases concerns : concernsOthers exchanges index (due, errand) with
      | false =>
          have own : errand.message.id = (exchanges index).message.id := by
            simpa [concernsOthers] using concerns
          change Lacks exchanges index _ reduced
          split
          · refine ⟨lacks.clock, ?_, ?_, lacks.absent, lacks.stages⟩
            · exact (Network.Agrees.answer_absent full.network errand own).trans lacks.network
            · exact lacks.errands.trans (drops concerns).symm
          · exact lacks
      | true =>
          obtain ⟨place, erased⟩ := stays concerns
          rw [← lacks.errands] at place
          change Lacks exchanges index _ (reduced.answer _)
          unfold Traffic.answer
          rw [place, lacks.clock]
          dsimp only
          split
          · refine ⟨rfl, lacks.network.answer errand, ?_, lacks.absent, lacks.stages⟩
            dsimp only
            rw [erased, lacks.errands]
          · exact lacks

omit [DecidableEq ι] in
private theorem Lacks.dispatch (reply : Reply) :
    Lacks exchanges index (full.dispatch reply) (reduced.dispatch reply) :=
  ⟨lacks.clock, lacks.network.perform (.dispatch reply), lacks.errands, lacks.absent,
    lacks.stages⟩

/-! ### Whole runs -/

section Runs

variable (networked : ∀ index, (exchanges index).carrier = .network)
  (apart : ∀ left right, (exchanges left).message.id = (exchanges right).message.id →
    left = right)
  (orderly : Orderly exchanges full) (reducedOrderly : Orderly exchanges reduced)

include networked apart orderly reducedOrderly

private theorem Lacks.step (move : Move ι)
    (loopback : ∀ mover transport, move = .start mover transport → transport = .loopback) :
    Lacks exchanges index (full.step exchanges move)
      (reduced.run exchanges (full.spare exchanges index move)) := by
  cases move with
  | start mover transport =>
      obtain rfl := loopback mover transport rfl
      by_cases own : mover = index
      · subst own
        rw [full.spare_of_own exchanges rfl]
        exact lacks.start_absent (networked mover)
      · rw [full.spare_of_other exchanges rfl own]
        exact lacks.start_other networked apart orderly reducedOrderly own
  | look mover =>
      by_cases own : mover = index
      · subst own
        rw [full.spare_of_own exchanges rfl]
        exact lacks.look_absent (networked mover)
      · rw [full.spare_of_other exchanges rfl own]
        exact lacks.look_other networked apart orderly reducedOrderly own
  | cancel mover =>
      by_cases own : mover = index
      · subst own
        rw [full.spare_of_own exchanges rfl]
        exact lacks.cancel_absent (networked mover)
      · rw [full.spare_of_other exchanges rfl own]
        exact lacks.cancel_other networked own
  | answer number => exact lacks.answer number
  | dispatch reply => exact lacks.dispatch reply
  | elapse ticks =>
      exact { lacks with clock := congrArg (· + ticks) lacks.clock }
  | reconfigure endpoints rejecting =>
      exact lacks.withNetwork ⟨rfl, rfl, lacks.network.pending⟩

private theorem Lacks.run (moves : List (Move ι))
    (loopback : ∀ mover transport, .start mover transport ∈ moves → transport = .loopback) :
    Lacks exchanges index (full.run exchanges moves)
      (reduced.run exchanges (without exchanges index moves full)) := by
  induction moves generalizing full reduced with
  | nil => exact lacks
  | cons move rest ih =>
      have first := lacks.step networked apart orderly reducedOrderly move
        fun mover transport same => loopback mover transport (same ▸ List.mem_cons_self)
      have whole := ih first (orderly.run exchanges networked apart [move])
        (reducedOrderly.run exchanges networked apart (full.spare exchanges index move))
        fun mover transport present => loopback mover transport (List.mem_cons_of_mem _ present)
      unfold without
      unfold Traffic.run at whole ⊢
      rw [List.foldl_append]
      exact whole

end Runs

end Lacks

private theorem filterMap_spare (traffic : Traffic ι) (index : ι) (move : Move ι) :
    (traffic.spare exchanges index move).filterMap Move.index? =
      ([move].filterMap Move.index?).filter (· ≠ index) := by
  have moved : ∀ {mover : ι}, move.index? = some mover →
      (traffic.spare exchanges index move).filterMap Move.index? =
        ([move].filterMap Move.index?).filter (· ≠ index) := by
    intro mover moves
    by_cases own : mover = index
    · subst own
      rw [spare_of_own exchanges traffic moves]
      simp [moves]
    · rw [spare_of_other exchanges traffic moves own]
      simp [moves, own]
  cases move with
  | start mover transport => exact moved rfl
  | look mover => exact moved rfl
  | cancel mover => exact moved rfl
  | answer number =>
      unfold spare
      dsimp only
      split
      · rfl
      · split <;> rfl
  | dispatch reply => rfl
  | elapse ticks => rfl
  | reconfigure endpoints rejecting => rfl

/-- The exchanges move as they do in the whole run, but for the one that is left out. -/
theorem filterMap_without (index : ι) (moves : List (Move ι)) (traffic : Traffic ι) :
    (without exchanges index moves traffic).filterMap Move.index? =
      (moves.filterMap Move.index?).filter (· ≠ index) := by
  induction moves generalizing traffic with
  | nil => rfl
  | cons move rest ih =>
      unfold without
      rw [List.filterMap_append, filterMap_spare, ih, ← List.filter_append,
        ← List.filterMap_append, List.singleton_append]

/-- Whatever the order of the moves, an exchange that is over has left nothing in the registry, and
every reply to its message is turned away from then on. The registry has as many entries as requests
wait for their replies and have not been answered. Over the network within one process, all that an
exchange ever does to the registry is to hold its own entry there: for all others the registry
stands as it would if the exchange had not been. -/
theorem run_registrations (networked : ∀ index, (exchanges index).carrier = .network)
    (apart : ∀ left right, (exchanges left).message.id = (exchanges right).message.id →
      left = right)
    (moves : List (Move ι)) :
    let traffic : Traffic ι := run exchanges moves {}
    (∀ index, (traffic.courses index).Over → ∀ later,
      let registry := (traffic.run exchanges later).network.registry
      registry.find? (exchanges index).message.id = none ∧
        ∀ reply, reply.request = (exchanges index).message.id →
          registry.dispatch reply =
            (registry, false, [.reported (.replyUnrequested reply.request reply.sender)])) ∧
      (∃ flying : Finset ι,
        (∀ index, index ∈ flying ↔
          (traffic.courses index).Waits ∧ traffic.callbacks index = []) ∧
        flying.card = traffic.network.registry.size) ∧
      ((∀ index, ¬(traffic.courses index).Waits) → traffic.network.registry.size = 0) ∧
      ((∀ mover transport, .start mover transport ∈ moves → transport = .loopback) →
        ∀ index,
          let remaining := without exchanges index moves {}
          let alone : Traffic ι := run exchanges remaining {}
          remaining.filterMap Move.index? =
              (moves.filterMap Move.index?).filter (· ≠ index) ∧
            alone.network.registry.pending =
              traffic.network.registry.pendingBut (exchanges index).message.id ∧
            ((traffic.courses index).Over →
              alone.network.registry.pending = traffic.network.registry.pending) ∧
            ∀ other, other ≠ index → (alone.courses other).stage.unnumbered =
              (traffic.courses other).stage.unnumbered) := by
  intro traffic
  have initial : Orderly exchanges ({} : Traffic ι) := ⟨.initial exchanges, .initial exchanges⟩
  have orderly : Orderly exchanges traffic := initial.run exchanges networked apart moves
  obtain ⟨flying, standing, counted⟩ := orderly.attended.flying exchanges apart
  have waiting := fun index =>
    (standing index).trans (orderly.mem_requests_iff exchanges apart index)
  refine ⟨?_, ⟨flying, waiting, counted⟩, ?_, ?_⟩
  · intro index past later registry
    have laterOrderly := orderly.run exchanges networked apart later
    have stillOver : ((traffic.run exchanges later).courses index).Over := by
      rw [run_courses_of_over exchanges networked later traffic index past]
      exact past
    have absent := laterOrderly.attended.find?_of_over exchanges apart index stillOver
    refine ⟨absent, ?_⟩
    intro reply addressed
    rw [← addressed] at absent
    exact registry.dispatch_of_absent reply absent
  · intro resting
    have none : flying = ∅ :=
      Finset.eq_empty_of_forall_notMem fun index present =>
        resting index ((waiting index).mp present).1
    rw [← counted, none, Finset.card_empty]
  · intro loopback index remaining alone
    have lacks := (Lacks.initial exchanges index).run networked apart initial initial moves loopback
    have aloneOrderly := initial.run exchanges networked apart remaining
    -- The exchange that is left out never moves, so nothing stands under its message.
    have absent : alone.network.registry.find? (exchanges index).message.id = none := by
      cases found : alone.network.registry.find? (exchanges index).message.id with
      | none => rfl
      | some registration =>
          obtain ⟨deadline, waits⟩ :=
            aloneOrderly.attended.attends exchanges apart index registration found
          have idle := lacks.absent.symm.trans waits
          cases idle
    have same : alone.network.registry.pending =
        traffic.network.registry.pendingBut (exchanges index).message.id := by
      rw [← alone.network.registry.filter_pending_of_absent _ absent]
      exact lacks.network.pending
    refine ⟨filterMap_without exchanges index moves {}, same, ?_, lacks.stages⟩
    intro past
    have gone := orderly.attended.find?_of_over exchanges apart index past
    exact same.trans (traffic.network.registry.filter_pending_of_absent _ gone)

/-- Two requests to a peer that answers late. The first is abandoned, and is answered nonetheless;
the other waits. -/
def abandonment : List (Move Bool) :=
  [.reconfigure [(⟨"b"⟩, { responder := some fun _ => some [], delay := .ofMillis 3 })] false,
    .start true .loopback, .start false .loopback, .cancel true, .elapse 4, .answer 0]

theorem run_registrations_abandonment :
    (∀ index, (twoRequests index).carrier = .network) ∧
      (∀ left right, (twoRequests left).message.id = (twoRequests right).message.id →
        left = right) ∧
      (∀ mover transport, .start mover transport ∈ abandonment → transport = .loopback) ∧
      (let traffic := run twoRequests abandonment {}
      (traffic.courses true).Over ∧ (traffic.courses false).Waits ∧
        (traffic.network.registry.dispatch (replyTo true)).2.1 = false ∧
        (∃ flying : Finset Bool,
          (∀ index, index ∈ flying ↔
            (traffic.courses index).Waits ∧ traffic.callbacks index = []) ∧
          flying.card = 1) ∧
        (run twoRequests (without twoRequests true abandonment {}) {}).network.registry.pending =
          [((twoRequests false).message.id, .recording)]) := by
  have networked : ∀ index, (twoRequests index).carrier = .network := fun _ => rfl
  have apart : ∀ left right, (twoRequests left).message.id = (twoRequests right).message.id →
      left = right := by decide
  have loopback : ∀ mover transport, .start mover transport ∈ abandonment →
      transport = .loopback := by
    intro mover transport present
    simp only [abandonment, List.mem_cons, List.not_mem_nil, reduceCtorEq, Move.start.injEq,
      false_or, or_false] at present
    rcases present with ⟨_, same⟩ | ⟨_, same⟩ <;> exact same
  have past : ((run twoRequests abandonment {}).courses true).Over := .inr rfl
  have waits : ((run twoRequests abandonment {}).courses false).Waits := ⟨1, 5, rfl⟩
  obtain ⟨turnedAway, flying, _none, without⟩ :=
    run_registrations twoRequests networked apart abandonment
  obtain ⟨_absent, dispatched⟩ := turnedAway true past []
  obtain ⟨_movers, _but, same, _others⟩ := without loopback true
  refine ⟨networked, apart, loopback, past, waits, ?_, flying, ?_⟩
  · exact congrArg (·.2.1) (dispatched (replyTo true) rfl)
  · exact same past

end Traffic
end Quorate.Messaging
