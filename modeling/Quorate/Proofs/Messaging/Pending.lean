import Mathlib.Data.Finset.Card
import Mathlib.Data.Finset.Image
import Quorate.Proofs.Messaging.Traffic

/-!
What stands in the registry. As long as no two exchanges share the identity of a message, every
registration in force is one that its exchange waits for: a wait that ends takes its registration
along, in whatever way it ends, and so does whoever abandons it.
-/

namespace Quorate.Messaging

open Registry

namespace Registry

/-- The requests in force with their handlers, the latest first. -/
def pending (registry : Registry) : List (MessageId × Handler) :=
  registry.entries.map fun entry => (entry.1, entry.2.handler)

def requests (registry : Registry) : List MessageId := registry.pending.map Prod.fst

/-- What an operation does to the requests in force. -/
def Operation.amend : Operation → List (MessageId × Handler) → List (MessageId × Handler)
  | .register request handler, pending =>
      (request, handler) :: pending.filter fun entry => entry.1 ≠ request
  | .forget request, pending => pending.filter fun entry => entry.1 ≠ request
  | .dispatch reply, pending => pending.filter fun entry => entry.1 ≠ reply.request

variable (registry : Registry)

theorem size_eq_length_requests : registry.size = registry.requests.length := by
  simp [size, requests, pending]

private theorem pending_erase (request : MessageId) :
    (registry.erase request).pending =
      registry.pending.filter fun entry => entry.1 ≠ request := by
  unfold pending erase
  rw [List.filter_map]
  rfl

theorem mem_requests_iff (request : MessageId) :
    request ∈ registry.requests ↔ ∃ registration, registry.find? request = some registration := by
  have absent : registry.find? request = none ↔
      ∀ entry ∈ registry.entries, request ≠ entry.1 := by
    simp only [find?, List.lookup_eq_none_iff, bne_iff_ne]
  constructor
  · intro present
    refine Option.ne_none_iff_exists'.mp fun none => ?_
    obtain ⟨entry, among, rfl⟩ : ∃ entry ∈ registry.entries, entry.1 = request := by
      simpa [requests, pending] using present
    exact absent.mp none entry among rfl
  · rintro ⟨registration, found⟩
    by_contra missing
    rw [absent.mpr] at found
    · cases found
    · rintro entry among rfl
      exact missing (List.mem_map_of_mem (List.mem_map_of_mem among))

theorem filter_pending_of_absent (request : MessageId) (absent : registry.find? request = none) :
    (registry.pending.filter fun entry => entry.1 ≠ request) = registry.pending := by
  rw [List.filter_eq_self]
  intro entry present
  have missing : request ∉ registry.requests := by
    rw [mem_requests_iff, absent]
    exact nofun
  have different : entry.1 ≠ request := by
    rintro rfl
    exact missing (List.mem_map_of_mem present)
  exact decide_eq_true different

private theorem pending_forget (request : MessageId) :
    (registry.forget request).1.pending =
      registry.pending.filter fun entry => entry.1 ≠ request := by
  unfold forget
  cases found : registry.find? request with
  | none => exact (registry.filter_pending_of_absent request found).symm
  | some registration => exact registry.pending_erase request

theorem pending_perform (operation : Operation) :
    (registry.perform operation).1.pending = operation.amend registry.pending := by
  cases operation with
  | register request handler =>
      exact congrArg ((request, handler) :: ·) (registry.pending_forget request)
  | forget request => exact registry.pending_forget request
  | dispatch reply =>
      change (registry.dispatch reply).1.pending = _
      unfold dispatch
      cases found : registry.find? reply.request with
      | none => exact (registry.filter_pending_of_absent reply.request found).symm
      | some registration => exact registry.pending_erase reply.request

theorem dispatch_of_absent (reply : Reply) (absent : registry.find? reply.request = none) :
    registry.dispatch reply =
      (registry, false, [.reported (.replyUnrequested reply.request reply.sender)]) := by
  unfold dispatch
  rw [absent]

/-! ### No request twice -/

private theorem Operation.nodup_amend (operation : Operation) (pending : List (MessageId × Handler))
    (distinct : (pending.map Prod.fst).Nodup) :
    ((operation.amend pending).map Prod.fst).Nodup := by
  have kept : ∀ request, ((pending.filter fun entry => entry.1 ≠ request).map Prod.fst).Nodup :=
    fun request => distinct.sublist (List.filter_sublist.map Prod.fst)
  cases operation with
  | register request handler =>
      refine List.nodup_cons.mpr ⟨?_, kept request⟩
      simp
  | forget request => exact kept request
  | dispatch reply => exact kept reply.request

variable {registry} {after : Registry} {operations : List Operation} {notices : List Notice}

private theorem Leads.pending_eq (leads : Leads operations registry after notices) :
    after.pending =
      operations.foldl (fun pending operation => operation.amend pending) registry.pending := by
  obtain ⟨rfl, _told⟩ := leads
  clear _told
  induction operations generalizing registry with
  | nil => rfl
  | cons operation rest ih =>
      rw [List.foldl_cons, ← pending_perform]
      exact ih

theorem Leads.nodup (leads : Leads operations registry after notices)
    (distinct : registry.requests.Nodup) : after.requests.Nodup := by
  unfold requests at distinct ⊢
  rw [leads.pending_eq]
  clear leads
  induction operations generalizing registry with
  | nil => exact distinct
  | cons operation rest ih =>
      have first := operation.nodup_amend registry.pending distinct
      rw [← pending_perform] at first
      rw [List.foldl_cons, ← pending_perform]
      exact ih first

theorem Leads.find?_of_foreign (leads : Leads operations registry after notices)
    (request : MessageId)
    (foreign : ∀ operation, operation ∈ operations → operation.Foreign request) :
    after.find? request = registry.find? request ∨ after.find? request = none := by
  obtain ⟨rfl, _told⟩ := leads
  clear _told
  induction operations generalizing registry with
  | nil => exact .inl rfl
  | cons operation rest ih =>
      have first : (registry.perform operation).1.find? request = registry.find? request ∨
          (registry.perform operation).1.find? request = none := by
        by_cases aimed : request = operation.request
        · have allowed := foreign operation List.mem_cons_self
          cases operation with
          | register other handler => exact absurd aimed.symm allowed
          | forget other => exact absurd aimed.symm allowed
          | dispatch reply =>
              exact .inr ((registry.find?_dispatch reply request).trans (if_pos aimed))
        · exact .inl (registry.find?_perform_of_ne operation request aimed)
      rcases ih fun other present => foreign other (List.mem_cons_of_mem _ present) with
        same | gone
      · exact first.imp same.trans same.trans
      · exact .inr gone

end Registry

/-! ### The steps of an exchange -/

namespace Exchange

variable {exchange : Exchange} {network : Network} {step : Step}

private theorem Ends.forgotten {result : Except SendFailure Unit}
    (ends : exchange.Ends network result step) :
    step.network.registry.find? exchange.message.id = none := by
  obtain ⟨same, _told⟩ := ends.leads
  rw [same]
  exact (network.registry.find?_forget _ _).trans (if_pos rfl)

private theorem Looks.attends {number deadline now : Nat}
    (looks : exchange.Looks network number deadline now step)
    (own : ∀ registration, network.registry.find? exchange.message.id = some registration →
      registration.number = number) (registration : Registration)
    (found : step.network.registry.find? exchange.message.id = some registration) :
    step.progress = .waiting registration.number deadline := by
  have ended : ∀ {result}, ¬exchange.Ends network result step := by
    intro result ends
    rw [ends.forgotten] at found
    cases found
  cases looks with
  | opened polled ends => exact absurd ends ended
  | closed polled ends => exact absurd ends ended
  | expired polled late ends => exact absurd ends ended
  | shut polled early stays =>
      obtain ⟨same, _told⟩ := stays.leads
      rw [same] at found
      rw [stays.stays, own registration found]

private theorem follow_attends (networked : exchange.carrier = .network)
    (request : exchange.message.expectsResponse = true) (transport : Transport)
    (network : Network) (now : Nat) (registration : Registration) :
    let step := exchange.follow (exchange.openWith transport.submit network) now
    step.network.registry.find? exchange.message.id = some registration →
      step.progress = .waiting registration.number (now + exchange.timeout.ticks) := by
  intro step found
  obtain ⟨registered, replies, leads, _refused⟩ :=
    exchange.openWith_request networked request transport network
  have own : ∀ registration,
      (exchange.openWith transport.submit network).network.registry.find? exchange.message.id =
          some registration → registration.number = network.registry.issued := by
    intro other standing
    rcases leads.find?_of_foreign exchange.message.id
        (Operation.foreign_of_dispatches replies exchange.message.id) with same | gone
    · rw [same, find?_register, if_pos rfl] at standing
      cases standing
      rfl
    · rw [gone] at standing
      cases standing
  cases taken : (exchange.openWith transport.submit network).submission.taken with
  | false =>
      have ends := exchange.proceed_refused networked _ _ now registered taken
      have gone := ends.forgotten.symm.trans found
      cases gone
  | true =>
      exact (exchange.proceed_accepted networked _ _ now registered taken).attends own
        registration found

end Exchange

/-- Its exchange has been told how it ended, or was abandoned. -/
def Course.Over (course : Course) : Prop :=
  (∃ result, course.stage = .active (.ended result)) ∨ course.stage = .cancelled

private theorem Course.Over.begun {course : Course} (past : course.Over) :
    course.stage ≠ .idle := by
  intro idle
  rcases past with ⟨result, ended⟩ | cancelled
  · rw [ended] at idle
    cases idle
  · rw [cancelled] at idle
    cases idle

theorem Course.Over.not_waits {course : Course} (past : course.Over) : ¬course.Waits := by
  rintro ⟨number, deadline, waits⟩
  rcases past with ⟨result, ended⟩ | cancelled
  · rw [ended] at waits
    cases waits
  · rw [cancelled] at waits
    cases waits

namespace Traffic

variable {ι : Type} (exchanges : ι → Exchange)

def Attends (traffic : Traffic ι) (index : ι) : Prop :=
  ∀ registration,
    traffic.network.registry.find? (exchanges index).message.id = some registration →
      ∃ deadline,
        (traffic.courses index).stage = .active (.waiting registration.number deadline)

/-- No request stands in the registry twice, and for every one that does an exchange waits. -/
structure Attended (traffic : Traffic ι) : Prop where
  distinct : traffic.network.registry.requests.Nodup
  waits : ∀ request registration, traffic.network.registry.find? request = some registration →
    ∃ index deadline, (exchanges index).message.id = request ∧
      (traffic.courses index).stage = .active (.waiting registration.number deadline)

theorem Attended.initial : Attended exchanges ({} : Traffic ι) where
  distinct := List.nodup_nil
  waits := nofun

section Apart

variable (apart : ∀ left right, (exchanges left).message.id = (exchanges right).message.id →
  left = right)

include apart

theorem Attended.attends {traffic : Traffic ι} (attended : Attended exchanges traffic)
    (index : ι) : Attends exchanges traffic index := by
  intro registration found
  obtain ⟨other, deadline, same, waits⟩ := attended.waits _ registration found
  rw [apart other index same] at waits
  exact ⟨deadline, waits⟩

theorem Attended.find?_of_over {traffic : Traffic ι} (attended : Attended exchanges traffic)
    (index : ι) (past : (traffic.courses index).Over) :
    traffic.network.registry.find? (exchanges index).message.id = none := by
  cases found : traffic.network.registry.find? (exchanges index).message.id with
  | none => rfl
  | some registration =>
      obtain ⟨deadline, waits⟩ := attended.attends exchanges apart index registration found
      exact absurd ⟨_, deadline, waits⟩ past.not_waits

/-- Those whose requests stand in the registry are as many as it has entries. -/
theorem Attended.flying {traffic : Traffic ι} (attended : Attended exchanges traffic) :
    ∃ flying : Finset ι,
      (∀ index, index ∈ flying ↔
        (exchanges index).message.id ∈ traffic.network.registry.requests) ∧
      flying.card = traffic.network.registry.size := by
  classical
  let identity : ι → MessageId := fun index => (exchanges index).message.id
  have injective : Function.Injective identity := fun left right => apart left right
  have covered : (traffic.network.registry.requests.toFinset : Set MessageId) ⊆
      Set.image identity Set.univ := by
    intro request present
    rw [Finset.mem_coe, List.mem_toFinset, mem_requests_iff] at present
    obtain ⟨registration, found⟩ := present
    obtain ⟨index, _deadline, same, _waits⟩ := attended.waits request registration found
    exact ⟨index, trivial, same⟩
  obtain ⟨flying, _within, same⟩ := Finset.subset_set_image_iff.mp covered
  refine ⟨flying, ?_, ?_⟩
  · intro index
    rw [← List.mem_toFinset, ← same]
    exact (injective.mem_finset_image).symm
  · rw [size_eq_length_requests, ← List.toFinset_card_of_nodup attended.distinct, ← same,
      Finset.card_image_of_injective flying injective]

end Apart

/-! ### Steps and runs -/

variable [DecidableEq ι]

section Steps

variable (networked : ∀ index, (exchanges index).carrier = .network)
variable {traffic : Traffic ι} {index : ι} (attends : Attends exchanges traffic index)

include networked attends

private theorem start_attends (transport : Transport) :
    Attends exchanges (traffic.start exchanges index transport) index := by
  unfold start
  split
  · next idle =>
      intro registration found
      rw [take_stage]
      cases expects : (exchanges index).message.expectsResponse with
      | false =>
          obtain ⟨replies, leads⟩ := (exchanges index).follow_oneWay_leads expects transport
            traffic.network traffic.clock
          rcases leads.find?_of_foreign (exchanges index).message.id
              (Operation.foreign_of_dispatches replies _) with same | gone
          · obtain ⟨deadline, waits⟩ := attends registration (same.symm.trans found)
            rw [idle] at waits
            cases waits
          · have none := gone.symm.trans found
            cases none
      | true =>
          have waits := Exchange.follow_attends (networked index) expects transport
            traffic.network traffic.clock registration found
          exact ⟨_, congrArg Exchange.Stage.active waits⟩
  · exact attends

private theorem look_attends : Attends exchanges (traffic.look exchanges index) index := by
  unfold look
  split
  · next number deadline waiting =>
      intro registration found
      rw [take_stage]
      have own : ∀ registration,
          traffic.network.registry.find? (exchanges index).message.id = some registration →
            registration.number = number := by
        intro other standing
        obtain ⟨later, waits⟩ := attends other standing
        rw [waiting] at waits
        cases waits
        rfl
      have looks := (exchanges index).look_looks (networked index) traffic.network number deadline
        traffic.clock
      exact ⟨deadline, congrArg Exchange.Stage.active (looks.attends own registration found)⟩
  · exact attends

private theorem cancel_attends : Attends exchanges (traffic.cancel exchanges index) index := by
  intro registration found
  by_cases waits : (traffic.courses index).Waits
  · obtain ⟨same, _told⟩ :=
      (cancel_effect_of_waiting exchanges networked traffic index waits).leads
    rw [same] at found
    have none := (traffic.network.registry.find?_forget (exchanges index).message.id
      (exchanges index).message.id).symm.trans found
    rw [if_pos rfl] at none
    cases none
  · obtain ⟨same, _told⟩ := (cancel_effect_of_not_waiting exchanges traffic index waits).leads
    rw [same] at found
    obtain ⟨deadline, waiting⟩ := attends registration found
    exact absurd ⟨_, deadline, waiting⟩ waits

private theorem step_attends (move : Move ι) (own : move.index? = some index) :
    Attends exchanges (traffic.step exchanges move) index := by
  cases move with
  | start mover transport =>
      cases own
      exact start_attends exchanges networked attends transport
  | look mover =>
      cases own
      exact look_attends exchanges networked attends
  | cancel mover =>
      cases own
      exact cancel_attends exchanges networked attends
  | _ => cases own

end Steps

section Runs

variable (networked : ∀ index, (exchanges index).carrier = .network)
  (apart : ∀ left right, (exchanges left).message.id = (exchanges right).message.id →
    left = right)

include networked

private theorem Attended.waits_of_foreign {traffic : Traffic ι}
    (attended : Attended exchanges traffic) (move : Move ι) (request : MessageId)
    (foreign : ∀ index, move.index? = some index → (exchanges index).message.id ≠ request)
    (registration : Registration)
    (found : (traffic.step exchanges move).network.registry.find? request = some registration) :
    ∃ index deadline, (exchanges index).message.id = request ∧
      ((traffic.step exchanges move).courses index).stage =
        .active (.waiting registration.number deadline) := by
  obtain ⟨operations, notices, effect⟩ := step_effect exchanges networked traffic move
  have stood : traffic.network.registry.find? request = some registration := by
    rcases effect.leads.find?_of_foreign request
        (fun operation present => effect.foreign operation present request foreign) with
      same | gone
    · exact same.symm.trans found
    · have none := gone.symm.trans found
      cases none
  obtain ⟨index, deadline, same, waits⟩ := attended.waits request registration stood
  have resting : move.index? ≠ some index := fun moves => foreign index moves same
  rw [← effect.courses index resting] at waits
  exact ⟨index, deadline, same, waits⟩

include apart

private theorem Attended.step {traffic : Traffic ι} (attended : Attended exchanges traffic)
    (move : Move ι) : Attended exchanges (traffic.step exchanges move) where
  distinct := by
    obtain ⟨operations, notices, effect⟩ := step_effect exchanges networked traffic move
    exact effect.leads.nodup attended.distinct
  waits := by
    intro request registration found
    by_cases own : ∃ index, move.index? = some index ∧ (exchanges index).message.id = request
    · obtain ⟨index, moves, rfl⟩ := own
      obtain ⟨deadline, waits⟩ := step_attends exchanges networked
        (attended.attends exchanges apart index) move moves registration found
      exact ⟨index, deadline, rfl, waits⟩
    · apply attended.waits_of_foreign exchanges networked move request _ registration found
      exact fun index moves same => own ⟨index, moves, same⟩

theorem Attended.run (moves : List (Move ι)) (traffic : Traffic ι)
    (attended : Attended exchanges traffic) :
    Attended exchanges (traffic.run exchanges moves) := by
  induction moves generalizing traffic with
  | nil => exact attended
  | cons move rest ih => exact ih _ (attended.step exchanges networked apart move)

omit apart

theorem run_courses_of_over (moves : List (Move ι)) (traffic : Traffic ι) (index : ι)
    (past : (traffic.courses index).Over) :
    (traffic.run exchanges moves).courses index = traffic.courses index := by
  induction moves generalizing traffic with
  | nil => rfl
  | cons move rest ih =>
      have same := step_courses_of_resting exchanges networked traffic move index past.begun
        past.not_waits
      refine (ih _ ?_).trans same
      rw [same]
      exact past

end Runs

end Traffic
end Quorate.Messaging
