import Quorate.Association
import Quorate.Messaging.Registry

/-!
What becomes of a registration while operations go on at its registry. Registrations are known by
their numbers: no number is given twice, and a registration that has left the registry keeps its
gate and its callbacks as they are, whatever follows.
-/

namespace Quorate.Messaging.Registry

variable (registry : Registry)

/-! ### Single operations -/

private theorem find?_erase (request other : MessageId) :
    (registry.erase request).find? other =
      if other = request then none else registry.find? other :=
  Association.lookup_filter_ne registry.entries other request

theorem find?_forget (request other : MessageId) :
    (registry.forget request).1.find? other =
      if other = request then none else registry.find? other := by
  unfold forget
  cases found : registry.find? request with
  | none =>
      by_cases same : other = request
      · rw [if_pos same, same]
        exact found
      · rw [if_neg same]
  | some registration => exact registry.find?_erase request other

theorem find?_register (request other : MessageId) (handler : Handler) :
    (registry.register request handler).1.find? other =
      if other = request then some ⟨registry.issued, handler⟩ else registry.find? other := by
  have cleared := registry.find?_forget request other
  unfold register find?
  dsimp only
  by_cases same : other = request
  · rw [if_pos same, same, List.lookup_cons_self]
  · have miss : (other == request) = false := by simp [same]
    rw [if_neg same] at cleared ⊢
    rw [List.lookup_cons, miss]
    exact cleared

theorem find?_dispatch (reply : Reply) (other : MessageId) :
    (registry.dispatch reply).1.find? other =
      if other = reply.request then none else registry.find? other := by
  unfold dispatch
  cases found : registry.find? reply.request with
  | none =>
      by_cases same : other = reply.request
      · rw [if_pos same, same]
        exact found
      · rw [if_neg same]
  | some registration => exact registry.find?_erase reply.request other

theorem issued_forget (request : MessageId) :
    (registry.forget request).1.issued = registry.issued := by
  unfold forget
  split <;> rfl

theorem issued_dispatch (reply : Reply) :
    (registry.dispatch reply).1.issued = registry.issued := by
  unfold dispatch
  split <;> rfl

private theorem gates_forget (request : MessageId) (number : Nat)
    (other : ∀ registration, registry.find? request = some registration →
      registration.number ≠ number) :
    (registry.forget request).1.gates number = registry.gates number := by
  unfold forget
  cases found : registry.find? request with
  | none => rfl
  | some registration => exact if_neg (other registration found).symm

private theorem gates_forget_found (request : MessageId) (registration : Registration)
    (found : registry.find? request = some registration) :
    (registry.forget request).1.gates registration.number =
      (registry.gates registration.number).drop := by
  unfold forget
  rw [found]
  exact if_pos rfl

private theorem gates_register (request : MessageId) (handler : Handler) (number : Nat)
    (old : number < registry.issued)
    (other : ∀ registration, registry.find? request = some registration →
      registration.number ≠ number) :
    (registry.register request handler).1.gates number = registry.gates number := by
  have earlier : number ≠ registry.issued := Nat.ne_of_lt old
  exact (if_neg earlier).trans (registry.gates_forget request number other)

private theorem dispatch_other (reply : Reply) (number : Nat)
    (other : ∀ registration, registry.find? reply.request = some registration →
      registration.number ≠ number) :
    (registry.dispatch reply).1.gates number = registry.gates number ∧
      Notice.deliveries number (registry.dispatch reply).2.2 = [] := by
  unfold dispatch
  cases found : registry.find? reply.request with
  | none => exact ⟨rfl, rfl⟩
  | some registration =>
      have different := other registration found
      refine ⟨if_neg different.symm, ?_⟩
      simp [Notice.deliveries, different]

private theorem dispatch_found (reply : Reply) (registration : Registration)
    (found : registry.find? reply.request = some registration)
    (shut : registry.gates registration.number = {}) :
    ((registry.dispatch reply).1.gates registration.number).value = some () ∧
      Notice.deliveries registration.number (registry.dispatch reply).2.2 =
        [(registration.handler, reply)] := by
  unfold dispatch
  rw [found]
  dsimp only
  constructor
  · unfold setGate
    dsimp only
    rw [if_pos rfl, shut]
    rfl
  · simp [Notice.deliveries]

/-! ### Any operation -/

private theorem issued_perform_le (operation : Operation) :
    registry.issued ≤ (registry.perform operation).1.issued := by
  cases operation with
  | register request handler => exact Nat.le_succ registry.issued
  | forget request => exact Nat.le_of_eq (registry.issued_forget request).symm
  | dispatch reply => exact Nat.le_of_eq (registry.issued_dispatch reply).symm

theorem find?_perform_of_ne (operation : Operation) (other : MessageId)
    (different : other ≠ operation.request) :
    (registry.perform operation).1.find? other = registry.find? other := by
  cases operation with
  | register request handler =>
      exact (registry.find?_register request other handler).trans (if_neg different)
  | forget request => exact (registry.find?_forget request other).trans (if_neg different)
  | dispatch reply => exact (registry.find?_dispatch reply other).trans (if_neg different)

private theorem find?_perform_self (operation : Operation) (registration : Registration)
    (found : (registry.perform operation).1.find? operation.request = some registration) :
    ∃ handler, operation = .register operation.request handler ∧
      registration = ⟨registry.issued, handler⟩ := by
  cases operation with
  | register request handler =>
      have here := (registry.find?_register request request handler).symm.trans found
      rw [if_pos rfl] at here
      exact ⟨handler, rfl, (Option.some.inj here).symm⟩
  | forget request =>
      have here := (registry.find?_forget request request).symm.trans found
      rw [if_pos rfl] at here
      cases here
  | dispatch reply =>
      have here := (registry.find?_dispatch reply reply.request).symm.trans found
      rw [if_pos rfl] at here
      cases here

private theorem perform_other (operation : Operation) (number : Nat)
    (old : number < registry.issued)
    (other : ∀ registration, registry.find? operation.request = some registration →
      registration.number ≠ number) :
    (registry.perform operation).1.gates number = registry.gates number ∧
      Notice.deliveries number (registry.perform operation).2 = [] := by
  cases operation with
  | register request handler =>
      exact ⟨registry.gates_register request handler number old other, rfl⟩
  | forget request => exact ⟨registry.gates_forget request number other, rfl⟩
  | dispatch reply => exact registry.dispatch_other reply number other

/-! ### What is heard of registrations -/

/-- What the callback of every registration has run on, by number. -/
abbrev Record := Nat → List (Handler × Reply)

def Record.extend (heard : Record) (notices : List Notice) : Record :=
  fun number => heard number ++ Notice.deliveries number notices

theorem Record.extend_append (heard : Record) (notices later : List Notice) :
    heard.extend (notices ++ later) = (heard.extend notices).extend later := by
  funext number
  unfold extend
  rw [Notice.deliveries_append, List.append_assoc]

private theorem Record.extend_nil (heard : Record) : heard.extend [] = heard := by
  funext number
  exact List.append_nil (heard number)

private theorem Record.extend_silent (heard : Record) (notices : List Notice)
    (silent : ∀ number, Notice.deliveries number notices = []) : heard.extend notices = heard := by
  funext number
  unfold extend
  rw [silent, List.append_nil]

/-- Registrations in force have numbers of their own, shut gates, and have heard nothing. -/
structure Sound (heard : Record) : Prop where
  numbered : ∀ request registration, registry.find? request = some registration →
    registration.number < registry.issued
  apart : ∀ left right registration other, registry.find? left = some registration →
    registry.find? right = some other → registration.number = other.number → left = right
  shut : ∀ request registration, registry.find? request = some registration →
    registry.gates registration.number = {}
  unheard : ∀ request registration, registry.find? request = some registration →
    heard registration.number = []
  unused : ∀ number, registry.issued ≤ number → heard number = []

structure Gone (number : Nat) : Prop where
  old : number < registry.issued
  nowhere : ∀ request registration, registry.find? request = some registration →
    registration.number ≠ number

/-- A reply to the request has reached the registration. -/
structure Answered (heard : Record) (request : MessageId) (registration : Registration)
    (reply : Reply) : Prop where
  gone : registry.Gone registration.number
  opened : (registry.gates registration.number).value = some ()
  once : heard registration.number = [(registration.handler, reply)]
  addressed : reply.request = request

/-- The registration ended without a reply. -/
structure Withdrawn (heard : Record) (number : Nat) : Prop where
  gone : registry.Gone number
  unheard : heard number = []

/-- The registration has ended, in one way or the other, and a wait on its gate is over. -/
structure Decided (heard : Record) (number : Nat) (answer : Except Gate.Fault Unit)
    (told : List (Handler × Reply)) : Prop where
  gone : registry.Gone number
  polled : (registry.gates number).poll = some answer
  told : heard number = told

variable {registry} {heard : Record}

theorem Sound.initial : ({} : Registry).Sound fun _ => [] where
  numbered := nofun
  apart := nofun
  shut := nofun
  unheard := nofun
  unused _ _ := rfl

private theorem Sound.perform_other (sound : registry.Sound heard) (operation : Operation)
    (request : MessageId) (registration : Registration) (different : request ≠ operation.request)
    (found : registry.find? request = some registration) :
    (registry.perform operation).1.gates registration.number =
        registry.gates registration.number ∧
      Notice.deliveries registration.number (registry.perform operation).2 = [] := by
  apply registry.perform_other operation registration.number (sound.numbered _ _ found)
  intro other stands same
  exact different (sound.apart _ _ _ _ stands found same).symm

theorem Sound.perform (sound : registry.Sound heard) (operation : Operation) :
    (registry.perform operation).1.Sound (heard.extend (registry.perform operation).2) := by
  have split : ∀ request registration,
      (registry.perform operation).1.find? request = some registration →
        (request = operation.request ∧ ∃ handler,
          operation = .register operation.request handler ∧
            registration = ⟨registry.issued, handler⟩) ∨
        (request ≠ operation.request ∧ registry.find? request = some registration) := by
    intro request registration found
    by_cases same : request = operation.request
    · rw [same] at found
      exact .inl ⟨same, registry.find?_perform_self operation registration found⟩
    · rw [registry.find?_perform_of_ne operation request same] at found
      exact .inr ⟨same, found⟩
  have grown := registry.issued_perform_le operation
  constructor
  case numbered =>
    intro request registration found
    rcases split request registration found with ⟨_, handler, registering, rfl⟩ | ⟨_, old⟩
    · rw [registering]
      exact Nat.lt_succ_self registry.issued
    · exact Nat.lt_of_lt_of_le (sound.numbered request registration old) grown
  case apart =>
    intro left right registration other foundLeft foundRight same
    rcases split left registration foundLeft with ⟨here, handler, _, rfl⟩ | ⟨_, oldLeft⟩
    · rcases split right other foundRight with ⟨there, _⟩ | ⟨_, oldRight⟩
      · exact here.trans there.symm
      · have less := sound.numbered right other oldRight
        exact absurd same (Nat.ne_of_gt less)
    · rcases split right other foundRight with ⟨_, handler, _, rfl⟩ | ⟨_, oldRight⟩
      · have less := sound.numbered left registration oldLeft
        exact absurd same (Nat.ne_of_lt less)
      · exact sound.apart left right registration other oldLeft oldRight same
  case shut =>
    intro request registration found
    rcases split request registration found with ⟨_, handler, registering, rfl⟩ | ⟨different, old⟩
    · rw [registering]
      exact if_pos rfl
    · rw [(sound.perform_other operation request registration different old).1]
      exact sound.shut request registration old
  case unheard =>
    intro request registration found
    unfold Record.extend
    rcases split request registration found with ⟨_, handler, registering, rfl⟩ | ⟨different, old⟩
    · rw [registering, sound.unused registry.issued (Nat.le_refl _)]
      rfl
    · rw [(sound.perform_other operation request registration different old).2,
        sound.unheard request registration old]
      rfl
  case unused =>
    intro number above
    have never : registry.issued ≤ number := Nat.le_trans grown above
    unfold Record.extend
    rw [sound.unused number never]
    cases operation with
    | register request handler => rfl
    | forget request => rfl
    | dispatch reply =>
        refine (registry.dispatch_other reply number ?_).2
        intro registration found
        exact Nat.ne_of_lt (Nat.lt_of_lt_of_le (sound.numbered _ _ found) never)

theorem Sound.register (sound : registry.Sound heard) (request : MessageId) (handler : Handler) :
    (registry.register request handler).1.Sound heard ∧
      (registry.register request handler).1.find? request = some ⟨registry.issued, handler⟩ := by
  have registering := sound.perform (.register request handler)
  have silent : heard.extend (registry.perform (.register request handler)).2 = heard :=
    heard.extend_nil
  rw [silent] at registering
  exact ⟨registering, (registry.find?_register request request handler).trans (if_pos rfl)⟩

private theorem Gone.perform {number : Nat} (gone : registry.Gone number) (operation : Operation) :
    (registry.perform operation).1.Gone number ∧
      (registry.perform operation).1.gates number = registry.gates number ∧
      Notice.deliveries number (registry.perform operation).2 = [] := by
  obtain ⟨gate, silent⟩ := registry.perform_other operation number gone.old
    (gone.nowhere operation.request)
  refine ⟨⟨?_, ?_⟩, gate, silent⟩
  · exact Nat.lt_of_lt_of_le gone.old (registry.issued_perform_le operation)
  · intro request registration found
    by_cases same : request = operation.request
    · rw [same] at found
      obtain ⟨handler, _, rfl⟩ := registry.find?_perform_self operation registration found
      exact Nat.ne_of_gt gone.old
    · rw [registry.find?_perform_of_ne operation request same] at found
      exact gone.nowhere request registration found

private theorem Answered.perform {request : MessageId} {registration : Registration} {reply : Reply}
    (answered : registry.Answered heard request registration reply) (operation : Operation) :
    (registry.perform operation).1.Answered (heard.extend (registry.perform operation).2) request
      registration reply := by
  obtain ⟨gone, gate, silent⟩ := answered.gone.perform operation
  refine ⟨gone, ?_, ?_, answered.addressed⟩
  · rw [gate]
    exact answered.opened
  · unfold Record.extend
    rw [answered.once, silent]
    rfl

private theorem Withdrawn.perform {number : Nat} (withdrawn : registry.Withdrawn heard number)
    (operation : Operation) :
    (registry.perform operation).1.Withdrawn (heard.extend (registry.perform operation).2)
      number := by
  obtain ⟨gone, _, silent⟩ := withdrawn.gone.perform operation
  refine ⟨gone, ?_⟩
  unfold Record.extend
  rw [withdrawn.unheard, silent]
  rfl

private theorem Decided.perform {number : Nat} {answer : Except Gate.Fault Unit}
    {told : List (Handler × Reply)} (decided : registry.Decided heard number answer told)
    (operation : Operation) :
    (registry.perform operation).1.Decided (heard.extend (registry.perform operation).2) number
      answer told := by
  obtain ⟨gone, gate, silent⟩ := decided.gone.perform operation
  refine ⟨gone, ?_, ?_⟩
  · rw [gate]
    exact decided.polled
  · unfold Record.extend
    rw [decided.told, silent, List.append_nil]

private theorem Sound.gone_of_removed (sound : registry.Sound heard) (request : MessageId)
    (registration : Registration) (found : registry.find? request = some registration)
    (operation : Operation) (aimed : operation.request = request)
    (removed : (registry.perform operation).1.find? request = none) :
    (registry.perform operation).1.Gone registration.number where
  old := Nat.lt_of_lt_of_le (sound.numbered request registration found)
    (registry.issued_perform_le operation)
  nowhere := by
    intro other standing present
    by_cases same : other = request
    · rw [same, removed] at present
      cases present
    · rw [registry.find?_perform_of_ne operation other (aimed ▸ same)] at present
      intro equal
      exact same (sound.apart _ _ _ _ present found equal)

private theorem Sound.forget_withdrawn (sound : registry.Sound heard) (request : MessageId)
    (registration : Registration) (found : registry.find? request = some registration) :
    (registry.perform (.forget request)).1.Withdrawn heard registration.number where
  gone := by
    apply sound.gone_of_removed request registration found (.forget request) rfl
    exact (registry.find?_forget request request).trans (if_pos rfl)
  unheard := sound.unheard request registration found

theorem Sound.dispatch_answered (sound : registry.Sound heard) (reply : Reply)
    (registration : Registration) (found : registry.find? reply.request = some registration) :
    (registry.perform (.dispatch reply)).1.Answered
      (heard.extend (registry.perform (.dispatch reply)).2) reply.request registration reply := by
  have shut := sound.shut reply.request registration found
  obtain ⟨opened, once⟩ := registry.dispatch_found reply registration found shut
  refine ⟨?_, opened, ?_, rfl⟩
  · apply sound.gone_of_removed reply.request registration found (.dispatch reply) rfl
    exact (registry.find?_dispatch reply reply.request).trans (if_pos rfl)
  · unfold Record.extend
    rw [sound.unheard reply.request registration found]
    exact once

/-! ### Operations of others -/

/-- The operation is a reply, or it is about some other request. -/
def Operation.Foreign (request : MessageId) : Operation → Prop
  | .register other _ => other ≠ request
  | .forget other => other ≠ request
  | .dispatch _ => True

def Operation.About (request : MessageId) (operation : Operation) : Prop :=
  ∀ other, request ≠ other → operation.Foreign other

theorem Operation.foreign_of_dispatches (replies : List Reply) (request : MessageId)
    (operation : Operation) (present : operation ∈ replies.map .dispatch) :
    operation.Foreign request := by
  obtain ⟨reply, _, rfl⟩ := List.mem_map.mp present
  trivial

theorem Sound.cut_of_not_foreign (sound : registry.Sound heard) (request : MessageId)
    (registration : Registration) (found : registry.find? request = some registration)
    (operation : Operation) (aimed : ¬operation.Foreign request) :
    (registry.perform operation).1.Decided (heard.extend (registry.perform operation).2)
      registration.number (.error .closed) [] := by
  have old := sound.numbered request registration found
  have silent := sound.unheard request registration found
  have dropped : (registry.gates registration.number).drop.poll = some (.error .closed) := by
    rw [sound.shut request registration found]
    rfl
  have forgotten := registry.gates_forget_found request registration found
  cases operation with
  | dispatch reply => exact absurd trivial aimed
  | forget other =>
      obtain rfl : other = request := Decidable.not_not.mp aimed
      have unchanged : heard.extend (registry.perform (.forget other)).2 = heard :=
        heard.extend_nil
      rw [unchanged]
      exact ⟨(sound.forget_withdrawn other registration found).gone,
        (congrArg Gate.poll forgotten).trans dropped, silent⟩
  | register other handler =>
      obtain rfl : other = request := Decidable.not_not.mp aimed
      have different : registration.number ≠ registry.issued := Nat.ne_of_lt old
      have unchanged : heard.extend (registry.perform (.register other handler)).2 = heard :=
        heard.extend_nil
      rw [unchanged]
      refine ⟨⟨Nat.lt_succ_of_lt old, ?_⟩, ?_, silent⟩
      · intro holder standing present
        have here := (registry.find?_register other holder handler).symm.trans present
        by_cases same : holder = other
        · rw [if_pos same] at here
          cases here
          exact different.symm
        · rw [if_neg same] at here
          intro equal
          exact same (sound.apart _ _ _ _ here found equal)
      · have gate : (registry.register other handler).1.gates registration.number =
            (registry.gates registration.number).drop := (if_neg different).trans forgotten
        exact (congrArg Gate.poll gate).trans dropped

variable (registry heard) in
/-- The registration is in force, or a reply has reached it. -/
def Live (request : MessageId) (registration : Registration) : Prop :=
  registry.find? request = some registration ∨
    ∃ reply, registry.Answered heard request registration reply

theorem Sound.poll_of_found (sound : registry.Sound heard) {request : MessageId}
    {registration : Registration} (found : registry.find? request = some registration) :
    (registry.gates registration.number).poll = none := by
  rw [sound.shut request registration found]
  rfl

theorem Answered.poll {request : MessageId} {registration : Registration} {reply : Reply}
    (answered : registry.Answered heard request registration reply) :
    (registry.gates registration.number).poll = some (.ok ()) := by
  unfold Gate.poll
  rw [answered.opened]

theorem Answered.decided {request : MessageId} {registration : Registration} {reply : Reply}
    (answered : registry.Answered heard request registration reply) :
    registry.Decided heard registration.number (.ok ()) [(registration.handler, reply)] :=
  ⟨answered.gone, answered.poll, answered.once⟩

private theorem Live.perform {request : MessageId} {registration : Registration}
    (live : registry.Live heard request registration) (sound : registry.Sound heard)
    (operation : Operation) (foreign : operation.Foreign request) :
    (registry.perform operation).1.Live (heard.extend (registry.perform operation).2) request
      registration := by
  rcases live with found | ⟨reply, answered⟩
  · by_cases aimed : request = operation.request
    · cases operation with
      | register other handler => exact absurd aimed.symm foreign
      | forget other => exact absurd aimed.symm foreign
      | dispatch reply =>
          rw [aimed] at found ⊢
          exact .inr ⟨reply, sound.dispatch_answered reply registration found⟩
    · rw [← registry.find?_perform_of_ne operation request aimed] at found
      exact .inl found
  · exact .inr ⟨reply, answered.perform operation⟩

/-! ### Sequences of operations -/

private theorem performAll_invariant (invariant : Registry → Record → Prop)
    (allowed : Operation → Prop)
    (preserved : ∀ registry heard operation, allowed operation → registry.Sound heard →
      invariant registry heard →
      invariant (registry.perform operation).1 (heard.extend (registry.perform operation).2))
    (operations : List Operation) (all : ∀ operation, operation ∈ operations → allowed operation)
    (sound : registry.Sound heard) (holds : invariant registry heard) :
    (performAll operations registry).1.Sound
        (heard.extend (performAll operations registry).2) ∧
      invariant (performAll operations registry).1
        (heard.extend (performAll operations registry).2) := by
  induction operations generalizing registry heard with
  | nil =>
      have same : heard.extend (performAll [] registry).2 = heard := heard.extend_nil
      rw [same]
      exact ⟨sound, holds⟩
  | cons operation rest ih =>
      have first := all operation List.mem_cons_self
      have later := ih (fun other present => all other (List.mem_cons_of_mem _ present))
        (sound.perform operation) (preserved registry heard operation first sound holds)
      rw [← Record.extend_append] at later
      exact later

theorem performAll_append (operations later : List Operation) (registry : Registry) :
    performAll (operations ++ later) registry =
      ((performAll later (performAll operations registry).1).1,
        (performAll operations registry).2 ++
          (performAll later (performAll operations registry).1).2) := by
  induction operations generalizing registry with
  | nil => rfl
  | cons operation rest ih =>
      simp only [List.cons_append, performAll, ih, List.append_assoc]

namespace Leads

variable {operations : List Operation} {before middle after : Registry} {notices : List Notice}

theorem refl (silent : ∀ number, Notice.deliveries number notices = []) :
    Leads [] before before notices := ⟨rfl, silent⟩

theorem single (operation : Operation) :
    Leads [operation] before (before.perform operation).1 (before.perform operation).2 := by
  refine ⟨rfl, ?_⟩
  intro number
  exact congrArg (Notice.deliveries number) (List.append_nil _).symm

theorem append {continued : List Operation} {later : List Notice}
    (first : Leads operations before middle notices) (second : Leads continued middle after later) :
    Leads (operations ++ continued) before after (notices ++ later) := by
  obtain ⟨rfl, told⟩ := first
  obtain ⟨rfl, toldLater⟩ := second
  unfold Leads
  rw [performAll_append]
  refine ⟨rfl, ?_⟩
  intro number
  rw [Notice.deliveries_append, Notice.deliveries_append, told, toldLater]

/-- What every allowed operation preserves holds at the end, and so does soundness. -/
theorem invariant (leads : Leads operations registry after notices)
    (invariant : Registry → Record → Prop) (allowed : Operation → Prop)
    (preserved : ∀ registry heard operation, allowed operation → registry.Sound heard →
      invariant registry heard →
      invariant (registry.perform operation).1 (heard.extend (registry.perform operation).2))
    (all : ∀ operation, operation ∈ operations → allowed operation)
    (sound : registry.Sound heard) (holds : invariant registry heard) :
    after.Sound (heard.extend notices) ∧ invariant after (heard.extend notices) := by
  obtain ⟨rfl, told⟩ := leads
  have same : heard.extend notices = heard.extend (performAll operations registry).2 := by
    funext number
    exact congrArg (heard number ++ ·) (told number)
  rw [same]
  exact performAll_invariant invariant allowed preserved operations all sound holds

theorem sound (leads : Leads operations registry after notices) (sound : registry.Sound heard) :
    after.Sound (heard.extend notices) :=
  (leads.invariant (fun _ _ => True) (fun _ => True) (fun _ _ _ _ _ _ => trivial)
    (fun _ _ => trivial) sound trivial).1

theorem live (leads : Leads operations registry after notices) (sound : registry.Sound heard)
    {request : MessageId} {registration : Registration}
    (foreign : ∀ operation, operation ∈ operations → operation.Foreign request)
    (live : registry.Live heard request registration) :
    after.Live (heard.extend notices) request registration :=
  (leads.invariant (Live · · request registration) (Operation.Foreign request)
    (fun _ _ operation foreign sound live => live.perform sound operation foreign) foreign sound
    live).2

theorem answered (leads : Leads operations registry after notices) (sound : registry.Sound heard)
    {request : MessageId} {registration : Registration} {reply : Reply}
    (answered : registry.Answered heard request registration reply) :
    after.Answered (heard.extend notices) request registration reply :=
  (leads.invariant (Answered · · request registration reply) (fun _ => True)
    (fun _ _ operation _ _ answered => answered.perform operation) (fun _ _ => trivial) sound
    answered).2

theorem withdrawn (leads : Leads operations registry after notices) (sound : registry.Sound heard)
    {number : Nat} (withdrawn : registry.Withdrawn heard number) :
    after.Withdrawn (heard.extend notices) number :=
  (leads.invariant (Withdrawn · · number) (fun _ => True)
    (fun _ _ operation _ _ withdrawn => withdrawn.perform operation) (fun _ _ => trivial) sound
    withdrawn).2

theorem decided (leads : Leads operations registry after notices) (sound : registry.Sound heard)
    {number : Nat} {answer : Except Gate.Fault Unit} {told : List (Handler × Reply)}
    (decided : registry.Decided heard number answer told) :
    after.Decided (heard.extend notices) number answer told :=
  (leads.invariant (Decided · · number answer told) (fun _ => True)
    (fun _ _ operation _ _ decided => decided.perform operation) (fun _ _ => trivial) sound
    decided).2

/-- The first operation cuts the registration off, and so it stays. -/
theorem cut_of_not_foreign {first : Operation}
    (leads : Leads (first :: operations) registry after notices) (sound : registry.Sound heard)
    {request : MessageId} {registration : Registration}
    (found : registry.find? request = some registration) (aimed : ¬first.Foreign request) :
    after.Decided (heard.extend notices) registration.number (.error .closed) [] := by
  obtain ⟨rfl, told⟩ := leads
  have rest : Leads operations (registry.perform first).1
      (performAll operations (registry.perform first).1).1
      (performAll operations (registry.perform first).1).2 := ⟨rfl, fun _ => rfl⟩
  have later := rest.decided (sound.perform first)
    (sound.cut_of_not_foreign request registration found first aimed)
  have same : heard.extend notices = (heard.extend (registry.perform first).2).extend
      (performAll operations (registry.perform first).1).2 := by
    rw [← Record.extend_append]
    funext number
    exact congrArg (heard number ++ ·) (told number)
  rw [same]
  exact later

theorem forgotten {request : MessageId} (leads : Leads [.forget request] registry after notices)
    (sound : registry.Sound heard) {registration : Registration}
    (found : registry.find? request = some registration) :
    after.Withdrawn (heard.extend notices) registration.number := by
  obtain ⟨rfl, silent⟩ := leads
  have unchanged : heard.extend notices = heard := heard.extend_silent notices silent
  rw [unchanged]
  exact sound.forget_withdrawn request registration found

theorem find?_eq (leads : Leads operations registry after notices) (request : MessageId)
    (others : ∀ operation, operation ∈ operations → operation.request ≠ request) :
    after.find? request = registry.find? request := by
  obtain ⟨rfl, told⟩ := leads
  clear told
  induction operations generalizing registry with
  | nil => rfl
  | cons operation rest ih =>
      refine (ih fun other present => others other (List.mem_cons_of_mem _ present)).trans ?_
      exact registry.find?_perform_of_ne operation request (others _ List.mem_cons_self).symm

theorem issued_eq (leads : Leads operations registry after notices)
    (none : ∀ operation, operation ∈ operations →
      ∀ request handler, operation ≠ .register request handler) :
    after.issued = registry.issued := by
  obtain ⟨rfl, told⟩ := leads
  clear told
  induction operations generalizing registry with
  | nil => rfl
  | cons operation rest ih =>
      refine (ih fun other present => none other (List.mem_cons_of_mem _ present)).trans ?_
      cases operation with
      | register request handler => exact absurd rfl (none _ List.mem_cons_self request handler)
      | forget request => exact registry.issued_forget request
      | dispatch reply => exact registry.issued_dispatch reply

theorem issued_eq_of_dispatches {replies : List Reply}
    (leads : Leads (replies.map .dispatch) registry after notices) :
    after.issued = registry.issued := by
  apply leads.issued_eq
  intro operation present request handler
  obtain ⟨reply, _, rfl⟩ := List.mem_map.mp present
  exact nofun

end Leads

end Quorate.Messaging.Registry
