import Quorate.Proofs.Messaging.Pending

/-!
What a registry does, told from the operations alone. For a request only the operations on it
matter: the latest of them tells whether it is in force, and what becomes of a registration is
settled by the first of them that comes after it.
-/

namespace Quorate.Messaging.Registry

/-! ### The operations on one request -/

def Operation.registers : Operation → Bool
  | .register _ _ => true
  | .forget _ => false
  | .dispatch _ => false

def next? (request : MessageId) (operations : List Operation) : Option Operation :=
  operations.find? fun operation => operation.request = request

def latest? (request : MessageId) (operations : List Operation) : Option Operation :=
  next? request operations.reverse

def registered (request : MessageId) (operations : List Operation) : Bool :=
  (latest? request operations).any Operation.registers

private theorem next?_cons (request : MessageId) (operation : Operation) (rest : List Operation) :
    next? request (operation :: rest) =
      if operation.request = request then some operation else next? request rest := by
  unfold next?
  rw [List.find?_cons]
  by_cases aimed : operation.request = request
  · rw [if_pos aimed, decide_eq_true aimed]
  · rw [if_neg aimed, decide_eq_false aimed]

private theorem registered_append_singleton (request : MessageId) (operations : List Operation)
    (operation : Operation) :
    registered request (operations ++ [operation]) =
      if operation.request = request then operation.registers
      else registered request operations := by
  unfold registered latest?
  rw [List.reverse_append, List.reverse_singleton, List.singleton_append, next?_cons]
  by_cases aimed : operation.request = request
  · rw [if_pos aimed, if_pos aimed]
    rfl
  · rw [if_neg aimed, if_neg aimed]

private theorem mem_requests_of_registered {request : MessageId} {operations : List Operation}
    (holds : registered request operations = true) :
    request ∈ operations.map Operation.request := by
  unfold registered latest? next? at holds
  obtain ⟨operation, latest, _registers⟩ :=
    (Option.any_eq_true _ _).mp holds
  have aimed := List.find?_some
    (p := fun operation : Operation => decide (operation.request = request)) latest
  have present := List.mem_reverse.mp (List.mem_of_find?_eq_some latest)
  exact List.mem_map.mpr ⟨operation, present, of_decide_eq_true aimed⟩

/-! ### What is in force -/

variable (registry : Registry)

private theorem dispatch_answer (reply : Reply) :
    (registry.dispatch reply).2.1 = (registry.find? reply.request).isSome := by
  unfold dispatch
  cases registry.find? reply.request <;> rfl

private theorem forget_answer (request : MessageId) :
    (registry.forget request).2 = (registry.find? request).isSome := by
  unfold forget
  cases registry.find? request <;> rfl

private theorem isSome_find?_perform (operation : Operation) (request : MessageId) :
    ((registry.perform operation).1.find? request).isSome =
      if operation.request = request then operation.registers
      else (registry.find? request).isSome := by
  by_cases aimed : operation.request = request
  · rw [if_pos aimed]
    subst aimed
    cases operation with
    | register request handler =>
        exact congrArg Option.isSome
          ((registry.find?_register request request handler).trans (if_pos rfl))
    | forget request =>
        exact congrArg Option.isSome
          ((registry.find?_forget request request).trans (if_pos rfl))
    | dispatch reply =>
        exact congrArg Option.isSome
          ((registry.find?_dispatch reply reply.request).trans (if_pos rfl))
  · rw [if_neg aimed, registry.find?_perform_of_ne operation request (Ne.symm aimed)]

private theorem issued_perform (operation : Operation) :
    (registry.perform operation).1.issued =
      registry.issued + if operation.registers then 1 else 0 := by
  cases operation with
  | register request handler => rfl
  | forget request => exact registry.issued_forget request
  | dispatch reply => exact registry.issued_dispatch reply

private theorem leads_performAll (operations : List Operation) :
    Leads operations registry (performAll operations registry).1
      (performAll operations registry).2 :=
  ⟨rfl, fun _ => rfl⟩

private theorem performAll_append_singleton (operations : List Operation) (operation : Operation) :
    (performAll (operations ++ [operation]) registry).1 =
      ((performAll operations registry).1.perform operation).1 := by
  rw [performAll_append]
  rfl

private theorem isSome_find?_performAll (operations : List Operation) (request : MessageId) :
    ((performAll operations {}).1.find? request).isSome = registered request operations := by
  induction operations using List.reverseRecOn with
  | nil => rfl
  | append_singleton operations operation ih =>
      rw [performAll_append_singleton, isSome_find?_perform, registered_append_singleton, ih]

private theorem issued_performAll (operations : List Operation) :
    (performAll operations {}).1.issued = operations.countP Operation.registers := by
  induction operations using List.reverseRecOn with
  | nil => rfl
  | append_singleton operations operation ih =>
      rw [performAll_append_singleton, issued_perform, List.countP_append, ih,
        List.countP_singleton]

private theorem size_performAll (operations : List Operation) :
    (performAll operations {}).1.size =
      ((operations.map Operation.request).toFinset.filter
        (registered · operations = true)).card := by
  have distinct := (leads_performAll {} operations).nodup List.nodup_nil
  rw [size_eq_length_requests, ← List.toFinset_card_of_nodup distinct]
  congr 1
  ext request
  rw [List.mem_toFinset, mem_requests_iff, ← Option.isSome_iff_exists, isSome_find?_performAll,
    Finset.mem_filter, List.mem_toFinset]
  exact ⟨fun holds => ⟨mem_requests_of_registered holds, holds⟩, And.right⟩

/-! ### What becomes of a registration -/

variable {registry} {heard : Record}

/-- What has become of a registration, if this is the first operation on its request since. -/
def Became (registry : Registry) (heard : Record) (request : MessageId)
    (registration : Registration) : Option Operation → Prop
  | none => registry.find? request = some registration
  | some (.dispatch reply) =>
      registry.Decided heard registration.number (.ok ()) [(registration.handler, reply)]
  | some _ => registry.Decided heard registration.number (.error .closed) []

/-- The first operation on the request settles what becomes of its registration. -/
theorem Sound.became_of_aimed (sound : registry.Sound heard) {registration : Registration}
    (operation : Operation)
    (found : registry.find? operation.request = some registration) :
    (registry.perform operation).1.Became (heard.extend (registry.perform operation).2)
      operation.request registration (some operation) := by
  cases operation with
  | dispatch reply => exact (sound.dispatch_answered reply registration found).decided
  | register request handler =>
      exact sound.cut_of_not_foreign request registration found _ (fun foreign => foreign rfl)
  | forget request =>
      exact sound.cut_of_not_foreign request registration found _ (fun foreign => foreign rfl)

private theorem Became.later {request : MessageId} {registration : Registration}
    {operation : Operation}
    (became : registry.Became heard request registration (some operation))
    (sound : registry.Sound heard) (later : List Operation) :
    (performAll later registry).1.Became (heard.extend (performAll later registry).2) request
      registration (some operation) := by
  cases operation <;> exact (leads_performAll registry later).decided sound became

private theorem Sound.became (sound : registry.Sound heard) {request : MessageId}
    {registration : Registration} (found : registry.find? request = some registration)
    (later : List Operation) :
    (performAll later registry).1.Became (heard.extend (performAll later registry).2) request
      registration (next? request later) := by
  induction later generalizing registry heard with
  | nil => exact found
  | cons operation rest ih =>
      have whole : heard.extend (performAll (operation :: rest) registry).2 =
          (heard.extend (registry.perform operation).2).extend
            (performAll rest (registry.perform operation).1).2 :=
        heard.extend_append _ _
      rw [whole, next?_cons]
      by_cases aimed : operation.request = request
      · subst aimed
        rw [if_pos rfl]
        exact (sound.became_of_aimed operation found).later (sound.perform operation) rest
      · rw [if_neg aimed]
        apply ih (sound.perform operation)
        exact (registry.find?_perform_of_ne operation request (Ne.symm aimed)).trans found

/-- A call on a registry is answered by the latest operation on its request before it, and what
becomes of a registration is settled by the next one after it. If that is a reply, the callback runs
once, on this reply, and the gate is open. If it is anything else, the callback never runs, and the
gate is closed. If there is none, the registration is still in force. -/
theorem performAll_history (earlier : List Operation) :
    let registry := (performAll earlier {}).1
    (∀ reply, (registry.dispatch reply).2.1 = registered reply.request earlier) ∧
      (∀ request, (registry.forget request).2 = registered request earlier) ∧
      registry.size =
        ((earlier.map Operation.request).toFinset.filter (registered · earlier = true)).card ∧
      ∀ request handler later,
        let (final, notices) := performAll (earlier ++ .register request handler :: later) {}
        let number := (registry.register request handler).2
        let told := Notice.deliveries number notices
        let gate := final.gates number
        number = earlier.countP Operation.registers ∧
          match next? request later with
          | none =>
              told = [] ∧ gate.poll = none ∧ final.find? request = some ⟨number, handler⟩
          | some (.dispatch reply) =>
              told = [(handler, reply)] ∧ gate.isOpen = true ∧ gate.poll = some (.ok ())
          | some _ =>
              told = [] ∧ gate.isOpen = false ∧ gate.poll = some (.error .closed) := by
  intro registry
  refine ⟨?_, ?_, size_performAll earlier, ?_⟩
  · intro reply
    rw [dispatch_answer, isSome_find?_performAll]
  · intro request
    rw [forget_answer, isSome_find?_performAll]
  · intro request handler later
    have sound := (leads_performAll {} earlier).sound Sound.initial
    obtain ⟨registering, found⟩ := sound.register request handler
    have became := registering.became found later
    have after := (leads_performAll (registry.register request handler).1 later).sound registering
    have heard : ∀ number,
        Notice.deliveries number
            ((performAll earlier {}).2 ++
              (performAll (.register request handler :: later) registry).2) =
          (Record.extend (fun _ => []) (performAll earlier {}).2).extend
            (performAll later (registry.register request handler).1).2 number :=
      fun _ => Notice.deliveries_append _ _ _
    rw [performAll_append]
    dsimp only
    refine ⟨issued_performAll earlier, ?_⟩
    rw [heard]
    cases first : next? request later with
    | none =>
        rw [first] at became
        exact ⟨after.unheard request _ became, after.poll_of_found became, became⟩
    | some operation =>
        rw [first] at became
        cases operation with
        | dispatch reply =>
            have opened := (Gate.poll_eq_ok_iff _ _).mp became.polled
            exact ⟨became.told, congrArg Option.isSome opened, became.polled⟩
        | _ =>
            have empty := ((Gate.poll_eq_error_iff _ _).mp became.polled).1
            exact ⟨became.told, congrArg Option.isSome empty, became.polled⟩

end Quorate.Messaging.Registry
