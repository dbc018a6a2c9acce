import Quorate.Proofs.Messaging.Pledge

/-!
When an exchange over the network within one process ends, in runs that keep time. A request ends
when its reply comes or when its own time is up, whichever is first; everything else ends where it
begins. No other exchange can make a difference to that.
-/

namespace Quorate.Messaging

open Registry

variable {ι : Type}

namespace Exchange

variable {exchange : Exchange} {network : Network}

private theorem openWith_promises {target : Peer} {endpoint : Endpoint}
    (takes : network.taker? exchange.message = some (target, endpoint)) :
    Network.Promises (exchange.enroll network).1 exchange.message target endpoint
      ((exchange.enroll network).1.submit exchange.message) := by
  rw [← exchange.taker?_enroll] at takes
  obtain ⟨submitted, accepting, found⟩ := Network.taker?_eq_some takes
  rw [submitted]
  exact Network.deliver_promises accepting found

private theorem mem_requests_enroll (networked : exchange.carrier = .network)
    (request : exchange.message.expectsResponse = true) :
    exchange.message.id ∈ (exchange.enroll network).1.registry.requests := by
  rw [enroll_network networked, if_pos request]
  unfold requests
  rw [pending_perform]
  exact List.mem_cons_self

/-- How a request that a peer takes begins: it is answered at once, or has no time to wait, or waits
for its reply. -/
inductive Begins (exchange : Exchange) (now : Nat) (target : Peer) (endpoint : Endpoint)
    (step : Step) : Prop where
  | answered (immediate : endpoint.delay.nanos = 0)
      (answers : (endpoint.reply? target exchange.message).isSome = true)
      (ended : step.progress = .ended (.ok ()))
  | expired
      (unanswered : ¬(endpoint.delay.nanos = 0 ∧
        (endpoint.reply? target exchange.message).isSome = true))
      (late : exchange.timeout.ticks = 0)
      (ended : step.progress = .ended (.error (.timeout exchange.timeout)))
  | waits
      (unanswered : ¬(endpoint.delay.nanos = 0 ∧
        (endpoint.reply? target exchange.message).isSome = true))
      (number : Nat) (waiting : step.progress = .waiting number (now + exchange.timeout.ticks))
      (standing : exchange.message.id ∈ step.network.registry.requests)

private theorem follow_begins (networked : exchange.carrier = .network)
    (request : exchange.message.expectsResponse = true) {heard : Record}
    (sound : network.registry.Sound heard) (now : Nat) {target : Peer} {endpoint : Endpoint}
    (takes : network.taker? exchange.message = some (target, endpoint)) :
    exchange.Begins now target endpoint
      (exchange.follow (exchange.openWith Network.submit network) now) := by
  let opening := exchange.openWith Network.submit network
  have standing : exchange.message.id ∈ opening.network.registry.requests ↔ _ :=
    (openWith_promises takes).standing.trans (and_iff_right (mem_requests_enroll networked request))
  have polled : (opening.network.registry.gates network.registry.issued).poll =
      if exchange.message.id ∈ opening.network.registry.requests then none
      else some (.ok ()) := openWith_poll networked request sound
  have unanswered : (opening.network.registry.gates network.registry.issued).poll = none →
      exchange.message.id ∈ opening.network.registry.requests := by
    intro shut
    by_contra gone
    rw [if_neg gone, shut] at polled
    cases polled
  obtain ⟨registered, _leads⟩ := exchange.openWith_request networked request .loopback network
  cases exchange.proceed_accepted networked opening network.registry.issued now registered
      (by rw [exchange.taken_openWith, takes]; rfl) with
  | opened opened ends =>
      have gone : exchange.message.id ∉ opening.network.registry.requests := by
        intro present
        rw [if_pos present, opened] at polled
        cases polled
      obtain ⟨immediate, answers⟩ := not_not.mp (mt standing.mpr gone)
      exact .answered immediate answers ends.ended
  | closed closed ends =>
      rw [closed] at polled
      split at polled <;> cases polled
  | expired shut late ends =>
      refine .expired (standing.mp (unanswered shut)) ?_ ends.ended
      omega
  | shut shut early stays =>
      refine .waits (standing.mp (unanswered shut)) _ stays.stays ?_
      have same : (exchange.follow opening now).network.registry = opening.network.registry :=
        stays.leads.1
      rw [same]
      exact unanswered shut

end Exchange

namespace Traffic

variable [DecidableEq ι] (exchanges : ι → Exchange)

/-! ### The start -/

private theorem start_of_idle {traffic : Traffic ι} {index : ι}
    (idle : (traffic.courses index).stage = .idle) :
    traffic.start exchanges index .loopback =
      traffic.take index
        { traffic.courses index with
          started := traffic.clock
          accepted := some (traffic.network.taker? (exchanges index).message).isSome }
        ((exchanges index).follow ((exchanges index).openWith Network.submit traffic.network)
          traffic.clock) := by
  rw [← (exchanges index).taken_openWith]
  unfold start
  rw [idle]
  rfl

private theorem start_stage {traffic : Traffic ι} {index : ι}
    (idle : (traffic.courses index).stage = .idle) :
    ((traffic.start exchanges index .loopback).courses index).stage =
      .active ((exchanges index).follow
        ((exchanges index).openWith Network.submit traffic.network) traffic.clock).progress := by
  rw [start_of_idle exchanges idle, take_stage]

private theorem delivered_start {traffic : Traffic ι} {index : ι}
    (idle : (traffic.courses index).stage = .idle) :
    (traffic.start exchanges index .loopback).network.delivered =
      traffic.network.delivered ++
        if (traffic.network.taker? (exchanges index).message).isSome then
          [(exchanges index).message.id]
        else [] := by
  rw [start_of_idle exchanges idle]
  exact (exchanges index).delivered_follow traffic.network traffic.clock

private theorem start_oneWay {traffic : Traffic ι} {index : ι}
    (idle : (traffic.courses index).stage = .idle)
    (oneWay : (exchanges index).message.expectsResponse = false)
    (takes : (traffic.network.taker? (exchanges index).message).isSome = true) :
    (traffic.start exchanges index .loopback).errands = traffic.errands ∧
      (traffic.start exchanges index .loopback).network.registry = traffic.network.registry := by
  obtain ⟨network, errand⟩ := (exchanges index).follow_oneWay oneWay takes traffic.clock
  rw [start_of_idle exchanges idle]
  unfold take
  dsimp only
  rw [errand, network]
  exact ⟨List.append_nil _, rfl⟩

section Start

variable (networked : ∀ index, (exchanges index).carrier = .network)
variable {traffic : Traffic ι} {index : ι} (idle : (traffic.courses index).stage = .idle)

include networked idle

private theorem start_ended (resolved : (exchanges index).message.expectsResponse = false ∨
      traffic.network.taker? (exchanges index).message = none) :
    ((traffic.start exchanges index .loopback).courses index).stage =
      .active (.ended
        (if (traffic.network.taker? (exchanges index).message).isSome then .ok ()
        else .error .rejected)) := by
  rw [start_stage exchanges idle, ← (exchanges index).taken_openWith]
  refine congrArg Exchange.Stage.active ?_
  change ((exchanges index).proceed _ _).progress = _
  cases expects : (exchanges index).message.expectsResponse with
  | false =>
      obtain ⟨bare, _leads⟩ :=
        (exchanges index).openWith_oneWay expects .loopback traffic.network
      exact ((exchanges index).proceed_oneWay _ _ bare).stays
  | true =>
      have untaken := resolved.resolve_left (by rw [expects]; exact Bool.noConfusion)
      have refused : ((exchanges index).openWith Network.submit
          traffic.network).submission.taken = false := by
        rw [(exchanges index).taken_openWith, untaken]
        rfl
      obtain ⟨registered, _leads⟩ :=
        (exchanges index).openWith_request (networked index) expects .loopback traffic.network
      rw [refused]
      exact ((exchanges index).proceed_refused (networked index) _ _ _ registered refused).ended

section Promise

variable (apart : ∀ left right, (exchanges left).message.id = (exchanges right).message.id →
    left = right)
  (attributed : Attributed exchanges traffic) {target : Peer} {endpoint : Endpoint}
  (takes : traffic.network.taker? (exchanges index).message = some (target, endpoint))

include apart attributed takes

private theorem owed_start :
    (traffic.start exchanges index .loopback).owed exchanges index =
      if endpoint.delay.nanos ≠ 0 ∧
          (endpoint.reply? target (exchanges index).message).isSome = true then
        [traffic.clock + endpoint.delay.ticks]
      else [] := by
  obtain ⟨errand, accepted, delays⟩ := (Exchange.openWith_promises takes).owed
  have made := (exchanges index).follow_errand
    ((exchanges index).openWith Network.submit traffic.network) traffic.clock accepted
  have own : ∀ owed ∈ errand.toList,
      owed.repliesTo (exchanges index).message.id = owed.replies := by
    intro owed among
    have message := (Exchange.follow_confined (networked index) traffic.network
      traffic.clock).2 owed (made.trans (Option.mem_toList.mp among))
    unfold Errand.repliesTo
    rw [message, decide_eq_true rfl, Bool.true_and]
  have due := congrArg (List.map fun delay => traffic.clock + delay.ticks) delays
  rw [List.map_map] at due
  rw [start_of_idle exchanges idle, owed_take, attributed.owed_eq_nil exchanges apart idle,
    List.nil_append, made, List.filter_congr own]
  refine due.trans ?_
  split <;> rfl

private theorem start_pledged (consistent : Consistent exchanges traffic)
    (request : (exchanges index).message.expectsResponse = true) :
    Pledged exchanges index (traffic.clock + (exchanges index).timeout.ticks)
      ((endpoint.reply? target (exchanges index).message).map fun _ =>
        traffic.clock + endpoint.delay.ticks)
      (traffic.start exchanges index .loopback) := by
  have owed := owed_start exchanges networked idle apart attributed takes
  have clock : (traffic.start exchanges index .loopback).clock = traffic.clock :=
    clock_step exchanges traffic (.start index .loopback)
  have stage := start_stage exchanges idle
  cases Exchange.follow_begins (networked index) request consistent.sound traffic.clock takes with
  | answered immediate answers ended =>
      obtain ⟨reply, given⟩ := Option.isSome_iff_exists.mp answers
      have instant : endpoint.delay.ticks = 0 := by
        unfold Duration.ticks
        rw [immediate]
      refine .received (stage.trans (congrArg _ ended)) traffic.clock ?_ ?_ ?_
      · rw [given, Option.map_some, instant, Nat.add_zero]
      · exact Nat.le_of_eq clock.symm
      · exact Nat.le_add_right _ _
  | expired unanswered late ended =>
      refine .expired (stage.trans (congrArg _ ended)) ?_ ?_
      · rw [clock, late, Nat.add_zero]
      · intro time promised
        obtain ⟨_reply, _given, rfl⟩ := Option.map_eq_some_iff.mp promised
        rw [late, Nat.add_zero]
        exact Nat.le_add_right _ _
  | waits unanswered number waiting standing =>
      refine .unanswered ⟨number, stage.trans (congrArg _ waiting)⟩ ?_ ?_
      · rw [start_of_idle exchanges idle]
        exact standing
      · rw [owed]
        cases replies : endpoint.reply? target (exchanges index).message with
        | none => simp
        | some reply =>
            rw [replies] at unanswered
            have delayed : endpoint.delay.nanos ≠ 0 := fun immediate =>
              unanswered ⟨immediate, rfl⟩
            simp [delayed]

end Promise

private theorem start_answered {target : Peer} {endpoint : Endpoint}
    (takes : traffic.network.taker? (exchanges index).message = some (target, endpoint))
    (consistent : Consistent exchanges traffic)
    (request : (exchanges index).message.expectsResponse = true)
    (immediate : endpoint.delay.nanos = 0)
    (answers : (endpoint.reply? target (exchanges index).message).isSome = true) :
    ((traffic.start exchanges index .loopback).courses index).stage =
      .active (.ended (.ok ())) := by
  rw [start_stage exchanges idle]
  cases Exchange.follow_begins (networked index) request consistent.sound traffic.clock takes with
  | answered immediate answers ended => exact congrArg _ ended
  | expired unanswered late ended => exact absurd ⟨immediate, answers⟩ unanswered
  | waits unanswered number waiting standing => exact absurd ⟨immediate, answers⟩ unanswered

end Start

/-! ### The end -/

/-- The exchange waits, no later than that time, or has ended with that result, no earlier. -/
def WaitsUntil (traffic : Traffic ι) (index : ι) (due : Nat) (result : Except SendFailure Unit) :
    Prop :=
  (traffic.courses index).Waits ∧ traffic.clock ≤ due ∨
    (traffic.courses index).stage = .active (.ended result) ∧ due ≤ traffic.clock

/-- Left to the network, the exchange ends at that time with that result: whatever else happens, it
waits before and has ended after, and as long as it waits that time can come. -/
def EndsAt (traffic : Traffic ι) (index : ι) (due : Nat) (result : Except SendFailure Unit) :
    Prop :=
  ∀ later, Timely exchanges later traffic →
    (∀ move, move ∈ later → move.Spares exchanges index) →
      let reached := traffic.run exchanges later
      reached.WaitsUntil index due result ∧
        ((reached.courses index).Waits → ∃ further, (∀ move, move ∈ further → move.Passive) ∧
          Timely exchanges further reached ∧
          ((reached.run exchanges further).courses index).stage = .active (.ended result) ∧
          (reached.run exchanges further).clock = due)

private theorem EndsAt.of_timely {traffic : Traffic ι} {index : ι} {due : Nat}
    {result : Except SendFailure Unit}
    (splits : ∀ later, Timely exchanges later traffic →
      (∀ move, move ∈ later → move.Spares exchanges index) →
        (traffic.run exchanges later).WaitsUntil index due result)
    (settles : ∀ later, ((traffic.run exchanges later).courses index).Waits →
      Settles exchanges (traffic.run exchanges later) index) :
    EndsAt exchanges traffic index due result := by
  intro later timely spares reached
  refine ⟨splits later timely spares, ?_⟩
  intro waits
  obtain ⟨further, passive, keeps, still, last⟩ := settles later waits
  have going : ∀ more : List (Move ι), (∀ move, move ∈ more → move.Passive) →
      Timely exchanges more reached → (reached.run exchanges more).WaitsUntil index due result := by
    intro more passive keeps
    have split := splits (later ++ more)
      ((timely_append exchanges later more traffic).mpr ⟨timely, keeps⟩) fun move present =>
        (List.mem_append.mp present).elim (spares move) fun after =>
          (passive move after).spares exchanges index
    rw [run_append] at split
    exact split
  -- The last look finds the clock where the look before it has left it.
  have early := (going further (fun move present => passive move (List.mem_append_left _ present))
    ((timely_append exchanges further _ reached).mp keeps).1).resolve_right fun ended =>
      Course.Over.not_waits (.inl ⟨result, ended.1⟩) still
  obtain ⟨ended, late⟩ := (going _ passive keeps).resolve_left fun waiting => last waiting.1
  have clock : (reached.run exchanges (further ++ [.look index])).clock =
      (reached.run exchanges further).clock := by
    rw [run_append]
    exact clock_step exchanges _ (.look index)
  exact ⟨further ++ [.look index], passive, keeps, ended,
    Nat.le_antisymm (clock.trans_le early.2) late⟩

section Pledged

variable {exchanges} {traffic : Traffic ι} {index : ι} {deadline : Nat}

omit [DecidableEq ι] in
/-- Until a reply that comes before the time is up, the exchange waits; from then on it has it. -/
theorem Pledged.replied {due : Nat} (pledged : Pledged exchanges index deadline (some due) traffic)
    (punctual : traffic.Punctual) (early : due < deadline) :
    traffic.WaitsUntil index due (.ok ()) := by
  cases pledged with
  | unanswered waits standing owed =>
      obtain ⟨number, waits⟩ := waits
      have among : due ∈ traffic.owed exchanges index := by
        rw [owed]
        exact List.mem_singleton_self due
      obtain ⟨errand, present, _replies⟩ := (mem_owed_iff exchanges traffic index due).mp among
      exact .inl ⟨⟨number, deadline, waits⟩, punctual.owed _ present⟩
  | answered waits gone now =>
      obtain ⟨number, waits⟩ := waits
      exact .inl ⟨⟨number, deadline, waits⟩, Nat.le_of_eq (Option.some.inj now).symm⟩
  | received ended time promised given timely =>
      cases promised
      exact .inr ⟨ended, given⟩
  | expired ended late unkept => exact absurd (unkept due rfl) (Nat.not_le_of_lt early)

omit [DecidableEq ι] in
/-- Without a reply, or if it comes too late, the exchange waits until its time is up. -/
theorem Pledged.timedOut {pledge : Option Nat}
    (pledged : Pledged exchanges index deadline pledge traffic) (punctual : traffic.Punctual)
    (late : ∀ time, pledge = some time → deadline < time) :
    traffic.WaitsUntil index deadline (.error (.timeout (exchanges index).timeout)) := by
  cases pledged with
  | unanswered waits standing owed =>
      obtain ⟨number, waits⟩ := waits
      exact .inl ⟨⟨number, deadline, waits⟩, punctual.waits index number deadline waits⟩
  | answered waits gone now =>
      obtain ⟨number, waits⟩ := waits
      exact .inl ⟨⟨number, deadline, waits⟩, punctual.waits index number deadline waits⟩
  | received ended time promised given early =>
      exact absurd early (Nat.not_le_of_lt (late time promised))
  | expired ended past unkept => exact .inr ⟨ended, past⟩

section Endings

variable (networked : ∀ index, (exchanges index).carrier = .network)
  (apart : ∀ left right, (exchanges left).message.id = (exchanges right).message.id →
    left = right)
  (orderly : Orderly exchanges traffic) (punctual : traffic.Punctual)

include networked apart orderly punctual

private theorem Pledged.endsAt {pledge : Option Nat}
    (pledged : Pledged exchanges index deadline pledge traffic) {moves : List (Move ι)}
    (reached : traffic = Traffic.run exchanges moves {}) {due : Nat}
    {result : Except SendFailure Unit}
    (splits : ∀ {later : Traffic ι}, Pledged exchanges index deadline pledge later →
      later.Punctual → later.WaitsUntil index due result) :
    EndsAt exchanges traffic index due result := by
  refine .of_timely exchanges ?_ ?_
  · intro later timely spares
    exact splits (pledged.run exchanges networked apart orderly punctual later timely spares)
      (punctual.run exchanges networked later timely)
  · intro later waits
    obtain ⟨load, bounded⟩ := exists_bounded_run exchanges networked (moves ++ later)
    rw [run_append, ← reached] at bounded
    exact bounded.settles exchanges networked index load waits

omit [DecidableEq ι] networked apart in
private theorem Punctual.clock_le (other : ι) (waits : (traffic.courses other).Waits) :
    traffic.clock ≤ (traffic.courses other).started + (exchanges other).timeout.ticks := by
  obtain ⟨number, deadline, waiting⟩ := waits
  obtain ⟨_request, _live, due, _accepted, _registrations⟩ :=
    (orderly.consistent.standing other).of_waiting waiting
  rw [← due]
  exact punctual.waits other number deadline waiting

end Endings

end Pledged

/-- When an exchange ends over the network within one process, with any others going on at the same
time, in runs that keep time. A request that a peer takes ends at once if the peer answers without
delay, however short its time; it ends with the reply at the time of the reply, if that is before
its own time is up, and with a timeout when it is up, if there is none or it is later. A one-way
message ends at once, whatever the peer would have answered, and so does one that nobody takes,
which is not recorded. Nobody waits longer than its time. -/
theorem run_timing (networked : ∀ index, (exchanges index).carrier = .network)
    (apart : ∀ left right, (exchanges left).message.id = (exchanges right).message.id →
      left = right)
    (moves : List (Move ι)) (timely : Timely exchanges moves {}) (index : ι)
    (idle : ((run exchanges moves {}).courses index).stage = .idle) :
    let before : Traffic ι := run exchanges moves {}
    let sent := before.start exchanges index .loopback
    let exchange := exchanges index
    let message := exchange.message
    let Ended (result : Except SendFailure Unit) :=
      (sent.courses index).stage = .active (.ended result)
    sent.clock = before.clock ∧
      (∀ target endpoint, before.network.taker? message = some (target, endpoint) →
        let reply? := endpoint.reply? target message
        sent.network.delivered = before.network.delivered ++ [message.id] ∧
          (message.expectsResponse = true →
            (reply?.isSome = true → endpoint.delay.nanos = 0 → Ended (.ok ())) ∧
              (reply?.isSome = true → endpoint.delay.nanos ≠ 0 →
                endpoint.delay.ticks < exchange.timeout.ticks →
                  EndsAt exchanges sent index (before.clock + endpoint.delay.ticks) (.ok ())) ∧
              (reply? = none ∨ exchange.timeout.ticks < endpoint.delay.ticks →
                EndsAt exchanges sent index (before.clock + exchange.timeout.ticks)
                  (.error (.timeout exchange.timeout)))) ∧
          (message.expectsResponse = false →
            Ended (.ok ()) ∧ sent.errands = before.errands ∧
              sent.network.registry = before.network.registry ∧
              ∀ responders, (before.network.withResponders responders).submit message =
                ((before.network.submit message).1.withResponders responders,
                  (before.network.submit message).2))) ∧
      (before.network.taker? message = none →
        Ended (.error .rejected) ∧ sent.network.delivered = before.network.delivered) ∧
      (before.network.taker? message = none ↔
        before.network.rejecting = true ∨
          (∃ target, message.route = .direct target ∧ target ∉ before.network.peers) ∨
          ((∃ key, message.route = .routed key) ∧ before.network.peers = [])) ∧
      ∀ later, Timely exchanges later sent → ∀ other,
        let reached := sent.run exchanges later
        (reached.courses other).Waits →
          reached.clock ≤ (reached.courses other).started + (exchanges other).timeout.ticks := by
  intro before sent exchange message Ended
  have initial : Orderly exchanges ({} : Traffic ι) := ⟨.initial exchanges, .initial exchanges⟩
  have orderly : Orderly exchanges before := initial.run exchanges networked apart moves
  have punctual : before.Punctual := Punctual.initial.run exchanges networked moves timely
  have attributed : Attributed exchanges before :=
    (Attributed.initial exchanges).run exchanges networked moves timely
  have begins : (Move.start index .loopback).Timely before := rfl
  have laterOrderly : Orderly exchanges sent :=
    orderly.run exchanges networked apart [.start index .loopback]
  have laterPunctual : sent.Punctual := punctual.step exchanges networked _ begins
  have reached : sent = run exchanges (moves ++ [.start index .loopback]) {} :=
    (run_append exchanges moves [.start index .loopback] {}).symm
  have recorded := delivered_start exchanges idle
  refine ⟨clock_step exchanges before (.start index .loopback), ?_, ?_,
    Network.taker?_eq_none_iff, ?_⟩
  · intro target endpoint takes reply?
    rw [takes] at recorded
    refine ⟨recorded, ?_, ?_⟩
    · intro request
      have pledged := start_pledged exchanges networked idle apart attributed takes
        orderly.consistent request
      refine ⟨?_, ?_, ?_⟩
      · intro answers immediate
        exact start_answered exchanges networked idle takes orderly.consistent request immediate
          answers
      · intro answers _delayed early
        obtain ⟨reply, given⟩ := Option.isSome_iff_exists.mp answers
        change endpoint.reply? target (exchanges index).message = some reply at given
        rw [given] at pledged
        exact pledged.endsAt networked apart laterOrderly laterPunctual reached
          fun kept onTime => kept.replied onTime (Nat.add_lt_add_left early _)
      · intro late
        refine pledged.endsAt networked apart laterOrderly laterPunctual reached
          fun kept onTime => kept.timedOut onTime ?_
        intro time promised
        obtain ⟨reply, given, rfl⟩ := Option.map_eq_some_iff.mp promised
        rcases late with silent | late
        · have impossible := silent.symm.trans given
          cases impossible
        · exact Nat.add_lt_add_left late _
    · intro oneWay
      have taken : (before.network.taker? message).isSome = true := by
        rw [takes]
        rfl
      obtain ⟨unowed, unregistered⟩ := start_oneWay exchanges idle oneWay taken
      have ended := start_ended exchanges networked idle (.inl oneWay)
      rw [takes] at ended
      exact ⟨ended, unowed, unregistered,
        fun responders => before.network.submit_withResponders oneWay responders⟩
  · intro untaken
    rw [untaken] at recorded
    have ended := start_ended exchanges networked idle (.inr untaken)
    rw [untaken] at ended
    exact ⟨ended, recorded.trans (List.append_nil _)⟩
  · intro later keeps other reached waits
    exact (laterPunctual.run exchanges networked later keeps).clock_le
      (laterOrderly.run exchanges networked apart later) other waits

/-- A request to a peer that takes three milliseconds to answer is on its way for two. -/
def underway : List (Move Bool) :=
  [.reconfigure [(⟨"b"⟩, { responder := some fun _ => some [], delay := .ofMillis 3 })] false,
    .start false .loopback, .elapse 2]

theorem run_timing_underway :
    (∀ index, (twoRequests index).carrier = .network) ∧
      (∀ left right, (twoRequests left).message.id = (twoRequests right).message.id →
        left = right) ∧
      Timely twoRequests underway {} ∧
      ((run twoRequests underway {}).courses true).stage = .idle ∧
      (let sent := (run twoRequests underway {}).start twoRequests true .loopback
      (sent.courses true).Waits ∧ EndsAt twoRequests sent true 5 (.ok ())) := by
  have networked : ∀ index, (twoRequests index).carrier = .network := fun _ => rfl
  have apart : ∀ left right, (twoRequests left).message.id = (twoRequests right).message.id →
      left = right := by decide
  have permits : (run twoRequests (underway.take 2) {}).Permits 2 := by
    constructor
    case owed =>
      intro entry present
      obtain rfl := List.mem_singleton.mp present
      decide
    case waits =>
      intro index number deadline waits
      cases index with
      | true => cases waits
      | false =>
          cases waits
          decide
  have timely : Timely twoRequests underway {} := ⟨trivial, rfl, permits, trivial⟩
  have idle : ((run twoRequests underway {}).courses true).stage = .idle := rfl
  obtain ⟨_clock, taken, _untaken, _reasons, _waits⟩ :=
    run_timing twoRequests networked apart underway timely true idle
  obtain ⟨_recorded, answered, _oneWay⟩ := taken ⟨"b"⟩ _ rfl
  obtain ⟨_atOnce, later, _timedOut⟩ := answered rfl
  refine ⟨networked, apart, timely, idle, ⟨1, 7, rfl⟩, ?_⟩
  exact later rfl (by decide) (by decide)

end Traffic
end Quorate.Messaging
