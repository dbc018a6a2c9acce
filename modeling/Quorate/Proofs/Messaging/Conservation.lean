import Quorate.Proofs.Messaging.Taking
import Quorate.Proofs.Write.Accounts
import Quorate.Proofs.Write.Independence

/-!
The accounts of all exchanges that count on one board. What an exchange has counted can be read off
how far it has got, so the board is the sum over all exchanges, at every point of every run. A wait
that is dropped counts nothing more, and the message it was for stays counted as sent.
-/

namespace Quorate.Messaging

/-! ### What an exchange has counted -/

namespace Course

def result? (course : Course) : Option (Except SendFailure Unit) :=
  match course.stage with
  | .active (.ended result) => some result
  | _ => none

def timedOut (course : Course) : Bool :=
  match course.stage with
  | .active (.ended (.error (.timeout _))) => true
  | _ => false

def waiting (course : Course) : Bool :=
  match course.stage with
  | .active (.waiting _ _) => true
  | _ => false

def cancelled (course : Course) : Bool :=
  match course.stage with
  | .cancelled => true
  | _ => false

/-- What the transport said fits how far the exchange has got: only a request that was sent waits or
ends otherwise than by what the transport said. -/
def Booked (exchange : Exchange) (course : Course) : Prop :=
  match course.stage with
  | .idle => course.accepted = none
  | .cancelled =>
      course.accepted = none ∨
        course.accepted = some true ∧ exchange.message.expectsResponse = true
  | .active (.waiting _ _) =>
      course.accepted = some true ∧ exchange.message.expectsResponse = true
  | .active (.ended (.ok _)) => course.accepted = some true
  | .active (.ended (.error .rejected)) => course.accepted = some false
  | .active (.ended (.error _)) =>
      course.accepted = some true ∧ exchange.message.expectsResponse = true

def posted (exchange : Exchange) (course : Course) : Metrics.Counter → Nat
  | .messagesSent => if course.accepted = some true then 1 else 0
  | .messagesRejected => if course.accepted = some false then 1 else 0
  | .responsesReceived =>
      if exchange.message.expectsResponse && course.result? = some (.ok ()) then 1 else 0
  | .responseTimeouts => if course.timedOut then 1 else 0
  | _ => 0

end Course

namespace Exchange

variable (exchange : Exchange)

private theorem look_posts (request : exchange.message.expectsResponse = true) (network : Network)
    (registration deadline now started : Nat) (registrations : List Nat) :
    let step := exchange.look network registration deadline now
    let course : Course := ⟨.active step.progress, started, some true, registrations⟩
    course.Booked exchange ∧
      ∀ counter, course.posted exchange counter =
        Notice.tally counter step.notices + if counter = .messagesSent then 1 else 0 := by
  intro step course
  have looked : step = exchange.look network registration deadline now := rfl
  unfold look at looked
  dsimp only at looked
  split at looked
  · refine ⟨?_, ?_⟩
    · simp only [course, looked, Course.Booked, request, and_self]
    · intro counter
      cases counter <;> simp [course, looked, Course.posted, Course.result?, Course.timedOut,
        Notice.tally]
  · refine ⟨?_, ?_⟩
    · simp only [course, looked, finish, Course.Booked]
    · intro counter
      cases counter <;> simp [course, looked, finish, Course.posted, Course.result?,
        Course.timedOut, Notice.tally, Notice.counts, request]
  · refine ⟨?_, ?_⟩
    · simp only [course, looked, finish, Course.Booked, request, and_self]
    · intro counter
      cases counter <;> simp [course, looked, finish, Course.posted, Course.result?,
        Course.timedOut, Notice.tally, Notice.counts]
  · refine ⟨?_, ?_⟩
    · simp only [course, looked, finish, Course.Booked, request, and_self]
    · intro counter
      cases counter <;> simp [course, looked, finish, Course.posted, Course.result?,
        Course.timedOut, Notice.tally, Notice.counts]

end Exchange

/-! ### What the network counts -/

private theorem Registry.tally_dispatch (registry : Registry) (reply : Reply)
    (counter : Metrics.Counter) :
    Notice.tally counter (registry.dispatch reply).2.2 = 0 := by
  unfold dispatch
  cases registry.find? reply.request <;> rfl

namespace Network

private theorem tally_answer (network : Network) (errand : Errand) (counter : Metrics.Counter) :
    Notice.tally counter (network.answer errand).2 = 0 := by
  unfold answer
  cases errand.responder errand.message with
  | none => rfl
  | some payload => exact network.registry.tally_dispatch _ counter

private theorem tally_deliver (network : Network) (target : Peer) (message : Message)
    (counter : Metrics.Counter) :
    Notice.tally counter (network.deliver target message).2.2 = 0 := by
  unfold deliver
  split
  · rfl
  · split
    · rfl
    · dsimp only
      split
      · rfl
      · next errand _owed =>
          split
          · exact tally_answer _ errand counter
          · rfl

private theorem tally_submit (network : Network) (message : Message) (counter : Metrics.Counter) :
    Notice.tally counter (network.submit message).2.2 = 0 := by
  unfold submit sendDirect sendRouted
  split
  · split
    · exact network.tally_deliver _ message counter
    · rfl
  · split
    · rfl
    · split
      · exact network.tally_deliver _ message counter
      · rfl

end Network

namespace Exchange

variable (exchange : Exchange)

private theorem afterSending_posts (oneWay : exchange.message.expectsResponse = false)
    (network : Network) (submission : Submission) (started : Nat) (registrations : List Nat) :
    let step := exchange.afterSending network submission
    let course : Course :=
      ⟨.active step.progress, started, some submission.taken, registrations⟩
    course.Booked exchange ∧
      ∀ counter, course.posted exchange counter = Notice.tally counter step.notices := by
  cases submission with
  | refused =>
      refine ⟨rfl, ?_⟩
      intro counter
      cases counter <;> simp [afterSending, Submission.taken, Course.posted, Course.result?,
        Course.timedOut, Notice.tally, Notice.counts]
  | accepted errand =>
      refine ⟨rfl, ?_⟩
      intro counter
      cases counter <;> simp [afterSending, Submission.taken, Course.posted, Course.result?,
        Course.timedOut, Notice.tally, Notice.counts, oneWay]

private theorem afterRequest_posts (request : exchange.message.expectsResponse = true)
    (network : Network) (registration now : Nat) (submission : Submission) (started : Nat)
    (registrations : List Nat) :
    let step := exchange.afterRequest network registration now submission
    let course : Course :=
      ⟨.active step.progress, started, some submission.taken, registrations⟩
    course.Booked exchange ∧
      ∀ counter, course.posted exchange counter = Notice.tally counter step.notices := by
  cases submission with
  | refused =>
      refine ⟨rfl, ?_⟩
      intro counter
      cases counter <;> simp [afterRequest, finish, Submission.taken, Course.posted,
        Course.result?, Course.timedOut, Notice.tally, Notice.counts]
  | accepted errand =>
      obtain ⟨booked, tallied⟩ := exchange.look_posts request network registration
        (now + exchange.timeout.ticks) now started registrations
      refine ⟨booked, ?_⟩
      intro counter
      refine (tallied counter).trans ?_
      change _ = Notice.tally counter ([.counted .messagesSent] ++ _)
      rw [Notice.tally_append, Nat.add_comm]
      cases counter <;> rfl

private theorem proceed_posts (opening : Opening) (now started : Nat) (registrations : List Nat)
    (enrolled : opening.registration.isSome = exchange.message.expectsResponse) :
    let step := exchange.proceed opening now
    let course : Course :=
      ⟨.active step.progress, started, some opening.submission.taken, registrations⟩
    course.Booked exchange ∧
      ∀ counter, course.posted exchange counter = Notice.tally counter step.notices := by
  unfold proceed
  cases registered : opening.registration with
  | none =>
      rw [registered] at enrolled
      exact exchange.afterSending_posts enrolled.symm _ _ _ _
  | some registration =>
      rw [registered] at enrolled
      exact exchange.afterRequest_posts enrolled.symm _ _ _ _ _ _

private theorem isSome_enroll (network : Network) :
    (exchange.enroll network).2.isSome = exchange.message.expectsResponse := by
  unfold enroll
  cases exchange.message.expectsResponse <;> rfl

private theorem follow_posts (network : Network) (now started : Nat) (registrations : List Nat) :
    let opening := exchange.openWith Transport.loopback.submit network
    let step := exchange.follow opening now
    let course : Course :=
      ⟨.active step.progress, started, some opening.submission.taken, registrations⟩
    course.Booked exchange ∧
      (∀ counter, course.posted exchange counter = Notice.tally counter step.notices) ∧
      step.network.delivered.length =
        network.delivered.length + Notice.tally .messagesSent step.notices := by
  intro opening step course
  obtain ⟨booked, tallied⟩ := exchange.proceed_posts opening now started registrations
    (exchange.isSome_enroll network)
  have told : ∀ counter, course.posted exchange counter =
      Notice.tally counter step.notices := by
    intro counter
    refine (tallied counter).trans ?_
    change _ = Notice.tally counter (opening.notices ++ (exchange.proceed opening now).notices)
    rw [Notice.tally_append]
    change _ = Notice.tally counter
      ((exchange.enroll network).1.submit exchange.message).2.2 + _
    rw [Network.tally_submit, Nat.zero_add]
  refine ⟨booked, told, ?_⟩
  have delivered : step.network.delivered = _ := exchange.delivered_follow network now
  have taken : opening.submission.taken = _ := exchange.taken_openWith network
  rw [← told .messagesSent, delivered]
  change _ = _ + if some opening.submission.taken = some true then 1 else 0
  rw [taken]
  cases (network.taker? exchange.message).isSome <;> simp

end Exchange

/-! ### The books of all exchanges -/

namespace Traffic

variable {ι : Type} (exchanges : ι → Exchange)

/-- The board on which all exchanges count. How old they are is of no account, as they come to no
verdicts. -/
def board (traffic : Traffic ι) : Metrics.Board := Notice.recordAll ⟨0⟩ traffic.history {}

def told (traffic : Traffic ι) (counter : Metrics.Counter) : Nat :=
  Notice.tally counter traffic.history

private theorem counts_board (traffic : Traffic ι) (counter : Metrics.Counter) :
    traffic.board.counts counter = UInt64.ofNat (traffic.told counter) := by
  unfold board
  rw [Notice.counts_recordAll]
  exact UInt64.zero_add _

variable [Fintype ι]

/-- The books are in order: every exchange is where the transport let it go, everything counted was
counted by some exchange, and the network has taken what was counted as sent. -/
structure Kept (traffic : Traffic ι) : Prop where
  booked : ∀ index, (traffic.courses index).Booked (exchanges index)
  told : ∀ counter, traffic.told counter =
    ∑ index, (traffic.courses index).posted (exchanges index) counter
  delivered : traffic.network.delivered.length = traffic.told .messagesSent

variable {exchanges}

private theorem Kept.initial : Kept exchanges {} where
  booked _ := rfl
  told counter := by
    refine (Finset.sum_eq_zero ?_).symm
    intro index _
    cases counter <;> simp [Course.posted, Course.result?, Course.timedOut]
  delivered := rfl

private theorem Kept.still {traffic after : Traffic ι} (kept : Kept exchanges traffic)
    (courses : after.courses = traffic.courses)
    (told : ∀ counter, after.told counter = traffic.told counter)
    (delivered : after.network.delivered = traffic.network.delivered) : Kept exchanges after where
  booked index := by
    rw [courses]
    exact kept.booked index
  told counter := by
    rw [told, courses]
    exact kept.told counter
  delivered := by
    rw [delivered, told]
    exact kept.delivered

variable [DecidableEq ι]

private theorem Kept.moved {traffic after : Traffic ι} (kept : Kept exchanges traffic) (index : ι)
    (others : ∀ other, other ≠ index → after.courses other = traffic.courses other)
    (booked : (after.courses index).Booked (exchanges index)) (notices : List Notice)
    (history : after.history = traffic.history ++ notices)
    (posted : ∀ counter, (after.courses index).posted (exchanges index) counter =
      (traffic.courses index).posted (exchanges index) counter + Notice.tally counter notices)
    (delivered : after.network.delivered.length =
      traffic.network.delivered.length + Notice.tally .messagesSent notices) :
    Kept exchanges after := by
  have grown : ∀ counter, after.told counter =
      traffic.told counter + Notice.tally counter notices := by
    intro counter
    unfold Traffic.told
    rw [history, Notice.tally_append]
  constructor
  case booked =>
    intro other
    by_cases own : other = index
    · rw [own]
      exact booked
    · rw [others other own]
      exact kept.booked other
  case told =>
    intro counter
    rw [grown, kept.told]
    refine (Workload.sum_grown index _ ?_ (posted counter)).symm
    intro other different
    rw [others other different]
  case delivered => rw [delivered, grown, kept.delivered]

private theorem Kept.start {traffic : Traffic ι} (kept : Kept exchanges traffic) (index : ι) :
    Kept exchanges (traffic.start exchanges index .loopback) := by
  unfold Traffic.start
  split
  · next idle =>
      have unsent : (traffic.courses index).accepted = none := by
        have booked := kept.booked index
        unfold Course.Booked at booked
        rw [idle] at booked
        exact booked
      have none : ∀ counter, (traffic.courses index).posted (exchanges index) counter = 0 := by
        intro counter
        cases counter <;>
          simp [Course.posted, Course.result?, Course.timedOut, idle, unsent]
      obtain ⟨booked, tallied, delivered⟩ := (exchanges index).follow_posts traffic.network
        traffic.clock traffic.clock ((traffic.courses index).registrations ++ _)
      refine kept.moved index (fun _ different => if_neg different) ?_ _ rfl ?_ delivered
      · rw [take_self]
        exact booked
      · intro counter
        rw [take_self, none, Nat.zero_add]
        exact tallied counter
  · exact kept

private theorem Kept.look {traffic : Traffic ι} (kept : Kept exchanges traffic) (index : ι) :
    Kept exchanges (traffic.look exchanges index) := by
  unfold Traffic.look
  split
  · next registration deadline waits =>
      have before := kept.booked index
      unfold Course.Booked at before
      rw [waits] at before
      obtain ⟨accepted, request⟩ := before
      obtain ⟨booked, tallied⟩ := (exchanges index).look_posts request traffic.network
        registration deadline traffic.clock (traffic.courses index).started
        ((traffic.courses index).registrations ++ _)
      have unsent := tallied .messagesSent
      simp only [Course.posted, if_true, Nat.right_eq_add] at unsent
      refine kept.moved index (fun _ different => if_neg different) ?_ _ rfl ?_ ?_
      · rw [take_self, accepted]
        exact booked
      · intro counter
        rw [take_self, accepted]
        refine (tallied counter).trans ?_
        rw [Nat.add_comm]
        congr 1
        cases counter <;>
          simp [Course.posted, Course.result?, Course.timedOut, waits, accepted]
      · rw [unsent]
        exact congrArg List.length
          ((exchanges index).delivered_look traffic.network registration deadline traffic.clock)
  · exact kept

private theorem Kept.cancel {traffic : Traffic ι} (kept : Kept exchanges traffic) (index : ι) :
    Kept exchanges (traffic.cancel exchanges index) := by
  have before := kept.booked index
  unfold Course.Booked at before
  unfold Traffic.cancel
  dsimp only
  split
  · next idle =>
      rw [idle] at before
      refine kept.moved index (fun _ different => if_neg different) ?_ []
        (List.append_nil _).symm ?_ rfl
      · rw [setCourse_self]
        exact .inl before
      · intro counter
        rw [setCourse_self]
        cases counter <;>
          simp [Course.posted, Course.result?, Course.timedOut, idle, Notice.tally]
  · next registration deadline waits =>
      rw [waits] at before
      refine kept.moved index (fun _ different => if_neg different) ?_ []
        (List.append_nil _).symm ?_ ?_
      · change (((traffic.setCourse index _).courses index)).Booked _
        rw [setCourse_self]
        exact .inr before
      · intro counter
        change ((traffic.setCourse index _).courses index).posted _ counter = _
        rw [setCourse_self]
        cases counter <;>
          simp [Course.posted, Course.result?, Course.timedOut, waits, Notice.tally]
      · change ((exchanges index).cancel traffic.network).delivered.length = _
        unfold Exchange.cancel Carrier.forget
        cases (exchanges index).carrier <;> rfl
  · exact kept

private theorem Kept.step {traffic : Traffic ι} (kept : Kept exchanges traffic) (move : Move ι)
    (looped : ∀ mover transport, move = .start mover transport → transport = .loopback) :
    Kept exchanges (traffic.step exchanges move) := by
  have silent : ∀ {after : Traffic ι} (notices : List Notice),
      after.history = traffic.history ++ notices →
      (∀ counter, Notice.tally counter notices = 0) →
        ∀ counter, after.told counter = traffic.told counter := by
    intro after notices history none counter
    unfold Traffic.told
    rw [history, Notice.tally_append, none, Nat.add_zero]
  cases move with
  | start index transport =>
      obtain rfl := looped index transport rfl
      exact kept.start index
  | look index => exact kept.look index
  | cancel index => exact kept.cancel index
  | answer number =>
      change Kept exchanges (traffic.answer number)
      unfold Traffic.answer
      split
      · next due errand _owed =>
          split
          · exact kept.still rfl (silent _ rfl (traffic.network.tally_answer errand))
              (traffic.network.delivered_answer errand)
          · exact kept
      · exact kept
  | dispatch reply =>
      exact kept.still rfl (silent _ rfl (traffic.network.registry.tally_dispatch reply)) rfl
  | elapse ticks => exact kept.still rfl (fun _ => rfl) rfl
  | reconfigure endpoints rejecting => exact kept.still rfl (fun _ => rfl) rfl

private theorem Kept.run (moves : List (Move ι))
    (looped : ∀ mover transport, .start mover transport ∈ moves → transport = .loopback)
    {traffic : Traffic ι} (kept : Kept exchanges traffic) :
    Kept exchanges (traffic.run exchanges moves) := by
  induction moves generalizing traffic with
  | nil => exact kept
  | cons move rest ih =>
      apply ih
      · exact fun mover transport present => looped mover transport (List.mem_cons_of_mem _ present)
      · apply kept.step
        rintro mover transport rfl
        exact looped mover transport List.mem_cons_self

/-! ### Conservation -/

variable (exchanges) in
def number (traffic : Traffic ι) (holds : Exchange → Course → Bool) : Nat :=
  (Finset.univ.filter fun index => holds (exchanges index) (traffic.courses index)).card

omit [DecidableEq ι] in
private theorem number_eq_sum (traffic : Traffic ι) (holds : Exchange → Course → Bool) :
    traffic.number exchanges holds =
      ∑ index, if holds (exchanges index) (traffic.courses index) then 1 else 0 :=
  Finset.card_filter _ _

end Traffic

namespace Course

def interrupted (course : Course) : Bool := course.result? = some (.error .interrupted)

def sent (course : Course) : Bool := course.accepted = some true

variable {exchange : Exchange} {course : Course}

private theorem Booked.posted_messagesSent (booked : course.Booked exchange) :
    course.posted exchange .messagesSent =
      (if !exchange.message.expectsResponse && course.sent then 1 else 0) +
        course.posted exchange .responsesReceived + course.posted exchange .responseTimeouts +
        (if exchange.message.expectsResponse && course.interrupted then 1 else 0) +
        (if course.cancelled && course.sent then 1 else 0) +
        (if course.waiting then 1 else 0) := by
  obtain ⟨stage, started, accepted, registrations⟩ := course
  unfold posted result? timedOut interrupted result? cancelled waiting sent
  cases stage with
  | idle =>
      obtain rfl : accepted = none := booked
      simp
  | cancelled =>
      rcases booked with unsent | ⟨sent, request⟩
      · obtain rfl : accepted = none := unsent
        simp
      · obtain rfl : accepted = some true := sent
        simp [request]
  | active progress =>
      cases progress with
      | waiting registration deadline =>
          obtain ⟨sent, request⟩ := booked
          obtain rfl : accepted = some true := sent
          simp [request]
      | ended result =>
          cases result with
          | ok _ =>
              obtain rfl : accepted = some true := booked
              cases exchange.message.expectsResponse <;> simp
          | error failure =>
              cases failure with
              | rejected =>
                  obtain rfl : accepted = some false := booked
                  simp
              | timeout waited =>
                  obtain ⟨sent, request⟩ := booked
                  obtain rfl : accepted = some true := sent
                  simp [request]
              | interrupted =>
                  obtain ⟨sent, request⟩ := booked
                  obtain rfl : accepted = some true := sent
                  simp [request]

end Course

namespace Traffic

variable {ι : Type} [Fintype ι] [DecidableEq ι] (exchanges : ι → Exchange)

/-- At every point of every run every message that was submitted is counted as sent or rejected, and
every message sent is taken by the network; it was a one-way message, or its request has returned
with a reply, timed out or been interrupted, or was cancelled in its wait, or still waits. Replies
and timeouts are counted exactly as often as requests return with them. -/
theorem run_conserved (moves : List (Move ι))
    (looped : ∀ mover transport, .start mover transport ∈ moves → transport = .loopback) :
    let traffic : Traffic ι := run exchanges moves {}
    let number := traffic.number exchanges
    (∀ counter, traffic.board.counts counter = UInt64.ofNat (traffic.told counter)) ∧
      traffic.told .messagesSent + traffic.told .messagesRejected =
        number (fun _ course => course.accepted.isSome) ∧
      traffic.told .messagesSent = traffic.network.delivered.length ∧
      traffic.told .messagesSent =
        number (fun exchange course => !exchange.message.expectsResponse && course.sent) +
          traffic.told .responsesReceived + traffic.told .responseTimeouts +
          number (fun exchange course => exchange.message.expectsResponse && course.interrupted) +
          number (fun _ course => course.cancelled && course.sent) +
          number (fun _ course => course.waiting) ∧
      traffic.told .responsesReceived =
        number (fun exchange course =>
          exchange.message.expectsResponse && course.result? = some (.ok ())) ∧
      traffic.told .responseTimeouts = number (fun _ course => course.timedOut) := by
  intro traffic number
  have kept : Kept exchanges traffic := Kept.initial.run moves looped
  refine ⟨traffic.counts_board, ?_, kept.delivered.symm, ?_, ?_, ?_⟩
  · rw [kept.told, kept.told, ← Finset.sum_add_distrib]
    refine Eq.trans ?_ (traffic.number_eq_sum _).symm
    apply Finset.sum_congr rfl
    intro index _
    unfold Course.posted
    cases (traffic.courses index).accepted with
    | none => rfl
    | some accepted => cases accepted <;> rfl
  · simp only [number, number_eq_sum]
    rw [kept.told, kept.told, kept.told]
    simp only [← Finset.sum_add_distrib]
    exact Finset.sum_congr rfl fun index _ => (kept.booked index).posted_messagesSent
  · rw [kept.told]
    simp only [number, number_eq_sum]
    rfl
  · rw [kept.told]
    simp only [number, number_eq_sum]
    rfl

def fourMessages (index : Fin 4) : Exchange where
  message :=
    { id := ⟨index / 2 + index / 3, "m"⟩, sender := ⟨"a"⟩, route := .direct ⟨"b"⟩
      expectsResponse := index ≠ 2 }
  recipient := ⟨[]⟩
  timeout := .ofMillis 5

/-- The second request replaces the first and is cancelled; the last message is refused. -/
def mishaps : List (Move (Fin 4)) :=
  [.reconfigure [(⟨"b"⟩, {})] false, .start 0 .loopback, .start 1 .loopback, .look 0,
    .start 2 .loopback, .cancel 1, .reconfigure [(⟨"b"⟩, {})] true, .start 3 .loopback]

theorem run_conserved_mishaps :
    let traffic := run fourMessages mishaps {}
    (∀ mover transport, .start mover transport ∈ mishaps → transport = .loopback) ∧
      traffic.told .messagesSent = 3 ∧ traffic.told .messagesRejected = 1 ∧
      traffic.board.counts .messagesSent = 3 ∧
      traffic.number fourMessages (fun exchange course =>
        exchange.message.expectsResponse && course.interrupted) = 1 ∧
      traffic.number fourMessages (fun _ course => course.cancelled && course.sent) = 1 := by
  intro traffic
  have looped : ∀ mover transport, .start mover transport ∈ mishaps → transport = .loopback := by
    intro mover transport present
    simp only [mishaps, List.mem_cons, List.not_mem_nil, Move.start.injEq, reduceCtorEq, or_false,
      false_or] at present
    rcases present with ⟨_, rfl⟩ | ⟨_, rfl⟩ | ⟨_, rfl⟩ | ⟨_, rfl⟩ <;> rfl
  obtain ⟨board, submitted, delivered, _⟩ := run_conserved fourMessages mishaps looped
  have sent : traffic.told .messagesSent = 3 := delivered.trans (by decide +kernel)
  have all : traffic.number fourMessages (fun _ course => course.accepted.isSome) = 4 := by
    decide +kernel
  have rejected : traffic.told .messagesRejected = 1 := by
    have both : traffic.told .messagesSent + traffic.told .messagesRejected = 3 + 1 :=
      submitted.trans all
    rw [sent] at both
    exact Nat.add_left_cancel both
  refine ⟨looped, sent, rejected, ?_, by decide +kernel, by decide +kernel⟩
  rw [board .messagesSent]
  exact congrArg UInt64.ofNat sent

end Traffic
end Quorate.Messaging
