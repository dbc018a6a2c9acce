import Mathlib.Data.Finset.Card
import Mathlib.Data.Nat.Find
import Quorate.Proofs.Messaging.Agreement

/-!
Runs that keep time: none passes while there is anything left to do, and none beyond the moment at
which something falls due. Nothing is ever late in such a run, and whatever waits in it can go on
to the end of its wait.
-/

namespace Quorate.Messaging

variable {ι : Type}

namespace Traffic

/-- There is nothing to do before so much time has passed: no answer falls due, and whoever waits
has nothing to be told and its time is not up. -/
structure Permits (traffic : Traffic ι) (ticks : Nat) : Prop where
  owed : ∀ entry, entry ∈ traffic.errands → traffic.clock + ticks ≤ entry.1
  waits : ∀ index number deadline,
    (traffic.courses index).stage = .active (.waiting number deadline) →
      (traffic.network.registry.gates number).poll = none ∧ traffic.clock + ticks ≤ deadline

/-- No answer is late, and nobody waits beyond its deadline. -/
structure Punctual (traffic : Traffic ι) : Prop where
  owed : ∀ entry, entry ∈ traffic.errands → traffic.clock ≤ entry.1
  waits : ∀ index number deadline,
    (traffic.courses index).stage = .active (.waiting number deadline) → traffic.clock ≤ deadline

theorem Punctual.initial : Punctual ({} : Traffic ι) where
  owed := nofun
  waits := nofun

end Traffic

namespace Move

def ticks : Move ι → Nat
  | .elapse ticks => ticks
  | _ => 0

/-- Messages go over the network within the process, and time passes only up to what is next. -/
def Timely (traffic : Traffic ι) : Move ι → Prop
  | .start _ transport => transport = .loopback
  | .elapse ticks => traffic.Permits ticks
  | _ => True

def Passive : Move ι → Prop
  | .look _ => True
  | .answer _ => True
  | .elapse _ => True
  | _ => False

private theorem Timely.owed {traffic : Traffic ι} (punctual : traffic.Punctual) {move : Move ι}
    (timely : move.Timely traffic) (entry : Nat × Errand) (present : entry ∈ traffic.errands) :
    traffic.clock + move.ticks ≤ entry.1 := by
  cases move with
  | elapse ticks => exact Traffic.Permits.owed timely entry present
  | _ => exact punctual.owed entry present

private theorem Timely.waits {traffic : Traffic ι} (punctual : traffic.Punctual) {move : Move ι}
    (timely : move.Timely traffic) {index : ι} {number deadline : Nat}
    (waits : (traffic.courses index).stage = .active (.waiting number deadline)) :
    traffic.clock + move.ticks ≤ deadline := by
  cases move with
  | elapse ticks => exact (Traffic.Permits.waits timely index number deadline waits).2
  | _ => exact punctual.waits index number deadline waits

end Move

namespace Exchange

variable (exchange : Exchange)

private theorem look_waiting (networked : exchange.carrier = .network) {network : Network}
    {registration due now number deadline : Nat}
    (waits : (exchange.look network registration due now).progress = .waiting number deadline) :
    number = registration ∧ deadline = due := by
  have ended : ∀ {result}, ¬exchange.Ends network result
      (exchange.look network registration due now) := by
    intro result ends
    have impossible := ends.ended.symm.trans waits
    cases impossible
  cases exchange.look_looks networked network registration due now with
  | opened polled ends => exact absurd ends ended
  | closed polled ends => exact absurd ends ended
  | expired polled late ends => exact absurd ends ended
  | shut polled early stays =>
      have same := stays.stays.symm.trans waits
      cases same
      exact ⟨rfl, rfl⟩

private theorem follow_waiting (networked : exchange.carrier = .network) (opening : Opening)
    {now number deadline : Nat}
    (waits : (exchange.follow opening now).progress = .waiting number deadline) :
    deadline = now + exchange.timeout.ticks := by
  change (exchange.proceed opening now).progress = _ at waits
  unfold proceed at waits
  split at waits
  · cases submitted : opening.submission with
    | refused =>
        rw [submitted] at waits
        cases waits
    | accepted errand =>
        rw [submitted] at waits
        cases waits
  · cases submitted : opening.submission with
    | refused =>
        rw [submitted] at waits
        cases waits
    | accepted errand =>
        rw [submitted] at waits
        exact (exchange.look_waiting networked waits).2

end Exchange

namespace Traffic

variable [DecidableEq ι] (exchanges : ι → Exchange)

/-- The run keeps time. -/
def Timely : List (Move ι) → Traffic ι → Prop
  | [], _ => True
  | move :: rest, traffic => move.Timely traffic ∧ Timely rest (traffic.step exchanges move)

theorem run_append (moves later : List (Move ι)) (traffic : Traffic ι) :
    traffic.run exchanges (moves ++ later) = (traffic.run exchanges moves).run exchanges later :=
  List.foldl_append

theorem timely_append (moves later : List (Move ι)) (traffic : Traffic ι) :
    Timely exchanges (moves ++ later) traffic ↔
      Timely exchanges moves traffic ∧ Timely exchanges later (traffic.run exchanges moves) := by
  induction moves generalizing traffic with
  | nil => exact (Iff.of_eq (true_and _)).symm
  | cons move rest ih =>
      change _ ∧ _ ↔ (_ ∧ _) ∧ _
      rw [and_assoc]
      exact and_congr_right' (ih _)

/-! ### Nothing is late -/

theorem clock_step (traffic : Traffic ι) (move : Move ι) :
    (traffic.step exchanges move).clock = traffic.clock + move.ticks := by
  cases move with
  | start index transport =>
      change (traffic.start exchanges index transport).clock = _
      unfold start
      split <;> rfl
  | look index =>
      change (traffic.look exchanges index).clock = _
      unfold look
      split <;> rfl
  | cancel index =>
      change (traffic.cancel exchanges index).clock = _
      unfold cancel
      dsimp only
      split <;> rfl
  | answer number =>
      change (traffic.answer number).clock = _
      unfold answer
      split
      · split <;> rfl
      · rfl
  | dispatch reply => rfl
  | elapse ticks => rfl
  | reconfigure endpoints rejecting => rfl

theorem errands_look (traffic : Traffic ι) (index : ι) :
    (traffic.look exchanges index).errands = traffic.errands := by
  unfold look
  split
  · unfold take
    dsimp only
    rw [Exchange.look_errand]
    exact List.append_nil _
  · rfl

private theorem errands_cancel (traffic : Traffic ι) (index : ι) :
    (traffic.cancel exchanges index).errands = traffic.errands := by
  unfold cancel
  dsimp only
  split <;> rfl

section Steps

variable (networked : ∀ index, (exchanges index).carrier = .network)

include networked

theorem mem_errands_step (traffic : Traffic ι) (move : Move ι) (timely : move.Timely traffic)
    (entry : Nat × Errand) (present : entry ∈ (traffic.step exchanges move).errands) :
    entry ∈ traffic.errands ∨
      ∃ index transport, move = .start index transport ∧
        (traffic.courses index).stage = .idle ∧
        entry.2.message = (exchanges index).message ∧ traffic.clock ≤ entry.1 := by
  cases move with
  | start index transport =>
      obtain rfl : transport = .loopback := timely
      change entry ∈ (traffic.start exchanges index .loopback).errands at present
      unfold start at present
      split at present
      · next idle =>
          rcases List.mem_append.mp present with earlier | made
          · exact .inl earlier
          · obtain ⟨errand, among, rfl⟩ := List.mem_map.mp made
            have own := (Exchange.follow_confined (networked index) traffic.network
              traffic.clock).2 errand (Option.mem_toList.mp among)
            exact .inr ⟨index, _, rfl, idle, own, Nat.le_add_right _ _⟩
      · exact .inl present
  | look index =>
      change entry ∈ (traffic.look exchanges index).errands at present
      rw [errands_look] at present
      exact .inl present
  | cancel index =>
      change entry ∈ (traffic.cancel exchanges index).errands at present
      rw [errands_cancel] at present
      exact .inl present
  | answer number =>
      change entry ∈ (traffic.answer number).errands at present
      unfold answer at present
      split at present
      · split at present
        · exact .inl (List.mem_of_mem_eraseIdx present)
        · exact .inl present
      · exact .inl present
  | dispatch reply => exact .inl present
  | elapse ticks => exact .inl present
  | reconfigure endpoints rejecting => exact .inl present

private theorem waiting_step (traffic : Traffic ι) (move : Move ι) (index : ι)
    (number deadline : Nat) (waits : ((traffic.step exchanges move).courses index).stage =
      .active (.waiting number deadline)) :
    (traffic.courses index).stage = .active (.waiting number deadline) ∨
      (traffic.courses index).stage = .idle ∧ move.ticks = 0 ∧
        deadline = traffic.clock + (exchanges index).timeout.ticks := by
  by_cases own : move.index? = some index
  · cases move with
    | start mover transport =>
        cases own
        change ((traffic.start exchanges index transport).courses index).stage = _ at waits
        unfold start at waits
        split at waits
        · next idle =>
            dsimp only at waits
            rw [take_stage] at waits
            have progress := Exchange.Stage.active.inj waits
            exact .inr ⟨idle, rfl, (exchanges index).follow_waiting (networked index) _ progress⟩
        · exact .inl waits
    | look mover =>
        cases own
        change ((traffic.look exchanges index).courses index).stage = _ at waits
        unfold look at waits
        split at waits
        · next registration due waiting =>
            rw [take_stage] at waits
            obtain ⟨rfl, rfl⟩ :=
              (exchanges index).look_waiting (networked index) (Exchange.Stage.active.inj waits)
            exact .inl waiting
        · exact .inl waits
    | cancel mover =>
        cases own
        change ((traffic.cancel exchanges index).courses index).stage = _ at waits
        unfold cancel at waits
        dsimp only at waits
        split at waits
        · have cancelled := congrArg Course.stage (traffic.setCourse_self index
            { traffic.courses index with stage := .cancelled })
          have impossible := cancelled.symm.trans waits
          cases impossible
        · have cancelled := congrArg Course.stage (traffic.setCourse_self index
            { traffic.courses index with stage := .cancelled })
          have impossible := cancelled.symm.trans waits
          cases impossible
        · exact .inl waits
    | _ => cases own
  · obtain ⟨operations, notices, effect⟩ := step_effect exchanges networked traffic move
    rw [effect.courses index own] at waits
    exact .inl waits

theorem Punctual.step {traffic : Traffic ι} (punctual : traffic.Punctual) (move : Move ι)
    (timely : move.Timely traffic) : (traffic.step exchanges move).Punctual where
  owed := by
    intro entry present
    rw [clock_step]
    rcases mem_errands_step exchanges networked traffic move timely entry present with
      earlier | ⟨index, transport, rfl, _idle, _own, later⟩
    · exact timely.owed punctual entry earlier
    · exact later
  waits := by
    intro index number deadline waits
    rw [clock_step]
    rcases waiting_step exchanges networked traffic move index number deadline waits with
      before | ⟨_idle, instant, due⟩
    · exact timely.waits punctual before
    · rw [instant, due]
      exact Nat.le_add_right _ _

theorem Punctual.run (moves : List (Move ι)) {traffic : Traffic ι} (punctual : traffic.Punctual)
    (timely : Timely exchanges moves traffic) : (traffic.run exchanges moves).Punctual := by
  induction moves generalizing traffic with
  | nil => exact punctual
  | cons move rest ih => exact ih (punctual.step exchanges networked move timely.1) timely.2

end Steps

/-! ### Time goes on -/

/-- A move that cannot be put off: an answer is due, or a wait is over. -/
inductive Pressing (traffic : Traffic ι) : Move ι → Prop where
  | answer (number : Nat) (entry : Nat × Errand) (owed : traffic.errands[number]? = some entry)
      (due : entry.1 ≤ traffic.clock) : Pressing traffic (.answer number)
  | look (index : ι) (number deadline : Nat)
      (waits : (traffic.courses index).stage = .active (.waiting number deadline))
      (finished : (traffic.network.registry.gates number).poll ≠ none ∨ deadline ≤ traffic.clock) :
      Pressing traffic (.look index)

omit [DecidableEq ι] in
private theorem Pressing.passive {traffic : Traffic ι} {move : Move ι}
    (pressing : Pressing traffic move) : move.Passive ∧ move.Timely traffic := by
  cases pressing with
  | answer number entry owed due => exact ⟨trivial, trivial⟩
  | look index number deadline waits finished => exact ⟨trivial, trivial⟩

def Bounded (traffic : Traffic ι) (load : Nat) : Prop :=
  ∃ waiting : Finset ι, (∀ index, (traffic.courses index).Waits → index ∈ waiting) ∧
    traffic.errands.length + waiting.card = load

def Settles (traffic : Traffic ι) (index : ι) : Prop :=
  ∃ further : List (Move ι),
    (∀ move, move ∈ further ++ [.look index] → move.Passive) ∧
    Timely exchanges (further ++ [.look index]) traffic ∧
    ((traffic.run exchanges further).courses index).Waits ∧
    ¬((traffic.run exchanges (further ++ [.look index])).courses index).Waits

private theorem exists_elapse {traffic : Traffic ι} (rests : ∀ move, ¬Pressing traffic move)
    {index : ι} (waits : (traffic.courses index).Waits) :
    ∃ ticks, traffic.Permits ticks ∧
      ∃ move, Pressing (traffic.step exchanges (.elapse ticks)) move := by
  classical
  let Falls (time : Nat) : Prop :=
    (∃ entry, entry ∈ traffic.errands ∧ entry.1 = time) ∨
      ∃ other number,
        (traffic.courses other).stage = .active (.waiting number time)
  obtain ⟨number, deadline, waiting⟩ := waits
  have falls : ∃ time, Falls time := ⟨deadline, .inr ⟨index, number, waiting⟩⟩
  have first : ∀ time, Falls time → Nat.find falls ≤ time := fun time due =>
    Nat.find_min' falls due
  have ahead : ∀ time, Falls time → traffic.clock < time := by
    intro time due
    refine Nat.lt_of_not_le fun past => ?_
    rcases due with ⟨entry, present, rfl⟩ | ⟨other, held, waits⟩
    · obtain ⟨place, found⟩ := List.mem_iff_getElem?.mp present
      exact rests _ (.answer place entry found past)
    · exact rests _ (.look other held time waits (.inr past))
  have reached : traffic.clock + (Nat.find falls - traffic.clock) = Nat.find falls :=
    Nat.add_sub_cancel' (Nat.le_of_lt (ahead _ (Nat.find_spec falls)))
  refine ⟨Nat.find falls - traffic.clock, ⟨?_, ?_⟩, ?_⟩
  · intro entry present
    rw [reached]
    exact first entry.1 (.inl ⟨entry, present, rfl⟩)
  · intro other held due waits
    rw [reached]
    refine ⟨?_, first due (.inr ⟨other, held, waits⟩)⟩
    by_contra told
    exact rests _ (.look other held due waits (.inl told))
  · rcases Nat.find_spec falls with ⟨entry, present, due⟩ | ⟨other, held, waits⟩
    · obtain ⟨place, found⟩ := List.mem_iff_getElem?.mp present
      refine ⟨_, .answer place entry found ?_⟩
      exact Nat.le_of_eq (due.trans reached.symm)
    · exact ⟨_, .look other held _ waits (.inr (Nat.le_of_eq reached.symm))⟩

section Settling

variable (networked : ∀ index, (exchanges index).carrier = .network)

include networked

private theorem not_waits_look {traffic : Traffic ι} {index : ι} {number deadline : Nat}
    (waits : (traffic.courses index).stage = .active (.waiting number deadline))
    (finished : (traffic.network.registry.gates number).poll ≠ none ∨ deadline ≤ traffic.clock) :
    ¬((traffic.look exchanges index).courses index).Waits := by
  have ended : ∀ {result}, (exchanges index).Ends traffic.network result
      ((exchanges index).look traffic.network number deadline traffic.clock) →
        ¬((traffic.look exchanges index).courses index).Waits := by
    rintro result ends ⟨other, later, waiting⟩
    unfold look at waiting
    rw [waits] at waiting
    dsimp only at waiting
    rw [take_stage, ends.ended] at waiting
    cases waiting
  cases (exchanges index).look_looks (networked index) traffic.network number deadline
      traffic.clock with
  | opened polled ends => exact ended ends
  | closed polled ends => exact ended ends
  | expired polled late ends => exact ended ends
  | shut polled early stays =>
      rcases finished with told | late
      · exact absurd polled told
      · exact absurd late (Nat.not_le_of_lt early)

/-- With every move that cannot be put off there is less to do. -/
theorem Pressing.relieves {traffic : Traffic ι} {move : Move ι} (pressing : Pressing traffic move)
    {load : Nat} (bounded : traffic.Bounded load) :
    ∃ less, less < load ∧ (traffic.step exchanges move).Bounded less := by
  obtain ⟨waiting, covers, rfl⟩ := bounded
  cases pressing with
  | answer number entry owed due =>
      have within := (List.getElem?_eq_some_iff.mp owed).choose
      have answered : traffic.step exchanges (.answer number) =
          { traffic with
            network := (traffic.network.answer entry.2).1
            errands := traffic.errands.eraseIdx number
            history := traffic.history ++ (traffic.network.answer entry.2).2 } := by
        change traffic.answer number = _
        unfold Traffic.answer
        rw [owed]
        exact if_pos due
      rw [answered]
      refine ⟨_, ?_, waiting, covers, rfl⟩
      dsimp only
      rw [List.length_eraseIdx_of_lt within]
      omega
  | look index number deadline waits finished =>
      have among := covers index ⟨number, deadline, waits⟩
      refine ⟨_, ?_, waiting.erase index, ?_, rfl⟩
      · change (traffic.look exchanges index).errands.length + _ < _
        rw [errands_look]
        exact Nat.add_lt_add_left (Finset.card_erase_lt_of_mem among) _
      · intro other stillWaits
        by_cases same : other = index
        · subst same
          exact absurd stillWaits (not_waits_look exchanges networked waits finished)
        · obtain ⟨operations, notices, effect⟩ :=
            look_effect exchanges networked traffic index
          change ((traffic.look exchanges index).courses other).Waits at stillWaits
          rw [effect.courses other fun moves => same (Option.some.inj moves).symm] at stillWaits
          exact Finset.mem_erase.mpr ⟨same, covers other stillWaits⟩

omit networked in
private theorem Settles.cons {traffic : Traffic ι} {index : ι} {move : Move ι}
    (passive : move.Passive) (timely : move.Timely traffic)
    (settles : Settles exchanges (traffic.step exchanges move) index) :
    Settles exchanges traffic index := by
  obtain ⟨further, goesOn, keeps, waits, ends⟩ := settles
  refine ⟨move :: further, ?_, ⟨timely, keeps⟩, waits, ends⟩
  intro other present
  rcases List.mem_cons.mp present with rfl | later
  · exact passive
  · exact goesOn other later

private theorem Pressing.settles {traffic : Traffic ι} {index : ι} {move : Move ι}
    (pressing : Pressing traffic move) (waits : (traffic.courses index).Waits)
    (settles : ((traffic.step exchanges move).courses index).Waits →
      Settles exchanges (traffic.step exchanges move) index) :
    Settles exchanges traffic index := by
  by_cases last : ((traffic.step exchanges move).courses index).Waits
  · exact .cons exchanges pressing.passive.1 pressing.passive.2 (settles last)
  · have own : move = .look index := by
      by_contra other
      have unmoved : move.index? ≠ some index := by
        cases pressing with
        | answer number entry owed due => exact nofun
        | look mover number deadline waiting finished =>
            exact fun same => other (congrArg Move.look (Option.some.inj same))
      obtain ⟨operations, notices, effect⟩ := step_effect exchanges networked traffic move
      rw [effect.courses index unmoved] at last
      exact last waits
    subst own
    refine ⟨[], ?_, ⟨trivial, trivial⟩, waits, last⟩
    intro move present
    rw [List.mem_singleton.mp present]
    trivial

/-- As long as only finitely much is left to do, a wait comes to its last look: there is less to do
with every move that cannot be put off, and time passes between them. -/
theorem Bounded.settles (index : ι) (load : Nat) {traffic : Traffic ι}
    (bounded : traffic.Bounded load) (waits : (traffic.courses index).Waits) :
    Settles exchanges traffic index := by
  induction load using Nat.strong_induction_on generalizing traffic with
  | _ load ih =>
      have press : ∀ {traffic : Traffic ι} {move : Move ι}, traffic.Bounded load →
          (traffic.courses index).Waits → Pressing traffic move →
            Settles exchanges traffic index := by
        intro traffic move bounded waits pressing
        obtain ⟨less, smaller, lighter⟩ := pressing.relieves exchanges networked bounded
        exact pressing.settles exchanges networked waits (ih less smaller lighter)
      by_cases pressed : ∃ move, Pressing traffic move
      · obtain ⟨move, pressing⟩ := pressed
        exact press bounded waits pressing
      · obtain ⟨ticks, permits, move, pressing⟩ :=
          exists_elapse exchanges (not_exists.mp pressed) waits
        have passive : (Move.elapse ticks : Move ι).Passive := trivial
        have later : Settles exchanges (traffic.step exchanges (.elapse ticks)) index :=
          press bounded waits pressing
        exact later.cons exchanges passive permits

private theorem run_courses_of_unmoved (moves : List (Move ι)) (traffic : Traffic ι) (index : ι)
    (unmoved : ∀ move, move ∈ moves → move.index? ≠ some index) :
    (traffic.run exchanges moves).courses index = traffic.courses index := by
  induction moves generalizing traffic with
  | nil => rfl
  | cons move rest ih =>
      obtain ⟨operations, notices, effect⟩ := step_effect exchanges networked traffic move
      refine (ih _ fun other present => unmoved other (List.mem_cons_of_mem _ present)).trans ?_
      exact effect.courses index (unmoved move List.mem_cons_self)

theorem exists_bounded_run (moves : List (Move ι)) :
    ∃ load, (run exchanges moves ({} : Traffic ι)).Bounded load := by
  refine ⟨_, (moves.filterMap Move.index?).toFinset, ?_, rfl⟩
  rintro index ⟨number, deadline, waits⟩
  by_contra unmoved
  rw [run_courses_of_unmoved exchanges networked moves {} index] at waits
  · cases waits
  · intro move present moves
    exact unmoved (List.mem_toFinset.mpr (List.mem_filterMap.mpr ⟨move, present, moves⟩))

end Settling

end Traffic
end Quorate.Messaging
