import Mathlib.Data.Nat.Find
import Quorate.Write.Run

/-!
A write driven by an arbitrary store, round by round. A round is a put and the removal that takes
it back. The write goes from round to round as long as puts miss the quorum, and it ends with the
first put that reaches it or with the removal after the last put that it may make.
-/

namespace Quorate.Write

open Store

/-- A write at the start of an attempt; attempts are numbered from zero. -/
def attempting (request : Request) (budget : UInt32) (attempt : Nat) : Write :=
  { request := request, budget := budget, retries := UInt32.ofNat attempt }

def takingBack (request : Request) (budget : UInt32) (attempt : Nat) (givingUp : Bool) : Write :=
  { attempting request budget attempt with stage := .removing givingUp }

section Machine

variable (request : Request) (budget : UInt32) (attempt : Nat)

theorem receive_accepted (completion : Completion)
    (accepted : (Quorum.evaluate completion).accepted = true) :
    ((attempting request budget attempt).receive completion).1 =
      (attempting request budget attempt).settle true := by
  change ((attempting request budget attempt).receivePut completion).1 = _
  unfold receivePut
  rw [if_pos accepted]

theorem budget_lt_iff (bounded : attempt < UInt32.size) :
    budget < UInt32.ofNat attempt ↔ budget.toNat < attempt := by
  rw [UInt32.lt_iff_toNat_lt, UInt32.toNat_ofNat_of_lt' bounded]

theorem receive_missed (completion : Completion)
    (refused : (Quorum.evaluate completion).accepted = false) :
    ((attempting request budget attempt).receive completion).1 =
      takingBack request budget (attempt + 1)
        (decide (budget < UInt32.ofNat (attempt + 1))) := by
  have counted : UInt32.ofNat (attempt + 1) = UInt32.ofNat attempt + 1 :=
    UInt32.ofNat_add attempt 1
  change ((attempting request budget attempt).receivePut completion).1 = _
  unfold receivePut takingBack attempting
  dsimp only
  rw [if_neg (by rw [refused]; exact Bool.false_ne_true), counted]
  by_cases exceeded : budget < UInt32.ofNat attempt + 1
  · rw [if_pos exceeded, decide_eq_true exceeded]
  · rw [if_neg exceeded, decide_eq_false exceeded]

private theorem receive_refused (completion : Completion)
    (refused : (Quorum.evaluate completion).accepted = false)
    (bounded : attempt + 1 < UInt32.size) :
    ((attempting request budget attempt).receive completion).1 =
      takingBack request budget (attempt + 1) (decide (budget.toNat < attempt + 1)) := by
  rw [receive_missed request budget attempt completion refused,
    decide_eq_decide.mpr (budget_lt_iff budget (attempt + 1) bounded)]

theorem receive_removed (givingUp : Bool) (completion : Completion) :
    ((takingBack request budget attempt givingUp).receive completion).1 =
      if givingUp then (attempting request budget attempt).settle false
      else attempting request budget attempt := by
  cases givingUp <;> rfl

end Machine

/-! ### Single calls -/

section Rounds

variable {σ : Type} (service : Service σ) (request : Request)

theorem run_of_no_call (left : Nat) (write : Write) (store : σ) (idle : write.call? = none) :
    run service left write store = ((write, []), store) := by
  cases left with
  | zero => rfl
  | succ left => simp only [run, idle]

theorem run_succ (left : Nat) (write : Write) (store : σ) (call : Call)
    (wanted : write.call? = some call) {completion : Completion} {after : σ}
    (served : service call write.request store = (some completion, after)) :
    let later := run service left (write.receive completion).1 after
    run service (left + 1) write store =
      ((later.1.1, .counted (counterOf call) :: (write.receive completion).2 ++ later.1.2),
        later.2) := by
  simp only [run, wanted, perform, served]

theorem drive_of_no_call (left : Nat) (write : Write) (store : σ) (idle : write.call? = none) :
    drive service left write store = (write, store) := by
  unfold drive
  rw [run_of_no_call service left write store idle]

theorem drive_perform (left : Nat) (write : Write) (store : σ) (call : Call)
    (wanted : write.call? = some call) :
    drive service (left + 1) write store =
      drive service left (write.perform service call store).1.1
        (write.perform service call store).2 := by
  simp only [drive, run, wanted]

theorem drive_succ (left : Nat) (write : Write) (store : σ) (call : Call)
    (wanted : write.call? = some call) (completion : Completion)
    (ended : (service call write.request store).1 = some completion) :
    drive service (left + 1) write store =
      drive service left (write.receive completion).1 (service call write.request store).2 := by
  unfold drive
  rw [run_succ service left write store call wanted (Prod.ext ended rfl)]

/-! ### Rounds -/

def takenBack (store : σ) : σ := (service .remove request (service .put request store).2).2

/-- The store after so many puts, all of them taken back. -/
def afterRounds : Nat → σ → σ
  | 0, store => store
  | count + 1, store => afterRounds count (takenBack service request store)

theorem afterRounds_succ (count : Nat) (store : σ) :
    afterRounds service request (count + 1) store =
      takenBack service request (afterRounds service request count store) := by
  induction count generalizing store with
  | zero => rfl
  | succ count ih => exact ih (takenBack service request store)

def putEnd? (store : σ) (attempt : Nat) : Option Completion :=
  (service .put request (afterRounds service request attempt store)).1

def removalEnd? (store : σ) (attempt : Nat) : Option Completion :=
  (service .remove request
    (service .put request (afterRounds service request attempt store)).2).1

def Accepts (store : σ) (attempt : Nat) : Prop :=
  ∃ completion, putEnd? service request store attempt = some completion ∧
    (Quorum.evaluate completion).accepted = true

/-- The put misses the quorum, and its removal comes to an end, whichever. -/
def Refuses (store : σ) (attempt : Nat) : Prop :=
  (∃ completion, putEnd? service request store attempt = some completion ∧
    (Quorum.evaluate completion).accepted = false) ∧
    ∃ completion, removalEnd? service request store attempt = some completion

variable (budget : UInt32) (attempt left : Nat) (store : σ)

private theorem drive_accepted (accepts : Accepts service request store 0) :
    drive service (left + 1) (attempting request budget attempt) store =
      ((attempting request budget attempt).settle true, (service .put request store).2) := by
  obtain ⟨completion, ended, accepted⟩ := accepts
  rw [drive_succ service left (attempting request budget attempt) store .put rfl completion ended,
    receive_accepted request budget attempt completion accepted]
  exact drive_of_no_call service left _ _ rfl

private theorem drive_refused (refuses : Refuses service request store 0)
    (bounded : attempt + 1 < UInt32.size) :
    drive service (left + 2) (attempting request budget attempt) store =
      drive service left
        (if budget.toNat < attempt + 1 then (attempting request budget (attempt + 1)).settle false
          else attempting request budget (attempt + 1))
        (takenBack service request store) := by
  obtain ⟨⟨completion, ended, refused⟩, removal, removed⟩ := refuses
  have putting := drive_succ service (left + 1) (attempting request budget attempt) store .put rfl
    completion ended
  rw [receive_refused request budget attempt completion refused bounded] at putting
  have removing := drive_succ service left
    (takingBack request budget (attempt + 1) (decide (budget.toNat < attempt + 1)))
    (service .put request store).2 .remove rfl removal removed
  rw [receive_removed] at removing
  simp only [decide_eq_true_eq] at removing
  exact putting.trans removing

/-! ### Whole runs -/

/-- The put that reaches the quorum is the last call. -/
theorem drive_until_accepted (count : Nat)
    (refuses : ∀ earlier, earlier < count → Refuses service request store earlier)
    (accepts : Accepts service request store count)
    (within : attempt + count ≤ budget.toNat) (bounded : budget.toNat + 1 < UInt32.size)
    (enough : 2 * count + 1 ≤ left) :
    drive service left (attempting request budget attempt) store =
      ((attempting request budget (attempt + count)).settle true,
        (service .put request (afterRounds service request count store)).2) := by
  induction count generalizing attempt left store with
  | zero =>
      obtain ⟨rest, rfl⟩ : ∃ rest, left = rest + 1 := ⟨left - 1, by omega⟩
      exact drive_accepted service request budget attempt rest store accepts
  | succ count ih =>
      obtain ⟨rest, rfl⟩ : ∃ rest, left = rest + 2 := ⟨left - 2, by omega⟩
      have more : ¬budget.toNat < attempt + 1 := by omega
      have first : Refuses service request store 0 := refuses 0 (Nat.succ_pos count)
      rw [drive_refused service request budget attempt rest store first (by omega), if_neg more,
        ih (attempt + 1) rest (takenBack service request store)
          (fun earlier less => refuses (earlier + 1) (Nat.succ_lt_succ less)) accepts
          (by omega) (by omega)]
      have total : attempt + 1 + count = attempt + (count + 1) := by omega
      rw [total]
      rfl

/-- When no put within the budget reaches the quorum, the last call takes the last put back. -/
theorem drive_until_exhausted (count : Nat)
    (refuses : ∀ earlier, earlier ≤ count → Refuses service request store earlier)
    (within : attempt + count = budget.toNat) (bounded : budget.toNat + 1 < UInt32.size)
    (enough : 2 * count + 2 ≤ left) :
    drive service left (attempting request budget attempt) store =
      ((attempting request budget (attempt + count + 1)).settle false,
        afterRounds service request (count + 1) store) := by
  induction count generalizing attempt left store with
  | zero =>
      obtain ⟨rest, rfl⟩ : ∃ rest, left = rest + 2 := ⟨left - 2, by omega⟩
      have last : budget.toNat < attempt + 1 := by omega
      have first : Refuses service request store 0 := refuses 0 (Nat.le_refl 0)
      rw [drive_refused service request budget attempt rest store first (by omega), if_pos last]
      exact drive_of_no_call service rest _ _ rfl
  | succ count ih =>
      obtain ⟨rest, rfl⟩ : ∃ rest, left = rest + 2 := ⟨left - 2, by omega⟩
      have more : ¬budget.toNat < attempt + 1 := by omega
      have first : Refuses service request store 0 := refuses 0 (Nat.zero_le _)
      rw [drive_refused service request budget attempt rest store first (by omega), if_neg more,
        ih (attempt + 1) rest (takenBack service request store)
          (fun earlier less => refuses (earlier + 1) (Nat.succ_le_succ less))
          (by omega) (by omega)]
      have total : attempt + 1 + count + 1 = attempt + (count + 1) + 1 := by omega
      rw [total]
      rfl

/-! ### From the start to the verdict -/

theorem first_or_none (reached : Nat → Prop) (limit : Nat) :
    (∃ count, count ≤ limit ∧ reached count ∧ ∀ earlier, earlier < count → ¬reached earlier) ∨
      ∀ attempt, attempt ≤ limit → ¬reached attempt := by
  classical
  by_cases any : ∃ count, count ≤ limit ∧ reached count
  · left
    obtain ⟨within, here⟩ := Nat.find_spec any
    refine ⟨Nat.find any, within, here, ?_⟩
    intro earlier less early
    exact Nat.find_min any less ⟨Nat.le_trans (Nat.le_of_lt less) within, early⟩
  · right
    intro attempt within here
    exact any ⟨attempt, within, here⟩

theorem settle_verdict? (accepted : Bool) :
    ((attempting request budget attempt).settle accepted).verdict? = some accepted := rfl

theorem enough_calls : 2 * budget.toNat + 2 ≤ (attempting request budget 0).callsLeft := by
  unfold callsLeft attempting
  have none : (UInt32.ofNat 0).toNat = 0 := rfl
  dsimp only
  omega

theorem drive_of_accepts (count : Nat)
    (refuses : ∀ earlier, earlier < count → Refuses service request store earlier)
    (accepts : Accepts service request store count)
    (within : count ≤ budget.toNat) (bounded : budget.toNat + 1 < UInt32.size) :
    drive service (attempting request budget 0).callsLeft (attempting request budget 0) store =
      ((attempting request budget count).settle true,
        (service .put request (afterRounds service request count store)).2) := by
  have enough := enough_calls request budget
  have driven := drive_until_accepted service request budget 0
    (attempting request budget 0).callsLeft store count refuses accepts (by omega) bounded
    (by omega)
  rw [driven, Nat.zero_add]

theorem drive_of_refuses
    (refuses : ∀ attempt, attempt ≤ budget.toNat → Refuses service request store attempt)
    (bounded : budget.toNat + 1 < UInt32.size) :
    drive service (attempting request budget 0).callsLeft (attempting request budget 0) store =
      ((attempting request budget (budget.toNat + 1)).settle false,
        afterRounds service request (budget.toNat + 1) store) := by
  have enough := enough_calls request budget
  have driven := drive_until_exhausted service request budget 0
    (attempting request budget 0).callsLeft store budget.toNat refuses (by omega) bounded
    (by omega)
  rw [driven, Nat.zero_add]

end Rounds
end Quorate.Write
