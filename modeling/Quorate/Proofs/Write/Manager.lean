import Quorate.Proofs.Write.Remaining
import Quorate.Write.Alone
import Quorate.Write.Manager

/-!
What the entry for puts adds to a coordinator: the rule for keys, and nothing else. A request with
an unfit key is refused before anything happens; for any other the two do the same, and both come to
a verdict whatever the store does.
-/

namespace Quorate

open Store

/-! ### The rule for keys -/

namespace Store.Key

/-- A character of the Unicode category Cc. -/
def Control (character : Char) : Prop :=
  character.toNat ≤ 0x1F ∨ 0x7F ≤ character.toNat ∧ character.toNat ≤ 0x9F

/-- The key is empty, too long in its UTF-8 form, or has a control character. -/
def Unfit (key : String) : Prop :=
  key = "" ∨ 1024 < key.toUTF8.size ∨ ∃ character, character ∈ key.toList ∧ Control character

/-- What is said of an unfit key. Its length counts before its characters. -/
inductive Complaint (key : String) : String → Prop
  | empty (empty : key = "") : Complaint key "key cannot be empty"
  | tooLong (long : 1024 < key.toUTF8.size) : Complaint key "key too long (max 1024 bytes)"
  | controlCharacter (short : key.toUTF8.size ≤ 1024) (character : Char)
      (present : character ∈ key.toList) (control : Control character) :
      Complaint key "key contains invalid characters"

variable (key : String)

theorem Complaint.unfit {key reason : String} (complaint : Complaint key reason) : Unfit key := by
  cases complaint with
  | empty empty => exact .inl empty
  | tooLong long => exact .inr (.inl long)
  | controlCharacter short character present control =>
      exact .inr (.inr ⟨character, present, control⟩)

end Store.Key

namespace Store.Request

variable {request : Request}

end Store.Request

/-! ### The wait for the verdict -/

namespace Write

variable {σ : Type} {request : Request} {budget : UInt32}

private theorem Alive.exists_awaited (bounded : budget.toNat + 1 < UInt32.size)
    (service : Service σ) (left : Nat) {write : Write} (alive : Alive request budget write)
    (enough : write.callsToCome ≤ left) (store : σ) :
    ∃ accepted, (run service left write store).1.1.awaited?.map Prod.fst = some accepted := by
  induction left generalizing write store with
  | zero =>
      have idle : write.call? = none := by
        refine Decidable.not_not.mp fun busy => ?_
        have fewer := alive.callsToCome_receive bounded busy (.ok {})
        omega
      obtain ⟨accepted, notices, _, awaited⟩ := alive.exists_verdict idle
      exact ⟨accepted, congrArg (Option.map Prod.fst) awaited⟩
  | succ left ih =>
      cases wanted : write.call? with
      | none =>
          rw [run_of_no_call service _ write store wanted]
          obtain ⟨accepted, notices, _, awaited⟩ := alive.exists_verdict wanted
          exact ⟨accepted, congrArg (Option.map Prod.fst) awaited⟩
      | some call =>
          have busy : write.call? ≠ none := by rw [wanted]; nofun
          cases served : service call write.request store with
          | mk ended after =>
              cases ended with
              | none =>
                  have gone : (run service (left + 1) write store).1.1 = write.lose := by
                    simp only [run, wanted, perform, served]
                    rw [run_of_no_call service left write.lose after rfl]
                  obtain ⟨ends, progress⟩ := alive.progress
                  refine ⟨false, ?_⟩
                  rw [gone, (progress.lose wanted ends).awaited?_eq]
                  rfl
              | some completion =>
                  have fewer := alive.callsToCome_receive bounded busy completion
                  rw [run_succ service left write store call wanted served]
                  exact ih (alive.receive completion) (by omega) after

end Write

theorem Coordinator.exists_verdict {σ : Type} (coordinator : Coordinator)
    (bounded : coordinator.budget.toNat + 1 < UInt32.size) (service : Write.Service σ)
    (age : σ → σ → Duration) (request : Request) (site : Write.Site σ) :
    ∃ accepted, (coordinator.put service age request site).1 = some accepted := by
  have alive := Write.Alive.start request coordinator.budget
  have enough := alive.callsToCome_le bounded
  exact alive.exists_awaited bounded service _
    (Nat.le_trans enough (Write.enough_calls request coordinator.budget)) site.store

private theorem Write.Audience.Progress.getD_awaited? {request : Request} {budget : UInt32}
    {write : Write} {ends : List Completion} (progress : Progress request budget write ends) :
    (write.awaited?.map Prod.fst).getD false = write.verdict?.getD false := by
  rw [progress.awaited?_eq]
  split
  · next gone =>
      rw [progress.verdict?_of_lost gone]
      rfl
  · rfl

/-- Putting on the simulated store alone is what a manager of it does. -/
theorem Store.Cluster.put_eq_manager (cluster : Cluster) (request : Request) (manager : Manager)
    (age : Cluster → Cluster → Duration) (board : Metrics.Board) :
    cluster.put request manager.budget =
      match manager.put serve age request { store := cluster, board := board } with
      | (.error failure, _) => .error failure
      | (.ok verdict, site) => .ok (verdict.getD false, site.store) := by
  unfold put Manager.put
  cases request.check with
  | error failure => rfl
  | ok _ =>
      obtain ⟨moves, driven⟩ := Write.Audience.exists_run_drive serve
        (manager.coordinator.start request).callsLeft cluster (.of request manager.budget)
      have progress := ((Write.Audience.Coherent.of request manager.budget).run moves).progress
      rw [driven] at progress
      exact congrArg (fun verdict => Except.ok (verdict, _)) progress.getD_awaited?.symm

end Quorate
