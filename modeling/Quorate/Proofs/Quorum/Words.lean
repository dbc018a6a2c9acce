import Mathlib.Data.Int.Cast.Basic
import Quorate.Proofs.Quorum

/-!
The decision as it is computed, by a loop over the answers with a loop over the statuses of each in
it, and with sizes in words of 64 bits. Whatever the answers are, one of them adds at most one entry
to the failed peers, so there are never more entries than answers. A list that fits into memory has
fewer than two to the power 63 items; twice the number of failed peers is then still a word.
-/

namespace Quorate.Quorum

open Store

/-! ### The statuses of one answer -/

/-- The loop over the statuses lists the peer once or not at all; this is kept by every turn. -/
theorem failedWithStatus_cases (peer : Peer) (failed now : List Peer)
    (entry : VersionKey × Status) (grown : now = failed ∨ peer ∉ failed ∧ now = failed ++ [peer]) :
    failedWithStatus peer now entry = failed ∨
      peer ∉ failed ∧ failedWithStatus peer now entry = failed ++ [peer] := by
  unfold failedWithStatus
  rcases grown with rfl | ⟨absent, rfl⟩
  · by_cases adds : (entry.2.denies && !now.contains peer) = true
    · rw [if_pos adds]
      rw [Bool.and_eq_true, Bool.not_eq_true', List.contains_eq_mem,
        decide_eq_false_iff_not] at adds
      exact .inr ⟨adds.2, rfl⟩
    · rw [if_neg adds]
      exact .inl rfl
  · have listed : (failed ++ [peer]).contains peer = true := by simp
    rw [listed, Bool.not_true, Bool.and_false, if_neg Bool.false_ne_true]
    exact .inr ⟨absent, rfl⟩

private theorem foldl_failedWithStatus_cases (peer : Peer) (failed now : List Peer)
    (statuses : Statuses) (grown : now = failed ∨ peer ∉ failed ∧ now = failed ++ [peer]) :
    statuses.foldl (failedWithStatus peer) now = failed ∨
      peer ∉ failed ∧ statuses.foldl (failedWithStatus peer) now = failed ++ [peer] := by
  induction statuses generalizing now with
  | nil => exact grown
  | cons entry rest ih =>
      rw [List.foldl_cons]
      exact ih _ (failedWithStatus_cases peer failed now entry grown)

private theorem foldl_failedWithStatus_of_mem (peer : Peer) (failed : List Peer)
    (statuses : Statuses) (listed : peer ∈ failed) :
    statuses.foldl (failedWithStatus peer) failed = failed := by
  rcases foldl_failedWithStatus_cases peer failed failed statuses (.inl rfl) with same | added
  · exact same
  · exact absurd listed added.1

private theorem foldl_failedWithStatus (peer : Peer) (failed : List Peer) (statuses : Statuses) :
    statuses.foldl (failedWithStatus peer) failed =
      if (statuses.any fun entry => entry.2.denies) && !failed.contains peer then failed ++ [peer]
      else failed := by
  by_cases listed : peer ∈ failed
  · rw [foldl_failedWithStatus_of_mem peer failed statuses listed]
    simp [listed]
  · induction statuses with
    | nil => rfl
    | cons entry rest ih =>
        rw [List.foldl_cons, List.any_cons]
        cases denies : entry.2.denies with
        | false =>
            have passed : failedWithStatus peer failed entry = failed := by
              simp [failedWithStatus, denies]
            rw [passed, ih, Bool.false_or]
        | true =>
            have added : failedWithStatus peer failed entry = failed ++ [peer] := by
              simp [failedWithStatus, denies, listed]
            rw [added, foldl_failedWithStatus_of_mem peer _ rest (by simp)]
            simp [listed]

private theorem failedWithStatuses_eq (failed : List Peer) (ack : Ack) :
    failedWithStatuses failed ack = failedWith failed ack := by
  unfold failedWithStatuses failedWith denied
  cases ack.statuses with
  | none => rfl
  | some statuses => exact foldl_failedWithStatus ack.peer failed statuses

/-! ### All answers -/

private theorem failedWithStatuses_cases (failed : List Peer) (ack : Ack) :
    failedWithStatuses failed ack = failed ∨
      failedWithStatuses failed ack = failed ++ [ack.peer] := by
  unfold failedWithStatuses
  cases ack.statuses with
  | none => exact .inr rfl
  | some statuses =>
      rcases foldl_failedWithStatus_cases ack.peer failed failed statuses (.inl rfl) with
        same | added
      · exact .inl same
      · exact .inr added.2

private theorem length_foldl_failedWithStatuses_le (acks : List Ack) (failed : List Peer) :
    (acks.foldl failedWithStatuses failed).length ≤ failed.length + acks.length := by
  induction acks generalizing failed with
  | nil => exact Nat.le_refl _
  | cons ack rest ih =>
      rw [List.foldl_cons, List.length_cons]
      have later := ih (failedWithStatuses failed ack)
      rcases failedWithStatuses_cases failed ack with same | added
      · rw [same] at later ⊢
        omega
      · rw [added, List.length_append, List.length_singleton] at later
        rw [added]
        omega

private theorem foldl_failedWithStatuses (acks : List Ack) :
    acks.foldl failedWithStatuses [] = failedPeers acks := by
  unfold failedPeers
  congr 1
  funext failed ack
  exact failedWithStatuses_eq failed ack

private theorem length_failedPeers_le (acks : List Ack) :
    (failedPeers acks).length ≤ acks.length := by
  have most := length_foldl_failedWithStatuses_le acks []
  rwa [foldl_failedWithStatuses, List.length_nil, Nat.zero_add] at most

/-! ### Words -/

/-- A number of items that a list in memory can have. -/
def Fits (size : Nat) : Prop := size ≤ 2 ^ 63 - 1

instance (size : Nat) : Decidable (Fits size) := inferInstanceAs (Decidable (size ≤ _))

private theorem Fits.toNat {size : Nat} (fits : Fits size) : (UInt64.ofNat size).toNat = size := by
  unfold Fits at fits
  exact UInt64.toNat_ofNat_of_lt' (by rw [UInt64.size]; omega)

private theorem Fits.toNat_double {size : Nat} (fits : Fits size) :
    (UInt64.ofNat size * 2).toNat = size * 2 := by
  rw [UInt64.toNat_mul, fits.toNat]
  unfold Fits at fits
  exact Nat.mod_eq_of_lt (show size * 2 < 2 ^ 64 by omega)

private theorem holdsInWords_eq_holds {failed answered : Nat} (fewer : Fits failed)
    (fits : Fits answered) :
    holdsInWords (UInt64.ofNat failed) (UInt64.ofNat answered) = holds failed answered := by
  unfold holdsInWords holds
  rw [decide_eq_decide, UInt64.lt_iff_toNat_lt, fewer.toNat_double, fits.toNat]

/-- One failed peer more than fits, and the words of the rule wrap around to a quorum of nobody. -/
example : holdsInWords (UInt64.ofNat (2 ^ 63)) 1 = true ∧ holds (2 ^ 63) 1 = false := by decide

private theorem evaluateInWords_eq (completion : Completion) :
    evaluateInWords completion =
      ⟨failedPeers (answers completion), (UInt64.ofNat (answers completion).length).toNat,
        holdsInWords (UInt64.ofNat (failedPeers (answers completion)).length)
          (UInt64.ofNat (answers completion).length)⟩ := by
  cases completion with
  | error failure => rfl
  | ok response =>
      obtain ⟨acks⟩ := response
      cases acks with
      | nil => rfl
      | cons ack rest =>
          dsimp only [answers]
          rw [← foldl_failedWithStatuses]
          rfl

/-- The loops decide as the rule over whole numbers does, for every completion whose answers fit
into memory, whoever answers how often and with however many statuses. No status of an answer adds
to the failed peers what another one of it has added, no answer adds more than one entry, and there
are never more entries than answers; therefore the doubling in the rule does not wrap around. -/
theorem evaluateInWords_exact (completion : Completion)
    (fits : Fits (answers completion).length) :
    let acks := answers completion
    let decision := evaluateInWords completion
    (∀ front ack rest, acks = front ++ ack :: rest →
      let before := front.foldl failedWithStatuses []
      (∀ seen toCome, ack.statuses = some (seen ++ toCome) →
        seen.foldl (failedWithStatus ack.peer) before = before ∨
          seen.foldl (failedWithStatus ack.peer) before = before ++ [ack.peer]) ∧
      ((front ++ [ack]).foldl failedWithStatuses [] = before ∨
        (front ++ [ack]).foldl failedWithStatuses [] = before ++ [ack.peer]) ∧
      before.length ≤ front.length) ∧
    decision.failed = acks.foldl failedWithStatuses [] ∧
    decision.failed.length ≤ decision.answered ∧
    decision.answered = acks.length ∧
    (UInt64.ofNat decision.failed.length * 2).toNat = decision.failed.length * 2 ∧
    (decision.accepted = true ↔ 2 * (decision.failed.length : ℤ) < decision.answered) ∧
    decision = evaluate completion := by
  intro acks decision
  have fewer : Fits (failedPeers acks).length := (length_failedPeers_le acks).trans fits
  have known : decision =
      ⟨failedPeers acks, acks.length, holds (failedPeers acks).length acks.length⟩ := by
    have computed := evaluateInWords_eq completion
    rw [holdsInWords_eq_holds fewer fits, fits.toNat] at computed
    exact computed
  refine ⟨?_, ?_, ?_, ?_, ?_, ?_, ?_⟩
  · intro front ack rest _parted before
    refine ⟨?_, ?_, ?_⟩
    · intro seen _toCome _statuses
      rcases foldl_failedWithStatus_cases ack.peer before before seen (.inl rfl) with same | added
      · exact .inl same
      · exact .inr added.2
    · rw [List.foldl_append]
      exact failedWithStatuses_cases before ack
    · have most := length_foldl_failedWithStatuses_le front []
      rwa [List.length_nil, Nat.zero_add] at most
  · rw [known, foldl_failedWithStatuses]
  · rw [known]
    exact length_failedPeers_le acks
  · rw [known]
  · rw [known]
    exact fewer.toNat_double
  · rw [known]
    dsimp only
    unfold holds
    rw [decide_eq_true_iff]
    omega
  · rw [known, evaluate_eq]

/-- A peer that denies two versions and then another one, and after that is silent. -/
theorem evaluateInWords_exact_repeated :
    let key (version : UInt64) : VersionKey := ⟨"loc", "content", version⟩
    let completion : Completion := .ok
      ⟨[⟨⟨"p"⟩, some [(key 1, .failed), (key 2, .ok), (key 3, .failedSecurity)]⟩,
        .withStatus ⟨"p"⟩ (key 4) .failed, .withStatus ⟨"a"⟩ (key 1) .ok, .silent ⟨"p"⟩]⟩
    Fits (answers completion).length ∧
      (evaluateInWords completion).failed = [⟨"p"⟩, ⟨"p"⟩] ∧
      (evaluateInWords completion).failed.length ≤ (evaluateInWords completion).answered ∧
      (evaluateInWords completion).accepted = false := by
  intro key completion
  have fits : Fits (answers completion).length := by decide
  obtain ⟨_, failed, most, _, _, _, same⟩ := evaluateInWords_exact completion fits
  exact ⟨fits, failed.trans (by decide), most, congrArg Decision.accepted same⟩

end Quorate.Quorum
