import Mathlib
import Quorate.Quorum

/-!
The decision on a completed put, said without the loop that computes it. For answers from distinct
peers the failed peers are those whose answers count against the put, in the order of the answers,
and nothing but the denials in the answers has a say.
-/

namespace Quorate.Quorum

open Store

/-- An answer counts against a put when it brings no statuses, or a denial for whatever key. -/
def CountsAgainst (ack : Ack) : Prop :=
  ack.statuses = none ∨
    ∃ statuses, ack.statuses = some statuses ∧
      ∃ entry, entry ∈ statuses ∧ (entry.2 = .failed ∨ entry.2 = .failedSecurity)

private theorem denies_iff (status : Status) :
    status.denies = true ↔ status = .failed ∨ status = .failedSecurity := by
  cases status <;> simp [Status.denies]

theorem countsAgainst_iff (ack : Ack) :
    CountsAgainst ack ↔ (ack.statuses.isNone || denied ack) = true := by
  unfold CountsAgainst denied
  cases ack.statuses with
  | none => simp
  | some statuses => simp [denies_iff]

instance : DecidablePred CountsAgainst := fun ack =>
  decidable_of_iff _ (countsAgainst_iff ack).symm

/-! ### One more answer -/

theorem failedWith_of_countsAgainst (failed : List Peer) (ack : Ack)
    (counts : CountsAgainst ack) (absent : ack.peer ∉ failed) :
    failedWith failed ack = failed ++ [ack.peer] := by
  rw [countsAgainst_iff] at counts
  unfold failedWith
  cases silent : ack.statuses.isNone with
  | true => rw [if_pos rfl]
  | false =>
      rw [silent, Bool.false_or] at counts
      rw [if_neg Bool.false_ne_true, if_pos]
      simp [counts, absent]

theorem failedWith_of_not_countsAgainst (failed : List Peer) (ack : Ack)
    (spared : ¬CountsAgainst ack) : failedWith failed ack = failed := by
  rw [countsAgainst_iff, Bool.not_eq_true, Bool.or_eq_false_iff] at spared
  unfold failedWith
  rw [spared.1, spared.2, Bool.false_and, if_neg Bool.false_ne_true, if_neg Bool.false_ne_true]

def denials (ack : Ack) : Ack :=
  { ack with statuses := ack.statuses.map fun statuses => statuses.filter fun entry =>
      entry.2.denies }

private theorem denied_denials (ack : Ack) : denied (denials ack) = denied ack := by
  unfold denied denials
  cases ack.statuses with
  | none => rfl
  | some statuses =>
      change (statuses.filter fun entry => entry.2.denies).any (fun entry => entry.2.denies) =
        statuses.any fun entry => entry.2.denies
      rw [List.any_filter]
      simp only [Bool.and_self]

private theorem failedWith_denials (failed : List Peer) (ack : Ack) :
    failedWith failed (denials ack) = failedWith failed ack := by
  have silent : (denials ack).statuses.isNone = ack.statuses.isNone := Option.isNone_map
  unfold failedWith
  rw [silent, denied_denials]
  rfl

/-! ### All answers -/

private theorem foldl_failedWith (acks : List Ack) (failed : List Peer)
    (distinct : (acks.map Ack.peer).Nodup) (absent : ∀ ack ∈ acks, ack.peer ∉ failed) :
    acks.foldl failedWith failed = failed ++ (acks.filter CountsAgainst).map Ack.peer := by
  induction acks generalizing failed with
  | nil => simp
  | cons ack rest ih =>
      rw [List.map_cons, List.nodup_cons] at distinct
      have here : ack.peer ∉ failed := absent ack List.mem_cons_self
      rw [List.foldl_cons]
      by_cases counts : CountsAgainst ack
      · have later : ∀ other ∈ rest, other.peer ∉ failed ++ [ack.peer] := by
          intro other member listed
          rcases List.mem_append.mp listed with before | same
          · exact absent other (List.mem_cons_of_mem ack member) before
          · rw [List.mem_singleton] at same
            exact distinct.1 (same ▸ List.mem_map_of_mem member)
        rw [failedWith_of_countsAgainst failed ack counts here, ih _ distinct.2 later]
        simp [counts]
      · have later : ∀ other ∈ rest, other.peer ∉ failed :=
          fun other member => absent other (List.mem_cons_of_mem ack member)
        rw [failedWith_of_not_countsAgainst failed ack counts, ih _ distinct.2 later]
        simp [counts]

theorem failedPeers_eq (acks : List Ack) (distinct : (acks.map Ack.peer).Nodup) :
    failedPeers acks = (acks.filter CountsAgainst).map Ack.peer := by
  unfold failedPeers
  rw [foldl_failedWith acks [] distinct fun _ _ => List.not_mem_nil]
  rfl

private theorem failedPeers_denials (acks : List Ack) :
    failedPeers (acks.map denials) = failedPeers acks := by
  unfold failedPeers
  rw [List.foldl_map]
  congr 1
  funext failed ack
  exact failedWith_denials failed ack

theorem mem_failedPeers_iff (acks : List Ack) (distinct : (acks.map Ack.peer).Nodup)
    (ack : Ack) (member : ack ∈ acks) : ack.peer ∈ failedPeers acks ↔ CountsAgainst ack := by
  rw [failedPeers_eq acks distinct]
  constructor
  · intro listed
    obtain ⟨other, present, same⟩ := List.mem_map.mp listed
    rw [List.mem_filter, decide_eq_true_iff] at present
    have equal : other = ack := List.inj_on_of_nodup_map distinct present.1 member same
    exact equal ▸ present.2
  · intro counts
    exact List.mem_map_of_mem (List.mem_filter.mpr ⟨member, decide_eq_true counts⟩)

/-! ### The decision -/

def answers : Completion → List Ack
  | .error _ => []
  | .ok response => response.acks

theorem evaluate_eq (completion : Completion) :
    evaluate completion =
      ⟨failedPeers (answers completion), (answers completion).length,
        holds (failedPeers (answers completion)).length (answers completion).length⟩ := by
  cases completion with
  | error failure => rfl
  | ok response =>
      obtain ⟨acks⟩ := response
      cases acks with
      | nil => rfl
      | cons ack rest => rfl

private theorem holds_iff_rat (failed answered : Nat) :
    holds failed answered = true ↔ (failed : ℚ) < (answered : ℚ) / 2 := by
  unfold holds
  rw [decide_eq_true_iff, lt_div_iff₀ (by norm_num)]
  exact_mod_cast Iff.rfl

private theorem evaluate_denials (acks others : List Ack)
    (same : others.map denials = acks.map denials) :
    evaluate (.ok ⟨others⟩) = evaluate (.ok ⟨acks⟩) := by
  have failed : failedPeers others = failedPeers acks := by
    rw [← failedPeers_denials others, same, failedPeers_denials acks]
  have answered : others.length = acks.length := by
    simpa only [List.length_map] using congrArg List.length same
  rw [evaluate_eq, evaluate_eq]
  simp only [answers, failed, answered]

private theorem length_failedPeers_add (acks : List Ack) (distinct : (acks.map Ack.peer).Nodup) :
    (failedPeers acks).length + (acks.filter fun ack => ack.peer ∉ failedPeers acks).length =
      acks.length := by
  have others : (acks.filter fun ack => ack.peer ∉ failedPeers acks) =
      acks.filter fun ack => !decide (CountsAgainst ack) := by
    apply List.filter_congr
    intro ack member
    rw [← decide_not, decide_eq_decide, mem_failedPeers_iff acks distinct ack member]
  rw [others, failedPeers_eq acks distinct, List.length_map]
  exact (List.length_eq_length_filter_add _).symm

/-- When a put is accepted, those who answered and did not fail it are more than half. -/
theorem majority_of_accepted (acks : List Ack) (distinct : (acks.map Ack.peer).Nodup)
    (accepted : (evaluate (.ok ⟨acks⟩)).accepted = true) (sound : List Peer)
    (others : ∀ ack, ack ∈ acks → ack.peer ∉ failedPeers acks → ack.peer ∈ sound) :
    acks.length < 2 * ((acks.map Ack.peer).filter (· ∈ sound)).length := by
  rw [evaluate_eq] at accepted
  have minority : (failedPeers acks).length * 2 < acks.length := of_decide_eq_true accepted
  have all := length_failedPeers_add acks distinct
  have fewer : (acks.filter fun ack => ack.peer ∉ failedPeers acks).length ≤
      ((acks.map Ack.peer).filter (· ∈ sound)).length := by
    rw [List.filter_map, List.length_map, ← List.countP_eq_length_filter,
      ← List.countP_eq_length_filter]
    apply List.countP_mono_left
    intro ack present unlisted
    rw [decide_eq_true_iff] at unlisted
    exact decide_eq_true (others ack present unlisted)
  omega

/-- A failed call, an empty response and every other response from distinct peers are decided by
the denials alone. The peers that count against the put are listed once, in the order of their
answers, and have to be fewer than half. -/
theorem evaluate_of_distinct_peers (completion : Completion)
    (distinct : ((answers completion).map Ack.peer).Nodup) :
    let acks := answers completion
    let decision := evaluate completion
    (acks = [] → decision = ⟨[], 0, false⟩) ∧
      decision.failed = (acks.filter CountsAgainst).map Ack.peer ∧
      decision.failed.Nodup ∧
      decision.answered = acks.length ∧
      (decision.accepted = true ↔
        (decision.failed.length : ℚ) < (decision.answered : ℚ) / 2) ∧
      (∀ others : List Ack, others.map denials = acks.map denials →
        evaluate (.ok ⟨others⟩) = decision) ∧
      (decision.accepted = true →
        acks.length < 2 * (acks.filter fun ack => ack.peer ∉ decision.failed).length) := by
  intro acks decision
  have known : decision =
      ⟨failedPeers acks, acks.length, holds (failedPeers acks).length acks.length⟩ :=
    evaluate_eq completion
  have listed : failedPeers acks = (acks.filter CountsAgainst).map Ack.peer :=
    failedPeers_eq acks distinct
  refine ⟨?_, ?_, ?_, ?_, ?_, ?_, ?_⟩
  · intro empty
    rw [known, empty]
    rfl
  · rw [known]
    exact listed
  · rw [known]
    change (failedPeers acks).Nodup
    rw [listed]
    exact distinct.sublist (List.Sublist.map Ack.peer List.filter_sublist)
  · rw [known]
  · rw [known]
    exact holds_iff_rat _ _
  · intro others same
    rw [evaluate_denials acks others same, evaluate_eq, known]
    rfl
  · intro accepted
    rw [known] at accepted ⊢
    have minority : (failedPeers acks).length * 2 < acks.length := of_decide_eq_true accepted
    have total := length_failedPeers_add acks distinct
    change acks.length < 2 * (acks.filter fun ack => ack.peer ∉ failedPeers acks).length
    omega

/-- A peer that denies two versions is listed once, and neither a fork nor an unknown code nor an
empty map counts. -/
theorem evaluate_mixed_statuses :
    let first : VersionKey := ⟨"loc", "content", 1⟩
    let second : VersionKey := ⟨"loc", "content", 2⟩
    let completion : Completion := .ok
      ⟨[⟨⟨"twice"⟩, some [(first, .failed), (second, .failedSecurity)]⟩, ⟨⟨"mute"⟩, none⟩,
        ⟨⟨"fork"⟩, some [(first, .versionFork), (second, .ok)]⟩, ⟨⟨"bare"⟩, some []⟩,
        ⟨⟨"odd"⟩, some [(first, .unknown 99)]⟩]⟩
    ((answers completion).map Ack.peer).Nodup ∧
      (evaluate completion).failed = [⟨"twice"⟩, ⟨"mute"⟩] ∧
      (evaluate completion).accepted = true := by
  intro first second completion
  have distinct : ((answers completion).map Ack.peer).Nodup := by decide
  obtain ⟨_, failed, _, answered, accepted, _, _⟩ :=
    evaluate_of_distinct_peers completion distinct
  have listed : (evaluate completion).failed = [⟨"twice"⟩, ⟨"mute"⟩] :=
    failed.trans (by decide)
  refine ⟨distinct, listed, accepted.mpr ?_⟩
  rw [listed, answered]
  change ((2 : Nat) : ℚ) < ((5 : Nat) : ℚ) / 2
  norm_num

end Quorate.Quorum
