import Quorate.Proofs.Quorum.Order

/-!
The decision when one answer gets worse, or when an answer is added that counts against nobody.
An earlier answer of a peer changes what a later one adds to the list, so a worse answer may keep a
later denial from being listed. It then is listed itself: how often a peer is listed in the end
grows with how often it is listed at any time before.
-/

namespace Quorate.Quorum

open Store

/-! ### Worse answers -/

/-- One change for the worse: a status turns into a denial, a denial is added, or nothing is given
back at all. -/
inductive Worsens : Option Statuses → Option Statuses → Prop
  | turned (front back : Statuses) (key : VersionKey) (old new : Status)
      (denies : new = .failed ∨ new = .failedSecurity) :
      Worsens (some (front ++ (key, old) :: back)) (some (front ++ (key, new) :: back))
  | added (statuses : Statuses) (key : VersionKey) (status : Status)
      (denies : status = .failed ∨ status = .failedSecurity) :
      Worsens (some statuses) (some (statuses.insert key status))
  | withheld (statuses : Statuses) : Worsens (some statuses) none

def Worse : Option Statuses → Option Statuses → Prop := Relation.ReflTransGen Worsens

private theorem mem_insert_self (statuses : Statuses) (key : VersionKey) (status : Status) :
    (key, status) ∈ statuses.insert key status := by
  induction statuses with
  | nil => exact List.mem_cons_self
  | cons entry rest ih =>
      unfold Statuses.insert
      split
      · exact List.mem_cons_self
      · split
        · exact List.mem_cons_self
        · exact List.mem_cons_of_mem entry ih

private theorem Worsens.countsAgainst {before after : Option Statuses}
    (worsens : Worsens before after) (peer : Peer) : CountsAgainst ⟨peer, after⟩ := by
  cases worsens with
  | turned front back key old new denies =>
      exact .inr ⟨_, rfl, (key, new), List.mem_append_right front List.mem_cons_self, denies⟩
  | added statuses key status denies =>
      exact .inr ⟨_, rfl, (key, status), mem_insert_self statuses key status, denies⟩
  | withheld statuses => exact .inl rfl

/-! ### How often a peer is listed -/

/-- How often the peer of an answer is listed after it, when it was listed so often before. -/
def relisted (ack : Ack) (listed : Nat) : Nat :=
  if ack.statuses.isNone then listed + 1
  else if denied ack then max listed 1
  else listed

private theorem count_failedWith (failed : List Peer) (ack : Ack) (peer : Peer) :
    (failedWith failed ack).count peer =
      if ack.peer = peer then relisted ack (failed.count peer) else failed.count peer := by
  by_cases own : ack.peer = peer
  · subst own
    rw [if_pos rfl]
    unfold failedWith relisted
    cases ack.statuses.isNone with
    | true => simp
    | false =>
        cases denied ack with
        | false => simp
        | true =>
            by_cases listed : ack.peer ∈ failed
            · simp [listed]
            · have before : failed.count ack.peer = 0 := List.count_eq_zero.mpr listed
              simp [listed, before]
  · rw [if_neg own]
    exact count_failedWith_of_ne failed own

section Relisted

variable (ack : Ack) {listed more : Nat}

private theorem relisted_mono (le : listed ≤ more) : relisted ack listed ≤ relisted ack more := by
  unfold relisted
  split
  · omega
  · split <;> omega

private theorem relisted_le_succ (le : more ≤ listed + 1) :
    relisted ack more ≤ relisted ack listed + 1 := by
  unfold relisted
  split
  · omega
  · split <;> omega

private theorem le_relisted (listed : Nat) : listed ≤ relisted ack listed := by
  unfold relisted
  split
  · omega
  · split <;> omega

private theorem relisted_le (listed : Nat) : relisted ack listed ≤ listed + 1 := by
  unfold relisted
  split
  · omega
  · split <;> omega

private theorem relisted_le_of_countsAgainst (speaks : ack.statuses.isNone = false) {worse : Ack}
    (counts : CountsAgainst worse) (listed : Nat) :
    relisted ack listed ≤ relisted worse listed := by
  have most : relisted ack listed ≤ max listed 1 := by
    unfold relisted
    rw [speaks, if_neg Bool.false_ne_true]
    split <;> omega
  have least : max listed 1 ≤ relisted worse listed := by
    unfold relisted
    rcases (countsAgainst_iff_or worse).mp counts with silent | denies
    · rw [if_pos silent]
      omega
    · rw [if_pos denies]
      split <;> omega
  exact Nat.le_trans most least

end Relisted

private theorem Worsens.relisted_le {before after : Option Statuses}
    (worsens : Worsens before after) (peer : Peer) (listed : Nat) :
    relisted ⟨peer, before⟩ listed ≤ relisted ⟨peer, after⟩ listed := by
  refine relisted_le_of_countsAgainst _ ?_ (worsens.countsAgainst peer) listed
  cases worsens <;> rfl

private theorem Worse.relisted_le {before after : Option Statuses} (worse : Worse before after)
    (peer : Peer) (listed : Nat) :
    relisted ⟨peer, before⟩ listed ≤ relisted ⟨peer, after⟩ listed := by
  induction worse with
  | refl => exact Nat.le_refl _
  | tail _ worsens ih => exact Nat.le_trans ih (worsens.relisted_le peer listed)

/-! ### Later answers -/

variable {failed more : List Peer} {peer : Peer}

private theorem count_foldl_mono (acks : List Ack) (le : failed.count peer ≤ more.count peer) :
    (acks.foldl failedWith failed).count peer ≤ (acks.foldl failedWith more).count peer := by
  induction acks generalizing failed more with
  | nil => exact le
  | cons ack rest ih =>
      apply ih
      rw [count_failedWith, count_failedWith]
      split
      · exact relisted_mono ack le
      · exact le

private theorem count_foldl_le_succ (acks : List Ack)
    (le : more.count peer ≤ failed.count peer + 1) :
    (acks.foldl failedWith more).count peer ≤ (acks.foldl failedWith failed).count peer + 1 := by
  induction acks generalizing failed more with
  | nil => exact le
  | cons ack rest ih =>
      apply ih
      rw [count_failedWith, count_failedWith]
      split
      · exact relisted_le_succ ack le
      · exact le

/-! ### One answer among others -/

variable (front back : List Ack)

private theorem failedPeers_between (ack : Ack) :
    failedPeers (front ++ ack :: back) =
      back.foldl failedWith (failedWith (failedPeers front) ack) := by
  unfold failedPeers
  rw [List.foldl_append, List.foldl_cons]

private theorem failedPeers_of_spared {ack : Ack} (spared : ¬CountsAgainst ack) :
    failedPeers (front ++ ack :: back) = failedPeers (front ++ back) := by
  rw [failedPeers_between, failedWith_of_not_countsAgainst _ ack spared]
  unfold failedPeers
  rw [List.foldl_append]

/-- Nobody is listed less often for a worse answer. -/
theorem subperm_of_worse (peer : Peer) {before after : Option Statuses}
    (worse : Worse before after) :
    (failedPeers (front ++ ⟨peer, before⟩ :: back)).Subperm
      (failedPeers (front ++ ⟨peer, after⟩ :: back)) := by
  rw [List.subperm_ext_iff]
  intro listed _present
  rw [failedPeers_between, failedPeers_between]
  apply count_foldl_mono
  rw [count_failedWith, count_failedWith]
  split
  · exact worse.relisted_le peer _
  · exact Nat.le_refl _

/-- Whatever the answer is, its peer is listed at most once more for it, and nobody else is. -/
theorem subperm_cons_of_answer (peer : Peer) (before after : Option Statuses) :
    (failedPeers (front ++ ⟨peer, after⟩ :: back)).Subperm
      (peer :: failedPeers (front ++ ⟨peer, before⟩ :: back)) := by
  rw [List.subperm_ext_iff]
  intro listed _present
  rw [failedPeers_between, failedPeers_between, List.count_cons]
  by_cases own : peer = listed
  · subst own
    rw [if_pos (beq_self_eq_true peer)]
    apply count_foldl_le_succ
    rw [count_failedWith, count_failedWith, if_pos rfl, if_pos rfl]
    exact Nat.le_trans (relisted_le _ _) (Nat.succ_le_succ (le_relisted _ _))
  · rw [if_neg (by simpa using own), Nat.add_zero]
    apply count_foldl_mono
    rw [count_failedWith, count_failedWith, if_neg own, if_neg own]

/-! ### The decision -/

private theorem holds_of_le {failed more answered : Nat} (le : failed ≤ more)
    (enough : holds more answered = true) : holds failed answered = true := by
  have less : more * 2 < answered := of_decide_eq_true enough
  exact decide_eq_true (by omega)

private theorem holds_succ {failed answered : Nat} (enough : holds failed answered = true) :
    holds failed (answered + 1) = true := by
  have less : failed * 2 < answered := of_decide_eq_true enough
  exact decide_eq_true (by omega)

/-- When an answer gets worse, wherever it stands, its peer is listed as often as before or once
more and everybody else as often as before, and a put that was not accepted is not accepted now. An
answer that counts against nobody adds nobody to the list, and a put that was accepted without it
is accepted with it. -/
theorem evaluate_monotone (front back : List Ack) (peer : Peer) (before : Option Statuses) :
    let decision := evaluate (.ok ⟨front ++ ⟨peer, before⟩ :: back⟩)
    let without := evaluate (.ok ⟨front ++ back⟩)
    (∀ after, Worse before after →
      let worse := evaluate (.ok ⟨front ++ ⟨peer, after⟩ :: back⟩)
      worse.answered = decision.answered ∧
        decision.failed.length ≤ worse.failed.length ∧
        decision.failed.Subperm worse.failed ∧
        worse.failed.Subperm (peer :: decision.failed) ∧
        (decision.accepted = false → worse.accepted = false)) ∧
      (¬CountsAgainst ⟨peer, before⟩ →
        decision.failed = without.failed ∧
          (without.accepted = true → decision.accepted = true)) := by
  simp only [evaluate_eq, answers]
  constructor
  · intro after worse
    have listed := subperm_of_worse front back peer worse
    have answered : (front ++ ⟨peer, after⟩ :: back).length =
        (front ++ ⟨peer, before⟩ :: back).length := by
      rw [List.length_append, List.length_append]
      rfl
    refine ⟨answered, listed.length_le, listed,
      subperm_cons_of_answer front back peer before after, ?_⟩
    intro refused
    rw [answered]
    refine Bool.eq_false_iff.mpr fun accepted => ?_
    rw [holds_of_le listed.length_le accepted] at refused
    cases refused
  · intro spared
    have listed := failedPeers_of_spared front back spared
    have answered : (front ++ ⟨peer, before⟩ :: back).length = (front ++ back).length + 1 := by
      rw [List.length_append, List.length_append]
      rfl
    refine ⟨listed, ?_⟩
    intro accepted
    rw [listed, answered]
    exact holds_succ accepted

/-- A peer that has denied already answers `ok` for another version, and then not at all. -/
theorem evaluate_monotone_deniedBefore :
    let first : VersionKey := ⟨"loc", "content", 1⟩
    let second : VersionKey := ⟨"loc", "content", 2⟩
    let denial : Ack := .withStatus ⟨"p"⟩ first .failed
    let answer : Option Statuses := some [(second, .ok)]
    let others : List Ack := [.withStatus ⟨"a"⟩ first .ok, .withStatus ⟨"b"⟩ first .ok]
    Worse answer none ∧ ¬CountsAgainst ⟨⟨"p"⟩, answer⟩ ∧
      (evaluate (.ok ⟨[denial, ⟨⟨"p"⟩, answer⟩]⟩)).accepted = false ∧
      (evaluate (.ok ⟨[denial, .silent ⟨"p"⟩]⟩)).accepted = false ∧
      (evaluate (.ok ⟨denial :: others⟩)).accepted = true ∧
      (evaluate (.ok ⟨denial :: ⟨⟨"p"⟩, answer⟩ :: others⟩)).accepted = true := by
  intro first second denial answer others
  have worse : Worse answer none :=
    .tail (.single (.added [(second, .ok)] first .failed (.inl rfl))) (.withheld _)
  have spared : ¬CountsAgainst ⟨⟨"p"⟩, answer⟩ := by decide
  have refused : (evaluate (.ok ⟨[denial, ⟨⟨"p"⟩, answer⟩]⟩)).accepted = false := by decide
  have accepted : (evaluate (.ok ⟨denial :: others⟩)).accepted = true := by decide
  obtain ⟨_, _, _, _, still⟩ :=
    (evaluate_monotone [denial] [] ⟨"p"⟩ answer).1 none worse
  obtain ⟨_, also⟩ := (evaluate_monotone [denial] others ⟨"p"⟩ answer).2 spared
  exact ⟨worse, spared, refused, still refused, accepted, also accepted⟩

end Quorate.Quorum
