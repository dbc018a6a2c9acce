import Mathlib
import Quorate.Proofs.Quorum

/-!
The decision on answers that arrive in another order. Only a denial is checked against the peers
that have failed already; a silent answer is listed for every time it is given. So the order
matters exactly for peers that are silent in one answer and deny in another: a denial that comes
before the silence is listed besides it, and one that comes later is not.
-/

namespace Quorate.Quorum

open Store

/-! ### What a peer is listed for -/

def silences (peer : Peer) (acks : List Ack) : Nat :=
  acks.countP fun ack => decide (ack.peer = peer) && ack.statuses.isNone

def refusals (peer : Peer) (acks : List Ack) : Nat :=
  acks.countP fun ack => decide (ack.peer = peer) && denied ack

def deniesFirst (peer : Peer) : List Ack → Bool
  | [] => false
  | ack :: rest =>
      if ack.peer = peer ∧ CountsAgainst ack then denied ack else deniesFirst peer rest

/-- No peer is silent in one answer and denies in another. -/
def Unmixed (acks : List Ack) : Prop :=
  ∀ ack ∈ acks, silences ack.peer acks = 0 ∨ refusals ack.peer acks = 0

/-- A silent answer is the only one of its peer that counts against the put. -/
def SilentOnce (acks : List Ack) : Prop :=
  ∀ ack ∈ acks, 0 < silences ack.peer acks →
    silences ack.peer acks + refusals ack.peer acks = 1

instance : DecidablePred Unmixed := fun acks =>
  inferInstanceAs (Decidable (∀ ack ∈ acks, silences ack.peer acks = 0 ∨ _))

instance : DecidablePred SilentOnce := fun acks =>
  inferInstanceAs (Decidable (∀ ack ∈ acks, 0 < silences ack.peer acks → _ = 1))

variable {acks others : List Ack} {peer : Peer}

private theorem silences_cons (ack : Ack) :
    silences peer (ack :: acks) =
      silences peer acks + if ack.peer = peer ∧ ack.statuses.isNone then 1 else 0 := by
  unfold silences
  rw [List.countP_cons]
  simp only [Bool.and_eq_true, decide_eq_true_eq]

private theorem silences_perm (perm : others.Perm acks) :
    silences peer others = silences peer acks :=
  perm.countP_eq _

private theorem refusals_perm (perm : others.Perm acks) :
    refusals peer others = refusals peer acks :=
  perm.countP_eq _

private theorem silences_pos_iff :
    0 < silences peer acks ↔ ∃ ack ∈ acks, ack.peer = peer ∧ ack.statuses.isNone = true := by
  unfold silences
  rw [List.countP_pos_iff]
  simp only [Bool.and_eq_true, decide_eq_true_eq]

theorem refusals_pos_iff :
    0 < refusals peer acks ↔ ∃ ack ∈ acks, ack.peer = peer ∧ denied ack = true := by
  unfold refusals
  rw [List.countP_pos_iff]
  simp only [Bool.and_eq_true, decide_eq_true_eq]

private theorem Unmixed.apart (unmixed : Unmixed acks) (peer : Peer) :
    silences peer acks = 0 ∨ refusals peer acks = 0 := by
  by_cases silent : 0 < silences peer acks
  · obtain ⟨ack, present, rfl, _⟩ := silences_pos_iff.mp silent
    exact unmixed ack present
  · exact .inl (Nat.eq_zero_of_not_pos silent)

/-! ### One more answer -/

private theorem denied_of_silent {ack : Ack} (silent : ack.statuses.isNone = true) :
    denied ack = false := by
  unfold denied
  rw [Option.isNone_iff_eq_none.mp silent]

theorem countsAgainst_iff_or (ack : Ack) :
    CountsAgainst ack ↔ ack.statuses.isNone = true ∨ denied ack = true := by
  rw [countsAgainst_iff, Bool.or_eq_true]

private theorem failedWith_of_silent (failed : List Peer) {ack : Ack}
    (silent : ack.statuses.isNone = true) : failedWith failed ack = failed ++ [ack.peer] := by
  unfold failedWith
  rw [if_pos silent]

private theorem failedWith_of_listed (failed : List Peer) {ack : Ack}
    (speaks : ack.statuses.isNone = false) (listed : ack.peer ∈ failed) :
    failedWith failed ack = failed := by
  unfold failedWith
  simp [speaks, listed]

theorem count_failedWith_of_ne (failed : List Peer) {ack : Ack} (other : ack.peer ≠ peer) :
    (failedWith failed ack).count peer = failed.count peer := by
  have appended : (failed ++ [ack.peer]).count peer = failed.count peer := by simp [other]
  unfold failedWith
  split
  · exact appended
  · split
    · exact appended
    · rfl

/-! ### All answers -/

/-- A peer is listed for each of its silences, and besides for a denial that finds it unlisted. -/
theorem count_foldl_failedWith (failed : List Peer) :
    (acks.foldl failedWith failed).count peer =
      failed.count peer + silences peer acks +
        if failed.count peer = 0 then (deniesFirst peer acks).toNat else 0 := by
  induction acks generalizing failed with
  | nil => simp [silences, deniesFirst]
  | cons ack rest ih =>
      rw [List.foldl_cons, ih, silences_cons]
      by_cases own : ack.peer = peer
      · subst own
        have counted := countsAgainst_iff_or ack
        have listedAgain : (failed ++ [ack.peer]).count ack.peer = failed.count ack.peer + 1 := by
          rw [List.count_append, List.count_singleton_self]
        cases silent : ack.statuses.isNone with
        | true =>
            have first : deniesFirst ack.peer (ack :: rest) = false := by
              unfold deniesFirst
              rw [if_pos ⟨rfl, counted.mpr (.inl silent)⟩]
              exact denied_of_silent silent
            rw [failedWith_of_silent failed silent, listedAgain, first,
              if_neg (Nat.succ_ne_zero _), if_pos ⟨rfl, rfl⟩, Bool.toNat_false, ite_self]
            omega
        | false =>
            cases denies : denied ack with
            | true =>
                have counts : CountsAgainst ack := counted.mpr (.inr denies)
                by_cases listed : ack.peer ∈ failed
                · have before : failed.count ack.peer ≠ 0 :=
                    Nat.ne_of_gt (List.count_pos_iff.mpr listed)
                  rw [failedWith_of_listed failed silent listed]
                  simp [before]
                · have before : failed.count ack.peer = 0 := List.count_eq_zero.mpr listed
                  have first : deniesFirst ack.peer (ack :: rest) = true := by
                    unfold deniesFirst
                    rw [if_pos ⟨rfl, counts⟩]
                    exact denies
                  rw [failedWith_of_countsAgainst failed ack counts listed, listedAgain, first,
                    before, if_neg (Nat.succ_ne_zero _), if_neg (by simp), if_pos rfl,
                    Bool.toNat_true]
                  omega
            | false =>
                have spared : ¬CountsAgainst ack := by simp [counted, silent, denies]
                rw [failedWith_of_not_countsAgainst failed ack spared]
                simp [deniesFirst, spared]
      · rw [count_failedWith_of_ne failed own]
        simp [deniesFirst, own]

private theorem count_failedPeers :
    (failedPeers acks).count peer = silences peer acks + (deniesFirst peer acks).toNat := by
  unfold failedPeers
  rw [count_foldl_failedWith, List.count_nil, if_pos rfl, Nat.zero_add]

private theorem refusals_pos_of_deniesFirst (denies : deniesFirst peer acks = true) :
    0 < refusals peer acks := by
  rw [refusals_pos_iff]
  induction acks with
  | nil => cases denies
  | cons ack rest ih =>
      unfold deniesFirst at denies
      split at denies
      · next counts => exact ⟨ack, List.mem_cons_self, counts.1, denies⟩
      · obtain ⟨other, present, refuses⟩ := ih denies
        exact ⟨other, List.mem_cons_of_mem ack present, refuses⟩

private theorem deniesFirst_of_refusals_pos (heard : silences peer acks = 0)
    (refuses : 0 < refusals peer acks) : deniesFirst peer acks = true := by
  have speaks : ¬∃ ack ∈ acks, ack.peer = peer ∧ ack.statuses.isNone = true := by
    rw [← silences_pos_iff, heard]
    exact Nat.lt_irrefl 0
  rw [refusals_pos_iff] at refuses
  clear heard
  induction acks with
  | nil =>
      obtain ⟨ack, absent, _⟩ := refuses
      cases absent
  | cons ack rest ih =>
      unfold deniesFirst
      split
      · next counts =>
          rcases (countsAgainst_iff_or ack).mp counts.2 with silent | denies
          · exact absurd ⟨ack, List.mem_cons_self, counts.1, silent⟩ speaks
          · exact denies
      · next spared =>
          obtain ⟨other, present, own, denies⟩ := refuses
          rcases List.mem_cons.mp present with rfl | later
          · exact absurd ⟨own, (countsAgainst_iff_or _).mpr (.inr denies)⟩ spared
          · refine ih ⟨other, later, own, denies⟩ ?_
            rintro ⟨mute, among, silent⟩
            exact speaks ⟨mute, List.mem_cons_of_mem ack among, silent⟩

/-- Who is listed does not depend on the order, only how often. -/
theorem mem_failedPeers_iff_pos :
    peer ∈ failedPeers acks ↔ 0 < silences peer acks + refusals peer acks := by
  rw [← List.count_pos_iff, count_failedPeers]
  cases first : deniesFirst peer acks with
  | true =>
      have refuses := refusals_pos_of_deniesFirst first
      simp only [Bool.toNat_true]
      omega
  | false =>
      by_cases heard : silences peer acks = 0
      · have none : refusals peer acks = 0 := by
          by_contra refuses
          rw [deniesFirst_of_refusals_pos heard (Nat.pos_of_ne_zero refuses)] at first
          cases first
        simp only [Bool.toNat_false]
        omega
      · simp only [Bool.toNat_false]
        omega

/-! ### Orders -/

private theorem exists_perm_cons {ack : Ack} (present : ack ∈ acks) :
    ∃ rest : List Ack, (ack :: rest).Perm acks :=
  ⟨acks.erase ack, (List.perm_cons_erase present).symm⟩

private theorem exists_perm_deniesFirst (refuses : 0 < refusals peer acks) :
    ∃ others : List Ack, others.Perm acks ∧ deniesFirst peer others = true := by
  obtain ⟨ack, present, own, denies⟩ := refusals_pos_iff.mp refuses
  obtain ⟨rest, perm⟩ := exists_perm_cons present
  refine ⟨ack :: rest, perm, ?_⟩
  unfold deniesFirst
  rw [if_pos ⟨own, (countsAgainst_iff_or ack).mpr (.inr denies)⟩]
  exact denies

private theorem exists_perm_not_deniesFirst (silent : 0 < silences peer acks) :
    ∃ others : List Ack, others.Perm acks ∧ deniesFirst peer others = false := by
  obtain ⟨ack, present, own, mute⟩ := silences_pos_iff.mp silent
  obtain ⟨rest, perm⟩ := exists_perm_cons present
  refine ⟨ack :: rest, perm, ?_⟩
  unfold deniesFirst
  rw [if_pos ⟨own, (countsAgainst_iff_or ack).mpr (.inl mute)⟩]
  exact denied_of_silent mute

private theorem deniesFirst_eq (apart : silences peer acks = 0 ∨ refusals peer acks = 0) :
    deniesFirst peer acks = decide (0 < refusals peer acks) := by
  rw [Bool.eq_iff_iff, decide_eq_true_iff]
  refine ⟨refusals_pos_of_deniesFirst, ?_⟩
  intro refuses
  exact deniesFirst_of_refusals_pos (apart.resolve_right (Nat.ne_of_gt refuses)) refuses

private theorem forall_perm_failedPeers_iff :
    (∀ others : List Ack, others.Perm acks → (failedPeers others).Perm (failedPeers acks)) ↔
      Unmixed acks := by
  constructor
  · intro steady ack _present
    by_contra mixed
    have silent : 0 < silences ack.peer acks := by omega
    have refuses : 0 < refusals ack.peer acks := by omega
    obtain ⟨first, orderFirst, before⟩ := exists_perm_deniesFirst refuses
    obtain ⟨last, orderLast, after⟩ := exists_perm_not_deniesFirst silent
    have often := (steady first orderFirst).trans (steady last orderLast).symm
    have counts := often.count_eq ack.peer
    rw [count_failedPeers, count_failedPeers, silences_perm orderFirst, silences_perm orderLast,
      before, after] at counts
    simp at counts
  · intro unmixed others perm
    rw [List.perm_iff_count]
    intro peer
    have apart := unmixed.apart peer
    have apartToo : silences peer others = 0 ∨ refusals peer others = 0 := by
      rw [silences_perm perm, refusals_perm perm]
      exact apart
    rw [count_failedPeers, count_failedPeers, deniesFirst_eq apart, deniesFirst_eq apartToo,
      silences_perm perm, refusals_perm perm]

private theorem forall_perm_nodup_iff :
    (∀ others : List Ack, others.Perm acks → (failedPeers others).Nodup) ↔ SilentOnce acks := by
  constructor
  · intro nodup ack _present silent
    by_cases refuses : 0 < refusals ack.peer acks
    · obtain ⟨first, perm, before⟩ := exists_perm_deniesFirst refuses
      have once := List.nodup_iff_count_le_one.mp (nodup first perm) ack.peer
      rw [count_failedPeers, silences_perm perm, before, Bool.toNat_true] at once
      omega
    · have once := List.nodup_iff_count_le_one.mp (nodup acks (.refl acks)) ack.peer
      rw [count_failedPeers] at once
      omega
  · intro once others perm
    rw [List.nodup_iff_count_le_one]
    intro peer
    rw [count_failedPeers, silences_perm perm]
    by_cases silent : 0 < silences peer acks
    · obtain ⟨ack, present, rfl, _⟩ := silences_pos_iff.mp silent
      have only := once ack present silent
      cases first : deniesFirst ack.peer others with
      | true =>
          have refuses := refusals_pos_of_deniesFirst first
          rw [refusals_perm perm] at refuses
          omega
      | false =>
          rw [Bool.toNat_false]
          omega
    · have most := Bool.toNat_le (deniesFirst peer others)
      omega

/-! ### The decision -/

/-- Answers in another order come from as many peers, and the same peers fail. How often a peer is
listed depends on the order only where a peer is both silent and denying; without such a peer the
decision stands, and nobody is listed twice if, besides, nobody is silent twice. -/
theorem evaluate_order (acks : List Ack) :
    (∀ others : List Ack, others.Perm acks →
      let decision := evaluate (.ok ⟨others⟩)
      decision.answered = (evaluate (.ok ⟨acks⟩)).answered ∧
        (∀ peer, peer ∈ decision.failed ↔ peer ∈ (evaluate (.ok ⟨acks⟩)).failed) ∧
        (∀ peer, decision.failed.count peer =
          silences peer acks + (deniesFirst peer others).toNat) ∧
        (Unmixed acks → decision.accepted = (evaluate (.ok ⟨acks⟩)).accepted)) ∧
      ((∀ others : List Ack, others.Perm acks →
        (evaluate (.ok ⟨others⟩)).failed.Perm (evaluate (.ok ⟨acks⟩)).failed) ↔ Unmixed acks) ∧
      ((∀ others : List Ack, others.Perm acks → (evaluate (.ok ⟨others⟩)).failed.Nodup) ↔
        SilentOnce acks) := by
  simp only [evaluate_eq, answers]
  refine ⟨?_, forall_perm_failedPeers_iff, forall_perm_nodup_iff⟩
  intro others perm
  refine ⟨perm.length_eq, ?_, ?_, ?_⟩
  · intro peer
    rw [mem_failedPeers_iff_pos, mem_failedPeers_iff_pos, silences_perm perm, refusals_perm perm]
  · intro peer
    rw [count_failedPeers, silences_perm perm]
  · intro unmixed
    have listed := forall_perm_failedPeers_iff.mpr unmixed others perm
    rw [perm.length_eq, listed.length_eq]

/-- A peer denies two versions in two answers, another one is silent, and the answers come in the
opposite order. -/
theorem evaluate_order_reversed :
    let first : VersionKey := ⟨"loc", "content", 1⟩
    let second : VersionKey := ⟨"loc", "content", 2⟩
    let acks : List Ack :=
      [.withStatus ⟨"twice"⟩ first .failed, .silent ⟨"mute"⟩, .withStatus ⟨"a"⟩ first .ok,
        .withStatus ⟨"twice"⟩ second .failedSecurity, .withStatus ⟨"b"⟩ first .ok]
    acks.reverse.Perm acks ∧ Unmixed acks ∧ SilentOnce acks ∧
      (evaluate (.ok ⟨acks.reverse⟩)).failed.Perm (evaluate (.ok ⟨acks⟩)).failed ∧
      (evaluate (.ok ⟨acks.reverse⟩)).failed.Nodup ∧
      (evaluate (.ok ⟨acks.reverse⟩)).accepted = (evaluate (.ok ⟨acks⟩)).accepted ∧
      (evaluate (.ok ⟨acks⟩)).accepted = true := by
  intro first second acks
  have perm : acks.reverse.Perm acks := List.reverse_perm acks
  have unmixed : Unmixed acks := by decide
  have once : SilentOnce acks := by decide
  obtain ⟨orders, listed, nodup⟩ := evaluate_order acks
  obtain ⟨_answered, _same, _counts, accepted⟩ := orders acks.reverse perm
  exact ⟨perm, unmixed, once, listed.mpr unmixed _ perm, nodup.mpr once _ perm,
    accepted unmixed, by decide⟩

/-- A peer that denies and is silent afterwards is listed twice, and its put is not accepted; had
it been silent first, the put would be. -/
theorem silence_after_denial_fails_twice :
    let key : VersionKey := ⟨"loc", "content", 1⟩
    let denial : Ack := .withStatus ⟨"p"⟩ key .failed
    let others : List Ack := [.withStatus ⟨"a"⟩ key .ok, .withStatus ⟨"b"⟩ key .ok]
    let acks : List Ack := denial :: .silent ⟨"p"⟩ :: others
    let swapped : List Ack := .silent ⟨"p"⟩ :: denial :: others
    swapped.Perm acks ∧
      evaluate (.ok ⟨acks⟩) = ⟨[⟨"p"⟩, ⟨"p"⟩], 4, false⟩ ∧
      evaluate (.ok ⟨swapped⟩) = ⟨[⟨"p"⟩], 4, true⟩ :=
  ⟨.swap _ _ _, rfl, rfl⟩

end Quorate.Quorum
