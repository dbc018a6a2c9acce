import Quorate.Placement

/-!
Rankings by weight. A ranking is its peers in descending order of their weights, and where no two
of them weigh the same there is only one such order, however the peers were listed.
-/

namespace Quorate.Placement

/-- No two of the peers weigh the same. -/
def Apart (weigh : Peer → UInt64) (peers : List Peer) : Prop :=
  ∀ left, left ∈ peers → ∀ right, right ∈ peers → weigh left = weigh right → left = right

variable (weigh : Peer → UInt64) (peers : List Peer)

theorem rankBy_perm : (rankBy weigh peers).Perm peers :=
  List.mergeSort_perm peers _

theorem mem_rankBy {peer : Peer} : peer ∈ rankBy weigh peers ↔ peer ∈ peers :=
  (rankBy_perm weigh peers).mem_iff

theorem length_selectBy (count : Nat) :
    (selectBy weigh peers count).length = min count peers.length :=
  List.length_take.trans (congrArg (min count) (rankBy_perm weigh peers).length_eq)

theorem selectBy_eq_rankBy {count : Nat} (enough : peers.length ≤ count) :
    selectBy weigh peers count = rankBy weigh peers :=
  List.take_of_length_le (Nat.le_trans (Nat.le_of_eq (rankBy_perm weigh peers).length_eq) enough)

theorem descending_trans (first second third : Peer)
    (before : decide (weigh second ≤ weigh first) = true)
    (after : decide (weigh third ≤ weigh second) = true) :
    decide (weigh third ≤ weigh first) = true := by
  rw [decide_eq_true_iff] at before after ⊢
  exact UInt64.le_trans after before

theorem descending_total (first second : Peer) :
    (decide (weigh second ≤ weigh first) || decide (weigh first ≤ weigh second)) = true := by
  rw [Bool.or_eq_true, decide_eq_true_iff, decide_eq_true_iff]
  exact UInt64.le_total _ _

theorem rankBy_descending :
    (rankBy weigh peers).Pairwise fun left right => weigh right ≤ weigh left := by
  have sorted : (rankBy weigh peers).Pairwise fun left right =>
      decide (weigh right ≤ weigh left) = true :=
    List.pairwise_mergeSort (descending_trans weigh) (descending_total weigh) peers
  exact sorted.imp of_decide_eq_true

variable {weigh peers}

private theorem Apart.perm {others : List Peer} (apart : Apart weigh peers)
    (same : others.Perm peers) : Apart weigh others :=
  fun left among right also =>
    apart left (same.mem_iff.mp among) right (same.mem_iff.mp also)

theorem Apart.rankBy_eq {order : List Peer} (apart : Apart weigh peers)
    (same : order.Perm peers)
    (descending : order.Pairwise fun left right => weigh right ≤ weigh left) :
    rankBy weigh peers = order := by
  refine List.Perm.eq_of_pairwise ?_ (rankBy_descending weigh peers) descending
    ((rankBy_perm weigh peers).trans same.symm)
  intro left right among also after before
  exact apart left ((mem_rankBy weigh peers).mp among) right (same.mem_iff.mp also)
    (UInt64.le_antisymm before after)

/-- How the peers were listed does not matter. -/
theorem Apart.rankBy_congr {others : List Peer} (apart : Apart weigh peers)
    (same : others.Perm peers) : rankBy weigh others = rankBy weigh peers :=
  (apart.perm same).rankBy_eq ((rankBy_perm weigh peers).trans same.symm)
    (rankBy_descending weigh peers)

/-! ### The first peer of a ranking -/

theorem head?_rankBy_eq_none_iff : (rankBy weigh peers).head? = none ↔ peers = [] := by
  rw [List.head?_eq_none_iff]
  constructor
  · intro none
    have same := rankBy_perm weigh peers
    rw [none] at same
    exact same.symm.eq_nil
  · rintro rfl
    exact List.mergeSort_nil

theorem Apart.head?_rankBy_eq_some_iff (apart : Apart weigh peers) {peer : Peer} :
    (rankBy weigh peers).head? = some peer ↔
      peer ∈ peers ∧ ∀ other, other ∈ peers → other ≠ peer → weigh other < weigh peer := by
  have heaviest : ∀ first, (rankBy weigh peers).head? = some first →
      first ∈ peers ∧ ∀ other, other ∈ peers → other ≠ first → weigh other < weigh first := by
    intro first found
    obtain ⟨rest, ranking⟩ := List.head?_eq_some_iff.mp found
    have among : first ∈ peers := by
      rw [← mem_rankBy weigh peers, ranking]
      exact List.mem_cons_self
    refine ⟨among, ?_⟩
    intro other also different
    have ranked := (mem_rankBy weigh peers).mpr also
    have descending := rankBy_descending weigh peers
    rw [ranking] at ranked descending
    have behind := (List.pairwise_cons.mp descending).1 other
      ((List.mem_cons.mp ranked).resolve_left different)
    exact UInt64.lt_of_le_of_ne behind fun same => different (apart other also first among same)
  constructor
  · exact heaviest peer
  · rintro ⟨among, most⟩
    cases found : (rankBy weigh peers).head? with
    | none =>
        rw [head?_rankBy_eq_none_iff.mp found] at among
        cases among
    | some first =>
        obtain ⟨also, mostToo⟩ := heaviest first found
        by_cases same : first = peer
        · rw [same]
        · have lighter := most first also same
          have heavier := mostToo peer among (Ne.symm same)
          exact absurd heavier (UInt64.lt_asymm lighter)

end Quorate.Placement
