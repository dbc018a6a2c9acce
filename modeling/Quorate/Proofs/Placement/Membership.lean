import Mathlib.Data.List.Basic
import Quorate.Proofs.Placement

/-!
Rankings of fewer peers. There is only one order of descending weights in which peers of equal
weight stand as they were listed, and it stays such an order when peers are left out. So when a peer
goes, the ranking of the others is what remains of the old one, and of a selection only the place of
that peer is filled anew.
-/

namespace Quorate.Placement

/-- The peers in descending order, and those of equal weight as they were listed. -/
structure Ranks (weigh : Peer → UInt64) (peers order : List Peer) : Prop where
  perm : order.Perm peers
  descending : order.Pairwise fun left right => weigh right ≤ weigh left
  ties : ∀ heavy, (order.filter fun peer => weigh peer = heavy) =
    peers.filter fun peer => weigh peer = heavy

variable {weigh : Peer → UInt64} {peers order left right : List Peer}

/-! ### One order only -/

private theorem mem_of_ties
    (ties : ∀ heavy, (left.filter fun peer => weigh peer = heavy) =
      right.filter fun peer => weigh peer = heavy)
    {peer : Peer} (among : peer ∈ right) : peer ∈ left := by
  have tied : peer ∈ right.filter fun other => weigh other = weigh peer :=
    List.mem_filter.mpr ⟨among, decide_eq_true rfl⟩
  rw [← ties] at tied
  exact (List.mem_filter.mp tied).1

private theorem eq_of_ties
    (descending : left.Pairwise fun former latter => weigh latter ≤ weigh former)
    (descendingToo : right.Pairwise fun former latter => weigh latter ≤ weigh former)
    (ties : ∀ heavy, (left.filter fun peer => weigh peer = heavy) =
      right.filter fun peer => weigh peer = heavy) : left = right := by
  induction left generalizing right with
  | nil =>
      cases right with
      | nil => rfl
      | cons peer rest => cases mem_of_ties ties List.mem_cons_self
  | cons first rest ih =>
      cases right with
      | nil => cases mem_of_ties (fun heavy => (ties heavy).symm) List.mem_cons_self
      | cons head tail =>
          rw [List.pairwise_cons] at descending descendingToo
          have weighsMost : weigh head ≤ weigh first := by
            rcases List.mem_cons.mp (mem_of_ties ties List.mem_cons_self) with same | later
            · exact same ▸ UInt64.le_refl _
            · exact descending.1 head later
          have weighsLeast : weigh first ≤ weigh head := by
            have also := mem_of_ties (fun heavy => (ties heavy).symm) List.mem_cons_self
            rcases List.mem_cons.mp also with same | later
            · exact same ▸ UInt64.le_refl _
            · exact descendingToo.1 first later
          have weights : weigh first = weigh head := UInt64.le_antisymm weighsLeast weighsMost
          have tied := ties (weigh head)
          rw [List.filter_cons_of_pos (by simpa using weights),
            List.filter_cons_of_pos (by simp)] at tied
          have heads : first = head := (List.cons.inj tied).1
          subst heads
          refine congrArg (List.cons _) (ih descending.2 descendingToo.2 ?_)
          intro heavy
          have own := ties heavy
          by_cases same : weigh first = heavy
          · rw [List.filter_cons_of_pos (by simpa using same),
              List.filter_cons_of_pos (by simpa using same)] at own
            exact (List.cons.inj own).2
          · rw [List.filter_cons_of_neg (by simpa using same),
              List.filter_cons_of_neg (by simpa using same)] at own
            exact own

variable (weigh peers)

/-- Sorting moves no two peers of equal weight past each other. -/
theorem filter_rankBy (heavy : UInt64) :
    ((rankBy weigh peers).filter fun peer => weigh peer = heavy) =
      peers.filter fun peer => weigh peer = heavy := by
  have weighs : ∀ peer, peer ∈ peers.filter (fun peer => weigh peer = heavy) →
      weigh peer = heavy :=
    fun peer among => of_decide_eq_true (List.mem_filter.mp among).2
  have level : (peers.filter fun peer => weigh peer = heavy).Pairwise fun former latter =>
      decide (weigh latter ≤ weigh former) = true := by
    refine List.Pairwise.imp_of_mem ?_ (List.pairwise_of_forall fun _ _ => trivial)
    intro former latter among also _
    rw [weighs former among, weighs latter also]
    exact decide_eq_true (UInt64.le_refl heavy)
  have kept : (peers.filter fun peer => weigh peer = heavy).Sublist (rankBy weigh peers) :=
    List.sublist_mergeSort (descending_trans weigh) (descending_total weigh) level
      List.filter_sublist
  have within := kept.filter fun peer => decide (weigh peer = heavy)
  rw [List.filter_eq_self.mpr fun peer among => decide_eq_true (weighs peer among)] at within
  have lengths := (rankBy_perm weigh peers).filter fun peer => decide (weigh peer = heavy)
  exact (within.eq_of_length lengths.length_eq.symm).symm

private theorem ranks_rankBy : Ranks weigh peers (rankBy weigh peers) where
  perm := rankBy_perm weigh peers
  descending := rankBy_descending weigh peers
  ties := filter_rankBy weigh peers

variable {weigh peers}

private theorem Ranks.rankBy_eq (ranks : Ranks weigh peers order) : rankBy weigh peers = order :=
  eq_of_ties (rankBy_descending weigh peers) ranks.descending
    fun heavy => (filter_rankBy weigh peers heavy).trans (ranks.ties heavy).symm

private theorem Ranks.of_peers (perm : order.Perm peers)
    (descending : order.Pairwise fun left right => weigh right ≤ weigh left)
    (ties : ∀ tied, tied ∈ peers → (order.filter fun peer => weigh peer = weigh tied) =
      peers.filter fun peer => weigh peer = weigh tied) : Ranks weigh peers order where
  perm := perm
  descending := descending
  ties := by
    intro heavy
    by_cases weighed : ∃ tied, tied ∈ peers ∧ weigh tied = heavy
    · obtain ⟨tied, among, rfl⟩ := weighed
      exact ties tied among
    · have lighter : ∀ peer, peer ∈ peers → ¬decide (weigh peer = heavy) = true :=
        fun peer among weighs => weighed ⟨peer, among, of_decide_eq_true weighs⟩
      rw [List.filter_eq_nil_iff.mpr lighter,
        List.filter_eq_nil_iff.mpr fun peer among => lighter peer (perm.mem_iff.mp among)]

private theorem Ranks.filter (ranks : Ranks weigh peers order) (keep : Peer → Bool) :
    Ranks weigh (peers.filter keep) (order.filter keep) where
  perm := ranks.perm.filter keep
  descending := ranks.descending.filter keep
  ties := by
    intro heavy
    rw [List.filter_comm, ranks.ties, List.filter_comm]

private theorem rankBy_filter (keep : Peer → Bool) :
    rankBy weigh (peers.filter keep) = (rankBy weigh peers).filter keep :=
  ((ranks_rankBy weigh peers).filter keep).rankBy_eq

/-! ### The first peers of an order -/

variable {gone : Peer} {count : Nat}

private theorem filter_ne_of_not_mem (absent : gone ∉ order) : order.filter (· ≠ gone) = order := by
  rw [List.filter_eq_self]
  intro peer among
  exact decide_eq_true fun same => absent (same ▸ among)

private theorem length_filter_ne (order : List Peer) (gone : Peer) :
    (order.filter (· ≠ gone)).length + order.count gone = order.length := by
  induction order with
  | nil => rfl
  | cons peer rest ih =>
      by_cases same : peer = gone
      · subst same
        rw [List.filter_cons_of_neg (by simp), List.count_cons_self, List.length_cons]
        omega
      · rw [List.filter_cons_of_pos (by simpa using same), List.count_cons_of_ne same,
          List.length_cons, List.length_cons]
        omega

private theorem filter_ne_eq_append (order : List Peer) (gone : Peer) (count : Nat) :
    order.filter (· ≠ gone) =
      (order.take count).filter (· ≠ gone) ++ (order.drop count).filter (· ≠ gone) := by
  rw [← List.filter_append, List.take_append_drop]

private theorem take_filter_of_not_mem (other : gone ∉ order.take count) :
    (order.filter (· ≠ gone)).take count = order.take count := by
  rw [filter_ne_eq_append order gone count, filter_ne_of_not_mem other]
  rcases Nat.le_total count order.length with enough | few
  · exact List.take_left' (List.length_take_of_le enough)
  · rw [List.drop_of_length_le few, List.filter_nil, List.append_nil, List.take_take,
      Nat.min_self]

private theorem take_filter_of_mem (once : order.count gone ≤ 1)
    (chosen : gone ∈ order.take count) :
    (order.filter (· ≠ gone)).take count =
      (order.take count).filter (· ≠ gone) ++ (order.drop count).take 1 := by
  have split : order.count gone =
      (order.take count).count gone + (order.drop count).count gone := by
    rw [← List.count_append, List.take_append_drop]
  have here : 0 < (order.take count).count gone := List.count_pos_iff.mpr chosen
  have later : gone ∉ order.drop count := List.count_eq_zero.mp (by omega)
  have fewer := length_filter_ne (order.take count) gone
  rw [filter_ne_eq_append order gone count, filter_ne_of_not_mem later, List.take_append,
    List.take_of_length_le (by rw [List.length_take] at fewer; omega)]
  rcases Nat.le_total count order.length with enough | few
  · rw [List.length_take_of_le enough] at fewer
    have place : count - ((order.take count).filter (· ≠ gone)).length = 1 := by omega
    rw [place]
  · rw [List.drop_of_length_le few, List.take_nil, List.take_nil]

/-! ### Selections -/

private theorem selectBy_filter_of_not_mem (other : gone ∉ selectBy weigh peers count) :
    selectBy weigh (peers.filter (· ≠ gone)) count = selectBy weigh peers count := by
  unfold selectBy
  rw [rankBy_filter]
  exact take_filter_of_not_mem other

private theorem selectBy_filter_of_mem (chosen : gone ∈ selectBy weigh peers count)
    (single : peers.count gone = 1) :
    selectBy weigh (peers.filter (· ≠ gone)) count =
      (selectBy weigh peers count).filter (· ≠ gone) ++ (rankBy weigh peers)[count]?.toList := by
  have once : (rankBy weigh peers).count gone ≤ 1 :=
    Nat.le_of_eq (((rankBy_perm weigh peers).count_eq gone).trans single)
  unfold selectBy
  rw [rankBy_filter, take_filter_of_mem once chosen, List.take_one, List.head?_drop]

/-- A ranking is in descending order, with peers of equal weight as they were listed, and a
selection is the beginning of it. When a peer goes, the ranking of the others is the old one without
it. A selection stays as it is if the peer was not selected; otherwise the others stay in their
order, and the next peer of the ranking follows them, if there is one. -/
theorem rankBy_without (weigh : Peer → UInt64) (peers : List Peer) :
    let order := rankBy weigh peers
    order.Perm peers ∧
      (order.Pairwise fun left right => weigh right ≤ weigh left) ∧
      (∀ heavy, (order.filter fun peer => weigh peer = heavy) =
        peers.filter fun peer => weigh peer = heavy) ∧
      (∀ gone, rankBy weigh (peers.filter (· ≠ gone)) = order.filter (· ≠ gone)) ∧
      ∀ count,
        let selected := selectBy weigh peers count
        selected <+: order ∧
          selected.length = min count peers.length ∧
          ∀ gone,
            let remaining := selectBy weigh (peers.filter (· ≠ gone)) count
            (gone ∉ selected → remaining = selected) ∧
              (gone ∈ selected → peers.count gone = 1 →
                remaining = selected.filter (· ≠ gone) ++ order[count]?.toList) := by
  have ranks : Ranks weigh peers (rankBy weigh peers) := ranks_rankBy weigh peers
  refine ⟨ranks.perm, ranks.descending, ranks.ties, fun gone => rankBy_filter _, ?_⟩
  intro count
  refine ⟨List.take_prefix count _, length_selectBy weigh peers count, fun gone => ⟨?_, ?_⟩⟩
  · exact selectBy_filter_of_not_mem
  · exact selectBy_filter_of_mem

/-- Two peers of equal weight come first, as they were listed, and two of another one after them.
One of the three selected ones goes, and then one that is not selected. -/
theorem rankBy_without_tied :
    let weigh : Peer → UInt64 := fun peer => if peer.name.length = 1 then 1 else 2
    let peers : List Peer := [⟨"a"⟩, ⟨"bb"⟩, ⟨"c"⟩, ⟨"dd"⟩]
    selectBy weigh peers 3 = [⟨"bb"⟩, ⟨"dd"⟩, ⟨"a"⟩] ∧
      peers.count ⟨"dd"⟩ = 1 ∧
      selectBy weigh (peers.filter (· ≠ ⟨"dd"⟩)) 3 = [⟨"bb"⟩, ⟨"a"⟩, ⟨"c"⟩] ∧
      selectBy weigh (peers.filter (· ≠ ⟨"c"⟩)) 3 = [⟨"bb"⟩, ⟨"dd"⟩, ⟨"a"⟩] := by
  intro weigh peers
  have order : rankBy weigh peers = [⟨"bb"⟩, ⟨"dd"⟩, ⟨"a"⟩, ⟨"c"⟩] :=
    (Ranks.of_peers (by decide) (by decide) (by decide)).rankBy_eq
  have selected : selectBy weigh peers 3 = [⟨"bb"⟩, ⟨"dd"⟩, ⟨"a"⟩] :=
    congrArg (List.take 3) order
  have single : peers.count ⟨"dd"⟩ = 1 := by decide
  obtain ⟨_, _, _, _, selections⟩ := rankBy_without weigh peers
  obtain ⟨_, _, going⟩ := selections 3
  refine ⟨selected, single, ?_, ?_⟩
  · rw [(going ⟨"dd"⟩).2 (by rw [selected]; decide) single, selected, order]
    decide
  · rw [(going ⟨"c"⟩).1 (by rw [selected]; decide), selected]

/-- The weights in use are a case of it. -/
theorem rank_without (key : String) (peers : List Peer) :
    Ranks (weight key) peers (rank key peers) ∧
      (∀ gone, rank key (peers.filter (· ≠ gone)) = (rank key peers).filter (· ≠ gone)) ∧
      ∀ count,
        select key peers count <+: rank key peers ∧
          (select key peers count).length = min count peers.length ∧
          ∀ gone,
            (gone ∉ select key peers count →
              select key (peers.filter (· ≠ gone)) count = select key peers count) ∧
              (gone ∈ select key peers count → peers.count gone = 1 →
                select key (peers.filter (· ≠ gone)) count =
                  (select key peers count).filter (· ≠ gone) ++
                    (rank key peers)[count]?.toList) := by
  refine ⟨ranks_rankBy (weight key) peers, fun gone => rankBy_filter _, ?_⟩
  intro count
  refine ⟨List.take_prefix count _, length_selectBy (weight key) peers count, ?_⟩
  exact fun gone => ⟨selectBy_filter_of_not_mem, selectBy_filter_of_mem⟩

end Quorate.Placement
