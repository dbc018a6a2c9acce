import Quorate.Metrics.Histogram
import Quorate.Proofs.Binary64.Order

/-!
The buckets that a histogram shows are the numbers of observations up to each boundary. An
observation is put down in one slot, yet it raises every count from that slot onwards, for the
counts are sums of slots; with boundaries in ascending order those are the counts of exactly the
boundaries that are at least as great.
-/

namespace Quorate.Metrics.Histogram

/-! ### Sums of slots -/

def raiseFrom (place : Nat) (counts : List UInt64) : List UInt64 :=
  counts.mapIdx fun here count => if place ≤ here then count + 1 else count

private theorem raiseFrom_zero (counts : List UInt64) :
    raiseFrom 0 counts = counts.map (· + 1) := by
  apply List.ext_getElem <;> simp [raiseFrom]

private theorem raiseFrom_succ_cons (place : Nat) (count : UInt64) (counts : List UInt64) :
    raiseFrom (place + 1) (count :: counts) = count :: raiseFrom place counts := by
  simp [raiseFrom, List.mapIdx_cons]

private theorem cumulate_succ (total : UInt64) (slots : List UInt64) :
    cumulate (total + 1) slots = (cumulate total slots).map (· + 1) := by
  induction slots generalizing total with
  | nil => rfl
  | cons slot rest hypothesis =>
    have sum : total + 1 + slot = total + slot + 1 := by
      rw [UInt64.add_assoc, UInt64.add_comm 1, ← UInt64.add_assoc]
    simp only [cumulate, List.map_cons, sum, hypothesis]

private theorem cumulate_modify (total : UInt64) (place : Nat) (slots : List UInt64) :
    cumulate total (slots.modify place (· + 1)) = raiseFrom place (cumulate total slots) := by
  induction slots generalizing total place with
  | nil => simp [cumulate, raiseFrom]
  | cons slot rest hypothesis =>
    cases place with
    | zero =>
      rw [raiseFrom_zero, List.modify_zero_cons, cumulate, cumulate, ← UInt64.add_assoc,
        cumulate_succ, List.map_cons]
    | succ place =>
      rw [List.modify_succ_cons, cumulate, cumulate, raiseFrom_succ_cons, hypothesis]

private theorem cumulate_replicate (length : Nat) :
    cumulate 0 (List.replicate length 0) = List.replicate length 0 := by
  induction length with
  | zero => rfl
  | succ length hypothesis => simp [List.replicate_succ, cumulate, hypothesis]

/-! ### Counts by order -/

private theorem slotOf_eq_findIdx (boundaries : List Float) (value : Float) :
    slotOf boundaries value = boundaries.findIdx (value ≤ ·) := by
  simp only [slotOf, ← Binary64.atMost_iff_le, Bool.decide_eq_true]

private theorem slotOf_cons (boundary : Float) (rest : List Float) (value : Float) :
    slotOf (boundary :: rest) value = if value ≤ boundary then 0 else slotOf rest value + 1 := by
  rw [slotOf_eq_findIdx, slotOf_eq_findIdx, List.findIdx_cons]
  by_cases reached : value ≤ boundary <;> simp [reached]

/-- The numbers of values up to each boundary, then the number of all values. -/
def countsUpTo (boundaries values : List Float) : List UInt64 :=
  boundaries.map (fun boundary => UInt64.ofNat (values.countP (· ≤ boundary))) ++
    [UInt64.ofNat values.length]

private theorem countsUpTo_nil (boundaries : List Float) :
    countsUpTo boundaries [] = List.replicate (boundaries.length + 1) 0 := by
  simp [countsUpTo, List.replicate_succ', List.map_const']

private theorem ofNat_countP_concat (boundary : Float) (values : List Float) (value : Float) :
    UInt64.ofNat ((values ++ [value]).countP (· ≤ boundary)) =
      UInt64.ofNat (values.countP (· ≤ boundary)) + if value ≤ boundary then 1 else 0 := by
  by_cases reached : value ≤ boundary <;> simp [List.countP_append, reached]

private theorem ofNat_length_concat (values : List Float) (value : Float) :
    UInt64.ofNat (values ++ [value]).length = UInt64.ofNat values.length + 1 := by
  simp

private theorem countsUpTo_concat_of_forall {boundaries : List Float} {value : Float}
    (reached : ∀ boundary ∈ boundaries, value ≤ boundary) (values : List Float) :
    countsUpTo boundaries (values ++ [value]) = (countsUpTo boundaries values).map (· + 1) := by
  simp only [countsUpTo, List.map_append, List.map_map, ofNat_length_concat, List.map_cons,
    List.map_nil]
  congr 1
  refine List.map_congr_left fun boundary member => ?_
  simp [reached boundary member]

private theorem countsUpTo_concat {boundaries : List Float}
    (ascending : boundaries.Pairwise (· < ·)) (values : List Float) (value : Float) :
    countsUpTo boundaries (values ++ [value]) =
      raiseFrom (slotOf boundaries value) (countsUpTo boundaries values) := by
  induction boundaries with
  | nil => simp [countsUpTo, raiseFrom, slotOf]
  | cons boundary rest hypothesis =>
    obtain ⟨first, ascending⟩ := List.pairwise_cons.mp ascending
    rw [slotOf_cons]
    split
    next reached =>
      rw [raiseFrom_zero]
      refine countsUpTo_concat_of_forall (fun other member => ?_) values
      rcases List.mem_cons.mp member with rfl | member
      · exact reached
      · exact Binary64.le_trans reached (Binary64.le_of_lt (first other member))
    next short =>
      have counts := hypothesis ascending
      simp only [countsUpTo, List.map_cons, List.cons_append, raiseFrom_succ_cons,
        ofNat_countP_concat, short, if_false] at counts ⊢
      rw [counts]
      simp

/-! ### Runs of observations -/

def of (boundaries values : List Float) : Histogram :=
  values.foldl observe (withBoundaries boundaries)

/-- A histogram with the sums and the total that belong to some observations. -/
structure Shows (boundaries values : List Float) (histogram : Histogram) : Prop where
  bounds : histogram.boundaries = boundaries
  sums : cumulate 0 histogram.slots = countsUpTo boundaries values
  total : histogram.count = UInt64.ofNat values.length

variable {boundaries values : List Float} {histogram : Histogram}

private theorem shows_withBoundaries (boundaries : List Float) :
    Shows boundaries [] (withBoundaries boundaries) where
  bounds := rfl
  sums := by rw [countsUpTo_nil, withBoundaries, cumulate_replicate]
  total := rfl

private theorem Shows.observe (shown : Shows boundaries values histogram)
    (ascending : boundaries.Pairwise (· < ·)) (value : Float) :
    Shows boundaries (values ++ [value]) (histogram.observe value) where
  bounds := shown.bounds
  sums := by
    rw [countsUpTo_concat ascending, ← shown.sums, ← shown.bounds]
    exact cumulate_modify ..
  total := by
    rw [ofNat_length_concat, ← shown.total]
    rfl

theorem of_concat (boundaries values : List Float) (value : Float) :
    of boundaries (values ++ [value]) = (of boundaries values).observe value := by
  rw [of, List.foldl_append]
  rfl

theorem shows_of (ascending : boundaries.Pairwise (· < ·)) (values : List Float) :
    Shows boundaries values (of boundaries values) := by
  induction values using List.reverseRecOn with
  | nil => exact shows_withBoundaries boundaries
  | append_singleton values value hypothesis =>
    rw [of_concat]
    exact hypothesis.observe ascending value

theorem Shows.buckets_eq (shown : Shows boundaries values histogram) :
    histogram.buckets =
      boundaries.map (fun boundary => (boundary, .ofNat (values.countP (· ≤ boundary)))) ++
        [(infinity, .ofNat values.length)] := by
  rw [buckets, shown.bounds, shown.sums, countsUpTo, List.zip_append (by simp),
    List.map_prod_left_eq_zip]
  rfl

/-- An observation raises the buckets from its slot onwards, whatever the boundaries are. -/
theorem buckets_observe (histogram : Histogram) (value : Float) :
    (histogram.observe value).buckets = histogram.buckets.mapIdx fun place bucket =>
      (bucket.1, if slotOf histogram.boundaries value ≤ place then bucket.2 + 1 else bucket.2) := by
  have sums : cumulate 0 (histogram.observe value).slots =
      raiseFrom (slotOf histogram.boundaries value) (cumulate 0 histogram.slots) :=
    cumulate_modify ..
  have bounds : (histogram.observe value).boundaries = histogram.boundaries := rfl
  rw [buckets, sums, bounds, buckets]
  apply List.ext_getElem <;> simp [raiseFrom]

private theorem pairwise_counts (ascending : boundaries.Pairwise (· < ·)) (values : List Float) :
    (boundaries.map (fun boundary => values.countP (· ≤ boundary)) ++ [values.length]).Pairwise
      (· ≤ ·) := by
  rw [List.pairwise_append, List.pairwise_map]
  refine ⟨ascending.imp fun lower => ?_, List.pairwise_singleton .., ?_⟩
  · refine List.countP_mono_left fun value _ reached => ?_
    rw [decide_eq_true_iff] at *
    exact Binary64.le_trans reached (Binary64.le_of_lt lower)
  · simp [List.countP_le_length]

/-- After any observations a histogram with ascending boundaries shows, in order, every boundary
with the number of values up to it, and then infinity with the number of all values; the numbers are
words of 64 bits and exact until these run out. One more value raises by one the buckets from the
first boundary that is at least as great. Nothing is asked of the values: one that is no number is
up to no boundary, and raises the bucket of infinity alone. -/
theorem buckets_count_values (boundaries : List Float) (ascending : boundaries.Pairwise (· < ·))
    (values : List Float) :
    (of boundaries values).buckets =
        boundaries.map (fun boundary => (boundary, .ofNat (values.countP (· ≤ boundary)))) ++
          [(infinity, .ofNat values.length)] ∧
      (of boundaries values).buckets.getLast? = some (infinity, (of boundaries values).count) ∧
      (values.length < UInt64.size →
        (of boundaries values).buckets.map (fun bucket => bucket.2.toNat) =
            boundaries.map (fun boundary => values.countP (· ≤ boundary)) ++ [values.length] ∧
          (of boundaries values).buckets.Pairwise fun earlier later => earlier.2 ≤ later.2) ∧
      ∀ value, ((of boundaries values).observe value).buckets =
        (of boundaries values).buckets.mapIdx fun place bucket =>
          (bucket.1, if boundaries.findIdx (value ≤ ·) ≤ place then bucket.2 + 1 else bucket.2) := by
  have shown := shows_of ascending values
  refine ⟨shown.buckets_eq, ?_, fun fits => ?_, fun value => ?_⟩
  · rw [shown.buckets_eq, shown.total, List.getLast?_concat]
  · have exact : (of boundaries values).buckets.map (fun bucket => bucket.2.toNat) =
        boundaries.map (fun boundary => values.countP (· ≤ boundary)) ++ [values.length] := by
      have within (boundary : Float) : values.countP (· ≤ boundary) < UInt64.size :=
        Nat.lt_of_le_of_lt List.countP_le_length fits
      rw [shown.buckets_eq, List.map_append, List.map_map]
      exact congrArg₂ (· ++ ·)
        (List.map_congr_left fun boundary _ => UInt64.toNat_ofNat_of_lt' (within boundary))
        (congrArg (fun length => [length]) (UInt64.toNat_ofNat_of_lt' fits))
    refine ⟨exact, ?_⟩
    have sorted := pairwise_counts ascending values
    rwa [← exact, List.pairwise_map] at sorted
  · rw [buckets_observe, shown.bounds, slotOf_eq_findIdx]

theorem ascending_defaultBoundaries : defaultBoundaries.Pairwise (· < ·) := by decide +kernel

/-- A value on a boundary counts for that boundary; one beyond all of them and one that is no
number count for infinity alone. -/
theorem buckets_count_values_default :
    let values := [5.0, 50.0, 50000.0, Float.ofBits 0x7FF8000000000000]
    let histogram := of defaultBoundaries values
    defaultBoundaries.Pairwise (· < ·) ∧ values.length < UInt64.size ∧
      histogram.buckets.map (fun bucket => bucket.2.toNat) = [0, 1, 1, 1, 2, 2, 2, 2, 2, 2, 2, 4] ∧
      histogram.buckets.getLast? = some (infinity, 4) := by
  intro values histogram
  have fits : values.length < UInt64.size := by decide
  obtain ⟨shown, -, exact, -⟩ :=
    buckets_count_values defaultBoundaries ascending_defaultBoundaries values
  refine ⟨ascending_defaultBoundaries, fits, (exact fits).1.trans ?_, ?_⟩
  · decide +kernel
  · exact (congrArg List.getLast? shown).trans List.getLast?_concat

end Quorate.Metrics.Histogram
