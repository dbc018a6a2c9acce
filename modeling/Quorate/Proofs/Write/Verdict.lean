import Quorate.Proofs.Store.Completion
import Quorate.Proofs.Write.Rounds
import Quorate.Write.Alone

/-!
The verdict of a write that nobody else disturbs, read off the store before it starts. Puts that
are to fail outright come first and leave the peers as they are; every later put ages the peers
that are responsible for the location, and its removal changes no behaviour.
-/

namespace Quorate.Store.Cluster

open Write

variable (cluster : Cluster) (request : Request) (location : String)

def answering : Nat := cluster.replicas.countP (cluster.answers location)

/-- How many peers responsible for a location count against a put when so many puts have been
applied before it. -/
def denying (puts : Nat) : Nat :=
  cluster.replicas.countP fun replica =>
    decide (replica.peer ∈ cluster.responsible location) && replica.behavior.deniesAfter puts

/-- No failure is left for the attempt, and fewer than half of the answers count against it. -/
def Good (attempt : Nat) : Prop :=
  cluster.failingPuts ≤ attempt ∧
    2 * cluster.denying location (attempt - cluster.failingPuts) < cluster.answering location

private theorem denying_antitone {early late : Nat} (order : early ≤ late) :
    cluster.denying location late ≤ cluster.denying location early := by
  unfold denying
  apply List.countP_mono_left
  intro replica _present counted
  rw [Bool.and_eq_true] at counted ⊢
  exact ⟨counted.1, replica.behavior.deniesAfter_of_le order counted.2⟩

variable {cluster location} in
private theorem Good.of_le {early late : Nat} (order : early ≤ late)
    (good : cluster.Good location early) : cluster.Good location late := by
  have fewer := cluster.denying_antitone location
    (Nat.sub_le_sub_right order cluster.failingPuts)
  obtain ⟨sound, minority⟩ := good
  exact ⟨Nat.le_trans sound order, by omega⟩

/-! ### After some rounds -/

def aged (chosen : List Peer) (puts : Nat) (entry : Peer × Behavior) : Peer × Behavior :=
  (entry.1, if entry.1 ∈ chosen then entry.2.after puts else entry.2)

/-- A store after so many rounds of a put and a removal. -/
structure Aged (count : Nat) (later : Cluster) : Prop where
  factor : later.factor = cluster.factor
  rejecting : later.rejecting = false
  failingPuts : later.failingPuts = cluster.failingPuts - count
  puts : later.puts = cluster.puts + UInt32.ofNat count
  removals : later.removals = cluster.removals + UInt32.ofNat count
  profile : later.profile =
    cluster.profile.map (aged (cluster.responsible request.location) (count - cluster.failingPuts))

theorem serve_put (accepting : cluster.rejecting = false) :
    serve .put request cluster =
      (some (({ cluster with puts := cluster.puts + 1 } : Cluster).completePut request).1,
        (({ cluster with puts := cluster.puts + 1 } : Cluster).completePut request).2) := by
  unfold serve submit
  rw [accepting]
  rfl

private theorem serve_remove (accepting : cluster.rejecting = false) :
    serve .remove request cluster =
      (some (({ cluster with removals := cluster.removals + 1 } : Cluster).completeRemoval
          request).1,
        (({ cluster with removals := cluster.removals + 1 } : Cluster).completeRemoval
          request).2) := by
  unfold serve submit
  rw [accepting]
  rfl

private theorem Aged.start (accepting : cluster.rejecting = false) :
    Aged cluster request 0 cluster where
  factor := rfl
  rejecting := accepting
  failingPuts := rfl
  puts := (UInt32.add_zero cluster.puts).symm
  removals := (UInt32.add_zero cluster.removals).symm
  profile := by
    have none : ∀ entry, aged (cluster.responsible request.location)
        (0 - cluster.failingPuts) entry = entry := by
      intro entry
      unfold aged
      rw [Nat.zero_sub]
      exact Prod.ext rfl (ite_self entry.2)
    rw [funext none, List.map_id']

variable {cluster request} in
theorem Aged.responsible {count : Nat} {later : Cluster}
    (state : Aged cluster request count later) :
    later.responsible location = cluster.responsible location := by
  apply responsible_congr location _ state.factor
  rw [peers_eq_profile, peers_eq_profile, state.profile, List.map_map]
  rfl

/-- The put that follows uses up a failure, or the responsible peers age. -/
theorem Aged.profile_put {count : Nat} {later : Cluster}
    (state : Aged cluster request count later) :
    (serve .put request later).2.profile =
      cluster.profile.map (aged (cluster.responsible request.location)
        (count + 1 - cluster.failingPuts)) := by
  rw [serve_put later request state.rejecting, profile_completePut]
  have responsible := state.responsible request.location
  have failing := state.failingPuts
  have profile := state.profile
  change (if later.failingPuts = 0 then later.profile.map fun entry =>
      (entry.1, if entry.1 ∈ later.responsible request.location then entry.2.next else entry.2)
    else later.profile) = _
  rw [responsible, failing, profile]
  by_cases sound : cluster.failingPuts ≤ count
  · have none : cluster.failingPuts - count = 0 := Nat.sub_eq_zero_of_le sound
    have older : count + 1 - cluster.failingPuts = count - cluster.failingPuts + 1 := by omega
    rw [if_pos none, List.map_map, older]
    apply List.map_congr_left
    intro entry _present
    simp only [Function.comp_apply, aged]
    by_cases chosen : entry.1 ∈ cluster.responsible request.location
    · simp only [if_pos chosen]
      rfl
    · simp only [if_neg chosen]
  · have some : cluster.failingPuts - count ≠ 0 := by omega
    have same : count + 1 - cluster.failingPuts = count - cluster.failingPuts := by omega
    rw [if_neg some, same]

theorem serve_put_settings (accepting : cluster.rejecting = false) :
    let after := (serve .put request cluster).2
    after.factor = cluster.factor ∧ after.rejecting = false ∧
      after.failingPuts = cluster.failingPuts - 1 ∧ after.puts = cluster.puts + 1 ∧
      after.removals = cluster.removals := by
  rw [serve_put cluster request accepting]
  obtain ⟨factor, rejecting, failing, puts, removals⟩ :=
    ({ cluster with puts := cluster.puts + 1 } : Cluster).completePut_settings request
  exact ⟨factor, rejecting.trans accepting, failing, puts, removals⟩

private theorem serve_remove_settings (accepting : cluster.rejecting = false) :
    let after := (serve .remove request cluster).2
    after.factor = cluster.factor ∧ after.rejecting = false ∧
      after.failingPuts = cluster.failingPuts ∧ after.puts = cluster.puts ∧
      after.removals = cluster.removals + 1 := by
  rw [serve_remove cluster request accepting]
  obtain ⟨factor, rejecting, failing, puts, removals⟩ :=
    ({ cluster with removals := cluster.removals + 1 } : Cluster).completeRemoval_settings request
  exact ⟨factor, rejecting.trans accepting, failing, puts, removals⟩

private theorem Aged.round {count : Nat} {later : Cluster}
    (state : Aged cluster request count later) :
    Aged cluster request (count + 1) (takenBack serve request later) := by
  obtain ⟨putFactor, putRejecting, putFailing, putPuts, putRemovals⟩ :=
    later.serve_put_settings request state.rejecting
  obtain ⟨factor, rejecting, failing, puts, removals⟩ :=
    (serve .put request later).2.serve_remove_settings request putRejecting
  unfold takenBack
  constructor
  case factor => rw [factor, putFactor, state.factor]
  case rejecting => exact rejecting
  case failingPuts =>
    rw [failing, putFailing, state.failingPuts]
    omega
  case puts => rw [puts, putPuts, state.puts, UInt32.add_assoc, UInt32.ofNat_add]; rfl
  case removals =>
    rw [removals, putRemovals, state.removals, UInt32.add_assoc, UInt32.ofNat_add]; rfl
  case profile =>
    rw [serve_remove _ request putRejecting, profile_completeRemoval]
    exact state.profile_put

theorem Aged.rounds (accepting : cluster.rejecting = false) (count : Nat) :
    Aged cluster request count (afterRounds serve request count cluster) := by
  induction count with
  | zero => exact Aged.start cluster request accepting
  | succ count ih =>
      rw [afterRounds_succ]
      exact ih.round

/-! ### The answers of a later put -/

private theorem Aged.answering {count : Nat} {later : Cluster}
    (state : Aged cluster request count later) :
    later.answering request.location = cluster.answering request.location := by
  have responsible := state.responsible request.location
  unfold Cluster.answering answers
  rw [responsible, ← later.countP_profile fun entry =>
      decide (entry.1 ∈ cluster.responsible request.location) && decide (entry.2 ≠ .offline),
    state.profile, List.countP_map, countP_profile]
  apply List.countP_congr
  intro replica _present
  simp only [Function.comp_apply, aged]
  by_cases chosen : replica.peer ∈ cluster.responsible request.location
  · simp only [if_pos chosen, ne_eq, Behavior.after_eq_offline_iff]
  · simp only [if_neg chosen]

/-- Those who answer and count against the put are those who did so from the start. -/
theorem Aged.denying {count : Nat} {later : Cluster} (state : Aged cluster request count later) :
    later.replicas.countP (fun replica =>
        later.answers request.location replica && replica.behavior.fails) =
      cluster.denying request.location (count - cluster.failingPuts) := by
  have responsible := state.responsible request.location
  unfold Cluster.denying answers
  rw [responsible, ← later.countP_profile fun entry =>
      (decide (entry.1 ∈ cluster.responsible request.location) && decide (entry.2 ≠ .offline)) &&
        entry.2.fails,
    state.profile, List.countP_map, countP_profile]
  apply List.countP_congr
  intro replica _present
  simp only [Function.comp_apply, aged]
  by_cases chosen : replica.peer ∈ cluster.responsible request.location
  · by_cases absent : replica.behavior = .offline
    · simp [chosen, absent, Behavior.after_eq_offline_iff, Behavior.deniesAfter]
    · simp [chosen, absent, Behavior.after_eq_offline_iff, Behavior.fails_after]
  · simp [chosen]

private theorem Aged.accepted_iff {count : Nat} {later : Cluster}
    (state : Aged cluster request count later) :
    (Quorum.evaluate
        (({ later with puts := later.puts + 1 } : Cluster).completePut request).1).accepted = true ↔
      cluster.Good request.location count := by
  rw [accepted_completePut_iff]
  have answering := state.answering
  have denying := state.denying
  have failing := state.failingPuts
  change later.failingPuts = 0 ∧ 2 * later.replicas.countP (fun replica =>
      later.answers request.location replica && replica.behavior.fails) <
    later.answering request.location ↔ _
  rw [answering, denying, failing, Nat.sub_eq_zero_iff_le]
  exact Iff.rfl

theorem accepts_iff_good (accepting : cluster.rejecting = false) (count : Nat) :
    Accepts serve request cluster count ↔ cluster.Good request.location count := by
  have state := Aged.rounds cluster request accepting count
  have ended : putEnd? serve request cluster count = some _ :=
    congrArg Prod.fst ((afterRounds serve request count cluster).serve_put request state.rejecting)
  unfold Accepts
  rw [ended, ← state.accepted_iff]
  constructor
  · rintro ⟨completion, same, accepted⟩
    cases same
    exact accepted
  · intro accepted
    exact ⟨_, rfl, accepted⟩

theorem refuses_of_not_good (accepting : cluster.rejecting = false) (count : Nat)
    (bad : ¬cluster.Good request.location count) : Refuses serve request cluster count := by
  have state := Aged.rounds cluster request accepting count
  have ended : putEnd? serve request cluster count = some _ :=
    congrArg Prod.fst ((afterRounds serve request count cluster).serve_put request state.rejecting)
  obtain ⟨_factor, stillAccepting, _rest⟩ :=
    (afterRounds serve request count cluster).serve_put_settings request state.rejecting
  have removed : removalEnd? serve request cluster count = some _ :=
    congrArg Prod.fst ((serve .put request (afterRounds serve request count cluster)).2.serve_remove
      request stillAccepting)
  refine ⟨⟨_, ended, ?_⟩, _, removed⟩
  rw [← Bool.not_eq_true]
  exact fun accepted => bad (state.accepted_iff.mp accepted)

/-! ### The verdict -/

section Verdict

variable (budget : UInt32) (accepting : cluster.rejecting = false)
  (bounded : budget.toNat + 1 < UInt32.size)

include accepting bounded

theorem drive_of_first_good (count : Nat) (within : count ≤ budget.toNat)
    (good : cluster.Good request.location count)
    (least : ∀ earlier, earlier < count → ¬cluster.Good request.location earlier) :
    let outcome := drive serve (attempting request budget 0).callsLeft
      (attempting request budget 0) cluster
    outcome.1.verdict? = some true ∧
      outcome.2.puts = cluster.puts + UInt32.ofNat (count + 1) ∧
      outcome.2.removals = cluster.removals + UInt32.ofNat count := by
  have driven := drive_of_accepts serve request budget cluster count
    (fun earlier less => cluster.refuses_of_not_good request accepting earlier (least earlier less))
    ((cluster.accepts_iff_good request accepting count).mpr good) within bounded
  have state := Aged.rounds cluster request accepting count
  obtain ⟨_factor, _rejecting, _failing, puts, removals⟩ :=
    (afterRounds serve request count cluster).serve_put_settings request state.rejecting
  dsimp only
  rw [driven]
  refine ⟨rfl, ?_, ?_⟩
  · rw [puts, state.puts, UInt32.add_assoc, UInt32.ofNat_add]
    rfl
  · rw [removals, state.removals]

theorem drive_of_none_good
    (none : ∀ attempt, attempt ≤ budget.toNat → ¬cluster.Good request.location attempt) :
    let outcome := drive serve (attempting request budget 0).callsLeft
      (attempting request budget 0) cluster
    outcome.1.verdict? = some false ∧
      outcome.2.puts = cluster.puts + UInt32.ofNat (budget.toNat + 1) ∧
      outcome.2.removals = cluster.removals + UInt32.ofNat (budget.toNat + 1) := by
  have driven := drive_of_refuses serve request budget cluster
    (fun attempt within => cluster.refuses_of_not_good request accepting attempt
      (none attempt within)) bounded
  have state := Aged.rounds cluster request accepting (budget.toNat + 1)
  dsimp only
  rw [driven]
  exact ⟨rfl, state.puts, state.removals⟩

/-- The first good attempt is the last one, and a write without a good attempt fails. A greater
budget never turns success into failure. -/
theorem drive_serve_verdict :
    let write : Write := { request, budget }
    let outcome := write.drive serve write.callsLeft cluster
    (∀ count, count ≤ budget.toNat → cluster.Good request.location count →
      (∀ earlier, earlier < count → ¬cluster.Good request.location earlier) →
        outcome.1.verdict? = some true ∧
          outcome.2.puts = cluster.puts + UInt32.ofNat (count + 1) ∧
          outcome.2.removals = cluster.removals + UInt32.ofNat count) ∧
      ((∀ attempt, attempt ≤ budget.toNat → ¬cluster.Good request.location attempt) →
        outcome.1.verdict? = some false ∧
          outcome.2.puts = cluster.puts + UInt32.ofNat (budget.toNat + 1) ∧
          outcome.2.removals = cluster.removals + UInt32.ofNat (budget.toNat + 1)) ∧
      (outcome.1.verdict? = some true ↔ cluster.Good request.location budget.toNat) := by
  intro write outcome
  have reached := cluster.drive_of_first_good request budget accepting bounded
  have missed := cluster.drive_of_none_good request budget accepting bounded
  refine ⟨reached, missed, ?_⟩
  rcases first_or_none (cluster.Good request.location) budget.toNat with
    ⟨count, within, good, least⟩ | none
  · have verdict : outcome.1.verdict? = some true := (reached count within good least).1
    constructor
    · intro _accepted
      exact good.of_le within
    · intro _last
      exact verdict
  · have verdict : outcome.1.verdict? = some false := (missed none).1
    constructor
    · intro accepted
      rw [verdict] at accepted
      cases accepted
    · intro last
      exact absurd last (none budget.toNat (Nat.le_refl _))

end Verdict

/-- Two puts fail outright and leave the peer as it is; it denies the next one and accepts the
fourth, within a budget of five retries. -/
theorem drive_serve_after_failures :
    let replica : Replica := { peer := ⟨"peer-1"⟩, behavior := .denyTimes 1 }
    let cluster : Cluster :=
      { replicas := [replica], distinct := by decide, factor := 3, failingPuts := 2 }
    let request : Request := { location := "loc", content := "content" }
    let write : Write := { request := request, budget := 5 }
    let outcome := write.drive serve write.callsLeft cluster
    cluster.rejecting = false ∧ (5 : UInt32).toNat + 1 < UInt32.size ∧
      outcome.1.verdict? = some true ∧ outcome.2.puts = 4 ∧ outcome.2.removals = 3 := by
  intro replica cluster request write outcome
  have accepting : cluster.rejecting = false := rfl
  have bounded : (5 : UInt32).toNat + 1 < UInt32.size := by decide
  have chosen : cluster.responsible request.location = [⟨"peer-1"⟩] := by
    simp [cluster, replica, responsible, peers, Placement.select, Placement.selectBy,
      Placement.rankBy]
  have good : cluster.Good request.location 3 := by
    unfold Good denying answering answers
    rw [chosen]
    decide
  have least : ∀ earlier, earlier < 3 → ¬cluster.Good request.location earlier := by
    unfold Good denying answering answers
    rw [chosen]
    decide
  obtain ⟨reached, _⟩ := cluster.drive_serve_verdict request 5 accepting bounded
  obtain ⟨verdict, puts, removals⟩ := reached 3 (by decide) good least
  have putsIn : cluster.puts + UInt32.ofNat (3 + 1) = 4 := by decide
  have removalsIn : cluster.removals + UInt32.ofNat 3 = 3 := by decide
  refine ⟨accepting, bounded, verdict, ?_, ?_⟩
  · rw [puts, putsIn]
  · rw [removals, removalsIn]

end Quorate.Store.Cluster
