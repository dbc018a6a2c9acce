import Quorate.CommandLine.Run
import Quorate.Proofs.Store.Faults
import Quorate.Proofs.Write.Stored

/-!
What the command that puts prints. Its store is fresh and its faults go to the peers responsible for
the location, so the whole outcome is a formula in how many of those there are, how many faults of
each kind fit on them, and whether a second attempt is allowed. A third attempt meets the same
answers as the second, for the peers that deny only once have done so by then.
-/

namespace Quorate.CommandLine

open Store

/-! ### The faults that fit -/

namespace PutOptions

variable (options : PutOptions) (chosen : Nat)

/-- How many of the chosen peers get a fault of each kind. A kind takes the peers that the kinds
before it have left. -/
def denials : Nat := min options.denying chosen

def flakes : Nat := min options.flaky (chosen - options.denials chosen)

def silences : Nat :=
  min options.silent (chosen - options.denials chosen - options.flakes chosen)

private theorem faults_fit :
    options.denials chosen + options.flakes chosen + options.silences chosen ≤ chosen := by
  have denying : options.denials chosen ≤ chosen := Nat.min_le_right _ _
  have flaky : options.flakes chosen ≤ chosen - options.denials chosen := Nat.min_le_right _ _
  have silent : options.silences chosen ≤
      chosen - options.denials chosen - options.flakes chosen := Nat.min_le_right _ _
  omega

private theorem min_min_of_le (count : Nat) {room whole : Nat} (within : room ≤ whole) :
    min room (min count whole) = min count room := by omega

private theorem sub_min_of_le (count : Nat) {room whole : Nat} (within : room ≤ whole) :
    room - min count whole = room - count := by omega

private theorem take_faults :
    (options.faults chosen).take chosen =
      List.replicate (options.denials chosen) .deny ++
        List.replicate (options.flakes chosen) (.denyTimes 1) ++
        List.replicate (options.silences chosen) .silent := by
  have denying : min chosen (min options.denying chosen) = options.denials chosen :=
    min_min_of_le _ (Nat.le_refl _)
  have flaky : min (chosen - min options.denying chosen) (min options.flaky chosen) =
      options.flakes chosen := min_min_of_le _ (Nat.sub_le _ _)
  have silent : min (chosen - (min options.denying chosen + min options.flaky chosen))
      (min options.silent chosen) = options.silences chosen := by
    unfold silences flakes denials
    rw [min_min_of_le _ (Nat.sub_le _ _), Nat.sub_add_eq, sub_min_of_le _ (Nat.sub_le _ _),
      sub_min_of_le _ (Nat.le_refl _), sub_min_of_le _ (Nat.le_refl _)]
  unfold faults
  simp only [List.take_append, List.take_replicate, List.length_append, List.length_replicate]
  rw [denying, flaky, silent]

private theorem spared_faults :
    chosen - (options.faults chosen).length =
      chosen - options.denials chosen - options.flakes chosen - options.silences chosen := by
  unfold faults silences flakes denials
  simp only [List.length_append, List.length_replicate, Nat.sub_add_eq]
  rw [sub_min_of_le options.denying (Nat.le_refl chosen),
    sub_min_of_le options.flaky (Nat.sub_le chosen _),
    sub_min_of_le options.silent (Nat.le_trans (Nat.sub_le _ _) (Nat.sub_le chosen _)),
    sub_min_of_le options.flaky (Nat.le_refl _), sub_min_of_le options.silent (Nat.le_refl _)]

/-! ### The store that meets the put -/

variable (settings : StoreSettings)

/-- The fresh store with the faults at the peers responsible for the location. -/
def afflicted : Cluster :=
  options.afflict ((clusterOf settings).responsible options.location) (clusterOf settings)

private theorem afflicted_eq_setBehaviors :
    options.afflicted settings =
      (clusterOf settings).setBehaviors
        (((clusterOf settings).responsible options.location).zip
          (options.faults ((clusterOf settings).responsible options.location).length)) := rfl

def chosenOf : Nat := min settings.peers.toNat settings.replicationFactor.toNat

private theorem length_responsible_clusterOf (location : String) :
    ((clusterOf settings).responsible location).length = chosenOf settings := by
  have peers : (clusterOf settings).peers.length = settings.peers.toNat := by
    unfold clusterOf Cluster.create Cluster.peers Cluster.peerNames
    simp
  rw [Cluster.length_responsible, peers, Nat.min_comm]
  rfl

private theorem responsible_afflicted :
    (options.afflicted settings).responsible options.location =
      (clusterOf settings).responsible options.location := by
  obtain ⟨shelves, factor, _⟩ := (clusterOf settings).setBehaviors_settings
    (((clusterOf settings).responsible options.location).zip
      (options.faults ((clusterOf settings).responsible options.location).length))
  apply Cluster.responsible_congr options.location _ factor
  rw [Cluster.peers_eq_shelves, Cluster.peers_eq_shelves]
  exact congrArg (List.map Prod.fst) shelves

private theorem countP_afflicted (counted : Behavior → Bool) :
    let chosen := chosenOf settings
    (options.afflicted settings).replicas.countP (fun replica =>
        decide (replica.peer ∈ (options.afflicted settings).responsible options.location) &&
          counted replica.behavior) =
      (if counted .deny then options.denials chosen else 0) +
        (if counted (.denyTimes 1) then options.flakes chosen else 0) +
        (if counted .silent then options.silences chosen else 0) +
        (if counted .accept then
          chosen - options.denials chosen - options.flakes chosen - options.silences chosen
        else 0) := by
  intro chosen
  have accepting : ∀ replica, replica ∈ (clusterOf settings).replicas →
      replica.behavior = .accept := by
    intro replica present
    obtain ⟨peer, _, rfl⟩ := List.mem_map.mp present
    rfl
  rw [responsible_afflicted, afflicted_eq_setBehaviors,
    Cluster.countP_setBehaviors accepting _ ((clusterOf settings).responsible_nodup _)
      ((clusterOf settings).responsible_subset _),
    length_responsible_clusterOf, take_faults, spared_faults]
  simp only [List.countP_append, List.countP_replicate]
  rfl

private theorem answering_afflicted :
    (options.afflicted settings).answering options.location = chosenOf settings := by
  have counted := options.countP_afflicted settings fun behavior => decide (behavior ≠ .offline)
  unfold Cluster.answering Cluster.answers
  have fit := options.faults_fit (chosenOf settings)
  rw [counted]
  simp only [ne_eq, reduceCtorEq, not_false_eq_true, decide_true, if_true]
  omega

private theorem denying_afflicted (puts : Nat) :
    (options.afflicted settings).denying options.location puts =
      options.denials (chosenOf settings) +
        (if puts = 0 then options.flakes (chosenOf settings) else 0) +
        options.silences (chosenOf settings) := by
  have counted := options.countP_afflicted settings (Behavior.deniesAfter puts)
  unfold Cluster.denying
  rw [counted]
  simp [Behavior.deniesAfter]

private theorem status?_after_denyTimes_one (puts : Nat) :
    ((Behavior.denyTimes 1).after puts).status? = some .ok ↔ puts ≠ 0 := by
  rw [Behavior.after_denyTimes]
  match puts with
  | 0 => decide
  | 1 => decide
  | puts + 2 =>
      rw [if_neg (by omega)]
      exact iff_of_true rfl (Nat.succ_ne_zero _)

private theorem storing_afflicted (puts : Nat) :
    (options.afflicted settings).storing options.location puts =
      chosenOf settings - options.denials (chosenOf settings) -
        (if puts = 0 then options.flakes (chosenOf settings) else 0) -
        options.silences (chosenOf settings) := by
  have counted := options.countP_afflicted settings fun behavior =>
    decide ((behavior.after puts).status? = some .ok)
  have fit := options.faults_fit (chosenOf settings)
  have deny : ((Behavior.deny).after puts).status? ≠ some .ok := by
    rw [Behavior.after_of_next_eq _ rfl]
    decide
  have silent : ((Behavior.silent).after puts).status? ≠ some .ok := by
    rw [Behavior.after_of_next_eq _ rfl]
    decide
  have accept : ((Behavior.accept).after puts).status? = some .ok := by
    rw [Behavior.after_of_next_eq _ rfl]
    rfl
  unfold Cluster.storing
  rw [counted]
  simp only [deny, silent, accept, status?_after_denyTimes_one, decide_eq_true_eq, if_false,
    if_true, ite_not]
  split <;> omega

private theorem online_afflicted : (options.afflicted settings).Online options.location := by
  have none := options.countP_afflicted settings fun behavior => decide (behavior = .offline)
  simp only [reduceCtorEq, decide_false, Bool.false_eq_true, if_false, Nat.add_zero] at none
  rw [List.countP_eq_zero] at none
  intro replica present chosen offline
  exact none replica present (by simp [chosen, offline])

private theorem fresh_afflicted (now : UInt64) :
    (options.afflicted settings).rejecting = false ∧
      (options.afflicted settings).failingPuts = 0 ∧
      (options.afflicted settings).puts = 0 ∧ (options.afflicted settings).removals = 0 ∧
      (options.afflicted settings).Removable (options.request now) ∧
      (options.afflicted settings).Absent (options.request now).versionKey := by
  obtain ⟨shelves, factor, rejecting, failingPuts, failingRemovals, puts, removals⟩ :=
    (clusterOf settings).setBehaviors_settings
      (((clusterOf settings).responsible options.location).zip
        (options.faults ((clusterOf settings).responsible options.location).length))
  have placed : (options.afflicted settings).Placed :=
    (Cluster.Placed.create _ _ _).congr shelves factor
  have absent : (clusterOf settings).Absent (options.request now).versionKey := by
    unfold Cluster.Absent
    rw [Cluster.everywhere_iff]
    intro replica present
    obtain ⟨peer, _, rfl⟩ := List.mem_map.mp present
    rfl
  refine ⟨rejecting, failingPuts, puts, removals,
    ⟨placed, failingRemovals, options.online_afflicted settings⟩, ?_⟩
  unfold Cluster.Absent Cluster.Everywhere at absent ⊢
  rw [afflicted_eq_setBehaviors, shelves]
  exact absent

private theorem good_afflicted_iff (attempt : Nat) :
    (options.afflicted settings).Good options.location attempt ↔
      2 * (options.denials (chosenOf settings) +
          (if attempt = 0 then options.flakes (chosenOf settings) else 0) +
          options.silences (chosenOf settings)) < chosenOf settings := by
  have failing : (options.afflicted settings).failingPuts = 0 :=
    (options.fresh_afflicted settings 0).2.1
  unfold Cluster.Good
  rw [failing, Nat.sub_zero, denying_afflicted, answering_afflicted]
  exact and_iff_right (Nat.zero_le attempt)

/-! ### The outcome -/

def report (retries : UInt32) : PutReport :=
  let chosen := chosenOf settings
  let denying := options.denials chosen
  let flaky := options.flakes chosen
  let silent := options.silences chosen
  if 2 * (denying + flaky + silent) < chosen then
    ⟨true, 1, 0, chosen - denying - flaky - silent⟩
  else if 1 ≤ retries ∧ 2 * (denying + silent) < chosen then
    ⟨true, 2, 1, chosen - denying - silent⟩
  else ⟨false, retries + 1, retries + 1, 0⟩

/-- The first attempt meets all faults, every later one those that stay. -/
theorem put_afflicted (now : UInt64) (retries : UInt32)
    (valid : (options.request now).check = .ok ()) (bounded : retries.toNat + 1 < UInt32.size) :
    ∃ stored after, (options.afflicted settings).put (options.request now) retries =
        .ok (stored, after) ∧
      (⟨stored, after.puts, after.removals,
          after.replicaCount (options.request now).versionKey⟩ : PutReport) =
        options.report settings retries := by
  obtain ⟨accepting, failing, puts, removals, removable, absent⟩ :=
    options.fresh_afflicted settings now
  have first := options.good_afflicted_iff settings 0
  have later : ∀ attempt, (options.afflicted settings).Good options.location (attempt + 1) ↔ _ :=
    fun attempt => options.good_afflicted_iff settings (attempt + 1)
  simp only [if_true, Nat.succ_ne_zero, if_false, Nat.add_zero] at first later
  unfold report
  by_cases atOnce : 2 * (options.denials (chosenOf settings) + options.flakes (chosenOf settings) +
      options.silences (chosenOf settings)) < chosenOf settings
  · obtain ⟨after, written, putsAfter, removalsAfter, replicas⟩ :=
      Cluster.put_of_first_good retries valid accepting bounded removable absent 0
        (Nat.zero_le _) (first.mpr atOnce) nofun
    refine ⟨true, after, written, ?_⟩
    rw [if_pos atOnce, putsAfter, removalsAfter, replicas, puts, removals, failing]
    change PutReport.mk _ _ _ ((options.afflicted settings).storing options.location 0) = _
    rw [storing_afflicted]
    rfl
  · by_cases again : 1 ≤ retries ∧ 2 * (options.denials (chosenOf settings) +
        options.silences (chosenOf settings)) < chosenOf settings
    · obtain ⟨after, written, putsAfter, removalsAfter, replicas⟩ :=
        Cluster.put_of_first_good retries valid accepting bounded removable absent 1
          (UInt32.le_iff_toNat_le.mp again.1) ((later 0).mpr again.2) (by
            intro earlier less good
            obtain rfl : earlier = 0 := by omega
            exact atOnce (first.mp good))
      refine ⟨true, after, written, ?_⟩
      rw [if_neg atOnce, if_pos again, putsAfter, removalsAfter, replicas, puts, removals, failing]
      change PutReport.mk _ _ _ ((options.afflicted settings).storing options.location 1) = _
      rw [storing_afflicted]
      rfl
    · obtain ⟨after, written, putsAfter, removalsAfter, replicas⟩ :=
        Cluster.put_of_none_good retries valid accepting bounded removable absent (by
          intro attempt within good
          cases attempt with
          | zero => exact atOnce (first.mp good)
          | succ attempt =>
              have allowed : 1 ≤ retries := UInt32.le_iff_toNat_le.mpr (by
                change 1 ≤ retries.toNat
                omega)
              exact again ⟨allowed, (later attempt).mp good⟩)
      refine ⟨false, after, written, ?_⟩
      have counted : UInt32.ofNat (retries.toNat + 1) = retries + 1 := by
        rw [UInt32.ofNat_add, UInt32.ofNat_toNat]
        rfl
      rw [if_neg atOnce, if_neg again, putsAfter, removalsAfter, replicas, puts, removals, counted,
        UInt32.zero_add]

end PutOptions

/-! ### What is printed -/

/-- A put with faults at the responsible peers is stored at once, or by the second attempt, or not
at all. -/
theorem run_put (surroundings : Surroundings) (path : Option String) (options : PutOptions)
    (settings : Settings)
    (parsed : Arguments.parse surroundings.words = .ok ⟨path, .put options⟩)
    (loaded : loadSettings surroundings path = .ok settings)
    (location : Key.check options.location = .ok ())
    (content : Key.check options.content = .ok ()) (gathered : options.scattered = false) :
    let retries := options.retries.getD settings.write.maxPutRetries
    let chosen := min settings.store.peers.toNat settings.store.replicationFactor.toNat
    let denying := min options.denying chosen
    let flaky := min options.flaky (chosen - denying)
    let silent := min options.silent (chosen - denying - flaky)
    retries.toNat + 1 < UInt32.size →
      run surroundings =
        { code := 0
          output := PutReport.text <|
            if 2 * (denying + flaky + silent) < chosen then
              ⟨true, 1, 0, chosen - denying - flaky - silent⟩
            else if 1 ≤ retries ∧ 2 * (denying + silent) < chosen then
              ⟨true, 2, 1, chosen - denying - silent⟩
            else ⟨false, retries + 1, retries + 1, 0⟩ } := by
  intro retries chosen denying flaky silent bounded
  have valid : (options.request surroundings.now).check = .ok () := by
    unfold Request.check PutOptions.request
    rw [location, content]
  obtain ⟨stored, after, written, report⟩ :=
    options.put_afflicted settings.store surroundings.now retries valid bounded
  have ran : options.run settings surroundings.now surroundings.scatter =
      .ok (options.report settings.store retries) := by
    have afflicted : options.afflict ((clusterOf settings.store).responsible options.location)
        (clusterOf settings.store) = options.afflicted settings.store := rfl
    rw [← report]
    simp only [PutOptions.run, gathered, Bool.false_eq_true, if_false, afflicted, retries, written]
  simp only [CommandLine.run, parsed, loaded, Command.run, ran]
  rfl

/-- Two of three peers are at fault, one of them only once: the second attempt stores. -/
theorem run_put_flaky :
    let surroundings : Surroundings := { words := ["put", "--deny", "1", "--flaky", "1"] }
    let options : PutOptions :=
      { location := "user-a", content := "meta", value := "hello", denying := 1, flaky := 1
        silent := 0, retries := none, scattered := false }
    Arguments.parse surroundings.words = .ok ⟨none, .put options⟩ ∧
      loadSettings surroundings none = .ok {} ∧
      (3 : UInt32).toNat + 1 < UInt32.size ∧
      run surroundings =
        { code := 0, output := "verdict:  stored\nputs:     2\nremoves:  1\nreplicas: 2\n" } := by
  intro surroundings options
  have parsed : Arguments.parse surroundings.words = .ok ⟨none, .put options⟩ := by
    decide +kernel
  have loaded : loadSettings surroundings none = .ok {} := by decide +kernel
  have bounded : (3 : UInt32).toNat + 1 < UInt32.size := by decide
  refine ⟨parsed, loaded, bounded, ?_⟩
  rw [run_put surroundings none options {} parsed loaded (by decide) (by decide) rfl bounded]
  decide

end Quorate.CommandLine
