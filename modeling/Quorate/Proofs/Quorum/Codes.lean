import Quorate.Json.Reader
import Quorate.Proofs.Quorum.Order
import Quorate.Proofs.Store.Completion
import Quorate.Store.Document

/-!
The decision and the codes of the statuses. A code that is read off the wire becomes the status that
it names, and then the codes decide alone. A status can also be given as an unknown one with the
code of a denial: the code says that the put was denied, and the decision does not count it.
-/

namespace Quorate

open Store

namespace Store.Status

/-- A status that has the code of a denial without being one. -/
def Disguised (status : Status) : Prop := status = .unknown 1 ∨ status = .unknown 2

instance : DecidablePred Disguised := fun _ => inferInstanceAs (Decidable (_ ∨ _))

private theorem denies_ofCode_code_iff (status : Status) :
    (ofCode status.code).denies = true ↔ status.denies = true ∨ status.Disguised := by
  cases status with
  | unknown code =>
      change (ofCode code).denies = true ↔ false = true ∨ _
      rw [Behavior.ofCode_denies, decide_eq_true_iff]
      unfold Disguised
      simp
  | failed => exact iff_of_true rfl (.inl rfl)
  | failedSecurity => exact iff_of_true rfl (.inl rfl)
  | _ => exact iff_of_false nofun (by rintro (⟨⟨⟩⟩ | ⟨⟨⟩⟩ | ⟨⟨⟩⟩))

private theorem denies_or_disguised {status : Status} (denial : status.code = 1 ∨ status.code = 2) :
    status.denies = true ∨ status.Disguised := by
  rw [← denies_ofCode_code_iff, Behavior.ofCode_denies]
  exact decide_eq_true denial

end Store.Status

namespace Quorum

/-! ### Answers on the wire -/

/-- An answer as it is sent: the statuses by their codes. -/
def wire (ack : Ack) : Peer × Option (List (VersionKey × UInt8)) :=
  (ack.peer, ack.statuses.map fun statuses => statuses.map fun entry => (entry.1, entry.2.code))

def ofWire (sent : Peer × Option (List (VersionKey × UInt8))) : Ack :=
  ⟨sent.1, sent.2.map fun codes => codes.map fun entry => (entry.1, .ofCode entry.2)⟩

/-- An answer with every status replaced by the one that its code names. -/
def recode (ack : Ack) : Ack := ofWire (wire ack)

def given (ack : Ack) : Statuses := ack.statuses.getD []

/-- No status in the answer is disguised, unless the answer denies the put anyway. -/
def Faithful (ack : Ack) : Prop := ∀ entry ∈ given ack, entry.2.Disguised → denied ack = true

instance : DecidablePred Faithful := fun ack =>
  inferInstanceAs (Decidable (∀ entry ∈ given ack, entry.2.Disguised → denied ack = true))

variable (ack : Ack)

private theorem isNone_recode : (recode ack).statuses.isNone = ack.statuses.isNone := by
  unfold recode ofWire wire
  cases ack.statuses <;> rfl

private theorem denied_iff : denied ack = true ↔ ∃ entry ∈ given ack, entry.2.denies = true := by
  unfold denied given
  cases ack.statuses with
  | none => simp
  | some statuses => exact List.any_eq_true

private theorem given_recode :
    given (recode ack) = (given ack).map fun entry => (entry.1, .ofCode entry.2.code) := by
  obtain ⟨peer, statuses⟩ := ack
  cases statuses with
  | none => rfl
  | some statuses => exact List.map_map

private theorem denied_recode_iff :
    denied (recode ack) = true ↔
      denied ack = true ∨ ∃ entry ∈ given ack, entry.2.Disguised := by
  rw [denied_iff, denied_iff, given_recode, ← exists_or]
  simp only [List.mem_map, exists_exists_and_eq_and, Status.denies_ofCode_code_iff, and_or_left]

variable {ack}

private theorem Faithful.denied_recode (faithful : Faithful ack) :
    denied (recode ack) = denied ack := by
  rw [Bool.eq_iff_iff, denied_recode_iff]
  constructor
  · rintro (denies | ⟨entry, present, disguised⟩)
    · exact denies
    · exact faithful entry present disguised
  · exact .inl

private theorem Faithful.failedWith_recode (faithful : Faithful ack) (failed : List Peer) :
    failedWith failed (recode ack) = failedWith failed ack := by
  unfold failedWith
  rw [isNone_recode, faithful.denied_recode]
  rfl

private theorem failedPeers_recode {acks : List Ack} (faithful : ∀ ack ∈ acks, Faithful ack) :
    failedPeers (acks.map recode) = failedPeers acks := by
  unfold failedPeers
  rw [List.foldl_map]
  exact List.foldl_ext _ _ _ fun failed ack present =>
    (faithful ack present).failedWith_recode failed

/-- Among answers of distinct peers, an answer with a disguised status that does not deny the put
makes a difference. -/
theorem failedPeers_recode_iff {acks : List Ack} (distinct : (acks.map Ack.peer).Nodup) :
    failedPeers (acks.map recode) = failedPeers acks ↔ ∀ ack ∈ acks, Faithful ack := by
  constructor
  · intro same ack present entry among disguised
    have counts : CountsAgainst (recode ack) := by
      rw [countsAgainst_iff_or]
      exact .inr ((denied_recode_iff ack).mpr (.inr ⟨entry, among, disguised⟩))
    have recoded : ((acks.map recode).map Ack.peer).Nodup := by
      rw [List.map_map]
      exact distinct
    have listed : ack.peer ∈ failedPeers acks := by
      rw [← same]
      exact (mem_failedPeers_iff _ recoded _ (List.mem_map_of_mem present)).mpr counts
    have before := (mem_failedPeers_iff acks distinct ack present).mp listed
    rw [countsAgainst_iff_or] at before
    apply before.resolve_left
    intro silent
    unfold given at among
    rw [Option.isNone_iff_eq_none.mp silent] at among
    cases among
  · exact failedPeers_recode

/-! ### The decision -/

/-- The codes of the statuses decide if no status is disguised, or none in an answer that does not
deny the put anyway: then answers with the same codes get the same decision, and whoever sends the
code of a denial has failed. Among distinct peers the decision on what the codes name is the same in
no other case. -/
theorem evaluate_by_codes (acks : List Ack) :
    ((∀ ack ∈ acks, Faithful ack) →
      evaluate (.ok ⟨acks.map recode⟩) = evaluate (.ok ⟨acks⟩) ∧
        (∀ others : List Ack, others.map wire = acks.map wire → (∀ ack ∈ others, Faithful ack) →
          evaluate (.ok ⟨others⟩) = evaluate (.ok ⟨acks⟩)) ∧
        ∀ ack ∈ acks, ∀ entry ∈ given ack, entry.2.code = 1 ∨ entry.2.code = 2 →
          ack.peer ∈ (evaluate (.ok ⟨acks⟩)).failed) ∧
      ((acks.map Ack.peer).Nodup →
        (evaluate (.ok ⟨acks.map recode⟩) = evaluate (.ok ⟨acks⟩) ↔
          ∀ ack ∈ acks, Faithful ack)) := by
  have decided (others : List Ack) (length : others.length = acks.length)
      (same : failedPeers others = failedPeers acks) :
      evaluate (.ok ⟨others⟩) = evaluate (.ok ⟨acks⟩) := by
    rw [evaluate_eq, evaluate_eq]
    simp only [answers, length, same]
  constructor
  · intro faithful
    refine ⟨decided _ (List.length_map recode) (failedPeers_recode faithful), ?_, ?_⟩
    · intro others sent also
      have read : others.map recode = acks.map recode := by
        have received := congrArg (List.map ofWire) sent
        rw [List.map_map, List.map_map] at received
        exact received
      apply decided
      · have lengths := congrArg List.length sent
        rw [List.length_map, List.length_map] at lengths
        exact lengths
      · rw [← failedPeers_recode also, read, failedPeers_recode faithful]
    · intro ack present entry among denial
      have denies : denied ack = true := by
        rcases Status.denies_or_disguised denial with denies | disguised
        · exact (denied_iff ack).mpr ⟨entry, among, denies⟩
        · exact faithful ack present entry among disguised
      rw [evaluate_eq]
      change ack.peer ∈ failedPeers acks
      rw [mem_failedPeers_iff_pos]
      have refuses := refusals_pos_iff.mpr ⟨ack, present, rfl, denies⟩
      omega
  · intro distinct
    rw [← failedPeers_recode_iff distinct]
    constructor
    · intro same
      rw [evaluate_eq, evaluate_eq] at same
      exact congrArg Decision.failed same
    · exact decided _ (List.length_map recode)

/-- The disguised status stands beside a denial, and the other unknown status has the code of a good
one. -/
theorem evaluate_by_codes_besideDenial :
    let first : VersionKey := ⟨"loc", "content", 1⟩
    let second : VersionKey := ⟨"loc", "content", 2⟩
    let acks : List Ack :=
      [⟨⟨"p"⟩, some [(first, .unknown 2), (second, .failed)]⟩,
        .withStatus ⟨"a"⟩ first (.unknown 0), .withStatus ⟨"b"⟩ first .versionFork]
    let others : List Ack :=
      [⟨⟨"p"⟩, some [(first, .failedSecurity), (second, .failed)]⟩,
        .withStatus ⟨"a"⟩ first .ok, .withStatus ⟨"b"⟩ first (.unknown 4)]
    (∀ ack ∈ acks, Faithful ack) ∧ others.map wire = acks.map wire ∧
      (∀ ack ∈ others, Faithful ack) ∧
      evaluate (.ok ⟨others⟩) = evaluate (.ok ⟨acks⟩) ∧
      evaluate (.ok ⟨acks.map recode⟩) = evaluate (.ok ⟨acks⟩) ∧
      ⟨"p"⟩ ∈ (evaluate (.ok ⟨acks⟩)).failed := by
  intro first second acks others
  have faithful : ∀ ack ∈ acks, Faithful ack := by decide
  have also : ∀ ack ∈ others, Faithful ack := by decide
  obtain ⟨decides, only⟩ := evaluate_by_codes acks
  obtain ⟨_, alike, denial⟩ := decides faithful
  exact ⟨faithful, by decide, also, alike others (by decide) also,
    (only (by decide)).mpr faithful,
    denial _ List.mem_cons_self (second, .failed) (by decide) (.inl rfl)⟩

/-- A status can be read that has the code of a denial without being one. A peer that sends it has
not failed, and would have if its code had been taken for what it names. -/
theorem disguised_denial_is_ignored :
    let key : VersionKey := ⟨"loc", "content", 1⟩
    let acks : List Ack := [.withStatus ⟨"p"⟩ key (.unknown 1)]
    (Json.read (Text.braced "\"Unknown\":1")).bind Status.ofJson? = some (.unknown 1) ∧
      (Status.unknown 1).code = Status.failed.code ∧
      evaluate (.ok ⟨acks⟩) = ⟨[], 1, true⟩ ∧
      evaluate (.ok ⟨acks.map recode⟩) = ⟨[⟨"p"⟩], 1, false⟩ :=
  ⟨by decide +kernel, rfl, rfl, rfl⟩

end Quorum
end Quorate
