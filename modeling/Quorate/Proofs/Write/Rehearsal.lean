import Quorate.Association
import Quorate.Proofs.Write.Rounds
import Quorate.Write.Rehearsal

/-!
The calls of a write against arbitrary answers. The puts alone decide how many rounds there are;
every call carries the request of the write and is made when no other call is under way.
-/

namespace Quorate.Write

open Store

/-! ### Contacts -/

theorem Cue.filterMap_issue? (cue : Cue) (call : Call) (request : Request) :
    (cue.contacts call request).filterMap Contact.issue? = [(call, request)] := by
  unfold contacts
  cases cue.outcome <;> rfl

/-- No call is left under way, there was never more than one, and none was made besides another. -/
structure Orderly (contacts : List Contact) : Prop where
  settled : underWay contacts = 0
  most : mostUnderWay contacts ≤ 1
  apart : ∀ index contact, contacts[index]? = some contact → contact.issue?.isSome = true →
    underWay (contacts.take index) = 0

private theorem underWay_append (contacts more : List Contact) :
    underWay (contacts ++ more) = more.foldl Contact.count (underWay contacts) := by
  unfold underWay
  exact List.foldl_append

private theorem foldl_pair_fst (contacts : List Contact) (now most : Nat) :
    (contacts.foldl (fun (now, most) contact => (contact.count now, max most (contact.count now)))
      (now, most)).1 = contacts.foldl Contact.count now := by
  induction contacts generalizing now most with
  | nil => rfl
  | cons contact rest ih => exact ih _ _

private theorem mostUnderWay_concat (contacts : List Contact) (contact : Contact) :
    mostUnderWay (contacts ++ [contact]) =
      max (mostUnderWay contacts) (contact.count (underWay contacts)) := by
  have counted := foldl_pair_fst contacts 0 0
  unfold mostUnderWay underWay
  rw [← counted, List.foldl_append]
  rfl

private theorem Orderly.nil : Orderly [] where
  settled := rfl
  most := Nat.zero_le 1
  apart := by
    intro index contact found
    rw [List.getElem?_nil] at found
    cases found

private theorem apart_concat {contacts : List Contact} {last : Contact}
    (apart : ∀ index contact, contacts[index]? = some contact → contact.issue?.isSome = true →
      underWay (contacts.take index) = 0)
    (free : last.issue?.isSome = true → underWay contacts = 0) :
    ∀ index contact, (contacts ++ [last])[index]? = some contact →
      contact.issue?.isSome = true → underWay ((contacts ++ [last]).take index) = 0 := by
  intro index contact found issues
  rcases Numbering.getElem?_concat_iff.mp found with before | ⟨rfl, same⟩
  · have within := (List.getElem?_eq_some_iff.mp before).1
    rw [List.take_append_of_le_length (Nat.le_of_lt within)]
    exact apart index contact before issues
  · rw [List.take_left' rfl]
    exact free (same ▸ issues)

private theorem Orderly.append_contacts {contacts : List Contact} (orderly : Orderly contacts)
    (cue : Cue) (call : Call) (request : Request) :
    Orderly (contacts ++ cue.contacts call request) := by
  obtain ⟨settled, most, apart⟩ := orderly
  have alone : Orderly (contacts ++ [.refused call request]) := by
    refine ⟨?_, ?_, apart_concat apart fun _ => settled⟩
    · rw [underWay_append, settled]
      rfl
    · rw [mostUnderWay_concat, settled]
      exact Nat.max_le.mpr ⟨most, Nat.zero_le 1⟩
  have paired : Orderly (contacts ++ [.taken call request, .ended]) := by
    have split : contacts ++ [.taken call request, .ended] =
        (contacts ++ [.taken call request]) ++ [.ended] := by simp
    rw [split]
    refine ⟨?_, ?_, apart_concat (apart_concat apart fun _ => settled) ?_⟩
    · rw [underWay_append, underWay_append, settled]
      rfl
    · rw [mostUnderWay_concat, mostUnderWay_concat, underWay_append, settled]
      exact Nat.max_le.mpr ⟨Nat.max_le.mpr ⟨most, Nat.le_refl 1⟩, Nat.zero_le 1⟩
    · intro issues
      cases issues
  unfold Cue.contacts
  cases cue.outcome with
  | refused failure => exact alone
  | completed completion => exact paired
  | fatal => exact paired

/-! ### The script -/

def Script.cue (script : Script) : Call → Cue
  | .put => script.puts 0
  | .remove => script.removals 0

theorem serve_contacts (call : Call) (request : Request) (script : Script) :
    (Script.serve call request script).2.contacts =
      script.contacts ++ (script.cue call).contacts call request := by
  cases call <;> rfl

section Rounds

variable (request : Request) (script : Script)

private theorem afterRounds_cues (count : Nat) :
    (afterRounds Script.serve request count script).puts =
        (fun index => script.puts (index + count)) ∧
      (afterRounds Script.serve request count script).removals =
        fun index => script.removals (index + count) := by
  induction count with
  | zero => exact ⟨rfl, rfl⟩
  | succ count ih =>
      rw [afterRounds_succ]
      constructor
      · funext index
        have used := congrFun ih.1 (index + 1)
        rw [Nat.add_right_comm] at used
        exact used
      · funext index
        have used := congrFun ih.2 (index + 1)
        rw [Nat.add_right_comm] at used
        exact used

private theorem putEnd?_serve (attempt : Nat) :
    putEnd? Script.serve request script attempt = (script.puts attempt).outcome.completion? := by
  have first := congrFun (afterRounds_cues request script attempt).1 0
  rw [Nat.zero_add] at first
  rw [← first]
  rfl

private theorem removalEnd?_serve (attempt : Nat) :
    removalEnd? Script.serve request script attempt =
      (script.removals attempt).outcome.completion? := by
  have first := congrFun (afterRounds_cues request script attempt).2 0
  rw [Nat.zero_add] at first
  rw [← first]
  rfl

def roundIssues (count : Nat) : List (Call × Request) :=
  (List.replicate count [(Call.put, request), (Call.remove, request)]).flatten

private theorem roundIssues_succ (count : Nat) :
    roundIssues request (count + 1) =
      roundIssues request count ++ [(.put, request), (.remove, request)] := by
  unfold roundIssues
  rw [List.replicate_succ', List.flatten_append]
  simp

theorem filterMap_afterRounds (count : Nat) :
    (afterRounds Script.serve request count script).contacts.filterMap Contact.issue? =
      script.contacts.filterMap Contact.issue? ++ roundIssues request count := by
  induction count with
  | zero => exact (List.append_nil _).symm
  | succ count ih =>
      rw [afterRounds_succ]
      unfold takenBack
      rw [serve_contacts, serve_contacts, List.filterMap_append, List.filterMap_append,
        Cue.filterMap_issue?, Cue.filterMap_issue?, ih, roundIssues_succ]
      simp only [List.append_assoc, List.cons_append, List.nil_append]

private theorem Orderly.afterRounds (orderly : Orderly script.contacts) (count : Nat) :
    Orderly (afterRounds Script.serve request count script).contacts := by
  induction count with
  | zero => exact orderly
  | succ count ih =>
      rw [afterRounds_succ]
      unfold takenBack
      rw [serve_contacts, serve_contacts]
      exact (ih.append_contacts _ .put request).append_contacts _ .remove request

end Rounds

/-! ### The run -/

/-- The answer to the put of an attempt reaches the quorum. -/
def AcceptedAt (puts : Nat → Cue) (attempt : Nat) : Prop :=
  ∃ completion, (puts attempt).outcome.completion? = some completion ∧
    (Quorum.evaluate completion).accepted = true

def Survived (cues : Nat → Cue) : Prop := ∀ index, (cues index).outcome ≠ .fatal

private theorem Survived.completion {cues : Nat → Cue} (survived : Survived cues) (index : Nat) :
    ∃ completion, (cues index).outcome.completion? = some completion := by
  have alive := survived index
  cases outcome : (cues index).outcome with
  | refused failure => exact ⟨.error failure, rfl⟩
  | completed completion => exact ⟨completion, rfl⟩
  | fatal => exact absurd outcome alive

section Run

variable (request : Request) (budget : UInt32) (puts removals : Nat → Cue)

private theorem rehearseBy_eq_drive (write : Write) :
    ((write.rehearseBy puts removals).write, (write.rehearseBy puts removals).script) =
      drive Script.serve write.callsLeft write { puts := puts, removals := removals } := rfl

theorem refuses_of_not_acceptedAt (putsSurvived : Survived puts)
    (removalsSurvived : Survived removals) (attempt : Nat) (missed : ¬AcceptedAt puts attempt) :
    Refuses Script.serve request { puts := puts, removals := removals } attempt := by
  obtain ⟨completion, ended⟩ := putsSurvived.completion attempt
  obtain ⟨removal, removed⟩ := removalsSurvived.completion attempt
  refine ⟨⟨completion, ?_, ?_⟩, removal, ?_⟩
  · rw [putEnd?_serve]
    exact ended
  · exact Bool.eq_false_iff.mpr fun accepted => missed ⟨completion, ended, accepted⟩
  · rw [removalEnd?_serve]
    exact removed

private theorem rehearseBy_of_accepted (putsSurvived : Survived puts)
    (removalsSurvived : Survived removals) (bounded : budget.toNat + 1 < UInt32.size)
    (count : Nat) (within : count ≤ budget.toNat) (accepted : AcceptedAt puts count)
    (least : ∀ earlier, earlier < count → ¬AcceptedAt puts earlier) :
    let rehearsal := ({ request, budget } : Write).rehearseBy puts removals
    rehearsal.issues = roundIssues request count ++ [(.put, request)] ∧
      rehearsal.write.verdict? = some true ∧ Orderly rehearsal.script.contacts := by
  intro rehearsal
  obtain ⟨completion, answered, quorum⟩ := accepted
  have driven := drive_of_accepts Script.serve request budget
    { puts := puts, removals := removals } count
    (fun earlier less => refuses_of_not_acceptedAt request puts removals putsSurvived
      removalsSurvived earlier (least earlier less))
    ⟨completion, (putEnd?_serve request _ count).trans answered, quorum⟩ within bounded
  have ended := (rehearseBy_eq_drive puts removals (attempting request budget 0)).trans driven
  have writeIs := congrArg Prod.fst ended
  have scriptIs := congrArg Prod.snd ended
  change rehearsal.write = _ at writeIs
  change rehearsal.script = _ at scriptIs
  refine ⟨?_, ?_, ?_⟩
  · unfold Rehearsal.issues
    rw [scriptIs]
    dsimp only
    rw [serve_contacts, List.filterMap_append, Cue.filterMap_issue?, filterMap_afterRounds]
    rfl
  · rw [writeIs]
    exact settle_verdict? request budget count true
  · rw [scriptIs]
    dsimp only
    rw [serve_contacts]
    exact (Orderly.afterRounds request _ Orderly.nil count).append_contacts _ .put request

private theorem rehearseBy_of_exhausted (putsSurvived : Survived puts)
    (removalsSurvived : Survived removals) (bounded : budget.toNat + 1 < UInt32.size)
    (missed : ∀ attempt, attempt ≤ budget.toNat → ¬AcceptedAt puts attempt) :
    let rehearsal := ({ request, budget } : Write).rehearseBy puts removals
    rehearsal.issues = roundIssues request (budget.toNat + 1) ∧
      rehearsal.write.verdict? = some false ∧ Orderly rehearsal.script.contacts := by
  intro rehearsal
  have driven := drive_of_refuses Script.serve request budget
    { puts := puts, removals := removals }
    (fun attempt within => refuses_of_not_acceptedAt request puts removals putsSurvived
      removalsSurvived attempt (missed attempt within)) bounded
  have ended := (rehearseBy_eq_drive puts removals (attempting request budget 0)).trans driven
  have writeIs := congrArg Prod.fst ended
  have scriptIs := congrArg Prod.snd ended
  change rehearsal.write = _ at writeIs
  change rehearsal.script = _ at scriptIs
  refine ⟨?_, ?_, ?_⟩
  · unfold Rehearsal.issues
    rw [scriptIs]
    dsimp only
    rw [filterMap_afterRounds]
    rfl
  · rw [writeIs]
    exact settle_verdict? request budget _ false
  · rw [scriptIs]
    exact Orderly.afterRounds request _ Orderly.nil _

private theorem rehearseBy_orderly (putsSurvived : Survived puts)
    (removalsSurvived : Survived removals) (bounded : budget.toNat + 1 < UInt32.size) :
    Orderly (({ request, budget } : Write).rehearseBy puts removals).script.contacts := by
  rcases first_or_none (AcceptedAt puts) budget.toNat with ⟨count, within, accepted, least⟩ | missed
  · exact (rehearseBy_of_accepted request budget puts removals putsSurvived removalsSurvived
      bounded count within accepted least).2.2
  · exact (rehearseBy_of_exhausted request budget puts removals putsSurvived removalsSurvived
      bounded missed).2.2

/-- How removals end changes neither the calls nor the verdict. -/
theorem rehearseBy_removals (others : Nat → Cue) (putsSurvived : Survived puts)
    (removalsSurvived : Survived removals) (othersSurvived : Survived others)
    (bounded : budget.toNat + 1 < UInt32.size) :
    (({ request, budget } : Write).rehearseBy puts others).issues =
        (({ request, budget } : Write).rehearseBy puts removals).issues ∧
      (({ request, budget } : Write).rehearseBy puts others).write.verdict? =
        (({ request, budget } : Write).rehearseBy puts removals).write.verdict? := by
  rcases first_or_none (AcceptedAt puts) budget.toNat with ⟨count, within, accepted, least⟩ | missed
  · obtain ⟨issues, verdict, _⟩ := rehearseBy_of_accepted request budget puts removals
      putsSurvived removalsSurvived bounded count within accepted least
    obtain ⟨otherIssues, otherVerdict, _⟩ := rehearseBy_of_accepted request budget puts others
      putsSurvived othersSurvived bounded count within accepted least
    exact ⟨otherIssues.trans issues.symm, otherVerdict.trans verdict.symm⟩
  · obtain ⟨issues, verdict, _⟩ := rehearseBy_of_exhausted request budget puts removals
      putsSurvived removalsSurvived bounded missed
    obtain ⟨otherIssues, otherVerdict, _⟩ := rehearseBy_of_exhausted request budget puts others
      putsSurvived othersSurvived bounded missed
    exact ⟨otherIssues.trans issues.symm, otherVerdict.trans verdict.symm⟩

/-- The calls of a write against any answers that leave its task alive: rounds of a put and a
removal up to the first put that reaches the quorum, or as many rounds as the budget allows. All
of them carry the request of the write, none is made while another is under way, and the ends of
the removals have no influence. -/
theorem rehearseBy_calls (putsSurvived : Survived puts) (removalsSurvived : Survived removals)
    (bounded : budget.toNat + 1 < UInt32.size) :
    let rehearsal := ({ request, budget } : Write).rehearseBy puts removals
    let contacts := rehearsal.script.contacts
    (∀ count, count ≤ budget.toNat → AcceptedAt puts count →
        (∀ earlier, earlier < count → ¬AcceptedAt puts earlier) →
        rehearsal.issues =
            (List.replicate count [(Call.put, request), (Call.remove, request)]).flatten ++
              [(Call.put, request)] ∧
          rehearsal.write.verdict? = some true) ∧
      ((∀ attempt, attempt ≤ budget.toNat → ¬AcceptedAt puts attempt) →
        rehearsal.issues =
            (List.replicate (budget.toNat + 1)
              [(Call.put, request), (Call.remove, request)]).flatten ∧
          rehearsal.write.verdict? = some false) ∧
      (∀ index contact, contacts[index]? = some contact → contact.issue?.isSome = true →
        underWay (contacts.take index) = 0) ∧
      rehearsal.mostInFlight ≤ 1 ∧
      (∀ others, Survived others →
        (({ request, budget } : Write).rehearseBy puts others).issues = rehearsal.issues ∧
          (({ request, budget } : Write).rehearseBy puts others).write.verdict? =
            rehearsal.write.verdict?) := by
  intro rehearsal contacts
  have orderly : Orderly contacts :=
    rehearseBy_orderly request budget puts removals putsSurvived removalsSurvived bounded
  refine ⟨?_, ?_, orderly.apart, orderly.most, ?_⟩
  · intro count within accepted least
    obtain ⟨issues, verdict, _⟩ := rehearseBy_of_accepted request budget puts removals
      putsSurvived removalsSurvived bounded count within accepted least
    exact ⟨issues, verdict⟩
  · intro missed
    obtain ⟨issues, verdict, _⟩ := rehearseBy_of_exhausted request budget puts removals
      putsSurvived removalsSurvived bounded missed
    exact ⟨issues, verdict⟩
  · intro others othersSurvived
    exact rehearseBy_removals request budget puts removals others putsSurvived removalsSurvived
      othersSurvived bounded

end Run

/-- A refused put, a failed one and an empty answer use up three retries; the fourth put is
accepted, although no removal succeeded. -/
theorem rehearseBy_three_refusals :
    let request : Request := { location := "loc", content := "content" }
    let failure : Failure := .futureFailed "down"
    let accepting : Ack := .withStatus ⟨"peer-1"⟩ request.versionKey .ok
    let puts : Nat → Cue
      | 0 => { outcome := .refused failure }
      | 1 => { outcome := .completed (.error failure), delay := 5 }
      | 2 => {}
      | _ => { outcome := .completed (.ok ⟨[accepting]⟩) }
    let removals : Nat → Cue
      | 0 => { outcome := .refused failure }
      | _ => { outcome := .completed (.error failure) }
    let rehearsal := ({ request := request, budget := 3 } : Write).rehearseBy puts removals
    Survived puts ∧ Survived removals ∧ (3 : UInt32).toNat + 1 < UInt32.size ∧
      rehearsal.issues =
        (List.replicate 3 [(Call.put, request), (Call.remove, request)]).flatten ++
          [(Call.put, request)] ∧
      rehearsal.write.verdict? = some true := by
  intro request failure accepting puts removals rehearsal
  have putsSurvived : Survived puts := by
    intro index
    rcases index with _ | _ | _ | index <;> exact nofun
  have removalsSurvived : Survived removals := by
    intro index
    rcases index with _ | index <;> exact nofun
  have bounded : (3 : UInt32).toNat + 1 < UInt32.size := by decide
  have accepted : AcceptedAt puts 3 := ⟨.ok ⟨[accepting]⟩, rfl, rfl⟩
  have least : ∀ earlier, earlier < 3 → ¬AcceptedAt puts earlier := by
    intro earlier less reached
    obtain ⟨completion, ended, quorum⟩ := reached
    rcases earlier with _ | _ | _ | earlier
    · cases ended
      cases quorum
    · cases ended
      cases quorum
    · cases ended
      cases quorum
    · omega
  obtain ⟨reached, _⟩ := rehearseBy_calls request 3 puts removals putsSurvived removalsSurvived
    bounded
  exact ⟨putsSurvived, removalsSurvived, bounded, reached 3 (by decide) accepted least⟩

end Quorate.Write
