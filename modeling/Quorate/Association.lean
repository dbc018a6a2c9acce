/-!
What is found in lists. In an association list a lookup finds the value under a key, and none once
the key has been removed. Where entries go by their number, they keep it when another one is added.
-/

namespace Quorate.Association

variable {κ β : Type} [DecidableEq κ]

theorem mem_of_lookup_eq_some {entries : List (κ × β)} {key : κ} {value : β}
    (found : entries.lookup key = some value) : (key, value) ∈ entries := by
  obtain ⟨front, back, rfl, -⟩ := List.lookup_eq_some_iff.mp found
  exact List.mem_append_right front List.mem_cons_self

theorem lookup_eq_none_iff_not_mem {entries : List (κ × β)} {key : κ} :
    entries.lookup key = none ↔ key ∉ entries.map Prod.fst := by
  rw [List.lookup_eq_none_iff, List.mem_map]
  constructor
  · rintro absent ⟨entry, present, same⟩
    exact bne_iff_ne.mp (absent entry present) same.symm
  · intro absent entry present
    exact bne_iff_ne.mpr fun same => absent ⟨entry, present, same.symm⟩

theorem lookup_filter_ne (entries : List (κ × β)) (key erased : κ) :
    (entries.filter fun entry => entry.1 ≠ erased).lookup key =
      if key = erased then none else entries.lookup key := by
  induction entries with
  | nil => exact (ite_self none).symm
  | cons entry rest ih =>
      obtain ⟨name, value⟩ := entry
      by_cases removed : name = erased
      · rw [List.filter_cons_of_neg (by simp [removed]), ih]
        by_cases found : key = erased
        · rw [if_pos found, if_pos found]
        · have miss : (key == name) = false := by simp [removed, found]
          rw [if_neg found, if_neg found, List.lookup_cons, miss]
      · rw [List.filter_cons_of_pos (by simp [removed]), List.lookup_cons, List.lookup_cons, ih]
        by_cases found : key = name
        · have kept : key ≠ erased := found ▸ removed
          rw [if_neg kept, if_neg kept]
        · have miss : (key == name) = false := by simp [found]
          rw [miss]

end Quorate.Association

namespace Quorate.Numbering

variable {β : Type} {entries : List β} {last entry : β} {number : Nat}

theorem getElem?_concat_iff :
    (entries ++ [last])[number]? = some entry ↔
      entries[number]? = some entry ∨ number = entries.length ∧ last = entry := by
  rcases Nat.lt_trichotomy number entries.length with before | rfl | beyond
  · rw [List.getElem?_append_left before]
    exact (or_iff_left fun here => Nat.ne_of_lt before here.1).symm
  · rw [List.getElem?_concat_length, List.getElem?_eq_none (Nat.le_refl _), Option.some_inj]
    simp
  · have absent : (entries ++ [last])[number]? = none := by
      rw [List.getElem?_eq_none_iff, List.length_append, List.length_singleton]
      exact beyond
    rw [absent, List.getElem?_eq_none (Nat.le_of_lt beyond)]
    simp
    omega

theorem getElem?_concat_of_some (found : entries[number]? = some entry) :
    (entries ++ [last])[number]? = some entry :=
  getElem?_concat_iff.mpr (.inl found)

end Quorate.Numbering
