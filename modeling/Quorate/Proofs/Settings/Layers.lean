import Mathlib.Data.List.TakeWhile
import Quorate.Proofs.Toml.Names
import Quorate.Settings.Layers
import Quorate.Settings.Setting

/-!
What is found in layers. A value in an upper layer stands over what the lower ones have in its
place, tables are merged name by name, and nothing else changes.
-/

namespace Quorate

namespace Toml

/-! ### Tables over tables -/

def Table.lay (lower upper : Table) : Table :=
  upper.foldl (fun table entry => table.set entry.1 (entry.2.overlay (table.lookup entry.1))) lower

private theorem overlayEntries_eq_lay (upper lower : Table) :
    overlayEntries upper lower = Table.lay lower upper := by
  induction upper generalizing lower with
  | nil => rw [overlayEntries]; rfl
  | cons entry rest ih => rw [overlayEntries, ih]; rfl

private theorem Table.lookup_lay {lower upper : Table} (distinct : Distinct upper) (name : String) :
    (lower.lay upper).lookup name =
      ((upper.lookup name).map fun value => value.overlay (lower.lookup name)).or
        (lower.lookup name) := by
  induction upper generalizing lower with
  | nil => rfl
  | cons entry rest ih =>
      obtain ⟨other, value⟩ := entry
      obtain ⟨absent, distinct⟩ := List.nodup_cons.mp distinct
      change (Table.lay (lower.set other (value.overlay (lower.lookup other))) rest).lookup name = _
      rw [ih distinct, Table.lookup_set, List.lookup_cons]
      by_cases same : name = other
      · subst same
        have missing : rest.lookup name = none :=
          Association.lookup_eq_none_iff_not_mem.mpr absent
        simp [missing]
      · simp [same, beq_false_of_ne same]

private theorem lookup_entries_overlay {value : Toml} (distinct : Distinct value.entries)
    (name : String) :
    (value.overlay none).entries.lookup name =
      (value.entries.lookup name).map fun inner => inner.overlay none := by
  cases value with
  | table upper =>
      change Distinct upper at distinct
      have laid : ((Toml.table upper).overlay none).entries = Table.lay [] upper := by
        rw [overlay, Toml.entries, overlayEntries_eq_lay]
        rfl
      rw [laid, Table.lookup_lay distinct]
      simp [Toml.entries]
  | _ => rw [overlay]; rfl

def isTable : Toml → Bool
  | .table _ => true
  | _ => false

theorem isTable_overlay (value : Toml) (lower : Option Toml) :
    (value.overlay lower).isTable = value.isTable := by
  cases value <;> simp [overlay, isTable]

end Toml

namespace Settings

open Toml

/-! ### Paths -/

/-- A name that a document may have without quotes. -/
def Bare (name : String) : Prop := name ≠ "" ∧ name.toList.all isPathCharacter = true

private theorem path_of_bare {name : String} (bare : Bare name) : path name = [.name name] := by
  obtain ⟨nonempty, all⟩ := bare
  rw [List.all_eq_true] at all
  have word : name.toList.takeWhile isPathCharacter = name.toList :=
    List.takeWhile_eq_self_iff.mpr all
  have rest : name.toList.dropWhile isPathCharacter = [] := List.dropWhile_eq_nil_iff.mpr all
  have some : name.toList.isEmpty = false := by
    rw [List.isEmpty_eq_false_iff]
    exact fun none => nonempty (String.toList_eq_nil_iff.mp none)
  rw [path]
  simp [readSteps, word, rest, some]

private theorem layer_of_bare {upper : Table} (bare : ∀ entry ∈ upper, Bare entry.1)
    (lower : Table) : layer lower upper = Table.lay lower upper := by
  induction upper generalizing lower with
  | nil => rfl
  | cons entry rest ih =>
      rw [List.forall_mem_cons] at bare
      have step : (place entry.2 (path entry.1) (some (.table lower))).entries =
          lower.set entry.1 (entry.2.overlay (lower.lookup entry.1)) := by
        rw [path_of_bare bare.1]
        rfl
      rw [layer, List.foldl_cons, step]
      exact ih bare.2 _

theorem lookup_layer_nil {file : Table} (bare : ∀ entry ∈ file, Bare entry.1)
    (distinct : Distinct file) (name : String) :
    (layer [] file).lookup name = (file.lookup name).map fun value => value.overlay none := by
  rw [layer_of_bare bare, Table.lookup_lay distinct]
  simp

end Settings

/-! ### Settings in layers -/

namespace Setting

open Toml Settings

def name (setting : Setting) : String :=
  match setting.section? with
  | none => setting.key
  | some group => group ++ "." ++ setting.key

def entriesOf (group : String) (table : Table) : Table :=
  ((table.lookup group).map Toml.entries).getD []

def inTable? (setting : Setting) (table : Table) : Option Toml :=
  match setting.section? with
  | none => table.lookup setting.key
  | some group => (entriesOf group table).lookup setting.key

private theorem path_name (setting : Setting) :
    Settings.path setting.name = setting.path.map PathStep.name := by
  cases setting <;> decide +kernel

private theorem name_injective : Function.Injective name := by
  intro setting other same
  have paths := congrArg Settings.path same
  rw [path_name, path_name] at paths
  revert paths
  cases setting <;> cases other <;> decide

theorem inTable?_layer_nil (setting : Setting) {file : Table}
    (bare : ∀ entry ∈ file, Bare entry.1) (tidy : file.Tidy) :
    setting.inTable? (layer [] file) =
      (setting.inTable? file).map fun value => value.overlay none := by
  rw [inTable?, inTable?]
  cases setting.section? with
  | none => exact lookup_layer_nil bare tidy.distinct _
  | some group =>
      dsimp only
      rw [entriesOf, entriesOf, lookup_layer_nil bare tidy.distinct]
      cases found : file.lookup group with
      | none => rfl
      | some value =>
          have member : (group, value) ∈ file := Association.mem_of_lookup_eq_some found
          exact lookup_entries_overlay (tidy.within _ member) _

def placed (setting : Setting) (text : String) (table : Table) : Table :=
  (place (.string text) (Settings.path setting.name) (some (.table table))).entries

private theorem inTable?_placed (setting other : Setting) (text : String) (table : Table) :
    other.inTable? (setting.placed text table) =
      if other = setting then some (.string text) else other.inTable? table := by
  rw [placed, path_name]
  -- No two settings have one path, and no section has the name of a setting beside it.
  cases setting <;> cases other <;>
    simp [Setting.path, section?, key, place, inTable?, entriesOf, Toml.entries, Table.lookup_set,
      overlay]

private theorem lookup_placed (setting : Setting) {other : Setting} {group : String}
    (isGroup : other.section? = some group) (text : String) (table : Table) :
    (setting.placed text table).lookup group =
      if setting.section? = some group then
        some (.table ((entriesOf group table).set setting.key (.string text)))
      else table.lookup group := by
  rw [placed, path_name]
  cases other <;> cases isGroup <;> cases setting <;>
    simp [Setting.path, section?, key, place, entriesOf, Toml.entries, Table.lookup_set, overlay]

end Setting

namespace Settings

open Toml

/-! ### Environments -/

def given (environment : List (String × String)) : List (String × String) :=
  environment.filterMap fun entry => (settingName? entry.1).map fun name => (name, entry.2)

/-- An environment that gives nothing but settings, none of them twice. -/
structure Proper (environment : List (String × String)) : Prop where
  named : ∀ entry ∈ given environment, ∃ setting : Setting, entry.1 = setting.name
  once : Distinct (given environment)

def fill (texts : List (Setting × String)) (table : Table) : Table :=
  texts.foldl (fun table entry => entry.1.placed entry.2 table) table

theorem environmentLayer_eq (environment : List (String × String)) :
    environmentLayer environment =
      (given environment).map fun entry => (entry.1, .string entry.2) := by
  rw [environmentLayer, given, List.map_filterMap]
  refine congrArg (List.filterMap · environment) (funext fun entry => ?_)
  cases settingName? entry.1 <;> rfl

theorem exists_settings {entries : List (String × String)}
    (named : ∀ entry ∈ entries, ∃ setting : Setting, entry.1 = setting.name) :
    ∃ texts : List (Setting × String),
      entries = texts.map fun entry => (entry.1.name, entry.2) := by
  induction entries with
  | nil => exact ⟨[], rfl⟩
  | cons entry rest ih =>
      rw [List.forall_mem_cons] at named
      obtain ⟨⟨setting, name⟩, named⟩ := named
      obtain ⟨texts, rfl⟩ := ih named
      exact ⟨(setting, entry.2) :: texts, by rw [List.map_cons, ← name]⟩

theorem layer_settings (texts : List (Setting × String)) (table : Table) :
    layer table (texts.map fun entry => (entry.1.name, .string entry.2)) = fill texts table := by
  rw [layer, List.foldl_map]
  rfl

theorem lookup_settings (texts : List (Setting × String)) (setting : Setting) :
    (texts.map fun entry => (entry.1.name, entry.2)).lookup setting.name =
      texts.lookup setting := by
  induction texts with
  | nil => rfl
  | cons entry rest ih =>
      rw [List.map_cons, List.lookup_cons, List.lookup_cons, ih]
      by_cases same : setting = entry.1
      · simp [same]
      · simp [same, beq_false_of_ne, Setting.name_injective.ne same]

theorem nodup_settings {texts : List (Setting × String)}
    (once : Distinct (texts.map fun entry => (entry.1.name, entry.2))) :
    (texts.map Prod.fst).Nodup := by
  rw [Distinct, List.map_map] at once
  refine List.Nodup.of_map Setting.name ?_
  rw [List.map_map]
  exact once

/-- A setting that has a text has just this one, whatever is put after it. -/
theorem inTable?_fill {texts : List (Setting × String)} (once : (texts.map Prod.fst).Nodup)
    (table : Table) (setting : Setting) :
    setting.inTable? (fill texts table) =
      ((texts.lookup setting).map .string).or (setting.inTable? table) := by
  induction texts generalizing table with
  | nil => rfl
  | cons entry rest ih =>
      obtain ⟨absent, once⟩ := List.nodup_cons.mp once
      change setting.inTable? (fill rest (entry.1.placed entry.2 table)) = _
      rw [ih once, Setting.inTable?_placed, List.lookup_cons]
      by_cases same : setting = entry.1
      · subst same
        have missing : rest.lookup entry.1 = none :=
          Association.lookup_eq_none_iff_not_mem.mpr absent
        simp [missing]
      · simp [same, beq_false_of_ne same]

/-- A section stands as it stood if none of its settings has a text, and else it is a table. -/
theorem lookup_fill (texts : List (Setting × String)) (table : Table) {other : Setting}
    {group : String} (isGroup : other.section? = some group) :
    ((∀ entry ∈ texts, entry.1.section? ≠ some group) ∧
        (fill texts table).lookup group = table.lookup group) ∨
      (∃ entry ∈ texts, entry.1.section? = some group) ∧
        ∃ entries, (fill texts table).lookup group = some (.table entries) := by
  induction texts generalizing table with
  | nil => exact .inl ⟨List.forall_mem_nil _, rfl⟩
  | cons entry rest ih =>
      change (_ ∧ (fill rest (entry.1.placed entry.2 table)).lookup group = _) ∨
        _ ∧ ∃ entries, (fill rest (entry.1.placed entry.2 table)).lookup group = _
      have here := Setting.lookup_placed entry.1 isGroup entry.2 table
      rw [List.forall_mem_cons, List.exists_mem_cons_iff]
      -- What the first text makes a table, no later one makes anything else.
      rcases ih (entry.1.placed entry.2 table) with ⟨others, stands⟩ | ⟨later, isTable⟩
      · rw [stands, here]
        by_cases same : entry.1.section? = some group
        · rw [if_pos same]
          exact .inr ⟨.inl same, _, rfl⟩
        · rw [if_neg same]
          exact .inl ⟨⟨same, others⟩, rfl⟩
      · exact .inr ⟨.inr later, isTable⟩

end Settings

end Quorate
