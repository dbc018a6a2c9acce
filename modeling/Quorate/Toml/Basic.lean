/-!
TOML values and tables. A table lists its names in the order in which they came, none of them
twice.
-/

namespace Quorate

inductive Toml where
  | string (content : String)
  | integer (value : Int)
  | float (value : Float)
  | bool (value : Bool)
  /-- A date, a time or both, in the form in which it is shown. -/
  | moment (shown : String)
  | array (items : List Toml)
  /-- A place in an array that nothing has been put into. Documents have none. -/
  | gap
  | table (entries : List (String × Toml))

namespace Toml

abbrev Table := List (String × Toml)

def Table.set (table : Table) (name : String) (value : Toml) : Table :=
  match table with
  | [] => [(name, value)]
  | (other, old) :: rest =>
      if other = name then (name, value) :: rest else (other, old) :: Table.set rest name value

theorem Table.lookup_set (table : Table) (name query : String) (value : Toml) :
    (table.set name value).lookup query =
      if query = name then some value else table.lookup query := by
  induction table with
  | nil =>
      by_cases same : query = name
      · simp [Table.set, same]
      · have different : (query == name) = false := by simp [same]
        simp [Table.set, List.lookup_cons, different, same]
  | cons entry rest inductionHypothesis =>
      obtain ⟨other, old⟩ := entry
      by_cases replaced : other = name
      · subst replaced
        by_cases same : query = other
        · simp [Table.set, same]
        · have different : (query == other) = false := by simp [same]
          simp [Table.set, List.lookup_cons, different, same]
      · by_cases same : query = other
        · subst same
          simp [Table.set, replaced]
        · have different : (query == other) = false := by simp [same]
          simp [Table.set, replaced, List.lookup_cons, different, inductionHypothesis]

def entries : Toml → Table
  | .table entries => entries
  | _ => []

def items : Toml → List Toml
  | .array items => items
  | _ => []

end Toml
end Quorate
