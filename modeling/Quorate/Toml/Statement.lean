import Quorate.Toml.Basic

/-!
A TOML document as a list of statements, and the table that they build. A name is defined once. A
header may open a table that earlier headers only passed through, but no table that has been opened
or that keys have built. A dotted key extends no table that a header has opened; it may lead through
the last table of an array, but not end there.
-/

namespace Quorate.Toml

inductive Statement where
  | header (path : List String)
  /-- Opens a new table at the end of an array of tables. -/
  | element (path : List String)
  | entry (path : List String) (value : Toml)

inductive Origin where
  | opened
  /-- A header that leads through it. -/
  | passed
  | dotted
deriving DecidableEq

/-- A part of a document under construction. Values, and with them tables in braces, are final. -/
inductive Node where
  | value (value : Toml)
  | table (origin : Origin) (entries : List (String × Node))
  | elements (tables : List (List (String × Node)))

abbrev Outline := List (String × Node)

namespace Outline

def replace (outline : Outline) (name : String) (node : Node) : Outline :=
  outline.map fun entry => if entry.1 = name then (name, node) else entry

def define : List String → Toml → Outline → Option Outline
  | [], _, _ => none
  | [name], value, outline =>
      if (outline.lookup name).isSome then none else some (outline ++ [(name, .value value)])
  | name :: next :: rest, value, outline =>
      match outline.lookup name with
      | none =>
          (define (next :: rest) value []).map fun inner =>
            outline ++ [(name, .table .dotted inner)]
      | some (.table origin inner) =>
          if origin = .opened then none
          else
            (define (next :: rest) value inner).map fun inner =>
              outline.replace name (.table origin inner)
      | some (.elements tables) =>
          if rest.isEmpty then none
          else
            (define (next :: rest) value (tables.getLast?.getD [])).map fun inner =>
              outline.replace name (.elements (tables.dropLast ++ [inner]))
      | some (.value _) => none

/-- Changes the table that a header's path leads to. In an array of tables the way leads through
the last of them. -/
def changeAt (change : Outline → Option Outline) : List String → Outline → Option Outline
  | [], outline => change outline
  | name :: rest, outline =>
      match outline.lookup name with
      | none =>
          (changeAt change rest []).map fun inner => outline ++ [(name, .table .passed inner)]
      | some (.table origin inner) =>
          (changeAt change rest inner).map fun inner =>
            outline.replace name (.table origin inner)
      | some (.elements tables) =>
          (changeAt change rest (tables.getLast?.getD [])).map fun inner =>
            outline.replace name (.elements (tables.dropLast ++ [inner]))
      | some (.value _) => none

def openTable (name : String) (outline : Outline) : Option Outline :=
  match outline.lookup name with
  | none => some (outline ++ [(name, .table .opened [])])
  | some (.table .passed inner) => some (outline.replace name (.table .opened inner))
  | some _ => none

def openElement (name : String) (outline : Outline) : Option Outline :=
  match outline.lookup name with
  | none => some (outline ++ [(name, .elements [[]])])
  | some (.elements tables) => some (outline.replace name (.elements (tables ++ [[]])))
  | some _ => none

end Outline

mutual

def Node.toToml : Node → Toml
  | .value value => value
  | .table _ entries => .table (Outline.toTable entries)
  | .elements tables => .array (Outline.toItems tables)

def Outline.toTable : List (String × Node) → List (String × Toml)
  | [] => []
  | (name, node) :: rest => (name, node.toToml) :: Outline.toTable rest

def Outline.toItems : List (List (String × Node)) → List Toml
  | [] => []
  | entries :: rest => .table (Outline.toTable entries) :: Outline.toItems rest

end

def Table.ofEntries? (entries : List (List String × Toml)) : Option Table :=
  (entries.foldlM (fun outline entry => Outline.define entry.1 entry.2 outline) []).map
    Outline.toTable

structure Draft where
  path : List String := []
  outline : Outline := []

namespace Draft

/-- Goes on to the table that a header names, which the given function makes out of its last
name. -/
def enter (draft : Draft) (make : String → Outline → Option Outline) (path : List String) :
    Option Draft :=
  match path.getLast? with
  | none => none
  | some name =>
      (draft.outline.changeAt (make name) path.dropLast).map fun outline => ⟨path, outline⟩

def extend (draft : Draft) : Statement → Option Draft
  | .header path => draft.enter Outline.openTable path
  | .element path => draft.enter Outline.openElement path
  | .entry path value =>
      (draft.outline.changeAt (Outline.define path value) draft.path).map fun outline =>
        ⟨draft.path, outline⟩

end Draft

def Table.ofStatements? (statements : List Statement) : Option Table :=
  (statements.foldlM Draft.extend {}).map fun draft => Outline.toTable draft.outline

end Quorate.Toml
