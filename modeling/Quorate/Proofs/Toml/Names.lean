import Mathlib.Data.List.Nodup
import Quorate.Association
import Quorate.Toml.Reader

/-!
No table of a document has a name twice, and neither have the tables right in it. Whatever a
statement does to a table under construction, it puts one node into it, under a name that the table
does not have yet or in place of the node that has the name.
-/

namespace Quorate.Toml

/-! ### Distinct names -/

def Distinct {α : Type} (entries : List (String × α)) : Prop := (entries.map Prod.fst).Nodup

theorem distinct_nil {α : Type} : Distinct ([] : List (String × α)) := List.nodup_nil

/-- A table without a name twice, and without one twice in any of its values. -/
structure Table.Tidy (table : Table) : Prop where
  distinct : Distinct table
  within : ∀ entry ∈ table, Distinct entry.2.entries

/-! ### Tables under construction -/

namespace Outline

private theorem names_toTable (outline : Outline) :
    (toTable outline).map Prod.fst = outline.map Prod.fst := by
  induction outline with
  | nil => rfl
  | cons entry rest ih => rw [toTable, List.map_cons, ih, List.map_cons]

private theorem distinct_toTable {outline : Outline} :
    Distinct (toTable outline) ↔ Distinct outline := by
  rw [Distinct, names_toTable, Distinct]

structure Tidy (outline : Outline) : Prop where
  distinct : Distinct outline
  within : ∀ entry ∈ outline, Distinct entry.2.toToml.entries

private theorem tidy_nil : Tidy [] := ⟨distinct_nil, List.forall_mem_nil _⟩

private theorem Tidy.toTable {outline : Outline} (tidy : outline.Tidy) :
    Table.Tidy (toTable outline) := by
  refine ⟨distinct_toTable.mpr tidy.distinct, ?_⟩
  have within := tidy.within
  clear tidy
  induction outline with
  | nil => exact List.forall_mem_nil _
  | cons entry rest ih =>
      rw [List.forall_mem_cons] at within
      rw [Outline.toTable, List.forall_mem_cons]
      exact ⟨within.1, ih within.2⟩

private theorem Tidy.of_lookup {outline : Outline} (tidy : outline.Tidy) {name : String}
    {node : Node} (found : outline.lookup name = some node) : Distinct node.toToml.entries :=
  tidy.within (name, node) (Association.mem_of_lookup_eq_some found)

/-- The second table is the first one with a node under a name. -/
inductive Puts (outline : Outline) (name : String) (node : Node) : Outline → Prop
  | added (absent : outline.lookup name = none) : Puts outline name node (outline ++ [(name, node)])
  | replaced : Puts outline name node (outline.replace name node)

section Puts

variable {outline changed : Outline} {name : String} {node : Node}

private theorem Puts.distinct (puts : Puts outline name node changed)
    (distinct : Distinct outline) : Distinct changed := by
  cases puts with
  | added absent =>
      rw [Distinct, List.map_append, List.map_singleton]
      exact List.nodup_append_comm.mp
        (List.nodup_cons.mpr ⟨Association.lookup_eq_none_iff_not_mem.mp absent, distinct⟩)
  | replaced =>
      have names : (outline.replace name node).map Prod.fst = outline.map Prod.fst := by
        rw [replace, List.map_map]
        refine List.map_congr_left fun entry _ => ?_
        by_cases same : entry.1 = name <;> simp [same]
      rw [Distinct, names]
      exact distinct

private theorem Puts.tidy (puts : Puts outline name node changed) (tidy : outline.Tidy)
    (fresh : Distinct node.toToml.entries) : changed.Tidy := by
  refine ⟨puts.distinct tidy.distinct, ?_⟩
  cases puts with
  | added absent =>
      rw [List.forall_mem_append, List.forall_mem_singleton]
      exact ⟨tidy.within, fresh⟩
  | replaced =>
      rw [replace, List.forall_mem_map]
      intro entry member
      by_cases same : entry.1 = name
      · rw [if_pos same]
        exact fresh
      · rw [if_neg same]
        exact tidy.within entry member

end Puts

structure Keeps (change : Outline → Option Outline) : Prop where
  distinct : ∀ {outline changed}, change outline = some changed → Distinct outline →
    Distinct changed
  tidy : ∀ {outline changed}, change outline = some changed → outline.Tidy → changed.Tidy

private theorem keeps_of_puts {change : Outline → Option Outline}
    (puts : ∀ outline changed, change outline = some changed → ∃ name node,
      Puts outline name node changed ∧ (outline.Tidy → Distinct node.toToml.entries)) :
    Keeps change := by
  constructor
  · intro outline changed done distinct
    obtain ⟨name, node, put, -⟩ := puts outline changed done
    exact put.distinct distinct
  · intro outline changed done tidy
    obtain ⟨name, node, put, fresh⟩ := puts outline changed done
    exact put.tidy tidy (fresh tidy)

private theorem distinct_elements (tables : List Outline) :
    Distinct (Node.elements tables).toToml.entries := distinct_nil

private theorem distinct_table {origin : Origin} {entries : Outline} (distinct : Distinct entries) :
    Distinct (Node.table origin entries).toToml.entries := distinct_toTable.mpr distinct

private theorem Tidy.of_lookup_table {outline inner : Outline} (tidy : outline.Tidy) {name : String}
    {origin : Origin} (found : outline.lookup name = some (.table origin inner)) :
    Distinct inner := distinct_toTable.mp (tidy.of_lookup found)

private theorem keeps_openTable (name : String) : Keeps (openTable name) := by
  refine keeps_of_puts fun outline changed done => ?_
  rw [openTable] at done
  split at done
  next absent =>
    cases done
    exact ⟨name, _, .added absent, fun _ => distinct_nil⟩
  next inner found =>
    cases done
    exact ⟨name, _, .replaced, fun tidy => distinct_table (tidy.of_lookup_table found)⟩
  next => cases done

private theorem keeps_openElement (name : String) : Keeps (openElement name) := by
  refine keeps_of_puts fun outline changed done => ?_
  rw [openElement] at done
  split at done
  next absent =>
    cases done
    exact ⟨name, _, .added absent, fun _ => distinct_elements _⟩
  next tables found =>
    cases done
    exact ⟨name, _, .replaced, fun _ => distinct_elements _⟩
  next => cases done

private theorem Keeps.changeAt {change : Outline → Option Outline} (keeps : Keeps change)
    (path : List String) : Keeps (changeAt change path) := by
  induction path with
  | nil => exact keeps
  | cons name rest ih =>
      refine keeps_of_puts fun outline changed done => ?_
      rw [Outline.changeAt] at done
      split at done
      next absent =>
        obtain ⟨inner, inside, rfl⟩ := Option.map_eq_some_iff.mp done
        exact ⟨name, _, .added absent, fun _ => distinct_table (ih.distinct inside distinct_nil)⟩
      next origin inner found =>
        obtain ⟨inner, inside, rfl⟩ := Option.map_eq_some_iff.mp done
        exact ⟨name, _, .replaced, fun tidy =>
          distinct_table (ih.distinct inside (tidy.of_lookup_table found))⟩
      next tables found =>
        obtain ⟨inner, inside, rfl⟩ := Option.map_eq_some_iff.mp done
        exact ⟨name, _, .replaced, fun _ => distinct_elements _⟩
      next => cases done

/-- A new entry puts one node, and all that it changes further down has distinct names. Nothing but
a value that has a name twice can be put with one. -/
theorem puts_define (value : Toml) (path : List String) (outline changed : Outline)
    (done : define path value outline = some changed) :
    ∃ name node, Puts outline name node changed ∧
      (Distinct value.entries → outline.Tidy → Distinct node.toToml.entries) := by
  induction path generalizing outline changed with
  | nil => cases done
  | cons name rest ih =>
      -- Further down distinct names are all that is needed, and any put keeps those: a table in
      -- braces is made of values of which nothing is known yet.
      have below {inner defined : Outline} (inside : define rest value inner = some defined)
          (distinct : Distinct inner) : Distinct defined := by
        obtain ⟨_, _, puts, -⟩ := ih inner defined inside
        exact puts.distinct distinct
      cases rest with
      | nil =>
          rw [define] at done
          split at done
          next => cases done
          next absent =>
            cases done
            have absent := Option.not_isSome_iff_eq_none.mp absent
            exact ⟨name, _, .added absent, fun distinct _ => distinct⟩
      | cons next rest =>
          rw [define] at done
          split at done
          next absent =>
            obtain ⟨inner, inside, rfl⟩ := Option.map_eq_some_iff.mp done
            exact ⟨name, _, .added absent, fun _ _ => distinct_table (below inside distinct_nil)⟩
          next origin inner found =>
            split at done
            next => cases done
            next =>
              obtain ⟨inner, inside, rfl⟩ := Option.map_eq_some_iff.mp done
              exact ⟨name, _, .replaced, fun _ tidy =>
                distinct_table (below inside (tidy.of_lookup_table found))⟩
          next tables found =>
            split at done
            next => cases done
            next =>
              obtain ⟨inner, inside, rfl⟩ := Option.map_eq_some_iff.mp done
              exact ⟨name, _, .replaced, fun _ _ => distinct_elements _⟩
          next => cases done

private theorem keeps_define {value : Toml} (distinct : Distinct value.entries)
    (path : List String) : Keeps (define path value) :=
  keeps_of_puts fun outline changed done =>
    have ⟨name, node, puts, fresh⟩ := puts_define value path outline changed done
    ⟨name, node, puts, fresh distinct⟩

end Outline

/-! ### Values -/

private theorem foldlM_invariant {σ α : Type} {step : σ → α → Option σ} {Holds : σ → Prop}
    {items : List α}
    (kept : ∀ item ∈ items, ∀ before after, step before item = some after → Holds before →
      Holds after)
    {start last : σ} (folded : items.foldlM step start = some last) (holds : Holds start) :
    Holds last := by
  induction items generalizing start with
  | nil =>
      cases folded
      exact holds
  | cons item rest ih =>
      rw [List.forall_mem_cons] at kept
      rw [List.foldlM_cons] at folded
      obtain ⟨next, stepped, folded⟩ := Option.bind_eq_some_iff.mp folded
      exact ih kept.2 folded (kept.1 start next stepped holds)

private theorem distinct_ofEntries? {entries : List (List String × Toml)} {table : Table}
    (made : Table.ofEntries? entries = some table) : Distinct table := by
  obtain ⟨outline, folded, rfl⟩ := Option.map_eq_some_iff.mp made
  rw [Outline.distinct_toTable]
  refine foldlM_invariant (fun entry _ before after defined distinct => ?_) folded distinct_nil
  obtain ⟨_, _, puts, -⟩ := Outline.puts_define _ _ _ _ defined
  exact puts.distinct distinct

private theorem entries_ofWord {word : List Char} {value : Toml} (read : ofWord word = some value) :
    value.entries = [] := by
  rw [ofWord] at read
  split at read
  next => cases read; rfl
  next =>
    split at read
    next => cases read; rfl
    next =>
      rcases Option.or_eq_some_iff.mp read with integer | ⟨-, read⟩
      · obtain ⟨number, -, integer⟩ := Option.bind_eq_some_iff.mp integer
        split at integer
        next => cases integer; rfl
        next => cases integer
      · rcases Option.or_eq_some_iff.mp read with float | ⟨-, moment⟩
        · obtain ⟨number, -, rfl⟩ := Option.map_eq_some_iff.mp float
          rfl
        · obtain ⟨shown, -, rfl⟩ := Option.map_eq_some_iff.mp moment
          rfl

private theorem distinct_readValue {bound depth : Nat} {text rest : List Char} {value : Toml}
    (read : readValue bound depth text = some (value, rest)) : Distinct value.entries := by
  cases bound with
  | zero => cases read
  | succ bound =>
      rw [readValue.eq_def] at read
      dsimp only at read
      split at read
      next =>
        obtain ⟨items, -, made⟩ := Option.bind_eq_some_iff.mp read
        cases made
        exact distinct_nil
      next =>
        obtain ⟨entries, -, made⟩ := Option.bind_eq_some_iff.mp read
        obtain ⟨table, distinct, made⟩ := Option.bind_eq_some_iff.mp made
        cases made
        exact distinct_ofEntries? distinct
      next =>
        split at read
        iterate 2
          obtain ⟨content, -, made⟩ := Option.map_eq_some_iff.mp read
          cases made
          exact distinct_nil
        obtain ⟨word, isWord, made⟩ := Option.map_eq_some_iff.mp read
        cases made
        rw [entries_ofWord isWord]
        exact distinct_nil

/-! ### Documents -/

def Statement.Tidy : Statement → Prop
  | .header _ => True
  | .element _ => True
  | .entry _ value => Distinct value.entries

private theorem tidy_readStatement {bound : Nat} {text rest : List Char} {statement : Statement}
    (read : readStatement bound text = some (statement, rest)) : statement.Tidy := by
  rw [readStatement.eq_def] at read
  split at read
  next =>
    obtain ⟨⟨path, rest⟩, -, made⟩ := Option.bind_eq_some_iff.mp read
    dsimp only at made
    split at made
    next => cases made; trivial
    next => cases made
  next =>
    obtain ⟨⟨path, rest⟩, -, made⟩ := Option.bind_eq_some_iff.mp read
    dsimp only at made
    split at made
    next => cases made; trivial
    next => cases made
  next =>
    obtain ⟨⟨path, rest⟩, -, made⟩ := Option.bind_eq_some_iff.mp read
    dsimp only at made
    split at made
    next =>
      obtain ⟨⟨value, rest⟩, readValue, made⟩ := Option.bind_eq_some_iff.mp made
      cases made
      exact distinct_readValue readValue
    next => cases made

private theorem tidy_readStatements {bound : Nat} {text : List Char} {statements : List Statement}
    (read : readStatements bound text = some statements) :
    ∀ statement ∈ statements, statement.Tidy := by
  induction bound generalizing text statements with
  | zero => cases read
  | succ bound ih =>
      rw [readStatements] at read
      obtain ⟨filled, -, read⟩ := Option.bind_eq_some_iff.mp read
      split at read
      next =>
        cases read
        exact List.forall_mem_nil _
      next =>
        obtain ⟨⟨statement, rest⟩, first, read⟩ := Option.bind_eq_some_iff.mp read
        obtain ⟨rest, -, read⟩ := Option.bind_eq_some_iff.mp read
        obtain ⟨others, second, made⟩ := Option.bind_eq_some_iff.mp read
        cases made
        rw [List.forall_mem_cons]
        exact ⟨tidy_readStatement first, ih second⟩

private theorem Draft.tidy_extend {draft extended : Draft} {statement : Statement}
    (done : draft.extend statement = some extended) (tidy : draft.outline.Tidy)
    (value : statement.Tidy) : extended.outline.Tidy := by
  have enters {make : String → Outline → Option Outline} {path : List String}
      (keeps : ∀ name, Outline.Keeps (make name)) (done : draft.enter make path = some extended) :
      extended.outline.Tidy := by
    rw [enter] at done
    split at done
    next => cases done
    next =>
      obtain ⟨outline, changed, rfl⟩ := Option.map_eq_some_iff.mp done
      exact ((keeps _).changeAt _).tidy changed tidy
  cases statement with
  | header path => exact enters Outline.keeps_openTable done
  | element path => exact enters Outline.keeps_openElement done
  | entry path given =>
      obtain ⟨outline, changed, rfl⟩ := Option.map_eq_some_iff.mp done
      exact ((Outline.keeps_define value path).changeAt _).tidy changed tidy

private theorem tidy_ofStatements? {statements : List Statement} {table : Table}
    (made : Table.ofStatements? statements = some table)
    (tidy : ∀ statement ∈ statements, statement.Tidy) : table.Tidy := by
  obtain ⟨draft, folded, rfl⟩ := Option.map_eq_some_iff.mp made
  have kept (statement : Statement) (member : statement ∈ statements) (before after : Draft)
      (extended : before.extend statement = some after) (holds : before.outline.Tidy) :
      after.outline.Tidy := Draft.tidy_extend extended holds (tidy statement member)
  have last : draft.outline.Tidy := foldlM_invariant kept folded Outline.tidy_nil
  exact last.toTable

/-- A document that is read gives a table without a name twice, and so are the tables in it. -/
theorem tidy_read {document : String} {table : Table} (done : read document = some table) :
    table.Tidy := by
  rw [read] at done
  split at done
  next =>
    obtain ⟨statements, listed, made⟩ := Option.bind_eq_some_iff.mp done
    exact tidy_ofStatements? made (tidy_readStatements listed)
  next => cases done

end Quorate.Toml
