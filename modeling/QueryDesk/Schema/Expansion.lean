import QueryDesk.Document.Access

/-!
A selection of tables grows by the tables that belong to it: mapping tables named by the facts about a
table, as far as they lead, and tables linked by foreign keys in either direction, a few links deep. The
order in which a set of names is met is a parameter (`walk`): the tables found do not depend on it.
-/

namespace QueryDesk.Schema

def byName (tables : List Value) : Attempt (Keyed Value) :=
  Keyed.collect (fun t => do return (← t.get "table_name", t)) tables

def addName (names : List Value) (name : Value) : List Value :=
  if names.any (· == name) then names else names ++ [name]

/-- The names that a pass has met, and those that it was the first to meet. -/
structure Growth where
  names : List Value
  fresh : List Value

/-- Meets a name: it is taken up if it is new and the schema has such a table. -/
def Growth.meet (known : Keyed Value) (g : Growth) (name : Value) : Attempt Growth := do
  let name ← name.hashable
  if !(g.names.any (· == name)) && Keyed.has known name then
    pure ⟨g.names ++ [name], addName g.fresh name⟩
  else pure g

def mappingsOf (facts table : Value) : Attempt (List Value) := do
  (← (← facts.lookupD table (.record [])).getD "mapping_tables" (.list [])).items

def mappingPass (walk : List Value → List Value) (facts : Value) (known : Keyed Value)
    (names : List Value) : Attempt Growth :=
  (walk names).foldlM (fun g table => do
    (← mappingsOf facts table).foldlM (Growth.meet known) g) ⟨names, []⟩

/-- Passes until one finds nothing new. Every pass but the last finds a table of the schema, so their
number is bounded by that of the tables. -/
def mappingPasses (walk : List Value → List Value) (facts : Value) (known : Keyed Value) :
    Nat → List Value → Attempt (List Value)
  | 0, names => .ok names
  | fuel + 1, names => do
    let g ← mappingPass walk facts known names
    if g.fresh.isEmpty then pure g.names else mappingPasses walk facts known fuel g.names

/-- The selected tables together with the mapping tables that they lead to. -/
def withMappings (walk : List Value → List Value) (selected tables facts : Value) : Attempt Value := do
  if facts.truthy then
    let known ← byName (← tables.items)
    let names ← Value.setOf (← (← selected.items).mapM (·.get "table_name"))
    let names ← mappingPasses walk facts known (known.length + 1) names
    let _ ← selected.size
    pure (.list ((walk names).filterMap (Keyed.find? known)))
  else pure selected

def linksByTable (keys : List Value) : Attempt (Keyed Value) :=
  Keyed.collect (fun e => do
    let name ← e.field "table_name"
    return (name, ← e.field "foreign_keys")) keys

def referrers (links : Keyed Value) : Attempt (Keyed (List Value)) := do
  let pairs ← List.mapM (fun (l : Value × Value) => do
    (← l.2.items).filterMapM fun k => do
      let target ← k.getD "primary_key_table" ""
      if target.truthy then return some (← target.hashable, l.1) else return none) links
  pure (pairs.flatten.foldl (fun known p =>
    Keyed.put known p.1 ((Keyed.find? known p.1).getD [] ++ [p.2])) [])

/-- The tables that a table's foreign keys point to, and then those whose keys point to it. -/
def linkedTo (links : Keyed Value) (back : Keyed (List Value)) (table : Value) :
    Attempt (List Value) := do
  let ahead ← match Keyed.find? links table with
    | some keys => (← keys.items).mapM (·.getD "primary_key_table" "")
    | none => pure []
  pure ((ahead ++ (Keyed.find? back table).getD []).filter Value.truthy)

/-- One level of links, from the tables that the level before has found. -/
def linkLevel (walk : List Value → List Value) (links : Keyed Value) (back : Keyed (List Value))
    (known : Keyed Value) (names level : List Value) : Attempt Growth :=
  (walk level).foldlM (fun g table => do
    (← linkedTo links back table).foldlM (Growth.meet known) g) ⟨names, []⟩

def linkLevels (walk : List Value → List Value) (links : Keyed Value) (back : Keyed (List Value))
    (known : Keyed Value) : Nat → List Value → List Value → Attempt (List Value)
  | 0, names, _ => .ok names
  | depth + 1, names, level => do
    let g ← linkLevel walk links back known names level
    if g.fresh.isEmpty then pure g.names else linkLevels walk links back known depth g.names g.fresh

/-- The selected tables together with those linked to them by at most `depth` foreign keys. A selected
table stays as it was selected; a table that was added is the schema's. -/
def withLinks (walk : List Value → List Value) (selected tables keys : Value) (depth : Nat) :
    Attempt Value := do
  let known ← byName (← tables.items)
  let chosen ← byName (← selected.items)
  let links ← linksByTable (← keys.items)
  let names := Keyed.keys chosen
  let back ← referrers links
  let names ← linkLevels walk links back known depth names names
  pure (.list ((walk names).filterMap fun n => (Keyed.find? chosen n).or (Keyed.find? known n)))

/-!
### Chosen tables

A model's choice of tables, applied to a schema. Every chosen table comes twice: whole, and cut down to
the columns that were chosen. A choice of columns that meets none of the table's leaves the table whole.
-/

structure Assessment where
  table : Value
  isRelevant : Value
  reasoning : Value
  columns : Value

def Assessment.read (v : Value) : Attempt Assessment := do
  let relevant ← v.attr "is_relevant"
  let table ← v.attr "table_name"
  let columns ← v.attr "relevant_columns"
  let _ ← columns.size
  pure ⟨table, relevant, ← v.attr "reasoning", columns⟩

def assessments (reply : Value) : Attempt (List Assessment) := do
  (← (← reply.attr "selected_tables").items).mapM Assessment.read

/-- A column's name as it is compared: in lower case and without underscores. -/
def looseName (name : Value) : Attempt String := do
  return Text.replace (← name.lowered) "_" ""

def cutDown (table chosen : Value) : Attempt Value := do
  if chosen.truthy then
    let columns ← (← table.getD "columns" (.list [])).items
    let wanted ← (← chosen.items).mapM looseName
    let kept ← columns.filterM fun c => do
      return wanted.contains (← looseName (← c.getD "column_name" ""))
    pure (if kept.isEmpty then table
      else table.update [("columns", .list kept), ("column_filtered", .bool true)])
  else pure table

/-- A chosen table, whole and cut down. -/
structure Chosen where
  whole : Value
  cut : Value

/-- The chosen columns of each table that was found relevant; of several judgements the last counts. -/
def chosenColumns (assessments : List Assessment) : Attempt (Keyed Value) :=
  Keyed.collect (fun a => .ok (a.table, a.columns)) (assessments.filter (·.isRelevant.truthy))

/-- The tables of the schema that were found relevant. -/
def choose (walk : List Value → List Value) (known : Keyed Value) (columns : Keyed Value) :
    Attempt (List Chosen) :=
  (walk (Keyed.keys columns)).filterMapM fun name => do
    match Keyed.find? known name with
    | none => pure none
    | some table =>
      if table.truthy then
        let cut ← cutDown table ((Keyed.find? columns name).getD (.list []))
        pure (some ⟨table, cut⟩)
      else pure none

end QueryDesk.Schema
