import Mathlib.Data.Set.List
import QueryDesk.Plan.JoinText
import QueryDesk.Proofs.Names
import QueryDesk.Schema.Introspection
import QueryDesk.Schema.Markdown

/-!
The foreign keys that an inspection records, and what becomes of them where they are read. An inspected schema is a
list of tables; an entry for a foreign key names a column, the table it refers to and the column there. The repair of
joins asks an entry for other fields and finds no key in any table. The page of markdown asks for the column and the
table only: which column of that table a key refers to is looked up once more, and may be another one.
-/

namespace QueryDesk.Schema

open Attempt Desk Value List Value Sql

variable {docs : List Value} {tables : List TableRecord} {key schema : Value} {s : Surroundings} {t t' : Traffic}
  {α : Type}

/-! ### Inspected schemas -/

structure ColumnRecord where
  name : Value
  type : String
  nullable : Value

def ColumnRecord.doc (c : ColumnRecord) : Value :=
  .record [("column_name", c.name), ("data_type", .text c.type), ("is_nullable", c.nullable)]

/-- A foreign key as the inspection records it: a column, the table it refers to and the column there. -/
structure KeyRecord where
  column : Value
  table : Value
  target : Value

def KeyRecord.doc (k : KeyRecord) : Value :=
  .record [("foreign_key", k.column), ("primary_key_table", k.table), ("primary_key_column", k.target)]

structure TableRecord where
  name : String
  columns : List ColumnRecord
  key : Value
  keys : List KeyRecord

def TableRecord.doc (t : TableRecord) : Value :=
  .record ([("table_name", .text t.name), ("columns", .list (t.columns.map ColumnRecord.doc))] ++
    (if t.key.truthy then [("metadata", .record [("primary_key", t.key)])] else []) ++
    (if t.keys.isEmpty then [] else [("foreign_keys", .list (t.keys.map KeyRecord.doc))]))

def recorded (tables : List TableRecord) : List Value := tables.map TableRecord.doc

lemma exists_map_eq (h : ∀ y ∈ ys, ∃ x, f x = y) :
    ∃ xs : List α, xs.map f = ys := by
  rw [← Set.mem_range, Set.range_list_map]
  exact h

lemma inspectedColumn_ok (h : inspectedColumn column = .ok doc) :
    ∃ c : ColumnRecord, c.doc = doc := by
  simp only [inspectedColumn, bind_ok, pure_ok] at h
  obtain ⟨type, -, name, -, nullable, -, hd⟩ := h
  generalize plainType type.display = shown at hd
  exact ⟨⟨name, shown, nullable⟩, hd⟩

lemma inspectedForeignKey_ok (h : inspectedForeignKey key = .ok docs) :
    ∀ doc ∈ docs, ∃ k : KeyRecord, k.doc = doc := by
  simp only [inspectedForeignKey, bind_ok, mapM_ok, pure_ok] at h
  obtain ⟨_, -, tb, -, targets, -, cols, -, hd⟩ := h
  intro doc hdo
  obtain ⟨⟨col, i⟩, -, target, -, rfl⟩ := hd.exists_left hdo
  exact ⟨⟨col, tb, target.getD .null⟩, rfl⟩

lemma inspectedTable_ok (h : inspectedTable name info = .ok doc) :
    ∃ t : TableRecord, t.name = name ∧ t.doc = doc := by
  simp only [inspectedTable, bind_ok, mapM_ok, pure_ok] at h
  obtain ⟨_, -, _, -, columnDocs, hco, key, -, _, -, _, -, keyDocs, hke, rfl⟩ := h
  obtain ⟨cols, rfl⟩ : ∃ cols : List ColumnRecord, cols.map ColumnRecord.doc = columnDocs := by
    refine exists_map_eq fun doc hd => ?_
    obtain ⟨_, -, hc⟩ := hco.exists_left hd
    exact inspectedColumn_ok hc
  obtain ⟨ks, hf⟩ : ∃ ks : List KeyRecord, ks.map KeyRecord.doc = keyDocs.flatten := by
    refine exists_map_eq fun doc hd => ?_
    obtain ⟨docs, hdo, hd⟩ := mem_flatten.1 hd
    obtain ⟨_, -, hk⟩ := hke.exists_left hdo
    exact inspectedForeignKey_ok hk doc hd
  refine ⟨⟨name, cols, key, ks⟩, rfl, ?_⟩
  rw [TableRecord.doc, ← hf, isEmpty_map]

lemma inspectedTables_ok {reply : Fields} (h : reply.mapM (fun t => inspectedTable t.1 t.2) = .ok docs) :
    ∃ tables, tables.map TableRecord.name = reply.map Prod.fst ∧ recorded tables = docs := by
  rw [mapM_ok] at h
  induction h with
  | nil => exact ⟨[], rfl, rfl⟩
  | cons hd _ ih =>
    obtain ⟨t, hna, rfl⟩ := inspectedTable_ok hd
    obtain ⟨tables, hn, rfl⟩ := ih
    exact ⟨t :: tables, by rw [map_cons, map_cons, hna, hn], rfl⟩

lemma introspect_recorded (h : Gives introspect s t schema t') :
    ∃ reply tables, s.inspector = some reply ∧ tables.map TableRecord.name = reply.map Prod.fst ∧
      schema = .list (recorded tables) := by
  obtain ⟨address, t₁, -, hse⟩ := gives_bind.1 h
  obtain ⟨-, t₂, -, hre⟩ := gives_bind.1 hse
  obtain ⟨s', t₃, hs, hl⟩ := gives_bind.1 hre
  cases hs
  obtain ⟨-, t₄, -, hf⟩ := gives_bind.1 hl
  cases hr : s.inspector with
  | none =>
    rw [hr] at hf
    exact absurd hf gives_throw.1
  | some reply =>
    rw [hr] at hf
    split at hf
    case h_1 docs hd =>
      obtain ⟨tables, hn, rfl⟩ := inspectedTables_ok hd
      obtain ⟨rfl, -⟩ := gives_pure.1 hf
      exact ⟨reply, tables, rfl, hn, rfl⟩
    case h_2 => exact absurd hf gives_throw.1

namespace TableRecord

variable (t : TableRecord)

lemma isRecord_doc : t.doc.IsRecord := ⟨_, rfl⟩

@[simp] lemma getD_doc (key : String) (dflt : Value) : t.doc.getD key dflt = .ok ((t.doc.at? key).getD dflt) :=
  t.isRecord_doc.getD key dflt

@[simp] lemma get_doc (key : String) : t.doc.get key = .ok ((t.doc.at? key).getD .null) :=
  t.isRecord_doc.get key

@[simp] lemma at?_name : t.doc.at? "table_name" = some (.text t.name) := rfl

@[simp] lemma at?_columns : t.doc.at? "columns" = some (.list (t.columns.map ColumnRecord.doc)) := rfl

@[simp] lemma at?_metadata :
    t.doc.at? "metadata" = if t.key.truthy then some (.record [("primary_key", t.key)]) else none := by
  unfold doc
  cases t.key.truthy <;> cases t.keys.isEmpty <;> rfl

lemma at?_keys :
    t.doc.at? "foreign_keys" = if t.keys.isEmpty then none else some (.list (t.keys.map KeyRecord.doc)) := by
  unfold doc
  cases t.key.truthy <;> cases t.keys.isEmpty <;> rfl

lemma listed_keys : (t.doc.at? "foreign_keys").getD (.list []) = .list (t.keys.map KeyRecord.doc) := by
  rw [t.at?_keys]
  cases t.keys <;> rfl

lemma at?_other {key : String} (h : key ∉ ["table_name", "columns", "metadata", "foreign_keys"]) :
    t.doc.at? key = none := by
  simp only [mem_cons, not_mem_nil, or_false, not_or] at h
  unfold doc at?
  cases t.key.truthy <;> cases t.keys.isEmpty <;> simp [Fields.lookup_cons, h, Ne.symm]

end TableRecord

/-! ### The repair of joins -/

lemma beq_null : (null == v) = v.isNull := by
  show same .null v = _
  rw [same]

/-- What the search for a column's key comes to where no entry says which column it is for: no key, or two empty
places where no column is asked for. -/
def Missed (column : Value) (found : Attempt (Option (Value × Value))) : Prop :=
  found = .ok none ∨ column = .null ∧ found = .ok (some (.null, .null))

lemma keyAmong?_recorded (col : Value) : ∀ ks : List KeyRecord,
    Missed col (Plan.keyAmong? col (ks.map KeyRecord.doc))
  | [] => .inl rfl
  | k :: ks => by
    have hn : k.doc.get "column_name" = .ok .null := rfl
    rw [map_cons, Plan.keyAmong?, hn, ok_bind, beq_null]
    cases col with
    | null => exact .inr ⟨rfl, rfl⟩
    | _ => exact keyAmong?_recorded _ ks

lemma itemsOf_keys (t : TableRecord) : itemsOf t.doc "foreign_keys" = .ok (t.keys.map KeyRecord.doc) := by
  rw [itemsOf, t.getD_doc, t.listed_keys]
  rfl

lemma keyIn?_recorded (tb col : Value) : ∀ tables : List TableRecord,
    Missed col (Plan.keyIn? tb col (recorded tables))
  | [] => .inl rfl
  | t :: tables => by
    have ih := keyIn?_recorded tb col tables
    rw [recorded, map_cons, Plan.keyIn?, t.get_doc, t.at?_name, ok_bind, Option.getD_some, itemsOf_keys]
    dsimp only
    split
    case isTrue =>
      rw [ok_bind]
      obtain hn | ⟨hnu, he⟩ := keyAmong?_recorded col t.keys
      · rw [hn]
        exact ih
      · rw [he]
        exact .inr ⟨hnu, rfl⟩
    case isFalse => exact ih

lemma foreignKey?_recorded (tables : List TableRecord) (tb col : Value) :
    Missed col (Plan.foreignKey? (.list (recorded tables)) tb col) := keyIn?_recorded tb col tables

lemma keyInto?_recorded (tables : List TableRecord) (tb col target : String) :
    Plan.keyInto? (.list (recorded tables)) tb col target = .ok none := by
  have hn : Plan.foreignKey? (.list (recorded tables)) (.text tb) (.text col) = .ok none :=
    (foreignKey?_recorded tables (.text tb) (.text col)).resolve_right fun h => by cases h.1
  rw [Plan.keyInto?, hn]
  rfl

/-- Column names that can be looked up, as those of a database can. -/
def Lookable (tables : List TableRecord) : Prop := ∀ t ∈ tables, ∀ c ∈ t.columns, ∃ name, c.name = .text name

lemma entryIn?_recorded (tb : Value) : ∀ tables : List TableRecord, Plan.entryIn? tb (recorded tables) =
    .ok ((tables.find? fun t => text t.name == tb).map TableRecord.doc)
  | [] => rfl
  | t :: tables => by
    have ih := entryIn?_recorded tb tables
    rw [recorded] at ih ⊢
    simp only [map_cons, Plan.entryIn?, t.get_doc, t.at?_name, Option.getD_some, ok_bind, ih, find?_cons]
    cases text t.name == tb <;> rfl

lemma columnSet_recorded (h : Lookable tables) (tb : Value) :
    ∃ names, Plan.columnSet (.list (recorded tables)) tb = .ok names := by
  have he : Plan.tableEntry? tb (.list (recorded tables)) = Plan.entryIn? tb (recorded tables) := rfl
  rw [Plan.columnSet, he, entryIn?_recorded]
  cases hf : tables.find? fun t => text t.name == tb with
  | none => exact ⟨[], rfl⟩
  | some t =>
    have hco : itemsOf t.doc "columns" = .ok (t.columns.map ColumnRecord.doc) := rfl
    have hn : (t.columns.map ColumnRecord.doc).mapM (fun c => c.field "column_name") =
        .ok (t.columns.map ColumnRecord.name) := mapM_map_eq_map fun _ => rfl
    have hs : (t.columns.map ColumnRecord.name).mapM hashable = .ok (t.columns.map ColumnRecord.name) := by
      rw [mapM_ok, forall₂_same]
      intro v hv
      obtain ⟨c, hc, rfl⟩ := mem_map.1 hv
      obtain ⟨name, hna⟩ := h t (mem_of_find?_eq_some hf) c hc
      rw [hna]
      rfl
    simp only [Option.map_some, ok_bind, hco, hn, Value.setOf, hs]
    exact ⟨_, rfl⟩

lemma joinRepair?_recorded (h : Lookable tables) (j : Plan.TextJoin) :
    Plan.joinRepair? (.list (recorded tables)) j = .ok none := by
  obtain ⟨froms, hf⟩ := columnSet_recorded h (.text j.fromTable)
  obtain ⟨tos, hto⟩ := columnSet_recorded h (.text j.toTable)
  simp only [Plan.joinRepair?, hf, hto, keyInto?_recorded, ok_bind]
  repeat' split
  all_goals rfl

lemma repairJoins_recorded (h : Lookable tables) (strategy : String) :
    Plan.repairJoins strategy (.list (recorded tables)) = .ok (strategy, []) := by
  have hj : ∀ state j, Plan.repairJoin (.list (recorded tables)) state j = .ok state := by
    intro state j
    rw [Plan.repairJoin, joinRepair?_recorded h]
    rfl
  have ha : ∀ joins : List Plan.TextJoin,
      joins.foldlM (Plan.repairJoin (.list (recorded tables))) (strategy, []) = .ok (strategy, []) := by
    intro joins
    induction joins with
    | nil => rfl
    | cons j joins ih => rw [foldlM_cons, hj, ok_bind, ih]
  exact ha _

/-! ### The page -/

/-- The tables as the page has them: those with foreign keys first. -/
def pageOrder (tables : List TableRecord) : List TableRecord :=
  tables.filter (fun t => !t.keys.isEmpty) ++ tables.filter fun t => t.keys.isEmpty

/-- The primary key of a table, where the page can tell it. -/
def TableRecord.keyName? (t : TableRecord) : Option Value := if t.key.truthy then keyColumn? t.key else none

def TableRecord.columnLike? (t : TableRecord) (column : Value) : Option Value :=
  if column.truthy && t.columns.any (·.name == column) then some column else none

/-- The column that the page names for a key: the primary key of the first table of that name, or else a column that
is called as the key's own, or else `ID`. -/
def KeyRecord.pointed (k : KeyRecord) (tables : List TableRecord) : Value :=
  ((tables.find? fun t => text t.name == k.table).bind fun t => t.keyName?.or (t.columnLike? k.column)).getD "ID"

def KeyRecord.line (k : KeyRecord) (target : Value) : String :=
  s!"- **{k.column.display}** → `{k.table.display}.{target.display}`"

def ColumnRecord.line (c : ColumnRecord) : String := s!"| {c.name.display} | {c.type} |"

def columnsPart (columns : List ColumnRecord) : List String :=
  if columns.isEmpty then [] else
    ["### Columns", "", "| Column Name | Data Type |", "|-------------|-----------|"] ++
      columns.map ColumnRecord.line ++ [""]

/-- The lines of the foreign keys of a table: one for each, but none for a key without a column or without a table. -/
def keysPart (tables : List TableRecord) (keys : List KeyRecord) : List String :=
  if keys.isEmpty then [] else
    ["### Foreign Keys", ""] ++
      ((keys.filter fun k => k.column.truthy && k.table.truthy).map fun k => k.line (k.pointed tables)) ++ [""]

def TableRecord.lines (tables : List TableRecord) (t : TableRecord) : List String :=
  [s!"## {t.name}", ""] ++ (if t.key.truthy then [s!"**Primary Key:** {t.key.display}", ""] else []) ++
    columnsPart t.columns ++ keysPart tables t.keys ++ ["---", ""]

def page (tables : List TableRecord) : String :=
  Text.joinLines (["# DATABASE SCHEMA", ""] ++ ((pageOrder tables).map (TableRecord.lines (pageOrder tables))).flatten)

lemma firstWhere_map
    (h : ∀ x, test (f x) = .ok (p x)) (xs : List α) : firstWhere test (xs.map f) = .ok ((xs.find? p).map f) := by
  induction xs with
  | nil => rfl
  | cons x xs ih =>
    rw [map_cons, firstWhere, h, ok_bind, ih, find?_cons]
    cases p x <;> rfl

lemma firstColumn_recorded (t : TableRecord) (col : Value) :
    firstWhere (fun c => do return (← c.get "column_name") == col) (t.columns.map ColumnRecord.doc) =
      .ok ((t.columns.find? (·.name == col)).map ColumnRecord.doc) := firstWhere_map (fun _ => rfl) t.columns

lemma truthy_found (t : TableRecord) (col : Value) :
    (((t.columns.find? (·.name == col)).map ColumnRecord.doc).getD .null).truthy =
      t.columns.any (·.name == col) := by
  rw [← isSome_find?]
  cases t.columns.find? (·.name == col) <;> rfl

lemma pointedColumn?_recorded (k : KeyRecord) (t : TableRecord) :
    pointedColumn? k.doc t.doc = .ok (t.keyName?.or (t.columnLike? k.column)) := by
  have hf : ((if t.key.truthy then some (record [("primary_key", t.key)]) else none).getD
      (.record [])).get "primary_key" = .ok (if t.key.truthy then t.key else .null) := by
    cases t.key.truthy <;> rfl
  have ho : t.doc.get "primary_key" = .ok .null := by
    rw [t.get_doc, t.at?_other (by decide), Option.getD_none]
  have hn : k.doc.getD "foreign_key" "" = .ok k.column := rfl
  have hi : (list (t.columns.map ColumnRecord.doc)).items = .ok (t.columns.map ColumnRecord.doc) := rfl
  have hs : ((if (if t.key.truthy then t.key else null).truthy then
      keyColumn? (if t.key.truthy then t.key else .null) else none).or
      (if null.truthy then keyColumn? .null else none)) = t.keyName? := by
    have hnu : null.truthy = false := rfl
    unfold TableRecord.keyName?
    cases hk : t.key.truthy <;> simp [hk, hnu]
  simp only [pointedColumn?, t.getD_doc, t.at?_metadata, hf, ho, hn, t.get_doc, t.at?_columns,
    Option.getD_some, hi, firstColumn_recorded, truthy_found, ok_bind, hs]
  cases t.keyName? with
  | some column => rfl
  | none =>
    unfold TableRecord.columnLike?
    cases hc : t.columns with
    | nil => simp [truthy]
    | cons c columns => cases k.column.truthy <;> simp [truthy]

lemma pointedColumn_recorded (k : KeyRecord) (tables : List TableRecord) :
    pointedColumn k.doc k.table (recorded tables) = .ok (k.pointed tables) := by
  have hf : firstWhere (fun t => do return (← t.get "table_name") == k.table) (recorded tables) =
      .ok ((tables.find? fun t => text t.name == k.table).map TableRecord.doc) :=
    firstWhere_map (fun _ => rfl) tables
  have hs : k.doc.get "to_column" = .ok .null := rfl
  rw [pointedColumn, hs, ok_bind, KeyRecord.pointed]
  simp only [truthy, hf, ok_bind]
  cases tables.find? fun t => text t.name == k.table with
  | none => rfl
  | some t =>
    simp only [Option.map_some, pointedColumn?_recorded]
    rfl

lemma keyLine_recorded (tables : List TableRecord) (k : KeyRecord) : keyLine (recorded tables) k.doc =
    .ok (if k.column.truthy && k.table.truthy then [k.line (k.pointed tables)] else []) := by
  have hc : underEither k.doc "foreign_key" "from_column" = .ok k.column := rfl
  have ht : underEither k.doc "primary_key_table" "to_table" = .ok k.table := rfl
  rw [keyLine, hc, ok_bind, ht, ok_bind, pointedColumn_recorded, ok_bind]
  rfl

lemma flatten_lines (p : KeyRecord → Bool) (f : KeyRecord → String) (ks : List KeyRecord) :
    (ks.map fun k => if p k then [f k] else []).flatten = (ks.filter p).map f := by
  induction ks with
  | nil => rfl
  | cons k ks ih =>
    rw [map_cons, flatten_cons, ih, filter_cons]
    split <;> rfl

lemma keyLines_recorded (tables : List TableRecord) (ks : List KeyRecord) :
    keyLines (recorded tables) (.list (ks.map KeyRecord.doc)) = .ok (keysPart tables ks) := by
  cases ks with
  | nil => rfl
  | cons k ks =>
    have hl : ((k :: ks).map KeyRecord.doc).mapM (keyLine (recorded tables)) = .ok ((k :: ks).map fun k =>
        if k.column.truthy && k.table.truthy then [k.line (k.pointed tables)] else []) :=
      mapM_map_eq_map (keyLine_recorded tables)
    have hi : (list ((k :: ks).map KeyRecord.doc)).items = .ok ((k :: ks).map KeyRecord.doc) := rfl
    have ht : (list ((k :: ks).map KeyRecord.doc)).truthy = true := rfl
    rw [keyLines, if_pos ht, hi, ok_bind, hl, ok_bind, flatten_lines]
    rfl

lemma columnLines_recorded (cols : List ColumnRecord) :
    columnLines (.list (cols.map ColumnRecord.doc)) = .ok (columnsPart cols) := by
  cases cols with
  | nil => rfl
  | cons c cols =>
    have hr : ((c :: cols).map ColumnRecord.doc).mapM (fun c => do
        let name ← c.getD "column_name" ""
        let type ← c.getD "data_type" ""
        pure s!"| {name.display} | {type.display} |") = .ok ((c :: cols).map ColumnRecord.line) :=
      mapM_map_eq_map fun _ => rfl
    have hi : (list ((c :: cols).map ColumnRecord.doc)).items =
      .ok ((c :: cols).map ColumnRecord.doc) := rfl
    have ht : (list ((c :: cols).map ColumnRecord.doc)).truthy = true := rfl
    rw [columnLines, if_pos ht, hi, ok_bind, hr]
    rfl

lemma tableLines_recorded (tables : List TableRecord) (t : TableRecord) :
    tableLines (recorded tables) t.doc = .ok (t.lines tables) := by
  have hn : t.doc.getD "column_filtered" (.bool false) = .ok (.bool false) := by
    rw [t.getD_doc, t.at?_other (by decide), Option.getD_none]
  have hk : t.doc.getD "foreign_keys" (.list []) = .ok (.list (t.keys.map KeyRecord.doc)) := by
    rw [t.getD_doc, t.listed_keys]
  simp only [tableLines, hn, hk, t.getD_doc, t.at?_name, t.at?_columns, t.at?_metadata, Option.getD_some,
    ok_bind, columnLines_recorded, keyLines_recorded]
  unfold TableRecord.lines
  cases hke : t.key.truthy with
  | false => rfl
  | true =>
    have hd : (record [("primary_key", t.key)]).get "description" = .ok .null := rfl
    have hp : (record [("primary_key", t.key)]).get "primary_key" = .ok t.key := rfl
    simp only [if_true, Option.getD_some, hd, hp, ok_bind, hke]
    rfl

lemma markdown_recorded (tables : List TableRecord) : markdown (recorded tables) = .ok (page tables) := by
  have hk : (recorded tables).mapM (fun t => do return (t, (← t.get "foreign_keys").truthy)) =
      .ok (tables.map fun t => (t.doc, !t.keys.isEmpty)) := by
    refine mapM_map_eq_map fun t => ?_
    rw [t.get_doc, t.at?_keys]
    cases t.keys <;> rfl
  have ho : ((tables.map fun t => (t.doc, !t.keys.isEmpty)).filter (·.2) ++
      (tables.map fun t => (t.doc, !t.keys.isEmpty)).filter fun t => !t.2).map (·.1) = recorded (pageOrder tables) := by
    rw [filter_map, filter_map, map_append, map_map, map_map, recorded, pageOrder, map_append]
    simp [Function.comp_def]
  have hl : (recorded (pageOrder tables)).mapM (tableLines (recorded (pageOrder tables))) =
      .ok ((pageOrder tables).map (TableRecord.lines (pageOrder tables))) :=
    mapM_map_eq_map (tableLines_recorded (pageOrder tables))
  rw [markdown, hk, ok_bind]
  dsimp only
  rw [ho, hl]
  rfl

lemma line_eq_iff (k : KeyRecord) (a b : Value) : k.line a = k.line b ↔ a.display = b.display := by
  rw [KeyRecord.line, KeyRecord.line, String.append_left_inj, String.append_right_inj]
  exact Iff.rfl

lemma line_mem_lines {t : TableRecord} (hk : k ∈ t.keys) (hc : k.column.truthy = true)
    (ht : k.table.truthy = true) (tables : List TableRecord) : k.line (k.pointed tables) ∈ t.lines tables := by
  have hs : k.line (k.pointed tables) ∈ keysPart tables t.keys := by
    rw [keysPart, if_neg (by rw [List.isEmpty_iff]; exact List.ne_nil_of_mem hk)]
    refine mem_append_left _ (mem_append_right _ (mem_map.2 ⟨k, mem_filter.2 ⟨hk, ?_⟩, rfl⟩))
    rw [hc, ht]
    rfl
  exact mem_append_left _ (mem_append_right _ hs)

/-- What an inspection records of its foreign keys is not read back. In the schema it gives, no column has a key that
the repair of joins finds, so no strategy is changed. The page can always be written. Under a table it has a line for
every key with a column and a table; the line names the column that the inspection recorded exactly if the column it
looks up has the same text. -/
theorem recorded_keys_unread {s : Surroundings} {t t' : Traffic} {schema : Value} (h : Gives introspect s t schema t') :
    ∃ reply tables, s.inspector = some reply ∧ tables.map TableRecord.name = reply.map Prod.fst ∧
      schema = .list (recorded tables) ∧ (∀ table column, Missed column (Plan.foreignKey? schema table column)) ∧
      (Lookable tables → ∀ strategy, Plan.repairJoins strategy schema = .ok (strategy, [])) ∧
      markdown (recorded tables) = .ok (page tables) ∧
      ∀ table ∈ tables, ∀ k ∈ table.keys, k.column.truthy = true → k.table.truthy = true →
        k.line (k.pointed (pageOrder tables)) ∈ table.lines (pageOrder tables) ∧
        (k.line (k.pointed (pageOrder tables)) = k.line k.target ↔
          (k.pointed (pageOrder tables)).display = k.target.display) := by
  obtain ⟨reply, tables, hre, hn, rfl⟩ := introspect_recorded h
  refine ⟨reply, tables, hre, hn, rfl, foreignKey?_recorded tables, fun h => repairJoins_recorded h,
    markdown_recorded tables, fun table ht k hk hc hr => ?_⟩
  exact ⟨line_mem_lines hk hc hr _, line_eq_iff k _ _⟩

/-! Orders that refer to the code of a user, while the key of the users is their number. -/

def codeReply : Fields :=
  [("users", .record [("columns", .list [.record [("name", "id"), ("type", "INTEGER"), ("nullable", .bool false)],
        .record [("name", "code"), ("type", "TEXT"), ("nullable", .bool false)]]),
      ("pk", .record [("constrained_columns", .list ["id"])]), ("fks", .list [])]),
    ("orders", .record [("columns", .list [.record [("name", "id"), ("type", "INTEGER"), ("nullable", .bool false)],
        .record [("name", "user_code"), ("type", "TEXT"), ("nullable", .bool true)]]),
      ("pk", .record [("constrained_columns", .list ["id"])]),
      ("fks", .list [.record [("constrained_columns", .list ["user_code"]), ("referred_table", "users"),
        ("referred_columns", .list ["code"])]])])]

def codeDesk : Surroundings where
  inspector := some codeReply

def userCode : KeyRecord := ⟨"user_code", "users", "code"⟩

def codeTables : List TableRecord :=
  [⟨"users", [⟨"id", "INTEGER", .bool false⟩, ⟨"code", "TEXT", .bool false⟩], "id", []⟩,
    ⟨"orders", [⟨"id", "INTEGER", .bool false⟩, ⟨"user_code", "TEXT", .bool true⟩], "id", [userCode]⟩]

lemma codeTables_inspected : ∃ t', Gives introspect codeDesk {} (.list (recorded codeTables)) t' := ⟨_, rfl⟩

theorem recorded_keys_unread_codes : ∃ schema t', Gives introspect codeDesk {} schema t' ∧
    ∃ tables, schema = .list (recorded tables) ∧ markdown (recorded tables) = .ok (page tables) ∧
      ∀ table column, Missed column (Plan.foreignKey? schema table column) := by
  obtain ⟨t', h⟩ := codeTables_inspected
  obtain ⟨_, tables, -, -, hs, hm, -, hp, -⟩ := recorded_keys_unread h
  exact ⟨_, t', h, tables, hs, hp, hm⟩

/-- The key is recorded, but it is not found, and the page has the orders refer to the number of a user. -/
theorem user_code_misread : (∃ t', Gives introspect codeDesk {} (.list (recorded codeTables)) t') ∧
    (∃ table ∈ codeTables, table.name = "orders" ∧ userCode ∈ table.keys) ∧
    Plan.foreignKey? (.list (recorded codeTables)) "orders" "user_code" ≠ .ok (some ("users", "code")) ∧
    markdown (recorded codeTables) = .ok (Text.joinLines ["# DATABASE SCHEMA", "",
      "## orders", "", "**Primary Key:** id", "",
      "### Columns", "", "| Column Name | Data Type |", "|-------------|-----------|",
      "| id | INTEGER |", "| user_code | TEXT |", "",
      "### Foreign Keys", "", "- **user_code** → `users.id`", "", "---", "",
      "## users", "", "**Primary Key:** id", "",
      "### Columns", "", "| Column Name | Data Type |", "|-------------|-----------|",
      "| id | INTEGER |", "| code | TEXT |", "", "---", ""]) := by
  refine ⟨codeTables_inspected, ⟨_, mem_cons_of_mem _ mem_cons_self, rfl, mem_cons_self⟩, ?_, ?_⟩
  · rcases foreignKey?_recorded codeTables "orders" "user_code" with h | ⟨h, -⟩
    · simp [h]
    · cases h
  · rw [markdown_recorded]
    rfl

end QueryDesk.Schema
