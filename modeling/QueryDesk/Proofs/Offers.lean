import QueryDesk.Plan.Options
import QueryDesk.Proofs.KeyedValues
import QueryDesk.Proofs.PatchedStatement

/-!
The options of a plan, written out. The program collects what the selections list in keyed tables; as no table is
selected twice, the options are a plain document (`offersOf`): for every selection its table with the columns that
the schema has for it, each with the role in which the selection lists it last.
-/

namespace QueryDesk

open Attempt List

namespace Plan

open Value Sql

lemma text_display (h : IsText v) : .text v.display = v := by
  obtain ⟨s, rfl⟩ := h
  rfl

/-! ### What the selections list -/

def listingOf (x : Value) : Listed := ⟨x.peek "role", x.peek "reason", (x.at? "value_type").getD "unknown"⟩

def listedIn (columns : List Value) : Keyed Listed :=
  columns.foldl (fun known x => Keyed.put known (x.peek "column") (listingOf x)) []

/-- What is known of the columns that a plan lists, by table. -/
def listedTables (plan : Value) : Keyed (Keyed Listed) :=
  (docsOf plan "selections").map fun s => (s.peek "table", listedIn (docsOf s "columns"))

def roleIn (columns : List Value) (name : Value) : Option Value :=
  (columns.reverse.find? (·.peek "column" == name)).map (·.peek "role")

lemma roleIn_append (xs ys : List Value) (name : Value) :
    roleIn (xs ++ ys) name = (roleIn ys name).or (roleIn xs name) := by
  simp only [roleIn, reverse_append, find?_append, Option.map_or]

lemma roleIn_singleton (x name : Value) :
    roleIn [x] name = if x.peek "column" == name then some (x.peek "role") else none := by
  rw [roleIn, reverse_singleton, find?_singleton]
  split <;> rfl

lemma roleIn_eq_none :
    roleIn columns name = none ↔ ∀ x ∈ columns, (x.peek "column" == name) = false := by
  simp [roleIn]

section

variable {columns : List Value} {name : Value}

lemma find?_listed (hc : ∀ x ∈ columns, IsText (x.peek "column")) (hn : IsText name)
    (hk : kn.Texts) :
    (Keyed.find? (columns.foldl (fun kn x => Keyed.put kn (x.peek "column") (listingOf x)) kn) name).map
      (·.role) = (roleIn columns name).or ((Keyed.find? kn name).map (·.role)) := by
  -- What is known before is generalised: it counts for a name that none of the columns has.
  induction columns generalizing kn with
  | nil => rfl
  | cons x columns ih =>
    obtain ⟨hx, hr⟩ := forall_mem_cons.1 hc
    rw [foldl_cons, ih hr (Keyed.texts_put hk hx), Keyed.find?_put hk hx hn, ← singleton_append,
      roleIn_append, roleIn_singleton, Option.or_assoc]
    split <;> rfl

lemma find?_listedIn (hc : ∀ x ∈ columns, IsText (x.peek "column")) (hn : IsText name) :
    (Keyed.find? (listedIn columns) name).map (·.role) = roleIn columns name := by
  have h := find?_listed hc hn (forall_mem_nil _ : Keyed.Texts [])
  rwa [show Keyed.find? ([] : Keyed Listed) name = none from rfl, Option.map_none, Option.or_none] at h

lemma listedColumns_eq (h : SelectionFormed s) (ht : ∀ x ∈ docsOf s "columns", IsText (x.peek "column")) :
    listedColumns s = .ok (listedIn (docsOf s "columns")) := by
  rw [listedColumns, itemsOf_of_listAt h.record h.list, ok_bind]
  refine foldlM_eq_foldl (fun x hx kn => ?_) []
  have hre := (h.columns x hx).record
  have hr : x.field "role" = .ok (x.peek "role") := by
    rcases (h.columns x hx).role with hr | hr <;> exact field_of_at? hr
  simp only [(ht x hx).field, hr, get_ok.2 ⟨hre, rfl⟩, hre.getD, (ht x hx).hashable, ok_bind]
  rfl

end

/-! ### The options as a document -/

/-- The columns that a schema has for a selection: those of the first table of its name. -/
def columnsFor (entries : List Value) (s : Value) : List Value :=
  (entries.find? fun e => nameAt e "table_name" == nameAt s "table").elim [] (docsOf · "columns")

def friendly (name : Value) : Value := .text (label name.display)

/-- What is offered of a column that is listed in a role or not at all. -/
def offer (role : Option Value) (y : Value) : Value :=
  .record [("name", y.peek "column_name"), ("display_name", friendly (y.peek "column_name")),
    ("type", y.peek "data_type"), ("selected", .bool role.isSome), ("role", role.getD .null),
    ("is_primary_key", (y.at? "is_primary_key").getD (.bool false)),
    ("is_nullable", (y.at? "is_nullable").getD (.bool true))]

def sortOffer (table y : Value) : Value :=
  .record [("table", table), ("column", y.peek "column_name"), ("type", y.peek "data_type"),
    ("display_name", .text (qualified table (friendly (y.peek "column_name"))))]

def columnOffers (listed columns : List Value) : List Value :=
  columns.map fun y => offer (roleIn listed (y.peek "column_name")) y

def tableOffer (entries : List Value) (s : Value) : Value :=
  .record [("alias", s.peek "alias"), ("columns", .list (columnOffers (docsOf s "columns") (columnsFor entries s)))]

def sortOffers (entries : List Value) (s : Value) : List Value :=
  (columnsFor entries s).map (sortOffer (s.peek "table"))

def tableOffers (entries docs : List Value) : Fields :=
  docs.map fun s => ((s.peek "table").display, tableOffer entries s)

def offersOf (plan : Value) (entries : List Value) : Value :=
  .record [("tables", .record (tableOffers entries (docsOf plan "selections"))),
    ("current_order_by", (plan.at? "order_by").getD (.list [])), ("current_limit", plan.peek "limit"),
    ("sortable_columns", .list ((docsOf plan "selections").flatMap (sortOffers entries)))]

/-- A plan and a schema whose options can be read: names are texts, and no table is selected twice. -/
@[mk_iff]
structure Readable (plan : Value) (entries : List Value) : Prop where
  formed : PlanFormed plan
  schema : SchemaFormed (.list entries)
  tables : ∀ s ∈ docsOf plan "selections", IsName (s.peek "table")
  listed : ∀ s ∈ docsOf plan "selections", ∀ x ∈ docsOf s "columns", IsText (x.peek "column")
  columns : ∀ e ∈ entries, ∀ y ∈ docsOf e "columns", IsName (y.peek "column_name")
  distinct : ((docsOf plan "selections").map (nameAt · "table")).Nodup

instance (plan : Value) (entries : List Value) : Decidable (Readable plan entries) :=
  decidable_of_iff' _ (readable_iff plan entries)

section

variable {plan : Value} {entries : List Value}

lemma Readable.entries_formed (h : Readable plan entries) : ∀ e ∈ entries, TableFormed e := by
  obtain ⟨_, heq, hf⟩ := h.schema
  cases heq
  exact hf

lemma mem_columnsFor (h : y ∈ columnsFor entries s) :
    ∃ e ∈ entries, nameAt e "table_name" = nameAt s "table" ∧ y ∈ docsOf e "columns" := by
  unfold columnsFor at h
  cases hf : entries.find? fun e => nameAt e "table_name" == nameAt s "table" with
  | none => simp [hf] at h
  | some e =>
    rw [hf, Option.elim_some] at h
    exact ⟨e, mem_of_find?_eq_some hf, by simpa using find?_some hf, h⟩

lemma Readable.column_formed (h : Readable plan entries) (hy : y ∈ columnsFor entries s) :
    EntryFormed y ∧ IsName (y.peek "column_name") := by
  obtain ⟨e, he, -, hy⟩ := mem_columnsFor hy
  exact ⟨(h.entries_formed e he).columns y hy, h.columns e he y hy⟩

lemma Readable.table_isText (h : Readable plan entries) : ∀ s ∈ docsOf plan "selections", IsText (s.peek "table") :=
  fun s hs => (h.tables s hs).isText

lemma Readable.tables_nodup (h : Readable plan entries) :
    ((docsOf plan "selections").map (·.peek "table")).Nodup := by
  refine List.Nodup.of_map nameOf ?_
  rw [map_map]
  simpa only [Function.comp_def, nameOf_peek] using h.distinct

lemma schemaColumns_eq (hen : ∀ e ∈ entries, TableFormed e) (ht : nameAt s "table" = some t) :
    ∃ columns, schemaColumns (s.peek "table") entries = .ok columns ∧ columns.items = .ok (columnsFor entries s) := by
  have hn : nameOf (s.peek "table") = some t := (nameOf_peek s "table").trans ht
  induction entries with
  | nil => exact ⟨_, rfl, rfl⟩
  | cons e entries ih =>
    obtain ⟨he, hr⟩ := forall_mem_cons.1 hen
    obtain ⟨v, same, hv, hs⟩ := sameName_gives hn he.name
    have hm : fieldIs "table_name" (s.peek "table") e = .ok same := by rw [fieldIs, hv, ok_bind, hs]
    simp only [schemaColumns, hv, hs, ok_bind]
    cases same with
    | false =>
      have hne : (nameAt e "table_name" == nameAt s "table") = false := by
        simpa [ht] using ne_of_fieldIs_false hn hm
      obtain ⟨columns, hc, hi⟩ := ih hr
      refine ⟨columns, hc, ?_⟩
      rw [hi, columnsFor, columnsFor, find?_cons, hne]
    | true =>
      obtain ⟨t', ht', hn'⟩ := eq_of_fieldIs_true hm
      rw [hn] at ht'
      cases ht'
      obtain ⟨xs, hxs⟩ := he.list
      refine ⟨.list xs, by rw [if_pos rfl, (isRecord_of_at? hxs).getD, hxs, Option.getD_some], ?_⟩
      rw [columnsFor, find?_cons, hn', ht, beq_self_eq_true]
      exact congrArg _ (docsOf_of_at? hxs).symm

lemma labelOf_eq (h : IsName name) : labelOf name = .ok (friendly name) := by
  have ht := h.truthy
  obtain ⟨n, rfl, -⟩ := h
  rw [labelOf, ht]
  rfl

lemma columnOption_eq {listed : List Value} (hy : EntryFormed y)
    (hn : IsName (y.peek "column_name")) (hl : ∀ x ∈ listed, IsText (x.peek "column")) :
    columnOption tb (listedIn listed) y =
      .ok (offer (roleIn listed (y.peek "column_name")) y, sortOffer tb y) := by
  have ht := hn.isText
  obtain ⟨type, hty, -⟩ := hy.type
  have hr := isRecord_of_at? hty
  simp only [columnOption, ht.field, field_of_at? hty, hr.getD,
    ht.hashable, labelOf_eq hn, ok_bind, ← find?_listedIn hl ht, offer, sortOffer,
    Option.isSome_map]
  rfl

lemma Readable.listedByTable_eq (h : Readable plan entries) : listedByTable plan = .ok (listedTables plan) := by
  rw [listedByTable, itemsOf_of_listAt h.formed.record h.formed.list, ok_bind]
  have ht := h.table_isText
  have hst : ∀ s ∈ docsOf plan "selections", ∀ kn : Keyed (Keyed Listed), (do
      let tb ← (← s.field "table").hashable
      pure (Keyed.put kn tb (← listedColumns s))) =
        .ok (Keyed.put kn (s.peek "table") (listedIn (docsOf s "columns"))) := by
    intro s hs kn
    rw [(ht s hs).field, ok_bind, (ht s hs).hashable, ok_bind,
      listedColumns_eq (h.formed.selections s hs) (h.listed s hs), ok_bind]
    rfl
  rw [foldlM_eq_foldl hst, Keyed.foldl_put_eq (forall_mem_nil _) ht (by simpa using h.tables_nodup),
    nil_append, listedTables]

lemma Readable.tableOption_eq (h : Readable plan entries) (hs : s ∈ docsOf plan "selections") :
    tableOption (listedTables plan) (.list entries) s =
      .ok (s.peek "table", tableOffer entries s, sortOffers entries s) := by
  have hf := h.formed.selections s hs
  have hte := h.table_isText
  have hl : Keyed.find? (listedTables plan) (s.peek "table") = some (listedIn (docsOf s "columns")) :=
    Keyed.find?_map hte h.tables_nodup hs
  obtain ⟨t, ht⟩ := hf.name
  have he : (Value.list entries).items = .ok entries := rfl
  obtain ⟨columns, hc, hi⟩ := schemaColumns_eq h.entries_formed ht
  have ho : (columnsFor entries s).mapM (columnOption (s.peek "table") (listedIn (docsOf s "columns"))) =
      .ok ((columnsFor entries s).map fun y =>
        (offer (roleIn (docsOf s "columns") (y.peek "column_name")) y, sortOffer (s.peek "table") y)) :=
    mapM_eq_map fun y hy =>
      columnOption_eq (h.column_formed hy).1 (h.column_formed hy).2 (h.listed s hs)
  simp only [tableOption, (hte s hs).field, get_ok.2 ⟨hf.record, rfl⟩, he, hc,
    hi, hl, Option.getD_some, ho, ok_bind, map_map]
  rfl

lemma Readable.options_eq (h : Readable plan entries) :
    options plan (.list entries) = .ok (offersOf plan entries) := by
  have ht := h.table_isText
  have hta : (docsOf plan "selections").mapM (tableOption _ (.list entries)) = .ok _ :=
    mapM_eq_map fun s hs => h.tableOption_eq hs
  have hk : (((docsOf plan "selections").map fun s =>
      (s.peek "table", tableOffer entries s, sortOffers entries s)).foldl
        (fun known t => Keyed.put known t.1 t.2.1) []) =
        (docsOf plan "selections").map fun s => (s.peek "table", tableOffer entries s) := by
    rw [foldl_map]
    exact Keyed.foldl_put_eq (forall_mem_nil _) ht (by simpa using h.tables_nodup)
  -- Texts are shown as they are, so that the tables stay apart as fields, too.
  have hd : ((docsOf plan "selections").map fun s => (s.peek "table").display).Nodup := by
    refine List.Nodup.of_map Value.text ?_
    rw [map_map]
    convert h.tables_nodup using 1
    exact map_congr_left fun s hs => text_display (ht s hs)
  simp only [options, h.listedByTable_eq, itemsOf_of_listAt h.formed.record h.formed.list, hta, hk,
    h.formed.record.getD, get_ok.2 ⟨h.formed.record, rfl⟩, ok_bind, Keyed.record, map_map,
    flatMap_map, offersOf]
  rw [Fields.putAll_new (by simpa [Function.comp_def] using hd)]
  rfl

end

end Plan

end QueryDesk
