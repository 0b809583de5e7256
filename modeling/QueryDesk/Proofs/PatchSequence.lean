import Mathlib.Data.List.Nodup
import Mathlib.Data.Set.Insert
import QueryDesk.Proofs.Patching

/-!
Patches one after the other. What a plan shows is a set of columns, named without regard to case: a patch that
adds a column is accepted exactly if the schema has the column and the plan selects its table, and puts it into
the set; one that removes a column is accepted exactly if the column is listed, and takes it out. However many
patches there are, and however many of them are refused, all other parts of the plan stay as they were.
-/

namespace QueryDesk.Plan

open Attempt Value Sql List Value

variable {x name doc : Value} {role key n : String} {patches : List Value} {keys : List String}

/-! ### Plans that can be patched -/

def HasName (doc : Value) (key : String) : Prop := ∃ n, nameAt doc key = some n

instance (doc : Value) (key : String) : Decidable (HasName doc key) := decidable_of_iff _ Option.isSome_iff_exists

instance (v : Option Value) (s : String) : Decidable (v = some (.text s)) :=
  decidable_of_iff (v.bind textIn? = some s) (by simp [Option.bind_eq_some_iff, textIn?_eq_some])

lemma HasName.record (h : HasName doc key) : doc.IsRecord := by
  obtain ⟨n, hn⟩ := h
  obtain ⟨v, hv, -⟩ := Option.bind_eq_some_iff.1 hn
  exact isRecord_of_at? hv

/-- A column that is listed by its name, to be shown or to filter by. -/
@[mk_iff]
structure ColumnFormed (x : Value) : Prop where
  name : HasName x "column"
  role : x.at? "role" = some (.text "projection") ∨ x.at? "role" = some (.text "filter")

instance (x : Value) : Decidable (ColumnFormed x) := decidable_of_iff' _ (columnFormed_iff x)

@[mk_iff]
structure SelectionFormed (s : Value) : Prop where
  name : HasName s "table"
  list : ListAt s "columns"
  columns : ∀ x ∈ docsOf s "columns", ColumnFormed x
  filterList : ListAt s "filters"
  filters : ∀ f ∈ docsOf s "filters", HasName f "column"

instance (s : Value) : Decidable (SelectionFormed s) := decidable_of_iff' _ (selectionFormed_iff s)

/-- The filters of a field name their columns. -/
@[mk_iff]
structure FiltersFormed (doc : Value) (key : String) : Prop where
  list : ListAt doc key
  named : ∀ f ∈ docsOf doc key, HasName f "table" ∧ HasName f "column"

instance (doc : Value) (key : String) : Decidable (FiltersFormed doc key) := decidable_of_iff' _ (filtersFormed_iff doc key)

/-- A plan whose selections, columns and filters can be read. -/
@[mk_iff]
structure PlanFormed (plan : Value) : Prop where
  record : plan.IsRecord
  list : ListAt plan "selections"
  selections : ∀ s ∈ docsOf plan "selections", SelectionFormed s
  globals : FiltersFormed plan "global_filters"
  groups : (plan.peek "group_by").truthy = true →
    (plan.peek "group_by").IsRecord ∧ FiltersFormed (plan.peek "group_by") "having_filters"

instance (plan : Value) : Decidable (PlanFormed plan) := decidable_of_iff' _ (planFormed_iff plan)

/-- Columns of which none is listed twice. -/
structure ColumnsFormed (columns : List Value) : Prop where
  formed : ∀ x ∈ columns, ColumnFormed x
  nodup : (columns.map (nameAt · "column")).Nodup

/-- No table is selected twice, and no column is listed twice. -/
@[mk_iff]
structure Distinct (plan : Value) : Prop where
  tables : ((docsOf plan "selections").map (nameAt · "table")).Nodup
  columns : ∀ s ∈ docsOf plan "selections", ((docsOf s "columns").map (nameAt · "column")).Nodup

instance (plan : Value) : Decidable (Distinct plan) := decidable_of_iff' _ (distinct_iff plan)

def among (P : Value → Prop) (columns : List Value) : Set String :=
  {c | ∃ x ∈ columns, nameAt x "column" = some c ∧ P x}

/-- The columns of a plan with a property, each with the table of its selection. -/
def columnsWith (P : Value → Prop) (plan : Value) : Set (String × String) :=
  {p | ∃ s ∈ docsOf plan "selections", nameAt s "table" = some p.1 ∧ p.2 ∈ among P (docsOf s "columns")}

def IsShown (x : Value) : Prop := x.at? "role" = some (.text "projection")

def listed (plan : Value) : Set (String × String) := columnsWith (fun _ => True) plan

def shown (plan : Value) : Set (String × String) := columnsWith IsShown plan

def Selects (plan : Value) (t : String) : Prop := ∃ s ∈ docsOf plan "selections", nameAt s "table" = some t

section

variable {columns : List Value}

lemma ColumnFormed.record (h : ColumnFormed x) : x.IsRecord := h.name.record

lemma ColumnFormed.update (h : ColumnFormed x) (hr : x.IsRecord)
    (hro : role = "projection" ∨ role = "filter") : ColumnFormed (x.update [("role", .text role)]) := by
  obtain ⟨n, hn⟩ := h.name
  refine ⟨⟨n, (nameAt_update hr).trans hn⟩, ?_⟩
  rw [hr.at?_self]
  rcases hro with rfl | rfl <;> simp

lemma ColumnsFormed.withRole (h : ColumnsFormed (before ++ x :: behind)) (hr : x.IsRecord)
    (hro : role = "projection" ∨ role = "filter") :
    ColumnsFormed (before ++ x.update [("role", .text role)] :: behind) := by
  obtain ⟨hfo, hn⟩ := h
  simp only [forall_mem_append, forall_mem_cons] at hfo
  refine ⟨?_, ?_⟩
  · simp only [forall_mem_append, forall_mem_cons]
    exact ⟨hfo.1, hfo.2.1.update hr hro, hfo.2.2⟩
  · rw [map_append, map_cons, nameAt_update hr]
    rwa [map_append, map_cons] at hn

lemma Added.formed (h : Added c columns columns') (hco : ColumnsFormed columns) : ColumnsFormed columns' := by
  cases h with
  | revealed hpa hna hre hr =>
    subst hpa
    exact hco.withRole hre (.inl rfl)
  | listed => exact hco
  | @new x hn hre hna hr =>
    refine ⟨?_, ?_⟩
    · simp only [forall_mem_append, forall_mem_singleton]
      exact ⟨hco.formed, ⟨c, hna⟩, .inl hr⟩
    · rw [map_append, map_singleton, nodup_append]
      refine ⟨hco.nodup, by simp, ?_⟩
      simp only [mem_map, mem_singleton]
      rintro _ ⟨y, hy, rfl⟩ _ rfl
      rw [hna]
      exact hn y hy

lemma Removed.formed (h : Removed c columns filtered columns') (hco : ColumnsFormed columns) :
    ColumnsFormed columns' := by
  cases h with
  | hidden hpa hot hna hr =>
    subst hpa
    exact hco.withRole hr (.inr rfl)
  | @gone before behind x hpa hot hna =>
    subst hpa
    have hs : (before ++ behind).Sublist (before ++ x :: behind) := by simp
    exact ⟨fun y hy => hco.formed y (hs.subset hy), hco.nodup.sublist (hs.map _)⟩

lemma ne_of_nodup (hn : ((before ++ x :: behind).map (nameAt · key)).Nodup) (hna : nameAt x key = some n) :
    ∀ y ∈ before ++ behind, nameAt y key ≠ some n := by
  rw [map_append, map_cons, nodup_middle, nodup_cons, ← map_append] at hn
  intro y hy he
  exact hn.1 (mem_map.2 ⟨y, hy, he.trans hna.symm⟩)

lemma mem_among_middle :
    c ∈ among P (before ++ x :: behind) ↔ c ∈ among P (before ++ behind) ∨ nameAt x "column" = some c ∧ P x :=
  exists_mem_middle

/-- Adding a column adds its name, be it to those that are listed or to those that are shown. -/
lemma Added.among_eq (h : Added c columns columns') (hP : ∀ x, IsShown x → P x)
    (hfo : ∀ x ∈ columns, ColumnFormed x) : among P columns' = insert c (among P columns) := by
  ext c'
  rw [Set.mem_insert_iff]
  cases h with
  | @revealed before behind x hpa hna hre hr =>
    have hx : P (x.update [("role", "projection")]) := hP _ (hre.at?_self _ _)
    rw [hpa, mem_among_middle, mem_among_middle, nameAt_update hre, hna, Option.some.injEq]
    grind
  | @listed x hm hna hr =>
    have hx : P x := hP x ((hfo x hm).role.resolve_right hr)
    have hc : c ∈ among P columns := ⟨x, hm, hna, hx⟩
    grind
  | @new x hn hre hna hr =>
    have hx : P x := hP x hr
    rw [mem_among_middle, append_nil, hna, Option.some.injEq]
    grind

lemma Removed.among_shown (h : Removed c columns filtered columns')
    (hn : (columns.map (nameAt · "column")).Nodup) : among IsShown columns' = among IsShown columns \ {c} := by
  have ho : ∀ {before behind : List Value} {x : Value}, columns = before ++ x :: behind →
      nameAt x "column" = some c → c ∉ among IsShown (before ++ behind) := by
    rintro before behind x rfl hna ⟨y, hy, hyn, -⟩
    exact ne_of_nodup hn hna y hy hyn
  ext c'
  rw [Set.mem_sdiff, Set.mem_singleton_iff]
  cases h with
  | @hidden before behind x hpa hot hna hr =>
    have hx : ¬ IsShown (x.update [("role", "filter")]) := by simp [IsShown, hr.at?_self]
    rw [hpa, mem_among_middle, mem_among_middle, hna, Option.some.injEq]
    grind
  | @gone before behind x hpa hot hna =>
    rw [hpa, mem_among_middle, hna, Option.some.injEq]
    grind

lemma Removed.among_subset (h : Removed c columns filtered columns') :
    among (fun _ => True) columns' ⊆ among (fun _ => True) columns ∧ c ∈ among (fun _ => True) columns := by
  cases h with
  | @hidden before behind x hpa hot hna hr =>
    subst hpa
    refine ⟨fun c' hc' => ?_, x, by simp, hna, trivial⟩
    rw [mem_among_middle] at hc' ⊢
    rwa [nameAt_update hr] at hc'
  | @gone before behind x hpa hot hna =>
    subst hpa
    refine ⟨fun c' hc' => mem_among_middle.2 (.inl hc'), x, by simp, hna, trivial⟩

end

section

variable {plan : Value} {columns : List Value}

/-- The selections before and after: one of them lists other columns, and is the same but for that. -/
lemma Relisted.docs (h : Relisted t s columns plan plan') : ∃ before behind s',
    docsOf plan "selections" = before ++ s :: behind ∧ docsOf plan' "selections" = before ++ s' :: behind ∧
      (∀ y ∈ before, nameAt y "table" ≠ some t) ∧ Kept ["columns"] s s' ∧ s'.at? "columns" = some (.list columns) := by
  obtain ⟨before, behind, hpa, hot, rfl⟩ := h.place
  refine ⟨before, behind, _, hpa, docsOf_of_at? (h.record.at?_self _ _), hot,
    h.selection.kept_self _ _, h.selection.at?_self _ _⟩

lemma SelectionFormed.relisted (h : SelectionFormed s) (hr : s.IsRecord)
    (hk : Kept ["columns"] s s') (hco : s'.at? "columns" = some (.list columns))
    (hfo : ∀ x ∈ columns, ColumnFormed x) : SelectionFormed s' := by
  obtain ⟨n, hn⟩ := h.name
  refine ⟨⟨n, (nameAt_kept hk).trans hn⟩, listAt_of_at? hco, ?_, h.filterList.congr (hk.at? _), ?_⟩
  · rwa [docsOf_of_at? hco]
  · rw [docsOf_kept hk hr]
    exact h.filters

lemma PlanFormed.of_kept (h : PlanFormed plan) (hk : Kept keys plan plan')
    (hg : "global_filters" ∉ keys) (hgr : "group_by" ∉ keys) (hl : ListAt plan' "selections")
    (hs : ∀ s ∈ docsOf plan' "selections", SelectionFormed s) : PlanFormed plan' := by
  refine ⟨hk.record, hl, hs, ⟨h.globals.list.congr (hk.same _ hg), ?_⟩, ?_⟩
  · rw [docsOf_kept hk h.record hg]
    exact h.globals.named
  · rw [peek_congr (hk.same _ hgr)]
    exact h.groups

lemma Relisted.formed (h : Relisted t s columns plan plan') (hfo : PlanFormed plan)
    (hco : ∀ x ∈ columns, ColumnFormed x) : PlanFormed plan' := by
  refine hfo.of_kept h.kept (by simp) (by simp) ?_ ?_
  · obtain ⟨before, behind, -, -, rfl⟩ := h.place
    exact listAt_of_at? (h.record.at?_self _ _)
  · obtain ⟨before, behind, s', hpa, hp', -, hk, hl⟩ := h.docs
    have hs := hfo.selections
    simp only [hpa, hp', forall_mem_append, forall_mem_cons] at hs ⊢
    exact ⟨hs.1, hs.2.1.relisted h.selection hk hl hco, hs.2.2⟩

lemma Relisted.distinct (h : Relisted t s columns plan plan') (hdi : Distinct plan)
    (hco : (columns.map (nameAt · "column")).Nodup) : Distinct plan' := by
  obtain ⟨before, behind, s', hpa, hp', -, hk, hl⟩ := h.docs
  obtain ⟨hta, hn⟩ := hdi
  refine ⟨?_, ?_⟩
  · rw [hp', map_append, map_cons, nameAt_kept hk]
    rwa [hpa, map_append, map_cons] at hta
  · simp only [hpa, hp', forall_mem_append, forall_mem_cons, docsOf_of_at? hl] at hn ⊢
    exact ⟨hn.1, hco, hn.2.2⟩

lemma SelectionFormed.record (h : SelectionFormed s) : s.IsRecord := h.name.record

section

variable (h : Relisted t s columns plan plan')

include h

lemma Relisted.selections (hfo : PlanFormed plan) :
    Forall₂ (Kept ["columns"]) (docsOf plan "selections") (docsOf plan' "selections") := by
  obtain ⟨before, behind, s', hpa, hp', -, hk, -⟩ := h.docs
  have hs : ∀ y ∈ docsOf plan "selections", Kept ["columns"] y y :=
    fun y hy => kept_refl (hfo.selections y hy).record
  rw [hpa] at hs ⊢
  rw [hp']
  exact rel_append (forall₂_same.2 fun y hy => hs y (by simp [hy]))
    (.cons hk (forall₂_same.2 fun y hy => hs y (by simp [hy])))

/-- In a plan without repetitions the columns of a table are those of its selection. -/
lemma Relisted.mem_before
    (hdi : Distinct plan) : (t, c) ∈ columnsWith P plan ↔ c ∈ among P (docsOf s "columns") := by
  obtain ⟨before, behind, hpa, -⟩ := h.place
  have hot := ne_of_nodup (hpa ▸ hdi.tables) h.name
  simp only [columnsWith, Set.mem_ofPred_eq, hpa, exists_mem_middle, h.name, true_and]
  constructor
  · rintro (⟨y, hy, hna, -⟩ | hc)
    · exact absurd hna (hot y hy)
    · exact hc
  · exact .inr

/-- Listing other columns for a table changes what is listed of this table only. -/
lemma Relisted.mem_after (hdi : Distinct plan) : (u, c) ∈ columnsWith P plan' ↔
      u = t ∧ c ∈ among P columns ∨ u ≠ t ∧ (u, c) ∈ columnsWith P plan := by
  obtain ⟨before, behind, s', hpa, hp', -, hk, hl⟩ := h.docs
  have hna : nameAt s' "table" = some t := (nameAt_kept hk).trans h.name
  have hot := ne_of_nodup (hpa ▸ hdi.tables) h.name
  simp only [columnsWith, Set.mem_ofPred_eq, hpa, hp', exists_mem_middle, h.name, hna, Option.some.injEq,
    docsOf_of_at? hl]
  by_cases hu : u = t
  · subst hu
    simp only [true_and, ne_eq, not_true_eq_false, false_and, or_false]
    constructor
    · rintro (⟨y, hy, hyn, -⟩ | hc)
      · exact absurd hyn (hot y hy)
      · exact hc
    · exact .inr
  · simp [hu, Ne.symm hu]

end

end

/-! ### When a patch is accepted -/

/-- A column of a schema: its name, and its type if that is known. -/
@[mk_iff]
structure EntryFormed (x : Value) : Prop where
  name : HasName x "column_name"
  type : ∃ v, x.at? "data_type" = some v ∧ (v = .null ∨ ∃ s, v = .text s)

instance (x : Value) : Decidable (EntryFormed x) :=
  decidable_of_iff (HasName x "column_name" ∧ ∃ v ∈ x.at? "data_type", IsPlain v) (entryFormed_iff x).symm

@[mk_iff]
structure TableFormed (e : Value) : Prop where
  name : HasName e "table_name"
  list : ∃ xs, e.at? "columns" = some (.list xs)
  columns : ∀ x ∈ docsOf e "columns", EntryFormed x

instance (e : Value) : Decidable (TableFormed e) := by
  refine decidable_of_iff (HasName e "table_name" ∧ (∃ v ∈ e.at? "columns", ∃ xs, v = .list xs) ∧
    ∀ x ∈ docsOf e "columns", EntryFormed x) ?_
  rw [tableFormed_iff]
  simp

def SchemaFormed (schema : Value) : Prop := ∃ entries, schema = .list entries ∧ ∀ e ∈ entries, TableFormed e

instance (schema : Value) : Decidable (SchemaFormed schema) :=
  decidable_of_iff (∃ es ∈ list? schema, ∀ e ∈ es, TableFormed e) (by simp [SchemaFormed, list?_eq_some])

def concerns (t c : String) (f : Value) : Bool := nameAt f "table" == some t && nameAt f "column" == some c

/-- Whether a plan filters by a column: in the selections of its table, for all rows or for groups. -/
def filtersBy (plan : Value) (t c : String) : Bool :=
  ((docsOf plan "selections").any fun s =>
    nameAt s "table" == some t && (docsOf s "filters").any (nameAt · "column" == some c)) ||
  (docsOf plan "global_filters").any (concerns t c) ||
  ((plan.peek "group_by").truthy && (docsOf (plan.peek "group_by") "having_filters").any (concerns t c))

section

variable {plan schema column : Value} {columns : List Value}

lemma atFirst_none (h : ∀ x ∈ xs, test x = .ok false) : atFirst test step xs = .ok none := by
  induction xs with
  | nil => rfl
  | cons x xs ih =>
    rw [atFirst, h x (by simp), ok_bind, if_neg (by simp), ih fun y hy => h y (by simp [hy])]
    rfl

lemma First.atFirst_eq (h : First test xs before x behind)
    (hs : step x = .ok news) : atFirst test step xs = .ok (some (before ++ news ++ behind)) := by
  obtain ⟨rfl, hot, hm⟩ := h
  induction before with
  | nil =>
    rw [nil_append, atFirst, hm, ok_bind, if_pos rfl, hs]
    rfl
  | cons y before ih =>
    obtain ⟨hy, hr⟩ := forall_mem_cons.1 hot
    rw [cons_append, atFirst, hy, ok_bind, if_neg (by simp), ih hr]
    rfl

lemma exists_first (h : ∃ x ∈ xs, nameAt x key = some n) : ∃ front x back,
    xs = front ++ x :: back ∧ (∀ y ∈ front, nameAt y key ≠ some n) ∧ nameAt x key = some n := by
  obtain ⟨y, hy, hna⟩ := h
  have hs : (xs.find? (nameAt · key == some n)).isSome := find?_isSome.2 ⟨y, hy, by simp [hna]⟩
  obtain ⟨x, hfi⟩ := Option.isSome_iff_exists.1 hs
  obtain ⟨hx, front, back, hpa, hf⟩ := find?_eq_some_iff_append.1 hfi
  exact ⟨front, x, back, hpa, by simpa using hf, by simpa using hx⟩

section

variable (hna : nameOf name = some n)

include hna

lemma fieldIs_eq (h : HasName doc key) : fieldIs key name doc = .ok (nameAt doc key == some n) := by
  obtain ⟨m, hm⟩ := h
  exact fieldIs_ok.2 ⟨m, n, hm, hna, by rw [hm, Option.some_beq_some]⟩

lemma sameName_gives (h : HasName doc key) : ∃ v meant, doc.field key = .ok v ∧ sameName v name = .ok meant := by
  obtain ⟨v, hv, hm⟩ := bind_ok.1 (fieldIs_eq hna h)
  exact ⟨v, _, hv, hm⟩

lemma first_of_name (hpa : xs = before ++ x :: behind) (hn : ∀ y ∈ xs, HasName y key)
    (hot : ∀ y ∈ before, nameAt y key ≠ some n) (hx : nameAt x key = some n) :
    First (fieldIs key name) xs before x behind := by
  refine ⟨hpa, fun y hy => ?_, ?_⟩
  · rw [fieldIs_eq hna (hn y (by simp [hpa, hy])), beq_false_of_ne (hot y hy)]
  · rw [fieldIs_eq hna (hn x (by simp [hpa])), hx, beq_self_eq_true]

end

/-- What is left of a listing that is removed: if there are filters by the column, it stays for them. -/
def remains (filtered : Bool) (x : Value) : List Value := if filtered then [x.update [("role", "filter")]] else []

/-- A plan in which the selection between others lists other columns. -/
def relist (plan : Value) (before : List Value) (s : Value) (behind columns : List Value) : Value :=
  plan.update [("selections", .list (before ++ s.update [("columns", .list columns)] :: behind))]

lemma exists_place (hdi : ((docsOf plan "selections").map (nameAt · "table")).Nodup)
    (hs : s ∈ docsOf plan "selections") (hna : nameAt s "table" = some t) :
    ∃ before behind, docsOf plan "selections" = before ++ s :: behind ∧ ∀ y ∈ before, nameAt y "table" ≠ some t := by
  obtain ⟨before, behind, hpa⟩ := append_of_mem hs
  exact ⟨before, behind, hpa, fun y hy => ne_of_nodup (hpa ▸ hdi) hna y (by simp [hy])⟩

section

variable (ht : nameOf table = some t) (hc : nameOf column = some c)

include hc

lemma find_gives (h : ∀ x ∈ xs, EntryFormed x) : ∃ found, schemaColumn?.find column xs = .ok found := by
  induction xs with
  | nil => exact ⟨none, rfl⟩
  | cons x xs ih =>
    obtain ⟨name, same, hna, hs⟩ := sameName_gives hc (h x (by simp)).name
    simp only [schemaColumn?.find, hna, hs, ok_bind]
    cases same with
    | true => exact ⟨some x, rfl⟩
    | false => exact ih fun y hy => h y (by simp [hy])

lemma showListed_none (h : ∀ x ∈ columns, ColumnFormed x) (hn : ∀ x ∈ columns, nameAt x "column" ≠ some c) :
    showListed column columns = .ok none := by
  rw [showListed_eq]
  refine atFirst_none fun x hx => ?_
  rw [fieldIs_eq hc (h x hx).name, beq_false_of_ne (hn x hx)]

lemma showListed_gives (h : ∀ x ∈ columns, ColumnFormed x) : ∃ found, showListed column columns = .ok found := by
  by_cases hl : ∃ x ∈ columns, nameAt x "column" = some c
  · obtain ⟨front, x, back, hpa, hfr, hx⟩ := exists_first hl
    have hf := first_of_name hc hpa (fun y hy => (h y hy).name) hfr hx
    have hfo := h x (by simp [hpa])
    rw [showListed_eq]
    rcases hfo.role with hr | hr
    · exact ⟨_, hf.atFirst_eq (by rw [field_ok.2 hr]; rfl)⟩
    · exact ⟨_, hf.atFirst_eq (by rw [field_ok.2 hr, ok_bind, hfo.record.setField]; rfl)⟩
  · exact ⟨none, showListed_none hc h fun x hx hna => hl ⟨x, hx, hna⟩⟩

include ht

lemma schemaColumn?_gives {es : List Value} (h : ∀ e ∈ es, TableFormed e) :
    ∃ found, schemaColumn? table column es = .ok found := by
  induction es with
  | nil => exact ⟨none, rfl⟩
  | cons e es ih =>
    have he := h e (by simp)
    obtain ⟨later, hl⟩ := ih fun e' he' => h e' (by simp [he'])
    obtain ⟨name, same, hna, hs⟩ := sameName_gives ht he.name
    simp only [schemaColumn?, hna, hs, ok_bind]
    cases same with
    | false => exact ⟨later, hl⟩
    | true =>
      obtain ⟨xs, hxs⟩ := he.list
      obtain ⟨own, ho⟩ := find_gives hc (docsOf_of_at? hxs ▸ he.columns)
      rw [← field_ok] at hxs
      simp only [hxs, items, ho, if_true, ok_bind]
      cases own with
      | none => exact ⟨later, hl⟩
      | some x => exact ⟨some x, rfl⟩

lemma hasColumn_gives (hsc : SchemaFormed schema) :
    ∃ b, hasColumn table column schema = .ok b ∧ (b = true ↔ HasColumn schema t c) := by
  obtain ⟨entries, rfl, hen⟩ := hsc
  obtain ⟨found, hf⟩ := schemaColumn?_gives ht hc hen
  have hb : hasColumn table column (.list entries) = .ok found.isSome := by
    simp only [hasColumn, items, ok_bind, hf]
    rfl
  refine ⟨_, hb, fun hs => hasColumn_of (hs ▸ hb) ht hc, ?_⟩
  · rintro ⟨_, hi, e, he, hna, x, hx, hxn⟩
    cases hi
    cases found with
    | some => rfl
    | none =>
      rcases schemaColumn?_ok hf e he with hno | hno
      · exact absurd hna (ne_of_fieldIs_false ht hno)
      · exact absurd hxn (ne_of_fieldIs_false hc (hno x hx))

lemma addedColumn_gives (hs : SchemaFormed schema) : ∃ added, addedColumn table column schema = .ok added := by
  obtain ⟨entries, rfl, hen⟩ := hs
  obtain ⟨found, hf⟩ := schemaColumn?_gives ht hc hen
  have hty : ∃ type, columnType table column (.list entries) = .ok type ∧ (type = .null ∨ ∃ s, type = .text s) := by
    simp only [columnType, items, ok_bind, hf]
    cases found with
    | none => exact ⟨.null, rfl, .inl rfl⟩
    | some x =>
      obtain ⟨e, he, -, hx, -⟩ := schemaColumn?_ok hf
      obtain ⟨v, hv, hfo⟩ := ((hen e he).columns x hx).type
      exact ⟨v, field_ok.2 hv, hfo⟩
  obtain ⟨type, hty, rfl | ⟨name, rfl⟩⟩ := hty
  · exact ⟨_, by rw [addedColumn, hty]; rfl⟩
  · simp only [addedColumn, hty, ok_bind]
    split <;> exact ⟨_, rfl⟩

lemma showColumn_gives (hs : SchemaFormed schema) (h : SelectionFormed s) :
    ∃ s', showColumn table column schema s = .ok s' := by
  obtain ⟨found, hf⟩ := showListed_gives hc h.columns
  obtain ⟨added, ha⟩ := addedColumn_gives ht hc hs
  rw [showColumn, getD_of_listAt h.record h.list, ok_bind]
  simp only [items, ok_bind, hf]
  cases found with
  | some listed => exact ⟨_, h.record.setField _ _⟩
  | none =>
    simp only [ha, extended, ok_bind]
    exact ⟨_, h.record.setField _ _⟩

lemma filterUses_eq (hta : HasName f "table") (hco : HasName f "column") :
    filterUses table column f = .ok (concerns t c f) := by
  have hpa : filterUses table column f = (do
      if ← fieldIs "table" table f then fieldIs "column" column f else pure false) := by
    simp only [filterUses, fieldIs, bind_assoc]
  rw [hpa, fieldIs_eq ht hta, ok_bind, fieldIs_eq hc hco, concerns]
  cases nameAt f "table" == some t <;> rfl

lemma selectionFilters_eq (h : SelectionFormed s) : (do
      if ← sameName (← s.field "table") table then
        (← itemsOf s "filters").anyM fun (f : Value) => do sameName (← f.field "column") column else pure false) =
        .ok (nameAt s "table" == some t && (docsOf s "filters").any (nameAt · "column" == some c)) := by
  have hfi : ((docsOf s "filters").anyM fun f => fieldIs "column" column f) =
      .ok ((docsOf s "filters").any (nameAt · "column" == some c)) :=
    anyM_eq_any fun f hf => fieldIs_eq hc (h.filters f hf)
  have hpa := fieldIs_eq ht h.name
  rw [fieldIs] at hpa
  rw [← bind_assoc, hpa, ok_bind]
  cases nameAt s "table" == some t with
  | false => rfl
  | true =>
    rw [if_pos rfl, itemsOf_of_listAt h.record h.filterList, ok_bind]
    exact hfi

lemma isInFilters_eq (h : PlanFormed plan) : isInFilters table column plan = .ok (filtersBy plan t c) := by
  have hu : ∀ {doc : Value} {key : String}, FiltersFormed doc key →
      (docsOf doc key).anyM (filterUses table column) = .ok ((docsOf doc key).any (concerns t c)) :=
    fun hf => anyM_eq_any fun f hin => filterUses_eq ht hc (hf.named f hin).1 (hf.named f hin).2
  have ho := anyM_eq_any fun s hs => selectionFilters_eq ht hc (h.selections s hs)
  simp only [isInFilters, itemsOf_of_listAt h.record h.list, ho, itemsOf_of_listAt h.record h.globals.list,
    hu h.globals, get_ok.2 ⟨h.record, rfl⟩, ok_bind, filtersBy]
  cases (docsOf plan "selections").any _ with
  | true => rfl
  | false =>
    cases (docsOf plan "global_filters").any _ with
    | true => rfl
    | false =>
      cases hg : (plan.peek "group_by").truthy with
      | false => rfl
      | true =>
        obtain ⟨hr, hh⟩ := h.groups hg
        simp [itemsOf_of_listAt hr hh.list, hu hh]

end

section

variable (hfo : PlanFormed plan) (hpa : docsOf plan "selections" = before ++ s :: behind)
  (hot : ∀ y ∈ before, nameAt y "table" ≠ some t) (hna : nameAt s "table" = some t)

include hfo hpa hot hna

lemma relisted_relist (columns : List Value) : Relisted t s columns plan (relist plan before s behind columns) :=
  ⟨hfo.record, (hfo.selections s (by simp [hpa])).record, hna, before, behind, hpa, hot, rfl⟩

variable (ht : nameOf table = some t) (hc : nameOf column = some c)

include ht

lemma onSelection_place (hs : step s = .ok s') :
    onSelection table step (docsOf plan "selections") = .ok (some (before ++ s' :: behind)) := by
  have hf := first_of_name ht hpa (fun y hy => (hfo.selections y hy).name) hot hna
  rw [onSelection_eq, hf.atFirst_eq (by rw [hs]; rfl), append_assoc, singleton_append]

include hc

lemma addColumn_place (hsc : SchemaFormed schema) (hco : HasColumn schema t c)
    (hs : showColumn table column schema s = .ok s') : addColumn plan table column schema =
      .ok (plan.update [("selections", .list (before ++ s' :: behind))]) := by
  obtain ⟨b, hb, hi⟩ := hasColumn_gives ht hc hsc
  rw [hi.2 hco] at hb
  simp only [addColumn, hb, itemsOf_of_listAt hfo.record hfo.list,
    onSelection_place hfo hpa hot hna ht hs, ok_bind]
  exact hfo.record.setField _ _

/-- A column that is not listed is added behind the others, spelled as in the patch. -/
lemma addColumn_unlisted (hsc : SchemaFormed schema) (hco : HasColumn schema t c)
    (hn : ∀ x ∈ docsOf s "columns", nameAt x "column" ≠ some c) :
    ∃ added, added.at? "column" = some column ∧ added.at? "role" = some (.text "projection") ∧
      addColumn plan table column schema = .ok (relist plan before s behind (docsOf s "columns" ++ [added])) := by
  have hs := hfo.selections s (by simp [hpa])
  obtain ⟨added, ha⟩ := addedColumn_gives ht hc hsc
  have hsh : showColumn table column schema s =
      .ok (s.update [("columns", .list (docsOf s "columns" ++ [added]))]) := by
    rw [showColumn, getD_of_listAt hs.record hs.list, ok_bind]
    simp only [items, ok_bind, showListed_none hc hs.columns hn, ha, extended]
    exact hs.record.setField _ _
  exact ⟨added, (addedColumn_ok ha).2.1, (addedColumn_ok ha).2.2,
    addColumn_place hfo hpa hot hna ht hc hsc hco hsh⟩

lemma removeColumn_listed (hco : docsOf s "columns" = front ++ x :: back)
    (hf : ∀ y ∈ front, nameAt y "column" ≠ some c) (hx : nameAt x "column" = some c) :
    removeColumn plan table column =
      .ok (relist plan before s behind (front ++ remains (filtersBy plan t c) x ++ back)) := by
  have hs := hfo.selections s (by simp [hpa])
  have hr := (hs.columns x (by simp [hco])).record
  have hfi := first_of_name hc hco (fun y hy => (hs.columns y hy).name) hf hx
  have hh : hideListed column (filtersBy plan t c) (docsOf s "columns") =
      .ok (some (front ++ remains (filtersBy plan t c) x ++ back)) := by
    rw [hideListed_eq]
    refine hfi.atFirst_eq ?_
    cases filtersBy plan t c with
    | false => rfl
    | true =>
      rw [if_pos rfl, hr.setField]
      rfl
  have hst : hideColumn plan table column s =
      .ok (s.update [("columns", .list (front ++ remains (filtersBy plan t c) x ++ back))]) := by
    simp only [hideColumn, isInFilters_eq ht hc hfo, itemsOf_of_listAt hs.record hs.list, hh, ok_bind]
    exact hs.record.setField _ _
  simp only [removeColumn, itemsOf_of_listAt hfo.record hfo.list,
    onSelection_place hfo hpa hot hna ht hst, ok_bind]
  exact hfo.record.setField _ _

end

section

variable (hfo : PlanFormed plan) (ht : nameOf table = some t) (hc : nameOf column = some c)

include hfo ht hc

lemma addColumn_gives (hsc : SchemaFormed schema) (hco : HasColumn schema t c) (hs : Selects plan t) :
    ∃ plan', addColumn plan table column schema = .ok plan' := by
  obtain ⟨before, s, behind, hpa, hot, hna⟩ := exists_first hs
  obtain ⟨s', hsh⟩ := showColumn_gives ht hc hsc (hfo.selections s (by simp [hpa]))
  exact ⟨_, addColumn_place hfo hpa hot hna ht hc hsc hco hsh⟩

lemma removeColumn_gives (hdi : Distinct plan) (hl : (t, c) ∈ listed plan) :
    ∃ plan', removeColumn plan table column = .ok plan' := by
  -- The walk stops at the first selection of the table; as there is one only, that is the one with the column.
  obtain ⟨s, hs, hna, x, hx, hcl, -⟩ := hl
  obtain ⟨before, behind, hpa, hot⟩ := exists_place hdi.tables hs hna
  obtain ⟨front, x, back, hco, hf, hx⟩ := exists_first ⟨x, hx, hcl⟩
  exact ⟨_, removeColumn_listed hfo hpa hot hna ht hc hco hf hx⟩

end

end

/-! ### One patch -/

def Accepts (schema plan patch : Value) : Prop := ∃ plan', applyPatch plan patch schema = .ok plan'

/-- The plan after a patch; one that is refused leaves it as it was. -/
def patched (schema plan patch : Value) : Value :=
  match applyPatch plan patch schema with
  | .ok plan' => plan'
  | .error _ => plan

/-- What a patch asks for happens, if it can. -/
def Heeded (schema plan patch : Value) : Prop :=
  match wish patch with
  | .add t c => (Accepts schema plan patch ↔ HasColumn schema t c ∧ Selects plan t) ∧
      (Accepts schema plan patch → shown (patched schema plan patch) = insert (t, c) (shown plan))
  | .remove t c => (Accepts schema plan patch ↔ (t, c) ∈ listed plan) ∧
      (Accepts schema plan patch → shown (patched schema plan patch) = shown plan \ {(t, c)})
  | .other => shown (patched schema plan patch) = shown plan

section

variable {schema plan patch : Value}

/-- A patch that names a table and a column for an operation. -/
structure Asks (patch : Value) (operation t c : String) : Prop where
  kind : (patch.peek "operation").text? = some operation
  table : givenName patch "table" = some t
  column : givenName patch "column" = some c

lemma wish_eq_add (h : wish patch = .add t c) : Asks patch "add_column" t c := by
  unfold wish at h
  split at h
  case h_1 hop hta hco =>
    cases h
    exact ⟨hop, hta, hco⟩
  all_goals cases h

lemma wish_eq_remove (h : wish patch = .remove t c) : Asks patch "remove_column" t c := by
  unfold wish at h
  split at h
  case h_2 hop hta hco =>
    cases h
    exact ⟨hop, hta, hco⟩
  all_goals cases h

lemma givenName_eq_some (h : givenName patch key = some n) :
    (patch.peek key).truthy = true ∧ nameOf (patch.peek key) = some n := by
  unfold givenName at h
  split at h
  case isTrue htr => exact ⟨htr, h⟩
  case isFalse => cases h

section

variable (h : Asks patch operation t c)

include h

lemma Asks.tableName : nameOf (patch.peek "table") = some t := (givenName_eq_some h.table).2

lemma Asks.columnName : nameOf (patch.peek "column") = some c := (givenName_eq_some h.column).2

lemma Asks.record : patch.IsRecord := by
  cases patch with
  | record fs => exact ⟨fs, rfl⟩
  | _ => cases h.kind

lemma Asks.patchColumn_eq : patchColumn patch operation = .ok (patch.peek "table", patch.peek "column") := by
  simp only [patchColumn, get_ok.2 ⟨h.record, rfl⟩, ok_bind, (givenName_eq_some h.table).1,
    (givenName_eq_some h.column).1]
  rfl

end

lemma applyPatch_add (hw : wish patch = .add t c) :
    applyPatch plan patch schema = addColumn plan (patch.peek "table") (patch.peek "column") schema := by
  have h := wish_eq_add hw
  simp only [applyPatch, get_ok.2 ⟨h.record, rfl⟩, ok_bind, h.kind, h.patchColumn_eq]

lemma applyPatch_remove (hw : wish patch = .remove t c) :
    applyPatch plan patch schema = removeColumn plan (patch.peek "table") (patch.peek "column") := by
  have h := wish_eq_remove hw
  simp only [applyPatch, get_ok.2 ⟨h.record, rfl⟩, ok_bind, h.kind, h.patchColumn_eq]

lemma patched_of_ok (h : applyPatch plan patch schema = .ok plan') : patched schema plan patch = plan' := by
  rw [patched, h]

lemma patched_of_refused (h : ¬ Accepts schema plan patch) : patched schema plan patch = plan := by
  unfold patched
  split
  case h_1 plan' hp' => exact absurd ⟨plan', hp'⟩ h
  case h_2 => rfl

/-- A patch to add a column is accepted exactly if there is such a column and its table is selected. -/
lemma accepts_add_iff (hsc : SchemaFormed schema) (hfo : PlanFormed plan) (hw : wish patch = .add t c) :
    Accepts schema plan patch ↔ HasColumn schema t c ∧ Selects plan t := by
  constructor
  · rintro ⟨plan', h⟩
    cases applyPatch_ok h with
    | add hw' hco had hr =>
      cases hw.symm.trans hw'
      exact ⟨hco, _, hr.mem_selections, hr.name⟩
    | remove hw' | order hw' | limit hw' => cases hw.symm.trans hw'
  · rintro ⟨hco, hs⟩
    have ha := wish_eq_add hw
    rw [Accepts, applyPatch_add hw]
    exact addColumn_gives hfo ha.tableName ha.columnName hsc hco hs

lemma accepts_remove_iff (hfo : PlanFormed plan) (hdi : Distinct plan) (hw : wish patch = .remove t c) :
    Accepts schema plan patch ↔ (t, c) ∈ listed plan := by
  constructor
  · rintro ⟨plan', h⟩
    cases applyPatch_ok h with
    | remove hw' _ hr hre =>
      cases hw.symm.trans hw'
      exact (hre.mem_before hdi).2 hr.among_subset.2
    | add hw' | order hw' | limit hw' => cases hw.symm.trans hw'
  · intro hl
    have ha := wish_eq_remove hw
    rw [Accepts, applyPatch_remove hw]
    exact removeColumn_gives hfo ha.tableName ha.columnName hdi hl

lemma columnsWith_kept (hr : plan.IsRecord) (h : Kept keys plan plan')
    (hk : "selections" ∉ keys) : columnsWith P plan' = columnsWith P plan := by
  unfold columnsWith
  rw [docsOf_kept h hr hk]

/-- What is shown once a wish is granted. -/
def Wish.grant (columns : Set (String × String)) : Wish → Set (String × String)
  | .add t c => insert (t, c) columns
  | .remove t c => columns \ {(t, c)}
  | .other => columns

lemma shown_of_accepted (hfo : PlanFormed plan) (hdi : Distinct plan)
    (h : Accepted schema plan patch plan') : shown plan' = (wish patch).grant (shown plan) := by
  cases h with
  | @add t c s _ columns hw hcl ha hr =>
    have hco := (hfo.selections s hr.mem_selections).columns
    rw [hw, Wish.grant]
    ext ⟨u, c'⟩
    rw [shown, hr.mem_after hdi, ha.among_eq (fun _ hx => hx) hco, Set.mem_insert_iff,
      Set.mem_insert_iff, ← hr.mem_before hdi, Prod.mk.injEq, shown]
    grind
  | @remove t c s _ columns fil hw hf hre hr =>
    have hn := hdi.columns s hr.mem_selections
    rw [hw, Wish.grant]
    ext ⟨u, c'⟩
    rw [shown, hr.mem_after hdi, hre.among_shown hn, Set.mem_sdiff, Set.mem_sdiff,
      ← hr.mem_before hdi, Set.mem_singleton_iff, Set.mem_singleton_iff, Prod.mk.injEq, shown]
    grind
  | order hw hrc | limit hw hrc =>
    rw [hw]
    exact columnsWith_kept hrc (hrc.kept_self _ _) (by simp)

lemma heeded (hsc : SchemaFormed schema) (hfo : PlanFormed plan) (hdi : Distinct plan) :
    Heeded schema plan patch := by
  have hs : Accepts schema plan patch →
      shown (patched schema plan patch) = (wish patch).grant (shown plan) := by
    rintro ⟨plan', h⟩
    rw [patched_of_ok h]
    exact shown_of_accepted hfo hdi (applyPatch_ok h)
  unfold Heeded
  cases hw : wish patch with rw [hw] at hs
  | add t c => exact ⟨accepts_add_iff hsc hfo hw, hs⟩
  | remove t c => exact ⟨accepts_remove_iff hfo hdi hw, hs⟩
  | other =>
    by_cases ha : Accepts schema plan patch
    · exact hs ha
    · rw [patched_of_refused ha]

end

structure Preserved (schema plan plan' : Value) : Prop where
  formed : PlanFormed plan'
  distinct : Distinct plan'
  /-- Joins, groups, shared filters and all other fields are the same. -/
  fields : Kept ["selections", "order_by", "limit"] plan plan'
  selections : Forall₂ (Kept ["columns"]) (docsOf plan "selections") (docsOf plan' "selections")
  columns : listed plan' ⊆ listed plan ∪ {p | HasColumn schema p.1 p.2}

section

variable {schema plan patch : Value}

lemma forall₂_kept_trans (h : Forall₂ (Kept keys) xs ys)
    (h' : Forall₂ (Kept keys) ys zs) : Forall₂ (Kept keys) xs zs := by
  induction h generalizing zs with
  | nil => exact h'
  | cons hxy _ ih =>
    obtain _ | ⟨hyz, h'⟩ := h'
    exact .cons (kept_mono (hxy.trans hyz) (by simp)) (ih h')

lemma Preserved.trans (h : Preserved schema plan plan') (h' : Preserved schema plan' plan'') :
    Preserved schema plan plan'' := by
  refine ⟨h'.formed, h'.distinct, kept_mono (h.fields.trans h'.fields) (by simp),
    forall₂_kept_trans h.selections h'.selections, fun p hp => ?_⟩
  rcases h'.columns hp with hp | hp
  · exact h.columns hp
  · exact .inr hp

section

variable (hfo : PlanFormed plan) (hdi : Distinct plan)

include hfo hdi

lemma preserved_refl : Preserved schema plan plan :=
  ⟨hfo, hdi, kept_refl hfo.record,
    forall₂_same.2 fun s hs => kept_refl (hfo.selections s hs).record, Set.subset_union_left⟩

lemma preserved_update (hke : key = "order_by" ∨ key = "limit") : Preserved schema plan (plan.update [(key, x)]) := by
  have hk := hfo.record.kept_self key x
  have hot : ∀ other ∈ ["selections", "global_filters", "group_by"], other ∉ [key] := by
    rcases hke with rfl | rfl <;> simp
  have hd := docsOf_kept hk hfo.record (hot "selections" (by simp))
  refine ⟨hfo.of_kept hk (hot _ (by simp)) (hot _ (by simp)) ?_ ?_, ⟨?_, ?_⟩, kept_mono hk ?_, ?_, ?_⟩
  · exact hfo.list.congr (hk.same _ (hot _ (by simp)))
  · rw [hd]
    exact hfo.selections
  · rw [hd]
    exact hdi.tables
  · rw [hd]
    exact hdi.columns
  · rcases hke with rfl | rfl <;> simp
  · rw [hd]
    exact forall₂_same.2 fun s hs => kept_refl (hfo.selections s hs).record
  · rw [listed, columnsWith_kept hfo.record hk (hot _ (by simp))]
    exact Set.subset_union_left

lemma Relisted.preserved (h : Relisted t s columns plan plan') (hco : ColumnsFormed columns)
    (hk : ∀ c ∈ among (fun _ => True) columns,
      c ∈ among (fun _ => True) (docsOf s "columns") ∨ HasColumn schema t c) : Preserved schema plan plan' := by
  refine ⟨h.formed hfo hco.formed, h.distinct hdi hco.nodup, kept_mono h.kept (by simp), h.selections hfo, ?_⟩
  rintro ⟨u, c⟩ hc
  rcases (h.mem_after hdi).1 hc with ⟨rfl, hc⟩ | ⟨-, hc⟩
  · exact (hk c hc).imp (h.mem_before hdi).2 id
  · exact .inl hc

lemma preserved_of_accepted (h : Accepted schema plan patch plan') : Preserved schema plan plan' := by
  cases h with
  | @add t c s _ columns hw hcl ha hr =>
    have hs := hr.mem_selections
    have hco := (hfo.selections s hs).columns
    refine hr.preserved hfo hdi (ha.formed ⟨hco, hdi.columns s hs⟩) fun c' hc' => ?_
    rw [ha.among_eq (fun _ _ => trivial) hco, Set.mem_insert_iff] at hc'
    rcases hc' with rfl | hc'
    · exact .inr hcl
    · exact .inl hc'
  | @remove t c s _ columns fil hw hf hre hr =>
    have hs := hr.mem_selections
    exact hr.preserved hfo hdi (hre.formed ⟨(hfo.selections s hs).columns, hdi.columns s hs⟩)
      fun c' hc' => .inl (hre.among_subset.1 hc')
  | order => exact preserved_update hfo hdi (.inl rfl)
  | limit => exact preserved_update hfo hdi (.inr rfl)

lemma preserved_patched : Preserved schema plan (patched schema plan patch) := by
  by_cases ha : Accepts schema plan patch
  · obtain ⟨plan', h⟩ := ha
    rw [patched_of_ok h]
    exact preserved_of_accepted hfo hdi (applyPatch_ok h)
  · rw [patched_of_refused ha]
    exact preserved_refl hfo hdi

end

end

/-! ### Many patches -/

def patchAll (schema plan : Value) (patches : List Value) : Value := patches.foldl (patched schema) plan

def replacing : List (String × String) := [("modify_order_by", "order_by"), ("modify_limit", "limit")]

/-- The value that a patch gives to a field by an operation, if it is accepted. -/
def given (schema : Value) (operation key : String) (plan patch : Value) : Option Value :=
  match applyPatch plan patch schema with
  | .ok _ => if (patch.peek "operation").text? = some operation then some (patch.peek key) else none
  | .error _ => none

/-- The value that the last accepted patch with an operation gives to a field. -/
def lastGiven (schema : Value) (operation key : String) : Value → List Value → Option Value
  | _, [] => none
  | plan, patch :: patches =>
    (lastGiven schema operation key (patched schema plan patch) patches).or (given schema operation key plan patch)

section

variable {schema plan patch : Value} {operation key : String}

lemma at?_patched (h : (operation, key) ∈ replacing) :
    (patched schema plan patch).at? key = (given schema operation key plan patch).or (plan.at? key) := by
  simp only [replacing, mem_cons, Prod.mk.injEq, not_mem_nil, or_false] at h
  by_cases ha : Accepts schema plan patch
  case neg =>
    have hn : given schema operation key plan patch = none := by
      unfold given
      split
      case h_1 plan' hp' => exact absurd ⟨plan', hp'⟩ ha
      case h_2 => rfl
    rw [patched_of_refused ha, hn, Option.none_or]
  case pos =>
    obtain ⟨plan', hp'⟩ := ha
    rw [patched_of_ok hp', given, hp']
    cases applyPatch_ok hp' with
    | add hw _ _ hr =>
      rw [(wish_eq_add hw).kind, hr.kept.same key (by rcases h with ⟨-, rfl⟩ | ⟨-, rfl⟩ <;> simp)]
      rcases h with ⟨rfl, -⟩ | ⟨rfl, -⟩ <;> simp
    | remove hw _ _ hr =>
      rw [(wish_eq_remove hw).kind, hr.kept.same key (by rcases h with ⟨-, rfl⟩ | ⟨-, rfl⟩ <;> simp)]
      rcases h with ⟨rfl, -⟩ | ⟨rfl, -⟩ <;> simp
    | order _ hre hop | limit _ hre hop =>
      rw [hop, at?_update hre, Fields.latest_cons]
      rcases h with ⟨rfl, rfl⟩ | ⟨rfl, rfl⟩ <;> simp [Fields.latest]

lemma at?_patchAll (h : (operation, key) ∈ replacing) :
    (patchAll schema plan patches).at? key = (lastGiven schema operation key plan patches).or (plan.at? key) := by
  induction patches generalizing plan with
  | nil => rfl
  | cons patch patches ih =>
    rw [patchAll, foldl_cons, ← patchAll, ih, at?_patched h, lastGiven, Option.or_assoc]

lemma preserved_patchAll (hfo : PlanFormed plan) (hdi : Distinct plan) :
    Preserved schema plan (patchAll schema plan patches) := by
  induction patches generalizing plan with
  | nil => exact preserved_refl hfo hdi
  | cons patch patches ih =>
    have hs : Preserved schema plan (patched schema plan patch) := preserved_patched hfo hdi
    exact hs.trans (ih hs.formed hs.distinct)

/-- After any patches a plan is as it was but for its columns, its order and its limit; these two are those that
were accepted last, or the first ones. Whatever patch comes next, it is heeded. -/
theorem patches_heeded (hschema : SchemaFormed schema) (hformed : PlanFormed plan) (hdistinct : Distinct plan)
    (patches : List Value) :
    Preserved schema plan (patchAll schema plan patches) ∧
      (∀ operation key, (operation, key) ∈ replacing → (patchAll schema plan patches).at? key =
        (lastGiven schema operation key plan patches).or (plan.at? key)) ∧
      ∀ patch, Heeded schema (patchAll schema plan patches) patch := by
  have hp : Preserved schema plan (patchAll schema plan patches) := preserved_patchAll hformed hdistinct
  refine ⟨hp, fun operation key h => at?_patchAll h, fun patch => ?_⟩
  exact heeded hschema hp.formed hp.distinct

end

/-! A plan for the open orders of a store, and patches of which some are refused. -/

def storeSchema : Value := .list [
  .record [("table_name", "Orders"), ("columns", .list [.record [("column_name", "Id"), ("data_type", "int")],
    .record [("column_name", "Status"), ("data_type", "nvarchar")],
    .record [("column_name", "Total"), ("data_type", .null)]])],
  .record [("table_name", "Customers"), ("columns", .list [.record [("column_name", "Name"), ("data_type", "text")]])]]

def storePlan : Value := .record [("selections", .list [
    .record [("table", "orders"), ("columns", .list [.record [("column", "id"), ("role", "projection")],
        .record [("column", "status"), ("role", "projection")]]),
      ("filters", .list [.record [("table", "orders"), ("column", "STATUS")]])],
    .record [("table", "Customers")]]),
  ("limit", .int 10)]

def columnPatch (operation table column : String) : Value :=
  .record [("operation", .text operation), ("table", .text table), ("column", .text column)]

def limitPatch (limit : Int) : Value := .record [("operation", "modify_limit"), ("limit", .int limit)]

def storePatches : List Value :=
  [columnPatch "add_column" "customers" "NAME", columnPatch "remove_column" "Orders" "Status", limitPatch 5,
    limitPatch 0, columnPatch "remove_column" "Orders" "Total"]

lemma storeSchema_formed : SchemaFormed storeSchema := of_decide_eq_true rfl

lemma storePlan_formed : PlanFormed storePlan := of_decide_eq_true rfl

theorem patches_heeded_store :
    (patchAll storeSchema storePlan storePatches).at? "limit" = some (.int 5) ∧
      shown (patched storeSchema (patchAll storeSchema storePlan storePatches)
        (columnPatch "add_column" "ORDERS" "status")) =
          insert ("orders", "status") (shown (patchAll storeSchema storePlan storePatches)) := by
  obtain ⟨-, hf, hh⟩ :=
    patches_heeded storeSchema_formed storePlan_formed (of_decide_eq_true rfl) storePatches
  have hl : lastGiven storeSchema "modify_limit" "limit" storePlan storePatches = some (.int 5) := rfl
  have ha := hh (columnPatch "add_column" "ORDERS" "status")
  have hco : HasColumn storeSchema "orders" "status" :=
    hasColumn_of (rfl : hasColumn "Orders" "Status" storeSchema = .ok true) rfl rfl
  have hss : Selects (patchAll storeSchema storePlan storePatches) "orders" := by
    have hse : (docsOf (patchAll storeSchema storePlan storePatches) "selections").any
        (nameAt · "table" == some "orders") = true := rfl
    obtain ⟨s, hs, hna⟩ := any_eq_true.1 hse
    exact ⟨s, hs, by simpa using hna⟩
  refine ⟨?_, ha.2 (ha.1.2 ⟨hco, hss⟩)⟩
  rw [hf "modify_limit" "limit" (by simp [replacing]), hl, Option.some_or]

end QueryDesk.Plan
