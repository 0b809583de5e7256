import QueryDesk.Proofs.MovedConditions
import QueryDesk.Proofs.PatchSequence

/-!
Which columns of a plan get another name. The repair asks two things of a name: whether its table lists it, and whether
it resembles a column of the table. What the name stands for is not asked, so an expression over columns, or the alias
of an aggregate, gives way to a column whose name occurs in it.
-/

namespace QueryDesk.Plan

open Attempt Value Sql List Value Text

/-! ### Names that resemble each other -/

/-- Whether a column's name is another name without that of the table in front. -/
def isUnprefixed (table name c : String) : Bool :=
  startsWith (lower name) (replace (lower table) tableMark "") &&
    lower c == lower (drop name (replace table tableMark "").length)

/-- The tests by which a column of a table resembles a name, in the order in which they are made. -/
def resemblances (table name : String) : List (String → Bool) := [
  (lower · == lower name), isUnprefixed table name,
  (endsWith (lower name) <| lower ·), (contains (lower name) <| lower ·),
  (likeness · name |>.isClose)]

def resembles (table name c : String) : Bool := (resemblances table name).any (· c)

/-- What is found among names by a test: one that passes it, or nothing because none does. -/
def IsFound (names : List String) (test : String → Bool) : Option String → Prop
  | none => ∀ c ∈ names, test c = false
  | some c => c ∈ names ∧ test c = true

/-- A search by a test finds something if there is something. -/
def Finds (names : List String) (test : String → Bool) (search : Attempt (Option Value)) : Prop :=
  ∃ found : Option String, search = .ok (found.map text) ∧ IsFound names test found

section

variable {names : List String}

lemma isFound_find? : IsFound names test (names.find? test) := by
  cases hf : names.find? test with
  | none => exact fun c hc => by simpa using find?_eq_none.1 hf c hc
  | some c => exact ⟨mem_of_find?_eq_some hf, find?_some hf⟩

lemma firstLowered_texts (lowTest : String → Bool) : ∀ names : List String,
    firstLowered lowTest (names.map text) = .ok ((names.find? (lowTest <| lower ·)).map text)
  | [] => rfl
  | c :: names => by
    have hl : (text c).lowered = .ok (lower c) := rfl
    rw [map_cons, firstLowered, hl, ok_bind, find?_cons]
    cases hc : lowTest (lower c) with
    | true => rfl
    | false => exact firstLowered_texts lowTest names

lemma firstLowered_finds (lowTest : String → Bool) :
    Finds names (lowTest <| lower ·) (firstLowered lowTest (names.map text)) :=
  ⟨_, firstLowered_texts lowTest names, isFound_find?⟩

lemma unprefixed_finds (table name : String) :
    Finds names (isUnprefixed table name) (unprefixed name (.text table) (names.map text)) := by
  have hl : (text table).lowered = .ok (lower table) := rfl
  have ht : (text table).textFor "replace" = .ok table := rfl
  unfold isUnprefixed
  simp only [unprefixed, hl, ht, ok_bind]
  generalize lower (drop name (replace table tableMark "").length) = rest
  generalize startsWith (lower name) (replace (lower table) tableMark "") = begins
  cases begins with
  | true => simpa using firstLowered_finds (· == rest)
  | false => exact ⟨none, rfl, fun _ _ => rfl⟩

lemma closest?_isFound (name : String) : IsFound names (likeness · name |>.isClose) (closest? name names) := by
  simp only [closest?]
  split
  case h_1 hcl =>
    intro c hc
    have hn := filter_eq_nil_iff.1 hcl _ (mem_map_of_mem hc)
    simpa using hn
  case h_2 p rest hcl =>
    have hin := foldl_better_mem rest p
    rw [← hcl, mem_filter] at hin
    obtain ⟨hin, hisClose⟩ := hin
    obtain ⟨c, hc, hp⟩ := mem_map.1 hin
    rw [← hp] at hisClose ⊢
    exact ⟨hc, hisClose⟩

lemma firstFound_finds
    (h : Forall₂ (fun test search => Finds names test (search ())) tests searches) :
    Finds names (fun c => tests.any (· c)) (firstFound searches) := by
  induction h with
  | nil => exact ⟨none, rfl, fun _ _ => rfl⟩
  | @cons test search tests searches hs _ ih =>
    obtain ⟨fd, hf, hfi⟩ := hs
    simp only [firstFound, hf, ok_bind]
    cases fd with
    | some c =>
      obtain ⟨hin, hte⟩ := hfi
      exact ⟨some c, rfl, hin, by simp [hte]⟩
    | none =>
      obtain ⟨fd, hf, hr⟩ := ih
      refine ⟨fd, hf, ?_⟩
      cases fd with
      | some c =>
        obtain ⟨hin, ht⟩ := hr
        exact ⟨hin, by simp [-any_eq_true, ht]⟩
      | none => exact fun c hc => Bool.or_eq_false_iff.2 ⟨hfi c hc, hr c hc⟩

lemma closestAmong_finds (table name : String) : Finds names (resembles table name)
    (closestAmong (.text name) (.text table) (names.map text)) := by
  have hte : (text name).textFor "lower" = .ok name := rfl
  have ht : (names.map text).filterMap text? = names := by
    rw [filterMap_map]
    exact filterMap_some
  rw [closestAmong, hte, ok_bind, ht]
  exact firstFound_finds (.cons (firstLowered_finds _) (.cons (unprefixed_finds table name)
    (.cons (firstLowered_finds _) (.cons (firstLowered_finds _) (.cons ⟨_, rfl, closest?_isFound name⟩ .nil)))))

end

/-! ### Names that a table lists -/

/-- An entry of a schema whose columns all have names. -/
@[mk_iff]
structure NamedColumns (e : Value) : Prop where
  record : e.IsRecord
  list : ListAt e "columns"
  names : ∀ c ∈ docsOf e "columns", IsName (c.peek "column_name")

instance (e : Value) : Decidable (NamedColumns e) := decidable_of_iff' _ (namedColumns_iff e)

def entryNames (e : Value) : List String := (docsOf e "columns").map fun c => (c.peek "column_name").display

def isOf (table : String) (e : Value) : Bool := e.peek "table_name" == .text table

def isListed (entries : List Value) (table name : String) : Bool :=
  entries.any fun e => isOf table e && (entryNames e).contains name

def tableColumns (entries : List Value) (table : String) : List String :=
  (entries.find? (isOf table)).elim [] entryNames

section

variable {entries : List Value} {e : Value} {table name : String}

lemma NamedColumns.columnNames_eq (h : NamedColumns e) : columnNames e = .ok ((entryNames e).map text) := by
  have hg : (docsOf e "columns").mapM (·.get "column_name") =
      .ok ((docsOf e "columns").map (·.peek "column_name")) :=
    mapM_eq_map fun c hc => (h.names c hc).get
  rw [columnNames, itemsOf_of_listAt h.record h.list, ok_bind, hg, entryNames, map_map]
  congr 1
  refine map_congr_left fun c hc => ?_
  obtain ⟨s, hs, -⟩ := h.names c hc
  rw [Function.comp_apply, hs]
  rfl

lemma NamedColumns.name_of_mem (h : NamedColumns e) (hn : name ∈ entryNames e) : IsName (.text name) := by
  obtain ⟨c, hc, rfl⟩ := mem_map.1 hn
  obtain ⟨s, hs, hne⟩ := h.names c hc
  rw [hs]
  exact ⟨s, rfl, hne⟩

lemma any_texts (names : List String) : (names.map text).any (· == .text name) = names.contains name := by
  rw [any_map, contains_eq_any_beq]
  congr 1

lemma someEntryHas_eq (h : ∀ e ∈ entries, NamedColumns e) :
    someEntryHas (.text table) (.text name) (.list entries) = .ok (isListed entries table name) := by
  refine anyM_eq_any fun e he => ?_
  simp only [get_ok.2 ⟨(h e he).record, rfl⟩, (h e he).columnNames_eq, ok_bind, any_texts, isOf]
  cases e.peek "table_name" == .text table <;> rfl

lemma exists_of_mem_tableColumns (h : name ∈ tableColumns entries table) :
    ∃ e ∈ entries, isOf table e = true ∧ name ∈ entryNames e := by
  unfold tableColumns at h
  cases hf : entries.find? (isOf table) with
  | none => simp [hf] at h
  | some e =>
    rw [hf, Option.elim_some] at h
    exact ⟨e, mem_of_find?_eq_some hf, find?_some hf, h⟩

lemma isListed_of_mem_tableColumns (h : name ∈ tableColumns entries table) : isListed entries table name = true := by
  obtain ⟨e, he, hof, hin⟩ := exists_of_mem_tableColumns h
  exact any_eq_true.2 ⟨e, he, by rw [hof, contains_iff_mem.2 hin, Bool.true_and]⟩

lemma closestColumn_finds (h : ∀ e ∈ entries, NamedColumns e) : Finds (tableColumns entries table)
    (resembles table name) (closestColumn (.text name) (.text table) (.list entries)) := by
  have hen : tableEntry? (.text table) (.list entries) = .ok (entries.find? (isOf table)) :=
    tableEntry?_eq (fun e he => (h e he).record) _
  rw [closestColumn, hen, ok_bind, tableColumns]
  cases hf : entries.find? (isOf table) with
  | none => exact ⟨none, rfl, fun _ hc => absurd hc not_mem_nil⟩
  | some e =>
    simp only [(h e (mem_of_find?_eq_some hf)).columnNames_eq, ok_bind, Option.elim_some]
    cases hn : entryNames e with
    | nil => exact ⟨none, rfl, fun _ hc => absurd hc not_mem_nil⟩
    | cons c names => exact closestAmong_finds table name

/-- A name that its table lists stays. Another gives way to a column of the table that resembles it, if there is one. -/
lemma repaired?_finds (table name : String) (h : ∀ e ∈ entries, NamedColumns e) :
    (isListed entries table name = true → repaired? (.text table) (.text name) (.list entries) = .ok none) ∧
    (isListed entries table name = false → Finds (tableColumns entries table) (resembles table name)
      (repaired? (.text table) (.text name) (.list entries))) := by
  rw [repaired?, someEntryHas_eq h, ok_bind]
  refine ⟨fun hl => by rw [hl]; rfl, fun hl => ?_⟩
  obtain ⟨fd, hf, hisFound⟩ := closestColumn_finds h
  rw [hl, hf]
  cases fd with
  | none => exact ⟨none, rfl, hisFound⟩
  | some c =>
    obtain ⟨e, he, -, hin⟩ := exists_of_mem_tableColumns hisFound.1
    have ht := ((h e he).name_of_mem hin).truthy
    exact ⟨some c, by simp [ok_bind, ht], hisFound⟩

end

/-! ### Plans with new names -/

/-- A selection whose columns and conditions have got new names, and nothing else. -/
structure SelectionRelabelled (schema s s' : Value) : Prop extends SelectionRepaired schema s s' where
  filters : Forall₂ (fun f f' => Renamed schema ((f.at? "table").getD (s.peek "table")) f f')
    (docsOf s "filters") (docsOf s' "filters")

/-- A plan every column of which has got the name that the repair has for it, and nothing else. -/
structure Relabelled (schema plan plan' : Value) : Prop where
  kept : Kept ["selections", "join_edges", "global_filters", "group_by", "order_by"] plan plan'
  selections : Forall₂ (SelectionRelabelled schema) (docsOf plan "selections") (docsOf plan' "selections")
  edges : Forall₂ (EdgeRelabelled schema) (docsOf plan "join_edges") (docsOf plan' "join_edges")
  globals : Forall₂ (RenamedOwn schema) (docsOf plan "global_filters") (docsOf plan' "global_filters")
  group : (plan.peek "group_by").truthy = true → GroupRepaired schema (plan.peek "group_by") (plan'.peek "group_by")
  ungrouped : (plan.peek "group_by").truthy = false → plan'.peek "group_by" = plan.peek "group_by"
  orders : Forall₂ (RenamedOwn schema) (docsOf plan "order_by") (docsOf plan' "order_by")

section

variable {plan plan' : Value} {notes : List String}

lemma repairSelection_relabelled (hc : ListAt s "columns") (hfi : ListAt s "filters")
    (h : repairSelection schema s = .ok (s', notes)) : SelectionRelabelled schema s s' := by
  have hi := ((repairSelection_steps h).filters hfi).items
  exact ⟨repairSelection_ok hc h, hi.imp fun f f' hf => hf.elim fun _ hf => repairWithin_ok hf⟩

lemma repairColumns_relabelled (hl : PlanLists plan) (h : repairColumns schema plan = .ok (plan', notes)) :
    Relabelled schema plan plan' := by
  have steps := repairColumns_steps h
  refine ⟨steps.kept, ?_, ?_, ?_, ?_, steps.ungrouped, ?_⟩
  · have ha : ∀ s ∈ docsOf plan "selections", ListAt s "columns" ∧ ListAt s "filters" := fun s hs =>
      ⟨hl.columns s hs, hl.filters s hs⟩
    have hi := (forall₂_and_left _ _).2 ⟨ha, (steps.selections hl.selections).items⟩
    refine hi.imp fun s s' hs => ?_
    obtain ⟨⟨hc, hfi⟩, _, hs⟩ := hs
    exact repairSelection_relabelled hc hfi hs
  · exact (steps.edges hl.edges).items.imp fun e e' he => he.elim fun _ he => repairEdge_relabelled he
  · exact (steps.globals hl.globals).items.imp fun f f' hf => hf.elim fun _ hf => repairOwn_ok hf
  · intro ht
    obtain ⟨_, hg⟩ := steps.group ht
    exact (repairGroup_steps hl.keys hl.aggregates hl.having hg).repaired
  · exact (steps.orders hl.orders).items.imp fun o o' ho => ho.elim fun _ ho => repairOwn_ok ho

lemma resembles_of_contains (h : contains (lower name) (lower c) = true) :
    resembles table name c = true := by
  simp [resembles, resemblances, h]

/-- The repair of columns gives every column of a plan, wherever it stands, the name that it has for it, and leaves
all else alone. A name that its table lists stays; any other gives way to a column of the table that resembles it, and
stays only if there is none. A name in which that of a column occurs never stays, so the repair keeps neither an
expression over columns nor an alias made from the name of one. -/
theorem columns_relabelled {entries : List Value} (hlists : PlanLists plan) (hentries : ∀ e ∈ entries, NamedColumns e)
    (h : repairColumns (.list entries) plan = .ok (plan', notes)) :
    Relabelled (.list entries) plan plan' ∧ ∀ table name : String,
      (isListed entries table name = true → repaired? (.text table) (.text name) (.list entries) = .ok none) ∧
      (isListed entries table name = false → Finds (tableColumns entries table) (resembles table name)
        (repaired? (.text table) (.text name) (.list entries))) ∧
      (isListed entries table name = false → ∀ c ∈ tableColumns entries table,
        contains (lower name) (lower c) = true →
          ∃ new ≠ name, repaired? (.text table) (.text name) (.list entries) = .ok (some (.text new))) := by
  refine ⟨repairColumns_relabelled hlists h, fun table name => ?_⟩
  obtain ⟨hs, hf⟩ := repaired?_finds table name hentries
  refine ⟨hs, hf, fun hl c hc hco => ?_⟩
  obtain ⟨fd, hfo, hisFound⟩ := hf hl
  cases fd with
  | none =>
    have hn : resembles table name c = false := hisFound c hc
    rw [resembles_of_contains hco] at hn
    cases hn
  | some new =>
    refine ⟨new, ?_, hfo⟩
    rintro rfl
    exact absurd (isListed_of_mem_tableColumns hisFound.1) (by simp [hl])

end

/-- A sum over the orders of each region, as "total_amount", with the regions sorted by a column. -/
def sortedSums (summed sorted : String) : Value := .record [
  ("selections", .list [.record [("table", "Orders"), ("columns", .list [orderColumn "Region" []])]]),
  ("group_by", .record [("group_by_columns", .list [orderColumn "Region" []]),
    ("aggregates", .list [orderColumn summed [("function", "SUM"), ("alias", "total_amount")]])]),
  ("order_by", .list [orderColumn sorted [("direction", "DESC")]])]

lemma sortedSums_lists : PlanLists (sortedSums "Amount * 0.9" "total_amount") := by decide +kernel

lemma orderSchema_named {entries : List Value} (h : orderSchema = .list entries) : ∀ e ∈ entries, NamedColumns e := by
  cases h
  decide +kernel

/-- An expression over a column of the table gives way to a column. -/
theorem columns_relabelled_discount :
    Relabelled orderSchema (sortedSums "Amount * 0.9" "total_amount") (sortedSums "Amount" "Amount") ∧
      ∃ new ≠ "Amount * 0.9", repaired? (.text "Orders") (.text "Amount * 0.9") orderSchema = .ok (some (.text new)) := by
  obtain ⟨hr, hn⟩ := columns_relabelled sortedSums_lists (orderSchema_named rfl) rfl
  obtain ⟨-, -, hc⟩ := hn "Orders" "Amount * 0.9"
  exact ⟨hr, hc rfl "Amount" (by decide) rfl⟩

/-- The discount is lost, and so is the order by the sum. -/
theorem expressions_relabelled : looksLikeExpression "Amount * 0.9" = true ∧
    text "total_amount" ∈ aliasNames ((sortedSums "Amount * 0.9" "total_amount").peek "group_by") ∧
    repairColumns orderSchema (sortedSums "Amount * 0.9" "total_amount") = .ok (sortedSums "Amount" "Amount",
      ["Aggregate: Orders.Amount * 0.9 → Orders.Amount", "ORDER BY: Orders.total_amount → Orders.Amount"]) := by
  refine ⟨rfl, mem_singleton.2 rfl, rfl⟩

end QueryDesk.Plan
