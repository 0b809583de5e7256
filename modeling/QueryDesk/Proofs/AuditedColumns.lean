import QueryDesk.Proofs.Auditing

/-!
The columns of a plan that has passed its audit. The audit looks up the columns of the selections with their
filters, of the joins, of the conditions on rows and on groups, and of the keys of the group, and only a plan that
is given up is not looked at. So when it is passed, each of these is a column of its table in the schema.
-/

namespace QueryDesk

open Attempt List Value

variable {side : String} {schema : Value}

namespace Plan

open Value Sql

variable {entries : List Value} {table column e plan : Value}

/-! ### Columns of a schema -/

def ListsColumn (entries : List Value) (table column : Value) : Prop :=
  ∃ e ∈ entries, (e.peek "table_name" == table) = true ∧
    ∃ c ∈ docsOf e "columns", (c.peek "column_name" == column) = true

instance (entries : List Value) (table column : Value) : Decidable (ListsColumn entries table column) :=
  List.decidableBEx _ _

lemma ListsColumn.mono (h : ListsColumn entries table column)
    (hs : ∀ e ∈ entries, e ∈ es') : ListsColumn es' table column := by
  obtain ⟨e, he, hc⟩ := h
  exact ⟨e, hs e he, hc⟩

lemma entryIn?_eq_some : ∀ {entries : List Value}, entryIn? table entries = .ok (some e) →
    e ∈ entries ∧ (e.peek "table_name" == table) = true
  | [], h => by cases h
  | x :: entries, h => by
    simp only [entryIn?, exists_get, bind_ok] at h
    obtain ⟨-, h⟩ := h
    split at h
    case isTrue hs =>
      cases h
      exact ⟨mem_cons_self, hs⟩
    case isFalse =>
      obtain ⟨hin, hs⟩ := entryIn?_eq_some h
      exact ⟨mem_cons_of_mem x hin, hs⟩

lemma columnNames_mem {ns : List Value} (h : columnNames e = .ok ns) (hin : name ∈ ns) :
    ∃ c ∈ docsOf e "columns", c.peek "column_name" = name := by
  simp only [columnNames, bind_ok, mapM_ok] at h
  obtain ⟨docs, hd, hn⟩ := h
  obtain ⟨c, hc, hna⟩ := hn.exists_left hin
  rw [docsOf_eq hd]
  exact ⟨c, hc, (get_ok.1 hna).2⟩

lemma listsColumn_of_exists
    (h : columnExists table column (.list entries) = .ok true) : ListsColumn entries table column := by
  simp only [columnExists, tableEntry?, bind_ok] at h
  obtain ⟨fd, ⟨_, hi, hf⟩, h⟩ := h
  cases hi
  cases fd with
  | none => cases h
  | some e =>
    simp only [bind_ok, pure_ok, any_eq_true] at h
    obtain ⟨ns, hn, name, hna, hs⟩ := h
    obtain ⟨he, ht⟩ := entryIn?_eq_some hf
    obtain ⟨c, hc, rfl⟩ := columnNames_mem hn hna
    exact ⟨e, he, ht, c, hc, hs⟩

lemma narrow_eq_filter (h : narrow plan schema = .ok part) :
    ∃ ts entries, planTables plan = .ok ts ∧ schema.items = .ok entries ∧
      part = entries.filter fun e => isReached ts (e.peek "table_name") := by
  simp only [narrow, bind_ok] at h
  obtain ⟨ts, ht, entries, he, h⟩ := h
  refine ⟨ts, entries, ht, he, filter_of_filterM h fun e _ b hb => ?_⟩
  simp only [bind_ok, pure_ok] at hb
  obtain ⟨name, hn, _, hh, rfl⟩ := hb
  rw [← hashable_ok hh, (get_ok.1 hn).2]

/-! ### Checks that find nothing -/

/-- Every column that a plan names where the audit looks is a column of its table. A column of a selection that
names no table is one of the table that is selected. -/
structure Grounded (entries : List Value) (plan : Value) : Prop where
  columns : ∀ s ∈ docsOf plan "selections", ∀ c ∈ docsOf s "columns",
    ListsColumn entries ((c.at? "table").getD (s.peek "table")) (c.peek "column")
  filters : ∀ s ∈ docsOf plan "selections", ∀ f ∈ docsOf s "filters",
    ListsColumn entries (f.peek "table") (f.peek "column")
  edges : ∀ e ∈ docsOf plan "join_edges", ListsColumn entries (e.peek "from_table") (e.peek "from_column") ∧
    ListsColumn entries (e.peek "to_table") (e.peek "to_column")
  globals : ∀ f ∈ docsOf plan "global_filters", ListsColumn entries (f.peek "table") (f.peek "column")
  keys : ∀ k ∈ docsOf (plan.peek "group_by") "group_by_columns",
    ListsColumn entries (k.peek "table") (k.peek "column")
  having : ∀ f ∈ docsOf (plan.peek "group_by") "having_filters",
    ListsColumn entries (f.peek "table") (f.peek "column")

section

variable {entries : List Value} {plan : Value}

def Gathers (R : Value → List String → Prop) (docs : List Value) (issues : List String) : Prop :=
  ∃ parts, Forall₂ R docs parts ∧ parts.flatten = issues

section

variable {docs : List Value} {issues : List String}

lemma gathers_of_mapM {f : Value → Attempt (List String)} (h : docs.mapM f = .ok parts)
    (hR : ∀ d part, f d = .ok part → R d part) : Gathers R docs parts.flatten :=
  ⟨parts, (mapM_ok.1 h).imp hR, rfl⟩

lemma Gathers.none (h : Gathers R docs []) : ∀ d ∈ docs, R d [] := by
  intro d hd
  obtain ⟨parts, hp, hn⟩ := h
  obtain ⟨part, hpa, hf⟩ := hp.exists_right hd
  rwa [flatten_eq_nil_iff.1 hn part hpa] at hf

end

/-- What is said of a table that is missing, in the words of its kind. -/
def Misses (kind part : String) (schema table : Value) (issues : List String) : Prop :=
  tableExists table schema = .ok false ∧ issues = [absentTable kind part table]

/-- What is said of a column, in the words of its kind: nothing if its table has it. -/
def Tells (kind hint : String) (schema table column : Value) (issues : List String) : Prop :=
  columnExists table column schema = .ok true ∧ issues = [] ∨
    columnExists table column schema = .ok false ∧ issues = [absentColumn kind hint table column]

/-- What is said of a condition: its column is looked up if its table is there. -/
def FilterTold (label hint : String) (schema f : Value) (issues : List String) : Prop :=
  Misses s!"{label} table" "this filter" schema (f.peek "table") issues ∨
    tableExists (f.peek "table") schema = .ok true ∧
      Tells s!"{label} column" hint schema (f.peek "table") (f.peek "column") issues

def SelectionTold (schema s : Value) (issues : List String) : Prop :=
  Misses "Table" "this table from the plan" schema (s.peek "table") issues ∨
    Gathers (fun c => Tells "Column" spellingHint schema ((c.at? "table").getD (s.peek "table")) (c.peek "column"))
      (docsOf s "columns") issues

def EdgeTold (schema e : Value) (issues : List String) : Prop :=
  Misses "JOIN from_table" "this join" schema (e.peek "from_table") issues ∨
  Misses "JOIN to_table" "this join" schema (e.peek "to_table") issues ∨ ∃ first second, first ++ second = issues ∧
    Tells "JOIN column" keyHint schema (e.peek "from_table") (e.peek "from_column") first ∧
    Tells "JOIN column" keyHint schema (e.peek "to_table") (e.peek "to_column") second

section

variable {schema table column : Value} {issues : List String}

lemma Misses.ne_nil {kind : String} (h : Misses kind part schema table []) : False := by
  cases h.2

lemma Tells.lists {kind : String} (h : Tells kind hint (.list entries) table column []) :
    ListsColumn entries table column := by
  obtain ⟨hf, -⟩ | ⟨-, h⟩ := h
  · exact listsColumn_of_exists hf
  · cases h

lemma FilterTold.lists {label : String} (h : FilterTold label hint (.list entries) f []) :
    ListsColumn entries (f.peek "table") (f.peek "column") := (h.resolve_left Misses.ne_nil).2.lists

lemma EdgeTold.lists (h : EdgeTold (.list entries) e []) :
    ListsColumn entries (e.peek "from_table") (e.peek "from_column") ∧
      ListsColumn entries (e.peek "to_table") (e.peek "to_column") := by
  obtain ⟨first, second, hn, hf, hs⟩ := (h.resolve_left Misses.ne_nil).resolve_left Misses.ne_nil
  obtain ⟨rfl, rfl⟩ := append_eq_nil_iff.1 hn
  exact ⟨hf.lists, hs.lists⟩

lemma columnIssue_tells {kind : String} (h : columnIssue kind hint schema table column = .ok issues) :
    Tells kind hint schema table column issues := by
  obtain ⟨fd, hf, h⟩ := bind_ok.1 h
  cases fd with
  | true => exact .inl ⟨hf, (pure_ok.1 h).symm⟩
  | false => exact .inr ⟨hf, (pure_ok.1 h).symm⟩

lemma columnIssues_tells (h : columnIssues schema table c = .ok issues) :
    Tells "Column" spellingHint schema ((c.at? "table").getD table) (c.peek "column") issues := by
  simp only [columnIssues, exists_get, bind_ok] at h
  obtain ⟨hr, owner, ho, h⟩ := h
  rw [hr.getD] at ho
  cases ho
  exact columnIssue_tells h

lemma filterIssue_told {label : String} (h : filterIssue label hint schema f = .ok issues) :
    FilterTold label hint schema f issues := by
  simp only [filterIssue, exists_get, bind_ok] at h
  obtain ⟨-, -, kn, hk, h⟩ := h
  cases kn with
  | false => exact .inl ⟨hk, (pure_ok.1 h).symm⟩
  | true => exact .inr ⟨hk, columnIssue_tells h⟩

lemma selectionIssues_told (h : selectionIssues plan schema = .ok issues) :
    Gathers (SelectionTold schema) (docsOf plan "selections") issues := by
  simp only [selectionIssues, bind_ok, pure_ok] at h
  obtain ⟨docs, hd, parts, hpa, rfl⟩ := h
  rw [docsOf_eq hd]
  refine gathers_of_mapM hpa fun s part hp => ?_
  simp only [exists_get, bind_ok] at hp
  obtain ⟨-, kn, hk, hp⟩ := hp
  cases kn with
  | false => exact .inl ⟨hk, (pure_ok.1 hp).symm⟩
  | true =>
    simp only [if_true, bind_ok, pure_ok] at hp
    obtain ⟨cols, hc, fd, hf, rfl⟩ := hp
    rw [SelectionTold, docsOf_eq hc]
    exact .inr (gathers_of_mapM hf fun c _ => columnIssues_tells)

lemma joinIssues_told (h : joinIssues plan schema = .ok issues) :
    Gathers (EdgeTold schema) (docsOf plan "join_edges") issues := by
  simp only [joinIssues, bind_ok, pure_ok] at h
  obtain ⟨docs, hd, parts, hpa, rfl⟩ := h
  rw [docsOf_eq hd]
  refine gathers_of_mapM hpa fun e part hp => ?_
  simp only [exists_get, bind_ok] at hp
  obtain ⟨-, -, -, -, kn, hk, hp⟩ := hp
  cases kn with
  | false => exact .inl ⟨hk, (pure_ok.1 hp).symm⟩
  | true =>
    obtain ⟨kn, hk, hp⟩ := bind_ok.1 hp
    cases kn with
    | false => exact .inr (.inl ⟨hk, (pure_ok.1 hp).symm⟩)
    | true =>
      simp only [Bool.not_true, Bool.false_eq_true, if_false, bind_ok, pure_ok] at hp
      obtain ⟨first, hf, second, hs, rfl⟩ := hp
      exact .inr (.inr ⟨first, second, rfl, columnIssue_tells hf, columnIssue_tells hs⟩)

lemma filterIssues_told (h : filterIssues plan schema = .ok issues) : ∃ own shared having,
    own ++ shared ++ having = issues ∧
    Gathers (fun s => Gathers (FilterTold "Filter" "" schema) (docsOf s "filters")) (docsOf plan "selections") own ∧
    Gathers (FilterTold "Global filter" "" schema) (docsOf plan "global_filters") shared ∧
    Gathers (FilterTold "HAVING filter" havingHint schema) (docsOf (plan.peek "group_by") "having_filters") having := by
  simp only [filterIssues, exists_get, bind_ok] at h
  obtain ⟨docs, hd, own, ho, globals, hgl, shared, hsh, -, h⟩ := h
  have hs : Gathers (fun s => Gathers (FilterTold "Filter" "" schema) (docsOf s "filters")) (docsOf plan "selections")
      own.flatten.flatten := by
    rw [docsOf_eq hd, flatten_flatten]
    refine ⟨own.map flatten, forall₂_map_right_iff.2 ((mapM_ok.1 ho).imp fun s parts hp => ?_), rfl⟩
    obtain ⟨filters, hf, hp⟩ := bind_ok.1 hp
    rw [docsOf_eq hf]
    exact gathers_of_mapM hp fun _ _ => filterIssue_told
  rw [docsOf_eq hgl]
  have hg := gathers_of_mapM hsh fun _ _ => filterIssue_told
  split at h
  case isTrue =>
    simp only [bind_ok, pure_ok] at h
    obtain ⟨filters, hf, having, hh, rfl⟩ := h
    rw [docsOf_eq hf]
    exact ⟨_, _, _, by simp only [flatten_append], hs, hg, gathers_of_mapM hh fun _ _ => filterIssue_told⟩
  case isFalse hfa =>
    have hn : docsOf (plan.peek "group_by") "having_filters" = [] := docsOf_of_falsy (by simpa using hfa)
    rw [hn, ← pure_ok.1 h]
    exact ⟨_, _, [], by simp only [flatten_append, flatten_nil], hs, hg, [], .nil, rfl⟩

lemma groupIssues_told (h : groupIssues plan schema = .ok issues) :
    Gathers (fun k => Tells "GROUP BY column" "" schema (k.peek "table") (k.peek "column"))
      (docsOf (plan.peek "group_by") "group_by_columns") issues := by
  simp only [groupIssues, exists_get, bind_ok] at h
  obtain ⟨-, h⟩ := h
  by_cases hg : (plan.peek "group_by").truthy = true
  · rw [if_pos hg] at h
    simp only [bind_ok, pure_ok] at h
    obtain ⟨docs, hd, parts, hpa, rfl⟩ := h
    rw [docsOf_eq hd]
    refine gathers_of_mapM hpa fun k part hp => ?_
    simp only [exists_get, bind_ok] at hp
    exact columnIssue_tells hp.2.2
  · rw [if_neg hg] at h
    cases h
    rw [docsOf_of_falsy (by simpa using hg)]
    exact ⟨[], .nil, rfl⟩

end

lemma check_grounded (h : check walk plan (.list entries) = .ok ([], [])) :
    Grounded entries plan := by
  simp only [check, bind_ok, pure_ok, Prod.mk.injEq] at h
  obtain ⟨issues, hi, hcr, ho⟩ := h
  have hn : issues = [] := by
    rw [filter_eq_nil_iff] at hcr ho
    refine eq_nil_iff_forall_not_mem.2 fun issue his => ho issue his ?_
    simpa using hcr issue his
  rw [hn] at hi
  simp only [allIssues, bind_ok, pure_ok, append_eq_nil_iff] at hi
  obtain ⟨_, hse, _, hj, _, hfi, _, hg, _, -, _, -, hno⟩ := hi
  obtain ⟨⟨⟨⟨rfl, rfl⟩, rfl⟩, rfl⟩, -⟩ := hno.1
  obtain ⟨own, shared, having, hn, how, hgl, hh⟩ := filterIssues_told hfi
  simp only [append_eq_nil_iff] at hn
  obtain ⟨⟨rfl, rfl⟩, rfl⟩ := hn
  exact {
    columns := fun s hs c hc =>
      ((((selectionIssues_told hse).none s hs).resolve_left Misses.ne_nil).none c hc).lists
    filters := fun s hs f hf => ((how.none s hs).none f hf).lists
    edges := fun e he => ((joinIssues_told hj).none e he).lists
    globals := fun f hf => (hgl.none f hf).lists
    keys := fun k hk => ((groupIssues_told hg).none k hk).lists
    having := fun f hf => (hh.none f hf).lists }

end

lemma Grounded.mono (h : Grounded entries plan) (hsu : ∀ e ∈ entries, e ∈ entries') : Grounded entries' plan where
  columns s hs c hc := (h.columns s hs c hc).mono hsu
  filters s hs f hf := (h.filters s hs f hf).mono hsu
  edges e he := ⟨(h.edges e he).1.mono hsu, (h.edges e he).2.mono hsu⟩
  globals f hf := (h.globals f hf).mono hsu
  keys k hk := (h.keys k hk).mono hsu
  having f hf := (h.having f hf).mono hsu

end Plan

namespace Workflow

open Desk Value Sql

variable {state after : Value} {s : Surroundings}

def auditSchema (state : Value) : Value :=
  (state.peek "filtered_schema").orElse ((state.at? "schema").getD (.list []))

/-- The plan of a state is there, and it is not one that is given up. -/
structure Pursued (state : Value) : Prop where
  plan : (state.peek "planner_output").truthy = true
  decision : ((Plan.documentOf (state.peek "planner_output")).peek "decision" == .text "terminate") = false

/-- What the audit finds about a plan that is pursued is what it finds by repairing and checking it. -/
lemma Pursued.examined (h : Pursued state)
    (hf : examined? pins state = .ok fd) : state.IsRecord ∧ ∃ audited, fd = some audited ∧
      auditPlan (arranged pins) (Plan.documentOf (state.peek "planner_output")) (auditSchema state) = .ok audited := by
  simp only [examined?, exists_get, bind_ok] at hf
  obtain ⟨hr, hf⟩ := hf
  rw [h.plan, Bool.not_true, if_neg (by simp)] at hf
  simp only [exists_get, bind_ok] at hf
  obtain ⟨-, hf⟩ := hf
  have hg := h.decision
  change (_ == ("terminate" : Value)) = false at hg
  rw [hg, if_neg (by simp)] at hf
  simp only [exists_get, bind_ok, pure_ok] at hf
  obtain ⟨-, _, hs, audited, ha, rfl⟩ := hf
  rw [hr.getD] at hs
  cases hs
  exact ⟨hr, audited, rfl, ha⟩

lemma Audit.found (ha : Audit s state after) : ∃ found, examined? s.pins state = .ok found := by
  cases ha with
  | skipped hf => exact ⟨_, hf⟩
  | examined hf => exact ⟨_, hf⟩

/-- If a plan that is pursued passes its audit, then in the plan that the audit leaves every column of a selection,
of its filters, of a join, of a condition on rows or on groups and every key of the group is a column of its table
in the schema. -/
theorem audited_columns_exist {s : Surroundings} {t t' : Traffic} {state after : Value} (hpursued : Pursued state)
    (h : Gives (planAudit state) s t after t') (hpassed : after.at? "audit_passed" = some (.bool true)) :
    ∃ entries, (auditSchema state).items = .ok entries ∧ Plan.Grounded entries (after.peek "planner_output") := by
  have ha := planAudit_ends h
  obtain ⟨fd, hf⟩ := ha.found
  obtain ⟨hr, aud, rfl, hau⟩ := hpursued.examined hf
  obtain ⟨hp, hi⟩ := ha.records hr hf
  rw [hi, Option.some.injEq, bool.injEq, List.isEmpty_iff, List.append_eq_nil_iff] at hpassed
  rw [peek_eq_at?, hp, Option.getD_some]
  simp only [auditPlan, bind_ok, pure_ok, Prod.exists] at hau
  obtain ⟨ts, ht, plan, repairs, -, critical, others, hc, rfl⟩ := hau
  obtain ⟨rfl, rfl⟩ := hpassed
  obtain ⟨_, entries, -, hen, rfl⟩ := Plan.narrow_eq_filter ht
  exact ⟨entries, hen, (Plan.check_grounded hc).mono fun e he => (List.mem_filter.1 he).1⟩

/-! A table of orders, and plans that name its columns in the wrong case or name one that it does not have. -/

def ordersEntry : Value := .record [("table_name", "orders"), ("columns", .list [
  .record [("column_name", "id")], .record [("column_name", "status")], .record [("column_name", "parent")]])]

def orderReference (column : String) (more : Fields := []) : Value :=
  .record (("table", "orders") :: ("column", .text column) :: more)

def ordersPlan (part : String) (content : Value) : Value := .record [("decision", "proceed"),
  ("selections", .list [.record [("table", "orders"),
    ("columns", .list [orderReference "id" [("role", "projection")]])]]), (part, content)]

def parentsPlan : Value := .record [("decision", "proceed"),
  ("selections", .list [.record [("table", "orders"), ("columns", .list [.record [("column", "Status")]]),
    ("filters", .list [orderReference "STATUS"])]]),
  ("join_edges", .list [.record [("from_table", "orders"), ("from_column", "Parent"), ("to_table", "orders"),
    ("to_column", "ID")]]),
  ("global_filters", .list [orderReference "Id"]),
  ("group_by", .record [("group_by_columns", .list [orderReference "Status"]),
    ("having_filters", .list [orderReference "Status"])])]

def ordersState (plan : Value) : Value := .record [("planner_output", plan), ("schema", .list [ordersEntry])]

theorem audited_columns_exist_orders : ∃ after t', Gives (planAudit (ordersState parentsPlan)) {} {} after t' ∧
    after.at? "audit_passed" = some (.bool true) ∧
    ∃ entries, (auditSchema (ordersState parentsPlan)).items = .ok entries ∧
      Plan.Grounded entries (after.peek "planner_output") := by
  have h : Gives (planAudit (ordersState parentsPlan)) {} {} _ _ := rfl
  exact ⟨_, _, h, rfl, audited_columns_exist ⟨rfl, rfl⟩ h rfl⟩

def orderOnUnknown : Value := orderReference "z" [("direction", "ASC")]

def sumOfUnknown : Value := orderReference "z" [("function", "SUM"), ("alias", "total")]

/-- The orders have no column of this name, but the audit is passed: by a plan that orders its rows by the column,
and by one that aggregates it. -/
theorem unknown_columns_pass : ¬ Plan.ListsColumn [ordersEntry] (.text "orders") (.text "z") ∧
    (∃ after t', Gives (planAudit (ordersState (ordersPlan "order_by" (.list [orderOnUnknown])))) {} {} after t' ∧
      after.at? "audit_passed" = some (.bool true) ∧
      orderOnUnknown ∈ docsOf (after.peek "planner_output") "order_by") ∧
    ∃ after t', Gives (planAudit (ordersState (ordersPlan "group_by" (.record [
        ("group_by_columns", .list [orderReference "id"]), ("aggregates", .list [sumOfUnknown])])))) {} {} after t' ∧
      after.at? "audit_passed" = some (.bool true) ∧
      sumOfUnknown ∈ docsOf ((after.peek "planner_output").peek "group_by") "aggregates" := by
  refine ⟨by decide +kernel, ?_, ?_⟩
  · exact ⟨_, _, rfl, rfl, mem_cons_self⟩
  · exact ⟨_, _, rfl, rfl, mem_cons_self⟩

end Workflow

end QueryDesk
