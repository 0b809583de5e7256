import QueryDesk.Proofs.JoinConditions

/-!
The conditions on rows of a statement. Every filter of a selection and every shared filter becomes a condition of its
own, in the order of the plan, and behind them stands at most one condition on the time. Of the filters with a subquery
only those become a condition that ask for membership: a filter that asks whether the subquery has any rows is passed
over, and nothing else in the statement stands in for it.
-/

namespace QueryDesk.Sql

open Attempt Desk List

/-! ### What a plan asks of its rows -/

def tableFilters (plan : Value) : List Value := (docsOf plan "selections").flatMap fun s => docsOf s "filters"

def globalFilters (plan : Value) : List Value := docsOf plan "global_filters"

def subqueryFilters (plan : Value) : List Value := docsOf plan "subquery_filters"

/-- Whether a filter with a subquery asks for membership in it, or for absence from it. -/
def asksMembership (doc : Value) : Bool := ["in", "not_in"].any fun op => (doc.peek "op").text? == some op

/-- The text is the condition of the filter that a document describes. -/
def Filters (context doc : Value) (text : String) : Prop :=
  conditionText (doc.peek "table") (doc.peek "column") (doc.peek "op") (doc.peek "value") .null context = .ok text

/-- The query inside a filter with a subquery, under the conditions given. -/
def subqueryText (doc : Value) (inner : List String) : String :=
  "SELECT " ++ (doc.peek "subquery_column").display ++ " FROM " ++ (doc.peek "subquery_table").display ++
    (if inner.isEmpty then "" else " WHERE " ++ Text.join " AND " inner)

/-- The condition of a filter with a subquery that asks for membership or absence. -/
def nestedText (doc : Value) (inner : List String) : String :=
  qualified (doc.peek "outer_table") (doc.peek "outer_column") ++
    (if (doc.peek "op").text? = some "in" then " IN (" else " NOT IN (") ++ subqueryText doc inner ++ ")"

/-- The text is the condition of a filter with a subquery; inside, each filter of the subquery has its condition. -/
def Nests (context doc : Value) (text : String) : Prop :=
  ∃ inner, Forall₂ (Filters context) (docsOf doc "subquery_filters") inner ∧ text = nestedText doc inner

/-! ### The calls that add conditions -/

def whereCall (text : String) : Value := .list ["where", .list [.text text], .record []]

def isWhere : Value → Bool
  | .list (.text name :: _) => name == "where"
  | _ => false

/-- Among the calls that made a statement those that add a condition on rows. -/
def whereCalls : Value → List Value
  | .statement calls => calls.filter isWhere
  | _ => []

lemma whereCalls_statement (clauses : List Clause) :
    whereCalls (statement clauses) = (filtersIn clauses).map Clause.call := by
  rw [statement, whereCalls, filtersIn, filter_map]
  congr 2
  funext c
  cases c <;> rfl

/-! ### One condition for each filter -/

section

variable {plan state context doc : Value} {s : Surroundings} {t t' : Traffic} {p : Parts}

lemma filterCondition_filters (h : filterCondition .null context doc = .ok c) :
    Filters context doc c.text := by
  simp only [filterCondition, Filter.read, Filter.condition, bind_ok, pure_ok, Value.get_ok] at h
  obtain ⟨f, ⟨tb, ⟨-, rfl⟩, col, ⟨-, rfl⟩, op, ⟨-, rfl⟩, val, ⟨-, rfl⟩, rfl⟩, h⟩ := h
  rw [Filters, conditionText, h]
  rfl

lemma filterConditions_filters
    (h : docs.mapM (filterCondition .null context) = .ok cs) :
    Forall₂ (Filters context) docs (cs.map Condition.text) := by
  rw [forall₂_map_right_iff]
  exact (mapM_ok.1 h).imp fun _ _ => filterCondition_filters

/-- A filter with a subquery gives its condition if it asks for membership, and nothing otherwise. -/
lemma subqueryCondition?_cases (h : subqueryCondition? context doc = .ok c?) :
    (asksMembership doc = true ∧ ∃ c, c? = some c ∧ Nests context doc c.text) ∨
      asksMembership doc = false ∧ c? = none := by
  simp only [subqueryCondition?, bind_ok, Value.get_ok] at h
  obtain ⟨_, ⟨-, rfl⟩, _, ⟨-, rfl⟩, op, ⟨-, hop⟩, _, ⟨-, rfl⟩, _, ⟨-, rfl⟩, docs, hd, cs, hcs, h⟩ := h
  have hi := filterConditions_filters hcs
  rw [← docsOf_eq hd] at hi
  split at h
  case h_1 heq =>
    cases h
    refine .inl ⟨by simp [asksMembership, hop, heq], _, rfl, _, hi, ?_⟩
    rw [nestedText, hop, heq, subqueryText, isEmpty_map]
    rfl
  case h_2 heq =>
    cases h
    refine .inl ⟨by simp [asksMembership, hop, heq], _, rfl, _, hi, ?_⟩
    rw [nestedText, hop, heq, subqueryText, isEmpty_map]
    rfl
  case h_3 hin hn =>
    cases h
    refine .inr ⟨?_, rfl⟩
    simpa [asksMembership, hop] using ⟨hin, hn⟩

/-- The filters that ask for membership are paired with their conditions, the others leave no trace. -/
lemma subqueryConditions_nests
    (h : Forall₂ (fun doc c? => subqueryCondition? context doc = .ok c?) docs cs) :
    Forall₂ (Nests context) (docs.filter asksMembership) ((cs.filterMap id).map Condition.text) := by
  induction h with
  | nil => exact .nil
  | cons hc _ ih =>
    rcases subqueryCondition?_cases hc with ⟨ha, c, rfl, hn⟩ | ⟨ha, rfl⟩
    · rw [filter_cons_of_pos ha]
      exact .cons hn ih
    · rw [filter_cons_of_neg (by simp [ha])]
      exact ih

lemma Parts.Of.conditions_filters (hp : p.Of plan state context s t t') : ∃ own shared nested,
    Forall₂ (Filters context) (tableFilters plan) own ∧ Forall₂ (Filters context) (globalFilters plan) shared ∧
      Forall₂ (Nests context) ((subqueryFilters plan).filter asksMembership) nested ∧
      p.conditions.map Condition.text = own ++ shared ++ nested := by
  obtain ⟨globals, subs, hg, hsu, hr⟩ := hp.conditions
  simp only [rowConditions, bind_ok, pure_ok] at hr
  obtain ⟨own, ho, globalDocs, hglobalDocs, shared, hs, subDocs, hsubDocs, nested, hn, hc⟩ := hr
  have hse : docsOf plan "selections" = p.docs := docsOf_eq hp.selections
  have hglobalDocs' : globalFilters plan = globalDocs :=
    docsOf_eq (by rw [itemsOf, hg, ok_bind, hglobalDocs])
  have hsubDocs' : subqueryFilters plan = subDocs := docsOf_eq (by rw [itemsOf, hsu, ok_bind, hsubDocs])
  refine ⟨(own.map (·.map Condition.text)).flatten, shared.map Condition.text, (nested.filterMap id).map Condition.text,
    ?_, ?_, ?_, ?_⟩
  · have hr : Forall₂ (Forall₂ (Filters context)) (p.docs.map fun s => docsOf s "filters")
        (own.map (·.map Condition.text)) := by
      rw [forall₂_map_left_iff, forall₂_map_right_iff]
      refine (mapM_ok.1 ho).imp fun doc row hro => ?_
      obtain ⟨docs, hd, hro⟩ := bind_ok.1 hro
      rw [docsOf_eq hd]
      exact filterConditions_filters hro
    rw [tableFilters, hse, flatMap_def]
    exact rel_flatten hr
  · rw [hglobalDocs']
    exact filterConditions_filters hs
  · rw [hsubDocs']
    exact subqueryConditions_nests (mapM_ok.1 hn)
  · rw [← hc, map_append, map_append, map_flatten]

lemma Parts.Of.time_condition (hp : p.Of plan state context s t t') : ∃ time : Option String,
    (∀ text ∈ time, ∃ window, state.getD "time_filter" allTime = .ok window ∧
      timeCondition window p.docs context = .ok (some text)) ∧ p.time.map Clause.call = time.toList.map whereCall := by
  have ht := hp.time
  simp only [timeClause, bind_ok] at ht
  obtain ⟨window, hw, ht⟩ := ht
  split at ht
  case isTrue =>
    rw [← pure_ok.1 ht]
    exact ⟨none, by simp, rfl⟩
  case isFalse =>
    obtain ⟨condition?, hco, ht⟩ := bind_ok.1 ht
    have hc : p.time.map Clause.call = (condition?.map Condition.text).toList.map whereCall := by
      split at ht
      all_goals
        rw [← pure_ok.1 ht]
        rfl
    refine ⟨condition?.map Condition.text, fun text hte => ⟨window, hw, ?_⟩, hc⟩
    rw [timeCondition, hco, ← Option.mem_def.1 hte]
    rfl

end

/-! ### The statement of a plan -/

/-- The conditions that a statement has for a plan: the filters of the selections, the shared ones, those with a
subquery, and the time window. -/
structure Filtering (plan state context statement : Value) (own shared nested : List String) (time : Option String) :
    Prop where
  ofSelections : Forall₂ (Filters context) (tableFilters plan) own
  ofPlan : Forall₂ (Filters context) (globalFilters plan) shared
  ofSubqueries : Forall₂ (Nests context) ((subqueryFilters plan).filter asksMembership) nested
  ofWindow : ∀ text ∈ time, ∃ window, state.getD "time_filter" allTime = .ok window ∧
    timeCondition window (docsOf plan "selections") context = .ok (some text)
  calls : whereCalls statement = (own ++ shared ++ nested ++ time.toList).map whereCall
  /-- No filter is lost exactly if all those with a subquery ask for membership. -/
  complete : (whereCalls statement).length = (tableFilters plan).length + (globalFilters plan).length +
      (subqueryFilters plan).length + time.toList.length ↔ ∀ doc ∈ subqueryFilters plan, asksMembership doc = true

/-- A statement has the conditions of the plan's filters, and behind them what its time clause holds. -/
lemma filtering_of_time {p : Parts}
    (hp : p.Of plan state context s t t') (ht : ∀ text ∈ time, ∃ window,
      state.getD "time_filter" allTime = .ok window ∧ timeCondition window p.docs context = .ok (some text))
    (hc : p.time.map Clause.call = time.toList.map whereCall) :
    ∃ own shared nested, Filtering plan state context (statement p.clauses) own shared nested time := by
  obtain ⟨own, shared, nested, ho, hs, hn, hco⟩ := hp.conditions_filters
  have hw : whereCalls (statement p.clauses) = (own ++ shared ++ nested ++ time.toList).map whereCall := by
    rw [whereCalls_statement, hp.filtersIn_clauses, map_append, hc, map_append, ← hco, map_map, map_map]
    rfl
  refine ⟨own, shared, nested, ho, hs, hn, ?_, hw, ?_⟩
  · rw [docsOf_eq hp.selections]
    exact ht
  · have hsi := hn.length_eq
    rw [hw, length_map, length_append, length_append, length_append, ← ho.length_eq,
      ← hs.length_eq, ← hsi, ← length_filter_eq_length_iff]
    omega

/-- The conditions on rows of a statement are those of the plan's filters, one for each that asks for membership if it
has a subquery, and the time window. -/
theorem where_calls_of_filters {plan state context v : Value} {s : Surroundings} {t t' : Traffic}
    (h : Gives (build plan state context) s t v t') :
    ∃ own shared nested time, Filtering plan state context v own shared nested time := by
  obtain ⟨p, hp, rfl⟩ := build_ok h
  obtain ⟨time, ht, htimeCalls⟩ := hp.time_condition
  obtain ⟨own, shared, nested, hf⟩ := filtering_of_time hp ht htimeCalls
  exact ⟨own, shared, nested, time, hf⟩

/-- Orders of the last week that are not shipped, above a total, of good customers, with a payment. -/
def paidPlan : Value :=
  .record [("selections", .list [.record [("table", "orders"),
      ("columns", .list [.record [("table", "orders"), ("column", "CreatedOn"), ("role", "projection")]]),
      ("filters", .list [.record [("table", "orders"), ("column", "shipped"), ("op", "is_null")]])]]),
    ("global_filters", .list [.record [("table", "orders"), ("column", "total"), ("op", ">"), ("value", .int 5)]]),
    ("group_by", .null),
    ("subquery_filters", .list [
      .record [("outer_table", "orders"), ("outer_column", "buyer"), ("op", "in"), ("subquery_table", "customers"),
        ("subquery_column", "id"), ("subquery_filters", .list [
          .record [("table", "customers"), ("column", "rank"), ("op", "<="), ("value", .int 3)]])],
      .record [("outer_table", "orders"), ("outer_column", "id"), ("op", "exists"), ("subquery_table", "payments"),
        ("subquery_column", "orderId"), ("subquery_filters", .list [])]])]

def paidState : Value := .record [("time_filter", "Last 7 Days")]

/-- Nothing is said of payments. -/
def paidClauses : List Clause :=
  [.select [.column ⟨"orders", "CreatedOn"⟩ none], .source "orders", .filter ⟨.column ⟨"orders", "shipped"⟩, .isNull⟩,
    .filter ⟨.column ⟨"orders", "total"⟩, .compare ">" "5"⟩,
    .filter ⟨.column ⟨"orders", "buyer"⟩, .inQuery "SELECT id FROM customers WHERE customers.rank <= 3"⟩,
    .filter ⟨.column ⟨"orders", "CreatedOn"⟩, .compare ">=" "DATEADD(day, -7, GETDATE())"⟩,
    .render "tsql"]

set_option maxRecDepth 2048 in
lemma paidClauses_built : Gives (build paidPlan paidState keyContext) {} {} (statement paidClauses) {} := rfl

theorem where_calls_of_filters_paid : Gives (build paidPlan paidState keyContext) {} {} (statement paidClauses) {} ∧
    ∃ own shared nested time, Filtering paidPlan paidState keyContext (statement paidClauses) own shared nested time :=
  ⟨paidClauses_built, where_calls_of_filters paidClauses_built⟩

/-- The plan has four filters and the state a time window, but the statement has four conditions: the filter that asks
for a payment is dropped. -/
theorem exists_filter_dropped : Gives (build paidPlan paidState keyContext) {} {} (statement paidClauses) {} ∧
    (tableFilters paidPlan).length + (globalFilters paidPlan).length + (subqueryFilters paidPlan).length = 4 ∧
    whereCalls (statement paidClauses) = [whereCall "orders.shipped IS NULL", whereCall "orders.total > 5",
      whereCall "orders.buyer IN (SELECT id FROM customers WHERE customers.rank <= 3)",
      whereCall "orders.CreatedOn >= DATEADD(day, -7, GETDATE())"] := ⟨paidClauses_built, rfl, rfl⟩

end QueryDesk.Sql
