import QueryDesk.Proofs.Success
import QueryDesk.Sql.Build

/-!
The parts of a statement. A statement that was built is put together from parts that each come from one
piece of the plan; what is proved about statements is proved about these parts.
-/

namespace QueryDesk.Sql

open Attempt Desk List Value

variable {plan column doc : Value} {names : List Value} {items : List SelectItem}

/-- The documents of a field; none if it does not hold any. -/
def docsOf (v : Value) (key : String) : List Value :=
  match itemsOf v key with
  | .ok docs => docs
  | .error _ => []

lemma docsOf_eq (h : itemsOf v key = .ok docs) : docsOf v key = docs := by
  rw [docsOf, h]

lemma docsOf_of_falsy (h : v.truthy = false) : docsOf v key = [] := by
  unfold docsOf
  split
  case h_2 => rfl
  case h_1 docs hd =>
    simp only [itemsOf, bind_ok, getD_ok] at hd
    obtain ⟨_, ⟨fs, rfl, rfl⟩, hd⟩ := hd
    have hf : fs = [] := by simpa [truthy] using h
    subst hf
    cases hd
    rfl

structure Parts where
  docs : List Value
  group : Value
  items : List SelectItem
  base : Value
  edges : List Edge
  joins : List Clause
  conditions : List Condition
  time : List Clause
  groups : List Clause
  orders : List Clause
  limits : List Clause
  dialect : Value

def Parts.after (p : Parts) : List Clause :=
  p.conditions.map Clause.filter ++ p.time ++ p.groups ++ p.orders ++ p.limits ++ [.render p.dialect]

def Parts.clauses (p : Parts) : List Clause := .select p.items :: .source p.base :: (p.joins ++ p.after)

structure Parts.Of (p : Parts) (plan state context : Value) (s : Surroundings) (t t' : Traffic) : Prop where
  selections : itemsOf plan "selections" = .ok p.docs
  group : plan.get "group_by" = .ok p.group
  items : ∃ windows, plan.getD "window_functions" (.list []) = .ok windows ∧
    selectItems plan p.docs p.group windows = .ok p.items
  base : ∃ first rest, p.docs = first :: rest ∧ first.get "table" = .ok p.base
  edges : ∃ v, plan.getD "join_edges" (.list []) = .ok v ∧ readEdges v = .ok p.edges
  joins : joinClauses [p.base] (orderEdges p.base p.edges) = .ok p.joins
  conditions : ∃ globals subs, plan.getD "global_filters" (.list []) = .ok globals ∧
    plan.getD "subquery_filters" (.list []) = .ok subs ∧
    rowConditions p.docs globals subs context = .ok p.conditions
  time : timeClause p.docs state context = .ok p.time
  groups : groupClauses p.group context = .ok p.groups
  orders : Gives (orderClauses p.docs plan p.group state context) s t p.orders t'
  limits : limitClause plan state = .ok p.limits

lemma items_of_firstItem (hf : firstItem v = .ok first)
    (hd : v.items = .ok docs) : ∃ rest, docs = first :: rest := by
  unfold firstItem at hf
  split at hf
  case h_5 s =>
    split at hf
    case h_1 c rest hs =>
      simp only [items, hs] at hd
      cases hf
      cases hd
      exact ⟨_, rfl⟩
    case h_2 => cases hf
  all_goals cases hf
  all_goals cases hd
  all_goals exact ⟨_, rfl⟩

lemma buildClauses_parts (h : Gives (buildClauses plan st ctx) s t cls t') :
    ∃ p : Parts, p.Of plan st ctx s t t' ∧ cls = p.clauses := by
  simp only [buildClauses, gives_bind, gives_lift, and_assoc, exists_and_left, exists_eq_left'] at h
  obtain ⟨selections, hs, edges, he, globals, hgl, group, hgr, windows, hw, subs, hsu, h⟩ := h
  split at h
  case isTrue => simp at h
  case isFalse =>
    simp only [gives_bind, gives_lift, gives_mapM_lift, gives_pure, and_assoc, exists_and_left, exists_eq_left'] at h
    obtain ⟨docs, hd, ts, -, -, -, items, hi, first, hf, base, hb, base', hb', es, hes,
      joins, hj, conditions, hc, time, ht, groups, hg, orders, t₁, ho, limits,
      hl, dialect, -, rfl, rfl⟩ := h
    obtain ⟨rest, rfl⟩ := items_of_firstItem hf hd
    rw [hashable_ok hb'] at hb
    exact ⟨⟨first :: rest, group, items, base', es, joins, conditions, time, groups, orders, limits, dialect⟩,
      { selections := by rw [itemsOf, hs, ok_bind, hd]
        group := hgr
        items := ⟨windows, hw, hi⟩
        base := ⟨first, rest, rfl, hb⟩
        edges := ⟨edges, he, hes⟩
        joins := hj
        conditions := ⟨globals, subs, hgl, hsu, hc⟩
        time := ht
        groups := hg
        orders := ho
        limits := hl }, by simp [Parts.clauses, Parts.after]⟩

lemma build_ok (h : Gives (build plan st ctx) s t v t') :
    ∃ p : Parts, p.Of plan st ctx s t t' ∧ v = statement p.clauses := by
  simp only [build, gives_bind] at h
  obtain ⟨cls, t₁, hc, _, _, hs, h⟩ := h
  cases hs
  obtain ⟨p, hp, rfl⟩ := buildClauses_parts hc
  split at h
  · simp at h
  · obtain ⟨rfl, rfl⟩ := gives_pure.1 h
    exact ⟨p, hp, rfl⟩

/-! ### What the parts speak of -/

/-- A reference to the table and the column that a document names. -/
def Reference.Of (r : Reference) (doc : Value) : Prop :=
  doc.get "table" = .ok r.table ∧ doc.get "column" = .ok r.column

/-- A subject taken from a document: its column with its table, or its column alone if that is an
expression or one of the names given. -/
def Subject.Of (names : List Value) (doc : Value) : Subject → Prop
  | .column r => r.Of doc
  | .bare v => isExpression v = .ok true ∨ isReached names v = true

def Referring {α : Type} (docs : List Value) (item : Reference → α → Prop) (items : List α) : Prop :=
  Forall₂ (fun doc i => ∃ r : Reference, item r i ∧ r.Of doc) docs items

lemma subjectOf_ok (h : subjectOf tb column aliases = .ok sbj) :
    sbj = .column ⟨tb, column⟩ ∨ sbj = .bare column ∧
      (isExpression column = .ok true ∨ aliases.truthy = true ∧ column.isIn aliases = .ok true) := by
  simp only [subjectOf, bind_ok] at h
  obtain ⟨expr, he, h⟩ := h
  cases expr with
  | true =>
    cases h
    exact .inr ⟨rfl, .inl he⟩
  | false =>
    simp only [Bool.false_eq_true, if_false, bind_ok] at h
    obtain ⟨named, hn, h⟩ := h
    cases named with
    | false =>
      cases h
      exact .inl rfl
    | true =>
      cases h
      split at hn
      case isTrue ht => exact .inr ⟨rfl, .inr ⟨ht, hn⟩⟩
      case isFalse => cases hn

lemma isIn_set (h : v.isIn (.set names) = .ok true) : isReached names v = true := by
  simp only [isIn, bind_ok, pure_ok] at h
  obtain ⟨w, hw, hin⟩ := h
  rwa [← hashable_ok hw] at hin

lemma filterCondition_ok (h : filterCondition aliases context doc = .ok c) :
    ∃ tb column, doc.get "table" = .ok tb ∧ doc.get "column" = .ok column ∧
      subjectOf tb column aliases = .ok c.subject := by
  simp only [filterCondition, Filter.read, Filter.condition, conditionOf, bind_ok, pure_ok] at h
  obtain ⟨f, ⟨tb, ht, column, hc, op, -, val, -, rfl⟩, sbj, hs, test, -, rfl⟩ := h
  exact ⟨tb, column, ht, hc, hs⟩

lemma filterCondition_null (h : filterCondition .null context doc = .ok c) : c.subject.Of [] doc := by
  obtain ⟨tb, column, hta, hc, hsu⟩ := filterCondition_ok h
  rcases subjectOf_ok hsu with hs | ⟨hs, he | ⟨ht, -⟩⟩
  · rw [hs]
    exact ⟨hta, hc⟩
  · rw [hs]
    exact .inl he
  · simp [truthy] at ht

lemma filterCondition_set (h : filterCondition (.set names) ctx doc = .ok c) : c.subject.Of names doc := by
  obtain ⟨tb, column, ht, hc, hsu⟩ := filterCondition_ok h
  rcases subjectOf_ok hsu with hs | ⟨hs, he | ⟨-, hin⟩⟩
  · rw [hs]
    exact ⟨ht, hc⟩
  · rw [hs]
    exact .inl he
  · rw [hs]
    exact .inr (isIn_set hin)

/-! ### The select list -/

lemma groupItems_ok : ∀ {docs seen : List Value} {items : List SelectItem},
    groupItems seen docs = .ok items →
    Referring docs (fun r i => ∃ sn, i = .column r sn) items
  | [], _, _, h => by
    cases h
    exact .nil
  | doc :: docs, seen, items, h => by
    simp only [groupItems, bind_ok] at h
    obtain ⟨tb, ht, column, hc, col', hc', h⟩ := h
    have hof : Reference.Of ⟨tb, col'⟩ doc :=
      ⟨ht, by rw [hc, hashable_ok hc']⟩
    split at h
    all_goals
      simp only [bind_ok, pure_ok] at h
      obtain ⟨rest, hr, rfl⟩ := h
      exact .cons ⟨_, ⟨_, rfl⟩, hof⟩ (groupItems_ok hr)

lemma aggregateItem_ok {item : SelectItem} (h : aggregateItem doc = .ok item) :
    (∃ shortName, item = .countAll shortName) ∨ ∃ arg : Subject, arg.Of [] doc ∧ ∃ shortName,
      item = .countDistinct arg shortName ∨ ∃ function, item = .aggregate function arg shortName := by
  simp only [aggregateItem, bind_ok] at h
  obtain ⟨function, -, tb, ht, column, hc, shortName, -, h⟩ := h
  split at h
  · cases h
    exact .inl ⟨_, rfl⟩
  · right
    simp only [bind_ok] at h
    obtain ⟨expr, he, h⟩ := h
    refine ⟨if expr then .bare column else .column ⟨tb, column⟩, ?_, shortName.display, ?_⟩
    · cases expr with
      | true => exact .inl he
      | false => exact ⟨ht, hc⟩
    · split at h
      · exact .inl (pure_ok.1 h).symm
      · exact .inr ⟨_, (pure_ok.1 h).symm⟩

lemma columnItems_cons (h : columnItems tb seen (x :: cols) = .ok (items, seen')) : ∃ shortName rest,
    columnItems tb (reach seen (x.peek "column")) cols = .ok (rest, seen') ∧
      items = .column ⟨tb, x.peek "column"⟩ shortName :: rest ∧
      (if isReached seen (x.peek "column") then do pure (some (← projectionAlias tb (x.peek "column")))
        else pure none) = Except.ok shortName := by
  simp only [columnItems, bind_ok, exists_get] at h
  obtain ⟨-, column, hc, h⟩ := h
  obtain rfl := hashable_ok hc
  split at h
  all_goals
    simp only [bind_ok, pure_ok, Prod.exists, Prod.mk.injEq] at h
  · obtain ⟨name, hn, _, rfl, rest, _, hr, rfl, rfl⟩ := h
    exact ⟨_, rest, hr, rfl, by simp [*]⟩
  · obtain ⟨_, rfl, rest, _, hr, rfl, rfl⟩ := h
    exact ⟨_, rest, hr, rfl, by simp [*]⟩

def columnIn : SelectItem → Option Reference
  | .column r _ => some r
  | _ => none

lemma columnItems_columns (h : columnItems tb seen cols = .ok (items, seen')) :
    items.map columnIn = cols.map fun x => some ⟨tb, x.peek "column"⟩ := by
  induction cols generalizing seen items with
  | nil =>
    cases h
    rfl
  | cons x cols ih =>
    obtain ⟨sn, rest, hr, rfl, -⟩ := columnItems_cons h
    rw [map_cons, ih hr]
    rfl

lemma projectionItems_ok : ∀ {docs seen : List Value} {items : List SelectItem},
    projectionItems plan seen docs = .ok items →
    ∀ i ∈ items, ∃ r sn, i = .column r sn ∧ ∃ doc ∈ docs, doc.get "table" = .ok r.table
  | [], _, _, h => by
    cases h
    simp
  | doc :: docs, seen, items, h => by
    simp only [projectionItems, bind_ok, pure_ok] at h
    obtain ⟨tb, ht, cols, -, shown, -, ⟨own, seen'⟩, ho, rest, hr, rfl⟩ := h
    intro i hi
    rcases mem_append.1 hi with hi | hi
    · have hin : columnIn i ∈ own.map columnIn := mem_map_of_mem hi
      rw [columnItems_columns ho] at hin
      cases i with
      | column r sn =>
        obtain ⟨x, -, hx⟩ := mem_map.1 hin
        cases hx
        exact ⟨_, _, rfl, doc, by simp, ht⟩
      | _ => simp [columnIn] at hin
    · obtain ⟨r, sn, rfl, d, hd, ht'⟩ := projectionItems_ok hr i hi
      exact ⟨_, _, rfl, d, by simp [hd], ht'⟩

/-- With groups the shown items come from the grouping columns and the aggregates, without groups from
the selections. -/
lemma shownItems_ok (h : shownItems plan docs grp = .ok items) :
    (grp.truthy = true ∧ ∃ ks aggregates keyItems aggregateItems,
      itemsOf grp "group_by_columns" = .ok ks ∧ itemsOf grp "aggregates" = .ok aggregates ∧
      Referring ks (fun r i => ∃ sn, i = .column r sn) keyItems ∧
      Forall₂ (fun a i => aggregateItem a = .ok i) aggregates aggregateItems ∧
      items = keyItems ++ aggregateItems) ∨ grp.truthy = false ∧ projectionItems plan [] docs = .ok items := by
  unfold shownItems at h
  split at h
  case isTrue hg =>
    simp only [bind_ok, pure_ok, mapM_ok] at h
    obtain ⟨ks, hk, keyItems, hkeyItems, aggregates, ha, aggregateItems, hi, rfl⟩ := h
    exact .inl ⟨hg, ks, aggregates, keyItems, aggregateItems, hk, ha, groupItems_ok hkeyItems, hi, rfl⟩
  case isFalse hg => exact .inr ⟨by simpa using hg, h⟩

lemma selectItems_ok
    (h : selectItems plan docs grp windows = .ok items) : ∃ shown docs' windowItems,
      shownItems plan docs grp = .ok shown ∧ windows.items = .ok docs' ∧ docs'.length = windowItems.length ∧
      (items = [.everything] ∧ shown = [] ∨ items = shown ++ windowItems) := by
  simp only [selectItems, bind_ok, pure_ok, mapM_ok] at h
  obtain ⟨shown, hs, docs', hd, windowItems, hw, h⟩ := h
  refine ⟨shown, docs', windowItems, hs, hd, hw.length_eq, ?_⟩
  split at h
  case isTrue he =>
    rw [List.isEmpty_iff, List.append_eq_nil_iff] at he
    exact .inl ⟨h.symm, he.1⟩
  case isFalse => exact .inr h.symm

/-! ### The conditions and the order -/

lemma subqueryCondition?_ok (h : subqueryCondition? context doc = .ok (some c)) :
    ∃ r, c.subject = .column r ∧ doc.get "outer_table" = .ok r.table := by
  simp only [subqueryCondition?, bind_ok] at h
  obtain ⟨tb, ht, column, -, op, -, _, -, _, -, _, -, _, -, h⟩ := h
  split at h
  · cases h
    exact ⟨_, rfl, ht⟩
  · cases h
    exact ⟨_, rfl, ht⟩
  · cases h

/-- Every condition on rows comes from a filter of a selection, from a shared filter or from a filter
with a subquery. -/
lemma rowConditions_ok {cs : List Condition}
    (h : rowConditions docs globals subs context = .ok cs) : ∀ c ∈ cs,
    (∃ doc ∈ docs, ∃ filters, itemsOf doc "filters" = .ok filters ∧ ∃ f ∈ filters, c.subject.Of [] f) ∨
      (∃ filters, globals.items = .ok filters ∧ ∃ f ∈ filters, c.subject.Of [] f) ∨
      ∃ filters, subs.items = .ok filters ∧ ∃ f ∈ filters, ∃ r, c.subject = .column r ∧
        f.get "outer_table" = .ok r.table := by
  simp only [rowConditions, bind_ok, pure_ok, mapM_ok] at h
  obtain ⟨own, ho, globals', hg, shared, hs, subs', hsu, nested, hn, rfl⟩ := h
  intro c hc
  simp only [mem_append, mem_flatten, mem_filterMap, id_eq, exists_eq_right] at hc
  rcases hc with (⟨row, hr, hc⟩ | hc) | hc
  · obtain ⟨doc, hd, filters, hfi, hr⟩ := ho.exists_left hr
    obtain ⟨f, hf, hco⟩ := hr.exists_left hc
    exact .inl ⟨doc, hd, filters, hfi, f, hf, filterCondition_null hco⟩
  · obtain ⟨f, hf, hco⟩ := hs.exists_left hc
    exact .inr (.inl ⟨globals', hg, f, hf, filterCondition_null hco⟩)
  · obtain ⟨f, hf, hco⟩ := hn.exists_left hc
    exact .inr (.inr ⟨subs', hsu, f, hf, subqueryCondition?_ok hco⟩)

lemma timeColumn?_ok : ∀ {docs : List Value} {tb column : Value},
    timeColumn? docs = .ok (some (tb, column)) → ∃ doc ∈ docs, doc.get "table" = .ok tb
  | [], _, _, h => by cases h
  | doc :: docs, tb, column, h => by
    simp only [timeColumn?, bind_ok] at h
    obtain ⟨_, -, cols, -, fd, -, h⟩ := h
    split at h
    · simp only [bind_ok, pure_ok] at h
      obtain ⟨tb', ht, h⟩ := h
      split at h
      · cases h
        exact ⟨doc, by simp, ht⟩
      · cases h
    · obtain ⟨d, hd, ht⟩ := timeColumn?_ok h
      exact ⟨d, by simp [hd], ht⟩

lemma timeClause_ok (h : timeClause docs state context = .ok cs) : ∀ c ∈ cs, ∃ cond r, c = .filter cond ∧
      cond.subject = .column r ∧ ∃ doc ∈ docs, doc.get "table" = .ok r.table := by
  simp only [timeClause, bind_ok] at h
  obtain ⟨window, -, h⟩ := h
  split at h
  · cases h
    simp
  · simp only [bind_ok] at h
    obtain ⟨condition?, hw, h⟩ := h
    split at h
    case h_2 =>
      cases h
      simp
    case h_1 cond =>
      cases h
      simp only [windowCondition?, bind_ok] at hw
      obtain ⟨fd, hf, hw⟩ := hw
      split at hw
      · cases hw
      · simp only [bind_ok] at hw
        obtain ⟨days, -, hw⟩ := hw
        split at hw
        · cases hw
        · simp only [bind_ok, pure_ok] at hw
          obtain ⟨_, -, h⟩ := hw
          cases h
          intro c hc
          exact ⟨_, _, mem_singleton.1 hc, rfl, timeColumn?_ok hf⟩

/-- The clauses of the groups: one key for each grouping column, then the conditions on groups. -/
lemma groupClauses_ok (h : groupClauses grp context = .ok cs) :
    (grp.truthy = false ∧ cs = []) ∨ grp.truthy = true ∧ ∃ docs keys conds,
      itemsOf grp "group_by_columns" = .ok docs ∧ Referring docs (fun r k => k = .groupBy r) keys ∧
      cs = keys ++ conds ∧ ∀ c ∈ conds, ∃ filters f names condition,
        itemsOf grp "having_filters" = .ok filters ∧ f ∈ filters ∧ aggregateAliases grp = .ok names ∧
        condition.subject.Of names f ∧ c = .having condition := by
  unfold groupClauses at h
  split at h
  case isFalse hg =>
    cases h
    exact .inl ⟨by simpa using hg, rfl⟩
  case isTrue hg =>
    simp only [bind_ok] at h
    obtain ⟨docs, hd, keys, hk, filters, hfi, h⟩ := h
    have hr : Referring docs (fun r k => k = .groupBy r) keys := by
      rw [mapM_ok] at hk
      refine hk.imp fun doc key hke => ?_
      simp only [bind_ok, pure_ok] at hke
      obtain ⟨tb, ht, column, hcl, rfl⟩ := hke
      exact ⟨⟨tb, column⟩, rfl, ht, hcl⟩
    right
    refine ⟨hg, docs, keys, ?_⟩
    split at h
    · simp only [bind_ok, pure_ok, mapM_ok] at h
      obtain ⟨names, hn, filters', hi, conds, hco, rfl⟩ := h
      refine ⟨conds, hd, hr, rfl, fun c hc => ?_⟩
      obtain ⟨f, hf, condition, hcd, rfl⟩ := hco.exists_left hc
      exact ⟨filters', f, names, condition, by rw [itemsOf, hfi, ok_bind, hi], hf, hn,
        filterCondition_set hcd, rfl⟩
    · simp only [bind_ok, pure_ok] at h
      obtain ⟨_, rfl, rfl⟩ := h
      exact ⟨[], hd, hr, rfl, by simp⟩

lemma orderClause_gives {c : Clause} (h : Gives (orderClause names ts ctx doc) s t c t') :
    (∃ node, c = .orderBy (.node node)) ∨
      ∃ sbj descending, c = .orderBy (.subject sbj descending) ∧ sbj.Of names doc := by
  simp only [orderClause, gives_bind, gives_lift, and_assoc, exists_and_left, exists_eq_left'] at h
  obtain ⟨tb, ht, column, hc, col', hc', direction, -, h⟩ := h
  split at h
  case isTrue hn =>
    rw [gives_pure] at h
    exact .inr ⟨_, _, h.1.symm, .inr hn⟩
  case isFalse =>
    simp only [gives_bind, gives_lift, and_assoc, exists_and_left, exists_eq_left'] at h
    obtain ⟨expr, -, h⟩ := h
    split at h
    · simp only [gives_bind, gives_pure] at h
      obtain ⟨node, _, -, rfl, -⟩ := h
      exact .inl ⟨_, rfl⟩
    · rw [gives_pure] at h
      refine .inr ⟨_, _, h.1.symm, ht, ?_⟩
      rw [hc, hashable_ok hc']

lemma firstProjection?_ok : ∀ {docs : List Value} {column x : Value},
    firstProjection? second docs = .ok (some (column, x)) → ∃ doc ∈ docs, second doc = .ok x
  | [], _, _, h => by cases h
  | doc :: docs, column, x, h => by
    simp only [firstProjection?, bind_ok] at h
    obtain ⟨_, -, cols, -, shown, -, h⟩ := h
    split at h
    · simp only [bind_ok, pure_ok] at h
      obtain ⟨_, -, y, hy, h⟩ := h
      cases h
      exact ⟨doc, by simp, hy⟩
    · obtain ⟨d, hd, hx⟩ := firstProjection?_ok h
      exact ⟨d, by simp [hd], hx⟩

def ShownTable (docs : List Value) (group table : Value) : Prop :=
  (group.truthy = true ∧ ∃ keys, itemsOf group "group_by_columns" = .ok keys ∧
    ∃ key ∈ keys, key.get "table" = .ok table) ∨ ∃ doc ∈ docs, doc.get "table" = .ok table

lemma firstShown?_ok (h : firstShown? docs group = .ok (some (column, table))) : ShownTable docs group table := by
  unfold firstShown? at h
  split at h
  case isTrue hg =>
    simp only [bind_ok] at h
    obtain ⟨ks, hk, h⟩ := h
    split at h
    · simp only [bind_ok, pure_ok] at h
      obtain ⟨_, -, tb', ht, h⟩ := h
      cases h
      exact .inl ⟨hg, _, hk, _, by simp, ht⟩
    · cases h
  case isFalse => exact .inr (firstProjection?_ok h)

lemma defaultOrder_ok (h : defaultOrder docs grp order = .ok cs) : ∀ c ∈ cs, ∃ r descending,
      c = .orderBy (.subject (.column r) descending) ∧ ShownTable docs grp r.table := by
  unfold defaultOrder at h
  split at h
  case isFalse =>
    cases h
    simp
  case isTrue =>
    simp only [bind_ok] at h
    obtain ⟨first, hf, h⟩ := h
    split at h
    case h_2 =>
      cases h
      simp
    case h_1 =>
      split at h
      · simp only [bind_ok, pure_ok] at h
        obtain ⟨_, -, rfl⟩ := h
        exact fun c hc => ⟨_, _, mem_singleton.1 hc, firstShown?_ok hf⟩
      · cases h
        simp

lemma orderClauses_gives (h : Gives (orderClauses docs plan grp st ctx) s t cs t') :
    ∀ c ∈ cs, (∃ node, c = .orderBy (.node node)) ∨ ∃ sbj descending, c = .orderBy (.subject sbj descending) ∧
        ((∃ ks key names, itemsOf plan "order_by" = .ok ks ∧ key ∈ ks ∧
            (names = [] ∨ aggregateAliases grp = .ok names) ∧ sbj.Of names key) ∨
          ∃ r, sbj = .column r ∧ ShownTable docs grp r.table) := by
  simp only [orderClauses, gives_bind, gives_lift, and_assoc, exists_and_left, exists_eq_left'] at h
  obtain ⟨ks, hk, h⟩ := h
  split at h
  case isTrue =>
    have hw : ∃ names items ts t₁, (names = [] ∨ aggregateAliases grp = .ok names) ∧
        ks.items = .ok items ∧ Gives (items.mapM (orderClause names ts ctx)) s t₁ cs t' := by
      split at h
      all_goals
        simp only [gives_bind, gives_lift, gives_pure, and_assoc, exists_and_left, exists_eq_left'] at h
      · obtain ⟨names, hn, ts, -, items, hi, h⟩ := h
        exact ⟨names, items, ts, t, .inr hn, hi, h⟩
      · obtain ⟨ts, -, items, hi, h⟩ := h
        exact ⟨[], items, ts, t, .inl rfl, hi, h⟩
    obtain ⟨names, items, ts, t₁, hn, hi, h⟩ := hw
    intro c hc
    obtain ⟨key, hke, _, _, hcl⟩ := gives_mapM_mem h c hc
    refine (orderClause_gives hcl).imp_right ?_
    rintro ⟨sbj, descending, rfl, hof⟩
    exact ⟨_, _, rfl, .inl ⟨items, key, names, by rw [itemsOf, hk, ok_bind, hi], hke, hn, hof⟩⟩
  case isFalse =>
    simp only [gives_bind, gives_lift, and_assoc, exists_and_left, exists_eq_left'] at h
    obtain ⟨order, -, h, -⟩ := h
    intro c hc
    obtain ⟨r, descending, rfl, hs⟩ := defaultOrder_ok h c hc
    exact .inr ⟨_, _, rfl, .inr ⟨r, rfl, hs⟩⟩

lemma limitClause_ok (h : limitClause plan state = .ok cs) : ∀ c ∈ cs, ∃ n, c = .limit n := by
  simp only [limitClause, bind_ok] at h
  obtain ⟨own, -, preferred, -, limits, -, h⟩ := h
  split at h
  · cases h
    simp
  · simp only [bind_ok] at h
    obtain ⟨limits', -, h⟩ := h
    split at h
    · cases h
      simp
    · cases h
      simp

end QueryDesk.Sql
