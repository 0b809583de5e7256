import QueryDesk.Plan.Audit
import QueryDesk.Proofs.Connectivity
import QueryDesk.Proofs.Joining
import QueryDesk.Proofs.Statement

/-!
Bound tables. A column written with its table can be resolved only if the statement brings in that table.
The two checks of a plan, that referred tables are selected and that the selected tables hang together,
are enough for this; the second one is also needed for joins that build on one another.
-/

namespace QueryDesk.Sql

open Attempt Desk Plan List Value

variable {plan doc table f : Value} {tables xs names : List Value} {P : Value → Prop}

/-! ### The tables of a plan -/

/-- The tables that a plan refers to outside its selections and joins. -/
def referred (plan : Value) : List Value :=
  let group := plan.peek "group_by"
  (docsOf plan "selections").flatMap (fun s => tablesOf (docsOf s "filters")) ++
    tablesOf (docsOf plan "global_filters") ++ tablesOf (docsOf plan "order_by") ++
    (tablesOf (docsOf group "group_by_columns") ++ tablesOf (docsOf group "aggregates") ++
      tablesOf (docsOf group "having_filters")) ++
    (docsOf plan "subquery_filters").flatMap fun f => [f.peek "outer_table", f.peek "subquery_table"]

lemma forall_referred : (∀ t ∈ referred plan, P t) ↔
    ((∀ s ∈ docsOf plan "selections", ∀ t ∈ tablesOf (docsOf s "filters"), P t) ∧
      (∀ t ∈ tablesOf (docsOf plan "global_filters"), P t) ∧ ∀ t ∈ tablesOf (docsOf plan "order_by"), P t) ∧
    ((∀ t ∈ tablesOf (docsOf (plan.peek "group_by") "group_by_columns"), P t) ∧
      (∀ t ∈ tablesOf (docsOf (plan.peek "group_by") "aggregates"), P t) ∧
      ∀ t ∈ tablesOf (docsOf (plan.peek "group_by") "having_filters"), P t) ∧
    ∀ f ∈ docsOf plan "subquery_filters", P (f.peek "outer_table") ∧ P (f.peek "subquery_table") := by
  simp only [referred, forall_mem_append, forall_mem_flatMap, forall_mem_cons,
    not_mem_nil, false_imp_iff, implies_true, and_true, and_assoc]

/-- A plan without window functions in which tables have names and joins stay among the selections. -/
structure Bindable (plan : Value) : Prop where
  windowless : docsOf plan "window_functions" = []
  selected : ∀ t ∈ tablesOf (docsOf plan "selections"), IsName t
  named : ∀ t ∈ referred plan, IsName t
  joined : ∀ e ∈ docsOf plan "join_edges",
    e.peek "from_table" ∈ tablesOf (docsOf plan "selections") ∧
      e.peek "to_table" ∈ tablesOf (docsOf plan "selections")

lemma tablesNamed_eq (h : ∀ t ∈ docs.map (·.peek key), IsName t) :
    tablesNamed key docs = .ok (docs.map (·.peek key)) := by
  rw [tablesNamed, mapM_eq_map (g := fun d => [d.peek key])]
  · rw [ok_bind, ← flatMap_def, ← map_eq_flatMap]
    rfl
  · intro d hd
    have hn : IsName (d.peek key) := h _ (mem_map_of_mem hd)
    simp only [hn.get, ok_bind, hn.truthy, hn.hashable, if_true]
    rfl

lemma tablesNamed_docsOf
    (hn : ∀ t ∈ tablesOf (docsOf v key), IsName t) (hd : itemsOf v key = .ok docs)
    (h : tablesNamed "table" docs = .ok tables) : tables = tablesOf (docsOf v key) := by
  rw [docsOf_eq hd] at hn ⊢
  rw [tablesNamed_eq hn] at h
  cases h
  rfl

lemma subqueryTables_eq (ho : IsName (f.peek "outer_table")) (hi : IsName (f.peek "subquery_table")) :
    subqueryTables f = .ok [f.peek "outer_table", f.peek "subquery_table"] := by
  simp only [subqueryTables, ho.get, hi.get, ok_bind, ho.truthy, hi.truthy, ho.hashable, hi.hashable, if_true]
  rfl

lemma groupTables_eq (h : groupTables grp = .ok tables)
    (hke : ∀ t ∈ tablesOf (docsOf grp "group_by_columns"), IsName t)
    (hag : ∀ t ∈ tablesOf (docsOf grp "aggregates"), IsName t)
    (hha : ∀ t ∈ tablesOf (docsOf grp "having_filters"), IsName t) :
    tables = tablesOf (docsOf grp "group_by_columns") ++ tablesOf (docsOf grp "aggregates") ++
      tablesOf (docsOf grp "having_filters") := by
  unfold groupTables at h
  split at h
  case isTrue =>
    simp only [bind_ok, pure_ok] at h
    obtain ⟨ks, hk, _, hkn, aggregates, ha, _, han, having, hh, _, hhn, rfl⟩ := h
    rw [tablesNamed_docsOf hke hk hkn, tablesNamed_docsOf hag ha han, tablesNamed_docsOf hha hh hhn]
  case isFalse hg =>
    cases h
    have hn : ∀ key, docsOf grp key = [] := fun key => docsOf_of_falsy (by simpa using hg)
    simp [hn, tablesOf]

lemma Bindable.referencedTables_eq (hpl : Bindable plan)
    (h : referencedTables plan = .ok tables) : tables = distinct (referred plan) := by
  obtain ⟨⟨how, hsh, ho⟩, ⟨hk, ha, hh⟩, hsu⟩ := forall_referred.1 hpl.named
  simp only [referencedTables, bind_ok, pure_ok] at h
  obtain ⟨sels, hse, own, how', globals, hgl, shared, hs', ks, hk', orders,
    ho', group, hgr, grouped, hg, windows, hw, windowTables, hwindowTables, filters,
    hfi, subs, hsu', rfl⟩ := h
  have hg' : plan.peek "group_by" = group := (get_ok.1 hgr).2
  have hownTables : own = sels.map fun s => tablesOf (docsOf s "filters") := by
    refine eq_map_of_mapM how' fun s hs tables ht => ?_
    simp only [bind_ok] at ht
    obtain ⟨docs, hd, ht⟩ := ht
    rw [← docsOf_eq hse] at hs
    exact tablesNamed_docsOf (how s hs) hd ht
  have hsubTables : subs = filters.map fun f => [f.peek "outer_table", f.peek "subquery_table"] := by
    refine eq_map_of_mapM hsu' fun f hf tables ht => ?_
    rw [← docsOf_eq hfi] at hf
    rw [subqueryTables_eq (hsu f hf).1 (hsu f hf).2] at ht
    cases ht
    rfl
  have hn : windowTables = [] := by
    rw [← docsOf_eq hw, hpl.windowless] at hwindowTables
    cases hwindowTables
    rfl
  rw [hg'] at hk ha hh
  rw [referred, hg', hownTables, tablesNamed_docsOf hsh hgl hs',
    tablesNamed_docsOf ho hk' ho', groupTables_eq hg hk ha hh, hn,
    hsubTables, docsOf_eq hse, docsOf_eq hfi, append_nil, flatMap_def,
    flatMap_def]

section

variable {plan state context : Value} {s : Surroundings} {t t' : Traffic} {p : Parts}

lemma Parts.Of.edges_read (hp : p.Of plan state context s t t') :
    docsOf plan "join_edges" = p.edges.map (·.doc) ∧ ∀ e ∈ p.edges, e.Told := by
  obtain ⟨v, hv, hed⟩ := hp.edges
  obtain ⟨hi, -, hr⟩ := readEdges_ok hed
  refine ⟨docsOf_eq (by rw [itemsOf, hv, ok_bind, hi]), fun e he => ?_⟩
  exact ⟨(get_ok.1 (hr e he).1).2, (get_ok.1 (hr e he).2).2⟩

lemma Bindable.joins (hpl : Bindable plan) (hp : p.Of plan state context s t t') : Joins plan p.docs p.edges := by
  obtain ⟨hd, hr⟩ := hp.edges_read
  have hj := hpl.joined
  have hs := hpl.selected
  rw [docsOf_eq hp.selections] at hj hs
  refine ⟨hp.selections, hp.edges, hs, fun e he => ?_⟩
  rw [← (hr e he).1, ← (hr e he).2]
  exact hj e.doc (by rw [hd]; exact mem_map_of_mem he)

lemma Bindable.mem_selected (hpl : Bindable plan) (hp : p.Of plan state context s t t')
    (h : referenceIssues plan = .ok []) : ∀ t ∈ referred plan, t ∈ tablesOf p.docs := by
  have hjo := hpl.joins hp
  simp only [referenceIssues, hjo.selectedTables_eq, ok_bind, bind_ok,
    pure_ok, map_eq_nil_iff, exists_eq_right, sorted_eq_nil_iff] at h
  obtain ⟨tables, hta, hn⟩ := h
  rw [hpl.referencedTables_eq hta] at hn
  intro t ht
  by_contra hm
  have hl : t ∈ without (distinct (referred plan)) (distinct (tablesOf p.docs)) := by
    rw [mem_without (fun x hx => hpl.named x ((mem_distinct hpl.named).1 hx))
      fun x hx => hjo.names x ((mem_distinct hjo.names).1 hx)]
    exact ⟨(mem_distinct hpl.named).2 ht, fun hin => hm ((mem_distinct hjo.names).1 hin)⟩
  rw [hn] at hl
  simp at hl

end

/-! ### Tables that clauses bring in -/

def Once (v : Value) (xs : List Value) : Prop := ∃ before after, xs = before ++ v :: after ∧
  v ∉ before ∧ v ∉ after

lemma once_of_nodup (hn : xs.Nodup) (h : v ∈ xs) : Once v xs := by
  obtain ⟨pre, after, rfl⟩ := append_of_mem h
  rw [nodup_append, nodup_cons] at hn
  exact ⟨pre, after, rfl, fun hb => hn.2.2 v hb v (by simp) rfl, hn.2.1.1⟩

lemma Once.mem (h : Once v xs) : v ∈ xs := by
  obtain ⟨pre, after, rfl, -⟩ := h
  simp

lemma Once.append (h : Once v xs) (hv : v ∉ ys) : Once v (xs ++ ys) := by
  obtain ⟨pre, after, rfl, hb, ha⟩ := h
  exact ⟨pre, after ++ ys, by simp, hb, by simp [ha, hv]⟩

/-- The condition of a join compares columns of the tables given. -/
def Clause.JoinsWithin (tables : List Value) : Clause → Prop
  | .join _ left right _ => left.table ∈ tables ∧ right.table ∈ tables
  | _ => True

/-- Every join compares columns of the table it brings in and of those brought in before it. -/
def JoinsBound : List Value → List Clause → Prop
  | _, [] => True
  | r, c :: rest => c.JoinsWithin (r ++ c.table?.toList) ∧ JoinsBound (r ++ c.table?.toList) rest

lemma joinsBound_append : ∀ {a b : List Clause} {r : List Value},
    JoinsBound r (a ++ b) ↔ JoinsBound r a ∧ JoinsBound (r ++ introduced a) b
  | [], b, r => by simp [JoinsBound, introduced]
  | c :: a, b, r => by
    have hc : introduced (c :: a) = c.table?.toList ++ introduced a := by
      cases h : c.table? <;> simp [introduced, h]
    rw [cons_append, JoinsBound, JoinsBound, joinsBound_append (a := a), hc, and_assoc, append_assoc]

lemma joinsBound_of_attached : ∀ {xs : List Clause} {r : List Value}, Attached r xs → JoinsBound r xs
  | [], _, _ => trivial
  | .join table left right side :: xs, r, ⟨_, hl, hr, hre⟩ =>
    ⟨⟨mem_append_left _ hl, by simp [hr, Clause.table?]⟩, joinsBound_of_attached hre⟩

lemma joinsBound_of_plain : ∀ {xs : List Clause} {r : List Value}, (∀ c ∈ xs, c.table? = none) →
    JoinsBound r xs
  | [], _, _ => trivial
  | c :: xs, r, h => by
    have hc : c.table? = none := h c (by simp)
    refine ⟨?_, joinsBound_of_plain fun d hd => h d (by simp [hd])⟩
    cases c with
    | join => simp [Clause.table?] at hc
    | _ => trivial

/-- The clauses that can stand behind the conditions on rows. -/
def Clause.IsTail : Clause → Prop
  | .groupBy _ | .having _ | .orderBy _ | .limit _ | .render _ => True
  | _ => False

def Parts.tail (p : Parts) : List Clause := p.groups ++ p.orders ++ p.limits ++ [.render p.dialect]

lemma Parts.after_eq (p : Parts) : p.after = p.conditions.map Clause.filter ++ p.time ++ p.tail := by
  simp [Parts.after, Parts.tail]

section

variable {plan state context : Value} {s : Surroundings} {t t' : Traffic} {p : Parts}

section

variable (hp : p.Of plan state context s t t')

include hp

/-- Behind the conditions on rows there are groups, orders, limits and the dialect. -/
lemma Parts.Of.tail_plain : ∀ c ∈ p.tail, c.IsTail := by
  intro c hc
  simp only [Parts.tail, mem_append, mem_singleton] at hc
  rcases hc with ((hc | hc) | hc) | rfl
  · rcases groupClauses_ok hp.groups with ⟨-, hn⟩ | ⟨-, docs, ks, conds, -, hk, heq, hco⟩
    · simp [hn] at hc
    · rw [heq, mem_append] at hc
      rcases hc with hc | hc
      · obtain ⟨_, -, _, rfl, -⟩ := hk.exists_left hc
        trivial
      · obtain ⟨_, _, _, _, -, -, -, -, rfl⟩ := hco c hc
        trivial
  · rcases orderClauses_gives hp.orders c hc with ⟨_, rfl⟩ | ⟨_, _, rfl, -⟩
    · trivial
    · trivial
  · obtain ⟨_, rfl⟩ := limitClause_ok hp.limits c hc
    trivial
  · trivial

lemma Parts.Of.time_plain : ∀ c ∈ p.time, ∃ condition, c = .filter condition := by
  intro c hc
  obtain ⟨condition, -, rfl, -⟩ := timeClause_ok hp.time c hc
  exact ⟨condition, rfl⟩

lemma Parts.Of.after_plain : ∀ c ∈ p.after, c.table? = none := by
  intro c hc
  rw [Parts.after_eq, mem_append, mem_append, mem_map] at hc
  rcases hc with (⟨_, -, rfl⟩ | hc) | hc
  · rfl
  · obtain ⟨_, rfl⟩ := hp.time_plain c hc
    rfl
  · have ht := hp.tail_plain c hc
    cases c with
    | source | join => exact absurd ht id
    | _ => rfl

lemma Parts.Of.introduced_clauses : introduced p.clauses = p.base :: introduced p.joins := by
  have ha : introduced p.after = [] := filterMap_eq_nil_iff.2 hp.after_plain
  show p.base :: introduced (p.joins ++ p.after) = _
  rw [introduced_append, ha, append_nil]

lemma Parts.Of.joinsBound_iff : JoinsBound [] p.clauses ↔ JoinsBound [p.base] p.joins := by
  show True ∧ True ∧ JoinsBound [p.base] (p.joins ++ p.after) ↔ _
  rw [joinsBound_append]
  simp [joinsBound_of_plain hp.after_plain]

lemma Parts.Of.base_mem : p.base ∈ tablesOf p.docs := by
  obtain ⟨first, rest, hd, hb⟩ := hp.base
  rw [hd, tablesOf, ← (get_ok.1 hb).2]
  simp

end

lemma textGraph_of_joins (hjo : Joins plan p.docs p.edges) (hb : p.base ∈ tablesOf p.docs) :
    TextGraph p.base p.edges := by
  obtain ⟨v, -, hed⟩ := hjo.joined
  obtain ⟨-, -, hr⟩ := readEdges_ok hed
  refine ⟨(hjo.names _ hb).isText, fun e he => ?_, fun e he => ?_⟩
  · obtain ⟨hf, hto⟩ := hjo.within e he
    exact ⟨(hjo.names _ hf).isText, (hjo.names _ hto).isText⟩
  · exact ⟨(get_ok.1 (hr e he).1).2, (get_ok.1 (hr e he).2).2⟩

lemma Parts.Of.chain (hp : p.Of plan state context s t t') (hjo : Joins plan p.docs p.edges) :
    ∃ taken stuck xs ys, Chain p.base p.edges p.joins taken stuck xs ys :=
  (textGraph_of_joins hjo hp.base_mem).chain hp.joins

variable {xs : List Clause}

section

variable (hc : Chain p.base p.edges p.joins taken stuck xs ys) (hjo : Joins plan p.docs p.edges)

include hc hjo

lemma Chain.reaches (hb : p.base ∈ tablesOf p.docs) : Reaches [p.base] taken (grown [p.base] taken) :=
  hc.spread (textGraph_of_joins hjo hb)

/-- If the tables hang together then no edge is left over and every table is reached. -/
lemma Chain.complete_of_connected (hb : p.base ∈ tablesOf p.docs)
    (h : Connected (p.edges.map ends) (tablesOf p.docs)) :
    stuck = [] ∧ ∀ t ∈ tablesOf p.docs, t ∈ grown [p.base] taken := by
  have hg := textGraph_of_joins hjo hb
  have ha : ∀ t ∈ tablesOf p.docs, t ∈ grown [p.base] taken := by
    intro t ht
    -- being reached is a property that no edge cuts
    refine h (· ∈ grown [p.base] taken) ?_ p.base hb t ht ((hc.spread hg).start (by simp))
    intro pair hpa
    obtain ⟨e, he, rfl⟩ := mem_map.1 hpa
    exact hc.closed hg he
  refine ⟨?_, ha⟩
  rw [eq_nil_iff_forall_not_mem]
  intro e he
  have hw := hjo.within e (hc.rearranged.within (mem_append_right _ he))
  exact (hc.not_mem_of_stuck hg he).1 (ha _ hw.1)

lemma Chain.complete_of_joinsBound (hb : p.base ∈ tablesOf p.docs)
    (hl : ∀ e ∈ p.edges, e.fromTable ≠ e.toTable) (h : JoinsBound [p.base] p.joins) : stuck = [] := by
  cases stuck with
  | nil => rfl
  | cons e rest =>
    obtain ⟨-, zs, more, ha, -, rfl⟩ := joinClauses_cons.1 hc.rest
    have ht := hc.untouched e (by simp)
    rw [Edge.touches, Bool.or_eq_false_iff] at ht
    cases ha with
    | nothing hf | forth hf => simp [hf] at ht
    | back _ hto => simp [hto] at ht
    | lone =>
      rw [hc.joins, joinsBound_append, singleton_append, ← hc.reached] at h
      have hr : e.toTable ∈ grown [p.base] taken ++ [e.fromTable] := h.2.1.2
      rcases mem_append.1 hr with hin | heq
      · exact absurd hin (hc.not_mem_of_stuck (textGraph_of_joins hjo hb) (by simp)).2
      · exact absurd (mem_singleton.1 heq).symm (hl e (hc.rearranged.within (by simp)))

end

lemma Chain.connected (hc : Chain p.base p.edges p.joins taken [] xs ys)
    (hjo : Joins plan p.docs p.edges) (hba : p.base ∈ tablesOf p.docs)
    (h : ∀ t ∈ tablesOf p.docs, t ∈ grown [p.base] taken) : Connected (p.edges.map ends) (tablesOf p.docs) := by
  have hr := hc.reaches hjo hba
  intro P hcu a ha b hb hPa
  have hed : ∀ e ∈ taken, P e.fromTable ↔ P e.toTable := fun e he =>
    hcu (ends e) (mem_map_of_mem (hc.rearranged.within (by simpa using he)))
  have hPbase : P p.base := by
    by_contra hPbase
    exact hr.spreads (fun v => ¬ P v) (fun e he => not_congr (hed e he)) (by simpa using hPbase)
      a (h a ha) hPa
  exact hr.spreads P hed (by simpa using hPbase) b (h b hb)

end

/-! ### Bound clauses -/

def aliasesOf (plan : Value) : List Value :=
  (docsOf (plan.peek "group_by") "aggregates").map (·.peek "alias")

/-- A column with its table is bound if the table is there. What stands alone is an expression or an
alias. -/
def Subject.Bound (tables names : List Value) : Subject → Prop
  | .column r => r.table ∈ tables
  | .bare v => isExpression v = .ok true ∨ isReached names v = true

/-- A select item is bound if its column is; the text of a window function is never taken as bound. -/
def SelectItem.Bound (tables : List Value) : SelectItem → Prop
  | .column r _ => r.table ∈ tables
  | .countDistinct arg _ => arg.Bound tables []
  | .aggregate _ arg _ => arg.Bound tables []
  | .window _ => False
  | .countAll _ | .everything => True

/-- Every column that a clause other than a join writes with its table has its table there. -/
def Clause.Bound (tables names : List Value) : Clause → Prop
  | .select items => ∀ i ∈ items, i.Bound tables
  | .filter c => c.subject.Bound tables []
  | .groupBy r => r.table ∈ tables
  | .having c => c.subject.Bound tables names
  | .orderBy (.subject subject _) => subject.Bound tables names
  | .orderBy (.node _) | .source _ | .join .. | .limit _ | .render _ => True

lemma Subject.Of.bound {sbj : Subject}
    (h : sbj.Of names doc) (ht : doc.peek "table" ∈ tables)
    (hn : ∀ v, isReached names v = true → isReached names' v = true) : sbj.Bound tables names' := by
  cases sbj with
  | column r =>
    rw [(get_ok.1 h.1).2] at ht
    exact ht
  | bare v => exact h.imp_right (hn v)

lemma isReached_aliasesOf (hg : plan.peek "group_by" = group)
    (h : aggregateAliases group = .ok names) (hv : isReached names v = true) : isReached (aliasesOf plan) v = true := by
  simp only [aggregateAliases, bind_ok, pure_ok, mapM_ok] at h
  obtain ⟨docs, hd, als, hal, rfl⟩ := h
  rw [isReached, any_eq_true] at hv ⊢
  obtain ⟨x, hx, hxv⟩ := hv
  refine ⟨x, ?_, hxv⟩
  have hx' := mem_of_mem_distinct hx
  simp only [mem_filterMap, id_eq, exists_eq_right] at hx'
  obtain ⟨a, ha, sn, hsh, hs⟩ := hal.exists_left hx'
  rw [aliasesOf, hg, docsOf_eq hd]
  split at hs
  · simp only [map_ok, Option.some.injEq] at hs
    obtain ⟨y, hy, rfl⟩ := hs
    rw [← hashable_ok hy, ← (get_ok.1 hsh).2]
    exact mem_map_of_mem ha
  · cases hs

section

variable {plan state context : Value} {s : Surroundings} {t t' : Traffic} {p : Parts} {tables : List Value}

lemma mem_tablesOf_of_get (hd : doc ∈ docs) (h : doc.get "table" = .ok table) : table ∈ tablesOf docs := by
  rw [← (get_ok.1 h).2]
  exact mem_map_of_mem hd

section

variable (hp : p.Of plan state context s t t')

include hp

/-- The select list of a plan is bound where its selections, keys and aggregates are. -/
lemma Parts.Of.items_bound (hpl : Bindable plan)
    (hse : ∀ t ∈ tablesOf p.docs, t ∈ tables) (hr : ∀ t ∈ referred plan, t ∈ tables) :
    ∀ i ∈ p.items, i.Bound tables := by
  obtain ⟨-, ⟨hke, hag, -⟩, -⟩ := forall_referred.1 hr
  rw [(get_ok.1 hp.group).2] at hke hag
  obtain ⟨windows, hwi, hit⟩ := hp.items
  obtain ⟨shown, docs, windowItems, hs, hd, hl, hit⟩ := selectItems_ok hit
  have hn : windowItems = [] := by
    have hw := hpl.windowless
    rw [docsOf_eq (by rw [itemsOf, hwi, ok_bind, hd])] at hw
    exact length_eq_zero_iff.1 (by rw [← hl, hw]; rfl)
  intro i hi
  rcases hit with ⟨heq, -⟩ | heq
  · rw [heq, mem_singleton] at hi
    rw [hi]
    trivial
  rw [heq, hn, append_nil] at hi
  rcases shownItems_ok hs with ⟨-, ks, aggregates, keyItems, aggregateItems, hk, ha, hkeyItems,
    haggregateItems, heq⟩ | ⟨-, hpr⟩
  · rw [docsOf_eq hk] at hke
    rw [docsOf_eq ha] at hag
    rw [heq, mem_append] at hi
    rcases hi with hi | hi
    · obtain ⟨key, hky, r, ⟨sn, rfl⟩, hof⟩ := hkeyItems.exists_left hi
      exact hke _ (mem_tablesOf_of_get hky hof.1)
    · obtain ⟨a, hagg, him⟩ := haggregateItems.exists_left hi
      have hb : ∀ arg : Subject, arg.Of [] a → arg.Bound tables [] := fun arg hof =>
        hof.bound (hag _ (mem_map_of_mem hagg)) fun _ => id
      rcases aggregateItem_ok him with ⟨_, rfl⟩ | ⟨arg, hof, _, rfl | ⟨_, rfl⟩⟩
      · trivial
      · exact hb arg hof
      · exact hb arg hof
  · obtain ⟨r, sn, rfl, doc, hdo, ht⟩ := projectionItems_ok hpr i hi
    exact hse _ (mem_tablesOf_of_get hdo ht)

lemma Parts.Of.shownTable_mem (hs : ∀ t ∈ tablesOf p.docs, t ∈ tables) (hr : ∀ t ∈ referred plan, t ∈ tables)
    (h : ShownTable p.docs p.group table) : table ∈ tables := by
  obtain ⟨-, ⟨hke, -, -⟩, -⟩ := forall_referred.1 hr
  rw [(get_ok.1 hp.group).2] at hke
  rcases h with ⟨-, ks, hk, key, hky, ht⟩ | ⟨doc, hd, ht⟩
  · rw [docsOf_eq hk] at hke
    exact hke _ (mem_tablesOf_of_get hky ht)
  · exact hs _ (mem_tablesOf_of_get hd ht)

lemma Parts.Of.conditions_bound
    (hre : ∀ t ∈ referred plan, t ∈ tables) : ∀ c ∈ p.conditions, c.subject.Bound tables [] := by
  obtain ⟨⟨ho, hs, -⟩, -, hsu⟩ := forall_referred.1 hre
  obtain ⟨globals, subs, hg, hs', hco⟩ := hp.conditions
  intro c hc
  rcases rowConditions_ok hco c hc with ⟨doc, hd, filters, hfi, f, hf, hof⟩ |
    ⟨filters, hfi, f, hf, hof⟩ | ⟨filters, hfi, f, hf, r, hr, ht⟩
  · have hin := ho doc (by rwa [docsOf_eq hp.selections])
    rw [docsOf_eq hfi] at hin
    exact hof.bound (hin _ (mem_map_of_mem hf)) fun _ => id
  · rw [docsOf_eq (by rw [itemsOf, hg, ok_bind, hfi])] at hs
    exact hof.bound (hs _ (mem_map_of_mem hf)) fun _ => id
  · rw [docsOf_eq (by rw [itemsOf, hs', ok_bind, hfi])] at hsu
    have hin := (hsu f hf).1
    rw [(get_ok.1 ht).2] at hin
    rw [hr]
    exact hin

lemma Parts.Of.groups_bound
    (hre : ∀ t ∈ referred plan, t ∈ tables) : ∀ c ∈ p.groups, c.Bound tables (aliasesOf plan) := by
  obtain ⟨-, ⟨hk, -, hh⟩, -⟩ := forall_referred.1 hre
  have hg := (get_ok.1 hp.group).2
  rw [hg] at hk hh
  intro c hc
  rcases groupClauses_ok hp.groups with ⟨-, hno⟩ | ⟨-, docs, ks, conds, hd, hr, heq, hco⟩
  · simp [hno] at hc
  rw [docsOf_eq hd] at hk
  rw [heq, mem_append] at hc
  rcases hc with hc | hc
  · obtain ⟨doc, hdo, r, rfl, hof⟩ := hr.exists_left hc
    exact hk _ (mem_tablesOf_of_get hdo hof.1)
  · obtain ⟨filters, f, names, cond, hfi, hf, hn, hof, rfl⟩ := hco c hc
    rw [docsOf_eq hfi] at hh
    exact hof.bound (hh _ (mem_map_of_mem hf)) fun v => isReached_aliasesOf hg hn

/-- The sort keys are bound where the plan's own keys and the shown columns are. -/
lemma Parts.Of.orders_bound (hse : ∀ t ∈ tablesOf p.docs, t ∈ tables) (hr : ∀ t ∈ referred plan, t ∈ tables) :
    ∀ c ∈ p.orders, c.Bound tables (aliasesOf plan) := by
  obtain ⟨⟨-, -, ho⟩, -⟩ := forall_referred.1 hr
  intro c hc
  rcases orderClauses_gives hp.orders c hc with ⟨_, rfl⟩ | ⟨sbj, descending, rfl,
    ⟨ks, key, names, hk, hke, hn, hof⟩ | ⟨r, rfl, hs⟩⟩
  · trivial
  · rw [docsOf_eq hk] at ho
    refine hof.bound (ho _ (mem_map_of_mem hke)) fun v hv => ?_
    rcases hn with rfl | hn
    · simp [isReached] at hv
    · exact isReached_aliasesOf (get_ok.1 hp.group).2 hn hv
  · exact hp.shownTable_mem hse hr hs

lemma Parts.Of.clauses_bound (hpl : Bindable plan)
    (hs : ∀ t ∈ tablesOf p.docs, t ∈ tables) (hre : ∀ t ∈ referred plan, t ∈ tables) :
    ∀ c ∈ p.clauses, c.Bound tables (aliasesOf plan) := by
  intro c hc
  simp only [Parts.clauses, Parts.after, mem_cons, mem_append, mem_map, not_mem_nil, or_false] at hc
  rcases hc with rfl | rfl | hc | ((((⟨cond, hc, rfl⟩ | hc) | hc) | hc) | hc) | rfl
  · exact hp.items_bound hpl hs hre
  · trivial
  · obtain ⟨_, _, _, _, rfl⟩ := joinClauses_are_joins hp.joins c hc
    trivial
  · exact hp.conditions_bound hre cond hc
  · obtain ⟨cond, r, rfl, hr, doc, hd, ht⟩ := timeClause_ok hp.time c hc
    rw [Clause.Bound, hr]
    exact hs _ (mem_tablesOf_of_get hd ht)
  · exact hp.groups_bound hre c hc
  · exact hp.orders_bound hs hre c hc
  · obtain ⟨_, rfl⟩ := limitClause_ok hp.limits c hc
    trivial
  · trivial

end

end

/-- A statement built from a plan that passes both checks brings in every selected table once, joins
each on tables that are there, and writes every column with a table that is there. If the joins of a
statement are such, and no edge connects a table to itself, then the plan passes the second check. -/
theorem tables_bound_of_checks {plan state context : Value} {s : Surroundings} {t t' : Traffic}
    {clauses : List Clause} {walk : List Value → List Value} (hplan : Bindable plan)
    (hwalk : ∀ xs, (walk xs).Perm xs) (hbuilt : Gives (buildClauses plan state context) s t clauses t') :
    (referenceIssues plan = .ok [] → connectivityIssues walk plan = .ok [] →
      (∀ table ∈ tablesOf (docsOf plan "selections"), Once table (introduced clauses)) ∧
        JoinsBound [] clauses ∧ ∀ c ∈ clauses, c.Bound (introduced clauses) (aliasesOf plan)) ∧
    ((∀ e ∈ docsOf plan "join_edges", e.peek "from_table" ≠ e.peek "to_table") →
      (∀ table ∈ tablesOf (docsOf plan "selections"), Once table (introduced clauses)) →
        JoinsBound [] clauses → connectivityIssues walk plan = .ok []) := by
  obtain ⟨p, hp, rfl⟩ := buildClauses_parts hbuilt
  have hjo := hplan.joins hp
  obtain ⟨taken, stuck, xs, ys, hc⟩ := hp.chain hjo
  rw [docsOf_eq hp.selections, hp.joinsBound_iff, hp.introduced_clauses, hc.joins, introduced_append,
    connectivityIssues_eq_nil_iff hjo hwalk]
  constructor
  · intro hr hco
    obtain ⟨rfl, ha⟩ := hc.complete_of_connected hjo hp.base_mem hco
    have hn : ys = [] := (Except.ok.inj hc.rest).symm
    have hre : grown [p.base] taken = p.base :: (introduced xs ++ introduced ys) := by
      rw [hc.reached, hn]
      simp [introduced]
    rw [← hre]
    refine ⟨fun table ht => once_of_nodup (hc.reaches hjo hp.base_mem).nodup (ha table ht), ?_, ?_⟩
    · rw [hn, append_nil]
      exact joinsBound_of_attached hc.attached
    · exact hp.clauses_bound hplan ha fun table ht => ha table (hplan.mem_selected hp hr table ht)
  · intro hl ho hb
    obtain ⟨hdo, hrd⟩ := hp.edges_read
    have hd : ∀ e ∈ p.edges, e.fromTable ≠ e.toTable := by
      intro e he
      rw [← (hrd e he).1, ← (hrd e he).2]
      exact hl e.doc (by rw [hdo]; exact mem_map_of_mem he)
    rw [← hc.joins] at hb
    obtain rfl := hc.complete_of_joinsBound hjo hp.base_mem hd hb
    refine hc.connected hjo hp.base_mem fun table ht => ?_
    have hin := (ho table ht).mem
    have hn : ys = [] := (Except.ok.inj hc.rest).symm
    rw [hn] at hin
    rw [hc.reached]
    simpa [introduced] using hin

/-- Three tables in a row, the farthest one joined first and twice. -/
def salesEdges : List Value :=
  [.record [("from_table", "customers"), ("from_column", "region"), ("to_table", "regions"), ("to_column", "id")],
    .record [("from_table", "regions"), ("from_column", "head"), ("to_table", "customers"), ("to_column", "id")],
    .record [("from_table", "orders"), ("from_column", "buyer"), ("to_table", "customers"), ("to_column", "id")]]

def salesPlan : Value :=
  .record [("selections", .list [
      .record [("table", "orders"), ("columns", .list [.record [("column", "CreatedOn"), ("role", "filter")]])],
      .record [("table", "regions"), ("filters", .list [
        .record [("table", "customers"), ("column", "email"), ("op", "is_not_null")]])],
      .record [("table", "customers")]]),
    ("join_edges", .list salesEdges),
    ("group_by", .record [("group_by_columns", .list [.record [("table", "regions"), ("column", "name")]]),
      ("aggregates", .list [
        .record [("function", "COUNT"), ("table", "orders"), ("column", "id"), ("alias", "sold")]]),
      ("having_filters", .list [.record [("table", "orders"), ("column", "sold"), ("op", ">"), ("value", .int 9)]])]),
    ("order_by", .list [.record [("table", "orders"), ("column", "sold"), ("direction", "DESC")]])]

/-- The clauses of the plan for the last week. -/
def salesClauses : List Clause :=
  [.select [.column ⟨"regions", "name"⟩ none, .aggregate "COUNT" (.column ⟨"orders", "id"⟩) "sold"], .source "orders",
    .join "customers" ⟨"orders", "buyer"⟩ ⟨"customers", "id"⟩ none,
    .join "regions" ⟨"customers", "region"⟩ ⟨"regions", "id"⟩ none,
    .filter ⟨.column ⟨"customers", "email"⟩, .isNotNull⟩,
    .filter ⟨.column ⟨"orders", "CreatedOn"⟩, .compare ">=" "DATEADD(day, -7, GETDATE())"⟩,
    .groupBy ⟨"regions", "name"⟩,
    .having ⟨.bare "sold", .compare ">" "9"⟩,
    .orderBy (.subject (.bare "sold") true),
    .render "tsql"]

lemma bindable_salesPlan : Bindable salesPlan where
  windowless := rfl
  selected := by
    show ∀ t ∈ [text "orders", "regions", "customers"], IsName t
    simp [IsName]
  named := by
    show ∀ t ∈ [text "customers", "orders", "regions", "orders", "orders"], IsName t
    simp [IsName]
  joined := by
    have ht : tablesOf (docsOf salesPlan "selections") = ["orders", "regions", "customers"] := rfl
    rw [ht]
    show ∀ e ∈ salesEdges, _
    simp [salesEdges, peek, lookup_cons]

theorem tables_bound_of_checks_sales :
    ((∀ table ∈ [text "orders", "regions", "customers"], Once table (introduced salesClauses)) ∧
      JoinsBound [] salesClauses ∧
      ∀ c ∈ salesClauses, c.Bound (introduced salesClauses) (aliasesOf salesPlan)) ∧
    connectivityIssues id salesPlan = .ok [] := by
  have hbu : Gives (buildClauses salesPlan (.record [("time_filter", "Last 7 Days")])
      (.record [("dialect", "tsql"), ("is_sqlite", .bool false)])) {} {} salesClauses {} := rfl
  obtain ⟨hf, hba⟩ := tables_bound_of_checks bindable_salesPlan (fun xs => List.Perm.refl xs) hbu
  have hb := hf rfl rfl
  have hl : ∀ e ∈ salesEdges, e.peek "from_table" ≠ e.peek "to_table" := by
    simp [salesEdges, peek, lookup_cons]
  exact ⟨hb, hba hl hb.1 hb.2.1⟩

end QueryDesk.Sql
