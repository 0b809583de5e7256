import QueryDesk.Proofs.Binding

/-!
Joins span the component of the first table. The ordering of the edges keeps all of them, whatever bound is set on
its passes. The tables it has reached at any time are those that the joins of the edges taken by then bring in, so
the joins of all edges taken are a spanning tree of the tables that hang together with the first one. The edges that
join nothing are those whose tables are both there when their turn comes.
-/

namespace QueryDesk.Sql

open Desk Plan List

/-! ### The join graph of a plan -/

/-- The table that the joins of a plan start from: the one selected first. -/
def baseOf (plan : Value) : Value := (tablesOf (docsOf plan "selections")).headD .null

def edgesOf (plan : Value) : List Edge :=
  (docsOf plan "join_edges").map fun doc => ⟨doc, doc.peek "from_table", doc.peek "to_table"⟩

/-- A plan whose joins can be read: its first table, the tables of its edges and their kinds are texts. -/
structure Joinable (plan : Value) : Prop where
  base : IsText (baseOf plan)
  ends : TextEnds (edgesOf plan)
  kinds : ∀ e ∈ edgesOf plan, IsText e.kind

section

variable {plan state context : Value} {s : Surroundings} {t t' : Traffic} {p : Parts}

lemma Parts.Of.base_eq (hp : p.Of plan state context s t t') : p.base = baseOf plan := by
  obtain ⟨first, rest, hd, hb⟩ := hp.base
  rw [baseOf, docsOf_eq hp.selections, hd]
  exact (Value.get_ok.1 hb).2.symm

lemma Parts.Of.edges_eq (hp : p.Of plan state context s t t') : p.edges = edgesOf plan := by
  obtain ⟨hd, ht⟩ := hp.edges_read
  rw [edgesOf, hd, map_map]
  conv => lhs; rw [← map_id p.edges]
  refine map_congr_left fun e he => ?_
  obtain ⟨hf, hto⟩ := ht e he
  simp [hf, hto]

lemma Joinable.textGraph (h : Joinable plan) : TextGraph (baseOf plan) (edgesOf plan) := by
  refine ⟨h.base, h.ends, fun e he => ?_⟩
  obtain ⟨doc, -, rfl⟩ := mem_map.1 he
  exact ⟨rfl, rfl⟩

lemma Joinable.joins (h : Joinable plan) (hes : es ⊆ edgesOf plan) (r : List Value) :
    ∃ cs, joinClauses r es = .ok cs := by
  refine joinClauses_gives fun e he => ⟨?_, h.kinds e (hes he)⟩
  obtain ⟨ht, -⟩ := h.textGraph.told e (hes he)
  obtain ⟨name, hn⟩ := (h.ends e (hes he)).1
  rw [hn] at ht
  cases hd : e.doc with
  | record fs => exact ⟨fs, rfl⟩
  | _ => simp [hd, Value.peek] at ht

end

/-! ### The component of the first table -/

/-- The tables that hang together with a table along some edges. -/
inductive Linked (base : Value) (edges : List Edge) : Value → Prop
  | base : Linked base edges base
  | forth {e : Edge} (he : e ∈ edges) (h : Linked base edges e.fromTable) : Linked base edges e.toTable
  | back {e : Edge} (he : e ∈ edges) (h : Linked base edges e.toTable) : Linked base edges e.fromTable

def Clause.Compares (e : Edge) : Clause → Prop
  | .join _ left right _ =>
    (left = e.fromColumn ∧ right = e.toColumn) ∨ (left = e.toColumn ∧ right = e.fromColumn)
  | _ => False

/-- How the edges are ordered: none is lost or doubled, the bound on the passes plays no part, and the edges `taken` in
the component of the base come before the edges `stuck` outside of it. -/
structure InOrder (base : Value) (edges taken stuck : List Edge) : Prop where
  ordered : orderEdges base edges = taken ++ stuck
  kept : Rearranged (taken ++ stuck) edges
  unbounded : ∀ n, edges.length ≤ n → sortPasses n (.start base edges) = taken ++ stuck
  inside : ∀ e ∈ taken, Linked base edges e.fromTable ∧ Linked base edges e.toTable
  outside : ∀ e ∈ stuck, ¬ Linked base edges e.fromTable ∧ ¬ Linked base edges e.toTable

/-- At every time of the ordering the tables reached are the base and those that the joins of the edges taken so far
bring in, and these joins are the first ones recorded. In the end all of `taken` is taken and `stuck` is left. -/
structure InStep (base : Value) (edges taken stuck : List Edge) (joins : List Clause) : Prop where
  always : ∀ n walked ahead, (Sorting.pass^[n] (.start base edges)).left = walked ++ ahead →
    (Sorting.during base edges n walked).taken <+: taken ∧
      ∃ xs, joinClauses [base] (Sorting.during base edges n walked).taken = .ok xs ∧ xs <+: joins ∧
        (Sorting.during base edges n walked).reached = base :: introduced xs
  last : ∃ reached, Sorting.pass^[edges.length] (.start base edges) = ⟨reached, taken, stuck⟩

/-- Joins that are a spanning tree of the component of the base: they bring in its other tables, each once, and each
on a condition of an edge between it and a table that is there. -/
structure SpanningTree (base : Value) (edges : List Edge) (joins : List Clause) : Prop where
  tables : ∀ table, Linked base edges table ↔ table ∈ base :: introduced joins
  nodup : (base :: introduced joins).Nodup
  attached : Attached [base] joins
  along : ∀ c ∈ joins, ∃ e ∈ edges, c.Compares e

/-- What happens to an edge whose turn comes behind the edges `a`: `before` is joined by then, it adds `added`, and
`behind` follows. -/
structure Turn (base : Value) (joins : List Clause) (a : List Edge) (e : Edge) (before added behind : List Clause) :
    Prop where
  joined : joinClauses [base] a = .ok before
  adds : e.Adds (base :: introduced before) added
  joins : joins = before ++ added ++ behind

section

variable {base : Value} {edges taken stuck a b : List Edge} {joins xs ys : List Clause} {r : List Value} {e : Edge}

section

variable (hc : Chain base edges joins taken stuck xs ys)

include hc

lemma Chain.linked_iff (hg : TextGraph base edges) (tb : Value) :
    Linked base edges tb ↔ tb ∈ grown [base] taken := by
  have hr := hc.spread hg
  constructor
  · intro h
    induction h with
    | base => exact hr.start (by simp)
    | forth he _ ih => exact (hc.closed hg he).1 ih
    | back he _ ih => exact (hc.closed hg he).2 ih
  · refine hr.spreads (Linked base edges) (fun e he => ?_) ?_ tb
    · have hm : e ∈ edges := hc.rearranged.within (mem_append_left _ he)
      exact ⟨.forth hm, .back hm⟩
    · rintro v hv
      rw [mem_singleton.1 hv]
      exact .base

lemma Chain.inOrder (hg : TextGraph base edges) :
    InOrder base edges taken stuck where
  ordered := hc.ordered
  kept := hc.rearranged
  unbounded n hn := by
    rw [sortPasses_start hn, hc.last]
  inside e he := by
    rw [hc.linked_iff hg, hc.linked_iff hg]
    exact (hc.spread hg).both e he
  outside e he := by
    rw [hc.linked_iff hg, hc.linked_iff hg]
    exact hc.not_mem_of_stuck hg he

lemma Chain.inStep (hg : TextGraph base edges) :
    InStep base edges taken stuck joins where
  always n walked ahead h := by
    have ht := Sorting.during_taken h
    rw [hc.last] at ht
    obtain ⟨rest, (hr : (Sorting.during base edges n walked).taken ++ rest = taken)⟩ := ht
    have hs := Sorting.during_sound base edges n walked
    have hf := hc.first
    rw [← hr] at hf
    obtain ⟨zs, more, hzs, -, hxs⟩ := joinClauses_append.1 hf
    have hte : TextEnds (Sorting.during base edges n walked).taken := by
      intro e he
      exact hc.texts hg e (mem_append_left _ (hr ▸ mem_append_left _ he))
    obtain ⟨-, hgr⟩ := joinClauses_chained (by simpa using hg.base) hte hs.chained hzs
    refine ⟨⟨rest, hr⟩, zs, hzs, ⟨more ++ ys, ?_⟩, hs.reached.trans hgr⟩
    rw [hc.joins, hxs, append_assoc]
  last := ⟨_, hc.last⟩

end

lemma Edge.Adds.compares (h : e.Adds r cs) : ∀ c ∈ cs, c.Compares e := by
  intro c hc
  cases h with
  | nothing => simp at hc
  | forth | lone =>
    rw [mem_singleton] at hc
    subst hc
    exact .inl ⟨rfl, rfl⟩
  | back =>
    rw [mem_singleton] at hc
    subst hc
    exact .inr ⟨rfl, rfl⟩

lemma Chain.spanningTree (hc : Chain base edges joins taken stuck xs ys) (hg : TextGraph base edges) :
    SpanningTree base edges xs where
  tables table := by rw [hc.linked_iff hg, hc.reached]
  nodup := hc.reached ▸ (hc.spread hg).nodup
  attached := hc.attached
  along c hm := by
    obtain ⟨e, he, r, ha⟩ := joinClauses_mem hc.first c hm
    exact ⟨e, hc.rearranged.within (mem_append_left _ he), ha.compares c (by simp)⟩

lemma Edge.Adds.introduced_subset (h : e.Adds r cs) : introduced cs ⊆ [e.fromTable, e.toTable] := by
  cases h <;> simp

lemma joinClauses_introduced (h : joinClauses r b = .ok cs) :
    ∀ table ∈ introduced cs, ∃ e ∈ b, table = e.fromTable ∨ table = e.toTable := by
  intro table ht
  obtain ⟨c, hm, hta⟩ := mem_filterMap.1 ht
  obtain ⟨e, he, r', ha⟩ := joinClauses_mem h c hm
  have hin := ha.introduced_subset (a := table) (by simp [introduced, hta])
  exact ⟨e, he, by simpa using hin⟩

lemma Chain.outside (hc : Chain base edges joins taken stuck xs ys) (hg : TextGraph base edges) :
    ∀ table ∈ introduced ys, ¬ Linked base edges table := by
  intro table ht
  obtain ⟨e, he, rfl | rfl⟩ := joinClauses_introduced hc.rest table ht
  · exact ((hc.inOrder hg).outside e he).1
  · exact ((hc.inOrder hg).outside e he).2

lemma joinClauses_turn (h : joinClauses [base] (a ++ e :: b) = .ok joins) :
    ∃ pre added behind, Turn base joins a e pre added behind := by
  obtain ⟨pre, zs, hb, hzs, hj⟩ := joinClauses_append.1 h
  obtain ⟨-, added, behind, ha, -, rfl⟩ := joinClauses_cons.1 hzs
  exact ⟨pre, added, behind, hb, ha, by rw [hj, append_assoc]⟩

/-- The tables that joins bring in have texts for names if the ends of the edges do. -/
lemma texts_of_joined (hr : ∀ x ∈ r, IsText x) (ht : TextEnds b) (h : joinClauses r b = .ok cs) :
    ∀ x ∈ r ++ introduced cs, IsText x := by
  intro x hx
  rcases mem_append.1 hx with hx | hx
  · exact hr x hx
  · obtain ⟨f, hf, rfl | rfl⟩ := joinClauses_introduced h x hx
    · exact (ht f hf).1
    · exact (ht f hf).2

lemma Edge.Adds.eq_nil_iff (h : e.Adds r cs) (hr : ∀ x ∈ r, IsText x) (he : IsText e.fromTable ∧ IsText e.toTable) :
    cs = [] ↔ e.fromTable ∈ r ∧ e.toTable ∈ r := by
  rw [← isReached_iff hr he.1, ← isReached_iff hr he.2]
  cases h <;> simp_all

end

def joinsIn (clauses : List Clause) : List Clause := clauses.filter fun c => c matches .join ..

lemma Parts.Of.joinsIn_clauses {p : Parts}
    (hp : p.Of plan state context s t t') : joinsIn p.clauses = p.joins := by
  have hj : joinsIn p.joins = p.joins := by
    refine filter_eq_self.2 fun c hc => ?_
    obtain ⟨tb, left, right, side, rfl⟩ := joinClauses_are_joins hp.joins c hc
    rfl
  have ha : joinsIn p.after = [] := by
    refine filter_eq_nil_iff.2 fun c hc => ?_
    have hpl := hp.after_plain c hc
    cases c with
    | join => simp [Clause.table?] at hpl
    | _ => simp
  show joinsIn (p.joins ++ p.after) = _
  rw [joinsIn, filter_append, ← joinsIn, ← joinsIn, hj, ha, append_nil]

/-- What the joins of a plan are: those of the edges `taken`, which are a spanning tree of the tables that hang together
with the first one, and behind them those of the edges `stuck`. -/
structure Spans (plan : Value) (taken stuck : List Edge) (joins inside outside : List Clause) : Prop where
  joined : joinClauses [baseOf plan] (orderEdges (baseOf plan) (edgesOf plan)) = .ok joins
  /-- Any statement of the plan starts from its first table and has these joins. -/
  recorded : ∀ state context s t clauses t', Gives (buildClauses plan state context) s t clauses t' →
    introduced clauses = baseOf plan :: introduced joins ∧ joinsIn clauses = joins
  inOrder : InOrder (baseOf plan) (edgesOf plan) taken stuck
  inStep : InStep (baseOf plan) (edgesOf plan) taken stuck joins
  parts : joins = inside ++ outside
  tree : SpanningTree (baseOf plan) (edgesOf plan) inside
  apart : ∀ table ∈ introduced outside, ¬ Linked (baseOf plan) (edgesOf plan) table
  once : ∀ table, Linked (baseOf plan) (edgesOf plan) table → Once table (baseOf plan :: introduced joins)
  /-- An edge is skipped exactly if both of its tables are there when its turn comes. -/
  skipped : ∀ a e b, taken ++ stuck = a ++ e :: b → ∃ before added behind,
    Turn (baseOf plan) joins a e before added behind ∧
      (added = [] ↔ e.fromTable ∈ baseOf plan :: introduced before ∧ e.toTable ∈ baseOf plan :: introduced before)

/-- The joins of a plan span the component of its first table. -/
theorem joins_span_component {plan : Value} (hplan : Joinable plan) :
    ∃ taken stuck joins inside outside, Spans plan taken stuck joins inside outside := by
  have hg := hplan.textGraph
  have hw : orderEdges (baseOf plan) (edgesOf plan) ⊆ edgesOf plan := by
    obtain ⟨taken, stuck, -, ho, hr, -⟩ := orderEdges_spec (baseOf plan) (edgesOf plan)
    exact ho ▸ hr.within
  obtain ⟨joins, hj⟩ := hplan.joins hw [baseOf plan]
  obtain ⟨taken, stuck, xs, ys, hc⟩ := hg.chain hj
  have ht := hc.spanningTree hg
  refine ⟨taken, stuck, joins, xs, ys, hj, ?_, hc.inOrder hg, hc.inStep hg, hc.joins, ht, hc.outside hg, ?_, ?_⟩
  · intro state context s t clauses t' hb
    obtain ⟨p, hp, rfl⟩ := buildClauses_parts hb
    have heq := hp.joins
    rw [hp.base_eq, hp.edges_eq, hj] at heq
    cases heq
    exact ⟨hp.base_eq ▸ hp.introduced_clauses, hp.joinsIn_clauses⟩
  · intro table hl
    rw [hc.joins, introduced_append, ← cons_append]
    exact (once_of_nodup ht.nodup ((ht.tables table).1 hl)).append fun hin => hc.outside hg table hin hl
  · intro a e b hpl
    rw [hc.ordered, hpl] at hj
    obtain ⟨before, added, behind, htu⟩ := joinClauses_turn hj
    have hte : TextEnds (a ++ e :: b) := hpl ▸ hc.texts hg
    have hth := texts_of_joined (by simpa using hg.base) (fun f hf => hte f (by simp [hf])) htu.joined
    exact ⟨before, added, behind, htu, htu.adds.eq_nil_iff hth (hte e (by simp))⟩

def edgeDoc (fromTable fromColumn toTable toColumn kind : String) : Value :=
  .record [("from_table", .text fromTable), ("from_column", .text fromColumn), ("to_table", .text toTable),
    ("to_column", .text toColumn), ("join_type", .text kind)]

structure Documented (plan : Value) (docs : List Value) : Prop where
  base : IsText (baseOf plan)
  edges : docsOf plan "join_edges" = docs
  docs : ∀ doc ∈ docs, ∃ a b c d kind, doc = edgeDoc a b c d kind

lemma Documented.joinable {docs : List Value} (h : Documented plan docs) : Joinable plan := by
  refine ⟨h.base, fun e he => ?_, fun e he => ?_⟩ <;> rw [edgesOf, h.edges] at he
  · obtain ⟨doc, hd, rfl⟩ := mem_map.1 he
    obtain ⟨a, b, c, d, kind, rfl⟩ := h.docs doc hd
    exact ⟨⟨a, rfl⟩, ⟨c, rfl⟩⟩
  · obtain ⟨doc, hd, rfl⟩ := mem_map.1 he
    obtain ⟨a, b, c, d, kind, rfl⟩ := h.docs doc hd
    exact ⟨kind, rfl⟩

/-- Edges with a second component, one edge twice, a circle, and a table connected to itself. -/
def ringEdges : List Value :=
  [edgeDoc "lots" "shelf" "shelves" "id" "inner", edgeDoc "customers" "region" "regions" "id" "left",
    edgeDoc "orders" "buyer" "customers" "id" "inner",
    edgeDoc "customers" "region" "regions" "id" "left",
    edgeDoc "regions" "id" "orders" "region" "inner",
    edgeDoc "orders" "parent" "orders" "id" "inner"]

def ringPlan : Value :=
  .record [("selections", .list [.record [("table", "orders")]]), ("join_edges", .list ringEdges), ("group_by", .null)]

def ringJoins : List Clause :=
  [.join "customers" ⟨"orders", "buyer"⟩ ⟨"customers", "id"⟩ none,
    .join "regions" ⟨"customers", "region"⟩ ⟨"regions", "id"⟩ (some "left"),
    .join "lots" ⟨"lots", "shelf"⟩ ⟨"shelves", "id"⟩ none]

lemma ringPlan_documented : Documented ringPlan ringEdges := ⟨⟨"orders", rfl⟩, rfl, by simp [ringEdges, edgeDoc]⟩

theorem joins_span_component_ring : Joinable ringPlan ∧
    ∃ taken stuck inside outside, Spans ringPlan taken stuck ringJoins inside outside := by
  have hp := ringPlan_documented.joinable
  have hj : joinClauses [baseOf ringPlan] (orderEdges (baseOf ringPlan) (edgesOf ringPlan)) = .ok ringJoins := rfl
  obtain ⟨taken, stuck, joins, inside, outside, h⟩ := joins_span_component hp
  obtain rfl : ringJoins = joins := Except.ok.inj (hj.symm.trans h.joined)
  exact ⟨hp, taken, stuck, inside, outside, h⟩

end QueryDesk.Sql
