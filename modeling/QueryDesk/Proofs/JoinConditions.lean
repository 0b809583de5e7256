import QueryDesk.Proofs.SpanningJoins

/-!
Join conditions that are lost. An edge whose tables are both there when its turn comes is skipped, and its condition
with it; the conditions on rows do not make up for it, since they do not depend on the edges. So of a connected
plan those conditions are stated that some joined edge has, and as many edges are skipped as there are more of them
than a tree would need: of several edges between two tables one is joined, and nothing is lost only if the edges are
a tree.
-/

namespace QueryDesk.Sql

open Desk Plan List Value

/-! ### Connected plans -/

/-- The tables of all edges of a plan hang together with its first one. -/
def Whole (plan : Value) : Prop := ∀ e ∈ edgesOf plan, Linked (baseOf plan) (edgesOf plan) e.fromTable

/-- In a connected plan every edge touches a table that is there when its turn comes, and the joins span all tables. -/
lemma Whole.complete (hw : Whole plan) (hp : Joinable plan)
    (h : joinClauses [baseOf plan] (orderEdges (baseOf plan) (edgesOf plan)) = .ok joins) :
    Chained [baseOf plan] (orderEdges (baseOf plan) (edgesOf plan)) ∧
      SpanningTree (baseOf plan) (edgesOf plan) joins := by
  have hg := hp.textGraph
  obtain ⟨taken, stuck, xs, ys, hc⟩ := hg.chain h
  have hs : stuck = [] := by
    rw [eq_nil_iff_forall_not_mem]
    intro e he
    have hl := hw e (hc.rearranged.within (mem_append_right _ he))
    exact ((hc.inOrder hg).outside e he).1 hl
  subst hs
  have hys : ys = [] := (Except.ok.inj hc.rest).symm
  have ht := hc.spanningTree hg
  rw [hc.ordered, hc.joins, hys, append_nil, append_nil]
  exact ⟨hc.chained, ht⟩

/-! ### Joined and skipped edges -/

/-- Which of some edges join a table to the tables `r`, with the joins they make, and which are skipped because both
of their tables are there. -/
inductive Sifted : List Value → List Edge → List Edge → List Edge → List Clause → Prop
  | done {r : List Value} : Sifted r [] [] [] []
  | join {r : List Value} {e : Edge} {es joined skipped : List Edge} {c : Clause} {cs : List Clause}
      (h : e.Attaches r [c]) (hrest : Sifted (r ++ introduced [c]) es joined skipped cs) :
      Sifted r (e :: es) (e :: joined) skipped (c :: cs)
  | skip {r : List Value} {e : Edge} {es joined skipped : List Edge} {cs : List Clause}
      (hfrom : e.fromTable ∈ r) (hto : e.toTable ∈ r) (hrest : Sifted r es joined skipped cs) :
      Sifted r (e :: es) joined (e :: skipped) cs

section

variable {e : Edge} {joined skipped : List Edge} {c : Clause}

lemma sifted_of_chained (hr : ∀ x ∈ r, IsText x) (hes : TextEnds es) (hc : Chained r es)
    (h : joinClauses r es = .ok cs) : ∃ joined skipped, Sifted r es joined skipped cs := by
  induction es generalizing r cs with
  | nil =>
    cases h
    exact ⟨[], [], .done⟩
  | cons e es ih =>
    obtain ⟨-, xs, ys, had, hys, rfl⟩ := joinClauses_cons.1 h
    obtain ⟨ht, hre⟩ := hc
    have he := hes e (by simp)
    have ha := had.attaches ht hr he
    have hm := ha.reach_eq hr he
    rw [hm] at hre
    obtain ⟨joined, skipped, hs⟩ := ih (hm ▸ names_reach hr (e.text_ends he r).1)
      (fun f hf => hes f (by simp [hf])) hre hys
    cases ha with
    | nothing hfr hto =>
      rw [introduced_nil, append_nil] at hs
      exact ⟨joined, e :: skipped, .skip hfr hto hs⟩
    | forth hfr hto hsi => exact ⟨e :: joined, skipped, .join (.forth hfr hto hsi) hs⟩
    | back hfr hto hsi => exact ⟨e :: joined, skipped, .join (.back hfr hto hsi) hs⟩

lemma Sifted.perm (h : Sifted r es joined skipped cs) : (joined ++ skipped).Perm es := by
  induction h with
  | done => exact .refl _
  | join _ _ ih => exact ih.cons _
  | skip _ _ _ ih => exact perm_middle.trans (ih.cons _)

lemma Edge.Attaches.compares (h : e.Attaches r [c]) : c.Compares e := by
  cases h with
  | forth => exact .inl ⟨rfl, rfl⟩
  | back => exact .inr ⟨rfl, rfl⟩

lemma Sifted.states (h : Sifted r es joined skipped cs) : Forall₂ (fun e c => c.Compares e) joined cs := by
  induction h with
  | done => exact .nil
  | join h _ ih => exact .cons h.compares ih
  | skip _ _ _ ih => exact ih

lemma Sifted.length_eq (h : Sifted r es joined skipped cs) : joined.length = (introduced cs).length := by
  induction h with
  | done => rfl
  | join h _ ih => cases h <;> simpa using ih
  | skip _ _ _ ih => exact ih

lemma Edge.Attaches.ends_mem (h : e.Attaches r [c]) :
    (e.fromTable ∈ r ++ introduced [c] ∧ e.toTable ∈ r ++ introduced [c]) ∧ ¬ (e.fromTable ∈ r ∧ e.toTable ∈ r) := by
  cases h with
  | forth hf hto => simp [hf, hto]
  | back hf hto => simp [hf, hto]

lemma Sifted.not_mem (h : Sifted r es joined skipped cs) : ∀ e ∈ joined, ¬ (e.fromTable ∈ r ∧ e.toTable ∈ r) := by
  induction h with
  | done => simp
  | join h _ ih =>
    intro f hf
    rcases mem_cons.1 hf with rfl | hf
    · exact h.ends_mem.2
    · rintro ⟨hfr, hto⟩
      exact ih f hf ⟨mem_append_left _ hfr, mem_append_left _ hto⟩
  | skip _ _ _ ih => exact ih

/-- The two edges connect the same tables, or the second a table to itself. -/
def Edge.Parallel (e f : Edge) : Prop :=
  (f.fromTable = e.fromTable ∨ f.fromTable = e.toTable) ∧ (f.toTable = e.fromTable ∨ f.toTable = e.toTable)

lemma Sifted.parallel (h : Sifted r es joined skipped cs) : joined.Pairwise fun e f => ¬ e.Parallel f := by
  induction h with
  | done => exact .nil
  | join h hr ih =>
    refine pairwise_cons.2 ⟨fun f hf => ?_, ih⟩
    obtain ⟨hfr, hto⟩ := h.ends_mem.1
    rintro ⟨hff, hft⟩
    refine hr.not_mem f hf ⟨?_, ?_⟩
    · rcases hff with heq | heq <;> rw [heq] <;> assumption
    · rcases hft with heq | heq <;> rw [heq] <;> assumption
  | skip _ _ _ ih => exact ih

end

/-! ### Conditions -/

def Edge.SameColumns (e f : Edge) : Prop :=
  (e.fromColumn = f.fromColumn ∧ e.toColumn = f.toColumn) ∨ (e.fromColumn = f.toColumn ∧ e.toColumn = f.fromColumn)

/-- A clause states the condition of an edge: a join on its columns, or a condition on rows that reads like it. -/
def Clause.States (e : Edge) : Clause → Prop
  | .join table left right side => Clause.Compares e (.join table left right side)
  | .filter condition => condition.text = e.fromColumn.text ++ " = " ++ e.toColumn.text ∨
      condition.text = e.toColumn.text ++ " = " ++ e.fromColumn.text
  | _ => False

lemma Clause.Compares.iff {c : Clause} (h : c.Compares f) : c.Compares e ↔ e.SameColumns f := by
  cases c with
  | join tb left right side =>
    simp only [Clause.Compares, Edge.SameColumns] at h ⊢
    grind
  | _ => exact absurd h id

def filtersIn (clauses : List Clause) : List Clause := clauses.filter fun c => c matches .filter _

section

variable {plan state context : Value} {s s' : Surroundings} {t t' u u' : Traffic} {p p' : Parts}

lemma filtersIn_append (a b : List Clause) : filtersIn (a ++ b) = filtersIn a ++ filtersIn b := by
  simp [filtersIn]

lemma Parts.Of.filtersIn_clauses (hp : p.Of plan state context s t t') :
    filtersIn p.clauses = p.conditions.map Clause.filter ++ p.time := by
  have hj : filtersIn p.joins = [] := by
    refine filter_eq_nil_iff.2 fun c hc => ?_
    obtain ⟨tb, left, right, side, rfl⟩ := joinClauses_are_joins hp.joins c hc
    simp
  have hco : filtersIn (p.conditions.map Clause.filter) = p.conditions.map Clause.filter := by
    refine filter_eq_self.2 fun c hc => ?_
    obtain ⟨cond, -, rfl⟩ := mem_map.1 hc
    rfl
  have ht : filtersIn p.time = p.time := by
    refine filter_eq_self.2 fun c hc => ?_
    obtain ⟨cond, rfl⟩ := hp.time_plain c hc
    rfl
  have hta : filtersIn p.tail = [] := by
    refine filter_eq_nil_iff.2 fun c hc => ?_
    have hpl := hp.tail_plain c hc
    cases c with
    | filter => exact absurd hpl id
    | _ => simp
  show filtersIn (p.joins ++ p.after) = _
  rw [Parts.after_eq, filtersIn_append, filtersIn_append, filtersIn_append, hj, hco, ht, hta,
    append_nil, nil_append]

lemma Parts.Of.filtersIn_kept (hp : p.Of plan state context s t t') (hp' : p'.Of plan' state context s' u u')
    (h : Value.Kept ["join_edges"] plan plan') : filtersIn p'.clauses = filtersIn p.clauses := by
  have hre : plan.IsRecord := (get_ok.1 hp.group).1
  have hg : ∀ key dflt, key ≠ "join_edges" → plan'.getD key dflt = plan.getD key dflt := by
    intro key dflt hk
    rw [h.record.getD, hre.getD, h.same key (by simpa using hk)]
  have hd : p'.docs = p.docs := by
    have hi := hp'.selections
    rw [itemsOf, hg _ _ (by decide), ← itemsOf, hp.selections] at hi
    exact (Except.ok.inj hi).symm
  have ht : p'.time = p.time := by
    have heq := hp'.time
    rw [hd, hp.time] at heq
    exact (Except.ok.inj heq).symm
  have hc : p'.conditions = p.conditions := by
    obtain ⟨globals, subs, hgl, hs, hr⟩ := hp.conditions
    obtain ⟨globals', subs', hg', hs', hr'⟩ := hp'.conditions
    rw [hg _ _ (by decide), hgl] at hg'
    rw [hg _ _ (by decide), hs] at hs'
    cases hg'
    cases hs'
    rw [hd, hr] at hr'
    exact (Except.ok.inj hr').symm
  rw [hp.filtersIn_clauses, hp'.filtersIn_clauses, hc, ht]

end

/-- What becomes of the join conditions of a connected plan in a statement: some edges are joined, the others are
skipped. -/
structure Stated (plan state context : Value) (clauses : List Clause) (joined skipped : List Edge) : Prop where
  sifted : Sifted [baseOf plan] (orderEdges (baseOf plan) (edgesOf plan)) joined skipped (joinsIn clauses)
  kept : Rearranged (joined ++ skipped) (edgesOf plan)
  /-- The conditions stated are those of the joined edges, and what the conditions on rows say. -/
  states_iff : ∀ e ∈ edgesOf plan, (∃ c ∈ clauses, c.States e) ↔
    (∃ f ∈ joined, e.SameColumns f) ∨ ∃ c ∈ filtersIn clauses, c.States e
  /-- The conditions on rows are the same with any other edges. -/
  filters : ∀ edges s t clauses' t',
    Gives (buildClauses (plan.update [("join_edges", edges)]) state context) s t clauses' t' →
      filtersIn clauses' = filtersIn clauses
  /-- Of several edges between two tables at most one is joined. -/
  parallel : joined.Pairwise fun e f => ¬ e.Parallel f
  tables : (introduced clauses).Nodup ∧ ∀ table, Linked (baseOf plan) (edgesOf plan) table ↔ table ∈ introduced clauses
  /-- As many edges are skipped as there are more of them than a tree of the tables has. -/
  count : skipped.length + (introduced clauses).length = (edgesOf plan).length + 1
  /-- A tree loses nothing. -/
  tree : (introduced clauses).length = (edgesOf plan).length + 1 →
    ∀ e ∈ edgesOf plan, ∃ c ∈ joinsIn clauses, c.Compares e

def TextColumns (es : List Edge) : Prop := ∀ e ∈ es, IsText e.fromColumn.column ∧ IsText e.toColumn.column

lemma rearranged_of_perm (h : xs.Perm ys) : Rearranged xs ys := ⟨h.subset, fun key _ => h.map key⟩

section

variable {plan state context : Value} {s : Surroundings} {t t' : Traffic} {p : Parts} {joined skipped : List Edge}
  {e : Edge} {clauses : List Clause}

lemma Joinable.columns_eq (hp : Joinable plan) (hc : TextColumns (edgesOf plan)) :
    ∀ a ∈ edgesOf plan, ∀ b ∈ edgesOf plan, a.Alike b → (a.fromColumn, a.toColumn) = (b.fromColumn, b.toColumn) := by
  intro a ha b hb hal
  have hg := hp.textGraph
  obtain ⟨hf, hto⟩ := hal.ends_eq (hg.told a ha) (hg.told b hb) (hg.ends a ha) (hg.ends b hb)
  have hfromColumn := peek_eq_of_beq hal (hc a ha).1 (hc b hb).1
  have htoColumn := peek_eq_of_beq hal (hc a ha).2 (hc b hb).2
  simp only [Edge.fromColumn, Edge.toColumn, hf, hto, hfromColumn, htoColumn]

lemma Joinable.compared (hp : Joinable plan) (hcs : TextColumns (edgesOf plan))
    (hk : Rearranged joined (edgesOf plan)) (hs : Forall₂ (fun e c => c.Compares e) joined clauses)
    (he : e ∈ edgesOf plan) : ∃ c ∈ clauses, c.Compares e := by
  have hm := (hk.perm (fun e => (e.fromColumn, e.toColumn)) (hp.columns_eq hcs)).mem_iff.2
    (mem_map_of_mem he)
  obtain ⟨f, hf, heq⟩ := mem_map.1 hm
  rw [Prod.mk.injEq] at heq
  obtain ⟨c, hc, hco⟩ := hs.exists_right hf
  exact ⟨c, hc, hco.iff.2 (.inl ⟨heq.1.symm, heq.2.symm⟩)⟩

lemma Sifted.states_iff {r : List Value}
    (h : Sifted r es joined skipped (joinsIn clauses)) : (∃ c ∈ clauses, c.States e) ↔
      (∃ f ∈ joined, e.SameColumns f) ∨ ∃ c ∈ filtersIn clauses, c.States e := by
  constructor
  · rintro ⟨c, hc, hs⟩
    cases c with
    | join tb left right side =>
      have hm : Clause.join tb left right side ∈ joinsIn clauses := mem_filter.2 ⟨hc, rfl⟩
      obtain ⟨f, hf, hco⟩ := h.states.exists_left hm
      exact .inl ⟨f, hf, hco.iff.1 hs⟩
    | filter cond => exact .inr ⟨_, mem_filter.2 ⟨hc, rfl⟩, hs⟩
    | _ => exact absurd hs id
  · rintro (⟨f, hf, hsa⟩ | ⟨c, hc, hs⟩)
    · obtain ⟨c, hc, hco⟩ := h.states.exists_right hf
      have hc' := hco.iff.2 hsa
      cases c with
      | join => exact ⟨_, mem_of_mem_filter hc, hc'⟩
      | _ => exact absurd hco id
    · exact ⟨c, mem_of_mem_filter hc, hs⟩

/-- Of the conditions of a connected plan those are stated that some joined edge has. -/
theorem conditions_stated (hplan : Joinable plan) (hcolumns : TextColumns (edgesOf plan)) (hwhole : Whole plan)
    (hbuilt : Gives (buildClauses plan state context) s t clauses t') :
    ∃ joined skipped, Stated plan state context clauses joined skipped := by
  obtain ⟨p, hp, rfl⟩ := buildClauses_parts hbuilt
  have hj := hp.joins
  rw [hp.base_eq, hp.edges_eq] at hj
  obtain ⟨hc, ht⟩ := hwhole.complete hplan hj
  obtain ⟨taken, stuck, -, ho, hr, -⟩ := orderEdges_spec (baseOf plan) (edgesOf plan)
  rw [← ho] at hr
  obtain ⟨joined, skipped, hs⟩ := sifted_of_chained (by simpa using hplan.base)
    (fun e he => hplan.ends e (hr.within he)) hc hj
  have hk : Rearranged (joined ++ skipped) (edgesOf plan) := (rearranged_of_perm hs.perm).trans hr
  have hi : introduced p.clauses = baseOf plan :: introduced p.joins := hp.base_eq ▸ hp.introduced_clauses
  have hco : skipped.length + (introduced p.clauses).length = (edgesOf plan).length + 1 := by
    have hl := hk.length_eq
    have hjo := hs.length_eq
    rw [length_append] at hl
    rw [hi, length_cons]
    omega
  rw [← hp.joinsIn_clauses] at hs
  refine ⟨joined, skipped, hs, hk, fun e _ => hs.states_iff, ?_, hs.parallel, ?_, hco, ?_⟩
  · intro edges s' u clauses' u' hb'
    obtain ⟨p', hp', rfl⟩ := buildClauses_parts hb'
    exact hp.filtersIn_kept hp' ((get_ok.1 hp.group).1.kept_self _ _)
  · rw [hi]
    exact ⟨ht.nodup, ht.tables⟩
  · intro hsi e he
    have hn : skipped = [] := length_eq_zero_iff.1 (by omega)
    rw [hn, append_nil] at hk
    exact hplan.compared hcolumns hk hs.states he

end

lemma Documented.textColumns {docs : List Value} (h : Documented plan docs) :
    TextColumns (edgesOf plan) := by
  intro e he
  rw [edgesOf, h.edges] at he
  obtain ⟨doc, hd, rfl⟩ := mem_map.1 he
  obtain ⟨a, b, c, d, kind, rfl⟩ := h.docs doc hd
  exact ⟨⟨b, rfl⟩, ⟨d, rfl⟩⟩

/-- Orders belong to a customer by two columns, and the tables form a circle. -/
def keyEdges : List Value :=
  [edgeDoc "orders" "company" "customers" "company" "inner", edgeDoc "orders" "buyer" "customers" "number" "inner",
    edgeDoc "customers" "region" "regions" "id" "left",
    edgeDoc "regions" "depot" "orders" "depot" "inner"]

/-- A plan for the ids of orders, in which the other tables are selected for the joins only. -/
def orderPlan (others : List String) (edges : List Value) : Value :=
  .record [("decision", "proceed"), ("selections", .list (.record [("table", "orders"), ("columns", .list [
      .record [("table", "orders"), ("column", "id"), ("role", "projection")]])] :: others.map fun table =>
        .record [("table", .text table), ("columns", .list []), ("include_only_for_join", .bool true)])),
    ("join_edges", .list edges), ("group_by", .null)]

def keyPlan : Value := orderPlan ["customers", "regions"] keyEdges

def keyContext : Value := .record [("dialect", "tsql"), ("is_sqlite", .bool false)]

/-- The second of the two columns is left out, and so is the edge that closes the circle. -/
def keyClauses : List Clause :=
  [.select [.column ⟨"orders", "id"⟩ none], .source "orders",
    .join "customers" ⟨"orders", "company"⟩ ⟨"customers", "company"⟩ none,
    .join "regions" ⟨"customers", "region"⟩ ⟨"regions", "id"⟩ (some "left"),
    .render "tsql"]

lemma keyClauses_built : Gives (buildClauses keyPlan (.record []) keyContext) {} {} keyClauses {} := rfl

lemma keyPlan_documented : Documented keyPlan keyEdges := ⟨⟨"orders", rfl⟩, rfl, by simp [keyEdges, edgeDoc]⟩

lemma keyPlan_whole : Whole keyPlan := by
  have hc : Linked (baseOf keyPlan) (edgesOf keyPlan) "customers" :=
    .forth (e := ⟨edgeDoc "orders" "company" "customers" "company" "inner", "orders", "customers"⟩) (.head _) .base
  intro e he
  obtain ⟨doc, hd, rfl⟩ := mem_map.1 he
  rw [keyPlan_documented.edges] at hd
  simp only [keyEdges, mem_cons, not_mem_nil, or_false] at hd
  rcases hd with rfl | rfl | rfl | rfl
  · exact .base
  · exact .base
  · exact hc
  · exact .back he .base

theorem conditions_stated_key : Joinable keyPlan ∧ TextColumns (edgesOf keyPlan) ∧ Whole keyPlan ∧
    ∃ joined skipped, Stated keyPlan (.record []) keyContext keyClauses joined skipped ∧
      joined.length = 2 ∧ skipped.length = 2 := by
  have hp := keyPlan_documented.joinable
  have hc := keyPlan_documented.textColumns
  obtain ⟨joined, skipped, h⟩ := conditions_stated hp hc keyPlan_whole keyClauses_built
  have hs : skipped.length + 3 = 4 + 1 := h.count
  have ha : (joined ++ skipped).length = 4 := h.kept.length_eq
  rw [length_append] at ha
  exact ⟨hp, hc, keyPlan_whole, joined, skipped, h, by omega, by omega⟩

/-- The plan is connected, but the second of the two columns is compared nowhere. -/
theorem second_key_column_lost : Joinable keyPlan ∧ TextColumns (edgesOf keyPlan) ∧ Whole keyPlan ∧
    Gives (buildClauses keyPlan (.record []) keyContext) {} {} keyClauses {} ∧
    ∃ e ∈ edgesOf keyPlan, ∀ c ∈ keyClauses, ¬ c.States e := by
  refine ⟨keyPlan_documented.joinable, keyPlan_documented.textColumns, keyPlan_whole, keyClauses_built,
    ⟨edgeDoc "orders" "buyer" "customers" "number" "inner", "orders", "customers"⟩, .tail _ (.head _), ?_⟩
  have hf : (edgeDoc "orders" "buyer" "customers" "number" "inner").peek "from_column" = "buyer" := rfl
  have hto : (edgeDoc "orders" "buyer" "customers" "number" "inner").peek "to_column" = "number" := rfl
  simp [keyClauses, Clause.States, Clause.Compares, Edge.fromColumn, Edge.toColumn, hf, hto]

end QueryDesk.Sql
