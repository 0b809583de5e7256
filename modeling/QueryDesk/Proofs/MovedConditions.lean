import QueryDesk.Proofs.RepairTwice
import QueryDesk.Proofs.RowFilters

/-!
Conditions on groups in the statement of a repaired plan. The repair compares them with the columns of the group, and
the aliases of the aggregates are not among these. A condition on an alias therefore becomes a condition on rows, where
the alias is taken for a column of its table; it stays with the group only if a column of the group has the alias for a
name, and then it still gets the name of a column that looks like it.
-/

namespace QueryDesk.Plan

open Attempt Desk Value Sql List Value

variable {schema v : Value} {notes : List String}

/-! ### Which conditions stay with the group -/

/-- Whether a condition names a column that a plan groups by, shows or aggregates. -/
def staysOnGroup (plan f : Value) : Bool :=
  ((docsOf (plan.peek "group_by") "group_by_columns").map pairOf ++ (projections plan).map pairOf ++
    aggregatedPairs (plan.peek "group_by")).any (· == pairOf f)

section

variable {plan plan' f : Value}

/-- Moving conditions parts them, each part in its order: those on the group stay, and the others come behind the
conditions on rows. -/
lemma moveHaving_filters (hl : ListFields plan) (ht : (plan.peek "group_by").truthy = true)
    (h : moveHaving plan = .ok plan') : docsOf (plan'.peek "group_by") "having_filters" = staying plan ∧
      docsOf plan' "global_filters" = docsOf plan "global_filters" ++ leaving plan := by
  obtain ⟨-, hg, ⟨hn, rfl⟩ | ⟨-, hgl, hp⟩⟩ := moveHaving_ok hl ht h
  · have ha : staying plan' = docsOf (plan'.peek "group_by") "having_filters" := by
      refine filter_eq_self.2 fun f hf => ?_
      simpa using filter_eq_nil_iff.1 hn f hf
    rw [ha, hn, append_nil]
    exact ⟨rfl, rfl⟩
  · rw [hp, docsOf_of_at? hgl, docsOf_of_at? (hg.at?_self _ _)]
    exact ⟨rfl, rfl⟩

lemma speaksOfGroup_completed (hfo : Formed plan) (ha : docsOf (plan.peek "group_by") "aggregates" ≠ [])
    (h : completeGrouping plan = .ok plan') (hf : Named f) :
    speaksOfGroup (plan'.peek "group_by") f = staysOnGroup plan f := by
  obtain ⟨-, -, -, missing, hmi, hco, -, hg, hfi⟩ :=
    completeGrouping_ok hfo.toListFields ha h
  obtain ⟨hr, -, -⟩ := truthy_of_docs hfo.aggregates ha
  have hs : aggregatedPairs (plan'.peek "group_by") = aggregatedPairs (plan.peek "group_by") := by
    rw [aggregatedPairs, aggregatedPairs, docsOf_kept hg hr]
  rw [speaksOfGroup, staysOnGroup, docsOf_of_at? hfi, hs, any_append, any_append]
  congr 1
  rw [map_append, any_append, any_append, Bool.eq_iff_iff, Bool.or_eq_true, Bool.or_eq_true]
  simp only [any_map, any_eq_true, Function.comp_apply]
  constructor
  · rintro (hke | ⟨m, hm, hb⟩)
    · exact .inl hke
    · obtain ⟨c, hc, rfl⟩ := hmi m hm
      exact .inr ⟨c, hc, hb⟩
  · rintro (hke | ⟨c, hc, hb⟩)
    · exact .inl hke
    · rcases hco c hc with hin | ⟨k, hk, hkc⟩
      · exact .inr ⟨namesOf c, hin, hb⟩
      · have hc' := hfo.projections c hc
        have hk' := hfo.keyNames k hk
        have h₁ := (pairOf_beq_iff hk' hc').1 hkc
        have h₂ := (pairOf_beq_iff hc' hf).1 hb
        exact .inl ⟨k, hk, (pairOf_beq_iff hk' hf).2 ⟨h₁.1.trans h₂.1, h₁.2.trans h₂.2⟩⟩

/-- The conditions of a repaired plan: those on groups that stay, and behind the conditions on rows those that do not,
with nothing but their columns renamed. -/
lemma repair_filters (hfo : Formed plan)
    (ha : docsOf (plan.peek "group_by") "aggregates" ≠ []) (h : repair schema plan = .ok (plan', notes)) :
    Forall₂ (RenamedOwn schema) ((docsOf (plan.peek "group_by") "having_filters").filter (staysOnGroup plan))
        (docsOf (plan'.peek "group_by") "having_filters") ∧ Forall₂ (RenamedOwn schema) (docsOf plan "global_filters" ++
        (docsOf (plan.peek "group_by") "having_filters").filter (!staysOnGroup plan ·)) (docsOf plan' "global_filters") ∧
      Forall₂ (AggregateRepaired schema) (docsOf (plan.peek "group_by") "aggregates")
        (docsOf (plan'.peek "group_by") "aggregates") := by
  simp only [repair, bind_ok] at h
  obtain ⟨completed, hc, moved, hm, hrn⟩ := h
  have hr := regrouped_of_steps hfo ha hc hm
  have hpl := (completeGrouping_ok hfo.toListFields ha hc).1
  obtain ⟨hg, -, -⟩ := truthy_of_docs hfo.aggregates ha
  have c := completeGrouping_completed hfo ha hc
  have hl := c.listFields hpl hfo.toListFields
  have ha₁ : docsOf (completed.peek "group_by") "aggregates" ≠ [] := by
    rw [docsOf_kept c.group hg]
    exact ha
  have ha₂ : docsOf (moved.peek "group_by") "aggregates" ≠ [] := by
    rw [hr.aggregates]
    exact ha
  obtain ⟨hh, hgl⟩ := moveHaving_filters hl (truthy_of_docs hl.aggregates ha₁).2.1 hm
  have hs : ∀ f ∈ docsOf (plan.peek "group_by") "having_filters",
      speaksOfGroup (completed.peek "group_by") f = staysOnGroup plan f :=
    fun f hf => speaksOfGroup_completed hfo ha hc (hfo.havingNames f hf)
  rw [staying, docsOf_kept c.group hg, filter_congr hs] at hh
  rw [leaving, docsOf_kept c.kept hpl, docsOf_kept c.group hg,
    filter_congr fun f hf => congrArg (!·) (hs f hf)] at hgl
  have hp := repairColumns_ok hr.lists (truthy_of_docs hr.lists.aggregates ha₂).2.1 hrn
  have hre := hp.group.aggregates
  rw [hr.aggregates] at hre
  exact ⟨hh ▸ hp.group.having, hgl ▸ hp.globals, hre⟩

end

/-! ### Conditions in the statement -/

def havingOf : Clause → Option Condition
  | .having c => some c
  | _ => none

def havingIn (clauses : List Clause) : List Condition := clauses.filterMap havingOf

def aliasNames (group : Value) : List Value :=
  distinct (((docsOf group "aggregates").map (·.peek "alias")).filter truthy)

section

variable {plan state context group : Value} {s : Surroundings} {t t' : Traffic} {p : Parts} {clauses : List Clause}

lemma havingIn_append (a b : List Clause) : havingIn (a ++ b) = havingIn a ++ havingIn b := by
  simp [havingIn]

lemma aggregateAliases_eq {names : List Value} (h : aggregateAliases group = .ok names) : names = aliasNames group := by
  simp only [aggregateAliases, bind_ok, pure_ok] at h
  obtain ⟨docs, hd, als, ha, rfl⟩ := h
  have hal : als = docs.map fun a => if (a.peek "alias").truthy then some (a.peek "alias") else none := by
    refine eq_map_of_mapM ha fun a _ name hn => ?_
    simp only [bind_ok, exists_get] at hn
    obtain ⟨-, hn⟩ := hn
    split at hn
    case isTrue ht =>
      obtain ⟨v, hv, rfl⟩ := map_ok.1 hn
      rw [if_pos ht, hashable_ok hv]
    case isFalse hf =>
      rw [if_neg hf]
      exact (pure_ok.1 hn).symm
  have hfi : als.filterMap id = (docs.map (·.peek "alias")).filter truthy := by
    rw [hal, filterMap_map, ← filterMap_eq_filter, filterMap_map]
    rfl
  rw [aliasNames, docsOf_eq hd, hfi]

lemma items_of_falsy (hv : v.truthy = false) (h : v.items = .ok xs) : xs = [] := by
  cases v with
  | list ys | tuple ys | set ys =>
    cases h
    simpa [truthy] using hv
  | record fs =>
    cases h
    simpa [truthy] using hv
  | text s =>
    cases h
    simpa [truthy] using hv
  | _ => simp_all [truthy, items]

lemma groupClauses_having (hg : group.truthy = true) (h : groupClauses group context = .ok clauses) :
    Forall₂ (fun f c => filterCondition (.set (aliasNames group)) context f = .ok c) (docsOf group "having_filters")
      (havingIn clauses) := by
  unfold groupClauses at h
  rw [if_pos hg] at h
  simp only [bind_ok] at h
  obtain ⟨_, -, ks, hke, filters, hf, h⟩ := h
  have hn : havingIn ks = [] := by
    refine filterMap_eq_nil_iff.2 fun c hc => ?_
    obtain ⟨k, -, hk⟩ := (mapM_ok.1 hke).exists_left hc
    simp only [bind_ok, pure_ok] at hk
    obtain ⟨_, -, _, -, rfl⟩ := hk
    rfl
  split at h
  case isTrue =>
    simp only [bind_ok, mapM_ok, pure_ok] at h
    obtain ⟨names, hna, docs, hd, conds, hco, rfl⟩ := h
    obtain rfl := aggregateAliases_eq hna
    rw [docsOf_eq (by rw [itemsOf, hf, ok_bind, hd]), havingIn_append, hn, nil_append]
    clear hd
    induction hco with
    | nil => exact .nil
    | cons hc _ ih =>
      obtain ⟨c, hc, rfl⟩ := hc
      exact .cons hc ih
  case isFalse hfa =>
    have he : docsOf group "having_filters" = [] := by
      unfold docsOf itemsOf
      rw [hf, ok_bind]
      split
      case h_1 docs hd => exact items_of_falsy (by simpa using hfa) hd
      case h_2 => rfl
    simp only [bind_ok, pure_ok, exists_eq_left'] at h
    rw [he, ← h, append_nil, hn]
    exact .nil

lemma havingIn_clauses (hp : p.Of plan state context s t t') : havingIn p.clauses = havingIn p.groups := by
  have hj : havingIn p.joins = [] := by
    refine filterMap_eq_nil_iff.2 fun c hc => ?_
    obtain ⟨table, left, right, side, rfl⟩ := joinClauses_are_joins hp.joins c hc
    rfl
  have hco : havingIn (p.conditions.map Clause.filter) = [] := by
    refine filterMap_eq_nil_iff.2 fun c hc => ?_
    obtain ⟨cond, -, rfl⟩ := mem_map.1 hc
    rfl
  have ht : havingIn p.time = [] := by
    refine filterMap_eq_nil_iff.2 fun c hc => ?_
    obtain ⟨cond, rfl⟩ := hp.time_plain c hc
    rfl
  have ho : havingIn p.orders = [] := by
    refine filterMap_eq_nil_iff.2 fun c hc => ?_
    rcases orderClauses_gives hp.orders c hc with ⟨_, rfl⟩ | ⟨_, _, rfl, -⟩ <;> rfl
  have hl : havingIn p.limits = [] := by
    refine filterMap_eq_nil_iff.2 fun c hc => ?_
    obtain ⟨n, rfl⟩ := limitClause_ok hp.limits c hc
    rfl
  show havingIn (p.joins ++ p.after) = _
  rw [Parts.after]
  simp only [havingIn_append, hj, hco, ht, ho, hl]
  simp [havingIn, havingOf]

/-- Among the conditions on rows are those of the shared filters, one for each and in the same order. -/
lemma filtersIn_globals (hp : p.Of plan state context s t t') : ∃ pre shared behind,
    filtersIn p.clauses = pre ++ shared.map Clause.filter ++ behind ∧
      Forall₂ (fun f c => filterCondition .null context f = .ok c) (docsOf plan "global_filters") shared := by
  obtain ⟨globals, subs, hg, -, hr⟩ := hp.conditions
  simp only [rowConditions, bind_ok, pure_ok] at hr
  obtain ⟨own, -, docs, hd, shared, hs, _, -, nested, -, hc⟩ := hr
  refine ⟨own.flatten.map Clause.filter, shared, (nested.filterMap id).map Clause.filter ++ p.time, ?_, ?_⟩
  · rw [hp.filtersIn_clauses, ← hc]
    simp
  · rw [docsOf_eq (by rw [itemsOf, hg, ok_bind, hd])]
    exact mapM_ok.1 hs

end

/-! ### Conditions on aliases -/

/-- What a condition of a plan becomes in the statement of the repaired plan: its column has its new name, and is read
with the aliases given. -/
def Becomes (schema context aliases f : Value) (c : Condition) : Prop :=
  ∃ f', RenamedOwn schema f f' ∧ filterCondition aliases context f' = .ok c

section

variable {schema context group table column f : Value} {names : List Value} {subject : Subject} {c : Condition}

lemma isName_of_truthy (h : IsPlain v) (ht : v.truthy = true) : IsName v := by
  rcases h with rfl | ⟨s, rfl⟩
  · cases ht
  · exact ⟨s, rfl, by simpa [truthy] using ht⟩

lemma isReached_aliasNames (hal : ∀ a ∈ docsOf group "aggregates", IsPlain (a.peek "alias"))
    (hc : column.truthy = true) (h : ∃ a ∈ docsOf group "aggregates", a.peek "alias" = column) :
    isReached (aliasNames group) column = true := by
  obtain ⟨a, ha, rfl⟩ := h
  have hn : ∀ v ∈ ((docsOf group "aggregates").map (·.peek "alias")).filter truthy, IsName v := by
    intro v hv
    obtain ⟨hv, ht⟩ := mem_filter.1 hv
    obtain ⟨b, hb, rfl⟩ := mem_map.1 hv
    exact isName_of_truthy (hal b hb) ht
  have hin : a.peek "alias" ∈ aliasNames group :=
    (mem_distinct hn).2 (mem_filter.2 ⟨mem_map_of_mem ha, hc⟩)
  exact (isReached_iff (fun v hv => hn v (mem_of_mem_distinct hv)) (isName_of_truthy (hal a ha) hc)).2 hin

lemma aliases_repaired (h : Forall₂ (AggregateRepaired schema) as as') :
    as'.map (·.peek "alias") = as.map (·.peek "alias") := by
  induction h with
  | nil => rfl
  | cons ha _ ih =>
    rw [map_cons, map_cons, ih]
    obtain ⟨-, ⟨-, rfl⟩ | ⟨-, hr⟩⟩ := ha
    · rfl
    · rw [hr.kept.peek _]

lemma subjectOf_alias (hc : IsName column) (hin : isReached names column = true)
    (h : subjectOf table column (.set names) = .ok subject) : subject = .bare column := by
  obtain ⟨name, rfl, -⟩ := hc
  have hne : (Value.set names).truthy = true := by
    cases names with
    | nil => cases hin
    | cons => rfl
  have hisIn : isIn (.text name) (.set names) = .ok (isReached names (.text name)) := rfl
  simp only [subjectOf, bind_ok] at h
  obtain ⟨expr, -, h⟩ := h
  cases expr with
  | true =>
    cases h
    rfl
  | false =>
    rw [hne, if_neg Bool.false_ne_true, if_pos rfl, hisIn, ok_bind, hin] at h
    cases h
    rfl

/-- A condition that stays with the group is one on the alias, if nothing looks like the alias. -/
lemma Becomes.subject_eq_bare_iff (h : Becomes schema context (.set names) f c) (hco : IsName (f.peek "column"))
    (hin : isReached names (f.peek "column") = true) : c.subject = .bare (f.peek "column") ↔
      repaired? (f.peek "table") (f.peek "column") schema = .ok none := by
  obtain ⟨f', ⟨hr, fixed, hf, rfl⟩, hc⟩ := h
  obtain ⟨table, column, -, hg, hs⟩ := filterCondition_ok hc
  obtain ⟨-, rfl⟩ := get_ok.1 hg
  rw [withColumn_peek hr] at hs
  rw [hf]
  cases fixed with
  | none => exact iff_of_true (subjectOf_alias hco hin hs) rfl
  | some new =>
    -- a new name needs no other, so it is not the alias
    refine iff_of_false (fun hb => ?_) (by simp)
    have hsa : new = f.peek "column" := by
      rcases subjectOf_ok hs with heq | ⟨heq, -⟩
      · rw [hb] at heq
        cases heq
      · rw [hb] at heq
        exact (Subject.bare.inj heq).symm
    have hn := repaired?_new hf
    rw [hsa, hf] at hn
    cases hn

lemma Becomes.subject_row (h : Becomes schema context .null f c) :
    ∃ fixed, repaired? (f.peek "table") (f.peek "column") schema = .ok fixed ∧
      (c.subject = .column ⟨f.peek "table", fixed.getD (f.peek "column")⟩ ∨
        c.subject = .bare (fixed.getD (f.peek "column")) ∧ isExpression (fixed.getD (f.peek "column")) = .ok true) := by
  obtain ⟨f', hr, hc⟩ := h
  have hta := hr.table
  obtain ⟨hre, fixed, hf, rfl⟩ := hr
  obtain ⟨table, column, hg, hg', hs⟩ := filterCondition_ok hc
  obtain ⟨-, rfl⟩ := get_ok.1 hg
  obtain ⟨-, rfl⟩ := get_ok.1 hg'
  rw [withColumn_peek hre, hta] at hs
  refine ⟨fixed, hf, ?_⟩
  rcases subjectOf_ok hs with heq | ⟨heq, he | ⟨ht, -⟩⟩
  · exact .inl heq
  · exact .inr ⟨heq, he⟩
  · cases ht

lemma forall₂_becomes
    (h : Forall₂ (RenamedOwn schema) fs fs')
    (hc : Forall₂ (fun f c => filterCondition als context f = .ok c) fs' cs) :
    Forall₂ (Becomes schema context als) fs cs := by
  induction h generalizing cs with
  | nil =>
    cases hc
    exact .nil
  | cons hf _ ih =>
    cases hc with
    | cons hco hr => exact .cons ⟨_, hf, hco⟩ (ih hr)

end

/-- The conditions on groups of a plan with aggregates, in the statement of the repaired plan. Those that name a column
which the plan groups by, shows or aggregates are conditions on groups; all others are conditions on rows. So a condition
on the alias of an aggregate is a condition on groups only if such a column has the alias for a name, and is a condition
on the alias then only if the repair finds no column that looks like it. As a condition on rows it speaks of a column
with its table. -/
theorem conditions_on_aliases {schema plan plan' state context : Value} {notes : List String} {s : Surroundings}
    {t t' : Traffic} {clauses : List Clause} (hformed : Formed plan)
    (haggregates : docsOf (plan.peek "group_by") "aggregates" ≠ [])
    (haliases : ∀ a ∈ docsOf (plan.peek "group_by") "aggregates", IsPlain (a.peek "alias"))
    (hrepair : repair schema plan = .ok (plan', notes)) (hbuilt : Gives (buildClauses plan' state context) s t clauses t') :
    List.Forall₂ (Becomes schema context (.set (aliasNames (plan.peek "group_by"))))
        ((docsOf (plan.peek "group_by") "having_filters").filter (staysOnGroup plan)) (havingIn clauses) ∧
      (∃ before moved behind, filtersIn clauses = before ++ moved.map Clause.filter ++ behind ∧
        List.Forall₂ (Becomes schema context .null)
          ((docsOf (plan.peek "group_by") "having_filters").filter (!staysOnGroup plan ·)) moved) ∧
      ∀ f ∈ docsOf (plan.peek "group_by") "having_filters", (f.peek "column").truthy = true →
        (∃ a ∈ docsOf (plan.peek "group_by") "aggregates", a.peek "alias" = f.peek "column") →
        (∀ c, Becomes schema context (.set (aliasNames (plan.peek "group_by"))) f c →
          (c.subject = .bare (f.peek "column") ↔ repaired? (f.peek "table") (f.peek "column") schema = .ok none)) ∧
        ∀ c, Becomes schema context .null f c → ∃ fixed,
          repaired? (f.peek "table") (f.peek "column") schema = .ok fixed ∧
          (c.subject = .column ⟨f.peek "table", fixed.getD (f.peek "column")⟩ ∨
            c.subject = .bare (fixed.getD (f.peek "column")) ∧ isExpression (fixed.getD (f.peek "column")) = .ok true) := by
  obtain ⟨hh, hgl, hr⟩ := repair_filters hformed haggregates hrepair
  obtain ⟨p, hp, rfl⟩ := buildClauses_parts hbuilt
  obtain ⟨-, hg⟩ := get_ok.1 hp.group
  have hn : aliasNames (plan'.peek "group_by") = aliasNames (plan.peek "group_by") := by
    rw [aliasNames, aliasNames, aliases_repaired hr]
  have ht : (plan'.peek "group_by").truthy = true := by
    by_contra hfa
    have hno : docsOf (plan'.peek "group_by") "aggregates" = [] := docsOf_of_falsy (by simpa using hfa)
    rw [hno, forall₂_nil_right_iff] at hr
    exact haggregates hr
  refine ⟨?_, ?_, fun f hf hco ha => ⟨fun c hc => ?_, fun c hc => hc.subject_row⟩⟩
  · rw [hg] at ht
    have hcl := groupClauses_having ht hp.groups
    rw [← hg, hn] at hcl
    rw [havingIn_clauses hp]
    exact forall₂_becomes hh hcl
  · -- the moved conditions come last among the shared ones
    obtain ⟨before, shared, behind, hfi, hs⟩ := filtersIn_globals hp
    have hm := forall₂_drop (docsOf plan "global_filters").length (forall₂_becomes hgl hs)
    rw [drop_left] at hm
    refine ⟨before ++ (shared.take (docsOf plan "global_filters").length).map Clause.filter, _, behind, ?_, hm⟩
    have hs' : shared.map Clause.filter = (shared.take (docsOf plan "global_filters").length).map Clause.filter ++
        (shared.drop (docsOf plan "global_filters").length).map Clause.filter := by
      rw [← map_append, take_append_drop]
    rw [hfi, hs']
    simp only [append_assoc]
  · exact hc.subject_eq_bare_iff (isName_of_truthy (hformed.havingNames f hf).2 hco)
      (isReached_aliasNames haliases hco ha)

/-- The sum of the orders of each region under a name, if it is above ten. -/
def regionSums (sum : String) : Value := .record [
  ("selections", .list [.record [("table", "Orders"), ("columns", .list [orderColumn "Region" [("role", "projection")]])]]),
  ("group_by", .record [("group_by_columns", .list [orderColumn "Region" []]),
    ("aggregates", .list [orderColumn "Amount" [("function", "SUM"), ("alias", .text sum)]]),
    ("having_filters", .list [orderColumn sum [("op", ">"), ("value", .int 10)]])])]

/-- The statement for these sums, with the conditions given on rows and on groups. -/
def regionClauses (sum : String) (rows groups : List Clause) : List Clause :=
  [.select [.column ⟨"Orders", "Region"⟩ none, .aggregate "SUM" (.column ⟨"Orders", "Amount"⟩) sum], .source "Orders"] ++
    rows ++ [.groupBy ⟨"Orders", "Region"⟩] ++ groups ++ [.render "tsql"]

/-- A sum that has the name of what is summed is restricted as asked. -/
theorem conditions_on_aliases_amount : ∃ plan' test, repair orderSchema (regionSums "Amount") = .ok (plan', []) ∧
    Gives (buildClauses plan' (.record []) keyContext) {} {}
      (regionClauses "Amount" [] [.having ⟨.bare "Amount", test⟩]) {} := by
  obtain ⟨plan', subject, test, hr, hb⟩ : ∃ plan' subject test,
      repair orderSchema (regionSums "Amount") = .ok (plan', []) ∧
        Gives (buildClauses plan' (.record []) keyContext) {} {}
          (regionClauses "Amount" [] [.having ⟨subject, test⟩]) {} := ⟨_, _, _, rfl, rfl⟩
  obtain ⟨hh, -, hal⟩ := conditions_on_aliases (by decide +kernel : Formed (regionSums "Amount"))
    (cons_ne_nil _ _) (fun a ha => .inr ⟨"Amount", by rw [mem_singleton.1 ha]; rfl⟩) hr hb
  obtain ⟨hbe, -⟩ := forall₂_cons.1 hh
  have hs := ((hal _ mem_cons_self rfl ⟨_, mem_cons_self, rfl⟩).1 _ hbe).2 rfl
  have hba : subject = .bare "Amount" := hs
  exact ⟨plan', test, hr, hba ▸ hb⟩

set_option maxRecDepth 4096 in
/-- The condition on a sum is lost: the statement restricts rows, by a column that there is not, or by what is summed. -/
theorem conditions_on_aliases_lost :
    (∃ plan' notes, repair orderSchema (regionSums "total") = .ok (plan', notes) ∧
      Gives (buildClauses plan' (.record []) keyContext) {} {}
        (regionClauses "total" [.filter ⟨.column ⟨"Orders", "total"⟩, .compare ">" "10"⟩] []) {}) ∧
    ∃ plan' notes, repair orderSchema (regionSums "total_amount") = .ok (plan', notes) ∧
      Gives (buildClauses plan' (.record []) keyContext) {} {}
        (regionClauses "total_amount" [.filter ⟨.column ⟨"Orders", "Amount"⟩, .compare ">" "10"⟩] []) {} := by
  refine ⟨⟨_, _, rfl, rfl⟩, _, _, rfl, rfl⟩

end QueryDesk.Plan
