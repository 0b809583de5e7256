import QueryDesk.Proofs.Grouping

/-!
A plan after its repair. With aggregates, every column that is shown is grouped by and so stands in the
statement twice, in the select list and among the keys; conditions on groups speak of the group; and no
condition is lost.
-/

namespace QueryDesk.Plan

open Attempt Desk Value Sql List Value Option Text

variable {schema plan plan' context d d' f s s' state v : Value} {t t' : Traffic}

/-! ### New names -/

section

variable {table column c : Value}

lemma firstLowered_ok : ∀ {ns : List Value},
    firstLowered test ns = .ok (some c) → c ∈ ns ∧ c.text?.isSome = true
  | [], h => by cases h
  | name :: ns, h => by
    simp only [firstLowered, bind_ok] at h
    obtain ⟨low, hl, h⟩ := h
    split at h
    · cases h
      refine ⟨mem_cons_self, ?_⟩
      simp only [lowered, textFor, bind_ok] at hl
      obtain ⟨s, hs, -⟩ := hl
      cases ht : c.text? with
      | none => rw [ht] at hs; cases hs
      | some t => rfl
    · obtain ⟨hin, hte⟩ := firstLowered_ok h
      exact ⟨mem_cons_of_mem name hin, hte⟩

lemma firstFound_ok : ∀ {searches : List (Unit → Attempt (Option Value))},
    firstFound searches = .ok (some c) → ∃ search ∈ searches, search () = .ok (some c)
  | [], h => by cases h
  | search :: searches, h => by
    simp only [firstFound, bind_ok] at h
    obtain ⟨fd, hf, h⟩ := h
    cases fd with
    | some v =>
      cases h
      exact ⟨search, by simp, hf⟩
    | none =>
      obtain ⟨other, ho, h⟩ := firstFound_ok h
      exact ⟨other, by simp [ho], h⟩

lemma foldl_better_mem : ∀ (ps : List (Text.Likeness × String)) (p : Text.Likeness × String),
    ps.foldl better p ∈ p :: ps
  | [], p => by simp
  | q :: ps, p => by
    have hb : better p q = p ∨ better p q = q := by
      unfold better
      split <;> simp
    rw [foldl_cons]
    rcases hb with h | h
    · rw [h]
      rcases mem_cons.1 (foldl_better_mem ps p) with h | h <;> simp [h]
    · rw [h]
      exact mem_cons_of_mem p (foldl_better_mem ps q)

lemma closest?_mem {s : String} (h : closest? word candidates = some s) :
    s ∈ candidates := by
  simp only [closest?] at h
  split at h
  · cases h
  case h_2 p rest hcl =>
    cases h
    have hin := foldl_better_mem rest p
    rw [← hcl] at hin
    obtain ⟨c, hc, hp⟩ := mem_map.1 (mem_of_mem_filter hin)
    rw [← hp]
    exact hc

lemma beq_self_of_text (h : v.text?.isSome = true) : (v == v) = true := by
  show same v v = true
  cases v with
  | text s => simp [same, text?]
  | statement calls => simp [same, text?]
  | _ => cases h

lemma closestAmong_ok {cols : List Value}
    (h : closestAmong target table cols = .ok (some c)) : c.text?.isSome = true ∧ cols.any (· == c) = true := by
  have hl : c ∈ cols ∧ c.text?.isSome = true → c.text?.isSome = true ∧ cols.any (· == c) = true :=
    fun h => ⟨h.2, any_eq_true.2 ⟨c, h.1, beq_self_of_text h.2⟩⟩
  simp only [closestAmong, bind_ok] at h
  obtain ⟨name, -, h⟩ := h
  obtain ⟨search, hse, h⟩ := firstFound_ok h
  simp only [mem_cons, not_mem_nil, or_false] at hse
  rcases hse with rfl | rfl | rfl | rfl | rfl
  · exact hl (firstLowered_ok h)
  · simp only [unprefixed, bind_ok] at h
    obtain ⟨low, -, h⟩ := h
    split at h
    · obtain ⟨_, -, h⟩ := bind_ok.1 h
      exact hl (firstLowered_ok h)
    · cases h
  · exact hl (firstLowered_ok h)
  · exact hl (firstLowered_ok h)
  · simp only [Except.ok.injEq, map_eq_some_iff] at h
    obtain ⟨s, hs, rfl⟩ := h
    obtain ⟨v, hv, ht⟩ := mem_filterMap.1 (closest?_mem hs)
    refine ⟨rfl, any_eq_true.2 ⟨v, hv, ?_⟩⟩
    cases v with
    | text s' =>
      cases ht
      exact beq_self_of_text rfl
    | statement calls =>
      cases ht
      show same _ _ = true
      simp [same, text?]
    | _ => cases ht

lemma closestColumn_ok (h : closestColumn column table schema = .ok (some c)) :
    c.text?.isSome = true ∧ ∃ e cols, tableEntry? table schema = .ok (some e) ∧
      columnNames e = .ok cols ∧ cols.any (· == c) = true := by
  simp only [closestColumn, bind_ok] at h
  obtain ⟨found?, he, h⟩ := h
  cases found? with
  | none => cases h
  | some e =>
    obtain ⟨cols, hc, h⟩ := bind_ok.1 h
    split at h
    · cases h
    · obtain ⟨ht, hin⟩ := closestAmong_ok h
      exact ⟨ht, e, cols, he, hc, hin⟩

/-- A new name comes from the first entry of the table, and is a text that is not empty. -/
lemma repaired?_ok (h : repaired? table column schema = .ok (some c)) :
    c.text?.isSome = true ∧ c.truthy = true ∧ ∃ e cols, tableEntry? table schema = .ok (some e) ∧
      columnNames e = .ok cols ∧ cols.any (· == c) = true := by
  simp only [repaired?, bind_ok] at h
  obtain ⟨has, -, h⟩ := h
  split at h
  · cases h
  · obtain ⟨closest, hc, h⟩ := bind_ok.1 h
    cases closest with
    | none => cases h
    | some fd =>
      have hf : fd.truthy = true ∧ fd = c := by
        by_cases ht : fd.truthy = true
        · simpa [ht] using h
        · simp [ht] at h
      obtain ⟨htr, rfl⟩ := hf
      obtain ⟨hte, he⟩ := closestColumn_ok hc
      exact ⟨hte, htr, he⟩

lemma repaired?_eq_some (h : repaired? table column schema = .ok (some c)) :
    c.text?.isSome = true ∧ c.truthy = true :=
  ⟨(repaired?_ok h).1, (repaired?_ok h).2.1⟩

end

section

variable {d d' : Value}

lemma RenamedOwn.table (h : RenamedOwn schema d d') : d'.peek "table" = d.peek "table" :=
  h.kept.peek _

lemma SameColumn.renamed (h : SameColumn d e) (hd : RenamedOwn schema d d') (he : RenamedOwn schema e e') :
    SameColumn d' e' := by
  refine ⟨by rw [hd.table, he.table, h.1], ?_⟩
  unfold RenamedOwn at hd he
  rw [h.1] at hd
  exact he.same_column hd h.2

lemma RenamedOwn.truthy (h : RenamedOwn schema d d') (ht : (d.peek "column").truthy = true) :
    (d'.peek "column").truthy = true := by
  obtain ⟨hr, fixed, hf, rfl⟩ := h
  rw [withColumn_peek hr]
  cases fixed with
  | none => exact ht
  | some c => exact (repaired?_eq_some hf).2

lemma RenamedOwn.beq_self (h : RenamedOwn schema d d') (hn : Named d) : (namesOf d' == namesOf d') = true := by
  have hc : (d'.peek "column" == d'.peek "column") = true := by
    obtain ⟨hr, fixed, hf, rfl⟩ := h
    rw [withColumn_peek hr]
    cases fixed with
    | none => exact (beq_plain_iff hn.2 hn.2).2 rfl
    | some c => exact beq_self_of_text (repaired?_eq_some hf).1
  have ht : (d'.peek "table" == d'.peek "table") = true := by
    rw [h.table]
    exact (beq_plain_iff hn.1 hn.1).2 rfl
  change same _ _ = true at hc ht
  show same (namesOf d') (namesOf d') = true
  simp [namesOf, same, sameFields, sameField, Fields.lookup_cons, hc, ht]

end

/-! ### The parts of a repaired plan -/

lemma forall₂_filter
    (h : Forall₂ R xs ys) (hp : ∀ x y, R x y → p y = p x) :
    Forall₂ (fun x y => R x y ∧ p x = true) (xs.filter p) (ys.filter p) := by
  induction h with
  | nil => exact .nil
  | @cons x y xs ys hxy _ ih =>
    rw [filter_cons, filter_cons, hp x y hxy]
    split
    case isTrue hx => exact .cons ⟨hxy, hx⟩ ih
    case isFalse => exact ih

lemma SelectionRepaired.projections (h : SelectionRepaired schema s s') (hs : Showable s) :
    Forall₂ (RenamedOwn schema) (projectionsIn s) (projectionsIn s') := by
  have hj : isJoinOnly s' = isJoinOnly s := by
    rw [isJoinOnly, isJoinOnly, h.kept.peek _]
  unfold projectionsIn
  rw [hj]
  split
  · exact .nil
  case isFalse hsh =>
    have hco := (forall₂_and_left _ _).2 ⟨hs.2 (by simpa using hsh), h.columns⟩
    have hpr := forall₂_filter (p := isProjected) hco fun c c' hc => by
      rw [isProjected, isProjected, hc.2.kept.peek _]
    refine hpr.imp fun c c' ⟨⟨ha, hr⟩, hp⟩ => ?_
    -- a projected column names its own table, so that of the selection does not come in
    obtain ⟨table, ht⟩ := isSome_iff_exists.1 (ha.2 hp).1
    rw [ht, getD_some] at hr
    unfold RenamedOwn
    rw [peek_eq_at?, ht]
    exact hr

lemma Renamed.present (h : Renamed schema table d d')
    (hc : (d.at? "column").isSome = true) : (d'.at? "column").isSome = true := by
  obtain ⟨hr, fixed, -, rfl⟩ := h
  cases fixed with
  | none => exact hc
  | some c => rw [withColumn, hr.at?_self]; rfl

lemma SelectionRepaired.showable (h : SelectionRepaired schema s s') (hs : Showable s) :
    Showable s' := by
  refine ⟨h.kept.record, fun hsh c' hc' => ?_⟩
  have hj : isJoinOnly s = false := by
    rw [isJoinOnly, ← h.kept.peek "include_only_for_join"]
    exact hsh
  obtain ⟨c, hc, hr⟩ := h.columns.exists_left hc'
  obtain ⟨-, hn⟩ := hs.2 hj c hc
  refine ⟨hr.kept.record, fun hp => ?_⟩
  rw [isProjected, hr.kept.peek "role"] at hp
  obtain ⟨ht, hco⟩ := hn hp
  exact ⟨by rw [hr.kept.at? _]; exact ht, hr.present hco⟩

lemma GroupRepaired.onGroup (h : GroupRepaired schema group group')
    (hf : RenamedOwn schema f f') (hon : OnGroup group f) : OnGroup group' f' := by
  rcases hon with ⟨k, hk, hs⟩ | ⟨a, ha, ht, hs⟩
  · obtain ⟨k', hk', hr⟩ := h.keys.exists_right hk
    exact .inl ⟨k', hk', hs.renamed hr hf⟩
  · obtain ⟨a', ha', -, ⟨hfa, -⟩ | ⟨-, hr⟩⟩ := h.aggregates.exists_right ha
    · rw [ht] at hfa
      cases hfa
    · exact .inr ⟨a', ha', hr.truthy ht, hs.renamed hr hf⟩

/-- What the repair of a plan with aggregates has made of it before columns were renamed. -/
structure Regrouped (plan plan' : Value) : Prop where
  lists : ListFields plan'
  selections : docsOf plan' "selections" = docsOf plan "selections"
  showable : ∀ s ∈ docsOf plan' "selections", Showable s
  aggregates : docsOf (plan'.peek "group_by") "aggregates" = docsOf (plan.peek "group_by") "aggregates"
  keys : ∀ k ∈ docsOf (plan'.peek "group_by") "group_by_columns", (k.at? "table").isSome = true ∧
    (k.at? "column").isSome = true ∧ Named k
  complete : ∀ c ∈ projections plan', ∃ k ∈ docsOf (plan'.peek "group_by") "group_by_columns", SameColumn k c
  onGroup : ∀ f ∈ docsOf (plan'.peek "group_by") "having_filters", OnGroup (plan'.peek "group_by") f
  filters : (docsOf plan' "global_filters" ++ docsOf (plan'.peek "group_by") "having_filters").Perm
    (docsOf plan "global_filters" ++ docsOf (plan.peek "group_by") "having_filters")

lemma Completed.listFields (c : Completed plan plan') (hp : plan.IsRecord) (hl : ListFields plan) :
    ListFields plan' where
  selections := hl.selections.congr (c.kept.at? _)
  columns := by
    rw [docsOf_kept c.kept hp]
    exact hl.columns
  globals := hl.globals.congr (c.kept.at? _)
  keys := c.list
  aggregates := hl.aggregates.congr (c.group.at? _)
  having := hl.having.congr (c.group.at? _)

lemma Moved.listFields (m : Moved plan plan') (hp : plan.IsRecord) (hl : ListFields plan) :
    ListFields plan' where
  selections := hl.selections.congr (m.kept.at? _)
  columns := by
    rw [docsOf_kept m.kept hp]
    exact hl.columns
  globals := m.globalsList
  keys := hl.keys.congr (m.group.at? _)
  aggregates := hl.aggregates.congr (m.group.at? _)
  having := m.havingList

lemma regrouped_of_steps (hf : Formed plan)
    (ha : docsOf (plan.peek "group_by") "aggregates" ≠ []) (h₁ : completeGrouping plan = .ok between)
    (h₂ : moveHaving between = .ok plan') : Regrouped plan plan' := by
  have hp := (completeGrouping_ok hf.toListFields ha h₁).1
  obtain ⟨hg, -, -⟩ := truthy_of_docs hf.aggregates ha
  have c := completeGrouping_completed hf ha h₁
  have hs : docsOf between "selections" = docsOf plan "selections" := docsOf_kept c.kept hp
  have hgl : docsOf between "global_filters" = docsOf plan "global_filters" :=
    docsOf_kept c.kept hp
  have ha₁ : docsOf (between.peek "group_by") "aggregates" = docsOf (plan.peek "group_by") "aggregates" :=
    docsOf_kept c.group hg
  have hh : docsOf (between.peek "group_by") "having_filters" =
      docsOf (plan.peek "group_by") "having_filters" := docsOf_kept c.group hg
  have hl : ListFields between := c.listFields hp hf.toListFields
  have hn : GroupNamed (between.peek "group_by") :=
    { keys := fun k hk => (c.named k hk).2.2
      aggregates := by rw [ha₁]; exact hf.aggregateNames
      having := by rw [hh]; exact hf.havingNames }
  obtain ⟨-, ht, -⟩ := truthy_of_docs hl.aggregates (by rw [ha₁]; exact ha)
  have m := moveHaving_moved hl hn ht h₂
  -- moving writes the conditions only
  have hs₂ : docsOf plan' "selections" = docsOf plan "selections" :=
    (docsOf_kept m.kept c.kept.record).trans hs
  have hk₂ : docsOf (plan'.peek "group_by") "group_by_columns" =
      docsOf (between.peek "group_by") "group_by_columns" := docsOf_kept m.group c.group.record
  refine ⟨m.listFields c.kept.record hl, hs₂, ?_, ?_, ?_, ?_, m.onGroup, ?_⟩
  · rw [hs₂]
    exact c.showable
  · exact (docsOf_kept m.group c.group.record).trans ha₁
  · rw [hk₂]
    exact c.named
  · rw [hk₂, projections_congr hs₂]
    exact c.complete
  · have hfi := m.filters
    rwa [hgl, hh] at hfi

/-! ### The repaired plan -/

section

section

variable (h : PlanRepaired schema between plan')

include h

lemma PlanRepaired.projections (hs : ∀ s ∈ docsOf between "selections", Showable s) :
    Forall₂ (RenamedOwn schema) (projections between) (projections plan') := by
  have hse := (forall₂_and_left _ _).2 ⟨hs, h.selections⟩
  exact rel_flatMap (R := fun s s' => Showable s ∧ SelectionRepaired schema s s') hse
    fun s s' hs => hs.2.projections hs.1

lemma PlanRepaired.complete (hr : Regrouped plan between) :
    ∀ c ∈ Plan.projections plan', ∃ k ∈ docsOf (plan'.peek "group_by") "group_by_columns", SameColumn k c := by
  intro c' hc'
  obtain ⟨c, hc, hre⟩ := (h.projections hr.showable).exists_left hc'
  obtain ⟨k, hk, hs⟩ := hr.complete c hc
  obtain ⟨k', hk', hke⟩ := h.group.keys.exists_right hk
  exact ⟨k', hk', hs.renamed hke hre⟩

lemma PlanRepaired.aggregates_ne_nil (ha : docsOf (between.peek "group_by") "aggregates" ≠ []) :
    docsOf (plan'.peek "group_by") "aggregates" ≠ [] := by
  intro hn
  have hr := h.group.aggregates
  rw [hn, forall₂_nil_right_iff] at hr
  exact ha hr

lemma PlanRepaired.projectedColumns_eq (hr : Regrouped plan between) :
    projectedColumns plan' = .ok ((Plan.projections plan').map namesOf) := by
  refine projectedColumns_of_showable h.record h.list fun s' hs' => ?_
  obtain ⟨s, hs, hre⟩ := h.selections.exists_left hs'
  exact ⟨hre.list, hre.showable (hr.showable s hs)⟩

lemma PlanRepaired.keys_eq (hr : Regrouped plan between) :
    (docsOf (plan'.peek "group_by") "group_by_columns").mapM namesIn =
      .ok ((docsOf (plan'.peek "group_by") "group_by_columns").map namesOf) := by
  refine mapM_eq_map fun k' hk' => namesIn_ok.2 ⟨?_, rfl⟩
  obtain ⟨k, hk, hre⟩ := h.group.keys.exists_left hk'
  obtain ⟨ht, hc, -⟩ := hr.keys k hk
  exact ⟨by rw [hre.kept.at? _]; exact ht, hre.present hc⟩

lemma PlanRepaired.unremarked (hr : Regrouped plan between) (hn : ∀ c ∈ Plan.projections between, Named c)
    (ha : docsOf (between.peek "group_by") "aggregates" ≠ []) : ungroupedIssues plan' = .ok [] := by
  obtain ⟨hg, ht, hs⟩ := truthy_of_docs h.group.aggregatesList (h.aggregates_ne_nil ha)
  have hno : ((Plan.projections plan').map namesOf).filter (fun c =>
      !((docsOf (plan'.peek "group_by") "group_by_columns").map namesOf).any (· == c)) = [] := by
    rw [filter_eq_nil_iff]
    intro ns hin
    obtain ⟨c', hc', rfl⟩ := mem_map.1 hin
    obtain ⟨k', hk', hta, hco⟩ := h.complete hr c' hc'
    obtain ⟨c, hc, hre⟩ := (h.projections hr.showable).exists_left hc'
    have hsa : namesOf k' = namesOf c' := by rw [namesOf, namesOf, hta, hco]
    have han : ((docsOf (plan'.peek "group_by") "group_by_columns").map namesOf).any (· == namesOf c') = true :=
      any_eq_true.2 ⟨namesOf k', mem_map_of_mem hk', by rw [hsa]; exact hre.beq_self (hn c hc)⟩
    simp [han]
  unfold ungroupedIssues
  rw [h.record.get, ← peek_eq_at?, ok_bind, ht, Bool.not_true, if_neg (by simp),
    hg.get, ← peek_eq_at?, ok_bind, hs, Bool.not_true, if_neg (by simp),
    h.projectedColumns_eq hr, ok_bind, itemsOf_of_listAt hg h.group.keysList, ok_bind,
    h.keys_eq hr, ok_bind, hno]
  rfl

end

/-- A column stands in the select list and among the keys of a statement. -/
def Stated (clauses : List Clause) (r : Reference) : Prop :=
  (∃ items shortName, .select items ∈ clauses ∧ SelectItem.column r shortName ∈ items) ∧ .groupBy r ∈ clauses

lemma reference_eq {r : Reference} (h : r.Of doc) : r = ⟨doc.peek "table", doc.peek "column"⟩ := by
  obtain ⟨-, ht⟩ := get_ok.1 h.1
  obtain ⟨-, hc⟩ := get_ok.1 h.2
  rw [ht, hc]

lemma keys_stated {s : Surroundings}
    (hg : (plan.peek "group_by").truthy = true) (h : Gives (buildClauses plan state context) s t cls t') :
    ∀ k ∈ docsOf (plan.peek "group_by") "group_by_columns", Stated cls ⟨k.peek "table", k.peek "column"⟩ := by
  intro k hk
  obtain ⟨p, hp, rfl⟩ := buildClauses_parts h
  obtain ⟨-, hgroupOf⟩ := get_ok.1 hp.group
  rw [hgroupOf] at hg hk
  constructor
  · obtain ⟨windows, -, hi⟩ := hp.items
    obtain ⟨shown, _, windowItems, hs, -, -, hi⟩ := selectItems_ok hi
    rcases shownItems_ok hs with ⟨-, ks, _, keyItems, _, hke, -, hre, -, rfl⟩ | ⟨hf, -⟩
    · rw [docsOf_eq hke] at hk
      obtain ⟨item, hit, r, ⟨sn, rfl⟩, hr⟩ := hre.exists_right hk
      rw [← reference_eq hr]
      refine ⟨p.items, sn, mem_cons_self, ?_⟩
      rcases hi with ⟨-, hn⟩ | ha
      · rw [append_eq_nil_iff] at hn
        simp [hn.1] at hit
      · rw [ha]
        exact mem_append_left _ (mem_append_left _ hit)
    · rw [hg] at hf
      cases hf
  · rcases groupClauses_ok hp.groups with ⟨hf, -⟩ | ⟨-, docs, ks, conds, hd, hre, hgr, -⟩
    · rw [hg] at hf
      cases hf
    · rw [docsOf_eq hd] at hk
      obtain ⟨clause, hc, r, rfl, hr⟩ := hre.exists_right hk
      rw [← reference_eq hr]
      have hin : Clause.groupBy r ∈ p.groups := by
        rw [hgr]
        exact mem_append_left _ hc
      simp [Parts.clauses, Parts.after, hin]

end

/-- A plan with aggregates that was repaired. The columns it shows are those it showed before, under their new
names; each is a key, nothing is said against the grouping, and every statement built from the plan selects
them and groups by them. Conditions on groups speak of keys or aggregated columns, and all conditions are
still there, with nothing but their columns renamed. -/
theorem repair_groups_shown_columns {notes : List String} (hformed : Formed plan)
    (haggregates : docsOf (plan.peek "group_by") "aggregates" ≠ []) (h : repair schema plan = .ok (plan', notes)) :
    List.Forall₂ (RenamedOwn schema) (projections plan) (projections plan') ∧
      (∀ c ∈ projections plan', ∃ k ∈ docsOf (plan'.peek "group_by") "group_by_columns", SameColumn k c) ∧
      ungroupedIssues plan' = .ok [] ∧
      (∀ state context s t clauses t', Gives (buildClauses plan' state context) s t clauses t' →
        ∀ c ∈ projections plan', Stated clauses ⟨c.peek "table", c.peek "column"⟩) ∧
      (∀ f ∈ docsOf (plan'.peek "group_by") "having_filters", OnGroup (plan'.peek "group_by") f) ∧
      ∃ filters, filters.Perm (docsOf plan "global_filters" ++ docsOf (plan.peek "group_by") "having_filters") ∧
        List.Forall₂ (RenamedOwn schema) filters
          (docsOf plan' "global_filters" ++ docsOf (plan'.peek "group_by") "having_filters") := by
  simp only [repair, bind_ok] at h
  obtain ⟨completed, hco, moved, hm, hre⟩ := h
  have hr := regrouped_of_steps hformed haggregates hco hm
  have ha' : docsOf (moved.peek "group_by") "aggregates" ≠ [] := by
    rw [hr.aggregates]
    exact haggregates
  obtain ⟨-, ht, -⟩ := truthy_of_docs hr.lists.aggregates ha'
  have hp := repairColumns_ok hr.lists ht hre
  have hs : projections moved = projections plan := projections_congr hr.selections
  have hpr := hp.projections hr.showable
  rw [hs] at hpr
  refine ⟨hpr, hp.complete hr, ?_, ?_, ?_, _, hr.filters, rel_append hp.globals hp.group.having⟩
  · exact hp.unremarked hr (by rw [hs]; exact hformed.projections) ha'
  · intro state context s t clauses t' hg c hc
    obtain ⟨k, hk, hta, hcn⟩ := hp.complete hr c hc
    obtain ⟨-, ht', -⟩ := truthy_of_docs hp.group.aggregatesList (hp.aggregates_ne_nil ha')
    rw [← hta, ← hcn]
    exact keys_stated ht' hg k hk
  · intro f' hf'
    obtain ⟨f, hf, hre⟩ := hp.group.having.exists_left hf'
    exact hp.group.onGroup hre (hr.onGroup f hf)

/-! A plan that shows a column it does not group by, writes columns in the wrong case, and restricts groups by
a column of the rows. -/

def orderColumn (name : String) (others : Fields) : Value :=
  .record ([("table", .text "Orders"), ("column", .text name)] ++ others)

def regionTotals : Value := .record [
  ("selections", .list [.record [("table", "Orders"), ("columns", .list [orderColumn "region" [("role", "projection")],
      orderColumn "amount" [("role", "filter")]])],
    .record [("table", "Customers"), ("include_only_for_join", .bool true), ("columns", .list [])]]),
  ("group_by", .record [("group_by_columns", .list []),
    ("aggregates", .list [orderColumn "amount" [("function", "SUM"), ("alias", "total")]]),
    ("having_filters", .list [orderColumn "amount" [("op", ">"), ("value", .int 10)],
      orderColumn "status" [("op", "="), ("value", "open")]])])]

def orderSchema : Value := .list [.record [("table_name", "Orders"), ("columns", .list [
  .record [("column_name", "Region")], .record [("column_name", "Amount")], .record [("column_name", "Status")]])]]

def regionTotalsRepaired : Value := .record [
  ("selections", .list [.record [("table", "Orders"), ("columns", .list [orderColumn "Region" [("role", "projection")],
      orderColumn "Amount" [("role", "filter")]])],
    .record [("table", "Customers"), ("include_only_for_join", .bool true), ("columns", .list [])]]),
  ("group_by", .record [("group_by_columns", .list [orderColumn "Region" []]),
    ("aggregates", .list [orderColumn "Amount" [("function", "SUM"), ("alias", "total")]]),
    ("having_filters", .list [orderColumn "Amount" [("op", ">"), ("value", .int 10)]])]),
  ("global_filters", .list [orderColumn "Status" [("op", "="), ("value", "open")]])]

lemma regionTotals_formed : Formed regionTotals := by decide +kernel

lemma repair_regionTotals : repair orderSchema regionTotals = .ok (regionTotalsRepaired,
    ["Selection column: Orders.region → Orders.Region", "Selection column: Orders.amount → Orders.Amount",
      "Global filter: Orders.status → Orders.Status", "GROUP BY: Orders.region → Orders.Region",
      "Aggregate: Orders.amount → Orders.Amount", "HAVING: Orders.amount → Orders.Amount"]) := rfl

theorem repair_groups_shown_columns_orders :
    (∃ notes, repair orderSchema regionTotals = .ok (regionTotalsRepaired, notes)) ∧
      ungroupedIssues regionTotalsRepaired = .ok [] ∧
      ∃ filters, filters.Perm [orderColumn "amount" [("op", ">"), ("value", .int 10)],
          orderColumn "status" [("op", "="), ("value", "open")]] ∧
        List.Forall₂ (RenamedOwn orderSchema) filters [orderColumn "Status" [("op", "="), ("value", "open")],
          orderColumn "Amount" [("op", ">"), ("value", .int 10)]] := by
  obtain ⟨-, -, hi, -, -, hf⟩ := repair_groups_shown_columns regionTotals_formed
    (cons_ne_nil _ _) repair_regionTotals
  exact ⟨⟨_, repair_regionTotals⟩, hi, hf⟩

end QueryDesk.Plan
