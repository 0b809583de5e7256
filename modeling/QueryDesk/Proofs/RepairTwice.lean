import QueryDesk.Proofs.SettledColumns

/-!
Repairing a plan twice. The keys of a repaired group are complete, and the conditions that stay with it speak of
it. Both are compared by names that the last step of the repair changes, but it changes them alike wherever they
stand; so a second repair finds nothing to complete, nothing to move, and, the columns being settled, nothing to
rename.
-/

namespace QueryDesk.Plan

open Attempt Desk Value Sql List Value

variable {schema plan plan' : Value} {notes : List String}

/-! ### Columns that are looked for -/

/-- A name that can be a member of a set and is found there. -/
def Findable (v : Value) : Prop := v.changeable? = none ∧ (v == v) = true

/-- A document whose table and column are there and can be looked for. -/
structure Locatable (doc : Value) : Prop where
  present : (doc.at? "table").isSome = true ∧ (doc.at? "column").isSome = true
  table : Findable (doc.peek "table")
  column : Findable (doc.peek "column")

section

lemma findable_of_isPlain (h : IsPlain v) : Findable v := by
  refine ⟨?_, (beq_plain_iff h h).2 rfl⟩
  rcases h with rfl | ⟨s, rfl⟩ <;> rfl

lemma findable_of_text (h : v.text?.isSome = true) : Findable v := by
  refine ⟨?_, beq_self_of_text h⟩
  cases v with
  | text s => rfl
  | statement calls => rfl
  | _ => cases h

lemma RenamedOwn.findable (h : RenamedOwn schema d d') (hn : Named d) :
    Findable (d'.peek "table") ∧ Findable (d'.peek "column") := by
  refine ⟨by rw [h.table]; exact findable_of_isPlain hn.1, ?_⟩
  obtain ⟨hrd, fixed, hf, rfl⟩ := h
  rw [withColumn_peek hrd]
  cases fixed with
  | none => exact findable_of_isPlain hn.2
  | some c => exact findable_of_text (repaired?_eq_some hf).1

lemma RenamedOwn.locatable (h : RenamedOwn schema d d') (hn : Named d) (ht : (d.at? "table").isSome = true)
    (hc : (d.at? "column").isSome = true) : Locatable d' :=
  ⟨⟨by rw [h.kept.at? _]; exact ht, h.present hc⟩, (h.findable hn).1, (h.findable hn).2⟩

lemma pairOf_hashable (ht : Findable (d.peek "table")) (hc : Findable (d.peek "column")) :
    (pairOf d).hashable = .ok (pairOf d) := by
  have hn : (pairOf d).changeable? = none := by
    show ((d.peek "table").changeable?.or ((d.peek "column").changeable?.or none)) = none
    rw [ht.1, hc.1]
    rfl
  unfold hashable
  rw [hn]

lemma Locatable.namedPair_eq (h : Locatable d) : namedPair d = .ok (pairOf d) := by
  obtain ⟨tb, ht⟩ := Option.isSome_iff_exists.1 h.present.1
  obtain ⟨col, hc⟩ := Option.isSome_iff_exists.1 h.present.2
  have hp := pairOf_hashable h.table h.column
  unfold pairOf at hp ⊢
  rw [peek_eq_at?, peek_eq_at?, ht, hc] at hp ⊢
  rw [namedPair, field_ok.2 ht, ok_bind, field_ok.2 hc, ok_bind]
  exact hp

lemma SameColumn.beq (h : SameColumn d e) (ht : Findable (e.peek "table"))
    (hc : Findable (e.peek "column")) : (pairOf d == pairOf e) = true := by
  unfold pairOf
  rw [h.1, h.2]
  show sameItems [_, _] [_, _] = true
  simp only [sameItems, Bool.and_true, Bool.and_eq_true]
  exact ⟨ht.2, hc.2⟩

end

lemma docs_ne_nil_of_truthy (hl : ListAt doc key)
    (h : (doc.peek key).truthy = true) : docsOf doc key ≠ [] := by
  have hf := at?_of_truthy h
  obtain ⟨xs, hxs⟩ := hl _ hf
  rw [hxs] at hf h
  rw [docsOf_of_at? hf]
  simpa [truthy] using h

lemma parted_of_all (h : ∀ x ∈ xs, test x = .ok true) :
    parted test xs = .ok (xs, []) := by
  have hm : (xs.mapM fun x => do return (x, ← test x)) = .ok (xs.map fun x => (x, true)) :=
    mapM_eq_map fun x hx => by rw [h x hx]; rfl
  unfold parted
  rw [hm, ok_bind]
  simp [filter_map, Function.comp_def]

/-! ### Groups that are left alone -/

section

variable (hrd : plan.IsRecord)

include hrd

lemma completeGrouping_of_falsy (h : (plan.peek "group_by").truthy = false) : completeGrouping plan = .ok plan := by
  rw [completeGrouping, hrd.get, ← peek_eq_at?, ok_bind, h]
  rfl

lemma moveHaving_of_falsy (h : (plan.peek "group_by").truthy = false) : moveHaving plan = .ok plan := by
  rw [moveHaving, hrd.get, ← peek_eq_at?, ok_bind, h]
  rfl

variable (hgr : (plan.peek "group_by").IsRecord)

include hgr

lemma completeGrouping_of_plain (h : ((plan.peek "group_by").peek "aggregates").truthy = false) :
    completeGrouping plan = .ok plan := by
  by_cases ht : (plan.peek "group_by").truthy = true
  · rw [completeGrouping, hrd.get, ← peek_eq_at?, ok_bind, ht, Bool.not_true,
      if_neg (by simp), hgr.get, ← peek_eq_at?, ok_bind, h]
    rfl
  · exact completeGrouping_of_falsy hrd (by simpa using ht)

lemma completeGrouping_of_complete {ks shown : List Value} (ht : (plan.peek "group_by").truthy = true)
    (hke : (plan.peek "group_by").at? "group_by_columns" = some (.list ks)) (hl : ∀ k ∈ ks, Locatable k)
    (hs : projectedColumns plan = .ok shown) (hf : ∀ c ∈ shown, Locatable c ∧ ∃ k ∈ ks, SameColumn k c) :
    completeGrouping plan = .ok plan := by
  by_cases ha : ((plan.peek "group_by").peek "aggregates").truthy = true
  · have hkn : ks.mapM namedPair = .ok (ks.map pairOf) :=
      mapM_eq_map fun k hk => (hl k hk).namedPair_eq
    have hp : parted (fun c => do return (ks.map pairOf).any (· == (← namedPair c))) shown =
        .ok (shown, []) := by
      refine parted_of_all fun c hc => ?_
      obtain ⟨hc, k, hk, hsa⟩ := hf c hc
      rw [hc.namedPair_eq, ok_bind, any_eq_true.2 ⟨pairOf k, mem_map_of_mem hk, hsa.beq hc.table hc.column⟩]
      rfl
    rw [completeGrouping, hrd.get, ← peek_eq_at?, ok_bind, ht, Bool.not_true,
      if_neg (by simp), hgr.get, ← peek_eq_at?, ok_bind, ha, Bool.not_true,
      if_neg (by simp), hs, ok_bind, hgr.getD, hke, ok_bind, Option.getD_some]
    show (ks.mapM namedPair >>= _) = _
    rw [hkn, ok_bind, hp, ok_bind]
    show ((plan.peek "group_by").setField "group_by_columns" (.list ks) >>= _) = _
    rw [setField_eq_self hke, ok_bind, setField_eq_self (at?_of_truthy ht)]
  · exact completeGrouping_of_plain hrd hgr (by simpa using ha)

end

section

lemma aggregatedColumns_eq (hgr : grp.IsRecord) (hli : ListAt grp "aggregates")
    (h : ∀ a ∈ docsOf grp "aggregates", a.IsRecord ∧ ((a.peek "column").truthy = true → Locatable a)) :
    aggregatedColumns grp = .ok (aggregatedPairs grp) := by
  have hp : ((docsOf grp "aggregates").mapM fun a => do
      if (← a.get "column").truthy then do pure [← namedPair a] else pure []) =
      .ok ((docsOf grp "aggregates").map fun a => if (a.peek "column").truthy then [pairOf a] else []) := by
    refine mapM_eq_map fun a ha => ?_
    obtain ⟨hrd, hl⟩ := h a ha
    rw [hrd.get, ← peek_eq_at?, ok_bind]
    by_cases hc : (a.peek "column").truthy = true
    · rw [if_pos hc, if_pos hc, (hl hc).namedPair_eq]
      rfl
    · rw [if_neg hc, if_neg hc]
      rfl
  rw [aggregatedColumns, itemsOf_of_listAt hgr hli, ok_bind, hp]
  rfl

/-- A condition that can be looked for among the columns of a group, and is found there. -/
structure Stays (group f : Value) : Prop where
  record : f.IsRecord
  table : Findable (f.peek "table")
  column : Findable (f.peek "column")
  onGroup : OnGroup group f

lemma Stays.speaksOf_eq (h : Stays grp f) :
    speaksOf ((docsOf grp "group_by_columns").map pairOf ++ aggregatedPairs grp) f = .ok true := by
  rw [speaksOf, h.record.get, ← peek_eq_at?, ok_bind, h.record.get, ← peek_eq_at?, ok_bind]
  show ((pairOf f).hashable >>= _) = _
  rw [pairOf_hashable h.table h.column, ok_bind, pure_ok, any_eq_true]
  rcases h.onGroup with ⟨k, hk, hs⟩ | ⟨a, ha, hn, hs⟩
  · exact ⟨pairOf k, mem_append_left _ (mem_map_of_mem hk), hs.beq h.table h.column⟩
  · exact ⟨pairOf a, mem_append_right _ (mem_aggregatedPairs.2 ⟨a, ha, hn, rfl⟩), hs.beq h.table h.column⟩

end

lemma moveHaving_of_stays (hrd : plan.IsRecord) (hgr : (plan.peek "group_by").IsRecord)
    (ht : (plan.peek "group_by").truthy = true) (hkeysList : ListAt (plan.peek "group_by") "group_by_columns")
    (haggregatesList : ListAt (plan.peek "group_by") "aggregates")
    (hhavingList : ListAt (plan.peek "group_by") "having_filters")
    (hl : docsOf (plan.peek "group_by") "having_filters" ≠ [] →
      (∀ k ∈ docsOf (plan.peek "group_by") "group_by_columns", Locatable k) ∧
      ∀ a ∈ docsOf (plan.peek "group_by") "aggregates", a.IsRecord ∧ ((a.peek "column").truthy = true → Locatable a))
    (hst : ∀ f ∈ docsOf (plan.peek "group_by") "having_filters", Stays (plan.peek "group_by") f) :
    moveHaving plan = .ok plan := by
  rw [moveHaving, hrd.get, ← peek_eq_at?, ok_bind, ht, Bool.not_true,
    if_neg (by simp), hgr.get, ← peek_eq_at?, ok_bind]
  by_cases hs : ((plan.peek "group_by").peek "having_filters").truthy = true
  · obtain ⟨hke, ha⟩ := hl (docs_ne_nil_of_truthy hhavingList hs)
    have hp : (docsOf (plan.peek "group_by") "group_by_columns").mapM namedPair =
        .ok ((docsOf (plan.peek "group_by") "group_by_columns").map pairOf) :=
      mapM_eq_map fun k hk => (hke k hk).namedPair_eq
    rw [hs, Bool.not_true, if_neg (by simp), itemsOf_of_listAt hgr hkeysList, ok_bind, hp,
      ok_bind, aggregatedColumns_eq hgr haggregatesList ha, ok_bind,
      itemsOf_of_listAt hgr hhavingList, ok_bind, parted_of_all fun f hf => (hst f hf).speaksOf_eq]
    rfl
  · rw [if_pos (by simpa using hs)]
    rfl

/-! ### A plan before its columns are renamed -/

/-- The fields of a plan that are lists, and its names texts. -/
@[mk_iff]
structure Regular (plan : Value) : Prop extends Formed plan, PlanLists plan

instance (plan : Value) : Decidable (Regular plan) := decidable_of_iff' _ (regular_iff plan)

/-- What completing the grouping and moving conditions make of a plan. -/
structure Arranged (plan plan' : Value) : Prop where
  lists : PlanLists plan'
  names : GroupNamed (plan'.peek "group_by")
  shown : docsOf (plan'.peek "group_by") "aggregates" ≠ [] →
    Regrouped plan plan' ∧ ((plan'.peek "group_by").at? "group_by_columns").isSome = true
  onGroup : ∀ f ∈ docsOf (plan'.peek "group_by") "having_filters", OnGroup (plan'.peek "group_by") f
  present : docsOf (plan'.peek "group_by") "having_filters" ≠ [] →
    (∀ k ∈ docsOf (plan'.peek "group_by") "group_by_columns", ∃ pair, namedPair k = .ok pair) ∧
    ∀ a ∈ docsOf (plan'.peek "group_by") "aggregates", (a.peek "column").truthy = true → ∃ pair, namedPair a = .ok pair

lemma OnGroup.named (h : OnGroup grp f)
    (hke : ∀ k ∈ docsOf grp "group_by_columns", Named k) (hag : ∀ a ∈ docsOf grp "aggregates", Named a) :
    Named f := by
  rcases h with ⟨k, hk, ht, hc⟩ | ⟨a, ha, -, ht, hc⟩
  · have hk := hke k hk
    rw [Named, ht, hc] at hk
    exact hk
  · have ha := hag a ha
    rw [Named, ht, hc] at ha
    exact ha

lemma moveHaving_group (hgr : (plan.peek "group_by").IsRecord) (h : moveHaving plan = .ok plan') :
    Kept ["having_filters"] (plan.peek "group_by") (plan'.peek "group_by") := by
  obtain ⟨hrd, ⟨-, rfl⟩ | ⟨-, -, rfl⟩ | hp⟩ := moveHaving_cases h
  · exact kept_refl hgr
  · exact kept_refl hgr
  · exact (hp.kept hrd).2

lemma moveHaving_present (hl : ListAt (plan.peek "group_by") "having_filters") (h : moveHaving plan = .ok plan')
    (hs : docsOf (plan'.peek "group_by") "having_filters" ≠ []) :
    (∀ k ∈ docsOf (plan'.peek "group_by") "group_by_columns", ∃ pair, namedPair k = .ok pair) ∧
    ∀ a ∈ docsOf (plan'.peek "group_by") "aggregates", (a.peek "column").truthy = true →
      ∃ pair, namedPair a = .ok pair := by
  obtain ⟨hrd, ⟨hf, rfl⟩ | ⟨-, hn, rfl⟩ | hp⟩ := moveHaving_cases h
  · exact absurd (docsOf_of_falsy hf) hs
  · rw [(truthy_of_docs hl hs).2.2] at hn
    cases hn
  · have hk := (hp.kept hrd).2
    rw [docsOf_kept hk hp.group, docsOf_kept hk hp.group]
    exact ⟨hp.keys, hp.aggregates⟩

lemma PlanLists.of_lists (h : PlanLists plan) (hrd : plan.IsRecord)
    (hk : Kept ["global_filters", "group_by"] plan plan') (hl : ListFields plan') : PlanLists plan' where
  toListFields := hl
  filters := by
    rw [docsOf_kept hk hrd]
    exact h.filters
  edges := h.edges.congr (hk.at? _)
  orders := h.orders.congr (hk.at? _)

lemma arranged_of_plain (hr : Regular plan) (ht : (plan.peek "group_by").truthy = true)
    (ha : docsOf (plan.peek "group_by") "aggregates" = []) (h : moveHaving plan = .ok plan') :
    Arranged plan plan' := by
  have hna : GroupNamed (plan.peek "group_by") :=
    ⟨hr.keyNames, hr.aggregateNames, hr.havingNames⟩
  obtain ⟨hrd, hgr, -⟩ := moveHaving_ok hr.toListFields ht h
  have m := moveHaving_moved hr.toListFields hna ht h
  have hk : docsOf (plan'.peek "group_by") "group_by_columns" = docsOf (plan.peek "group_by") "group_by_columns" :=
    docsOf_kept m.group hgr
  have hno : docsOf (plan'.peek "group_by") "aggregates" = [] := by
    rw [docsOf_kept m.group hgr, ha]
  have hkeyNames : ∀ k ∈ docsOf (plan'.peek "group_by") "group_by_columns", Named k := by
    rw [hk]
    exact hr.keyNames
  have hn : ∀ a ∈ docsOf (plan'.peek "group_by") "aggregates", Named a := by simp [hno]
  exact ⟨hr.toPlanLists.of_lists hrd m.kept (m.listFields hrd hr.toListFields),
    ⟨hkeyNames, hn, fun f hf => (m.onGroup f hf).named hkeyNames hn⟩,
    fun hs => absurd hno hs, m.onGroup, moveHaving_present hr.having h⟩

lemma arranged_of_aggregates (hre : Regular plan)
    (ha : docsOf (plan.peek "group_by") "aggregates" ≠ []) (h₁ : completeGrouping plan = .ok between)
    (h₂ : moveHaving between = .ok plan') : Arranged plan plan' := by
  obtain ⟨hrd, -, -, missing, -, -, hkt, hgr, hfi⟩ :=
    completeGrouping_ok hre.toListFields ha h₁
  have hr := regrouped_of_steps hre.toFormed ha h₁ h₂
  have hb : Kept ["global_filters", "group_by"] plan plan' := by
    have hal := hkt.trans (moveHaving_kept h₂)
    exact ⟨hal.record, fun key hke => hal.same key (by simp at hke; simp [hke])⟩
  have hkd : ((plan'.peek "group_by").at? "group_by_columns").isSome = true := by
    rw [(moveHaving_group hgr.record h₂).at? _, hfi]
    rfl
  have hkeyNames : ∀ k ∈ docsOf (plan'.peek "group_by") "group_by_columns", Named k := fun k hk => (hr.keys k hk).2.2
  have hn : ∀ a ∈ docsOf (plan'.peek "group_by") "aggregates", Named a := by
    rw [hr.aggregates]
    exact hre.aggregateNames
  exact ⟨hre.toPlanLists.of_lists hrd hb hr.lists,
    ⟨hkeyNames, hn, fun f hf => (hr.onGroup f hf).named hkeyNames hn⟩, fun _ => ⟨hr, hkd⟩, hr.onGroup,
    moveHaving_present (hre.having.congr (hgr.at? _)) h₂⟩

lemma arranged_of_steps (hr : Regular plan) (h₁ : completeGrouping plan = .ok between)
    (h₂ : moveHaving between = .ok plan') : Arranged plan plan' := by
  have hrd := (completeGrouping_kept h₁).1
  by_cases ht : (plan.peek "group_by").truthy = true
  · by_cases ha : docsOf (plan.peek "group_by") "aggregates" = []
    · have hp : ((plan.peek "group_by").peek "aggregates").truthy = false := by
        by_contra hs
        exact docs_ne_nil_of_truthy hr.aggregates (by simpa using hs) ha
      have hgr : (plan.peek "group_by").IsRecord := by
        simp only [completeGrouping, exists_get, bind_ok] at h₁
        obtain ⟨-, h₁⟩ := h₁
        rw [ht, Bool.not_true, if_neg (by simp)] at h₁
        obtain ⟨_, hg', -⟩ := bind_ok.1 h₁
        exact (get_ok.1 hg').1
      rw [completeGrouping_of_plain hrd hgr hp] at h₁
      cases h₁
      exact arranged_of_plain hr ht ha h₂
    · exact arranged_of_aggregates hr ha h₁ h₂
  · -- without groups nothing is done at all
    have hfa : (plan.peek "group_by").truthy = false := by simpa using ht
    rw [completeGrouping_of_falsy hrd hfa] at h₁
    cases h₁
    rw [moveHaving_of_falsy hrd hfa] at h₂
    cases h₂
    have hn : ∀ key, docsOf (plan.peek "group_by") key = [] := fun key => docsOf_of_falsy hfa
    exact ⟨hr.toPlanLists, ⟨hr.keyNames, hr.aggregateNames, hr.havingNames⟩,
      fun h => absurd (hn _) h, fun f hf => by simp [hn] at hf, fun h => absurd (hn _) h⟩

/-! ### The second repair -/

section

lemma Arranged.completeGrouping_eq (h : Arranged plan between) (hf : Formed plan)
    (hre : Repaired schema between plan') (hp : PlanRepaired schema between plan')
    (htr : (plan'.peek "group_by").truthy = true) : completeGrouping plan' = .ok plan' := by
  by_cases ha : docsOf (between.peek "group_by") "aggregates" = []
  · have hno : docsOf (plan'.peek "group_by") "aggregates" = [] := by
      have hal := hp.group.aggregates
      rw [ha, forall₂_nil_left_iff] at hal
      exact hal
    refine completeGrouping_of_plain hp.record hp.group.kept.record ?_
    by_contra hs
    exact docs_ne_nil_of_truthy hp.group.aggregatesList (by simpa using hs) hno
  · obtain ⟨hr, hke⟩ := h.shown ha
    obtain ⟨v, hv⟩ := Option.isSome_iff_exists.1
      (hre.keyed (truthy_of_docs h.lists.aggregates ha).2.1 hke)
    obtain ⟨keys, rfl⟩ := hp.group.keysList v hv
    have hd : docsOf (plan'.peek "group_by") "group_by_columns" = keys := docsOf_of_at? hv
    refine completeGrouping_of_complete hp.record hp.group.kept.record htr hv (fun k' hk' => ?_)
      (hp.projectedColumns_eq hr) fun ns hn => ?_
    · rw [← hd] at hk'
      obtain ⟨k, hk, hrn⟩ := hp.group.keys.exists_left hk'
      obtain ⟨ht, hco, hna⟩ := hr.keys k hk
      exact hrn.locatable hna ht hco
    · obtain ⟨c', hc', rfl⟩ := mem_map.1 hn
      obtain ⟨k', hk', hsa⟩ := hp.complete hr c' hc'
      obtain ⟨c, hc, hrn⟩ := (hp.projections hr.showable).exists_left hc'
      rw [projections_congr hr.selections] at hc
      obtain ⟨ht, hco⟩ := hrn.findable (hf.projections c hc)
      exact ⟨⟨⟨rfl, rfl⟩, ht, hco⟩, k', by rw [← hd]; exact hk', hsa⟩

lemma Arranged.moveHaving_eq (h : Arranged plan between) (hre : Repaired schema between plan')
    (hp : PlanRepaired schema between plan') (htr : (plan'.peek "group_by").truthy = true) :
    moveHaving plan' = .ok plan' := by
  have hs := hre.settled.group htr
  refine moveHaving_of_stays hp.record hp.group.kept.record htr hp.group.keysList hp.group.aggregatesList
    hs.having.listAt (fun hso => ?_) fun f' hf' => ?_
  · have hb : docsOf (between.peek "group_by") "having_filters" ≠ [] := by
      intro hn
      have hal := hp.group.having
      rw [hn, forall₂_nil_left_iff] at hal
      exact hso hal
    obtain ⟨hke, hag⟩ := h.present hb
    constructor
    · intro k' hk'
      obtain ⟨k, hk, hr⟩ := hp.group.keys.exists_left hk'
      obtain ⟨pair, hpa⟩ := hke k hk
      obtain ⟨-, -, ht, hc⟩ := namedPair_ok hpa
      exact hr.locatable (h.names.keys k hk) ht hc
    · intro a' ha'
      obtain ⟨a, ha, hrd, ⟨hn, rfl⟩ | ⟨hc, hr⟩⟩ := hp.group.aggregates.exists_left ha'
      · exact ⟨hrd, fun hc => by rw [hn] at hc; cases hc⟩
      · obtain ⟨pair, hpa⟩ := hag a ha hc
        obtain ⟨-, -, ht, hpr⟩ := namedPair_ok hpa
        exact ⟨hr.kept.record, fun _ => hr.locatable (h.names.aggregates a ha) ht hpr⟩
  · obtain ⟨f, hf, hr⟩ := hp.group.having.exists_left hf'
    obtain ⟨ht, hc⟩ := hr.findable (h.names.having f hf)
    exact ⟨hr.kept.record, ht, hc, hp.group.onGroup hr (h.onGroup f hf)⟩

end

/-- A repaired plan is repaired for good: its tables are still those of the plan, so that it is held against the
same part of the schema, and repairing it again changes nothing and notes nothing. -/
theorem repair_twice {tables : List Value} (hregular : Regular plan) (hnarrow : narrow plan schema = .ok tables)
    (h : repair (.list tables) plan = .ok (plan', notes)) :
    narrow plan' schema = .ok tables ∧ repair (.list tables) plan' = .ok (plan', []) := by
  simp only [repair, bind_ok] at h
  obtain ⟨completed, hc, moved, hm, hre⟩ := h
  have ha := arranged_of_steps hregular hc hm
  have hr := repairColumns_repaired ha.lists hre
  obtain ⟨hrd, hk₁⟩ := completeGrouping_kept hc
  have hk := hk₁.trans (moveHaving_kept hm)
  have hta : planTables plan' = planTables plan :=
    (hr.planTables_eq hk.record ha.lists).trans
      (planTables_congr hrd hk.record (hk.at? _) (hk.at? _))
  refine ⟨by rw [narrow, hta]; exact hnarrow, ?_⟩
  have hs : completeGrouping plan' = .ok plan' ∧ moveHaving plan' = .ok plan' := by
    by_cases ht : (plan'.peek "group_by").truthy = true
    · have hg : (moved.peek "group_by").truthy = true := by
        by_contra hf
        rw [hr.ungrouped (by simpa using hf)] at ht
        cases ht
      have hp := repairColumns_ok ha.lists.toListFields hg hre
      exact ⟨ha.completeGrouping_eq hregular.toFormed hr hp ht, ha.moveHaving_eq hr hp ht⟩
    · have hf : (plan'.peek "group_by").truthy = false := by simpa using ht
      exact ⟨completeGrouping_of_falsy hr.settled.record hf, moveHaving_of_falsy hr.settled.record hf⟩
  rw [repair, hs.1, ok_bind, hs.2, ok_bind]
  exact hr.settled.still

theorem repair_twice_orders : ∃ tables notes, narrow regionTotals orderSchema = .ok tables ∧
    repair (.list tables) regionTotals = .ok (regionTotalsRepaired, notes) ∧ notes.length = 6 ∧
    narrow regionTotalsRepaired orderSchema = .ok tables ∧
    repair (.list tables) regionTotalsRepaired = .ok (regionTotalsRepaired, []) := by
  have hn : narrow regionTotals orderSchema = orderSchema.items := rfl
  exact ⟨_, _, hn, repair_regionTotals, rfl, repair_twice (by decide +kernel) hn repair_regionTotals⟩

end QueryDesk.Plan
