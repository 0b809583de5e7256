import QueryDesk.Proofs.OfferedChanges

/-!
Patches in another order. A patch sets one field of a plan, from a few fields that it reads. A new order and a new
limit read nothing and no other patch reads them, so that it does not matter whether they come before or after
another patch, and of two of a kind only the last one counts. To add a column and remove it again is to do nothing.
-/

namespace QueryDesk.Plan

open Attempt Value Sql List

variable {plan plan' schema r p q : Value} {f g : Value → Attempt Value} {key other : String}
  {reads reads' : List String}

/-! ### Steps that set a field -/

/-- A step that sets a field to a value that depends on what some fields hold. -/
def Sets (reads : List String) (key : String) (step : Value → Attempt Value) : Prop :=
  ∀ plan plan', step plan = .ok plan' → plan.IsRecord ∧ ∃ v, plan' = plan.update [(key, v)] ∧
    ∀ plan₂, plan₂.IsRecord → (∀ k ∈ reads, plan₂.at? k = plan.at? k) → step plan₂ = .ok (plan₂.update [(key, v)])

lemma Sets.bind {step : α → Value → Attempt Value}
    (h : ∀ a, x = .ok a → Sets reads key (step a)) : Sets reads key fun plan => x >>= (step · plan) := by
  intro plan plan' hs
  obtain ⟨a, ha, hs⟩ := bind_ok.1 hs
  simp only [ha, ok_bind]
  exact h a ha plan plan' hs

lemma at?_untouched (h : plan.IsRecord) (hke : key ∉ reads) (v : Value) :
    ∀ k ∈ reads, (plan.update [(key, v)]).at? k = plan.at? k := by
  intro k hk
  refine (h.kept_self key v).same k ?_
  rintro (_ | ⟨_, ⟨⟩⟩)
  exact hke hk

/-- Two steps that set different fields, of which neither reads the other's, can be taken in either order. -/
lemma Sets.commute (hf : Sets reads key f) (hg : Sets reads' other g) (hne : key ≠ other) (hke : key ∉ reads')
    (ho : other ∉ reads) (h : f plan = .ok plan') (h' : g plan' = .ok r) :
    ∃ first r', g plan = .ok first ∧ f first = .ok r' ∧ Kept [] r r' := by
  obtain ⟨hr, v, rfl, hf⟩ := hf plan plan' h
  obtain ⟨hr', w, rfl, hg⟩ := hg _ r h'
  have hfi := hg plan hr fun k hk => (at?_untouched hr hke v k hk).symm
  have ht := hf _ (hr.update [(other, w)]) (at?_untouched hr ho w)
  refine ⟨_, _, hfi, ht, (hr.update _).update _, fun k _ => ?_⟩
  simp only [at?_update (hr.update _), at?_update hr, Fields.latest_cons]
  by_cases hk : k = key <;> by_cases hk' : k = other <;> simp_all [Fields.latest]

/-- Of two steps that set a field and read nothing, the first one does not count. -/
lemma Sets.overwrite (hf : Sets reads key f) (hg : Sets [] key g) (h : f plan = .ok plan') :
    g plan' = .ok r ↔ g plan = .ok r := by
  obtain ⟨hre, v, rfl, -⟩ := hf plan plan' h
  constructor
  · intro hr
    obtain ⟨-, w, rfl, hg⟩ := hg _ r hr
    rw [hg plan hre (by simp), hre.update_twice]
  · intro hr
    obtain ⟨-, w, rfl, hg⟩ := hg _ r hr
    rw [hg _ (hre.update _) (by simp), hre.update_twice]

/-! ### What a patch sets -/

lemma itemsOf_congr (h : doc.IsRecord) (h' : doc'.IsRecord) (hs : doc'.at? key = doc.at? key) :
    itemsOf doc' key = itemsOf doc key := by
  rw [itemsOf, itemsOf, h.getD, h'.getD, hs]

def operationOf (patch : Value) : Option String := (patch.peek "operation").text?

/-- Each kind of patch with the field that it sets and the fields that it reads. -/
def edits : List (String × String × List String) := [
  ("add_column", "selections", ["selections"]),
  ("remove_column", "selections", ["selections", "global_filters", "group_by"]),
  ("modify_order_by", "order_by", []),
  ("modify_limit", "limit", [])]

section

variable {table column : Value}

lemma addColumn_sets : Sets ["selections"] "selections" (addColumn · table column schema) := by
  intro plan plan' h
  simp only [addColumn, bind_ok] at h
  obtain ⟨kn, hk, h⟩ := h
  cases kn with
  | false => simp at h
  | true =>
    simp only [Bool.not_true, Bool.false_eq_true, if_false, bind_ok] at h
    obtain ⟨xs, hxs, fd, hf, h⟩ := h
    cases fd with
    | none => simp at h
    | some sels =>
      obtain ⟨hr, rfl⟩ := setField_ok h
      refine ⟨hr, _, rfl, fun plan₂ hr₂ hs => ?_⟩
      simp only [addColumn, hk, itemsOf_congr hr hr₂ (hs "selections" (by simp)), hxs, hf, ok_bind]
      exact hr₂.setField _ _

lemma removeColumn_sets :
    Sets ["selections", "global_filters", "group_by"] "selections" (removeColumn · table column) := by
  intro plan plan' h
  simp only [removeColumn, bind_ok] at h
  obtain ⟨xs, hxs, fd, hfo, h⟩ := h
  cases fd with
  | none => simp at h
  | some sels =>
    obtain ⟨hr, rfl⟩ := setField_ok h
    refine ⟨hr, _, rfl, fun plan₂ hr₂ hs => ?_⟩
    simp only [forall_mem_cons, not_mem_nil, false_implies, implies_true, and_true] at hs
    obtain ⟨hse, hg, hgr⟩ := hs
    have hf : isInFilters table column plan₂ = isInFilters table column plan := by
      simp only [isInFilters, itemsOf_congr hr hr₂ hse, itemsOf_congr hr hr₂ hg, hr.get, hr₂.get,
        hgr]
    have hh : hideColumn plan₂ table column = hideColumn plan table column := by
      funext s
      simp only [hideColumn, hf]
    simp only [removeColumn, itemsOf_congr hr hr₂ hse, hh, hxs, hfo, ok_bind]
    exact hr₂.setField _ _

lemma setField_sets (key : String) (v : Value) : Sets [] key (·.setField key v) := by
  intro plan plan' h
  obtain ⟨hr, rfl⟩ := setField_ok h
  exact ⟨hr, v, rfl, fun plan₂ hr₂ _ => hr₂.setField _ _⟩

lemma setOrder_sets (order : Value) : Sets [] "order_by" (setOrder · order schema) := by
  intro plan plan' h
  simp only [setOrder, bind_ok, pure_ok] at h
  obtain ⟨ks, hk, _, hc, _, hse, _, hs, rfl⟩ := h
  obtain ⟨hr, rfl⟩ := setField_ok hse
  refine ⟨hr, order, rfl, fun plan₂ hr₂ _ => ?_⟩
  simp only [setOrder, hk, hc, hr₂.setField, hs, ok_bind]
  rfl

lemma setLimit_sets (limit : Value) : Sets [] "limit" (setLimit · limit) := by
  intro plan plan' h
  simp only [setLimit] at h ⊢
  split at h
  case isTrue => simp at h
  case isFalse hl => simpa only [if_neg hl] using setField_sets "limit" limit plan plan' h

end

lemma applyPatch_sets (h : applyPatch plan p schema = .ok plan') :
    ∃ e ∈ edits, operationOf p = some e.1 ∧ Sets e.2.2 e.2.1 (applyPatch · p schema) := by
  simp only [applyPatch, bind_ok, exists_get] at h
  obtain ⟨hr, h⟩ := h
  simp only [applyPatch, get_ok.2 ⟨hr, rfl⟩, ok_bind]
  split at h
  case h_1 hop =>
    refine ⟨_, .head _, hop, ?_⟩
    exact .bind fun _ _ => addColumn_sets
  case h_2 hop =>
    refine ⟨_, .tail _ (.head _), hop, ?_⟩
    exact .bind fun _ _ => removeColumn_sets
  case h_3 hop =>
    refine ⟨_, .tail _ (.tail _ (.head _)), hop, ?_⟩
    exact .bind fun order _ => setOrder_sets order
  case h_4 hop =>
    refine ⟨_, .tail _ (.tail _ (.tail _ (.head _))), hop, ?_⟩
    exact .bind fun limit _ => setLimit_sets limit
  case h_5 => simp at h

/-- The kinds of patch that read nothing of the plan. -/
def settings : List (Option String) := [some "modify_order_by", some "modify_limit"]

/-- Two patches, one after the other. -/
def applyBoth (plan p q schema : Value) : Attempt Value := do applyPatch (← applyPatch plan p schema) q schema

lemma applyBoth_commute (hne : operationOf p ≠ operationOf q)
    (hs : operationOf p ∈ settings ∨ operationOf q ∈ settings) (h : applyBoth plan p q schema = .ok r) :
    ∃ r', applyBoth plan q p schema = .ok r' ∧ Kept [] r r' := by
  have ha : ∀ e ∈ edits, ∀ e' ∈ edits, some e.1 ≠ some e'.1 → some e.1 ∈ settings ∨ some e'.1 ∈ settings →
      e.2.1 ≠ e'.2.1 ∧ e.2.1 ∉ e'.2.2 ∧ e'.2.1 ∉ e.2.2 := by decide
  obtain ⟨plan', hp, hq⟩ := bind_ok.1 h
  obtain ⟨e, he, hop, hse⟩ := applyPatch_sets hp
  obtain ⟨e', he', ho', hs'⟩ := applyPatch_sets hq
  rw [hop, ho'] at hne hs
  obtain ⟨hk, hr, hr'⟩ := ha e he e' he' hne hs
  obtain ⟨first, r', hf, ht, hke⟩ := hse.commute hs' hk hr hr' hp hq
  exact ⟨r', bind_ok.2 ⟨first, hf, ht⟩, hke⟩

lemma applyPatch_overwrite (hsa : operationOf p = operationOf q) (hs : operationOf p ∈ settings)
    (h : applyPatch plan p schema = .ok plan') :
    applyPatch plan' q schema = .ok r ↔ applyPatch plan q schema = .ok r := by
  have ha : ∀ e ∈ edits, ∀ e' ∈ edits, some e.1 = some e'.1 → some e.1 ∈ settings →
      e'.2.1 = e.2.1 ∧ e'.2.2 = [] := by decide
  obtain ⟨e, he, hop, hse⟩ := applyPatch_sets h
  have hl : ∀ {plan₂}, applyPatch plan₂ q schema = .ok r → Sets [] e.2.1 (applyPatch · q schema) := by
    intro plan₂ hq
    obtain ⟨e', he', ho', hs'⟩ := applyPatch_sets hq
    rw [hop, ho'] at hsa
    obtain ⟨hk, hre⟩ := ha e he e' he' hsa (hop ▸ hs)
    rwa [hk, hre] at hs'
  exact ⟨fun hr => (hse.overwrite (hl hr) h).1 hr, fun hr => (hse.overwrite (hl hr) h).2 hr⟩

/-! ### A column that is added and removed -/

section

variable {s : Value} {t c : String} {columns before behind : List Value}

lemma Relisted.filtersBy_eq (h : Relisted t s columns plan plan') : filtersBy plan' t c = filtersBy plan t c := by
  obtain ⟨before, behind, s', hp, hp', -, hk, -⟩ := h.docs
  have hf : docsOf s' "filters" = docsOf s "filters" := docsOf_kept hk h.selection
  have hg : docsOf plan' "global_filters" = docsOf plan "global_filters" := docsOf_kept h.kept h.record
  have hn : nameAt s' "table" = nameAt s "table" := nameAt_kept hk
  simp only [filtersBy, hp, hp', any_append, any_cons, hf, hg, hn, h.kept.peek "group_by"]

lemma applyBoth_undo (hsc : SchemaFormed schema) (hf : PlanFormed plan) (hadd : wish p = .add t c)
    (hr : wish q = .remove t c) (hse : plan.at? "selections" = some (.list (before ++ s :: behind)))
    (ho : ∀ y ∈ before, nameAt y "table" ≠ some t) (hn : nameAt s "table" = some t)
    (hc : s.at? "columns" = some (.list columns)) (hno : ∀ x ∈ columns, nameAt x "column" ≠ some c)
    (hco : HasColumn schema t c) (hfr : filtersBy plan t c = false) :
    applyBoth plan p q schema = .ok plan := by
  have hak := wish_eq_add hadd
  have ha' := wish_eq_remove hr
  have hp := docsOf_of_at? hse
  have hs := hf.selections s (by simp [hp])
  rw [← docsOf_of_at? hc] at hno
  obtain ⟨added, had, hro, haddok⟩ := addColumn_unlisted hf hp ho hn
    hak.tableName hak.columnName hsc hco hno
  have hre := relisted_relist hf hp ho hn (docsOf s "columns" ++ [added])
  have ha : nameAt added "column" = some c := by
    rw [nameAt, had]
    exact hak.columnName
  have hf' := hre.formed hf <| by
    simp only [forall_mem_append, forall_mem_singleton]
    exact ⟨hs.columns, ⟨c, ha⟩, .inl hro⟩
  have hb := removeColumn_listed hf' (docsOf_of_at? (hf.record.at?_self _ _)) ho
    ((nameAt_update hs.record).trans hn) ha'.tableName ha'.columnName
    (docsOf_of_at? (hs.record.at?_self _ _)) hno ha
  rw [applyBoth, applyPatch_add hadd, haddok, ok_bind, applyPatch_remove hr, hb, hre.filtersBy_eq, hfr, remains,
    if_neg (by simp), append_nil, append_nil, relist, relist, hf.record.update_twice, hs.record.update_twice,
    docsOf_of_at? hc, update_eq_self hc, update_eq_self hse]

end

/-- A new order and a new limit can be set before or after any other patch: both ways succeed together, with plans
that hold the same. Of two that set the same, the last one counts. A column that is added to a selection of its table and
removed again leaves the plan as it was, if the selection does not list it and no filter uses it. -/
theorem patch_laws (plan schema : Value) :
    (∀ p q r, operationOf p ≠ operationOf q → operationOf p ∈ settings ∨ operationOf q ∈ settings →
      applyBoth plan p q schema = .ok r → ∃ r', applyBoth plan q p schema = .ok r' ∧ Kept [] r r') ∧
    (∀ p q plan', operationOf p = operationOf q → operationOf p ∈ settings →
      applyPatch plan p schema = .ok plan' → ∀ r, applyPatch plan' q schema = .ok r ↔ applyPatch plan q schema = .ok r) ∧
    ∀ p q t c before s behind columns, SchemaFormed schema → PlanFormed plan → wish p = .add t c →
      wish q = .remove t c → plan.at? "selections" = some (.list (before ++ s :: behind)) →
      (∀ y ∈ before, nameAt y "table" ≠ some t) → nameAt s "table" = some t →
      s.at? "columns" = some (.list columns) → (∀ x ∈ columns, nameAt x "column" ≠ some c) →
      HasColumn schema t c → filtersBy plan t c = false →
      applyBoth plan p q schema = .ok plan :=
  ⟨fun _ _ _ => applyBoth_commute, fun _ _ _ hsa hs h _ => applyPatch_overwrite hsa hs h,
    fun _ _ _ _ _ _ _ _ => applyBoth_undo⟩

theorem patch_laws_store :
    (∃ r r', applyBoth storePlan (limitPatch 5) (columnPatch "remove_column" "Orders" "Status") storeSchema = .ok r ∧
      applyBoth storePlan (columnPatch "remove_column" "Orders" "Status") (limitPatch 5) storeSchema = .ok r' ∧
      Kept [] r r') ∧
    (∃ plan' r, applyPatch storePlan (limitPatch 5) storeSchema = .ok plan' ∧
      applyPatch plan' (limitPatch 7) storeSchema = .ok r ∧ applyPatch storePlan (limitPatch 7) storeSchema = .ok r) ∧
    applyBoth storePlan (columnPatch "add_column" "ORDERS" "Total") (columnPatch "remove_column" "orders" "TOTAL")
      storeSchema = .ok storePlan := by
  obtain ⟨hc, ho, hu⟩ := patch_laws storePlan storeSchema
  refine ⟨?_, ⟨_, _, rfl, rfl, ?_⟩, ?_⟩
  · obtain ⟨r', hr', hk⟩ := hc (limitPatch 5) (columnPatch "remove_column" "Orders" "Status") _
      (by decide) (by decide) rfl
    exact ⟨_, r', rfl, hr', hk⟩
  · exact (ho (limitPatch 5) (limitPatch 7) _ rfl (by decide) rfl _).1 rfl
  · refine hu _ _ "orders" "total" [] _ _ _ storeSchema_formed storePlan_formed rfl rfl rfl (by simp) rfl rfl
      (by decide) ?_ rfl
    exact hasColumn_of (rfl : hasColumn "Orders" "Total" storeSchema = .ok true) rfl rfl

end QueryDesk.Plan
