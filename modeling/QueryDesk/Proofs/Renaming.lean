import QueryDesk.Plan.Audit
import QueryDesk.Proofs.Fields
import QueryDesk.Proofs.Statement

/-!
What the repair of column names does to a plan. Every document that names a column keeps all its other
fields, and the new name depends on the table, the old name and the schema only; so documents that name
the same column before name the same column afterwards, wherever they stand in the plan.
-/

namespace QueryDesk.Plan

open Attempt Value Sql List Value

variable {label : String}

variable {doc : Value}

/-! ### Lists in documents -/

def ListAt (doc : Value) (key : String) : Prop := ∀ v, doc.at? key = some v → ∃ xs, v = .list xs

def list? : Value → Option (List Value)
  | .list xs => some xs
  | _ => none

lemma list?_eq_some : list? doc = some xs ↔ doc = .list xs := by cases doc <;> simp [list?]

instance (v : Value) : Decidable (∃ xs, v = .list xs) :=
  decidable_of_iff (list? v).isSome (by simp [Option.isSome_iff_exists, list?_eq_some])

instance (doc : Value) (key : String) : Decidable (ListAt doc key) :=
  inferInstanceAs (Decidable (∀ v ∈ doc.at? key, ∃ xs, v = .list xs))

section

variable (h : doc.at? key = some (.list xs))

include h

lemma listAt_of_at? : ListAt doc key :=
  fun _ hv => ⟨xs, Option.some.inj (hv.symm.trans h)⟩

lemma itemsOf_of_at? : itemsOf doc key = .ok xs := by
  cases doc with
  | record fs => simp only [itemsOf, IsRecord.getD ⟨fs, rfl⟩, h]; rfl
  | _ => cases h

lemma docsOf_of_at? : docsOf doc key = xs := docsOf_eq (itemsOf_of_at? h)

end

lemma itemsOf_of_absent (hr : doc.IsRecord) (h : doc.at? key = none) : itemsOf doc key = .ok [] := by
  simp only [itemsOf, hr.getD, h]
  rfl

lemma itemsOf_of_listAt (hr : doc.IsRecord) (h : ListAt doc key) : itemsOf doc key = .ok (docsOf doc key) := by
  cases hf : doc.at? key with
  | none =>
    have hi := itemsOf_of_absent hr hf
    rw [docsOf_eq hi, hi]
  | some v =>
    obtain ⟨xs, rfl⟩ := h v hf
    have hi := itemsOf_of_at? hf
    rw [docsOf_eq hi, hi]

lemma docsOf_congr (hr : doc.IsRecord) (hr' : doc'.IsRecord) (h : doc'.at? key = doc.at? key) :
    docsOf doc' key = docsOf doc key := by
  unfold docsOf itemsOf
  rw [hr.getD, hr'.getD, h]

lemma docsOf_kept {keys : List String} (h : Kept keys doc doc') (hr : doc.IsRecord)
    (hk : key ∉ keys := by simp) : docsOf doc' key = docsOf doc key :=
  docsOf_congr hr h.record (h.same key hk)

lemma ListAt.congr (hl : ListAt doc key) (h : doc'.at? key = doc.at? key) : ListAt doc' key := by
  unfold ListAt
  rw [h]
  exact hl

/-- A list field at whose items a step was taken, one after the other. -/
structure Stepped (key : String) (step : Value → Attempt (Value × List String)) (doc doc' : Value) : Prop where
  list : ListAt doc' key
  items : Forall₂ (fun x x' => ∃ ns, step x = .ok (x', ns)) (docsOf doc key) (docsOf doc' key)

section

lemma setField_ok (h : doc.setField key x = .ok doc') :
    doc.IsRecord ∧ doc' = doc.update [(key, x)] := by
  cases doc with
  | record fs =>
    cases h
    exact ⟨⟨fs, rfl⟩, rfl⟩
  | _ => cases h

/-- A step over the items of a field puts the results in its place, or leaves a document without it alone. -/
lemma overItems_ok (h : overItems key step doc = .ok (doc', notes)) :
    doc.IsRecord ∧ ∃ field xs res, doc.getD key (.list []) = .ok field ∧ field.items = .ok xs ∧
      Forall₂ (fun x r => step x = .ok r) xs res ∧ (doc' = doc ∧ (doc.at? key = none ∨ ∀ ys, field ≠ .list ys) ∨
        doc' = doc.update [(key, .list (res.map (·.1)))]) := by
  simp only [overItems, bind_ok, mapM_ok] at h
  obtain ⟨field, hfi, xs, hxs, res, hr, h⟩ := h
  obtain ⟨fs, rfl, -⟩ := getD_ok.1 hfi
  refine ⟨⟨fs, rfl⟩, field, xs, res, hfi, hxs, hr, ?_⟩
  split at h
  case h_1 ys fs' heq =>
    cases heq
    split at h
    · cases h
      exact .inr rfl
    case isFalse ha =>
      cases h
      refine .inl ⟨rfl, .inl (lookup_eq_none_iff.2 fun f hf => ?_)⟩
      have hk : f.1 ≠ key := fun he => ha (any_eq_true.2 ⟨f, hf, by simp [he]⟩)
      simpa using hk.symm
  case h_2 ho =>
    cases h
    exact .inl ⟨rfl, .inr fun ys hys => ho ys fs hys rfl⟩

lemma overItems_kept (h : overItems key step doc = .ok (doc', notes)) : doc.IsRecord ∧ Kept [key] doc doc' := by
  obtain ⟨hr, field, xs, res, -, -, -, ⟨rfl, -⟩ | rfl⟩ := overItems_ok h
  · exact ⟨hr, kept_refl hr⟩
  · exact ⟨hr, hr.kept_self _ _⟩

lemma overItems_stepped (hl : ListAt doc key) (h : overItems key step doc = .ok (doc', notes)) :
    Stepped key step doc doc' := by
  obtain ⟨hr, field, xs, res, hf, hxs, hre, hdo⟩ := overItems_ok h
  have hd : docsOf doc key = xs := docsOf_eq (by rw [itemsOf, hf]; exact hxs)
  rw [hr.getD] at hf
  cases hf
  rcases hdo with ⟨rfl, hw⟩ | rfl
  · have ha : doc'.at? key = none := by
      refine hw.elim id fun ho => ?_
      cases hv : doc'.at? key with
      | none => rfl
      | some v =>
        obtain ⟨ys, rfl⟩ := hl v hv
        exact absurd (by rw [hv, Option.getD_some]) (ho ys)
    rw [ha] at hxs
    cases hxs
    exact ⟨hl, by rw [hd]; exact .nil⟩
  · have hf := hr.at?_self key (.list (res.map (·.1)))
    refine ⟨listAt_of_at? hf, ?_⟩
    rw [hd, docsOf_of_at? hf, forall₂_map_right_iff]
    exact hre.imp fun x r hx => ⟨r.2, hx⟩

lemma stepped_between (hl : ListAt doc key) (hr : doc.IsRecord)
    (hb : Kept ks doc d₁) (hk : key ∉ ks) (h : overItems key step d₁ = .ok (d₂, notes))
    (hbe : Kept ks' d₂ doc') (hk' : key ∉ ks' := by simp) : Stepped key step doc doc' := by
  have hs := overItems_stepped (hl.congr (hb.same key hk)) h
  refine ⟨hs.list.congr (hbe.same key hk'), ?_⟩
  rw [docsOf_kept hbe (overItems_kept h).2.record hk', ← docsOf_kept hb hr hk]
  exact hs.items

lemma andThen_ok
    (h : andThen first second doc = .ok (doc', notes)) :
    ∃ between pre behind, first doc = .ok (between, pre) ∧ second between = .ok (doc', behind) := by
  simp only [andThen, bind_ok, pure_ok, Prod.exists, Prod.mk.injEq] at h
  obtain ⟨between, pre, hf, _, behind, hs, rfl, -⟩ := h
  exact ⟨between, pre, behind, hf, hs⟩

end

/-! ### Documents that name a column -/

lemma tableEntry?_eq {es : List Value} (h : ∀ e ∈ es, e.IsRecord) (t : Value) :
    tableEntry? t (.list es) = .ok (es.find? (·.peek "table_name" == t)) := by
  show entryIn? t es = _
  induction es with
  | nil => rfl
  | cons e es ih =>
    rw [entryIn?, get_ok.2 ⟨h e mem_cons_self, rfl⟩, ok_bind, find?_cons]
    cases e.peek "table_name" == t with
    | true => rfl
    | false => exact ih fun x hx => h x (mem_cons_of_mem e hx)

def withColumn (doc : Value) : Option Value → Value
  | none => doc
  | some column => doc.update [("column", column)]

/-- A document whose column has got the name that the repair gives it within a table. -/
structure Renamed (schema table doc doc' : Value) : Prop where
  record : doc.IsRecord
  column : ∃ fixed, repaired? table (doc.peek "column") schema = .ok fixed ∧ doc' = withColumn doc fixed

section

lemma Renamed.kept (h : Renamed schema table doc doc') : Kept ["column"] doc doc' := by
  obtain ⟨hr, fixed, -, rfl⟩ := h
  cases fixed with
  | none => exact kept_refl hr
  | some col => exact hr.kept_self _ _

lemma withColumn_peek (hr : doc.IsRecord) (fixed : Option Value) :
    (withColumn doc fixed).peek "column" = fixed.getD (doc.peek "column") := by
  cases fixed with
  | none => rfl
  | some col => exact hr.peek_self "column" col

lemma Renamed.same_column (h : Renamed schema table doc doc')
    (h₁ : Renamed schema table doc₁ doc₁') (hc : doc₁.peek "column" = doc.peek "column") :
    doc₁'.peek "column" = doc'.peek "column" := by
  obtain ⟨hr, fixed, hf, rfl⟩ := h
  obtain ⟨hr₁, fixed₁, hf₁, rfl⟩ := h₁
  rw [hc, hf] at hf₁
  cases hf₁
  rw [withColumn_peek hr, withColumn_peek hr₁, hc]

lemma repairField_ok (h : repairField label schema table "column" doc = .ok (doc', notes)) :
    Renamed schema table doc doc' := by
  simp only [repairField, exists_get, bind_ok] at h
  obtain ⟨hr, fixed, hf, h⟩ := h
  refine ⟨hr, fixed, hf, ?_⟩
  cases fixed with
  | none =>
    cases h
    rfl
  | some col =>
    simp only [bind_ok, pure_ok, Prod.mk.injEq] at h
    obtain ⟨_, hs, rfl, -⟩ := h
    exact (setField_ok hs).2

/-- A document that names its own table and has got its new name. -/
def RenamedOwn (schema doc doc' : Value) : Prop := Renamed schema (doc.peek "table") doc doc'

lemma repairOwn_ok (h : repairOwn label schema doc = .ok (doc', notes)) : RenamedOwn schema doc doc' := by
  simp only [repairOwn, exists_get, bind_ok] at h
  obtain ⟨-, h⟩ := h
  exact repairField_ok h

/-- A document within a selection has its own table, or else that of the selection. -/
lemma repairWithin_ok (h : repairWithin label schema tb doc = .ok (doc', notes)) :
    Renamed schema ((doc.at? "table").getD tb) doc doc' := by
  simp only [repairWithin, bind_ok] at h
  obtain ⟨owner, ho, h⟩ := h
  have hr := repairField_ok h
  rw [hr.record.getD] at ho
  cases ho
  exact hr

lemma repairAggregate_ok (h : repairAggregate schema doc = .ok (doc', notes)) :
    doc.IsRecord ∧ ((doc.peek "column").truthy = false ∧ doc' = doc ∨
      (doc.peek "column").truthy = true ∧ RenamedOwn schema doc doc') := by
  simp only [repairAggregate, exists_get, bind_ok] at h
  obtain ⟨hr, h⟩ := h
  refine ⟨hr, ?_⟩
  split at h
  case isTrue ht => exact .inr ⟨ht, repairOwn_ok h⟩
  case isFalse hf =>
    cases h
    exact .inl ⟨by simpa using hf, rfl⟩

end

/-! ### Selections, groups and plans -/

/-- A selection with its columns renamed, each within its own table or else that of the selection. -/
structure SelectionRepaired (schema s s' : Value) : Prop where
  record : s.IsRecord
  kept : Kept ["columns", "filters"] s s'
  list : ListAt s' "columns"
  columns : Forall₂ (fun c c' => Renamed schema ((c.at? "table").getD (s.peek "table")) c c')
    (docsOf s "columns") (docsOf s' "columns")

def AggregateRepaired (schema a a' : Value) : Prop :=
  a.IsRecord ∧ ((a.peek "column").truthy = false ∧ a' = a ∨ (a.peek "column").truthy = true ∧ RenamedOwn schema a a')

/-- A group with its keys, aggregates and conditions renamed. -/
structure GroupRepaired (schema group group' : Value) : Prop where
  record : group.IsRecord
  kept : Kept ["group_by_columns", "aggregates", "having_filters"] group group'
  keysList : ListAt group' "group_by_columns"
  keys : Forall₂ (RenamedOwn schema) (docsOf group "group_by_columns") (docsOf group' "group_by_columns")
  aggregatesList : ListAt group' "aggregates"
  aggregates : Forall₂ (AggregateRepaired schema) (docsOf group "aggregates") (docsOf group' "aggregates")
  having : Forall₂ (RenamedOwn schema) (docsOf group "having_filters") (docsOf group' "having_filters")

structure SelectionSteps (schema s s' : Value) : Prop where
  record : s.IsRecord
  kept : Kept ["columns", "filters"] s s'
  columns : ListAt s "columns" → Stepped "columns" (repairWithin "Selection column" schema (s.peek "table")) s s'
  filters : ListAt s "filters" → Stepped "filters" (repairWithin "Filter column" schema (s.peek "table")) s s'

structure GroupSteps (schema group group' : Value) : Prop where
  record : group.IsRecord
  kept : Kept ["group_by_columns", "aggregates", "having_filters"] group group'
  keys : Stepped "group_by_columns" (repairOwn "GROUP BY" schema) group group'
  aggregates : Stepped "aggregates" (repairAggregate schema) group group'
  having : Stepped "having_filters" (repairOwn "HAVING" schema) group group'

section

variable {plan : Value}

lemma repairSelection_steps (h : repairSelection schema s = .ok (s', notes)) : SelectionSteps schema s s' := by
  simp only [repairSelection, exists_get, bind_ok] at h
  obtain ⟨hr, h⟩ := h
  obtain ⟨between, _, _, h₁, h₂⟩ := andThen_ok h
  have k₁ := (overItems_kept h₁).2
  have k₂ := (overItems_kept h₂).2
  exact ⟨hr, k₁.trans k₂, fun hl => stepped_between hl hr (kept_refl hr) not_mem_nil h₁ k₂,
    fun hl => stepped_between hl hr k₁ (by simp) h₂ (kept_refl k₂.record) not_mem_nil⟩

lemma repairSelection_ok (hl : ListAt s "columns")
    (h : repairSelection schema s = .ok (s', notes)) : SelectionRepaired schema s s' := by
  have steps := repairSelection_steps h
  have hco := steps.columns hl
  exact ⟨steps.record, steps.kept, hco.list, hco.items.imp fun c c' hc => hc.elim fun _ hc => repairWithin_ok hc⟩

lemma repairGroup_steps (hk : ListAt group "group_by_columns")
    (ha : ListAt group "aggregates") (hh : ListAt group "having_filters")
    (h : repairGroup schema group = .ok (group', notes)) : GroupSteps schema group group' := by
  obtain ⟨g₁, _, _, h₁, h⟩ := andThen_ok h
  obtain ⟨g₂, _, _, h₂, h₃⟩ := andThen_ok h
  obtain ⟨hr, k₁⟩ := overItems_kept h₁
  have k₂ := (overItems_kept h₂).2
  have k₃ := (overItems_kept h₃).2
  exact ⟨hr, k₁.trans (k₂.trans k₃), stepped_between hk hr (kept_refl hr) not_mem_nil h₁ (k₂.trans k₃),
    stepped_between ha hr k₁ (by simp) h₂ k₃,
    stepped_between hh hr (k₁.trans k₂) (by simp) h₃ (kept_refl k₃.record) not_mem_nil⟩

lemma GroupSteps.repaired (h : GroupSteps schema group group') : GroupRepaired schema group group' where
  record := h.record
  kept := h.kept
  keysList := h.keys.list
  keys := h.keys.items.imp fun _ _ hk => hk.elim fun _ hk => repairOwn_ok hk
  aggregatesList := h.aggregates.list
  aggregates := h.aggregates.items.imp fun _ _ ha => ha.elim fun _ ha => repairAggregate_ok ha
  having := h.having.items.imp fun _ _ hf => hf.elim fun _ hf => repairOwn_ok hf

@[mk_iff]
structure ListFields (plan : Value) : Prop where
  selections : ListAt plan "selections"
  columns : ∀ s ∈ docsOf plan "selections", ListAt s "columns"
  globals : ListAt plan "global_filters"
  keys : ListAt (plan.peek "group_by") "group_by_columns"
  aggregates : ListAt (plan.peek "group_by") "aggregates"
  having : ListAt (plan.peek "group_by") "having_filters"

instance (plan : Value) : Decidable (ListFields plan) := decidable_of_iff' _ (listFields_iff plan)

/-- A plan with groups in which every column is renamed. -/
structure PlanRepaired (schema plan plan' : Value) : Prop where
  record : plan'.IsRecord
  list : ListAt plan' "selections"
  selections : Forall₂ (SelectionRepaired schema) (docsOf plan "selections") (docsOf plan' "selections")
  globals : Forall₂ (RenamedOwn schema) (docsOf plan "global_filters") (docsOf plan' "global_filters")
  group : GroupRepaired schema (plan.peek "group_by") (plan'.peek "group_by")

/-- The steps that are taken at a plan: every list is gone through once, and the group if there is one. -/
structure PlanSteps (schema plan plan' : Value) : Prop where
  record : plan.IsRecord
  kept : Kept ["selections", "join_edges", "global_filters", "group_by", "order_by"] plan plan'
  selections : ListAt plan "selections" → Stepped "selections" (repairSelection schema) plan plan'
  edges : ListAt plan "join_edges" → Stepped "join_edges" (repairEdge schema) plan plan'
  globals : ListAt plan "global_filters" → Stepped "global_filters" (repairOwn "Global filter" schema) plan plan'
  group : (plan.peek "group_by").truthy = true →
    ∃ ns, repairGroup schema (plan.peek "group_by") = .ok (plan'.peek "group_by", ns)
  ungrouped : (plan.peek "group_by").truthy = false → plan'.peek "group_by" = plan.peek "group_by"
  orders : ListAt plan "order_by" → Stepped "order_by" (repairOwn "ORDER BY" schema) plan plan'

lemma repairGrouping_ok (h : repairGrouping sch plan = .ok (plan', notes)) : Kept ["group_by"] plan plan' ∧
    ((plan.peek "group_by").truthy = true →
      ∃ ns, repairGroup sch (plan.peek "group_by") = .ok (plan'.peek "group_by", ns)) ∧
    ((plan.peek "group_by").truthy = false → plan' = plan) := by
  simp only [repairGrouping, exists_get, bind_ok] at h
  obtain ⟨hr, h⟩ := h
  cases ht : (plan.peek "group_by").truthy with
  | true =>
    rw [ht, if_pos rfl] at h
    simp only [bind_ok, pure_ok, Prod.exists, Prod.mk.injEq] at h
    obtain ⟨grp', ns, hre, _, hs, rfl, -⟩ := h
    obtain ⟨-, rfl⟩ := setField_ok hs
    exact ⟨hr.kept_self _ _, fun _ => ⟨ns, by rw [hr.peek_self, hre]⟩,
      fun hf => absurd hf.symm Bool.false_ne_true⟩
  | false =>
    rw [ht, if_neg (by decide)] at h
    cases h
    exact ⟨kept_refl hr, fun htr => absurd htr Bool.false_ne_true, fun _ => rfl⟩

lemma repairColumns_steps (h : repairColumns schema plan = .ok (plan', notes)) : PlanSteps schema plan plan' := by
  obtain ⟨p₁, _, _, h₁, h⟩ := andThen_ok h
  obtain ⟨p₂, _, _, h₂, h⟩ := andThen_ok h
  obtain ⟨p₃, _, _, h₃, h⟩ := andThen_ok h
  obtain ⟨p₄, _, _, h₄, h₅⟩ := andThen_ok h
  obtain ⟨hr, k₁⟩ := overItems_kept h₁
  have k₂ := (overItems_kept h₂).2
  have k₃ := (overItems_kept h₃).2
  obtain ⟨k₄, hg, hu⟩ := repairGrouping_ok h₄
  have k₅ := (overItems_kept h₅).2
  have k₁₂ := k₁.trans k₂
  have k₁₃ := k₁₂.trans k₃
  have k₄₅ := k₄.trans k₅
  -- the group is that of the plan when its turn comes, and stays as it is then
  have hb : p₃.peek "group_by" = plan.peek "group_by" := k₁₃.peek _
  have hbe : plan'.peek "group_by" = p₄.peek "group_by" := k₅.peek _
  rw [hb] at hg hu
  rw [← hbe] at hg
  exact {
    record := hr
    kept := k₁₃.trans k₄₅
    selections := fun hl => stepped_between hl hr (kept_refl hr) not_mem_nil h₁
      (k₂.trans (k₃.trans k₄₅)) (by simp)
    edges := fun hl => stepped_between hl hr k₁ (by simp) h₂ (k₃.trans k₄₅)
    globals := fun hl => stepped_between hl hr k₁₂ (by simp) h₃ k₄₅
    group := hg
    ungrouped := fun hf => by rw [hbe, hu hf, hb]
    orders := fun hl => stepped_between hl hr (k₁₃.trans k₄) (by simp) h₅ (kept_refl k₅.record)
      not_mem_nil }

lemma repairColumns_ok (hl : ListFields plan) (hgr : (plan.peek "group_by").truthy = true)
    (h : repairColumns schema plan = .ok (plan', notes)) : PlanRepaired schema plan plan' := by
  have steps := repairColumns_steps h
  have hse := steps.selections hl.selections
  obtain ⟨_, hg⟩ := steps.group hgr
  refine ⟨steps.kept.record, hse.list, ?_,
    (steps.globals hl.globals).items.imp fun f f' hf => hf.elim fun _ hf => repairOwn_ok hf,
    (repairGroup_steps hl.keys hl.aggregates hl.having hg).repaired⟩
  refine ((forall₂_and_left _ _).2 ⟨hl.columns, hse.items⟩).imp fun s s' hs => ?_
  obtain ⟨hli, _, hs⟩ := hs
  exact repairSelection_ok hli hs

end

end QueryDesk.Plan
