import QueryDesk.Proofs.Auditing
import QueryDesk.Proofs.RepairedPlan

/-!
Columns that have been repaired. A new name is one that the table has, so it needs no other; a name for which
there was none still has none. The repair of columns therefore leaves its own result alone. It keeps the tables
of a plan, too, and with them the part of the schema that the plan is held against.
-/

namespace QueryDesk

open Attempt List Value

namespace Plan

open Desk Value Sql

variable {plan : Value}

/-! ### Names that stay -/

section

variable {column : Value}

lemma entryIn?_has (hc : columnNames entry = .ok columns)
    (hin : columns.any (· == c) = true) : ∀ {es : List Value}, entryIn? tb es = .ok (some entry) →
      (es.anyM fun e => do
        if (← e.get "table_name") == tb then return (← columnNames e).any (· == c) else return false) = .ok true
  | [], h => by cases h
  | e :: es, h => by
    simp only [entryIn?, bind_ok] at h
    obtain ⟨name, hn, h⟩ := h
    rw [anyM_cons, hn]
    by_cases hs : (name == tb) = true
    · rw [if_pos hs] at h
      cases h
      simp only [ok_bind, hs, if_true, hc, hin]
      rfl
    · rw [if_neg hs] at h
      have hr := entryIn?_has hc hin h
      simp only [ok_bind, if_neg hs]
      exact hr

lemma repaired?_new (h : repaired? table column schema = .ok (some c)) : repaired? table c schema = .ok none := by
  obtain ⟨-, -, e, cols, he, hc, hin⟩ := repaired?_ok h
  simp only [ tableEntry?, bind_ok] at he
  obtain ⟨es, hen, he⟩ := he
  have hh : someEntryHas table c schema = .ok true := by
    rw [someEntryHas, hen]
    exact entryIn?_has hc hin he
  rw [repaired?, hh]
  rfl

end

/-! ### Fields that are set to what they are -/

section

variable {doc : Value}

lemma setField_eq_self (h : doc.at? key = some v) : doc.setField key v = .ok doc := by
  rw [(isRecord_of_at? h).setField, update_eq_self h]

lemma at?_of_truthy (h : (doc.peek key).truthy = true) : doc.at? key = some (doc.peek key) := by
  rw [peek_eq_at?] at h ⊢
  cases hat : doc.at? key with
  | none => rw [hat] at h; cases h
  | some v => rfl

end

/-! ### Steps that leave a document alone -/

/-- A step leaves a document alone and has nothing to note. -/
def Still (step : Value → Attempt (Value × List String)) (doc : Value) : Prop := step doc = .ok (doc, [])

def StillAt (step : Value → Attempt (Value × List String)) (doc : Value) (key : String) : Prop :=
  ∀ v, doc.at? key = some v → ∃ xs, v = .list xs ∧ ∀ x ∈ xs, Still step x

section

variable {doc : Value}

lemma StillAt.listAt (h : StillAt step doc key) : ListAt doc key := fun v hv =>
  (h v hv).imp fun _ hxs => hxs.1

lemma Still.andThen (hf : Still first doc) (hs : Still second doc) : Still (andThen first second) doc := by
  unfold Still Plan.andThen
  rw [hf, ok_bind]
  show (second doc >>= _) = _
  rw [hs]
  rfl

/-- A step over the items of a field puts the results in its place, or leaves a document without it alone. -/
lemma overItems_of_results (hr : doc.IsRecord) (hl : ListAt doc key)
    (h : (docsOf doc key).mapM step = .ok results) :
    overItems key step doc = .ok (if (doc.at? key).isSome then doc.update [(key, .list (results.map (·.1)))] else doc,
      results.flatMap (·.2)) := by
  obtain ⟨fields, rfl⟩ := hr
  unfold overItems
  rw [IsRecord.getD ⟨fields, rfl⟩]
  cases hfi : (record fields).at? key with
  | none =>
    have ha : (fields.any fun f => f.1 == key) = false := by
      rw [any_eq_false]
      intro f hf hk
      have hne := lookup_eq_none_iff.1 hfi f hf
      simp [beq_iff_eq.1 hk] at hne
    rw [docsOf_eq (itemsOf_of_absent ⟨fields, rfl⟩ hfi)] at h
    cases h
    show (if fields.any _ then _ else _) = _
    rw [ha]
    rfl
  | some v =>
    obtain ⟨xs, rfl⟩ := hl v hfi
    have hp : (fields.any fun f => f.1 == key) = true := by
      obtain ⟨before, after, rfl, -⟩ := lookup_eq_some_iff.1 hfi
      simp
    rw [docsOf_of_at? hfi] at h
    show (xs.mapM step >>= fun results => if fields.any _ then _ else _) = _
    rw [h, ok_bind, hp]
    rfl

lemma StillAt.still (hr : doc.IsRecord) (h : StillAt step doc key) : Still (overItems key step) doc := by
  have hre : (docsOf doc key).mapM step = .ok ((docsOf doc key).map fun x => (x, [])) := by
    refine mapM_eq_map fun x hx => ?_
    cases hf : doc.at? key with
    | none =>
      rw [docsOf_eq (itemsOf_of_absent hr hf)] at hx
      cases hx
    | some v =>
      obtain ⟨xs, rfl, hxs⟩ := h v hf
      rw [docsOf_of_at? hf] at hx
      exact hxs x hx
  unfold Still
  rw [overItems_of_results hr h.listAt hre]
  cases hf : doc.at? key with
  | none => simp
  | some v =>
    obtain ⟨xs, rfl, -⟩ := h v hf
    have hs := setField_eq_self hf
    rw [hr.setField] at hs
    simpa [docsOf_of_at? hf, Function.comp_def] using hs

lemma overItems_isSome (h : overItems key step doc = .ok (doc', notes))
    (hk : (doc.at? k).isSome = true) : (doc'.at? k).isSome = true := by
  obtain ⟨hr, field, xs, res, -, -, -, ⟨rfl, -⟩ | rfl⟩ := overItems_ok h
  · exact hk
  · by_cases hs : k = key
    · rw [hs, hr.at?_self]
      rfl
    · rw [(hr.kept_self _ _).same k (by simpa using hs)]
      exact hk

lemma Stepped.stillAt (h : Stepped key step doc doc')
    (hst : ∀ x ∈ docsOf doc key, ∀ x' ns, step x = .ok (x', ns) → Still step x') : StillAt step doc' key := by
  intro v hv
  obtain ⟨xs, rfl⟩ := h.list v hv
  refine ⟨xs, rfl, fun x' hx' => ?_⟩
  rw [← docsOf_of_at? hv] at hx'
  obtain ⟨x, hx, ns, hs⟩ := h.items.exists_left hx'
  exact hst x hx x' ns hs

end

/-! ### Documents that name a column -/

section

variable {label : String} {doc : Value}

lemma still_repairField (hr : doc.IsRecord) (h : repaired? tb (doc.peek key) sch = .ok none) :
    Still (repairField label sch tb key) doc := by
  unfold Still repairField
  rw [hr.get, ← peek_eq_at?, ok_bind, h]
  rfl

/-- A name gives way to the one that the repair has for it within a table, if it has one. -/
def Relabels (schema table old new : Value) : Prop :=
  ∃ fixed, repaired? table old schema = .ok fixed ∧ new = fixed.getD old

lemma repairField_relabels (h : repairField label sch tb key doc = .ok (doc', notes)) :
    doc.IsRecord ∧ Kept [key] doc doc' ∧ Relabels sch tb (doc.peek key) (doc'.peek key) := by
  simp only [repairField, exists_get, bind_ok] at h
  obtain ⟨hr, fixed, hf, h⟩ := h
  cases fixed with
  | none =>
    cases h
    exact ⟨hr, kept_refl hr, none, hf, rfl⟩
  | some c =>
    simp only [bind_ok, pure_ok, Prod.mk.injEq] at h
    obtain ⟨_, hs, rfl, -⟩ := h
    rw [(setField_ok hs).2, hr.peek_self]
    exact ⟨hr, hr.kept_self key c, some c, hf, rfl⟩

lemma Relabels.settled (h : Relabels schema table old new) :
    repaired? table new schema = .ok none := by
  obtain ⟨fixed, hf, rfl⟩ := h
  cases fixed with
  | none => exact hf
  | some c => exact repaired?_new hf

lemma repairOwn_still (h : repairOwn label sch doc = .ok (doc', notes)) : Still (repairOwn label sch) doc' := by
  simp only [repairOwn, exists_get, bind_ok] at h
  obtain ⟨-, h⟩ := h
  obtain ⟨-, hk, hr⟩ := repairField_relabels h
  unfold Still repairOwn
  rw [hk.record.get, hk.at? _, ← peek_eq_at?, ok_bind]
  exact still_repairField hk.record hr.settled

lemma repairWithin_still (h : repairWithin label sch tb doc = .ok (doc', notes)) :
    Still (repairWithin label sch tb) doc' := by
  simp only [repairWithin, bind_ok] at h
  obtain ⟨owner, ho, h⟩ := h
  obtain ⟨hre, hk, hr⟩ := repairField_relabels h
  rw [hre.getD] at ho
  cases ho
  unfold Still repairWithin
  rw [hk.record.getD, hk.at? _, ok_bind]
  exact still_repairField hk.record hr.settled

lemma repairAggregate_still (h : repairAggregate sch doc = .ok (doc', notes)) :
    Still (repairAggregate sch) doc' := by
  simp only [repairAggregate, exists_get, bind_ok] at h
  obtain ⟨hre, h⟩ := h
  unfold Still repairAggregate
  split at h
  case isTrue ht =>
    have hr := repairOwn_ok h
    rw [hr.kept.record.get, ← peek_eq_at?, ok_bind, if_pos (hr.truthy ht)]
    exact repairOwn_still h
  case isFalse hf =>
    cases h
    rw [hre.get, ← peek_eq_at?, ok_bind, if_neg hf]
    rfl

/-- A join both of whose columns have got the names that the repair has for them. -/
structure EdgeRelabelled (schema e e' : Value) : Prop where
  record : e.IsRecord
  kept : Kept ["from_column", "to_column"] e e'
  source : Relabels schema (e.peek "from_table") (e.peek "from_column") (e'.peek "from_column")
  target : Relabels schema (e.peek "to_table") (e.peek "to_column") (e'.peek "to_column")

lemma repairEdge_relabelled (h : repairEdge schema doc = .ok (doc', notes)) : EdgeRelabelled schema doc doc' := by
  simp only [repairEdge, exists_get, bind_ok, pure_ok, Prod.exists, Prod.mk.injEq] at h
  obtain ⟨hr, between, _, hf, -, doc', _, hse, rfl, -⟩ := h
  obtain ⟨-, hk₁, hs⟩ := repairField_relabels hf
  obtain ⟨-, hk₂, ht⟩ := repairField_relabels hse
  -- the second end is not touched at the first step, nor the first at the second
  rw [hk₁.peek "to_table", hk₁.peek "to_column"] at ht
  rw [← hk₂.peek "from_column"] at hs
  exact ⟨hr, hk₁.trans hk₂, hs, ht⟩

lemma EdgeRelabelled.still (h : EdgeRelabelled sch doc doc') : Still (repairEdge sch) doc' := by
  have hs₁ : Still (repairField "Join from" sch _ "from_column") doc' :=
    still_repairField h.kept.record h.source.settled
  have hs₂ : Still (repairField "Join to" sch _ "to_column") doc' :=
    still_repairField h.kept.record h.target.settled
  unfold Still repairEdge
  rw [h.kept.record.get, h.kept.at? "from_table", ← peek_eq_at?, ok_bind, hs₁, ok_bind]
  show (_ >>= fun toTable => _) = _
  rw [h.kept.record.get, h.kept.at? "to_table", ← peek_eq_at?, ok_bind, hs₂]
  rfl

lemma repairSelection_still (hco : ListAt doc "columns") (hfi : ListAt doc "filters")
    (h : repairSelection sch doc = .ok (doc', notes)) : Still (repairSelection sch) doc' := by
  have steps := repairSelection_steps h
  have hs₁ := (steps.columns hco).stillAt fun c _ c' ns hc => repairWithin_still hc
  have hs₂ := (steps.filters hfi).stillAt fun f _ f' ns hf => repairWithin_still hf
  unfold Still repairSelection
  rw [steps.kept.record.get, steps.kept.at? "table", ← peek_eq_at?, ok_bind]
  exact (hs₁.still steps.kept.record).andThen (hs₂.still steps.kept.record)

end

/-! ### Groups and plans -/

structure SettledGroup (schema group : Value) : Prop where
  record : group.IsRecord
  keys : StillAt (repairOwn "GROUP BY" schema) group "group_by_columns"
  aggregates : StillAt (repairAggregate schema) group "aggregates"
  having : StillAt (repairOwn "HAVING" schema) group "having_filters"

structure Settled (schema plan : Value) : Prop where
  record : plan.IsRecord
  selections : StillAt (repairSelection schema) plan "selections"
  edges : StillAt (repairEdge schema) plan "join_edges"
  globals : StillAt (repairOwn "Global filter" schema) plan "global_filters"
  group : (plan.peek "group_by").truthy = true → SettledGroup schema (plan.peek "group_by")
  orders : StillAt (repairOwn "ORDER BY" schema) plan "order_by"

lemma SettledGroup.still (h : SettledGroup sch group) : Still (repairGroup sch) group :=
  (h.keys.still h.record).andThen ((h.aggregates.still h.record).andThen (h.having.still h.record))

lemma Settled.still (h : Settled sch plan) : Still (repairColumns sch) plan := by
  have hg : Still (repairGrouping sch) plan := by
    unfold Still repairGrouping
    rw [h.record.get, ← peek_eq_at?, ok_bind]
    by_cases ht : (plan.peek "group_by").truthy = true
    · rw [if_pos ht, (h.group ht).still, ok_bind]
      show (plan.setField "group_by" (plan.peek "group_by") >>= _) = _
      rw [setField_eq_self (at?_of_truthy ht)]
      rfl
    · rw [if_neg ht]
      rfl
  exact (h.selections.still h.record).andThen <| (h.edges.still h.record).andThen <|
    (h.globals.still h.record).andThen <| hg.andThen (h.orders.still h.record)

lemma GroupSteps.settled (h : GroupSteps schema group group') : SettledGroup schema group' :=
  ⟨h.kept.record, h.keys.stillAt fun _ _ _ _ hk => repairOwn_still hk,
    h.aggregates.stillAt fun _ _ _ _ ha => repairAggregate_still ha,
    h.having.stillAt fun _ _ _ _ hf => repairOwn_still hf⟩

lemma repairGroup_isSome (h : repairGroup schema group = .ok (grp', notes))
    (hk : (group.at? k).isSome = true) : (grp'.at? k).isSome = true := by
  obtain ⟨g₁, _, _, h₁, h⟩ := andThen_ok h
  obtain ⟨g₂, _, _, h₂, h₃⟩ := andThen_ok h
  exact overItems_isSome h₃ (overItems_isSome h₂ (overItems_isSome h₁ hk))

/-- What the repair of columns leaves: no column has to be renamed, the tables are those of before, and a plan
without groups still has none. -/
structure Repaired (schema plan plan' : Value) : Prop where
  settled : Settled schema plan'
  keyed : (plan.peek "group_by").truthy = true → ((plan.peek "group_by").at? "group_by_columns").isSome = true →
    ((plan'.peek "group_by").at? "group_by_columns").isSome = true
  ungrouped : (plan.peek "group_by").truthy = false → (plan'.peek "group_by").truthy = false
  selections : Forall₂ (fun s s' => s.IsRecord ∧ Kept ["columns", "filters"] s s')
    (docsOf plan "selections") (docsOf plan' "selections")
  edges : Forall₂ (fun e e' => e.IsRecord ∧ Kept ["from_column", "to_column"] e e')
    (docsOf plan "join_edges") (docsOf plan' "join_edges")

/-- The fields that the repair of columns goes through are lists. -/
@[mk_iff]
structure PlanLists (plan : Value) : Prop extends ListFields plan where
  filters : ∀ s ∈ docsOf plan "selections", ListAt s "filters"
  edges : ListAt plan "join_edges"
  orders : ListAt plan "order_by"

instance (plan : Value) : Decidable (PlanLists plan) := decidable_of_iff' _ (planLists_iff plan)

lemma repairColumns_repaired (hl : PlanLists plan) (h : repairColumns schema plan = .ok (plan', notes)) :
    Repaired schema plan plan' := by
  have steps := repairColumns_steps h
  have hse := steps.selections hl.selections
  have hed := steps.edges hl.edges
  refine ⟨⟨steps.kept.record, ?_, ?_, ?_, ?_, ?_⟩, ?_, fun hfa => by rw [steps.ungrouped hfa, hfa], ?_, ?_⟩
  · exact hse.stillAt fun s hs s' ns hst =>
      repairSelection_still (hl.columns s hs) (hl.filters s hs) hst
  · exact hed.stillAt fun e _ e' ns he => (repairEdge_relabelled he).still
  · exact (steps.globals hl.globals).stillAt fun f _ f' ns hf => repairOwn_still hf
  · intro ht
    have hb : (plan.peek "group_by").truthy = true := by
      by_contra hfa
      rw [steps.ungrouped (by simpa using hfa)] at ht
      exact hfa ht
    obtain ⟨ns, hre⟩ := steps.group hb
    exact (repairGroup_steps hl.keys hl.aggregates hl.having hre).settled
  · exact (steps.orders hl.orders).stillAt fun o _ o' ns ho => repairOwn_still ho
  · intro ht hk
    obtain ⟨ns, hre⟩ := steps.group ht
    exact repairGroup_isSome hre hk
  · refine hse.items.imp fun s s' hst => ?_
    obtain ⟨ns, hst⟩ := hst
    have hss := repairSelection_steps hst
    exact ⟨hss.record, hss.kept⟩
  · refine hed.items.imp fun e e' hst => ?_
    obtain ⟨ns, hst⟩ := hst
    have hr := repairEdge_relabelled hst
    exact ⟨hr.record, hr.kept⟩

/-! ### The part of the schema -/

lemma mapM_congr {f : Value → Attempt α}
    (h : Forall₂ R xs ys) (hf : ∀ x y, R x y → f y = f x) : ys.mapM f = xs.mapM f := by
  induction h with
  | nil => rfl
  | cons hxy _ ih => rw [mapM_cons, mapM_cons, hf _ _ hxy, ih]

lemma get_congr {doc doc' : Value} (hr : doc.IsRecord) (hr' : doc'.IsRecord)
    (h : doc'.at? key = doc.at? key) : doc'.get key = doc.get key := by
  rw [hr.get, hr'.get, h]

lemma Repaired.planTables_eq (h : Repaired schema plan plan') (hr : plan.IsRecord) (hl : PlanLists plan) :
    planTables plan' = planTables plan := by
  unfold planTables
  rw [itemsOf_of_listAt hr hl.selections, itemsOf_of_listAt h.settled.record h.settled.selections.listAt,
    itemsOf_of_listAt hr hl.edges, itemsOf_of_listAt h.settled.record h.settled.edges.listAt]
  simp only [ok_bind]
  rw [mapM_congr h.selections fun s s' hs => by rw [get_congr hs.1 hs.2.record (hs.2.at? "table")],
    mapM_congr h.edges fun e e' he => by
      rw [get_congr he.1 he.2.record (he.2.at? "from_table"), get_congr he.1 he.2.record (he.2.at? "to_table")]]

lemma planTables_congr (hr : plan.IsRecord) (hr' : plan'.IsRecord)
    (hs : plan'.at? "selections" = plan.at? "selections")
    (he : plan'.at? "join_edges" = plan.at? "join_edges") : planTables plan' = planTables plan := by
  unfold planTables itemsOf
  rw [hr.getD, hr'.getD, hr.getD, hr'.getD, hs, he]

end Plan

end QueryDesk
