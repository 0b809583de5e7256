import Mathlib.Data.List.Induction
import QueryDesk.Plan.Form
import QueryDesk.Plan.Repair
import QueryDesk.Proofs.Binding
import QueryDesk.Proofs.Renaming

/-!
Tables that only joins mention. They are added behind the selections, each once, so that every join finds its tables,
also after all but the first of several selections of a table, in any case, have been dropped.
-/

namespace QueryDesk.Plan

open Attempt Value Sql List

variable {plan object : Value} {selections edges objects joins kept : List Value} {walk : List Value → List Value}

/-! ### Adding tables -/

/-- A plan with its selections and joins, all of which name their tables. -/
structure Drafted (plan : Value) (selections edges : List Value) : Prop where
  picks : plan.at? "selections" = some (.list selections)
  links : plan.at? "join_edges" = some (.list edges)
  selected : ∀ t ∈ tablesOf selections, IsName t
  joined : ∀ e ∈ edges, IsName (e.peek "from_table") ∧ IsName (e.peek "to_table")

def endsOf (edges : List Value) : List Value := edges.flatMap fun e => [e.peek "from_table", e.peek "to_table"]

def missingEnds (selections edges : List Value) : List Value := without (distinct (endsOf edges)) (tablesOf selections)

/-- The tables of joins that no selection names, each once. -/
structure Missing (selections edges missing : List Value) : Prop where
  once : missing.Nodup
  mem : ∀ t, t ∈ missing ↔ t ∈ endsOf edges ∧ t ∉ tablesOf selections

lemma joinEnds_eq (h : ∀ e ∈ edges, IsName (e.peek "from_table") ∧ IsName (e.peek "to_table")) :
    joinEnds edges = .ok (distinct (endsOf edges)) := by
  rw [joinEnds, mapM_eq_map (g := fun e => [e.peek "from_table", e.peek "to_table"]), ok_bind, ← flatMap_def]
  · rfl
  · intro e he
    rw [tablesNamed_eq (by simpa using (h e he).1), tablesNamed_eq (by simpa using (h e he).2)]
    rfl

section

variable (h : Drafted plan selections edges)

include h

lemma Drafted.isName_end (ht : t ∈ endsOf edges) : IsName t := by
  obtain ⟨e, he, ht⟩ := mem_flatMap.1 ht
  simp only [mem_cons, not_mem_nil, or_false] at ht
  obtain rfl | rfl := ht
  · exact (h.joined e he).1
  · exact (h.joined e he).2

lemma Drafted.missing : Missing selections edges (missingEnds selections edges) := by
  have he : ∀ t ∈ endsOf edges, IsName t := fun t => h.isName_end
  refine ⟨(nodup_distinct he).filter _, fun t => ?_⟩
  have hd : ∀ t ∈ distinct (endsOf edges), IsName t := fun t ht => he t ((mem_distinct he).1 ht)
  rw [missingEnds, mem_without hd h.selected, mem_distinct he]

lemma Drafted.addJoinTables_eq : addJoinTables walk plan =
    if (missingEnds selections edges).isEmpty then .ok plan else
      .ok (plan.update [("selections", .list (selections ++ (walk (missingEnds selections edges)).map joinOnly))]) := by
  have hr := isRecord_of_at? h.picks
  simp only [addJoinTables, hr.getD, h.picks, Option.getD_some, ok_bind, items, tablesNamed_eq h.selected,
    itemsOf_of_at? h.links, joinEnds_eq h.joined, extended, hr.setField]
  rfl

lemma Drafted.update {missing : List Value} (hm : Missing selections edges missing) :
    Drafted (plan.update [("selections", .list (selections ++ missing.map joinOnly))])
      (selections ++ missing.map joinOnly) edges := by
  have hr := isRecord_of_at? h.picks
  refine ⟨hr.at?_self _ _, ?_, ?_, h.joined⟩
  · rw [(hr.kept_self _ _).at? _, h.links]
  · rw [tablesOf, map_append, forall_mem_append]
    refine ⟨h.selected, fun t ht => ?_⟩
    obtain ⟨_, ha, rfl⟩ := mem_map.1 ht
    obtain ⟨t, hin, rfl⟩ := mem_map.1 ha
    exact h.isName_end ((hm.mem t).1 hin).1

lemma Drafted.addJoinTables_gives (hw : ∀ xs, (walk xs).Perm xs) :
    ∃ plan', ∃ missing : List Value, addJoinTables walk plan = .ok plan' ∧ Missing selections edges missing ∧
      Kept ["selections"] plan plan' ∧ Drafted plan' (selections ++ missing.map joinOnly) edges := by
  have hr := isRecord_of_at? h.picks
  rw [h.addJoinTables_eq]
  cases hn : (missingEnds selections edges).isEmpty with
  | true =>
    exact ⟨plan, [], rfl, List.isEmpty_iff.1 hn ▸ h.missing, kept_refl hr, by simpa using h⟩
  | false =>
    have hm : Missing selections edges (walk (missingEnds selections edges)) :=
      ⟨(hw _).nodup_iff.2 h.missing.once, fun t => (hw _).mem_iff.trans (h.missing.mem t)⟩
    exact ⟨_, _, rfl, hm, hr.kept_self _ _, h.update hm⟩

/-- To a plan that selects the tables of its joins nothing is added. -/
lemma Drafted.addJoinTables_self (he : ∀ t ∈ endsOf edges, t ∈ tablesOf selections) :
    addJoinTables walk plan = .ok plan := by
  have hn : missingEnds selections edges = [] := eq_nil_iff_forall_not_mem.2 fun t ht =>
    ((h.missing.mem t).1 ht).2 (he t ((h.missing.mem t).1 ht).1)
  rw [h.addJoinTables_eq, hn]
  rfl

end

lemma Missing.complete (h : Missing selections edges missing) :
    ∀ t ∈ endsOf edges, t ∈ tablesOf (selections ++ missing.map joinOnly) := by
  intro t ht
  rw [tablesOf, map_append, mem_append]
  by_cases hin : t ∈ tablesOf selections
  · exact .inl hin
  · exact .inr (mem_map.2 ⟨joinOnly t, mem_map_of_mem ((h.mem t).2 ⟨ht, hin⟩), rfl⟩)

/-! ### The first selection of a table -/

/-- Of several things with one name the first is kept. -/
inductive Firsts (name : Value → String) : List Value → List Value → Prop
  | none : Firsts name [] []
  | again {xs kept : List Value} {x : Value} (h : Firsts name xs kept) (hseen : ∃ y ∈ xs, name y = name x) :
      Firsts name (xs ++ [x]) kept
  | first {xs kept : List Value} {x : Value} (h : Firsts name xs kept) (hnew : ∀ y ∈ xs, name y ≠ name x) :
      Firsts name (xs ++ [x]) (kept ++ [x])

section

variable {name : Value → String}

lemma Firsts.sublist (h : Firsts name objects kept) : kept.Sublist objects := by
  induction h with
  | none => exact .refl _
  | again _ _ ih => exact ih.trans (sublist_append_left _ _)
  | first _ _ ih => exact ih.append (.refl _)

lemma Firsts.named_iff (h : Firsts name objects kept) (n : String) :
    (∃ y ∈ kept, name y = n) ↔ ∃ y ∈ objects, name y = n := by
  induction h with
  | none => rfl
  | again _ hs ih => grind
  | first _ _ ih => grind

/-- The walk that keeps what has a name not kept before keeps the first of each name. -/
lemma firsts_foldl (name : Value → String) (objects : List Value) : ∃ kept, Firsts name objects kept ∧
    (objects.map fun o => (name o, o)).foldl (fun (kept : List (String × Value)) n =>
      if kept.any (·.1 == n.1) then kept else kept ++ [n]) [] = kept.map fun o => (name o, o) := by
  induction objects using reverseRecOn with
  | nil => exact ⟨[], .none, rfl⟩
  | append_singleton xs x ih =>
    obtain ⟨kept, hf, hfo⟩ := ih
    have ha : (kept.map fun o => (name o, o)).any (·.1 == name x) = true ↔ ∃ y ∈ xs, name y = name x := by
      rw [← hf.named_iff]
      simp
    rw [map_append, foldl_append, hfo, map_singleton, foldl_cons, foldl_nil]
    by_cases hs : ∃ y ∈ xs, name y = name x
    · exact ⟨kept, .again hf hs, if_pos (ha.2 hs)⟩
    · refine ⟨kept ++ [x], .first hf fun y hy he => hs ⟨y, hy, he⟩, ?_⟩
      rw [if_neg (mt ha.1 hs), map_append, map_singleton]

end

/-- The name of the table of a selection, in lower case. -/
def tableName (object : Value) : String :=
  match object.attr "table" with
  | .ok v => Text.lower v.display
  | .error _ => ""

/-- The object that a form makes of a selection. -/
structure SelectionObject (doc object : Value) : Prop where
  table : object.attr "table" = .ok (doc.peek "table")
  columns : ∃ v, object.attr "columns" = .ok v
  joined : ∃ v, object.attr "include_only_for_join" = .ok v

structure EdgeObject (doc object : Value) : Prop where
  source : object.attr "from_table" = .ok (doc.peek "from_table")
  target : object.attr "to_table" = .ok (doc.peek "to_table")

lemma SelectionObject.lowered_table (h : SelectionObject doc object)
    (hn : IsName (doc.peek "table")) : (object.attr "table" >>= lowered) = .ok (tableName object) ∧
      tableName object = Text.lower (doc.peek "table").display := by
  obtain ⟨s, hs, -⟩ := hn
  rw [tableName, h.table, hs]
  exact ⟨rfl, rfl⟩

lemma Drafted.distinctTables_firsts (hd : Drafted plan selections edges)
    (h : Forall₂ SelectionObject selections objects) :
    ∃ kept, distinctTables objects = .ok kept ∧ Firsts tableName objects kept := by
  obtain ⟨kept, hf, hfo⟩ := firsts_foldl tableName objects
  refine ⟨kept, ?_, hf⟩
  rw [distinctTables, mapM_eq_map (g := fun o => (tableName o, o)), ok_bind, hfo]
  · show Except.ok ((kept.map _).map _) = _
    rw [map_map]
    exact congrArg Except.ok (map_id kept)
  · intro o ho
    obtain ⟨s, hs, hob⟩ := h.exists_left ho
    rw [← bind_assoc, (hob.lowered_table (hd.selected _ (mem_map_of_mem hs))).1]
    rfl

/-! ### The check of joins -/

lemma markJoinOnly_gives (h : SelectionObject doc object) :
    ∃ marked, markJoinOnly object = .ok marked := by
  obtain ⟨cols, hc⟩ := h.columns
  obtain ⟨joined, hj⟩ := h.joined
  simp only [markJoinOnly, hc, hj, ok_bind]
  split
  · exact ⟨_, rfl⟩
  · split <;> exact ⟨_, rfl⟩

lemma missingTables_eq_nil {ends : List String} (h : ∀ t ∈ ends, Text.lower t ∈ selected) :
    missingTables selected ends = [] := by
  have hn : (ends.filter fun t => !selected.contains (Text.lower t)) = [] := by
    simpa [filter_eq_nil_iff] using h
  rw [missingTables, hn, eraseDups_nil, mergeSort_nil]

lemma Drafted.checkJoins_accepts (hd : Drafted plan selections edges)
    (hen : ∀ t ∈ endsOf edges, t ∈ tablesOf selections) (h : Forall₂ SelectionObject selections objects)
    (hed : Forall₂ EdgeObject edges joins) (hk : Firsts tableName objects kept)
    (hp : object.attr "selections" = .ok (.list kept)) (hl : object.attr "join_edges" = .ok (.list joins)) :
    ∃ checked, checkJoins tier object = .ok checked := by
  have hm : ∀ o ∈ kept, ∃ s ∈ selections, SelectionObject s o := fun o ho =>
    h.exists_left (hk.sublist.subset ho)
  have hse : (kept.mapM fun s => do (← s.attr "table").lowered) = .ok (kept.map tableName) := by
    refine mapM_eq_map fun o ho => ?_
    obtain ⟨s, hs, hob⟩ := hm o ho
    exact (hob.lowered_table (hd.selected _ (mem_map_of_mem hs))).1
  have hj : (joins.mapM fun e => do
      let a ← (← e.attr "from_table").textFor "lower"
      let b ← (← e.attr "to_table").textFor "lower"
      pure [a, b]) = .ok (edges.map fun e => [e.peek "from_table", e.peek "to_table"].map display) := by
    rw [mapM_ok, forall₂_map_right_iff]
    refine (((forall₂_and_left _ _).2 ⟨hd.joined, hed⟩).imp fun e j he => ?_).flip
    obtain ⟨⟨⟨a, ha, -⟩, b, hb, -⟩, hso, hta⟩ := he
    simp only [flip, hso, hta, ha, hb, ok_bind]
    rfl
  -- every end of a join is a selected table, and the first selection of a table has its name
  have hn : missingTables (kept.map tableName)
      (edges.map fun e => [e.peek "from_table", e.peek "to_table"].map display).flatten = [] := by
    refine missingTables_eq_nil fun t ht => ?_
    rw [← flatMap_def, ← map_flatMap] at ht
    obtain ⟨v, hv, rfl⟩ := mem_map.1 ht
    obtain ⟨s, hs, rfl⟩ := mem_map.1 (hen v hv)
    obtain ⟨o, ho, hob⟩ := h.exists_right hs
    rw [mem_map, hk.named_iff]
    exact ⟨o, ho, (hob.lowered_table (hd.selected _ (mem_map_of_mem hs))).2⟩
  obtain ⟨marked, hma⟩ := exists_mapM fun o ho => (hm o ho).elim fun _ hs => markJoinOnly_gives hs.2
  simp only [checkJoins, hp, hl, items, ok_bind, hse, hj, hn, hma]
  exact ⟨_, rfl⟩

/-- The tables that only joins name are added behind the selections, each once and as selections without columns and
filters; a second time nothing is added. When all but the first selection of each table, in any case, have been dropped
from the objects that a form makes of the selections, the joins pass the check of every tier. -/
theorem join_tables_added (hwalk : ∀ xs, (walk xs).Perm xs) (h : Drafted plan selections edges) :
    ∃ plan', ∃ missing : List Value, addJoinTables walk plan = .ok plan' ∧ Missing selections edges missing ∧
      Kept ["selections"] plan plan' ∧ plan'.at? "selections" = some (.list (selections ++ missing.map joinOnly)) ∧
      addJoinTables walk plan' = .ok plan' ∧
      ∀ objects joins, Forall₂ SelectionObject (selections ++ missing.map joinOnly) objects →
        Forall₂ EdgeObject edges joins → ∃ kept, distinctTables objects = .ok kept ∧ Firsts tableName objects kept ∧
          ∀ tier object, object.attr "selections" = .ok (.list kept) → object.attr "join_edges" = .ok (.list joins) →
            ∃ checked, checkJoins tier object = .ok checked := by
  obtain ⟨plan', missing, ha, hm, hk, hd⟩ := h.addJoinTables_gives hwalk
  refine ⟨plan', missing, ha, hm, hk, hd.picks, hd.addJoinTables_self hm.complete,
    fun objects joins ho hj => ?_⟩
  obtain ⟨kept, hdi, hf⟩ := hd.distinctTables_firsts ho
  exact ⟨kept, hdi, hf, fun _ _ => hd.checkJoins_accepts hm.complete ho hj hf⟩

/-! A draft that selects a table twice, in two spellings, and joins it with one that it does not select. -/

def invoiceDraft : Value := .record [
  ("selections", .list
    [.record [("table", "Invoices")], .record [("table", "INVOICES")], .record [("table", "Clients")]]),
  ("join_edges", .list [.record [("from_table", "invoices"), ("to_table", "Payers")]])]

lemma invoiceDraft_drafted : Drafted invoiceDraft
    [.record [("table", "Invoices")], .record [("table", "INVOICES")], .record [("table", "Clients")]]
    [.record [("from_table", "invoices"), ("to_table", "Payers")]] where
  picks := rfl
  links := rfl
  selected := by simp [tablesOf, IsName, peek]
  joined := by simp [IsName, peek, lookup_cons]

def selectionObject (doc : Value) : Value := .entity [("table", doc.peek "table"), ("columns", doc.peek "columns"),
  ("include_only_for_join", doc.peek "include_only_for_join")] doc

def edgeObject (doc : Value) : Value :=
  .entity [("from_table", doc.peek "from_table"), ("to_table", doc.peek "to_table")] doc

/-- Both ends of the join are added, also the one that is selected in another spelling; its own selection is dropped
again, and the joins pass. -/
theorem join_tables_added_invoices : ∃ plan', ∃ missing : List Value, addJoinTables reverse invoiceDraft = .ok plan' ∧
    Value.text "invoices" ∈ missing ∧ Value.text "Invoices" ∉ missing ∧ addJoinTables reverse plan' = .ok plan' ∧
    ∃ kept, distinctTables ((docsOf invoiceDraft "selections" ++ missing.map joinOnly).map selectionObject) = .ok kept ∧
      ∀ tier, ∃ checked, checkJoins tier (.entity [("selections", .list kept),
        ("join_edges", .list ((docsOf invoiceDraft "join_edges").map edgeObject))] .null) = .ok checked := by
  obtain ⟨plan', missing, ha, hm, -, -, hag, hf⟩ := join_tables_added reverse_perm invoiceDraft_drafted
  obtain ⟨kept, hk, -, hc⟩ := hf (map selectionObject _) (map edgeObject _)
    (forall₂_map_right_iff.2 (forall₂_same.2 fun _ _ => ⟨rfl, ⟨_, rfl⟩, _, rfl⟩))
    (forall₂_map_right_iff.2 (forall₂_same.2 fun _ _ => ⟨rfl, rfl⟩))
  refine ⟨plan', missing, ha, (hm.mem _).2 ?_, fun hin => ?_, hag, kept, hk, fun tier =>
    hc tier _ rfl rfl⟩
  · simp [endsOf, tablesOf, peek]
  · simpa [endsOf, tablesOf, peek] using (hm.mem _).1 hin

end QueryDesk.Plan
