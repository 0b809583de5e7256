import QueryDesk.Proofs.AuditedColumns
import QueryDesk.Proofs.LinkedTables

/-!
The audit on the part of a schema that a plan uses. The part holds the tables of the plan's selections and joins, while
the checks follow its filters, the keys of its groups and the columns that name a table of their own as well. A check
reads no more of a schema than its answers about the tables that it looks up. So the verdict on the part is that on the
schema if no reference leads to a table of the schema that the plan neither selects nor joins.
-/

namespace QueryDesk

open Attempt List Value Sql Schema

lemma Attempt.bind_congr_ok {f g : α → Attempt β} (h : ∀ a, m = .ok a → f a = g a) :
    m >>= f = m >>= g := by
  cases m with
  | ok a => exact h a rfl
  | error => rfl

lemma Sql.walk_congr {f g : Value → Attempt α}
    (h : ∀ x ∈ docsOf doc key, f x = g x) :
    (itemsOf doc key >>= fun xs => xs.mapM f >>= k) = itemsOf doc key >>= fun xs => xs.mapM g >>= k := by
  refine bind_congr_ok fun xs hxs => ?_
  rw [docsOf_eq hxs] at h
  have hs : xs.mapM f = xs.mapM g := by
    clear hxs
    induction xs with
    | nil => rfl
    | cons x xs ih => rw [mapM_cons, mapM_cons, h x (by simp), ih fun y hy => h y (by simp [hy])]
  rw [hs]

namespace Plan

variable {plan schema table t : Value} {entries part : List Value}

/-! ### What the checks look up -/

def planned (plan : Value) : List Value := (docsOf plan "selections").map (·.peek "table") ++
  ((docsOf plan "join_edges").map fun e => [e.peek "from_table", e.peek "to_table"]).flatten

/-- The tables that the checks of a plan look up. A column of a selection that names no table is one of the table that is
selected. -/
inductive LooksUp (plan : Value) : Value → Prop
  | planned {t : Value} (h : t ∈ planned plan) : LooksUp plan t
  | column {s c : Value} (hs : s ∈ docsOf plan "selections") (hc : c ∈ docsOf s "columns") :
      LooksUp plan ((c.at? "table").getD (s.peek "table"))
  | filter {s f : Value} (hs : s ∈ docsOf plan "selections") (hf : f ∈ docsOf s "filters") : LooksUp plan (f.peek "table")
  | shared {f : Value} (hf : f ∈ docsOf plan "global_filters") : LooksUp plan (f.peek "table")
  | having {f : Value} (hf : f ∈ docsOf (plan.peek "group_by") "having_filters") : LooksUp plan (f.peek "table")
  | key {c : Value} (hc : c ∈ docsOf (plan.peek "group_by") "group_by_columns") : LooksUp plan (c.peek "table")

/-- Two schemas have the same answers about a table. -/
structure SameAbout (schema schema' t : Value) : Prop where
  table : tableExists t schema' = tableExists t schema
  column : ∀ c, columnExists t c schema' = columnExists t c schema

lemma columnIssues_congr (h : SameAbout schema schema' ((c.at? "table").getD table)) :
    columnIssues schema' table c = columnIssues schema table c := by
  refine bind_congr_ok fun name hn => bind_congr_ok fun owner ho => ?_
  rw [(get_ok.1 hn).1.getD] at ho
  cases ho
  simp only [columnIssue, h.column]

lemma filterIssue_congr {label : String} (h : SameAbout schema schema' (f.peek "table")) :
    filterIssue label hint schema' f = filterIssue label hint schema f := by
  refine bind_congr_ok fun table ht => ?_
  obtain ⟨-, rfl⟩ := get_ok.1 ht
  simp only [h.table, columnIssue, h.column]

section

variable (h : ∀ t, LooksUp plan t → SameAbout schema schema' t)

include h

lemma selectionIssues_congr : selectionIssues plan schema' = selectionIssues plan schema := by
  refine walk_congr fun s hs => bind_congr_ok fun table ht => ?_
  obtain ⟨-, rfl⟩ := get_ok.1 ht
  rw [(h _ (.planned (mem_append_left _ (mem_map_of_mem hs)))).table]
  refine bind_congr_ok fun kn _ => ?_
  cases kn with
  | false => rfl
  | true => exact walk_congr fun c hc => columnIssues_congr (h _ (.column hs hc))

lemma joinIssues_congr : joinIssues plan schema' = joinIssues plan schema := by
  refine walk_congr fun e he => ?_
  have hen : ∀ t ∈ [e.peek "from_table", e.peek "to_table"], SameAbout schema schema' t := fun t ht =>
    h t (.planned (mem_append_right _ (mem_flatten.2 ⟨_, mem_map_of_mem he, ht⟩)))
  refine bind_congr_ok fun a ha => bind_congr_ok fun _ _ => bind_congr_ok fun b hb => bind_congr_ok fun _ _ => ?_
  obtain ⟨-, rfl⟩ := get_ok.1 ha
  obtain ⟨-, rfl⟩ := get_ok.1 hb
  have hf := hen _ mem_cons_self
  have hto := hen _ (mem_cons_of_mem _ mem_cons_self)
  simp only [hf.table, hto.table, columnIssue, hf.column, hto.column]

lemma filterIssues_congr : filterIssues plan schema' = filterIssues plan schema := by
  unfold filterIssues
  rw [walk_congr fun s hs => ?_]
  · refine bind_congr_ok fun _ _ => bind_congr_ok fun _ _ => ?_
    rw [walk_congr fun f hf => filterIssue_congr (h _ (.shared hf))]
    refine bind_congr_ok fun _ _ => bind_congr_ok fun _ _ => bind_congr_ok fun grp hg => ?_
    obtain ⟨-, rfl⟩ := get_ok.1 hg
    split
    · exact walk_congr fun f hf => filterIssue_congr (h _ (.having hf))
    · rfl
  · simpa using walk_congr (k := pure) fun f hf => filterIssue_congr (h _ (.filter hs hf))

lemma groupIssues_congr : groupIssues plan schema' = groupIssues plan schema := by
  refine bind_congr_ok fun grp hg => ?_
  obtain ⟨-, rfl⟩ := get_ok.1 hg
  split
  · refine walk_congr fun c hc => bind_congr_ok fun table ht => ?_
    obtain ⟨-, rfl⟩ := get_ok.1 ht
    simp only [columnIssue, (h _ (.key hc)).column]
  · rfl

/-- The verdict on a plan depends on a schema only by its answers about the tables that are looked up. -/
lemma check_congr (walk : List Value → List Value) : check walk plan schema' = check walk plan schema := by
  rw [check, check, allIssues, allIssues, selectionIssues_congr h, joinIssues_congr h, filterIssues_congr h,
    groupIssues_congr h]

end

/-! ### The part of a schema -/

lemma tableExists_eq (h : AllTexts entries) (t : Value) :
    tableExists t (.list entries) = .ok (entries.any (·.peek "table_name" == t)) :=
  anyM_eq_any fun e he => by rw [(h e he).get]; rfl

lemma planTables_eq (h : planTables plan = .ok tables) : tables = distinct (planned plan) := by
  simp only [planTables, bind_ok, pure_ok] at h
  obtain ⟨docs, hd, selected, hs, eds, hed, joined, hj, rfl⟩ := h
  have ht : selected = docs.map (·.peek "table") := eq_map_of_mapM hs fun s _ a ha => by
    obtain ⟨_, hg, ha⟩ := bind_ok.1 ha
    rw [← hashable_ok ha, (get_ok.1 hg).2]
  have he : joined = eds.map fun e => [e.peek "from_table", e.peek "to_table"] :=
    eq_map_of_mapM hj fun e _ ends he => by
      simp only [bind_ok, pure_ok] at he
      obtain ⟨_, hf, _, ha, _, hto, _, hb, rfl⟩ := he
      rw [← hashable_ok ha, ← hashable_ok hb, (get_ok.1 hf).2, (get_ok.1 hto).2]
  rw [planned, docsOf_eq hd, docsOf_eq hed, ht, he]

lemma sameAbout_filter (hen : AllTexts entries)
    (hk : ∀ e ∈ entries, (e.peek "table_name" == t) = true → p e = true) :
    SameAbout (.list entries) (.list (entries.filter p)) t := by
  have hp : AllTexts (entries.filter p) := fun e he => hen e (mem_filter.1 he).1
  have hr : ∀ e ∈ entries, e.IsRecord := fun e he => (get_ok.1 ((hen e he).get)).1
  have hs : (entries.filter p).any (·.peek "table_name" == t) = entries.any (·.peek "table_name" == t) ∧
      (entries.filter p).find? (·.peek "table_name" == t) = entries.find? (·.peek "table_name" == t) := by
    clear hen hp hr
    induction entries with
    | nil => exact ⟨rfl, rfl⟩
    | cons e entries ih =>
      obtain ⟨ha, hf⟩ := ih fun x hx => hk x (mem_cons_of_mem e hx)
      rw [filter_cons, any_cons, find?_cons]
      cases hn : e.peek "table_name" == t with
      | true => simp [hk e mem_cons_self hn, hn]
      | false => cases p e <;> simp [hn, ha, hf, -any_filter, -find?_filter]
  constructor
  · rw [tableExists_eq hen, tableExists_eq hp, hs.1]
  · intro c
    rw [columnExists, columnExists, tableEntry?_eq hr, tableEntry?_eq fun e he => hr e (mem_filter.1 he).1, hs.2]

/-- The part of a schema that a plan uses has a table exactly if the schema has it and the plan selects or joins it; and
it gives the verdict of the whole schema if no table of the schema is looked up that the plan neither selects nor joins. -/
theorem audit_on_part (walk : List Value → List Value) (hentries : AllTexts entries)
    (hplan : ∀ t, LooksUp plan t → IsText t) (hpart : narrow plan (.list entries) = .ok part) :
    (∀ t, IsText t → (tableExists t (.list part) = .ok true ↔ t ∈ tableNames entries ∧ t ∈ planned plan)) ∧
    ((∀ t, LooksUp plan t → t ∈ tableNames entries → t ∈ planned plan) →
      check walk plan (.list part) = check walk plan (.list entries)) := by
  obtain ⟨ts, _, hta, hi, rfl⟩ := narrow_eq_filter hpart
  cases hi
  have hk : ∀ e ∈ entries, isReached ts (e.peek "table_name") = true ↔ e.peek "table_name" ∈ planned plan := by
    intro e he
    have hte := fun t ht => hplan t (.planned ht)
    rw [planTables_eq hta, isReached_iff (fun x hx => hte x (mem_of_mem_distinct hx)) (hentries e he),
      mem_distinct hte]
  refine ⟨fun t ht => ?_, fun hw => ?_⟩
  · rw [tableExists_eq fun e he => hentries e (mem_filter.1 he).1, Except.ok.injEq, any_eq_true]
    constructor
    · rintro ⟨e, he, hn⟩
      obtain ⟨hin, hr⟩ := mem_filter.1 he
      rw [← ((hentries e hin).beq_iff ht).1 hn]
      exact ⟨mem_map_of_mem hin, (hk e hin).1 hr⟩
    · rintro ⟨hin, hp⟩
      obtain ⟨e, he, rfl⟩ := mem_map.1 hin
      exact ⟨e, mem_filter.2 ⟨he, (hk e he).2 hp⟩, (ht.beq_iff ht).2 rfl⟩
  · refine check_congr (fun t ht => sameAbout_filter hentries fun e he hn => ?_) walk
    obtain rfl := ((hentries e he).beq_iff (hplan t ht)).1 hn
    exact (hk e he).2 (hw _ ht (mem_map_of_mem he))

/-! Orders and customers, and a plan that selects the orders with a condition on another table. -/

def shop : List Value := [("orders", "buyer"), ("customers", "region")].map fun t => tableEntry t.1 t.2

def conditionPlan (table : String) : Value := .record [
  ("selections", .list [.record [("table", .text "orders"), ("columns", .list [.record [("column", .text "buyer")]])]]),
  ("global_filters", .list [.record [("table", .text table), ("column", .text "region")]])]

lemma conditionPlan_looksUp {table : String} (h : LooksUp (conditionPlan table) t) : t = .text "orders" ∨ t = .text table := by
  cases h with
  | planned h => exact .inl (mem_singleton.1 h)
  | column hs hc =>
    obtain rfl := mem_singleton.1 hs
    obtain rfl := mem_singleton.1 hc
    exact .inl rfl
  | filter hs hf =>
    obtain rfl := mem_singleton.1 hs
    cases hf
  | shared hf =>
    obtain rfl := mem_singleton.1 hf
    exact .inr rfl
  | having hf => cases hf
  | key hc => cases hc

/-- The schema lacks the table of the condition as much as the part does. -/
theorem audit_on_part_ghosts : narrow (conditionPlan "ghosts") (.list shop) = .ok [tableEntry "orders" "buyer"] ∧
    check id (conditionPlan "ghosts") (.list [tableEntry "orders" "buyer"]) =
      check id (conditionPlan "ghosts") (.list shop) := by
  refine ⟨rfl, (audit_on_part id (by decide +kernel) (fun t ht => ?_) rfl).2 fun t ht hin => ?_⟩
  · rcases conditionPlan_looksUp ht with rfl | rfl <;> exact ⟨_, rfl⟩
  · rcases conditionPlan_looksUp ht with rfl | rfl
    · exact mem_singleton.2 rfl
    · simp [shop, tableNames, tableEntry, peek] at hin

/-- The schema has customers, and their region; on the part the audit says that there is no such table. -/
theorem customers_called_missing : tableExists (.text "customers") (.list shop) = .ok true ∧
    narrow (conditionPlan "customers") (.list shop) = .ok [tableEntry "orders" "buyer"] ∧
    filterIssues (conditionPlan "customers") (.list shop) = .ok [] ∧
    filterIssues (conditionPlan "customers") (.list [tableEntry "orders" "buyer"]) =
      .ok ["Global filter table 'customers' does not exist in schema. " ++ s!"Remove this filter or {missingHint}"] :=
  ⟨rfl, rfl, rfl, rfl⟩

end Plan

end QueryDesk
