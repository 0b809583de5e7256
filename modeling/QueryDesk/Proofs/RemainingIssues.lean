import QueryDesk.Proofs.PartAudit
import QueryDesk.Proofs.Resemblance

/-!
What is left to say of a plan whose columns have been repaired. The repair and the checks look a column up in different
ways, which agree if the tables of the schema are distinct. So a column that is still missing is one to which none of its
table is close. The steps of the repair are at different fields, and each notes a change exactly if it makes one.
-/

namespace QueryDesk.Plan

open Attempt Value Sql List Schema

variable {entries docs : List Value} {schema plan plan' doc doc' t c x : Value} {notes issues : List String}
  {key label : String}

/-! ### Columns that are missing -/

/-- A schema of distinct tables, all of whose columns have names. -/
structure Tidy (entries : List Value) : Prop where
  columns : ∀ e ∈ entries, NamedColumns e
  names : AllTexts entries
  distinct : (tableNames entries).Nodup

section

variable (h : Tidy entries)

include h

lemma Tidy.entry_eq (he : e ∈ entries) (hx : x ∈ entries) (hn : (e.peek "table_name" == t) = true)
    (hn' : (x.peek "table_name" == t) = true) : e = x := by
  obtain ⟨a, ha⟩ := h.names e he
  obtain ⟨b, hb⟩ := h.names x hx
  rw [ha, beq_text, beq_iff_eq] at hn
  rw [hb, beq_text, beq_iff_eq, hn] at hn'
  cases hn'
  exact inj_on_of_nodup_map h.distinct he hx (ha.trans hb.symm)

/-- The first entry of a table is the only one, so the check and the repair see the same columns. -/
lemma Tidy.columnExists_eq : columnExists t c (.list entries) = someEntryHas t c (.list entries) := by
  have hh : someEntryHas t c (.list entries) = .ok (entries.any fun e =>
      e.peek "table_name" == t && ((entryNames e).map text).any (· == c)) := by
    refine anyM_eq_any fun e he => ?_
    simp only [(h.names e he).get, (h.columns e he).columnNames_eq, ok_bind]
    cases e.peek "table_name" == t <;> rfl
  rw [columnExists, tableEntry?_eq fun e he => (h.columns e he).record, hh, ok_bind]
  cases hf : entries.find? (·.peek "table_name" == t) with
  | none =>
    rw [any_eq_false.2 fun e he => by simp [find?_eq_none.1 hf e he]]
    rfl
  | some x =>
    have hx := mem_of_find?_eq_some hf
    have hn : (x.peek "table_name" == t) = true := by simpa using find?_some hf
    simp only [(h.columns x hx).columnNames_eq, ok_bind]
    congr 1
    rw [Bool.eq_iff_iff]
    constructor
    · exact fun hin => any_eq_true.2 ⟨x, hx, by rw [hn, hin]; rfl⟩
    · intro ha
      obtain ⟨e, he, hin⟩ := any_eq_true.1 ha
      rw [Bool.and_eq_true] at hin
      rw [← h.entry_eq he hx hin.1 hn]
      exact hin.2

lemma Tidy.truthy_closest (hc : closestColumn c t (.list entries) = .ok (some doc)) : doc.truthy = true := by
  obtain ⟨-, e, cols, hen, hco, hin⟩ := closestColumn_ok hc
  rw [tableEntry?_eq fun e he => (h.columns e he).record, Except.ok.injEq] at hen
  have he := h.columns e (mem_of_find?_eq_some hen)
  rw [he.columnNames_eq] at hco
  cases hco
  obtain ⟨_, hm, hs⟩ := any_eq_true.1 hin
  obtain ⟨name, hn, rfl⟩ := mem_map.1 hm
  rw [beq_text, beq_iff_eq] at hs
  have ht := (he.name_of_mem hn).truthy
  cases doc with
  | text s =>
    cases hs
    exact ht
  | statement => rfl
  | _ => cases hs

/-- A column that has its last name and is missing is one to which none of its table is close. -/
lemma Tidy.closest_none (hs : repaired? t c (.list entries) = .ok none)
    (hm : columnExists t c (.list entries) = .ok false) : closestColumn c t (.list entries) = .ok none := by
  rw [repaired?, ← h.columnExists_eq, hm, ok_bind, if_neg (by decide)] at hs
  obtain ⟨fd, hf, hs⟩ := bind_ok.1 hs
  cases fd with
  | none => exact hf
  | some new => simp [h.truthy_closest hf] at hs

lemma Tidy.ne_null (hk : tableExists t (.list entries) = .ok true) : t ≠ .null := by
  rintro rfl
  rw [tableExists_eq h.names, Except.ok.injEq, any_eq_true] at hk
  obtain ⟨e, he, hn⟩ := hk
  obtain ⟨a, ha⟩ := h.names e he
  rw [ha, beq_text] at hn
  cases hn

end

/-! ### What the checks say -/

/-- A table or a column that a check looks up, with the words in which it is told if it is missing. -/
inductive Lookup
  | table (kind part : String) (t : Value)
  | column (kind hint : String) (t c : Value)

def Lookup.issue : Lookup → String
  | .table kind part t => absentTable kind part t
  | .column kind hint t c => absentColumn kind hint t c

/-- What the repair of columns leaves: a table is missing, or a column to which none of its table is close. -/
def Lookup.Remains (schema : Value) : Lookup → Prop
  | .table _ _ t => tableExists t schema = .ok false
  | .column _ _ t c => columnExists t c schema = .ok false ∧ closestColumn c t schema = .ok none

/-! The lookups of the four checks in a plan, in the order in which they are made. -/

def selectionLookups (plan : Value) : List Lookup :=
  (docsOf plan "selections").flatMap fun s => .table "Table" "this table from the plan" (s.peek "table") ::
    (docsOf s "columns").flatMap fun c =>
      [.column "Column" spellingHint ((c.at? "table").getD (s.peek "table")) (c.peek "column")]

def joinLookups (plan : Value) : List Lookup :=
  (docsOf plan "join_edges").flatMap fun e => [.table "JOIN from_table" "this join" (e.peek "from_table"),
    .table "JOIN to_table" "this join" (e.peek "to_table"),
    .column "JOIN column" keyHint (e.peek "from_table") (e.peek "from_column"),
    .column "JOIN column" keyHint (e.peek "to_table") (e.peek "to_column")]

def conditionLookups (label hint : String) (f : Value) : List Lookup :=
  [.table s!"{label} table" "this filter" (f.peek "table"),
    .column s!"{label} column" hint (f.peek "table") (f.peek "column")]

def filterLookups (plan : Value) : List Lookup :=
  ((docsOf plan "selections").flatMap fun s => (docsOf s "filters").flatMap (conditionLookups "Filter" "")) ++
    (docsOf plan "global_filters").flatMap (conditionLookups "Global filter" "") ++
    (docsOf (plan.peek "group_by") "having_filters").flatMap (conditionLookups "HAVING filter" havingHint)

def groupLookups (plan : Value) : List Lookup :=
  (docsOf (plan.peek "group_by") "group_by_columns").flatMap fun k =>
    [.column "GROUP BY column" "" (k.peek "table") (k.peek "column")]

/-- The issues are told, one by one and in this order, of some of the lookups, and the repair leaves each of these. -/
def Reports (schema : Value) (lookups : List Lookup) (issues : List String) : Prop :=
  ∃ told : List Lookup, told.Sublist lookups ∧ issues = told.map Lookup.issue ∧ ∀ l ∈ told, l.Remains schema

section

variable {lookups lookups' : List Lookup} {part : String}

lemma Reports.mono (h : Reports schema lookups issues) (hs : lookups.Sublist lookups') :
    Reports schema lookups' issues := by
  obtain ⟨told, ht, hi, hr⟩ := h
  exact ⟨told, ht.trans hs, hi, hr⟩

lemma Reports.append (h : Reports schema lookups issues) (h' : Reports schema lookups' issues') :
    Reports schema (lookups ++ lookups') (issues ++ issues') := by
  obtain ⟨told, ht, rfl, hr⟩ := h
  obtain ⟨told', ht', rfl, hr'⟩ := h'
  exact ⟨told ++ told', ht.append ht', map_append.symm, forall_mem_append.2 ⟨hr, hr'⟩⟩

lemma Gathers.reports {f : Value → List Lookup} (h : Gathers R docs issues)
    (hR : ∀ d ∈ docs, ∀ part, R d part → Reports schema (f d) part) : Reports schema (docs.flatMap f) issues := by
  obtain ⟨parts, hp, rfl⟩ := h
  induction hp with
  | nil => exact ⟨[], .slnil, rfl, by simp⟩
  | cons hd _ ih =>
    rw [flatMap_cons, flatten_cons]
    exact (hR _ mem_cons_self _ hd).append (ih fun d hd => hR d (mem_cons_of_mem _ hd))

lemma Misses.reports (h : Misses label part schema t issues) : Reports schema [.table label part t] issues := by
  obtain ⟨hm, rfl⟩ := h
  exact ⟨_, .refl _, rfl, forall_mem_singleton.2 hm⟩

lemma Tells.reports (hes : Tidy entries) (h : Tells label hint (.list entries) t c issues)
    (hs : repaired? t c (.list entries) = .ok none) :
    Reports (.list entries) [.column label hint t c] issues := by
  obtain ⟨-, rfl⟩ | ⟨hm, rfl⟩ := h
  · exact ⟨[], nil_sublist _, rfl, by simp⟩
  · exact ⟨_, .refl _, rfl, forall_mem_singleton.2 ⟨hm, hes.closest_none hs hm⟩⟩

end

lemma Renamed.settled (h : Renamed schema t doc doc') : repaired? t (doc'.peek "column") schema = .ok none := by
  obtain ⟨hr, fixed, hf, rfl⟩ := h
  exact Relabels.settled ⟨fixed, hf, withColumn_peek hr fixed⟩

lemma RenamedOwn.settled (h : RenamedOwn schema doc doc') :
    repaired? (doc'.peek "table") (doc'.peek "column") schema = .ok none := by
  rw [(Renamed.kept h).peek "table"]
  exact Renamed.settled h

lemma FilterTold.reports (hes : Tidy entries) (h : FilterTold label hint (.list entries) doc issues)
    (hs : tableExists (doc.peek "table") (.list entries) = .ok true →
      repaired? (doc.peek "table") (doc.peek "column") (.list entries) = .ok none) :
    Reports (.list entries) (conditionLookups label hint doc) issues := by
  obtain hm | ⟨hk, ht⟩ := h
  · exact hm.reports.mono (.cons_cons _ (nil_sublist _))
  · exact (ht.reports hes (hs hk)).mono (.cons _ (.refl _))

lemma Relabelled.group_of_mem (h : Relabelled schema plan plan') (hd : doc ∈ docsOf (plan'.peek "group_by") key) :
    GroupRepaired schema (plan.peek "group_by") (plan'.peek "group_by") := by
  refine h.group (by_contra fun hf => ?_)
  have hu := h.ungrouped (by simpa using hf)
  rw [hu, docsOf_of_falsy (by simpa using hf)] at hd
  cases hd

section

variable (hes : Tidy entries) (h : Relabelled (.list entries) plan plan')

include hes h

lemma selectionIssues_report (hi : selectionIssues plan' (.list entries) = .ok issues) :
    Reports (.list entries) (selectionLookups plan') issues := by
  refine (selectionIssues_told hi).reports fun s' hs' part hto => ?_
  obtain ⟨s, -, hs⟩ := h.selections.exists_left hs'
  obtain hm | hco := hto
  · exact hm.reports.mono (.cons_cons _ (nil_sublist _))
  · refine (hco.reports fun c' hc' part ht => ht.reports hes ?_).mono (.cons _ (.refl _))
    obtain ⟨c, -, hc⟩ := hs.columns.exists_left hc'
    rw [hc.kept.at? "table", hs.kept.peek "table"]
    exact hc.settled

lemma joinIssues_report (hi : joinIssues plan' (.list entries) = .ok issues) :
    Reports (.list entries) (joinLookups plan') issues := by
  refine (joinIssues_told hi).reports fun e' he' part ht => ?_
  obtain ⟨e, -, he⟩ := h.edges.exists_left he'
  obtain hm | hm | ⟨first, second, rfl, hf, hs⟩ := ht
  · exact hm.reports.mono (.cons_cons _ (nil_sublist _))
  · exact hm.reports.mono (.cons _ (.cons_cons _ (nil_sublist _)))
  · have hso := he.source.settled
    have hta := he.target.settled
    rw [← he.kept.peek "from_table"] at hso
    rw [← he.kept.peek "to_table"] at hta
    exact ((hf.reports hes hso).append (hs.reports hes hta)).mono (.cons _ (.cons _ (.refl _)))

lemma filterIssues_report (hi : filterIssues plan' (.list entries) = .ok issues) :
    Reports (.list entries) (filterLookups plan') issues := by
  obtain ⟨own, shared, having, rfl, ho, hsh, hh⟩ := filterIssues_told hi
  refine .append (.append (ho.reports fun s' hs' part ht => ht.reports fun f' hf' part ht => ?_)
    (hsh.reports fun f' hf' part ht => ?_)) (hh.reports fun f' hf' part ht => ?_)
  · obtain ⟨s, -, hs⟩ := h.selections.exists_left hs'
    obtain ⟨f, -, hf⟩ := hs.filters.exists_left hf'
    refine ht.reports hes fun hk => ?_
    -- a condition without a table is not known under that of its selection: it fails at its table
    have hsa := hf.kept.at? "table"
    have hn := hes.ne_null hk
    rw [peek_eq_at? f', hsa] at hn ⊢
    cases hat : f.at? "table" with
    | none => exact absurd (by rw [hat]; rfl) hn
    | some t =>
      have hse := hf.settled
      rw [hat] at hse
      exact hse
  · obtain ⟨f, -, hf⟩ := h.globals.exists_left hf'
    exact ht.reports hes fun _ => hf.settled
  · obtain ⟨f, -, hf⟩ := (h.group_of_mem hf').having.exists_left hf'
    exact ht.reports hes fun _ => hf.settled

lemma groupIssues_report (hi : groupIssues plan' (.list entries) = .ok issues) :
    Reports (.list entries) (groupLookups plan') issues := by
  refine (groupIssues_told hi).reports fun k' hk' part ht => ?_
  obtain ⟨k, -, hk⟩ := (h.group_of_mem hk').keys.exists_left hk'
  exact ht.reports hes (RenamedOwn.settled hk)

end

/-! ### The number of changes -/

open Classical in
noncomputable def differs (key : String) (doc doc' : Value) : Nat := if doc'.peek key = doc.peek key then 0 else 1

def differAll (count : Value → Value → Nat) : List Value → List Value → Nat
  | x :: xs, y :: ys => count x y + differAll count xs ys
  | _, _ => 0

/-- How many fields differ in the documents of a list field. -/
def differAt (key : String) (count : Value → Value → Nat) (doc doc' : Value) : Nat :=
  differAll count (docsOf doc key) (docsOf doc' key)

noncomputable def selectionDiffers (s s' : Value) : Nat :=
  differAt "columns" (differs "column") s s' + differAt "filters" (differs "column") s s'

noncomputable def edgeDiffers (e e' : Value) : Nat := differs "from_column" e e' + differs "to_column" e e'

noncomputable def groupDiffers (group group' : Value) : Nat :=
  differAt "group_by_columns" (differs "column") group group' +
    (differAt "aggregates" (differs "column") group group' + differAt "having_filters" (differs "column") group group')

/-- How many of the fields that name a column differ between two plans. -/
noncomputable def planDiffers (plan plan' : Value) : Nat :=
  differAt "selections" selectionDiffers plan plan' + (differAt "join_edges" edgeDiffers plan plan' +
    (differAt "global_filters" (differs "column") plan plan' +
      (groupDiffers (plan.peek "group_by") (plan'.peek "group_by") + differAt "order_by" (differs "column") plan plan')))

def Counts (count : Value → Value → Nat) (step : Value → Attempt (Value × List String)) (doc : Value) : Prop :=
  ∀ {doc' notes}, step doc = .ok (doc', notes) → notes.length = count doc doc'

/-- Objects with the same values in some fields. -/
structure AgreeOn (keys : List String) (d d' : Value) : Prop where
  left : d.IsRecord
  right : d'.IsRecord
  same : ∀ k ∈ keys, d'.at? k = d.at? k

lemma agreeOn_refl {ks : List String} (h : d.IsRecord) : AgreeOn ks d d := ⟨h, h, fun _ _ => rfl⟩

/-- A step at some fields that notes its changes, whatever is in the others. -/
structure Noting (keys : List String) (count : Value → Value → Nat) (step : Value → Attempt (Value × List String))
    (doc : Value) : Prop where
  kept : ∀ {d d' ns}, step d = .ok (d', ns) → d.IsRecord ∧ Kept keys d d'
  reads : ∀ {a a' b b'}, AgreeOn keys a a' → AgreeOn keys b b' → count a' b' = count a b
  counts : ∀ {d}, AgreeOn keys doc d → Counts count step d

lemma Noting.andThen {ks : List String} {count count' : Value → Value → Nat}
    (hf : Noting ks count first doc)
    (hs : Noting ks' count' second doc) (hap : ∀ k ∈ ks, k ∉ ks') :
    Noting (ks ++ ks') (fun a b => count a b + count' a b) (andThen first second) doc := by
  have hl : ∀ {a b}, AgreeOn (ks ++ ks') a b → AgreeOn ks a b := fun h =>
    ⟨h.left, h.right, fun k hk => h.same k (mem_append_left _ hk)⟩
  have hr : ∀ {a b}, AgreeOn (ks ++ ks') a b → AgreeOn ks' a b := fun h =>
    ⟨h.left, h.right, fun k hk => h.same k (mem_append_right _ hk)⟩
  refine ⟨fun hst => ?_, fun ha hb => ?_, fun hd _ _ hst => ?_⟩
  · obtain ⟨_, _, _, hb, hc⟩ := andThen_ok hst
    exact ⟨(hf.kept hb).1, (hf.kept hb).2.trans (hs.kept hc).2⟩
  · rw [hf.reads (hl ha) (hl hb), hs.reads (hr ha) (hr hb)]
  · simp only [Plan.andThen, bind_ok, pure_ok, Prod.exists, Prod.mk.injEq] at hst
    obtain ⟨between, pre, hb, last, behind, hc, rfl, rfl⟩ := hst
    obtain ⟨hre, hke⟩ := hf.kept hb
    obtain ⟨-, hk'⟩ := hs.kept hc
    -- the first step leaves the fields of the second alone, and the second those of the first
    have hm : AgreeOn ks' _ between := ⟨hre, hke.record, fun k hk => hke.same k fun hin => hap k hin hk⟩
    have he : AgreeOn ks between last := ⟨hke.record, hk'.record, fun k hk => hk'.same k (hap k hk)⟩
    have hsr : AgreeOn ks' doc between :=
      ⟨hd.left, hke.record, fun k hk => (hm.same k hk).trans ((hr hd).same k hk)⟩
    rw [length_append, hf.counts (hl hd) hb, hs.counts hsr hc, hf.reads (agreeOn_refl hre) he,
      hs.reads hm (agreeOn_refl hk'.record)]

section

variable {count : Value → Value → Nat} {step : Value → Attempt (Value × List String)}

lemma length_notes (hr : Forall₂ (fun x r => step x = .ok r) docs results)
    (h : ∀ x ∈ docs, Counts count step x) : (results.flatMap (·.2)).length = differAll count docs (results.map (·.1)) := by
  induction hr with
  | nil => rfl
  | cons hx _ ih =>
    rw [flatMap_cons, length_append, map_cons, differAll, ih fun y hy => h y (mem_cons_of_mem _ hy),
      h _ mem_cons_self hx]

lemma counts_overItems (hl : ListAt doc key) (h : ∀ x ∈ docsOf doc key, Counts count step x) :
    Counts (differAt key count) (overItems key step) doc := by
  intro doc' notes hs
  obtain ⟨hr, field, xs, res, hf, hxs, hre, -⟩ := overItems_ok hs
  have hd : docsOf doc key = xs := docsOf_eq (by rw [itemsOf, hf]; exact hxs)
  rw [← hd] at hre
  rw [overItems_of_results hr hl (mapM_ok.2 hre)] at hs
  obtain ⟨rfl, rfl⟩ := Prod.mk.inj (Except.ok.inj hs)
  rw [length_notes hre h, differAt]
  cases hat : doc.at? key with
  | none =>
    rw [docsOf_eq (itemsOf_of_absent hr hat)]
    rfl
  | some v => rw [Option.isSome_some, if_pos rfl, docsOf_of_at? (hr.at?_self key _)]

lemma noting_overItems (hl : ListAt doc key) (h : ∀ x ∈ docsOf doc key, Counts count step x) :
    Noting [key] (differAt key count) (overItems key step) doc := by
  have hdo : ∀ {a b}, AgreeOn [key] a b → docsOf b key = docsOf a key := fun h =>
    docsOf_congr h.left h.right (h.same key mem_cons_self)
  refine ⟨overItems_kept, fun ha hb => ?_, fun hd => ?_⟩
  · rw [differAt, differAt, hdo ha, hdo hb]
  · refine counts_overItems (hl.congr (hd.same key mem_cons_self)) ?_
    rwa [hdo hd]

lemma counts_repairField : Counts (differs key) (repairField label schema t key) doc := by
  intro doc' notes h
  simp only [repairField, exists_get, bind_ok] at h
  obtain ⟨hr, fixed, hf, h⟩ := h
  cases fixed with
  | none =>
    cases h
    exact (if_pos rfl).symm
  | some new =>
    simp only [bind_ok, pure_ok, Prod.mk.injEq] at h
    obtain ⟨_, hs, rfl, rfl⟩ := h
    -- a new name needs no other, so it is not the old one
    have hne : new ≠ doc.peek key := by
      rintro rfl
      rw [repaired?_new hf] at hf
      cases hf
    rw [(setField_ok hs).2, differs, hr.peek_self, if_neg hne]
    rfl

lemma counts_repairOwn : Counts (differs "column") (repairOwn label schema) doc := by
  intro doc' notes h
  obtain ⟨_, -, h⟩ := bind_ok.1 h
  exact counts_repairField h

lemma counts_repairWithin : Counts (differs "column") (repairWithin label schema t) doc := by
  intro doc' notes h
  obtain ⟨_, -, h⟩ := bind_ok.1 h
  exact counts_repairField h

lemma counts_repairAggregate : Counts (differs "column") (repairAggregate schema) doc := by
  intro doc' notes h
  obtain ⟨_, -, h⟩ := bind_ok.1 h
  split at h
  · exact counts_repairOwn h
  · cases h
    exact (if_pos rfl).symm

lemma counts_repairEdge : Counts edgeDiffers (repairEdge schema) doc := by
  intro doc' notes h
  simp only [repairEdge, bind_ok, pure_ok, Prod.exists, Prod.mk.injEq] at h
  obtain ⟨_, -, between, _, hf, _, -, last, _, hs, rfl, rfl⟩ := h
  have hk := (repairField_relabels hf).2.1
  have hk' := (repairField_relabels hs).2.1
  rw [length_append, counts_repairField hf, counts_repairField hs, edgeDiffers, differs, differs, differs,
    differs, hk'.peek "from_column", hk.peek "to_column"]

lemma counts_repairSelection (hc : ListAt doc "columns") (hf : ListAt doc "filters") :
    Counts selectionDiffers (repairSelection schema) doc := by
  intro doc' notes h
  obtain ⟨tb, ht, h⟩ := bind_ok.1 h
  exact ((noting_overItems hc fun _ _ => counts_repairWithin).andThen
    (noting_overItems hf fun _ _ => counts_repairWithin) (by decide)).counts (agreeOn_refl (get_ok.1 ht).1) h

lemma counts_repairGroup (hr : doc.IsRecord) (hk : ListAt doc "group_by_columns") (ha : ListAt doc "aggregates")
    (hh : ListAt doc "having_filters") : Counts groupDiffers (repairGroup schema) doc :=
  ((noting_overItems hk fun _ _ => counts_repairOwn).andThen
    ((noting_overItems ha fun _ _ => counts_repairAggregate).andThen
      (noting_overItems hh fun _ _ => counts_repairOwn) (by decide)) (by decide)).counts (agreeOn_refl hr)

lemma noting_repairGrouping (hl : PlanLists plan) : Noting ["group_by"]
    (fun p p' => groupDiffers (p.peek "group_by") (p'.peek "group_by")) (repairGrouping schema) plan := by
  have hp : ∀ {a b}, AgreeOn ["group_by"] a b → b.peek "group_by" = a.peek "group_by" := fun h =>
    peek_congr (h.same _ mem_cons_self)
  refine ⟨fun hs => ⟨?_, (repairGrouping_ok hs).1⟩, fun ha hb => ?_, fun hd _ notes hs => ?_⟩
  · obtain ⟨_, hge, -⟩ := bind_ok.1 hs
    exact (get_ok.1 hge).1
  · rw [hp ha, hp hb]
  · simp only [repairGrouping, exists_get, bind_ok] at hs
    obtain ⟨hr, hs⟩ := hs
    rw [hp hd] at hs ⊢
    split at hs
    · simp only [bind_ok, pure_ok, Prod.exists, Prod.mk.injEq] at hs
      obtain ⟨grp, ns, hg, _, hse, rfl, rfl⟩ := hs
      rw [(setField_ok hse).2, hr.peek_self]
      obtain ⟨_, _, _, hf, -⟩ := andThen_ok hg
      exact counts_repairGroup (overItems_kept hf).1 hl.keys hl.aggregates hl.having hg
    case isFalse hfa =>
      cases hs
      simp [groupDiffers, differAt, docsOf_of_falsy (v := plan.peek "group_by") (by simpa using hfa), differAll]

lemma counts_repairColumns (hr : plan.IsRecord) (hl : PlanLists plan) :
    Counts planDiffers (repairColumns schema) plan :=
  ((noting_overItems hl.selections fun s hs => counts_repairSelection (hl.columns s hs) (hl.filters s hs)).andThen
    ((noting_overItems hl.edges fun _ _ => counts_repairEdge).andThen
      ((noting_overItems hl.globals fun _ _ => counts_repairOwn).andThen ((noting_repairGrouping hl).andThen
        (noting_overItems hl.orders fun _ _ => counts_repairOwn) (by decide)) (by decide)) (by decide))
    (by decide)).counts (agreeOn_refl hr)

end

/-- After the repair of a plan's columns the checks that consult the schema report missing tables, and of the columns
only those to which none of their table is close. Only fields that name a column have changed, each new name is that of a
column of the same table, and there are as many notes as there are fields that changed. -/
theorem repaired_columns_settle (hlists : PlanLists plan) (hentries : Tidy entries)
    (h : repairColumns (.list entries) plan = .ok (plan', notes)) :
    (∀ check ∈ [(selectionIssues, selectionLookups), (joinIssues, joinLookups), (filterIssues, filterLookups),
        (groupIssues, groupLookups)], ∀ issues, check.1 plan' (.list entries) = .ok issues →
      Reports (.list entries) (check.2 plan') issues) ∧
    Relabelled (.list entries) plan plan' ∧
    (∀ t c new, repaired? t c (.list entries) = .ok (some new) → columnExists t new (.list entries) = .ok true) ∧
    notes.length = planDiffers plan plan' := by
  have hr := repairColumns_relabelled hlists h
  refine ⟨?_, hr, fun t c new hn => ?_, counts_repairColumns (repairColumns_steps h).record hlists h⟩
  · simp only [forall_mem_cons, not_mem_nil, false_imp_iff, implies_true, and_true]
    exact ⟨fun _ => selectionIssues_report hentries hr, fun _ => joinIssues_report hentries hr,
      fun _ => filterIssues_report hentries hr, fun _ => groupIssues_report hentries hr⟩
  · obtain ⟨-, -, e, cols, he, hc, hin⟩ := repaired?_ok hn
    simp only [columnExists, he, hc, ok_bind, hin]
    rfl

lemma orderSchema_tidy (h : orderSchema = .list entries) : Tidy entries where
  columns := orderSchema_named h
  names := by
    cases h
    decide +kernel
  distinct := by
    cases h
    exact nodup_singleton _

/-- The region of an order and a column that its table does not have. -/
def zipPlan (region : String) : Value := .record [("selections", .list [.record [("table", "Orders"),
  ("columns", .list [orderColumn region [], orderColumn "Zip" []])]])]

/-- One field changes, and what is left to say is about the other column. -/
theorem repaired_columns_settle_zip :
    repairColumns orderSchema (zipPlan "region") =
      .ok (zipPlan "Region", ["Selection column: Orders.region → Orders.Region"]) ∧
    planDiffers (zipPlan "region") (zipPlan "Region") = 1 ∧ Reports orderSchema (selectionLookups (zipPlan "Region"))
      ["Column 'Zip' does not exist in table 'Orders'. Check schema for correct column name."] := by
  have hl : PlanLists (zipPlan "region") := by decide +kernel
  have hr : repairColumns orderSchema (zipPlan "region") =
      .ok (zipPlan "Region", ["Selection column: Orders.region → Orders.Region"]) := rfl
  obtain ⟨hi, -, -, hc⟩ := repaired_columns_settle hl (orderSchema_tidy rfl) hr
  exact ⟨hr, hc.symm, hi (selectionIssues, selectionLookups) mem_cons_self _ (by decide +kernel)⟩

end QueryDesk.Plan
