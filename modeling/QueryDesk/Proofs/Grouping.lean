import QueryDesk.Plan.Repair
import QueryDesk.Proofs.Names
import QueryDesk.Proofs.Renaming

/-!
Grouping. A statement with aggregates may show a column only if it groups by it, and may restrict groups
only by what is grouped or aggregated. The repair of a plan brings this about before columns get their new
names; since the same column gets the same name everywhere, it still holds afterwards.
-/

namespace QueryDesk.Plan

open Attempt Desk Value Sql List Value

variable {doc plan : Value} {pairs shown : List Value}

/-! ### Naming the same column -/

def IsPlain (v : Value) : Prop := v = .null ∨ ∃ s, v = .text s

/-- A document that names a table and a column by texts, or not at all. -/
def Named (doc : Value) : Prop := IsPlain (doc.peek "table") ∧ IsPlain (doc.peek "column")

instance (v : Value) : Decidable (IsPlain v) :=
  decidable_of_iff (v.isNull ∨ IsText v) (or_congr_left (by cases v <;> simp [isNull]))

instance (doc : Value) : Decidable (Named doc) := instDecidableAnd

/-- Two documents name the same column of the same table. -/
def SameColumn (d e : Value) : Prop := d.peek "table" = e.peek "table" ∧ d.peek "column" = e.peek "column"

def pairOf (doc : Value) : Value := .tuple [doc.peek "table", doc.peek "column"]

lemma beq_plain_iff (hv : IsPlain v) (hw : IsPlain w) : (v == w) = true ↔ v = w := by
  rcases hv with rfl | ⟨a, rfl⟩
  · show same .null w = true ↔ _
    rw [same]
    cases w <;> simp [isNull]
  · rw [beq_text, beq_iff_eq]
    rcases hw with rfl | ⟨b, rfl⟩
    · simp [text?]
    · simp [text?, eq_comm]

lemma pairOf_beq_iff (hd : Named d) (he : Named e) :
    (pairOf d == pairOf e) = true ↔ SameColumn d e := by
  show sameItems [_, _] [_, _] = true ↔ _
  simp only [sameItems, Bool.and_true, Bool.and_eq_true]
  exact and_congr (beq_plain_iff hd.1 he.1) (beq_plain_iff hd.2 he.2)

lemma namedPair_ok {pair : Value} (h : namedPair doc = .ok pair) : doc.IsRecord ∧ pair = pairOf doc ∧
    (doc.at? "table").isSome = true ∧ (doc.at? "column").isSome = true := by
  simp only [namedPair, bind_ok] at h
  obtain ⟨tb, ht, col, hc, hp⟩ := h
  rw [field_ok] at ht hc
  rw [← hashable_ok hp, pairOf, peek_eq_at?, peek_eq_at?, ht, hc]
  refine ⟨?_, rfl, rfl, rfl⟩
  cases doc with
  | record fs => exact ⟨fs, rfl⟩
  | _ => cases ht

lemma parted_eq_filter {p : Value → Bool}
    (ht : ∀ x ∈ xs, ∀ b, test x = .ok b → b = p x) (h : parted test xs = .ok (yes, no)) :
    yes = xs.filter p ∧ no = xs.filter (!p ·) := by
  simp only [parted, bind_ok, pure_ok, Prod.mk.injEq] at h
  obtain ⟨marked, hma, rfl, rfl⟩ := h
  have ha : marked = xs.map fun x => (x, p x) := by
    refine eq_map_of_mapM hma fun x hx m hm => ?_
    obtain ⟨b, hb, hm⟩ := bind_ok.1 hm
    rw [← ht x hx b hb]
    exact (pure_ok.1 hm).symm
  rw [ha]
  simp [filter_map, Function.comp_def]

lemma namedPairs_eq {docs : List Value} (h : docs.mapM namedPair = .ok pairs) : pairs = docs.map pairOf :=
  eq_map_of_mapM h fun _ _ _ hp => (namedPair_ok hp).2.1

/-! ### The columns that a plan shows -/

def isProjected (c : Value) : Bool := c.peek "role" == .text "projection"

def isJoinOnly (s : Value) : Bool := (s.peek "include_only_for_join").truthy

def projectionsIn (s : Value) : List Value := if isJoinOnly s then [] else (docsOf s "columns").filter isProjected

/-- The columns that a plan projects, in the tables that are shown. -/
def projections (plan : Value) : List Value := (docsOf plan "selections").flatMap projectionsIn

def namesOf (doc : Value) : Value := .record [("table", doc.peek "table"), ("column", doc.peek "column")]

def Projectable (c : Value) : Prop :=
  c.IsRecord ∧ (isProjected c = true → (c.at? "table").isSome = true ∧ (c.at? "column").isSome = true)

/-- A table whose columns have their names, if it is shown. -/
def Showable (s : Value) : Prop :=
  s.IsRecord ∧ (isJoinOnly s = false → ∀ c ∈ docsOf s "columns", Projectable c)

lemma namesIn_ok {ns : Value} : namesIn c = .ok ns ↔
    ((c.at? "table").isSome = true ∧ (c.at? "column").isSome = true) ∧ ns = namesOf c := by
  simp only [namesIn, bind_ok, pure_ok, field_ok, Option.isSome_iff_exists, namesOf, peek_eq_at?]
  constructor
  · rintro ⟨tb, ht, col, hc, rfl⟩
    exact ⟨⟨⟨tb, ht⟩, col, hc⟩, by rw [ht, hc]; rfl⟩
  · rintro ⟨⟨⟨tb, ht⟩, col, hc⟩, rfl⟩
    exact ⟨tb, ht, col, hc, by rw [ht, hc]; rfl⟩

lemma projectedColumn_of_isRecord (h : c.IsRecord) :
    projectedColumn c = if isProjected c then do return [← namesIn c] else pure [] := by
  unfold projectedColumn
  rw [h.get, ← peek_eq_at?]
  rfl

lemma projectedColumn_ok : projectedColumn c = .ok shown ↔
    Projectable c ∧ shown = if isProjected c then [namesOf c] else [] := by
  by_cases hr : c.IsRecord
  · rw [projectedColumn_of_isRecord hr]
    by_cases hp : isProjected c = true
    · simp only [hp, if_true, bind_ok, pure_ok, namesIn_ok, Projectable, hr, true_and, forall_const]
      constructor
      · rintro ⟨_, ⟨hpr, rfl⟩, rfl⟩
        exact ⟨hpr, rfl⟩
      · rintro ⟨hpr, rfl⟩
        exact ⟨_, ⟨hpr, rfl⟩, rfl⟩
    · have ha : Projectable c := ⟨hr, fun h => absurd h hp⟩
      rw [if_neg hp, if_neg hp, pure_ok]
      exact ⟨fun h => ⟨ha, h.symm⟩, fun h => h.2.symm⟩
  · constructor
    · intro h
      simp only [projectedColumn, bind_ok, get_ok] at h
      obtain ⟨_, ⟨hc, -⟩, -⟩ := h
      exact absurd hc hr
    · exact fun h => absurd h.1.1 hr

lemma flatten_projected (cs : List Value) :
    (cs.map fun c => if isProjected c then [namesOf c] else []).flatten = (cs.filter isProjected).map namesOf := by
  induction cs with
  | nil => rfl
  | cons c cs ih =>
    rw [map_cons, flatten_cons, ih, filter_cons]
    by_cases hp : isProjected c = true <;> simp [hp]

lemma projectedIn_of_isRecord (h : s.IsRecord) : projectedIn s =
    if isJoinOnly s then pure [] else do return (← (← itemsOf s "columns").mapM projectedColumn).flatten := by
  unfold projectedIn
  rw [h.get, ← peek_eq_at?]
  rfl

lemma projectedIn_ok (h : projectedIn s = .ok shown) : Showable s ∧ shown = (projectionsIn s).map namesOf := by
  have hr : s.IsRecord := by
    simp only [projectedIn, bind_ok, get_ok] at h
    obtain ⟨_, ⟨hr, -⟩, -⟩ := h
    exact hr
  rw [projectedIn_of_isRecord hr] at h
  by_cases hj : isJoinOnly s = true
  · rw [if_pos hj, pure_ok] at h
    refine ⟨⟨hr, by simp [hj]⟩, ?_⟩
    rw [← h, projectionsIn, if_pos hj]
    rfl
  · rw [if_neg hj] at h
    simp only [bind_ok, pure_ok] at h
    obtain ⟨cs, hcs, parts, hpa, rfl⟩ := h
    refine ⟨⟨hr, fun _ c hc => ?_⟩, ?_⟩
    · rw [docsOf_eq hcs] at hc
      obtain ⟨part, -, hp⟩ := (mapM_ok.1 hpa).exists_right hc
      exact (projectedColumn_ok.1 hp).1
    · rw [eq_map_of_mapM hpa fun c _ part hp => (projectedColumn_ok.1 hp).2,
        flatten_projected, projectionsIn, if_neg hj, docsOf_eq hcs]

lemma projectedIn_of_showable (hl : ListAt s "columns") (h : Showable s) :
    projectedIn s = .ok ((projectionsIn s).map namesOf) := by
  obtain ⟨hr, hco⟩ := h
  rw [projectedIn_of_isRecord hr]
  by_cases hj : isJoinOnly s = true
  · rw [if_pos hj, projectionsIn, if_pos hj]
    rfl
  · have hp : (docsOf s "columns").mapM projectedColumn = .ok _ := mapM_eq_map fun c hc =>
      projectedColumn_ok.2 ⟨hco (by simpa using hj) c hc, rfl⟩
    rw [if_neg hj, itemsOf_of_listAt hr hl, ok_bind, hp, ok_bind, flatten_projected, projectionsIn, if_neg hj]
    rfl

lemma projectedColumns_ok (h : projectedColumns plan = .ok shown) :
    (∀ s ∈ docsOf plan "selections", Showable s) ∧ shown = (projections plan).map namesOf := by
  simp only [projectedColumns, bind_ok, pure_ok] at h
  obtain ⟨docs, hd, parts, hpa, rfl⟩ := h
  rw [projections, docsOf_eq hd]
  constructor
  · intro s hs
    obtain ⟨part, -, hp⟩ := (mapM_ok.1 hpa).exists_right hs
    exact (projectedIn_ok hp).1
  · rw [eq_map_of_mapM hpa fun s _ part hp => (projectedIn_ok hp).2, map_flatMap, flatMap_def]

lemma projectedColumns_of_showable (hr : plan.IsRecord) (hl : ListAt plan "selections")
    (h : ∀ s ∈ docsOf plan "selections", ListAt s "columns" ∧ Showable s) :
    projectedColumns plan = .ok ((projections plan).map namesOf) := by
  have hp : (docsOf plan "selections").mapM projectedIn = .ok _ := mapM_eq_map fun s hs =>
    projectedIn_of_showable (h s hs).1 (h s hs).2
  rw [projectedColumns, itemsOf_of_listAt hr hl, ok_bind, hp, ok_bind, projections, map_flatMap, flatMap_def]
  rfl

/-! ### Completing the grouping -/

/-- A plan as the planner gives it: lists are lists, and tables and columns have texts as names. -/
@[mk_iff]
structure Formed (plan : Value) : Prop extends ListFields plan where
  columnNames : ∀ s ∈ docsOf plan "selections", ∀ c ∈ docsOf s "columns", Named c
  keyNames : ∀ k ∈ docsOf (plan.peek "group_by") "group_by_columns", Named k
  aggregateNames : ∀ a ∈ docsOf (plan.peek "group_by") "aggregates", Named a
  havingNames : ∀ f ∈ docsOf (plan.peek "group_by") "having_filters", Named f

instance (plan : Value) : Decidable (Formed plan) := decidable_of_iff' _ (formed_iff plan)

lemma Formed.projections (h : Formed plan) : ∀ c ∈ projections plan, Named c := by
  intro c hc
  obtain ⟨s, hs, hc⟩ := mem_flatMap.1 hc
  unfold projectionsIn at hc
  split at hc
  · simp at hc
  · exact h.columnNames s hs c (mem_of_mem_filter hc)

lemma projections_congr (h : docsOf plan' "selections" = docsOf plan "selections") :
    projections plan' = projections plan := by
  rw [projections, projections, h]

/-- What completing the grouping does: a plan with aggregates is given the keys that it lacks. -/
structure Completed (plan plan' : Value) : Prop where
  kept : Kept ["group_by"] plan plan'
  group : Kept ["group_by_columns"] (plan.peek "group_by") (plan'.peek "group_by")
  list : ListAt (plan'.peek "group_by") "group_by_columns"
  showable : ∀ s ∈ docsOf plan "selections", Showable s
  named : ∀ k ∈ docsOf (plan'.peek "group_by") "group_by_columns", (k.at? "table").isSome = true ∧
    (k.at? "column").isSome = true ∧ Named k
  complete : ∀ c ∈ projections plan, ∃ k ∈ docsOf (plan'.peek "group_by") "group_by_columns", SameColumn k c

/-- A list that is not empty counts as true, and so does the document that holds it. -/
lemma truthy_of_docs (hl : ListAt doc key) (h : docsOf doc key ≠ []) :
    doc.IsRecord ∧ doc.truthy = true ∧ (doc.peek key).truthy = true := by
  have ht : doc.truthy = true := by
    by_contra hfa
    exact h (docsOf_of_falsy (by simpa using hfa))
  have hr : doc.IsRecord := by
    cases doc with
    | record fs => exact ⟨fs, rfl⟩
    | _ => exact absurd rfl h
  refine ⟨hr, ht, ?_⟩
  cases hf : doc.at? key with
  | none => exact absurd (docsOf_eq (itemsOf_of_absent hr hf)) h
  | some v =>
    obtain ⟨xs, rfl⟩ := hl v hf
    rw [docsOf_of_at? hf] at h
    rw [peek_eq_at?, hf]
    simpa [truthy] using h

lemma getD_of_listAt (hr : doc.IsRecord) (hl : ListAt doc key) :
    doc.getD key (.list []) = .ok (.list (docsOf doc key)) := by
  rw [hr.getD]
  cases hf : doc.at? key with
  | none => rw [docsOf_eq (itemsOf_of_absent hr hf)]; rfl
  | some v =>
    obtain ⟨xs, rfl⟩ := hl v hf
    rw [docsOf_of_at? hf]
    rfl

lemma appended_list (xs news : List Value) : appended (.list xs) news = .ok (.list (xs ++ news)) := by
  unfold appended
  split
  case isTrue he => rw [isEmpty_iff.1 he, append_nil]
  case isFalse => rfl

/-- Completing the grouping puts the projected columns that are no keys behind the keys. -/
lemma completeGrouping_ok (hl : ListFields plan)
    (hag : docsOf (plan.peek "group_by") "aggregates" ≠ []) (h : completeGrouping plan = .ok plan') :
    plan.IsRecord ∧ (∀ s ∈ docsOf plan "selections", Showable s) ∧
      (∀ k ∈ docsOf (plan.peek "group_by") "group_by_columns", ∃ pair, namedPair k = .ok pair) ∧
      ∃ missing, (∀ m ∈ missing, ∃ c ∈ projections plan, m = namesOf c) ∧ (∀ c ∈ projections plan, namesOf c ∈ missing ∨
          ∃ k ∈ docsOf (plan.peek "group_by") "group_by_columns", (pairOf k == pairOf c) = true) ∧
        Kept ["group_by"] plan plan' ∧ Kept ["group_by_columns"] (plan.peek "group_by") (plan'.peek "group_by") ∧
        (plan'.peek "group_by").at? "group_by_columns" =
          some (.list (docsOf (plan.peek "group_by") "group_by_columns" ++ missing)) := by
  obtain ⟨hg, ht, hso⟩ := truthy_of_docs hl.aggregates hag
  simp only [completeGrouping, exists_get, bind_ok] at h
  obtain ⟨hr, h⟩ := h
  rw [ht, Bool.not_true, if_neg (by simp)] at h
  simp only [bind_ok] at h
  obtain ⟨_, hge', h⟩ := h
  obtain ⟨-, rfl⟩ := get_ok.1 hge'
  rw [hso, Bool.not_true, if_neg (by simp)] at h
  simp only [bind_ok, Prod.exists] at h
  obtain ⟨shown, hsh, keys, hke, ks, hks, kn, hkn, yes, missing, hpa, ks', hk', grp', hg',
    hp'⟩ := h
  rw [getD_of_listAt hg hl.keys] at hke
  cases hke
  cases hks
  rw [appended_list] at hk'
  cases hk'
  obtain ⟨-, rfl⟩ := setField_ok hg'
  obtain ⟨-, rfl⟩ := setField_ok hp'
  obtain ⟨hs, rfl⟩ := projectedColumns_ok hsh
  have hte : ∀ c ∈ (projections plan).map namesOf, ∀ b,
      (do return kn.any (· == (← namedPair c))) = Except.ok b → b = kn.any (· == pairOf c) := by
    intro c _ b hb
    obtain ⟨pair, hp, hb⟩ := bind_ok.1 hb
    rw [← (namedPair_ok hp).2.1]
    exact (pure_ok.1 hb).symm
  obtain ⟨-, hmi⟩ := parted_eq_filter hte hpa
  refine ⟨hr, hs, fun k hk => ?_, missing, fun m hm => ?_, fun c hc => ?_, hr.kept_self _ _, ?_⟩
  · obtain ⟨pair, -, hp⟩ := (mapM_ok.1 hkn).exists_right hk
    exact ⟨pair, hp⟩
  · rw [hmi] at hm
    obtain ⟨c, hc, rfl⟩ := mem_map.1 (mem_of_mem_filter hm)
    exact ⟨c, hc, rfl⟩
  · rw [hmi]
    cases ha : kn.any (· == pairOf (namesOf c)) with
    | false => exact .inl (mem_filter.2 ⟨mem_map_of_mem hc, by rw [ha]; rfl⟩)
    | true =>
      obtain ⟨pair, hp, hbe⟩ := any_eq_true.1 ha
      rw [namedPairs_eq hkn] at hp
      obtain ⟨k, hk, rfl⟩ := mem_map.1 hp
      exact .inr ⟨k, hk, hbe⟩
  · rw [hr.peek_self]
    exact ⟨hg.kept_self _ _, hg.at?_self _ _⟩

lemma completeGrouping_completed (hf : Formed plan)
    (ha : docsOf (plan.peek "group_by") "aggregates" ≠ []) (h : completeGrouping plan = .ok plan') :
    Completed plan plan' := by
  obtain ⟨-, hs, hke, missing, hm, hco, hkt, hg, hfi⟩ :=
    completeGrouping_ok hf.toListFields ha h
  refine ⟨hkt, hg, listAt_of_at? hfi, hs, fun k hk => ?_, fun c hc => ?_⟩
  · rw [docsOf_of_at? hfi] at hk
    rcases mem_append.1 hk with hk | hk
    · obtain ⟨pair, hp⟩ := hke k hk
      obtain ⟨-, -, ht, hcl⟩ := namedPair_ok hp
      exact ⟨ht, hcl, hf.keyNames k hk⟩
    · obtain ⟨c, hc, rfl⟩ := hm k hk
      exact ⟨rfl, rfl, hf.projections c hc⟩
  · rw [docsOf_of_at? hfi]
    rcases hco c hc with hin | ⟨k, hk, hsa⟩
    · exact ⟨namesOf c, mem_append_right _ hin, rfl, rfl⟩
    · exact ⟨k, mem_append_left _ hk, (pairOf_beq_iff (hf.keyNames k hk) (hf.projections c hc)).1 hsa⟩

/-! ### Conditions on groups -/

/-- A condition speaks of a key or of an aggregated column of a group. -/
def OnGroup (group f : Value) : Prop :=
  (∃ k ∈ docsOf group "group_by_columns", SameColumn k f) ∨
    ∃ a ∈ docsOf group "aggregates", (a.peek "column").truthy = true ∧ SameColumn a f

/-- What moving conditions does: what is left speaks of the group, and what is moved goes behind the other
conditions on rows. -/
structure Moved (plan plan' : Value) : Prop where
  kept : Kept ["global_filters", "group_by"] plan plan'
  group : Kept ["having_filters"] (plan.peek "group_by") (plan'.peek "group_by")
  globalsList : ListAt plan' "global_filters"
  havingList : ListAt (plan'.peek "group_by") "having_filters"
  onGroup : ∀ f ∈ docsOf (plan'.peek "group_by") "having_filters", OnGroup (plan'.peek "group_by") f
  filters : (docsOf plan' "global_filters" ++ docsOf (plan'.peek "group_by") "having_filters").Perm
    (docsOf plan "global_filters" ++ docsOf (plan.peek "group_by") "having_filters")

def aggregatedPairs (group : Value) : List Value :=
  ((docsOf group "aggregates").map fun a => if (a.peek "column").truthy then [pairOf a] else []).flatten

lemma mem_aggregatedPairs : p ∈ aggregatedPairs grp ↔
    ∃ a ∈ docsOf grp "aggregates", (a.peek "column").truthy = true ∧ p = pairOf a := by
  simp only [aggregatedPairs, mem_flatten, mem_map, exists_exists_and_eq_and]
  refine exists_congr fun a => and_congr_right fun _ => ?_
  split
  case isTrue hc => simp [hc]
  case isFalse hc => simp [hc]

lemma aggregatedColumns_ok (h : aggregatedColumns grp = .ok pairs) : pairs = aggregatedPairs grp ∧
      ∀ a ∈ docsOf grp "aggregates", (a.peek "column").truthy = true → ∃ pair, namedPair a = .ok pair := by
  simp only [aggregatedColumns, bind_ok, pure_ok] at h
  obtain ⟨docs, hd, parts, hps, rfl⟩ := h
  rw [aggregatedPairs, docsOf_eq hd]
  constructor
  · congr 1
    refine eq_map_of_mapM hps fun a _ part hp => ?_
    simp only [bind_ok, exists_get] at hp
    obtain ⟨-, hp⟩ := hp
    split at hp
    case isTrue hc =>
      obtain ⟨pair, hpa, hp⟩ := bind_ok.1 hp
      rw [if_pos hc, ← (namedPair_ok hpa).2.1]
      exact (pure_ok.1 hp).symm
    case isFalse hc =>
      rw [if_neg hc]
      exact (pure_ok.1 hp).symm
  · intro a ha hc
    obtain ⟨part, -, hp⟩ := (mapM_ok.1 hps).exists_right ha
    simp only [bind_ok, exists_get] at hp
    obtain ⟨-, hp⟩ := hp
    rw [if_pos hc] at hp
    obtain ⟨pair, hpa, -⟩ := bind_ok.1 hp
    exact ⟨pair, hpa⟩

/-- Whether a condition names a key or an aggregated column of a group. -/
def speaksOfGroup (group f : Value) : Bool :=
  ((docsOf group "group_by_columns").map pairOf ++ aggregatedPairs group).any (· == pairOf f)

def staying (plan : Value) : List Value :=
  (docsOf (plan.peek "group_by") "having_filters").filter (speaksOfGroup (plan.peek "group_by"))

def leaving (plan : Value) : List Value :=
  (docsOf (plan.peek "group_by") "having_filters").filter (!speaksOfGroup (plan.peek "group_by") ·)

lemma speaksOf_ok (h : speaksOf pairs f = .ok b) : b = pairs.any (· == pairOf f) := by
  simp only [speaksOf, bind_ok, exists_get, pure_ok] at h
  obtain ⟨-, -, pair, hp, rfl⟩ := h
  rw [← hashable_ok hp, pairOf]

/-- The conditions on the groups of a plan were looked at: the columns of the group are named, and the conditions that
do not speak of them, if there are any, were moved behind those on rows. -/
structure Parted (plan plan' : Value) : Prop where
  group : (plan.peek "group_by").IsRecord
  keys : ∀ k ∈ docsOf (plan.peek "group_by") "group_by_columns", ∃ pair, namedPair k = .ok pair
  aggregates : ∀ a ∈ docsOf (plan.peek "group_by") "aggregates", (a.peek "column").truthy = true →
    ∃ pair, namedPair a = .ok pair
  outcome : leaving plan = [] ∧ plan' = plan ∨ ∃ globals,
    extended "extend" ((plan.at? "global_filters").getD (.list [])) (leaving plan) = .ok globals ∧
    plan' = (plan.update [("global_filters", globals)]).update
      [("group_by", (plan.peek "group_by").update [("having_filters", .list (staying plan))])]

lemma moveHaving_cases (h : moveHaving plan = .ok plan') : plan.IsRecord ∧
    ((plan.peek "group_by").truthy = false ∧ plan' = plan ∨
      (plan.peek "group_by").IsRecord ∧ ((plan.peek "group_by").peek "having_filters").truthy = false ∧ plan' = plan ∨
      Parted plan plan') := by
  simp only [moveHaving, exists_get, bind_ok] at h
  obtain ⟨hr, h⟩ := h
  refine ⟨hr, ?_⟩
  split at h
  case isTrue hf => exact .inl ⟨by simpa using hf, (pure_ok.1 h).symm⟩
  case isFalse =>
    simp only [bind_ok] at h
    obtain ⟨_, hge', h⟩ := h
    obtain ⟨hg, rfl⟩ := get_ok.1 hge'
    split at h
    case isTrue hn => exact .inr (.inl ⟨hg, by simpa using hn, (pure_ok.1 h).symm⟩)
    case isFalse =>
      simp only [bind_ok, Prod.exists] at h
      obtain ⟨ks, hks, keys, hke, aggregated, ha, filters, hfi, kept, moved, hp, h⟩ := h
      rw [← docsOf_eq hks] at hke
      rw [← docsOf_eq hfi] at hp
      obtain ⟨rfl, hag⟩ := aggregatedColumns_ok ha
      obtain rfl := namedPairs_eq hke
      obtain ⟨rfl, rfl⟩ := parted_eq_filter (fun f _ b hb => speaksOf_ok hb) hp
      refine .inr (.inr ⟨hg, fun k hk => ?_, hag, ?_⟩)
      · obtain ⟨pair, -, hpa⟩ := (mapM_ok.1 hke).exists_right hk
        exact ⟨pair, hpa⟩
      · split at h
        case isTrue he => exact .inl ⟨isEmpty_iff.1 he, (pure_ok.1 h).symm⟩
        case isFalse =>
          simp only [bind_ok, hr.getD] at h
          obtain ⟨_, ho, globals, hgl, between, hbe, grp', hg', hp'⟩ := h
          cases ho
          obtain ⟨-, rfl⟩ := setField_ok hbe
          obtain ⟨-, rfl⟩ := setField_ok hg'
          exact .inr ⟨globals, hgl, (setField_ok hp').2⟩

lemma Parted.kept (h : Parted plan plan') (hr : plan.IsRecord) : Kept ["global_filters", "group_by"] plan plan' ∧
      Kept ["having_filters"] (plan.peek "group_by") (plan'.peek "group_by") := by
  rcases h.outcome with ⟨-, rfl⟩ | ⟨globals, -, rfl⟩
  · exact ⟨kept_refl hr, kept_refl h.group⟩
  · have hg := hr.kept_self "global_filters" globals
    rw [hg.record.peek_self]
    exact ⟨hg.trans (hg.record.kept_self _ _), h.group.kept_self _ _⟩

lemma moveHaving_kept (h : moveHaving plan = .ok plan') : Kept ["global_filters", "group_by"] plan plan' := by
  obtain ⟨hr, ⟨-, rfl⟩ | ⟨-, -, rfl⟩ | hp⟩ := moveHaving_cases h
  · exact kept_refl hr
  · exact kept_refl hr
  · exact (hp.kept hr).1

/-- The keys, aggregates and conditions of a group name their columns by texts. -/
structure GroupNamed (group : Value) : Prop where
  keys : ∀ k ∈ docsOf group "group_by_columns", Named k
  aggregates : ∀ a ∈ docsOf group "aggregates", Named a
  having : ∀ f ∈ docsOf group "having_filters", Named f

lemma moveHaving_ok (hl : ListFields plan)
    (ht : (plan.peek "group_by").truthy = true) (h : moveHaving plan = .ok plan') :
    plan.IsRecord ∧ (plan.peek "group_by").IsRecord ∧
      (leaving plan = [] ∧ plan' = plan ∨ Kept ["global_filters", "group_by"] plan plan' ∧
        plan'.at? "global_filters" = some (.list (docsOf plan "global_filters" ++ leaving plan)) ∧
        plan'.peek "group_by" = (plan.peek "group_by").update [("having_filters", .list (staying plan))]) := by
  obtain ⟨hr, ⟨hf, -⟩ | ⟨hgr, hn, rfl⟩ | hp⟩ := moveHaving_cases h
  · rw [ht] at hf
    cases hf
  · have he : docsOf (plan'.peek "group_by") "having_filters" = [] := by
      by_contra hs
      rw [(truthy_of_docs hl.having hs).2.2] at hn
      cases hn
    exact ⟨hr, hgr, .inl ⟨by rw [leaving, he, filter_nil], rfl⟩⟩
  · refine ⟨hr, hp.group, ?_⟩
    have hk := (hp.kept hr).1
    rcases hp.outcome with hn | ⟨globals, hg, rfl⟩
    · exact .inl hn
    · have ho := getD_of_listAt hr hl.globals
      rw [hr.getD, Except.ok.injEq] at ho
      rw [ho] at hg
      cases hg
      have hb := hr.kept_self "global_filters" (.list (docsOf plan "global_filters" ++ leaving plan))
      refine .inr ⟨hk, ?_, hb.record.peek_self _ _⟩
      rw [(hb.record.kept_self _ _).at? _, hr.at?_self]

lemma onGroup_of_speaksOfGroup (hn : GroupNamed group)
    (hf : f ∈ docsOf group "having_filters") (h : speaksOfGroup group f = true) : OnGroup group f := by
  obtain ⟨p, hp, hb⟩ := any_eq_true.1 h
  rcases mem_append.1 hp with hp | hp
  · obtain ⟨k, hk, rfl⟩ := mem_map.1 hp
    exact .inl ⟨k, hk, (pairOf_beq_iff (hn.keys k hk) (hn.having f hf)).1 hb⟩
  · obtain ⟨a, ha, hc, rfl⟩ := mem_aggregatedPairs.1 hp
    exact .inr ⟨a, ha, hc, (pairOf_beq_iff (hn.aggregates a ha) (hn.having f hf)).1 hb⟩

lemma OnGroup.congr (h : OnGroup group f)
    (hk : docsOf group' "group_by_columns" = docsOf group "group_by_columns")
    (ha : docsOf group' "aggregates" = docsOf group "aggregates") : OnGroup group' f := by
  unfold OnGroup
  rw [hk, ha]
  exact h

lemma moveHaving_moved (hl : ListFields plan)
    (hn : GroupNamed (plan.peek "group_by")) (ht : (plan.peek "group_by").truthy = true)
    (h : moveHaving plan = .ok plan') : Moved plan plan' := by
  have hp : (staying plan ++ leaving plan).Perm (docsOf (plan.peek "group_by") "having_filters") :=
    filter_append_perm _ _
  have honGroup : ∀ f ∈ staying plan, OnGroup (plan.peek "group_by") f := fun f hf =>
    onGroup_of_speaksOfGroup hn (mem_of_mem_filter hf) (of_mem_filter hf)
  obtain ⟨hr, hg, ⟨hno, rfl⟩ | ⟨hk, hgl, hpe⟩⟩ := moveHaving_ok hl ht h
  · rw [hno, append_nil] at hp
    exact ⟨kept_refl hr, kept_refl hg, hl.globals, hl.having,
      fun f hf => honGroup f (hp.mem_iff.2 hf), .refl _⟩
  · have hg' : Kept ["having_filters"] (plan.peek "group_by") (plan'.peek "group_by") := by
      rw [hpe]
      exact hg.kept_self _ _
    have hh : (plan'.peek "group_by").at? "having_filters" = some (.list (staying plan)) := by
      rw [hpe, hg.at?_self]
    refine ⟨hk, hg', listAt_of_at? hgl, listAt_of_at? hh, ?_, ?_⟩
    · intro f hf
      rw [docsOf_of_at? hh] at hf
      exact (honGroup f hf).congr (docsOf_congr hg hg'.record (hg'.at? _))
        (docsOf_congr hg hg'.record (hg'.at? _))
    · rw [docsOf_of_at? hgl, docsOf_of_at? hh, append_assoc]
      exact (perm_append_comm.trans hp).append_left _

end QueryDesk.Plan
