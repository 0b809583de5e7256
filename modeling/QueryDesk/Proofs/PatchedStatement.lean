import QueryDesk.Proofs.PatchSequence

/-!
What a patch does to the select list of the statement. Patches and statements do not agree on what a plan shows.
With groups the select list does not follow the selections at all, so no patch changes it. Without groups an added
column is selected, but a removed one comes back if a filter names it in other letters, and if nothing is left to
select, everything is.
-/

namespace QueryDesk.Plan

open Attempt Value Sql Desk List Value

variable {columns : List Value} {items : List SelectItem} {keys : List String} {r : Reference}
  {context patch schema state : Value} {t t' : Traffic}

/-! ### The columns that a statement selects -/

def selectList (plan : Value) : Attempt (List SelectItem) := do
  selectItems plan (← itemsOf plan "selections") (← plan.get "group_by") (← plan.getD "window_functions" (.list []))

def columnsIn (items : List SelectItem) : List Reference := items.filterMap columnIn

/-- Whether a column of a selection is selected: it is to be shown, or it is there for filters that there are not. -/
def isVisible (plan s x : Value) : Bool :=
  if x.peek "role" == text "projection" then true
  else if x.peek "role" == text "filter" then
    match isFiltered (s.peek "table") (x.peek "column") s plan with
    | .ok false => true
    | _ => false
  else false

def visibleIn (plan s : Value) (columns : List Value) : List Reference :=
  (columns.filter (isVisible plan s)).map fun x => ⟨s.peek "table", x.peek "column"⟩

def visible (plan : Value) : List Reference :=
  (docsOf plan "selections").flatMap fun s => visibleIn plan s (docsOf s "columns")

section

variable {plan s : Value}

lemma shownColumns_ok
    (h : shownColumns (s.peek "table") s plan columns = .ok found) : found = columns.filter (isVisible plan s) := by
  induction columns generalizing found with
  | nil =>
    cases h
    rfl
  | cons x columns ih =>
    simp only [shownColumns, bind_ok, exists_get] at h
    obtain ⟨-, -, h⟩ := h
    rw [filter_cons, isVisible]
    split at h
    case isTrue hp =>
      simp only [bind_ok, pure_ok, exists_eq_left'] at h
      obtain ⟨others, ho, rfl⟩ := h
      simp [hp, ih ho]
    case isFalse hp =>
      split at h
      case isTrue hfi =>
        simp only [bind_ok, pure_ok, exists_get, exists_eq_left'] at h
        obtain ⟨-, fil, hf, others, ho, rfl⟩ := h
        cases fil <;> simp [hp, hfi, hf, ih ho]
      case isFalse hfi =>
        simp only [bind_ok, pure_ok, exists_eq_left'] at h
        obtain ⟨others, ho, rfl⟩ := h
        simp [hp, hfi, ih ho]

lemma projectionItems_columns (h : projectionItems plan seen docs = .ok items) :
    items.map columnIn = (docs.flatMap fun s => visibleIn plan s (docsOf s "columns")).map some := by
  induction docs generalizing seen items with
  | nil =>
    cases h
    rfl
  | cons s docs ih =>
    simp only [projectionItems, bind_ok, pure_ok, exists_get] at h
    obtain ⟨-, columns, hc, fd, hf, ⟨own, seen'⟩, ho, rest, hr, rfl⟩ := h
    rw [map_append, columnItems_columns ho, ih hr, shownColumns_ok hf, flatMap_cons,
      map_append, docsOf_eq hc, visibleIn, map_map]
    rfl

lemma columnsIn_of_map (h : items.map columnIn = refs.map some) :
    columnsIn items = refs ∧ items.length = refs.length ∧ .everything ∉ items := by
  refine ⟨?_, by simpa using congrArg length h, fun hin => ?_⟩
  · have hs : (items.map columnIn).filterMap id = (refs.map some).filterMap id := by rw [h]
    simpa [filterMap_map, columnsIn] using hs
  · have hn : columnIn .everything ∈ refs.map some := h ▸ mem_map_of_mem hin
    simp [columnIn] at hn

lemma windowItem_ok {item : SelectItem} (h : windowItem w = .ok item) :
    ∃ text, item = .window text := by
  simp only [windowItem, bind_ok, pure_ok] at h
  obtain ⟨_, -, _, -, _, -, _, -, _, -, _, -, _, -, _, -, rfl⟩ := h
  exact ⟨_, rfl⟩

lemma selectList_of_built
    (h : Gives (buildClauses plan state context) surroundings t clauses t') :
    ∃ items rest, clauses = .select items :: rest ∧ selectList plan = .ok items := by
  obtain ⟨p, hp, rfl⟩ := buildClauses_parts h
  obtain ⟨windows, hw, hi⟩ := hp.items
  refine ⟨p.items, _, rfl, ?_⟩
  rw [selectList, hp.selections, ok_bind, hp.group, ok_bind, hw, ok_bind, hi]

/-- Without groups the select list is that of the columns and the window functions, or else everything. -/
lemma selectList_parts (hg : (plan.peek "group_by").truthy = false)
    (h : selectList plan = .ok items) : ∃ fd windowItems,
      projectionItems plan [] (docsOf plan "selections") = .ok fd ∧
      Forall₂ (fun w item => windowItem w = .ok item) (docsOf plan "window_functions") windowItems ∧
      items = if (fd ++ windowItems).isEmpty then [.everything] else fd ++ windowItems := by
  simp only [selectList, selectItems, bind_ok, pure_ok, exists_get, mapM_ok] at h
  obtain ⟨docs, hd, -, windows, hw, fd, hf, ws, hws, windowItems, hi, rfl⟩ := h
  rw [shownItems, if_neg (by simp [hg])] at hf
  have hd' : docsOf plan "window_functions" = ws := docsOf_eq (by rw [itemsOf, hw]; exact hws)
  rw [docsOf_eq hd, hd']
  exact ⟨fd, windowItems, hf, hi, rfl⟩

/-- Without groups a statement selects the columns that are visible, and everything if nothing else is to be
selected. -/
lemma selectList_ungrouped (hg : (plan.peek "group_by").truthy = false)
    (h : selectList plan = .ok items) : columnsIn items = visible plan ∧
      (.everything ∈ items ↔ columnsIn items = [] ∧ docsOf plan "window_functions" = []) := by
  obtain ⟨found, windowItems, hf, hit, rfl⟩ := selectList_parts hg h
  obtain ⟨hc, hl, hnt⟩ := columnsIn_of_map (projectionItems_columns hf)
  have hwi : ∀ i ∈ windowItems, ∃ text, i = .window text := by
    intro i hi
    obtain ⟨w, -, hw⟩ := hit.exists_left hi
    exact windowItem_ok hw
  have hn : columnsIn windowItems = [] := by
    refine filterMap_eq_nil_iff.2 fun i hi => ?_
    obtain ⟨text, rfl⟩ := hwi i hi
    rfl
  have hn' : .everything ∉ windowItems := fun hi => by simpa using hwi _ hi
  have hb : columnsIn (found ++ windowItems) = columnsIn found := by
    rw [columnsIn, filterMap_append, ← columnsIn, ← columnsIn, hn, append_nil]
  rw [visible, ← hc]
  split
  case isTrue he =>
    obtain ⟨rfl, rfl⟩ := append_eq_nil_iff.1 (isEmpty_iff.1 he)
    simp [columnsIn, columnIn, length_eq_zero_iff.1 hit.length_eq]
  case isFalse hs =>
    refine ⟨hb, ?_⟩
    rw [hb, mem_append]
    constructor
    · rintro (hin | hin)
      · exact absurd hin hnt
      · exact absurd hin hn'
    · rintro ⟨hno, hws⟩
      rw [hws, forall₂_nil_left_iff] at hit
      rw [← hc, hno, length_nil, length_eq_zero_iff] at hl
      simp [hl, hit] at hs

end

/-! ### What a patch changes -/

/-- A reference to a column, named without regard to case. -/
def Names (r : Reference) (t c : String) : Prop := nameOf r.table = some t ∧ nameOf r.column = some c

def Wish.Concerns : Wish → Reference → Prop
  | .add t c, r | .remove t c, r => Names r t c
  | .other, _ => False

def named (c : String) (columns : List Value) : List Value := columns.filter (nameAt · "column" = some c)

/-- Where a plan lists a column: its selections with what they list. -/
def listings (plan : Value) (t c : String) : List (Value × Value) :=
  (docsOf plan "selections").flatMap fun s =>
    if nameAt s "table" = some t then (named c (docsOf s "columns")).map (s, ·) else []

section

variable {plan plan' s : Value} {t : String} {columns : List Value}

lemma nameOf_peek (doc : Value) (key : String) : nameOf (doc.peek key) = nameAt doc key := by
  rw [peek_eq_at?, nameAt]
  cases doc.at? key <;> rfl

lemma mem_listings : p ∈ listings plan t c ↔ p.1 ∈ docsOf plan "selections" ∧
    nameAt p.1 "table" = some t ∧ p.2 ∈ docsOf p.1 "columns" ∧ nameAt p.2 "column" = some c := by
  obtain ⟨s, x⟩ := p
  simp only [listings, mem_flatMap]
  constructor
  · rintro ⟨s', hs', h⟩
    split at h
    case isTrue hn =>
      simp only [named, mem_map, mem_filter, decide_eq_true_eq, Prod.mk.injEq] at h
      obtain ⟨x', ⟨hx', hn'⟩, rfl, rfl⟩ := h
      exact ⟨hs', hn, hx', hn'⟩
    case isFalse => simp at h
  · rintro ⟨hs, hn, hx, hn'⟩
    refine ⟨s, hs, ?_⟩
    rw [if_pos hn]
    simpa [named] using ⟨hx, hn'⟩

lemma isFiltered_congr (hp : plan.IsRecord)
    (hk : Kept keys plan plan') (hks : keys ⊆ ["selections", "order_by", "limit"])
    (hf : s'.getD "filters" (.list []) = s.getD "filters" (.list [])) :
    isFiltered table column s' plan' = isFiltered table column s plan := by
  have hs : ∀ key ∈ ["global_filters", "group_by", "subquery_filters"], plan'.at? key = plan.at? key := by
    refine fun key hke => hk.same key fun hin => ?_
    have ht := hks hin
    simp only [mem_cons, not_mem_nil, or_false] at hke ht
    rcases hke with rfl | rfl | rfl <;> simp at ht
  simp only [isFiltered, hp.get, hk.record.get, hp.getD,
    hk.record.getD, hf, hs "global_filters" (by simp), hs "group_by" (by simp),
    hs "subquery_filters" (by simp)]

lemma visibleIn_congr (hp : plan.IsRecord) (hk : Kept keys plan plan')
    (hke : keys ⊆ ["selections", "order_by", "limit"])
    (hf : s'.getD "filters" (.list []) = s.getD "filters" (.list []))
    (ht : s'.peek "table" = s.peek "table") : visibleIn plan' s' columns = visibleIn plan s columns := by
  have hv : isVisible plan' s' = isVisible plan s := by
    funext x
    rw [isVisible, isVisible, ht, isFiltered_congr hp hk hke hf]
  rw [visibleIn, visibleIn, hv, ht]

lemma Relisted.visible_eq (h : Relisted t s columns plan plan') : ∃ pre behind,
    docsOf plan "selections" = pre ++ s :: behind ∧
      visible plan' = (pre.flatMap fun y => visibleIn plan y (docsOf y "columns")) ++ visibleIn plan s columns ++
        behind.flatMap fun y => visibleIn plan y (docsOf y "columns") := by
  obtain ⟨pre, behind, hp, -, rfl⟩ := h.place
  refine ⟨pre, behind, hp, ?_⟩
  have hk := h.record.kept_self "selections"
    (.list (pre ++ s.update [("columns", .list columns)] :: behind))
  have hk' := h.selection.kept_self "columns" (.list columns)
  have ho : ∀ y, visibleIn (plan.update [("selections",
      .list (pre ++ s.update [("columns", .list columns)] :: behind))]) y (docsOf y "columns") =
        visibleIn plan y (docsOf y "columns") := fun y => visibleIn_congr h.record hk (by simp) rfl rfl
  have how : visibleIn (plan.update [("selections",
      .list (pre ++ s.update [("columns", .list columns)] :: behind))]) (s.update [("columns", .list columns)])
        columns = visibleIn plan s columns := by
    refine visibleIn_congr h.record hk (by simp) ?_ (hk'.peek _)
    rw [h.selection.getD, hk'.record.getD, hk'.at? _]
  rw [visible, docsOf_of_at? (h.record.at?_self _ _), flatMap_append, flatMap_cons,
    docsOf_of_at? (h.selection.at?_self _ _), how]
  simp only [ho, append_assoc]

lemma exists_mem_visibleIn : (∃ r ∈ visibleIn plan s columns, Names r t c) ↔
    nameAt s "table" = some t ∧ ∃ x ∈ columns, nameAt x "column" = some c ∧ isVisible plan s x = true := by
  simp only [visibleIn, mem_map, mem_filter, Names]
  constructor
  · rintro ⟨_, ⟨x, ⟨hx, hv⟩, rfl⟩, ht, hc⟩
    rw [nameOf_peek] at ht hc
    exact ⟨ht, x, hx, hc, hv⟩
  · rintro ⟨ht, x, hx, hc, hv⟩
    rw [← nameOf_peek] at ht hc
    exact ⟨_, ⟨x, ⟨hx, hv⟩, rfl⟩, ht, hc⟩

lemma mem_visibleIn_congr (hn : nameAt s "table" = some t)
    (hs : ∀ y, nameAt y "column" ≠ some c → (y ∈ cols' ↔ y ∈ columns)) (hr : ¬ Names r t c) :
    r ∈ visibleIn plan s cols' ↔ r ∈ visibleIn plan s columns := by
  simp only [visibleIn, mem_map, mem_filter]
  refine exists_congr fun y => ?_
  constructor
  all_goals
    rintro ⟨⟨hy, hv⟩, rfl⟩
    have ho : nameAt y "column" ≠ some c := by
      rw [← nameOf_peek] at hn ⊢
      exact fun hc => hr ⟨hn, hc⟩
  · exact ⟨⟨(hs y ho).1 hy, hv⟩, rfl⟩
  · exact ⟨⟨(hs y ho).2 hy, hv⟩, rfl⟩

lemma Added.mem_iff (h : Added c columns columns') (hy : nameAt y "column" ≠ some c) :
    y ∈ columns' ↔ y ∈ columns := by
  cases h with
  | @revealed pre behind x hp hn hr =>
    have hn' : nameAt (x.update [("role", "projection")]) "column" = some c :=
      (nameAt_update hr).trans hn
    grind
  | listed => rfl
  | @new x hno hr hn =>
    grind

lemma Removed.mem_iff (h : Removed c columns filtered columns') (hy : nameAt y "column" ≠ some c) :
    y ∈ columns' ↔ y ∈ columns := by
  cases h with
  | @hidden pre behind x hp ho hn hr =>
    have hn' : nameAt (x.update [("role", "filter")]) "column" = some c :=
      (nameAt_update hr).trans hn
    grind
  | @gone pre behind x hp ho hn =>
    grind

lemma visible_kept (hp : plan.IsRecord) (hk : Kept keys plan plan')
    (hke : keys ⊆ ["order_by", "limit"]) : visible plan' = visible plan := by
  have hn : "selections" ∉ keys := fun hin => by simpa using hke hin
  have ha : ∀ y, visibleIn plan' y (docsOf y "columns") = visibleIn plan y (docsOf y "columns") :=
    fun y => visibleIn_congr hp hk (fun key hky => mem_cons_of_mem _ (hke hky)) rfl rfl
  rw [visible, visible, docsOf_kept hk hp hn]
  simp only [ha]

lemma Accepted.mem_visible (h : Accepted schema plan patch plan')
    (hr : ¬ (wish patch).Concerns r) : r ∈ visible plan' ↔ r ∈ visible plan := by
  have hm : ∀ {t c s columns}, Relisted t s columns plan plan' → ¬ Names r t c →
      (∀ y, nameAt y "column" ≠ some c → (y ∈ columns ↔ y ∈ docsOf s "columns")) →
      (r ∈ visible plan' ↔ r ∈ visible plan) := by
    intro t c s columns hre hr hs
    obtain ⟨pre, behind, hp, hv⟩ := hre.visible_eq
    rw [hv, visible, hp, flatMap_append, flatMap_cons, append_assoc, mem_append,
      mem_append, mem_append, mem_append, mem_visibleIn_congr hre.name hs hr]
  cases h with
  | add hw _ ha hre =>
    rw [hw] at hr
    exact hm hre hr fun y hy => ha.mem_iff hy
  | remove hw _ hrd hre =>
    rw [hw] at hr
    exact hm hre hr fun y hy => hrd.mem_iff hy
  | order _ hrc => rw [visible_kept hrc (hrc.kept_self _ _) (by simp)]
  | limit _ hrc => rw [visible_kept hrc (hrc.kept_self _ _) (by simp)]

lemma isVisible_of_projection (h : x.at? "role" = some (.text "projection")) : isVisible plan s x = true := by
  have hr : x.peek "role" = .text "projection" := by rw [peek_eq_at?, h, Option.getD_some]
  rw [isVisible, hr]
  rfl

lemma isVisible_of_filter (h : x.at? "role" = some (.text "filter")) :
    isVisible plan s x = true ↔ isFiltered (s.peek "table") (x.peek "column") s plan = .ok false := by
  have hr : x.peek "role" = .text "filter" := by rw [peek_eq_at?, h, Option.getD_some]
  have hno : (text "filter" == text "projection") = false := rfl
  have hy : (text "filter" == text "filter") = true := rfl
  rw [isVisible, hr, hno, hy]
  simp only [Bool.false_eq_true, if_false, if_true]
  split
  case h_1 hf => simp [hf]
  case h_2 ho => simpa using ho

lemma Added.exists_shown (h : Added c columns cols') (hro : ∀ x ∈ columns, nameAt x "column" = some c →
      x.at? "role" = some (.text "projection") ∨ x.at? "role" = some (.text "filter")) :
    ∃ x ∈ cols', nameAt x "column" = some c ∧ x.at? "role" = some (.text "projection") := by
  cases h with
  | revealed hp hn hre =>
    exact ⟨_, by simp, (nameAt_update hre).trans hn, hre.at?_self _ _⟩
  | listed hm hn hr => exact ⟨_, hm, hn, (hro _ hm hn).resolve_right hr⟩
  | new hno hre hn hr => exact ⟨_, by simp, hn, hr⟩

lemma named_middle (hn : nameAt y "column" = some c)
    (h : named c (pre ++ y :: behind) = [x]) : y = x ∧ ∀ z ∈ pre ++ behind, nameAt z "column" ≠ some c := by
  simp only [named, filter_append, filter_cons, hn, decide_true, if_true] at h
  have hb : pre.filter (nameAt · "column" = some c) = [] := by
    rcases append_eq_singleton_iff.1 h with ⟨hb, -⟩ | ⟨-, hr⟩
    · exact hb
    · cases hr
  rw [hb, nil_append, cons.injEq] at h
  refine ⟨h.1, fun z hz => ?_⟩
  rcases mem_append.1 hz with hz | hz
  · simpa using filter_eq_nil_iff.1 hb z hz
  · simpa using filter_eq_nil_iff.1 h.2 z hz

/-- A column that was listed once and is removed is there only if it is kept for filters that do not use it. -/
lemma Removed.exists_visible (h : Removed c columns filtered cols') (ho : named c columns = [x]) :
    (∃ y ∈ cols', nameAt y "column" = some c ∧ isVisible plan s y = true) ↔
      filtered = true ∧ isFiltered (s.peek "table") (x.peek "column") s plan = .ok false := by
  cases h with
  | @hidden pre behind y hp hot hn hr =>
    subst hp
    obtain ⟨rfl, hno⟩ := named_middle hn ho
    have hf : isVisible plan s (y.update [("role", "filter")]) = true ↔ _ :=
      isVisible_of_filter (hr.at?_self "role" "filter")
    rw [(hr.kept_self "role" "filter").peek "column"] at hf
    rw [exists_mem_middle, ← hf, nameAt_update hr]
    simp only [hn, true_and, or_iff_right_iff_imp]
    rintro ⟨z, hz, hzn, -⟩
    exact absurd hzn (hno z hz)
  | @gone pre behind y hp hot hn =>
    subst hp
    obtain ⟨-, hno⟩ := named_middle hn ho
    simp only [Bool.false_eq_true, false_and, iff_false]
    rintro ⟨z, hz, hzn, -⟩
    exact hno z hz hzn

/-- If a column is listed once in a plan, it is listed in one selection, and no other selection of its table lists
it. -/
lemma listings_middle (hp : docsOf plan "selections" = pre ++ s :: behind) (hna : nameAt s "table" = some t)
    (hs : named c (docsOf s "columns") ≠ []) (h : listings plan t c = [(s₁, x)]) :
    s = s₁ ∧ named c (docsOf s "columns") = [x] ∧ ∀ y ∈ pre ++ behind, nameAt y "table" = some t →
      named c (docsOf y "columns") = [] := by
  rw [listings, hp, flatMap_append, flatMap_cons, if_pos hna] at h
  have hno : ∀ docs : List Value, (docs.flatMap fun s => if nameAt s "table" = some t then
      (named c (docsOf s "columns")).map (s, ·) else []) = [] →
      ∀ y ∈ docs, nameAt y "table" = some t → named c (docsOf y "columns") = [] := by
    intro docs hd y hy hyn
    simpa [hyn] using flatMap_eq_nil_iff.1 hd y hy
  obtain ⟨y, rest, hn⟩ := exists_cons_of_ne_nil hs
  rw [hn, map_cons, cons_append] at h
  rcases append_eq_singleton_iff.1 h with ⟨hb, hr⟩ | ⟨-, hr⟩
  case inr => cases hr
  rw [cons.injEq, append_eq_nil_iff, map_eq_nil_iff, Prod.mk.injEq] at hr
  obtain ⟨⟨rfl, rfl⟩, rfl, hbe⟩ := hr
  refine ⟨rfl, hn, fun z hz => ?_⟩
  rcases mem_append.1 hz with hz | hz
  · exact hno pre hb z hz
  · exact hno behind hbe z hz

lemma named_eq_nil : named c columns = [] ↔ ∀ y ∈ columns, nameAt y "column" ≠ some c := by
  simp [named, filter_eq_nil_iff]

lemma Removed.named_ne_nil (h : Removed c columns filtered columns') : named c columns ≠ [] := by
  rw [Ne, named_eq_nil]
  intro hno
  cases h with
  | hidden hp _ hn => exact hno _ (by simp [hp]) hn
  | gone hp _ hn => exact hno _ (by simp [hp]) hn

lemma Relisted.exists_added (h : Relisted t s columns plan plan') (ha : Added c (docsOf s "columns") columns)
    (hro : ∀ p ∈ listings plan t c,
      p.2.at? "role" = some (.text "projection") ∨ p.2.at? "role" = some (.text "filter")) :
    ∃ r ∈ visible plan', Names r t c := by
  obtain ⟨pre, behind, -, hv⟩ := h.visible_eq
  have ho : ∀ y ∈ docsOf s "columns", nameAt y "column" = some c →
      y.at? "role" = some (.text "projection") ∨ y.at? "role" = some (.text "filter") :=
    fun y hy hn => hro (s, y) (mem_listings.2 ⟨h.mem_selections, h.name, hy, hn⟩)
  obtain ⟨y, hy, hn, hre⟩ := ha.exists_shown ho
  obtain ⟨r, hr, hna⟩ := exists_mem_visibleIn.2 ⟨h.name, y, hy, hn, isVisible_of_projection hre⟩
  refine ⟨r, ?_, hna⟩
  rw [hv]
  exact mem_append_left _ (mem_append_right _ hr)

/-- A removed column that was listed once is visible only if it is kept for filters that do not use it. -/
lemma Relisted.exists_removed (h : Relisted t s columns plan plan')
    (hre : Removed c (docsOf s "columns") fil columns) (hon : listings plan t c = [(s₁, x)]) :
    (∃ r ∈ visible plan', Names r t c) ↔
      fil = true ∧ isFiltered (s₁.peek "table") (x.peek "column") s₁ plan = .ok false := by
  obtain ⟨pre, behind, hp, hv⟩ := h.visible_eq
  obtain ⟨rfl, hna, ho⟩ := listings_middle hp h.name hre.named_ne_nil hon
  -- As the column was listed once, no other selection of the table can select it.
  have hn : ∀ docs ⊆ pre ++ behind,
      ¬ ∃ r ∈ docs.flatMap fun y => visibleIn plan y (docsOf y "columns"), Names r t c := by
    rintro docs hd ⟨r, hr, hns⟩
    obtain ⟨y, hy, hr⟩ := mem_flatMap.1 hr
    obtain ⟨hne, z, hz, hzn, -⟩ := exists_mem_visibleIn.1 ⟨r, hr, hns⟩
    exact named_eq_nil.1 (ho y (hd hy) hne) z hz hzn
  have hb := hn pre (by simp)
  have hbe := hn behind (by simp)
  rw [← hre.exists_visible hna, hv]
  simp only [mem_append, or_and_right, exists_or, hb, hbe, false_or, or_false]
  rw [exists_mem_visibleIn]
  exact and_iff_right h.name

end

/-! ### The select list of a patched plan -/

structure SelectPatched (plan patch : Value) (items : List SelectItem) : Prop where
  grouped : (plan.peek "group_by").truthy = true → selectList plan = .ok items
  /-- Without groups it keeps the columns that the patch is not about. -/
  others : (plan.peek "group_by").truthy = false → ∀ before, selectList plan = .ok before →
    ∀ r, ¬ (wish patch).Concerns r → (r ∈ columnsIn items ↔ r ∈ columnsIn before)
  added : (plan.peek "group_by").truthy = false → ∀ t c, wish patch = .add t c →
    (∀ p ∈ listings plan t c, p.2.at? "role" = some (.text "projection") ∨ p.2.at? "role" = some (.text "filter")) →
    ∃ r ∈ columnsIn items, Names r t c
  /-- A removed column is selected only if the plan is found to filter by it, but its statement is not. -/
  removed : (plan.peek "group_by").truthy = false → ∀ t c s x, wish patch = .remove t c →
    listings plan t c = [(s, x)] → ((∃ r ∈ columnsIn items, Names r t c) ↔
      isInFilters (patch.peek "table") (patch.peek "column") plan = .ok true ∧
        isFiltered (s.peek "table") (x.peek "column") s plan = .ok false)
  /-- Everything is selected if there is nothing else. -/
  everything : (plan.peek "group_by").truthy = false →
    (.everything ∈ items ↔ columnsIn items = [] ∧ docsOf plan "window_functions" = [])

section

variable {schema plan plan' patch : Value} {items : List SelectItem}

lemma itemsOf_of_docs (h : docsOf doc key ≠ []) :
    itemsOf doc key = .ok (docsOf doc key) := by
  unfold docsOf at h ⊢
  cases hi : itemsOf doc key with
  | ok docs => rfl
  | error => simp [hi] at h

lemma selectItems_grouped (h : group.truthy = true) (docs docs' : List Value) :
    selectItems plan docs group windows = selectItems plan' docs' group windows := by
  simp only [selectItems, shownItems, h, if_true]

lemma Accepted.selections_read (h : Accepted schema plan patch plan')
    (hd : itemsOf plan' "selections" = .ok docs') : ∃ docs, itemsOf plan "selections" = .ok docs := by
  have ho : ∀ {key x}, plan.IsRecord → key ≠ "selections" →
      itemsOf (plan.update [(key, x)]) "selections" = .ok docs' → itemsOf plan "selections" = .ok docs' := by
    intro key x hr hk hi
    rwa [itemsOf, (hr.update _).getD,
      (hr.kept_self key x).same "selections" (by simpa using hk.symm), ← hr.getD,
      ← itemsOf] at hi
  cases h with
  | add _ _ _ hre | remove _ _ _ hre =>
    exact ⟨_, itemsOf_of_docs (ne_nil_of_mem hre.mem_selections)⟩
  | order _ hr | limit _ hr => exact ⟨docs', ho hr (by decide) hd⟩

lemma Accepted.selectList_grouped (h : Accepted schema plan patch plan')
    (hg : (plan.peek "group_by").truthy = true) (hi : selectList plan' = .ok items) :
    selectList plan = .ok items := by
  obtain ⟨hr, hk⟩ := h.kept
  simp only [selectList, hk.record.get, hk.record.getD, hk.at? "group_by",
    hk.at? "window_functions", bind_ok] at hi
  obtain ⟨docs', hd', grp, hg', windows, hw, hi⟩ := hi
  obtain ⟨docs, hd⟩ := h.selections_read hd'
  rw [← hr.get, get_ok] at hg'
  rw [← hr.getD] at hw
  rw [selectList, hd, ok_bind, get_ok.2 hg', ok_bind, hw, ok_bind,
    selectItems_grouped (hg'.2 ▸ hg) docs docs', hi]

/-- A statement that is built for a patched plan selects what was selected before, if there are groups. If not, it
also selects an added column, and no longer a removed one, unless that is filtered by in other letters. -/
theorem select_list_of_patched {state context : Value} {s : Surroundings} {t t' : Traffic} {clauses : List Clause}
    (hpatch : applyPatch plan patch schema = .ok plan')
    (hbuilt : Gives (buildClauses plan' state context) s t clauses t') :
    ∃ items rest, clauses = .select items :: rest ∧ SelectPatched plan patch items := by
  have ha := applyPatch_ok hpatch
  obtain ⟨hrc, hk⟩ := ha.kept
  obtain ⟨items, rest, rfl, hi⟩ := selectList_of_built hbuilt
  have hu : (plan.peek "group_by").truthy = false → columnsIn items = visible plan' ∧
      (.everything ∈ items ↔ columnsIn items = [] ∧ docsOf plan "window_functions" = []) := by
    intro hg
    rw [← hk.peek "group_by"] at hg
    rw [← docsOf_kept hk hrc]
    exact selectList_ungrouped hg hi
  refine ⟨items, rest, rfl, fun hg => ha.selectList_grouped hg hi, ?_, ?_, ?_,
    fun hg => (hu hg).2⟩
  · intro hg pre hb r hr
    rw [(hu hg).1, (selectList_ungrouped hg hb).1]
    exact ha.mem_visible hr
  · intro hg t c hw hro
    rw [(hu hg).1]
    cases ha with
    | add hw' _ had hre =>
      cases hw.symm.trans hw'
      exact hre.exists_added had hro
    | remove hw' | order hw' | limit hw' => cases hw.symm.trans hw'
  · intro hg t c s x hw ho
    rw [(hu hg).1]
    cases ha with
    | remove hw' hf hrd hre =>
      cases hw.symm.trans hw'
      rw [hre.exists_removed hrd ho, hf, Except.ok.injEq]
    | add hw' | order hw' | limit hw' => cases hw.symm.trans hw'

end

/-! Plans for the orders of a store, and statements that do not follow their patches. -/

def orderColumns (columns : List String) : Value :=
  .list (columns.map fun c => .record [("table", "orders"), ("column", .text c), ("role", "projection")])

/-- Which orders are open; the filter names its column in the letters given. -/
def openOrders (status : String) : Value := .record [("selections", .list [.record [("table", "orders"),
  ("columns", orderColumns ["id", "status"]),
  ("filters", .list [.record [("table", "orders"), ("column", .text status), ("op", "="), ("value", "open")]])]])]

def allOrders : Value :=
  .record [("selections", .list [.record [("table", "orders"), ("columns", orderColumns ["id"])]])]

def orderCounts : Value := .record [
  ("selections", .list [.record [("table", "orders"), ("columns", orderColumns ["status"])]]),
  ("group_by", .record [("group_by_columns", .list [.record [("table", "orders"), ("column", "status")]]),
    ("aggregates", .list [.record [("function", "COUNT"), ("table", "orders"), ("column", "id"), ("alias", "n")]])])]

def serverContext : Value := .record [("dialect", "tsql"), ("is_sqlite", .bool false)]

theorem select_list_of_patched_status : ∃ plan' items rest,
    applyPatch (openOrders "status") (columnPatch "remove_column" "Orders" "STATUS") storeSchema = .ok plan' ∧
      Gives (buildClauses plan' (.record []) serverContext) {} {} (.select items :: rest) {} ∧
      (⟨"orders", "id"⟩ : Reference) ∈ columnsIn items ∧ ¬ ∃ r ∈ columnsIn items, Names r "orders" "status" := by
  obtain ⟨plan', cls, hp, hb⟩ : ∃ plan' cls,
      applyPatch (openOrders "status") (columnPatch "remove_column" "Orders" "STATUS") storeSchema = .ok plan' ∧
        Gives (buildClauses plan' (.record []) serverContext) {} {} cls {} := ⟨_, _, rfl, rfl⟩
  obtain ⟨items, rest, rfl, hs⟩ := select_list_of_patched hp hb
  have hw : wish (columnPatch "remove_column" "Orders" "STATUS") = .remove "orders" "status" := rfl
  have hbe : selectList (openOrders "status") =
      .ok [.column ⟨"orders", "id"⟩ none, .column ⟨"orders", "status"⟩ none] := rfl
  have ho : ¬ (wish (columnPatch "remove_column" "Orders" "STATUS")).Concerns ⟨"orders", "id"⟩ := by
    rintro ⟨-, hid⟩
    exact absurd hid (by decide)
  refine ⟨plan', items, rest, hp, hb, ?_, ?_⟩
  · rw [hs.others rfl _ hbe _ ho]
    simp [columnsIn, columnIn]
  · rw [hs.removed rfl "orders" "status" _ _ hw rfl]
    rintro ⟨-, hf⟩
    cases hf

/-- A removed column is still shown if its name was written differently, all columns are shown if it was the only
one, and an added column is not shown beside aggregates. -/
theorem select_list_against_patch :
    (∃ plan' rest,
      applyPatch (openOrders "Status") (columnPatch "remove_column" "orders" "status") storeSchema = .ok plan' ∧
      (listings (openOrders "Status") "orders" "status").length = 1 ∧
      Gives (buildClauses plan' (.record []) serverContext) {} {}
        (.select [.column ⟨"orders", "id"⟩ none, .column ⟨"orders", "status"⟩ none] :: rest) {}) ∧
    (∃ plan' rest, applyPatch allOrders (columnPatch "remove_column" "orders" "id") storeSchema = .ok plan' ∧
      (listings allOrders "orders" "id").length = 1 ∧
      Gives (buildClauses plan' (.record []) serverContext) {} {} (.select [.everything] :: rest) {}) ∧
    ∃ plan' rest, applyPatch orderCounts (columnPatch "add_column" "orders" "total") storeSchema = .ok plan' ∧
      Gives (buildClauses plan' (.record []) serverContext) {} {}
        (.select [.column ⟨"orders", "status"⟩ none, .aggregate "COUNT" (.column ⟨"orders", "id"⟩) "n"] :: rest)
        {} := by
  refine ⟨⟨_, _, rfl, rfl, rfl⟩, ⟨_, _, rfl, rfl, rfl⟩, _, _, rfl, rfl⟩

end QueryDesk.Plan
