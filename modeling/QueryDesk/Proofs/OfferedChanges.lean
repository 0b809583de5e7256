import QueryDesk.Proofs.Offers

/-!
Taking an offer. The options name columns as they are spelled, a patch names them without regard to case, and both
have to mean the same column: every column that is offered can be added or removed, every order that is offered can
be set, and the options of the changed plan are the old ones with that one entry marked anew. A patch changes the
first listing of a column and the options show the last one, so that removing a column that is listed more than
once changes nothing of what is offered.
-/

namespace QueryDesk.Plan

open Attempt Value Sql List Value Text

variable {keys : List Value} {e plan' : Value} {key : String} {role : Option Value}

/-! ### What is offered after a change -/

def Offers (doc : Value) (table : String) (e : Value) : Prop :=
  e ∈ docsOf ((doc.peek "tables").peek table) "columns"

/-- An entry in which a column of a name has a role or is not selected. -/
def mark (column : String) (role : Option Value) (e : Value) : Value :=
  if e.peek "name" == .text column then e.update [("selected", .bool role.isSome), ("role", role.getD .null)] else e

def withEntries (table : String) (offers : List Value) (doc : Value) : Value :=
  doc.update [("tables", (doc.peek "tables").update
    [(table, ((doc.peek "tables").peek table).update [("columns", .list offers)])])]

/-- Options in which one column has a role or is not selected, and nothing else is different. -/
def marked (table column : String) (role : Option Value) (doc : Value) : Value :=
  withEntries table ((docsOf ((doc.peek "tables").peek table) "columns").map (mark column role)) doc

lemma mark_offer (column : String) (role r : Option Value) (y : Value) : mark column role (offer r y) =
    offer (if y.peek "column_name" == .text column then role else r) y := by
  show (if y.peek "column_name" == .text column then _ else _) = _
  split <;> rfl

section

variable {plan plan' : Value} {entries columns : List Value}

lemma columnsFor_kept (h : Kept ["columns"] s s') : columnsFor entries s' = columnsFor entries s := by
  rw [columnsFor, nameAt_kept h, ← columnsFor]

lemma sortOffers_kept (h : Kept ["columns"] s s') : sortOffers entries s' = sortOffers entries s := by
  rw [sortOffers, sortOffers, columnsFor_kept h, h.peek "table"]

lemma tableOffer_relisted (h : Kept ["columns"] s s') (hc : s'.at? "columns" = some (.list columns)) :
    tableOffer entries s' = (tableOffer entries s).update
      [("columns", .list (columnOffers columns (columnsFor entries s)))] := by
  rw [tableOffer, h.peek "alias", docsOf_of_at? hc, columnsFor_kept h]
  rfl

lemma Readable.lookup_before (h : Readable plan entries) (hp : docsOf plan "selections" = pre ++ s :: behind) :
    (tableOffers entries pre).lookup (s.peek "table").display = none := by
  have hs : IsText (s.peek "table") := h.table_isText s (by simp [hp])
  have hn := h.tables_nodup
  rw [hp, map_append, nodup_append] at hn
  rw [lookup_eq_none_iff]
  intro f hf
  obtain ⟨y, hy, rfl⟩ := mem_map.1 hf
  rw [bne_iff_ne]
  intro he
  have ht : y.peek "table" = s.peek "table" := by
    rw [← text_display hs, he, text_display (h.table_isText y (by simp [hp, hy]))]
  exact hn.2.2 _ (mem_map_of_mem hy) _ (by simp) ht

lemma tableOffers_middle (entries pre behind : List Value) (s : Value) :
    tableOffers entries (pre ++ s :: behind) = tableOffers entries pre ++
      ((s.peek "table").display, tableOffer entries s) :: tableOffers entries behind := by
  rw [tableOffers, map_append, map_cons]
  rfl

lemma offersOf_tables (plan : Value) (entries : List Value) :
    (offersOf plan entries).peek "tables" = .record (tableOffers entries (docsOf plan "selections")) := rfl

lemma Readable.offersOf_table (h : Readable plan entries)
    (hp : docsOf plan "selections" = before ++ s :: behind) :
    ((offersOf plan entries).peek "tables").peek (s.peek "table").display = tableOffer entries s := by
  rw [offersOf_tables, hp, tableOffers_middle, peek, Fields.lookup_middle (h.lookup_before hp),
    Option.getD_some]

lemma Readable.update_table (h : Readable plan entries) (hp : docsOf plan "selections" = before ++ s :: behind)
    (v : Value) : ((offersOf plan entries).peek "tables").update [((s.peek "table").display, v)] =
      .record (tableOffers entries before ++ ((s.peek "table").display, v) :: tableOffers entries behind) := by
  rw [offersOf_tables, hp, tableOffers_middle]
  exact congrArg record (Fields.put_middle (h.lookup_before hp) _ _)

section

variable (h : Relisted t s columns plan plan') (hrd : Readable plan entries)

include h hrd

/-- Where a selection lists other columns, its table has other entries, and nothing else is different. -/
lemma Relisted.offersOf_eq :
    offersOf plan' entries = withEntries (s.peek "table").display (columnOffers columns (columnsFor entries s))
      (offersOf plan entries) := by
  obtain ⟨pre, behind, s', hp, hp', -, hk, hc⟩ := h.docs
  have ht : s'.peek "table" = s.peek "table" := hk.peek "table"
  -- What a result can be sorted by does not depend on what is listed.
  have hs : (docsOf plan' "selections").flatMap (sortOffers entries) =
      (docsOf plan "selections").flatMap (sortOffers entries) := by
    rw [hp, hp', flatMap_append, flatMap_cons, sortOffers_kept hk, ← flatMap_cons, ← flatMap_append]
  rw [withEntries, hrd.offersOf_table hp, ← tableOffer_relisted hk hc, hrd.update_table hp,
    ← ht, ← tableOffers_middle, ← hp', offersOf, hs, h.kept.at? "order_by",
    h.kept.peek "limit"]
  rfl

lemma Relisted.offersOf_marked (hr : ∀ y ∈ columnsFor entries s, roleIn columns (y.peek "column_name") =
      if y.peek "column_name" == .text column then role else roleIn (docsOf s "columns") (y.peek "column_name")) :
    offersOf plan' entries = marked (s.peek "table").display column role (offersOf plan entries) := by
  obtain ⟨pre, behind, hp, -⟩ := h.place
  have ho : columnOffers columns (columnsFor entries s) =
      (columnOffers (docsOf s "columns") (columnsFor entries s)).map (mark column role) := by
    rw [columnOffers, columnOffers, map_map]
    refine map_congr_left fun y hy => ?_
    rw [Function.comp_apply, mark_offer, hr y hy]
  rw [h.offersOf_eq hrd, marked, hrd.offersOf_table hp, ho]
  rfl

lemma Relisted.offersOf_same (hr : ∀ y ∈ columnsFor entries s,
      roleIn columns (y.peek "column_name") = roleIn (docsOf s "columns") (y.peek "column_name")) :
    offersOf plan' entries = offersOf plan entries := by
  obtain ⟨pre, behind, hp, -⟩ := h.place
  have ho : columnOffers columns (columnsFor entries s) =
      columnOffers (docsOf s "columns") (columnsFor entries s) :=
    map_congr_left fun y hy => by rw [hr y hy]
  have hs : (tableOffer entries s).update
      [("columns", .list (columnOffers (docsOf s "columns") (columnsFor entries s)))] = tableOffer entries s := rfl
  rw [h.offersOf_eq hrd, ho, withEntries, hrd.offersOf_table hp, hs, hrd.update_table hp,
    ← tableOffers_middle, ← hp]
  rfl

end

lemma Offers.entry (h : Offers (offersOf plan entries) table e)
    (hrd : Readable plan entries) : ∃ s ∈ docsOf plan "selections", s.peek "table" = .text table ∧
      ∃ y ∈ columnsFor entries s, e = offer (roleIn (docsOf s "columns") (y.peek "column_name")) y := by
  rw [Offers, offersOf_tables, peek] at h
  cases hf : (tableOffers entries (docsOf plan "selections")).lookup table with
  | none =>
    rw [hf] at h
    cases h
  | some v =>
    rw [hf, Option.getD_some] at h
    obtain ⟨front, back, hfi, -⟩ := lookup_eq_some_iff.1 hf
    have hm : (table, v) ∈ tableOffers entries (docsOf plan "selections") := by simp [hfi]
    obtain ⟨s, hs, hp⟩ := mem_map.1 hm
    obtain ⟨rfl, rfl⟩ := Prod.mk.inj hp
    obtain ⟨y, hy, rfl⟩ := mem_map.1 h
    exact ⟨s, hs, (text_display (hrd.table_isText s hs)).symm, y, hy, rfl⟩

/-- The options of a plan can still be read when a selection lists other columns. -/
lemma Relisted.readable (h : Relisted t s columns plan plan') (hrd : Readable plan entries)
    (hc : ∀ x ∈ columns, ColumnFormed x ∧ IsText (x.peek "column")) : Readable plan' entries := by
  obtain ⟨pre, behind, s', hp, hp', -, hk, hli⟩ := h.docs
  have hta : s'.peek "table" = s.peek "table" := hk.peek "table"
  have ht := hrd.tables
  have hl := hrd.listed
  have hd := hrd.distinct
  simp only [hp, forall_mem_append, forall_mem_cons] at ht hl
  refine ⟨h.formed hrd.formed fun x hx => (hc x hx).1, hrd.schema, ?_, ?_, hrd.columns, ?_⟩
  · simp only [hp', forall_mem_append, forall_mem_cons, hta]
    exact ht
  · simp only [hp', forall_mem_append, forall_mem_cons, docsOf_of_at? hli]
    exact ⟨hl.1, fun x hx => (hc x hx).2, hl.2.2⟩
  · rw [hp', map_append, map_cons, nameAt_kept hk]
    rwa [hp, map_append, map_cons] at hd

end

/-! ### Taking an offer -/

/-- A plan and a schema whose columns are spelled alike: a listed column that has the name of one of the schema, but
for case, has the same letters. -/
structure Offered (plan : Value) (entries : List Value) : Prop extends Readable plan entries where
  spelled : ∀ s ∈ docsOf plan "selections", ∀ x ∈ docsOf s "columns", ∀ y ∈ columnsFor entries s,
    nameAt x "column" = nameAt y "column_name" → x.peek "column" = y.peek "column_name"

def orderPatch (keys : List Value) : Value := .record [("operation", "modify_order_by"), ("order_by", .list keys)]

def sortKey (e : Value) (direction : String) : Value :=
  .record [("table", e.peek "table"), ("column", e.peek "column"), ("direction", .text direction)]

def Sorts (doc key : Value) : Prop :=
  ∃ e ∈ docsOf doc "sortable_columns", ∃ direction ∈ ["ASC", "DESC"], key = sortKey e direction

/-- A patch is accepted, and the plan then has these options. -/
def Leads (plan : Value) (entries : List Value) (patch doc : Value) : Prop :=
  ∃ plan', applyPatch plan patch (.list entries) = .ok plan' ∧ options plan' (.list entries) = .ok doc

section

variable {plan name : Value} {entries columns : List Value} {table column : String}

lemma beq_comm_of_isText (hv : IsText v) (hw : IsText w) : (v == w) = (w == v) := by
  rw [Bool.eq_iff_iff, hv.beq_iff hw, hw.beq_iff hv]
  exact eq_comm

lemma exists_of_roleIn (ht : ∀ x ∈ columns, IsText (x.peek "column")) (hn : IsText name)
    (h : roleIn columns name ≠ none) : ∃ x ∈ columns, x.peek "column" = name := by
  rw [Ne, roleIn_eq_none] at h
  by_contra hno
  refine h fun x hx => Bool.eq_false_iff.2 fun hs => hno ⟨x, hx, ?_⟩
  exact ((ht x hx).beq_iff hn).1 hs

lemma roleIn_of_names (ht : ∀ x ∈ columns, IsText (x.peek "column")) (hn : IsText name)
    (h : ∀ x ∈ columns, nameAt x "column" ≠ nameOf name) : roleIn columns name = none := by
  by_contra hr
  obtain ⟨x, hx, rfl⟩ := exists_of_roleIn ht hn hr
  exact h x hx (nameOf_peek x "column").symm

lemma peek_ne_of_roleIn (h : roleIn columns (.text n) = none) (hx : x ∈ columns) : x.peek "column" ≠ .text n := by
  intro hp
  have hm := roleIn_eq_none.1 h x hx
  rw [hp] at hm
  simp [beq_text, text?] at hm

/-- The roles after the first listing of a column is removed: a later listing of the same column counts, and the
filters if there is none. -/
lemma roleIn_removed (ht : ∀ z ∈ front ++ x :: back, IsText (z.peek "column"))
    (hf : ∀ z ∈ front, nameAt z "column" ≠ nameOf (.text column)) (hx : x.peek "column" = .text column)
    (hre : x.IsRecord) (hn : IsText name) :
    roleIn (front ++ remains fil x ++ back) name = if name == .text column then
      (roleIn back name).or (if fil then some (.text "filter") else none)
      else roleIn (front ++ x :: back) name := by
  have hk : (x.update [("role", "filter")]).peek "column" = x.peek "column" :=
    (hre.kept_self _ _).peek _
  have hs := hn.beq_iff ⟨column, rfl⟩
  rw [roleIn_append, roleIn_append]
  split
  case isTrue hc =>
    obtain rfl := hs.1 hc
    rw [roleIn_of_names (fun z hz => ht z (by simp [hz])) hn hf, Option.or_none]
    congr 1
    cases fil with
    | false => rfl
    | true =>
      rw [remains, if_pos rfl, roleIn_singleton, hk, hx, if_pos hc, hre.peek_self, if_pos rfl]
  case isFalse ho =>
    have hm : (text column == name) = false := by
      rw [beq_comm_of_isText ⟨column, rfl⟩ hn, Bool.eq_false_iff]
      exact ho
    have hr : roleIn (remains fil x) name = none := by
      cases fil with
      | false => rfl
      | true => rw [remains, if_pos rfl, roleIn_singleton, hk, hx, hm, if_neg (by simp)]
    rw [hr, Option.none_or, ← singleton_append, roleIn_append, roleIn_append, roleIn_singleton, hx, hm,
      if_neg (by simp), Option.or_none]

lemma remains_formed (hx : ColumnFormed x) (ht : IsText (x.peek "column")) :
    ∀ z ∈ remains fil x, ColumnFormed z ∧ IsText (z.peek "column") := by
  cases fil with
  | false => simp [remains]
  | true =>
    rw [remains, if_pos rfl, forall_mem_singleton, (hx.record.kept_self _ _).peek "column"]
    exact ⟨hx.update hx.record (.inr rfl), ht⟩

lemma named_first (hf : ∀ z ∈ front, nameAt z "column" ≠ some c) (hx : nameAt x "column" = some c) :
    named c (front ++ x :: back) = x :: named c back := by
  rw [named, filter_append, ← named, named_eq_nil.2 hf, nil_append, filter_cons, hx]
  simp [named]

lemma listings_length (hd : ((docsOf plan "selections").map (nameAt · "table")).Nodup)
    (hs : s ∈ docsOf plan "selections") (hn : nameAt s "table" = some t) :
    (listings plan t c).length = (named c (docsOf s "columns")).length := by
  obtain ⟨pre, behind, hp⟩ := append_of_mem hs
  have ho := ne_of_nodup (hp ▸ hd) hn
  have hno : ∀ docs ⊆ pre ++ behind, (docs.flatMap fun s => if nameAt s "table" = some t then
      (named c (docsOf s "columns")).map (s, ·) else []) = [] := by
    intro docs hdo
    rw [flatMap_eq_nil_iff]
    exact fun z hz => if_neg (ho z (hdo hz))
  rw [listings, hp, flatMap_append, flatMap_cons, if_pos hn, hno pre (by simp), hno behind (by simp)]
  simp

lemma givenName_of_peek (h : patch.peek key = .text n) (hn : n ≠ "") :
    givenName patch key = some (lower n) := by
  rw [givenName, h, if_pos (IsName.truthy ⟨n, rfl, hn⟩)]
  rfl

lemma applyPatch_addPatch (ht : table ≠ "") (hc : column ≠ "") :
    applyPatch plan (columnPatch "add_column" table column) schema =
      addColumn plan (.text table) (.text column) schema := by
  have hw : wish (columnPatch "add_column" table column) = .add (lower table) (lower column) := by
    rw [wish, givenName_of_peek rfl ht, givenName_of_peek rfl hc]
    rfl
  exact applyPatch_add hw

lemma applyPatch_removePatch (ht : table ≠ "") (hc : column ≠ "") :
    applyPatch plan (columnPatch "remove_column" table column) sch =
      removeColumn plan (.text table) (.text column) := by
  have hw : wish (columnPatch "remove_column" table column) = .remove (lower table) (lower column) := by
    rw [wish, givenName_of_peek rfl ht, givenName_of_peek rfl hc]
    rfl
  exact applyPatch_remove hw

end

/-- An offer: a column that the schema has for a selection, under the names by which they are offered. -/
structure Offer (plan : Value) (entries : List Value) (table column : String) (s y : Value) : Prop where
  selected : s ∈ docsOf plan "selections"
  table : s.peek "table" = .text table
  known : y ∈ columnsFor entries s
  column : y.peek "column_name" = .text column

section

variable {plan : Value} {entries : List Value} {table column : String}

section

variable (h : Offer plan entries table column s y)

include h

lemma Offer.name : nameAt s "table" = some (lower table) := by
  rw [← nameOf_peek, h.table]
  rfl

lemma Offer.columnName : nameAt y "column_name" = some (lower column) := by
  rw [← nameOf_peek, h.column]
  rfl

lemma Offer.hasColumn : HasColumn (.list entries) (lower table) (lower column) := by
  obtain ⟨e, he, hn, hy⟩ := mem_columnsFor h.known
  exact ⟨entries, rfl, e, he, hn.trans h.name, y, hy, h.columnName⟩

lemma Offer.ne_empty (hrd : Readable plan entries) : table ≠ "" ∧ column ≠ "" := by
  obtain ⟨n, hn, hne⟩ := hrd.tables s h.selected
  obtain ⟨m, hm, hme⟩ := (hrd.column_formed h.known).2
  rw [h.table, text.injEq] at hn
  rw [h.column, text.injEq] at hm
  exact ⟨hn ▸ hne, hm ▸ hme⟩

lemma Offer.spelled (ho : Offered plan entries)
    (hx : x ∈ docsOf s "columns") (hn : nameAt x "column" = some (lower column)) : x.peek "column" = .text column :=
  (ho.spelled s h.selected x hx y h.known (hn.trans h.columnName.symm)).trans h.column

lemma Offer.add_leads (hof : Offered plan entries) (hre : roleIn (docsOf s "columns") (.text column) = none) :
    Leads plan entries (columnPatch "add_column" table column)
      (marked table column (some (.text "projection")) (offersOf plan entries)) := by
  have hrd := hof.toReadable
  have ht := hrd.listed s h.selected
  obtain ⟨hta, hco⟩ := h.ne_empty hrd
  have hno : ∀ x ∈ docsOf s "columns", nameAt x "column" ≠ some (lower column) := fun x hx hn =>
    peek_ne_of_roleIn hre hx (h.spelled hof hx hn)
  obtain ⟨pre, behind, hp, ho⟩ := exists_place hrd.distinct h.selected h.name
  obtain ⟨added, hn, hs, ha⟩ := addColumn_unlisted hrd.formed hp ho h.name
    (nameOf.eq_1 (.text table)) (nameOf.eq_1 (.text column)) hrd.schema h.hasColumn hno
  have hr := relisted_relist hrd.formed hp ho h.name (docsOf s "columns" ++ [added])
  have hpe : added.peek "column" = .text column := by rw [peek_eq_at?, hn, Option.getD_some]
  have hc : ∀ x ∈ docsOf s "columns" ++ [added], ColumnFormed x ∧ IsText (x.peek "column") := by
    simp only [forall_mem_append, forall_mem_singleton]
    have hna : HasName added "column" := ⟨lower column, by rw [nameAt, hn]; rfl⟩
    exact ⟨fun x hx => ⟨(hrd.formed.selections s h.selected).columns x hx, ht x hx⟩, ⟨hna, .inl hs⟩,
      column, hpe⟩
  refine ⟨_, (applyPatch_addPatch hta hco).trans ha, ?_⟩
  have hro : ∀ z ∈ columnsFor entries s, roleIn (docsOf s "columns" ++ [added]) (z.peek "column_name") =
      if z.peek "column_name" == .text column then some (.text "projection")
      else roleIn (docsOf s "columns") (z.peek "column_name") := by
    intro z hz
    have hz := (hrd.column_formed hz).2.isText
    rw [roleIn_append, roleIn_singleton, hpe, peek_eq_at? added "role", hs, beq_comm_of_isText ⟨column, rfl⟩ hz]
    split <;> rfl
  rw [(hr.readable hrd hc).options_eq, hr.offersOf_marked hrd hro, h.table]
  rfl

/-- The options after the first listing of a column is removed. A later listing of the column is the one that they
show, as before. -/
lemma Offer.options_removed (ho : Offered plan entries)
    (hp : docsOf s "columns" = front ++ x :: back) (hfr : ∀ z ∈ front, nameAt z "column" ≠ some (lower column))
    (hn : nameAt x "column" = some (lower column))
    (hre : Relisted (lower table) s (front ++ remains fil x ++ back) plan plan') :
    options plan' (.list entries) = .ok (if named (lower column) back = [] then
      marked table column (if fil then some (.text "filter") else none) (offersOf plan entries)
      else offersOf plan entries) := by
  have hrd := ho.toReadable
  have hf := (hrd.formed.selections s h.selected).columns
  have ht := hrd.listed s h.selected
  have hs : ∀ z ∈ docsOf s "columns", nameAt z "column" = some (lower column) →
      z.peek "column" = .text column := fun z hz => h.spelled ho hz
  rw [hp] at hf ht hs
  have hx : x.peek "column" = .text column := hs x (by simp) hn
  have hr : ∀ z ∈ columnsFor entries s, roleIn (front ++ remains fil x ++ back) (z.peek "column_name") =
      if z.peek "column_name" == .text column then
        (roleIn back (z.peek "column_name")).or (if fil then some (.text "filter") else none)
      else roleIn (front ++ x :: back) (z.peek "column_name") := fun z hz =>
    roleIn_removed ht hfr hx (hf x (by simp)).record ((hrd.column_formed hz).2.isText)
  have hc : ∀ z ∈ front ++ remains fil x ++ back, ColumnFormed z ∧ IsText (z.peek "column") := by
    have hb : ∀ z ∈ front ++ x :: back, ColumnFormed z ∧ IsText (z.peek "column") :=
      fun z hz => ⟨hf z hz, ht z hz⟩
    simp only [forall_mem_append, forall_mem_cons] at hb ⊢
    exact ⟨⟨hb.1, remains_formed hb.2.1.1 hb.2.1.2⟩, hb.2.2⟩
  rw [(hre.readable hrd hc).options_eq]
  split
  case isTrue hon =>
    have hba : roleIn back (.text column) = none :=
      roleIn_of_names (fun z hz => ht z (by simp [hz])) ⟨column, rfl⟩ (named_eq_nil.1 hon)
    rw [hre.offersOf_marked hrd fun z hz => ?_, h.table]
    · rfl
    · rw [hr z hz, hp]
      split
      case isTrue hsa =>
        rw [(((hrd.column_formed hz).2.isText).beq_iff ⟨column, rfl⟩).1 hsa, hba, Option.none_or]
      case isFalse => rfl
  case isFalse ha =>
    -- The last listing is the one that counts, and it stands behind the one that was changed.
    obtain ⟨role, hba⟩ : ∃ role, roleIn back (.text column) = some role := by
      rw [← Option.isSome_iff_exists, Option.isSome_iff_ne_none]
      exact fun hno => ha (named_eq_nil.2 fun z hz hzn =>
        peek_ne_of_roleIn hno hz (hs z (by simp [hz]) hzn))
    rw [hre.offersOf_same hrd fun z hz => ?_]
    rw [hr z hz, hp]
    split
    case isTrue hsa =>
      rw [(((hrd.column_formed hz).2.isText).beq_iff ⟨column, rfl⟩).1 hsa, ← singleton_append,
        roleIn_append, roleIn_append, hba, Option.some_or, Option.some_or, Option.some_or]
    case isFalse => rfl

/-- A column that is listed can be removed. If it is listed once, it is not selected any more, or only to filter by. -/
lemma Offer.remove_leads (hof : Offered plan entries) (hro : roleIn (docsOf s "columns") (.text column) ≠ none) :
    Leads plan entries (columnPatch "remove_column" table column)
      (if (listings plan (lower table) (lower column)).length = 1 then marked table column
          (if filtersBy plan (lower table) (lower column) then some (.text "filter") else none) (offersOf plan entries)
      else offersOf plan entries) := by
  have hrd := hof.toReadable
  obtain ⟨ht, hc⟩ := h.ne_empty hrd
  obtain ⟨z, hz, hpe⟩ := exists_of_roleIn (hrd.listed s h.selected) ⟨column, rfl⟩ hro
  have hzn : nameAt z "column" = some (lower column) := by
    rw [← nameOf_peek, hpe]
    rfl
  obtain ⟨front, x, back, hp, hf, hn⟩ := exists_first ⟨z, hz, hzn⟩
  obtain ⟨pre, behind, hs, ho⟩ := exists_place hrd.distinct h.selected h.name
  have hr := removeColumn_listed hrd.formed hs ho h.name (nameOf.eq_1 (.text table))
    (nameOf.eq_1 (.text column)) hp hf hn
  refine ⟨_, (applyPatch_removePatch ht hc).trans hr, ?_⟩
  rw [h.options_removed hof hp hf hn (relisted_relist hrd.formed hs ho h.name _),
    listings_length hrd.distinct h.selected h.name, hp, named_first hf hn, length_cons]
  simp

end

lemma Readable.checkSortKey_eq {key : Value} (h : Readable plan entries) (hke : Sorts (offersOf plan entries) key) :
    checkSortKey (.list entries) key = .ok () := by
  obtain ⟨e, he, direction, hd, rfl⟩ := hke
  obtain ⟨s, hs, he⟩ := mem_flatMap.1 (show e ∈ (docsOf plan "selections").flatMap (sortOffers entries) from he)
  obtain ⟨y, hy, rfl⟩ := mem_map.1 he
  obtain ⟨table, ht, -⟩ := h.tables s hs
  obtain ⟨column, hc, -⟩ := (h.column_formed hy).2
  have ho : Offer plan entries table column s y := ⟨hs, ht, hy, hc⟩
  obtain ⟨kn, hk, hi⟩ := hasColumn_gives (nameOf.eq_1 (.text table)) (nameOf.eq_1 (.text column)) h.schema
  rw [hi.2 ho.hasColumn, ← ht, ← hc] at hk
  have hf : (sortKey (sortOffer (s.peek "table") y) direction).field "table" = .ok (s.peek "table") ∧
      (sortKey (sortOffer (s.peek "table") y) direction).field "column" = .ok (y.peek "column_name") ∧
      (sortKey (sortOffer (s.peek "table") y) direction).getD "direction" "ASC" = .ok (.text direction) :=
    ⟨rfl, rfl, rfl⟩
  simp only [checkSortKey, hf, hk, ok_bind]
  simp only [mem_cons, not_mem_nil, or_false] at hd
  rcases hd with rfl | rfl <;> rfl

lemma Readable.checkSortKeys_eq (h : Readable plan entries)
    (hk : ∀ key ∈ keys, Sorts (offersOf plan entries) key) : keys.forM (checkSortKey (.list entries)) = .ok () := by
  induction keys with
  | nil => rfl
  | cons key keys ih =>
    obtain ⟨hke, hr⟩ := forall_mem_cons.1 hk
    show (checkSortKey (.list entries) key >>= fun _ => keys.forM (checkSortKey (.list entries))) = .ok ()
    rw [h.checkSortKey_eq hke, ok_bind, ih hr]

lemma Readable.order_leads (h : Readable plan entries) (hke : ∀ key ∈ keys, Sorts (offersOf plan entries) key) :
    Leads plan entries (orderPatch keys) ((offersOf plan entries).update [("current_order_by", .list keys)]) := by
  have hk := h.formed.record.kept_self "order_by" (.list keys)
  have hd : docsOf (plan.update [("order_by", .list keys)]) "selections" = docsOf plan "selections" :=
    docsOf_kept hk h.formed.record
  have hrd : Readable (plan.update [("order_by", .list keys)]) entries := by
    have hl := h.formed.list.congr (hk.at? "selections")
    refine ⟨h.formed.of_kept hk (by simp) (by simp) hl ?_, h.schema, ?_, ?_, h.columns, ?_⟩
    all_goals rw [hd]
    · exact h.formed.selections
    · exact h.tables
    · exact h.listed
    · exact h.distinct
  refine ⟨plan.update [("order_by", .list keys)], ?_, ?_⟩
  · show setOrder plan (.list keys) (.list entries) = _
    simp only [setOrder, items, ok_bind, h.checkSortKeys_eq hke, h.formed.record.setField]
    rfl
  · rw [hrd.options_eq, offersOf, hd, h.formed.record.at?_self, hk.peek "limit"]
    rfl

/-- What is offered can be taken. The options list every column that the schema has for a selected table, with the
role in which it is listed. A column that is not selected can be added, and the options then show it; one that is
shown can be removed, and is then shown as it was if it is listed again, and otherwise not selected, or only to
filter by. Every order by keys that are offered can be set. No other entry changes. -/
theorem offers_can_be_taken (h : Offered plan entries) :
    options plan (.list entries) = .ok (offersOf plan entries) ∧
    (∀ table column e, Offers (offersOf plan entries) table e → e.peek "name" = .text column →
      (e.peek "selected" = .bool false → Leads plan entries (columnPatch "add_column" table column)
        (marked table column (some (.text "projection")) (offersOf plan entries))) ∧
      (e.peek "role" = .text "projection" → Leads plan entries (columnPatch "remove_column" table column)
        (if (listings plan (lower table) (lower column)).length = 1 then
          marked table column
            (if filtersBy plan (lower table) (lower column) then some (.text "filter") else none)
            (offersOf plan entries)
        else offersOf plan entries))) ∧
    ∀ keys, (∀ key ∈ keys, Sorts (offersOf plan entries) key) →
      Leads plan entries (orderPatch keys) ((offersOf plan entries).update [("current_order_by", .list keys)]) := by
  have hrd := h.toReadable
  refine ⟨hrd.options_eq, fun table column e hof hn => ?_, fun keys => hrd.order_leads⟩
  obtain ⟨s, hs, ht, y, hy, rfl⟩ := hof.entry hrd
  have hc : y.peek "column_name" = .text column := hn
  have ho : Offer plan entries table column s y := ⟨hs, ht, hy, hc⟩
  rw [hc]
  refine ⟨fun hse => ho.add_leads h ?_, fun hr => ho.remove_leads h fun hno => ?_⟩
  · have hse : bool (roleIn (docsOf s "columns") (.text column)).isSome = .bool false := hse
    simpa using hse
  · rw [hno] at hr
    cases hr

end

/-! Plans for the shipments of a store, filtered by their state. -/

def depotTables : List Value := [
  .record [("table_name", "Shipments"), ("columns", .list [
    .record [("column_name", "Id"), ("data_type", "int"), ("is_primary_key", .bool true)],
    .record [("column_name", "State"), ("data_type", "nvarchar")],
    .record [("column_name", "Weight"), ("data_type", .null)]])],
  .record [("table_name", "Depots"), ("columns", .list [.record [("column_name", "City"), ("data_type", "text")]])]]

def sentShipments (columns : List String) : Value :=
  .record [("table", "Shipments"), ("alias", "s"), ("columns", .list (columns.map fun c =>
      .record [("table", "Shipments"), ("column", .text c), ("role", "projection")])),
    ("filters", .list [.record [("table", "Shipments"), ("column", "STATE"), ("op", "="), ("value", "sent")]])]

def shipmentPlan (columns : List String) : Value :=
  .record [("decision", "proceed"), ("selections", .list [sentShipments columns, .record [("table", "depots")]])]

lemma shipmentPlan_offered (hrd : Readable (shipmentPlan columns) depotTables)
    (h : ∀ c ∈ columns, c ∈ ["Id", "State", "Weight"]) : Offered (shipmentPlan columns) depotTables := by
  refine ⟨hrd, forall_mem_cons.2 ⟨fun x hx y hy hna => ?_, forall_mem_singleton.2 nofun⟩⟩
  obtain ⟨c, hc, rfl⟩ := mem_map.1 hx
  have hk : ∀ y ∈ columnsFor depotTables (sentShipments columns),
      ∃ n ∈ ["Id", "State", "Weight"], y.peek "column_name" = .text n := by
    exact forall_mem_cons.2 ⟨⟨"Id", by simp, rfl⟩, forall_mem_cons.2 ⟨⟨"State", by simp, rfl⟩,
      forall_mem_singleton.2 ⟨"Weight", by simp, rfl⟩⟩⟩
  obtain ⟨n, hn, hp⟩ := hk y hy
  rw [← nameOf_peek, ← nameOf_peek, hp] at hna
  have hl : ∀ c ∈ ["Id", "State", "Weight"], ∀ n ∈ ["Id", "State", "Weight"],
      lower c = lower n → c = n := by decide
  rw [hp, ← hl c (h c hc) n hn (Option.some.inj hna)]
  rfl

theorem offers_can_be_taken_shipments :
    Leads (shipmentPlan ["Id", "State"]) depotTables (columnPatch "remove_column" "Shipments" "State")
      (marked "Shipments" "State" (some (.text "filter")) (offersOf (shipmentPlan ["Id", "State"]) depotTables)) ∧
    Leads (shipmentPlan ["Id", "State"]) depotTables (columnPatch "remove_column" "Shipments" "Id")
      (marked "Shipments" "Id" none (offersOf (shipmentPlan ["Id", "State"]) depotTables)) ∧
    Leads (shipmentPlan ["Id", "State"]) depotTables (columnPatch "add_column" "depots" "City")
      (marked "depots" "City" (some (.text "projection")) (offersOf (shipmentPlan ["Id", "State"]) depotTables)) := by
  have hr : Readable (shipmentPlan ["Id", "State"]) depotTables := of_decide_eq_true rfl
  obtain ⟨-, hc, -⟩ := offers_can_be_taken (shipmentPlan_offered hr (by decide))
  have hid := (hc "Shipments" "Id" _ (.head _) rfl).2 rfl
  have hs := (hc "Shipments" "State" _ (.tail _ (.head _)) rfl).2 rfl
  have hci := (hc "depots" "City" _ (.head _) rfl).1 rfl
  exact ⟨hs, hid, hci⟩

/-- A column that is listed twice is still offered as shown after it is removed. -/
theorem removed_column_still_shown : Offered (shipmentPlan ["Id", "Id", "State"]) depotTables ∧
    filtersBy (shipmentPlan ["Id", "Id", "State"]) "shipments" "id" = false ∧
    ∃ plan' doc e, applyPatch (shipmentPlan ["Id", "Id", "State"]) (columnPatch "remove_column" "Shipments" "Id")
        (.list depotTables) = .ok plan' ∧
      options plan' (.list depotTables) = .ok doc ∧ Offers doc "Shipments" e ∧
      e.peek "name" = .text "Id" ∧ e.peek "selected" = .bool true ∧ e.peek "role" = .text "projection" :=
  ⟨shipmentPlan_offered (of_decide_eq_true rfl) (by decide), rfl, _, _, _, rfl, rfl, .head _, rfl, rfl, rfl⟩

end QueryDesk.Plan
