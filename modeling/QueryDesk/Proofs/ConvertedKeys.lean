import QueryDesk.Domain.Conversion
import QueryDesk.Proofs.MarkedRuns
import QueryDesk.Proofs.ThreadStore

/-!
The file of foreign keys that is made from a workbook. Every row with a table, a column and a chosen table has an entry
in the file, whatever stands for the chosen table: the name of a table, or the word for a row that was left out or
whose reference is known.
-/

namespace QueryDesk

open Attempt Desk List Value Option

/-! ### Writing documents -/

namespace Json

lemma itemPieces_ok : ∀ {vs : List Value} {first : Bool}, (∀ v ∈ vs, ∀ p ∈ pieces st depth v, ∃ s, p = .ok s) →
    ∀ p ∈ itemPieces st depth first vs, ∃ s, p = .ok s
  | [], _, _, p, hp => by simp [itemPieces] at hp
  | v :: vs, first, h, p, hp => by
    rw [itemPieces, cons_append, mem_cons, mem_append] at hp
    rcases hp with rfl | hp | hp
    · exact ⟨_, rfl⟩
    · exact h v (by simp) p hp
    · exact itemPieces_ok (fun v hv => h v (by simp [hv])) p hp

lemma fieldPieces_ok : ∀ {fs : Fields} {first : Bool}, (∀ f ∈ fs, ∀ p ∈ pieces st depth f.2, ∃ s, p = .ok s) →
    ∀ p ∈ fieldPieces st depth first fs, ∃ s, p = .ok s
  | [], _, _, p, hp => by simp [fieldPieces] at hp
  | f :: fs, first, h, p, hp => by
    rw [fieldPieces, onePieces, cons_append, mem_cons, cons_append, mem_cons, mem_append] at hp
    rcases hp with rfl | rfl | hp | hp
    · exact ⟨_, rfl⟩
    · exact ⟨_, rfl⟩
    · exact h f (by simp) p hp
    · exact fieldPieces_ok (fun f hf => h f (by simp [hf])) p hp

lemma framed_ok {ps : List Piece} {start space stop : String} (h : ∀ p ∈ ps, ∃ s, p = .ok s) :
    ∀ p ∈ .ok start :: ps ++ [.ok space, .ok stop], ∃ s, p = .ok s := by
  intro p hp
  simp only [cons_append, mem_cons, mem_append, not_mem_nil, or_false] at hp
  rcases hp with rfl | hp | rfl | rfl
  · exact ⟨_, rfl⟩
  · exact h p hp
  · exact ⟨_, rfl⟩
  · exact ⟨_, rfl⟩

lemma pieces_ok {v : Value} (h : v.IsJson) : ∀ depth, ∀ p ∈ pieces st depth v, ∃ s, p = .ok s := by
  -- What is inside a list or an object stands one level deeper, so all depths go through the induction.
  induction h with
  | null | bool | int | float | text =>
    intro depth p hp
    rw [pieces, mem_singleton] at hp
    exact ⟨_, hp⟩
  | @list xs _ ih =>
    intro depth p hp
    cases xs with
    | nil =>
      rw [pieces, mem_singleton] at hp
      exact ⟨_, hp⟩
    | cons => exact framed_ok (itemPieces_ok fun v hv => ih v hv _) p hp
  | @record fs _ ih =>
    intro depth p hp
    cases fs with
    | nil =>
      rw [pieces, mem_singleton] at hp
      exact ⟨_, hp⟩
    | cons => exact framed_ok (fieldPieces_ok fun f hf => ih f hf _) p hp

lemma exists_write (st : Style) (h : v.IsJson) : ∃ text, write st v = .ok text := by
  obtain ⟨texts, ht⟩ : ∃ texts, (pieces st 0 v).mapM id = .ok texts := exists_mapM (pieces_ok h 0)
  rw [Json.write, gather, ht]
  exact ⟨_, rfl⟩

end Json

/-! ### Lines on the console -/

/-- A step that always gets to its end and leaves the files that were written as they are. -/
def Speaks {α : Type} (step : Desk α) : Prop := ∀ s t, ∃ a t', Gives step s t a t' ∧ t'.written = t.written

namespace Speaks

variable {α β : Type}

lemma say (line : String) : Speaks (Console.say line) := fun _ _ => ⟨(), _, rfl, rfl⟩

lemma pure : Speaks (pure a) := fun _ t => ⟨a, t, rfl, rfl⟩

lemma bind (hm : Speaks m) (hf : ∀ a, Speaks (f a)) : Speaks (m >>= f) := by
  intro s t
  obtain ⟨a, t₁, ha, hs⟩ := hm s t
  obtain ⟨b, t₂, hb, hs'⟩ := hf a s t₁
  exact ⟨b, t₂, ha.bind hb, hs'.trans hs⟩

lemma forIn (hf : ∀ x b, Speaks (f x b)) :
    ∀ {xs : List α} {b : β}, Speaks (forIn xs b f) := by
  intro xs
  induction xs with
  | nil =>
    exact .pure
  | cons x xs ih =>
    intro b
    rw [forIn_cons]
    refine .bind (hf x b) fun r => ?_
    cases r with
    | done => exact .pure
    | yield => exact ih

end Speaks

lemma Desk.Gives.onward
    {P : Traffic → Prop} (hm : Gives m s t a t₁) (hf : ∃ b t', Gives (f a) s t₁ b t' ∧ P t') :
    ∃ b t', Gives (m >>= f) s t b t' ∧ P t' := by
  obtain ⟨b, t', hb, hP⟩ := hf
  exact ⟨b, t', hm.bind hb, hP⟩

/-! ### Making the file -/

namespace Domain

def Grid.at (g : Grid) (i c : Nat) : Value := ((g.rows[i]?).bind fun row => row[c]?).getD .null

/-- A row from whose cells the table, the column and the chosen table can be read. -/
def Grid.Told (g : Grid) (i : Nat) : Prop := g.at i 0 ≠ .null ∧ g.at i 1 ≠ .null ∧ g.at i 14 ≠ .null

/-- The foreign key in a row of a sheet, by the places of its cells; none if one of them is missing. -/
def rowKey? (row : List Value) : Option KeyRow :=
  let cell := fun i : Nat => row[i]?.getD null
  if (cell 0).isNull || (cell 1).isNull || (cell 14).isNull then none
  else some ⟨cellText (cell 0), cellText (cell 1), cellText (cell 14)⟩

def groupDocument (group : String × List KeyRow) : Value :=
  .record [("table_name", .text group.1), ("foreign_keys", .list (group.2.map KeyRow.document))]

variable {g : Grid} {k : KeyRow} {keys : List KeyRow} {group : String × List KeyRow}

lemma keyRow?_eq (h : g.columns = Sheet.headings) (row : List Value) : keyRow? g row = .ok (rowKey? row) := by
  have hta : g.cell row "table_name" = .ok (row[0]?.getD .null) := by
    rw [Grid.cell, h]
    rfl
  have hc : g.cell row "fk_column" = .ok (row[1]?.getD .null) := by
    rw [Grid.cell, h]
    rfl
  have ht : g.cell row "chosen_table" = .ok (row[14]?.getD .null) := by
    rw [Grid.cell, h]
    rfl
  simp only [keyRow?, hta, hc, ht, rowKey?, ok_bind]
  generalize row[0]?.getD null = table, row[1]?.getD null = column, row[14]?.getD null = target
  cases table.isNull <;> cases column.isNull <;> cases target.isNull <;> rfl

lemma keysOf_eq (h : g.columns = Sheet.headings) : keysOf g = .ok (groupKeys (g.rows.filterMap rowKey?)) := by
  have hr : g.rows.mapM (keyRow? g) = .ok (g.rows.map rowKey?) := mapM_eq_map fun row _ => keyRow?_eq h row
  rw [keysOf, hr, ok_bind, filterMap_map]
  rfl

lemma of_mem_groupKeys (hg : group ∈ groupKeys keys) (hk : k ∈ group.2) : k ∈ keys ∧ k.table = group.1 := by
  obtain ⟨tb, -, rfl⟩ := mem_map.1 hg
  obtain ⟨hke, ht⟩ := mem_filter.1 hk
  exact ⟨hke, beq_iff_eq.1 ht⟩

lemma exists_mem_groupKeys (hk : k ∈ keys) : ∃ group ∈ groupKeys keys, k ∈ group.2 := by
  refine ⟨(k.table, keys.filter fun k' => k'.table == k.table), mem_map.2 ⟨k.table, ?_, rfl⟩, ?_⟩
  · rw [mem_mergeSort, mem_eraseDups]
    exact mem_map_of_mem hk
  · exact mem_filter.2 ⟨hk, beq_self_eq_true _⟩

lemma isJson_groupDocument (group : String × List KeyRow) : (groupDocument group).IsJson := by
  have hk : ∀ k : KeyRow, k.document.IsJson := by
    intro k
    refine .record fun f hf => ?_
    simp only [mem_cons, not_mem_nil, or_false] at hf
    rcases hf with rfl | rfl <;> exact .text _
  refine .record fun f hf => ?_
  simp only [mem_cons, not_mem_nil, or_false] at hf
  rcases hf with rfl | rfl
  · exact .text _
  · refine .list fun v hv => ?_
    obtain ⟨k, -, rfl⟩ := mem_map.1 hv
    exact hk k

lemma rowKey?_eq_some : rowKey? row = some k ↔
    (row[0]?.getD .null ≠ .null ∧ row[1]?.getD .null ≠ .null ∧ row[14]?.getD .null ≠ .null) ∧
      k = ⟨cellText (row[0]?.getD .null), cellText (row[1]?.getD .null), cellText (row[14]?.getD .null)⟩ := by
  simp only [rowKey?, ite_none_left_eq_some, Bool.or_eq_true, not_or, Bool.not_eq_true, isNull_eq_false,
    some.injEq, and_assoc, eq_comm (b := k)]

lemma mem_rowKeys : k ∈ g.rows.filterMap rowKey? ↔
    ∃ i, g.Told i ∧ k = ⟨cellText (g.at i 0), cellText (g.at i 1), cellText (g.at i 14)⟩ := by
  rw [mem_filterMap]
  constructor
  · rintro ⟨row, hr, hk⟩
    obtain ⟨i, hi, rfl⟩ := getElem_of_mem hr
    refine ⟨i, ?_⟩
    simp only [Grid.Told, Grid.at, getElem?_eq_getElem hi, bind_some]
    exact rowKey?_eq_some.1 hk
  · rintro ⟨i, ht, rfl⟩
    by_cases hi : i < g.rows.length
    · refine ⟨g.rows[i], getElem_mem hi, rowKey?_eq_some.2 ?_⟩
      simp only [Grid.Told, Grid.at, getElem?_eq_getElem hi, bind_some] at ht ⊢
      exact ⟨ht, trivial⟩
    · simp [Grid.Told, Grid.at, getElem?_eq_none (Nat.le_of_not_lt hi)] at ht

lemma speaks_sayGrid (name : String) (g : Grid) : Speaks (sayGrid name g) :=
  .bind (.say _) fun _ => .bind (.say _) fun _ => .bind (.say _) fun _ => .bind (.say _) fun _ => .say _

lemma writeDocument_gives (name : String) {es : List Value} (h : ∀ v ∈ es, v.IsJson) (s : Surroundings)
    (t : Traffic) : ∃ text t', Gives (writeDocument name es) s t () t' ∧ t'.written.lookup name = some text ∧
      Json.write .file (.list es) = .ok text := by
  obtain ⟨text, ht⟩ := Json.exists_write .file (.list h)
  refine ⟨text, _, (Gives.lift ht).bind rfl, ?_, ht⟩
  exact lookup_cons_self

/-- Making the file from a sheet with the headings of a workbook gets to its end, and the file holds the keys of the
rows by table. -/
lemma convertKeys_gives (h : g.columns = Sheet.headings) (s : Surroundings) (t : Traffic) :
    ∃ text t', Gives (convertKeys g) s t () t' ∧ t'.written.lookup keysName = some text ∧
      Json.write .file (.list ((groupKeys (g.rows.filterMap rowKey?)).map groupDocument)) = .ok text := by
  generalize hgr : groupKeys (g.rows.filterMap rowKey?) = groups
  have hk : keysOf g = .ok groups := hgr ▸ keysOf_eq h
  have hj : ∀ v ∈ groups.map groupDocument, v.IsJson := by
    intro v hv
    obtain ⟨group, -, rfl⟩ := mem_map.1 hv
    exact isJson_groupDocument group
  obtain ⟨⟨⟩, t₁, hs, -⟩ := speaks_sayGrid "fk_mappings_CWPR_11-03-25.xlsx" g s t
  obtain ⟨text, t₂, hw, hf, ht⟩ := writeDocument_gives keysName hj s t₁
  -- Once the file is written, only lines for a person follow.
  have he : ∃ u t', Gives (convertKeys g) s t u t' ∧ t'.written = t₂.written := by
    refine hs.onward ((Gives.lift hk).onward (hw.onward ?_))
    refine Speaks.bind (.say _) (fun _ => ?_) s t₂
    exact .bind (.say _) fun _ => .bind (.say _) fun _ => .bind (.say _) fun _ => .bind (.say _) fun _ =>
      .bind (.say _) fun _ => .bind (.forIn fun _ _ => .bind (.say _) fun _ => .pure) fun _ => .pure
  obtain ⟨⟨⟩, t₃, hg, hsa⟩ := he
  refine ⟨text, t₃, hg, ?_, ht⟩
  rw [hsa]
  exact hf

end Domain

/-! ### The file that is made from a workbook -/

namespace Mapping

open Domain Schema Sheet

/-- What is read from a sheet: its heading gives the columns, and each row below it is a row. A cell may be missed. -/
structure ReadFrom (sheet : Sheet) (g : Grid) : Prop where
  columns : sheet.rows[0]? = some (g.columns.map .text)
  rows : g.rows.length + 1 ≤ sheet.lastRow
  cells : ∀ i c, g.at i c = .null ∨ g.at i c = sheet.cell (i + 2) (c + 1)

/-- What a file calls the table that a row refers to, by the word on how it was chosen. -/
inductive Refers (names : List String) : Value → String → Prop
  | existing : Refers names "existing" "[EXISTING]"
  | skipped : Refers names "skipped" "[SKIPPED]"
  | chosen {name word : String} (hname : name ∈ names) (hword : word ∈ ["auto", "manual"]) :
      Refers names (.text word) (Text.trim name)

/-- A key that is in a file for a row: it has the texts of the row's cells, and its target goes with the word on how it
was chosen. -/
structure StandsFor (names : List String) (sheet : Sheet) (r : Nat) (k : KeyRow) : Prop where
  row : 2 ≤ r ∧ sheet.HasRow r
  table : k.table = cellText (sheet.cell r 1)
  column : k.column = cellText (sheet.cell r 2)
  target : k.target = cellText (sheet.cell r chosenColumn)
  refers : Refers names (sheet.cell r kindColumn) k.target

section

variable {index : Option SearchIndex} {database : String} {tables : List TableRecord} {names : List String}
  {next : Option Station} {state : Value} {t : Traffic} {row : Option Nat} {sheet : Sheet} {g : Grid} {i : Nat}

lemma refers_of_mark {chosen kind : Value} (h : Mark names chosen kind) (hc : chosen ≠ .null) :
    Refers names kind (cellText chosen) := by
  cases h with
  | unset => exact absurd rfl hc
  | existing => exact .existing
  | skipped => exact .skipped
  | chosen hn hw => exact .chosen hn hw

lemma ReadFrom.columns_eq (h : ReadFrom sheet g) (hp : Proper names row sheet) : g.columns = headings := by
  have hm := h.columns.symm.trans hp.heading
  exact map_injective_iff.2 (fun a b hab => text.inj hab) (some.inj hm)

lemma ReadFrom.hasRow (h : ReadFrom sheet g) (ht : g.Told i) : sheet.HasRow (i + 2) := by
  have hi : i < g.rows.length := by
    by_contra hi
    exact ht.1 (by simp [Grid.at, getElem?_eq_none (Nat.le_of_not_lt hi)])
  have hr := h.rows
  exact ⟨by omega, by omega⟩

lemma readFrom_rows (h : Proper names row sheet) : ReadFrom sheet ⟨headings, sheet.rows.tail⟩ := by
  have hr : sheet.rows = headings.map .text :: sheet.rows.tail :=
    (cons_head?_tail (head?_eq_getElem? ▸ h.heading)).symm
  refine ⟨h.heading, ?_, fun i c => .inr ?_⟩
  · rw [lastRow, hr]
    exact Nat.le_refl _
  · rw [Grid.at, cell, getElem?_tail]
    rfl

lemma ReadFrom.standsFor (h : ReadFrom sheet g) (hp : Proper names row sheet) (ht : g.Told i) :
    StandsFor names sheet (i + 2) ⟨cellText (g.at i 0), cellText (g.at i 1), cellText (g.at i 14)⟩ := by
  have hr := h.hasRow ht
  obtain ⟨hta, hco, hc⟩ := ht
  have hce : g.at i 14 = sheet.cell (i + 2) chosenColumn := (h.cells i 14).resolve_left hc
  rw [hce] at hc
  rw [(h.cells i 0).resolve_left hta, (h.cells i 1).resolve_left hco, hce]
  exact ⟨⟨by omega, hr⟩, rfl, rfl, rfl, refers_of_mark (hp.marks _ (by omega) hr) hc⟩

lemma Progress.follow_work (s : Surroundings) (n : Nat) {p : Progress}
    (h : Work none database tables p.next p.state p.traffic) :
    Work none database tables (p.follow (workbookPath database) s n).next
      (p.follow (workbookPath database) s n).state (p.follow (workbookPath database) s n).traffic := by
  refine follow_of_step (P := fun p => Work none database tables p.next p.state p.traffic) ?_ n h
  intro p h
  obtain hs | ⟨stn, after, next, t, hst, -, hr, hn, heq⟩ := p.step_cases (workbookPath database) s
  · rw [hs]
    exact h
  · rw [heq]
    rw [hst] at h
    exact h.visited rfl (by simp [FindsTables]) hr hn

/-- From a workbook, as far as the work on it has come, the file of foreign keys can always be made. Every entry
stands for a row of the workbook, and every row whose table, column and chosen table can be read has an entry. What is
called the table it refers to is the name of a table of the schema only if one was chosen; for a row that was left out
and for a known reference it is the word for that. -/
theorem converted_targets (h : Work index database tables next state t) :
    ∃ sheet, t.workbooks.lookup (workbookPath database) = some sheet ∧
      ∀ g, ReadFrom sheet g → ∀ s t₁, ∃ (groups : List (String × List KeyRow)) (text : String) (t₂ : Traffic),
        Gives (convertKeys g) s t₁ () t₂ ∧ t₂.written.lookup keysName = some text ∧
        Json.write .file (.list (groups.map groupDocument)) = .ok text ∧
        (∀ group ∈ groups, ∀ k ∈ group.2, k.table = group.1 ∧
          ∃ i, g.Told i ∧ StandsFor (tables.map TableRecord.name) sheet (i + 2) k) ∧
        ∀ i, g.Told i → ∃ group ∈ groups, ∃ k ∈ group.2,
          StandsFor (tables.map TableRecord.name) sheet (i + 2) k := by
  obtain ⟨-, row, sheet, -, hs, hp⟩ := h.proper
  refine ⟨sheet, hs, fun g hr s t₁ => ?_⟩
  obtain ⟨text, t₂, hg, hf, hte⟩ := convertKeys_gives (hr.columns_eq hp) s t₁
  refine ⟨_, text, t₂, hg, hf, hte, fun group hgr k hk => ?_, fun i ht => ?_⟩
  · obtain ⟨hke, hta⟩ := of_mem_groupKeys hgr hk
    obtain ⟨i, ht, rfl⟩ := mem_rowKeys.1 hke
    exact ⟨hta, i, ht, hr.standsFor hp ht⟩
  · obtain ⟨group, hgr, hk⟩ := exists_mem_groupKeys (mem_rowKeys.2 ⟨i, ht, rfl⟩)
    exact ⟨group, hgr, _, hk, hr.standsFor hp ht⟩

end

/-! Orders of products, which is a reference that is known, from stores, for which there is no table. Nothing can be
searched, so the store is left out. -/

def storeReply : Fields :=
  [("orders", .record [
      ("columns", .list [.record [("name", "productID"), ("type", "INTEGER"), ("nullable", .bool true)],
        .record [("name", "storeID"), ("type", "INTEGER"), ("nullable", .bool true)]]),
      ("pk", .record [("constrained_columns", .list [])]),
      ("fks", .list [.record [("constrained_columns", .list ["productID"]), ("referred_table", "products"),
        ("referred_columns", .list ["code"])]])]),
    ("products", .record [
      ("columns", .list [.record [("name", "code"), ("type", "INTEGER"), ("nullable", .bool false)]]),
      ("pk", .record [("constrained_columns", .list ["code"])]), ("fks", .list [])])]

def storeDesk : Surroundings where
  env := [("USE_TEST_DB", "true")]
  inspector := some storeReply

def storeTables : List TableRecord :=
  [⟨"orders", [⟨"productID", "INTEGER", .bool true⟩, ⟨"storeID", "INTEGER", .bool true⟩], .null,
      [⟨"productID", "products", "code"⟩]⟩,
    ⟨"products", [⟨"code", "INTEGER", .bool false⟩], "code", []⟩]

/-- The work on the workbook of the orders once it is made. -/
def storeBeginning : Progress :=
  match carryOut (prepare (initialState "shop" shopOptions)) storeDesk {} with
  | (.ok state, t) => ⟨[], some .loadNextRow, state, t⟩
  | (.error _, t) => ⟨[], none, .null, t⟩

/-- The work on the workbook of the orders after nine stations. -/
def storeEnd : Progress := storeBeginning.follow (workbookPath "shop") storeDesk 9

lemma storeEnd_work : Work none "shop" storeTables storeEnd.next storeEnd.state storeEnd.traffic := by
  refine Progress.follow_work storeDesk 9 ?_
  have hp : Gives (prepare (initialState "shop" shopOptions)) storeDesk {} storeBeginning.state
    storeBeginning.traffic := by rfl
  exact .begun rfl hp rfl

lemma storeEnd_keys : storeEnd.next = none ∧
    ∃ sheet, storeEnd.traffic.workbooks.lookup (workbookPath "shop") = some sheet ∧
      (sheet.rows.tail.filterMap rowKey?).map (fun k => (k.table, k.column, k.target)) =
        [("orders", "productID", "[EXISTING]"), ("orders", "storeID", "[SKIPPED]")] := by
  have he : (storeEnd.next, (storeEnd.traffic.workbooks.lookup (workbookPath "shop")).map fun sheet =>
      (sheet.rows.tail.filterMap rowKey?).map fun k => (k.table, k.column, k.target)) =
        (none, some [("orders", "productID", "[EXISTING]"), ("orders", "storeID", "[SKIPPED]")]) := by decide +kernel
  obtain ⟨hn, hk⟩ := Prod.mk.inj he
  exact ⟨hn, map_eq_some_iff.1 hk⟩

theorem converted_targets_store : ∃ next state t, Work none "shop" storeTables next state t ∧
    ∃ sheet, t.workbooks.lookup (workbookPath "shop") = some sheet ∧ ∃ g, ReadFrom sheet g ∧
      ∃ groups t₁, Gives (convertKeys g) storeDesk {} () t₁ ∧
        (∃ text, t₁.written.lookup keysName = some text ∧
          Json.write .file (.list (map groupDocument groups)) = .ok text) ∧
        ∃ i, g.Told i ∧ ∃ group ∈ groups, ∃ k ∈ group.2,
          StandsFor (storeTables.map TableRecord.name) sheet (i + 2) k := by
  obtain ⟨-, sheet, hs, hke⟩ := storeEnd_keys
  obtain ⟨-, _, _, -, hf, hp⟩ := storeEnd_work.proper
  obtain ⟨_, hf', hc⟩ := converted_targets storeEnd_work
  obtain rfl := some.inj (hs.symm.trans hf)
  obtain rfl := some.inj (hs.symm.trans hf')
  have hr := readFrom_rows hp
  obtain ⟨groups, text, t₁, hg, hfi, ht, -, hto⟩ := hc _ hr storeDesk {}
  refine ⟨_, _, _, storeEnd_work, sheet, hs, _, hr, groups, t₁, hg, ⟨text, hfi, ht⟩, ?_⟩
  obtain ⟨k, hk, -⟩ := mem_map.1 (hke ▸ mem_cons_self)
  obtain ⟨i, hi, -⟩ := (mem_rowKeys (g := ⟨headings, sheet.rows.tail⟩)).1 hk
  exact ⟨i, hi, hto i hi⟩

/-- The words for a known reference and for a row that was left out are in the file in the place of a table. -/
theorem placeholders_written : ∃ state t, Work none "shop" storeTables none state t ∧
    ∃ sheet, t.workbooks.lookup (workbookPath "shop") = some sheet ∧ ∃ g, ReadFrom sheet g ∧
      ∃ groups t₁, Gives (convertKeys g) storeDesk {} () t₁ ∧
        (∃ text, t₁.written.lookup keysName = some text ∧
          Json.write .file (.list (map groupDocument groups)) = .ok text) ∧
        ∀ word ∈ ["[EXISTING]", "[SKIPPED]"], word ∉ storeTables.map TableRecord.name ∧
          ∃ group ∈ groups, ∃ k ∈ group.2, k.target = word := by
  obtain ⟨hn, sheet, hs, hke⟩ := storeEnd_keys
  obtain ⟨-, _, _, -, hf, hp⟩ := storeEnd_work.proper
  obtain rfl := some.inj (hs.symm.trans hf)
  have hr := readFrom_rows hp
  obtain ⟨text, t₁, hg, hfi, ht⟩ := convertKeys_gives (hr.columns_eq hp) storeDesk {}
  refine ⟨_, _, hn ▸ storeEnd_work, sheet, hs, _, hr, _, t₁, hg, ⟨text, hfi, ht⟩, ?_⟩
  intro word hwo
  refine ⟨?_, ?_⟩
  · revert word
    decide
  · have hw : word ∈ ((sheet.rows.tail.filterMap rowKey?).map fun k => (k.table, k.column, k.target)).map
        (·.2.2) := hke ▸ hwo
    obtain ⟨_, hm, rfl⟩ := mem_map.1 hw
    obtain ⟨k, hk, rfl⟩ := mem_map.1 hm
    obtain ⟨group, hgr, hk⟩ := exists_mem_groupKeys hk
    exact ⟨group, hgr, k, hk, rfl⟩

end Mapping

end QueryDesk
