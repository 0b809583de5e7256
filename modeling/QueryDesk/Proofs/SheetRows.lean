import QueryDesk.Mapping.Workbook
import QueryDesk.Proofs.Names

/-!
The rows of a sheet. A row is open while it has no chosen table; the open rows are worked off from above, and
deciding on the first of them leaves the others as they are. Notes on a row, such as the candidates that were
found for it, do not decide it.
-/

namespace QueryDesk

open Attempt List

namespace Sheet

def Full (sheet : Sheet) : Prop := ∀ cells ∈ sheet.rows, width ≤ cells.length

instance (sheet : Sheet) : Decidable sheet.Full :=
  inferInstanceAs (Decidable (∀ cells ∈ sheet.rows, width ≤ cells.length))

def HasRow (sheet : Sheet) (row : Nat) : Prop := 1 ≤ row ∧ row ≤ sheet.lastRow

/-- The rows below the heading whose chosen table is empty, from above. -/
def openRows (sheet : Sheet) : List Nat :=
  (range' 2 (sheet.lastRow - 1)).filter fun i => !(sheet.cell i chosenColumn).truthy

def kinds : List String := ["auto", "manual", "skipped"]

/-- A row with a chosen table and a word on how it was chosen. -/
structure Decided (sheet : Sheet) (row : Nat) : Prop where
  table : IsName (sheet.cell row chosenColumn)
  kind : ∃ word ∈ kinds, sheet.cell row kindColumn = .text word

/-- Two sheets that differ in one row at most. -/
structure SameBut (row : Option Nat) (sheet sheet' : Sheet) : Prop where
  full : sheet.Full → sheet'.Full
  rows : ∀ i, some (i + 1) ≠ row → sheet'.rows[i]? = sheet.rows[i]?
  height : sheet'.lastRow = sheet.lastRow

/-- Two sheets that differ in one row at most, and which is open in both or in neither. -/
structure Noted (row : Option Nat) (sheet sheet' : Sheet) : Prop extends SameBut row sheet sheet' where
  chosen : ∀ r ∈ row, (sheet'.cell r chosenColumn).truthy = (sheet.cell r chosenColumn).truthy

section

variable {sheet : Sheet} {row : Option Nat}

lemma nextOpen?_eq (sheet : Sheet) : sheet.nextOpen? = sheet.openRows.head? := head?_filter.symm

lemma openRows_sorted (sheet : Sheet) : sheet.openRows.Pairwise (· < ·) := (pairwise_lt_range' 1).filter _

lemma hasRow_of_open (h : r ∈ sheet.openRows) : sheet.HasRow r := by
  rw [openRows, mem_filter, mem_range'_1] at h
  constructor <;> omega

lemma not_truthy_of_open (h : r ∈ sheet.openRows) : (sheet.cell r chosenColumn).truthy = false := by
  rw [openRows, mem_filter] at h
  simpa using h.2

lemma SameBut.trans (h : SameBut row sheet sheet') (h' : SameBut row sheet' sheet'') : SameBut row sheet sheet'' :=
  ⟨h'.full ∘ h.full, fun i hi => (h'.rows i hi).trans (h.rows i hi), h'.height.trans h.height⟩

lemma Noted.refl (row : Option Nat) (sheet : Sheet) : Noted row sheet sheet :=
  ⟨⟨id, fun _ _ => rfl, rfl⟩, fun _ _ => rfl⟩

lemma Noted.trans (h : Noted row sheet sheet') (h' : Noted row sheet' sheet'') : Noted row sheet sheet'' :=
  ⟨h.toSameBut.trans h'.toSameBut, fun r hr => (h'.chosen r hr).trans (h.chosen r hr)⟩

lemma SameBut.hasRow (h : SameBut row sheet sheet') (hr : sheet.HasRow r) : sheet'.HasRow r := by
  rw [HasRow, h.height]
  exact hr

lemma SameBut.cell_eq (h : SameBut row sheet sheet') (hr : 1 ≤ r) (hro : some r ≠ row) (column : Nat) :
    sheet'.cell r column = sheet.cell r column := by
  have hi : r - 1 + 1 = r := by omega
  rw [cell, cell, h.rows (r - 1) (by rwa [hi])]

/-! ### Setting a cell -/

variable {column : Nat}

lemma put_rows (h : sheet.HasRow r) :
    (sheet.put r column v).rows = sheet.rows.modify (r - 1) (setCell · column v) := by
  have hm : r - sheet.rows.length = 0 := by
    have hl : r ≤ sheet.rows.length := h.2
    omega
  simp [put, hm]

lemma put_sameBut (h : sheet.HasRow r) : SameBut (some r) sheet (sheet.put r column v) := by
  refine ⟨fun hf cells hc => ?_, fun i hi => ?_, ?_⟩
  · rw [put_rows h] at hc
    obtain ⟨i, hi, rfl⟩ := mem_iff_getElem.1 hc
    rw [getElem_modify]
    split
    · rw [setCell, length_set]
      exact hf _ (getElem_mem _)
    · exact hf _ (getElem_mem _)
  · have ho : r - 1 ≠ i := by
      have hfi := h.1
      rw [ne_eq, Option.some.injEq] at hi
      omega
    rw [put_rows h, getElem?_modify]
    simp [ho]
  · rw [lastRow, put_rows h, length_modify, lastRow]

/-- The cell that was set has its new content, and the others of the row have their old one. -/
lemma cell_put (hf : sheet.Full) (h : sheet.HasRow r) (hco : 1 ≤ column ∧ column ≤ width)
    (hc : 1 ≤ c) : (sheet.put r column v).cell r c = if c = column then v else sheet.cell r c := by
  have hl : r - 1 < sheet.rows.length := by
    have hfi := h.1
    have hl : r ≤ sheet.rows.length := h.2
    omega
  have hce := hf _ (getElem_mem hl)
  rw [cell, cell, put_rows h, getElem?_modify, getElem?_eq_getElem hl]
  simp only [Option.map_eq_map, Option.map_some, Option.bind_some, if_true, setCell, getElem?_set]
  by_cases hs : c = column
  · rw [if_pos (by omega), if_pos hs, if_pos (by omega), Option.getD_some]
  · rw [if_neg (by omega), if_neg hs]

/-! ### Open rows that are decided -/

lemma Noted.openRows_eq (h : Noted row sheet sheet') : sheet'.openRows = sheet.openRows := by
  rw [openRows, openRows, h.height]
  refine filter_congr fun i hi => ?_
  rw [mem_range'_1] at hi
  by_cases hr : some i = row
  · rw [h.chosen i hr.symm]
  · rw [h.cell_eq (by omega) hr]

lemma openRows_decided (h : SameBut (some r) sheet sh') (ho : sheet.openRows = r :: rest)
    (hc : (sh'.cell r chosenColumn).truthy = true) : sh'.openRows = rest := by
  have hot : sh'.openRows = sheet.openRows.filter (· ≠ r) := by
    rw [openRows, openRows, h.height, filter_filter]
    refine filter_congr fun i hi => ?_
    rw [mem_range'_1] at hi
    by_cases hr : i = r
    · simp [hr, hc]
    · have hce : sh'.cell i chosenColumn = sheet.cell i chosenColumn :=
        h.cell_eq (by omega) (by simpa using hr) _
      simp [hr, hce]
  have hs := sheet.openRows_sorted
  rw [ho, pairwise_cons] at hs
  rw [hot, ho, filter_cons_of_neg (by simp), filter_eq_self]
  intro i hi
  have hl := hs.1 i hi
  simp only [ne_eq, decide_eq_true_eq]
  omega

lemma Decided.congr (h : Decided sheet r) (hs : SameBut row sheet sheet') (hr : 1 ≤ r) (hro : some r ≠ row) :
    Decided sheet' r := by
  have hc := hs.cell_eq hr hro
  refine ⟨?_, ?_⟩
  · rw [hc]
    exact h.table
  · rw [hc]
    exact h.kind

end

end Sheet

/-! ### Sheets that are made, and what is written on them -/

namespace Workbook

open Sheet

lemma row_length (h : Sheet.row cells = .ok filled) : width ≤ filled.length := by
  simp only [Sheet.row, bind_ok, pure_ok] at h
  obtain ⟨contents, -, rfl⟩ := h
  simp only [length_append, length_replicate]
  omega

lemma sheetOf_full (h : sheetOf columns existing = .ok sheet) :
    sheet.Full := by
  simp only [sheetOf, bind_ok, pure_ok] at h
  obtain ⟨docs, -, rows, hro, rfl⟩ := h
  intro cells hc
  rcases mem_append.1 hc with hc | hc
  · obtain rfl := mem_singleton.1 hc
    exact Nat.le_refl width
  · obtain ⟨column, -, hr⟩ := (mapM_ok.1 hro).exists_left hc
    simp only [columnRow, bind_ok] at hr
    obtain ⟨parts, -, hr⟩ := hr
    split at hr
    · simp only [bind_ok] at hr
      obtain ⟨_, -, _, -, _, -, hr⟩ := hr
      exact row_length hr
    · cases hr

/-- The number of a row in a document, null if there is none. -/
def rowValue : Option Nat → Value
  | some r => .nat r
  | none => .null

variable {sheet : Sheet} {row : Option Nat} {column : Nat}

lemma rowNumber_nat (h : 1 ≤ r) : rowNumber (.nat r) = .ok r := by
  show (if (r : Int) < 1 then _ else _) = _
  rw [if_neg (by omega)]
  rfl

lemma setCell_ok (hf : sheet.Full) (hr : sheet.HasRow r) (hcl : 1 ≤ column ∧ column ≤ width)
    (h : setCell (.nat r) column v sheet = .ok sh') :
    ∃ content, Sheet.stored v = .ok content ∧ SameBut (some r) sheet sh' ∧
      ∀ c, 1 ≤ c → sh'.cell r c = if c = column then content else sheet.cell r c := by
  simp only [setCell, rowNumber_nat hr.1, ok_bind, bind_ok, pure_ok] at h
  obtain ⟨content, hco, rfl⟩ := h
  exact ⟨content, hco, put_sameBut hr, fun c hc => cell_put hf hr hcl hc⟩

lemma setCell_noted (hf : sheet.Full) (hr : ∀ r ∈ row, sheet.HasRow r)
    (hco : 1 ≤ column ∧ column < chosenColumn) (h : setCell (rowValue row) column v sheet = .ok sheet') :
    Noted row sheet sheet' := by
  cases row with
  | none => cases h
  | some r =>
    have hch : chosenColumn = 15 := rfl
    have hw : width = 19 := rfl
    obtain ⟨content, -, hs, hc⟩ := setCell_ok hf (hr r rfl) (by omega) h
    refine ⟨hs, fun r' hr' => ?_⟩
    obtain rfl := Option.some.inj hr'
    rw [hc chosenColumn (by decide), if_neg (by omega)]

/-- Candidates are written cell by cell, before the column of the table that is chosen. -/
lemma putCandidates_keeps {P : Sheet → Prop} {cands : List (Value × Nat)} (hp : ∀ c ∈ cands, c.2 < 5)
    (hce : ∀ {sheet sheet' column v}, P sheet → 1 ≤ column ∧ column < chosenColumn →
      setCell (rowValue row) column v sheet = .ok sheet' → P sheet') (hs : P sheet)
    (h : cands.foldlM (putCandidate (rowValue row)) sheet = .ok sheet') : P sheet' := by
  refine foldlM_keeps (fun c hc first last hf hpu => ?_) hs h
  have hpl := hp c hc
  have hch : chosenColumn = 15 := rfl
  simp only [putCandidate, bind_ok] at hpu
  obtain ⟨⟨tb, score⟩, -, middle, hm, content, -, hl⟩ := hpu
  exact hce (hce hf (by omega) hm) (by omega) hl

/-- A row that was written has the table and the word of the decision, as they read back. -/
lemma decide_ok (hf : sheet.Full) (hr : sheet.HasRow r)
    (h : decide now (.nat r) decision sheet = .ok sh') :
    SameBut (some r) sheet sh' ∧ ∃ tb kind, decision.field "chosen_table" = .ok tb ∧
      Sheet.stored tb = .ok (sh'.cell r chosenColumn) ∧ decision.field "decision_type" = .ok kind ∧
      Sheet.stored kind = .ok (sh'.cell r kindColumn) := by
  simp only [decide, bind_ok] at h
  obtain ⟨tb, ht, s₁, h₁, score, -, s₂, h₂, kind, hk, s₃, h₃, s₄, h₄, notes, -, h₅⟩ := h
  obtain ⟨tb', ht', hs₁, hc₁⟩ := setCell_ok hf hr (by decide) h₁
  obtain ⟨_, -, hs₂, hc₂⟩ := setCell_ok (hs₁.full hf) (hs₁.hasRow hr) (by decide) h₂
  have hs := hs₁.trans hs₂
  obtain ⟨kind', hk', hs₃, hc₃⟩ := setCell_ok (hs.full hf) (hs.hasRow hr) (by decide) h₃
  replace hs := hs.trans hs₃
  obtain ⟨_, -, hs₄, hc₄⟩ := setCell_ok (hs.full hf) (hs.hasRow hr) (by decide) h₄
  replace hs := hs.trans hs₄
  obtain ⟨_, -, hs₅, hc₅⟩ := setCell_ok (hs.full hf) (hs.hasRow hr) (by decide) h₅
  refine ⟨hs.trans hs₅, tb, kind, ht, ?_, hk, ?_⟩
  · rw [ht']
    simp [hc₅, hc₄, hc₃, hc₂, hc₁, chosenColumn]
  · rw [hk']
    simp [hc₅, hc₄, hc₃, kindColumn]

lemma decide_null (h : decision.field "chosen_table" = .ok table) :
    decide now .null decision sheet = .error (.unordered "NoneType" "int") := by
  rw [decide, h]
  rfl

lemma stored_text (hs : s ≠ "") (h : Sheet.stored (.text s) = .ok content) :
    content = .text s := by
  simp only [Sheet.stored] at h
  split at h
  · cases h
  · simpa [hs] using h.symm

end Workbook

end QueryDesk
