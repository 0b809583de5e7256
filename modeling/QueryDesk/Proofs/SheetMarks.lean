import QueryDesk.Proofs.Keeping

/-!
What the rows of a sheet say about their decisions. A row is open, it is marked as a reference that is known, it is
left out, or it has the name of a table with a word on how that was chosen. The sheets that are made say nothing
else, and neither candidates nor decisions that are written on them change that.
-/

namespace QueryDesk

open Attempt Desk List

variable {chosen existing : Value}

namespace Sheet

/-- What the chosen table of a row and the word beside it say, for tables with the given names. -/
inductive Mark (names : List String) : Value → Value → Prop
  | unset {kind : Value} (hkind : kind = .null ∨ ∃ word ∈ ["auto", "manual", "skipped"], kind = .text word) :
      Mark names .null kind
  | existing : Mark names "[EXISTING]" "existing"
  | skipped : Mark names "[SKIPPED]" "skipped"
  | chosen {name word : String} (hname : name ∈ names) (hword : word ∈ ["auto", "manual"]) :
      Mark names (.text name) (.text word)

/-- A sheet under its heading whose rows below it are all marked; one of them may be at hand. -/
structure Proper (names : List String) (row : Option Nat) (sheet : Sheet) : Prop where
  full : sheet.Full
  heading : sheet.rows[0]? = some (headings.map .text)
  marks : ∀ r, 2 ≤ r → sheet.HasRow r → Mark names (sheet.cell r chosenColumn) (sheet.cell r kindColumn)
  place : ∀ r ∈ row, 2 ≤ r ∧ sheet.HasRow r

section

variable {names : List String} {row : Option Nat} {sheet : Sheet} {chosen kind chosen' kind' : Value}

lemma Mark.stored (h : Mark names chosen kind) (hc : Sheet.stored chosen = .ok chosen')
    (hk : Sheet.stored kind = .ok kind') : Mark names chosen' kind' := by
  cases h with
  | unset hw =>
    cases hc
    obtain rfl | ⟨word, hw, rfl⟩ := hw
    · exact .unset (.inl (Except.ok.inj hk).symm)
    · have hn : word ≠ "" := fun h => by simp [h] at hw
      exact .unset (.inr ⟨word, hw, Workbook.stored_text hn hk⟩)
  | existing =>
    obtain rfl := Workbook.stored_text (by decide) hc
    obtain rfl := Workbook.stored_text (by decide) hk
    exact .existing
  | skipped =>
    obtain rfl := Workbook.stored_text (by decide) hc
    obtain rfl := Workbook.stored_text (by decide) hk
    exact .skipped
  | @chosen name word hna hw =>
    have hn : word ≠ "" := by
      rintro rfl
      simp at hw
    obtain rfl := Workbook.stored_text hn hk
    by_cases he : name = ""
    · subst he
      cases hc
      exact .unset (.inr ⟨word, mem_append_left ["skipped"] hw, rfl⟩)
    · obtain rfl := Workbook.stored_text he hc
      exact .chosen hna hw

lemma Proper.sameBut (h : Proper names (some r) sheet) (hs : SameBut (some r) sheet sheet')
    (hm : Mark names (sheet'.cell r chosenColumn) (sheet'.cell r kindColumn)) : Proper names (some r) sheet' := by
  obtain ⟨hr, hro⟩ := h.place r rfl
  refine ⟨hs.full h.full, ?_, fun r' hr' hro' => ?_, fun r' hr' => ?_⟩
  · rw [hs.rows 0 (by rw [ne_eq, Option.some.injEq]; omega)]
    exact h.heading
  · by_cases heq : r' = r
    · exact heq ▸ hm
    · have ho : some r' ≠ some r := by simpa using heq
      rw [hs.cell_eq (by omega) ho, hs.cell_eq (by omega) ho]
      rw [HasRow, hs.height] at hro'
      exact h.marks r' hr' hro'
  · cases hr'
    exact ⟨hr, hs.hasRow hro⟩

lemma Proper.turn (h : Proper names row sheet) (hp : ∀ r ∈ row', 2 ≤ r ∧ sheet.HasRow r) :
    Proper names row' sheet := ⟨h.full, h.heading, h.marks, hp⟩

lemma two_le_of_open (h : r ∈ sheet.openRows) : 2 ≤ r := by
  rw [openRows, mem_filter, mem_range'_1] at h
  exact h.1.1

end

end Sheet

namespace Workbook

open Sheet

variable {names : List String} {row : Option Nat} {sheet : Sheet} {column : Nat}

/-! ### Sheets that are made -/

lemma row_cell (h : Sheet.row cells = .ok filled) (i : Nat) :
    Sheet.stored ((cells[i]?).getD .null) = .ok ((filled[i]?).getD .null) := by
  simp only [Sheet.row, bind_ok, pure_ok, mapM_ok] at h
  obtain ⟨contents, hc, rfl⟩ := h
  have hl := hc.length_eq
  by_cases hi : i < cells.length
  · have hce := (forall₂_iff_get.1 hc).2 i hi (hl ▸ hi)
    rw [getElem?_append_left (hl ▸ hi), getElem?_eq_getElem hi, getElem?_eq_getElem (hl ▸ hi)]
    exact hce
  · rw [getElem?_append_right (by omega), getElem?_eq_none (by omega), getElem?_replicate]
    split <;> rfl

lemma columnRow_mark {column : Value} (h : columnRow existing column = .ok cells) :
    Mark names ((cells[14]?).getD .null) ((cells[16]?).getD .null) := by
  simp only [columnRow, bind_ok] at h
  obtain ⟨parts, -, h⟩ := h
  split at h
  · simp only [bind_ok] at h
    obtain ⟨_, -, _, -, kn, -, hr⟩ := h
    cases kn with
    | false => exact (Mark.unset (.inl rfl)).stored (row_cell hr 14) (row_cell hr 16)
    | true => exact Mark.existing.stored (row_cell hr 14) (row_cell hr 16)
  · cases h

lemma sheetOf_proper (h : sheetOf columns existing = .ok sheet) :
    Proper names none sheet := by
  refine ⟨sheetOf_full h, ?_, fun r hr hro => ?_, by simp⟩
  · simp only [sheetOf, bind_ok, pure_ok] at h
    obtain ⟨docs, -, rows, -, rfl⟩ := h
    rfl
  · simp only [sheetOf, bind_ok, pure_ok] at h
    obtain ⟨docs, -, rows, hrs, rfl⟩ := h
    obtain ⟨-, hl⟩ := hro
    have hb : r - 2 < rows.length := by
      simp only [lastRow, Sheet.blank, length_append, length_cons, length_nil] at hl
      omega
    have hc : (Sheet.blank.rows ++ rows)[r - 1]? = some rows[r - 2] := by
      have hi : r - 1 = r - 2 + 1 := by omega
      rw [hi]
      exact getElem?_eq_getElem hb
    obtain ⟨column, -, hro⟩ := (mapM_ok.1 hrs).exists_left (getElem_mem hb)
    rw [cell, cell, hc]
    exact columnRow_mark hro

/-! ### What is written on a sheet -/

lemma setCell_proper (h : Proper names row sheet) (hco : 1 ≤ column ∧ column < chosenColumn)
    (hs : setCell (rowValue row) column v sheet = .ok sheet') : Proper names row sheet' := by
  cases row with
  | none => cases hs
  | some r =>
    obtain ⟨hr, hro⟩ := h.place r rfl
    have hch : chosenColumn = 15 := rfl
    have hw : width = 19 := rfl
    obtain ⟨content, -, hsa, hc⟩ := setCell_ok h.full hro (by omega) hs
    refine h.sameBut hsa ?_
    rw [hc _ (by decide), hc _ (by decide), if_neg (by omega), if_neg (by simp only [kindColumn]; omega)]
    exact h.marks r hr hro

lemma decide_proper (h : Proper names row sheet)
    (hc : decision.field "chosen_table" = .ok chosen) (hk : decision.field "decision_type" = .ok kind)
    (hm : Mark names chosen kind) (hd : decide now (rowValue row) decision sheet = .ok sheet') :
    Proper names row sheet' := by
  cases row with
  | none =>
    rw [rowValue, decide_null hc] at hd
    cases hd
  | some r =>
    obtain ⟨-, hr⟩ := h.place r rfl
    obtain ⟨hsa, table, word, ht, hs, hw, hs'⟩ := decide_ok h.full hr hd
    obtain rfl : chosen = table := Except.ok.inj (hc.symm.trans ht)
    obtain rfl : kind = word := Except.ok.inj (hk.symm.trans hw)
    exact h.sameBut hsa (hm.stored hs hs')

def StaysProper (names : List String) (path : String) (row : Option Nat) (t t' : Traffic) : Prop :=
  ∀ sheet, t.workbooks.lookup path = some sheet → Proper names row sheet →
    ∃ sheet', t'.workbooks.lookup path = some sheet' ∧ Proper names row sheet'

lemma staysProper_of_sameBooks (t t' : Traffic) (h : SameBooks t t') : StaysProper names path row t t' :=
  fun sheet hs hp => ⟨sheet, by rwa [h], hp⟩

instance : Std.Refl (StaysProper names path row) := ⟨fun t => staysProper_of_sameBooks t t rfl⟩

instance : IsTrans Traffic (StaysProper names path row) where
  trans t t' t'' h h' sheet hs hp := by
    obtain ⟨sh', hs', hp'⟩ := h sheet hs hp
    exact h' sh' hs' hp'

lemma writeCandidates_proper (cands : List Value) :
    Keeps (StaysProper names path row) (writeCandidates (.text path) (rowValue row) (.list cands)) where
  related _ _ _ hs hp := writeCandidates_leaves hs hp setCell_proper

lemma writeDecision_proper (hc : decision.field "chosen_table" = .ok chosen)
    (hk : decision.field "decision_type" = .ok kind) (hm : Mark names chosen kind) :
    Keeps (StaysProper names path row) (writeDecision (.text path) (rowValue row) decision) where
  related s t sheet hs hp := by
    rw [writeDecision, carryOut_bind, show carryOut read s t = (.ok s, t) from rfl]
    dsimp only
    rw [carryOut_bind, load_gives hs]
    exact saving_leaves hs hp fun sh' => decide_proper hp hc hk hm

end Workbook

end QueryDesk
