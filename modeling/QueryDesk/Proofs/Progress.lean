import QueryDesk.Proofs.ConvertedKeys
import QueryDesk.Proofs.KeyedValues

/-!
What is counted of a workbook and where the work goes on. Main statement: over all sessions the counts make up the
whole, and the rows that are counted as incomplete are the open ones without a word on a decision. A person who quits
leaves a word and no table: such a row is open still, but it is not counted as incomplete.
-/

namespace QueryDesk

open List Keyed Value

namespace Sheet

variable {names : List String} {row : Option Nat} {sheet : Sheet} {chosen kind : Value}

def kindWords : List String := ["auto", "manual", "existing", "skipped"]

lemma Mark.kind_cases (h : Mark names chosen kind) :
    kind = .null ∧ chosen = .null ∨ ∃ word ∈ kindWords, kind = .text word := by
  cases h with
  | unset hk =>
    obtain rfl | ⟨word, hw, rfl⟩ := hk
    · exact .inl ⟨rfl, rfl⟩
    · refine .inr ⟨word, ?_, rfl⟩
      simp only [kindWords, mem_cons, not_mem_nil, or_false] at hw ⊢
      tauto
  | existing => exact .inr ⟨_, by decide, rfl⟩
  | skipped => exact .inr ⟨_, by decide, rfl⟩
  | @chosen name word _ hw =>
    refine .inr ⟨word, ?_, rfl⟩
    simp only [kindWords, mem_cons, not_mem_nil, or_false] at hw ⊢
    tauto

def count (sheet : Sheet) (key : String) : Nat := (Keyed.find? sheet.statistics (.text key)).getD 0

/-- What a row is counted under. -/
def counted (kind : Value) : Value := if kind.truthy then kind else "incomplete"

/-- Each row adds one to what is counted under its key. -/
lemma find?_tally {kinds : List Value} (hk : ∀ k ∈ kinds, IsText (counted k)) {counts : Keyed Nat}
    (hc : Texts counts) (key : String) :
    (Keyed.find? (kinds.foldl (fun counts k => Keyed.put counts (counted k)
      ((Keyed.find? counts (counted k)).getD 0 + 1)) counts) (.text key)).getD 0 =
        (Keyed.find? counts (.text key)).getD 0 + kinds.countP (counted · == .text key) := by
  induction kinds generalizing counts with
  | nil => rfl
  | cons k kinds ih =>
    rw [forall_mem_cons] at hk
    rw [foldl_cons, ih hk.2 (texts_put hc hk.1), find?_put hc hk.1 ⟨key, rfl⟩, countP_cons]
    split
    case isTrue h =>
      rw [(hk.1.beq_iff ⟨key, rfl⟩).1 h, Option.getD_some]
      omega
    case isFalse => rfl

def kindsOf (sheet : Sheet) : List Value := (range' 2 (sheet.lastRow - 1)).map (sheet.cell · kindColumn)

lemma kindsOf_eq (sheet : Sheet) :
    kindsOf sheet = (sheet.rows.drop 1).map fun cells => (cells[kindColumn - 1]?).getD .null := by
  refine ext_getElem (by simp [kindsOf, lastRow]) fun i hi hi' => ?_
  have hi : 1 + i < sheet.rows.length := by simp at hi'; omega
  simp only [kindsOf, getElem_map, getElem_range', getElem_drop, cell]
  rw [show 2 + 1 * i - 1 = 1 + i by omega, getElem?_eq_getElem hi]
  rfl

lemma count_eq (hk : ∀ k ∈ kindsOf sheet, IsText (counted k)) (key : String) :
    sheet.count key = (Keyed.find? [("total", sheet.lastRow - 1), ("auto", 0), ("manual", 0), ("existing", 0),
      ("skipped", 0), ("incomplete", 0)] (.text key)).getD 0 + (kindsOf sheet).countP (counted · == .text key) := by
  rw [← find?_tally hk (by simp [Texts, IsText])]
  rw [count, statistics, kindsOf_eq, foldl_map]
  rfl

def IsKind (kind : Value) : Prop := kind = .null ∨ ∃ word ∈ kindWords, kind = .text word

lemma IsKind.counted (h : IsKind kind) : IsText (counted kind) := by
  obtain rfl | ⟨word, hw, rfl⟩ := h
  · exact ⟨"incomplete", rfl⟩
  · simp only [kindWords, mem_cons, not_mem_nil, or_false] at hw
    rcases hw with rfl | rfl | rfl | rfl <;> exact ⟨_, rfl⟩

lemma countP_kinds {kinds : List Value} (h : ∀ k ∈ kinds, IsKind k) :
    kinds.countP (Sheet.counted · == .text "auto") + kinds.countP (Sheet.counted · == .text "manual") +
      kinds.countP (Sheet.counted · == .text "existing") + kinds.countP (Sheet.counted · == .text "skipped") +
        kinds.countP (Sheet.counted · == .text "incomplete") = kinds.length ∧
      kinds.countP (Sheet.counted · == .text "total") = 0 ∧
      kinds.countP (Sheet.counted · == .text "incomplete") = kinds.countP (·.isNull) := by
  induction kinds with
  | nil => decide
  | cons k kinds ih =>
    rw [forall_mem_cons] at h
    obtain ⟨hs, ht, ho⟩ := ih h.2
    simp only [countP_cons, ht, ho, length_cons, ← hs]
    obtain rfl | ⟨word, hw, rfl⟩ := h.1
    · simp [Sheet.counted, truthy, beq_text, text?, isNull]
      omega
    · simp only [kindWords, mem_cons, not_mem_nil, or_false] at hw
      rcases hw with rfl | rfl | rfl | rfl <;> simp [Sheet.counted, truthy, beq_text, text?, isNull] <;> omega

lemma Proper.kinds (h : Proper names row sheet) : ∀ k ∈ kindsOf sheet, IsKind k := by
  intro k hk
  obtain ⟨r, hr, rfl⟩ := mem_map.1 hk
  rw [mem_range'_1] at hr
  exact (h.marks r hr.1 ⟨by omega, by omega⟩).kind_cases.imp_left (·.1)

lemma Proper.incomplete (h : Proper names row sheet) :
    (kindsOf sheet).countP (·.isNull) = (sheet.openRows.filter fun r => (sheet.cell r kindColumn).isNull).length := by
  rw [kindsOf, countP_map, countP_eq_length_filter, openRows, filter_filter]
  congr 1
  refine filter_congr fun r hr => ?_
  rw [mem_range'_1] at hr
  obtain ⟨hk, hc⟩ | ⟨word, -, hk⟩ := (h.marks r hr.1 ⟨by omega, by omega⟩).kind_cases
  · simp [hk, hc, isNull, truthy]
  · simp [hk, isNull]

/-- The counts of a sheet make up its rows; what is incomplete is open and has no word. -/
structure Tallies (sheet : Sheet) : Prop where
  whole : sheet.count "auto" + sheet.count "manual" + sheet.count "existing" + sheet.count "skipped" +
    sheet.count "incomplete" = sheet.count "total"
  total : sheet.count "total" = sheet.lastRow - 1
  incomplete : sheet.count "incomplete" = (sheet.openRows.filter fun r => (sheet.cell r kindColumn).isNull).length
  finished : sheet.nextOpen? = none → sheet.count "incomplete" = 0

lemma Proper.tallies (h : Proper names row sheet) : Tallies sheet := by
  have hc := count_eq fun k hk => (h.kinds k hk).counted
  obtain ⟨hs, ht, ho⟩ := countP_kinds h.kinds
  have hl : (kindsOf sheet).length = sheet.lastRow - 1 := by simp [kindsOf]
  have hi : sheet.count "incomplete" = (kindsOf sheet).countP (·.isNull) := by
    rw [hc, ho]
    exact Nat.zero_add _
  refine ⟨?_, ?_, hi.trans h.incomplete, fun hn => ?_⟩
  · simp only [hc, ht]
    simp [beq_text, text?, Keyed.find?]
    omega
  · simp only [hc, ht]
    simp [beq_text, text?, Keyed.find?]
  · rw [hi, h.incomplete, head?_eq_none_iff.1 ((nextOpen?_eq sheet).symm.trans hn)]
    rfl

end Sheet

namespace Mapping

open Sheet

variable {index : Option SearchIndex} {database : String} {tables : List Schema.TableRecord} {next : Option Station}
  {state : Value} {t : Traffic}

/-- Wherever the work on a sheet has come to, what is counted in it adds up. -/
theorem progress_of_work (h : Work index database tables next state t) :
    ∃ sheet, t.workbooks.lookup (workbookPath database) = some sheet ∧ Tallies sheet := by
  obtain ⟨-, row, sheet, -, hs, hp⟩ := h.proper
  exact ⟨sheet, hs, hp.tallies⟩

theorem progress_of_work_store : ∃ next state t, Work none "shop" storeTables next state t ∧
    ∃ sheet, t.workbooks.lookup (workbookPath "shop") = some sheet ∧ Tallies sheet :=
  ⟨_, _, _, storeEnd_work, progress_of_work storeEnd_work⟩

/-- A person who quits leaves a row that is open, but that is counted as left out and not as incomplete. -/
theorem quit_row_uncounted : ∃ sheet after sheet', Workbook.sheetOf
      (.list [.tuple ["orders", "storeID", "store", .bool false]]) (.record []) = .ok sheet ∧ answered (initialState "shop" []) "q" = .ok after ∧
    Workbook.decide "2025-01-01T10:00:00" (.nat 2) (decisionOf after) sheet = .ok sheet' ∧
      sheet'.nextOpen? = some 2 ∧ sheet'.count "incomplete" = 0 ∧ sheet'.count "skipped" = 1 :=
  ⟨_, _, _, rfl, rfl, rfl, by decide +kernel, by decide +kernel, by decide +kernel⟩

end Mapping

end QueryDesk
