import QueryDesk.Mapping.Steps
import QueryDesk.Proofs.Success

/-!
Which faults the parts of a step can end in. Reading documents and reckoning with their values ends in faults
that say what is wrong with a value; it never ends the program, and it never interrupts a run to wait for an
answer. Steps that are put together from such parts can be recovered from.
-/

namespace QueryDesk

open Attempt

/-! ### Values -/

namespace Value

instance : Mild (getD v key dflt) := by cases v <;> exact ⟨rfl⟩

instance : Mild (get v key) := by unfold get; infer_instance

instance : Mild (field v key) := by
  unfold field
  split
  · split <;> exact ⟨rfl⟩
  all_goals exact ⟨rfl⟩

instance : Mild (size v) := by cases v <;> exact ⟨rfl⟩

instance : Mild (next v) := by cases v <;> exact ⟨rfl⟩

instance : Mild (textFor use v) := by
  unfold textFor
  split <;> exact ⟨rfl⟩

instance : Mild (items v) := by cases v <;> exact ⟨rfl⟩

instance : Mild (less a b) := by
  unfold less
  split <;> exact ⟨rfl⟩

instance : Mild (atLeast a b) := by
  unfold atLeast
  split
  · exact ⟨rfl⟩
  · split <;> exact ⟨rfl⟩

instance : Mild (minus a b) := by
  unfold minus
  split <;> exact ⟨rfl⟩

instance : Mild (times a b) := by
  unfold times
  split <;> exact ⟨rfl⟩

instance : Mild (withPlaces places v) := by
  unfold withPlaces
  split <;> exact ⟨rfl⟩

instance : Mild (rounded places v) := by
  unfold rounded
  split <;> exact ⟨rfl⟩

instance : Mild (pair v) := by
  refine .bind ?_ fun parts => ?_
  · unfold exactly
    split
    · exact ⟨rfl⟩
    · split
      · exact ⟨rfl⟩
      · split <;> exact ⟨rfl⟩
  · split <;> exact ⟨rfl⟩

instance : Mild (item position v) := by
  unfold item
  split
  case h_1 | h_2 => split <;> exact ⟨rfl⟩
  case h_3 | h_4 =>
    refine .next fun items => ?_
    split <;> exact ⟨rfl⟩
  all_goals exact ⟨rfl⟩

end Value

/-! ### Sheets -/

instance : Mild (Sheet.stored v) := by
  unfold Sheet.stored
  split
  case h_5 => split <;> exact ⟨rfl⟩
  all_goals exact ⟨rfl⟩

namespace Workbook

instance : Mild (rowNumber row) := by
  unfold rowNumber
  split
  · split <;> exact ⟨rfl⟩
  · exact ⟨rfl⟩

instance : Mild (setCell row col v sh) := by unfold setCell; infer_instance

instance : Mild (putCandidate row sh cand) := by unfold putCandidate; infer_instance

end Workbook

/-! ### Candidates -/

instance : Mild (Schema.takeOthers source limit taken res) := by
  induction res generalizing taken with
  | nil => exact ⟨rfl⟩
  | cons r rest ih =>
    unfold Schema.takeOthers
    infer_instance

namespace Mapping

instance : Mild (checkShown v) := by
  unfold checkShown
  split <;> exact ⟨rfl⟩

instance : Mild (wholeNumber v) := by
  unfold wholeNumber
  split
  · split <;> exact ⟨rfl⟩
  · exact ⟨rfl⟩

instance : Mild (drawBar score) := by
  refine .next fun most => .next fun rest => .next fun product =>
    .next fun length => ?_
  dsimp only
  split
  · exact ⟨rfl⟩
  · split <;> exact ⟨rfl⟩

instance : Mild (showCandidate cand) := by unfold showCandidate; infer_instance

instance : Mild (choiceNumber choice) := by
  unfold choiceNumber
  split
  case h_4 => split <;> exact ⟨rfl⟩
  all_goals exact ⟨rfl⟩

instance : Mild (choose st choice) := by unfold choose; infer_instance

end Mapping

end QueryDesk
