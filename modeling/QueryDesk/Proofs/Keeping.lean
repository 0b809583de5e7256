import QueryDesk.Mapping.Steps
import QueryDesk.Proofs.Links
import QueryDesk.Proofs.SheetRows

/-!
What a step leaves unchanged, whatever its outcome. Steps that keep a relation between the traffic before and
after them keep it when they are put together; most steps leave the workbooks alone, and notes on a row of a
sheet are the only change that looking for candidates can make.
-/

namespace QueryDesk

open List

namespace Desk

/-! ### Workbooks -/

def SameBooks (t t' : Traffic) : Prop := t'.workbooks = t.workbooks

instance : Aside SameBooks where
  refl _ := rfl
  trans _ _ _ h h' := Eq.trans h' h
  unseen _ _ _ _ h := h
  sent _ _ _ := rfl

instance keeps_send : Keeps SameBooks (send r) := keeps_modify fun _ => rfl

instance keeps_ask : Keeps SameBooks (ask q) := by
  refine .next fun _ => .next fun t => ?_
  split
  · infer_instance
  · exact .bind (keeps_modify fun _ => rfl) fun _ => inferInstance

instance keeps_searchScored : Keeps SameBooks (searchScored index query limit) := by
  unfold searchScored
  infer_instance

def NotedAt (path : String) (row : Option Nat) (t t' : Traffic) : Prop :=
  ∀ sheet, t.workbooks.lookup path = some sheet → sheet.Full → (∀ r ∈ row, sheet.HasRow r) →
    ∃ sheet', t'.workbooks.lookup path = some sheet' ∧ sheet.Noted row sheet'

variable {row : Option Nat}

lemma SameBooks.notedAt (h : SameBooks t t') : NotedAt path row t t' := fun sh hs _ _ =>
  ⟨sh, by rwa [h], .refl row sh⟩

instance : Std.Refl (NotedAt path row) := ⟨fun _ => SameBooks.notedAt rfl⟩

instance : IsTrans Traffic (NotedAt path row) where
  trans t t' t'' h h' sh hs hf hro := by
    obtain ⟨sh', hs', hn⟩ := h sh hs hf hro
    obtain ⟨sh'', hs'', hn'⟩ := h' sh' hs' (hn.full hf) fun r hr =>
      hn.hasRow (hro r hr)
    exact ⟨sh'', hs'', hn.trans hn'⟩

end Desk

namespace Database

open Desk

instance keeps_connect : Keeps SameBooks connect := by
  refine .next fun onSample => ?_
  split
  · infer_instance
  · refine .next fun target => .next fun _ => .next fun s => ?_
    split <;> infer_instance

instance keeps_close : Keeps SameBooks (close conn) := by
  refine .next fun reps => ?_
  split
  · infer_instance
  · refine .next fun _ => ?_
    unfold failWith
    split <;> infer_instance

end Database

/-! ### Reading and writing a sheet -/

namespace Workbook

open Desk

variable {row : Option Nat}

lemma load_gives (h : t.workbooks.lookup path = some sh) : Gives (load (.text path)) s t sh t := by
  refine (Gives.lift (a := path) rfl).bind (.bind (show Gives get s t t t from rfl) ?_)
  rw [h]
  exact .pure

instance keeps_load : Keeps SameBooks (load v) := by
  refine .next fun path => .next fun t => ?_
  split <;> infer_instance

lemma save_gives (path : String) (sheet : Sheet) (s : Surroundings) (t : Traffic) :
    ∃ t', Gives (save (.text path) sheet) s t () t' ∧ t'.workbooks.lookup path = some sheet :=
  ⟨_, rfl, by simp⟩

lemma foldlM_lift (f : β → α → Attempt β) (xs : List α) (b : β) :
    xs.foldlM (fun b x => (liftM (f b x) : Desk β)) b = liftM (xs.foldlM f b) := by
  induction xs generalizing b with
  | nil => rfl
  | cons x xs ih =>
    rw [foldlM_cons, foldlM_cons]
    cases f b x with
    | ok c => exact ih c
    | error fault => rfl

lemma saving_leaves {P : Sheet → Prop} {made : Attempt Sheet} (hs : t.workbooks.lookup path = some sh)
    (hsa : P sh) (hm : ∀ sheet', made = .ok sheet' → P sheet') : ∃ sheet',
      (carryOut ((liftM made : Desk Sheet) >>= save (.text path)) s t).2.workbooks.lookup path = some sheet' ∧
        P sheet' := by
  cases made with
  | error fault => exact ⟨sh, hs, hsa⟩
  | ok sheet' =>
    obtain ⟨t', hse, hs'⟩ := save_gives path sheet' s t
    refine ⟨sheet', ?_, hm sheet' rfl⟩
    show (carryOut (save (.text path) sheet') s t).2.workbooks.lookup path = some sheet'
    rw [hse, hs']

lemma writeCandidates_leaves {P : Sheet → Prop} (hs : t.workbooks.lookup path = some sh) (hsa : P sh)
    (hce : ∀ {sh sheet' col v}, P sh → 1 ≤ col ∧ col < Sheet.chosenColumn →
      setCell (rowValue row) col v sh = .ok sheet' → P sheet') :
    ∃ sheet', (carryOut (writeCandidates (.text path) (rowValue row) (.list cands)) s t).2.workbooks.lookup path =
      some sheet' ∧ P sheet' := by
  rw [writeCandidates, carryOut_bind, load_gives hs]
  simp only [foldlM_lift]
  refine saving_leaves hs hsa fun sheet' => putCandidates_keeps (fun c hc => ?_) hce hsa
  have hp := snd_lt_of_mem_zipIdx hc
  rw [length_take] at hp
  omega

lemma keeps_writeCandidates (cands : List Value) :
    Keeps (NotedAt path row) (writeCandidates (.text path) (rowValue row) (.list cands)) where
  related _ _ sh hs hf hro := writeCandidates_leaves hs (.refl row sh) fun hn hc hse =>
    hn.trans (setCell_noted (hn.full hf) (fun r hr => hn.hasRow (hro r hr)) hc hse)

end Workbook

end QueryDesk
