import QueryDesk.Plan.Form
import QueryDesk.Plan.Repair
import QueryDesk.Proofs.Fields

/-!
What a refusal's text tells about missing tables. A plan whose joins use tables that it does not select is refused with
a text that lists them between quotes. Of the tables that are read back from such a text, only the first and the last
are kept: the models are told of every missing table as long as there are at most two.
-/

namespace QueryDesk.Plan

open Attempt Value List

variable {name : String} {names read : List String} {part cs rest : List Char} {plan : Value} {selections edges : List Value}

/-- A table's name that stands between quotes as it is. -/
def Plain (name : String) : Prop := name ≠ "" ∧ ∀ c ∈ name.toList, c ≠ '\'' ∧ c ≠ '\\' ∧ Text.isPrintable c = true

lemma quoteChar_plain {c : Char} (h : c ≠ '\'' ∧ c ≠ '\\' ∧ Text.isPrintable c = true) :
    Text.quoteChar '\'' c = [c] := by
  obtain ⟨hm, hsl, hs⟩ := h
  have hne : ∀ d, Text.isPrintable d = false → c ≠ d := by
    rintro d hd rfl
    rw [hd] at hs
    cases hs
  simp [Text.quoteChar, hm, hsl, hs, hne '\n' rfl, hne '\r' rfl, hne '\t' rfl]

lemma Plain.toList_quoted (h : Plain name) : (Text.quoted name).toList = '\'' :: (name.toList ++ ['\'']) := by
  have hn : '\'' ∉ name.toList := fun hm => (h.2 _ hm).1 rfl
  have hch : name.toList.flatMap (Text.quoteChar '\'') = name.toList := by
    rw [flatMap_congr fun c hc => quoteChar_plain (h.2 c hc)]
    simp
  simp [Text.quoted, hn, hch]

/-! ### Reading a list of names -/

lemma namesFrom_inside (hcs : '\'' ∉ cs) (hn : part.reverse ++ cs ≠ []) : namesFrom read (.inside part) (cs ++ '\'' :: rest) =
    namesFrom (read ++ [String.ofList (part.reverse ++ cs)]) .behind rest := by
  induction cs generalizing part with
  | nil =>
    have hp : part ≠ [] := by simpa using hn
    simp [namesFrom, hp]
  | cons c cs ih =>
    obtain ⟨hc, hcs⟩ := not_or.1 (mt mem_cons.2 hcs)
    simp [namesFrom, Ne.symm hc, ih hcs]

lemma namesFrom_plain (h : Plain name) (rest : List Char) :
    namesFrom read .before ((Text.quoted name).toList ++ rest) = namesFrom (read ++ [name]) .behind rest := by
  have hn : ([] : List Char).reverse ++ name.toList ≠ [] := by simpa using h.1
  have hno : '\'' ∉ name.toList := fun hm => (h.2 _ hm).1 rfl
  rw [h.toList_quoted, cons_append, append_assoc]
  simpa [namesFrom] using namesFrom_inside hno hn

/-- A list of plain names is read back whole. -/
lemma namesFrom_join (hns : names ≠ []) (h : ∀ name ∈ names, Plain name) (rest : List Char) :
    namesFrom read .before ((Text.join ", " (names.map Text.quoted)).toList ++ ']' :: rest) = some (read ++ names) := by
  induction names generalizing read with
  | nil => exact absurd rfl hns
  | cons name names ih =>
    have hna := h name mem_cons_self
    cases names with
    | nil => simp [Text.join, namesFrom_plain hna, namesFrom]
    | cons next names =>
      simp only [map_cons, Text.join, String.toList_append, append_assoc, namesFrom_plain hna]
      simpa [namesFrom, show Text.isBlank ' ' = true from rfl] using @ih (read ++ [name]) (by simp) fun n hn => h n (mem_cons_of_mem _ hn)

lemma listedNames_cons (hcs : cs.head? = some '\'') (h : namesFrom [] .before cs = some names) :
    listedNames ('[' :: cs) = some names := by
  obtain ⟨inner, rfl⟩ := head?_eq_some_iff.1 hcs
  have hi : namesFrom [] (.inside []) inner = some names := h
  simp [listedNames, hi]

/-- The search for a list of names passes over a text that opens none. -/
lemma listedNames_append (ho : Text.occursIn ['[', '\''] cs = false) (hr : rest.head? ≠ some '\'') :
    listedNames (cs ++ rest) = listedNames rest := by
  induction cs with
  | nil => rfl
  | cons c cs ih =>
    obtain ⟨hh, hl⟩ := Bool.or_eq_false_iff.1 ho
    rw [cons_append, listedNames, ih hl]
    · rfl
    · rintro inner rfl heq
      cases cs with
      | nil => exact hr (by rw [← nil_append rest, heq]; rfl)
      | cons d cs => simp_all

/-! ### The text of a refusal -/

/-- A plan as an object: the tables that it selects, and the tables at both ends of its joins. -/
structure Joined (plan : Value) (tables : List String) (joins : List (String × String)) : Prop where
  selections : ∃ docs, plan.attr "selections" = .ok (.list docs) ∧ Forall₂ (fun s t => s.attr "table" = .ok (.text t)) docs tables
  edges : ∃ docs, plan.attr "join_edges" = .ok (.list docs) ∧
    Forall₂ (fun e j => e.attr "from_table" = .ok (.text j.1) ∧ e.attr "to_table" = .ok (.text j.2)) docs joins

/-- Some join uses a table that is not selected. -/
def Lacks (tables : List String) (joins : List (String × String)) (name : String) : Prop :=
  (∃ j ∈ joins, name = j.1 ∨ name = j.2) ∧ ∀ t ∈ tables, Text.lower t ≠ Text.lower name

variable {tables : List String} {joins : List (String × String)} {tier : Tier}

lemma quotedItems_texts (names : List String) : quotedItems (names.map .text) = names.map Text.quoted := by
  induction names with
  | nil => rfl
  | cons name names ih => simp [quotedItems, quoted, ih]

lemma checkJoins_eq (h : Joined plan tables joins) (hn : names ≠ [])
    (hm : missingTables (tables.map Text.lower) (joins.flatMap fun j => [j.1, j.2]) = names) :
    checkJoins tier plan = .error (.invalid (tier.missingText ++ (Value.texts names).quoted)) := by
  obtain ⟨⟨selections, hse, ht⟩, edges, hed, hj⟩ := h
  have hsd : selections.mapM (fun s => do (← s.attr "table").lowered) = .ok (tables.map Text.lower) := by
    refine mapM_ok.2 (forall₂_map_right_iff.2 (ht.imp fun s t hs => ?_))
    rw [hs]
    rfl
  have hen : edges.mapM (fun e => do
      let a ← (← e.attr "from_table").textFor "lower"
      let b ← (← e.attr "to_table").textFor "lower"
      pure [a, b]) = .ok (joins.map fun j => [j.1, j.2]) := by
    refine mapM_ok.2 (forall₂_map_right_iff.2 (hj.imp fun e j he => ?_))
    rw [he.1, he.2]
    rfl
  rw [checkJoins, hse, ok_bind, items, ok_bind, hsd, ok_bind, hed, ok_bind, items, ok_bind, hen, ok_bind,
    ← flatMap_def, hm]
  split
  · exact absurd rfl hn
  · rfl

lemma firstAndLast_eq_self_iff (names : List String) : firstAndLast names = names ↔ names.length ≤ 2 := by
  rcases names with _ | ⟨a, _ | ⟨b, _ | ⟨c, rest⟩⟩⟩ <;> simp [firstAndLast]

lemma occursIn_append {p : List Char} (h : Text.occursIn p rest = true) : Text.occursIn p (cs ++ rest) = true := by
  induction cs with
  | nil => exact h
  | cons c cs ih => simp [Text.occursIn, ih]

/-- A refusal that lists plain names tells of the first and the last of them. -/
lemma ofText_listing (hn : names ≠ []) (hp : ∀ name ∈ names, Plain name) (pre after : String)
    (hb : Text.contains pre "['" = false) :
    Refusal.ofText (pre ++ (tier.missingText ++ (Value.texts names).quoted) ++ after) =
      ⟨true, firstAndLast names, pre ++ (tier.missingText ++ (Value.texts names).quoted) ++ after⟩ := by
  have hl : (Value.texts names).quoted.toList ++ after.toList =
      '[' :: ((Text.join ", " (names.map Text.quoted)).toList ++ ']' :: after.toList) := by
    simp [Value.texts, quoted, quotedItems_texts]
  have ha : Text.contains (pre ++ (tier.missingText ++ (Value.texts names).quoted) ++ after)
      "join_edges reference tables not" = true := by
    simp only [Text.contains, String.toList_append, append_assoc]
    refine occursIn_append ?_
    cases tier <;> rfl
  have hna : listedNames (pre ++ (tier.missingText ++ (Value.texts names).quoted) ++ after).toList = some names := by
    simp only [String.toList_append, append_assoc]
    rw [listedNames_append hb (by cases tier <;> simp [Tier.missingText]),
      listedNames_append (by cases tier <;> rfl) (by simp [hl]), hl]
    refine listedNames_cons ?_ (namesFrom_join hn hp _)
    obtain ⟨name, names, rfl⟩ := exists_cons_of_ne_nil hn
    cases names <;> simp [Text.join, (hp name mem_cons_self).toList_quoted]
  rw [Refusal.ofText, if_pos ha, hna, Option.getD_some]

lemma mem_missingTables : name ∈ missingTables (tables.map Text.lower) (joins.flatMap fun j => [j.1, j.2]) ↔ Lacks tables joins name := by
  simp [missingTables, mem_eraseDups, Lacks]

/-- A plan whose joins use tables that it does not select is refused, and the refusal lists them all; of those that are
read back from it the first and the last are told. -/
theorem refusals_tell_ends (h : Joined plan tables joins) (tier : Tier) (hlacks : ∃ name, Lacks tables joins name)
    (hplain : ∀ name, Lacks tables joins name → Plain name) : ∃ missing text, (∀ name, name ∈ missing ↔ Lacks tables joins name) ∧
      missing = missingTables (tables.map Text.lower) (joins.flatMap fun j => [j.1, j.2]) ∧
        checkJoins tier plan = .error (.invalid text) ∧ ∀ before after, Text.contains before "['" = false →
          let told := Refusal.ofText (before ++ text ++ after)
          told.aboutJoins = true ∧ told.missing = firstAndLast missing ∧ (told.missing = missing ↔ missing.length ≤ 2) := by
  obtain ⟨name, hn⟩ := hlacks
  have hna := ne_nil_of_mem (mem_missingTables.2 hn)
  refine ⟨_, _, fun name => mem_missingTables, rfl, checkJoins_eq h hna rfl, fun before after hb => ?_⟩
  rw [ofText_listing hna (fun name hn => hplain name (mem_missingTables.1 hn)) before after hb]
  exact ⟨rfl, rfl, firstAndLast_eq_self_iff _⟩

/-- A plan without selections, and two joins over three tables. -/
def unselected : Value := .entity [("selections", .list []), ("join_edges", .list
  [.entity [("from_table", "tb_A"), ("to_table", "tb_B")] .null, .entity [("from_table", "tb_B"), ("to_table", "tb_C")] .null])] .null

lemma joined_unselected : Joined unselected [] [("tb_A", "tb_B"), ("tb_B", "tb_C")] :=
  ⟨⟨[], rfl, .nil⟩, _, rfl, .cons ⟨rfl, rfl⟩ (.cons ⟨rfl, rfl⟩ .nil)⟩

theorem refusals_tell_ends_three : ∃ missing text,
    (∀ name, name ∈ missing ↔ Lacks [] [("tb_A", "tb_B"), ("tb_B", "tb_C")] name) ∧
      missing = missingTables [] ["tb_A", "tb_B", "tb_B", "tb_C"] ∧ checkJoins .full unselected = .error (.invalid text) ∧
        ∀ before after, Text.contains before "['" = false → let told := Refusal.ofText (before ++ text ++ after)
          told.aboutJoins = true ∧ told.missing = firstAndLast missing ∧ (told.missing = missing ↔ missing.length ≤ 2) := by
  refine refusals_tell_ends joined_unselected .full ⟨"tb_A", by simp [Lacks]⟩ fun name hn => ?_
  obtain rfl | rfl | rfl : name = "tb_A" ∨ name = "tb_B" ∨ name = "tb_C" := by
    simp [Lacks] at hn
    grind
  all_goals
    simp [Plain]
    decide

/-- Of three missing tables the second is not told. -/
theorem middle_table_untold : checkJoins .full unselected =
    .error (.invalid "join_edges reference tables not present in selections: ['tb_A', 'tb_B', 'tb_C']") ∧
      (Refusal.ofText "join_edges reference tables not present in selections: ['tb_A', 'tb_B', 'tb_C']").missing = ["tb_A", "tb_C"] := by
  have hm : missingTables [] ["tb_A", "tb_B", "tb_B", "tb_C"] = ["tb_A", "tb_B", "tb_C"] :=
    mergeSort_of_pairwise (l := ["tb_A", "tb_B", "tb_C"]) (by decide)
  exact ⟨checkJoins_eq joined_unselected (by simp) hm, by decide +kernel⟩

end QueryDesk.Plan
