import QueryDesk.Proofs.PatchedStatement
import QueryDesk.Workflow.Execution

/-!
The names under which the columns of a query without groups are delivered. A column is delivered under its own name, a
later column of the same name under that of its table, without the usual marks, and its own name glued together. Nothing
makes such a name differ from the other ones; where two are the same, a row keeps the last of their values only.
-/

namespace QueryDesk

open Attempt List Value

namespace Fields

lemma keys_put (fs : Fields) (k : String) (v : Value) :
    (put fs k v).map (·.1) = if k ∈ fs.map (·.1) then fs.map (·.1) else fs.map (·.1) ++ [k] := by
  induction fs with
  | nil => rfl
  | cons f rest ih =>
    unfold put
    by_cases hk : f.1 = k
    · simp [hk]
    · rw [if_neg (by simpa using hk), map_cons, ih]
      by_cases hin : k ∈ rest.map (·.1)
      · simp [hin]
      · simp [hin, Ne.symm hk]

lemma nodup_putAll (h : (fs.map (·.1)).Nodup) (news : Fields) :
    ((putAll fs news).map (·.1)).Nodup := by
  induction news generalizing fs with
  | nil => exact h
  | cons f news ih =>
    have hp : ((put fs f.1 f.2).map (·.1)).Nodup := by
      rw [keys_put]
      split
      case isTrue => exact h
      case isFalse hn =>
        refine nodup_append.2 ⟨h, by simp, fun a ha b hb hab => hn ?_⟩
        rwa [← mem_singleton.1 hb, ← hab]
    exact ih hp

end Fields

namespace Plan

open Value Sql Desk

/-! ### Names of select items -/

/-- The name under which a select item is delivered: the one that is given to it, or else that of its column. -/
def IsNamed : SelectItem → String → Prop
  | .column r none, name => name = r.column.display
  | .column _ (some shortName), name => name = shortName
  | .countAll shortName, name => name = shortName
  | .countDistinct _ shortName, name => name = shortName
  | .aggregate _ _ shortName, name => name = shortName
  | .window item, name => ∃ call, item = call ++ " AS " ++ name
  | .everything, _ => False

def refOf (p : String × String) : Reference := ⟨.text p.1, .text p.2⟩

def unmarked (table : String) : String := Text.replace (Text.replace table "tb_" "") "Saas" ""

def longName (p : String × String) : String := unmarked p.1 ++ p.2

/-- The names of columns of which the given ones were shown before. -/
def labels : List String → List (String × String) → List String
  | _, [] => []
  | seen, p :: rest => (if p.2 ∈ seen then longName p else p.2) :: labels (p.2 :: seen) rest

def repeats : List String → List (String × String) → List (String × String)
  | _, [] => []
  | seen, p :: rest => if p.2 ∈ seen then p :: repeats (p.2 :: seen) rest else repeats (p.2 :: seen) rest

/-- The names of columns that were not shown before, each once. -/
def firsts : List String → List (String × String) → List String
  | _, [] => []
  | seen, p :: rest => if p.2 ∈ seen then firsts (p.2 :: seen) rest else p.2 :: firsts (p.2 :: seen) rest

def windowNames (plan : Value) : List String := (docsOf plan "window_functions").map fun w => (w.peek "alias").display

def outputNames (plan : Value) (shown : List (String × String)) : List String := labels [] shown ++ windowNames plan

section

variable {shown : List (String × String)}

lemma labels_append (seen : List String) (shown more : List (String × String)) :
    labels seen (shown ++ more) = labels seen shown ++ labels ((shown.map Prod.snd).reverse ++ seen) more := by
  induction shown generalizing seen with
  | nil => rfl
  | cons p shown ih => simp [labels, ih]

lemma labels_perm (seen : List String) (shown : List (String × String)) :
    (labels seen shown).Perm (firsts seen shown ++ (repeats seen shown).map longName) := by
  induction shown generalizing seen with
  | nil => exact .refl _
  | cons p shown ih =>
    rw [labels, firsts, repeats]
    split
    case isTrue => exact ((ih _).cons _).trans perm_middle.symm
    case isFalse => exact (ih _).cons _

lemma mem_firsts : c ∈ firsts seen shown ↔ c ∉ seen ∧ c ∈ shown.map Prod.snd := by
  induction shown generalizing seen with
  | nil => simp [firsts]
  | cons p shown ih =>
    rw [firsts, map_cons, mem_cons]
    split
    case isTrue hs =>
      grind
    case isFalse hs =>
      grind

lemma nodup_firsts (seen : List String) (shown : List (String × String)) : (firsts seen shown).Nodup := by
  induction shown generalizing seen with
  | nil => exact .nil
  | cons p shown ih =>
    rw [firsts]
    split
    case isTrue => exact ih _
    case isFalse => exact nodup_cons.2 ⟨fun hin => (mem_firsts.1 hin).1 (by simp), ih _⟩

lemma repeats_sublist (seen : List String) (shown : List (String × String)) : (repeats seen shown).Sublist shown := by
  induction shown generalizing seen with
  | nil => exact .slnil
  | cons p shown ih =>
    rw [repeats]
    split
    case isTrue => exact (ih _).cons_cons p
    case isFalse => exact (ih _).cons p

/-- The names of columns are different, if the long ones are and none of them is the name of a shown column. -/
lemma nodup_labels : (labels [] shown).Nodup ↔
    ((repeats [] shown).map longName).Nodup ∧ ∀ p ∈ repeats [] shown, longName p ∉ shown.map Prod.snd := by
  rw [(labels_perm [] shown).nodup_iff, nodup_append, and_iff_right (nodup_firsts [] shown)]
  refine and_congr_right fun _ => ?_
  constructor
  · intro h p hp hin
    exact h _ (mem_firsts.2 ⟨by simp, hin⟩) _ (mem_map_of_mem hp) rfl
  · rintro h c hc _ hl rfl
    obtain ⟨p, hp, rfl⟩ := mem_map.1 hl
    exact h p hp (mem_firsts.1 hc).2

/-- Names are different if no shown column's name ends with another one's, and the tables of columns of one name still
have different names without their marks. -/
lemma nodup_labels_of_tables (hd : shown.Nodup)
    (he : ∀ p ∈ shown, ∀ q ∈ shown, p.2.toList <:+ q.2.toList → p.2 = q.2)
    (ht : ∀ p ∈ shown, ∀ q ∈ shown, p.2 = q.2 → unmarked p.1 = unmarked q.1 → p = q)
    (hm : ∀ p ∈ shown, unmarked p.1 ≠ "") : (labels [] shown).Nodup := by
  have hs : ∀ p ∈ repeats [] shown, p ∈ shown := fun p hp => (repeats_sublist [] shown).subset hp
  have hsu : ∀ p : String × String, p.2.toList <:+ (longName p).toList := by
    intro p
    rw [longName, String.toList_append]
    exact suffix_append _ _
  have hca : ∀ p q : String × String, longName p = longName q → p.2 = q.2 → unmarked p.1 = unmarked q.1 := by
    intro p q hl hc
    rw [longName, longName, hc, ← String.toList_inj, String.toList_append, String.toList_append] at hl
    exact String.toList_inj.1 (append_cancel_right hl)
  rw [nodup_labels]
  constructor
  · refine List.Nodup.map_on ?_ ((repeats_sublist [] shown).nodup hd)
    intro p hp q hq hl
    have hc : p.2 = q.2 := by
      have hp' := hsu p
      rw [hl] at hp'
      rcases suffix_or_suffix_of_suffix hp' (hsu q) with h | h
      · exact he p (hs p hp) q (hs q hq) h
      · exact (he q (hs q hq) p (hs p hp) h).symm
    exact ht p (hs p hp) q (hs q hq) hc (hca p q hl hc)
  · intro p hp hin
    obtain ⟨q, hq, heq⟩ := mem_map.1 hin
    have hc : p.2 = q.2 := he p (hs p hp) q hq (heq ▸ hsu p)
    refine hm p (hs p hp) ?_
    rw [← hc, longName, ← String.toList_inj, String.toList_append] at heq
    exact String.toList_inj.1 (append_left_eq_self.1 heq.symm)

end

/-! ### The names of a select list -/

/-- The column names given so far are the texts of some names. -/
def Noted (names : List Value) (seen : List String) : Prop :=
  (∀ v ∈ names, IsText v) ∧ ∀ c, .text c ∈ names ↔ c ∈ seen

section

variable {plan : Value} {names : List Value} {shown : List (String × String)}
variable {items : List SelectItem}

lemma Noted.isReached_iff (h : Noted names seen) (c : String) : isReached names (.text c) = true ↔ c ∈ seen := by
  rw [Sql.isReached_iff h.1 ⟨c, rfl⟩, h.2]

lemma Noted.reach (h : Noted names seen) (c : String) : Noted (reach names (.text c)) (c :: seen) := by
  refine ⟨names_reach h.1 ⟨c, rfl⟩, fun d => ?_⟩
  rw [mem_reach h.1 ⟨c, rfl⟩, h.2, mem_cons, text.injEq]
  exact or_comm

lemma columnItems_named (h : columnItems tb names cols = .ok (items, ns'))
    (hs : cols.map (fun x => (⟨tb, x.peek "column"⟩ : Reference)) = shown.map refOf) (hse : Noted names seen) :
    Forall₂ IsNamed items (labels seen shown) ∧ Noted ns' ((shown.map Prod.snd).reverse ++ seen) := by
  induction cols generalizing names ns' items seen shown with
  | nil =>
    cases h
    obtain rfl : shown = [] := by simpa using hs.symm
    exact ⟨.nil, hse⟩
  | cons x cols ih =>
    obtain ⟨p, shown, rfl⟩ : ∃ p rest, shown = p :: rest := by
      cases shown with
      | nil => simp at hs
      | cons p rest => exact ⟨p, rest, rfl⟩
    rw [map_cons, map_cons, cons.injEq, refOf, Reference.mk.injEq] at hs
    obtain ⟨⟨rfl, hc⟩, hr⟩ := hs
    obtain ⟨sn, rest, hi, rfl, hn⟩ := columnItems_cons h
    rw [hc] at hi hn
    obtain ⟨hna, hno⟩ := ih hi hr (hse.reach p.2)
    refine ⟨.cons ?_ hna, by simpa using hno⟩
    simp only [← hse.isReached_iff p.2, hc]
    split at hn <;> cases hn
    · rw [if_pos ‹_›]
      rfl
    · rw [if_neg ‹_›]
      rfl

lemma projectionItems_named (h : projectionItems plan names docs = .ok items)
    (hs : (docs.flatMap fun s => visibleIn plan s (docsOf s "columns")) = shown.map refOf) (hse : Noted names seen) :
    Forall₂ IsNamed items (labels seen shown) := by
  induction docs generalizing names items seen shown with
  | nil =>
    cases h
    obtain rfl : shown = [] := by simpa using hs.symm
    exact .nil
  | cons s docs ih =>
    simp only [projectionItems, bind_ok, pure_ok, exists_get] at h
    obtain ⟨-, cols, hc, fd, hfo, ⟨own, ns'⟩, ho, rest, hr, rfl⟩ := h
    rw [flatMap_cons, docsOf_eq hc] at hs
    obtain ⟨front, behind, rfl, hf, hb⟩ := map_eq_append_iff.1 hs.symm
    rw [visibleIn, ← shownColumns_ok hfo] at hf
    obtain ⟨hn, hno⟩ := columnItems_named ho hf.symm hse
    rw [labels_append]
    exact rel_append hn (ih hr hb.symm hno)

lemma windowItem_named {item : SelectItem} (h : windowItem w = .ok item) :
    IsNamed item (w.peek "alias").display := by
  simp only [windowItem, bind_ok, pure_ok, exists_get] at h
  obtain ⟨_, -, _, -, _, -, -, _, -, _, -, _, -, _, -, rfl⟩ := h
  have hs : ∀ call name : String, call ++ ") AS " ++ name = call ++ ")" ++ " AS " ++ name := by
    intro call name
    rw [← String.toList_inj]
    simp
  exact ⟨_, hs _ _⟩

lemma selectList_named (hg : (plan.peek "group_by").truthy = false) (hs : visible plan = shown.map refOf)
    (h : selectList plan = .ok items) :
    Forall₂ IsNamed items (outputNames plan shown) ∨ items = [.everything] ∧ outputNames plan shown = [] := by
  obtain ⟨fd, windowItems, hf, hi, rfl⟩ := selectList_parts hg h
  have hn : Forall₂ IsNamed (fd ++ windowItems) (outputNames plan shown) := by
    refine rel_append (projectionItems_named hf hs ⟨by simp, by simp⟩) ?_
    rw [windowNames, forall₂_map_right_iff]
    exact hi.flip.imp fun item w hw => windowItem_named hw
  split
  case isTrue he =>
    right
    refine ⟨rfl, ?_⟩
    rw [isEmpty_iff.1 he] at hn
    exact forall₂_nil_left_iff.1 hn
  case isFalse => exact .inl hn

end

/-! ### Rows -/

/-- A row keeps all its values exactly if the names of its columns are different. -/
lemma rowDocument_names {names : List String} (h : cells.length = names.length) :
    Workflow.rowDocument (names.map .text) (.list cells) = .ok (.record (names.zip cells)) ↔ names.Nodup := by
  have hf : ((names.map text).zip cells).map (fun p => (p.1.display, p.2)) = names.zip cells := by
    rw [zip_map_left, map_map]
    exact map_id'' (fun p => rfl) _
  have hk : (names.zip cells).map (·.1) = names := map_fst_zip h.ge
  have hr : Workflow.rowDocument (names.map .text) (.list cells) = .ok (.record (Fields.putAll [] (names.zip cells))) := by
    rw [← hf]
    rfl
  rw [hr, Except.ok.injEq, record.injEq]
  constructor
  · intro ha
    have hn : ((Fields.putAll [] (names.zip cells)).map (·.1)).Nodup := Fields.nodup_putAll (by simp) _
    rwa [ha, hk] at hn
  · intro hn
    exact Fields.putAll_new (by rw [hk]; simpa using hn)

/-- The statement of a plan without groups delivers its columns under these names. They are different exactly if the names
made for columns whose own name is taken differ from each other and from the shown columns, and those of the window
functions from all these; and exactly then a row keeps all its values. The tables' names without their marks are enough
for that, where they differ and no column's name ends with another one's. -/
theorem output_names_of_columns {plan state context : Value} {s : Surroundings} {t t' : Traffic} {clauses : List Clause}
    {shown : List (String × String)} (hgroup : (plan.peek "group_by").truthy = false)
    (hshown : visible plan = shown.map refOf) (hdistinct : shown.Nodup)
    (hbuilt : Gives (buildClauses plan state context) s t clauses t') :
    ∃ items rest, clauses = .select items :: rest ∧
      (List.Forall₂ IsNamed items (outputNames plan shown) ∨ items = [.everything] ∧ outputNames plan shown = []) ∧
      ((outputNames plan shown).Nodup ↔
        (((repeats [] shown).map longName).Nodup ∧ ∀ p ∈ repeats [] shown, longName p ∉ shown.map Prod.snd) ∧
          (windowNames plan).Nodup ∧ ∀ name ∈ windowNames plan, name ∉ labels [] shown) ∧
      ((∀ p ∈ shown, ∀ q ∈ shown, p.2.toList <:+ q.2.toList → p.2 = q.2) →
        (∀ p ∈ shown, ∀ q ∈ shown, p.2 = q.2 → unmarked p.1 = unmarked q.1 → p = q) →
        (∀ p ∈ shown, unmarked p.1 ≠ "") → windowNames plan = [] → (outputNames plan shown).Nodup) ∧
      ∀ cells : List Value, cells.length = (outputNames plan shown).length →
        (Workflow.rowDocument ((outputNames plan shown).map .text) (.list cells) =
          .ok (.record ((outputNames plan shown).zip cells)) ↔ (outputNames plan shown).Nodup) := by
  obtain ⟨items, rest, rfl, hi⟩ := selectList_of_built hbuilt
  refine ⟨items, rest, rfl, selectList_named hgroup hshown hi, ?_, ?_, fun cells hc => rowDocument_names hc⟩
  · rw [outputNames, nodup_append, nodup_labels]
    refine and_congr_right fun _ => and_congr_right fun _ => ?_
    exact ⟨fun h name hw hl => h name hl name hw rfl, fun h a ha b hb hab => h b hb (hab ▸ ha)⟩
  · intro he ht hm hwi
    rw [outputNames, hwi, append_nil]
    exact nodup_labels_of_tables hdistinct he ht hm

def companyIds (tables : List String) : Value := .record [
  ("selections", .list (("tb_Company" :: tables).map fun table => .record [("table", .text table),
    ("columns", .list [.record [("table", .text table), ("column", "ID"), ("role", "projection")]])])),
  ("join_edges", .list (tables.map fun table => .record [("from_table", "tb_Company"), ("from_column", "ID"),
    ("to_table", .text table), ("to_column", "CompanyID"), ("join_type", "inner")]))]

theorem output_names_of_companies :
    visible (companyIds ["tb_Users", "tb_Sites"]) =
        [("tb_Company", "ID"), ("tb_Users", "ID"), ("tb_Sites", "ID")].map refOf ∧
      (∃ items rest, Gives (buildClauses (companyIds ["tb_Users", "tb_Sites"]) (.record []) serverContext) {} {}
          (.select items :: rest) {} ∧ List.Forall₂ IsNamed items ["ID", "UsersID", "SitesID"]) ∧
      ∀ cells : List Value, cells.length = 3 → Workflow.rowDocument ["ID", "UsersID", "SitesID"] (.list cells) =
        .ok (.record (["ID", "UsersID", "SitesID"].zip cells)) := by
  have hs : visible (companyIds ["tb_Users", "tb_Sites"]) =
      [("tb_Company", "ID"), ("tb_Users", "ID"), ("tb_Sites", "ID")].map refOf := rfl
  obtain ⟨cls, hb⟩ : ∃ cls,
      Gives (buildClauses (companyIds ["tb_Users", "tb_Sites"]) (.record []) serverContext) {} {} cls {} := ⟨_, rfl⟩
  have hn : outputNames (companyIds ["tb_Users", "tb_Sites"])
      [("tb_Company", "ID"), ("tb_Users", "ID"), ("tb_Sites", "ID")] = ["ID", "UsersID", "SitesID"] := by decide +kernel
  obtain ⟨items, rest, rfl, hi, -, -, hr⟩ := output_names_of_columns rfl hs (by decide) hb
  rw [hn] at hi hr
  refine ⟨hs, ⟨items, rest, hb, hi.resolve_right (by simp)⟩, fun cells hc => ?_⟩
  exact (hr cells hc).2 (by decide)

/-- Two tables that differ in their marks only have columns of one name, and a row loses a value. -/
theorem output_names_collide :
    visible (companyIds ["tb_Users", "tb_SaasUsers"]) =
        [("tb_Company", "ID"), ("tb_Users", "ID"), ("tb_SaasUsers", "ID")].map refOf ∧
      (∃ rest, Gives (buildClauses (companyIds ["tb_Users", "tb_SaasUsers"]) (.record []) serverContext) {} {}
        (.select [.column ⟨"tb_Company", "ID"⟩ none, .column ⟨"tb_Users", "ID"⟩ (some "UsersID"),
          .column ⟨"tb_SaasUsers", "ID"⟩ (some "UsersID")] :: rest) {}) ∧
      Workflow.rowDocument ["ID", "UsersID", "UsersID"] (.list [.int 1, .int 2, .int 3]) =
        .ok (.record [("ID", .int 1), ("UsersID", .int 3)]) := by
  have hu : longName ("tb_Users", "ID") = "UsersID" := by decide +kernel
  have hs : longName ("tb_SaasUsers", "ID") = "UsersID" := by decide +kernel
  have hb : ∃ rest, Gives (buildClauses (companyIds ["tb_Users", "tb_SaasUsers"]) (.record []) serverContext) {} {}
      (.select [.column ⟨"tb_Company", "ID"⟩ none, .column ⟨"tb_Users", "ID"⟩ (some (longName ("tb_Users", "ID"))),
        .column ⟨"tb_SaasUsers", "ID"⟩ (some (longName ("tb_SaasUsers", "ID")))] :: rest) {} := ⟨_, rfl⟩
  rw [hu, hs] at hb
  exact ⟨rfl, hb, rfl⟩

end Plan

end QueryDesk
