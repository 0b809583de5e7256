import QueryDesk.Plan.Patch
import QueryDesk.Proofs.Grouping

/-!
What one patch does to a plan. Tables and columns are named without regard to case, and a patch changes the first
one that has its name. A patch that is accepted does one of four things (`Accepted`): it adds a column that the
schema has, takes one out or keeps it for the filters alone, replaces the order, or replaces the limit.
-/

namespace QueryDesk.Plan

open Attempt Value Sql List

variable {v name doc x a : Value} {s : String} {entries before behind : List Value} {found : Option (List Value)}
  {P : Value → Prop}

/-! ### Names -/

/-- A value is the same as a text, other than the one that stands for a statement, only if it is that text. -/
lemma beq_text_iff (hs : s ≠ statementText) : (v == .text s) = true ↔ v = .text s := by
  cases v with
  | text a =>
    rw [beq_text, text?, beq_iff_eq, Option.some.injEq, Value.text.injEq]
    exact eq_comm
  | statement calls =>
    show (some s == some statementText) = true ↔ _
    simp [hs]
  | _ => simp [BEq.beq, same, isNull, sameNumber, int?]

/-- The name that a text stands for, without regard to case. -/
def nameOf (v : Value) : Option String := v.text?.map Text.lower

def nameAt (doc : Value) (key : String) : Option String := (doc.at? key).bind nameOf

lemma lowered_ok : v.lowered = .ok n ↔ nameOf v = some n := by
  simp only [lowered, textFor, nameOf, bind_ok, pure_ok]
  cases v.text? <;> simp

lemma sameName_ok :
    sameName a b = .ok r ↔ ∃ n m, nameOf a = some n ∧ nameOf b = some m ∧ (n == m) = r := by
  simp only [sameName, bind_ok, pure_ok, lowered_ok, exists_and_left]

def fieldIs (key : String) (name doc : Value) : Attempt Bool := do sameName (← doc.field key) name

lemma fieldIs_ok :
    fieldIs key name doc = .ok r ↔ ∃ n m, nameAt doc key = some n ∧ nameOf name = some m ∧ (n == m) = r := by
  simp only [fieldIs, bind_ok, field_ok, sameName_ok, nameAt, Option.bind_eq_some_iff]
  constructor
  · rintro ⟨x, hx, n, m, hn, h⟩
    exact ⟨n, m, ⟨x, hx, hn⟩, h⟩
  · rintro ⟨n, m, ⟨x, hx, hn⟩, h⟩
    exact ⟨x, hx, n, m, hn, h⟩

lemma ne_of_fieldIs_false (hn : nameOf name = some n)
    (h : fieldIs key name doc = .ok false) : nameAt doc key ≠ some n := by
  obtain ⟨m, n', hm, hn', hmn⟩ := fieldIs_ok.1 h
  rw [hn] at hn'
  cases hn'
  rw [hm]
  simpa using hmn

lemma nameAt_of_fieldIs (hn : nameOf name = some n) (h : fieldIs key name doc = .ok true) :
    nameAt doc key = some n := by
  obtain ⟨m, n', hm, hn', hmn⟩ := fieldIs_ok.1 h
  rw [hn] at hn'
  cases hn'
  rw [hm, beq_iff_eq.1 hmn]

lemma eq_of_fieldIs_true (h : fieldIs key name doc = .ok true) :
    ∃ n, nameOf name = some n ∧ nameAt doc key = some n := by
  obtain ⟨m, n, hm, hn, hmn⟩ := fieldIs_ok.1 h
  rw [beq_iff_eq] at hmn
  exact ⟨n, hn, hmn ▸ hm⟩

lemma exists_mem_middle :
    (∃ y ∈ before ++ x :: behind, P y) ↔ (∃ y ∈ before ++ behind, P y) ∨ P x := by
  simp only [mem_append, mem_cons, or_and_right, exists_or, exists_eq_left]
  rw [or_assoc]
  exact or_congr_right or_comm

lemma nameAt_kept {keys : List String} (h : Kept keys doc doc')
    (hk : key ∉ keys := by simp) : nameAt doc' key = nameAt doc key := by
  rw [nameAt, nameAt, h.same key hk]

lemma nameAt_update (h : doc.IsRecord) (hk : key ≠ key' := by decide) :
    nameAt (doc.update [(key', x)]) key = nameAt doc key :=
  nameAt_kept (h.kept_self key' x) (by simpa using hk)

/-! ### A step on the first item that is meant -/

section

/-- Puts others in the place of the first item that is meant; none if no item is. -/
def atFirst (test : Value → Attempt Bool) (step : Value → Attempt (List Value)) :
    List Value → Attempt (Option (List Value))
  | [] => .ok none
  | x :: rest => do
    if ← test x then do pure (some ((← step x) ++ rest)) else do pure ((← atFirst test step rest).map (x :: ·))

/-- The first item that is meant stands behind items that are not. -/
structure First (test : Value → Attempt Bool) (xs before : List Value) (x : Value) (behind : List Value) : Prop where
  parts : xs = before ++ x :: behind
  others : ∀ y ∈ before, test y = .ok false
  meant : test x = .ok true

lemma atFirst_ok (h : atFirst test step xs = .ok found) :
    (found = none ∧ ∀ x ∈ xs, test x = .ok false) ∨ ∃ before x behind news, First test xs before x behind ∧
      step x = .ok news ∧ found = some (before ++ news ++ behind) := by
  induction xs generalizing found with
  | nil =>
    cases h
    simp
  | cons x xs ih =>
    simp only [atFirst, bind_ok] at h
    obtain ⟨meant, hm, h⟩ := h
    cases meant with
    | true =>
      simp only [if_true, bind_ok, pure_ok] at h
      obtain ⟨news, hn, rfl⟩ := h
      exact .inr ⟨[], x, xs, news, ⟨rfl, by simp, hm⟩, hn, rfl⟩
    | false =>
      simp only [Bool.false_eq_true, if_false, bind_ok, pure_ok] at h
      obtain ⟨rest, hr, rfl⟩ := h
      rcases ih hr with ⟨rfl, hno⟩ | ⟨before, y, behind, news, hf, hn, rfl⟩
      · exact .inl ⟨rfl, by simpa [hm] using hno⟩
      · refine .inr ⟨x :: before, y, behind, news, ⟨by simp [hf.parts], ?_, hf.meant⟩, hn, rfl⟩
        simpa [hm] using hf.others

end

lemma onSelection_eq (tb : Value) (step : Value → Attempt Value) (xs : List Value) :
    onSelection tb step xs = atFirst (fieldIs "table" tb) (fun s => do return [← step s]) xs := by
  induction xs with
  | nil => rfl
  | cons x xs ih =>
    rw [onSelection, atFirst, ih, fieldIs]
    simp

lemma showListed_eq (column : Value) (xs : List Value) :
    showListed column xs = atFirst (fieldIs "column" column) (fun c => do
      if (← c.field "role") == Value.text "filter" then return [← c.setField "role" "projection"]
      else return [c]) xs := by
  induction xs with
  | nil => rfl
  | cons x xs ih =>
    rw [showListed, atFirst, ih, fieldIs]
    simp only [bind_assoc]
    refine bind_congr fun name => bind_congr fun meant => ?_
    cases meant with
    | false => rfl
    | true =>
      refine bind_congr fun role => ?_
      split <;> simp

lemma hideListed_eq (column : Value) (fil : Bool) (xs : List Value) :
    hideListed column fil xs = atFirst (fieldIs "column" column) (fun c => do
      if fil then return [← c.setField "role" "filter"] else return []) xs := by
  induction xs with
  | nil => rfl
  | cons x xs ih =>
    rw [hideListed, atFirst, ih, fieldIs]
    simp only [bind_assoc]
    refine bind_congr fun name => bind_congr fun meant => ?_
    cases meant <;> cases fil <;> simp

/-! ### The columns of a schema -/

lemma docsOf_of_field (h : doc.field key = .ok v) (hxs : v.items = .ok xs) : docsOf doc key = xs := by
  rw [field_ok] at h
  cases doc with
  | record fs => exact docsOf_eq (by rw [itemsOf, IsRecord.getD ⟨fs, rfl⟩, h]; exact hxs)
  | _ => cases h

def HasColumn (schema : Value) (t c : String) : Prop := ∃ entries, schema.items = .ok entries ∧
  ∃ e ∈ entries, nameAt e "table_name" = some t ∧ ∃ x ∈ docsOf e "columns", nameAt x "column_name" = some c

section

variable {column : Value} {c : String}

lemma find_ok {found : Option Value} (h : schemaColumn?.find column xs = .ok found) :
    (∀ x, found = some x → x ∈ xs ∧ fieldIs "column_name" column x = .ok true) ∧
      (found = none → ∀ x ∈ xs, fieldIs "column_name" column x = .ok false) := by
  induction xs with
  | nil =>
    cases h
    simp
  | cons x xs ih =>
    simp only [schemaColumn?.find, bind_ok] at h
    obtain ⟨name, hna, same, hsa, h⟩ := h
    have hx : fieldIs "column_name" column x = .ok same := by rw [fieldIs, hna, ok_bind, hsa]
    cases same with
    | true =>
      cases h
      simp [hx]
    | false =>
      obtain ⟨hs, hno⟩ := ih h
      refine ⟨fun y hy => ?_, fun hn => by simpa [hx] using hno hn⟩
      exact ⟨mem_cons_of_mem x (hs y hy).1, (hs y hy).2⟩

/-- What a search for a column ends with: one that stands in a table of that name, or none, and then no such table
has it. -/
def Found (table column : Value) (entries : List Value) : Option Value → Prop
  | some x => ∃ e ∈ entries, fieldIs "table_name" table e = .ok true ∧ x ∈ docsOf e "columns" ∧
      fieldIs "column_name" column x = .ok true
  | none => ∀ e ∈ entries, fieldIs "table_name" table e = .ok false ∨
      ∀ x ∈ docsOf e "columns", fieldIs "column_name" column x = .ok false

lemma Found.cons {found : Option Value} (h : Found table column entries found)
    (he : fieldIs "table_name" table e = .ok false ∨
      ∀ x ∈ docsOf e "columns", fieldIs "column_name" column x = .ok false) :
    Found table column (e :: entries) found := by
  cases found with
  | none => exact forall_mem_cons.2 ⟨he, h⟩
  | some x =>
    obtain ⟨e', he', hx⟩ := h
    exact ⟨e', mem_cons_of_mem e he', hx⟩

lemma schemaColumn?_ok {found : Option Value}
    (h : schemaColumn? table column entries = .ok found) : Found table column entries found := by
  induction entries with
  | nil =>
    cases h
    simp [Found]
  | cons e entries ih =>
    simp only [schemaColumn?, bind_ok] at h
    obtain ⟨name, hn, same, hs, h⟩ := h
    have he : fieldIs "table_name" table e = .ok same := by rw [fieldIs, hn, ok_bind, hs]
    cases same with
    | false => exact (ih h).cons (.inl he)
    | true =>
      simp only [if_true, bind_ok] at h
      obtain ⟨columns, hc, xs, hxs, own, ho, h⟩ := h
      have hd : docsOf e "columns" = xs := docsOf_of_field hc hxs
      obtain ⟨hso, hno⟩ := find_ok ho
      cases own with
      | none => exact (ih h).cons (.inr (hd ▸ hno rfl))
      | some x =>
        cases h
        exact ⟨e, by simp, he, hd ▸ hso x rfl⟩

lemma hasColumn_ok {b : Bool} (h : hasColumn table column schema = .ok b) :
    ∃ entries found, schema.items = .ok entries ∧ schemaColumn? table column entries = .ok found ∧
      Found table column entries found ∧ b = found.isSome := by
  simp only [hasColumn, bind_ok, pure_ok] at h
  obtain ⟨entries, he, found, hf, rfl⟩ := h
  exact ⟨entries, found, he, hf, schemaColumn?_ok hf, rfl⟩

lemma hasColumn_true (h : hasColumn tb column schema = .ok true) :
    ∃ t c, nameOf tb = some t ∧ nameOf column = some c ∧ HasColumn schema t c := by
  obtain ⟨entries, found, hen, -, hf, hs⟩ := hasColumn_ok h
  cases found with
  | none => cases hs
  | some x =>
    obtain ⟨e, he, hta, hx, hco⟩ := hf
    obtain ⟨t, ht, hn⟩ := eq_of_fieldIs_true hta
    obtain ⟨c, hc, hm⟩ := eq_of_fieldIs_true hco
    exact ⟨t, c, ht, hc, entries, hen, e, he, hn, x, hx, hm⟩

lemma hasColumn_of (h : hasColumn table column schema = .ok true) (ht : nameOf table = some t)
    (hc : nameOf column = some c) : HasColumn schema t c := by
  obtain ⟨t', c', ht', hc', hco⟩ := hasColumn_true h
  cases ht.symm.trans ht'
  cases hc.symm.trans hc'
  exact hco

end

/-! ### What a patch does -/

/-- What a patch asks for, of the columns that are shown. -/
inductive Wish where
  | add (table column : String)
  | remove (table column : String)
  | other

/-- The name that a patch gives in a field; an empty text is none. -/
def givenName (patch : Value) (key : String) : Option String :=
  if (patch.peek key).truthy then nameOf (patch.peek key) else none

def wish (patch : Value) : Wish :=
  match (patch.peek "operation").text?, givenName patch "table", givenName patch "column" with
  | some "add_column", some t, some c => .add t c
  | some "remove_column", some t, some c => .remove t c
  | _, _, _ => .other

inductive Added (c : String) (columns : List Value) : List Value → Prop
  | revealed {before behind : List Value} {x : Value} (hparts : columns = before ++ x :: behind)
      (hname : nameAt x "column" = some c) (hrecord : x.IsRecord) (hrole : x.at? "role" = some (.text "filter")) :
      Added c columns (before ++ x.update [("role", "projection")] :: behind)
  /-- One that is listed in another role stays as it is. -/
  | listed {x : Value} (hmem : x ∈ columns) (hname : nameAt x "column" = some c)
      (hrole : x.at? "role" ≠ some (.text "filter")) : Added c columns columns
  /-- One that was not listed comes last. -/
  | new {x : Value} (hnone : ∀ y ∈ columns, nameAt y "column" ≠ some c) (hrecord : x.IsRecord)
      (hname : nameAt x "column" = some c) (hrole : x.at? "role" = some (.text "projection")) :
      Added c columns (columns ++ [x])

inductive Removed (c : String) (columns : List Value) : Bool → List Value → Prop
  /-- Filters use it, so it stays listed for them. -/
  | hidden {before behind : List Value} {x : Value} (hparts : columns = before ++ x :: behind)
      (hothers : ∀ y ∈ before, nameAt y "column" ≠ some c) (hname : nameAt x "column" = some c) (hrecord : x.IsRecord) :
      Removed c columns true (before ++ x.update [("role", "filter")] :: behind)
  | gone {before behind : List Value} {x : Value} (hparts : columns = before ++ x :: behind)
      (hothers : ∀ y ∈ before, nameAt y "column" ≠ some c) (hname : nameAt x "column" = some c) :
      Removed c columns false (before ++ behind)

/-- A plan in which the first selection of a table lists other columns. -/
structure Relisted (t : String) (s : Value) (columns : List Value) (plan plan' : Value) : Prop where
  record : plan.IsRecord
  selection : s.IsRecord
  name : nameAt s "table" = some t
  place : ∃ before behind, docsOf plan "selections" = before ++ s :: behind ∧
    (∀ y ∈ before, nameAt y "table" ≠ some t) ∧ plan' = plan.update [("selections",
      .list (before ++ s.update [("columns", .list columns)] :: behind))]

inductive Accepted (schema plan patch : Value) : Value → Prop
  | add {t c : String} {s plan' : Value} {columns : List Value} (hwish : wish patch = .add t c)
      (hcolumn : HasColumn schema t c) (hadded : Added c (docsOf s "columns") columns)
      (hrelisted : Relisted t s columns plan plan') : Accepted schema plan patch plan'
  | remove {t c : String} {s plan' : Value} {columns : List Value} {filtered : Bool}
      (hwish : wish patch = .remove t c)
      (hfiltered : isInFilters (patch.peek "table") (patch.peek "column") plan = .ok filtered)
      (hremoved : Removed c (docsOf s "columns") filtered columns) (hrelisted : Relisted t s columns plan plan') :
      Accepted schema plan patch plan'
  | order (hwish : wish patch = .other) (hrecord : plan.IsRecord)
      (hoperation : (patch.peek "operation").text? = some "modify_order_by") :
      Accepted schema plan patch (plan.update [("order_by", patch.peek "order_by")])
  | limit (hwish : wish patch = .other) (hrecord : plan.IsRecord)
      (hoperation : (patch.peek "operation").text? = some "modify_limit") :
      Accepted schema plan patch (plan.update [("limit", patch.peek "limit")])

section

variable {plan column s : Value} {c : String} {columns : List Value}

lemma showListed_ok (hc : nameOf column = some c) (h : showListed column columns = .ok found) :
    (found = none ∧ ∀ x ∈ columns, nameAt x "column" ≠ some c) ∨ ∃ listed, found = some listed ∧
      Added c columns listed := by
  rw [showListed_eq] at h
  rcases atFirst_ok h with ⟨rfl, hno⟩ | ⟨before, x, behind, news, hf, hn, rfl⟩
  · exact .inl ⟨rfl, fun x hx => ne_of_fieldIs_false hc (hno x hx)⟩
  · right
    have hna := nameAt_of_fieldIs hc hf.meant
    simp only [bind_ok, field_ok] at hn
    obtain ⟨role, hr, hn⟩ := hn
    split at hn
    case isTrue hfi =>
      simp only [bind_ok, pure_ok] at hn
      obtain ⟨x', hx', rfl⟩ := hn
      obtain ⟨hre, rfl⟩ := setField_ok hx'
      rw [(beq_text_iff (by decide)).1 hfi] at hr
      exact ⟨_, by simp, .revealed hf.parts hna hre hr⟩
    case isFalse ho =>
      cases hn
      refine ⟨columns, by simp [hf.parts], .listed (by simp [hf.parts]) hna ?_⟩
      rw [hr]
      exact fun he => ho ((beq_text_iff (by decide)).2 (Option.some.inj he))

lemma hideListed_ok (h : hideListed column fil columns = .ok found) :
    (found = none ∧ ∀ x ∈ columns, fieldIs "column" column x = .ok false) ∨ ∃ c listed, found = some listed ∧
      nameOf column = some c ∧ Removed c columns fil listed := by
  rw [hideListed_eq] at h
  rcases atFirst_ok h with hno | ⟨before, x, behind, news, hf, hn, rfl⟩
  · exact .inl hno
  · right
    obtain ⟨c, hc, hna⟩ := eq_of_fieldIs_true hf.meant
    have ho : ∀ y ∈ before, nameAt y "column" ≠ some c := fun y hy => ne_of_fieldIs_false hc (hf.others y hy)
    refine ⟨c, _, rfl, hc, ?_⟩
    cases fil with
    | true =>
      simp only [if_true, bind_ok, pure_ok] at hn
      obtain ⟨x', hx', rfl⟩ := hn
      obtain ⟨hr, rfl⟩ := setField_ok hx'
      simpa using Removed.hidden hf.parts ho hna hr
    | false =>
      cases hn
      simpa using Removed.gone hf.parts ho hna

lemma addedColumn_ok (h : addedColumn tb column schema = .ok added) :
    added.IsRecord ∧ added.at? "column" = some column ∧ added.at? "role" = some (.text "projection") := by
  simp only [addedColumn, bind_ok] at h
  obtain ⟨type, -, h⟩ := h
  have hk : ∃ kind : String, added = .record [("table", tb), ("column", column), ("role", "projection"),
      ("reason", "Added via plan patching"), ("value_type", .text kind)] := by
    split at h
    · simp only [bind_ok, pure_ok] at h
      obtain ⟨_, -, kind, -, rfl⟩ := h
      exact ⟨kind, rfl⟩
    · exact ⟨_, (pure_ok.1 h).symm⟩
  obtain ⟨kind, rfl⟩ := hk
  exact ⟨⟨_, rfl⟩, rfl, rfl⟩

lemma showColumn_ok (hc : nameOf column = some c) (h : showColumn table column schema s = .ok s') :
    s.IsRecord ∧ ∃ columns, s' = s.update [("columns", .list columns)] ∧ Added c (docsOf s "columns") columns := by
  simp only [showColumn, bind_ok] at h
  obtain ⟨field, hf, xs, hxs, found, hfo, h⟩ := h
  have hd : docsOf s "columns" = xs := docsOf_eq (by rw [itemsOf, hf]; exact hxs)
  rcases showListed_ok hc hfo with ⟨rfl, hn⟩ | ⟨listed, rfl, ha⟩
  · simp only [bind_ok] at h
    obtain ⟨added, ha, columns, hco, hs⟩ := h
    obtain ⟨hr, rfl⟩ := setField_ok hs
    obtain ⟨hr', hcn, hro⟩ := addedColumn_ok ha
    have hna : nameAt added "column" = some c := by rw [nameAt, hcn, Option.bind_some, hc]
    -- Something other than a list has items, too, but nothing can be put behind them.
    cases field with
    | list ys =>
      cases hxs
      cases hco
      refine ⟨hr, _, rfl, ?_⟩
      rw [hd]
      exact .new hn hr' hna hro
    | _ => cases hco
  · obtain ⟨hr, rfl⟩ := setField_ok h
    exact ⟨hr, listed, rfl, hd ▸ ha⟩

lemma hideColumn_ok (h : hideColumn plan table column s = .ok s') :
    s.IsRecord ∧ ∃ c fil columns, nameOf column = some c ∧ isInFilters table column plan = .ok fil ∧
      s' = s.update [("columns", .list columns)] ∧ Removed c (docsOf s "columns") fil columns := by
  simp only [hideColumn, bind_ok] at h
  obtain ⟨fil, hf, xs, hxs, found, hfo, h⟩ := h
  rcases hideListed_ok hfo with ⟨rfl, -⟩ | ⟨c, listed, rfl, hc, hr⟩
  · simp at h
  · obtain ⟨hre, rfl⟩ := setField_ok h
    exact ⟨hre, c, fil, listed, hc, hf, rfl, docsOf_eq hxs ▸ hr⟩

lemma onSelection_ok (h : onSelection tb step xs = .ok found) :
    (found = none ∧ ∀ x ∈ xs, fieldIs "table" tb x = .ok false) ∨
      ∃ t before s behind s', nameOf tb = some t ∧ xs = before ++ s :: behind ∧
        (∀ y ∈ before, nameAt y "table" ≠ some t) ∧ nameAt s "table" = some t ∧ step s = .ok s' ∧
        found = some (before ++ s' :: behind) := by
  rw [onSelection_eq] at h
  rcases atFirst_ok h with hno | ⟨before, x, behind, news, hf, hn, rfl⟩
  · exact .inl hno
  · obtain ⟨t, ht, hna⟩ := eq_of_fieldIs_true hf.meant
    simp only [bind_ok, pure_ok] at hn
    obtain ⟨s', hs', rfl⟩ := hn
    exact .inr ⟨t, before, x, behind, s', ht, hf.parts,
      fun y hy => ne_of_fieldIs_false ht (hf.others y hy), hna, hs', by simp⟩

lemma addColumn_ok (h : addColumn plan tb column schema = .ok plan') :
    ∃ t c s columns, nameOf tb = some t ∧ nameOf column = some c ∧ HasColumn schema t c ∧
      Added c (docsOf s "columns") columns ∧ Relisted t s columns plan plan' := by
  simp only [addColumn, bind_ok] at h
  obtain ⟨kn, hk, h⟩ := h
  cases kn with
  | false => simp at h
  | true =>
    obtain ⟨t, c, ht, hc, hco⟩ := hasColumn_true hk
    simp only [Bool.not_true, Bool.false_eq_true, if_false, bind_ok] at h
    obtain ⟨xs, hxs, found, hf, h⟩ := h
    rcases onSelection_ok hf with ⟨rfl, -⟩ | ⟨t', before, s, behind, s', ht', hp, ho, hn, hs', rfl⟩
    · simp at h
    · obtain ⟨hr, rfl⟩ := setField_ok h
      obtain ⟨hs, columns, rfl, ha⟩ := showColumn_ok hc hs'
      rw [ht] at ht'
      cases ht'
      exact ⟨t, c, s, columns, ht, hc, hco, ha, hr, hs, hn, before, behind,
        (docsOf_eq hxs).trans hp, ho, rfl⟩

lemma removeColumn_ok (h : removeColumn plan tb column = .ok plan') :
    ∃ t c s fil columns, nameOf tb = some t ∧ nameOf column = some c ∧
      isInFilters tb column plan = .ok fil ∧ Removed c (docsOf s "columns") fil columns ∧
      Relisted t s columns plan plan' := by
  simp only [removeColumn, bind_ok] at h
  obtain ⟨xs, hxs, found, hfo, h⟩ := h
  rcases onSelection_ok hfo with ⟨rfl, -⟩ | ⟨t, before, s, behind, s', ht, hp, ho, hn, hs', rfl⟩
  · simp at h
  · obtain ⟨hre, rfl⟩ := setField_ok h
    obtain ⟨hs, c, fil, columns, hc, hf, rfl, hr⟩ := hideColumn_ok hs'
    exact ⟨t, c, s, fil, columns, ht, hc, hf, hr, hre, hs, hn, before, behind,
      (docsOf_eq hxs).trans hp, ho, rfl⟩

lemma patchColumn_ok (h : patchColumn patch operation = .ok (tb, column)) :
    tb = patch.peek "table" ∧ column = patch.peek "column" ∧ givenName patch "table" = nameOf tb ∧
      givenName patch "column" = nameOf column := by
  simp only [patchColumn, bind_ok, exists_get] at h
  obtain ⟨-, -, h⟩ := h
  split at h
  case isTrue hg =>
    cases h
    rw [Bool.and_eq_true] at hg
    exact ⟨rfl, rfl, if_pos hg.1, if_pos hg.2⟩
  case isFalse => simp at h

lemma patchField_ok (h : patchField patch operation key = .ok x) : x = patch.peek key := by
  simp only [patchField, bind_ok, exists_get] at h
  obtain ⟨-, h⟩ := h
  split at h
  · simp at h
  · exact (pure_ok.1 h).symm

lemma applyPatch_ok (h : applyPatch plan patch schema = .ok plan') : Accepted schema plan patch plan' := by
  simp only [applyPatch, bind_ok, exists_get] at h
  obtain ⟨-, h⟩ := h
  split at h
  case h_1 ho =>
    simp only [bind_ok, Prod.exists] at h
    obtain ⟨tb, column, hn, h⟩ := h
    obtain ⟨rfl, rfl, hta, hco⟩ := patchColumn_ok hn
    obtain ⟨t, c, s, columns, ht, hc, hk, ha, hr⟩ := addColumn_ok h
    exact .add (by simp [wish, ho, hta, hco, ht, hc]) hk ha hr
  case h_2 ho =>
    simp only [bind_ok, Prod.exists] at h
    obtain ⟨tb, column, hn, h⟩ := h
    obtain ⟨rfl, rfl, hta, hco⟩ := patchColumn_ok hn
    obtain ⟨t, c, s, fil, columns, ht, hc, hf, hrd, hr⟩ := removeColumn_ok h
    exact .remove (by simp [wish, ho, hta, hco, ht, hc]) hf hrd hr
  case h_3 ho =>
    simp only [setOrder, bind_ok, pure_ok] at h
    obtain ⟨order, hor, _, -, _, -, _, hs, _, -, rfl⟩ := h
    obtain ⟨hre, rfl⟩ := setField_ok hs
    rw [patchField_ok hor]
    exact .order (by simp [wish, ho]) hre ho
  case h_4 ho =>
    simp only [setLimit, bind_ok] at h
    obtain ⟨limit, hl, h⟩ := h
    split at h
    · simp at h
    · obtain ⟨hre, rfl⟩ := setField_ok h
      rw [patchField_ok hl]
      exact .limit (by simp [wish, ho]) hre ho
  case h_5 => simp at h

lemma Relisted.mem_selections (h : Relisted t s columns plan plan') : s ∈ docsOf plan "selections" := by
  obtain ⟨before, behind, hp, -⟩ := h.place
  simp [hp]

lemma Relisted.kept (h : Relisted t s columns plan plan') : Kept ["selections"] plan plan' := by
  obtain ⟨before, behind, -, -, rfl⟩ := h.place
  exact h.record.kept_self _ _

lemma Accepted.kept (h : Accepted schema plan patch plan') :
    plan.IsRecord ∧ Kept ["selections", "order_by", "limit"] plan plan' := by
  cases h with
  | add _ _ _ hr | remove _ _ _ hr => exact ⟨hr.record, kept_mono hr.kept (by simp)⟩
  | order _ hre | limit _ hre => exact ⟨hre, hre.kept_update (by simp)⟩

end

end QueryDesk.Plan
