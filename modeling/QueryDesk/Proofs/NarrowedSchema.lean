import QueryDesk.Proofs.MappedTables
import QueryDesk.Proofs.Statement
import QueryDesk.Workflow.FilterSchema

/-!
What the step that narrows a schema hands on. A model chooses tables and columns, and every chosen table comes twice:
whole, as the schema has it, and cut down to the columns that were asked for. If the choice cannot be used, the
candidates are handed on as they are, and these may be the copies that the search has stored, without their columns.
-/

namespace QueryDesk

open Attempt List Value

variable {α β : Type} {e facts : Value} {rs : List Value} {x : String}

lemma Attempt.filterMapM_ok {f : α → Attempt (Option β)} (h : xs.filterMapM f = .ok ys) :
    ∃ os, Forall₂ (fun x o => f x = .ok o) xs os ∧ ys = os.filterMap id := by
  induction xs generalizing ys with
  | nil => exact ⟨[], .nil, (pure_ok.1 h).symm⟩
  | cons x xs ih =>
    rw [filterMapM_cons] at h
    obtain ⟨o, ho, h⟩ := bind_ok.1 h
    cases o with
    | none =>
      obtain ⟨os, hos, rfl⟩ := ih h
      exact ⟨none :: os, .cons ho hos, rfl⟩
    | some y =>
      obtain ⟨zs, hzs, h⟩ := bind_ok.1 h
      obtain ⟨os, hos, rfl⟩ := ih hzs
      exact ⟨some y :: os, .cons ho hos, (pure_ok.1 h).symm⟩

namespace Schema

/-! ### Tables cut down -/

def itemsIn (v : Value) : List Value :=
  match v.items with
  | .ok vs => vs
  | .error _ => []

/-- Two names that differ at most in case and underscores. -/
def alike (a b : Value) : Bool :=
  match looseName a, looseName b with
  | .ok x, .ok y => x == y
  | _, _ => false

def isRequested (requested : List Value) (column : Value) : Bool :=
  requested.any fun r => alike r ((column.at? "column_name").getD "")

/-- A table cut down to its requested columns, in their order, and marked; whole if it has none of them. -/
def Cut (requested : List Value) (whole cut : Value) : Prop :=
  let kept := (Sql.docsOf whole "columns").filter (isRequested requested)
  (kept = [] ∧ cut = whole) ∨ (kept ≠ [] ∧ Kept ["columns", "column_filtered"] whole cut ∧
    cut.at? "columns" = some (.list kept) ∧ cut.at? "column_filtered" = some (.bool true))

/-- The columns that a model's last judgement on a table asks for, of those that find it relevant. -/
def requested (js : List Assessment) (table : Value) : List Value :=
  match (js.filter (·.isRelevant.truthy)).reverse.find? (·.table == table) with
  | some j => itemsIn j.columns
  | none => []

variable {table cut chosen : Value} {walk : List Value → List Value} {tables names : List Value}
  {known columns : Keyed Value} {js : List Assessment}

lemma itemsIn_of_falsy (h : chosen.truthy = false) : itemsIn chosen = [] := by
  cases chosen with
  | text s =>
    obtain rfl : s = "" := by simpa [truthy] using h
    rfl
  | list xs | tuple xs | set xs =>
    obtain rfl : xs = [] := by simpa [truthy] using h
    rfl
  | record fs =>
    obtain rfl : fs = [] := by simpa [truthy] using h
    rfl
  | statement | frame => cases h
  | _ => rfl

lemma contains_eq_any (h : rs.mapM looseName = .ok wanted)
    (hx : looseName name = .ok x) : wanted.contains x = rs.any (alike · name) := by
  have hp := mapM_ok.1 h
  clear h
  induction hp with
  | nil => rfl
  | cons hw _ ih =>
    rw [contains_cons, any_cons, ih, alike, hw, hx, Bool.beq_comm]

lemma cutDown_cut (hre : table.IsRecord) (h : cutDown table chosen = .ok cut) : Cut (itemsIn chosen) table cut := by
  unfold cutDown at h
  split at h
  case isFalse hf =>
    refine .inl ⟨?_, (pure_ok.1 h).symm⟩
    simp [itemsIn_of_falsy (eq_false_of_ne_true hf), isRequested]
  case isTrue =>
    simp only [bind_ok, pure_ok] at h
    obtain ⟨listed, hl, cs, hcs, rs, hrs, wanted, hw, kept, hk, rfl⟩ := h
    have hc : Sql.docsOf table "columns" = cs := Sql.docsOf_eq (by rw [Sql.itemsOf, hl, ok_bind, hcs])
    have hr : itemsIn chosen = rs := by rw [itemsIn, hrs]
    have hfi : kept = cs.filter (isRequested rs) := by
      refine filter_of_filterM hk fun c _ b hb => ?_
      simp only [bind_ok, pure_ok] at hb
      obtain ⟨name, hn, x, hx, rfl⟩ := hb
      obtain ⟨fs, rfl, rfl⟩ := getD_ok.1 hn
      exact contains_eq_any hw hx
    rw [Cut, hc, hr, ← hfi]
    cases he : kept.isEmpty with
    | true => exact .inl ⟨isEmpty_iff.1 he, rfl⟩
    | false =>
      refine .inr ⟨by simpa using he, hre.kept_update (by simp), ?_, ?_⟩
      · simp [at?_update hre, Fields.latest, Fields.lookup_cons]
      · simp [at?_update hre, Fields.latest]

lemma Cut.name (h : Cut rs table cut) : cut.peek "table_name" = table.peek "table_name" := by
  rcases h with ⟨-, rfl⟩ | ⟨-, hk, -⟩
  · rfl
  · exact hk.peek _

/-! ### The choice of a model -/

/-- The names of the tables that were found relevant, each once, and the columns that the last judgement asks for. -/
lemma chosenColumns_eq (hjs : ∀ j ∈ js, IsText j.table) : ∃ columns, chosenColumns js = .ok columns ∧
    Keyed.keys columns = distinct ((js.filter (·.isRelevant.truthy)).map (·.table)) ∧
    ∀ n, IsText n → itemsIn ((Keyed.find? columns n).getD (.list [])) = requested js n := by
  have ht : ∀ j ∈ js.filter (·.isRelevant.truthy), IsText j.table := fun j hj => hjs j (mem_filter.1 hj).1
  refine ⟨_, foldlM_eq_foldl (g := fun known j => Keyed.put known j.table j.columns) ?_ [], ?_, fun n hn => ?_⟩
  · intro j hj known
    show (j.table.hashable >>= fun key => pure (Keyed.put known key j.columns)) = _
    rw [(ht j hj).hashable]
    rfl
  · rw [Keyed.keys_foldl_put, distinct_eq_foldl]
    rfl
  · rw [Keyed.find?_foldl_put (by simp [Keyed.Texts]) ht hn, requested]
    show itemsIn (((Option.map _ _).or none).getD _) = _
    rw [Option.or_none]
    cases (js.filter (·.isRelevant.truthy)).reverse.find? (·.table == n) <;> rfl

lemma truthy_of_isText (h : IsText (e.peek "table_name")) : e.truthy = true := by
  obtain ⟨s, hs⟩ := h
  cases e with
  | record fs =>
    cases fs with
    | nil => cases hs
    | cons => rfl
  | _ => cases hs

/-- Each chosen table is the last of its name in the schema, and cut down to what was asked for under that name. -/
lemma choose_ok (ht : AllTexts tables) (hk : Collected tables id known)
    (hke : ∀ n ∈ Keyed.keys columns, IsText n) (hwa : ∀ xs, (walk xs).Perm xs) {cs : List Chosen}
    (h : choose walk known columns = .ok cs) :
    cs.map (·.whole) = (walk (Keyed.keys columns)).filterMap (lastEntry tables) ∧ ∀ c ∈ cs,
      c.whole ∈ tables ∧ cutDown c.whole ((Keyed.find? columns (c.whole.peek "table_name")).getD (.list [])) = .ok c.cut := by
  have hna : ∀ n ∈ walk (Keyed.keys columns), IsText n := fun n hn => hke n ((hwa _).mem_iff.1 hn)
  rw [choose] at h
  generalize walk (Keyed.keys columns) = names at h hna
  obtain ⟨os, hos, rfl⟩ := filterMapM_ok h
  clear h
  induction hos with
  | nil => exact ⟨rfl, by simp⟩
  | @cons n o names os ho _ ih =>
    obtain ⟨hw, hc⟩ := ih fun m hm => hna m (by simp [hm])
    have hn := hna n (by simp)
    rw [hk.find n hn, Option.map_id, id] at ho
    cases hl : lastEntry tables n with
    | none =>
      rw [hl] at ho
      cases ho
      exact ⟨by simpa [hl] using hw, hc⟩
    | some e =>
      obtain ⟨he, hne⟩ := lastEntry_eq_some ht hn hl
      simp only [hl, truthy_of_isText (ht e he), if_true, bind_ok, pure_ok] at ho
      obtain ⟨cut, hcutDown, rfl⟩ := ho
      refine ⟨by simpa [hl] using hw, forall_mem_cons.2 ⟨⟨he, ?_⟩, hc⟩⟩
      rwa [hne]

/-! ### Where entries come from -/

lemma byName_from (h : byName tables = .ok known) (he : Keyed.find? known n = some e) : e ∈ tables := by
  have hv : ∀ p ∈ known, p.2 ∈ tables := by
    refine foldlM_keeps (P := fun known => ∀ p ∈ known, p.2 ∈ tables) (fun t ht known kn' hin hs p hp => ?_) (by simp) h
    simp only [bind_ok, pure_ok] at hs
    obtain ⟨_, ⟨name, -, rfl⟩, key, -, rfl⟩ := hs
    rcases Keyed.mem_put hp with hp | hp
    · exact hin p hp
    · rwa [hp]
  obtain ⟨p, hp, rfl⟩ := Option.map_eq_some_iff.1 he
  exact hv p (mem_of_find?_eq_some hp)

lemma withMappings_from (h : withMappings walk selected (.list tables) facts = .ok v) :
    (facts.truthy = false ∧ v = selected) ∨ ∃ es, v = .list es ∧ ∀ e ∈ es, e ∈ tables := by
  unfold withMappings at h
  split at h
  case isFalse hf => exact .inl ⟨eq_false_of_ne_true hf, (pure_ok.1 h).symm⟩
  case isTrue =>
    simp only [bind_ok, pure_ok] at h
    obtain ⟨xs, hi, known, hk, _, -, _, -, _, -, names, -, _, -, rfl⟩ := h
    cases hi
    refine .inr ⟨_, rfl, fun e he => ?_⟩
    obtain ⟨n, -, hn⟩ := mem_filterMap.1 he
    exact byName_from hk hn

lemma withLinks_from {selected : List Value} {ks : Value}
    (h : withLinks walk (.list selected) (.list tables) ks depth = .ok v) :
    ∃ es, v = .list es ∧ ∀ e ∈ es, e ∈ selected ∨ e ∈ tables := by
  simp only [withLinks, bind_ok, pure_ok] at h
  obtain ⟨xs, hi, known, hk, fd, hf, chosen, hc, _, -, _, -, _, -, _, -, rfl⟩ := h
  cases hi
  cases hf
  refine ⟨_, rfl, fun e he => ?_⟩
  obtain ⟨n, -, hn⟩ := mem_filterMap.1 he
  rcases Option.or_eq_some_iff.1 hn with hn | ⟨-, hn⟩
  · exact .inl (byName_from hc hn)
  · exact .inr (byName_from hk hn)

lemma choose_from (hk : byName tables = .ok known) {cs : List Chosen} (h : choose walk known columns = .ok cs) :
    ∀ c ∈ cs, c.whole ∈ tables := by
  obtain ⟨os, hos, rfl⟩ := filterMapM_ok h
  intro c hc
  obtain ⟨_, ho, rfl⟩ := mem_filterMap.1 hc
  obtain ⟨n, -, ho⟩ := hos.exists_left ho
  split at ho
  case h_1 => cases ho
  case h_2 table hf =>
    split at ho
    case isFalse => cases ho
    case isTrue =>
      obtain ⟨cut, -, ho⟩ := bind_ok.1 ho
      cases ho
      exact byName_from hk hf

/-- An entry as the search has stored it: the plain facts of a table, or only the name that was looked for. -/
inductive Stored (tables : List Value) : Value → Prop
  | plain {fields : Fields} (h : .record fields ∈ tables) : Stored tables (.record (fields.filter fun f => Passage.isPlain f.2))
  | named (n : Value) : Stored tables (.record [("table_name", n)])

lemma Stored.no_columns (h : Stored tables e) (cs : List Value) : e.at? "columns" ≠ some (.list cs) := by
  intro hc
  cases h with
  | plain h =>
    obtain ⟨pre, later, hf, -⟩ := lookup_eq_some_iff.1 hc
    have hm : ("columns", Value.list cs) ∈ pre ++ ("columns", .list cs) :: later := by simp
    rw [← hf] at hm
    cases (mem_filter.1 hm).2
  | named n => cases hc

end Schema

namespace Workflow

open Desk Schema

variable {state after : Value} {tables : List Value} {task : ChoiceTask} {chosen : List Chosen} {s : Surroundings}
  {t t₁ t' : Traffic}

/-- The choice of the model cannot be used: there is none, it cannot be read, or it cannot be applied. -/
def FallsBack (task : ChoiceTask) (s : Surroundings) (t : Traffic) : Prop := ∃ f t', Fails task.choice s t f t'

lemma approach_gives (h : Gives (approach state) s t task t₁) : ∃ schema question t₂ t₃ tables,
    state.at? "schema" = some schema ∧ schema.items = .ok tables ∧ byName tables = .ok task.known ∧
      Gives (candidates question schema) s t₂ task.candidates t₃ := by
  simp only [approach, gives_bind, gives_lift, gives_pure] at h
  obtain ⟨_, _, -, schema, _, ⟨hs, rfl⟩, question, _, ⟨-, rfl⟩, _, _, ⟨-, rfl⟩, _, _, -, found, _, hf, _, _,
    ⟨-, rfl⟩, items, _, ⟨hi, rfl⟩, known, _, ⟨hk, rfl⟩, h⟩ := h
  obtain ⟨_, _, -, _, _, -, _, _, -, _, _, -, _, _, -, rfl, rfl⟩ := h
  exact ⟨schema, question, _, _, items, field_ok.1 hs, hi, hk, hf⟩

/-- The schemas that are handed on are those of the choice, or else the candidates twice. -/
lemma filterSchema_gives (ht : Gives (approach state) s t task t₁) (h : Gives (filterSchema state) s t after t') :
    ∃ chosen t₂, (Gives task.choice s t₁ chosen t₂ ∨ FallsBack task s t₁ ∧ chosen = task.candidates.map fun e => ⟨e, e⟩) ∧
      after.at? "filtered_schema" = some (.list (chosen.map (·.whole))) ∧
      after.at? "truncated_schema" = some (.list (chosen.map (·.cut))) := by
  simp only [filterSchema, gives_bind, gives_lift, gives_pure, gives_recover] at h
  obtain ⟨task', t₂, ht', chosen, t₃, hc, _, _, ⟨-, rfl⟩, _, _, -, rfl, rfl⟩ := h
  obtain ⟨rfl, rfl⟩ := ht.unique ht'
  obtain ⟨schema, -, -, -, -, hs, -⟩ := approach_gives ht
  have hr := isRecord_of_at? hs
  refine ⟨chosen, t₃, hc.imp_right ?_, ?_, ?_⟩
  · rintro ⟨f, t₄, hf, -, rfl, -⟩
    exact ⟨⟨f, t₄, hf⟩, rfl⟩
  · simp [at?_update hr, Fields.latest, Fields.lookup_cons]
  · simp [at?_update hr, Fields.latest]

lemma invoke_gives (h : Gives (invoke prompt) s t reply t') :
    ∃ rest, t.replies = .ok reply :: rest := by
  simp only [invoke, gives_bind] at h
  obtain ⟨_, _, hs, traffic, _, hg, h⟩ := h
  cases hs
  cases hg
  split at h
  case h_1 => simp at h
  case h_2 r rest hr =>
    obtain ⟨_, _, -, h⟩ := gives_bind.1 h
    cases r with
    | error f => simp at h
    | ok v =>
      obtain ⟨rfl, -⟩ := gives_pure.1 h
      exact ⟨rest, hr⟩

lemma choice_gives (h : Gives task.choice s t₁ chosen t') : ∃ reply rest js columns,
    t₁.replies = .ok reply :: rest ∧ assessments reply = .ok js ∧ chosenColumns js = .ok columns ∧
      choose (arranged s.pins) task.known columns = .ok chosen := by
  simp only [ChoiceTask.choice, gives_bind, gives_lift, gives_pure] at h
  obtain ⟨reply, t₂, hr, _, _, -, _, _, -, js, _, ⟨hjs, rfl⟩, columns, _, ⟨hco, rfl⟩, walk, _, hw, cs, _,
    ⟨hc, rfl⟩, _, _, -, _, _, -, rfl, rfl⟩ := h
  obtain ⟨rest, hre⟩ := invoke_gives hr
  cases hw
  exact ⟨reply, rest, js, columns, hre, hjs, hco, hc⟩

lemma gives_walk (hp : s.pins = []) : Gives Desk.walk s t id t := by
  have ha : arranged [] = id := by
    funext xs
    refine mergeSort_of_pairwise (pairwise_of_forall fun a b => ?_)
    rw [pinnedAt, pinnedAt]
    cases a.text? <;> cases b.text? <;> rfl
  rw [← ha, ← hp]
  rfl

/-- What a usable choice leaves of a schema: exactly the tables that were called relevant, each once, whole in one
list and in the other cut down to the columns that were asked for. -/
theorem schemas_of_choice (hschema : state.at? "schema" = some (.list tables)) (htexts : AllTexts tables)
    (hdistinct : (tableNames tables).Nodup) (htask : Gives (approach state) s t task t₁)
    (hform : ∀ reply js, .ok reply ∈ t₁.replies → assessments reply = .ok js → ∀ j ∈ js, IsText j.table)
    (h : Gives (filterSchema state) s t after t') (hused : ¬FallsBack task s t₁) :
    ∃ reply rest js whole cut, t₁.replies = .ok reply :: rest ∧ assessments reply = .ok js ∧
      after.at? "filtered_schema" = some (.list whole) ∧ after.at? "truncated_schema" = some (.list cut) ∧
      (tableNames whole).Nodup ∧ tableNames cut = tableNames whole ∧
      (∀ e, e ∈ whole ↔ e ∈ tables ∧ ∃ j ∈ js, j.isRelevant.truthy = true ∧ j.table = e.peek "table_name") ∧
      List.Forall₂ (fun w c => Cut (requested js (w.peek "table_name")) w c) whole cut := by
  obtain ⟨chosen, t₂, hch, hwh, hct⟩ := filterSchema_gives htask h
  obtain ⟨reply, rest, js, columns, hry, hjs, hco, hce⟩ :=
    choice_gives (hch.resolve_right fun hb => hused hb.1)
  have hna := hform reply js (by simp [hry]) hjs
  obtain ⟨columns', heq, hk, hre⟩ := chosenColumns_eq hna
  obtain rfl : columns' = columns := Except.ok.inj (heq.symm.trans hco)
  obtain ⟨schema, -, -, -, items, hat, hi, hkn, -⟩ := approach_gives htask
  obtain rfl : schema = .list tables := Option.some.inj (hat.symm.trans hschema)
  cases hi
  obtain ⟨known, hk', hc⟩ := byName_eq htexts
  obtain rfl : known = task.known := Except.ok.inj (hk'.symm.trans hkn)
  have ht : ∀ n ∈ (js.filter (·.isRelevant.truthy)).map (·.table), IsText n := by
    intro n hn
    obtain ⟨j, hj, rfl⟩ := mem_map.1 hn
    exact hna j (mem_filter.1 hj).1
  have hr : ∀ n, n ∈ Keyed.keys columns' ↔ ∃ j ∈ js, j.isRelevant.truthy = true ∧ j.table = n := by
    intro n
    rw [hk, mem_distinct ht]
    simp [and_assoc]
  have htextKeys : ∀ n ∈ Keyed.keys columns', IsText n := by
    intro n hn
    obtain ⟨j, hj, -, rfl⟩ := (hr n).1 hn
    exact hna j hj
  have hno : (Keyed.keys columns').Nodup := by
    rw [hk]
    exact nodup_distinct ht
  have hp : (arranged s.pins (Keyed.keys columns')).Perm (Keyed.keys columns') := mergeSort_perm _ _
  obtain ⟨hw, hcu⟩ := choose_ok htexts hc htextKeys (fun xs => mergeSort_perm _ _) hce
  have hcutTo : ∀ c ∈ chosen, Cut (requested js (c.whole.peek "table_name")) c.whole c.cut := by
    intro c hc
    obtain ⟨hin, hcutDown⟩ := hcu c hc
    rw [← hre _ (htexts _ hin)]
    exact cutDown_cut (get_ok.1 ((htexts _ hin).get)).1 hcutDown
  refine ⟨reply, rest, js, _, _, hry, hjs, hwh, hct, ?_, ?_, fun e => ?_, ?_⟩
  · rw [hw]
    refine (tableNames_filterMap_sublist fun n hn e he => ?_).nodup (hp.nodup_iff.2 hno)
    exact (lastEntry_eq_some htexts (htextKeys n (hp.mem_iff.1 hn)) he).2
  · rw [tableNames, tableNames, map_map, map_map]
    exact map_congr_left fun c hc => (hcutTo c hc).name
  · rw [hw, mem_filterMap]
    constructor
    · rintro ⟨n, hn, he⟩
      have hn := hp.mem_iff.1 hn
      obtain ⟨hin, rfl⟩ := lastEntry_eq_some htexts (htextKeys n hn) he
      exact ⟨hin, (hr _).1 hn⟩
    · rintro ⟨hin, hju⟩
      exact ⟨_, hp.mem_iff.2 ((hr _).2 hju), lastEntry_of_mem htexts hdistinct hin⟩
  · rw [forall₂_map_left_iff, forall₂_map_right_iff, forall₂_same]
    exact hcutTo

def storeTables : List Value := [("orders", "Total_Amount"), ("customers", "Name")].map fun t => tableEntry t.1 t.2

def storeState : Value := .record [("user_question", "How much was sold?"), ("schema", .list storeTables)]

/-- Nothing is known about tables, and there are no foreign keys. -/
def storeDesk : Surroundings := { given := { tables := some (.record []), keys := some (.list []), guidance := some .null } }

def storeTraffic (replies : List (Attempt Value)) : Traffic := { searches := [.list ["orders"]], replies }

def judgement (table : String) (columns : List String) : Value :=
  .entity [("table_name", .text table), ("is_relevant", .bool true), ("reasoning", ""),
    ("relevant_columns", .list (columns.map .text))] .null

def storeReply : Value := .entity [("selected_tables", .list [judgement "orders" ["totalamount", "Discount"]])] .null

lemma store_approach (rs : List (Attempt Value)) : ∃ task t,
    Gives (approach storeState) storeDesk (storeTraffic rs) task t ∧ t.replies = rs ∧
      task.candidates = [.record [("table_name", "orders")]] ∧ byName storeTables = .ok task.known :=
  ⟨_, _, gives_bind.2 ⟨_, _, rfl, gives_bind.2 ⟨_, _, rfl, gives_bind.2 ⟨_, _, rfl, gives_bind.2 ⟨_, _, rfl,
    gives_bind.2 ⟨_, _, rfl, gives_bind.2 ⟨_, _, gives_bind.2 ⟨id, _, gives_walk rfl, rfl⟩, rfl⟩⟩⟩⟩⟩⟩, rfl, rfl, rfl⟩

lemma store_choice (hk : byName storeTables = .ok task.known) (hr : t.replies = [.ok storeReply]) : ∃ cut t',
    Gives task.choice storeDesk t [⟨tableEntry "orders" "Total_Amount", cut⟩] t' := by
  cases t
  cases hr
  cases task
  cases hk
  exact ⟨_, _, gives_bind.2 ⟨_, _, rfl, gives_bind.2 ⟨_, _, rfl, gives_bind.2 ⟨_, _, rfl, gives_bind.2 ⟨_, _, rfl,
    gives_bind.2 ⟨_, _, rfl, gives_bind.2 ⟨id, _, gives_walk rfl, rfl⟩⟩⟩⟩⟩⟩⟩

theorem schemas_of_choice_orders : ∃ task t₁ after t' whole cut,
    Gives (approach storeState) storeDesk (storeTraffic [.ok storeReply]) task t₁ ∧ ¬FallsBack task storeDesk t₁ ∧
    Gives (filterSchema storeState) storeDesk (storeTraffic [.ok storeReply]) after t' ∧
    after.at? "filtered_schema" = some (.list whole) ∧ after.at? "truncated_schema" = some (.list cut) ∧
    tableNames cut = tableNames whole ∧ ∀ e ∈ whole, e ∈ storeTables := by
  obtain ⟨task, t₁, ht, hr, -, hk⟩ := store_approach [.ok storeReply]
  obtain ⟨cut, t₂, hc⟩ := store_choice hk hr
  have hu : ¬FallsBack task storeDesk t₁ := by
    rintro ⟨f, t', hf⟩
    cases hf.symm.trans hc
  have h : Gives (filterSchema storeState) storeDesk (storeTraffic [.ok storeReply]) _ _ :=
    gives_bind.2 ⟨task, t₁, ht, gives_bind.2 ⟨_, t₂, gives_recover.2 (.inl hc), rfl⟩⟩
  have hte : AllTexts storeTables := by decide +kernel
  have hd : (tableNames storeTables).Nodup := by
    show [text "orders", text "customers"].Nodup
    simp
  have hfo : ∀ reply js, .ok reply ∈ t₁.replies → assessments reply = .ok js → ∀ j ∈ js, IsText j.table := by
    intro reply js hm hjs j hj
    rw [hr] at hm
    cases mem_singleton.1 hm
    cases hjs
    obtain rfl := mem_singleton.1 hj
    exact ⟨_, rfl⟩
  obtain ⟨_, _, js, whole, cuts, -, -, hw, hcu, -, hn, hin, -⟩ :=
    schemas_of_choice rfl hte hd ht hfo h hu
  exact ⟨_, _, _, _, whole, cuts, ht, hu, h, hw, hcu, hn, fun e he => ((hin e).1 he).1⟩

/-! ### Where the handed-on tables come from -/

lemma about_stored {passages : List Passage} (h : ∀ p ∈ passages, ∃ fs, p.facts = .record fs ∧ p.facts ∈ tables)
    (n : Value) : Stored tables (SearchIndex.about ⟨passages.map Passage.plain⟩ n).facts := by
  rw [SearchIndex.about]
  cases hfi : (passages.map Passage.plain).find? fun p => p.facts.peek "table_name" == n with
  | none => exact .named n
  | some q =>
    obtain ⟨p, hp, rfl⟩ := mem_map.1 (mem_of_find?_eq_some hfi)
    obtain ⟨fs, hf, hin⟩ := h p hp
    rw [Option.getD_some, Passage.plain, hf]
    exact .plain (hf ▸ hin)

lemma passages_from (h : tables.mapM passageOf = .ok passages) :
    ∀ p ∈ passages, ∃ fs, p.facts = .record fs ∧ p.facts ∈ tables := by
  intro p hp
  obtain ⟨table, hin, hpa⟩ := (mapM_ok.1 h).exists_left hp
  simp only [passageOf, bind_ok, pure_ok] at hpa
  obtain ⟨text, ht, rfl⟩ := hpa
  obtain ⟨_, hn, -⟩ := bind_ok.1 ht
  obtain ⟨fs, rfl, -⟩ := getD_ok.1 hn
  exact ⟨fs, rfl, hin⟩

lemma search_stored {passages fd : List Passage}
    (hpa : tables.mapM passageOf = .ok passages)
    (h : Gives (Desk.search ⟨passages.map Passage.plain⟩ query limit) s t fd t') :
    ∀ p ∈ fd, Stored tables p.facts := by
  simp only [Desk.search, gives_bind, gives_pure] at h
  obtain ⟨_, _, -, res, _, -, rfl, -⟩ := h
  intro p hp
  obtain ⟨r, -, rfl⟩ := mem_map.1 hp
  split <;> exact about_stored (passages_from hpa) _

lemma candidates_from
    (h : Gives (candidates question (.list tables)) s t found t') : ∀ e ∈ found, e ∈ tables ∨
      (∃ facts t₂ t₃, Gives Domain.tablesInUse s t₂ facts t₃ ∧ facts.truthy = false) ∧ Stored tables e := by
  simp only [candidates, gives_bind, gives_lift, gives_mapM_lift, gives_pure] at h
  obtain ⟨walk, _, -, items, _, ⟨hi, rfl⟩, _, _, -, passages, _, ⟨hpa, rfl⟩, h⟩ := h
  obtain ⟨_, _, -, _, _, -, index, _, hin, results, _, hr, _, _, -, _, _, -, h⟩ := h
  obtain ⟨facts, _, hfa, mapped, _, ⟨hm, rfl⟩, _, _, -, _, _, -, _, _, -, _, _, -, h⟩ := h
  obtain ⟨keys, _, -, linked, _, ⟨hl, rfl⟩, found', _, ⟨hf, rfl⟩, _, _, -, _, _, -, _, _, -, rfl, rfl⟩ := h
  cases hi
  obtain ⟨_, _, -, rfl, -⟩ := hin
  have hs := search_stored hpa hr
  intro e he
  rcases withMappings_from hm with ⟨hfy, rfl⟩ | ⟨es, rfl, hes⟩
  · obtain ⟨es, rfl, hes⟩ := withLinks_from hl
    cases hf
    rcases hes e he with he | he
    · obtain ⟨p, hp, rfl⟩ := mem_map.1 he
      exact .inr ⟨⟨facts, _, _, hfa, hfy⟩, hs p hp⟩
    · exact .inl he
  · obtain ⟨es', rfl, he'⟩ := withLinks_from hl
    cases hf
    exact .inl ((he' e he).elim (hes e) id)

/-- Every table that is handed on is the schema's own, with all its columns, unless the choice falls back and nothing is
known about tables: then the candidates are handed on, and those that the search has found have no columns. -/
theorem filtered_from_schema (hschema : state.at? "schema" = some (.list tables)) (htask : Gives (approach state) s t task t₁)
    (h : Gives (filterSchema state) s t after t') : ∃ whole, after.at? "filtered_schema" = some (.list whole) ∧
      (FallsBack task s t₁ → whole = task.candidates) ∧ ∀ e ∈ whole, e ∈ tables ∨
        FallsBack task s t₁ ∧ (∃ facts t₂ t₃, Gives Domain.tablesInUse s t₂ facts t₃ ∧ facts.truthy = false) ∧
          Stored tables e ∧ ∀ cs, e.at? "columns" ≠ some (.list cs) := by
  obtain ⟨chosen, t₂, hch, hw, -⟩ := filterSchema_gives htask h
  obtain ⟨schema, question, _, _, items, hat, hi, hk, hca⟩ := approach_gives htask
  obtain rfl : schema = .list tables := Option.some.inj (hat.symm.trans hschema)
  cases hi
  refine ⟨_, hw, ?_⟩
  rcases hch with hch | ⟨hb, rfl⟩
  · refine ⟨fun ⟨f, _, hf⟩ => ?_, fun e he => .inl ?_⟩
    · cases hf.symm.trans hch
    · obtain ⟨_, _, _, _, -, -, -, hce⟩ := choice_gives hch
      obtain ⟨c, hc, rfl⟩ := mem_map.1 he
      exact choose_from hk hce c hc
  · have ha : (task.candidates.map fun e => (⟨e, e⟩ : Chosen)).map (·.whole) = task.candidates := by
      rw [map_map]
      exact map_id _
    rw [ha]
    refine ⟨fun _ => rfl, fun e he => ?_⟩
    rcases candidates_from hca e he with he | ⟨hfa, hs⟩
    · exact .inl he
    · exact .inr ⟨hb, hfa, hs, hs.no_columns⟩

lemma store_falls_back : ∃ task t₁ after t', Gives (approach storeState) storeDesk (storeTraffic []) task t₁ ∧
    FallsBack task storeDesk t₁ ∧ Gives (filterSchema storeState) storeDesk (storeTraffic []) after t' ∧
    after.at? "filtered_schema" = some (.list [.record [("table_name", "orders")]]) := by
  obtain ⟨task, t₁, ht, hre, hc, -⟩ := store_approach []
  obtain ⟨f, t₂, hf, hr⟩ : ∃ f t₂, Fails task.choice storeDesk t₁ f t₂ ∧ f.recoverable = true := by
    cases t₁
    cases hre
    exact ⟨_, _, rfl, rfl⟩
  cases task
  cases hc
  exact ⟨_, t₁, _, _, ht, ⟨f, t₂, hf⟩,
    gives_bind.2 ⟨_, t₁, ht, gives_bind.2 ⟨_, t₂, gives_recover.2 (.inr ⟨f, t₂, hf, hr, rfl⟩), rfl⟩⟩, rfl⟩

theorem filtered_from_schema_orders : ∃ task t₁ after t', Gives (approach storeState) storeDesk (storeTraffic []) task t₁ ∧
    Gives (filterSchema storeState) storeDesk (storeTraffic []) after t' ∧ FallsBack task storeDesk t₁ ∧
    after.at? "filtered_schema" = some (.list task.candidates) ∧ ∀ e ∈ task.candidates, e ∈ storeTables ∨ Stored storeTables e := by
  obtain ⟨task, t₁, after, t', ht, hb, h, -⟩ := store_falls_back
  obtain ⟨_, hw, ha, hf⟩ := filtered_from_schema rfl ht h
  obtain rfl := ha hb
  exact ⟨task, t₁, after, t', ht, h, hb, hw, fun e he => (hf e he).imp_right fun hl => hl.2.2.1⟩

/-- The orders have a column, but no reply comes, nothing is known about tables, and the orders are handed on as the
search has stored them. -/
theorem orders_without_columns : tableEntry "orders" "Total_Amount" ∈ storeTables ∧
    ∃ after t', Gives (filterSchema storeState) storeDesk (storeTraffic []) after t' ∧
      after.at? "filtered_schema" = some (.list [.record [("table_name", "orders")]]) := by
  obtain ⟨_, _, after, t', -, -, h, hw⟩ := store_falls_back
  exact ⟨by simp [storeTables], after, t', h, hw⟩

end Workflow

end QueryDesk
