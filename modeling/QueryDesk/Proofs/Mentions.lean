import QueryDesk.Plan.TableMention
import QueryDesk.Proofs.Patching

/-!
The tables that a strategy mentions. Of the names in a text that begin with `tb_`, only those are noticed that stand at
its beginning or behind a blank, a quote or an opening bracket. They are told apart by whether the schema has them; a
name behind any other mark is passed over, and a strategy that mentions it counts as sound.
-/

namespace QueryDesk.Plan

open Attempt Value List

variable {text name : String} {before cs : List Char} {opened : Bool} {entries : List Value}
  {walk : List Value → List Value}

/-! ### Names in a text -/

/-- A name that begins with `tb_` stands in a text behind `before`, and is not cut off at its end. -/
structure Occurs (text : String) (before : List Char) (name : String) : Prop where
  place : ∃ behind, text.toList = before ++ name.toList ++ behind ∧ ∀ c ∈ behind.head?, isTableChar c = false
  chars : ∀ c ∈ name.toList, isTableChar c = true
  mark : ['t', 'b', '_'] <+: name.toList

/-- A text mentions a name that stands in it and is not the rest of a longer one. -/
def Mentions (text name : String) : Prop :=
  ∃ before, Occurs text before name ∧ ∀ c ∈ before.getLast?, isTableChar c = false

/-- The mentions that are noticed: there is more to the name than its mark, and it is opened in one of a few ways. -/
def Notices (text name : String) : Prop :=
  ∃ before, Occurs text before name ∧ name ≠ "tb_" ∧ ∀ c ∈ before.getLast?, opensMention c = true

/-- A walk over a text finds what stands wherever a mention may be opened. -/
lemma mem_mentionsFrom : name ∈ mentionsFrom opened cs ↔ ∃ before rest, cs = before ++ rest ∧
    (before.getLast?.map opensMention).getD opened = true ∧ tableAt? rest = some name := by
  induction cs generalizing opened with
  | nil => simp [mentionsFrom, tableAt?]
  | cons c cs ih =>
    simp only [mentionsFrom, mem_append, ih]
    constructor
    · rintro (hh | ⟨before, rest, rfl, ho, hn⟩)
      · cases opened with
        | false => cases hh
        | true => exact ⟨[], c :: cs, rfl, rfl, by simpa using hh⟩
      · exact ⟨c :: before, rest, rfl, by cases h : before.getLast? <;> simp_all [getLast?_cons], hn⟩
    · rintro ⟨_ | ⟨c', before⟩, rest, hp, ho, hn⟩
      · obtain rfl : opened = true := ho
        rw [nil_append] at hp
        exact .inl (by simp [hp, hn])
      · obtain ⟨rfl, rfl⟩ := cons.inj hp
        exact .inr ⟨before, rest, rfl, by cases h : before.getLast? <;> simp_all [getLast?_cons], hn⟩

/-- At the front of a text stands the longest name that is possible. -/
lemma tableAt?_eq_some : tableAt? cs = some name ↔ ∃ behind, cs = name.toList ++ behind ∧
    (∀ c ∈ behind.head?, isTableChar c = false) ∧ (∀ c ∈ name.toList, isTableChar c = true) ∧
      ['t', 'b', '_'] <+: name.toList ∧ name ≠ "tb_" := by
  have hm : ∀ c ∈ ['t', 'b', '_'], isTableChar c = true := all_eq_true.1 (by decide)
  unfold tableAt?
  constructor
  · intro h
    split at h
    case isFalse => cases h
    case isTrue hf =>
      obtain ⟨rest, rfl⟩ := isPrefixOf_iff_prefix.1 hf
      rw [takeWhile_append_of_pos hm] at h
      dsimp only at h
      split at h
      case isFalse => cases h
      case isTrue hl =>
        cases h
        refine ⟨rest.dropWhile isTableChar, ?_, fun c hc => ?_, ?_, ?_, fun heq => ?_⟩
        · simp [takeWhile_append_dropWhile]
        · have hno := head?_dropWhile_not isTableChar rest
          rwa [hc] at hno
        · rw [String.toList_ofList]
          exact fun c hc => (mem_append.1 hc).elim (hm c) fun hc => (all_eq_true.1 all_takeWhile) c hc
        · simp
        · rw [← String.toList_ofList (l := _ ++ _), heq] at hl
          exact absurd hl (by decide)
  · rintro ⟨behind, rfl, he, hch, hf, hl⟩
    have hn : (name.toList ++ behind).takeWhile isTableChar = name.toList := by
      rw [takeWhile_append_of_pos hch]
      cases behind with
      | nil => simp
      | cons c behind => simp [he c rfl]
    have hs := isPrefixOf_iff_prefix.2 (hf.trans (prefix_append _ behind))
    rw [if_pos hs, hn]
    dsimp only
    rw [String.ofList_toList]
    refine if_pos (Nat.lt_of_not_le fun hsh => hl ?_)
    have heq := hf.eq_of_length (Nat.le_antisymm hf.length_le hsh)
    exact String.toList_inj.1 heq.symm

lemma mem_mentionsFrom_iff : name ∈ mentionsFrom true text.toList ↔ Notices text name := by
  rw [mem_mentionsFrom]
  constructor
  · rintro ⟨before, rest, hp, hop, hn⟩
    obtain ⟨behind, rfl, he, hch, hf, hl⟩ := tableAt?_eq_some.1 hn
    have ho : ∀ c ∈ before.getLast?, opensMention c = true := fun c hc => by simpa [Option.mem_def.1 hc] using hop
    exact ⟨before, ⟨⟨behind, by rw [hp, append_assoc], he⟩, hch, hf⟩, hl, ho⟩
  · rintro ⟨before, ⟨⟨behind, hp, he⟩, hch, hf⟩, hl, ho⟩
    refine ⟨before, name.toList ++ behind, by rw [hp, append_assoc], ?_,
      tableAt?_eq_some.2 ⟨behind, rfl, he, hch, hf, hl⟩⟩
    cases hla : before.getLast? with
    | none => rfl
    | some c => exact ho c hla

/-! ### Sorting the mentions -/

/-- A schema has a table of a name. -/
def HasTable (entries : List Value) (name : String) : Prop := ∃ e ∈ entries, e.peek "table_name" = .text name

/-- What a strategy mentions is told apart: the tables that the schema has, and those that it lacks. -/
structure Told (text : String) (entries valid invalid : List Value) : Prop where
  once : (valid ++ invalid).Nodup
  known : ∀ v, v ∈ valid ↔ ∃ name, v = .text name ∧ Notices text name ∧ HasTable entries name
  unknown : ∀ v, v ∈ invalid ↔ ∃ name, v = .text name ∧ Notices text name ∧ ¬ HasTable entries name
  sound : invalid = [] ↔ ∀ name, Notices text name → HasTable entries name

lemma Notices.ne_statementText (h : Notices text name) : name ≠ statementText ∧ (Value.text name).truthy = true := by
  obtain ⟨before, ho, -⟩ := h
  have hf := ho.mark
  refine ⟨?_, ?_⟩
  · rintro rfl
    exact absurd hf (by decide)
  · cases hn : name.toList with
    | nil => rw [hn] at hf; exact absurd hf (by decide)
    | cons c cs => simp [truthy, ← String.toList_eq_nil_iff, hn]

/-- The names that a schema is read for: those of its entries that are not empty. -/
def schemaNames (entries : List Value) : List Value :=
  (entries.map fun e => if (e.peek "table_name").truthy then [e.peek "table_name"] else []).flatten

lemma sortMentions_eq (hen : ∀ e ∈ entries, e.IsRecord ∧ ∃ v, (e.peek "table_name").hashable = .ok v) :
    sortMentions walk text (.list entries) = .ok ((walk (mentionedTables text)).filter fun t =>
      (schemaNames entries).any (· == t), (walk (mentionedTables text)).filter fun t => !(schemaNames entries).any (· == t)) := by
  rw [sortMentions, items, ok_bind, mapM_eq_map (g := fun e =>
    if (e.peek "table_name").truthy then [e.peek "table_name"] else [])]
  · rfl
  · intro e he
    obtain ⟨hr, v, hv⟩ := hen e he
    rw [get_ok.2 ⟨hr, rfl⟩, ok_bind]
    split
    · rw [hv, ← hashable_ok hv]
      rfl
    · rfl

lemma any_schemaNames (h : Notices text name) : (schemaNames entries).any (· == .text name) = true ↔ HasTable entries name := by
  obtain ⟨hn, ht⟩ := h.ne_statementText
  simp only [any_eq_true, beq_text_iff hn, schemaNames, mem_flatten, mem_map, HasTable]
  constructor
  · rintro ⟨_, ⟨_, ⟨e, he, rfl⟩, hv⟩, rfl⟩
    split at hv
    · exact ⟨e, he, (mem_singleton.1 hv).symm⟩
    · cases hv
  · rintro ⟨e, he, hta⟩
    exact ⟨_, ⟨_, ⟨e, he, rfl⟩, by rw [hta, if_pos ht]; exact mem_singleton.2 rfl⟩, rfl⟩

/-- Every table that a strategy mentions in a way that is noticed is told to be known or unknown, and nothing else is. -/
theorem mentions_told (hwalk : ∀ xs, (walk xs).Perm xs)
    (hentries : ∀ e ∈ entries, e.IsRecord ∧ ∃ v, (e.peek "table_name").hashable = .ok v) (text : String) :
    ∃ valid invalid, sortMentions walk text (.list entries) = .ok (valid, invalid) ∧ Told text entries valid invalid := by
  have hte : ∀ v ∈ (mentionsFrom true text.toList).map Value.text, IsText v := by simp [IsText]
  have hm (v : Value) : v ∈ walk (mentionedTables text) ↔ ∃ name, v = .text name ∧ Notices text name := by
    rw [(hwalk _).mem_iff, mentionedTables, mem_distinct hte, mem_map]
    simp only [mem_mentionsFrom_iff, and_comm, eq_comm]
  have hs {p : Value → Bool} {P : String → Prop} (hp : ∀ name, Notices text name → (p (.text name) = true ↔ P name))
      (v : Value) : v ∈ (walk (mentionedTables text)).filter p ↔ ∃ name, v = .text name ∧ Notices text name ∧ P name := by
    rw [mem_filter, hm]
    constructor
    · rintro ⟨⟨name, rfl, hn⟩, ht⟩
      exact ⟨name, rfl, hn, (hp name hn).1 ht⟩
    · rintro ⟨name, rfl, hn, ht⟩
      exact ⟨⟨name, rfl, hn⟩, (hp name hn).2 ht⟩
  have hu := hs (p := fun t => !(schemaNames entries).any (· == t)) (P := fun name => ¬ HasTable entries name)
    fun name hn => by rw [Bool.not_eq_true', ← Bool.not_eq_true, any_schemaNames hn]
  refine ⟨_, _, sortMentions_eq hentries, ?_, hs fun name => any_schemaNames, hu, ?_⟩
  · have hno : (walk (mentionedTables text)).Nodup := (hwalk _).nodup_iff.2 (nodup_distinct hte)
    simpa using (filter_append_perm _ _).nodup_iff.2 hno
  · simp only [eq_nil_iff_forall_not_mem, hu]
    grind

theorem mentions_told_orders : (∀ xs : List Value, (id xs).Perm xs) ∧ ∃ valid invalid,
    sortMentions id "Join `tb_Orders` with (tb_Ghost)." (.list [.record [("table_name", "tb_Orders")], .record []]) =
      .ok (valid, invalid) ∧ Told "Join `tb_Orders` with (tb_Ghost)."
        [.record [("table_name", "tb_Orders")], .record []] valid invalid :=
  ⟨.refl, mentions_told .refl (by simp [IsRecord, peek, hashable, changeable?]) _⟩

/-- A table that the schema lacks is mentioned in bold letters, and the strategy counts as sound. -/
theorem bold_mention_unnoticed : Mentions "Use **tb_Ghost**" "tb_Ghost" ∧
    ¬ HasTable [.record [("table_name", "tb_Orders")]] "tb_Ghost" ∧
      sortMentions id "Use **tb_Ghost**" (.list [.record [("table_name", "tb_Orders")]]) = .ok ([], []) := by
  refine ⟨⟨"Use **".toList, ⟨⟨"**".toList, rfl, ?_⟩, all_eq_true.1 rfl, "Ghost".toList, rfl⟩, ?_⟩, ?_, rfl⟩
  · rintro _ ⟨⟩
    rfl
  · rintro _ ⟨⟩
    rfl
  · simp [HasTable, peek]

end QueryDesk.Plan
