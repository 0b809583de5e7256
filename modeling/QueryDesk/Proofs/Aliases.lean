import QueryDesk.Proofs.Names

/-!
Aliases in parsed expressions. The tree of an expression changes at the columns whose table has an alias, and nowhere
else: the table of such a column becomes its alias, once, even where that alias is the name of another table.
-/

namespace QueryDesk.Sql

open Attempt Desk List Node Value

variable {aliases args inner : Fields} {dialect key : String} {origin : Option String} {v : Value}

/-- The alias of the table of a column. -/
def alias? (aliases args : Fields) : Option Value :=
  if (tableOf args).truthy then (tableOf args).text?.bind (aliases.lookup ·) else none

mutual

/-- What a tree becomes. A list that stands under an argument is looked through, a list in a list is not. -/
inductive Aliased (aliases : Fields) : Bool → Value → Value → Prop
  | leaf {under : Bool} {v : Value} (hnode : ∀ kind args origin, v ≠ .node kind args origin)
    (hlist : under = true → ∀ items, v ≠ .list items) : Aliased aliases under v v
  | list {items items' : List Value} (h : Forall₂ (Aliased aliases false) items items') :
    Aliased aliases true (.list items) (.list items')
  | node {under : Bool} {kind : String} {args inner : Fields} {origin : Option String}
    (hinner : AliasedFields aliases args inner) (hnone : kind = "Column" → alias? aliases args = none) :
    Aliased aliases under (.node kind args origin) (.node kind inner origin)
  | column {under : Bool} {short : Value} {args inner : Fields} {origin : Option String}
    (hinner : AliasedFields aliases args inner) (hshort : alias? aliases args = some short) :
    Aliased aliases under (.node "Column" args origin) (.node "Column" (Fields.put inner "table" (identifier short)) origin)

inductive AliasedFields (aliases : Fields) : Fields → Fields → Prop
  | nil : AliasedFields aliases [] []
  | cons {key : String} {v v' : Value} {rest rest' : Fields} (h : Aliased aliases true v v')
    (hrest : AliasedFields aliases rest rest') : AliasedFields aliases ((key, v) :: rest) ((key, v') :: rest')

end

/-- The name of a column's table is a text, if there is one. -/
def Parsed (nodes : List Value) : Prop :=
  ∀ args origin, .node "Column" args origin ∈ nodes → (tableOf args).truthy → IsText (tableOf args)

lemma parsed_append {xs ys : List Value} : Parsed (xs ++ ys) ↔ Parsed xs ∧ Parsed ys := by
  simp only [Parsed, mem_append, or_imp, forall_and]

lemma aliasIn_eq (h : (tableOf args).truthy → IsText (tableOf args)) :
    aliasIn (.record aliases) args = .ok (alias? aliases args) := by
  rw [aliasIn, alias?]
  by_cases ht : (tableOf args).truthy
  · obtain ⟨name, hn⟩ := h ht
    rw [if_pos ht, if_pos ht, hn]
    rfl
  · rw [if_neg ht, if_neg ht]

lemma withAliases_aliased : ∀ v, Parsed (Node.walk v) → ∃ v', withAliases (.record aliases) v = .ok v' ∧
    ∀ under, (under = true → ∀ xs, v ≠ .list xs) → Aliased aliases under v v' := by
  -- one case for each way the tree is taken apart: a node, a leaf, the items of a list, the fields of a node, one field
  refine withAliases.induct _
    (fun args => Parsed (walkFields args) → ∃ inner, fieldsWithAliases (.record aliases) args = .ok inner ∧
      AliasedFields aliases args inner)
    (fun f => Parsed (walkField f) → ∃ v', fieldWithAliases (.record aliases) f = .ok (f.1, v') ∧
      Aliased aliases true f.2 v')
    (fun xs => Parsed (walkItems xs) → ∃ xs', itemsWithAliases (.record aliases) xs = .ok xs' ∧
      Forall₂ (Aliased aliases false) xs xs') ?_ ?_ ?_ ?_ ?_ ?_ ?_ ?_
  · intro kind args origin ih hp
    obtain ⟨inner, hin, hfi⟩ := ih fun args' origin' hm => hp args' origin' (mem_cons_of_mem _ hm)
    rw [withAliases, hin, ok_bind]
    by_cases hk : kind = "Column"
    · subst hk
      rw [if_pos (beq_self_eq_true _), aliasIn_eq (hp args origin mem_cons_self), ok_bind]
      cases hs : alias? aliases args with
      | none => exact ⟨_, rfl, fun _ _ => .node hfi fun _ => hs⟩
      | some short => exact ⟨_, rfl, fun _ _ => .column hfi hs⟩
    · rw [if_neg (by simpa using hk)]
      exact ⟨_, rfl, fun _ _ => .node hfi fun h => absurd h hk⟩
  · intro v hn _
    exact ⟨v, by rw [withAliases]; exact hn, fun _ hl => .leaf hn hl⟩
  · exact fun _ => ⟨[], rfl, .nil⟩
  · intro v rest ih ihrest hp
    obtain ⟨hv, hr⟩ := parsed_append.1 hp
    obtain ⟨v', hv', ha⟩ := ih hv
    obtain ⟨rest', hr', hi⟩ := ihrest hr
    exact ⟨v' :: rest', by rw [itemsWithAliases, hv', ok_bind, hr']; rfl, .cons (ha false nofun) hi⟩
  · exact fun _ => ⟨[], rfl, .nil⟩
  · intro f rest ih ihrest hp
    obtain ⟨hf, hr⟩ := parsed_append.1 hp
    obtain ⟨v', hv', ha⟩ := ih hf
    obtain ⟨rest', hr', hfi⟩ := ihrest hr
    exact ⟨(f.1, v') :: rest', by rw [fieldsWithAliases, hv', ok_bind, hr']; rfl, .cons ha hfi⟩
  · intro k xs ih hp
    obtain ⟨xs', hi', hi⟩ := ih hp
    exact ⟨.list xs', by rw [fieldWithAliases, hi']; rfl, .list hi⟩
  · intro k v hl ih hp
    obtain ⟨v', hv', ha⟩ := ih (by rwa [walkField.eq_2 k v hl] at hp)
    exact ⟨v', by rw [fieldWithAliases.eq_2 _ k v hl, hv']; rfl, ha true fun _ => hl⟩

/-! ### Names -/

lemma nameIn_eq (key : String) (args : Fields) : nameIn key args = ((args.lookup key).map nameOf).getD (.text "") := by
  induction args with
  | nil => rfl
  | cons f rest ih =>
    rw [nameIn, nameAt, Fields.lookup_cons, ih]
    by_cases hk : f.1 = key
    · simp [hk]
    · simp [hk, Ne.symm hk]

/-- The names that are read in a tree are those that were read before, as far as they are texts. -/
lemma AliasedFields.nameIn_text : AliasedFields aliases args inner →
    (nameIn key inner).text? = (nameIn key args).text? := by
  refine (nameOf.mutual_induct (fun v => ∀ v' under, Aliased aliases under v v' → (nameOf v').text? = (nameOf v).text?)
    (fun key args => ∀ inner, AliasedFields aliases args inner → (nameIn key inner).text? = (nameIn key args).text?)
    (fun key f => ∀ v', Aliased aliases true f.2 v' → (nameAt key (f.1, v')).map text? = (nameAt key f).map text?)
    ?_ ?_ ?_ ?_ ?_ ?_).2.1 key args inner
  · intro kind args origin ih v' under h
    cases h with
    | leaf hn => exact absurd rfl (hn _ _ _)
    | node hi => exact ih _ hi
    | column hi =>
      rw [nameOf, nameIn_eq, Fields.lookup_put, if_neg (by simp), ← nameIn_eq]
      exact ih _ hi
  · intro v hn v' under h
    cases h with
    | leaf => rfl
    | list => rfl
    | node => exact absurd rfl (hn _ _ _)
    | column => exact absurd rfl (hn _ _ _)
  · intro key inner h
    cases h
    rfl
  · intro key f rest ih ihrest inner h
    cases h with
    | cons h hr =>
      rw [nameIn, nameIn, ← Option.getD_map text?, ← Option.getD_map text?, ih _ h, ihrest _ hr]
  · intro key k v hk ih v' h
    simp [nameAt, hk, ih v' true h]
  · intro key k v hk v' h
    simp [nameAt, hk]

lemma nameOf_of_text? {name : String} (h : v.text? = some name) : nameOf v = v := by
  cases v <;> first | rfl | cases h

/-- By the aliases of an order every table stands for itself. -/
lemma text?_of_tablesAsAliases {sels : List Value} {name : String} {short : Value}
    (h : tablesAsAliases sels = .ok (.record aliases)) (hsh : aliases.lookup name = some short) :
    short.text? = some name := by
  simp only [tablesAsAliases, bind_ok, pure_ok, record.injEq] at h
  obtain ⟨ns, -, rfl⟩ := h
  rw [Fields.lookup_putAll, lookup_nil, Option.or_none] at hsh
  obtain ⟨front, back, hsp, -⟩ := lookup_eq_some_iff.1 hsh
  obtain ⟨x, -, hx⟩ := mem_filterMap.1 (mem_reverse.1 (hsp ▸ mem_append_right front mem_cons_self))
  obtain ⟨_, hs, hp⟩ := Option.map_eq_some_iff.1 hx
  obtain ⟨rfl, rfl⟩ := Prod.mk.inj hp
  exact hs

lemma Aliased.tableOf_text {sels : List Value} (h : tablesAsAliases sels = .ok (.record aliases))
    (hc : Aliased aliases false (.node "Column" args origin) v) :
    ∃ args', v = .node "Column" args' origin ∧ (tableOf args').text? = (tableOf args).text? := by
  cases hc with
  | leaf hn => exact absurd rfl (hn _ _ _)
  | node hi => exact ⟨_, rfl, hi.nameIn_text⟩
  | @column _ short _ inner _ _ hs =>
    refine ⟨_, rfl, ?_⟩
    rw [alias?] at hs
    split at hs
    · obtain ⟨name, hna, hs⟩ := Option.bind_eq_some_iff.1 hs
      have hse := text?_of_tablesAsAliases h hs
      rw [hna, tableOf, nameIn_eq, Fields.lookup_put, if_pos rfl, ← hse]
      exact congrArg text? (nameOf_of_text? hse)
    · cases hs

/-- In a parsed expression the table of every column that has an alias is replaced by it, once, and all else stays. With
the aliases of an order, by which every table stands for itself, every column keeps the name of its table. -/
theorem tables_replaced_once (aliases : Fields) (source context : Value) {s : Surroundings} {t t' : Traffic}
    (hdialect : dialectOf context = .ok dialect)
    (hparse : Gives (parse source dialect) s t v t') (hparsed : Parsed (Node.walk v)) :
    ∃ v', Gives (parseExpression source (.record aliases) context) s t v' t' ∧ Aliased aliases false v v' ∧
      ∀ selections, tablesAsAliases selections = .ok (.record aliases) → ∀ args origin column,
        Aliased aliases false (.node "Column" args origin) column →
          ∃ args', column = .node "Column" args' origin ∧ (tableOf args').text? = (tableOf args).text? := by
  obtain ⟨v', hv', ha⟩ := withAliases_aliased v hparsed
  exact ⟨v', .bind (.lift hdialect) (gives_recover.2 (.inl (hparse.bind (.lift hv')))), ha false nofun,
    fun _ h _ _ _ hc => hc.tableOf_text h⟩

/-- Two columns, each of the other's alias. -/
def crossed (a b : String) : Value :=
  .node "Add" [("this", column (.text "x") (identifier (.text a))), ("expression", column (.text "y") (identifier (.text b)))] none

theorem tables_replaced_once_crossed : ∃ t',
    Gives (parseExpression (.text "A.x + B.y") (.record [("A", .text "B"), ("B", .text "A")]) .null)
      { parses := [("A.x + B.y", crossed "A" "B")] } {} (crossed "B" "A") t' ∧
      Aliased [("A", .text "B"), ("B", .text "A")] false (crossed "A" "B") (crossed "B" "A") := by
  have hp : Parsed (Node.walk (crossed "A" "B")) := fun args origin hc _ => by
    simp [crossed, column, make, Node.walk, walkFields, walkField, identifier] at hc
    obtain ⟨rfl, -⟩ | ⟨rfl, -⟩ := hc <;> exact ⟨_, rfl⟩
  obtain ⟨v', hg, ha, -⟩ := tables_replaced_once [("A", .text "B"), ("B", .text "A")] (.text "A.x + B.y") .null
    (s := { parses := [("A.x + B.y", crossed "A" "B")] }) (t := {}) rfl (.bind (a := ()) rfl (.bind rfl .pure)) hp
  obtain rfl : crossed "B" "A" = v' := (hg.unique rfl).1.symm
  exact ⟨_, hg, ha⟩

end QueryDesk.Sql
