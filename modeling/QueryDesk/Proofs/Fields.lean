import QueryDesk.Proofs.Success

/-!
The fields of a document and what an update does to them: the last value written under a key is the one
that is read, and a key that is not written keeps its value.
-/

namespace QueryDesk

open List Option

variable {key : String} {news : Fields} {v w x : Value}

lemma Keyed.mem_put {α : Type} {pairs : Keyed α} {p : Value × α} {a : α}
    (h : p ∈ put pairs k a) : p ∈ pairs ∨ p.2 = a := by
  fun_induction put pairs k a <;> grind

namespace Fields

lemma mem_put {fs : Fields} {f : String × Value} (h : f ∈ put fs key v) : f ∈ fs ∨ f.2 = v := by
  fun_induction put fs key v <;> grind

lemma lookup_cons (k : String) (v : Value) (rest : Fields) (key : String) :
    List.lookup key ((k, v) :: rest) = if key = k then some v else rest.lookup key := by
  rw [List.lookup_cons]
  by_cases h : key = k
  · simp [h]
  · simp [beq_eq_false_iff_ne.2 h, h]

lemma lookup_put (fs : Fields) (k : String) (v : Value) (key : String) :
    (put fs k v).lookup key = if key = k then some v else fs.lookup key := by
  induction fs with
  | nil => rw [put, lookup_cons]
  | cons f rest ih =>
    obtain ⟨k', w⟩ := f
    unfold put
    by_cases hk : k' = k
    · subst hk
      simp only [beq_self_eq_true, if_true, lookup_cons]
      by_cases h : key = k' <;> simp [h]
    · rw [if_neg (by simpa using hk), lookup_cons, lookup_cons, ih]
      by_cases h : key = k'
      · subst h
        simp [hk]
      · simp [h]

section

variable {before after : Fields} {key : String}

lemma lookup_middle (h : before.lookup key = none) (v : Value) :
    (before ++ (key, v) :: after).lookup key = some v := by
  rw [lookup_append, h, none_or, lookup_cons, if_pos rfl]

lemma put_middle (h : before.lookup key = none) (v w : Value) :
    put (before ++ (key, v) :: after) key w = before ++ (key, w) :: after := by
  induction before with
  | nil => simp [put]
  | cons f rest ih =>
    rw [lookup_cons] at h
    split at h
    · cases h
    · next hk => simp [put, Ne.symm hk, ih h]

lemma put_eq_self (h : fields.lookup key = some v) : put fields key v = fields := by
  obtain ⟨front, back, rfl, hf⟩ := lookup_eq_some_iff.1 h
  exact put_middle (lookup_eq_none_iff.2 hf) v v

lemma put_put (fs : Fields) (key : String) (v w : Value) : put (put fs key v) key w = put fs key w := by
  induction fs with
  | nil => simp [put]
  | cons f rest ih => by_cases hk : f.1 = key <;> simp [put, hk, ih]

lemma put_new (h : key ∉ fields.map (·.1)) (v : Value) :
    put fields key v = fields ++ [(key, v)] := by
  induction fields with
  | nil => rfl
  | cons f rest ih =>
    rw [map_cons, mem_cons, not_or] at h
    rw [put, if_neg (by simpa using Ne.symm h.1), ih h.2, cons_append]

/-- Fields under keys that are all new come behind the old ones, in their order. -/
lemma putAll_new (h : (fs.map (·.1) ++ news.map (·.1)).Nodup) :
    putAll fs news = fs ++ news := by
  induction news generalizing fs with
  | nil => simp [putAll]
  | cons f news ih =>
    have hn : f.1 ∉ fs.map (·.1) := by
      intro hin
      exact (nodup_append.1 h).2.2 f.1 hin f.1 (by simp) rfl
    show putAll (put fs f.1 f.2) news = _
    rw [put_new hn, ih (by simpa using h), append_assoc, singleton_append]

end

def latest (news : Fields) (key : String) : Option Value := news.reverse.lookup key

lemma latest_cons (k : String) (v : Value) (rest : Fields) (key : String) :
    latest ((k, v) :: rest) key = (latest rest key).or (if key = k then some v else none) := by
  rw [latest, latest, reverse_cons, lookup_append, lookup_cons, lookup_nil]

lemma lookup_putAll (news : Fields) : ∀ (fs : Fields) (key : String),
    (putAll fs news).lookup key = (latest news key).or (fs.lookup key) := by
  induction news with
  | nil => intro fs key; rfl
  | cons f rest ih =>
    intro fs key
    obtain ⟨k, v⟩ := f
    show (putAll (put fs k v) rest).lookup key = _
    rw [ih, lookup_put, latest_cons, Option.or_assoc]
    by_cases h : key = k <;> simp [h]

lemma latest_eq_none (h : key ∉ news.map (·.1)) : latest news key = none := by
  rw [latest, lookup_eq_none_iff]
  intro f hf
  rw [mem_reverse] at hf
  simp only [bne_iff_ne, ne_eq]
  exact fun he => h (he ▸ mem_map_of_mem hf)

end Fields

namespace Value

variable {keys : List String} {v : Value}

lemma isNull_eq_false : v.isNull = false ↔ v ≠ .null := by
  cases v <;> simp [isNull]

def at? (v : Value) (key : String) : Option Value :=
  match v with
  | record fields => fields.lookup key
  | _ => none

lemma IsRecord.getD (h : v.IsRecord) (key : String) (dflt : Value) :
    v.getD key dflt = .ok ((v.at? key).getD dflt) := by
  obtain ⟨fs, rfl⟩ := h
  rfl

lemma IsRecord.get (h : v.IsRecord) (key : String) : v.get key = .ok ((v.at? key).getD .null) := h.getD key .null

lemma field_ok : v.field key = .ok x ↔ v.at? key = some x := by
  cases v with
  | record fs =>
    unfold field at?
    cases h : fs.lookup key <;> simp [h]
  | _ => simp [field, at?]

lemma isRecord_of_at? (h : v.at? key = some x) : v.IsRecord := by
  cases v with
  | record fs => exact ⟨fs, rfl⟩
  | _ => cases h

lemma IsRecord.setField (h : v.IsRecord) (key : String) (x : Value) :
    v.setField key x = .ok (v.update [(key, x)]) := by
  obtain ⟨fs, rfl⟩ := h
  rfl

lemma IsRecord.update (h : v.IsRecord) (news : Fields) : (v.update news).IsRecord := by
  obtain ⟨fs, rfl⟩ := h
  exact ⟨_, rfl⟩

lemma IsRecord.update_twice (h : v.IsRecord) (key : String) (x y : Value) :
    (v.update [(key, x)]).update [(key, y)] = v.update [(key, y)] := by
  obtain ⟨fs, rfl⟩ := h
  exact congrArg record (Fields.put_put fs key x y)

lemma update_eq_self (h : v.at? key = some x) : v.update [(key, x)] = v := by
  obtain ⟨fs, rfl⟩ := isRecord_of_at? h
  exact congrArg record (Fields.put_eq_self h)

/-- After an update the last value written under a key is read, or else the old one. -/
lemma at?_update (h : v.IsRecord) (news : Fields) (key : String) :
    (v.update news).at? key = (Fields.latest news key).or (v.at? key) := by
  obtain ⟨fs, rfl⟩ := h
  exact Fields.lookup_putAll news fs key

lemma peek_eq_at? (v : Value) (key : String) : v.peek key = (v.at? key).getD .null := by
  cases v <;> rfl

lemma peek_congr (h : w.at? key = v.at? key) : w.peek key = v.peek key := by
  rw [peek_eq_at?, peek_eq_at?, h]

lemma field_of_at? (h : v.at? key = some x) : v.field key = .ok (v.peek key) := by
  rw [field_ok, peek_eq_at?, h, getD_some]

lemma IsRecord.at?_self (h : v.IsRecord) (key : String) (x : Value) : (v.update [(key, x)]).at? key = some x := by
  rw [at?_update h, Fields.latest_cons]
  simp [Fields.latest]

lemma IsRecord.peek_self (h : v.IsRecord) (key : String) (x : Value) : (v.update [(key, x)]).peek key = x := by
  rw [peek_eq_at?, h.at?_self, getD_some]

/-- An object in which all fields but some are those of another. -/
structure Kept (keys : List String) (before after : Value) : Prop where
  record : after.IsRecord
  same : ∀ key, key ∉ keys → after.at? key = before.at? key

lemma Kept.update (h : Kept keys v w)
    (hne : news.map (·.1) ⊆ keys) : Kept keys v (w.update news) := by
  refine ⟨h.record.update news, fun key hk => ?_⟩
  rw [at?_update h.record, Fields.latest_eq_none fun hn => hk (hne hn), none_or, h.same key hk]

lemma Kept.at? (h : Kept keys v w) (key : String) (hk : key ∉ keys := by simp) :
    w.at? key = v.at? key := h.same key hk

lemma Kept.peek (h : Kept keys v w) (key : String) (hk : key ∉ keys := by simp) :
    w.peek key = v.peek key := peek_congr (h.same key hk)

lemma Kept.trans (h : Kept keys u v) (h' : Kept ks' v w) :
    Kept (keys ++ ks') u w := by
  refine ⟨h'.record, fun key hk => ?_⟩
  rw [mem_append, not_or] at hk
  rw [h'.same key hk.2, h.same key hk.1]

lemma kept_mono (h : Kept keys v w) (hk : keys ⊆ keys') : Kept keys' v w :=
  ⟨h.record, fun key hke => h.same key fun hin => hke (hk hin)⟩

lemma kept_refl (h : v.IsRecord) : Kept keys v v := ⟨h, fun _ _ => rfl⟩

lemma IsRecord.kept_update (h : v.IsRecord)
    (hn : news.map (·.1) ⊆ keys) : Kept keys v (v.update news) := (kept_refl h).update hn

lemma IsRecord.kept_self (h : v.IsRecord) (key : String) (x : Value) :
    Kept [key] v (v.update [(key, x)]) := h.kept_update (by simp)

end Value

end QueryDesk
