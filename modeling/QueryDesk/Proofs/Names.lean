import QueryDesk.Plan.Connectivity
import QueryDesk.Proofs.Fields

/-!
Names of tables. Two texts are the same value exactly when they are equal, so on lists of names the
search for a value is membership, adding a value is adding a member, and a list without repetitions has
none in the usual sense.
-/

namespace QueryDesk

open List

variable {v w : Value} {xs : List Value}

def IsText (v : Value) : Prop := ∃ s : String, v = .text s

def IsName (v : Value) : Prop := ∃ s : String, v = .text s ∧ s ≠ ""

def textIn? : Value → Option String
  | .text s => some s
  | _ => none

lemma textIn?_eq_some : textIn? v = some s ↔ v = .text s := by cases v <;> simp [textIn?]

instance (v : Value) : Decidable (IsText v) :=
  decidable_of_iff (textIn? v).isSome (by simp [IsText, Option.isSome_iff_exists, textIn?_eq_some])

instance (v : Value) : Decidable (IsName v) := decidable_of_iff (∃ s ∈ textIn? v, s ≠ "") (by simp [IsName, textIn?_eq_some])

/-- A kind of values of which two are the same only if they are equal. -/
class Telling (P : Value → Prop) : Prop where
  beq_iff : ∀ {v w : Value}, P v → P w → ((v == w) = true ↔ v = w)

section

open Value

variable {v : Value}

lemma Value.beq_text (v : Value) (s : String) : (Value.text s == v) = (v.text? == some s) := by
  show same (.text s) v = _
  rw [same]

lemma IsText.beq_iff (hv : IsText v) (hw : IsText w) : (v == w) = true ↔ v = w := by
  obtain ⟨a, rfl⟩ := hv
  obtain ⟨b, rfl⟩ := hw
  rw [beq_text, text?, beq_iff_eq, Option.some.injEq, Value.text.injEq]
  exact eq_comm

lemma IsName.isText (hv : IsName v) : IsText v := by
  obtain ⟨a, rfl, _⟩ := hv
  exact ⟨a, rfl⟩

instance : Telling IsText := ⟨IsText.beq_iff⟩

instance : Telling IsName := ⟨fun hv hw => hv.isText.beq_iff hw.isText⟩

lemma IsName.truthy (hv : IsName v) : v.truthy = true := by
  obtain ⟨a, rfl, ha⟩ := hv
  simp [truthy, ha]

lemma IsText.hashable (hv : IsText v) : v.hashable = .ok v := by
  obtain ⟨a, rfl⟩ := hv
  simp [hashable, changeable?]

lemma IsName.hashable (hv : IsName v) : v.hashable = .ok v := hv.isText.hashable

lemma IsText.get (h : IsText (v.peek key)) : v.get key = .ok (v.peek key) := by
  obtain ⟨s, hs⟩ := h
  rw [get_ok]
  refine ⟨?_, rfl⟩
  cases v with
  | record fs => exact ⟨fs, rfl⟩
  | _ => simp [peek] at hs

lemma IsName.get (h : IsName (v.peek key)) : v.get key = .ok (v.peek key) := h.isText.get

lemma IsText.field (h : IsText (v.peek key)) : v.field key = .ok (v.peek key) := by
  rw [peek_eq_at?] at h
  obtain ⟨s, hs⟩ := h
  cases hat : v.at? key with
  | none => simp [hat] at hs
  | some x => exact field_of_at? hat

end

namespace Sql

variable {P : Value → Prop} [Telling P] {l : List Value} {v w : Value}

section

variable (hl : ∀ x ∈ l, P x)

include hl

lemma isReached_iff (hv : P v) : isReached l v = true ↔ v ∈ l := by
  rw [isReached, any_eq_true]
  constructor
  · rintro ⟨x, hx, h⟩
    rwa [← (Telling.beq_iff (hl x hx) hv).1 h]
  · exact fun h => ⟨v, h, (Telling.beq_iff hv hv).2 rfl⟩

lemma isReached_eq_false_iff (hv : P v) : isReached l v = false ↔ v ∉ l := by
  rw [← isReached_iff hl hv, Bool.not_eq_true]

lemma reach_eq (hv : P v) : (v ∈ l → reach l v = l) ∧ (v ∉ l → reach l v = l ++ [v]) := by
  refine ⟨fun h => if_pos ((isReached_iff hl hv).2 h), fun h => if_neg ?_⟩
  rw [isReached_iff hl hv]
  exact h

lemma mem_reach (hv : P v) : w ∈ reach l v ↔ w ∈ l ∨ w = v := by
  by_cases h : v ∈ l
  · rw [(reach_eq hl hv).1 h]
    constructor
    · exact .inl
    · rintro (hw | rfl)
      · exact hw
      · exact h
  · rw [(reach_eq hl hv).2 h]
    simp

lemma names_reach (hv : P v) : ∀ x ∈ reach l v, P x := by
  intro x hx
  rcases (mem_reach hl hv).1 hx with h | rfl
  · exact hl x h
  · exact hv

lemma nodup_reach (hv : P v) (hn : l.Nodup) : (reach l v).Nodup := by
  by_cases h : v ∈ l
  · rwa [(reach_eq hl hv).1 h]
  · rw [(reach_eq hl hv).2 h]
    exact nodup_append.2 ⟨hn, by simp, by simpa using fun a ha (he : a = v) => h (he ▸ ha)⟩

end

end Sql

namespace Value

lemma distinct_eq_foldl (xs : List Value) : distinct xs = xs.foldl Sql.reach [] := rfl

lemma mem_of_mem_foldl_reach : ∀ {xs seen : List Value} {v : Value}, v ∈ xs.foldl Sql.reach seen →
    v ∈ seen ∨ v ∈ xs
  | [], _, _, h => .inl h
  | x :: xs, seen, v, h => by
    rw [foldl_cons] at h
    rcases mem_of_mem_foldl_reach h with h | h
    · unfold Sql.reach at h
      split at h
      · exact .inl h
      · simp only [mem_append, mem_singleton] at h
        simp only [mem_cons]
        tauto
    · exact .inr (mem_cons_of_mem x h)

lemma mem_of_mem_distinct (h : v ∈ distinct xs) : v ∈ xs := by
  simpa using mem_of_mem_foldl_reach h

section

variable {P : Value → Prop} [Telling P] {xs ys : List Value}

lemma foldl_reach_spec : ∀ {seen : List Value}, (∀ x ∈ seen, P x) → (∀ x ∈ xs, P x) → seen.Nodup →
    (xs.foldl Sql.reach seen).Nodup ∧ ∀ v, v ∈ xs.foldl Sql.reach seen ↔ v ∈ seen ∨ v ∈ xs := by
  induction xs with
  | nil => intro seen _ _ hn; simpa using hn
  | cons x xs ih =>
    intro seen hs hx hn
    have hxn : P x := hx x (by simp)
    obtain ⟨hno, hm⟩ := ih (Sql.names_reach hs hxn) (fun y hy => hx y (by simp [hy]))
      (Sql.nodup_reach hs hxn hn)
    refine ⟨hno, fun v => ?_⟩
    rw [foldl_cons, hm, Sql.mem_reach hs hxn, mem_cons, or_assoc]

lemma nodup_distinct (hx : ∀ x ∈ xs, P x) : (distinct xs).Nodup :=
  (foldl_reach_spec (by simp) hx (by simp)).1

lemma mem_distinct (hx : ∀ x ∈ xs, P x) : v ∈ distinct xs ↔ v ∈ xs := by
  rw [distinct_eq_foldl, (foldl_reach_spec (by simp) hx (by simp)).2]
  simp

lemma mem_without (hx : ∀ x ∈ xs, P x) (hy : ∀ y ∈ ys, P y) : v ∈ without xs ys ↔ v ∈ xs ∧ v ∉ ys := by
  rw [without, mem_filter]
  refine and_congr_right fun hv => ?_
  have h := Sql.isReached_eq_false_iff hy (hx v hv)
  rw [Sql.isReached] at h
  simpa using h

end

end Value

end QueryDesk
