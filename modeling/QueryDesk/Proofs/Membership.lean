import QueryDesk.Proofs.NumberText
import QueryDesk.Proofs.Quoting

/-!
What the conditions on a list hold of. A condition is yes, no or unknown of a column's value, as SQL has it: whatever is
compared with NULL is unknown. Membership in a list, NULL among its values or not, holds of the values that equal one of
the list, and of NULL if the list holds it; absence holds of the values that equal none. So the two never hold together,
and one of them holds of every value but NULL.
-/

namespace QueryDesk.Sql

open Number List Literal Predicate

/-! ### Three truth values -/

/-- What a condition says of a row. -/
inductive Truth where
  | no
  | unknown
  | yes
  deriving DecidableEq

namespace Truth

/-- Unknown stays unknown. -/
def not : Truth → Truth
  | no => yes
  | unknown => unknown
  | yes => no

/-- No if one side is, and unknown otherwise if one side is. -/
def and : Truth → Truth → Truth
  | no, _ | _, no => no
  | yes, yes => yes
  | _, _ => unknown

/-- Yes if one side is, and unknown otherwise if one side is. -/
def or (s t : Truth) : Truth := (and s.not t.not).not

def ofBool (b : Bool) : Truth := if b then yes else no

@[simp] lemma not_eq_yes : t.not = yes ↔ t = no := by cases t <;> decide

@[simp] lemma not_eq_no : t.not = no ↔ t = yes := by cases t <;> decide

@[simp] lemma and_eq_yes : s.and t = yes ↔ s = yes ∧ t = yes := by cases s <;> cases t <;> decide

@[simp] lemma and_eq_no : s.and t = no ↔ s = no ∨ t = no := by cases s <;> cases t <;> decide

@[simp] lemma or_eq_yes : s.or t = yes ↔ s = yes ∨ t = yes := by simp [or]

@[simp] lemma or_eq_no : s.or t = no ↔ s = no ∧ t = no := by simp [or]

@[simp] lemma ofBool_eq_yes : ofBool b = yes ↔ b = true := by cases b <;> decide

@[simp] lemma ofBool_eq_no : ofBool b = no ↔ b = false := by cases b <;> decide

end Truth

section

variable {α : Type} (holds : String → α → Literal → Bool) (x : Option α)

/-- A comparison of a column's value with a literal. It is unknown if one of the two is NULL; what it is otherwise, the
database decides. -/
def compared (op : String) (l : Literal) : Truth :=
  match x with
  | none => .unknown
  | some a => if l = .bare "NULL" then .unknown else .ofBool (holds op a l)

def anyOf (row : List Literal) : Truth := row.foldr (fun l t => (compared holds x "=" l).or t) .no

/-- What a condition says of a column's value. -/
def Predicate.truth : Predicate → Truth
  | compare op value => compared holds x op value
  | between low high => (compared holds x ">=" low).and (compared holds x "<=" high)
  | oneOf row => anyOf holds x row
  | noneOf row => (anyOf holds x row).not
  | like pattern => compared holds x "LIKE" pattern
  | isNull => .ofBool x.isNone
  | isNotNull => .ofBool x.isSome
  | both p q => p.truth.and q.truth
  | either p q => p.truth.or q.truth

variable {holds x} {a : α} {row : List Literal}

@[simp] lemma compared_none : compared holds none op l = .unknown := rfl

lemma compared_eq_yes : compared holds (some a) op l = .yes ↔ l ≠ .bare "NULL" ∧ holds op a l = true := by
  rw [compared]
  split <;> simp_all

lemma compared_eq_no : compared holds (some a) op l = .no ↔ l ≠ .bare "NULL" ∧ holds op a l = false := by
  rw [compared]
  split <;> simp_all

lemma anyOf_eq_yes : anyOf holds x row = .yes ↔ ∃ l ∈ row, compared holds x "=" l = .yes := by
  induction row with
  | nil => simp [anyOf]
  | cons l row ih =>
    rw [anyOf, foldr_cons, Truth.or_eq_yes, ← anyOf, ih]
    simp

lemma anyOf_eq_no : anyOf holds x row = .no ↔ ∀ l ∈ row, compared holds x "=" l = .no := by
  induction row with
  | nil => simp [anyOf]
  | cons l row ih =>
    rw [anyOf, foldr_cons, Truth.or_eq_no, ← anyOf, ih]
    simp

lemma anyOf_ne_no (hl : l ∈ row) (hh : holds "=" a l = true) : anyOf holds (some a) row ≠ .no := by
  intro hno
  have h := (compared_eq_no.1 (anyOf_eq_no.1 hno l hl)).2
  rw [hh] at h
  cases h

end

/-! ### Literals of single values -/

lemma isWordChar_of_isNumberChar (h : isNumberChar c = true) : isWordChar c = true := by
  rw [isNumberChar, Bool.or_eq_true] at h
  rcases h with hd | hma
  · simp [isWordChar, Char.isAlphanum, hd]
  · have hm : "+-.aefin".toList.all isWordChar = true := rfl
    exact all_eq_true.1 hm c (by simpa using hma)

lemma readable_of_isNumberText (h : IsNumberText s) : (bare s).Readable :=
  ⟨h.1, fun c hc => isWordChar_of_isNumberChar (h.2 c hc)⟩

lemma ne_null_of_isNumberText (h : IsNumberText s) : bare s ≠ .bare "NULL" := by
  intro heq
  cases heq
  exact absurd h (by decide)

variable {asTexts : Bool} {v : Value} {vs : List Value}

lemma Literal.of_readable (h : IsPlain v) : (of asTexts v).Readable := by
  cases v with
  | null => exact bare_readable rfl rfl
  | bool b => cases b <;> exact readable_of_isNumberText (by decide)
  | int n => exact readable_of_isNumberText (isNumberText_int n)
  | float x => exact readable_of_isNumberText (isNumberText_float x)
  | text s => exact ofText_readable asTexts s
  | _ => exact absurd h id

lemma Literal.ofText_ne_null (h : isNullWord (.text s) = false) : ofText asTexts s ≠ .bare "NULL" := by
  unfold ofText
  rw [h, if_neg Bool.false_ne_true]
  split_ifs with _ _ _ _ hd
  · simp
  · simp
  · simp
  · simp
  · rw [Bool.or_eq_true, beq_iff_eq, beq_iff_eq] at hd
    rcases hd with rfl | rfl <;> simp
  · simp

lemma Literal.of_ne_null (hp : IsPlain v) (h : isNullWord v = false) : of asTexts v ≠ .bare "NULL" := by
  cases v with
  | null => cases h
  | bool b => cases b <;> exact ne_null_of_isNumberText (by decide)
  | int n => exact ne_null_of_isNumberText (isNumberText_int n)
  | float x => exact ne_null_of_isNumberText (isNumberText_float x)
  | text s => exact ofText_ne_null h
  | _ => exact absurd hp id

lemma Literal.of_eq_null (h : isNullWord v = true) (asTexts : Bool) : of asTexts v = .bare "NULL" := by
  cases v with
  | null => rfl
  | text s => rw [of, ofText, if_pos h]
  | _ => cases h

lemma mem_literals : l ∈ literals asTexts vs ↔ ∃ v ∈ vs, isNullWord v = false ∧ of asTexts v = l := by
  simp [literals, and_assoc]

lemma literals_readable (hvs : ∀ v ∈ vs, IsPlain v) : ∀ l ∈ literals asTexts vs, l.Readable := by
  intro l hl
  obtain ⟨v, hv, -, rfl⟩ := mem_literals.1 hl
  exact of_readable (hvs v hv)

namespace Site

variable {α : Type} (site : Site) (holds : String → α → Literal → Bool)

/-- A column's value equals the literal that is written for a value. -/
def Equals (a : α) (v : Value) : Prop :=
  ∃ text l, valueText site.context v = .ok text ∧ readLiteral text.toList = some (l, []) ∧ holds "=" a l = true

variable {site holds} {a : α}

lemma equals_iff (hv : IsPlain v) : site.Equals holds a v ↔ holds "=" a (.of site.asTexts v) = true := by
  have hr : readLiteral (of site.asTexts v).text.toList = some (.of site.asTexts v, []) := by
    have h : readLiteral ((of site.asTexts v).text.toList ++ []) = some (.of site.asTexts v, []) :=
      readLiteral_text (of_readable hv) rfl
    rwa [append_nil] at h
  constructor
  · rintro ⟨text, l, ht, hl, hh⟩
    rw [valueText_eq hv] at ht
    cases ht
    rw [hr] at hl
    cases hl
    exact hh
  · exact fun h => ⟨_, _, valueText_eq hv, hr, h⟩

/-- A value equals one of the literals of a list, if it equals that of a value of the list that is not NULL. -/
lemma anyOf_literals_eq_yes (hvs : ∀ v ∈ vs, IsPlain v) :
    anyOf holds (some a) (literals site.asTexts vs) = .yes ↔ ∃ v ∈ vs, isNullWord v = false ∧ site.Equals holds a v := by
  rw [anyOf_eq_yes]
  constructor
  · rintro ⟨l, hl, hy⟩
    obtain ⟨v, hv, hn, rfl⟩ := mem_literals.1 hl
    exact ⟨v, hv, hn, (equals_iff (hvs v hv)).2 (compared_eq_yes.1 hy).2⟩
  · rintro ⟨v, hv, hn, he⟩
    refine ⟨_, mem_literals.2 ⟨v, hv, hn, rfl⟩, compared_eq_yes.2 ⟨?_, (equals_iff (hvs v hv)).1 he⟩⟩
    exact of_ne_null (hvs v hv) hn

/-- A value differs from all the literals of a list, if it does from those of its values that are not NULL. -/
lemma anyOf_literals_eq_no (hvs : ∀ v ∈ vs, IsPlain v) :
    anyOf holds (some a) (literals site.asTexts vs) = .no ↔ ∀ v ∈ vs, isNullWord v = false → ¬site.Equals holds a v := by
  rw [anyOf_eq_no]
  constructor
  · intro h v hv hn he
    have hno := compared_eq_no.1 (h _ (mem_literals.2 ⟨v, hv, hn, rfl⟩))
    rw [(equals_iff (hvs v hv)).1 he] at hno
    cases hno.2
  · intro h l hl
    obtain ⟨v, hv, hn, rfl⟩ := mem_literals.1 hl
    have hnt := h v hv hn
    rw [equals_iff (hvs v hv), Bool.not_eq_true] at hnt
    exact compared_eq_no.2 ⟨of_ne_null (hvs v hv) hn, hnt⟩

end Site

/-! ### Membership and absence -/

section

variable {α : Type} {holds : String → α → Literal → Bool} {x : Option α}

lemma among_eq_yes : (among asTexts vs).truth holds x = .yes ↔
    anyOf holds x (literals asTexts vs) = .yes ∨ x = none ∧ vs.any isNullWord = true := by
  unfold among splitNull
  split_ifs with hn he
  · rw [isEmpty_iff.1 he]
    simp [truth, anyOf, hn]
  · simp [truth, hn]
  · simp [truth, hn]

lemma outside_eq_yes : (outside asTexts vs).truth holds x = .yes ↔
    anyOf holds x (literals asTexts vs) = .no ∧ (vs.any isNullWord = true → x ≠ none) := by
  unfold outside splitNull
  split_ifs with hn he
  · rw [isEmpty_iff.1 he]
    simp [truth, anyOf, hn, Option.isSome_iff_ne_none]
  · simp [truth, hn, Option.isSome_iff_ne_none]
  · simp [truth, hn]

lemma outside_none_ne_yes (hne : vs ≠ []) : (outside asTexts vs).truth holds none ≠ .yes := by
  rw [Ne, outside_eq_yes]
  rintro ⟨hno, hn⟩
  -- the list does not hold NULL, so its first value has a literal
  obtain ⟨v, vs, rfl⟩ := exists_cons_of_ne_nil hne
  have hv : isNullWord v = false := by
    by_contra h
    exact hn (by simp [h]) rfl
  have hl := anyOf_eq_no.1 hno (.of asTexts v) (mem_literals.2 ⟨v, by simp, hv, rfl⟩)
  cases hl

variable {site : Site}

lemma among_holds_iff (hvs : ∀ v ∈ vs, IsPlain v) : (among site.asTexts vs).truth holds x = .yes ↔
    (∃ a, x = some a ∧ ∃ v ∈ vs, isNullWord v = false ∧ site.Equals holds a v) ∨
      x = none ∧ ∃ v ∈ vs, isNullWord v = true := by
  rw [among_eq_yes, any_eq_true]
  cases x with
  | none =>
    have hn : anyOf holds none (literals site.asTexts vs) ≠ .yes := by
      rw [Ne, anyOf_eq_yes]
      simp
    simp [hn]
  | some a =>
    rw [Site.anyOf_literals_eq_yes hvs]
    simp

lemma outside_holds_iff (hne : vs ≠ []) (hvs : ∀ v ∈ vs, IsPlain v) : (outside site.asTexts vs).truth holds x = .yes ↔
      ∃ a, x = some a ∧ ∀ v ∈ vs, isNullWord v = false → ¬site.Equals holds a v := by
  cases x with
  | none => simp [outside_none_ne_yes hne]
  | some a =>
    rw [outside_eq_yes, Site.anyOf_literals_eq_no hvs]
    simp

end

/-- A list splits the values of a column: its membership condition holds of those that equal one of its values, and of
NULL if it holds NULL; its absence condition holds of those that equal none of its values, and never of NULL. -/
theorem membership_conditions (site : Site) {vs : List Value} (hne : vs ≠ []) (hvs : ∀ v ∈ vs, IsPlain v) :
    ∃ p q, site.ReadsAs "in" (.list vs) p ∧ site.ReadsAs "not_in" (.list vs) q ∧
      ∀ {α : Type} (holds : String → α → Literal → Bool) (x : Option α),
        (p.truth holds x = .yes ↔ (∃ a, x = some a ∧ ∃ v ∈ vs, isNullWord v = false ∧ site.Equals holds a v) ∨
          x = none ∧ ∃ v ∈ vs, isNullWord v = true) ∧
        (q.truth holds x = .yes ↔ ∃ a, x = some a ∧ ∀ v ∈ vs, isNullWord v = false → ¬site.Equals holds a v) ∧
        ¬(p.truth holds x = .yes ∧ q.truth holds x = .yes) ∧
        (x ≠ none → p.truth holds x = .yes ∨ q.truth holds x = .yes) := by
  have hr : ∀ l ∈ literals site.asTexts vs, l.Readable := literals_readable hvs
  refine ⟨_, _, (Site.asks_among hvs).readsAs (among_readable hr),
    (Site.asks_outside hvs).readsAs (outside_readable hr), fun holds x => ?_⟩
  rw [among_holds_iff hvs, outside_holds_iff hne hvs]
  refine ⟨Iff.rfl, Iff.rfl, ?_, fun hx => ?_⟩
  · rintro ⟨⟨a, rfl, v, hv, hn, he⟩ | ⟨rfl, -⟩, b, hb, hno⟩
    · cases hb
      exact hno v hv hn he
    · cases hb
  · obtain ⟨a, rfl⟩ := Option.ne_none_iff_exists'.1 hx
    by_cases h : ∃ v ∈ vs, isNullWord v = false ∧ site.Equals holds a v
    · exact .inl (.inl ⟨a, rfl, h⟩)
    · exact .inr ⟨a, rfl, fun v hv hn he => h ⟨v, hv, hn, he⟩⟩

def equalsName (_ : String) (a : String) (l : Literal) : Bool := l == .quoted a

theorem membership_conditions_names :
    (∀ v ∈ [Value.int 1, .text "Null", .text "it's"], IsPlain v) ∧
      ∃ p q, userNames.ReadsAs "in" (.list [.int 1, .text "Null", .text "it's"]) p ∧
        userNames.ReadsAs "not_in" (.list [.int 1, .text "Null", .text "it's"]) q ∧
        p.truth equalsName none = .yes ∧ p.truth equalsName (some "it's") = .yes ∧ q.truth equalsName (some "it's") ≠ .yes ∧
        q.truth equalsName none ≠ .yes := by
  have hpl : ∀ v ∈ [Value.int 1, .text "Null", .text "it's"], IsPlain v := by
    simp only [mem_cons, not_mem_nil, or_false]
    rintro v (rfl | rfl | rfl)
    · trivial
    · exact (rfl : isCall (unquoteCall "Null") = false)
    · exact (rfl : isCall (unquoteCall "it's") = false)
  have he : userNames.Equals equalsName "it's" (.text "it's") :=
    (Site.equals_iff (hpl _ (by simp))).2 rfl
  obtain ⟨p, q, hp, hq, ht⟩ := membership_conditions userNames (by simp) hpl
  have hn := ht equalsName none
  have hte := ht equalsName (some "it's")
  refine ⟨hpl, p, q, hp, hq, hn.1.2 (.inr ⟨rfl, .text "Null", by simp, rfl⟩), ?_, ?_, ?_⟩
  · exact hte.1.2 (.inl ⟨_, rfl, .text "it's", by simp, rfl, he⟩)
  · intro h
    obtain ⟨a, ha, hno⟩ := hte.2.1.1 h
    cases ha
    exact hno (.text "it's") (by simp) rfl he
  · intro h
    obtain ⟨a, ha, -⟩ := hn.2.1.1 h
    cases ha

end QueryDesk.Sql
