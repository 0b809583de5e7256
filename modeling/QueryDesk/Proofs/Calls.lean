import QueryDesk.Proofs.Exclusion

/-!
Texts with the shape of a call. They are written as they are, without quotes, wherever a value of a condition may stand.
The shape asks for a name, for a parenthesis behind it and for another one at the end, but not that the two belong
together. So what is written need not be a single call, and to every call any condition can be added.
-/

namespace QueryDesk.Sql

open List Text

variable {cs front body content ds inner more : List Char} {depth : Nat} {s : String} {high low : Value}

/-! ### Parentheses and quotes -/

/-- Texts in which every parenthesis and every quote has its partner. Between two quotes anything may stand. -/
inductive Paired : List Char → Prop where
  | nil : Paired []
  | plain {c : Char} {rest : List Char} (hc : c ≠ '(' ∧ c ≠ ')' ∧ c ≠ '\'') (h : Paired rest) : Paired (c :: rest)
  | group {inner rest : List Char} (hinner : Paired inner) (h : Paired rest) : Paired ('(' :: (inner ++ ')' :: rest))
  | quoted {content rest : List Char} (hcontent : '\'' ∉ content) (h : Paired rest) :
    Paired ('\'' :: (content ++ '\'' :: rest))

/-- Whether a text closes what is open before it, so many parentheses and perhaps a quote, and leaves nothing open. -/
def closes : Nat → Bool → List Char → Bool
  | depth, quoted, [] => depth == 0 && !quoted
  | depth, true, c :: rest => closes depth (c != '\'') rest
  | depth, false, c :: rest =>
    if c = '\'' then closes depth true rest
    else if c = '(' then closes (depth + 1) false rest
    else if c = ')' then depth != 0 && closes (depth - 1) false rest
    else closes depth false rest

lemma Paired.append (hcs : Paired cs) (hds : Paired ds) : Paired (cs ++ ds) := by
  induction hcs with
  | nil => exact hds
  | plain hc _ ih => exact .plain hc ih
  | group hi _ _ ih => simpa using Paired.group hi ih
  | quoted hco _ ih => simpa using Paired.quoted hco ih

lemma closes_quoted (h : '\'' ∉ content) (depth : Nat) (rest : List Char) :
    closes depth true (content ++ '\'' :: rest) = closes depth false rest := by
  induction content with
  | nil => simp [closes]
  | cons c content ih =>
    rw [mem_cons, not_or] at h
    rw [cons_append, closes, bne_iff_ne.2 (Ne.symm h.1), ih h.2]

/-- A text in which all is paired neither opens nor closes anything for what follows it. -/
lemma Paired.closes_append (h : Paired cs) (depth : Nat) (rest : List Char) :
    closes depth false (cs ++ rest) = closes depth false rest := by
  induction h generalizing depth rest with
  | nil => rfl
  | plain hc _ ih =>
    rw [cons_append, closes, if_neg hc.2.2, if_neg hc.1, if_neg hc.2.1, ih]
  | group _ _ ihinner ih =>
    rw [cons_append, append_assoc, cons_append, closes, if_neg (by decide), if_pos rfl, ihinner, closes,
      if_neg (by decide), if_neg (by decide), if_pos rfl, ih]
    simp
  | quoted hco _ ih =>
    rw [cons_append, append_assoc, cons_append, closes, if_pos rfl, closes_quoted hco, ih]

/-- The parts of a text that closes so many parentheses: between two of them all is paired. -/
def Closing : Nat → List Char → Prop
  | 0, cs => Paired cs
  | depth + 1, cs => ∃ inner rest, cs = inner ++ ')' :: rest ∧ Paired inner ∧ Closing depth rest

/-- The same for a text that begins inside quotes and first leaves them. -/
def ClosingFrom (depth : Nat) : Bool → List Char → Prop
  | false, cs => Closing depth cs
  | true, cs => ∃ content rest, cs = content ++ '\'' :: rest ∧ '\'' ∉ content ∧ Closing depth rest

lemma Closing.append (hf : Paired front) (h : Closing depth cs) : Closing depth (front ++ cs) := by
  cases depth with
  | zero => exact hf.append h
  | succ depth =>
    obtain ⟨inner, rest, rfl, hi, hr⟩ := h
    exact ⟨front ++ inner, rest, by simp, hf.append hi, hr⟩

lemma closing_of_closes {quoted : Bool} (h : closes depth quoted cs = true) : ClosingFrom depth quoted cs := by
  fun_induction closes depth quoted cs with
  | case1 depth quoted =>
    obtain ⟨rfl, rfl⟩ : depth = 0 ∧ quoted = false := by simpa using h
    exact Paired.nil
  | case2 depth c rest ih =>
    by_cases hc : c = '\''
    · subst hc
      exact ⟨[], rest, rfl, by simp, ih h⟩
    · rw [bne_iff_ne.2 hc] at ih h
      obtain ⟨content, rest, rfl, hco, hr⟩ := ih h
      exact ⟨c :: content, rest, rfl, by simp [Ne.symm hc, hco], hr⟩
  | case3 depth rest ih =>
    obtain ⟨content, rest, rfl, hco, hr⟩ := ih h
    have hcl := hr.append (Paired.quoted hco .nil)
    rwa [cons_append, append_assoc] at hcl
  | case4 depth rest _ ih =>
    obtain ⟨inner, rest, rfl, hi, hr⟩ := ih h
    have hcl := hr.append (Paired.group hi .nil)
    rwa [cons_append, append_assoc] at hcl
  | case5 depth rest _ _ ih =>
    rw [Bool.and_eq_true, bne_iff_ne] at h
    obtain ⟨depth, rfl⟩ := Nat.exists_eq_succ_of_ne_zero h.1
    exact ⟨[], rest, rfl, .nil, ih h.2⟩
  | case6 depth c rest hq ho hce ih =>
    exact (ih h).append (.plain ⟨ho, hce, hq⟩ .nil)

lemma paired_iff : Paired cs ↔ closes 0 false cs = true := by
  refine ⟨fun h => ?_, closing_of_closes⟩
  rw [← append_nil cs, h.closes_append]
  rfl

instance (cs : List Char) : Decidable (Paired cs) := decidable_of_iff _ paired_iff.symm

lemma Paired.not_close (h : Paired cs) (rest : List Char) : ¬Paired (cs ++ ')' :: rest) := by
  rw [paired_iff, h.closes_append]
  simp [closes]

/-! ### Single calls -/

/-- One call and nothing beside it: a name and its arguments in parentheses. -/
def IsSingleCall (s : String) : Prop :=
  ∃ front inner, IsHead front ∧ Paired inner ∧ s.toList = front ++ '(' :: (inner ++ [')'])

lemma isSingleCall_iff (hf : IsHead front)
    (hs : s.toList = front ++ '(' :: body) : IsSingleCall s ↔ ∃ inner, Paired inner ∧ body = inner ++ [')'] := by
  constructor
  · rintro ⟨front', inner, hf', hi, hs'⟩
    have hb : some body = some (inner ++ [')']) := by
      rw [← afterName?_of_isHead hf body, ← hs, hs', afterName?_of_isHead hf']
    exact ⟨inner, hi, Option.some.inj hb⟩
  · rintro ⟨inner, hi, rfl⟩
    exact ⟨front, inner, hf, hi, hs⟩

/-- Whether a text is a single call, found by scanning it. -/
def isSingleCall (s : String) : Bool :=
  match afterName? s.toList with
  | some body => body.getLast? == some ')' && closes 0 false body.dropLast
  | none => false

lemma isSingleCall_eq_true : isSingleCall s = true ↔ IsSingleCall s := by
  unfold isSingleCall
  split
  case h_1 body hb =>
    obtain ⟨front, hf, hs⟩ := exists_head hb
    rw [isSingleCall_iff hf hs, Bool.and_eq_true, beq_iff_eq, ← paired_iff]
    constructor
    · rintro ⟨hl, hp⟩
      exact ⟨body.dropLast, hp, (dropLast_append_getLast? ')' hl).symm⟩
    · rintro ⟨inner, hi, rfl⟩
      simpa using hi
  case h_2 hn =>
    refine iff_of_false Bool.false_ne_true ?_
    rintro ⟨front, inner, hf, -, hs⟩
    rw [hs, afterName?_of_isHead hf] at hn
    cases hn

instance (s : String) : Decidable (IsSingleCall s) := decidable_of_iff _ isSingleCall_eq_true

/-- The shape of a call, part by part: all is on one line, a line break at the very end not counted. -/
lemma call_parts (h : isCall s = true) :
    ∃ front inner tail, IsHead front ∧ '\n' ∉ inner ∧ (tail = [] ∨ tail = ['\n']) ∧
      s.toList = front ++ '(' :: (inner ++ ')' :: tail) := by
  unfold isCall at h
  split at h
  case h_2 => cases h
  case h_1 body hb =>
    obtain ⟨front, hf, hs⟩ := exists_head hb
    obtain ⟨inner, hl, ht⟩ := endsLine_cases h
    have hi : '\n' ∉ inner := fun hin => hl (mem_append_left _ hin)
    rcases ht with rfl | rfl
    · exact ⟨front, inner, [], hf, hi, .inl rfl, hs⟩
    · exact ⟨front, inner, ['\n'], hf, hi, .inr rfl, by rw [hs, append_assoc, singleton_append]⟩

/-- A text with the shape of a call is a single call, if what stands between its first and its last parenthesis is paired
and no line break follows. -/
lemma isSingleCall_of_parts {tail : List Char} (hf : IsHead front)
    (ht : tail = [] ∨ tail = ['\n']) (hs : s.toList = front ++ '(' :: (inner ++ ')' :: tail)) :
    IsSingleCall s ↔ Paired inner ∧ tail = [] := by
  rw [isSingleCall_iff hf hs]
  rcases ht with rfl | rfl
  · simp
  · have hl : ∀ inner' : List Char, inner ++ [')', '\n'] ≠ inner' ++ [')'] := by
      intro inner' heq
      simpa using congrArg getLast? heq
    simp [hl]

/-- Whatever is added to a single call behind its last parenthesis, it has the shape of a call again, if a parenthesis ends
the addition and no line is broken; but it is no single call any more. -/
lemma call_added (h : isCall s = true) (hsi : IsSingleCall s) (hm : '\n' ∉ more) :
    isCall (s ++ String.ofList (more ++ [')'])) = true ∧ ¬IsSingleCall (s ++ String.ofList (more ++ [')'])) := by
  obtain ⟨front, inner, tail, hf, hl, ht, hs⟩ := call_parts h
  obtain ⟨hi, rfl⟩ := (isSingleCall_of_parts hf ht hs).1 hsi
  have ha : (s ++ String.ofList (more ++ [')'])).toList = front ++ '(' :: ((inner ++ ')' :: more) ++ [')']) := by
    simp [hs]
  constructor
  · rw [← String.ofList_toList (s := s ++ _), ha]
    exact isCall_ofList hf (by simp [hl, hm])
  · rw [isSingleCall_iff hf ha]
    rintro ⟨inner', hi', heq⟩
    have hsa : inner ++ ')' :: more = inner' := append_cancel_right heq
    exact hi.not_close more (hsa ▸ hi')

/-! ### How values are written -/

lemma unquoteCall_of_isCall (h : isCall s = true) : unquoteCall s = s := by
  obtain ⟨front, inner, tail, ⟨c, name, blanks, rfl, hc, -⟩, -, -, hs⟩ := call_parts h
  unfold unquoteCall
  split
  case h_2 => rfl
  case h_1 rest hr =>
    -- a quote begins no name
    rw [hs] at hr
    cases hr
    cases hc

lemma unquoteCall_subset (s : String) : (unquoteCall s).toList ⊆ s.toList := by
  unfold unquoteCall
  split
  case h_2 => exact List.Subset.refl _
  case h_1 rest hs =>
    split
    case h_2 => exact List.Subset.refl _
    case h_1 =>
      split
      case isFalse => exact List.Subset.refl _
      case isTrue =>
        rw [hs, String.toList_ofList]
        exact subset_cons_of_subset _ (take_subset _ _)

lemma isNullWord_of_isCall (h : isCall (unquoteCall s) = true) : isNullWord (.text s) = false := by
  obtain ⟨front, inner, tail, -, -, -, hs⟩ := call_parts h
  have hp : '(' ∈ s.toList := unquoteCall_subset s (by simp [hs])
  have hu : '(' ∈ (upper s).toList := by
    rw [upper, String.toList_ofList, mem_flatMap]
    exact ⟨'(', hp, by decide⟩
  rw [isNullWord, beq_eq_false_iff_ne]
  intro heq
  rw [heq] at hu
  exact absurd hu (by decide)

/-- The text that is written for a value that stands alone: a call as it is, and any other value as its literal. -/
def written (asTexts : Bool) : Value → String
  | .text s => if isCall (unquoteCall s) then unquoteCall s else (Literal.ofText asTexts s).text
  | v => (Literal.of asTexts v).text

lemma written_of_isCall (h : isCall (unquoteCall s) = true) (asTexts : Bool) :
    written asTexts (.text s) = unquoteCall s := by
  rw [written, if_pos h]

namespace Site

variable {site : Site} {op : String} {v : Value} {vs : List Value}

lemma valueText_written (hv : IsScalar v) : valueText site.context v = .ok (written site.asTexts v) := by
  cases v with
  | text s =>
    rw [written]
    by_cases hc : isCall (unquoteCall s) = true
    · rw [if_pos hc]
      unfold valueText
      simp only [unquoteValue, hc, if_true]
    · rw [if_neg hc]
      exact valueText_text (Bool.eq_false_iff.2 hc)
  | null | bool | int | float => exact valueText_eq trivial
  | _ => exact absurd hv id

lemma valueTexts_written (hvs : ∀ v ∈ vs, IsScalar v) :
    valueTexts site.context vs = .ok (join ", " (vs.map (written site.asTexts))) := by
  have ht : vs.mapM (valueText site.context) = .ok (vs.map (written site.asTexts)) :=
    Attempt.mapM_eq_map fun v hv => valueText_written (hvs v hv)
  rw [valueTexts, ht]
  rfl

variable (site) in
def Tests (op : String) (value : Value) (test : Test) : Prop :=
  ∃ subject, subjectOf site.table (.text site.column) site.aliases = .ok subject ∧
    site.writes op value = .ok (test.on subject.text)

lemma tests_of_testOf (h : testOf (.text op) (unquoteValue val) site.context = .ok test) :
    site.Tests op val test := by
  obtain ⟨sbj, hs⟩ := site.exists_subject
  refine ⟨sbj, hs, ?_⟩
  rw [writes, conditionText, conditionOf, hs, Attempt.ok_bind, h]
  rfl

end Site

/-- The operators that do not compare their value as it is: they search for a pattern, or do not read it. -/
def patternOps : List String := ["like", "ilike", "starts_with", "ends_with", "is_null", "is_not_null"]

namespace Site

variable {site : Site} {op s : String} {v : Value} {vs : List Value}

lemma tests_call (h : isCall (unquoteCall s) = true) (hop : op ∉ patternOps) :
    site.Tests op (.text s) (.compare (if op ∈ comparisons then op else "=") (unquoteCall s)) := by
  have hs : unquoteCall (unquoteCall s) = unquoteCall s := unquoteCall_of_isCall h
  have ht : valueText site.context (.text (unquoteCall s)) = .ok (unquoteCall s) := by
    have hw : written site.asTexts (.text (unquoteCall s)) = unquoteCall (unquoteCall s) :=
      written_of_isCall (by rwa [hs]) _
    have hsc : IsScalar (.text (unquoteCall s)) := trivial
    rw [valueText_written hsc, hw, hs]
  apply tests_of_testOf
  unfold testOf
  simp only [unquoteValue, Value.text?, contains_eq_mem, decide_eq_true_eq, ht]
  split
  case isTrue => rfl
  case isFalse =>
    split
    case h_1 heq _ | h_2 heq _ | h_3 heq _ => cases heq
    case h_4 | h_5 | h_6 | h_7 | h_8 | h_9 => exact absurd (by decide) hop
    case h_10 => rfl

lemma tests_between_calls (hl : IsScalar low) (hh : IsScalar high) :
    site.Tests "between" (.list [low, high]) (.between (written site.asTexts low) (written site.asTexts high)) := by
  apply tests_of_testOf
  rw [testOf_between, valueText_written hl, valueText_written hh]
  rfl

/-- A list with a value other than NULL is written as a row of its values that are not NULL. -/
lemma splitTest_written (hvs : ∀ v ∈ vs, IsScalar v)
    (hv : v ∈ vs) (hn : isNullWord v = false) : splitTest row alone site.context vs =
      .ok (row (join ", " ((vs.filter (!isNullWord ·)).map (written site.asTexts))) (vs.any isNullWord)) := by
  have ho : valueTexts site.context (vs.filter (!isNullWord ·)) =
      .ok (join ", " ((vs.filter (!isNullWord ·)).map (written site.asTexts))) :=
    valueTexts_written fun w hw => hvs w (mem_of_mem_filter hw)
  have hne : (vs.filter (!isNullWord ·)).isEmpty = false :=
    isEmpty_eq_false_iff.2 (ne_nil_of_mem (mem_filter.2 ⟨hv, by simp [hn]⟩))
  rw [splitTest]
  split
  case isTrue ha =>
    rw [hne, if_neg Bool.false_ne_true, ho, ha]
    rfl
  case isFalse ha =>
    rw [filter_of_no_null ha] at ho ⊢
    rw [ho, Bool.eq_false_iff.2 ha]
    rfl

end Site

/-- A text with the shape of a call is written without quotes: as the value of a comparison, at either end of a range and
in the row of a list. It is a single call exactly if its parentheses and quotes are paired between the first one and the
last, and no line break ends it. To every single call any further condition can be added: the text keeps the shape of a
call, is written without quotes too, and is no single call. -/
theorem calls_written (site : Site) (s : String) (h : isCall (unquoteCall s) = true) :
    (∃ front inner tail, IsHead front ∧ '\n' ∉ inner ∧ (tail = [] ∨ tail = ['\n']) ∧
      (unquoteCall s).toList = front ++ '(' :: (inner ++ ')' :: tail) ∧
      (IsSingleCall (unquoteCall s) ↔ Paired inner ∧ tail = [])) ∧
    (∀ op, op ∉ patternOps →
      site.Tests op (.text s) (.compare (if op ∈ comparisons then op else "=") (unquoteCall s))) ∧
    (∀ v, IsScalar v → ∃ other, site.Tests "between" (.list [.text s, v]) (.between (unquoteCall s) other) ∧
      site.Tests "between" (.list [v, .text s]) (.between other (unquoteCall s))) ∧
    (∀ vs, (∀ v ∈ vs, IsScalar v) → .text s ∈ vs → ∃ row, unquoteCall s ∈ row ∧
      site.Tests "in" (.list vs) (.member (join ", " row) (vs.any isNullWord)) ∧
      site.Tests "not_in" (.list vs) (.nonMember (join ", " row) (vs.any isNullWord))) ∧
    (IsSingleCall (unquoteCall s) → ∀ condition : String, '\n' ∉ condition.toList →
      site.Tests "=" (.text (unquoteCall s ++ " OR (" ++ condition ++ ")"))
        (.compare "=" (unquoteCall s ++ " OR (" ++ condition ++ ")")) ∧
      ¬IsSingleCall (unquoteCall s ++ " OR (" ++ condition ++ ")")) := by
  refine ⟨?_, fun op hop => Site.tests_call h hop, fun v hv => ?_, fun vs hvs hs => ?_, fun hsi condition hl => ?_⟩
  · obtain ⟨front, inner, tail, hf, hi, hta, hs⟩ := call_parts h
    exact ⟨front, inner, tail, hf, hi, hta, hs, isSingleCall_of_parts hf hta hs⟩
  · have hs : IsScalar (.text s) := trivial
    rw [← written_of_isCall h site.asTexts]
    exact ⟨written site.asTexts v, Site.tests_between_calls hs hv, Site.tests_between_calls hv hs⟩
  · have hn : isNullWord (.text s) = false := isNullWord_of_isCall h
    refine ⟨(vs.filter (!isNullWord ·)).map (written site.asTexts), ?_, ?_, ?_⟩
    · rw [← written_of_isCall h site.asTexts]
      exact mem_map_of_mem (mem_filter.2 ⟨hs, by simp [hn]⟩)
    · exact Site.tests_of_testOf (Site.splitTest_written hvs hs hn)
    · exact Site.tests_of_testOf (Site.splitTest_written hvs hs hn)
  · have ha : unquoteCall s ++ " OR (" ++ condition ++ ")" =
        unquoteCall s ++ String.ofList ((" OR (".toList ++ condition.toList) ++ [')']) := by
      rw [← String.toList_inj]
      simp
    have hm : '\n' ∉ " OR (".toList ++ condition.toList := by simpa using hl
    obtain ⟨hc, hno⟩ := call_added h hsi hm
    rw [← ha] at hc hno
    have hsa := unquoteCall_of_isCall hc
    have ht : site.Tests "=" (.text (unquoteCall s ++ " OR (" ++ condition ++ ")")) (.compare "=" (unquoteCall _)) :=
      Site.tests_call (by rwa [hsa]) (by decide)
    rw [hsa] at ht
    exact ⟨ht, hno⟩

/-- The totals above a moment that the database computes. -/
theorem calls_written_moment :
    isCall (unquoteCall "'DATEADD(DAY, -60, GETDATE())'") = true ∧ IsSingleCall "DATEADD(DAY, -60, GETDATE())" ∧
      orderTotals.Tests ">=" (.text "'DATEADD(DAY, -60, GETDATE())'") (.compare ">=" "DATEADD(DAY, -60, GETDATE())") ∧
      orderTotals.Tests "=" (.text "DATEADD(DAY, -60, GETDATE()) OR (1 = 1)")
        (.compare "=" "DATEADD(DAY, -60, GETDATE()) OR (1 = 1)") := by
  have hca : isCall (unquoteCall "'DATEADD(DAY, -60, GETDATE())'") = true := rfl
  have hsa : unquoteCall "'DATEADD(DAY, -60, GETDATE())'" = "DATEADD(DAY, -60, GETDATE())" := rfl
  have hs : IsSingleCall "DATEADD(DAY, -60, GETDATE())" := of_decide_eq_true rfl
  obtain ⟨-, hc, -, -, hm⟩ := calls_written orderTotals _ hca
  rw [hsa] at hc hm
  exact ⟨hca, hs, hc ">=" (by decide), (hm hs "1 = 1" (by decide)).1⟩

/-- A comparison with a call to which a condition was added asks more than the comparison. -/
theorem call_with_condition_written :
    orderTotals.writes "=" (.text "ABS(1) OR (1=1)") = .ok "orders.total = ABS(1) OR (1=1)" ∧
      ¬IsSingleCall "ABS(1) OR (1=1)" := by
  exact ⟨by rfl, of_decide_eq_true rfl⟩

end QueryDesk.Sql
