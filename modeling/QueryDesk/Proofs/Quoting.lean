import Mathlib.Data.List.TakeWhile
import QueryDesk.Proofs.Reading
import QueryDesk.Proofs.Success

/-!
Conditions on texts are read back. Whatever characters the texts of a filter hold, quotes, commas and parentheses
among them, the condition is read as the test that the operator asks for, with one literal for each text and the text
as its content. The one exception are texts with the shape of a call, which are written as they are.
-/

namespace QueryDesk.Sql

open Attempt List Value Text Predicate

variable {high low v : Value} {s : String} {vs : List Value}

/-! ### Calls -/

def IsHead (front : List Char) : Prop :=
  ∃ c name blanks, front = c :: (name ++ blanks) ∧ isNameStart c = true ∧ (∀ d ∈ name, isNameChar d = true) ∧
    ∀ d ∈ blanks, isBlank d = true

lemma not_isNameChar_of_isBlank (h : isBlank c = true) : isNameChar c = false := by
  rw [← Bool.not_eq_true]
  intro hn
  simp only [isBlank, Bool.or_eq_true, Bool.and_eq_true, beq_iff_eq, decide_eq_true_eq] at h
  simp only [isNameChar, isNameStart, isCapital, isSmall, Bool.or_eq_true, Bool.and_eq_true, decide_eq_true_eq,
    beq_iff_eq, contains_eq_mem, mem_cons, not_mem_nil, or_false, Char.le_def, UInt32.le_iff_toNat_le] at hn
  rcases hn with (((hc | hs) | rfl) | ho) | hd
  · simp at hc
    omega
  · simp at hs
    omega
  · simp at h
  · omega
  · simp at hd
    omega

lemma exists_head (h : afterName? cs = some body) :
    ∃ front, IsHead front ∧ cs = front ++ '(' :: body := by
  unfold afterName? at h
  split at h
  case h_2 => cases h
  case h_1 c rest =>
    split at h
    case isFalse => cases h
    case isTrue hc =>
      split at h
      case h_2 => cases h
      case h_1 body' hb =>
        cases h
        refine ⟨c :: (rest.takeWhile isNameChar ++ (rest.dropWhile isNameChar).takeWhile isBlank),
          ⟨c, _, _, rfl, hc, fun d hd => mem_takeWhile_imp hd, fun d hd => mem_takeWhile_imp hd⟩, ?_⟩
        rw [← hb, cons_append, append_assoc, takeWhile_append_dropWhile, takeWhile_append_dropWhile]

lemma afterName?_of_isHead (h : IsHead front) (body : List Char) :
    afterName? (front ++ '(' :: body) = some body := by
  obtain ⟨c, name, blanks, rfl, hc, hn, hb⟩ := h
  have hh : ∀ d ∈ (blanks ++ '(' :: body).head?, isNameChar d = false := by
    intro d hd
    cases blanks with
    | nil =>
      cases hd
      rfl
    | cons b blanks =>
      obtain rfl : b = d := by simpa using hd
      exact not_isNameChar_of_isBlank (hb b mem_cons_self)
  have hp : ∀ d ∈ ('(' :: body).head?, isBlank d = false := by
    rintro d ⟨⟩
    rfl
  have hdr : (name ++ (blanks ++ '(' :: body)).dropWhile isNameChar = blanks ++ '(' :: body := (run_split hn hh).2
  have hd' : (blanks ++ '(' :: body).dropWhile isBlank = '(' :: body := (run_split hb hp).2
  simp only [afterName?, cons_append, append_assoc, hc, if_true, hdr, hd']

lemma endsLine_cases {last : List Char} (h : endsLine last cs = true) :
    ∃ front, '\n' ∉ front ++ last ∧ (cs = front ++ last ∨ cs = front ++ last ++ ['\n']) := by
  have he : ∀ body : List Char, (last.isSuffixOf body && !body.contains '\n') = true →
      ∃ front, '\n' ∉ front ++ last ∧ body = front ++ last := by
    intro body hb
    rw [Bool.and_eq_true, isSuffixOf_iff_suffix, Bool.not_eq_true', contains_eq_mem, decide_eq_false_iff_not] at hb
    obtain ⟨⟨front, rfl⟩, hl⟩ := hb
    exact ⟨front, hl, rfl⟩
  rw [endsLine, Bool.or_eq_true] at h
  rcases h with h | h
  · obtain ⟨front, hl, rfl⟩ := he cs h
    exact ⟨front, hl, .inl rfl⟩
  · split at h
    case h_2 => cases h
    case h_1 body hb =>
      obtain ⟨front, hl, heq⟩ := he body.reverse h
      refine ⟨front, hl, .inr ?_⟩
      rw [← reverse_reverse cs, hb, reverse_cons, heq]

lemma endsLine_append {last : List Char} (h : '\n' ∉ front ++ last) : endsLine last (front ++ last) = true := by
  have he : (last.isSuffixOf (front ++ last) && !(front ++ last).contains '\n') = true := by
    rw [Bool.and_eq_true, isSuffixOf_iff_suffix, Bool.not_eq_true', contains_eq_mem, decide_eq_false_iff_not]
    exact ⟨suffix_append _ _, h⟩
  rw [endsLine, Bool.or_eq_true]
  exact .inl he

lemma isCall_ofList (hf : IsHead front) (hl : '\n' ∉ inside) :
    isCall (String.ofList (front ++ '(' :: (inside ++ [')']))) = true := by
  rw [isCall, String.toList_ofList, afterName?_of_isHead hf]
  exact endsLine_append (by simpa using hl)

lemma unquoteCall_cases (s : String) : unquoteCall s = s ∨ isCall (unquoteCall s) = true := by
  unfold unquoteCall
  split
  case h_2 => exact .inl rfl
  case h_1 rest hs =>
    split
    case h_2 => exact .inl rfl
    case h_1 body hb =>
      split
      case isFalse => exact .inl rfl
      case isTrue he =>
        right
        obtain ⟨front, hf, rfl⟩ := exists_head hb
        obtain ⟨inner, hli, ht⟩ := endsLine_cases he
        have hi : '\n' ∉ inner := fun h => hli (mem_append_left _ h)
        have hc := isCall_ofList hf hi
        -- the closing quote goes, and a line break behind it
        rcases ht with rfl | rfl
        · have hl : ((inner ++ [')', '\'']).reverse.head? == some '\n') = false := by simp
          have hr : front ++ '(' :: (inner ++ [')', '\'']) = front ++ '(' :: (inner ++ [')']) ++ ['\''] := by simp
          simp only [hl, Bool.false_eq_true, if_false]
          rw [hr, length_append, length_singleton, Nat.add_sub_cancel, take_left]
          exact hc
        · have hl : ((inner ++ [')', '\''] ++ ['\n']).reverse.head? == some '\n') = true := by simp
          have hr : front ++ '(' :: (inner ++ [')', '\''] ++ ['\n']) =
              front ++ '(' :: (inner ++ [')']) ++ ['\'', '\n'] := by simp
          simp only [hl, if_true]
          rw [hr, length_append, length_cons, length_singleton, Nat.add_sub_cancel, take_left]
          exact hc

/-! ### Literals of values -/

/-- A value that is written as a literal: it stands alone, and it is no call, neither as it is nor without its quotes. -/
def IsPlain : Value → Prop
  | .null | .bool _ | .int _ | .float _ => True
  | .text s => isCall (unquoteCall s) = false
  | _ => False

lemma unquoteValue_eq (h : IsPlain v) : unquoteValue v = v := by
  cases v with
  | text s =>
    rcases unquoteCall_cases s with hs | hs
    · rw [unquoteValue, hs]
    · rw [IsPlain, hs] at h
      cases h
  | _ => rfl

/-- The literal of a text: the word NULL, a day or a moment as a text or cast to its type, the digits 0 and 1 as they
are, and every other text between quotes. -/
def Literal.ofText (asTexts : Bool) (s : String) : Literal :=
  if isNullWord (.text s) then .bare "NULL"
  else if isMoment s then (if asTexts then .quoted s else .cast s "DATETIME")
  else if isDay s then (if asTexts then .quoted s else .cast s "DATE")
  else if s == "0" || s == "1" then .bare s
  else .quoted s

def Literal.of (asTexts : Bool) : Value → Literal
  | .text s => ofText asTexts s
  | .bool b => .bare (if b then "1" else "0")
  | .int n => .bare (int n).display
  | .float x => .bare (float x).display
  | _ => .bare "NULL"

lemma Literal.bare_readable (hne : word.toList.isEmpty = false)
    (hw : word.toList.all isWordChar = true) : (Literal.bare word).Readable :=
  ⟨isEmpty_eq_false_iff.1 hne, all_eq_true.1 hw⟩

lemma Literal.ofText_readable (asTexts : Bool) (s : String) : (ofText asTexts s).Readable := by
  unfold ofText
  split_ifs with hn hm hte hda hte hd
  · exact bare_readable rfl rfl
  · trivial
  · have ht : "DATETIME".toList.all isWordChar = true := rfl
    exact all_eq_true.1 ht
  · trivial
  · have ht : "DATE".toList.all isWordChar = true := rfl
    exact all_eq_true.1 ht
  · rw [Bool.or_eq_true, beq_iff_eq, beq_iff_eq] at hd
    rcases hd with rfl | rfl <;> exact bare_readable rfl rfl
  · trivial

/-! ### Where a condition stands -/

/-- What a condition is written for: a column of a table, the aliases of the plan's aggregates, and what is known of the
database. -/
structure Site where
  table : Value
  column : String
  aliases : Value
  context : Value
  aliases_given : aliases = .null ∨ (∃ names, aliases = .list names) ∨ ∃ names, aliases = .set names
  /-- Nothing is known of the database, or an object tells it. -/
  context_given : context = .null ∨ context.IsRecord

namespace Site

variable (site : Site)

/-- Whether the database keeps days and moments as texts. -/
def asTexts : Bool := (site.context.peek "is_sqlite").truthy

lemma isSample_eq : ∃ sample, isSample site.context = .ok sample ∧ sample.truthy = site.asTexts := by
  rw [asTexts]
  rcases site.context_given with h | ⟨fs, h⟩
  · rw [h]
    exact ⟨.null, rfl, rfl⟩
  · rw [h]
    cases fs with
    | nil => exact ⟨.record [], rfl, rfl⟩
    | cons field fs =>
      refine ⟨_, rfl, ?_⟩
      rw [peek]
      cases lookup "is_sqlite" (field :: fs) <;> rfl

lemma exists_subject : ∃ subject, subjectOf site.table (.text site.column) site.aliases = .ok subject := by
  obtain ⟨b, hb⟩ : ∃ b, isExpression (.text site.column) = .ok b := by
    unfold isExpression
    split <;> exact ⟨_, rfl⟩
  obtain ⟨among, ha⟩ : ∃ among, (if site.aliases.truthy then isIn (.text site.column) site.aliases
      else pure false) = .ok among := by
    rcases site.aliases_given with h | ⟨ns, h⟩ | ⟨ns, h⟩ <;> rw [h]
    · exact ⟨false, rfl⟩
    · split <;> exact ⟨_, rfl⟩
    · split <;> exact ⟨_, rfl⟩
  rw [subjectOf, hb, ok_bind]
  cases b with
  | true => exact ⟨_, rfl⟩
  | false =>
    rw [if_neg Bool.false_ne_true, ha, ok_bind]
    cases among <;> exact ⟨_, rfl⟩

/-- The condition that an operator and a value ask for here, as it is written. -/
def writes (op : String) (value : Value) : Attempt String :=
  conditionText site.table (.text site.column) (.text op) value site.aliases site.context

/-- The condition is written, and it is read as a statement about its column. -/
def ReadsAs (op : String) (value : Value) (p : Predicate) : Prop :=
  ∃ subject text, subjectOf site.table (.text site.column) site.aliases = .ok subject ∧ site.writes op value = .ok text ∧
    readCondition subject.text text = some p

/-- An operator and a value ask for a test that is written as the predicate is. -/
def Asks (op : String) (value : Value) (p : Predicate) : Prop :=
  ∃ test, testOf (.text op) (unquoteValue value) site.context = .ok test ∧ ∀ subject, test.on subject = p.on subject

variable {site} {op : String} {value : Value} {p : Predicate}

lemma Asks.readsAs (h : site.Asks op value p) (hp : p.Readable) : site.ReadsAs op value p := by
  obtain ⟨test, ht, hte⟩ := h
  obtain ⟨sbj, hs⟩ := site.exists_subject
  refine ⟨sbj, p.on sbj.text, hs, ?_, readCondition_on sbj.text hp⟩
  rw [writes, conditionText, conditionOf, hs, ok_bind, ht]
  exact congrArg Except.ok (hte sbj.text)

lemma valueText_text (hs : IsPlain (.text s)) :
    valueText site.context (.text s) = .ok (Literal.ofText site.asTexts s).text := by
  obtain ⟨sample, hsa, ht⟩ := site.isSample_eq
  have hca : isCall s = false := by
    have hse : unquoteCall s = s := text.inj (unquoteValue_eq hs)
    rw [← hse]
    exact hs
  have hc : ∀ type, "CAST(" ++ quotedText (.text s) ++ " AS " ++ type ++ ")" = (Literal.cast s type).text := by
    intro type
    rw [← String.toList_inj]
    simp [quotedText, Literal.text, display]
  unfold valueText
  simp only [unquoteValue_eq hs, hca, Bool.false_eq_true, if_false, Shape.of, Shape.ofText, Literal.ofText, isNullWord,
    hsa, ok_bind, ht]
  by_cases hn : upper s == "NULL"
  · simp only [hn, if_true]
    rfl
  by_cases hm : isMoment s
  · simp only [hn, hm, if_true, hc]
    cases site.asTexts <;> rfl
  by_cases hda : isDay s
  · simp only [hn, hm, hda, if_true, hc]
    cases site.asTexts <;> rfl
  by_cases hd : s == "0" || s == "1"
  · simp only [hn, hm, hda, hd, if_true]
    rfl
  · -- the words true and false have a shape of their own, and are written as other texts are
    simp only [hn, hm, hda, hd]
    by_cases hw : lower s == "true" || lower s == "false"
    · simp only [hw, if_true]
      rfl
    · simp only [hw]
      rfl

lemma valueText_eq (hv : IsPlain v) : valueText site.context v = .ok (Literal.of site.asTexts v).text := by
  cases v with
  | null => rfl
  | bool b => cases b <;> rfl
  | int n => rfl
  | float x => rfl
  | text s => exact valueText_text hv
  | _ => exact absurd hv id

/-! ### Tests of texts and of lists -/

lemma equals_asks (hv : IsPlain v) :
    ∃ test, (do pure (Test.compare "=" (← valueText site.context v))) = .ok test ∧
      ∀ subject, test.on subject = (compare "=" (.of site.asTexts v)).on subject := by
  rw [valueText_eq hv]
  exact ⟨_, rfl, fun _ => rfl⟩

end Site

/-- What an operator asks of a column and a text. -/
def Predicate.ofText (asTexts : Bool) (op s : String) : Predicate :=
  if op ∈ comparisons then .compare op (.ofText asTexts s)
  else match op with
    | "like" | "ilike" => .like (.quoted s)
    | "starts_with" => .like (.quoted (s ++ "%"))
    | "ends_with" => .like (.quoted ("%" ++ s))
    | "is_null" => .isNull
    | "is_not_null" => .isNotNull
    | _ => .compare "=" (.ofText asTexts s)

lemma Predicate.ofText_readable (asTexts : Bool) (op s : String) : (ofText asTexts op s).Readable := by
  have hs := Literal.ofText_readable asTexts s
  unfold ofText
  split
  case isTrue hop => exact ⟨hop, hs⟩
  case isFalse =>
    split
    case h_7 => exact ⟨by decide, hs⟩
    all_goals trivial

lemma doubled_append (cs ds : List Char) : doubled (cs ++ ds) = doubled cs ++ doubled ds := by
  induction cs with
  | nil => rfl
  | cons c cs ih =>
    by_cases hc : c = '\'' <;> simp [doubled, hc, ih]

lemma escapeQuotes_append (s t : String) : escapeQuotes (s ++ t) = escapeQuotes s ++ escapeQuotes t := by
  rw [← String.toList_inj, String.toList_append]
  simp only [toList_escapeQuotes, String.toList_append, doubled_append]

namespace Site

variable {site : Site} {op : String}

lemma like_on (subject pattern s : String) (h : pattern = escapeQuotes s) :
    (Test.like pattern).on subject = (like (.quoted s)).on subject := by
  rw [← String.toList_inj]
  simp [Test.on, on, Literal.text, h]

lemma asks_text (hs : IsPlain (.text s)) : site.Asks op (.text s) (.ofText site.asTexts op s) := by
  have hp : escapeQuotes "%" = "%" := by decide
  unfold Asks testOf ofText
  rw [unquoteValue_eq hs]
  simp only [text?, contains_eq_mem, decide_eq_true_eq]
  split
  case isTrue =>
    rw [valueText_eq hs]
    exact ⟨_, rfl, fun _ => rfl⟩
  case isFalse =>
    split
    case h_1 heq _ | h_2 heq _ | h_3 heq _ => cases heq
    case h_4 | h_5 => exact ⟨_, rfl, fun sbj => like_on sbj _ s rfl⟩
    case h_6 => exact ⟨_, rfl, fun sbj => like_on sbj _ _ (by rw [escapeQuotes_append, hp]; rfl)⟩
    case h_7 => exact ⟨_, rfl, fun sbj => like_on sbj _ _ (by rw [escapeQuotes_append, hp]; rfl)⟩
    case h_8 | h_9 => exact ⟨_, rfl, fun _ => rfl⟩
    case h_10 hl hi hst he hn hnotNull _ _ _ _ =>
      obtain ⟨test, ht, hte⟩ := equals_asks hs
      refine ⟨test, ht, fun sbj => ?_⟩
      rw [hte]
      split
      case h_1 => exact absurd rfl hl
      case h_2 => exact absurd rfl hi
      case h_3 => exact absurd rfl hst
      case h_4 => exact absurd rfl he
      case h_5 => exact absurd rfl hn
      case h_6 => exact absurd rfl hnotNull
      case h_7 => rfl

lemma testOf_between (low high : Value) :
    testOf (.text "between") (unquoteValue (.list [low, high])) site.context = (do
      let low ← valueText site.context low
      let high ← valueText site.context high
      pure (.between low high)) := rfl

lemma asks_between (hl : IsPlain low) (hh : IsPlain high) :
    site.Asks "between" (.list [low, high]) (.between (.of site.asTexts low) (.of site.asTexts high)) := by
  refine ⟨.between (Literal.of site.asTexts low).text (Literal.of site.asTexts high).text, ?_, fun _ => rfl⟩
  rw [testOf_between, valueText_eq hl, valueText_eq hh]
  rfl

lemma valueTexts_eq (hvs : ∀ v ∈ vs, IsPlain v) :
    valueTexts site.context vs = .ok (join ", " ((vs.map (Literal.of site.asTexts)).map Literal.text)) := by
  have ht : vs.mapM (valueText site.context) = .ok (vs.map fun v => (Literal.of site.asTexts v).text) :=
    mapM_eq_map fun v hv => valueText_eq (hvs v hv)
  rw [valueTexts, ht, map_map]
  rfl

end Site

def literals (asTexts : Bool) (vs : List Value) : List Literal := (vs.filter (!isNullWord ·)).map (.of asTexts)

lemma filter_of_no_null (h : ¬vs.any isNullWord = true) : vs.filter (!isNullWord ·) = vs := by
  rw [filter_eq_self]
  intro v hv
  have hv' : isNullWord v ≠ true := fun hn => h (any_eq_true.2 ⟨v, hv, hn⟩)
  simpa using hv'

/-- A predicate on the literals of a list; if the list holds NULL, joined with one that speaks of NULL, which stands alone
if nothing else is in the list. -/
def Predicate.splitNull (row : List Literal → Predicate) (join : Predicate → Predicate → Predicate) (alone : Predicate)
    (asTexts : Bool) (vs : List Value) : Predicate :=
  if vs.any isNullWord then
    if (literals asTexts vs).isEmpty then alone else join (row (literals asTexts vs)) alone
  else row (literals asTexts vs)

def Predicate.among (asTexts : Bool) (vs : List Value) : Predicate := splitNull .oneOf .either .isNull asTexts vs

def Predicate.outside (asTexts : Bool) (vs : List Value) : Predicate := splitNull .noneOf .both .isNotNull asTexts vs

namespace Site

variable {site : Site} {vs : List Value}

/-- The two tests of lists, membership and absence, differ in their words only. -/
def splitTest (row : String → Bool → Test) (alone : Test) (context : Value) (vs : List Value) : Attempt Test := do
  let others := vs.filter (!isNullWord ·)
  if vs.any isNullWord then
    if others.isEmpty then pure alone else pure (row (← valueTexts context others) true)
  else pure (row (← valueTexts context vs) false)

section

variable (hvs : ∀ v ∈ vs, IsPlain v)

include hvs

lemma splitTest_eq
    {join : Predicate → Predicate → Predicate} (ha : ∀ subject, alone.on subject = q.on subject)
    (hr : ∀ subject ls, (row (Text.join ", " (ls.map Literal.text)) false).on subject = (p ls).on subject)
    (hj : ∀ subject ls, (row (Text.join ", " (ls.map Literal.text)) true).on subject = (join (p ls) q).on subject) :
    ∃ test, splitTest row alone site.context vs = .ok test ∧
      ∀ subject, test.on subject = (splitNull p join q site.asTexts vs).on subject := by
  have ho : valueTexts site.context (vs.filter (!isNullWord ·)) =
      .ok (Text.join ", " ((literals site.asTexts vs).map Literal.text)) :=
    valueTexts_eq fun v hv => hvs v (mem_of_mem_filter hv)
  have he : (literals site.asTexts vs).isEmpty = (vs.filter (!isNullWord ·)).isEmpty := isEmpty_map
  rw [splitTest, splitNull, he]
  split
  case isTrue =>
    split
    case isTrue => exact ⟨alone, rfl, ha⟩
    case isFalse =>
      rw [ho]
      exact ⟨_, rfl, fun subject => hj subject _⟩
  case isFalse hn =>
    rw [filter_of_no_null hn] at ho
    rw [ho]
    exact ⟨_, rfl, fun subject => hr subject _⟩

lemma asks_among : site.Asks "in" (.list vs) (.among site.asTexts vs) := by
  refine splitTest_eq hvs (fun _ => rfl) (fun _ _ => rfl) fun sbj ls => ?_
  rw [← String.toList_inj]
  simp [Test.on, on]

lemma asks_outside : site.Asks "not_in" (.list vs) (.outside site.asTexts vs) := by
  refine splitTest_eq hvs (fun _ => rfl) (fun _ _ => rfl) fun sbj ls => ?_
  rw [← String.toList_inj]
  simp [Test.on, on]

end

end Site

lemma Predicate.splitNull_readable {join : Predicate → Predicate → Predicate}
    (ha : alone.Readable)
    (hr : (row (literals asTexts vs)).Readable) (hj : (join (row (literals asTexts vs)) alone).Readable) :
    (splitNull row join alone asTexts vs).Readable := by
  unfold splitNull
  split_ifs
  · exact ha
  · exact hj
  · exact hr

lemma Predicate.among_readable (h : ∀ l ∈ literals asTexts vs, l.Readable) :
    (among asTexts vs).Readable := splitNull_readable trivial h ⟨h, trivial⟩

lemma Predicate.outside_readable (h : ∀ l ∈ literals asTexts vs, l.Readable) :
    (outside asTexts vs).Readable := splitNull_readable trivial h ⟨h, trivial⟩

lemma literals_texts_readable (asTexts : Bool) (ss : List String) :
    ∀ l ∈ literals asTexts (ss.map text), l.Readable := by
  intro l hl
  obtain ⟨v, hv, rfl⟩ := mem_map.1 hl
  obtain ⟨s, -, rfl⟩ := mem_map.1 (mem_of_mem_filter hv)
  exact Literal.ofText_readable asTexts s

/-- Conditions on texts are read as what was meant: for each operator and each text the test that the operator asks for
with the text as the content of its literal, and for a list one literal for each text that is not NULL, in order. No
text ends its literal early, and none reaches beyond it. -/
theorem texts_read_back (site : Site) :
    (∀ op s, IsPlain (.text s) → site.ReadsAs op (.text s) (.ofText site.asTexts op s)) ∧
      (∀ ss : List String, (∀ s ∈ ss, IsPlain (.text s)) →
        site.ReadsAs "in" (.list (ss.map .text)) (.among site.asTexts (ss.map .text)) ∧
        site.ReadsAs "not_in" (.list (ss.map .text)) (.outside site.asTexts (ss.map .text))) ∧
      ∀ low high, IsPlain (.text low) → IsPlain (.text high) →
        site.ReadsAs "between" (.list [.text low, .text high])
          (.between (.ofText site.asTexts low) (.ofText site.asTexts high)) := by
  refine ⟨fun op s hs => (Site.asks_text hs).readsAs (ofText_readable _ op s), fun ss hss => ?_,
    fun low high hl hh => (Site.asks_between hl hh).readsAs
      ⟨Literal.ofText_readable _ low, Literal.ofText_readable _ high⟩⟩
  have hvs : ∀ v ∈ ss.map text, IsPlain v := by
    intro v hv
    obtain ⟨s, hs, rfl⟩ := mem_map.1 hv
    exact hss s hs
  have hr := literals_texts_readable site.asTexts ss
  exact ⟨(Site.asks_among hvs).readsAs (among_readable hr),
    (Site.asks_outside hvs).readsAs (outside_readable hr)⟩

/-- A column of a table, without aliases, in a database that an object tells of. -/
def Site.ofColumn (table column : String) (known : Fields) : Site where
  table := .text table
  column := column
  aliases := .null
  context := .record known
  aliases_given := .inl rfl
  context_given := .inr ⟨known, rfl⟩

/-- The names of users, in a database of which nothing is known. -/
def userNames : Site := .ofColumn "users" "name" []

theorem texts_read_back_quotes :
    (∀ s ∈ ["x') OR ('1'='1", "null", "2024-01-31"], IsPlain (.text s)) ∧
      userNames.ReadsAs "not_in" (.list (["x') OR ('1'='1", "null", "2024-01-31"].map .text))
        (.both (.noneOf [.quoted "x') OR ('1'='1", .cast "2024-01-31" "DATE"]) .isNotNull) := by
  have hp : ∀ s ∈ ["x') OR ('1'='1", "null", "2024-01-31"], IsPlain (.text s) := by
    have hc : ["x') OR ('1'='1", "null", "2024-01-31"].all (fun s => !isCall (unquoteCall s)) = true := rfl
    intro s hs
    simpa [IsPlain] using all_eq_true.1 hc s hs
  have hm : outside userNames.asTexts (["x') OR ('1'='1", "null", "2024-01-31"].map .text) =
      .both (.noneOf [.quoted "x') OR ('1'='1", .cast "2024-01-31" "DATE"]) .isNotNull := rfl
  exact ⟨hp, hm ▸ ((texts_read_back userNames).2.1 _ hp).2⟩

end QueryDesk.Sql
