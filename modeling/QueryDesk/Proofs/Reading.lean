import Mathlib.Data.List.Basic
import QueryDesk.Sql.Condition

/-!
How a database reads the text of a condition. The text is walked from the left: behind the name of the column stands a
test, and in it literals, which are words, texts between quotes and such texts turned into another type. A quote ends a
literal unless a second one follows it, and the two stand for one. Two tests may be joined between parentheses. What is
written in this way is read back as what was meant, whatever the texts inside hold.
-/

namespace QueryDesk.Sql

open List Option Text

variable {rest : List Char} {subject : String} {l : Literal} {p : Predicate}

/-- A literal as a database understands it. -/
inductive Literal where
  /-- A number, or the word NULL. -/
  | bare (word : String)
  | quoted (content : String)
  /-- A text that is turned into a value of a type. -/
  | cast (content type : String)
  deriving DecidableEq

/-- A condition on a column as a database understands it. -/
inductive Predicate where
  | compare (op : String) (value : Literal)
  | between (low high : Literal)
  | oneOf (row : List Literal)
  | noneOf (row : List Literal)
  | like (pattern : Literal)
  | isNull
  | isNotNull
  | both (p q : Predicate)
  | either (p q : Predicate)
  deriving DecidableEq

/-! ### The reader -/

def after? (word : String) (cs : List Char) : Option (List Char) := cs.dropPrefix? word.toList

/-- Behind an opening quote: the content up to the first quote that is not doubled, and what follows that quote. -/
def readQuoted : List Char → Option (List Char × List Char)
  | [] => none
  | '\'' :: '\'' :: rest => (readQuoted rest).map fun p => ('\'' :: p.1, p.2)
  | '\'' :: rest => some ([], rest)
  | c :: rest => (readQuoted rest).map fun p => (c :: p.1, p.2)

def isWordChar (c : Char) : Bool := c.isAlphanum || ['+', '-', '.', '_'].contains c

/-- Behind the opening quote of a cast: the content, the type and the closing parenthesis. -/
def readCast (cs : List Char) : Option (Literal × List Char) :=
  (readQuoted cs).bind fun p => (after? " AS " p.2).bind fun rest =>
    match rest.dropWhile isWordChar with
    | ')' :: more => some (.cast (String.ofList p.1) (String.ofList (rest.takeWhile isWordChar)), more)
    | _ => none

def readLiteral : List Char → Option (Literal × List Char)
  | '\'' :: rest => (readQuoted rest).map fun p => (.quoted (String.ofList p.1), p.2)
  | cs =>
    let word := cs.takeWhile isWordChar
    match cs.dropWhile isWordChar with
    | '(' :: '\'' :: rest => if word == "CAST".toList then readCast rest else none
    | rest => if word.isEmpty then none else some (.bare (String.ofList word), rest)

lemma readQuoted_length (h : readQuoted cs = some (content, rest)) :
    rest.length < cs.length := by
  fun_induction readQuoted cs generalizing content rest with
  | case1 => cases h
  | case2 cs ih =>
    obtain ⟨p, hp, heq⟩ := map_eq_some_iff.1 h
    cases heq
    have := ih hp
    simp only [length_cons]
    omega
  | case3 cs =>
    cases h
    simp
  | case4 c cs _ _ ih =>
    obtain ⟨p, hp, heq⟩ := map_eq_some_iff.1 h
    cases heq
    have := ih hp
    simp only [length_cons]
    omega

lemma after?_eq_some : after? word cs = some rest ↔ cs = word.toList ++ rest := by
  rw [after?, dropPrefix?_eq_some_iff]
  simp

@[simp] lemma after?_append (word : String) (cs : List Char) : after? word (word.toList ++ cs) = some cs :=
  after?_eq_some.2 rfl

lemma length_dropWhile_le (p : Char → Bool) (cs : List Char) : (cs.dropWhile p).length ≤ cs.length :=
  (dropWhile_sublist p).length_le

lemma readCast_length (h : readCast cs = some (l, rest)) : rest.length < cs.length := by
  obtain ⟨p, hp, h⟩ := bind_eq_some_iff.1 h
  obtain ⟨r, hr, h⟩ := bind_eq_some_iff.1 h
  have hc := readQuoted_length hp
  have hd := length_dropWhile_le isWordChar r
  rw [after?_eq_some] at hr
  split at h
  case h_2 => cases h
  case h_1 more heq =>
    cases h
    rw [hr, length_append] at hc
    rw [heq, length_cons] at hd
    omega

lemma readLiteral_length (h : readLiteral cs = some (l, rest)) : rest.length < cs.length := by
  unfold readLiteral at h
  split at h
  case h_1 =>
    obtain ⟨p, hp, heq⟩ := map_eq_some_iff.1 h
    cases heq
    have := readQuoted_length hp
    simp only [length_cons]
    omega
  case h_2 =>
    have hd := length_dropWhile_le isWordChar cs
    simp only at h
    split at h
    case h_1 more heq =>
      split at h
      case isFalse => cases h
      case isTrue =>
        have := readCast_length h
        rw [heq, length_cons, length_cons] at hd
        omega
    case h_2 =>
      split at h
      case isTrue => cases h
      case isFalse hw =>
        cases h
        have hs := congrArg length (takeWhile_append_dropWhile (p := isWordChar) (l := cs))
        have hpo : 0 < (cs.takeWhile isWordChar).length := by
          rw [length_pos_iff]
          simpa using hw
        rw [length_append] at hs
        omega

/-- Literals with commas between them, and what follows the last one. -/
def readItems (cs : List Char) : Option (List Literal × List Char) :=
  match _hl : readLiteral cs with
  | none => none
  | some (l, rest) =>
    match _hr : after? ", " rest with
    | none => some ([l], rest)
    | some more => (readItems more).map fun p => (l :: p.1, p.2)
termination_by cs.length
decreasing_by
  have hlength := readLiteral_length _hl
  rw [after?_eq_some.1 _hr, length_append] at hlength
  omega

/-- A row of literals up to its closing parenthesis; the row may be empty. -/
def readRow (cs : List Char) : Option (List Literal × List Char) :=
  match readItems cs with
  | some (ls, rest) => (after? ")" rest).map fun more => (ls, more)
  | none => (after? ")" cs).map fun more => ([], more)

def readRange (cs : List Char) : Option (Predicate × List Char) :=
  (readLiteral cs).bind fun low => (after? " AND " low.2).bind fun rest =>
    (readLiteral rest).map fun high => (.between low.1 high.1, high.2)

/-- The tests: by what they begin, and how they are read on. -/
def forms : List (String × (List Char → Option (Predicate × List Char))) :=
  [("IS NULL", fun cs => some (.isNull, cs)), ("IS NOT NULL", fun cs => some (.isNotNull, cs)),
    ("IN (", fun cs => (readRow cs).map fun p => (.oneOf p.1, p.2)),
    ("NOT IN (", fun cs => (readRow cs).map fun p => (.noneOf p.1, p.2)),
    ("BETWEEN ", readRange),
    ("LIKE ", fun cs => (readLiteral cs).map fun p => (.like p.1, p.2))] ++
  comparisons.map fun op => (op ++ " ", fun cs => (readLiteral cs).map fun p => (.compare op p.1, p.2))

def readTest (subject : String) (cs : List Char) : Option (Predicate × List Char) :=
  (after? (subject ++ " ") cs).bind fun rest =>
    (forms.findSome? fun form => (after? form.1 rest).map form.2).join

def joints : List (String × (Predicate → Predicate → Predicate)) := [(" OR ", .either), (" AND ", .both)]

/-- Two tests of the column, joined between parentheses. -/
def readPair (subject : String) (cs : List Char) : Option Predicate :=
  (after? "(" cs).bind fun rest => (readTest subject rest).bind fun p =>
    joints.findSome? fun joint => (after? joint.1 p.2).bind fun rest => (readTest subject rest).bind fun q =>
      if q.2 == [')'] then some (joint.2 p.1 q.1) else none

/-- What a whole text says of a column; nothing if it is not the text of a condition on it. -/
def readCondition (subject text : String) : Option Predicate :=
  match readTest subject text.toList with
  | some (p, []) => some p
  | _ => readPair subject text.toList

/-! ### Writing -/

def Literal.text : Literal → String
  | bare word => word
  | quoted content => "'" ++ escapeQuotes content ++ "'"
  | cast content type => "CAST('" ++ escapeQuotes content ++ "' AS " ++ type ++ ")"

/-- A condition as it is written for a column. -/
def Predicate.on (subject : String) : Predicate → String
  | compare op value => subject ++ " " ++ op ++ " " ++ value.text
  | between low high => subject ++ " BETWEEN " ++ low.text ++ " AND " ++ high.text
  | oneOf row => subject ++ " IN (" ++ join ", " (row.map Literal.text) ++ ")"
  | noneOf row => subject ++ " NOT IN (" ++ join ", " (row.map Literal.text) ++ ")"
  | like pattern => subject ++ " LIKE " ++ pattern.text
  | isNull => subject ++ " IS NULL"
  | isNotNull => subject ++ " IS NOT NULL"
  | both p q => "(" ++ p.on subject ++ " AND " ++ q.on subject ++ ")"
  | either p q => "(" ++ p.on subject ++ " OR " ++ q.on subject ++ ")"

/-- The words of a literal are made of the characters of words; between quotes everything may stand. -/
def Literal.Readable : Literal → Prop
  | bare word => word.toList ≠ [] ∧ ∀ c ∈ word.toList, isWordChar c = true
  | quoted _ => True
  | cast _ type => ∀ c ∈ type.toList, isWordChar c = true

/-- A single test made of readable literals. -/
def Predicate.IsTest : Predicate → Prop
  | compare op value => op ∈ comparisons ∧ value.Readable
  | between low high => low.Readable ∧ high.Readable
  | oneOf row | noneOf row => ∀ l ∈ row, l.Readable
  | like pattern => pattern.Readable
  | isNull | isNotNull => True
  | both _ _ | either _ _ => False

def Predicate.Readable : Predicate → Prop
  | both p q | either p q => p.IsTest ∧ q.IsTest
  | p => p.IsTest

/-! ### What is written is read back -/

def doubled : List Char → List Char
  | [] => []
  | c :: cs => if c = '\'' then '\'' :: '\'' :: doubled cs else c :: doubled cs

lemma replaceFrom_quote (cs : List Char) : replaceFrom ['\''] ['\'', '\''] 0 cs = doubled cs := by
  induction cs with
  | nil => rfl
  | cons c cs ih =>
    by_cases hc : c = '\''
    · subst hc
      simp [replaceFrom, doubled, ih]
    · simp [replaceFrom, doubled, ih, hc, Ne.symm hc]

lemma toList_escapeQuotes (s : String) : (escapeQuotes s).toList = doubled s.toList := by
  rw [escapeQuotes, Text.replace, if_neg (by decide), String.toList_ofList]
  exact replaceFrom_quote s.toList

/-- What may follow a literal without becoming a part of it. -/
def startsAfresh : List Char → Bool
  | [] => true
  | c :: _ => !isWordChar c && c != '\'' && c != '('

/-- The scan of a quoted text ends at the quote behind it, and gives the text back. -/
lemma readQuoted_doubled (hr : startsAfresh rest = true) (cs : List Char) :
    readQuoted (doubled cs ++ '\'' :: rest) = some (cs, rest) := by
  induction cs with
  | nil =>
    cases rest with
    | nil => rfl
    | cons c rest =>
      have hc : c ≠ '\'' := by
        rintro rfl
        cases hr
      simp [doubled, readQuoted, hc]
  | cons c cs ih =>
    by_cases hc : c = '\''
    · subst hc
      simp [doubled, readQuoted, ih]
    · simp [doubled, readQuoted, ih, hc]

lemma readQuoted_escapeQuotes (hr : startsAfresh rest = true) (s : String) :
    readQuoted ((escapeQuotes s).toList ++ '\'' :: rest) = some (s.toList, rest) := by
  rw [toList_escapeQuotes, readQuoted_doubled hr]

lemma run_split (hr : ∀ c ∈ run, kind c = true)
    (hre : ∀ c ∈ rest.head?, kind c = false) :
    (run ++ rest).takeWhile kind = run ∧ (run ++ rest).dropWhile kind = rest := by
  rw [takeWhile_append_of_pos hr, dropWhile_append_of_pos hr]
  cases rest with
  | nil => simp
  | cons c rest => simp [hre c rfl]

lemma readLiteral_text (hl : l.Readable) (hr : startsAfresh rest = true) :
    readLiteral (l.text.toList ++ rest) = some (l, rest) := by
  cases l with
  | bare word =>
    obtain ⟨hne, hw⟩ := hl
    have hh : ∀ c ∈ rest.head?, isWordChar c = false := by
      intro c hc
      cases rest with
      | nil => cases hc
      | cons d rest =>
        cases hc
        simp only [startsAfresh, Bool.and_eq_true, Bool.not_eq_true'] at hr
        exact hr.1.1
    obtain ⟨ht, hd⟩ := run_split hw hh
    unfold readLiteral
    split
    case h_1 more heq =>
      -- a word does not begin with a quote
      obtain ⟨c, cs, hcs⟩ := exists_cons_of_ne_nil hne
      rw [Literal.text, hcs] at heq
      cases heq
      exact absurd (hw '\'' (by simp [hcs])) (by decide)
    case h_2 =>
      simp only [Literal.text, ht, hd]
      split
      case h_1 => cases hr
      case h_2 => simp [hne]
  | quoted content =>
    have hte : (Literal.quoted content).text.toList ++ rest =
        '\'' :: ((escapeQuotes content).toList ++ '\'' :: rest) := by simp [Literal.text]
    rw [hte, readLiteral, readQuoted_escapeQuotes hr]
    simp
  | cast content type =>
    have hte : (Literal.cast content type).text.toList ++ rest =
        "CAST('".toList ++ ((escapeQuotes content).toList ++ '\'' :: (" AS ".toList ++ (type.toList ++ ')' :: rest))) := by
      simp [Literal.text]
    have hca : ∀ cs, readLiteral ("CAST('".toList ++ cs) = readCast cs := fun cs => rfl
    have hcl : ∀ c ∈ (')' :: rest).head?, isWordChar c = false := by
      rintro c ⟨⟩
      rfl
    obtain ⟨ht, hd⟩ := run_split hl hcl
    rw [hte, hca, readCast, readQuoted_escapeQuotes rfl, bind_some, after?_append, bind_some]
    simp only [ht, hd, String.ofList_toList]

section

variable {rest : List Char} {l : Literal}

lemma readItems_eq (cs : List Char) : readItems cs = (readLiteral cs).bind fun p => match after? ", " p.2 with
    | none => some ([p.1], p.2)
    | some more => (readItems more).map fun q => (p.1 :: q.1, q.2) := by
  rw [readItems]
  split
  case h_1 heq => rw [heq]; rfl
  case h_2 heq =>
    rw [heq]
    split <;> simp_all

lemma readItems_texts (hls : ∀ l ∈ ls, l.Readable) (hne : ls ≠ []) :
    readItems ((join ", " (ls.map Literal.text)).toList ++ ')' :: rest) = some (ls, ')' :: rest) := by
  induction ls with
  | nil => exact absurd rfl hne
  | cons l ls ih =>
    have hl := hls l (by simp)
    cases ls with
    | nil =>
      rw [readItems_eq, show (join ", " ([l].map Literal.text)).toList = l.text.toList from rfl, readLiteral_text hl rfl]
      rfl
    | cons l' ls =>
      have ht : (join ", " ((l :: l' :: ls).map Literal.text)).toList ++ ')' :: rest =
          l.text.toList ++ (", ".toList ++
            ((Text.join ", " ((l' :: ls).map Literal.text)).toList ++ ')' :: rest)) := by simp [Text.join]
      rw [ht, readItems_eq, readLiteral_text hl rfl]
      simp only [Option.bind_some, after?_append, ih (fun l hl => hls l (by simp [hl])) (by simp)]
      rfl

lemma readRow_texts (hls : ∀ l ∈ ls, l.Readable) :
    readRow ((join ", " (ls.map Literal.text)).toList ++ ')' :: rest) = some (ls, rest) := by
  have hc : after? ")" (')' :: rest) = some rest := after?_append ")" rest
  unfold readRow
  by_cases hne : ls = []
  · subst hne
    have hn : readItems ((join ", " (map Literal.text [])).toList ++ ')' :: rest) = none := by
      rw [readItems_eq]
      rfl
    rw [hn]
    exact congrArg (Option.map _) hc
  · rw [readItems_texts hls hne]
    simp only [hc, map_some]

end

lemma findSome?_forms (hf : form ∈ forms)
    (cs : List Char) : (forms.findSome? fun f => (after? f.1 (form.1.toList ++ cs)).map f.2).join = form.2 cs := by
  simp only [forms, comparisons, map_cons, map_nil, cons_append, nil_append, mem_cons, not_mem_nil, or_false] at hf
  rcases hf with rfl | rfl | rfl | rfl | rfl | rfl | rfl | rfl | rfl | rfl | rfl | rfl
  all_goals simp [forms, comparisons, after?, dropPrefix?]

lemma readTest_form {read : List Char → Option (Predicate × List Char)} (hf : (word, read) ∈ forms)
    (subject : String) (cs : List Char) : readTest subject (subject.toList ++ ' ' :: (word.toList ++ cs)) = read cs := by
  have ht : subject.toList ++ ' ' :: (word.toList ++ cs) = (subject ++ " ").toList ++ (word.toList ++ cs) := by simp
  rw [readTest, ht, after?_append, bind_some]
  exact findSome?_forms hf cs

lemma readTest_on (hp : p.IsTest)
    (hr : startsAfresh rest = true) : readTest subject ((p.on subject).toList ++ rest) = some (p, rest) := by
  cases p with
  | compare op val =>
    obtain ⟨hop, hv⟩ := hp
    have ht : ((Predicate.compare op val).on subject).toList ++ rest =
        subject.toList ++ ' ' :: ((op ++ " ").toList ++ (val.text.toList ++ rest)) := by simp [Predicate.on]
    have hf : (op ++ " ", fun cs => (readLiteral cs).map fun p => (Predicate.compare op p.1, p.2)) ∈ forms :=
      mem_append_right _ (mem_map_of_mem hop)
    rw [ht, readTest_form hf, readLiteral_text hv hr, map_some]
  | between low high =>
    have ht : ((Predicate.between low high).on subject).toList ++ rest =
        subject.toList ++ ' ' :: ("BETWEEN ".toList ++
          (low.text.toList ++ (" AND ".toList ++ (high.text.toList ++ rest)))) := by simp [Predicate.on]
    have hf : ("BETWEEN ", readRange) ∈ forms := by simp [forms]
    rw [ht, readTest_form hf, readRange, readLiteral_text hp.1 rfl, bind_some, after?_append,
      bind_some, readLiteral_text hp.2 hr, map_some]
  | oneOf row =>
    have ht : ((Predicate.oneOf row).on subject).toList ++ rest =
        subject.toList ++ ' ' :: ("IN (".toList ++
          ((join ", " (row.map Literal.text)).toList ++ ')' :: rest)) := by simp [Predicate.on]
    have hf : ("IN (", fun cs => (readRow cs).map fun p => (Predicate.oneOf p.1, p.2)) ∈ forms := by simp [forms]
    rw [ht, readTest_form hf, readRow_texts hp, map_some]
  | noneOf row =>
    have ht : ((Predicate.noneOf row).on subject).toList ++ rest =
        subject.toList ++ ' ' :: ("NOT IN (".toList ++
          ((join ", " (row.map Literal.text)).toList ++ ')' :: rest)) := by simp [Predicate.on]
    have hf : ("NOT IN (", fun cs => (readRow cs).map fun p => (Predicate.noneOf p.1, p.2)) ∈ forms := by simp [forms]
    rw [ht, readTest_form hf, readRow_texts hp, map_some]
  | like pattern =>
    have ht : ((Predicate.like pattern).on subject).toList ++ rest =
        subject.toList ++ ' ' :: ("LIKE ".toList ++ (pattern.text.toList ++ rest)) := by simp [Predicate.on]
    have hf : ("LIKE ", fun cs => (readLiteral cs).map fun p => (Predicate.like p.1, p.2)) ∈ forms := by simp [forms]
    rw [ht, readTest_form hf, readLiteral_text hp hr, map_some]
  | isNull =>
    have ht : (Predicate.isNull.on subject).toList ++ rest = subject.toList ++ ' ' :: ("IS NULL".toList ++ rest) := by
      simp [Predicate.on]
    have hf : ("IS NULL", fun cs => some (Predicate.isNull, cs)) ∈ forms := by simp [forms]
    rw [ht, readTest_form hf]
  | isNotNull =>
    have ht : (Predicate.isNotNull.on subject).toList ++ rest =
        subject.toList ++ ' ' :: ("IS NOT NULL".toList ++ rest) := by simp [Predicate.on]
    have hf : ("IS NOT NULL", fun cs => some (Predicate.isNotNull, cs)) ∈ forms := by simp [forms]
    rw [ht, readTest_form hf]
  | both | either => exact absurd hp id

/-- A text with an opening parenthesis ahead of the column does not begin with the column: the two could overlap only
in parentheses, and behind the column stands a blank. -/
lemma paren_append_ne (subject : List Char) : '(' :: (subject ++ cs) ≠ subject ++ ' ' :: ds := by
  induction subject with
  | nil => simp
  | cons c subject ih =>
    intro h
    obtain ⟨rfl, h⟩ := cons.inj h
    exact ih h

lemma Predicate.IsTest.on_eq (hp : p.IsTest) (subject : String) :
    ∃ cs, (p.on subject).toList = subject.toList ++ cs := by
  cases p with
  | both | either => exact absurd hp id
  | _ => simp [Predicate.on]

lemma readPair_on
    (hp : p.IsTest) (hq : q.IsTest) (hj : joint ∈ joints) :
    readPair subject ("(".toList ++ ((p.on subject).toList ++ (joint.1.toList ++ ((q.on subject).toList ++ [')'])))) =
      some (joint.2 p q) := by
  have hq' : readTest subject ((q.on subject).toList ++ [')']) = some (q, [')']) := readTest_on hq rfl
  simp only [joints, mem_cons, not_mem_nil, or_false] at hj
  rw [readPair, after?_append, bind_some]
  rcases hj with rfl | rfl
  · rw [readTest_on hp rfl, bind_some]
    simp only [joints, findSome?_cons, after?_append, bind_some, hq']
    rfl
  · rw [readTest_on hp rfl, bind_some]
    have hor : ∀ cs, after? " OR " (" AND ".toList ++ cs) = none := fun cs => rfl
    simp only [joints, findSome?_cons, hor, bind_none, after?_append, bind_some, hq']
    rfl

lemma readCondition_on (subject : String) (hp : p.Readable) : readCondition subject (p.on subject) = some p := by
  have hpa : ∀ (q r : Predicate) (joint : String × (Predicate → Predicate → Predicate)), joint ∈ joints →
      q.IsTest → r.IsTest → (p.on subject).toList =
        "(".toList ++ ((q.on subject).toList ++ (joint.1.toList ++ ((r.on subject).toList ++ [')']))) →
      readCondition subject (p.on subject) = some (joint.2 q r) := by
    intro q r joint hj hq hr ht
    have ha : readTest subject (p.on subject).toList = none := by
      obtain ⟨cs, hcs⟩ := hq.on_eq subject
      have haf : after? (subject ++ " ") (p.on subject).toList = none := by
        rw [eq_none_iff_forall_ne_some]
        intro rest hre
        rw [after?_eq_some, ht, hcs] at hre
        exact paren_append_ne subject.toList (by simpa using hre)
      rw [readTest, haf, bind_none]
    rw [readCondition, ha, ht]
    exact readPair_on hq hr hj
  have hte : p.IsTest → readCondition subject (p.on subject) = some p := by
    intro h
    have hrd : readTest subject ((p.on subject).toList ++ []) = some (p, []) := readTest_on h rfl
    rw [append_nil] at hrd
    rw [readCondition, hrd]
  cases p with
  | both q r => exact hpa q r (" AND ", .both) (by simp [joints]) hp.1 hp.2 (by simp [Predicate.on])
  | either q r => exact hpa q r (" OR ", .either) (by simp [joints]) hp.1 hp.2 (by simp [Predicate.on])
  | _ => exact hte hp

end QueryDesk.Sql
