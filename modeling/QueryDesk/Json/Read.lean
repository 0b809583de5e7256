import QueryDesk.Document.Access

/-!
Documents from JSON text. The fields of an object keep their order; of a field written twice the last
value counts, in the place of the first. A number with a point or an exponent is a float, any other a
whole number of any size. A fault tells the line, the column and the character at which reading stopped.
-/

namespace QueryDesk.Json

/-- What was expected, and how many characters were left. -/
structure Stop where
  expected : String
  left : Nat

def isGap (c : Char) : Bool := c == ' ' || c == '\t' || c == '\n' || c == '\r'

def skipGap (cs : List Char) : List Char := cs.dropWhile isGap

def stop {α : Type} (expected : String) (cs : List Char) : Except Stop α :=
  .error ⟨expected, cs.length⟩

def hexDigit? (c : Char) : Option Nat :=
  if '0' ≤ c && c ≤ '9' then some (c.toNat - '0'.toNat)
  else if 'a' ≤ c && c ≤ 'f' then some (c.toNat - 'a'.toNat + 10)
  else if 'A' ≤ c && c ≤ 'F' then some (c.toNat - 'A'.toNat + 10)
  else none

/-- Four hexadecimal digits at the front. -/
def unit? : List Char → Option (Nat × List Char)
  | a :: b :: c :: d :: rest =>
    match hexDigit? a, hexDigit? b, hexDigit? c, hexDigit? d with
    | some x, some y, some z, some w => some (((x * 16 + y) * 16 + z) * 16 + w, rest)
    | _, _, _, _ => none
  | _ => none

def escape? : Char → Option Char
  | '"' => some '"'
  | '\\' => some '\\'
  | '/' => some '/'
  | 'b' => some (Char.ofNat 8)
  | 'f' => some (Char.ofNat 12)
  | 'n' => some '\n'
  | 'r' => some '\r'
  | 't' => some '\t'
  | _ => none

/-- A second code unit that completes a pair with `high`. -/
def pair? (high : Nat) (cs : List Char) : Option (Char × List Char) :=
  if 0xd800 ≤ high && high < 0xdc00 then
    match cs with
    | '\\' :: 'u' :: rest =>
      match unit? rest with
      | some (low, rest') =>
        if 0xdc00 ≤ low && low < 0xe000 then
          some (Char.ofNat (0x10000 + (high - 0xd800) * 0x400 + (low - 0xdc00)), rest')
        else none
      | none => none
    | _ => none
  else none

/-- The characters of a text up to its closing quote; `opened` is how much was left at the opening
one, and the collected characters are reversed. -/
def textFrom (opened : Nat) : Nat → List Char → List Char → Except Stop (List Char × List Char)
  | 0, _, _ => .error ⟨"Unterminated string starting at", opened⟩
  | _ + 1, _, [] => .error ⟨"Unterminated string starting at", opened⟩
  | n + 1, acc, c :: rest =>
    if c == '"' then .ok (acc.reverse, rest)
    else if c == '\\' then
      match rest with
      | [] => .error ⟨"Unterminated string starting at", opened⟩
      | 'u' :: digits =>
        match unit? digits with
        | none => stop "Invalid \\uXXXX escape" rest
        | some (high, after) =>
          match pair? high after with
          | some (ch, after') => textFrom opened n (ch :: acc) after'
          | none => textFrom opened n (Char.ofNat high :: acc) after
      | e :: after =>
        match escape? e with
        | some ch => textFrom opened n (ch :: acc) after
        | none => stop "Invalid \\escape" (c :: rest)
    else if c.toNat < 32 then stop "Invalid control character at" (c :: rest)
    else textFrom opened n (c :: acc) rest

def readText (cs : List Char) : Except Stop (String × List Char) := do
  let (chars, rest) ← textFrom (cs.length + 1) (cs.length + 1) [] cs
  pure (String.ofList chars, rest)

def isFigure (c : Char) : Bool := '0' ≤ c && c ≤ '9'

def figures (cs : List Char) : Nat := cs.foldl (fun n c => n * 10 + (c.toNat - '0'.toNat)) 0

/-- The digits after a point, if there is at least one. -/
def fraction (cs : List Char) : List Char × List Char :=
  match cs with
  | '.' :: rest =>
    match rest.takeWhile isFigure with
    | [] => ([], cs)
    | ds => (ds, rest.dropWhile isFigure)
  | _ => ([], cs)

def exponent (cs : List Char) : Option Int × List Char :=
  match cs with
  | e :: rest =>
    if e == 'e' || e == 'E' then
      let (negative, digits) := match rest with
        | '-' :: r => (true, r)
        | '+' :: r => (false, r)
        | r => (false, r)
      match digits.takeWhile isFigure with
      | [] => (none, cs)
      | ds =>
        let n : Int := figures ds
        (some (if negative then -n else n), digits.dropWhile isFigure)
    else (none, cs)
  | [] => (none, cs)

/-- A number at the front, after its sign. -/
def unsigned? (negative : Bool) (cs : List Char) : Option (Value × List Char) :=
  let whole := match cs with
    | '0' :: _ => ['0']
    | _ => cs.takeWhile isFigure
  if whole.isEmpty then none
  else
    let rest := cs.drop whole.length
    let (places, rest) := fraction rest
    let (power, rest) := exponent rest
    if places.isEmpty && power.isNone then
      let n : Int := figures whole
      some (.int (if negative then -n else n), rest)
    else
      let x := Number.scientific (figures (whole ++ places)) (power.getD 0 - (places.length : Int))
      some (.float (if negative then -x else x), rest)

def after? (word : String) (cs : List Char) : Option (List Char) :=
  if word.toList.isPrefixOf cs then some (cs.drop word.length) else none

/-- A number or one of the fixed words. -/
def readAtom (cs : List Char) : Except Stop (Value × List Char) :=
  let words : List (String × Value) := [("null", .null), ("true", .bool true), ("false", .bool false),
    ("NaN", .float (0.0 / 0.0)), ("Infinity", .float (1.0 / 0.0)), ("-Infinity", .float (-1.0 / 0.0))]
  match words.findSome? fun w => (after? w.1 cs).map fun rest => (w.2, rest) with
  | some found => .ok found
  | none =>
    let number := match cs with
      | '-' :: rest => unsigned? true rest
      | _ => unsigned? false cs
    match number with
    | some found => .ok found
    | none => stop "Expecting value" cs

mutual

/-- A value; `fuel` bounds the number of parts. -/
def readValue : Nat → List Char → Except Stop (Value × List Char)
  | 0, cs => stop "Expecting value" cs
  | n + 1, cs =>
    match cs with
    | '"' :: rest => do
      let (s, rest) ← readText rest
      pure (.text s, rest)
    | '[' :: rest =>
      match skipGap rest with
      | ']' :: rest => .ok (.list [], rest)
      | rest => do
        let (items, rest) ← readItems n rest
        pure (.list items, rest)
    | '\x7b' :: rest =>
      match skipGap rest with
      | '\x7d' :: rest => .ok (.record [], rest)
      | rest => do
        let (fields, rest) ← readFields n rest
        pure (.record (Fields.putAll [] fields), rest)
    | cs => readAtom cs

/-- The items of a list up to its closing bracket. -/
def readItems : Nat → List Char → Except Stop (List Value × List Char)
  | 0, cs => stop "Expecting value" cs
  | n + 1, cs => do
    let (v, rest) ← readValue n cs
    match skipGap rest with
    | ']' :: rest => pure ([v], rest)
    | ',' :: rest => do
      let (vs, rest) ← readItems n (skipGap rest)
      pure (v :: vs, rest)
    | rest => stop "Expecting ',' delimiter" rest

/-- The fields of an object up to its closing brace. -/
def readFields : Nat → List Char → Except Stop (Fields × List Char)
  | 0, cs => stop "Expecting value" cs
  | n + 1, cs =>
    match cs with
    | '"' :: rest => do
      let (key, rest) ← readText rest
      match skipGap rest with
      | ':' :: rest => do
        let (v, rest) ← readValue n (skipGap rest)
        match skipGap rest with
        | '\x7d' :: rest => pure ([(key, v)], rest)
        | ',' :: rest => do
          let (fs, rest) ← readFields n (skipGap rest)
          pure ((key, v) :: fs, rest)
        | rest => stop "Expecting ',' delimiter" rest
      | rest => stop "Expecting ':' delimiter" rest
    | cs => stop "Expecting property name enclosed in double quotes" cs

end

def place (cs : List Char) (pos : Nat) : String :=
  let before := cs.take pos
  let line := before.count '\n' + 1
  let column := (before.reverse.takeWhile (· != '\n')).length + 1
  s!"line {line} column {column} (char {pos})"

/-- A whole text as a document. -/
def read (s : String) : Attempt Value :=
  let cs := s.toList
  let fail := fun (st : Stop) => Except.error (Fault.badJson (st.expected ++ ": " ++ place cs (cs.length - st.left)))
  match cs with
  | c :: _ =>
    if c.toNat == 0xfeff then
      fail ⟨"Unexpected UTF-8 BOM (decode using utf-8-sig)", cs.length⟩
    else body cs fail
  | [] => body cs fail
where
  /-- The document and nothing after it but blanks. -/
  body (cs : List Char) (fail : Stop → Attempt Value) : Attempt Value :=
    match readValue (2 * cs.length + 2) (skipGap cs) with
    | .error st => fail st
    | .ok (v, rest) =>
      match skipGap rest with
      | [] => .ok v
      | rest => fail ⟨"Extra data", rest.length⟩

end QueryDesk.Json
