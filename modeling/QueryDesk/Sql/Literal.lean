import QueryDesk.Sql.Expression

/-!
Values as they stand in a statement. The shape of a text decides how it is written: a call of a function
is taken as it is, a day and a moment are cast where the dialect needs it, and everything else is put
between quotes with each quote inside doubled.
-/

namespace QueryDesk.Sql

def isNameStart (c : Char) : Bool :=
  Text.isCapital c || Text.isSmall c || c == '_' ||
    [0x17f, 0x212a, 0x130, 0x131].contains c.toNat

def isNameChar (c : Char) : Bool := isNameStart c || ('0' ≤ c && c ≤ '9')

/-- A text that ends with `last` on its only line, a line break at the very end not counted. -/
def endsLine (last : List Char) (cs : List Char) : Bool :=
  let ends := fun body : List Char => last.isSuffixOf body && !body.contains '\n'
  ends cs ||
    match cs.reverse with
    | '\n' :: body => ends body.reverse
    | _ => false

/-- What follows the name of a function: blanks and an opening parenthesis, which is dropped. -/
def afterName? (cs : List Char) : Option (List Char) :=
  match cs with
  | c :: rest =>
    if isNameStart c then
      match (rest.dropWhile isNameChar).dropWhile Text.isBlank with
      | '(' :: body => some body
      | _ => none
    else none
  | [] => none

/-- Whether a text has the shape of a call: a name, a parenthesis, and a closing one at the end. -/
def isCall (s : String) : Bool :=
  match afterName? s.toList with
  | some body => endsLine [')'] body
  | none => false

/-- A call between single quotes, without the quotes; any other text as it is. -/
def unquoteCall (s : String) : String :=
  match s.toList with
  | '\'' :: rest =>
    match afterName? rest with
    | some body =>
      if endsLine [')', '\''] body then
        let kept := if body.reverse.head? == some '\n' then rest.length - 2 else rest.length - 1
        String.ofList (rest.take kept)
      else s
    | none => s
  | _ => s

/-- The same on values: only texts change. -/
def unquoteValue (v : Value) : Value :=
  match v with
  | .text s => .text (unquoteCall s)
  | v => v

/-- Exactly `n` decimal digits at the front. -/
def digits? : Nat → List Char → Option (List Char)
  | 0, cs => some cs
  | n + 1, c :: cs => if Text.isDecimal c then digits? n cs else none
  | _ + 1, [] => none

def char? (want : Char) : List Char → Option (List Char)
  | c :: cs => if c == want then some cs else none
  | [] => none

def day? (cs : List Char) : Option (List Char) :=
  (digits? 4 cs).bind fun cs => (char? '-' cs).bind fun cs => (digits? 2 cs).bind fun cs =>
    (char? '-' cs).bind fun cs => digits? 2 cs

/-- A time of day at the front: three times two digits, with colons between. -/
def clock? (cs : List Char) : Option (List Char) :=
  (digits? 2 cs).bind fun cs => (char? ':' cs).bind fun cs => (digits? 2 cs).bind fun cs =>
    (char? ':' cs).bind fun cs => digits? 2 cs

def isEnd (cs : List Char) : Bool := cs == [] || cs == ['\n']

/-- Whether a text is a day and nothing else. -/
def isDay (s : String) : Bool :=
  match day? s.toList with
  | some rest => isEnd rest
  | none => false

/-- The end of a moment: nothing, or a point and digits. -/
def isFractionEnd (cs : List Char) : Bool :=
  isEnd cs ||
    match cs with
    | '.' :: c :: rest => Text.isDecimal c && isEnd (rest.dropWhile Text.isDecimal)
    | _ => false

/-- Whether a text is a day, blanks and a time of day. -/
def isMoment (s : String) : Bool :=
  match day? s.toList with
  | some (c :: rest) =>
    Text.isBlank c &&
      (match clock? (rest.dropWhile Text.isBlank) with
       | some rest => isFractionEnd rest
       | none => false)
  | _ => false

inductive Shape where
  | null
  | boolean
  | number
  | date
  | datetime
  | string
  deriving DecidableEq, Inhabited

namespace Shape

def name : Shape → String
  | null => "null"
  | boolean => "boolean"
  | number => "number"
  | date => "date"
  | datetime => "datetime"
  | string => "string"

/-- The shape of a text. A text of digits stays a text, the single digits 0 and 1 excepted. -/
def ofText (s : String) : Shape :=
  if Text.upper s == "NULL" then null
  else if isMoment s then datetime
  else if isDay s then date
  else if s == "0" || s == "1" then number
  else if Text.lower s == "true" || Text.lower s == "false" then boolean
  else string

def of : Value → Shape
  | .null => null
  | .bool _ => boolean
  | .int _ | .float _ => number
  | .text s => ofText s
  | .statement _ => string
  | _ => string

end Shape

/-- Whether a value stands for NULL: absent, or the word itself. -/
def isNullWord : Value → Bool
  | .null => true
  | .text s => Text.upper s == "NULL"
  | _ => false

/-- A literal node of the right type for a value. -/
def literal (v context : Value) : Attempt Value :=
  let cast := fun (type : String) => do
    let text := Node.textLiteral v.display
    if (← isSample context).truthy then pure text
    else pure (Node.make "Cast" [("this", text), ("to", .term "DataType.build" type)])
  match Shape.of v with
  | .null => .ok (Node.make "Null" [])
  | .boolean =>
    let yes := match v with
      | .bool b => b
      | _ => Text.lower v.display == "true"
    .ok (Node.numberLiteral (.int (if yes then 1 else 0)))
  | .number =>
    match v with
    | .text s => .ok (Node.numberLiteral (.int (if s == "1" then 1 else 0)))
    | v => .ok (Node.numberLiteral v)
  | .date => cast "DATE"
  | .datetime => cast "DATETIME"
  | .string => .ok (Node.textLiteral v.display)

def escapeQuotes (s : String) : String := Text.replace s "'" "''"

def quotedText (v : Value) : String := "'" ++ escapeQuotes v.display ++ "'"

def valueText (context v : Value) : Attempt String :=
  let v := unquoteValue v
  let cast := fun (type : String) => do
    if (← isSample context).truthy then pure (quotedText v)
    else pure ("CAST(" ++ quotedText v ++ " AS " ++ type ++ ")")
  let plain := match Shape.of v with
    | .null => Except.ok "NULL"
    | .date => cast "DATE"
    | .datetime => cast "DATETIME"
    | .number | .boolean =>
      match v with
      | .bool b => .ok (if b then "1" else "0")
      | .text s => if s == "0" || s == "1" then .ok s else .ok (quotedText v)
      | v => .ok v.display
    | .string => .ok (quotedText v)
  match v with
  | .text s => if isCall s then .ok s else plain
  | _ => plain

end QueryDesk.Sql
