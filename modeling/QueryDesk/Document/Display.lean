import QueryDesk.Document.Value

/-!
Values as people read them. `Value.display` is the text of a value standing alone, `Value.quoted` its
text as a part of a list or an object, where texts are put between quotes.
-/

namespace QueryDesk.Value

/-- The parts of a date: the text before a `T` or a blank, cut at its dashes. -/
def dateParts (iso : String) : List String :=
  (Text.split iso "-").map fun p => toString (p.toNat?.getD 0)

/-- The parts of a time of day that are shown: seconds and fractions only when they are not zero. -/
def timeParts (time : String) : List String :=
  let (clock, fraction) := match Text.cut? time "." with
    | some (a, b) => (a, (Text.take (b ++ "000000") 6).toNat?.getD 0)
    | none => (time, 0)
  let parts := (Text.split clock ":").map fun p => p.toNat?.getD 0
  let seconds := parts.getD 2 0
  let shown := parts.take 2 ++ (if seconds == 0 && fraction == 0 then [] else [seconds])
  (shown ++ (if fraction == 0 then [] else [fraction])).map toString

def momentText (iso : String) : String := Text.replace iso "T" " "

def braced (parts : List String) : String := "\x7b" ++ Text.join ", " parts ++ "\x7d"

mutual

/-- The text of a value as a part of another. -/
def quoted : Value → String
  | null => "None"
  | bool b => if b then "True" else "False"
  | int n => toString n
  | float x => Number.shortestText x
  | text s => Text.quoted s
  | list items => "[" ++ Text.join ", " (quotedItems items) ++ "]"
  | tuple items =>
    match quotedItems items with
    | [one] => "(" ++ one ++ ",)"
    | parts => "(" ++ Text.join ", " parts ++ ")"
  | record fields => braced (quotedFields fields)
  | set items =>
    match quotedItems items with
    | [] => "set()"
    | parts => braced parts
  | message _ content => "content=" ++ quoted content
  | entity fields _ => "namespace(" ++ Text.join ", " (attributeTexts fields) ++ ")"
  | node _ _ source => source.getD ""
  | term maker arg => maker ++ "(" ++ quoted arg ++ ")"
  | draft _ => "<builder>"
  | statement _ => Text.quoted statementText
  | decimal d => "Decimal('" ++ d ++ "')"
  | date iso => "datetime.date(" ++ Text.join ", " (dateParts iso) ++ ")"
  | moment iso =>
    match Text.cut? iso "T" with
    | some (day, time) =>
      "datetime.datetime(" ++ Text.join ", " (dateParts day ++ timeParts time) ++ ")"
    | none => "datetime.datetime(" ++ Text.join ", " (dateParts iso ++ ["0", "0"]) ++ ")"
  | bytes _ => "b''"
  | connection _ => "<connection>"
  | form name => "<class '" ++ name ++ "'>"
  | fault f => f.message
  | frame _ => "<frame>"
  | handle k => "<" ++ k ++ ">"

def quotedItems : List Value → List String
  | [] => []
  | v :: rest => quoted v :: quotedItems rest

def quotedFields : List (String × Value) → List String
  | [] => []
  | f :: rest => quotedField f :: quotedFields rest

def quotedField : String × Value → String
  | (k, v) => Text.quoted k ++ ": " ++ quoted v

def attributeTexts : List (String × Value) → List String
  | [] => []
  | f :: rest => attributeText f :: attributeTexts rest

def attributeText : String × Value → String
  | (k, v) => k ++ "=" ++ quoted v

end

/-- The text of a value standing alone. -/
def display : Value → String
  | text s => s
  | statement _ => statementText
  | decimal d => d
  | date iso => iso
  | moment iso => momentText iso
  | v => v.quoted

end QueryDesk.Value
