import QueryDesk.Document.Access

/-!
The tables that a strategy mentions. A table's name begins with `tb_` and stands at the beginning of the
text or behind a blank, a quote or an opening bracket.
-/

namespace QueryDesk.Plan

def isTableChar (c : Char) : Bool :=
  Text.isCapital c || Text.isSmall c || ('0' ≤ c && c ≤ '9') || c == '_'

def opensMention (c : Char) : Bool := Text.isBlank c || ['`', '\'', '"', '(', '['].contains c

/-- The table's name at the front of a text. -/
def tableAt? (cs : List Char) : Option String :=
  if ['t', 'b', '_'].isPrefixOf cs then
    let name := cs.takeWhile isTableChar
    if 3 < name.length then some (String.ofList name) else none
  else none

/-- The mentions along a text; `opened` tells whether one may stand here. -/
def mentionsFrom (opened : Bool) : List Char → List String
  | [] => []
  | c :: rest =>
    let here := if opened then (tableAt? (c :: rest)).toList else []
    here ++ mentionsFrom (opensMention c) rest

def mentionedTables (text : String) : List Value :=
  Value.distinct ((mentionsFrom true text.toList).map .text)

/-- The mentioned tables that a schema has, and those that it lacks, in the order in which a set of them is
walked. -/
def sortMentions (walk : List Value → List Value) (text : String) (schema : Value) :
    Attempt (List Value × List Value) := do
  let names ← (← schema.items).mapM fun t => do
    let name ← t.get "table_name"
    if name.truthy then do pure [← name.hashable] else pure []
  let known := names.flatten
  let mentioned := walk (mentionedTables text)
  pure (mentioned.filter fun t => known.any (· == t), mentioned.filter fun t => !known.any (· == t))

end QueryDesk.Plan
