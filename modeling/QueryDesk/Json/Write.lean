import QueryDesk.Document.Access

/-!
Documents as JSON text. A document is written piece by piece; where a value has no JSON form the piece is
a fault, so that what was written before it can still be told from what was not.
-/

namespace QueryDesk.Json

structure Style where
  /-- Characters beyond ASCII are written by their code units. -/
  ascii : Bool
  /-- Blanks before each item for every level of depth; all in one line if there are none. -/
  indent : Option Nat
  other : Value → Attempt String

def refuse (v : Value) : Attempt String :=
  .error (.mismatch s!"Object of type {v.kind} is not JSON serializable")

def Style.line : Style := ⟨true, none, refuse⟩

def Style.page : Style := ⟨true, some 2, refuse⟩

def Style.file : Style := ⟨false, some 2, refuse⟩

def unit (n : Nat) : List Char := '\\' :: 'u' :: Text.hexPadded 4 n

def escapeChar (ascii : Bool) (c : Char) : List Char :=
  if c == '"' || c == '\\' then ['\\', c]
  else if c == '\n' then ['\\', 'n']
  else if c == '\r' then ['\\', 'r']
  else if c == '\t' then ['\\', 't']
  else if c.toNat == 8 then ['\\', 'b']
  else if c.toNat == 12 then ['\\', 'f']
  else if c.toNat < 32 then unit c.toNat
  else if ascii && 126 < c.toNat then
    if c.toNat < 0x10000 then unit c.toNat
    else
      let n := c.toNat - 0x10000
      unit (0xd800 + n / 0x400) ++ unit (0xdc00 + n % 0x400)
  else [c]

def string (ascii : Bool) (s : String) : String :=
  String.ofList ('"' :: s.toList.flatMap (escapeChar ascii) ++ ['"'])

def number (x : Float) : String :=
  match Number.reading x with
  | .notANumber => "NaN"
  | .infinite negative => if negative then "-Infinity" else "Infinity"
  | .finite .. => Number.shortestText x

abbrev Piece := Attempt String

def Style.lineBreak (st : Style) (depth : Nat) : String :=
  match st.indent with
  | some n => "\n" ++ Text.repeated " " (n * depth)
  | none => ""

def Style.comma (st : Style) : String := if st.indent.isSome then "," else ", "

mutual

def pieces (st : Style) (depth : Nat) : Value → List Piece
  | .null => [.ok "null"]
  | .bool b => [.ok (if b then "true" else "false")]
  | .int n => [.ok (toString n)]
  | .float x => [.ok (number x)]
  | .text s => [.ok (string st.ascii s)]
  | .statement _ => [.ok (string st.ascii Value.statementText)]
  | .list [] | .tuple [] => [.ok "[]"]
  | .list xs =>
    .ok "[" :: itemPieces st (depth + 1) true xs ++ [.ok (st.lineBreak depth), .ok "]"]
  | .tuple xs =>
    .ok "[" :: itemPieces st (depth + 1) true xs ++ [.ok (st.lineBreak depth), .ok "]"]
  | .record [] => [.ok "\x7b\x7d"]
  | .record fs =>
    .ok "\x7b" :: fieldPieces st (depth + 1) true fs ++ [.ok (st.lineBreak depth), .ok "\x7d"]
  | v => [st.other v]

def itemPieces (st : Style) (depth : Nat) (first : Bool) : List Value → List Piece
  | [] => []
  | v :: rest =>
    .ok ((if first then "" else st.comma) ++ st.lineBreak depth) ::
      pieces st depth v ++ itemPieces st depth false rest

def fieldPieces (st : Style) (depth : Nat) (first : Bool) : List (String × Value) → List Piece
  | [] => []
  | f :: rest =>
    .ok ((if first then "" else st.comma) ++ st.lineBreak depth) ::
      onePieces st depth f ++ fieldPieces st depth false rest

def onePieces (st : Style) (depth : Nat) : String × Value → List Piece
  | (k, v) => .ok (string st.ascii k ++ ": ") :: pieces st depth v

end

def gather (ps : List Piece) : Attempt String := do
  return String.join (← ps.mapM id)

def writtenFrom : List Piece → List String
  | .ok s :: rest => s :: writtenFrom rest
  | _ => []

def write (st : Style) (v : Value) : Attempt String := gather (pieces st 0 v)

def written (st : Style) (v : Value) : String := String.join (writtenFrom (pieces st 0 v))

/-!
### What a document is after it was written and read again

A tuple has become a list, a statement its text, and a value that there is no form for keeps the whole document from
being written.
-/

mutual

/-- The value that is read again after a value was written; none if it cannot be written. -/
def kept? : Value → Option Value
  | .null => some .null
  | .bool b => some (.bool b)
  | .int n => some (.int n)
  | .float x => some (.float x)
  | .text s => some (.text s)
  | .statement _ => some (.text Value.statementText)
  | .list xs => (keptItems? xs).map .list
  | .tuple xs => (keptItems? xs).map .list
  | .record fs => (keptFields? fs).map .record
  | _ => none

def keptItems? : List Value → Option (List Value)
  | [] => some []
  | v :: rest => do return (← kept? v) :: (← keptItems? rest)

def keptFields? : List (String × Value) → Option Fields
  | [] => some []
  | f :: rest => do return (← keptField? f) :: (← keptFields? rest)

def keptField? : String × Value → Option (String × Value)
  | (k, v) => (kept? v).map fun w => (k, w)

end

end QueryDesk.Json
