import QueryDesk.Document.Quantity

/-!
The sheet on which references between tables are worked out: a heading, and a row for every column that
looks like a reference. A row has the column, the candidates that were found for it, and the decision. A
sheet is stored with numbers of sixteen digits, and an empty text is stored as nothing.
-/

namespace QueryDesk

/-- Rows of cells, the heading first. -/
structure Sheet where
  rows : List (List Value)

namespace Sheet

def headings : List String := ["table_name", "fk_column", "base_name", "is_pk", "candidate_1", "score_1",
  "candidate_2", "score_2", "candidate_3", "score_3", "candidate_4", "score_4", "candidate_5", "score_5",
  "chosen_table", "chosen_score", "decision_type", "timestamp", "notes"]

def width : Nat := headings.length

def chosenColumn : Nat := 15

def kindColumn : Nat := 17

def isForbidden (c : Char) : Bool :=
  let n := c.toNat
  n ≤ 8 || n == 11 || n == 12 || (14 ≤ n && n ≤ 31)

/-- A number as it reads back: sixteen digits are kept, and a whole number has no fraction. -/
def storedFloat (x : Float) : Value :=
  match Number.reading x with
  | .finite negative m q =>
    if m == 0 then .int 0
    else
      let (num, den) := Number.quotient m q
      let d := (Number.significant 16 num den).trimmed
      if 0 ≤ d.exponent && d.point ≤ 16 then
        let n : Int := d.digits * Nat.pow 10 d.exponent.toNat
        .int (if negative then -n else n)
      else
        let y := Number.scientific d.digits d.exponent
        .float (if negative then -y else y)
  | _ => .null

/-- A cell's content as it reads back. -/
def stored (v : Value) : Attempt Value :=
  match v with
  | .null | .bool _ => .ok v
  | .int n => .ok (if n.natAbs < Nat.pow 10 16 then v else storedFloat (Float.ofInt n))
  | .float x => .ok (storedFloat x)
  | .text s =>
    if s.toList.any isForbidden then .error (.unwritable s)
    else .ok (if s.isEmpty then .null else v)
  | .date _ | .moment _ | .decimal _ => .ok v
  | v => .error (.invalid s!"Cannot convert {v.quoted} to Excel")

def row (cells : List Value) : Attempt (List Value) := do
  let cells ← cells.mapM stored
  pure (cells ++ List.replicate (width - cells.length) .null)

def blank : Sheet := ⟨[headings.map .text]⟩

def lastRow (s : Sheet) : Nat := s.rows.length

/-- The content of a cell, rows and columns being counted from one; null outside. -/
def cell (s : Sheet) (row column : Nat) : Value :=
  ((s.rows[row - 1]?).bind fun cells => cells[column - 1]?).getD .null

def setCell (cells : List Value) (column : Nat) (v : Value) : List Value := cells.set (column - 1) v

def put (s : Sheet) (row column : Nat) (v : Value) : Sheet :=
  let rows := s.rows ++ List.replicate (row - s.rows.length) (List.replicate width .null)
  ⟨rows.modify (row - 1) fun cells => setCell cells column v⟩

def nextOpen? (s : Sheet) : Option Nat :=
  (List.range' 2 (s.lastRow - 1)).find? fun i => !(s.cell i chosenColumn).truthy

/-- How the rows were decided, counted by kind. -/
def statistics (s : Sheet) : Keyed Nat :=
  let start : Keyed Nat := [("total", s.lastRow - 1), ("auto", 0), ("manual", 0), ("existing", 0),
    ("skipped", 0), ("incomplete", 0)]
  (s.rows.drop 1).foldl (fun counts cells =>
    let kind := (cells[kindColumn - 1]?).getD .null
    let key : Value := if kind.truthy then kind else "incomplete"
    Keyed.put counts key ((Keyed.find? counts key).getD 0 + 1)) start

end Sheet

end QueryDesk
