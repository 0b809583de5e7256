import QueryDesk.Number.Binary
import QueryDesk.Text.Basic

/-!
Numbers read from a text that a person wrote: blanks around it, a sign, digits of any script, and single
underscores between digits.
-/

namespace QueryDesk.Number

def digitValue (c : Char) : Nat :=
  let n := c.toNat
  if n < 128 then n - 48
  else match Text.Ranges.decimal.find? fun first => first ≤ n && n < first + 10 with
    | some first => n - first
    | none => 0

/-- The digits of a run in which an underscore may stand between two digits. -/
def digitRun? : List Char → Option (List Nat)
  | [] => none
  | [c] => if Text.isDecimal c then some [digitValue c] else none
  | c :: '_' :: rest =>
    if Text.isDecimal c then (digitRun? rest).map (digitValue c :: ·) else none
  | c :: rest => if Text.isDecimal c then (digitRun? rest).map (digitValue c :: ·) else none

def ofDigits (ds : List Nat) : Nat := ds.foldl (fun n d => 10 * n + d) 0

def signed (cs : List Char) : Bool × List Char :=
  match cs with
  | '-' :: rest => (true, rest)
  | '+' :: rest => (false, rest)
  | rest => (false, rest)

def readInt? (s : String) : Option Int :=
  let (negative, body) := signed (Text.trim s).toList
  (digitRun? body).map fun ds => if negative then -(ofDigits ds : Int) else ofDigits ds

/-- The digits before and after the point; one side may be empty, not both. -/
def mantissa? (cs : List Char) : Option (List Nat × List Nat) :=
  let whole := cs.takeWhile (· != '.')
  match cs.dropWhile (· != '.') with
  | [] => (digitRun? whole).map fun w => (w, [])
  | _ :: places =>
    match whole, places with
    | [], [] => none
    | [], p => (digitRun? p).map fun p => ([], p)
    | w, [] => (digitRun? w).map fun w => (w, [])
    | w, p => do return (← digitRun? w, ← digitRun? p)

/-- A number with a point or an exponent, without its sign. -/
def readUnsigned? (cs : List Char) : Option Float :=
  let isMark := fun c : Char => c == 'e' || c == 'E'
  let front := cs.takeWhile fun c => !isMark c
  match cs.dropWhile fun c => !isMark c with
  | [] => (mantissa? front).map fun (w, p) => scientific (ofDigits (w ++ p)) (-(p.length : Int))
  | _ :: power => do
    let (w, p) ← mantissa? front
    let (negative, digits) := signed power
    let e : Int := ofDigits (← digitRun? digits)
    return scientific (ofDigits (w ++ p)) ((if negative then -e else e) - (p.length : Int))

/-- A number that need not be whole; infinity and the value that is no number have names. -/
def readFloat? (s : String) : Option Float :=
  let (negative, body) := signed (Text.trim s).toList
  let x? := match Text.lower (String.ofList body) with
    | "inf" | "infinity" => some (1.0 / 0.0)
    | "nan" => some (0.0 / 0.0)
    | _ => readUnsigned? body
  x?.map fun x => if negative then -x else x

end QueryDesk.Number
