import QueryDesk.Document.Access

/-!
Numbers and sequences in documents whose shape is not known beforehand: differences, comparisons, rounding,
and taking parts by position. Each names the fault it ends in when a value is of another kind.
-/

namespace QueryDesk.Value

def float? : Value → Option Float
  | float x => some x
  | int n => some (Float.ofInt n)
  | bool b => some (if b then 1 else 0)
  | _ => none

def misfit (operator : String) (a b : Value) : Fault :=
  .mismatch s!"unsupported operand type(s) for {operator}: '{a.kind}' and '{b.kind}'"

def minus (a b : Value) : Attempt Value :=
  match a.int?, b.int?, a.float?, b.float? with
  | some m, some n, _, _ => .ok (.int (m - n))
  | _, _, some x, some y => .ok (.float (x - y))
  | _, _, _, _ => .error (misfit "-" a b)

/-- The sum of two numbers; texts and lists are put together. -/
def plus (a b : Value) : Attempt Value :=
  match a.int?, b.int?, a.float?, b.float?, a, b with
  | some m, some n, _, _, _, _ => .ok (.int (m + n))
  | _, _, some x, some y, _, _ => .ok (.float (x + y))
  | _, _, _, _, text s, text t => .ok (.text (s ++ t))
  | _, _, _, _, list xs, list ys => .ok (.list (xs ++ ys))
  | _, _, _, _, a, b => .error (misfit "+" a b)

def total (vs : List Value) : Attempt Value := vs.foldlM plus (.int 0)

def times (a b : Value) : Attempt Value :=
  match a.int?, b.int?, a.float?, b.float? with
  | some m, some n, _, _ => .ok (.int (m * n))
  | _, _, some x, some y => .ok (.float (x * y))
  | _, _, _, _ => .error (misfit "*" a b)

def dividedBy (a b : Value) : Attempt Value :=
  match a.int?, b.int?, a.float?, b.float? with
  | some m, some n, _, _ =>
    if n == 0 then .error (.zeroDivision "division by zero") else .ok (.float (Number.ratio m n))
  | _, _, some x, some y =>
    if Number.compareInt 0 y == some .eq then .error (.zeroDivision "float division by zero") else .ok (.float (x / y))
  | _, _, _, _ => .error (misfit "/" a b)

/-- A number without its sign. -/
def unsigned (a : Value) : Attempt Value :=
  match a, a.int? with
  | _, some n => .ok (.int n.natAbs)
  | float x, none => .ok (.float x.abs)
  | a, none => .error (.mismatch s!"bad operand type for abs(): '{a.kind}'")

def greater (a b : Value) : Attempt Value := do return if ← a.less b then b else a

def whole (a : Value) : Int :=
  match a with
  | int n => n
  | float x => Number.wholePart x
  | _ => 0

/-- Whether a value is above another, where they have an order. -/
def above (a b : Value) : Attempt Bool :=
  match b.less a with
  | .ok r => .ok r
  | .error _ => .error (.mismatch s!"'>' not supported between instances of '{a.kind}' and '{b.kind}'")

/-- Whether a value is not below another, where they have an order. -/
def atLeast (a b : Value) : Attempt Bool :=
  match a, b with
  | float x, float y => .ok (decide (y ≤ x))
  | a, b =>
    match a.less b with
    | .ok below => .ok (!below)
    | .error _ =>
      .error (.mismatch s!"'>=' not supported between instances of '{a.kind}' and '{b.kind}'")

/-- A number with a fixed number of places. -/
def withPlaces (places : Nat) (v : Value) : Attempt String :=
  match v, v.float? with
  | _, some x => .ok (Number.fixedText places x)
  | text _, none | statement _, none => .error (.invalid "Unknown format code 'f' for object of type 'str'")
  | v, none => .error (.mismatch s!"unsupported format string passed to {v.kind}.__format__")

/-- The nearest number with a fixed number of places. -/
def rounded (places : Nat) (v : Value) : Attempt Value :=
  match v, v.int? with
  | _, some n => .ok (.int n)
  | float x, none => .ok (.float (Number.roundTo places x))
  | v, none => .error (.mismatch s!"type {v.kind} doesn't define __round__ method")

/-- The parts of a sequence that has to have exactly `count` of them. -/
def exactly (count : Nat) (v : Value) : Attempt (List Value) :=
  match v.items with
  | .error _ => .error (.mismatch s!"cannot unpack non-iterable {v.kind} object")
  | .ok xs =>
    if xs.length == count then .ok xs
    else if xs.length < count then
      .error (.invalid s!"not enough values to unpack (expected {count}, got {xs.length})")
    else .error (.invalid s!"too many values to unpack (expected {count})")

def pair (v : Value) : Attempt (Value × Value) := do
  match ← v.exactly 2 with
  | [a, b] => pure (a, b)
  | _ => throw (.invalid "too many values to unpack (expected 2)")

/-- The first items of a sequence, at most `count`. -/
def firstItems (count : Nat) (v : Value) : Attempt (List Value) :=
  match v with
  | list xs | tuple xs => .ok (xs.take count)
  | text _ | statement _ => do return (← v.items).take count
  | record _ => .error (.unhashable "slice")
  | v => .error (.notSubscriptable v.kind)

/-- Items with the keys they are ordered by, in increasing or decreasing order; equal ones stay as they
stand. Keys that have no order among each other are a fault. -/
def ranked {α : Type} (decreasing : Bool) (pairs : List (Value × α)) : Attempt (List α) :=
  match pairs with
  | [] => .ok []
  | first :: rest => do
    rest.forM fun p => do
      let _ ← p.1.less first.1
    let before := fun (a b : Value × α) => if decreasing then inOrder b.1 a.1 else inOrder a.1 b.1
    pure ((pairs.mergeSort before).map (·.2))

def item (position : Nat) (v : Value) : Attempt Value :=
  match v with
  | list xs | tuple xs =>
    match xs[position]? with
    | some x => .ok x
    | none => .error (.outOfRange s!"{v.kind} index out of range")
  | text _ | statement _ => do
    match (← v.items)[position]? with
    | some x => pure x
    | none => throw (.outOfRange "string index out of range")
  | record _ => .error (.missingKey (toString position) (toString position))
  | v => .error (.notSubscriptable v.kind)

end QueryDesk.Value
