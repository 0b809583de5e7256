import QueryDesk.Document.Display

/-!
Reading documents whose shape is not known beforehand. Every access names the fault it ends in when a
document is not what the reader expects, so a step fails at the first part that is wrong and not before.
-/

namespace QueryDesk

abbrev Attempt := Except Fault

namespace Value

mutual

/-- The kind that keeps a value from being a key or a member of a set, if there is one. -/
def changeable? : Value → Option String
  | list _ => some "list"
  | record _ => some "dict"
  | set _ => some "set"
  | tuple xs => changeableItem? xs
  | _ => none

def changeableItem? : List Value → Option String
  | [] => none
  | v :: rest => (changeable? v).or (changeableItem? rest)

end

/-- A value that may be a key or a member of a set. -/
def hashable (v : Value) : Attempt Value :=
  match v.changeable? with
  | some k => .error (.unhashable k)
  | none => .ok v

def fieldsFor (use : String) : Value → Attempt Fields
  | record fields => .ok fields
  | v => .error (.noAttribute v.kind use)

def getD (v : Value) (key : String) (dflt : Value) : Attempt Value := do
  let fields ← v.fieldsFor "get"
  pure ((fields.lookup key).getD dflt)

def get (v : Value) (key : String) : Attempt Value := v.getD key .null

/-- A field under a key that may be any value; `dflt` if there is none. -/
def lookupD (v key dflt : Value) : Attempt Value := do
  let fields ← v.fieldsFor "get"
  let key ← key.hashable
  pure ((key.text?.bind fun k => fields.lookup k).getD dflt)

def absent (key : String) : Fault := .missingKey key (Text.quoted key)

def field (v : Value) (key : String) : Attempt Value :=
  match v with
  | record fields =>
    match fields.lookup key with
    | some x => .ok x
    | none => .error (absent key)
  | list _ => .error (.mismatch "list indices must be integers or slices, not str")
  | tuple _ => .error (.mismatch "tuple indices must be integers or slices, not str")
  | text _ | statement _ => .error (.mismatch "string indices must be integers, not 'str'")
  | _ => .error (.notSubscriptable v.kind)

def attr (v : Value) (name : String) : Attempt Value :=
  match v with
  | entity fields _ =>
    match fields.lookup name with
    | some x => .ok x
    | none => .error (.noAttribute v.kind name)
  | message _ content => if name == "content" then .ok content else .error (.noAttribute v.kind name)
  | _ => .error (.noAttribute v.kind name)

def items : Value → Attempt (List Value)
  | list xs | tuple xs | set xs => .ok xs
  | record fields => .ok (fields.map fun f => .text f.1)
  | text s => .ok (s.toList.map fun c => .text (String.singleton c))
  | statement _ => .ok (statementText.toList.map fun c => .text (String.singleton c))
  | frame rows => .ok rows
  | v => .error (.notIterable v.kind)

def entries (v : Value) : Attempt Fields := v.fieldsFor "items"

/-- The text of a value, for an operation called `use` that only texts have. -/
def textFor (use : String) (v : Value) : Attempt String :=
  match v.text? with
  | some s => .ok s
  | none => .error (.noAttribute v.kind use)

def lowered (v : Value) : Attempt String := do return Text.lower (← v.textFor "lower")

def size : Value → Attempt Nat
  | list xs | tuple xs | set xs | frame xs => .ok xs.length
  | record fields => .ok fields.length
  | text s => .ok s.length
  | statement _ => .ok statementText.length
  | bytes bs => .ok bs.length
  | v => .error (.mismatch s!"object of type '{v.kind}' has no len()")

/-- Whether a value is a member of a list, a key of an object or a part of a text. -/
def isIn (x container : Value) : Attempt Bool :=
  match container with
  | list xs | tuple xs => .ok (xs.any (· == x))
  | set xs => do
    let x ← x.hashable
    pure (xs.any (· == x))
  | record fields => do
    let x ← x.hashable
    pure (fields.any fun f => Value.text f.1 == x)
  | text s =>
    match x.text? with
    | some t => .ok (Text.contains s t)
    | none => .error (.mismatch s!"'in <string>' requires string as left operand, not {x.kind}")
  | v => .error (.mismatch s!"argument of type '{v.kind}' is not iterable")

def setField (v : Value) (key : String) (x : Value) : Attempt Value :=
  match v with
  | record fields => .ok (.record (Fields.put fields key x))
  | list _ => .error (.mismatch "list indices must be integers or slices, not str")
  | _ => .error (.notAssignable v.kind)

def dropField (v : Value) (key : String) : Attempt Value :=
  match v with
  | record fields => .ok (.record (Fields.erase fields key))
  | list _ => .error (.mismatch "list indices must be integers or slices, not str")
  | _ => .error (.mismatch s!"'{v.kind}' object doesn't support item deletion")

def update (v : Value) (news : Fields) : Value :=
  match v with
  | record fields => .record (Fields.putAll fields news)
  | _ => v

/-- A field of an object, null if it is absent or if the value is no object. -/
def peek (v : Value) (key : String) : Value :=
  match v with
  | record fields => (fields.lookup key).getD .null
  | _ => .null

def less (a b : Value) : Attempt Bool :=
  match a.text?, b.text?, a.int?, b.int?, a, b with
  | some s, some t, _, _, _, _ => .ok (decide (s < t))
  | _, _, some m, some n, _, _ => .ok (decide (m < n))
  | _, _, some m, none, _, float y => .ok (Number.compareInt m y == some .lt)
  | _, _, none, some n, float x, _ => .ok (Number.compareInt n x == some .gt)
  | _, _, none, none, float x, float y => .ok (decide (x < y))
  | _, _, _, _, _, _ => .error (.unordered a.kind b.kind)

/-- Whether a number is above zero. -/
def isPositive (v : Value) : Attempt Bool :=
  match v with
  | int n => .ok (decide (0 < n))
  | bool b => .ok b
  | float x => .ok (decide (0 < x))
  | v => .error (.mismatch s!"'>' not supported between instances of '{v.kind}' and 'int'")

/-- The places of values that can be ordered among each other. -/
def inOrder (a b : Value) : Bool :=
  match b.less a with
  | .ok later => !later
  | .error _ => true

/-- The values in increasing order; equal ones stay as they stand. -/
def sorted (xs : List Value) : Attempt (List Value) :=
  match xs with
  | [] => .ok []
  | first :: rest => do
    rest.forM fun x => do
      let _ ← x.less first
    pure (xs.mergeSort inOrder)

def followedBy (v : Value) (news : List Value) : Attempt Value :=
  match v with
  | list xs => .ok (.list (xs ++ news))
  | text _ | statement _ => .error (.mismatch "can only concatenate str (not \"list\") to str")
  | tuple _ => .error (.mismatch "can only concatenate tuple (not \"list\") to tuple")
  | v => .error (.mismatch s!"unsupported operand type(s) for +: '{v.kind}' and 'list'")

def next (v : Value) : Attempt Value :=
  match v with
  | int n => .ok (.int (n + 1))
  | bool b => .ok (.int (if b then 2 else 1))
  | float x => .ok (.float (x + 1))
  | text _ | statement _ => .error (.mismatch "can only concatenate str (not \"int\") to str")
  | list _ => .error (.mismatch "can only concatenate list (not \"int\") to list")
  | v => .error (.mismatch s!"unsupported operand type(s) for +: '{v.kind}' and 'int'")

def allButLast (v : Value) : Attempt (List Value) :=
  match v with
  | list xs | tuple xs => .ok xs.dropLast
  | text _ | statement _ => do return (← v.items).dropLast
  | record _ => .error (.unhashable "slice")
  | v => .error (.notSubscriptable v.kind)

def last (v : Value) : Attempt Value :=
  match v with
  | list xs | tuple xs =>
    match xs.getLast? with
    | some x => .ok x
    | none => .error (.outOfRange s!"{v.kind} index out of range")
  | text _ | statement _ => do
    match (← v.items).getLast? with
    | some x => pure x
    | none => throw (.outOfRange "string index out of range")
  | record _ => .error (.missingKey "-1" "-1")
  | v => .error (.notSubscriptable v.kind)

/-- A list whose items have to be texts, for putting them together. -/
def textItems (vs : List Value) : Attempt (List String) :=
  vs.zipIdx.mapM fun (v, i) =>
    match v.text? with
    | some s => .ok s
    | none => .error (.notText i v.kind)

def distinct (xs : List Value) : List Value :=
  xs.foldl (fun seen x => if seen.any (· == x) then seen else seen ++ [x]) []

/-- The set of some values: each of them may be a member, and each is there once. -/
def setOf (xs : List Value) : Attempt (List Value) := do
  return distinct (← xs.mapM hashable)

end Value

/-!
### The order in which the members of a set are met

A set has no order of its own; where a walk over one can be seen, the order is given from outside as a list of
names.
-/

namespace Value

/-- The place of a value in the given order; what is not named comes last. -/
def pinnedAt (pins : List String) (v : Value) : Nat :=
  match v.text? with
  | some s => pins.idxOf s
  | none => pins.length

/-- The members of a set in the given order; members that are not named stay as they stand. -/
def arranged (pins : List String) (xs : List Value) : List Value :=
  xs.mergeSort fun a b => pinnedAt pins a ≤ pinnedAt pins b

def without (xs ys : List Value) : List Value := xs.filter fun x => !ys.any (· == x)

end Value

/-! ### Values under keys that may be any value, in the order in which the keys were first met -/

abbrev Keyed (α : Type) := List (Value × α)

namespace Keyed

variable {α : Type}

/-- Sets the value under a key: in its place if the key is there, otherwise at the end. -/
def put (pairs : Keyed α) (key : Value) (a : α) : Keyed α :=
  match pairs with
  | [] => [(key, a)]
  | (k, b) :: rest => if k == key then (k, a) :: rest else (k, b) :: put rest key a

def find? (pairs : Keyed α) (key : Value) : Option α :=
  (List.find? (fun p : Value × α => p.1 == key) pairs).map (·.2)

def has (pairs : Keyed α) (key : Value) : Bool := List.any pairs fun p => p.1 == key

def keys (pairs : Keyed α) : List Value := List.map (·.1) pairs

/-- The items of a list under the keys that `entry` gives them; of equal keys the last item stays. -/
def collect {ε : Type} (entry : ε → Attempt (Value × α)) (xs : List ε) : Attempt (Keyed α) :=
  xs.foldlM (fun known x => do
    let (key, a) ← entry x
    return put known (← key.hashable) a) []

def record (value : α → Value) (pairs : Keyed α) : Value :=
  .record (Fields.putAll [] (List.map (fun p => (p.1.display, value p.2)) pairs))

end Keyed

end QueryDesk
