import QueryDesk.Fault
import QueryDesk.Number.Binary
import QueryDesk.Text.Basic

/-!
Documents: plans, schemas, states and replies are trees whose shape is known only when they are read.
Objects keep their fields in the order in which they were written. Two documents are the same value
when their numbers, texts and parts are, whatever the order of an object's fields.
-/

namespace QueryDesk

/-- Who a message is from, with all that it carries besides its content: an id, a name and the like, as texts. -/
inductive Role where
  | human (more : List (String × String) := [])
  | assistant (more : List (String × String) := [])
  | system (more : List (String × String) := [])
  deriving DecidableEq, Inhabited

inductive Value where
  | null
  | bool (b : Bool)
  | int (n : Int)
  | float (x : Float)
  | text (s : String)
  | list (items : List Value)
  | tuple (items : List Value)
  | record (fields : List (String × Value))
  | set (items : List Value)
  | message (role : Role) (content : Value)
  /-- An object reached by attributes; `dump` is its plain document, null if it has none. -/
  | entity (fields : List (String × Value)) (dump : Value)
  /-- A node of a parsed statement, with the text it was parsed from if that is known. -/
  | node (kind : String) (args : List (String × Value)) (source : Option String)
  /-- A literal or a type, by the way it is made. -/
  | term (maker : String) (arg : Value)
  /-- A statement under construction: the calls made so far. -/
  | draft (calls : List Value)
  /-- A finished statement, known by the calls that made it. -/
  | statement (calls : List Value)
  | decimal (digits : String)
  | date (iso : String)
  | moment (iso : String)
  | bytes (octets : List Nat)
  | connection (replies : Value)
  /-- The name of a form that replies are asked to fit. -/
  | form (name : String)
  | fault (f : Fault)
  | frame (rows : List Value)
  | handle (kind : String)
  deriving Inhabited

abbrev Fields := List (String × Value)

instance : Coe String Value := ⟨.text⟩

namespace Fields

def has (fields : Fields) (key : String) : Bool := (fields.lookup key).isSome

/-- Sets a field: in its place if it is there, otherwise at the end. -/
def put (fields : Fields) (key : String) (value : Value) : Fields :=
  match fields with
  | [] => [(key, value)]
  | (k, v) :: rest => if k == key then (k, value) :: rest else (k, v) :: put rest key value

def putAll (fields news : Fields) : Fields := news.foldl (fun fs kv => put fs kv.1 kv.2) fields

def erase (fields : Fields) (key : String) : Fields := fields.filter fun kv => kv.1 != key

end Fields

namespace Role

/-- The name under which a message of this role is stored. -/
def label : Role → String
  | human _ => "HumanMessage"
  | assistant _ => "AIMessage"
  | system _ => "SystemMessage"

end Role

namespace Value

def statementText : String := "<sql>"

/-- The name of a value's kind, as messages give it. -/
def kind : Value → String
  | null => "NoneType"
  | bool _ => "bool"
  | int _ => "int"
  | float _ => "float"
  | text _ => "str"
  | list _ => "list"
  | tuple _ => "tuple"
  | record _ => "dict"
  | set _ => "set"
  | message r _ => r.label
  | entity _ _ => "SimpleNamespace"
  | node k _ _ => k
  | term m _ => m
  | draft _ => "Select"
  | statement _ => "str"
  | decimal _ => "Decimal"
  | date _ => "date"
  | moment _ => "datetime"
  | bytes _ => "bytes"
  | connection _ => "Connection"
  | form _ => "type"
  | fault _ => "Exception"
  | frame _ => "DataFrame"
  | handle k => k

def text? : Value → Option String
  | text s => some s
  | statement _ => some statementText
  | _ => none

/-- The whole number of a value that is one; a truth value counts as zero or one. -/
def int? : Value → Option Int
  | int n => some n
  | bool b => some (if b then 1 else 0)
  | _ => none

/-- Whether a value counts as true: neither absent, nor zero, nor empty. -/
def truthy : Value → Bool
  | null => false
  | bool b => b
  | int n => n != 0
  | float x => x != 0
  | text s => !s.isEmpty
  | list xs | tuple xs | set xs => !xs.isEmpty
  | record fs => !fs.isEmpty
  | bytes bs => !bs.isEmpty
  | decimal d => d.toList.any fun c => '1' ≤ c && c ≤ '9'
  | _ => true

def isNull : Value → Bool
  | null => true
  | _ => false

def orElse (a b : Value) : Value := if a.truthy then a else b

/-- Equality of numbers of either kind; `none` when one of the values is no number. -/
def sameNumber (a b : Value) : Option Bool :=
  match a.int?, b.int?, a, b with
  | some m, some n, _, _ => some (m == n)
  | some m, none, _, float y => some (Number.compareInt m y == some .eq)
  | none, some n, float x, _ => some (Number.compareInt n x == some .eq)
  | none, none, float x, float y => some (x == y)
  | _, _, _, _ => none

mutual

def same : Value → Value → Bool
  | null, b => b.isNull
  | bool a, b => ((bool a).sameNumber b).getD false
  | int a, b => ((int a).sameNumber b).getD false
  | float a, b => ((float a).sameNumber b).getD false
  | text a, b => b.text? == some a
  | statement _, b => b.text? == some statementText
  | list as, list bs => sameItems as bs
  | tuple as, tuple bs => sameItems as bs
  | set as, set bs => as.length == bs.length && allIn as bs
  | record fs, record gs => fs.length == gs.length && sameFields fs gs
  | message r c, message r' c' => r == r' && same c c'
  | entity fs _, entity gs _ => fs.length == gs.length && sameFields fs gs
  | node k fs t, node k' gs t' => k == k' && t == t' && fs.length == gs.length && sameFields fs gs
  | term m a, term m' b => m == m' && same a b
  | draft as, draft bs => sameItems as bs
  | decimal a, decimal b => a == b
  | date a, date b => a == b
  | moment a, moment b => a == b
  | bytes a, bytes b => a == b
  | connection a, connection b => same a b
  | form a, form b => a == b
  | fault a, fault b => a == b
  | frame as, frame bs => sameItems as bs
  | handle a, handle b => a == b
  | _, _ => false
termination_by structural a => a

def sameItems : List Value → List Value → Bool
  | [], [] => true
  | a :: as, b :: bs => same a b && sameItems as bs
  | _, _ => false
termination_by structural as => as

/-- Whether every item has an equal one among the others. -/
def allIn : List Value → List Value → Bool
  | [], _ => true
  | a :: as, bs => bs.any (same a) && allIn as bs
termination_by structural as => as

/-- Whether every field has an equal one among the others. -/
def sameFields : List (String × Value) → List (String × Value) → Bool
  | [], _ => true
  | f :: rest, gs => sameField f gs && sameFields rest gs
termination_by structural fs => fs

/-- Whether a field has an equal one among the others. -/
def sameField : String × Value → List (String × Value) → Bool
  | (k, a), gs =>
    match gs.lookup k with
    | some b => same a b
    | none => false
termination_by structural f => f

end

instance : BEq Value := ⟨same⟩

def texts (xs : List String) : Value := .list (xs.map .text)

def ofText? : Option String → Value
  | some s => .text s
  | none => .null

def nat (n : Nat) : Value := .int n

end Value

end QueryDesk
