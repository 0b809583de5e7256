import QueryDesk.Number.Literal
import QueryDesk.Service.Console

/-!
The arguments of a command. An option begins with two hyphens; its name may be shortened as long as it is
clear which one is meant, and its value stands behind an equals sign or in the next argument. A command that
cannot read its arguments ends with code two.
-/

namespace QueryDesk

inductive OptionKind where
  | flag
  | text
  | whole
  | number

structure CommandOption where
  name : String
  kind : OptionKind
  default : Value

namespace CommandOption

def read? (o : CommandOption) (s : String) : Option Value :=
  match o.kind with
  | .flag => none
  | .text => some (.text s)
  | .whole => (Number.readInt? s).map .int
  | .number => (Number.readFloat? s).map .float

end CommandOption

inductive Argument where
  | help
  /-- A request for help with a value, which it does not take. -/
  | misused
  /-- An option, with the value written behind an equals sign. -/
  | option (o : CommandOption) (value : Option String)
  /-- Something that looks like an option and is none. -/
  | unknown
  | plain (s : String)

namespace Argument

/-- Whether a text is a number below zero. -/
def isNegativeNumber (s : String) : Bool :=
  match s.toList with
  | '-' :: rest =>
    let whole := rest.takeWhile Text.isDecimal
    match rest.dropWhile Text.isDecimal with
    | [] => !whole.isEmpty
    | '.' :: places => !places.isEmpty && places.all Text.isDecimal
    | _ => false
  | _ => false

/-- The reading of an argument that is the whole name of an option or of the request for help. -/
def fullName? (options : List CommandOption) (name : String) (value : Option String) : Option Argument :=
  if Text.startsWith name "-h" then some (if Text.contains name "=" then .misused else .help)
  else if name == "--help" then some (if value.isNone then .help else .misused)
  else (options.find? fun o => o.name == name).map fun o => .option o value

def shortened (options : List CommandOption) (name : String) (value : Option String) : List Argument :=
  (if Text.startsWith "--help" name then [if value.isNone then .help else .misused] else []) ++
    (options.filter fun o => Text.startsWith o.name name).map fun o => .option o value

/-- What an argument is taken for; none if more than one option is meant. -/
def read? (options : List CommandOption) (s : String) : Option Argument :=
  if !Text.startsWith s "-" || s == "-" then some (.plain s)
  else
    let (name, value) : String × Option String :=
      match Text.cut? s "=" with
      | some (name, value) => (name, some value)
      | none => (s, none)
    match fullName? options s none, fullName? options name value with
    | some a, _ => some a
    | none, some a => some a
    | none, none =>
      match if Text.startsWith s "--" then shortened options name value else [] with
      | [a] => some a
      | _ :: _ :: _ => none
      | [] => some (if isNegativeNumber s || Text.contains s " " then .plain s else .unknown)

/-- What all arguments are taken for. Behind two hyphens that stand alone there are no options. -/
def readAll? (options : List CommandOption) : List String → Option (List Argument)
  | [] => some []
  | s :: rest =>
    if s == "--" then some (.unknown :: rest.map .plain)
    else do return (← read? options s) :: (← readAll? options rest)

end Argument

/-- How reading arguments ends when it does not give options. -/
inductive CommandStop where
  | help
  | misread

/-- The options that arguments set, on top of those set so far. `stray` tells whether an argument was met that
belongs to no option; it is complained about at the end. -/
def readOptions (stray : Bool) (known : Fields) : List Argument → Except CommandStop Fields
  | [] => if stray then .error .misread else .ok known
  | .help :: _ => .error .help
  | .misused :: _ => .error .misread
  | .unknown :: rest | .plain _ :: rest => readOptions true known rest
  | .option o (some s) :: rest =>
    match o.read? s with
    | some v => readOptions stray (Fields.put known o.name v) rest
    | none => .error .misread
  | .option ⟨name, .flag, _⟩ none :: rest => readOptions stray (Fields.put known name (.bool true)) rest
  | .option o none :: .plain s :: rest =>
    match o.read? s with
    | some v => readOptions stray (Fields.put known o.name v) rest
    | none => .error .misread
  | .option _ none :: _ => .error .misread

/-- Reads the arguments of a command. A command that is asked for help shows `help` and ends with code zero. -/
def commandOptions (options : List CommandOption) (help : List String) (args : List String) : Desk Fields := do
  let start : Fields := options.map fun o => (o.name, o.default)
  match Argument.readAll? options args with
  | none => throw (.exit 2)
  | some read =>
    match readOptions false start read with
    | .ok fields => pure fields
    | .error .misread => throw (.exit 2)
    | .error .help => do
      help.forM Console.say
      throw (.exit 0)

end QueryDesk
