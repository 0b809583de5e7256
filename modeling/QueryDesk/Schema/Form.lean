import QueryDesk.Document.Access

/-!
The form of a schema: how the parts of a column's description are read, and how tables and columns are
found by name.
-/

namespace QueryDesk.Schema

/-- Whether a column may be empty: said by a word or a truth value; what is not said counts as yes. -/
def nullable (v : Value) : Bool :=
  match v with
  | .bool b => b
  | .null => true
  | v =>
    let word := Text.lower (Text.trim v.display)
    if ["yes", "y", "true", "1"].contains word then true
    else if ["no", "n", "false", "0"].contains word then false
    else v.truthy

def typeName (v : Value) : Attempt String := do
  if v.truthy then return Text.lower (Text.trim (← v.textFor "strip")) else pure ""

def bareName (v : Value) : Attempt String := do return Text.trim (← v.textFor "strip")

def tableNamed (name : Value) (schema : Value) : Attempt Value := do
  let wanted := Text.lower (Text.trim (← name.textFor "strip"))
  let rec go : List Value → Attempt Value
    | [] => .ok .null
    | t :: rest => do
      if (← (← t.attr "table_name").lowered) == wanted then pure t else go rest
  go (← (← schema.attr "root").items)

/-- Items under the name that an attribute gives them; of equal names the last stays. -/
def indexed (part name : String) (v : Value) : Attempt Value := do
  let entries ← Keyed.collect (fun t => do return (← t.attr name, t)) (← (← v.attr part).items)
  pure (Keyed.record id entries)

end QueryDesk.Schema
