import QueryDesk.Domain.Files
import QueryDesk.Plan.Form

/-!
What a state says about the question at hand: the schema to answer it from, the restrictions that the
person chose, and the day on which it is asked.
-/

namespace QueryDesk.Workflow

def schemaInUse (state : Value) : Attempt Value := do
  let schema := (← state.get "truncated_schema").orElse (← state.get "filtered_schema")
  if schema.truthy then pure schema else state.field "schema"

def schemaText (markdown schema : Value) : Attempt Value := do
  if markdown.truthy then pure markdown else return .text (← Json.write .page schema)

/-- The restrictions that the person chose, in words. -/
def restrictionsText (state : Value) : Attempt String := do
  let order ← state.field "sort_order"
  let limit ← state.field "result_limit"
  let time ← state.field "time_filter"
  let ordered := if order == "Default" then [] else [s!"- Sort order: {order.display}"]
  let limited := if ← limit.isPositive then [s!"- Result limit: {limit.display}"] else []
  let timed := if time == "All Time" then [] else [s!"- Time filter: {time.display}"]
  let lines := ordered ++ limited ++ timed
  pure (if lines.isEmpty then "No additional parameters" else Text.joinLines lines)

def today : Desk String := do return Text.take (← read).now 10

def tierInUse : Desk Plan.Tier := do return .ofWord (← Desk.env "PLANNER_COMPLEXITY" "full")

def tierNamed (word : Value) : Desk Plan.Tier := do
  if word.isNull then return ← tierInUse
  let word ← word.hashable
  match word.text?.bind Plan.Tier.named? with
  | some tier => pure tier
  | none => throw (.missingKey word.display word.quoted)

end QueryDesk.Workflow
