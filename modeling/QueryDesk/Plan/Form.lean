import QueryDesk.Document.Access

/-!
The forms that a planner's reply has to fit, one for each tier of detail, and what is checked beyond the
shape of a reply: tables are named once, joins only use selected tables, and a plan is either there or
given up for a reason.
-/

namespace QueryDesk.Plan

inductive Tier where
  | minimal
  | standard
  | full
  deriving DecidableEq, Inhabited

namespace Tier

def label : Tier → String
  | minimal => "minimal"
  | standard => "standard"
  | full => "full"

def form : Tier → String
  | minimal => "PlannerOutputMinimal"
  | standard => "PlannerOutputStandard"
  | full => "PlannerOutput"

def named? : String → Option Tier
  | "minimal" => some minimal
  | "standard" => some standard
  | "full" => some full
  | _ => none

/-- The tier of a word in any case; what is no tier's word means full detail. -/
def ofWord (word : String) : Tier := (named? (Text.lower word)).getD full

end Tier

/-- Of selections of the same table, in any case, the first stays. -/
def distinctTables (selections : List Value) : Attempt (List Value) := do
  let named ← selections.mapM fun s => do return (← (← s.attr "table").lowered, s)
  let kept := named.foldl (fun (kept : List (String × Value)) n =>
    if kept.any (·.1 == n.1) then kept else kept ++ [n]) []
  pure (kept.map (·.2))

def checkRange (value info : Value) : Attempt Value := do
  let op ← (← info.attr "data").get "op"
  if op == "between" then
    match value with
    | .list [_, _] => pure value
    | _ => throw (.invalid "For 'between', value must be [low, high]")
  else pure value

/-- An object with an attribute set anew. -/
def withAttr (v : Value) (name : String) (x : Value) : Value :=
  match v with
  | .entity fields dump => .entity (Fields.put fields name x) dump
  | v => v

def Tier.missingText : Tier → String
  | full => "join_edges reference tables not present in selections: "
  | _ => "join_edges reference tables not in selections: "

/-- The tables that joins use and selections lack, in order and without repetition. -/
def missingTables (selected : List String) (ends : List String) : List String :=
  ((ends.filter fun t => !selected.contains (Text.lower t)).eraseDups).mergeSort fun a b => !(b < a)

def markJoinOnly (selection : Value) : Attempt Value := do
  if (← selection.attr "columns").truthy then pure selection
  else if (← selection.attr "include_only_for_join").truthy then pure selection
  else pure (withAttr selection "include_only_for_join" (.bool true))

/-- Checks that joins only use selected tables. -/
def checkJoins (tier : Tier) (plan : Value) : Attempt Value := do
  let selections ← (← plan.attr "selections").items
  let selected ← selections.mapM fun s => do (← s.attr "table").lowered
  let ends ← (← (← plan.attr "join_edges").items).mapM fun e => do
    let a ← (← e.attr "from_table").textFor "lower"
    let b ← (← e.attr "to_table").textFor "lower"
    pure [a, b]
  match missingTables selected ends.flatten with
  | [] => do
    let marked ← selections.mapM markJoinOnly
    pure (withAttr plan "selections" (.list marked))
  | missing => throw (.invalid (tier.missingText ++ (Value.texts missing).quoted))

/-- Whether one of the named parts of a plan holds anything. -/
def holdsAny (plan : Value) : List String → Attempt Bool
  | [] => .ok false
  | part :: rest => do
    if 0 < (← (← plan.attr part).size) then pure true else holdsAny plan rest

def Tier.parts : Tier → List String
  | full => ["selections", "join_edges", "global_filters", "ctes"]
  | _ => ["selections", "join_edges", "global_filters"]

/-- The wording for a plan that is given up although it is there. -/
def Tier.givenUpText : Tier → String
  | full => "Invalid use of decision='terminate': A query plan was created with tables/joins/filters. " ++
      "Use decision='proceed' instead. Only use 'terminate' when the query is completely " ++
      "impossible and you have ZERO relevant tables or plan structure."
  | _ => "Invalid use of decision='terminate': You created a plan with tables/joins/filters. " ++
      "Use decision='proceed' instead. Only use 'terminate' when the query is completely " ++
      "impossible and you have ZERO relevant tables."

def Tier.noReasonText : Tier → String
  | full => "decision='terminate' requires a termination_reason explaining why the query is impossible"
  | _ => "decision='terminate' requires a termination_reason explaining why"

def Tier.emptyText (tier : Tier) (decision : String) : String :=
  match tier with
  | minimal => "decision='proceed' requires at least 1 table in selections"
  | standard => s!"decision='{decision}' requires at least 1 table in selections"
  | full => s!"decision='{decision}' requires at least 1 table in selections. " ++
      "If the query is impossible, use decision='terminate' instead."

def checkDecision (tier : Tier) (plan : Value) : Attempt Value := do
  let decision ← plan.attr "decision"
  if decision == "terminate" then
    let planned ← if ← holdsAny plan tier.parts then pure true
      else do pure (!(← plan.attr "group_by").isNull)
    if planned then throw (.invalid tier.givenUpText)
    if !(← plan.attr "termination_reason").truthy then throw (.invalid tier.noReasonText)
    pure plan
  else
    if (← (← plan.attr "selections").size) == 0 then throw (.invalid (tier.emptyText decision.display))
    pure plan

end QueryDesk.Plan
