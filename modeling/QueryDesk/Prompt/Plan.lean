import QueryDesk.Plan.Form
import QueryDesk.Prompt.PlanFromStrategy
import QueryDesk.Prompt.PlanModes
import QueryDesk.Prompt.PlanRules

/-!
The prompts for a plan. Each is a pair: what the model is told, and what it is asked. The prompt for small models
holds the schema and needs no second message.
-/

namespace QueryDesk.Prompt

def planBrief : String := Text.braced r#"# Query Planning Assistant

We're building a SQL query assistant that converts natural language questions into SQL queries.
Your job is to analyze the user's question and create a structured query plan that identifies
which tables, columns, joins, and filters are needed.

**Current Date:** «current_date»

## What Happens Next

Your plan will be sent to a deterministic join synthesizer that converts it into SQL.
The synthesizer uses your exact specifications to build the query - so precision matters!

# RULES

### 1. Exact Names
Use table/column names EXACTLY as shown in schema. Never invent names.

### 2. Specify Joins
If 2+ tables selected, add `join_edges` with columns:
```json
⟨"from_table": "X", "from_column": "XID", "to_table": "Y", "to_column": "ID"⟩
```

### 3. Include Lookup Tables
When selecting foreign key columns (CompanyID, UserID, etc.):
- Include the related table to get human-readable names
- Add join edge to connect them

### 4. Join-Only Tables
Tables needed only for connecting (not data): set `include_only_for_join = true`

### 5. Decision Field
- **"proceed"**: You found relevant tables and created a plan → USE THIS
- **"clarify"**: Query is answerable but has ambiguities (use `ambiguities` field to list questions)
- **"terminate"**: Query is COMPLETELY impossible, zero relevant tables → RARE

**CRITICAL**: If you wrote ANY `selections` or `join_edges`, you MUST use `decision="proceed"` or `decision="clarify"`, NOT "terminate".

### 6. ORDER BY and LIMIT
For "last N", "top N", "first N" queries, use `order_by` and `limit`:
- "Last 10 logins" → `order_by: [⟨"table": "tb_Logins", "column": "LoginDate", "direction": "DESC"⟩], limit: 10`
- "Top 5 customers" → `order_by: [⟨"table": "tb_Customers", "column": "Revenue", "direction": "DESC"⟩], limit: 5`
- "Last" / "Most recent" → DESC, "First" / "Oldest" → ASC

### 7. Date Filters
For relative date queries ("last 30 days", "past week"):
- Use ISO format: `YYYY-MM-DD` (e.g., `2025-10-31`)
- Calculate dates from current date shown above
- Example: "last 30 days" → `⟨"op": ">=", "value": "2025-10-01"⟩` (30 days before «current_date»)
- For datetime columns, use `YYYY-MM-DD HH:MM:SS` format

# DOMAIN GUIDANCE

«domain_guidance»

# USER QUERY

"«user_query»"

# DATABASE SCHEMA

«schema»

# PARAMETERS

«parameters»"#

abbrev Pair := String × String

/-- The prompt for a plan from a schema; `mode` says whether the last plan is changed or replaced. -/
def plan (tier : Plan.Tier) (mode : Value) (slots : Fields) : Attempt Pair := do
  if tier == .minimal then return (← Text.fill slots planBrief, "")
  let (beginning, question) :=
    if mode == "update" then (planUpdate, askUpdate)
    else if mode == "rewrite" then (planRewrite, askRewrite)
    else (planInitial, askInitial)
  let told ← Text.fill slots (beginning ++ "\n" ++ planRules)
  return (told, ← Text.fill slots question)

def planFromStrategy (tier : Plan.Tier) (slots : Fields) : Attempt Pair := do
  let (told, question) := match tier with
    | .minimal => (fromStrategyMinimal, strategyTo "PlannerOutputMinimal")
    | .standard => (fromStrategyStandard, strategyTo "PlannerOutputStandard")
    | .full => (fromStrategyFull, strategyTo "PlannerOutput")
  return (told, ← Text.fill slots question)

end QueryDesk.Prompt
