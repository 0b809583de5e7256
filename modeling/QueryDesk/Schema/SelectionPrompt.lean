import QueryDesk.Document.Access

/-!
The prompt with which a model is asked to choose, from candidate tables, those that a question needs, and
the columns it needs of each.
-/

namespace QueryDesk.Schema

def guidancePart (guidance : Value) : String :=
  if guidance.truthy then
    let text := guidance.display
    Text.setIn 2 (Text.lines "## Domain-Specific Guidance

The following domain-specific guidance will help you understand the database structure,
terminology, and common query patterns for this domain:
" ++ [s!"{text}", "", "---"])
  else ""

def selectionTask (guidance : String) : String :=
  Text.trim (Text.block 2 (Text.lines "# Schema Filtering Assistant

We're building a SQL query assistant that converts natural language questions into SQL queries.
To optimize performance and accuracy, we need to identify which database tables and columns
are truly relevant to answering each user question.

## The Problem We're Solving

Our database has many tables with hundreds of columns. Sending all this information to the
query planner overwhelms it with irrelevant context, leading to:
- Slower processing
- Higher API costs
- Increased chance of errors
- Difficulty focusing on what matters

## What We Need Help With

We've already used vector similarity search to narrow down to candidate tables that might be
relevant. Now we need your help to:

1. **Determine which tables are actually needed** for this specific query
2. **Select only the relevant columns** from each table
" ++ [s!"{guidance}"] ++ Text.lines r#"
## Guidelines for Column Selection

**CRITICAL CONSTRAINT:** You MUST only select columns from the exact "Available columns"
list shown for each table. Do NOT invent, suggest, or assume column names that aren't
explicitly listed. Use the EXACT column names as shown (preserve casing).

Please be selective and only include columns that are:
- **Displayed in output** - Information the user explicitly wants to see
- **Human-readable identifiers** - User-facing names, labels, descriptions (e.g., CDAName, Vendor, ProductName)
- **Used for filtering** - Columns users might reference in queries (not just internal IDs)
- **Used for aggregation** - Columns needed in COUNT, SUM, AVG, etc.
- **Used for sorting** - Columns needed in ORDER BY
- **Required for joins** - Foreign key columns that connect tables

**IMPORTANT - Include Display Columns:**
When selecting columns, prioritize human-readable columns over internal IDs:
- ✅ Include: CDAName, Vendor, ProductName, Description (user-facing identifiers)
- ⚠️ Also include: CDAID, ProductID (needed for joins/relationships)
- Don't rely solely on primary keys - users reference things by name, not ID

**Example:**
If a table shows: "Available columns: ID, ScanID, ComputerID, Name, Description"
Then you can ONLY select from: ID, ScanID, ComputerID, Name, Description
You CANNOT select: computer_id, scan_id, DeviceName, or any other columns not in the list."#))

def candidateSummary (name : Value) (table : Value) : Attempt String := do
  let facts ← table.getD "metadata" (.record [])
  let about ← facts.getD "description" "No description available"
  let keys ← facts.getD "key_columns" (.list [])
  let columns ← (← table.getD "columns" (.list [])).items
  let names ← columns.filterMapM fun c => do
    let column ← c.get "column_name"
    pure (if column.truthy then some column else none)
  let keyLine ← if keys.truthy then do
      let joined := Text.join ", " (← Value.textItems (← keys.items))
      pure s!"Key columns: {joined}\n"
    else pure ""
  let columnLine ← if names.isEmpty then pure "" else do
      let joined := Text.join ", " (← Value.textItems names)
      pure s!"Available columns: {joined}"
  pure (s!"**{name.display}**\nDescription: {about.display}\n" ++ keyLine ++ columnLine)

def selectionQuestion (question : String) (summaries : List String) : String :=
  let listed := Text.joinLines (summaries.zipIdx.map fun (s, i) => s!"### {i + 1}. {s}")
  Text.trim (Text.block 2 (["## User's Question", "", s!"{question}"] ++ Text.lines "
## Candidate Tables
" ++ [s!"{listed}"] ++ Text.lines r#"
---

## Your Task

For each candidate table above, please provide:

1. **Relevance Assessment** - Is this table needed to answer the user's question?
2. **Column Selection** - Which specific columns from the "Available columns" list are required?
   - ONLY select from the exact columns listed in "Available columns" for each table
   - Use the EXACT column names as shown (preserve casing)
   - Do NOT invent or suggest columns not in the list
3. **Reasoning** - Brief explanation of your decision

Remember: Be liberal and include the table or column, but ONLY select from available columns."#))

end QueryDesk.Schema
