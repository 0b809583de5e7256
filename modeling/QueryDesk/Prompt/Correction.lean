import QueryDesk.Text.Basic

/-!
The prompt that asks for a better strategy after a statement that the database refused, and the remarks
that a strategy gets when it is doubtful.
-/

namespace QueryDesk.Prompt

def correction (question error tables format schema previous : String) : String :=
  Text.trim (Text.block 2 (Text.lines "# Fix SQL Error - Generate Corrected Strategy

## What Happened" ++ [s!"User asked: \"{question}\"", s!"SQL query failed with error: {error}"] ++ Text.lines r#"
## Your Task
Generate a CORRECTED STRATEGY that fixes this error. Your strategy will go directly to the planner.

## STEP-BY-STEP WORKFLOW (Follow exactly in this order)

### STEP 1: Identify What Went Wrong
Analyze the error message. Common issues:
- "Invalid column name 'X'" → Column doesn't exist in that table
- "Multi-part identifier 'tb_Table.Column' not bound" → Table not joined yet or column doesn't exist
- "Invalid object name 'tb_Table'" → Table doesn't exist in schema
- "Column 'X' is invalid in the ORDER BY clause" → When using GROUP BY, you MUST order by either:
  1. A column in the GROUP BY clause (e.g., Product, Vendor), OR
  2. An aggregate alias (e.g., CriticalVulnerabilityCount), NOT the raw aggregated column
- "Column 'X' is invalid in the select list" → Column must be in GROUP BY or wrapped in aggregate function

### STEP 2: List Available Columns for Each Table
**Before suggesting ANY join, list out the actual columns available in each table you want to use.**

For each table mentioned in the error or needed for the query:
1. Find it in the schema below
2. Write out its ACTUAL columns (copy from schema)
3. Check Foreign Keys section for join relationships
"# ++ [s!"**Available Tables:** {tables}", "", "**Database Schema:**", s!"```{format}", schema] ++ Text.lines r#"```

### STEP 3: Construct Valid Joins
Using ONLY the columns you listed in Step 2:
- Match Foreign Key columns to Primary Keys (usually "ID")
- Example: tb_SaasComputers.CompanyID → tb_Company.ID
- NEVER use columns that don't exist in the table

### STEP 4: Generate Corrected Strategy
Write the complete strategy with:
- **Tables**: Which tables to use
- **Columns**: Which columns to select (verify they exist!)
- **Joins**: Using actual FK relationships
- **Filters**: Any WHERE conditions
- **Aggregations**: GROUP BY if needed
- **Ordering**: ORDER BY if needed
  - ⚠️ When using GROUP BY: Order by the AGGREGATE ALIAS (e.g., "CriticalVulnerabilityCount"), NOT the raw column
  - Example: "Order by CriticalVulnerabilityCount DESC" → NOT "Order by COUNT(tb_CVE.CVEID) DESC"
- **Limiting**: Result limit if needed

## CRITICAL RULES
1. ⚠️ ONLY use tables from "Available Tables" list above
2. ⚠️ ONLY use columns that ACTUALLY EXIST in the table (check schema!)
3. ⚠️ For joins, use Foreign Key relationships from schema
4. ⚠️ Most table PKs are named "ID" (not TableNameID)
5. ⚠️ When ordering by aggregates (COUNT, SUM, AVG): Use the aggregate ALIAS, not the raw column name
6. ⚠️ Preserve the user's intent - just fix the technical errors

## OUTPUT
Write ONLY the corrected strategy in markdown format (no explanation, no preamble).
Use the same sections as this previous strategy:

```"# ++ [previous, "```"]))

def unknownTablesRemark (unknown known : String) : String :=
  Text.trim (Text.block 4 [
    "",
    "⚠️ **VALIDATION ERROR DETECTED** ⚠️",
    "The revised strategy references tables that DO NOT EXIST in the schema:",
    unknown,
    "",
    "Available tables in schema:",
    known,
    "",
    "**ACTION REQUIRED:** Remove or replace non-existent tables before proceeding."])

/-- The strategy as it was, when no better one could be had. -/
def uncorrected (previous reason error : String) : String :=
  Text.trim (Text.block 3 [
    previous,
    "",
    "---",
    "",
    "**ERROR CORRECTION NOTE:**",
    s!"Failed to generate revised strategy due to: {reason}",
    s!"SQL Error: {error}",
    "Please review schema and ensure correct table/column names are used."])

/-! ### After a statement that found no rows -/

/-- Asks for a strategy that finds rows. -/
def refinement (question previous statement format schema attempts : String) : String :=
  Text.trim (Text.block 2 (Text.lines "# Generate Refined Strategy from Empty Results

## System Overview

We're building a SQL query assistant that converts natural language to SQL queries.
The system uses a **two-stage planning approach**:

1. **Pre-Planner** (stage 1) - Creates a text-based strategic plan for NEW queries
2. **Planner** (stage 2) - Converts strategy to structured JSON
3. **SQL Generator** - Deterministically converts JSON to SQL

**Your Role:** You're the **query refinement strategist**. A query was executed successfully
but **returned zero results**. Generate a REFINED STRATEGY that should return results.
Your output will go DIRECTLY to the planner (skip pre-planner).

**Important:** Generate a COMPLETE refined strategy in the same format as the original strategy below.
This is NOT feedback - this IS the refined strategy that will be converted to JSON.

---

## User's Original Question
```" ++ [question] ++ Text.lines "```

## Previous Strategy (Returned No Results)
```" ++ [previous] ++ Text.lines "```

## Generated SQL Query (from previous strategy)
```sql" ++ [statement] ++ Text.lines "```

**Result:** Query executed successfully but returned 0 rows

## Database Schema (Reference for Refinements)" ++ [s!"```{format}", schema] ++ Text.lines "```

## Previous Refinement Attempts" ++ [attempts] ++ Text.lines r#"
---

## Your Task

Generate a REFINED STRATEGY that should return results. Use the EXACT format of the original strategy above.

**Critical Requirements:**

0. **VERIFY table ownership for EVERY column** (TOP PRIORITY):
   a) Before using ANY column, find it in the schema above
   b) Note which SPECIFIC table contains that column
   c) Use the EXACT table.column reference from schema
   d) Common mistake: Assuming columns are in the "main" table
   e) Reality: Check detail tables (tables with suffixes like "Details", "Map", "Info")

   **Example Process:**
   - Query failed with no results for "items with specific attribute"
   - Step 1: Search schema above for columns related to "attribute"
   - Step 2: Find which table actually contains the relevant column (check ALL tables)
   - Step 3: If found in tb_DetailTable (NOT tb_MainTable!), use tb_DetailTable.AttributeColumn
   - Step 4: If tb_DetailTable is not in the filtered schema above, DO NOT use it. Find an alternative.
   - Step 5: Add necessary join: tb_MainTable.ID = tb_DetailTable.ForeignKeyID

   **CRITICAL:** Only use tables that appear in the schema above!

1. **Preserve user intent**: Don't change WHAT the user asked for, only adjust HOW to find it

2. **Broaden the approach**: Common adjustments that help find results:
   - Use LIKE patterns instead of exact matches
   - Broaden date/time filters
   - Remove overly restrictive conditions
   - Simplify complex joins
   - Check for NULL handling
   - Try related tables if current ones have no data

3. **Verify columns exist**: Before using ANY column:
   a) Find the table in the schema above
   b) Check the table's actual columns
   c) Confirm the column EXISTS in that list

4. **Verify joins**: Ensure joins use correct foreign key relationships from schema

5. **ZERO tolerance for hallucinations**: NEVER use a column that doesn't appear in the schema

6. **Keep same format**: Use the same markdown structure, headings, and sections as the original strategy

**Common No-Results Fixes:**
- Too restrictive filters → Broaden filter conditions or use LIKE patterns
- Wrong column names → Use correct column names from schema
- Wrong table selection → Try related tables that might have the data
- NULL value handling → Add IS NOT NULL or COALESCE
- Too many joins → Simplify join structure
- Wrong join columns → Use correct FK relationships from schema
- Time filters too narrow → Broaden time range

**Output Format:**
Generate a complete refined strategy in markdown format with these sections:
- **Tables**: List of tables needed
- **Columns**: List of columns to select/filter
- **Joins**: How tables connect (use FK relationships from schema)
- **Filters**: Conditions to apply (consider broadening these)
- **Aggregations**: Any grouping/aggregation needed
- **Ordering**: How to sort results
- **Limiting**: Result limit

**IMPORTANT:**
- Output ONLY the refined strategy text (no preamble, no "here's the strategy")
- Use the EXACT same format as the original strategy above
- Verify ALL columns exist in the schema before including them
- Focus on broadening filters or trying related tables to find results"#))

def unrefined (previous reason : String) : String :=
  s!"{previous}\n\n---\n\n**REFINEMENT NOTE:**\nFailed to generate refined strategy due to: {reason}\n" ++
    "Query returned 0 rows. Consider broadening filters or checking table/column selections."

end QueryDesk.Prompt
