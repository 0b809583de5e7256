import QueryDesk.Document.Access

/-!
Texts with slots, and the passages that the prompts for a strategy share. A slot is a name between « and »; filling
a text puts a value's text in the place of each slot, and fails at the first slot that has no value.
-/

namespace QueryDesk.Text

/-- Fills the slots along a text. `name` holds the open slot's name, reversed. -/
def fillFrom (slots : Fields) : Option (List Char) → List Char → Attempt (List Char)
  | none, [] => .ok []
  | some _, [] => .ok []
  | none, c :: rest =>
    if c == '«' then fillFrom slots (some []) rest
    else do return c :: (← fillFrom slots none rest)
  | some name, c :: rest =>
    if c == '»' then do
      let key := String.ofList name.reverse
      match slots.lookup key with
      | some v => do return v.display.toList ++ (← fillFrom slots none rest)
      | none => throw (Value.absent key)
    else fillFrom slots (some (c :: name)) rest

def fill (slots : Fields) (template : String) : Attempt String := do
  return String.ofList (← fillFrom slots none template.toList)

end QueryDesk.Text

namespace QueryDesk.Prompt

def lastOrRecent : List String := [r#"**Current Date:** «current_date»

## ⚠️ CRITICAL: "Last N" vs "Last N Days" Pattern

**These are COMPLETELY DIFFERENT queries:**

❌ **WRONG:** "Show me the last 5 CVEs"
→ Interpreted as: "CVEs from the last 5 days" (date filter)
→ Filter: PublishDate >= current_date - 5 days

✅ **CORRECT:** "Show me the last 5 CVEs"
→ Interpreted as: "The 5 most recent CVEs" (row limit)
→ ORDER BY PublishDate DESC + LIMIT 5

**Pattern Recognition:**
- "last N [records]" = ORDER BY timestamp DESC + LIMIT N
- "last N days/weeks/months" = date filter
- "most recent N" = ORDER BY timestamp DESC + LIMIT N
- "first N" = ORDER BY timestamp ASC + LIMIT N
- "top N by [metric]" = ORDER BY metric DESC + LIMIT N
"#]

/-- How to find the table of a column and its exact name: the steps of the example that end with the join, the words
for a guess, and those for the name of the table in front. -/
def tableOwnership (joining : List String) (guessing qualifying : String) : List String := [r#"## ⚠️ CRITICAL: Table Ownership Verification

**You MUST verify which table each column belongs to!**

### Step-by-Step Process:

1. **User mentions a concept** (e.g., "processor cores", "company name", "memory")
2. **Search schema for matching columns** (e.g., "NumberOfCores", "Name", "TotalPhysicalMemory")
3. **VERIFY which table contains each column** - Don't assume!
   ❌ WRONG: "I found NumberOfCores, it must be in tb_SaasComputers"
   ✅ CORRECT: "Let me check... NumberOfCores is in tb_SaasComputerProcessorDetails"
4. **Use the correct table.column reference**

### Real Example:

**User asks:** "Show computers with more than 8 cores"

**Your thought process:**
1. Need to find column about processor cores
2. Search schema for "core", "processor", "cpu"
3. Found: NumberOfCores in table tb_SaasComputerProcessorDetails ← NOT tb_SaasComputers!
4. Decision: Use tb_SaasComputerProcessorDetails.NumberOfCores"#] ++ joining ++ [r#"
### Common Mistakes:

❌ **Assuming columns are in the "main" table:**
- tb_SaasComputers is about computers, so processor info must be there? NO!
- Processor details are in tb_SaasComputerProcessorDetails (separate detail table)

❌ **Not checking detail/junction tables:**
- Many databases split data into main tables and detail tables
- Always check tables with suffixes like "Details", "Map", "Info"

## ⚠️ CRITICAL: Column Name Accuracy

**The database schema is your ONLY source of truth for column names.**
"#,
  s!"❌ **WRONG:** Guessing column names{guessing}",
  r#"- User asks for "company name" → You write "tb_Company.CompanyName" (doesn't exist!)
- User asks for "company ID" → You write "tb_Company.CompanyID" (doesn't exist!)

✅ **CORRECT:** Using EXACT column names from schema
- Schema shows: `tb_Company.Name` → Use "tb_Company.Name"
- Schema shows: `tb_Company.ID` → Use "tb_Company.ID"

**Common Mistakes to Avoid:**
1. **Don't invent column names** - Even if they seem logical, check the schema
2. **Primary keys vs Foreign keys** - Foreign keys often have different names
   - Example: `tb_SaasPendingPatch.CompanyID` joins to `tb_Company.ID` (NOT CompanyID!)
3. **Case sensitivity** - Use the exact case from schema"#,
  s!"4. **Table prefixes** - Always specify{qualifying}: `tb_Company.Name` not just `Name`",
  "5. **Verify table ownership** - For EACH column, confirm it's in the table you're referencing
"]

def typesIncluded : List String := ["**⚠️ CRITICAL: Always Include Data Types**
- Whenever you reference a column, add its data type in parentheses
- This prevents type mismatches (e.g., filtering INTEGER column with VARCHAR value)
- Format: table.column (DATA_TYPE)
- Example: tb_CDA.CDAID (INTEGER), tb_CDA.CDAName (VARCHAR)
"]

/-- Columns that are shown are told from those that are only counted. -/
def shownOrCounted : List String := ["**⚠️ CRITICAL: Distinguish Between Display and Aggregation Columns!**
- **Display columns** go in SELECT and GROUP BY: user sees these values
- **Aggregation columns** are ONLY used in COUNT/SUM/AVG: user sees the aggregated result
- Example for \"Count employees per department\":
  - Display: tb_Department.DepartmentName, tb_Department.DepartmentID (shown in results)
  - Aggregation: tb_Employee.EmployeeID (counted, not shown individually)
  - Result: Each department name with its employee count
"]

def strategyGiven : List String := ["# DOMAIN GUIDANCE

«domain_guidance»

# DATABASE SCHEMA

«schema»

# PARAMETERS

«parameters»"]

end QueryDesk.Prompt
