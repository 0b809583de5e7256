import QueryDesk.Text.Basic

/-!
The data files that the program comes with, as texts. A request may bring files of its own instead.
-/

namespace QueryDesk.Domain.Delivered

def keyExamples : String := Text.braced r#"[
  ⟨
    "table_name": "example_table_1",
    "foreign_keys": [
      ⟨
        "foreign_key": "CompanyID",
        "primary_key_table": "tb_Company"
      ⟩,
      ⟨
        "foreign_key": "UserID",
        "primary_key_table": "tb_Users"
      ⟩
    ]
  ⟩,
  ⟨
    "table_name": "example_table_2",
    "foreign_keys": [
      ⟨
        "foreign_key": "ParentID",
        "primary_key_table": "example_table_1"
      ⟩
    ]
  ⟩
]
"#

/-- The entry of a table that has a key of the table before it. -/
def keyOfPrevious (n : Nat) : String := String.join [
  s!"\x7b\"table_name\": \"tb_T{n + 1}\", \"foreign_keys\": [\x7b\"foreign_key\": \"T{n}ID\", ",
  s!"\"primary_key_table\": \"tb_T{n}\", \"primary_key_column\": \"ID\", \"column_name\": \"T{n}ID\", ",
  s!"\"foreign_table_name\": \"tb_T{n}\", \"foreign_column_name\": \"ID\"\x7d]\x7d"]

def keys : String := "[" ++ ", ".intercalate ((List.range 23).map keyOfPrevious) ++ "]"

def guidanceExamples : String := Text.braced r#"⟨
  "domain": "Your Domain Name (e.g., Cyber Security, Healthcare, Finance)",
  "terminology_mappings": ⟨
    "term1": ⟨
      "refers_to": "What this term means in your domain",
      "primary_table": "main_table_name",
      "description": "Detailed description of when users use this term",
      "related_tables": ["related_table1", "related_table2"]
    ⟩,
    "term2": ⟨
      "refers_to": "Another domain-specific term",
      "primary_table": "another_table",
      "description": "How this term relates to your database"
    ⟩
  ⟩,
  "common_queries": ⟨
    "query_pattern_1": "Guidance on how to interpret this type of question",
    "query_pattern_2": "Guidance on table joins or filters needed"
  ⟩,
  "important_fields": ⟨
    "FieldName1": "Description and format of this important field",
    "FieldName2": "Typical values or ranges for this field"
  ⟩,
  "default_behaviors": ⟨
    "behavior_1": "Default assumption when users ask vague questions",
    "time_relevance": "How to handle 'recent' or time-based queries"
  ⟩
⟩
"#

def questionExamples : String := Text.braced r#"[
  ⟨
    "question": "Example user question about your domain",
    "sql": "SELECT column1, column2 FROM table_name WHERE condition = 'value'",
    "description": "What this query demonstrates or why it's useful"
  ⟩,
  ⟨
    "question": "Another common question users might ask",
    "sql": "SELECT t1.id, t2.name FROM table1 t1 JOIN table2 t2 ON t1.fk = t2.id",
    "description": "Example of a JOIN query pattern"
  ⟩,
  ⟨
    "question": "Query with aggregation",
    "sql": "SELECT category, COUNT(*) as count FROM items GROUP BY category ORDER BY count DESC",
    "description": "Example showing aggregation and grouping"
  ⟩
]
"#

def tableExamples : String := Text.braced r#"[
  ⟨
    "table_name": "example_table_1",
    "description": "Clear description of what this table stores and its purpose",
    "primary_key": "ID"
  ⟩,
  ⟨
    "table_name": "example_table_2",
    "description": "Another table description",
    "primary_key": "UserID"
  ⟩
]
"#

def tables : String := Text.braced r#"[⟨"table_name": "tb_T0", "description": "d", "primary_key": "ID", "extra": "drop"⟩]"#

def sampleQuestions : String := Text.braced r#"⟨
    "Users and Employees": [
        "List all employees along with their email addresses and phone numbers.",
        "Show employees who report to a specific manager by their `EmployeeId`.",
        "Find employees who were hired after January 1, 2015.",
        "List all customers along with their email addresses and city.",
        "Which customers are located in the United States?"
    ],
    "Albums, Artists, and Tracks": [
        "Show all albums and their corresponding artists.",
        "List all tracks in the database along with their album names and composers.",
        "Find tracks that belong to a specific genre, like 'Rock'.",
        "List all albums that have more than 10 tracks.",
        "Find the top 5 most expensive tracks based on `UnitPrice`."
    ],
    "Invoices and Transactions": [
        "List all invoices along with their total amounts and invoice dates.",
        "Find invoices that have a total amount greater than $500.",
        "Show all invoice items for a specific `InvoiceId`.",
        "Which customers have made purchases in the last 30 days?",
        "Find the total revenue generated by each customer."
    ],
    "Genres and Media Types": [
        "List all available genres in the database.",
        "Show the number of tracks available for each media type.",
        "Find all tracks belonging to the 'Pop' genre.",
        "Which genre has the most tracks associated with it?",
        "List all media types along with the number of tracks in each type."
    ],
    "Playlists": [
        "List all playlists along with the number of tracks in each.",
        "Show all tracks in a specific playlist, like 'Rock Classics'.",
        "Find the playlist with the most tracks.",
        "List all playlists that include tracks from the 'Pop' genre.",
        "Which tracks appear in multiple playlists?"
    ],
    "Network and Configuration": [
        "Show all customer billing addresses grouped by country.",
        "List all customers and their associated invoices.",
        "Find the number of customers in each state.",
        "Show the number of invoices processed per day over the past month.",
        "List customers who have an unpaid invoice."
    ],
    "Data Summary and Analytics": [
        "Find the total number of tracks in the database.",
        "Which artist has produced the most albums?",
        "List the top 5 customers based on the total revenue they’ve generated.",
        "Find the average price of tracks in each genre.",
        "Show the total number of tracks, albums, and artists in the database."
    ],
    "Advanced Prompts": [
        "List all tracks with their genres, albums, and artists in a single result.",
        "Find customers who have purchased tracks from multiple genres.",
        "Show the total revenue broken down by genre and media type.",
        "List employees and the total sales they’ve generated based on invoices.",
        "Find the longest track in the database, including its genre and album."
    ]
⟩"#

def files : List (String × String) := [
  ("domain_specific_guidance/domain-specific-foreign-keys.example.json", keyExamples),
  ("domain_specific_guidance/domain-specific-foreign-keys.json", keys),
  ("domain_specific_guidance/domain-specific-guidance-instructions.example.json", guidanceExamples),
  ("domain_specific_guidance/domain-specific-sample-queries.example.json", questionExamples),
  ("domain_specific_guidance/domain-specific-table-metadata.example.json", tableExamples),
  ("domain_specific_guidance/domain-specific-table-metadata.json", tables),
  ("test-db-queries.json", sampleQuestions)]

end QueryDesk.Domain.Delivered
