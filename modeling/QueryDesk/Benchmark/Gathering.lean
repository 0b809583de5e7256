import QueryDesk.Document.Access

/-!
What is gathered about a run of a model: some of it belongs to the run, and some of it to all runs of a
series together. The lists of tables, columns, joins, filters and aggregations and the counts of tokens are
shared: whatever one run adds, every run of the series reports.
-/

namespace QueryDesk.Benchmark

structure Shared where
  tables : List Value := []
  columns : List Value := []
  joins : List Value := []
  filters : List Value := []
  aggregations : List Value := []
  inputTokens : Value := .int 0
  outputTokens : Value := .int 0
  totalTokens : Value := .int 0

structure Collector where
  model : Value
  query : Value
  timestamp : String
  success : Bool := false
  sql : Value := ""
  error : Value := .null
  retries : Value := .int 0
  refinements : Value := .int 0
  rowCount : Value := .null

/-- A series of runs: what they share, and the run at hand. -/
structure Gathering where
  shared : Shared := {}
  collector : Option Collector := none

end QueryDesk.Benchmark
