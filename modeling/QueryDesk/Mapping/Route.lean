import QueryDesk.Mapping.Steps
import QueryDesk.Service.Runner

/-!
Where the work on references goes next.
-/

namespace QueryDesk.Mapping

inductive Station where
  | start
  | loadNextRow
  | findCandidates
  | evaluateAmbiguity
  | autoSelect
  | requestDecision
  | recordDecision
  | finalize
  deriving DecidableEq, Inhabited

def Station.label : Station → String
  | start => "initialize"
  | loadNextRow => "load_next_row"
  | findCandidates => "find_candidates"
  | evaluateAmbiguity => "evaluate_ambiguity"
  | autoSelect => "auto_select"
  | requestDecision => "request_decision"
  | recordDecision => "record_decision"
  | finalize => "finalize"

def Station.all : List Station := [start, loadNextRow, findCandidates, evaluateAmbiguity, autoSelect,
  requestDecision, recordDecision, finalize]

def fromStart (state : Value) : Desk Station := do
  let _ ← Workbook.isPresent (← state.field "excel_path")
  pure .start

/-- A decision that is made already is recorded, a clear winner is taken, and otherwise a person is asked. -/
def afterEvaluation (state : Value) : Attempt Station := do
  if (← state.get "decision_type").truthy then return .recordDecision
  return if ← (← state.field "score_gap").atLeast (← state.field "threshold") then .autoSelect
    else .requestDecision

def afterRecord (state : Value) : Attempt Station := do
  if (← state.get "user_quit").truthy then return .finalize
  return if (← state.get "has_next_row").truthy then .loadNextRow else .finalize

/-- The station after a station; none at the end. -/
def nextStation (station : Station) (state : Value) : Attempt (Option Station) :=
  match station with
  | .start => .ok (some .loadNextRow)
  | .loadNextRow => .ok (some .findCandidates)
  | .findCandidates => .ok (some .evaluateAmbiguity)
  | .evaluateAmbiguity => do return some (← afterEvaluation state)
  | .autoSelect => .ok (some .recordDecision)
  | .requestDecision => .ok (some .recordDecision)
  | .recordDecision => do return some (← afterRecord state)
  | .finalize => .ok none

def Station.run (index : Option SearchIndex) : Station → Value → Desk Value
  | start => prepare
  | loadNextRow => Mapping.loadNextRow
  | findCandidates => Mapping.findCandidates index
  | evaluateAmbiguity => Mapping.evaluateAmbiguity
  | autoSelect => Mapping.autoSelect
  | requestDecision => Mapping.requestDecision
  | recordDecision => Mapping.recordDecision
  | finalize => Mapping.finalize

def branches : List (String × (Value → Desk Station)) := [("route_from_start", fromStart),
  ("route_after_evaluate", fun s => afterEvaluation s), ("route_after_record", fun s => afterRecord s)]

def ways : List (Station × Station) := [(.start, .loadNextRow), (.loadNextRow, .findCandidates),
  (.findCandidates, .evaluateAmbiguity), (.autoSelect, .recordDecision), (.requestDecision, .recordDecision)]

def wiring : Wiring where
  stations := Station.all.map fun s => (s.label, s.label ++ "_node")
  ways := (ways.map fun w => (w.1.label, w.2.label)) ++ [(Station.finalize.label, Wiring.finish)]
  branches := [(Wiring.start, "route_from_start"), (Station.evaluateAmbiguity.label, "route_after_evaluate"),
    (Station.recordDecision.label, "route_after_record")]
  settings := ["checkpointer"]

end QueryDesk.Mapping
