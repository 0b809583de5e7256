import QueryDesk.Service.Desk

/-!
What is answered over the web.
-/

namespace QueryDesk.Web

/-- The rows of a result: a text is read, and a text that is no document has none. -/
def parsedResult (result : Value) : Attempt Value :=
  if !result.truthy then .ok .null
  else match result.text? with
    | none => .ok result
    | some s =>
      match Json.read s with
      | .ok v => .ok v
      | .error (.badJson _) => .ok .null
      | .error f => .error f

/-- Answers a question. Questions are answered piece by piece and a piece cannot be picked out by its name, so
the answer is always that the question could not be processed. -/
def processQuery (request : Value) : Desk Value :=
  Desk.recover (do
    for name in ["prompt", "sort_order", "result_limit", "time_filter"] do
      let _ ← request.attr name
    throw (.notSubscriptable "generator")) fun f => throw (.http 500 f.message)

def health : Value := .record [("message", "SQL Query Assistant API is running!")]

end QueryDesk.Web
