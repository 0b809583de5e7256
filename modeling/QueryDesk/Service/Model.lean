import QueryDesk.Service.Desk

/-!
Which language model answers, and how it is asked. A model runs locally or at one of two providers; each
stage of the work may name its own model, and an alias stands for a provider's full name.
-/

namespace QueryDesk.Model

inductive Provider where
  | openai
  | anthropic
  deriving DecidableEq, Inhabited

def Provider.label : Provider → String
  | openai => "openai"
  | anthropic => "anthropic"

inductive Routing where
  | fixed (provider : Provider)
  | byName
  deriving DecidableEq, Inhabited

def Routing.label : Routing → String
  | fixed p => p.label
  | byName => "auto"

def registry : List (String × Provider × String) := [
  ("claude-sonnet-4-5", .anthropic, "claude-sonnet-4-5-20250929"),
  ("claude-haiku-4-5", .anthropic, "claude-haiku-4-5-20251001"),
  ("claude-opus-4-1", .anthropic, "claude-opus-4-1-20250805"),
  ("gpt-5", .openai, "gpt-5"),
  ("gpt-5-mini", .openai, "gpt-5-mini"),
  ("gpt-5-nano", .openai, "gpt-5-nano"),
  ("gpt-4o", .openai, "gpt-4o"),
  ("gpt-4o-mini", .openai, "gpt-4o-mini"),
  ("o3", .openai, "o3"),
  ("o3-mini", .openai, "o3-mini"),
  ("o1-mini", .openai, "o1-mini")]

def providerOf (name : String) : Provider × String :=
  match registry.lookup name with
  | some found => found
  | none => if Text.startsWith name "claude" then (.anthropic, name) else (.openai, name)

def providerFor (name : Value) : Attempt (Provider × String) := do
  let name ← name.hashable
  return providerOf (← name.textFor "startswith")

def isLocal : Desk Bool := do return Text.lower (← Desk.env "USE_LOCAL_LLM" "false") == "true"

def routing : Desk Routing := do
  return match Text.lower (← Desk.env "REMOTE_LLM_PROVIDER" "openai") with
    | "anthropic" => .fixed .anthropic
    | "auto" => .byName
    | _ => .fixed .openai

def stageVariable (isLocal : Bool) (stage : String) : Option String :=
  let side := if isLocal then "LOCAL_MODEL_" else "REMOTE_MODEL_"
  match stage with
  | "strategy" => some (side ++ "STRATEGY")
  | "planning" => some (side ++ "PLANNING")
  | "filtering" => some (side ++ "FILTERING")
  | "error_correction" => some (side ++ "ERROR_CORRECTION")
  | "refinement" => some (side ++ "REFINEMENT")
  | _ => none

/-- The model for a stage: its own if it has one, otherwise the model for everything. -/
def forStage (stage : Value) : Desk Value := do
  let stage ← stage.hashable
  let isLocal ← isLocal
  match stage.text?.bind (stageVariable isLocal) with
  | some variableName => do
    let own ← Desk.envValue variableName
    if own.truthy then pure own else Desk.envValue "AI_MODEL"
  | none => Desk.envValue "AI_MODEL"

def usualTemperature : Value := .float 0.3

def optional (key : String) (v : Value) : Fields := if v.isNull then [] else [(key, v)]

def construct (client : String) (options : Fields) : Desk Value := do
  Desk.send (.construct client options)
  pure (.handle client)

/-- The provider of a model that does not run locally, and the name of the model there. -/
def placed (name : Value) : Desk (Provider × Value) := do
  match ← routing with
  | .fixed p => pure (p, name)
  | .byName => do
    let found ← providerFor name
    pure (found.1, .text found.2)

def remoteChat (provider : Provider) (name temperature timeout : Value) : Desk Value :=
  match provider with
  | .anthropic =>
    construct "ChatAnthropic" ([("model", name), ("temperature", temperature),
      ("max_tokens", .int 8192)] ++ optional "timeout" timeout)
  | .openai =>
    construct "ChatOpenAI" ([("model", name), ("temperature", temperature)] ++
      optional "request_timeout" timeout)

def chat (name : Value) (temperature : Value := usualTemperature) (timeout : Value := .null) :
    Desk Value := do
  let name ← if name.isNull then Desk.envValue "AI_MODEL" else pure name
  if ← isLocal then
    let url ← Desk.env "OLLAMA_BASE_URL" "http://localhost:11434"
    construct "ChatOllama" ([("model", name), ("temperature", temperature), ("base_url", .text url)] ++
      optional "timeout" timeout)
  else
    let found ← placed name
    remoteChat found.1 found.2 temperature timeout

/-- A client whose replies are asked to fit a form. -/
def structured (form : String) (name : Value) (temperature : Value := usualTemperature)
    (timeout : Value := .int 120) : Desk Unit := do
  let _ ← chat name temperature timeout
  let options : Fields := if ← isLocal then [("method", "json_schema")] else []
  Desk.send (.structured form options)

/-- The reply to a prompt; a local model that runs out of time is asked again, up to `attempts` times in
all. -/
def patiently (prompt : Value) (timeout : Nat) (attempts : Nat) : Desk Value := do
  if ← isLocal then retry attempts else Desk.invoke prompt
where
  retry : Nat → Desk Value
    | 0 => throw (.timeout s!"LLM call timed out after {attempts} attempts (timeout={timeout}s each)")
    | n + 1 => tryCatch (Desk.invoke prompt) fun f =>
        match f with
        | .timeout _ => retry n
        | f => throw f

/-- A client that turns texts into vectors. -/
def embedding (showsProgress : Bool) : Desk Value := do
  if ← isLocal then
    let name ← Desk.env "EMBEDDING_MODEL" "sentence-transformers/all-MiniLM-L6-v2"
    Desk.send (.construct "HuggingFaceEmbeddings" [("model_name", .text name),
      ("encode_kwargs", .record [("normalize_embeddings", .bool true)]),
      ("show_progress", .bool showsProgress)])
    pure (.handle "HuggingFaceEmbeddings")
  else
    Desk.send (.construct "OpenAIEmbeddings" [("model", ← Desk.envValue "EMBEDDING_MODEL")])
    pure (.handle "OpenAIEmbeddings")

end QueryDesk.Model
