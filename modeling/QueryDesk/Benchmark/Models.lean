import QueryDesk.Document.Access

/-!
The models that are compared, and the settings each of them is run with.
-/

namespace QueryDesk.Benchmark

structure Model where
  name : String
  code : String
  isLocal : Bool
  description : String
  /-- What a million tokens cost, going in and coming out. -/
  inputCost : Float := 0
  outputCost : Float := 0

def Model.category (m : Model) : String := if m.isLocal then "local" else "remote"

def models : List Model := [
  ⟨"gpt-5", "gpt-5", false, "Latest GPT-5 model from OpenAI", 2.5, 10⟩,
  ⟨"gpt-5-mini", "gpt-5-mini", false, "Faster GPT-5 variant with larger context window", 0.15, 0.6⟩,
  ⟨"gpt-4o", "gpt-4o", false, "GPT-4 optimized model", 2.5, 10⟩,
  ⟨"gpt-4o-mini", "gpt-4o-mini", false, "Smaller, faster GPT-4o variant", 0.15, 0.6⟩,
  ⟨"llama3.1-8b", "llama3.1:8b", true, "Meta's Llama 3.1 8B parameter model", 0, 0⟩,
  ⟨"llama3-8b", "llama3:8b", true, "Meta's Llama 3 8B parameter model", 0, 0⟩,
  ⟨"qwen3-8b", "qwen3:8b", true, "Alibaba's Qwen 3 8B parameter model", 0, 0⟩,
  ⟨"qwen3-4b", "qwen3:4b", true, "Alibaba's Qwen 3 4B parameter model (smallest)", 0, 0⟩]

def model? (name : Value) : Option Model := name.text?.bind fun n => models.find? fun m => m.name == n

def categoryOf (name : Value) : String := (model? name).elim "unknown" Model.category

def commonSettings : Fields := [("USE_TEST_DB", "false"), ("ERROR_CORRECTION_COUNT", "2"),
  ("REFINE_COUNT", "1"), ("TOP_MOST_RELEVANT_TABLES", "6"), ("INFER_FOREIGN_KEYS", "false"),
  ("ENABLE_DEBUG_FILES", "true")]

def Model.settings (m : Model) : Fields :=
  [("USE_LOCAL_LLM", .text (if m.isLocal then "true" else "false")), ("AI_MODEL", .text m.code),
    ("AI_MODEL_REFINE", .text m.code), ("PLANNER_COMPLEXITY", "minimal"),
    ("EMBEDDING_MODEL", .text (if m.isLocal then "BAAI/bge-small-en-v1.5" else "text-embedding-3-small")),
    ("category", .text m.category), ("description", .text m.description)]

def settingsFor (name : Value) : Attempt Value := do
  let name ← name.hashable
  match model? name with
  | some m => return .record (commonSettings ++ m.settings)
  | none => throw (.invalid s!"Unknown model: {name.display}")

def namesWhere (isLocal : Bool) : List String := (models.filter fun m => m.isLocal == isLocal).map (·.name)

end QueryDesk.Benchmark
