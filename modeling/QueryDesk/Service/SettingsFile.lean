import QueryDesk.Document.Access

/-!
A file of settings, one `name=value` to a line; blank lines and lines that begin with a number sign say
nothing. A second file may hold the settings as they were before.
-/

namespace QueryDesk

structure SettingsFile where
  path : String := ".env"
  text : Option String := none
  backup : Option String := none
  before : Fields := []

namespace SettingsFile

def setting? (line : String) : Option (String × Value) :=
  let line := Text.trim line
  if line.isEmpty || Text.startsWith line "#" then none
  else (Text.cut? line "=").map fun (name, value) => (Text.trim name, .text (Text.trim value))

def lineFor (name : String) (value : Value) : String := name ++ "=" ++ value.display ++ "\n"

/-- A line after new settings: a line that sets one of them sets it anew. -/
def renewed (news : Fields) (line : String) : String :=
  match setting? line with
  | some (name, _) => (news.lookup name).elim line (lineFor name)
  | none => line

/-- The lines after new settings: those that no line sets come at the end. -/
def updatedLines (news : Fields) (lines : List String) : List String :=
  let known := (lines.filterMap setting?).map (·.1)
  lines.map (renewed news) ++
    ((news.filter fun s => !known.contains s.1).map fun s => lineFor s.1 s.2)

/-- The settings of some lines, by name; the last line of a name decides. -/
def settingsOf (lines : List String) : Fields := Fields.putAll [] (lines.filterMap setting?)

def lines (f : SettingsFile) : List String := (f.text.map fun t => Text.linesOf (Text.plainLines t)).getD []

def settings (f : SettingsFile) : Fields := settingsOf f.lines

def newsFrom (doc : Value) (lines : List String) : Attempt Fields :=
  match doc with
  | .record fields => .ok fields
  | doc => do
    (lines.filterMap setting?).forM fun s => do
      if ← (Value.text s.1).isIn doc then
        let _ ← doc.field s.1
    throw (.noAttribute doc.kind "items")

def update (f : SettingsFile) (news : Value) : Attempt SettingsFile := do
  let news ← newsFrom news f.lines
  return { f with text := some (String.join (updatedLines news f.lines)) }

def setAside (f : SettingsFile) : Attempt SettingsFile :=
  match f.text with
  | some _ => .ok { f with backup := f.text, before := f.settings }
  | none => .error (.noFile s!".env file not found at {f.path}")

def restored (f : SettingsFile) : SettingsFile := if f.backup.isSome then { f with text := f.backup } else f

def cleared (f : SettingsFile) : SettingsFile := { f with backup := none }

def current (f : SettingsFile) (name : Value) : Attempt Value := do
  let name ← name.hashable
  return (name.text?.bind fun n => f.settings.lookup n).getD ""

end SettingsFile

end QueryDesk
