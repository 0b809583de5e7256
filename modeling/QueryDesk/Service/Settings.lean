import QueryDesk.Service.Desk

/-!
Working with the file of settings: setting it aside, changing it, and putting it back.
-/

namespace QueryDesk.Settings

def change (f : SettingsFile → Attempt SettingsFile) : Desk Unit := do
  let file ← f (← get).settings
  modify fun t => { t with settings := file }

def setAside : Desk Unit := change SettingsFile.setAside

def restore : Desk Unit := change fun f => .ok f.restored

def update (news : Value) : Desk Unit := change fun f => f.update news

def clear : Desk Unit := change fun f => .ok f.cleared

def all : Desk Value := do return .record (← get).settings.settings

def current (name : Value) : Desk Value := do liftM ((← get).settings.current name)

def standing (f : SettingsFile) : Fields :=
  [("file", Value.ofText? (f.text.map Text.plainLines)), ("backup", .bool f.backup.isSome),
    ("original_env", .record f.before)]

end QueryDesk.Settings
