import ForwardingProxy.Config.Text
import ForwardingProxy.Failure
import ForwardingProxy.FileSystem.Environment
import ForwardingProxy.Path

/-!
Contract: settings files.

Owns: `Config.load`, `Config.save` and the search for the nearest settings file above a path.
-/

namespace ForwardingProxy.Config

/-- The name of a settings file. -/
def settingsFile : String := "proxygen.json"

/-- The valid settings that a text writes. -/
def ofText (text : String) : Except Failure Config :=
  match read text with
  | .error error => .error (.config (.unreadable error))
  | .ok config =>
      match config.invalid? with
      | some reason => .error (.config (.invalid reason))
      | none => .ok config

/-- Loads the settings in a file. -/
def load {m : Type → Type} [Monad m]
    (environment : Environment m)
    (path : String) : m (Except Failure Config) := do
  match ← environment.readText path with
  | .error error => pure (.error (.file error))
  | .ok text => pure (ofText text)

/-- Writes the settings to a file. -/
def save {m : Type → Type} [Monad m]
    (environment : Environment m)
    (config : Config)
    (path : String) : m (Except Failure Unit) := do
  match ← environment.writeText path config.text with
  | .error error => pure (.error (.file error))
  | .ok () => pure (.ok ())

/-- The nearest settings file at or above a path, with at most that many steps up. -/
def findWithin? {m : Type → Type} [Monad m]
    (environment : Environment m) : (steps : Nat) → (start : String) → m (Option String)
  | 0, _ => pure none
  | steps + 1, start => do
      let candidate := Path.join start settingsFile
      if ← environment.doesExist candidate then pure (some candidate)
      else
        match Path.parent? start with
        | none => pure none
        | some parent => findWithin? environment steps parent

/-- The nearest settings file at or above a path. -/
def find? {m : Type → Type} [Monad m]
    (environment : Environment m)
    (start : String) : m (Option String) :=
  findWithin? environment (start.length + 1) start

/-- The settings in the nearest file at or above a path, or the standard ones. -/
def discover {m : Type → Type} [Monad m]
    (environment : Environment m)
    (start : String) : m (Except Failure Config) := do
  match ← find? environment start with
  | none => pure (.ok standard)
  | some path => load environment path

end ForwardingProxy.Config
