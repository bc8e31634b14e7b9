import Rehearsal.Settings.Overrides
import Rehearsal.Text.Utf8

/-!
Loading settings: the defaults, then the files, then the environment. An explicit file stands for all others.
-/
namespace Rehearsal.Settings

inductive Found where
  | missing
  | unreadable (detail : String)
  | bytes (b : List UInt8)

def Found.text? : Found → Except String String
  | .missing => .error "no such file"
  | .unreadable detail => .error detail
  | .bytes b =>
    match Text.Utf8.decode? b with
    | some s => .ok s
    | none => .error "not a text"

structure Sources (m : Type → Type) where
  find : String → m Found
  environment : Environment
  /-- The user's own file and the project's. -/
  globalPath : Option String
  projectPath : String

def layerAt [Monad m] (src : Sources m) (path : String) : m (Except Failure (Option Layer)) := do
  match ← src.find path with
  | .missing => return .ok none
  | found =>
    match found.text? with
    | .error detail => return .error (.config (.unreadableFile path detail))
    | .ok text => return (Layer.ofText (some path) text).map some

def layerOf [Monad m] (src : Sources m) : Option String → m (Except Failure (Option Layer))
  | none => return .ok none
  | some path => layerAt src path

def fileLayers [Monad m] (src : Sources m) (explicitPath : Option String) : m (Except Failure (List Layer)) := do
  match explicitPath <|> src.environment (variableName "CONFIG") with
  | some path =>
    match ← layerAt src path with
    | .error f => return .error f
    | .ok none => return .error (.config (.missingFile path))
    | .ok (some l) => return .ok [l]
  | none =>
    match ← layerOf src src.globalPath with
    | .error f => return .error f
    | .ok user =>
      match ← layerAt src src.projectPath with
      | .error f => return .error f
      | .ok project => return .ok (user.toList ++ project.toList)

def load [Monad m] (src : Sources m) (explicitPath : Option String) : m (Except Failure Settings) := do
  let layers ← fileLayers src explicitPath
  return do
    let s := (← layers).foldl overlaid ({} : Settings)
    (← s.overridden src.environment).checked

end Rehearsal.Settings
