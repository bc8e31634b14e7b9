import Rehearsal.Failure
import Rehearsal.Yaml.Document

/-! Scripts before any meaning is given to them: texts, lists, and maps in the order of their entries. -/
namespace Rehearsal.Script

inductive Tree where
  | text (s : String)
  | map (entries : List (String × Tree))
  | list (items : List Tree)
deriving Inhabited

namespace Tree

def shape : Tree → String
  | .text _ => "text"
  | .map _ => "map"
  | .list _ => "list"

def isList : Tree → Bool
  | .list _ => true
  | _ => false

end Tree

def scalarText? : Yaml.Value → Option String
  | .null => some ""
  | .bool b => some (if b then "true" else "false")
  | .int n => some (String.ofList (Json.intText n))
  | .float x => some (.ofList (x.render Yaml.floatText))
  | .text s => some s
  | .list _ | .map _ | .tagged .. => none

mutual
/-- Scalars become text, keys have to be scalars, and nothing may be tagged. -/
def Tree.ofValue : Yaml.Value → Except ScriptFault Tree
  | .list items => (treesOf items).map .list
  | .map entries => (entriesOf entries).map .map
  | .tagged tag _ => .error (.tagged (Yaml.showTag tag))
  | v => .ok (.text ((scalarText? v).getD ""))

def treesOf : List Yaml.Value → Except ScriptFault (List Tree)
  | [] => .ok []
  | v :: rest => do
    let t ← Tree.ofValue v
    return t :: (← treesOf rest)

def entriesOf : List (Yaml.Value × Yaml.Value) → Except ScriptFault (List (String × Tree))
  | [] => .ok []
  | (k, v) :: rest =>
    match scalarText? k with
    | none => .error (.keyNotScalar k.describe)
    | some key => do
      let t ← Tree.ofValue v
      return (key, t) :: (← entriesOf rest)
end

end Rehearsal.Script
