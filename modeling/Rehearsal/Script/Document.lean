import Rehearsal.Script.Action

/-! Scripts as documents: a name, tags, and the sessions to hold, each a list of actions. -/
namespace Rehearsal

structure Script where
  name : String
  description : Option String
  tags : List String
  sessions : List Script.Node

namespace Script

structure Draft where
  name : String
  description : Option String := none
  tags : List String := []
  sessions : List Yaml.Value

namespace Draft
open Yaml (Document)

def read (d : Document) : Document.Reading Draft := do
  let f ← d.fields ["name", "description", "tags", "sessions"] d.root
  match List.lookup "name" f, List.lookup "sessions" f with
  | some name, some sessions =>
    let name ← d.text name
    let description ← match List.lookup "description" f with
      | some n => d.text? n
      | none => pure none
    let tags ← match List.lookup "tags" f with
      | some n => do (← d.items n).mapM d.text
      | none => pure []
    let sessions ← (← d.items sessions).mapM (d.value (Yaml.depthLimit - 2))
    return { name, description, tags, sessions }
  | _, _ => failure

def ofText? (text : String) : Option Draft := do
  let d ← Document.ofText? text
  d.read? (read d)

end Draft

variable [Regex.Room]

def sessionOf (marker : Char) (number : Nat) (v : Yaml.Value) : Except Failure Node :=
  match Tree.ofValue v with
  | .error f => .error (.script (.inSession number f))
  | .ok t =>
    match Node.ofTree marker t with
    | .error (.script f) => .error (.script (.inSession number f))
    | r => r

def sessionsFrom (marker : Char) : Nat → List Yaml.Value → Except Failure (List Node)
  | _, [] => .ok []
  | number, v :: rest => do
    let n ← sessionOf marker number v
    return n :: (← sessionsFrom marker (number + 1) rest)

def ofDraft (marker : Char) (d : Draft) : Except Failure Script :=
  if Text.isBlankText d.name then .error (.script .noName)
  else if d.sessions.isEmpty then .error (.script (.noSessions d.name))
  else do
    let sessions ← sessionsFrom marker 1 d.sessions
    return { d with sessions }

def ofText (marker : Char) (text : String) : Except Failure Script :=
  match Draft.ofText? text with
  | some d => ofDraft marker d
  | none => .error (.yaml "malformed document")

end Script
end Rehearsal
