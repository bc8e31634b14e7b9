import Rehearsal.Settings.Basic
import Rehearsal.Toml.Document

/-! Layers of settings as TOML documents. Keys without a meaning are passed over. -/
namespace Rehearsal.Settings
open Session (Policy)
open Toml (Value)

/-- The parts of a structure: the entries of a table, or the values of an array in order, of which the first `needed`
have to be there. -/
def fields? (names : List String) (needed : Nat) : Value → Option (List (String × Value))
  | .table _ entries => some entries
  | .array _ items => if items.length < needed then none else some (names.zip items)
  | _ => none

def text? : Value → Option String
  | .string s => some s
  | _ => none

def int64? : Value → Option Int
  | .int n => if Text.fitsSigned 64 n then some n else none
  | _ => none

def char? : Value → Option Char
  | .string s => match s.toList with
    | [c] => some c
    | _ => none
  | _ => none

def isNothing : Value → Bool
  | .table _ [] | .array _ [] => true
  | _ => false

def policy? : Value → Option Policy
  | .string s => Policy.ofName? s
  | .table _ [(name, v)] => if isNothing v then Policy.ofName? name else none
  | _ => none

def part? (name : String) (f : List (String × Value)) (read : Value → Option α) : Option (Option α) :=
  match List.lookup name f with
  | none => some none
  | some v => (read v).map some

def oauth? (v : Value) : Option OAuth := do
  let f ← fields? ["token_url", "client_id", "client_secret", "refresh_token"] 0 v
  let text (name : String) : Option String := (part? name f text?).map (·.getD "")
  return { tokenUrl := ← text "token_url", clientId := ← text "client_id", clientSecret := ← text "client_secret",
           refreshToken := ← text "refresh_token" }

/-- A layer, but for the timeout, which is still text. -/
structure Written where
  layer : Layer
  timeout : Option String

def identity? (l : Layer) (v : Value) : Option Layer := do
  let f ← fields? ["application_id", "user_id", "access_token", "locale", "timestamp_offset_secs"] 5 v
  return { l with
    applicationId := ← part? "application_id" f text?
    userId := ← part? "user_id" f text?
    accessToken := ← part? "access_token" f text?
    locale := ← part? "locale" f text?
    offset := ← part? "timestamp_offset_secs" f int64? }

def session? (l : Layer) (v : Value) : Option Layer := do
  let f ← fields? ["closed_policy"] 1 v
  return { l with policy := ← part? "closed_policy" f policy? }

def script? (l : Layer) (v : Value) : Option Layer := do
  let f ← fields? ["reference_marker"] 1 v
  return { l with marker := ← part? "reference_marker" f char? }

def transport? (l : Layer) (v : Value) : Option Written := do
  let f ← fields? ["endpoint", "timeout", "oauth"] 3 v
  let layer := { l with endpoint := ← part? "endpoint" f text?, oauth := ← part? "oauth" f oauth? }
  return { layer, timeout := ← part? "timeout" f text? }

def Written.ofTable? (t : Toml.Table) : Option Written := do
  let section? (l : Layer) (name : String) (read : Layer → Value → Option Layer) : Option Layer :=
    match List.lookup name t.entries with
    | none => some l
    | some v => read l v
  let l ← section? {} "identity" identity?
  let l ← section? l "session" session?
  let l ← section? l "script" script?
  match List.lookup "transport" t.entries with
  | none => return { layer := l, timeout := none }
  | some v => transport? l v

def Layer.ofText (path : Option String) (text : String) : Except Failure Layer :=
  let malformed : Failure := .config (.malformed path "malformed document")
  match (Toml.Table.ofText? text).bind Written.ofTable? with
  | none => .error malformed
  | some w =>
    match w.timeout with
    | none => .ok w.layer
    | some s =>
      match Span.ofText s.toList with
      | .ok span => .ok { w.layer with timeout := some span }
      | .error .brokenCarry => .error .breakdown
      | .error _ => .error malformed

end Rehearsal.Settings
