import Rehearsal.Check.Assertion
import Rehearsal.Check.Pattern
import Rehearsal.Text.Search

/-!
Predicates: the statements about a response that scripts make, and the text they are written as: the name of
an assertion or an asset, or an asset or `session.key` compared by `==` or `=~`.
-/
namespace Rehearsal.Check

inductive AttributeCheck where
  | present
  | notNull
  | notBlank
  | equals (text : String)
  | contains (text : String)
  | like (p : Pattern)
deriving DecidableEq

inductive Predicate where
  | assertion (a : Assertion)
  | present (a : Asset)
  | equals (a : Asset) (text : String)
  | like (a : Asset) (p : Pattern)
  | attribute (key : String) (c : AttributeCheck)
deriving DecidableEq

namespace AttributeCheck

def describe (key : String) : AttributeCheck → String
  | .present => "sessionStateExists(" ++ key ++ ")"
  | .notNull => "sessionStateNotNull(" ++ key ++ ")"
  | .notBlank => "sessionStateNotBlank(" ++ key ++ ")"
  | .equals text => "sessionStateEquals(" ++ key ++ ", " ++ text ++ ")"
  | .contains text => "sessionStateContains(" ++ key ++ ", " ++ text ++ ")"
  | .like p => "sessionStateMatches(" ++ key ++ ", " ++ p.source ++ ")"

end AttributeCheck

namespace Assertion

def ofName (name : String) : Except Failure Assertion :=
  match ofName? name with
  | some a => .ok a
  | none => .error (.script (.unknownAssertion name))

end Assertion

namespace Asset

def ofName (name : String) : Except Failure Asset :=
  match ofName? name with
  | some a => .ok a
  | none => .error (.script (.unknownAsset name))

end Asset

namespace Predicate

def render : Predicate → String
  | .assertion a => a.name
  | .present a => a.name
  | .equals a text => a.name ++ " == " ++ text
  | .like a p => a.name ++ " =~ " ++ p.source
  | .attribute key c => c.describe key

def sessionPrefix : List Char := "session.".toList

def attributeKey? (text : List Char) : Except Failure (Option String) :=
  match sessionPrefix.isPrefixOf? (Text.trim text) with
  | none => .ok none
  | some key =>
    if key.isEmpty then .error (.script (.missingKey (.ofList text)))
    else if key.any Text.isBlank then .error (.script (.blankInKey (.ofList key)))
    else .ok (some (.ofList key))

def equality : List Char := " == ".toList
def likeness : List Char := " =~ ".toList

variable [Regex.Room]

def patternOf (whole : String) (source : String) : Except Failure Pattern :=
  match Pattern.ofSource? source with
  | some p => .ok p
  | none => .error (.script (.pattern whole source Pattern.malformed))

def assetOf (text : List Char) : Except Failure Asset :=
  Asset.ofName (.ofList (Text.trim text))

def ofName (text : List Char) : Except Failure Predicate := do
  match ← attributeKey? text with
  | some key => return .attribute key .present
  | none =>
    let name := String.ofList text
    match Assertion.ofName? name with
    | some a => return .assertion a
    | none =>
      match Asset.ofName? name with
      | some a => return .present a
      | none => .error (.script (.unknownName name))

/-- The leftmost operator parts the sides, so the right side may hold the other. -/
def ofChars (text : List Char) : Except Failure Predicate :=
  let text := Text.trim text
  match Text.cutAtFirst? [equality, likeness] text with
  | none => ofName text
  | some (left, op, right) => do
    let right := String.ofList (Text.unquote (Text.trim right))
    if op = equality then
      match ← attributeKey? left with
      | some key => return .attribute key (.equals right)
      | none => return .equals (← assetOf left) right
    else
      let p ← patternOf (.ofList text) right
      match ← attributeKey? left with
      | some key => return .attribute key (.like p)
      | none => return .like (← assetOf left) p

def ofText (text : String) : Except Failure Predicate := ofChars text.toList

end Predicate
end Rehearsal.Check
