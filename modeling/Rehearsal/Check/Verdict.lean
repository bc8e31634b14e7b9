import Rehearsal.Check.Predicate

/-!
Verdicts on a response. Each check has two forms: `holds` says whether, `require` fails with the name of the
check and what was seen instead.
-/
namespace Rehearsal.Check
open Json (Value Members)
open Wire

/-- Does a value equal a text? Arrays and objects compare as JSON, all else by its text. -/
def valueEquals (actual : Value) (expected : String) : Bool :=
  match actual with
  | .array _ | .object _ =>
    let expected := match Value.ofText? expected with
      | some v => v.render
      | none => expected
    actual.text = expected
  | _ => actual.text = expected

/-- Slots stand in the attributes as objects with a name and a value; the value counts. -/
def unwrapSlot (v : Value) : Value :=
  match v with
  | .object m =>
    match Members.get? m "name", Members.get? m "value" with
    | some _, some inner => inner
    | _, _ => v
  | _ => v

def attribute? (r : Response) (key : String) : Option Value :=
  (r.attributes.bind fun m => Members.get? m key).map unwrapSlot

def seen : Option Value → String
  | some v => v.text
  | none => "absent"

namespace Asset

def equals (r : Response) (a : Asset) (expected : Option String) : Bool :=
  match a.value? r, expected with
  | none, none => true
  | some v, some text => valueEquals v text
  | _, _ => false

def isLike (r : Response) (a : Asset) (p : Pattern) : Bool :=
  match a.value? r with
  | some v => p.accepts v.text
  | none => false

end Asset

namespace AttributeCheck

def holds (r : Response) (key : String) (c : AttributeCheck) : Bool :=
  match attribute? r key with
  | none => false
  | some v =>
    match c with
    | .present => true
    | .notNull => !v.isNull
    | .notBlank => !v.isNull && !Text.isBlankText v.text
    | .equals text => valueEquals v text
    | .contains text => Text.contains text.toList v.text.toList
    | .like p => p.accepts v.text

end AttributeCheck

def require (holds : Bool) (check : String) (observed : Option String) : Except Failure Unit :=
  if holds then .ok () else .error (.validation check observed)

def requireTrue (r : Response) (a : Assertion) : Except Failure Unit :=
  require (a.holds r) a.name (some (a.subject r).render)

def requireFalse (r : Response) (a : Assertion) : Except Failure Unit :=
  require (!a.holds r) ("not " ++ a.name) (some (a.subject r).render)

def requirePresent (r : Response) (a : Asset) : Except Failure Unit :=
  require (a.value? r).isSome ("exists(" ++ a.name ++ ")") none

def requireEquals (r : Response) (a : Asset) (expected : Option String) : Except Failure Unit :=
  require (a.equals r expected) ("equals(" ++ a.name ++ ", " ++ expected.getD "null" ++ ")")
    (some (seen (a.value? r)))

def requireLike (r : Response) (a : Asset) (p : Pattern) : Except Failure Unit :=
  require (a.isLike r p) ("matches(" ++ a.name ++ ", " ++ p.source ++ ")") (some (seen (a.value? r)))

def requireAttribute (r : Response) (key : String) (c : AttributeCheck) : Except Failure Unit :=
  require (c.holds r key) (c.describe key) (some (seen (attribute? r key)))

namespace Predicate

def holds (r : Response) : Predicate → Bool
  | .assertion a => a.holds r
  | .present a => (a.value? r).isSome
  | .equals a text => a.equals r (some text)
  | .like a p => a.isLike r p
  | .attribute key c => c.holds r key

def require (r : Response) : Predicate → Except Failure Unit
  | .assertion a => requireTrue r a
  | .present a => requirePresent r a
  | .equals a text => requireEquals r a (some text)
  | .like a p => requireLike r a p
  | .attribute key c => requireAttribute r key c

end Predicate
end Rehearsal.Check
