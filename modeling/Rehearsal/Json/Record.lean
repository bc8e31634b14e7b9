import Rehearsal.Json.Source
import Rehearsal.Text.Integer

/-!
Reading structures out of JSON. A structure is written as an object of its members, or as an array of their
values in order; members that it does not know are passed over. `depth` counts the arrays and objects that
may still be opened.
-/
namespace Rehearsal.Json.Source

/-- The members a structure knows, each at most once. Of an array, the values take the names in order. -/
def fields? (names : List String) (depth : Nat) : Source → Option (List (String × Source))
  | .object members =>
    if depth = 0 then none else do
      let entries ← members.mapM fun (name, v) => name.map (·, v)
      let known := entries.filter fun (name, _) => names.contains name
      if (known.map (·.1)).Nodup then some known else none
  | .array items =>
    if depth = 0 ∨ names.length < items.length then none else some (names.zip items)
  | _ => none

def text? : Source → Option String
  | .string s => s
  | _ => none

def bool? : Source → Option Bool
  | .bool b => some b
  | _ => none

def int64? : Source → Option Int
  | .number t =>
    match t.value? with
    | some (.int n) => if Text.fitsSigned 64 n then some n else none
    | _ => none
  | _ => none

def nullable? (read : Source → Option α) : Source → Option (Option α)
  | .null => some none
  | v => (read v).map some

def items? (depth : Nat) (read : Source → Option α) : Source → Option (List α)
  | .array items => if depth = 0 then none else items.mapM read
  | _ => none

def members? (depth : Nat) (v : Source) : Option Members :=
  match v.value? depth with
  | some (.object m) => some m
  | _ => none

def choice? (isNothing : Source → Bool) : Source → Option String
  | .string s => s
  | .object [(name, v)] => if isNothing v then name else none
  | _ => none

def isNull : Source → Bool
  | .null => true
  | _ => false

def isNullOrEmpty : Source → Bool
  | .null | .object [] => true
  | _ => false

/-- The tag of a tagged structure, and the structure without it. The whole is read as a value, so what is
passed over has to be one. -/
def tagged? (depth : Nat) (v : Source) : Option (String × Source) :=
  if (v.value? depth).isNone then none else
    match v with
    | .object members =>
      match members.partition fun (name, _) => name = some "type" with
      | ([(_, tag)], rest) => tag.text?.map (·, .object rest)
      | _ => none
    | .array (tag :: rest) => tag.text?.map (·, .array rest)
    | _ => none

def isBare : Source → Bool
  | .object _ | .array [] => true
  | _ => false

end Rehearsal.Json.Source
namespace Rehearsal.Json

abbrev Fields := List (String × Source)

namespace Fields

def need (f : Fields) (name : String) (read : Source → Option α) : Option α :=
  (List.lookup name f).bind read

def getD (f : Fields) (name : String) (absent : α) (read : Source → Option α) : Option α :=
  match List.lookup name f with
  | none => some absent
  | some v => read v

def get? (f : Fields) (name : String) (read : Source → Option α) : Option (Option α) :=
  getD f name none (Source.nullable? read)

end Fields
end Rehearsal.Json
