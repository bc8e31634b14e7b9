import Rehearsal.Json.Number

/-! JSON values and their written form. -/

/-! Entries by key, in rising order of the keys, each key once: of two with one key the later stays. -/
namespace Rehearsal.Keyed
variable {α : Type}

def insert (key : String) (v : α) : List (String × α) → List (String × α)
  | [] => [(key, v)]
  | (k, w) :: rest =>
    if key < k then (key, v) :: (k, w) :: rest
    else if key = k then (key, v) :: rest
    else (k, w) :: insert key v rest

def ofList (entries : List (String × α)) : List (String × α) :=
  entries.foldl (fun m (key, v) => insert key v m) []

end Rehearsal.Keyed

namespace Rehearsal.Json

/-- The members of an object stand in rising order of their names, each name once. -/
inductive Value where
  | null
  | bool (b : Bool)
  | number (n : Number)
  | string (s : String)
  | array (items : List Value)
  | object (members : List (String × Value))
deriving Inhabited

abbrev Members := List (String × Value)

def Members.ofList (entries : List (String × Value)) : Members := Keyed.ofList entries

def Members.get? (m : Members) (name : String) : Option Value :=
  List.lookup name m

def Value.record (entries : List (String × Option Value)) : Value :=
  .object (Members.ofList (entries.filterMap fun (name, v) => v.map (name, ·)))

def Value.isNull : Value → Bool
  | .null => true
  | _ => false

def hexDigit (n : Nat) : Char := Nat.digitChar (n % 16)

def escape (c : Char) : List Char :=
  if c = '"' then ['\\', '"']
  else if c = '\\' then ['\\', '\\']
  else if c = '\x08' then ['\\', 'b']
  else if c = '\x0c' then ['\\', 'f']
  else if c = '\n' then ['\\', 'n']
  else if c = '\r' then ['\\', 'r']
  else if c = '\t' then ['\\', 't']
  else if c.toNat < 32 then ['\\', 'u', '0', '0', hexDigit (c.toNat / 16), hexDigit c.toNat]
  else [c]

def renderString (s : String) : List Char :=
  '"' :: s.toList.flatMap escape ++ ['"']

mutual
def Value.chars : Value → List Char
  | .null => ['n', 'u', 'l', 'l']
  | .bool true => ['t', 'r', 'u', 'e']
  | .bool false => ['f', 'a', 'l', 's', 'e']
  | .number n => n.render
  | .string s => renderString s
  | .array items => '[' :: charsOfItems items ++ [']']
  | .object members => '\x7b' :: charsOfMembers members ++ ['\x7d']

def charsOfItems : List Value → List Char
  | [] => []
  | [v] => v.chars
  | v :: rest => v.chars ++ ',' :: charsOfItems rest

def charsOfMembers : List (String × Value) → List Char
  | [] => []
  | [(name, v)] => renderString name ++ ':' :: v.chars
  | (name, v) :: rest => renderString name ++ ':' :: v.chars ++ ',' :: charsOfMembers rest
end

def Value.render (v : Value) : String := .ofList v.chars

def Value.text : Value → String
  | .string s => s
  | v => v.render

end Rehearsal.Json
