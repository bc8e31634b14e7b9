import Rehearsal.Json.Value

/-!
JSON as it is set down: members in the order given. It is written on one line for machines; for readers every level
goes further in, with a line for each part.
-/
namespace Rehearsal.Json

inductive Outline where
  | leaf (v : Value)
  | list (items : List Outline)
  | record (members : List (String × Outline))

namespace Outline

def text (s : String) : Outline := .leaf (.string s)
def number (n : Nat) : Outline := .leaf (.number (.int n))
def texts (ss : List String) : Outline := .list (ss.map text)

def orNull : Option Outline → Outline
  | some o => o
  | none => .leaf .null

def present (members : List (String × Option Outline)) : Outline :=
  .record (members.filterMap fun (name, o) => o.map (name, ·))

mutual
def toValue : Outline → Value
  | .leaf v => v
  | .list items => .array (toValues items)
  | .record members => .object (Members.ofList (toMembers members))

def toValues : List Outline → List Value
  | [] => []
  | o :: rest => o.toValue :: toValues rest

def toMembers : List (String × Outline) → List (String × Value)
  | [] => []
  | (name, o) :: rest => (name, o.toValue) :: toMembers rest
end

mutual
def line : Outline → List Char
  | .leaf v => v.chars
  | .list items => '[' :: lineOfItems items ++ [']']
  | .record members => '\x7b' :: lineOfMembers members ++ ['\x7d']

def lineOfItems : List Outline → List Char
  | [] => []
  | [o] => o.line
  | o :: rest => o.line ++ ',' :: lineOfItems rest

def lineOfMembers : List (String × Outline) → List Char
  | [] => []
  | [(name, o)] => renderString name ++ ':' :: o.line
  | (name, o) :: rest => renderString name ++ ':' :: o.line ++ ',' :: lineOfMembers rest
end

def newLine (depth : Nat) : List Char := '\n' :: List.replicate (2 * depth) ' '

mutual
def chars (depth : Nat) : Outline → List Char
  | .leaf v => v.chars
  | .list [] => ['[', ']']
  | .list (o :: rest) =>
    '[' :: newLine (depth + 1) ++ o.chars (depth + 1) ++ charsOfItems (depth + 1) rest ++ newLine depth ++ [']']
  | .record [] => ['\x7b', '\x7d']
  | .record ((name, o) :: rest) =>
    '\x7b' :: newLine (depth + 1) ++ renderString name ++ ':' :: ' ' :: o.chars (depth + 1) ++
      charsOfMembers (depth + 1) rest ++ newLine depth ++ ['\x7d']

def charsOfItems (depth : Nat) : List Outline → List Char
  | [] => []
  | o :: rest => ',' :: newLine depth ++ o.chars depth ++ charsOfItems depth rest

def charsOfMembers (depth : Nat) : List (String × Outline) → List Char
  | [] => []
  | (name, o) :: rest =>
    ',' :: newLine depth ++ renderString name ++ ':' :: ' ' :: o.chars depth ++ charsOfMembers depth rest
end

def render (o : Outline) : String := .ofList (o.chars 0)

end Outline
end Rehearsal.Json
