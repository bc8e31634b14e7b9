import Rehearsal.Toml.Scalar

/-!
TOML documents: keys with values, and headers that say which table the keys below them belong to.
-/
namespace Rehearsal.Toml

def isBlank (c : Char) : Bool := c == ' ' || c == '\t'

def skipBlanks (text : List Char) : List Char := text.dropWhile isBlank

def skipComment? (text : List Char) : Option (List Char) :=
  match text with
  | '#' :: rest =>
    let rest := rest.dropWhile fun c => !isControl c
    match rest with
    | [] | '\n' :: _ | '\r' :: '\n' :: _ => some rest
    | _ => none
  | _ => some text

def lineEnd? : List Char → Option (List Char)
  | '\n' :: rest => some rest
  | '\r' :: '\n' :: rest => some rest
  | _ => none

def skipLines? : Nat → List Char → Option (List Char)
  | 0, text => some text
  | fuel + 1, text => do
    let text ← skipComment? (skipBlanks text)
    match lineEnd? text with
    | some rest => skipLines? fuel rest
    | none => some text

def skipAll? (text : List Char) : Option (List Char) := skipLines? (text.length + 1) text

def isKeyChar (c : Char) : Bool := c.isAlphanum || c == '_' || c == '-'

def keyPart? (text : List Char) : Option (String × List Char) :=
  match text with
  | '"' :: _ | '\'' :: _ => shortString? text
  | _ =>
    let name := text.takeWhile isKeyChar
    if name.isEmpty then none else some (.ofList name, text.dropWhile isKeyChar)

def key? : Nat → List Char → Option ((List String × String) × List Char)
  | 0, _ => none
  | fuel + 1, text => do
    let (part, rest) ← keyPart? (skipBlanks text)
    match skipBlanks rest with
    | '.' :: rest =>
      let ((path, last), rest) ← key? fuel rest
      return ((part :: path, last), rest)
    | rest => return (([], part), rest)

def keyOf? (text : List Char) : Option ((List String × String) × List Char) := key? (text.length + 1) text

def depthLimit : Nat := 80

mutual
def value? (depth : Nat) : Nat → List Char → Option (Value × List Char)
  | 0, _ => none
  | fuel + 1, text =>
    match text with
    | '"' :: _ | '\'' :: _ => (string? text).map fun (s, rest) => (.string s, rest)
    | '[' :: rest => if depth = 0 then none else items? (depth - 1) fuel [] rest
    | '\x7b' :: rest => if depth = 0 then none else entries? (depth - 1) fuel { origin := .inline } rest
    | _ => word? text

def items? (depth : Nat) : Nat → List Value → List Char → Option (Value × List Char)
  | 0, _, _ => none
  | fuel + 1, items, text => do
    match ← skipAll? text with
    | ']' :: rest => return (.array false items.reverse, rest)
    | text =>
      let (v, rest) ← value? depth fuel text
      match ← skipAll? rest with
      | ',' :: rest => items? depth fuel (v :: items) rest
      | ']' :: rest => return (.array false (v :: items).reverse, rest)
      | _ => none

def entries? (depth : Nat) : Nat → Table → List Char → Option (Value × List Char)
  | 0, _, _ => none
  | fuel + 1, t, text => do
    match ← skipAll? text with
    | '\x7d' :: rest => return (t.toValue, rest)
    | text =>
      let ((path, key), rest) ← keyOf? text
      match rest with
      | '=' :: rest =>
        let (v, rest) ← value? depth fuel (skipBlanks rest)
        let t ← t.add? path key v
        match ← skipAll? rest with
        | ',' :: rest => entries? depth fuel t rest
        | '\x7d' :: rest => return (t.toValue, rest)
        | _ => none
      | _ => none
end

structure Reading where
  root : Table := { origin := .header }
  /-- The table that keys belong to. -/
  current : List String := []

def statement? (s : Reading) (text : List Char) : Option (Reading × List Char) := do
  match text with
  | '[' :: '[' :: rest =>
    let ((path, key), rest) ← keyOf? rest
    let rest ← expect? ']' (← expect? ']' rest)
    return ({ root := ← s.root.grow? path key, current := path ++ [key] }, rest)
  | '[' :: rest =>
    let ((path, key), rest) ← keyOf? rest
    let rest ← expect? ']' rest
    return ({ root := ← s.root.open? path key, current := path ++ [key] }, rest)
  | _ =>
    let ((path, key), rest) ← keyOf? text
    let rest ← expect? '=' rest
    let (v, rest) ← value? depthLimit (rest.length + 1) (skipBlanks rest)
    return ({ s with root := ← s.root.update? false (·.add? path key v) s.current }, rest)

def statements? : Nat → Reading → List Char → Option Table
  | 0, _, _ => none
  | fuel + 1, s, text => do
    match ← skipAll? text with
    | [] => return s.root
    | text =>
      let (s, rest) ← statement? s text
      match ← skipComment? (skipBlanks rest) with
      | [] => return s.root
      | rest => statements? fuel s (← lineEnd? rest)

def Table.ofText? (text : String) : Option Table :=
  let text := match text.toList with
    | '\ufeff' :: rest => rest
    | rest => rest
  statements? (text.length + 1) {} text

end Rehearsal.Toml
