import Rehearsal.Yaml.Node
import Rehearsal.Yaml.Value

/-!
Documents and the values in them. Aliases are followed as values are read; the number of times that may
happen is bounded by the size of the document, so that a short text cannot stand for a huge value.
-/
namespace Rehearsal.Yaml

structure Document where
  root : Node
  /-- The nodes that can be referred to. -/
  anchored : List (Nat × Node)
  /-- How often aliases may be followed. -/
  budget : Nat

namespace Document

def ofText? (text : String) : Option Document := do
  let events ← events? (← Token.ofText? text)
  let root ← Node.ofEvents? events
  return { root, anchored := root.anchored.reverse, budget := 100 * events.length }

abbrev Reading := StateT Nat Option

def follow (d : Document) : Node → Reading Node
  | .alias n => do
    match ← get with
    | 0 => failure
    | left + 1 =>
      set left
      match List.lookup n d.anchored with
      | some target => return target
      | none => failure
  | n => return n

def ownTag? (tag : Option String) : Option String :=
  match tag.map (·.toList) with
  | some ['!'] => some "!"
  | some ('!' :: '!' :: c :: rest) => some (.ofList (c :: rest))
  | some ('!' :: rest) => some (.ofList rest)
  | _ => none

def coreTag (name : String) : String := "tag:yaml.org,2002:" ++ name

def scalar? (tag : Option String) (text : String) (plain : Bool) : Option Value :=
  let free := if plain then Value.ofPlain? text else some (.text text)
  match tag with
  | none => free
  | some t =>
    if t = coreTag "bool" then (bool? text).map .bool
    else if t = coreTag "int" then (number? text.toList).bind id
    else if t = coreTag "float" then (float? text.toList).map .float
    else if t = coreTag "null" then (if isNullWord text then some .null else none)
    else match ownTag? tag with
      | some name => free.map (.tagged name)
      | none => some (.text text)

def withTag (tag : Option String) (v : Value) : Value :=
  match ownTag? tag with
  | some name => .tagged name v
  | none => v

def value (d : Document) (depth : Nat) (n : Node) : Reading Value := do
  match ← d.follow n with
  | .scalar _ tag text plain => scalar? tag text plain
  | .alias _ => failure
  | .list _ tag items =>
    match depth with
    | 0 => failure
    | depth + 1 => return withTag tag (.list (← items.mapM (d.value depth)))
  | .map _ tag entries =>
    match depth with
    | 0 => failure
    | depth + 1 =>
      let m ← entries.foldlM (fun (m : List (Value × Value)) (k, v) => do
        let k ← d.value depth k
        if m.any (fun (l, _) => l.same k) then failure
        return (k, ← d.value depth v) :: m) []
      return withTag tag (.map m.reverse)

def read? (d : Document) (r : Reading α) : Option α := (r.run d.budget).map (·.1)

def value? (d : Document) : Option Value := d.read? (d.value depthLimit d.root)

def text (d : Document) (n : Node) : Reading String := do
  match ← d.follow n with
  | .scalar _ _ text _ => return text
  | _ => failure

def text? (d : Document) (n : Node) : Reading (Option String) := do
  match ← d.follow n with
  | .scalar _ tag text true =>
    if tag = some (coreTag "null") then (if isNullWord text then return none else failure)
    else if tag.isSome then return some text
    else return if text.isEmpty || isNullWord text then none else some text
  | .scalar _ _ text false => return some text
  | _ => failure

def items (d : Document) (n : Node) : Reading (List Node) := do
  match ← d.follow n with
  | .list _ _ items => return items
  | .scalar _ _ text plain => if text.isEmpty && plain then return [] else failure
  | _ => failure

/-- The parts of a structure by name, each at most once: a map of them, or a list of their values in order. -/
def fields (d : Document) (names : List String) (n : Node) : Reading (List (String × Node)) := do
  match ← d.follow n with
  | .map _ _ entries =>
    entries.foldlM (fun (m : List (String × Node)) (k, v) => do
      let name ← d.text k
      if names.contains name && (List.lookup name m).isNone then return (name, v) :: m else failure) []
  | .list _ _ items => if names.length < items.length then failure else return names.zip items
  | _ => failure

end Document
end Rehearsal.Yaml
