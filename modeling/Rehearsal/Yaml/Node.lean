import Rehearsal.Yaml.Event

/-!
The nodes of a document as a tree. Anchors are numbered, and aliases refer to the numbers: a new name takes
the count of the names so far, and a name used again takes that count too, so that it shares its number with
the next new name. Of the nodes with one number the last to begin counts.
-/
namespace Rehearsal.Yaml

inductive Node where
  | scalar (anchor : Option Nat) (tag : Option String) (text : String) (plain : Bool)
  | list (anchor : Option Nat) (tag : Option String) (items : List Node)
  | map (anchor : Option Nat) (tag : Option String) (entries : List (Node × Node))
  | alias (number : Nat)
deriving Inhabited

abbrev Names := List (List Char × Nat)

def Names.add (names : Names) (name : List Char) : Names × Nat :=
  let number := names.length
  if (List.lookup name names).isSome then
    (names.map fun (n, i) => if n = name then (n, number) else (n, i), number)
  else ((name, number) :: names, number)

structure Opened where
  isMap : Bool
  anchor : Option Nat
  tag : Option String
  parts : List Node := []

structure Composing where
  names : Names := []
  opened : List Opened := []
  root : Option Node := none

def depthLimit : Nat := 128

def pairs : List Node → List (Node × Node)
  | k :: v :: rest => (k, v) :: pairs rest
  | _ => []

namespace Composing

def accept (c : Composing) (n : Node) : Composing :=
  match c.opened with
  | [] => { c with root := some n }
  | o :: rest => { c with opened := { o with parts := n :: o.parts } :: rest }

def mark (c : Composing) (m : Marks) : Composing × Option Nat × Option String :=
  let tag := m.tag.map String.ofList
  match m.anchor with
  | none => (c, none, tag)
  | some name =>
    let (names, number) := c.names.add name
    ({ c with names }, some number, tag)

def begin? (c : Composing) (isMap : Bool) (m : Marks) : Option Composing :=
  let (c, anchor, tag) := c.mark m
  if depthLimit ≤ c.opened.length then none
  else some { c with opened := { isMap, anchor, tag } :: c.opened }

def step? (c : Composing) : Event → Option Composing
  | .scalar m text plain =>
    let (c, anchor, tag) := c.mark m
    some (c.accept (.scalar anchor tag (.ofList text) plain))
  | .alias name => (List.lookup name c.names).map fun n => c.accept (.alias n)
  | .list m => c.begin? false m
  | .map m => c.begin? true m
  | .close =>
    match c.opened with
    | [] => none
    | o :: rest =>
      let parts := o.parts.reverse
      let n := if o.isMap then Node.map o.anchor o.tag (pairs parts) else .list o.anchor o.tag parts
      some ({ c with opened := rest }.accept n)

end Composing

def Node.ofEvents? (events : List Event) : Option Node :=
  (events.foldlM Composing.step? {}).bind (·.root)

mutual
def Node.anchored (n : Node) : List (Nat × Node) :=
  match n with
  | .scalar a _ _ _ => a.toList.map (·, n)
  | .list a _ items => a.toList.map (·, n) ++ anchoredItems items
  | .map a _ entries => a.toList.map (·, n) ++ anchoredEntries entries
  | .alias _ => []

def anchoredItems : List Node → List (Nat × Node)
  | [] => []
  | n :: rest => n.anchored ++ anchoredItems rest

def anchoredEntries : List (Node × Node) → List (Nat × Node)
  | [] => []
  | (k, v) :: rest => k.anchored ++ v.anchored ++ anchoredEntries rest
end

end Rehearsal.Yaml
