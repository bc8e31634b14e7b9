import Rehearsal.Yaml.Token

/-!
The events of a document, in the order of its text: scalars, aliases, and where lists and maps begin and end.
They are read with a stack of goals; a goal looks at the next tokens, and leaves the goals that follow from it.
-/
namespace Rehearsal.Yaml

structure Marks where
  anchor : Option (List Char) := none
  tag : Option (List Char) := none

inductive Event where
  | scalar (marks : Marks) (text : List Char) (plain : Bool)
  | alias (name : List Char)
  | list (marks : Marks)
  | map (marks : Marks)
  | close

inductive Goal where
  /-- A node; without brackets only where `block`, and a list at the indentation of its key only where `flush`. -/
  | node (block flush : Bool)
  | items
  /-- Items at the indentation of the key before them; what follows them closes the list. -/
  | flushItems
  | key
  | value
  | flowItems (first : Bool)
  /-- The key and the value of a pair that is an item of a list in brackets. -/
  | pairKey
  | pairValue
  | pairEnd
  | flowKey (first : Bool)
  | flowValue
  | noValue
deriving DecidableEq

abbrev Move := List Goal × List Event × List Token

def emptyScalar : Event := .scalar {} [] true

abbrev Handles := List (List Char × List Char)

def defaultHandles : Handles := [(['!'], ['!']), (['!', '!'], "tag:yaml.org,2002:".toList)]

def Tag.resolve? (handles : Handles) (t : Tag) : Option (List Char) :=
  if t.handle.isEmpty then some t.suffix else (List.lookup t.handle handles).map (· ++ t.suffix)

def marks? (handles : Handles) : List Token → Option (Marks × List Token)
  | .anchor a :: .tag t :: rest => do return ({ anchor := a, tag := ← t.resolve? handles }, rest)
  | .tag t :: .anchor a :: rest => do return ({ anchor := a, tag := ← t.resolve? handles }, rest)
  | .anchor a :: rest => some ({ anchor := a }, rest)
  | .tag t :: rest => do return ({ tag := ← t.resolve? handles }, rest)
  | rest => some ({}, rest)

def node? (handles : Handles) (block flush : Bool) (tokens : List Token) : Option Move := do
  match tokens with
  | .alias name :: rest => return ([], [.alias name], rest)
  | _ =>
    let (m, rest) ← marks? handles tokens
    let unmarked := m.anchor.isNone && m.tag.isNone
    let empty : Option Move := if unmarked then none else some ([], [.scalar m [] true], rest)
    match rest with
    | .item :: _ => if flush then some ([.flushItems], [.list m], rest) else empty
    | .scalar text plain :: rest =>
      let m := if m.tag = some ['!'] then { m with tag := none } else m
      return ([], [.scalar m text plain], rest)
    | .openFlowList :: rest => return ([.flowItems true], [.list m], rest)
    | .openFlowMap :: rest => return ([.flowKey true], [.map m], rest)
    | .openList :: rest => if block then some ([.items], [.list m], rest) else empty
    | .openMap :: rest => if block then some ([.key], [.map m], rest) else empty
    | _ => empty

def endsItem : List Token → Bool
  | .item :: _ | .close :: _ => true
  | _ => false

def endsFlushItem : List Token → Bool
  | .item :: _ | .key :: _ | .value :: _ | .close :: _ => true
  | _ => false

def endsBlockPart : List Token → Bool
  | .key :: _ | .value :: _ | .close :: _ => true
  | _ => false

def nodeOr (nothing : Bool) (block flush : Bool) (next : Goal) (tokens : List Token) : Option Move :=
  if nothing then some ([next], [emptyScalar], tokens) else some ([.node block flush, next], [], tokens)

def flowItem? : List Token → Option Move
  | .key :: rest => some ([.pairKey], [.map {}], rest)
  | .closeFlowList :: rest => some ([], [.close], rest)
  | rest => some ([.node false false, .flowItems false], [], rest)

def flowEntry? : List Token → Option Move
  | .key :: rest =>
    let nothing := match rest with
      | .value :: _ | .comma :: _ | .closeFlowMap :: _ => true
      | _ => false
    nodeOr nothing false false .flowValue rest
  | .closeFlowMap :: rest => some ([], [.close], rest)
  | rest => some ([.node false false, .noValue], [], rest)

def Goal.step? (handles : Handles) (g : Goal) (tokens : List Token) : Option Move :=
  match g, tokens with
  | .node block flush, _ => node? handles block flush tokens
  | .items, .item :: rest => nodeOr (endsItem rest) true false .items rest
  | .items, .close :: rest => some ([], [.close], rest)
  | .items, _ => none
  | .flushItems, .item :: rest => nodeOr (endsFlushItem rest) true false .flushItems rest
  | .flushItems, _ => some ([], [.close], tokens)
  | .key, .key :: rest => nodeOr (endsBlockPart rest) true true .value rest
  | .key, .close :: rest => some ([], [.close], rest)
  | .key, _ => none
  | .value, .value :: rest => nodeOr (endsBlockPart rest) true true .key rest
  | .value, _ => some ([.key], [emptyScalar], tokens)
  | .flowItems true, _ => flowItem? tokens
  | .flowItems false, .closeFlowList :: rest => some ([], [.close], rest)
  | .flowItems false, .comma :: rest => flowItem? rest
  | .flowItems false, _ => none
  | .pairKey, .value :: rest | .pairKey, .comma :: rest | .pairKey, .closeFlowList :: rest =>
    some ([.pairValue], [emptyScalar], rest)
  | .pairKey, _ => some ([.node false false, .pairValue], [], tokens)
  | .pairValue, .value :: rest =>
    let nothing := match rest with
      | .comma :: _ | .closeFlowList :: _ => true
      | _ => false
    nodeOr nothing false false .pairEnd rest
  | .pairValue, _ => some ([.pairEnd], [emptyScalar], tokens)
  | .pairEnd, _ => some ([.flowItems false], [.close], tokens)
  | .flowKey true, _ => flowEntry? tokens
  | .flowKey false, .closeFlowMap :: rest => some ([], [.close], rest)
  | .flowKey false, .comma :: rest => flowEntry? rest
  | .flowKey false, _ => none
  | .flowValue, .value :: rest =>
    let nothing := match rest with
      | .comma :: _ | .closeFlowMap :: _ => true
      | _ => false
    nodeOr nothing false false (.flowKey false) rest
  | .flowValue, _ | .noValue, _ => some ([.flowKey false], [emptyScalar], tokens)

def run? (handles : Handles) : Nat → List Goal → List Event → List Token → Option (List Event × List Token)
  | 0, _, _, _ => none
  | _ + 1, [], events, tokens => some (events, tokens)
  | fuel + 1, g :: goals, events, tokens => do
    let (more, seen, rest) ← g.step? handles tokens
    run? handles fuel (more ++ goals) (seen.reverse ++ events) rest

def directives? (version : Bool) (handles : Handles) : List Token → Option (Handles × List Token)
  | .directive (.version major minor) :: rest =>
    if version ∨ major ≠ 1 ∨ (minor ≠ 1 ∧ minor ≠ 2) then none else directives? true handles rest
  | .directive (.handle name start) :: rest =>
    if (List.lookup name handles).isSome then none else directives? version ((name, start) :: handles) rest
  | rest => some (handles ++ defaultHandles, rest)

def isDocumentEnd : Token → Bool
  | .documentEnd => true
  | _ => false

def events? (tokens : List Token) : Option (List Event) := do
  let fuel := 8 * tokens.length + 8
  match tokens with
  | [] => return [emptyScalar]
  | .directive _ :: _ | .documentStart :: _ =>
    let (handles, rest) ← directives? false [] tokens
    match rest with
    | .documentStart :: rest =>
      match rest with
      | [] | .directive _ :: _ | .documentStart :: _ | .documentEnd :: _ => finish ([emptyScalar], rest)
      | _ => finish (← run? handles fuel [.node true false] [] rest)
    | _ => none
  | _ => finish (← run? defaultHandles fuel [.node true false] [] tokens)
where
  finish : List Event × List Token → Option (List Event)
    | (events, rest) => if rest.all isDocumentEnd then some events.reverse else none

end Rehearsal.Yaml
