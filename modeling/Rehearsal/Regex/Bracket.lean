import Rehearsal.Regex.Token

/-! Bracketed classes. Open brackets and pending operations stand on a stack. -/
namespace Rehearsal.Regex

structure Operand where
  set : CharSet
  depth : Nat := 0

inductive SetOp where
  | inter
  | diff
  | symmDiff

def SetOp.apply : SetOp → CharSet → CharSet → CharSet
  | .inter => .inter
  | .diff => .diff
  | .symmDiff => .symmDiff

inductive Open where
  | bracket (outer : List Operand) (negated : Bool)
  | op (o : SetOp) (left : Operand)

def joinOperands : List Operand → Operand
  | [] => ⟨.empty, 0⟩
  | [a] => a
  | items => ⟨.unions (items.reverse.map (·.set)), 1 + (items.map (·.depth)).foldl max 0⟩

def closeOp (f : Flags) (right : Operand) : List Open → Operand × List Open
  | .op o left :: stack =>
    let folded (s : CharSet) : CharSet :=
      if f.caseless then (if f.unicode then .fold s else .foldAscii s) else s
    (⟨o.apply (folded left.set) (folded right.set), 1 + max left.depth right.depth⟩, stack)
  | stack => (right, stack)

def hyphens (f : Flags) : Nat → List Char → List Operand → List Char × List Operand
  | fuel + 1, '-' :: rest, items => hyphens f fuel (skip f rest) (⟨.single '-', 0⟩ :: items)
  | _, text, items => (text, items)

def openBracket? (f : Flags) (text : List Char) : Option (Bool × List Operand × List Char) :=
  let text := skip f text
  let (negated, text) := match text with
    | '^' :: rest => (true, skip f rest)
    | text => (false, text)
  let (text, items) := hyphens f text.length text []
  match text, items with
  | [], _ => none
  | ']' :: rest, [] =>
    let rest := skip f rest
    if rest.isEmpty then none else some (negated, [⟨.single ']', 0⟩], rest)
  | text, items => some (negated, items, text)

def asciiClass? (text : List Char) : Option (List (Char × Char) × Bool × List Char) :=
  match text with
  | '[' :: ':' :: rest =>
    let (negated, rest) := match rest with
      | '^' :: r => (true, r)
      | r => (false, r)
    let name := rest.takeWhile (· ≠ ':')
    match rest.dropWhile (· ≠ ':') with
    | ':' :: ']' :: rest =>
      ((asciiClasses.find? (·.1 == String.ofList name)).map (·.2)).map (·, negated, rest)
    | _ => none
  | _ => none

def item? (f : Flags) : List Char → Option (Primitive × List Char)
  | '\\' :: rest => escape? f rest
  | c :: rest => some (.char c false, rest)
  | [] => none

def Primitive.member? (f : Flags) : Primitive → Option Char
  | .char c _ => if f.unicode || c.toNat < 128 then some c else none
  | _ => none

def Primitive.memberSet? (f : Flags) : Primitive → Option CharSet
  | .set s => some s
  | p => (p.member? f).map .single

def range? (f : Flags) (text : List Char) : Option (Operand × List Char) := do
  let (first, rest) ← item? f text
  match skip f rest with
  | [] => none
  | '-' :: after =>
    let next := (skip f after).head?
    if next = some ']' ∨ next = some '-' then return (⟨← first.memberSet? f, 0⟩, '-' :: after)
    else
      let (last, rest) ← item? f (skip f after)
      let a ← first.member? f
      let b ← last.member? f
      if a ≤ b then some (⟨.ranges [(a, b)], 0⟩, rest) else none
  | rest => return (⟨← first.memberSet? f, 0⟩, rest)

/-- Reads to the end of the outermost bracket. Each turn takes at least one character, so the length of the
text is fuel enough. -/
def bracketLoop? (f : Flags) : Nat → List Open → List Operand → List Char → Option (Operand × List Char)
  | 0, _, _, _ => none
  | fuel + 1, stack, items, text =>
    let text := skip f text
    match text with
    | [] => none
    | '[' :: rest =>
      match asciiClass? text with
      | some (pairs, negated, rest) => do
        let s ← foldAndNegate f negated (.ranges pairs)
        bracketLoop? f fuel stack (⟨s, 0⟩ :: items) rest
      | none => do
        let (negated, inner, rest) ← openBracket? f rest
        bracketLoop? f fuel (.bracket items negated :: stack) inner rest
    | ']' :: rest =>
      match closeOp f (joinOperands items) stack with
      | (content, .bracket outer negated :: stack) => do
        let s ← foldAndNegate f negated content.set
        let done : Operand := ⟨s, content.depth + 1⟩
        if stack.isEmpty then some (done, rest) else bracketLoop? f fuel stack (done :: outer) rest
      | _ => none
    | '&' :: '&' :: rest =>
      let (left, stack) := closeOp f (joinOperands items) stack
      bracketLoop? f fuel (.op .inter left :: stack) [] rest
    | '-' :: '-' :: rest =>
      let (left, stack) := closeOp f (joinOperands items) stack
      bracketLoop? f fuel (.op .diff left :: stack) [] rest
    | '~' :: '~' :: rest =>
      let (left, stack) := closeOp f (joinOperands items) stack
      bracketLoop? f fuel (.op .symmDiff left :: stack) [] rest
    | text => do
      let (item, rest) ← range? f text
      bracketLoop? f fuel stack (item :: items) rest

def bracket? (f : Flags) (text : List Char) : Option (Operand × List Char) := do
  let (negated, items, rest) ← openBracket? f text
  bracketLoop? f (text.length + 1) [.bracket [] negated] items rest

end Rehearsal.Regex
