import Rehearsal.Yaml.Scalar
import Rehearsal.Yaml.Tag

/-!
The tokens of a document. Indentation becomes tokens that open and close blocks, and a key without a sign of
its own gets one: it is found by the colon behind it, on the same line and within 1024 characters.
-/
namespace Rehearsal.Yaml

inductive Token where
  | directive (d : Directive)
  | documentStart
  | documentEnd
  | openList
  | openMap
  | close
  | openFlowList
  | closeFlowList
  | openFlowMap
  | closeFlowMap
  /-- The sign of an item in a block list. -/
  | item
  | comma
  | key
  | value
  | alias (name : List Char)
  | anchor (name : List Char)
  | tag (t : Tag)
  | scalar (text : List Char) (plain : Bool)

/-- A token that may turn out to be a key: its number, its place, and whether nothing else may stand there. -/
structure Candidate where
  number : Nat
  spot : Spot
  required : Bool

structure Scan where
  tokens : Array Token := #[]
  /-- The column of the innermost block, -1 outside all, and those of the outer ones. -/
  indent : Int := -1
  outer : List Int := []
  /-- The candidate of this level and those of the levels outside each open bracket. -/
  candidate : Option Candidate := none
  suspended : List (Option Candidate) := []
  keyAllowed : Bool := true

namespace Scan

def inFlow (s : Scan) : Bool := !s.suspended.isEmpty

def emit (s : Scan) (t : Token) : Scan := { s with tokens := s.tokens.push t }

def openBlock (s : Scan) (column : Nat) (number : Option Nat) (t : Token) : Scan :=
  if !s.inFlow ∧ s.indent < column then
    let tokens := match number with
      | none => s.tokens.push t
      | some n => s.tokens.insertIdxIfInBounds n t
    { s with tokens, indent := column, outer := s.indent :: s.outer }
  else s

def closeBlocksFrom (column : Int) (tokens : Array Token) (indent : Int) : List Int → Array Token × Int × List Int
  | [] => (tokens, indent, [])
  | i :: outer =>
    if column < indent then closeBlocksFrom column (tokens.push .close) i outer else (tokens, indent, i :: outer)

def closeBlocks (s : Scan) (column : Int) : Scan :=
  if s.inFlow then s
  else
    let (tokens, indent, outer) := closeBlocksFrom column s.tokens s.indent s.outer
    { s with tokens, indent, outer }

def dropCandidate? (s : Scan) : Option Scan :=
  match s.candidate with
  | some c => if c.required then none else some { s with candidate := none }
  | none => some s

def saveCandidate? (s : Scan) (spot : Spot) : Option Scan := do
  if !s.keyAllowed then return s
  let s ← s.dropCandidate?
  let required := !s.inFlow && s.indent == spot.column
  return { s with candidate := some { number := s.tokens.size, spot, required } }

def Candidate.isStale (here : Spot) (c : Candidate) : Bool :=
  c.spot.line < here.line || c.spot.index + 1024 < here.index

def freshen? (here : Spot) : Option Candidate → Option (Option Candidate)
  | some c => if Candidate.isStale here c then (if c.required then none else some none) else some (some c)
  | none => some none

def dropStale? (s : Scan) (here : Spot) : Option Scan := do
  return { s with candidate := ← freshen? here s.candidate, suspended := ← s.suspended.mapM (freshen? here) }

def openFlow? (s : Scan) (spot : Spot) (t : Token) : Option Scan := do
  let s ← s.saveCandidate? spot
  return { s with candidate := none, suspended := s.candidate :: s.suspended, keyAllowed := true }.emit t

def closeFlow? (s : Scan) (t : Token) : Option Scan := do
  let s ← s.dropCandidate?
  let s := match s.suspended with
    | c :: rest => { s with candidate := c, suspended := rest }
    | [] => s
  return { s with keyAllowed := false }.emit t

def comma? (s : Scan) : Option Scan := do
  let s ← s.dropCandidate?
  return { s with keyAllowed := true }.emit .comma

def item? (s : Scan) (column : Nat) : Option Scan := do
  if !s.inFlow && !s.keyAllowed then none
  let s ← (s.openBlock column none .openList).dropCandidate?
  return { s with keyAllowed := true }.emit .item

def key? (s : Scan) (column : Nat) : Option Scan := do
  if !s.inFlow && !s.keyAllowed then none
  let s ← (s.openBlock column none .openMap).dropCandidate?
  return { s with keyAllowed := !s.inFlow }.emit .key

def value? (s : Scan) (column : Nat) : Option Scan :=
  match s.candidate with
  | some c =>
    let s := { s with tokens := s.tokens.insertIdxIfInBounds c.number .key }
    let s := s.openBlock c.spot.column (some c.number) .openMap
    some ({ s with candidate := none, keyAllowed := false }.emit .value)
  | none =>
    if !s.inFlow && !s.keyAllowed then none
    else
      let s := s.openBlock column none .openMap
      some ({ s with keyAllowed := !s.inFlow }.emit .value)

def nodePart? (s : Scan) (spot : Spot) (t : Token) : Option Scan := do
  let s ← s.saveCandidate? spot
  return { s with keyAllowed := false }.emit t

def outermost? (s : Scan) : Option Scan := do
  let s ← (s.closeBlocks (-1)).dropCandidate?
  return { s with keyAllowed := false }

/-- Passes over blanks, comments and breaks; tells whether a key may follow. A tab is no blank where a key may
stand, except inside brackets. -/
def skipGap (inFlow : Bool) (keyAllowed comment : Bool) : List Letter → Bool × List Letter
  | [] => (keyAllowed, [])
  | l :: rest =>
    if isBreak l.char then skipGap inFlow (keyAllowed || !inFlow) false rest
    else if comment then skipGap inFlow keyAllowed true rest
    else if l.char = '#' then skipGap inFlow keyAllowed true rest
    else if l.char = ' ' ∨ (l.char = '\t' ∧ (inFlow || !keyAllowed)) ∨ (l.char = '\ufeff' ∧ l.column = 0) then
      skipGap inFlow keyAllowed false rest
    else (keyAllowed, l :: rest)

def isIndicator (c : Char) : Bool :=
  "-?:,[]\x7b\x7d#&*!|>'\"%@\x60".toList.contains c

def beginsPlain (s : Scan) (c : Char) (rest : List Letter) : Bool :=
  (!isBlank c && !isIndicator c)
    || (c == '-' && !(match rest with | l :: _ => isBlank l.char | [] => false))
    || (!s.inFlow && (c == '?' || c == ':') && !isGapAhead rest)

def scalar? (s : Scan) (spot : Spot) (plain : Bool) (read : Option (List Char × List Letter)) :
    Option (Scan × List Letter) := do
  let (text, rest) ← read
  return (← s.nodePart? spot (.scalar text plain), rest)

def token? (s : Scan) (l : Letter) (rest : List Letter) : Option (Scan × List Letter) := do
  let c := l.char
  let ends := s.inFlow || isGapAhead rest
  if l.column = 0 ∧ c = '%' then
    let (d, rest) ← directiveFrom? rest
    return ((← s.outermost?).emit (.directive d), rest)
  else if isDocumentMark (l :: rest) then
    return ((← s.outermost?).emit (if c = '-' then .documentStart else .documentEnd), rest.drop 2)
  else if c = '[' then return (← s.openFlow? l.spot .openFlowList, rest)
  else if c = '\x7b' then return (← s.openFlow? l.spot .openFlowMap, rest)
  else if c = ']' then return (← s.closeFlow? .closeFlowList, rest)
  else if c = '\x7d' then return (← s.closeFlow? .closeFlowMap, rest)
  else if c = ',' then return (← s.comma?, rest)
  else if c = '-' ∧ isGapAhead rest then return (← s.item? l.column, rest)
  else if c = '?' ∧ ends then return (← s.key? l.column, rest)
  else if c = ':' ∧ ends then return (← s.value? l.column, rest)
  else if c = '*' then
    let (name, rest) ← anchorFrom? rest
    return (← s.nodePart? l.spot (.alias name), rest)
  else if c = '&' then
    let (name, rest) ← anchorFrom? rest
    return (← s.nodePart? l.spot (.anchor name), rest)
  else if c = '!' then
    let (t, rest) ← tagFrom? (l :: rest)
    let commaAhead : Bool := match rest with
      | l :: _ => s.inFlow && l.char == ','
      | [] => false
    if isGapAhead rest ∨ commaAhead then return (← s.nodePart? l.spot (.tag t), rest) else none
  else if (c = '|' ∨ c = '>') ∧ !s.inFlow then
    let s ← s.dropCandidate?
    let (text, rest) ← blockFrom? (c == '|') s.indent rest
    return ({ s with keyAllowed := true }.emit (.scalar text false), rest)
  else if c = '\'' ∨ c = '"' then
    s.scalar? l.spot false (quotedFrom? (c == '\'') .text {} [] rest)
  else if s.beginsPlain c rest then
    let (text, broken, rest) ← plainFrom? s.inFlow (s.indent + 1) {} [] (l :: rest)
    let s ← s.nodePart? l.spot (.scalar text true)
    return ({ s with keyAllowed := broken }, rest)
  else none

def run? (last : Spot) : Nat → Scan → List Letter → Option Scan
  | 0, _, _ => none
  | fuel + 1, s, letters => do
    let (keyAllowed, letters) := skipGap s.inFlow s.keyAllowed false letters
    let here := match letters with
      | l :: _ => l.spot
      | [] => last
    let s ← { s with keyAllowed }.dropStale? here
    let s := s.closeBlocks here.column
    match letters with
    | [] => s.outermost?
    | l :: rest =>
      let (s, rest) ← s.token? l rest
      run? last fuel s rest

end Scan

def Token.ofText? (text : String) : Option (List Token) := do
  let (letters, last) := place text.toList
  let characters := text.toList
  if characters.all isAllowed then
    let s ← Scan.run? last (letters.length + 1) {} letters
    return s.tokens.toList
  else none

end Rehearsal.Yaml
