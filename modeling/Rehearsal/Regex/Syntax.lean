import Rehearsal.Regex.Bracket
import Rehearsal.Unicode.Category

/-! Patterns as written. Groups that are open stand on a stack; each step reads one token. -/
namespace Rehearsal.Regex

structure Part where
  expr : Expr
  depth : Nat := 0
  setting : Bool := false

/-- An open group, or the whole pattern: its finished alternatives and the parts of the one under way, each
last first, and the flags that hold again behind it. -/
structure Level where
  branches : List Part := []
  parts : List Part := []
  outer : Flags := {}

structure Parse where
  level : Level := {}
  above : List Level := []
  flags : Flags := {}
  names : List (List Char) := []

def nestLimit : Nat := 250

def sequence : List Part → Part
  | [] => ⟨.empty, 0, false⟩
  | [p] => p
  | parts => ⟨parts.foldl (fun e p => .seq p.expr e) .empty, 1 + (parts.map (·.depth)).foldl max 0, false⟩

def Level.close (l : Level) : Part :=
  let last := sequence l.parts
  match l.branches with
  | [] => last
  | branches =>
    ⟨branches.foldl (fun e p => .alt p.expr e) last.expr,
      1 + ((last :: branches).map (·.depth)).foldl max 0, false⟩

def Parse.push (s : Parse) (p : Part) : Parse :=
  { s with level := { s.level with parts := p :: s.level.parts } }

def Parse.literal (s : Parse) (c : Char) : Parse :=
  let one := CharSet.single c
  let set := if s.flags.caseless then (if s.flags.unicode then .fold one else .foldAscii one) else one
  s.push ⟨.set set, 0, false⟩

def Parse.primitive? (s : Parse) (p : Primitive) : Option Parse :=
  if !p.isSound s.flags then none else
    match p with
    | .char c _ => some (s.literal c)
    | .set t => some (s.push ⟨.set t, 0, false⟩)
    | .anchor a => some (s.push ⟨.anchor a, 0, false⟩)

def Parse.dot? (s : Parse) : Option Parse :=
  let f := s.flags
  if !f.unicode then none else
    let set : CharSet :=
      if f.dotAll then .any
      else if f.crlf then .compl (.ranges [('\n', '\n'), ('\r', '\r')])
      else .compl (.single '\n')
    some (s.push ⟨.set set, 0, false⟩)

def Parse.lineAnchor (s : Parse) (text line crlf : Anchor) : Parse :=
  let f := s.flags
  s.push ⟨.anchor (if !f.multiLine then text else if f.crlf then crlf else line), 0, false⟩

def Parse.repeat? (s : Parse) (times : Expr → Expr) : Option Parse :=
  match s.level.parts with
  | p :: parts =>
    if p.setting then none
    else some { s with level := { s.level with parts := ⟨times p.expr, p.depth + 1, false⟩ :: parts } }
  | [] => none

/-- A question mark behind a repetition says which match is preferred, not what matches. -/
def dropLazy : List Char → List Char
  | '?' :: rest => rest
  | text => text

inductive Flag where
  | caseless
  | multiLine
  | dotAll
  | swapGreed
  | unicode
  | crlf
  | extended
deriving DecidableEq

def flag? (c : Char) : Option Flag :=
  match c with
  | 'i' => some .caseless
  | 'm' => some .multiLine
  | 's' => some .dotAll
  | 'U' => some .swapGreed
  | 'u' => some .unicode
  | 'R' => some .crlf
  | 'x' => some .extended
  | _ => none

def Flags.set (f : Flags) (on : Bool) : Flag → Flags
  | .caseless => { f with caseless := on }
  | .multiLine => { f with multiLine := on }
  | .dotAll => { f with dotAll := on }
  | .swapGreed => f
  | .unicode => { f with unicode := on }
  | .crlf => { f with crlf := on }
  | .extended => { f with extended := on }

/-- Flags up to the colon or parenthesis that ends them: each at most once, at most one hyphen and not last.
Gives whether any sign was read. -/
def flags? : List Char → (seen : List Flag) → (negated last : Bool) → Flags →
    Option (Flags × Bool × Char × List Char)
  | [], _, _, _, _ => none
  | c :: rest, seen, negated, last, f =>
    if c = ':' ∨ c = ')' then
      if last then none else some (f, !(seen.isEmpty && !negated), c, rest)
    else if c = '-' then
      if negated then none else flags? rest seen true true f
    else match flag? c with
      | none => none
      | some g => if seen.contains g then none else flags? rest (g :: seen) negated false (f.set (!negated) g)

def isNameStart (c : Char) : Bool := c == '_' || Unicode.isAlphabetic c

def isNameChar (c : Char) : Bool :=
  c == '_' || c == '.' || c == '[' || c == ']' || Unicode.isAlphanumeric c

def groupName? (text : List Char) : Option (List Char × List Char) :=
  match text.takeWhile (· ≠ '>'), text.dropWhile (· ≠ '>') with
  | c :: name, '>' :: rest => if isNameStart c && name.all isNameChar then some (c :: name, rest) else none
  | _, _ => none

def Parse.openGroup (s : Parse) (flags : Flags) : Parse :=
  { s with level := { outer := s.flags }, above := s.level :: s.above, flags }

def Parse.openNamed? (s : Parse) (text : List Char) : Option (Parse × List Char) := do
  let (name, rest) ← groupName? text
  if s.names.contains name then none
  else some ({ s with names := name :: s.names }.openGroup s.flags, rest)

def Parse.group? (s : Parse) (text : List Char) : Option (Parse × List Char) :=
  match skip s.flags text with
  | '?' :: 'P' :: '<' :: rest => s.openNamed? rest
  | '?' :: '=' :: _ | '?' :: '!' :: _ | '?' :: '<' :: '=' :: _ | '?' :: '<' :: '!' :: _ => none
  | '?' :: '<' :: rest => s.openNamed? rest
  | '?' :: rest => do
    let (f, any, last, rest) ← flags? rest [] false false s.flags
    if last = ')' then
      if any then some ({ s with flags := f }.push ⟨.empty, 0, true⟩, rest) else none
    else some (s.openGroup f, rest)
  | rest => some (s.openGroup s.flags, rest)

def Parse.closeGroup? (s : Parse) : Option Parse :=
  match s.above with
  | [] => none
  | l :: above =>
    let body := s.level.close
    some ({ s with level := l, above, flags := s.level.outer }.push ⟨body.expr, body.depth + 1, false⟩)

def Parse.branch (s : Parse) : Parse :=
  { s with level := { s.level with branches := sequence s.level.parts :: s.level.branches, parts := [] } }

def Parse.step? (s : Parse) : List Char → Option (Parse × List Char)
  | [] => none
  | c :: rest =>
    match c with
    | '(' => s.group? rest
    | ')' => s.closeGroup?.map (·, rest)
    | '|' => some (s.branch, rest)
    | '[' => do
      let (o, rest) ← bracket? s.flags rest
      return (s.push ⟨.set o.set, o.depth, false⟩, rest)
    | '?' => (s.repeat? fun e => .alt e .empty).map (·, dropLazy rest)
    | '*' => (s.repeat? .star).map (·, dropLazy rest)
    | '+' => (s.repeat? fun e => .times e 1 none).map (·, dropLazy rest)
    | '\x7b' => do
      let ((least, most), rest) ← bounds? s.flags rest
      let s ← s.repeat? fun e => .times e least most
      return (s, dropLazy rest)
    | '\\' => do
      let (p, rest) ← escape? s.flags rest
      return (← s.primitive? p, rest)
    | '.' => s.dot?.map (·, rest)
    | '^' => some (s.lineAnchor .textStart .lineStart .crlfStart, rest)
    | '$' => some (s.lineAnchor .textEnd .lineEnd .crlfEnd, rest)
    | c => some (s.literal c, rest)

def Parse.run? : Nat → Parse → List Char → Option Parse
  | fuel, s, text =>
    match skip s.flags text with
    | [] => some s
    | text =>
      match fuel with
      | 0 => none
      | fuel + 1 => (s.step? text).bind fun (s, rest) => run? fuel s rest

def Parse.finish? (s : Parse) : Option Expr :=
  let body := s.level.close
  if s.above.isEmpty ∧ body.depth ≤ nestLimit then some body.expr else none

def Expr.ofPattern? (pattern : List Char) : Option Expr :=
  (Parse.run? pattern.length {} pattern).bind Parse.finish?

end Rehearsal.Regex
