/-!
The characters of a document with their places. Every kind of line break is one character here, and the
kinds that count as plain ones are all `\n`.
-/
namespace Rehearsal.Yaml

structure Spot where
  line : Nat := 0
  column : Nat := 0
  index : Nat := 0
deriving DecidableEq, Inhabited

structure Letter where
  char : Char
  spot : Spot

namespace Letter

def column (l : Letter) : Nat := l.spot.column

end Letter

def isBreak (c : Char) : Bool := c == '\n' || c == '\u2028' || c == '\u2029'

def isBlank (c : Char) : Bool := c == ' ' || c == '\t'

def isAllowed (c : Char) : Bool :=
  let n := c.toNat
  n == 9 || n == 10 || n == 13 || (0x20 ≤ n && n ≤ 0x7E) || n == 0x85 || (0xA0 ≤ n && n ≤ 0xFFFD) || 0x10000 ≤ n

def placeFrom (s : Spot) : List Char → List Letter × Spot
  | [] => ([], s)
  | '\r' :: '\n' :: rest =>
    let (letters, last) := placeFrom ⟨s.line + 1, 0, s.index + 2⟩ rest
    (⟨'\n', s⟩ :: letters, last)
  | c :: rest =>
    let d := if c = '\r' ∨ c = '\u0085' then '\n' else c
    let next : Spot := if isBreak d then ⟨s.line + 1, 0, s.index + 1⟩ else ⟨s.line, s.column + 1, s.index + 1⟩
    let (letters, last) := placeFrom next rest
    (⟨d, s⟩ :: letters, last)

def place (text : List Char) : List Letter × Spot := placeFrom {} text

def isGapAhead : List Letter → Bool
  | [] => true
  | l :: _ => isBlank l.char || isBreak l.char

def isDocumentMark : List Letter → Bool
  | a :: b :: c :: rest =>
    a.column == 0 && (a.char == '-' || a.char == '.') && b.char == a.char && c.char == a.char && isGapAhead rest
  | _ => false

def spanLetters (p : Char → Bool) (letters : List Letter) : List Char × List Letter :=
  ((letters.takeWhile fun l => p l.char).map (·.char), letters.dropWhile fun l => p l.char)

def skipBlanks (letters : List Letter) : List Letter :=
  letters.dropWhile fun l => isBlank l.char

def endOfLine? (letters : List Letter) : Option (List Letter) :=
  let rest := skipBlanks letters
  match (if (rest.head?.map (·.char)) = some '#' then rest.dropWhile fun l => !isBreak l.char else rest) with
  | [] => some []
  | l :: rest => if isBreak l.char then some rest else none

/--
What stands between two parts of a scalar: blanks on one line, or breaks. One plain break is a space, of
several all but the first stay.
-/
structure Gap where
  blanks : List Char := []
  broken : Bool := false
  first : Option Char := none
  others : List Char := []

namespace Gap

def swallowed : Gap := { broken := true }

def isEmpty (g : Gap) : Bool := g.blanks.isEmpty && !g.broken

def addBlank (g : Gap) (c : Char) : Gap :=
  if g.broken then g else { g with blanks := c :: g.blanks }

def addBreak (g : Gap) (c : Char) : Gap :=
  if g.broken then { g with others := c :: g.others } else { blanks := [], broken := true, first := some c, others := [] }

def textBackwards (g : Gap) : List Char :=
  if !g.broken then g.blanks
  else match g.first with
    | some '\n' => if g.others.isEmpty then [' '] else g.others
    | some c => g.others ++ [c]
    | none => g.others

end Gap
end Rehearsal.Yaml
