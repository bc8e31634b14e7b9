import Rehearsal.Unicode.Category
import Rehearsal.Unicode.Fold
import Rehearsal.Text.Search

/-! Sets of characters as patterns write them: kept as formulas, so that a complement costs nothing. -/
namespace Rehearsal.Regex

inductive CharSet where
  | ranges (pairs : List (Char × Char))
  | property (r : Unicode.Ranges)
  | compl (s : CharSet)
  | union (s t : CharSet)
  | inter (s t : CharSet)
  /-- The characters equal to one of the set up to case. -/
  | fold (s : CharSet)
  /-- The same with the case of ASCII letters alone. -/
  | foldAscii (s : CharSet)
deriving DecidableEq

namespace CharSet

def empty : CharSet := .ranges []
def any : CharSet := .compl empty
def single (c : Char) : CharSet := .ranges [(c, c)]
def diff (s t : CharSet) : CharSet := .inter s (.compl t)
def symmDiff (s t : CharSet) : CharSet := .union (diff s t) (diff t s)

def unions (sets : List CharSet) : CharSet :=
  sets.foldr .union empty

def asciiVariants (c : Char) : List Char :=
  [c, c.toUpper, c.toLower]

def mem (c : Char) : CharSet → Bool
  | .ranges pairs => pairs.any fun (a, b) => a ≤ c && c ≤ b
  | .property r => r.contains c
  | .compl s => !s.mem c
  | .union s t => s.mem c || t.mem c
  | .inter s t => s.mem c && t.mem c
  | .fold s => (Unicode.caseVariants c).any fun d => s.mem d
  | .foldAscii s => (asciiVariants c).any fun d => s.mem d

end CharSet

def wordSet : CharSet :=
  .unions [.property Unicode.alphabeticRanges, .property Unicode.nonspacingMark, .property Unicode.spacingMark,
    .property Unicode.enclosingMark, .property Unicode.decimalNumber, .property Unicode.connectorPunctuation,
    .property (.ofText Unicode.joinControl)]

def digitSet : CharSet := .property Unicode.decimalNumber

def spaceSet : CharSet :=
  .ranges [('\t', '\r'), (' ', ' '), ('\u0085', '\u0085'), ('\u00a0', '\u00a0'), ('\u1680', '\u1680'),
    ('\u2000', '\u200a'), ('\u2028', '\u2029'), ('\u202f', '\u202f'), ('\u205f', '\u205f'), ('\u3000', '\u3000')]

def asciiWord : CharSet := .ranges [('0', '9'), ('A', 'Z'), ('_', '_'), ('a', 'z')]

def asciiClasses : List (String × List (Char × Char)) :=
  [("alnum", [('0', '9'), ('A', 'Z'), ('a', 'z')]),
   ("alpha", [('A', 'Z'), ('a', 'z')]),
   ("ascii", [('\x00', '\x7f')]),
   ("blank", [('\t', '\t'), (' ', ' ')]),
   ("cntrl", [('\x00', '\x1f'), ('\x7f', '\x7f')]),
   ("digit", [('0', '9')]),
   ("graph", [('!', '~')]),
   ("lower", [('a', 'z')]),
   ("print", [(' ', '~')]),
   ("punct", [('!', '/'), (':', '@'), ('[', '\x60'), ('\x7b', '~')]),
   ("space", [('\t', '\r'), (' ', ' ')]),
   ("upper", [('A', 'Z')]),
   ("word", [('0', '9'), ('A', 'Z'), ('_', '_'), ('a', 'z')]),
   ("xdigit", [('0', '9'), ('A', 'F'), ('a', 'f')])]

end Rehearsal.Regex
