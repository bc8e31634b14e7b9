import Rehearsal.Unicode.Category
import Rehearsal.Unicode.Property

/-!
Quoted text in messages: what cannot be seen is written as an escape, so that a reader can tell two
values apart that print alike.
-/
namespace Rehearsal.Text

def unseen : List Unicode.Ranges :=
  [Unicode.control, Unicode.format, Unicode.privateUse, Unicode.unassigned, Unicode.lineSeparator,
   Unicode.paragraphSeparator, Unicode.spaceSeparator]

def graphemeExtenders : Unicode.Ranges := .ofText Unicode.graphemeExtend

def isPrintable (c : Char) : Bool :=
  c == ' ' || !(graphemeExtenders.contains c || unseen.any (·.contains c))

def escape (quote c : Char) : List Char :=
  if c = '\x00' then ['\\', '0']
  else if c = '\t' then ['\\', 't']
  else if c = '\r' then ['\\', 'r']
  else if c = '\n' then ['\\', 'n']
  else if c = '\\' ∨ c = quote then ['\\', c]
  else if isPrintable c then [c]
  else '\\' :: 'u' :: '\x7b' :: Nat.toDigits 16 c.toNat ++ ['\x7d']

def quoted (s : String) : String :=
  .ofList ('"' :: s.toList.flatMap (escape '"') ++ ['"'])

def quotedChar (c : Char) : String :=
  .ofList ('\'' :: escape '\'' c ++ ['\''])

end Rehearsal.Text
