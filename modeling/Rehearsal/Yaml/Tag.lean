import Rehearsal.Text.Utf8
import Rehearsal.Unicode.Ranges
import Rehearsal.Yaml.Letter

/-! The written forms of tags, anchors and directives. -/
namespace Rehearsal.Yaml

def isNameChar (c : Char) : Bool := c.isAlphanum || c == '_' || c == '-'

structure Tag where
  handle : List Char
  suffix : List Char
deriving DecidableEq

def isTagChar (wide : Bool) (c : Char) : Bool :=
  isNameChar c || ";/?:@&=+$.%!~*'()".toList.contains c || (wide && (c == ',' || c == '[' || c == ']'))

def tagBytes? : List Char → Option (List UInt8)
  | [] => some []
  | '%' :: a :: b :: rest => do
    if (Unicode.hexDigit? a).isNone ∨ (Unicode.hexDigit? b).isNone then none
    return UInt8.ofNat (Unicode.hexValue [a, b]) :: (← tagBytes? rest)
  | '%' :: _ => none
  | c :: rest => do return UInt8.ofNat c.toNat :: (← tagBytes? rest)

def tagText? (text : List Char) : Option (List Char) := do
  let s ← Text.Utf8.decode? (← tagBytes? text)
  return s.toList

def word (wide : Bool) (letters : List Letter) : Option (List Char × List Letter) := do
  let (text, rest) := spanLetters (isTagChar wide) letters
  return (← tagText? text, rest)

def tagFrom? (letters : List Letter) : Option (Tag × List Letter) :=
  match letters with
  | bang :: rest =>
    if bang.char ≠ '!' then none else
    match rest with
    | angle :: inner =>
      if angle.char = '<' then do
        let (text, after) ← word true inner
        if text.isEmpty then none
        match after with
        | close :: after => if close.char = '>' then some (⟨[], text⟩, after) else none
        | [] => none
      else short rest
    | [] => short rest
  | [] => none
where
  short (rest : List Letter) : Option (Tag × List Letter) := do
    let (name, after) := spanLetters isNameChar rest
    match after with
    | l :: after =>
      if l.char = '!' then do
        let (text, after) ← word false after
        if text.isEmpty then none
        return (⟨'!' :: name ++ ['!'], text⟩, after)
      else plain rest
    | [] => plain rest
  plain (rest : List Letter) : Option (Tag × List Letter) := do
    let (text, after) ← word false rest
    return (if text.isEmpty then ⟨[], ['!']⟩ else ⟨['!'], text⟩, after)

def anchorFrom? (letters : List Letter) : Option (List Char × List Letter) :=
  let (name, rest) := spanLetters isNameChar letters
  let ends := match rest with
    | l :: _ => "?:,]\x7d%@\x60".toList.contains l.char
    | [] => false
  if name.isEmpty ∨ !(isGapAhead rest || ends) then none else some (name, rest)

inductive Directive where
  | version (major minor : Nat)
  /-- What a handle stands for. -/
  | handle (name start : List Char)

def versionPart? (letters : List Letter) : Option (Nat × List Letter) :=
  let (digits, rest) := spanLetters Char.isDigit letters
  if digits.isEmpty ∨ 9 < digits.length then none
  else some (digits.foldl (fun n c => 10 * n + (c.toNat - 48)) 0, rest)

def directiveFrom? (letters : List Letter) : Option (Directive × List Letter) := do
  let (name, rest) := spanLetters isNameChar letters
  if !isGapAhead rest then none
  if name = "YAML".toList then
    let (major, rest) ← versionPart? (skipBlanks rest)
    match rest with
    | point :: rest =>
      if point.char ≠ '.' then none
      let (minor, rest) ← versionPart? rest
      return (.version major minor, ← endOfLine? rest)
    | [] => none
  else if name = "TAG".toList then
    match skipBlanks rest with
    | bang :: rest =>
      if bang.char ≠ '!' then none
      let (inner, rest) := spanLetters isNameChar rest
      let (handle, rest) ← match rest with
        | l :: after =>
          if l.char = '!' then some ('!' :: inner ++ ['!'], after)
          else if inner.isEmpty then some (['!'], rest) else none
        | [] => none
      match rest with
      | l :: _ =>
        if !isBlank l.char then none
        let (start, rest) ← word true (skipBlanks rest)
        if start.isEmpty ∨ !isGapAhead rest then none
        return (.handle handle start, ← endOfLine? rest)
      | [] => none
    | [] => none
  else none

end Rehearsal.Yaml
