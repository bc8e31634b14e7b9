import Rehearsal.Json.Value
import Rehearsal.Text.Utf8
import Rehearsal.Unicode.Ranges

/-!
JSON as it was written. Reading takes one character at a time and keeps what is open on a stack, so that any
depth is read. What a reader of the text does not use is held to the grammar alone: numbers of any size, names
given twice, strings that spell no text.
-/
namespace Rehearsal.Json

inductive Source where
  | null
  | bool (b : Bool)
  | number (n : Numeral)
  /-- Absent text: bytes or escapes that are no characters. -/
  | string (s : Option String)
  | array (items : List Source)
  | object (members : List (Option String × Source))
deriving Inhabited

inductive Frame where
  | array (items : List Source)
  | object (members : List (Option String × Source)) (name : Option String)

inductive Piece where
  | char (c : Char)
  | hole
  | high (n : Nat)
  | low (n : Nat)

inductive Mode where
  | value
  | firstItem
  | firstName
  | name
  | colon
  | after
  | string (pieces : List Piece)
  | escape (pieces : List Piece)
  | hex (pieces : List Piece) (digits : List Char)
  | number (text : List Char)
  | word (left : List Char) (v : Source)

structure Reading where
  frames : List Frame := []
  /-- The members of the object whose next name is being read. -/
  names : Option (List (Option String × Source)) := none
  mode : Mode := .value
  result : Option Source := none

def joinPieces : List Piece → List Char → Option (List Char)
  | [], acc => some acc
  | .char c :: rest, acc => joinPieces rest (c :: acc)
  | .low l :: .high h :: rest, acc =>
    joinPieces rest (Char.ofNat (0x10000 + (h - 0xD800) * 1024 + (l - 0xDC00)) :: acc)
  | _, _ => none

def pieceText (pieces : List Piece) : Option String :=
  (joinPieces pieces []).map String.ofList

def pieceOfUnit (n : Nat) : Piece :=
  if 0xD800 ≤ n ∧ n < 0xDC00 then .high n
  else if 0xDC00 ≤ n ∧ n < 0xE000 then .low n
  else .char (Char.ofNat n)

def isSpace (c : Char) : Bool := c == ' ' || c == '\n' || c == '\t' || c == '\r'

def isNumberChar (c : Char) : Bool :=
  c.isDigit || c == '-' || c == '+' || c == '.' || c == 'e' || c == 'E'

def Reading.accept (s : Reading) (v : Source) : Reading :=
  match s.frames with
  | [] => { s with mode := .after, result := some v }
  | .array items :: rest => { s with mode := .after, frames := .array (v :: items) :: rest }
  | .object members name :: rest =>
    { s with mode := .after, frames := .object ((name, v) :: members) name :: rest }

def Reading.acceptString (s : Reading) (pieces : List Piece) : Reading :=
  match s.names with
  | some members =>
    { s with names := none, mode := .colon, frames := .object members (pieceText pieces) :: s.frames }
  | none => s.accept (.string (pieceText pieces))

def Reading.finishNumber (s : Reading) (text : List Char) : Option Reading :=
  (Numeral.ofText? text.reverse).map fun n => s.accept (.number n)

def Reading.stepValue (s : Reading) (c : Char) : Option Reading :=
  if isSpace c then some s
  else if c = '"' then some { s with mode := .string [] }
  else if c = '[' then some { s with mode := .firstItem, frames := .array [] :: s.frames }
  else if c = '\x7b' then some { s with mode := .firstName }
  else if c = 't' then some { s with mode := .word ['r', 'u', 'e'] (.bool true) }
  else if c = 'f' then some { s with mode := .word ['a', 'l', 's', 'e'] (.bool false) }
  else if c = 'n' then some { s with mode := .word ['u', 'l', 'l'] .null }
  else if c = '-' ∨ c.isDigit then some { s with mode := .number [c] }
  else none

def Reading.stepAfter (s : Reading) (c : Char) : Option Reading :=
  if isSpace c then some s else
    match s.frames with
    | [] => none
    | .array items :: rest =>
      if c = ',' then some { s with mode := .value }
      else if c = ']' then some ({ s with frames := rest }.accept (.array items.reverse))
      else none
    | .object members _ :: rest =>
      if c = ',' then some { s with mode := .name, frames := rest, names := some members }
      else if c = '\x7d' then some ({ s with frames := rest }.accept (.object members.reverse))
      else none

def escaped? (c : Char) : Option Char :=
  if c = '"' ∨ c = '\\' ∨ c = '/' then some c
  else if c = 'b' then some '\x08'
  else if c = 'f' then some '\x0c'
  else if c = 'n' then some '\n'
  else if c = 'r' then some '\r'
  else if c = 't' then some '\t'
  else none

def Reading.stepChar (s : Reading) (c : Char) : Option Reading :=
  match s.mode with
  | .value => s.stepValue c
  | .firstItem =>
    if c = ']' then
      match s.frames with
      | .array items :: rest => some ({ s with frames := rest }.accept (.array items.reverse))
      | _ => none
    else if isSpace c then some s
    else { s with mode := .value }.stepValue c
  | .firstName =>
    if c = '\x7d' then some (s.accept (.object []))
    else if isSpace c then some s
    else if c = '"' then some { s with mode := .string [], names := some [] }
    else none
  | .name =>
    if isSpace c then some s
    else if c = '"' then some { s with mode := .string [] }
    else none
  | .colon =>
    if isSpace c then some s
    else if c = ':' then some { s with mode := .value }
    else none
  | .after => s.stepAfter c
  | .string pieces =>
    if c = '"' then some (s.acceptString pieces)
    else if c = '\\' then some { s with mode := .escape pieces }
    else if c.toNat < 32 then none
    else some { s with mode := .string (.char c :: pieces) }
  | .escape pieces =>
    if c = 'u' then some { s with mode := .hex pieces [] }
    else (escaped? c).map fun d => { s with mode := .string (.char d :: pieces) }
  | .hex pieces digits =>
    if (Unicode.hexDigit? c).isNone then none
    else if digits.length < 3 then some { s with mode := .hex pieces (c :: digits) }
    else some { s with mode := .string (pieceOfUnit (Unicode.hexValue (c :: digits).reverse) :: pieces) }
  | .number text =>
    if isNumberChar c then some { s with mode := .number (c :: text) }
    else (s.finishNumber text).bind (·.stepAfter c)
  | .word left v =>
    match left with
    | [] => none
    | d :: rest =>
      if c = d then some (if rest.isEmpty then s.accept v else { s with mode := .word rest v }) else none

def Reading.step (s : Reading) : Option Char → Option Reading
  | some c => s.stepChar c
  | none =>
    match s.mode with
    | .string pieces => some { s with mode := .string (.hole :: pieces) }
    | _ => none

def Reading.finish (s : Reading) : Option Source :=
  match s.mode with
  | .after => if s.frames.isEmpty then s.result else none
  | .number text => (s.finishNumber text).bind fun t => if t.frames.isEmpty then t.result else none
  | _ => none

def Source.ofSymbols? (text : List (Option Char)) : Option Source :=
  (text.foldlM Reading.step {}).bind Reading.finish

def Source.ofBytes? (bytes : List UInt8) : Option Source :=
  ofSymbols? (Text.Utf8.decode bytes)

def Source.ofText? (text : String) : Option Source :=
  ofSymbols? (text.toList.map some)

def depthLimit : Nat := 127

mutual
/-- The value, if its strings are text, its numbers finite and at most `depth` arrays and objects are open at once. -/
def Source.value? (depth : Nat) : Source → Option Value
  | .null => some .null
  | .bool b => some (.bool b)
  | .number n => n.value?.map .number
  | .string s => s.map .string
  | .array items => if depth = 0 then none else (valuesOf? (depth - 1) items).map .array
  | .object members => if depth = 0 then none else (membersOf? (depth - 1) members).map fun m => .object (Members.ofList m)

def valuesOf? (depth : Nat) : List Source → Option (List Value)
  | [] => some []
  | v :: rest => do
    let w ← v.value? depth
    return w :: (← valuesOf? depth rest)

def membersOf? (depth : Nat) : List (Option String × Source) → Option (List (String × Value))
  | [] => some []
  | (name, v) :: rest => do
    let k ← name
    let w ← v.value? depth
    return (k, w) :: (← membersOf? depth rest)
end

def Value.ofBytes? (bytes : List UInt8) : Option Value :=
  (Source.ofBytes? bytes).bind (·.value? depthLimit)

def Value.ofText? (text : String) : Option Value :=
  (Source.ofText? text).bind (·.value? depthLimit)

end Rehearsal.Json
