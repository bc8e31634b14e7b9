/-!
Bytes as text. Decoding keeps a hole for each longest stretch of bytes that begins no character, so that
one reading serves those who refuse such bytes and those who show a mark in their place.
-/
namespace Rehearsal.Text.Utf8

def encode (text : List Char) : List UInt8 :=
  text.flatMap String.utf8EncodeChar

/- A character under way: the value of the bytes so far, how many are owed, the bounds of the next one. -/
structure Pending where
  value : Nat
  owed : Nat
  low : UInt8 := 0x80
  high : UInt8 := 0xBF

inductive Start where
  | done (c : Char)
  | more (p : Pending)
  | hole

def start (b : UInt8) : Start :=
  let n := b.toNat
  if n < 0x80 then .done (Char.ofNat n)
  else if n < 0xC2 then .hole
  else if n < 0xE0 then .more { value := n - 0xC0, owed := 1 }
  else if n = 0xE0 then .more { value := 0, owed := 2, low := 0xA0 }
  else if n = 0xED then .more { value := 0xD, owed := 2, high := 0x9F }
  else if n < 0xF0 then .more { value := n - 0xE0, owed := 2 }
  else if n = 0xF0 then .more { value := 0, owed := 3, low := 0x90 }
  else if n < 0xF4 then .more { value := n - 0xF0, owed := 3 }
  else if n = 0xF4 then .more { value := 4, owed := 3, high := 0x8F }
  else .hole

def decodeFrom : Option Pending → List UInt8 → List (Option Char)
  | none, [] => []
  | some _, [] => [none]
  | none, b :: rest =>
    match start b with
    | .done c => some c :: decodeFrom none rest
    | .more p => decodeFrom (some p) rest
    | .hole => none :: decodeFrom none rest
  | some p, b :: rest =>
    if p.low ≤ b ∧ b ≤ p.high then
      let value := 64 * p.value + (b.toNat - 0x80)
      if p.owed ≤ 1 then some (Char.ofNat value) :: decodeFrom none rest
      else decodeFrom (some { value, owed := p.owed - 1 }) rest
    else
      none :: match start b with
        | .done c => some c :: decodeFrom none rest
        | .more q => decodeFrom (some q) rest
        | .hole => none :: decodeFrom none rest

def decode (bytes : List UInt8) : List (Option Char) :=
  decodeFrom none bytes

def decode? (bytes : List UInt8) : Option String :=
  ((decode bytes).mapM id).map String.ofList

def decodeLossy (bytes : List UInt8) : String :=
  .ofList ((decode bytes).map (·.getD '\uFFFD'))

end Rehearsal.Text.Utf8

/-! Percent encoding: a byte as a percent sign and two hexadecimal digits. -/
namespace Rehearsal.Text.Percent

def digit (n : Nat) : Char := (Nat.digitChar n).toUpper

def encodeByte (b : UInt8) : List Char :=
  ['%', digit (b.toNat / 16), digit (b.toNat % 16)]

def encodeChar (keep : Char → Bool) (c : Char) : List Char :=
  if keep c then [c] else (String.utf8EncodeChar c).flatMap encodeByte

def encode (keep : Char → Bool) (text : List Char) : List Char :=
  text.flatMap (encodeChar keep)

end Rehearsal.Text.Percent
