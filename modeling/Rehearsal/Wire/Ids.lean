import Rehearsal.Unicode.Ranges

/-! Identifiers on the wire: how each kind begins and what may follow. -/
namespace Rehearsal.Wire.Ids

def sessionPrefix : String := "SessionId."
def requestPrefix : String := "amzn1.echo-api.request."
def userPrefix : String := "amzn1.ask.account."
def applicationPrefix : String := "amzn1.ask.skill."

def userLength : Nat := 207

def userAlphabet : List Char :=
  "ABCDEFGHIJKLMNOPQRSTUVWXYZ0123456789".toList

def isHex (c : Char) : Bool := (Unicode.hexDigit? c).isSome

def isGrouped : List Nat → List Char → Bool
  | [], text => text.isEmpty
  | [n], text => text.length == n && text.all isHex
  | n :: rest, text =>
    (text.take n).length == n && (text.take n).all isHex &&
      match text.drop n with
      | '-' :: r => isGrouped rest r
      | _ => false

/-- A UUID: 32 digits, or five hyphenated groups, these also in braces or behind `urn:uuid:`. -/
def isUuid (text : List Char) : Bool :=
  let hyphenated := isGrouped [8, 4, 4, 4, 12]
  isGrouped [32] text || hyphenated text ||
    (match text with
      | '\x7b' :: r => r.getLast? == some '\x7d' && hyphenated r.dropLast
      | _ => false) ||
    (match "urn:uuid:".toList.isPrefixOf? text with
      | some r => hyphenated r
      | none => false)

def isApplicationId (id : String) : Bool :=
  match applicationPrefix.toList.isPrefixOf? id.toList with
  | some rest => isUuid rest
  | none => false

def isUserId (id : String) : Bool :=
  match userPrefix.toList.isPrefixOf? id.toList with
  | some rest => !rest.isEmpty && rest.all (userAlphabet.contains ·)
  | none => false

def spell (alphabet : List Char) : Nat → Nat → List Char
  | 0, _ => []
  | length + 1, n => alphabet.getD (n % alphabet.length) '0' :: spell alphabet length (n / alphabet.length)

def hexAlphabet : List Char := "0123456789abcdef".toList

/-- The numbers that give UUIDs of their own: all but six of 128 bits are free. -/
def uuidBound : Nat := Nat.pow 2 122

def uuid (n : Nat) : List Char :=
  let digits := spell hexAlphabet 30 n
  let variant := ['8', '9', 'a', 'b'].getD (n / Nat.pow 16 30 % 4) '8'
  digits.take 8 ++ '-' :: (digits.drop 8).take 4 ++ '-' :: '4' :: (digits.drop 12).take 3 ++
    '-' :: variant :: (digits.drop 15).take 3 ++ '-' :: digits.drop 18

def userBound : Nat := Nat.pow userAlphabet.length userLength

def session (n : Nat) : String := sessionPrefix ++ .ofList (uuid n)
def request (n : Nat) : String := requestPrefix ++ .ofList (uuid n)
def application (n : Nat) : String := applicationPrefix ++ .ofList (uuid n)
def user (n : Nat) : String := userPrefix ++ .ofList (spell userAlphabet userLength n)

end Rehearsal.Wire.Ids
