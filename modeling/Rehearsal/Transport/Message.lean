import Rehearsal.Text.Search
import Rehearsal.Transport.Exchange
import Rehearsal.Unicode.Ranges

/-! Posts and replies as they go over a connection that serves one exchange and is then closed. -/
namespace Rehearsal.Transport

def lineEnd : List Char := ['\r', '\n']

def Address.place (a : Address) : String :=
  let host := if a.host.contains ':' then "[" ++ a.host ++ "]" else a.host
  if a.service = (if a.secure then 443 else 80) then host else host ++ ":" ++ toString a.service

namespace Post

def headers (p : Post) : List (String × String) :=
  [("host", p.address.place), ("content-type", p.contentType), ("accept", accepted)] ++
    (p.authorization.map (("authorization", ·))).toList ++
    [("content-length", toString p.body.length), ("connection", "close")]

def toBytes (p : Post) : List UInt8 :=
  let lines := ("POST " ++ p.address.target ++ " HTTP/1.1") :: p.headers.map fun (name, value) => name ++ ": " ++ value
  Text.Utf8.encode (lines.flatMap (fun l => l.toList ++ lineEnd) ++ lineEnd) ++ p.body

end Post
namespace Reply

def number? (digits : List Char) : Option Nat :=
  if digits ≠ [] ∧ digits.all Char.isDigit then some (digits.foldl (fun n c => 10 * n + (c.toNat - 48)) 0) else none

def statusOf? (line : List Char) : Option Nat :=
  match line.dropWhile (· ≠ ' ') with
  | ' ' :: rest =>
    let digits := rest.takeWhile (· ≠ ' ')
    if "HTTP/1.".toList.isPrefixOf line && digits.length == 3 then number? digits else none
  | _ => none

def linesOf (head : List Char) : List (List Char) :=
  (head.splitOn '\n').map fun l => if l.getLast? = some '\r' then l.dropLast else l

def fieldOf (line : List Char) : String × String :=
  (.ofList ((line.takeWhile (· ≠ ':')).map Char.toLower), .ofList (Text.trim ((line.dropWhile (· ≠ ':')).drop 1)))

/-- A body in pieces, each behind its length; it ends with an empty piece. Every piece is shorter than `fuel`. -/
def joinPieces? : Nat → List Char → Option (List Char)
  | 0, _ => none
  | fuel + 1, text => do
    let (line, _, rest) ← Text.cutAtFirst? [lineEnd] text
    let digits := Text.trim (line.takeWhile (· ≠ ';'))
    if digits = [] ∨ !digits.all (fun c => (Unicode.hexDigit? c).isSome) then none
    else
      let n := Unicode.hexValue digits
      if n = 0 then some []
      else if rest.length < n + 2 then none
      else return rest.take n ++ (← joinPieces? fuel (rest.drop (n + 2)))

def bodyOf? (fields : List (String × String)) (text : List Char) : Option (List Char) :=
  if (List.lookup "transfer-encoding" fields).any (·.toLower = "chunked") then joinPieces? (text.length + 1) text
  else match (List.lookup "content-length" fields).bind (number? ·.toList) with
    | some n => if text.length < n then none else some (text.take n)
    | none => some text

def headEnds : List (List Char) := [['\r', '\n', '\r', '\n'], ['\n', '\n']]

def ofChars (fuel : Nat) (text : List Char) : Except String Reply :=
  match fuel, Text.cutAtFirst? headEnds text with
  | fuel + 1, some (head, _, rest) =>
    match linesOf head with
    | first :: more =>
      match statusOf? first with
      | some status =>
        if isFinal status then
          ofWire status ((bodyOf? (more.map fieldOf) rest).map fun cs => cs.map fun c => UInt8.ofNat c.toNat)
        else ofChars fuel rest
      | none => .error "not a reply"
    | [] => .error "not a reply"
  | _, _ => .error "the connection was closed before a reply"

def ofBytes (bytes : List UInt8) : Except String Reply :=
  ofChars bytes.length (bytes.map fun b => Char.ofNat b.toNat)

end Reply
end Rehearsal.Transport
