import Rehearsal.Text.Utf8
import Rehearsal.Unicode.Ranges

/-!
Addresses of servers, read as browsers read them: slashes may lean either way, dots in the path are steps, and
what no address may hold is escaped.
-/
namespace Rehearsal.Transport

structure Address where
  /-- Is the connection to be encrypted? -/
  secure : Bool
  host : String
  /-- The number of the service at the host. -/
  service : Nat
  /-- What the server is asked for: the path and, behind a question mark, the query. -/
  target : String
deriving DecidableEq

namespace Address

def isSpaceOrControl (c : Char) : Bool := c.toNat ≤ 0x20

def isSlash (c : Char) : Bool := c == '/' || c == '\\'

def endsAuthority (c : Char) : Bool := isSlash c || c == '?' || c == '#'

def tidy (text : List Char) : List Char :=
  ((text.dropWhile isSpaceOrControl).reverse.dropWhile isSpaceOrControl).reverse.filter fun c =>
    c ≠ '\t' ∧ c ≠ '\n' ∧ c ≠ '\r'

def isVisible (c : Char) : Bool := 0x20 < c.toNat && c.toNat < 0x7F

def isKeptInPath (c : Char) : Bool :=
  isVisible c && !(['"', '#', '<', '>', '?', '`', '\x7b', '\x7d'].contains c)

def isKeptInQuery (c : Char) : Bool :=
  isVisible c && !(['"', '#', '<', '>', '\''].contains c)

def isHostChar (c : Char) : Bool :=
  c.isAlphanum || ['-', '.', '_', '~', '!', '$', '&', '\'', '(', ')', '*', '+', ',', ';', '='].contains c

def dotless? : List Char → Option (List Char)
  | '.' :: rest => some rest
  | '%' :: '2' :: e :: rest => if e = 'e' ∨ e = 'E' then some rest else none
  | _ => none

def dots? (part : List Char) : Option Nat :=
  match dotless? part with
  | none => none
  | some [] => some 1
  | some rest =>
    match dotless? rest with
    | some [] => some 2
    | _ => none

def walk : List (List Char) → List (List Char) → List (List Char)
  | walked, [] => walked.reverse
  | walked, part :: rest =>
    match dots? part with
    | none => walk (Text.Percent.encode isKeptInPath part :: walked) rest
    | some n =>
      let walked := if n = 2 then walked.tail else walked
      walk (if rest.isEmpty then [] :: walked else walked) rest

def path (text : List Char) : List Char :=
  let text := match text with
    | c :: rest => if isSlash c then rest else text
    | [] => []
  '/' :: ['/'].intercalate (walk [] (text.splitOnP isSlash))

def service? (digits : List Char) : Option Nat :=
  if digits.all Char.isDigit then
    let n := digits.foldl (fun n c => 10 * n + (c.toNat - 48)) 0
    if n < 65536 then some n else none
  else none

def hostAndService? (text : List Char) (standard : Nat) : Option (String × Nat) := do
  let (host, rest) ← match text with
    | '[' :: inner =>
      match inner.dropWhile (· ≠ ']') with
      | _ :: rest => some (inner.takeWhile (· ≠ ']'), rest)
      | [] => none
    | _ => some (text.takeWhile (· ≠ ':'), text.dropWhile (· ≠ ':'))
  let inBrackets := text.head? = some '['
  if host.isEmpty ∨ !host.all (fun c => isHostChar c || inBrackets && c == ':') then failure
  let service ← match rest with
    | [] | [':'] => some standard
    | ':' :: digits => service? digits
    | _ => none
  return (.ofList (host.map Char.toLower), service)

def scheme? (text : List Char) : Option (Bool × List Char) := do
  let name := (text.takeWhile (· ≠ ':')).map Char.toLower
  match text.dropWhile (· ≠ ':') with
  | [] => none
  | _ :: rest =>
    if name = "http".toList then some (false, rest)
    else if name = "https".toList then some (true, rest)
    else none

def ofText? (text : String) : Option Address := do
  let (secure, rest) ← scheme? (tidy text.toList)
  let rest := rest.dropWhile isSlash
  let authority := rest.takeWhile (!endsAuthority ·)
  let rest := (rest.dropWhile (!endsAuthority ·)).takeWhile (· ≠ '#')
  let place := (authority.reverse.takeWhile (· ≠ '@')).reverse
  let (host, service) ← hostAndService? place (if secure then 443 else 80)
  let query := match rest.dropWhile (· ≠ '?') with
    | [] => []
    | _ :: q => '?' :: Text.Percent.encode isKeptInQuery q
  return { secure, host, service, target := .ofList (path (rest.takeWhile (· ≠ '?')) ++ query) }

end Address
end Rehearsal.Transport
