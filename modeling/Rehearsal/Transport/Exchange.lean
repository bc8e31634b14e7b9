import Rehearsal.Text.Utf8
import Rehearsal.Transport.Address

/-!
One exchange with a server: something is posted, a status and a body come back. A client takes the address as a text;
what spells none, and what no header may hold, it refuses to post.
-/
namespace Rehearsal.Transport

structure Post where
  address : Address
  contentType : String
  authorization : Option String := none
  body : List UInt8
deriving DecidableEq

def accepted : String := "application/json"

structure Reply where
  status : Nat
  /-- Absent if the connection broke off before its end. -/
  body : Option (List UInt8)
deriving DecidableEq

abbrev Exchange (m : Type → Type) := Post → m (Except String Reply)

def isHeaderText (s : String) : Bool :=
  s.toList.all fun c => c == '\t' || (0x20 ≤ c.toNat && c ≠ '\x7f')

structure Dispatch where
  url : String
  contentType : String
  authorization : Option String := none
  body : List UInt8
deriving DecidableEq

abbrev Client (m : Type → Type) := Dispatch → m (Except String Reply)

def Exchange.client [Monad m] (net : Exchange m) : Client m := fun d =>
  match Address.ofText? d.url with
  | none => return .error "not an address"
  | some address =>
    if d.authorization.all isHeaderText then net { d with address }
    else return .error "not a header"

instance [Monad m] : Coe (Exchange m) (Client m) := ⟨Exchange.client⟩

def reasons : List (Nat × String) := [
  (100, "Continue"), (101, "Switching Protocols"), (102, "Processing"), (103, "Early Hints"),
  (200, "OK"), (201, "Created"), (202, "Accepted"), (203, "Non Authoritative Information"), (204, "No Content"),
  (205, "Reset Content"), (206, "Partial Content"), (207, "Multi-Status"), (208, "Already Reported"), (226, "IM Used"),
  (300, "Multiple Choices"), (301, "Moved Permanently"), (302, "Found"), (303, "See Other"), (304, "Not Modified"),
  (305, "Use Proxy"), (307, "Temporary Redirect"), (308, "Permanent Redirect"),
  (400, "Bad Request"), (401, "Unauthorized"), (402, "Payment Required"), (403, "Forbidden"), (404, "Not Found"),
  (405, "Method Not Allowed"), (406, "Not Acceptable"), (407, "Proxy Authentication Required"),
  (408, "Request Timeout"), (409, "Conflict"), (410, "Gone"), (411, "Length Required"), (412, "Precondition Failed"),
  (413, "Payload Too Large"), (414, "URI Too Long"), (415, "Unsupported Media Type"), (416, "Range Not Satisfiable"),
  (417, "Expectation Failed"), (418, "I'm a teapot"), (421, "Misdirected Request"), (422, "Unprocessable Entity"),
  (423, "Locked"), (424, "Failed Dependency"), (425, "Too Early"), (426, "Upgrade Required"),
  (428, "Precondition Required"), (429, "Too Many Requests"), (431, "Request Header Fields Too Large"),
  (451, "Unavailable For Legal Reasons"),
  (500, "Internal Server Error"), (501, "Not Implemented"), (502, "Bad Gateway"), (503, "Service Unavailable"),
  (504, "Gateway Timeout"), (505, "HTTP Version Not Supported"), (506, "Variant Also Negotiates"),
  (507, "Insufficient Storage"), (508, "Loop Detected"), (510, "Not Extended"),
  (511, "Network Authentication Required")]

namespace Reply

/-- The reply to a post: interim statuses announce one, and beyond 999 there is none. -/
def isFinal (status : Nat) : Bool := status = 101 || (200 ≤ status && status ≤ 999)

/-- A reply as it arrives. Nothing can follow these statuses, whatever was sent. -/
def ofWire (status : Nat) (body : Option (List UInt8)) : Except String Reply :=
  if isFinal status then .ok { status, body := if [101, 204, 304].contains status then some [] else body }
  else .error "no final status"

def isSuccess (r : Reply) : Bool := 200 ≤ r.status && r.status < 300

def isRejection (r : Reply) : Bool := r.status = 401 || r.status = 403

def statusText (r : Reply) : String :=
  toString r.status ++ " " ++ ((List.lookup r.status reasons).getD "<unknown status code>")

end Reply
end Rehearsal.Transport
