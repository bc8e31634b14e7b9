import Rehearsal.Text.Search
import Rehearsal.Wire.Request

/-! Which requests still go out once the skill has closed the session. -/
namespace Rehearsal.Session
open Wire (Kind)

inductive Policy where
  | rejectAll
  | allowSessionEnded
  | allowLaunchAndSessionEnded
deriving DecidableEq, Repr, Inhabited

namespace Policy

def default : Policy := .allowSessionEnded

def all : List Policy := [.rejectAll, .allowSessionEnded, .allowLaunchAndSessionEnded]

def allows : Policy → Kind → Bool
  | .rejectAll, _ => false
  | .allowSessionEnded, k => k = .sessionEnded
  | .allowLaunchAndSessionEnded, k => k = .sessionEnded ∨ k = .launch

def name : Policy → String
  | .rejectAll => "reject_all"
  | .allowSessionEnded => "allow_session_ended"
  | .allowLaunchAndSessionEnded => "allow_launch_and_session_ended"

/-- Case does not count in a policy's name, and hyphens stand for underscores. No character outside ASCII is
a capital of the letters in these names. -/
def ofText? (text : String) : Option Policy :=
  let plain := (Text.trim text.toList).map fun c => if c = '-' then '_' else c.toLower
  all.find? (·.name.toList = plain)

def ofName? (name : String) : Option Policy :=
  all.find? (·.name = name)

end Policy
end Rehearsal.Session
