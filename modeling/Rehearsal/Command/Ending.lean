import Rehearsal.Command.Arguments
import Rehearsal.Command.Outcome

/-! What the program leaves behind: its output, and a code that is zero if all went well. -/
namespace Rehearsal.Command

structure Ending where
  output : String := ""
  errors : String := ""
  code : UInt8 := 0
deriving DecidableEq

namespace Ending

def usage : String :=
  "Usage: " ++ programName ++ " [--robot] [-v]... [-q] [--config PATH] (check SCRIPT... | run SCRIPT... " ++
    "[--endpoint URL] [--locale LOCALE] [--closed-policy POLICY] [--tag TAG])\n"

def versionLine (verb : Option Verb) : String :=
  programName ++ (match verb with
    | some v => "-" ++ v.name
    | none => "") ++ " " ++ programVersion ++ "\n"

def ofStop : Stop → Ending
  | .refused => { errors := usage, code := 2 }
  | .help => { output := usage }
  | .version verb => { output := versionLine verb }

def ofResult (timestamp : String) (i : Invocation) : Except (String × String) Outcome → Ending
  | .ok o =>
    { output := (if i.robot then (success timestamp o).render else (o.layout i.verbosity).render) ++ "\n" }
  | .error (code, message) =>
    if i.robot then { output := (failure timestamp code message).render ++ "\n", code := 1 }
    else { errors := "Error: " ++ message ++ "\n", code := 1 }

end Ending
end Rehearsal.Command
