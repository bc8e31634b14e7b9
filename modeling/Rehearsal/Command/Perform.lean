import Rehearsal.Command.Arguments
import Rehearsal.Command.Outcome
import Rehearsal.Settings.Load
import Rehearsal.Transport.Link

/-! Commands at work. Both read all their scripts before they do anything else with them. -/
namespace Rehearsal.Command
open Script (Report)
open Session (Identity Policy)
open Settings (Sources)
open Transport (Client Link)

structure Host (m : Type → Type) extends Surroundings m where
  sources : Sources m
  /-- Who posts to servers, with the time that an exchange may take. -/
  net : Span → Client m

section
variable {m : Type → Type} [Monad m] [Regex.Room]

def scriptAt (h : Host m) (marker : Char) (path : String) : m (Except Failure Script) := do
  match (← h.sources.find path).text? with
  | .error detail => return .error (.script (.unreadableFile path detail))
  | .ok text => return Script.ofText marker text

def scriptsAt (h : Host m) (marker : Char) : List String → m (Except Failure (List (String × Script)))
  | [] => return .ok []
  | path :: rest => do
    match ← scriptAt h marker path with
    | .error f => return .error f
    | .ok s => return (← scriptsAt h marker rest).map ((path, s) :: ·)

def carries (tag : Option String) (s : Script) : Bool := tag.all (s.tags.contains ·)

def runAll (w : World m) (identity : Identity) (policy : Policy) : List Script → m (Except Failure (List Report))
  | [] => return .ok []
  | s :: rest => do
    match ← s.run w identity policy with
    | .error f => return .error f
    | .ok report => return (← runAll w identity policy rest).map (report :: ·)

def check (h : Host m) (s : Settings) (paths : List String) : m (Except Failure Outcome) := do
  return (← scriptsAt h s.marker paths).map .checked

def run (h : Host m) (s : Settings) (paths : List String) (tag : Option String) :
    m (Except Failure Outcome) := do
  match ← scriptsAt h s.marker paths with
  | .error f => return .error f
  | .ok scripts =>
    match ← Session.drawIdentity h.toSurroundings s.profile with
    | .error f => return .error f
    | .ok identity =>
      match Link.ofSettings s identity.accessToken with
      | .error f => return .error f
      | .ok link =>
        let chosen := (scripts.map (·.2)).filter (carries tag)
        let (x, _) ← (runAll (Link.world h.toSurroundings (h.net s.timeout)) identity s.policy chosen).run link
        return x.map fun reports => .ran { endpoint := link.endpoint, policy := s.policy, identity, reports }

def perform (h : Host m) (i : Invocation) : m (Except Failure Outcome) := do
  match ← Settings.load h.sources i.config with
  | .error f => return .error f
  | .ok s =>
    match i.job with
    | .check paths => check h s paths
    | .run paths layer tag =>
      match (s.overlaid layer).checked with
      | .error f => return .error f
      | .ok s => run h s paths tag

end
end Rehearsal.Command
