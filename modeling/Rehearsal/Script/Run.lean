import Rehearsal.Script.Document
import Rehearsal.Session.Actor

/-!
Running scripts. A node waits, sends its request, makes its checks, then does what its conditions ask where
they hold, then what follows. The first failure ends the run; the report counts what happened up to then.
-/
namespace Rehearsal.Script
open Check (Predicate)
open Session (Actor Identity Policy)
open Wire (Kind Request Response)

structure Report where
  script : String := ""
  sessions : Nat := 0
  requests : Nat := 0
  checks : Nat := 0
  taken : Nat := 0
  skipped : Nat := 0
deriving DecidableEq

/-- The text of a slot. References read the response before the request. -/
def SlotValue.resolve (previous : Option Response) : SlotValue → Except Failure String
  | .literal text => .ok text
  | .reference a =>
    match previous with
    | none => .error (.unresolved a .noResponse)
    | some r =>
      match a.value? r with
      | none => .error (.unresolved a .absent)
      | some v => .ok v.text

def resolveSlots (previous : Option Response) : List (String × SlotValue) → Except Failure (List (String × String))
  | [] => .ok []
  | (name, v) :: rest => do
    let text ← v.resolve previous
    return (name, text) :: (← resolveSlots previous rest)

/-- The request of a node: the first intent or utterance it names, with all its slots. -/
def Node.request (n : Node) (k : Kind) (previous : Option Response) : Except Failure Request :=
  match k with
  | .launch => .ok .launch
  | .utterance =>
    match n.params.findSome? Param.utterance? with
    | some text => .ok (.utterance text)
    | none => .error (.script .unworded)
  | .intent =>
    match n.params.findSome? Param.intent? with
    | some name => (resolveSlots previous (n.params.filterMap Param.slot?)).map fun slots => .intent name (.ofPairs slots)
    | none => .error (.script .unnamedIntent)
  | .sessionStarted | .sessionEnded => .error (.script (.notSendable k))

structure Live where
  actor : Actor
  report : Report

abbrev Play (m : Type → Type) := ExceptT Failure (StateT Live m)

section
variable {m : Type → Type} [Monad m]

def fire (w : World m) (r : Request) : Play m Unit := fun live => do
  let (x, actor) ← live.actor.fire w r
  return (x.map fun _ => (), { live with actor })

def current (p : Predicate) : Play m Response := do
  match (← get).actor.last with
  | some r => return r
  | none => throw (.state (.nothingToCheck p.render))

def count (f : Report → Report) : Play m Unit :=
  modify fun live => { live with report := f live.report }

def waitAll (w : World m) : List Span → Play m Unit
  | [] => pure ()
  | s :: rest => do
    w.wait s
    waitAll w rest

def verify (p : Predicate) : Play m Unit := do
  let r ← current p
  match p.require r with
  | .error f => throw f
  | .ok () => count fun report => { report with checks := report.checks + 1 }

def test (p : Predicate) : Play m Bool := do
  let r ← current p
  if p.holds r then
    count fun report => { report with taken := report.taken + 1 }
    return true
  else
    count fun report => { report with skipped := report.skipped + 1 }
    return false

def checkAll : List Action → Play m Unit
  | [] => pure ()
  | .check p :: rest => do
    verify p
    checkAll rest
  | _ :: rest => checkAll rest

def ask (w : World m) (n : Node) : Play m Unit := do
  match n.kind? with
  | none => pure ()
  | some k =>
    match n.request k (← get).actor.last with
    | .error f => throw f
    | .ok r => fire w r

def runHead (w : World m) (n : Node) : Play m Unit := do
  waitAll w (n.params.filterMap Param.span?)
  ask w n
  checkAll n

mutual
def runBranch (w : World m) : Action → Play m Unit
  | .branch p body => do
    if ← test p then
      runHead w body
      runBranches w body
      runFollows w body
  | _ => pure ()

def runBranches (w : World m) : List Action → Play m Unit
  | [] => pure ()
  | a :: rest => do
    runBranch w a
    runBranches w rest

def runFollow (w : World m) : Action → Play m Unit
  | .follow body => do
    runHead w body
    runBranches w body
    runFollows w body
  | _ => pure ()

def runFollows (w : World m) : List Action → Play m Unit
  | [] => pure ()
  | a :: rest => do
    runFollow w a
    runFollows w rest
end

def runNode (w : World m) (n : Node) : Play m Unit := do
  runHead w n
  runBranches w n
  runFollows w n

/-- A session: the probe that it started, the node, and the probe that the user ended it unless the skill did. -/
def runSession (w : World m) (identity : Identity) (policy : Policy) (n : Node) (report : Report) :
    m (Except Failure Unit × Report) := do
  let id ← w.draw Wire.Ids.uuidBound
  let (x, actor) ← (Actor.create identity policy id).fire w .sessionStarted
  match x with
  | .error f => return (.error f, report)
  | .ok _ =>
    let (x, live) ← (runNode w n).run.run { actor, report }
    let report := { live.report with requests := live.report.requests + live.actor.fired }
    match x with
    | .error f => return (.error f, report)
    | .ok () =>
      if live.actor.session.closed then
        return (.ok (), { report with sessions := report.sessions + 1 })
      else
        let (x, _) ← live.actor.fire w (.sessionEnded .userInitiated)
        match x with
        | .error f => return (.error f, report)
        | .ok _ =>
          return (.ok (), { report with requests := report.requests + 1, sessions := report.sessions + 1 })

def runSessions (w : World m) (identity : Identity) (policy : Policy) :
    List Node → Report → m (Except Failure Unit × Report)
  | [], report => return (.ok (), report)
  | n :: rest, report => do
    let (x, report) ← runSession w identity policy n report
    match x with
    | .error f => return (.error f, report)
    | .ok () => runSessions w identity policy rest report

def run (w : World m) (identity : Identity) (policy : Policy) (s : Script) : m (Except Failure Report) := do
  let (x, report) ← runSessions w identity policy s.sessions { script := s.name }
  return x.map fun _ => report

end
end Rehearsal.Script
