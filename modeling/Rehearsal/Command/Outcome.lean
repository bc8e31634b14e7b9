import Rehearsal.Json.Outline
import Rehearsal.Script.Run

/-! What a command found out, for programs and for people. -/
namespace Rehearsal.Command
open Json (Outline)
open Script (Report)
open Session (Policy Identity)

/-! Text for people: titles, entries with a key in a column of its own, and lists. -/

inductive Line where
  /-- An empty line follows. -/
  | title (text : String)
  | entry (key value : String)
  | bullet (text : String)
  | verdict (passed : Bool) (text : String)
  | blank

abbrev Layout := List Line

def keyWidth : Nat := 14

def padded (width : Nat) (s : String) : String :=
  s ++ .ofList (List.replicate (width - s.length) ' ')

def Line.texts : Line → List String
  | .title text => [text, ""]
  | .entry key value => [padded keyWidth key ++ " " ++ value]
  | .bullet text => ["- " ++ text]
  | .verdict passed text => [(if passed then "PASS " else "FAIL ") ++ text]
  | .blank => [""]

def Layout.render (lines : Layout) : String :=
  "\n".intercalate (lines.flatMap Line.texts)

/-! What there is to tell. -/

structure Record where
  endpoint : String
  policy : Policy
  identity : Identity
  reports : List Report

inductive Outcome where
  /-- Sound scripts, with the paths they were read from. -/
  | checked (scripts : List (String × Script))
  | ran (r : Record)

def Record.total (r : Record) (f : Report → Nat) : Nat := (r.reports.map f).foldr (· + ·) 0

def reportOutline (r : Report) : Outline :=
  .record [("script", .text r.script), ("sessions", .number r.sessions), ("requests", .number r.requests),
    ("checks", .number r.checks), ("conditions_taken", .number r.taken), ("conditions_skipped", .number r.skipped)]

def scriptOutline : String × Script → Outline
  | (path, s) => .record [("path", .text path), ("name", .text s.name),
      ("description", .orNull (s.description.map .text)), ("tags", .texts s.tags),
      ("sessions", .number s.sessions.length)]

def Outcome.outline : Outcome → Outline
  | .checked scripts => .list (scripts.map scriptOutline)
  | .ran r => .record [("scripts", .list (r.reports.map reportOutline)), ("sessions", .number (r.total (·.sessions))),
      ("requests", .number (r.total (·.requests))), ("checks", .number (r.total (·.checks)))]

def scriptLines : String × Script → Layout
  | (path, s) =>
    [.verdict true (s.name ++ " (" ++ path ++ ")"), .entry "Sessions" (toString s.sessions.length)] ++
      (if s.tags.isEmpty then [] else [.entry "Tags" (", ".intercalate s.tags)]) ++
      (s.description.map (.entry "Description" ·)).toList

def reportLines (r : Report) : Layout :=
  [.blank, .verdict true r.script, .entry "Sessions" (toString r.sessions), .entry "Requests" (toString r.requests),
    .entry "Checks" (toString r.checks),
    .entry "Conditions" (toString r.taken ++ " taken, " ++ toString r.skipped ++ " skipped")]

def Outcome.layout (verbosity : Nat) : Outcome → Layout
  | .checked scripts => .title "Check" :: scripts.flatMap scriptLines
  | .ran r =>
    [.title "Run", .entry "Endpoint" r.endpoint, .entry "Policy" r.policy.name] ++
      (if verbosity = 0 then [] else
        [.entry "Locale" r.identity.locale, .entry "Application" r.identity.applicationId,
          .entry "User" r.identity.userId]) ++
      (if r.reports.isEmpty then [.bullet "no scripts matched"] else r.reports.flatMap reportLines)

def programName : String := "skillcheck"
def programVersion : String := "0.1.0"

def announcement (timestamp : String) (status data : Outline) : Outline :=
  .record [("status", status), ("timestamp", .text timestamp), ("version", .text programVersion), ("data", data)]

def success (timestamp : String) (o : Outcome) : Outline :=
  announcement timestamp (.text "ok") o.outline

def failure (timestamp code message : String) : Outline :=
  announcement timestamp (.record [("error", .record [("code", .text code), ("message", .text message)])]) (.leaf .null)

end Rehearsal.Command
