import Rehearsal.Settings.Basic

/-!
The command line, read one argument after the other. Options may stand before and after the command; of an option
given at both places the one behind the command counts.
-/
namespace Rehearsal.Command
open Session (Policy)
open Settings (Layer)

inductive Verb where
  | check
  | run
  | help
deriving DecidableEq

namespace Verb

def all : List Verb := [.check, .run, .help]

def name : Verb → String
  | .check => "check"
  | .run => "run"
  | .help => "help"

def ofName? (s : String) : Option Verb := all.find? (·.name = s)

end Verb

inductive Flag where
  | robot
  | verbose
  | quiet
  | help
  | version
deriving DecidableEq

namespace Flag

def ofName? : String → Option Flag
  | "robot" => some .robot
  | "verbose" => some .verbose
  | "quiet" => some .quiet
  | "help" => some .help
  | "version" => some .version
  | _ => none

def ofLetter? : Char → Option Flag
  | 'v' => some .verbose
  | 'q' => some .quiet
  | 'h' => some .help
  | 'V' => some .version
  | _ => none

end Flag

inductive Setting where
  | config
  | endpoint
  | locale
  | closedPolicy
  | tag
deriving DecidableEq

namespace Setting

def name : Setting → String
  | .config => "config"
  | .endpoint => "endpoint"
  | .locale => "locale"
  | .closedPolicy => "closed-policy"
  | .tag => "tag"

def admits : Setting → String → Bool
  | .config, v => v ≠ ""
  | .closedPolicy, v => (Policy.ofText? v).isSome
  | _, _ => true

def known : Option Verb → List Setting
  | some .run => [.config, .endpoint, .locale, .closedPolicy, .tag]
  | _ => [.config]

end Setting

inductive Word where
  | plain
  | ending
  | long (name : String) (value : Option String)
  | short (letters : List Char)

def Word.ofText (text : String) : Word :=
  match text.toList with
  | ['-', '-'] => .ending
  | '-' :: '-' :: rest =>
    .long (.ofList (rest.takeWhile (· ≠ '='))) (match rest.dropWhile (· ≠ '=') with
      | [] => none
      | _ :: value => some (.ofList value))
  | '-' :: c :: rest => .short (c :: rest)
  | _ => .plain

inductive Stop where
  | refused
  | help
  | version (verb : Option Verb)
deriving DecidableEq

structure Options where
  robot : Bool := false
  quiet : Bool := false
  verbosity : Nat := 0
  settings : List (Setting × String) := []

structure Scan where
  /-- The options before the command. -/
  outer : Options := {}
  verb : Option Verb := none
  inner : Options := {}
  /-- In the order given. -/
  operands : List String := []
  /-- The option whose value comes next. -/
  pending : Option Setting := none
  /-- Is everything from here on an operand? -/
  literal : Bool := false

namespace Scan

def options (s : Scan) : Options := if s.verb.isSome then s.inner else s.outer

def withOptions (s : Scan) (o : Options) : Scan :=
  if s.verb.isSome then { s with inner := o } else { s with outer := o }

def raise (s : Scan) (f : Flag) : Except Stop Scan :=
  let o := s.options
  match f with
  | .robot => if o.robot then .error .refused else .ok (s.withOptions { o with robot := true })
  | .quiet => if o.quiet then .error .refused else .ok (s.withOptions { o with quiet := true })
  | .verbose => .ok (s.withOptions { o with verbosity := o.verbosity + 1 })
  | .help => .error .help
  | .version => .error (.version s.verb)

def set (s : Scan) (t : Setting) (value : String) : Except Stop Scan :=
  let o := s.options
  if o.settings.any (·.1 = t) ∨ !t.admits value then .error .refused
  else .ok { s.withOptions { o with settings := (t, value) :: o.settings } with pending := none }

def raiseLetter (s : Scan) (c : Char) : Except Stop Scan :=
  match Flag.ofLetter? c with
  | some f => s.raise f
  | none => .error .refused

def long (s : Scan) (name : String) (value : Option String) : Except Stop Scan :=
  match Flag.ofName? name, (Setting.known s.verb).find? (·.name = name), value with
  | some f, _, none => s.raise f
  | none, some t, some v => s.set t v
  | none, some t, none => .ok { s with pending := some t }
  | _, _, _ => .error .refused

def operand (s : Scan) (a : String) : Except Stop Scan :=
  match s.verb with
  | none =>
    match Verb.ofName? a with
    | some v => if s.literal then .error .refused else .ok { s with verb := some v }
    | none => .error .refused
  | some .help =>
    if s.operands.isEmpty ∧ (Verb.ofName? a).isSome then .ok { s with operands := [a] } else .error .refused
  | some _ => if a = "" then .error .refused else .ok { s with operands := s.operands ++ [a] }

def step (s : Scan) (a : String) : Except Stop Scan :=
  if s.literal then s.operand a
  else match Word.ofText a, s.pending with
    | .plain, some t => s.set t a
    | .plain, none => s.operand a
    | .ending, none => .ok { s with literal := true }
    | .long name value, none => s.long name value
    | .short letters, none => letters.foldlM raiseLetter s
    | _, some _ => .error .refused

end Scan

inductive Job where
  | check (scripts : List String)
  /-- The layer lies over all others; with a tag only scripts that carry it are run. -/
  | run (scripts : List String) (layer : Layer) (tag : Option String)

structure Invocation where
  job : Job
  robot : Bool := false
  verbosity : Nat := 0
  config : Option String := none

def Scan.finish (s : Scan) : Except Stop Invocation :=
  let value (t : Setting) : Option String := List.lookup t s.inner.settings
  let invoke (job : Job) : Except Stop Invocation :=
    if s.pending.isSome ∨ s.operands.isEmpty then .error .refused
    else .ok {
      job
      robot := s.outer.robot || s.inner.robot
      verbosity := if s.inner.verbosity = 0 then s.outer.verbosity else s.inner.verbosity
      config := value .config <|> List.lookup .config s.outer.settings }
  match s.verb with
  | none => .error .refused
  | some .help => .error .help
  | some .check => invoke (.check s.operands)
  | some .run =>
    let layer : Layer :=
      { endpoint := value .endpoint, locale := value .locale, policy := (value .closedPolicy).bind Policy.ofText? }
    invoke (.run s.operands layer (value .tag))

def Invocation.ofArguments (arguments : List String) : Except Stop Invocation :=
  (arguments.foldlM Scan.step {}).bind Scan.finish

end Rehearsal.Command
