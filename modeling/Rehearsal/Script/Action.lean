import Rehearsal.Check.Verdict
import Rehearsal.Script.Tree

/-!
What a script does. A list says what is sent, what is then checked, and what follows; an entry's shape tells
which: a text is a check, a map of scalars holds parameters of the request, a map of lists holds conditions
with what to do where they hold, a list is what follows. Every name is looked up here, so that a run fails only
for what the skill answers.
-/
namespace Rehearsal.Script
open Check (Predicate Asset)
open Wire (Kind)

inductive SlotValue where
  | literal (text : String)
  | reference (a : Asset)
deriving DecidableEq

inductive Param where
  | intent (name : String)
  | utterance (text : String)
  | launch
  | delay (s : Span)
  /-- The kind of the request, whatever the other parameters say. -/
  | request (k : Kind)
  | slot (name : String) (value : SlotValue)
deriving DecidableEq

inductive Action where
  | check (p : Predicate)
  | param (p : Param)
  | branch (p : Predicate) (body : List Action)
  | follow (body : List Action)

abbrev Node := List Action

def Action.param? : Action → Option Param
  | .param p => some p
  | _ => none

namespace Param

def isIntent : Param → Bool
  | .intent _ => true
  | _ => false

def isUtterance : Param → Bool
  | .utterance _ => true
  | _ => false

def isLaunch : Param → Bool
  | .launch => true
  | _ => false

def isSlot : Param → Bool
  | .slot .. => true
  | _ => false

def forced? : Param → Option Kind
  | .request k => some k
  | _ => none

def span? : Param → Option Span
  | .delay s => some s
  | _ => none

def intent? : Param → Option String
  | .intent name => some name
  | _ => none

def utterance? : Param → Option String
  | .utterance text => some text
  | _ => none

def slot? : Param → Option (String × SlotValue)
  | .slot name value => some (name, value)
  | _ => none

end Param

namespace Node

def params (n : Node) : List Param := n.filterMap Action.param?

/-- The kind of the node's request: the last one it names, else the first of intent, utterance and launch that
it has a parameter for. -/
def kind? (n : Node) : Option Kind :=
  match (n.params.filterMap Param.forced?).getLast? with
  | some k => some k
  | none =>
    if n.params.any Param.isIntent then some .intent
    else if n.params.any Param.isUtterance then some .utterance
    else if n.params.any Param.isLaunch then some .launch
    else none

def validate (n : Node) : Except ScriptFault Unit :=
  match n.kind? with
  | some .intent => if n.params.any Param.isIntent then .ok () else .error .noIntentName
  | some .utterance =>
    if !n.params.any Param.isUtterance then .error .noUtterance
    else if n.params.any Param.isSlot then .error .slotsWithoutIntent
    else .ok ()
  | _ => if n.params.any Param.isSlot then .error .slotsWithoutIntent else .ok ()

end Node

def spanOf (text : String) : Except Failure Span :=
  let text := Text.trim text.toList
  match Text.word? text with
  | .ok n => .ok (Span.ofMillis (.ofNat n))
  | .error _ =>
    match Span.ofText text with
    | .ok s => .ok s
    | .error .brokenCarry => .error .breakdown
    | .error why => .error (.script (.delay (.ofList text) why))

def nonEmpty (key value : String) : Except Failure String :=
  let value := Text.trimText value
  if value.isEmpty then .error (.script (.missingValue key)) else .ok value

def askedKind? (name : String) : Option Kind :=
  [Kind.launch, .intent, .utterance].find? (·.name = name)

def slotValue (marker : Char) (value : String) : Except Failure SlotValue :=
  match value.toList with
  | c :: name =>
    if c = marker then
      match Asset.ofName? (.ofList name) with
      | some a => .ok (.reference a)
      | none => .error (.script (.unknownReference value))
    else .ok (.literal value)
  | [] => .ok (.literal value)

def slotPrefix : List Char := "slot.".toList

/-- A key that is not reserved names a slot; with `slot.` before it a reserved one does too. -/
def param (marker : Char) (key value : String) : Except Failure Param :=
  if key = "intent" then (nonEmpty key value).map .intent
  else if key = "utterance" then (nonEmpty key value).map .utterance
  else if key = "launch" then
    let value := Text.trimText value
    if value = "true" then .ok .launch else .error (.script (.launchValue value))
  else if key = "delay" then (spanOf value).map .delay
  else if key = "request" then
    let value := Text.trimText value
    match askedKind? value with
    | some k => .ok (.request k)
    | none => .error (.script (.requestValue value))
  else
    let name := (slotPrefix.isPrefixOf? key.toList).getD key.toList
    if name.isEmpty then .error (.script (.missingSlotName key))
    else (slotValue marker value).map (.slot (.ofList name))

def paramsOf (marker : Char) : List (String × Tree) → Except Failure (List Action)
  | [] => .ok []
  | (key, .text value) :: rest => do
    let p ← param marker key value
    return .param p :: (← paramsOf marker rest)
  | (key, t) :: _ => .error (.script (.notAScalar key t.shape))

def checked (n : Node) : Except Failure Node :=
  match Node.validate n with
  | .ok () => .ok n
  | .error f => .error (.script f)

section
variable [Regex.Room]

mutual
def actionsOf (marker : Char) : Tree → Except Failure (List Action)
  | .text s => (Predicate.ofText s).map fun p => [.check p]
  | .list items => do
    let body ← checked (← actionsOfItems marker items)
    return [.follow body]
  | .map entries =>
    if entries.isEmpty then .error (.script .emptyMap)
    else if entries.all fun (_, t) => t.isList then branchesOf marker entries
    else if entries.any fun (_, t) => t.isList then .error (.script (.mixedMap (entries.map (·.1))))
    else paramsOf marker entries

def actionsOfItems (marker : Char) : List Tree → Except Failure (List Action)
  | [] => .ok []
  | t :: rest => do
    let actions ← actionsOf marker t
    return actions ++ (← actionsOfItems marker rest)

def branchesOf (marker : Char) : List (String × Tree) → Except Failure (List Action)
  | [] => .ok []
  | (key, .list items) :: rest => do
    let p ← Predicate.ofText key
    let body ← checked (← actionsOfItems marker items)
    return .branch p body :: (← branchesOf marker rest)
  | (_, t) :: _ => .error (.script (.notAList t.shape))
end

def Node.ofTree (marker : Char) : Tree → Except Failure Node
  | .list items => do checked (← actionsOfItems marker items)
  | t => .error (.script (.notAList t.shape))

end
end Rehearsal.Script
