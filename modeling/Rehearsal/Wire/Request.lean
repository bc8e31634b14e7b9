import Rehearsal.Json.Value

/-! Requests to a skill. -/
namespace Rehearsal.Wire

inductive Kind where
  | sessionStarted
  | launch
  | intent
  | utterance
  | sessionEnded
deriving DecidableEq, Repr

namespace Kind

def all : List Kind := [.sessionStarted, .launch, .intent, .utterance, .sessionEnded]

def expectsResponse : Kind → Bool
  | .launch | .intent | .utterance => true
  | .sessionStarted | .sessionEnded => false

def wireName : Kind → String
  | .sessionStarted => "SessionStartedRequest"
  | .launch => "LaunchRequest"
  | .intent => "IntentRequest"
  | .utterance => "UtteranceRequest"
  | .sessionEnded => "SessionEndedRequest"

def name : Kind → String
  | .sessionStarted => "session_started"
  | .launch => "launch"
  | .intent => "intent"
  | .utterance => "utterance"
  | .sessionEnded => "session_ended"

end Kind

inductive EndReason where
  | userInitiated
  | error
  | exceededMaxReprompts
deriving DecidableEq, Repr

namespace EndReason

def wireName : EndReason → String
  | .userInitiated => "USER_INITIATED"
  | .error => "ERROR"
  | .exceededMaxReprompts => "EXCEEDED_MAX_REPROMPTS"

def all : List EndReason := [.userInitiated, .error, .exceededMaxReprompts]

def ofName? (name : String) : Option EndReason :=
  all.find? (·.wireName = name)

end EndReason

structure Slot where
  name : String
  value : String
deriving DecidableEq, Repr

abbrev Slots := List (String × Slot)

def Slots.ofPairs (pairs : List (String × String)) : Slots :=
  Keyed.ofList (pairs.map fun (key, value) => (key, ⟨key, value⟩))

inductive Request where
  | sessionStarted
  | launch
  | intent (name : String) (slots : Slots)
  /-- Free text, for a skill that recognises it. -/
  | utterance (text : String)
  | sessionEnded (reason : EndReason)
deriving DecidableEq, Repr

namespace Request

def kind : Request → Kind
  | .sessionStarted => .sessionStarted
  | .launch => .launch
  | .intent .. => .intent
  | .utterance _ => .utterance
  | .sessionEnded _ => .sessionEnded

def label : Request → String
  | .intent name _ => Kind.intent.wireName ++ " " ++ name
  | r => r.kind.wireName

end Request
end Rehearsal.Wire
