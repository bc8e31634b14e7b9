import Rehearsal.Wire.ResponseText

/-! Assertions: a closed vocabulary of statements about a whole response. -/
namespace Rehearsal.Check
open Json (Value)
open Wire

inductive Assertion where
  | sessionEnded
  | sessionStillOpen
  | hasCard
  | hasCardIsSimple
  | hasCardIsStandard
  | hasCardIsLinkAccount
  | hasRepromptSpeech
  | hasRepromptSpeechIsSsml
  | hasRepromptSpeechIsPlainText
  | hasOutputSpeech
  | hasOutputSpeechIsSsml
  | hasOutputSpeechIsPlainText
  | hasDirective
  | hasDirectiveIsPlay
  | hasDirectiveIsPlayWithReplaceAll
  | hasDirectiveIsPlayWithEnqueue
  | hasDirectiveIsPlayWithReplaceEnqueued
  | hasDirectiveIsStop
  | hasDirectiveIsClearQueue
  | hasDirectiveIsClearQueueWithClearAll
  | hasDirectiveIsClearQueueWithClearEnqueued
deriving DecidableEq, Repr

def isSsml : Option Speech → Bool
  | some (.ssml _) => true
  | _ => false

def isPlainText : Option Speech → Bool
  | some (.plainText _) => true
  | _ => false

def plays (b : PlayBehavior) : Directive → Bool
  | .play c _ => c = b
  | _ => false

def clears (b : ClearBehavior) : Directive → Bool
  | .clearQueue c => c = b
  | _ => false

namespace Assertion

def all : List Assertion :=
  [.sessionEnded, .sessionStillOpen, .hasCard, .hasCardIsSimple, .hasCardIsStandard, .hasCardIsLinkAccount,
   .hasRepromptSpeech, .hasRepromptSpeechIsSsml, .hasRepromptSpeechIsPlainText, .hasOutputSpeech,
   .hasOutputSpeechIsSsml, .hasOutputSpeechIsPlainText, .hasDirective, .hasDirectiveIsPlay,
   .hasDirectiveIsPlayWithReplaceAll, .hasDirectiveIsPlayWithEnqueue, .hasDirectiveIsPlayWithReplaceEnqueued,
   .hasDirectiveIsStop, .hasDirectiveIsClearQueue, .hasDirectiveIsClearQueueWithClearAll,
   .hasDirectiveIsClearQueueWithClearEnqueued]

def name : Assertion → String
  | .sessionEnded => "SessionEnded"
  | .sessionStillOpen => "SessionStillOpen"
  | .hasCard => "HasCard"
  | .hasCardIsSimple => "HasCardIsSimple"
  | .hasCardIsStandard => "HasCardIsStandard"
  | .hasCardIsLinkAccount => "HasCardIsLinkAccount"
  | .hasRepromptSpeech => "HasRepromptSpeech"
  | .hasRepromptSpeechIsSsml => "HasRepromptSpeechIsSsml"
  | .hasRepromptSpeechIsPlainText => "HasRepromptSpeechIsPlainText"
  | .hasOutputSpeech => "HasOutputSpeech"
  | .hasOutputSpeechIsSsml => "HasOutputSpeechIsSsml"
  | .hasOutputSpeechIsPlainText => "HasOutputSpeechIsPlainText"
  | .hasDirective => "HasDirective"
  | .hasDirectiveIsPlay => "HasDirectiveIsPlay"
  | .hasDirectiveIsPlayWithReplaceAll => "HasDirectiveIsPlayWithReplaceAll"
  | .hasDirectiveIsPlayWithEnqueue => "HasDirectiveIsPlayWithEnqueue"
  | .hasDirectiveIsPlayWithReplaceEnqueued => "HasDirectiveIsPlayWithReplaceEnqueued"
  | .hasDirectiveIsStop => "HasDirectiveIsStop"
  | .hasDirectiveIsClearQueue => "HasDirectiveIsClearQueue"
  | .hasDirectiveIsClearQueueWithClearAll => "HasDirectiveIsClearQueueWithClearAll"
  | .hasDirectiveIsClearQueueWithClearEnqueued => "HasDirectiveIsClearQueueWithClearEnqueued"

def ofName? (name : String) : Option Assertion :=
  all.find? (·.name = name)

def holds (r : Response) : Assertion → Bool
  | .sessionEnded => r.shouldEnd = some true
  | .sessionStillOpen => r.shouldEnd ≠ some true
  | .hasCard => r.card.isSome
  | .hasCardIsSimple => match r.card with | some (.simple ..) => true | _ => false
  | .hasCardIsStandard => match r.card with | some (.standard ..) => true | _ => false
  | .hasCardIsLinkAccount => match r.card with | some (.linkAccount _) => true | _ => false
  | .hasRepromptSpeech => r.repromptSpeech.isSome
  | .hasRepromptSpeechIsSsml => isSsml r.repromptSpeech
  | .hasRepromptSpeechIsPlainText => isPlainText r.repromptSpeech
  | .hasOutputSpeech => r.speech.isSome
  | .hasOutputSpeechIsSsml => isSsml r.speech
  | .hasOutputSpeechIsPlainText => isPlainText r.speech
  | .hasDirective => !r.directives.isEmpty
  | .hasDirectiveIsPlay => r.play?.isSome
  | .hasDirectiveIsPlayWithReplaceAll => r.directives.any (plays .replaceAll)
  | .hasDirectiveIsPlayWithEnqueue => r.directives.any (plays .enqueue)
  | .hasDirectiveIsPlayWithReplaceEnqueued => r.directives.any (plays .replaceEnqueued)
  | .hasDirectiveIsStop => r.stop?.isSome
  | .hasDirectiveIsClearQueue => r.clearQueue?.isSome
  | .hasDirectiveIsClearQueueWithClearAll => r.directives.any (clears .clearAll)
  | .hasDirectiveIsClearQueueWithClearEnqueued => r.directives.any (clears .clearEnqueued)

/-- The part of a response that an assertion looks at. -/
def subject (r : Response) : Assertion → Value
  | .sessionEnded | .sessionStillOpen => (r.shouldEnd.map .bool).getD .null
  | .hasCard | .hasCardIsSimple | .hasCardIsStandard | .hasCardIsLinkAccount =>
    (r.card.map (·.toValue)).getD .null
  | .hasRepromptSpeech | .hasRepromptSpeechIsSsml | .hasRepromptSpeechIsPlainText =>
    (r.repromptSpeech.map (·.toValue)).getD .null
  | .hasOutputSpeech | .hasOutputSpeechIsSsml | .hasOutputSpeechIsPlainText =>
    (r.speech.map (·.toValue)).getD .null
  | _ => .array (r.directives.map (·.toValue))

end Assertion
end Rehearsal.Check
