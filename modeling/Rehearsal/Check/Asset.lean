import Rehearsal.Wire.ResponseText

/-!
Assets: the named places of a response that hold a value. They form a tree; an asset has a value only where
its parent has one.
-/
namespace Rehearsal.Check
open Json (Value)
open Wire

inductive Asset where
  | card
  | simpleCard
  | simpleCardTitle
  | simpleCardContent
  | standardCard
  | standardCardTitle
  | standardCardText
  | standardCardImage
  | standardCardImageSmall
  | standardCardImageLarge
  | linkAccountCard
  | linkAccountCardTitle
  | outputSpeech
  | outputSpeechSsml
  | outputSpeechPlainText
  | repromptSpeech
  | repromptSpeechSsml
  | repromptSpeechPlainText
  | directivePlay
  | directivePlayBehavior
  | directivePlayAudioItem
  | directivePlayAudioItemStream
  | directivePlayAudioItemStreamUrl
  | directivePlayAudioItemStreamToken
  | directivePlayAudioItemStreamPreviousToken
  | directivePlayAudioItemStreamOffset
  | directiveStop
  | directiveClearQueue
  | directiveClearQueueBehavior
deriving DecidableEq, Repr

def ssml? : Option Speech → Option Value
  | some (.ssml t) => some (.string t)
  | _ => none

def plainText? : Option Speech → Option Value
  | some (.plainText t) => some (.string t)
  | _ => none

def image? (r : Response) : Option CardImage :=
  match r.card with
  | some (.standard _ _ image) => image
  | _ => none

def audioItem? (r : Response) : Option AudioItem :=
  match r.play? with
  | some (.play _ item) => item
  | _ => none

def stream? (r : Response) : Option Stream :=
  (audioItem? r).bind (·.stream)

namespace Asset

def all : List Asset :=
  [.card, .simpleCard, .simpleCardTitle, .simpleCardContent, .standardCard, .standardCardTitle, .standardCardText,
   .standardCardImage, .standardCardImageSmall, .standardCardImageLarge, .linkAccountCard, .linkAccountCardTitle,
   .outputSpeech, .outputSpeechSsml, .outputSpeechPlainText, .repromptSpeech, .repromptSpeechSsml,
   .repromptSpeechPlainText, .directivePlay, .directivePlayBehavior, .directivePlayAudioItem,
   .directivePlayAudioItemStream, .directivePlayAudioItemStreamUrl, .directivePlayAudioItemStreamToken,
   .directivePlayAudioItemStreamPreviousToken, .directivePlayAudioItemStreamOffset, .directiveStop,
   .directiveClearQueue, .directiveClearQueueBehavior]

def name : Asset → String
  | .card => "Card"
  | .simpleCard => "SimpleCard"
  | .simpleCardTitle => "SimpleCardTitle"
  | .simpleCardContent => "SimpleCardContent"
  | .standardCard => "StandardCard"
  | .standardCardTitle => "StandardCardTitle"
  | .standardCardText => "StandardCardText"
  | .standardCardImage => "StandardCardImage"
  | .standardCardImageSmall => "StandardCardImageSmall"
  | .standardCardImageLarge => "StandardCardImageLarge"
  | .linkAccountCard => "LinkAccountCard"
  | .linkAccountCardTitle => "LinkAccountCardTitle"
  | .outputSpeech => "OutputSpeech"
  | .outputSpeechSsml => "OutputSpeechSsml"
  | .outputSpeechPlainText => "OutputSpeechPlainText"
  | .repromptSpeech => "RepromptSpeech"
  | .repromptSpeechSsml => "RepromptSpeechSsml"
  | .repromptSpeechPlainText => "RepromptSpeechPlainText"
  | .directivePlay => "DirectivePlay"
  | .directivePlayBehavior => "DirectivePlayBehavior"
  | .directivePlayAudioItem => "DirectivePlayAudioItem"
  | .directivePlayAudioItemStream => "DirectivePlayAudioItemStream"
  | .directivePlayAudioItemStreamUrl => "DirectivePlayAudioItemStreamUrl"
  | .directivePlayAudioItemStreamToken => "DirectivePlayAudioItemStreamToken"
  | .directivePlayAudioItemStreamPreviousToken => "DirectivePlayAudioItemStreamPreviousToken"
  | .directivePlayAudioItemStreamOffset => "DirectivePlayAudioItemStreamOffset"
  | .directiveStop => "DirectiveStop"
  | .directiveClearQueue => "DirectiveClearQueue"
  | .directiveClearQueueBehavior => "DirectiveClearQueueBehavior"

/-- The asset with a name, whose words may be set apart by points: dots in a name do not count. -/
def ofName? (name : String) : Option Asset :=
  let plain := name.toList.filter (· ≠ '.')
  all.find? (·.name.toList = plain)

def parent? : Asset → Option Asset
  | .card | .outputSpeech | .repromptSpeech | .directivePlay | .directiveStop | .directiveClearQueue => none
  | .simpleCard | .standardCard | .linkAccountCard => some .card
  | .simpleCardTitle | .simpleCardContent => some .simpleCard
  | .standardCardTitle | .standardCardText | .standardCardImage => some .standardCard
  | .standardCardImageSmall | .standardCardImageLarge => some .standardCardImage
  | .linkAccountCardTitle => some .linkAccountCard
  | .outputSpeechSsml | .outputSpeechPlainText => some .outputSpeech
  | .repromptSpeechSsml | .repromptSpeechPlainText => some .repromptSpeech
  | .directivePlayBehavior | .directivePlayAudioItem => some .directivePlay
  | .directivePlayAudioItemStream => some .directivePlayAudioItem
  | .directivePlayAudioItemStreamUrl | .directivePlayAudioItemStreamToken
  | .directivePlayAudioItemStreamPreviousToken | .directivePlayAudioItemStreamOffset =>
    some .directivePlayAudioItemStream
  | .directiveClearQueueBehavior => some .directiveClearQueue

def depth : Asset → Nat
  | .card | .outputSpeech | .repromptSpeech | .directivePlay | .directiveStop | .directiveClearQueue => 0
  | .standardCardImageSmall | .standardCardImageLarge | .directivePlayAudioItemStream => 3
  | .directivePlayAudioItemStreamUrl | .directivePlayAudioItemStreamToken
  | .directivePlayAudioItemStreamPreviousToken | .directivePlayAudioItemStreamOffset => 4
  | .simpleCardTitle | .simpleCardContent | .standardCardTitle | .standardCardText | .standardCardImage
  | .linkAccountCardTitle | .directivePlayAudioItem => 2
  | _ => 1

theorem depth_parent {a p : Asset} (h : a.parent? = some p) : p.depth < a.depth := by
  cases a <;> simp [parent?] at h <;> subst h <;> decide

def lineage (a : Asset) : List Asset :=
  match _h : a.parent? with
  | none => [a]
  | some p => a :: lineage p
termination_by a.depth
decreasing_by exact depth_parent _h

def value? (r : Response) : Asset → Option Value
  | .card => r.card.map (·.toValue)
  | .simpleCard => match r.card with | some c@(.simple ..) => some c.toValue | _ => none
  | .simpleCardTitle => match r.card with | some (.simple title _) => some (.string title) | _ => none
  | .simpleCardContent => match r.card with | some (.simple _ content) => some (.string content) | _ => none
  | .standardCard => match r.card with | some c@(.standard ..) => some c.toValue | _ => none
  | .standardCardTitle => match r.card with | some (.standard title _ _) => some (.string title) | _ => none
  | .standardCardText => match r.card with | some (.standard _ text _) => some (.string text) | _ => none
  | .standardCardImage => (image? r).map (·.toValue)
  | .standardCardImageSmall => (image? r).bind fun i => textValue i.small
  | .standardCardImageLarge => (image? r).bind fun i => textValue i.large
  | .linkAccountCard => match r.card with | some c@(.linkAccount _) => some c.toValue | _ => none
  | .linkAccountCardTitle => match r.card with | some (.linkAccount title) => textValue title | _ => none
  | .outputSpeech => r.speech.map (·.toValue)
  | .outputSpeechSsml => ssml? r.speech
  | .outputSpeechPlainText => plainText? r.speech
  | .repromptSpeech => r.repromptSpeech.map (·.toValue)
  | .repromptSpeechSsml => ssml? r.repromptSpeech
  | .repromptSpeechPlainText => plainText? r.repromptSpeech
  | .directivePlay => r.play?.map (·.toValue)
  | .directivePlayBehavior => match r.play? with | some (.play b _) => some (.string b.wireName) | _ => none
  | .directivePlayAudioItem => (audioItem? r).map (·.toValue)
  | .directivePlayAudioItemStream => (stream? r).map (·.toValue)
  | .directivePlayAudioItemStreamUrl => (stream? r).bind fun s => textValue s.url
  | .directivePlayAudioItemStreamToken => (stream? r).bind fun s => textValue s.token
  | .directivePlayAudioItemStreamPreviousToken => (stream? r).bind fun s => textValue s.previousToken
  | .directivePlayAudioItemStreamOffset => (stream? r).map fun s => .number (.int s.offset)
  | .directiveStop => r.stop?.map (·.toValue)
  | .directiveClearQueue => r.clearQueue?.map (·.toValue)
  | .directiveClearQueueBehavior =>
    match r.clearQueue? with
    | some (.clearQueue b) => some (.string b.wireName)
    | _ => none

end Asset
end Rehearsal.Check
