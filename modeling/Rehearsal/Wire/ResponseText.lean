import Rehearsal.Json.Outline
import Rehearsal.Json.Record
import Rehearsal.Text.Search
import Rehearsal.Wire.Response

/-!
Responses as JSON. Members a response does not know are passed over; cards and directives of unknown types
are kept as `unsupported`.
-/
namespace Rehearsal.Wire
open Json

def textValue (s : Option String) : Option Value := s.map .string

def textOutline (s : Option String) : Option Outline := s.map .text

namespace Speech

def outline : Speech → Outline
  | .ssml t => .present [("type", some (.text "SSML")), ("ssml", some (.text t))]
  | .plainText t => .present [("type", some (.text "PlainText")), ("text", some (.text t))]

def toValue (s : Speech) : Value := s.outline.toValue

def ofSource? (depth : Nat) (v : Source) : Option Speech := do
  let (tag, v) ← v.tagged? depth
  match tag with
  | "SSML" =>
    let f : Fields ← v.fields? ["ssml"] depth
    return .ssml (← f.need "ssml" (·.text?))
  | "PlainText" =>
    let f : Fields ← v.fields? ["text"] depth
    return .plainText (← f.need "text" (·.text?))
  | _ => none

end Speech

namespace CardImage

def outline (i : CardImage) : Outline :=
  .present [("smallImageUrl", textOutline i.small), ("largeImageUrl", textOutline i.large)]

def toValue (i : CardImage) : Value := i.outline.toValue

def ofSource? (depth : Nat) (v : Source) : Option CardImage := do
  let f : Fields ← v.fields? ["smallImageUrl", "largeImageUrl"] depth
  return { small := ← f.get? "smallImageUrl" (·.text?), large := ← f.get? "largeImageUrl" (·.text?) }

end CardImage

namespace Card

def outline : Card → Outline
  | .simple title content =>
    .present [("type", some (.text "Simple")), ("title", some (.text title)), ("content", some (.text content))]
  | .standard title text image =>
    .present [("type", some (.text "Standard")), ("title", some (.text title)), ("text", some (.text text)),
      ("image", image.map (·.outline))]
  | .linkAccount title => .present [("type", some (.text "LinkAccount")), ("title", textOutline title)]
  | .unsupported => .present [("type", some (.text "Unsupported"))]

def toValue (c : Card) : Value := c.outline.toValue

def ofSource? (depth : Nat) (v : Source) : Option Card := do
  let (tag, v) ← v.tagged? depth
  match tag with
  | "Simple" =>
    let f : Fields ← v.fields? ["title", "content"] depth
    return .simple (← f.getD "title" "" (·.text?)) (← f.getD "content" "" (·.text?))
  | "Standard" =>
    let f : Fields ← v.fields? ["title", "text", "image"] depth
    return .standard (← f.getD "title" "" (·.text?)) (← f.getD "text" "" (·.text?))
      (← f.get? "image" (CardImage.ofSource? (depth - 1)))
  | "LinkAccount" =>
    let f : Fields ← v.fields? ["title"] depth
    return .linkAccount (← f.get? "title" (·.text?))
  | _ => if v.isBare then some .unsupported else none

end Card

namespace Stream

def outline (s : Stream) : Outline :=
  .present [("url", textOutline s.url), ("token", textOutline s.token),
    ("expectedPreviousToken", textOutline s.previousToken), ("offsetInMilliseconds", some (.leaf (.number (.int s.offset))))]

def toValue (s : Stream) : Value := s.outline.toValue

def ofSource? (depth : Nat) (v : Source) : Option Stream := do
  let f : Fields ← v.fields? ["url", "token", "expectedPreviousToken", "offsetInMilliseconds"] depth
  return { url := ← f.get? "url" (·.text?), token := ← f.get? "token" (·.text?)
           previousToken := ← f.get? "expectedPreviousToken" (·.text?)
           offset := ← f.getD "offsetInMilliseconds" 0 (·.int64?) }

end Stream

namespace AudioItem

def outline (i : AudioItem) : Outline :=
  .present [("stream", i.stream.map (·.outline))]

def toValue (i : AudioItem) : Value := i.outline.toValue

def ofSource? (depth : Nat) (v : Source) : Option AudioItem := do
  let f : Fields ← v.fields? ["stream"] depth
  return { stream := ← f.get? "stream" (Stream.ofSource? (depth - 1)) }

end AudioItem

namespace Directive

def outline : Directive → Outline
  | .play behavior item =>
    .present [("type", some (.text "AudioPlayer.Play")), ("playBehavior", some (.text behavior.wireName)),
      ("audioItem", item.map (·.outline))]
  | .stop => .present [("type", some (.text "AudioPlayer.Stop"))]
  | .clearQueue behavior =>
    .present [("type", some (.text "AudioPlayer.ClearQueue")), ("clearBehavior", some (.text behavior.wireName))]
  | .unsupported => .present [("type", some (.text "Unsupported"))]

def toValue (d : Directive) : Value := d.outline.toValue

private def choice? (v : Source) : Option String := v.choice? Source.isNullOrEmpty

def ofSource? (depth : Nat) (v : Source) : Option Directive := do
  let (tag, v) ← v.tagged? depth
  match tag with
  | "AudioPlayer.Play" =>
    let f : Fields ← v.fields? ["playBehavior", "audioItem"] depth
    return .play (← f.need "playBehavior" fun b => (choice? b).bind PlayBehavior.ofName?)
      (← f.get? "audioItem" (AudioItem.ofSource? (depth - 1)))
  | "AudioPlayer.Stop" => if v.isBare then some .stop else none
  | "AudioPlayer.ClearQueue" =>
    let f : Fields ← v.fields? ["clearBehavior"] depth
    return .clearQueue (← f.need "clearBehavior" fun b => (choice? b).bind ClearBehavior.ofName?)
  | _ => if v.isBare then some .unsupported else none

end Directive

namespace Reprompt

def outline (r : Reprompt) : Outline :=
  .present [("outputSpeech", r.speech.map (·.outline))]

def ofSource? (depth : Nat) (v : Source) : Option Reprompt := do
  let f : Fields ← v.fields? ["outputSpeech"] depth
  return { speech := ← f.get? "outputSpeech" (Speech.ofSource? (depth - 1)) }

end Reprompt

namespace Body

def outline (b : Body) : Outline :=
  .present [("shouldEndSession", b.shouldEnd.map fun ends => .leaf (.bool ends)),
    ("outputSpeech", b.speech.map (·.outline)), ("reprompt", b.reprompt.map (·.outline)),
    ("card", b.card.map (·.outline)),
    ("directives", if b.directives.isEmpty then none else some (.list (b.directives.map (·.outline))))]

def ofSource? (depth : Nat) (v : Source) : Option Body := do
  let f : Fields ← v.fields? ["shouldEndSession", "outputSpeech", "reprompt", "card", "directives"] depth
  return {
    shouldEnd := ← f.get? "shouldEndSession" (·.bool?)
    speech := ← f.get? "outputSpeech" (Speech.ofSource? (depth - 1))
    reprompt := ← f.get? "reprompt" (Reprompt.ofSource? (depth - 1))
    card := ← f.get? "card" (Card.ofSource? (depth - 1))
    directives := ← f.getD "directives" [] (·.items? (depth - 1) (Directive.ofSource? (depth - 2))) }

end Body

namespace Response

def outline (r : Response) : Outline :=
  .present [("version", some (.text r.version)), ("sessionAttributes", r.attributes.map fun m => .leaf (.object m)),
    ("response", some r.body.outline)]

def toValue (r : Response) : Value := r.outline.toValue

def toBytes (r : Response) : List UInt8 := Text.Utf8.encode r.outline.line

def ofSource? (depth : Nat) (v : Source) : Option Response := do
  let f : Fields ← v.fields? ["version", "sessionAttributes", "response"] depth
  return {
    version := ← f.getD "version" "" (·.text?)
    attributes := ← f.get? "sessionAttributes" (·.members? (depth - 1))
    body := ← f.getD "response" {} (Body.ofSource? (depth - 1)) }

/-- An answer of nothing but blanks holds no response; any other has to be one. -/
inductive Reading where
  | blank
  | malformed
  | response (r : Response)

def read (bytes : List UInt8) : Reading :=
  if bytes.all Text.isBlankByte then .blank
  else match (Source.ofBytes? bytes).bind (ofSource? depthLimit) with
    | some r => .response r
    | none => .malformed

end Response
end Rehearsal.Wire
