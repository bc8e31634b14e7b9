import Rehearsal.Check.Assertion
import Rehearsal.Check.Asset
import Rehearsal.Proofs.Json.Spelling
import Rehearsal.Proofs.Wire.Foreign

/-!
Checks beside what is not known. Every search of the directives passes over those of unknown types, and nothing but the checks
of the card reads the card; so one more such directive, or such a card, leaves all other checks as they were.
-/
namespace Rehearsal.Check
open Json Wire

/-- Responses that may differ in their cards and in the directives of unknown types. -/
structure Besides (r r' : Response) : Prop where
  shouldEnd : r'.shouldEnd = r.shouldEnd
  speech : r'.speech = r.speech
  reprompt : r'.repromptSpeech = r.repromptSpeech
  search : ∀ p : Directive → Bool, p .unsupported = false → r'.directives.find? p = r.directives.find? p

def cardAssertions : List Assertion := [.hasCard, .hasCardIsSimple, .hasCardIsStandard, .hasCardIsLinkAccount]

namespace Besides
variable {r r' : Response} (same : Besides r r')
include same

theorem play : r'.play? = r.play? := same.search _ rfl

theorem stop : r'.stop? = r.stop? := same.search _ rfl

theorem clearQueue : r'.clearQueue? = r.clearQueue? := same.search _ rfl

theorem any {p : Directive → Bool} (other : p .unsupported = false) : r'.directives.any p = r.directives.any p := by
  rw [← List.isSome_find?, ← List.isSome_find?, same.search p other]

theorem plays (b : PlayBehavior) : r'.directives.any (Check.plays b) = r.directives.any (Check.plays b) := same.any rfl

theorem clears (b : ClearBehavior) : r'.directives.any (Check.clears b) = r.directives.any (Check.clears b) := same.any rfl

theorem value? {a : Asset} (card : .card ∈ a.lineage → r'.card = r.card) : a.value? r' = a.value? r := by
  cases a with
  | card | simpleCard | simpleCardTitle | simpleCardContent | standardCard | standardCardTitle | standardCardText
  | standardCardImage | standardCardImageSmall | standardCardImageLarge | linkAccountCard | linkAccountCardTitle =>
    have card := card (by simp [Asset.lineage, Asset.parent?])
    simp only [Asset.value?, image?, card]
  | outputSpeech | outputSpeechSsml | outputSpeechPlainText => simp only [Asset.value?, same.speech]
  | repromptSpeech | repromptSpeechSsml | repromptSpeechPlainText => simp only [Asset.value?, same.reprompt]
  | directivePlay | directivePlayBehavior | directivePlayAudioItem | directivePlayAudioItemStream
  | directivePlayAudioItemStreamUrl | directivePlayAudioItemStreamToken | directivePlayAudioItemStreamPreviousToken
  | directivePlayAudioItemStreamOffset | directiveStop | directiveClearQueue | directiveClearQueueBehavior =>
    simp only [Asset.value?, stream?, audioItem?, same.play, same.stop, same.clearQueue]

theorem holds {a : Assertion} (other : a ≠ .hasDirective) (card : a ∈ cardAssertions → r'.card = r.card) :
    a.holds r' = a.holds r := by
  cases a with
  | hasCard | hasCardIsSimple | hasCardIsStandard | hasCardIsLinkAccount =>
    simp only [Assertion.holds, card (by decide)]
  | sessionEnded | sessionStillOpen => simp only [Assertion.holds, same.shouldEnd]
  | hasDirective => exact absurd rfl other
  | _ =>
    simp only [Assertion.holds, same.speech, same.reprompt, same.play, same.stop, same.clearQueue, same.plays, same.clears]

end Besides

theorem find?_insertIdx {α : Type} {p : α → Bool} {x : α} (other : p x = false) (place : Nat) (l : List α) :
    (l.insertIdx place x).find? p = l.find? p := by
  induction l generalizing place with
  | nil => cases place <;> simp [other]
  | cons y rest ih =>
    cases place with
    | zero => simp [other]
    | succ place => simp [List.find?_cons, ih]

section
variable {r : Response}

theorem besides_directive (place : Nat) :
    Besides r { r with body := { r.body with directives := r.directives.insertIdx place .unsupported } } :=
  ⟨rfl, rfl, rfl, fun _ other => find?_insertIdx other place r.directives⟩

theorem besides_card (card : Option Card) : Besides r { r with body := { r.body with card } } :=
  ⟨rfl, rfl, rfl, fun _ _ => rfl⟩

/-- A card of an unknown type is there, and is none of the known ones. -/
theorem value?_of_unsupported (card : r.card = some .unsupported) {a : Asset} (other : a ≠ .card) (below : .card ∈ a.lineage) :
    a.value? r = none := by
  cases a with
  | card => exact absurd rfl other
  | simpleCard | simpleCardTitle | simpleCardContent | standardCard | standardCardTitle | standardCardText
  | standardCardImage | standardCardImageSmall | standardCardImageLarge | linkAccountCard | linkAccountCardTitle =>
    simp [Asset.value?, image?, card]
  | _ => simp [Asset.lineage, Asset.parent?] at below

theorem holds_of_unsupported (card : r.card = some .unsupported) {a : Assertion} (about : a ∈ cardAssertions) :
    a.holds r = decide (a = .hasCard) := by
  simp only [cardAssertions, List.mem_cons, List.not_mem_nil, or_false] at about
  obtain rfl | rfl | rfl | rfl := about <;> simp [Assertion.holds, card]

theorem foreign_parts_disturb_nothing {bytes bytes' : List UInt8} {members : List (Option String × Source)} {s : Source}
    (given : Response.read bytes = .response r) (spelled : Source.ofBytes? bytes = some (.object members)) :
    (∀ place ≤ r.directives.length, Foreign Directive.types (depthLimit - 3) s →
      Source.ofBytes? bytes' = some (.object (Response.withBody (Body.withDirective place s) members)) →
      ∃ r', Response.read bytes' = .response r' ∧ Assertion.hasDirective.holds r' = true ∧
        (∀ a : Assertion, a ≠ .hasDirective → a.holds r' = a.holds r) ∧ (∀ a : Asset, a.value? r' = a.value? r) ∧
        r'.shouldEnd = r.shouldEnd ∧ r'.attributes = r.attributes) ∧
    (Foreign Card.types (depthLimit - 2) s →
      Source.ofBytes? bytes' = some (.object (Response.withBody (Body.withCard s) members)) →
      ∃ r', Response.read bytes' = .response r' ∧ (Asset.value? r' .card).isSome = true ∧
        (∀ a : Asset, a ≠ .card → .card ∈ a.lineage → a.value? r' = none) ∧
        (∀ a ∈ cardAssertions, a.holds r' = decide (a = .hasCard)) ∧
        (∀ a ∉ cardAssertions, a.holds r' = a.holds r) ∧ (∀ a : Asset, .card ∉ a.lineage → a.value? r' = a.value? r) ∧
        r'.shouldEnd = r.shouldEnd ∧ r'.attributes = r.attributes) := by
  constructor
  · intro place inside foreign spelled'
    refine ⟨_, Response.read_withDirective given spelled foreign spelled', ?_, fun a other => ?_, fun a => ?_, rfl, rfl⟩
    · have there : .unsupported ∈ r.directives.insertIdx place .unsupported := (List.mem_insertIdx inside).mpr (.inl rfl)
      exact congrArg Bool.not (List.isEmpty_eq_false_iff_exists_mem.mpr ⟨_, there⟩)
    · exact (besides_directive place).holds other fun _ => rfl
    · exact (besides_directive place).value? fun _ => rfl
  · intro foreign spelled'
    refine ⟨_, Response.read_withCard given spelled foreign spelled', rfl, fun a => value?_of_unsupported rfl,
      fun a => holds_of_unsupported rfl, fun a other => ?_, fun a other => ?_, rfl, rfl⟩
    · by_cases directive : a = .hasDirective
      · rw [directive]
        rfl
      · exact (besides_card _).holds directive fun about => absurd about other
    · exact (besides_card _).value? fun below => absurd below other

end

def directing (directives : List Value) : Value :=
  .object [("response", .object [("directives", .array directives)])]

def enqueuing : Value := .object [("playBehavior", .string "ENQUEUE"), ("type", .string "AudioPlayer.Play")]

def stranger (inside : Value) : Value := .object [("a", inside), ("type", .string "X")]

theorem stranger_goes_before_a_play :
    (∃ r', Response.read (Text.Utf8.encode (directing [stranger (.bool true), enqueuing]).chars) = .response r' ∧
      Assertion.hasDirective.holds r' = true ∧ Asset.value? r' .directivePlayBehavior = some (.string "ENQUEUE")) ∧
    ∃ r', Response.read (Text.Utf8.encode (Value.chars (.object [("response",
      .object [("directives", .array [enqueuing]), ("card", stranger .null)])]))) = .response r' ∧
      (Asset.value? r' .card).isSome = true ∧ Asset.value? r' .simpleCardTitle = none ∧
      Asset.value? r' .directivePlayBehavior = some (.string "ENQUEUE") := by
  have spelled := Value.ofBytes?_chars (v := directing [enqueuing]) rfl
  have given : Response.read (Text.Utf8.encode (directing [enqueuing]).chars) =
    .response { body := { directives := [.play .enqueue none] } } := (Response.read_iff spelled).mpr rfl
  constructor
  · have foreign : Foreign Directive.types (depthLimit - 3) (stranger (.bool true)).source := ⟨⟨_, "X", rfl, rfl, by decide⟩, rfl⟩
    obtain ⟨r', read, has, -, same, -⟩ := (foreign_parts_disturb_nothing given spelled).1 0 (Nat.zero_le _) foreign
      (Value.ofBytes?_chars (v := directing [stranger (.bool true), enqueuing]) rfl)
    exact ⟨r', read, has, same _⟩
  · have foreign : Foreign Card.types (depthLimit - 2) (stranger .null).source := ⟨⟨_, "X", rfl, rfl, by decide⟩, rfl⟩
    obtain ⟨r', read, there, below, -, -, same, -⟩ := (foreign_parts_disturb_nothing given spelled).2 foreign
      (Value.ofBytes?_chars (v := .object [("response", .object [("directives", .array [enqueuing]), ("card", stranger .null)])]) rfl)
    refine ⟨r', read, there, below _ (by decide) (by simp [Asset.lineage, Asset.parent?]), ?_⟩
    exact same .directivePlayBehavior (by simp [Asset.lineage, Asset.parent?])

def brackets : Nat → Value
  | 0 => .array []
  | n + 1 => .array [brackets n]

/-- What can be read by itself may be too deep inside the directives. -/
theorem deep_directive_is_not_read : ¬∀ (bytes bytes' : List UInt8) (members : List (Option String × Source)) (s : Source)
    (r : Response), Response.read bytes = .response r → Source.ofBytes? bytes = some (.object members) →
    Foreign Directive.types depthLimit s →
    Source.ofBytes? bytes' = some (.object (Response.withBody (Body.withDirective 0 s) members)) →
    ∃ r', Response.read bytes' = .response r' := by
  intro claim
  have spelled := Value.ofBytes?_chars (v := directing []) rfl
  have spelled' := Value.ofBytes?_chars (v := directing [stranger (brackets 125)]) (by decide +kernel)
  have foreign : Foreign Directive.types depthLimit (stranger (brackets 125)).source :=
    ⟨⟨_, "X", rfl, rfl, by decide⟩, by decide +kernel⟩
  obtain ⟨r', read⟩ := claim _ _ _ _ {} ((Response.read_iff spelled).mpr rfl) spelled foreign spelled'
  rw [Response.read_iff spelled'] at read
  have refused : (Response.ofSource? depthLimit (directing [stranger (brackets 125)]).source).isNone = true := by decide +kernel
  rw [read] at refused
  cases refused

end Rehearsal.Check
