import Rehearsal.Check.Verdict
import Rehearsal.Proofs.Check.Ancestry
import Rehearsal.Proofs.Check.Vocabulary

/-!
The two forms of a check. What is required is what holds, and what a failing check saw is what it looked at: a value, or for an
assertion a part of the response, found by its names in the response's JSON.
-/
namespace Rehearsal.Check
open Json (Value Outline)
open Wire

section
variable {members : List (String × Option Outline)} {name : String} (distinct : (members.map (·.1)).Nodup)
include distinct

theorem follow_present {o : Option Outline} (member : (name, o) ∈ members) (rest : List String) :
    follow (name :: rest) (Outline.present members).toValue = o.bind fun o => follow rest o.toValue := by
  obtain ⟨m, record, found⟩ := Outline.get?_present distinct member
  rw [record, follow, found, Option.bind_map]
  rfl

theorem follow_written {α : Type} (x : Option α) (write : α → Outline) (member : (name, x.map write) ∈ members) :
    follow [name] (Outline.present members).toValue = x.map fun y => (write y).toValue := by
  rw [follow_present distinct member]
  cases x <;> rfl

end

section
variable (r : Response)

theorem follow_response (rest : List String) : follow ("response" :: rest) r.toValue = follow rest r.body.outline.toValue := by
  rw [Response.toValue, Response.outline]
  exact follow_present (by simp) (o := some r.body.outline) (by simp) rest

theorem follow_ending : follow ["response", "shouldEndSession"] r.toValue = r.shouldEnd.map .bool := by
  rw [follow_response, Body.outline]
  exact follow_written (by simp) r.body.shouldEnd (fun ends => .leaf (.bool ends)) (by simp)

theorem follow_speech : follow ["response", "outputSpeech"] r.toValue = r.speech.map (·.toValue) := by
  rw [follow_response, Body.outline]
  exact follow_written (by simp) r.body.speech Speech.outline (by simp)

theorem follow_card : follow ["response", "card"] r.toValue = r.card.map (·.toValue) := by
  rw [follow_response, Body.outline]
  exact follow_written (by simp) r.body.card Card.outline (by simp)

theorem follow_reprompt : follow ["response", "reprompt", "outputSpeech"] r.toValue = r.repromptSpeech.map (·.toValue) := by
  have inner (p : Reprompt) : follow ["outputSpeech"] p.outline.toValue = p.speech.map (·.toValue) :=
    follow_written (by simp) p.speech Speech.outline (by simp)
  rw [follow_response, Body.outline, follow_present (by simp) (o := r.body.reprompt.map (·.outline)) (by simp), Option.bind_map,
    Response.repromptSpeech, Option.map_bind]
  exact congrArg _ (funext inner)

theorem follow_directives : follow ["response", "directives"] r.toValue =
    if r.directives.isEmpty then none else some (.array (r.directives.map (·.toValue))) := by
  rw [follow_response, Body.outline,
    follow_present (by simp) (o := if r.body.directives.isEmpty then none else some (.list (r.body.directives.map (·.outline)))) (by simp)]
  rw [Response.directives]
  split_ifs
  · rfl
  · rw [Option.bind_some, follow, Outline.toValue, Json.Outline.toValues_eq_map, List.map_map]
    rfl

end

/-! Of what kind a card, a speech or a directive is can be told from what is written of it. -/

def word (name : String) (v : Value) : Option String :=
  match follow [name] v with
  | some (.string text) => some text
  | _ => none

section
variable {α : Type} {write : α → Value} {p : α → Bool}

def Shows (write : α → Value) (p : α → Bool) : Prop := ∃ f : Value → Bool, ∀ x, p x = f (write x)

theorem shows_of_word {key : α → Option String} (name text : String) (written : ∀ x, word name (write x) = key x) :
    Shows write fun x => key x = some text :=
  ⟨fun v => word name v = some text, fun x => by simp only [written]⟩

theorem Shows.any_option (shows : Shows write p) {o o' : Option α} (same : o'.map write = o.map write) : o'.any p = o.any p := by
  obtain ⟨f, told⟩ := shows
  have through (o : Option α) : o.any p = (o.map write).any f := by
    rw [funext told]
    cases o <;> rfl
  rw [through, through, same]

theorem Shows.any_list (shows : Shows write p) {l l' : List α} (same : l'.map write = l.map write) : l'.any p = l.any p := by
  obtain ⟨f, told⟩ := shows
  have through (l : List α) : l.any p = (l.map write).any f := by
    rw [funext told, List.any_map]
    rfl
  rw [through, through, same]

end

theorem word_given {members : List (String × Option Outline)} (distinct : (members.map (·.1)).Nodup) {name text : String}
    (member : (name, some (.text text)) ∈ members) : word name (Outline.present members).toValue = some text := by
  rw [word, follow_written distinct (some text) Outline.text member]
  rfl

/-- Members that are not there are not written. -/
theorem word_absent {members : List (String × Option Outline)} {name : String} (distinct : (name :: members.map (·.1)).Nodup) :
    word name (Outline.present members).toValue = none := by
  have apart : (((name, (none : Option Outline)) :: members).map (·.1)).Nodup := distinct
  have found : follow [name] (Outline.present members).toValue = none := follow_present apart (List.mem_cons_self ..) []
  rw [word, found]

def cardType : Card → String
  | .simple .. => "Simple"
  | .standard .. => "Standard"
  | .linkAccount _ => "LinkAccount"
  | .unsupported => "Unsupported"

def speechType : Speech → String
  | .ssml _ => "SSML"
  | .plainText _ => "PlainText"

def directiveType : Directive → String
  | .play .. => "AudioPlayer.Play"
  | .stop => "AudioPlayer.Stop"
  | .clearQueue _ => "AudioPlayer.ClearQueue"
  | .unsupported => "Unsupported"

theorem isSsml_eq_any (s : Option Speech) : isSsml s = s.any fun s => some (speechType s) = some "SSML" := by
  cases s with
  | none => rfl
  | some s => cases s <;> rfl

theorem isPlainText_eq_any (s : Option Speech) : isPlainText s = s.any fun s => some (speechType s) = some "PlainText" := by
  cases s with
  | none => rfl
  | some s => cases s <;> rfl

theorem isPlay_eq : Directive.isPlay = fun d => some (directiveType d) = some "AudioPlayer.Play" := by
  funext d
  cases d <;> rfl

theorem isStop_eq : Directive.isStop = fun d => some (directiveType d) = some "AudioPlayer.Stop" := by
  funext d
  cases d <;> rfl

theorem isClearQueue_eq : Directive.isClearQueue = fun d => some (directiveType d) = some "AudioPlayer.ClearQueue" := by
  funext d
  cases d <;> rfl

theorem shows_card (type : String) : Shows Card.toValue fun c => some (cardType c) = some type :=
  shows_of_word "type" type fun c => by cases c <;> exact word_given (by simp) (List.mem_cons_self ..)

theorem shows_speech (type : String) : Shows Speech.toValue fun s => some (speechType s) = some type :=
  shows_of_word "type" type fun s => by cases s <;> exact word_given (by simp) (List.mem_cons_self ..)

theorem shows_directive (type : String) : Shows Directive.toValue fun d => some (directiveType d) = some type :=
  shows_of_word "type" type fun d => by cases d <;> exact word_given (by simp) (List.mem_cons_self ..)

theorem shows_plays (b : PlayBehavior) : Shows Directive.toValue (plays b) := by
  have written (d : Directive) : word "playBehavior" d.toValue = (playBehavior? d).map (·.wireName) := by
    cases d with
    | play c item => exact word_given (by simp) (by simp)
    | stop | clearQueue | unsupported => exact word_absent (by simp)
  have same : plays b = fun d => (playBehavior? d).map (·.wireName) = some b.wireName := by
    simp [plays_eq, PlayBehavior.wireName_injective.eq_iff]
  rw [same]
  exact shows_of_word _ _ written

theorem shows_clears (b : ClearBehavior) : Shows Directive.toValue (clears b) := by
  have written (d : Directive) : word "clearBehavior" d.toValue = (clearBehavior? d).map (·.wireName) := by
    cases d with
    | play | stop | unsupported => exact word_absent (by simp)
    | clearQueue c => exact word_given (by simp) (by simp)
  have same : clears b = fun d => (clearBehavior? d).map (·.wireName) = some b.wireName := by
    simp [clears_eq, ClearBehavior.wireName_injective.eq_iff]
  rw [same]
  exact shows_of_word _ _ written

namespace Assertion

/-- The names that lead to the part of a response that an assertion looks at. -/
def place : Assertion → List String
  | .sessionEnded | .sessionStillOpen => ["response", "shouldEndSession"]
  | .hasCard | .hasCardIsSimple | .hasCardIsStandard | .hasCardIsLinkAccount => ["response", "card"]
  | .hasRepromptSpeech | .hasRepromptSpeechIsSsml | .hasRepromptSpeechIsPlainText => ["response", "reprompt", "outputSpeech"]
  | .hasOutputSpeech | .hasOutputSpeechIsSsml | .hasOutputSpeechIsPlainText => ["response", "outputSpeech"]
  | .hasDirective | .hasDirectiveIsPlay | .hasDirectiveIsPlayWithReplaceAll | .hasDirectiveIsPlayWithEnqueue
  | .hasDirectiveIsPlayWithReplaceEnqueued | .hasDirectiveIsStop | .hasDirectiveIsClearQueue
  | .hasDirectiveIsClearQueueWithClearAll | .hasDirectiveIsClearQueueWithClearEnqueued => ["response", "directives"]

/-- What stands for that part where a response has none: a list without directives is not written. -/
def nothing (a : Assertion) : Value := if a.place = ["response", "directives"] then .array [] else .null

variable {r r' : Response} {a : Assertion}

theorem subject_eq (r : Response) (a : Assertion) : a.subject r = (follow a.place r.toValue).getD a.nothing := by
  have listed : Value.array (r.directives.map (·.toValue)) =
      (if r.directives.isEmpty then none else some (.array (r.directives.map (·.toValue)))).getD (.array []) := by
    cases r.directives <;> rfl
  cases a <;> simp only [subject, place, nothing, follow_ending, follow_card, follow_reprompt, follow_speech, follow_directives]
  case sessionEnded | sessionStillOpen | hasCard | hasCardIsSimple | hasCardIsStandard | hasCardIsLinkAccount | hasRepromptSpeech
      | hasRepromptSpeechIsSsml | hasRepromptSpeechIsPlainText | hasOutputSpeech | hasOutputSpeechIsSsml
      | hasOutputSpeechIsPlainText => rfl
  all_goals exact listed

theorem directives_of_part (same : follow ["response", "directives"] r'.toValue = follow ["response", "directives"] r.toValue) :
    r'.directives.map (·.toValue) = r.directives.map (·.toValue) := by
  rw [follow_directives, follow_directives] at same
  cases empty' : r'.directives <;> cases empty : r.directives <;> simp_all

theorem holds_card (r : Response) :
    (holds r .hasCardIsSimple = r.card.any fun c => some (cardType c) = some "Simple") ∧
    (holds r .hasCardIsStandard = r.card.any fun c => some (cardType c) = some "Standard") ∧
    holds r .hasCardIsLinkAccount = r.card.any fun c => some (cardType c) = some "LinkAccount" := by
  simp only [holds]
  cases r.card with
  | none => exact ⟨rfl, rfl, rfl⟩
  | some c => cases c <;> exact ⟨rfl, rfl, rfl⟩

/-- Nothing but that part of a response counts for an assertion. -/
theorem holds_of_part (a : Assertion) (same : follow a.place r'.toValue = follow a.place r.toValue) : a.holds r' = a.holds r := by
  cases a
  case sessionEnded | sessionStillOpen =>
    have ending : r'.shouldEnd = r.shouldEnd := by
      refine Option.map_injective (fun b c written => ?_) (follow_ending r' ▸ follow_ending r ▸ same)
      injection written
    simp only [holds, ending]
  case hasCard =>
    have card := congrArg Option.isSome (follow_card r' ▸ follow_card r ▸ same)
    simpa only [holds, Option.isSome_map] using card
  case hasCardIsSimple =>
    rw [(holds_card r').1, (holds_card r).1]
    exact (shows_card _).any_option (follow_card r' ▸ follow_card r ▸ same)
  case hasCardIsStandard =>
    rw [(holds_card r').2.1, (holds_card r).2.1]
    exact (shows_card _).any_option (follow_card r' ▸ follow_card r ▸ same)
  case hasCardIsLinkAccount =>
    rw [(holds_card r').2.2, (holds_card r).2.2]
    exact (shows_card _).any_option (follow_card r' ▸ follow_card r ▸ same)
  case hasRepromptSpeech =>
    have speech := congrArg Option.isSome (follow_reprompt r' ▸ follow_reprompt r ▸ same)
    simpa only [holds, Option.isSome_map] using speech
  case hasOutputSpeech =>
    have speech := congrArg Option.isSome (follow_speech r' ▸ follow_speech r ▸ same)
    simpa only [holds, Option.isSome_map] using speech
  case hasRepromptSpeechIsSsml | hasRepromptSpeechIsPlainText =>
    simp only [holds, isSsml_eq_any, isPlainText_eq_any]
    exact (shows_speech _).any_option (follow_reprompt r' ▸ follow_reprompt r ▸ same)
  case hasOutputSpeechIsSsml | hasOutputSpeechIsPlainText =>
    simp only [holds, isSsml_eq_any, isPlainText_eq_any]
    exact (shows_speech _).any_option (follow_speech r' ▸ follow_speech r ▸ same)
  case hasDirective =>
    have directives := congrArg List.isEmpty (directives_of_part same)
    simpa only [holds, List.isEmpty_map, Bool.not_inj_iff] using directives
  case hasDirectiveIsPlay | hasDirectiveIsStop | hasDirectiveIsClearQueue =>
    simp only [holds, Response.play?, Response.stop?, Response.clearQueue?, List.isSome_find?, isPlay_eq, isStop_eq, isClearQueue_eq]
    exact (shows_directive _).any_list (directives_of_part same)
  case hasDirectiveIsPlayWithReplaceAll | hasDirectiveIsPlayWithEnqueue | hasDirectiveIsPlayWithReplaceEnqueued =>
    exact (shows_plays _).any_list (directives_of_part same)
  case hasDirectiveIsClearQueueWithClearAll | hasDirectiveIsClearQueueWithClearEnqueued =>
    exact (shows_clears _).any_list (directives_of_part same)

end Assertion

namespace Predicate
variable {r r' : Response} {p : Predicate}

/-- What a predicate looks at: a value, or the part of the response that is an assertion's. -/
def value? (r : Response) : Predicate → Option Value
  | .assertion a => follow a.place r.toValue
  | .present a | .equals a _ | .like a _ => a.value? r
  | .attribute key _ => attribute? r key

/-- What is said to have been seen, where a check fails. -/
def observed (r : Response) (p : Predicate) : Option String :=
  match p with
  | .assertion a => some ((p.value? r).getD a.nothing).render
  | .present _ => none
  | _ => some (((p.value? r).map (·.text)).getD "absent")

theorem seen_eq (v : Option Value) : seen v = (v.map (·.text)).getD "absent" := by
  cases v <;> rfl

theorem require_eq (r : Response) (p : Predicate) : ∃ check, p.require r = Check.require (p.holds r) check (p.observed r) := by
  match p with
  | .assertion a => exact ⟨a.name, by rw [require, requireTrue, a.subject_eq r]; rfl⟩
  | .present a => exact ⟨_, rfl⟩
  | .equals a text => exact ⟨_, by rw [require, requireEquals, seen_eq]; rfl⟩
  | .like a p => exact ⟨_, by rw [require, requireLike, seen_eq]; rfl⟩
  | .attribute key c => exact ⟨_, by rw [require, requireAttribute, seen_eq]; rfl⟩

theorem require_eq_ok : p.require r = .ok () ↔ p.holds r = true := by
  obtain ⟨check, same⟩ := require_eq r p
  rw [same, Check.require]
  cases p.holds r <;> simp

theorem require_of_not_holds (broken : p.holds r = false) : ∃ check, p.require r = .error (.validation check (p.observed r)) := by
  obtain ⟨check, same⟩ := require_eq r p
  exact ⟨check, by rw [same, broken]; rfl⟩

/-- Nothing else of a response counts. -/
theorem holds_congr (same : p.value? r' = p.value? r) : p.holds r' = p.holds r := by
  match p with
  | .assertion a => exact a.holds_of_part same
  | .present _ => exact congrArg Option.isSome same
  | .equals a text =>
    have value : a.value? r' = a.value? r := same
    simp only [holds, Asset.equals, value]
  | .like a pattern =>
    have value : a.value? r' = a.value? r := same
    simp only [holds, Asset.isLike, value]
  | .attribute key c =>
    have value : attribute? r' key = attribute? r key := same
    simp only [holds, AttributeCheck.holds, value]

end Predicate
end Rehearsal.Check
