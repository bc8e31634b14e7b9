import Rehearsal.Check.Verdict
import Rehearsal.Proofs.Wire.Response
import Rehearsal.Session.Actor

/-!
Assertions and assets speak of the same response: where one has a counterpart in the other vocabulary, both say the same. The
first directive of a type and any directive with a behaviour are different searches, which agree where there is one alone.
-/
namespace Rehearsal.Check
open Json Wire

namespace Assertion

/-- The asset that is there where the assertion holds. -/
def counterpart? : Assertion → Option Asset
  | .hasCard => some .card
  | .hasCardIsSimple => some .simpleCard
  | .hasCardIsStandard => some .standardCard
  | .hasCardIsLinkAccount => some .linkAccountCard
  | .hasRepromptSpeech => some .repromptSpeech
  | .hasRepromptSpeechIsSsml => some .repromptSpeechSsml
  | .hasRepromptSpeechIsPlainText => some .repromptSpeechPlainText
  | .hasOutputSpeech => some .outputSpeech
  | .hasOutputSpeechIsSsml => some .outputSpeechSsml
  | .hasOutputSpeechIsPlainText => some .outputSpeechPlainText
  | .hasDirectiveIsPlay => some .directivePlay
  | .hasDirectiveIsStop => some .directiveStop
  | .hasDirectiveIsClearQueue => some .directiveClearQueue
  | _ => none

def playing : PlayBehavior → Assertion
  | .replaceAll => .hasDirectiveIsPlayWithReplaceAll
  | .enqueue => .hasDirectiveIsPlayWithEnqueue
  | .replaceEnqueued => .hasDirectiveIsPlayWithReplaceEnqueued

def clearing : ClearBehavior → Assertion
  | .clearAll => .hasDirectiveIsClearQueueWithClearAll
  | .clearEnqueued => .hasDirectiveIsClearQueueWithClearEnqueued

end Assertion

variable {r : Response}

theorem isSsml_eq (s : Option Speech) : isSsml s = (ssml? s).isSome := by
  cases s with
  | none => rfl
  | some s => cases s <;> rfl

theorem isPlainText_eq (s : Option Speech) : isPlainText s = (plainText? s).isSome := by
  cases s with
  | none => rfl
  | some s => cases s <;> rfl

theorem holds_eq_isSome {a : Assertion} {b : Asset} (same : a.counterpart? = some b) : a.holds r = (b.value? r).isSome := by
  cases a <;> cases same <;> simp only [Assertion.holds, Asset.value?, Option.isSome_map, isSsml_eq, isPlainText_eq]
  case hasCardIsSimple | hasCardIsStandard | hasCardIsLinkAccount =>
    cases r.card with
    | none => rfl
    | some c => cases c <;> rfl

def typedCards : List Asset := [.simpleCard, .standardCard, .linkAccountCard]

def cardAsset? : Card → Option Asset
  | .simple .. => some .simpleCard
  | .standard .. => some .standardCard
  | .linkAccount _ => some .linkAccountCard
  | .unsupported => none

/-- A card is of one type. -/
theorem typed_card_iff {a : Asset} (typed : a ∈ typedCards) : (a.value? r).isSome = true ↔ r.card.bind cardAsset? = some a := by
  simp only [typedCards, List.mem_cons, List.not_mem_nil, or_false] at typed
  obtain rfl | rfl | rfl := typed <;> simp only [Asset.value?] <;> cases r.card with
  | none => simp
  | some c => cases c <;> simp [cardAsset?]

theorem one_form (s : Option Speech) : s.isSome = ((ssml? s).isSome ^^ (plainText? s).isSome) := by
  cases s with
  | none => rfl
  | some s => cases s <;> rfl

/-- An asset that is a name is equal to that name alone. -/
theorem equals_name {β : Type} {name : β → String} (injective : Function.Injective name) {a : Asset} {x : Option β}
    (value : a.value? r = x.map fun b => .string (name b)) (b : β) : a.equals r (some (name b)) = true ↔ x = some b := by
  unfold Asset.equals
  rw [value]
  cases x with
  | none => simp
  | some c =>
    rw [Option.some_inj, ← injective.eq_iff]
    exact decide_eq_true_iff

/-- What is said of the directives of one kind, of those of them that go one way, and of the way that the first goes. -/
structure Ways {β : Type} (r : Response) (kind : Directive → Bool) (any : Assertion) (each : β → Assertion) (asset : Asset)
    (name : β → String) : Prop where
  each_iff : any.holds r = true ↔ ∃ b, (each b).holds r = true
  of_first : ∀ b, asset.equals r (name b) = true → (each b).holds r = true
  of_only : (r.directives.filter kind).length ≤ 1 → ∀ b, (each b).holds r = true → asset.equals r (name b) = true

section
variable {β : Type} [DecidableEq β] {way : Directive → Option β} {l : List Directive} {b : β}

theorem any_way : (l.find? fun d => (way d).isSome).isSome = true ↔ ∃ b, l.any (fun d => way d = some b) = true := by
  simp only [List.isSome_find?, List.any_eq_true, decide_eq_true_eq, Option.isSome_iff_exists]
  constructor
  · rintro ⟨d, member, b, given⟩
    exact ⟨b, d, member, given⟩
  · rintro ⟨b, d, member, given⟩
    exact ⟨d, member, b, given⟩

theorem way_of_first (first : (l.find? fun d => (way d).isSome).bind way = some b) : l.any (fun d => way d = some b) = true := by
  obtain ⟨d, found, given⟩ := Option.bind_eq_some_iff.mp first
  exact List.any_eq_true.mpr ⟨d, List.mem_of_find?_eq_some found, decide_eq_true given⟩

theorem way_of_only (only : (l.filter fun d => (way d).isSome).length ≤ 1) (given : l.any (fun d => way d = some b) = true) :
    (l.find? fun d => (way d).isSome).bind way = some b := by
  obtain ⟨d, member, given⟩ := List.any_eq_true.mp given
  have given : way d = some b := of_decide_eq_true given
  have kept : d ∈ l.filter fun d => (way d).isSome := List.mem_filter.mpr ⟨member, by rw [given, Option.isSome_some]⟩
  rw [← List.head?_filter]
  cases kinds : l.filter fun d => (way d).isSome with
  | nil => simp [kinds] at kept
  | cons e rest =>
    rw [kinds, List.length_cons] at only
    obtain rfl := List.eq_nil_of_length_eq_zero (Nat.le_zero.mp (Nat.le_of_succ_le_succ only))
    obtain rfl := List.mem_singleton.mp (kinds ▸ kept)
    exact given

theorem ways (way : Directive → Option β) {kind : Directive → Bool} {any : Assertion} {each : β → Assertion} {asset : Asset}
    {name : β → String} (goes : ∀ d, kind d = (way d).isSome) (injective : Function.Injective name)
    (anyHolds : any.holds r = (r.directives.find? kind).isSome)
    (eachHolds : ∀ b, (each b).holds r = r.directives.any fun d => way d = some b)
    (value : asset.value? r = ((r.directives.find? kind).bind way).map fun b => .string (name b)) :
    Ways r kind any each asset name := by
  obtain rfl : kind = fun d => (way d).isSome := funext goes
  refine ⟨?_, fun b found => ?_, fun only b given => ?_⟩
  · simp only [anyHolds, eachHolds, any_way]
  · rw [eachHolds]
    exact way_of_first ((equals_name injective value b).mp found)
  · rw [eachHolds] at given
    exact (equals_name injective value b).mpr (way_of_only only given)

end

def playBehavior? : Directive → Option PlayBehavior
  | .play b _ => some b
  | _ => none

def clearBehavior? : Directive → Option ClearBehavior
  | .clearQueue b => some b
  | _ => none

theorem plays_eq (b : PlayBehavior) : plays b = fun d => decide (playBehavior? d = some b) := by
  funext d
  cases d <;> simp [plays, playBehavior?]

theorem clears_eq (b : ClearBehavior) : clears b = fun d => decide (clearBehavior? d = some b) := by
  funext d
  cases d <;> simp [clears, clearBehavior?]

theorem PlayBehavior.wireName_injective : Function.Injective PlayBehavior.wireName := fun b c named => by
  rw [← Option.some.injEq, ← b.ofName?_wireName, named, c.ofName?_wireName]

theorem ClearBehavior.wireName_injective : Function.Injective ClearBehavior.wireName := fun b c named => by
  rw [← Option.some.injEq, ← b.ofName?_wireName, named, c.ofName?_wireName]

theorem play_ways : Ways r Directive.isPlay .hasDirectiveIsPlay Assertion.playing .directivePlayBehavior PlayBehavior.wireName := by
  refine ways playBehavior? (fun d => by cases d <;> rfl) PlayBehavior.wireName_injective rfl (fun b => ?_) ?_
  · rw [← plays_eq]
    cases b <;> rfl
  · rw [Asset.value?, ← Response.play?]
    cases r.play? with
    | none => rfl
    | some d => cases d <;> rfl

theorem clear_ways : Ways r Directive.isClearQueue .hasDirectiveIsClearQueue Assertion.clearing .directiveClearQueueBehavior
    ClearBehavior.wireName := by
  refine ways clearBehavior? (fun d => by cases d <;> rfl) ClearBehavior.wireName_injective rfl (fun b => ?_) ?_
  · rw [← clears_eq]
    cases b <;> rfl
  · rw [Asset.value?, ← Response.clearQueue?]
    cases r.clearQueue? with
    | none => rfl
    | some d => cases d <;> rfl

theorem some_directive {kind : Directive → Bool} (found : (r.directives.find? kind).isSome = true) :
    Assertion.hasDirective.holds r = true := by
  obtain ⟨d, found⟩ := Option.isSome_iff_exists.mp found
  rw [Assertion.holds, List.isEmpty_eq_false_iff_exists_mem.mpr ⟨d, List.mem_of_find?_eq_some found⟩, Bool.not_false]

theorem closed_iff_ended (a : Session.Actor) : (a.apply r).session.closed = Assertion.sessionEnded.holds r := by
  change r.ends = decide (r.shouldEnd = some true)
  unfold Response.ends
  cases r.shouldEnd with
  | none => rfl
  | some ends => cases ends <;> rfl

structure Agreement (r : Response) : Prop where
  counterparts : ∀ a b, Assertion.counterpart? a = some b → (a.holds r = true ↔ (b.value? r).isSome = true)
  oneCard : ∀ a ∈ typedCards, ∀ b ∈ typedCards, (a.value? r).isSome = true → (b.value? r).isSome = true → a = b
  speech : Assertion.hasOutputSpeech.holds r =
    ((Asset.value? r .outputSpeechSsml).isSome ^^ (Asset.value? r .outputSpeechPlainText).isSome)
  reprompt : Assertion.hasRepromptSpeech.holds r =
    ((Asset.value? r .repromptSpeechSsml).isSome ^^ (Asset.value? r .repromptSpeechPlainText).isSome)
  directive : ∀ a ∈ [Assertion.hasDirectiveIsPlay, .hasDirectiveIsStop, .hasDirectiveIsClearQueue],
    a.holds r = true → Assertion.hasDirective.holds r = true
  plays : Ways r Directive.isPlay .hasDirectiveIsPlay Assertion.playing .directivePlayBehavior PlayBehavior.wireName
  clears : Ways r Directive.isClearQueue .hasDirectiveIsClearQueue Assertion.clearing .directiveClearQueueBehavior
    ClearBehavior.wireName
  session : Assertion.sessionStillOpen.holds r = !Assertion.sessionEnded.holds r
  closing : ∀ a : Session.Actor, (a.apply r).session.closed = Assertion.sessionEnded.holds r

theorem vocabularies_agree (r : Response) : Agreement r where
  counterparts a b same := by rw [holds_eq_isSome same]
  oneCard a ha b hb there here := by
    have card := (typed_card_iff ha).mp there
    exact Option.some.inj (card.symm.trans ((typed_card_iff hb).mp here))
  speech := one_form r.speech
  reprompt := one_form r.repromptSpeech
  directive a kind there := by
    simp only [List.mem_cons, List.not_mem_nil, or_false] at kind
    obtain rfl | rfl | rfl := kind <;> exact some_directive there
  plays := play_ways
  clears := clear_ways
  session := by simp [Assertion.holds]
  closing := closed_iff_ended

end Rehearsal.Check
