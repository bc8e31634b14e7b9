import Mathlib.Data.List.Perm.Basic
import Rehearsal.Proofs.Keyed
import Rehearsal.Proofs.Script.Play
import Rehearsal.Proofs.Traversal
import Rehearsal.Transport.Local

/-!
The slots of an intent. Each name stands once, with what the list says of it last; a reference says what the response before
the request has there, and where it has nothing there, no request goes out. The order in which a list names its parameters
does not matter, as long as it names each of them once.
-/
namespace Rehearsal.Script
open Check (Asset)
open Session (History)
open Wire (Kind Request Response)

variable {previous : Option Response} {f : Failure}

/-- What a slot says: its own text, or that of an asset of the response before. -/
inductive SlotValue.Says (previous : Option Response) : SlotValue → String → Prop where
  | literal (text : String) : Says previous (.literal text) text
  | reference {a : Asset} {r : Response} {v : Json.Value} (answered : previous = some r) (there : a.value? r = some v) :
    Says previous (.reference a) v.text

inductive SlotValue.Dangles (previous : Option Response) : SlotValue → Asset → Unresolved → Prop where
  | unanswered (a : Asset) (bare : previous = none) : Dangles previous (.reference a) a .noResponse
  | absent {a : Asset} {r : Response} (answered : previous = some r) (missing : a.value? r = none) :
    Dangles previous (.reference a) a .absent

theorem resolve_eq_ok {v : SlotValue} {text : String} : v.resolve previous = .ok text ↔ v.Says previous text := by
  constructor
  · intro h
    cases v with
    | literal =>
      obtain rfl := Except.ok.inj h
      exact .literal _
    | reference a =>
      cases previous with
      | none => cases h
      | some r =>
        cases value : a.value? r with
        | none => simp [SlotValue.resolve, value] at h
        | some v =>
          simp only [SlotValue.resolve, value] at h
          obtain rfl := Except.ok.inj h
          exact .reference rfl value
  · intro said
    cases said with
    | literal => rfl
    | reference answered there => simp [SlotValue.resolve, answered, there]

theorem resolve_dangles {v : SlotValue} :
    v.resolve previous = .error f ↔ ∃ a why, v.Dangles previous a why ∧ f = .unresolved a why := by
  constructor
  · intro h
    cases v with
    | literal => cases h
    | reference a =>
      cases previous with
      | none => exact ⟨a, .noResponse, .unanswered a rfl, (Except.error.inj h).symm⟩
      | some r =>
        cases value : a.value? r with
        | none =>
          simp only [SlotValue.resolve, value] at h
          exact ⟨a, .absent, .absent rfl value, (Except.error.inj h).symm⟩
        | some v => simp [SlotValue.resolve, value] at h
  · rintro ⟨a, why, dangles, rfl⟩
    cases dangles with
    | unanswered a bare => simp [SlotValue.resolve, bare]
    | absent answered missing => simp [SlotValue.resolve, answered, missing]

theorem exists_text_iff {v : SlotValue} : (∃ text, v.Says previous text) ↔ ∀ a why, ¬v.Dangles previous a why := by
  constructor
  · rintro ⟨text, said⟩ a why dangles
    cases (resolve_eq_ok.mpr said).symm.trans (resolve_dangles.mpr ⟨a, why, dangles, rfl⟩)
  · intro held
    cases resolved : v.resolve previous with
    | ok text => exact ⟨text, resolve_eq_ok.mp resolved⟩
    | error f =>
      obtain ⟨a, why, dangles, -⟩ := resolve_dangles.mp resolved
      exact absurd dangles (held a why)

theorem resolveSlots_eq_mapM (slots : List (String × SlotValue)) :
    resolveSlots previous slots = slots.mapM fun s => (s.2.resolve previous).map fun text => (s.1, text) := by
  induction slots with
  | nil => rfl
  | cons s rest ih =>
    rw [resolveSlots, ih, List.mapM_cons]
    cases s.2.resolve previous <;> rfl

theorem resolveSlots_eq_ok {slots : List (String × SlotValue)} {texts : List (String × String)} :
    resolveSlots previous slots = .ok texts ↔ List.Forall₂ (fun s t => s.1 = t.1 ∧ s.2.Says previous t.2) slots texts := by
  have one (s : String × SlotValue) (t : String × String) :
      ((s.2.resolve previous).map fun text => (s.1, text)) = .ok t ↔ s.1 = t.1 ∧ s.2.Says previous t.2 := by
    rw [map_eq_ok]
    constructor
    · rintro ⟨text, resolved, rfl⟩
      exact ⟨rfl, resolve_eq_ok.mp resolved⟩
    · rintro ⟨same, said⟩
      exact ⟨t.2, resolve_eq_ok.mpr said, by rw [same]⟩
  rw [resolveSlots_eq_mapM, mapM_eq_ok]
  simp only [one]

/-- The first reference to what is not there is the failure. -/
theorem resolveSlots_dangles {slots : List (String × SlotValue)} :
    resolveSlots previous slots = .error f ↔ ∃ before key v after a why, slots = before ++ (key, v) :: after ∧
      (∀ s ∈ before, ∀ b why, ¬s.2.Dangles previous b why) ∧ v.Dangles previous a why ∧ f = .unresolved a why := by
  have one (s : String × SlotValue) :
      (∃ t, ((s.2.resolve previous).map fun text => (s.1, text)) = .ok t) ↔ ∀ b why, ¬s.2.Dangles previous b why := by
    simp [map_eq_ok, resolve_eq_ok, ← exists_text_iff]
  simp only [resolveSlots_eq_mapM, mapM_eq_error, one, map_eq_error, resolve_dangles]
  constructor
  · rintro ⟨before, s, after, split, passed, a, why, dangles, same⟩
    exact ⟨before, s.1, s.2, after, a, why, split, passed, dangles, same⟩
  · rintro ⟨before, key, v, after, a, why, split, passed, dangles, same⟩
    exact ⟨before, (key, v), after, split, passed, a, why, dangles, same⟩

namespace Node

def intents (n : Node) : List String := n.params.filterMap Param.intent?

def slots (n : Node) : List (String × SlotValue) := n.params.filterMap Param.slot?

/- Slots as a list tells them: each name once, in order, and the last word on it. -/
structure Tells (n : Node) (previous : Option Response) (slots : Wire.Slots) : Prop where
  rising : Keyed.Rising slots
  names : ∀ key, (∃ slot, (key, slot) ∈ slots) ↔ ∃ v, .slot key v ∈ n.params
  last : ∀ key slot, (key, slot) ∈ slots → slot.name = key ∧
    ∃ v, (n.slots.filter (·.1 = key)).getLast? = some (key, v) ∧ v.Says previous slot.value

/-- The first slot that refers to what is not there. -/
def Hangs (n : Node) (previous : Option Response) (a : Asset) (why : Unresolved) : Prop :=
  ∃ before key v after, n.slots = before ++ (key, v) :: after ∧ (∀ s ∈ before, ∀ b why, ¬s.2.Dangles previous b why) ∧
    v.Dangles previous a why

/-- No parameter is named again; waits and launches may be, as nothing they say is lost. -/
structure Terse (n : Node) : Prop where
  intent : n.intents.length ≤ 1
  utterance : (n.params.filterMap Param.utterance?).length ≤ 1
  request : (n.params.filterMap Param.forced?).length ≤ 1
  slots : (n.slots.map (·.1)).Nodup

variable {n n' : Node}

theorem mem_slots {key : String} {v : SlotValue} : (key, v) ∈ n.slots ↔ .slot key v ∈ n.params := by
  rw [slots, List.mem_filterMap]
  constructor
  · rintro ⟨p, hp, h⟩
    cases p <;> simp_all [Param.slot?]
  · intro h
    exact ⟨_, h, rfl⟩

theorem head?_intents (n : Node) : n.intents.head? = n.params.findSome? Param.intent? :=
  List.head?_filterMap

end Node

theorem getLast?_of_forall₂ {α β : Type} {R : α → β → Prop} {l : List α} {l' : List β} (related : List.Forall₂ R l l') {y : β}
    (last : l'.getLast? = some y) : ∃ x, l.getLast? = some x ∧ R x y := by
  rw [← List.forall₂_reverse_iff] at related
  rw [List.getLast?_eq_head?_reverse] at last ⊢
  generalize l.reverse = back, l'.reverse = back' at related last
  cases related with
  | nil => cases last
  | cons here _ =>
    obtain rfl := Option.some.inj last
    exact ⟨_, rfl, here⟩

theorem keys_of_told {slots : List (String × SlotValue)} {texts : List (String × String)}
    (told : List.Forall₂ (fun s t => s.1 = t.1 ∧ s.2.Says previous t.2) slots texts) :
    texts.map (·.1) = slots.map (·.1) := by
  induction told with
  | nil => rfl
  | cons here _ ih => rw [List.map_cons, List.map_cons, here.1, ih]

theorem exists_text_of_told {slots : List (String × SlotValue)} {texts : List (String × String)}
    (told : List.Forall₂ (fun s t => s.1 = t.1 ∧ s.2.Says previous t.2) slots texts) :
    ∀ s ∈ slots, ∃ text, s.2.Says previous text := by
  induction told with
  | nil => exact List.forall_mem_nil _
  | cons here _ ih => exact List.forall_mem_cons.mpr ⟨⟨_, here.2⟩, ih⟩

theorem tells_ofPairs {n : Node} {texts : List (String × String)}
    (told : List.Forall₂ (fun s t => s.1 = t.1 ∧ s.2.Says previous t.2) n.slots texts) :
    n.Tells previous (.ofPairs texts) where
  rising := Keyed.rising_ofList _
  names key := by
    have named : (∃ v, .slot key v ∈ n.params) ↔ key ∈ n.slots.map (·.1) := by
      simp [← Node.mem_slots]
    rw [Wire.Slots.ofPairs, Keyed.key_mem_ofList_iff, named, ← keys_of_told told]
    simp
  last key slot h := by
    have last := Keyed.mem_ofList_iff.mp h
    rw [List.filter_map, List.getLast?_map, Option.map_eq_some_iff] at last
    obtain ⟨t, last, same⟩ := last
    obtain ⟨rfl, rfl⟩ := Prod.mk.inj same
    have kept : List.Forall₂ (fun s t => s.1 = t.1 ∧ s.2.Says previous t.2) (n.slots.filter (·.1 = t.1))
        (texts.filter (·.1 = t.1)) :=
      List.rel_filter (fun s u here => by simp [here.1]) told
    obtain ⟨⟨key, v⟩, first, same, said⟩ := getLast?_of_forall₂ kept last
    obtain rfl : key = t.1 := same
    exact ⟨rfl, v, first, said⟩

theorem request_intent {n : Node} {name : String} (named : n.intents.head? = some name) :
    (∃ slots, n.request .intent previous = .ok (.intent name slots) ∧ n.Tells previous slots ∧
        ∀ key v, .slot key v ∈ n.params → ∀ a why, ¬v.Dangles previous a why) ∨
      ∃ a why, n.Hangs previous a why ∧ n.request .intent previous = .error (.unresolved a why) := by
  rw [Node.head?_intents] at named
  cases resolved : resolveSlots previous n.slots with
  | ok texts =>
    have told := resolveSlots_eq_ok.mp resolved
    refine .inl ⟨.ofPairs texts, ?_, tells_ofPairs told, fun key v member =>
      exists_text_iff.mp (exists_text_of_told told (key, v) (Node.mem_slots.mpr member))⟩
    rw [Node.slots] at resolved
    simp [Node.request, named, resolved, Except.map]
  | error f =>
    obtain ⟨before, key, v, after, a, why, split, passed, dangles, rfl⟩ := resolveSlots_dangles.mp resolved
    refine .inr ⟨a, why, ⟨before, key, v, after, split, passed, dangles⟩, ?_⟩
    rw [Node.slots] at resolved
    simp [Node.request, named, resolved, Except.map]

section
variable {σ : Type} (w : World (StateM σ))

theorem outcome_waitAll (spans : List Span) (k : Stand σ) :
    ∃ s, Play.outcome (waitAll w.observed spans) k = (.ok (), { k with world := s }) := by
  induction spans generalizing k with
  | nil => exact ⟨k.world, rfl⟩
  | cons span rest ih =>
    obtain ⟨s, later⟩ := ih { k with world := ((w.wait span).run k.world).2 }
    refine ⟨s, ?_⟩
    rw [waitAll, outcome_bind, outcome_wait]
    exact later

/-- Where the request of a list cannot be built, the list has waited, and has done nothing else. -/
theorem outcome_runNode_of_unbuilt {n : Node} {kind : Kind} {k : Stand σ} (asks : n.kind? = some kind)
    (failed : n.request kind k.live.actor.last = .error f) :
    ∃ s, Play.outcome (runNode w.observed n) k = (.error f, { k with world := s }) := by
  obtain ⟨s, waited⟩ := outcome_waitAll w (n.params.filterMap Param.span?) k
  refine ⟨s, ?_⟩
  simp only [runNode, runHead, outcome_bind, waited, outcome_ask, asks, failed]

end

section
variable {n n' : Node}

theorem eq_of_perm_of_length_le_one {α : Type} {l l' : List α} (perm : l'.Perm l) (single : l.length ≤ 1) : l' = l := by
  match l, single with
  | [], _ => exact perm.eq_nil
  | [a], _ => exact List.perm_singleton.mp perm

theorem Node.Terse.of_perm (terse : n.Terse) (perm : n'.params.Perm n.params) : n'.Terse where
  intent := (perm.filterMap Param.intent?).length_eq ▸ terse.intent
  utterance := (perm.filterMap Param.utterance?).length_eq ▸ terse.utterance
  request := (perm.filterMap Param.forced?).length_eq ▸ terse.request
  slots := ((perm.filterMap Param.slot?).map _).nodup_iff.mpr terse.slots

theorem Node.Terse.kind? (terse : n.Terse) (perm : n'.params.Perm n.params) : n'.kind? = n.kind? := by
  have forced := eq_of_perm_of_length_le_one (perm.filterMap Param.forced?) terse.request
  simp only [Node.kind?, forced, perm.any_eq]

/-- Slots that are named once are told alike in any order. -/
theorem resolveSlots_of_perm {slots slots' : List (String × SlotValue)} {texts : List (String × String)}
    (distinct : (slots.map (·.1)).Nodup) (perm : slots'.Perm slots) (resolved : resolveSlots previous slots = .ok texts) :
    ∃ texts', resolveSlots previous slots' = .ok texts' ∧ Wire.Slots.ofPairs texts' = .ofPairs texts := by
  rw [resolveSlots_eq_ok] at resolved
  obtain ⟨texts', resolved', perm'⟩ := List.perm_comp_forall₂ perm resolved
  refine ⟨texts', resolveSlots_eq_ok.mpr resolved', ?_⟩
  have distinct' : ((texts'.map fun t => (t.1, (⟨t.1, t.2⟩ : Wire.Slot))).map (·.1)).Nodup := by
    rw [List.map_map]
    refine (List.Perm.nodup_iff ?_).mpr distinct
    rw [← keys_of_told resolved]
    exact perm'.map _
  exact Keyed.ofList_perm distinct' (perm'.map _)

theorem Node.Terse.request_eq_ok (terse : n.Terse) (perm : n'.params.Perm n.params) {kind : Kind} {r : Request}
    (built : n.request kind previous = .ok r) : n'.request kind previous = .ok r := by
  cases kind with
  | intent =>
    have named := eq_of_perm_of_length_le_one (perm.filterMap Param.intent?) terse.intent
    have first : n'.params.findSome? Param.intent? = n.params.findSome? Param.intent? := by
      rw [← List.head?_filterMap, ← List.head?_filterMap, named]
    simp only [Node.request, first] at built ⊢
    cases name : n.params.findSome? Param.intent? with
    | none => simp [name] at built
    | some name' =>
      simp only [name] at built ⊢
      obtain ⟨texts, resolved, rfl⟩ := map_eq_ok.mp built
      obtain ⟨texts', resolved', same⟩ := resolveSlots_of_perm terse.slots (perm.filterMap Param.slot?) resolved
      exact map_eq_ok.mpr ⟨texts', resolved', by rw [same]⟩
  | utterance =>
    have worded := eq_of_perm_of_length_le_one (perm.filterMap Param.utterance?) terse.utterance
    have first : n'.params.findSome? Param.utterance? = n.params.findSome? Param.utterance? := by
      rw [← List.head?_filterMap, ← List.head?_filterMap, worded]
    simp only [Node.request, first] at built ⊢
    exact built
  | launch => exact built
  | sessionStarted => cases built
  | sessionEnded => cases built

end

/- A list that asks for an intent and names none is never lowered; what has been lowered always has a name. -/
theorem intents_tell_their_slots [Regex.Room] {σ : Type} (w : World (StateM σ)) (n : Node) (previous : Option Response) :
    (n.kind? = some .intent →
      (∀ marker t whole, Node.ofTree marker t = .ok whole → Node.Within n whole → n.intents ≠ []) ∧
      (n.intents = [] → n.request .intent previous = .error (.script .unnamedIntent)) ∧
      ∀ name, n.intents.head? = some name →
        ((∃ slots, n.request .intent previous = .ok (.intent name slots) ∧ n.Tells previous slots) ∨
          ∃ a why, n.Hangs previous a why ∧ n.request .intent previous = .error (.unresolved a why) ∧
            ∀ k : Stand σ, k.live.actor.last = previous →
              ∃ s, Play.outcome (runNode w.observed n) k = (.error (.unresolved a why), { k with world := s })) ∧
        ((∃ f, n.request .intent previous = .error f) ↔
          ∃ key v a why, .slot key v ∈ n.params ∧ v.Dangles previous a why)) ∧
    (n.Terse → ∀ n' : Node, n'.params.Perm n.params →
      n'.kind? = n.kind? ∧ ∀ kind r, n'.request kind previous = .ok r ↔ n.request kind previous = .ok r) := by
  refine ⟨fun asks => ⟨?_, ?_, fun name named => ⟨?_, ?_⟩⟩, fun terse n' perm => ⟨terse.kind? perm, fun kind r => ?_⟩⟩
  · intro marker t whole lowered inner unnamed
    obtain ⟨name, named⟩ := (sendable_of_ofTree lowered inner).intent asks
    have here : name ∈ n.intents := List.mem_filterMap.mpr ⟨_, named, rfl⟩
    rw [unnamed] at here
    cases here
  · intro unnamed
    have first : n.params.findSome? Param.intent? = none := by
      rw [← Node.head?_intents, unnamed]
      rfl
    simp [Node.request, first]
  · obtain ⟨slots, built, tells, -⟩ | ⟨a, why, hangs, failed⟩ := request_intent named
    · exact .inl ⟨slots, built, tells⟩
    · refine .inr ⟨a, why, hangs, failed, ?_⟩
      rintro k rfl
      exact outcome_runNode_of_unbuilt w asks failed
  · constructor
    · rintro ⟨f, failed⟩
      obtain ⟨slots, built, -⟩ | ⟨a, why, ⟨before, key, v, after, split, -, dangles⟩, -⟩ := @request_intent previous n name named
      · cases failed.symm.trans built
      · exact ⟨key, v, a, why, Node.mem_slots.mp (split ▸ by simp), dangles⟩
    · rintro ⟨key, v, a, why, member, dangles⟩
      obtain ⟨slots, -, -, held⟩ | ⟨b, why', -, failed⟩ := @request_intent previous n name named
      · exact absurd dangles (held key v member a why)
      · exact ⟨_, failed⟩
  · exact ⟨(terse.of_perm perm).request_eq_ok perm.symm, terse.request_eq_ok perm⟩

/-- Of two names and of two cities the first name and the last city go out; before any response nothing does. -/
theorem last_city_goes_out_once_answered :
    let n : Node := [.param (.slot "title" (.reference .simpleCardTitle)), .param (.slot "city" (.literal "Bonn")),
      .param (.intent "Order"), .param (.slot "city" (.literal "Rome")), .param (.intent "Other")]
    let r : Response := { body := { card := some (.simple "Two" "rooms") } }
    let slots : Wire.Slots := [("city", ⟨"city", "Rome"⟩), ("title", ⟨"title", "Two"⟩)]
    let k : Stand (List Answer) := ⟨⟨.create ⟨"app", "user", none, "en-US", 0⟩ .rejectAll 0, {}⟩, [], [.ok none]⟩
    n.kind? = some .intent ∧ n.request .intent (some r) = .ok (.intent "Order" slots) ∧ n.Tells (some r) slots ∧
      n.Hangs none .simpleCardTitle .noResponse ∧
      n.request .intent none = .error (.unresolved .simpleCardTitle .noResponse) ∧
      (Play.outcome (runNode Session.listed.observed n) k).2.log = [] := by
  intro n r slots k
  have asks : n.kind? = some .intent := by decide
  have built : n.request .intent (some r) = .ok (.intent "Order" slots) := by rfl
  have failed : n.request .intent none = .error (.unresolved .simpleCardTitle .noResponse) := by rfl
  have named : n.intents.head? = some "Order" := by rfl
  obtain ⟨-, -, answered⟩ := (intents_tell_their_slots Session.listed n (some r)).1 asks
  obtain ⟨-, -, bare⟩ := (intents_tell_their_slots Session.listed n none).1 asks
  have tells : n.Tells (some r) slots := by
    obtain ⟨slots', built', tells⟩ | ⟨a, why, -, failed', -⟩ := (answered "Order" named).1
    · obtain ⟨-, rfl⟩ := Request.intent.inj (Except.ok.inj (built'.symm.trans built))
      exact tells
    · cases failed'.symm.trans built
  obtain ⟨slots', built', -⟩ | ⟨a, why, hangs, failed', quiet⟩ := (bare "Order" named).1
  · cases built'.symm.trans failed
  · obtain ⟨rfl, rfl⟩ := Failure.unresolved.inj (Except.error.inj (failed'.symm.trans failed))
    obtain ⟨s, run⟩ := quiet k rfl
    exact ⟨asks, built, tells, hangs, failed, by rw [run]⟩

end Rehearsal.Script
