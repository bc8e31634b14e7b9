import Rehearsal.Proofs.Json.Fields
import Rehearsal.Wire.Envelope

/-! Every part of an envelope is read from its written form as it was. -/
namespace Rehearsal.Wire
open Json Json.Outline Json.Fields

variable {depth : Nat}

namespace User

theorem legible (u : User) (deep : 1 ≤ depth) : Legible depth u.outline :=
  legible_present (by omega) ⟨legible_given _, legible_optional _, trivial⟩

theorem ofSource?_outline (u : User) (deep : 1 ≤ depth) : ofSource? depth u.outline.source = some u := by
  refine bind_fields? (by omega) rfl (by decide) fun f ⟨id, token, _⟩ => ?_
  rw [need_text id, get?_text token]
  rfl

end User

theorem legible_application (id : String) (deep : 1 ≤ depth) : Legible depth (applicationOutline id) :=
  legible_present (by omega) ⟨legible_given _, trivial⟩

theorem application?_outline (id : String) (deep : 1 ≤ depth) : application? depth (applicationOutline id).source = some id :=
  bind_fields? (by omega) rfl (by decide) fun _ ⟨there, _⟩ => need_text there

namespace Slot

theorem legible (s : Slot) (deep : 1 ≤ depth) : Legible depth s.outline :=
  legible_present (by omega) ⟨legible_given _, legible_given _, trivial⟩

theorem ofSource?_outline (s : Slot) (deep : 1 ≤ depth) : ofSource? depth s.outline.source = some s := by
  refine bind_fields? (by omega) rfl (by decide) fun f ⟨name, value, _⟩ => ?_
  rw [need_text name, need_text value]
  rfl

end Slot

namespace Slots

theorem legible (s : Slots) (deep : 2 ≤ depth) : Legible depth (Slots.outline s) := by
  refine legible_record (by omega) fun m member => ?_
  obtain ⟨⟨key, slot⟩, -, rfl⟩ := List.mem_map.mp member
  exact slot.legible (by omega)

theorem foldlM_outline (s front : Slots) (deep : 1 ≤ depth) :
    (memberSources (s.map fun (key, slot) => (key, slot.outline))).foldlM (fun slots (key, v) => do
      let key ← key
      let slot ← Slot.ofSource? depth v
      return Keyed.insert key slot slots) front = some (s.foldl (fun slots (key, slot) => Keyed.insert key slot slots) front) := by
  induction s generalizing front with
  | nil => rfl
  | cons e rest ih =>
    obtain ⟨key, slot⟩ := e
    simp only [List.map_cons, memberSources, List.foldlM_cons, slot.ofSource?_outline deep, Option.bind_eq_bind, Option.bind_some,
      Option.pure_def]
    exact ih (Keyed.insert key slot front)

theorem ofSource?_outline {s : Slots} (rising : Keyed.Rising s) (deep : 2 ≤ depth) :
    ofSource? depth (Slots.outline s).source = some s := by
  have nonzero : depth ≠ 0 := by omega
  rw [Slots.outline, Outline.source, ofSource?, if_neg nonzero, foldlM_outline s [] (by omega)]
  exact congrArg some (Keyed.ofList_of_rising rising)

theorem rising_ofPairs (pairs : List (String × String)) : Keyed.Rising (Slots.ofPairs pairs) := Keyed.rising_ofList _

end Slots

namespace IntentPart

theorem legible (i : IntentPart) (deep : 3 ≤ depth) : Legible depth i.outline :=
  legible_present (by omega) ⟨legible_given _, legible_some (Slots.legible i.slots (by omega)), trivial⟩

theorem ofSource?_outline {i : IntentPart} (rising : Keyed.Rising i.slots) (deep : 3 ≤ depth) :
    ofSource? depth i.outline.source = some i := by
  refine bind_fields? (by omega) rfl (by decide) fun f ⟨name, slots, _⟩ => ?_
  rw [need_text name, getD_of_has [] slots (Slots.ofSource?_outline rising (by omega))]
  rfl

end IntentPart

theorem EndReason.ofName?_wireName (r : EndReason) : ofName? r.wireName = some r := by
  cases r <;> rfl

namespace Payload

theorem legible (p : Payload) (deep : 4 ≤ depth) : Legible depth p.outline :=
  legible_present (by omega) ⟨legible_given _, legible_given _, legible_given _,
    legible_given _, legible_map fun i _ => i.legible (by omega), legible_optional _,
    legible_map fun r _ => legible_text r.wireName, trivial⟩

theorem ofSource?_outline {p : Payload} (rising : ∀ i, p.intent = some i → Keyed.Rising i.slots) (deep : 4 ≤ depth) :
    ofSource? depth p.outline.source = some p := by
  refine bind_fields? (by omega) rfl (by decide) fun f ⟨type, id, time, locale, intent, text, reason, _⟩ => ?_
  have intent : f.get? "intent" (IntentPart.ofSource? (depth - 1)) = some p.intent :=
    get?_of_has intent rfl fun i there => IntentPart.ofSource?_outline (rising i there) (by omega)
  have reason : (f.get? "reason" fun r => (r.choice? Source.isNull).bind EndReason.ofName?) = some p.reason :=
    get?_of_has reason rfl fun r _ => r.ofName?_wireName
  rw [need_text type, need_text id, need_text time, need_text locale, intent, get?_text text, reason]
  rfl

end Payload

namespace SessionPart

theorem legible {s : SessionPart} (portable : Value.Portable (depth - 1) (.object s.attributes)) (deep : 2 ≤ depth) :
    Legible depth s.outline :=
  legible_present (by omega) ⟨legible_some (legible_bool _), legible_given _,
    legible_some (legible_application _ (by omega)), legible_some (legible_leaf portable),
    legible_some (s.party.user.legible (by omega)), trivial⟩

theorem ofSource?_outline {s : SessionPart} (portable : Value.Portable (depth - 1) (.object s.attributes)) (deep : 2 ≤ depth) :
    ofSource? depth s.outline.source = some s := by
  refine bind_fields? (by omega) rfl (by decide) fun f ⟨fresh, id, application, attributes, user, _⟩ => ?_
  have fresh : f.need "new" (·.bool?) = some s.fresh := need_of_has fresh rfl
  rw [need_of_has application (application?_outline _ (by omega)), need_of_has user (User.ofSource?_outline _ (by omega)), fresh,
    need_text id, getD_of_has [] attributes (members?_source portable)]
  rfl

end SessionPart

namespace Party

theorem legible (p : Party) (deep : 3 ≤ depth) : Legible depth p.outline :=
  legible_present (by omega) ⟨legible_some (legible_present (by omega)
    ⟨legible_some (legible_application _ (by omega)), legible_some (p.user.legible (by omega)), trivial⟩), trivial⟩

theorem ofSource?_outline (p : Party) (deep : 3 ≤ depth) : ofSource? depth p.outline.source = some p := by
  refine bind_fields? (by omega) rfl (by decide) fun f ⟨system, _⟩ => need_of_has system ?_
  refine bind_fields? (by omega) rfl (by decide) fun f ⟨application, user, _⟩ => ?_
  rw [need_of_has application (application?_outline _ (by omega)), need_of_has user (User.ofSource?_outline _ (by omega))]
  rfl

end Party

namespace Envelope

theorem nesting_attributes (e : Envelope) : Value.nesting (.object e.session.attributes) + 2 ≤ e.outline.nesting := by
  have session : e.session.outline.nesting < e.outline.nesting := nesting_lt_present (List.mem_cons_of_mem _ List.mem_cons_self)
  have attributes : (leaf (.object e.session.attributes)).nesting < e.session.outline.nesting :=
    nesting_lt_present (List.mem_cons_of_mem _ (List.mem_cons_of_mem _ (List.mem_cons_of_mem _ List.mem_cons_self)))
  rw [nesting] at attributes
  omega

theorem legible {e : Envelope} (portable : Value.Portable (depth - 1 - 1) (.object e.session.attributes)) (deep : 5 ≤ depth) :
    Legible depth e.outline :=
  legible_present (by omega) ⟨legible_given _, legible_some (SessionPart.legible portable (by omega)),
    legible_some (e.context.legible (by omega)), legible_some (e.request.legible (by omega)), trivial⟩

theorem ofSource?_outline {e : Envelope} (portable : Value.Portable (depth - 1 - 1) (.object e.session.attributes))
    (rising : ∀ i, e.request.intent = some i → Keyed.Rising i.slots) (deep : 5 ≤ depth) :
    ofSource? depth e.outline.source = some e := by
  refine bind_fields? (by omega) rfl (by decide) fun f ⟨version, session, context, request, _⟩ => ?_
  rw [need_text version, need_of_has session (SessionPart.ofSource?_outline portable (by omega)),
    need_of_has context (Party.ofSource?_outline _ (by omega)), need_of_has request (Payload.ofSource?_outline rising (by omega))]
  rfl

theorem ofBytes?_toBytes {e : Envelope} (whole : Value.isWhole (.object e.session.attributes) = true)
    (ordered : Value.isOrdered (.object e.session.attributes) = true)
    (rising : ∀ i, e.request.intent = some i → Keyed.Rising i.slots) (nested : e.outline.nesting ≤ depthLimit) :
    ofBytes? e.toBytes = some e := by
  have within := e.nesting_attributes
  have portable : Value.Portable (depthLimit - 1 - 1) (.object e.session.attributes) := ⟨whole, ordered, by omega⟩
  have read := (legible portable (by decide)).ofBytes?
  rw [ofBytes?, toBytes, read, Option.bind_some, ofSource?_outline portable rising (by decide)]

end Envelope

def Request.HasOrderedSlots : Request → Prop
  | .intent _ slots => Keyed.Rising slots
  | _ => True

namespace Payload

theorem rising_of_ofRequest {r : Request} (slots : r.HasOrderedSlots) (id time locale : String) :
    ∀ i, (ofRequest r id time locale).intent = some i → Keyed.Rising i.slots := by
  cases r with
  | intent name s =>
    rintro i ⟨⟩
    exact slots
  | _ => nofun

def request? (p : Payload) : Option Request :=
  match p.intent, p.text, p.reason with
  | none, none, none => [Request.sessionStarted, .launch].find? (·.kind.wireName = p.type)
  | some i, none, none => some (.intent i.name i.slots)
  | none, some text, none => some (.utterance text)
  | none, none, some reason => some (.sessionEnded reason)
  | _, _, _ => none

theorem request?_ofRequest (r : Request) (id time locale : String) : (ofRequest r id time locale).request? = some r := by
  cases r <;> rfl

theorem ofRequest_injective {r r' : Request} {id time locale : String} (same : ofRequest r id time locale = ofRequest r' id time locale) :
    r = r' := by
  have carried := congrArg request? same
  rw [request?_ofRequest, request?_ofRequest] at carried
  exact Option.some.inj carried

end Payload
end Rehearsal.Wire
