import Rehearsal.Proofs.Json.Fields
import Rehearsal.Proofs.Session.Conversation
import Rehearsal.Proofs.Wire.Foreign
import Rehearsal.Transport.Local

/-!
Answers that are JSON and no objects. A text, a number, a Boolean and null hold no response, and a request that is answered
with one fails and leaves the conversation as it was. An array may be taken for a response: it is read as the object that
gives its items the names of a response's members in order.
-/
namespace Rehearsal.Json
variable {names : List String} {items : List Source} {depth : Nat}

def named (names : List String) (items : List Source) : List (Option String × Source) :=
  (names.zip items).map fun (name, s) => (some name, s)

theorem names_zip_sublist (names : List String) (items : List Source) : ((names.zip items).map Prod.fst).Sublist names := by
  induction names generalizing items with
  | nil => simp
  | cons name rest ih =>
    cases items with
    | nil => simp
    | cons s items => exact (ih items).cons_cons name

theorem Source.fields?_array (distinct : names.Nodup) (fits : items.length ≤ names.length) :
    (Source.array items).fields? names depth = (Source.object (named names items)).fields? names depth := by
  have known : (names.zip items).filter (fun e => names.contains e.1) = names.zip items :=
    List.filter_eq_self.mpr fun e member => List.contains_iff_mem.mpr (List.of_mem_zip member).1
  have once : ((names.zip items).map Prod.fst).Nodup := distinct.sublist (names_zip_sublist names items)
  unfold Source.fields? named
  by_cases shut : depth = 0
  · simp [shut]
  · have short : ¬(depth = 0 ∨ names.length < items.length) := not_or.mpr ⟨shut, Nat.not_lt.mpr fits⟩
    simp only [if_neg shut, if_neg short, Outline.mapM_named, Option.bind_eq_bind, Option.bind_some, known, if_pos once]

theorem Source.fields?_long (long : names.length < items.length) : (Source.array items).fields? names depth = none :=
  if_pos (.inr long)

end Rehearsal.Json

namespace Rehearsal.Wire.Response
open Json

def names : List String := ["version", "sessionAttributes", "response"]

variable {depth : Nat} {s : Source}

theorem ofSource?_of_fields? {v : Source} (same : s.fields? names depth = v.fields? names depth) :
    ofSource? depth s = ofSource? depth v := by
  unfold ofSource?
  change s.fields? names depth >>= _ = v.fields? names depth >>= _
  rw [same]

theorem ofSource?_array {items : List Source} (fits : items.length ≤ names.length) :
    ofSource? depth (.array items) = ofSource? depth (.object (named names items)) :=
  ofSource?_of_fields? (Source.fields?_array (by decide) fits)

theorem ofSource?_none (unread : s.fields? names depth = none) : ofSource? depth s = none := by
  unfold ofSource?
  change s.fields? names depth >>= _ = none
  rw [unread]
  rfl

/-- What is no object is a response only as an array, and then as the object that its items are the members of. -/
theorem ofSource?_of_not_object (other : ∀ members, s ≠ .object members) (r : Response) :
    ofSource? depth s = some r ↔
      ∃ items, s = .array items ∧ items.length ≤ names.length ∧ ofSource? depth (.object (named names items)) = some r := by
  constructor
  · intro read
    cases s with
    | object members => exact absurd rfl (other members)
    | array items =>
      by_cases fits : items.length ≤ names.length
      · exact ⟨items, rfl, fits, ofSource?_array fits ▸ read⟩
      · rw [ofSource?_none (Source.fields?_long (Nat.not_le.mp fits))] at read
        cases read
    | _ =>
      rw [ofSource?_none rfl] at read
      cases read
  · rintro ⟨items, rfl, fits, read⟩
    rw [ofSource?_array fits, read]

theorem read_eq_malformed {bytes : List UInt8} (spelled : Source.ofBytes? bytes = some s)
    (unread : ∀ r, read bytes ≠ .response r) : read bytes = .malformed := by
  rw [read_spelled spelled] at unread ⊢
  cases read : ofSource? depthLimit s with
  | none => rfl
  | some r =>
    rw [read] at unread
    exact absurd rfl (unread r)

end Rehearsal.Wire.Response

namespace Rehearsal.Session
open Json (Source Value)
open Wire (Request Response)

def Answered {σ : Type} (w : World (StateM σ)) (a : Actor) (r : Request) (s : σ) (bytes : List UInt8) (u : σ) : Prop :=
  ∃ e t, (a.envelope w r).run s = pure (.ok e, t) ∧ (w.deliver r.kind e).run t = pure (.ok (some bytes), u)

section
variable {σ : Type} {w : World (StateM σ)} {a : Actor} {r : Request} {s u : σ} {bytes : List UInt8}

theorem Answered.fire (answered : Answered w a r s bytes u) : (a.fire w r).run s = pure (a.settle r (some bytes), u) := by
  obtain ⟨e, t, built, delivered⟩ := answered
  rw [Actor.fire, StateT.run_bind, built]
  simp [delivered]

theorem Answered.malformed (answered : Answered w a r s bytes u) (expects : r.kind.expectsResponse = true)
    (read : Response.read bytes = .malformed) :
    (a.fire w r).run s = pure ((.error (.protocol (.malformed "no response")), { a with fired := a.fired + 1 }), u) := by
  rw [answered.fire, settle_conversational a r _ expects]
  simp only [Actor.readAnswer, read]

end

/-- Of what is JSON and no object, an array of three items at most may be a response, if the object with these members is; all
else is refused, and a request that it answers leaves nothing behind but that it was delivered. -/
theorem only_arrays_pass_for_objects {bytes : List UInt8} {v : Source} (spelled : Source.ofBytes? bytes = some v)
    (other : ∀ members, v ≠ .object members) :
    (∀ response, Response.read bytes = .response response ↔
      ∃ items, v = .array items ∧ items.length ≤ 3 ∧
        Response.ofSource? Json.depthLimit (.object (Json.named Response.names items)) = some response) ∧
    ((∀ response, Response.read bytes ≠ .response response) → Response.read bytes = .malformed ∧
      ∀ {σ : Type} (w : World (StateM σ)) (a : Actor) (r : Request) (s u : σ), r.kind.expectsResponse = true →
        Answered w a r s bytes u →
          (a.fire w r).run s = pure ((.error (.protocol (.malformed "no response")), { a with fired := a.fired + 1 }), u)) := by
  constructor
  · intro response
    rw [Response.read_iff spelled]
    exact Response.ofSource?_of_not_object other response
  · intro unread
    have malformed := Response.read_eq_malformed spelled unread
    exact ⟨malformed, fun w a r s u expects answered => answered.malformed expects malformed⟩

def jsonBytes (v : Value) : List UInt8 := Text.Utf8.encode v.chars

def sized (answer : Value) : Conversation (List Answer) :=
  let size : Response := { attributes := some [("size", .string "large")] }
  (Conversation.start ⟨"app", "user", none, "en-US", 0⟩ .rejectAll 7
    [.ok none, .ok (some size.toBytes), .ok (some (jsonBytes answer))]).calls listed [.start, .launch]

theorem text_is_refused :
    let k := sized (.string "not an envelope")
    (k.actor.fire listed (.utterance "on")).run k.world =
        pure ((.error (.protocol (.malformed "no response")), { k.actor with fired := 3 }), []) ∧
      k.actor.session.attributes.map (·.1) = ["size"] := by
  intro k
  have text : Source.ofBytes? (jsonBytes (.string "not an envelope")) = some (.string (some "not an envelope")) :=
    Value.ofBytes?_chars rfl
  obtain ⟨reads, refused⟩ := only_arrays_pass_for_objects text nofun
  have unread : ∀ response, Response.read (jsonBytes (.string "not an envelope")) ≠ .response response := by
    intro response given
    obtain ⟨items, array, -⟩ := (reads response).mp given
    cases array
  refine ⟨(refused unread).2 listed k.actor (.utterance "on") k.world [] rfl ⟨_, _, rfl, rfl⟩, ?_⟩
  decide +kernel

/-- An array of nothing is no object, and yet a response with nothing in it: what the session held is gone. -/
theorem empty_array_empties_the_session :
    let k := sized (.array [])
    Source.ofBytes? (jsonBytes (.array [])) = some (.array []) ∧ Response.read (jsonBytes (.array [])) = .response {} ∧
      k.actor.session.attributes.map (·.1) = ["size"] ∧
      (k.actor.fire listed (.utterance "on")).run k.world =
        pure ((.ok (some {}), { ({ k.actor with fired := 3 } : Actor).apply {} with last := some {} }), []) ∧
      (({ k.actor with fired := 3 } : Actor).apply {}).session.attributes = [] := by
  intro k
  have array : Source.ofBytes? (jsonBytes (.array [])) = some (.array []) := Value.ofBytes?_chars rfl
  have read : Response.read (jsonBytes (.array [])) = .response {} := (Response.read_iff array).mpr rfl
  have answered : Answered listed k.actor (.utterance "on") k.world (jsonBytes (.array [])) [] := ⟨_, _, rfl, rfl⟩
  refine ⟨array, read, by decide +kernel, ?_, rfl⟩
  rw [answered.fire, settle_conversational _ _ _ rfl]
  simp only [Actor.readAnswer, read]
  rfl

end Rehearsal.Session
