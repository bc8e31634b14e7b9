import Rehearsal.Proofs.Session.History
import Rehearsal.Proofs.Wire.Envelope
import Rehearsal.Proofs.Wire.Response
import Rehearsal.Transport.Local

/-! What a conversation hands over arrives as it was built, and what was asked can be told from it. -/
namespace Rehearsal
open Json (Value depthLimit)
open Transport (deliverLocally valueBytes)
open Wire (Envelope Ids.request Kind Payload Request Response Slots)

theorem Delivery.read_of_accepted? {d : Delivery} {r : Response} (counts : d.accepted? = some r) :
    ∃ bytes, Response.read bytes = .response r := by
  unfold Delivery.accepted? at counts
  split at counts
  · split at counts
    · split at counts
      · rename_i read _
        exact ⟨_, Option.some.inj counts ▸ read⟩
      · cases counts
    · cases counts
  · cases counts

namespace Session

/-- Whatever a skill answers, its attributes stand in order. -/
theorem History.isOrdered_attributes (h : History) : Value.isOrdered (.object h.attributes) = true := by
  unfold attributes
  cases last : h.last? with
  | none => rfl
  | some r =>
    have accepted : r ∈ h.filterMap Delivery.accepted? := List.mem_of_getLast? last
    obtain ⟨d, -, counts⟩ := List.mem_filterMap.mp accepted
    obtain ⟨bytes, read⟩ := Delivery.read_of_accepted? counts
    cases given : r.attributes with
    | none => simp [given, Value.isOrdered_object, Keyed.Rising]
    | some m => simpa [given] using ((Response.read_shape read).1 m given).1

theorem isOrdered_attributes_of_calls {σ : Type} (w : World (StateM σ)) (identity : Identity) (policy : Policy) (n : Nat) (s : σ)
    (cs : List Call) :
    let k := (Conversation.start identity policy n s).calls w cs
    Value.isOrdered (.object k.actor.session.attributes) = true := by
  intro k
  obtain ⟨new, sends, -⟩ := Conversation.calls_sends w (.start identity policy n s) cs
  rw [(Account.of_sends sends).attributes]
  exact History.isOrdered_attributes new

/- The handler of a skill inside the program sees what the conversation built. Order is what attributes and slots have
   wherever they come from; whole numbers and the depth are what a text carries. -/
theorem envelopes_arrive_as_built {σ : Type} (w : World (StateM σ)) (s : σ) (a : Actor) (r : Request) (e : Envelope)
    (built : ((a.envelope w r).run s).1 = .ok e) (whole : Value.isWhole (.object a.session.attributes) = true)
    (ordered : Value.isOrdered (.object a.session.attributes) = true) (slots : r.HasOrderedSlots)
    (nested : e.outline.nesting ≤ depthLimit) :
    Envelope.ofBytes? e.toBytes = some e ∧
      (∀ {m : Type → Type} [Monad m] (handler : Envelope → m (Except Failure (Option Value))) (kind : Kind),
        deliverLocally handler kind e = do
          let answer ← handler e
          return answer.map fun v => v.map valueBytes) ∧
      e.request.request? = some r ∧
      ∀ (r₁ r₂ : Request) (id time locale : String),
        Payload.ofRequest r₁ id time locale = Payload.ofRequest r₂ id time locale → r₁ = r₂ := by
  obtain ⟨-, n, now, time, -, rfl⟩ := envelope_built w s built
  have back : Envelope.ofBytes? (a.wrap r (Ids.request n) time).toBytes = some (a.wrap r (Ids.request n) time) :=
    Envelope.ofBytes?_toBytes whole ordered (Payload.rising_of_ofRequest slots _ _ _) nested
  refine ⟨back, fun handler kind => ?_, Payload.request?_ofRequest r _ _ _, fun r₁ r₂ id time locale same => ?_⟩
  · rw [deliverLocally, back]
  · exact Payload.ofRequest_injective same

theorem slots_and_attributes_arrive :
    let a : Actor :=
      { Actor.create ⟨"app", "user", some "token", "de-DE", 0⟩ .rejectAll 7 with
        stage := .opened
        session := {
          id := "s"
          attributes := [("", .object []), ("\"seen\"\n", .array [.number (.int (-9223372036854775808)), .string "é😀"])] } }
    let r : Request := .intent "Book\\Table" (.ofPairs [("wann", "\t"), ("stadt", "Köln"), ("wann", "20:00")])
    let e := a.wrap r (Ids.request 0) (Calendar.stamp 0)
    ((a.envelope listed r).run []).1 = .ok e ∧ Envelope.ofBytes? e.toBytes = some e ∧ e.request.request? = some r := by
  intro a r e
  have free : a.refusal? r = none := by decide +kernel
  have dated : Calendar.firstSecond ≤ 0 ∧ 0 ≤ Calendar.lastSecond := by decide +kernel
  have clock : a.identity.timestamp 0 = .ok (Calendar.stamp 0) := by
    unfold Identity.timestamp
    exact if_pos dated
  have built : ((a.envelope listed r).run []).1 = .ok e := by
    rw [Actor.envelope, free]
    change (a.identity.timestamp 0).map (fun t => a.wrap r (Ids.request 0) t) = .ok e
    rw [clock]
    rfl
  have whole : Value.isWhole (.object a.session.attributes) = true := by decide +kernel
  have ordered : Value.isOrdered (.object a.session.attributes) = true := by decide +kernel
  have nested : e.outline.nesting ≤ depthLimit := by decide +kernel
  have arrives := envelopes_arrive_as_built listed [] a r e built whole ordered (Slots.rising_ofPairs _) nested
  exact ⟨built, arrives.1, arrives.2.2.1⟩

end Session
end Rehearsal
