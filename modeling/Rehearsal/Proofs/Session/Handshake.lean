import Rehearsal.Proofs.Session.History
import Rehearsal.Transport.Local

/-!
The handshake: a session is opened by one probe that is answered, which alone is marked as new; nothing else goes out
before it, and no such probe after it.
-/
namespace Rehearsal.Session
open Wire (Kind)
variable {identity : Identity} {policy : Policy} {n : Nat} {a : Actor} {log before after : History} {d : Delivery}

/-- What a delivery says of its session follows from the history before it. -/
theorem delivery_of_sends (h : Sends (.create identity policy n) log a) (hd : log = before ++ d :: after) :
    d.envelope.session.id = Wire.Ids.session n ∧ d.envelope.request.type = d.kind.wireName ∧
      d.envelope.session.fresh = (!History.isStarted before) ∧
      (d.kind = .sessionStarted ↔ History.isStarted before = false) := by
  obtain ⟨c, r, k, now, time, sends, free, -, kind, envelope⟩ := h.split hd
  have acc := Account.of_sends sends
  have type : d.envelope.request.type = r.kind.wireName := by
    rw [envelope]
    cases r <;> rfl
  refine ⟨?_, ?_, ?_, ?_⟩
  · rw [envelope]; exact acc.id
  · rw [type, kind]
  · rw [envelope]; exact acc.fresh
  · rw [kind]; exact acc.started_of_free free

theorem wireName_eq_sessionStarted_iff (k : Kind) : k.wireName = Kind.sessionStarted.wireName ↔ k = .sessionStarted := by
  cases k <;> decide

theorem exists_of_isStarted {h : History} (started : h.isStarted = true) :
    ∃ e ∈ h, e.kind = .sessionStarted ∧ e.arrived = true := by
  simpa [History.isStarted, Delivery.starts] using started

theorem isStarted_of_mem {h : History} {e : Delivery} (he : e ∈ h) (kind : e.kind = .sessionStarted)
    (arrived : e.arrived = true) : h.isStarted = true := by
  simp only [History.isStarted, Delivery.starts, List.any_eq_true]
  exact ⟨e, he, by simp [kind, arrived]⟩

theorem calls_shake_hands {σ : Type} (w : World (StateM σ)) (identity : Identity) (policy : Policy) (n : Nat) (s : σ)
    (cs : List Call) :
    let log := ((Conversation.start identity policy n s).calls w cs).log
    (∀ d ∈ log, d.envelope.session.id = Wire.Ids.session n) ∧
    (∀ d ∈ log, d.envelope.request.type = d.kind.wireName ∧
      (d.envelope.session.fresh = true ↔ d.envelope.request.type = Kind.sessionStarted.wireName)) ∧
    (∀ before d after, log = before ++ d :: after → d.kind ≠ .sessionStarted →
      ∃ e ∈ before, e.kind = .sessionStarted ∧ e.arrived = true) ∧
    (∀ before d after, log = before ++ d :: after → d.kind = .sessionStarted → d.arrived = true →
      ∀ e ∈ after, e.kind ≠ .sessionStarted) := by
  intro log
  obtain ⟨new, sends, hlog⟩ := Conversation.calls_sends w (.start identity policy n s) cs
  obtain rfl : log = new := hlog
  refine ⟨?_, ?_, ?_, ?_⟩
  · intro d hd
    obtain ⟨before, after, split⟩ := List.append_of_mem hd
    exact (delivery_of_sends sends split).1
  · intro d hd
    obtain ⟨before, after, split⟩ := List.append_of_mem hd
    obtain ⟨-, type, fresh, order⟩ := delivery_of_sends sends split
    rw [type, wireName_eq_sessionStarted_iff, order, fresh]
    simp
  · intro before d after split kind
    obtain ⟨-, -, -, order⟩ := delivery_of_sends sends split
    exact exists_of_isStarted (by simpa [kind] using order)
  · intro before d after split kind arrived e he again
    obtain ⟨between, rest, rfl⟩ := List.append_of_mem he
    have later : log = (before ++ d :: between) ++ e :: rest := by simp [split]
    obtain ⟨-, -, -, order⟩ := delivery_of_sends sends later
    have started : History.isStarted (before ++ d :: between) = true := isStarted_of_mem (by simp) kind arrived
    rw [order.mp again] at started
    cases started

/-- A start that the transport loses is made again; one that follows an answered start is not sent. -/
theorem second_start_goes_out_after_a_lost_one :
    let k := (Conversation.start ⟨"app", "user", none, "en-US", 0⟩ .rejectAll 7 [.error (.io "lost")]).calls listed
      [.launch, .start, .start, .launch, .start]
    k.log.map (·.kind) = [.sessionStarted, .sessionStarted, .launch] ∧ ∀ e ∈ k.log.drop 2, e.kind ≠ .sessionStarted := by
  intro k
  have split : k.log = k.log.take 1 ++ k.log.get ⟨1, by decide⟩ :: k.log.drop 2 := rfl
  exact ⟨rfl, (calls_shake_hands listed _ _ _ _ _).2.2.2 _ _ _ split rfl rfl⟩

end Rehearsal.Session
