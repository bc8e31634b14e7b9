import Rehearsal.Proofs.Session.Sending
import Rehearsal.Transport.Link

/-!
What one envelope comes to on a link, whatever the servers do: it is posted; where that is rejected and tokens can be had,
one is asked for; and where one is granted, the envelope is posted once more.
-/
namespace Rehearsal.Transport
open Settings (OAuth)
open Wire (Kind)

structure Errand where
  dispatch : Dispatch
  outcome : Except String Reply

abbrev Trail := List Errand

def Client.observed {m : Type → Type} [Monad m] (c : Client m) : Client (StateT Trail m) := fun d => do
  let outcome ← c d
  modify (· ++ [⟨d, outcome⟩])
  return outcome

theorem Client.observed_forgets {m : Type → Type} [Monad m] [LawfulMonad m] (c : Client m) (d : Dispatch) :
    Forgets (c.observed d) (c d) := fun trail => by
  simp [observed]

namespace Errand

/-- Was a token asked for? All else that goes out are envelopes. -/
def isExchange (e : Errand) : Bool := e.dispatch.contentType = Form.contentType

/-- The tokens that were handed out, where a token was asked for and all went well. -/
def grant? (e : Errand) : Option Grant :=
  match e.outcome with
  | .error _ => none
  | .ok r => if e.isExchange ∧ r.isSuccess then r.body.bind Grant.ofBytes? else none

end Errand

theorem grant_of_outcome {e : Errand} (asks : e.isExchange = true) :
    (∃ g, OAuth.grant e.outcome = .ok g ∧ e.grant? = some g) ∨
      ∃ f, OAuth.grant e.outcome = .error (.transport f) ∧ e.grant? = none := by
  obtain ⟨d, outcome⟩ := e
  cases outcome with
  | error detail => exact .inr ⟨_, rfl, rfl⟩
  | ok r =>
    cases success : r.isSuccess with
    | false => exact .inr ⟨.refreshStatus r.statusText, by simp [OAuth.grant, success], by simp [Errand.grant?, success]⟩
    | true =>
      cases read : r.body.bind Grant.ofBytes? with
      | none =>
        exact .inr ⟨.token "no tokens", by simp [OAuth.grant, success, read], by simp [Errand.grant?, asks, success, read]⟩
      | some g => exact .inl ⟨g, by simp [OAuth.grant, success, read], by simp [Errand.grant?, asks, success, read]⟩

namespace Link

def renewed (l : Link) (o : OAuth) (g : Grant) : Link :=
  { l with token := some g.accessToken, oauth := some { o with refreshToken := g.refreshToken.getD o.refreshToken } }

def received (l : Link) (kind : Kind) (outcome : Except String Reply) : Answer :=
  match outcome with
  | .error detail => .error (.transport (.request l.endpoint detail))
  | .ok r => l.answer kind r

/- A post that is answered is the last, unless it is rejected and tokens can be had. Only tokens that are handed out
   move the link, and only they bring a second post. -/
inductive Fired (l : Link) (kind : Kind) (body : List UInt8) : Trail → Answer → Link → Prop where
  | settled {outcome : Except String Reply}
      (kept : ∀ r, outcome = .ok r → r.isRejection = true → l.oauth = none) :
    Fired l kind body [⟨l.dispatch body, outcome⟩] (l.received kind outcome) l
  | denied {r : Reply} {o : OAuth} {outcome : Except String Reply} {f : TransportFault} (rejected : r.isRejection = true)
      (oauth : l.oauth = some o) (failed : OAuth.grant outcome = .error (.transport f)) :
    Fired l kind body [⟨l.dispatch body, .ok r⟩, ⟨o.refreshDispatch, outcome⟩] (.error (.transport f)) l
  | retried {r : Reply} {o : OAuth} {outcome second : Except String Reply} {g : Grant} (rejected : r.isRejection = true)
      (oauth : l.oauth = some o) (granted : OAuth.grant outcome = .ok g) :
    Fired l kind body
      [⟨l.dispatch body, .ok r⟩, ⟨o.refreshDispatch, outcome⟩, ⟨(l.renewed o g).dispatch body, second⟩]
      ((l.renewed o g).received kind second) (l.renewed o g)

theorem isExchange_dispatch (l : Link) (body : List UInt8) (outcome : Except String Reply) :
    Errand.isExchange ⟨l.dispatch body, outcome⟩ = false :=
  decide_eq_false (by simp [dispatch, contentType, Form.contentType])

theorem isExchange_refreshDispatch (o : OAuth) (outcome : Except String Reply) :
    Errand.isExchange ⟨o.refreshDispatch, outcome⟩ = true :=
  decide_eq_true rfl

section
variable {m : Type → Type} [Monad m] [LawfulMonad m] (c : Client m) (l : Link)

theorem fire_eq (kind : Kind) (body : List UInt8) :
    l.fire c kind body = (do
      let first ← c (l.dispatch body)
      match first, l.oauth with
      | .ok r, some o =>
        if r.isRejection then do
          let outcome ← c o.refreshDispatch
          match OAuth.grant outcome with
          | .error f => pure (.error f, l)
          | .ok g =>
            let second ← c ((l.renewed o g).dispatch body)
            pure ((l.renewed o g).received kind second, l.renewed o g)
        else pure (l.received kind first, l)
      | _, _ => pure (l.received kind first, l)) := by
  simp only [fire, post, bind_assoc, pure_bind]
  congr; funext first
  cases first with
  | error detail => rfl
  | ok r =>
    cases oauth : l.oauth with
    | none => rfl
    | some o =>
      have same : ({ l with oauth := some o } : Link) = l := by rw [← oauth]
      have replied (f : String → Failure) : (Except.ok r).mapError f = .ok r := rfl
      cases rejected : r.isRejection with
      | false => simp [replied, rejected, received]
      | true =>
        simp only [replied, rejected, retry, OAuth.refresh, if_true, bind_assoc]
        congr; funext outcome
        cases OAuth.grant outcome with
        | error f => simp [same]
        | ok g =>
          simp only [post, bind_assoc, pure_bind]
          congr; funext second
          cases second <;> rfl

end

/-- What a link does does not depend on what was posted before. -/
theorem fire_fired {σ : Type} (c : Client (StateM σ)) (l : Link) (kind : Kind) (body : List UInt8) (s : σ) :
    ∃ sent x l' t, (∀ trail, ((l.fire c.observed kind body).run trail).run s = pure (((x, l'), trail ++ sent), t)) ∧
      Fired l kind body sent x l' := by
  rw [fire_eq]
  obtain ⟨first, s₁, post⟩ := Session.run_eq_pure (c (l.dispatch body)) s
  have settles (kept : ∀ r, first = .ok r → r.isRejection = true → l.oauth = none) :
      Fired l kind body [⟨l.dispatch body, first⟩] (l.received kind first) l := .settled kept
  rcases first with detail | r
  · exact ⟨_, _, _, s₁, fun trail => by simp [Client.observed, post], settles nofun⟩
  cases rejected : r.isRejection with
  | false =>
    refine ⟨_, _, _, s₁, fun trail => ?_, settles fun r' same wanted => ?_⟩
    · cases oauth : l.oauth <;> simp [Client.observed, post, rejected]
    · rw [← Except.ok.inj same, rejected] at wanted
      cases wanted
  | true =>
    cases oauth : l.oauth with
    | none => exact ⟨_, _, _, s₁, fun trail => by simp [Client.observed, post], settles fun _ _ _ => oauth⟩
    | some o =>
      obtain ⟨outcome, s₂, ask⟩ := Session.run_eq_pure (c o.refreshDispatch) s₁
      obtain ⟨g, granted, -⟩ | ⟨f, failed, -⟩ := grant_of_outcome (isExchange_refreshDispatch o outcome)
      · obtain ⟨second, s₃, again⟩ := Session.run_eq_pure (c ((l.renewed o g).dispatch body)) s₂
        have retries : Fired l kind body [_, _, ⟨_, second⟩] _ _ := .retried rejected oauth granted
        refine ⟨_, _, _, s₃, fun trail => ?_, retries⟩
        simp [Client.observed, post, rejected, ask, granted, again]
      · refine ⟨_, _, _, s₂, fun trail => ?_, .denied rejected oauth failed⟩
        simp [Client.observed, post, rejected, ask, failed]

end Link
end Rehearsal.Transport

namespace Rehearsal.Composes
open Transport
open Wire (Kind)

variable {m₁ m₂ : Type → Type} [Monad m₁] [Monad m₂] {R : ∀ {α : Type}, m₁ α → m₂ α → Prop}
  {around₁ : Surroundings m₁} {around₂ : Surroundings m₂} {c₁ : Client m₁} {c₂ : Client m₂}

theorem link (c : Composes @R) (alike : ∀ d, R (c₁ d) (c₂ d)) (l : Link) (kind : Kind) (body : List UInt8) :
    R (l.fire c₁ kind body) (l.fire c₂ kind body) := by
  have post (l : Link) : R (l.post c₁ body) (l.post c₂ body) := c.bind (alike _) fun _ => c.pure _
  refine c.bind (post l) fun reply => ?_
  cases reply with
  | error f => exact c.pure _
  | ok r =>
    cases l.oauth with
    | none => exact c.pure _
    | some o =>
      dsimp only
      split
      · refine c.bind (c.bind (alike _) fun outcome => ?_) fun renewal => ?_
        · cases Settings.OAuth.grant outcome <;> exact c.pure _
        · obtain ⟨f | token, o⟩ := renewal
          · exact c.pure _
          · exact c.bind (post _) fun _ => c.pure _
      · exact c.pure _

theorem overLink (c : Composes @R) (around : Surroundings.Alike @R around₁ around₂) (alike : ∀ d, R (c₁ d) (c₂ d)) :
    World.Alike (@OverState m₁ m₂ @R Link) (Link.world around₁ c₁) (Link.world around₂ c₂) where
  now := c.lift around.now
  draw bound := c.lift (around.draw bound)
  wait s := c.lift (around.wait s)
  deliver kind e := fun l => c.link alike l kind e.toBytes

end Rehearsal.Composes
