import Rehearsal.Proofs.Transport.Tokens
import Rehearsal.Transport.Local

/-!
Envelopes over a link, one after the other. Each is posted once or twice, and a second time only with tokens that were
handed out in between; what it comes to is what the last post brought.
-/
namespace Rehearsal.Transport
open Settings (OAuth)
open Wire (Kind)

namespace Errand

def Carries (e : Errand) (body : List UInt8) : Prop := e.isExchange = false ∧ e.dispatch.body = body

def Rejected (e : Errand) : Prop := ∃ r, e.outcome = .ok r ∧ (r.status = 401 ∨ r.status = 403)

/-- What a server brought back that was content: a body that came in full, if there is anything in it. -/
def brought? (e : Errand) : Option (Option (List UInt8)) :=
  match e.outcome with
  | .error _ => none
  | .ok r =>
    if 200 ≤ r.status ∧ r.status < 300 then
      r.body.map fun bytes => if bytes.all Text.isBlankByte then none else some bytes
    else none

end Errand

/-- What an envelope adds to a trail, over a link that can or cannot have its token renewed. -/
inductive Attempt (renews : Bool) (body : List UInt8) : Trail → Prop where
  | settled {post : Errand} (posted : post.Carries body) (kept : post.Rejected → renews = false) : Attempt renews body [post]
  | denied {post exchange : Errand} (posted : post.Carries body) (rejected : post.Rejected) (able : renews = true)
      (asked : exchange.isExchange = true) (refused : exchange.grant? = none) : Attempt renews body [post, exchange]
  | retried {post exchange again : Errand} {g : Grant} (posted : post.Carries body) (rejected : post.Rejected)
      (able : renews = true) (asked : exchange.isExchange = true) (granted : exchange.grant? = some g)
      (reposted : again.Carries body) : Attempt renews body [post, exchange, again]

def Trail.lastPost? (t : Trail) : Option Errand := (t.filter fun e => !e.isExchange).getLast?

namespace Link

variable {l : Link} {kind : Kind} {body : List UInt8} {sent : Trail} {x : Answer} {l' : Link}

theorem carries_dispatch (l : Link) (body : List UInt8) (outcome : Except String Reply) :
    Errand.Carries ⟨l.dispatch body, outcome⟩ body :=
  ⟨isExchange_dispatch l body outcome, rfl⟩

theorem rejected_iff {d : Dispatch} {r : Reply} : Errand.Rejected ⟨d, .ok r⟩ ↔ r.isRejection = true := by
  simp [Errand.Rejected, Reply.isRejection]

theorem Fired.attempt (fired : Fired l kind body sent x l') : Attempt l.oauth.isSome body sent := by
  cases fired with
  | @settled outcome kept =>
    refine .settled (carries_dispatch ..) ?_
    rintro ⟨r, rfl, rejected⟩
    rw [kept r rfl (rejected_iff (d := l.dispatch body).mp ⟨r, rfl, rejected⟩)]
    rfl
  | denied rejected oauth failed =>
    exact .denied (carries_dispatch ..) (rejected_iff.mpr rejected) (by rw [oauth]; rfl) (isExchange_refreshDispatch ..)
      (grant?_of_failed failed)
  | retried rejected oauth granted =>
    exact .retried (carries_dispatch ..) (rejected_iff.mpr rejected) (by rw [oauth]; rfl) (isExchange_refreshDispatch ..)
      (grant?_of_granted granted) (carries_dispatch ..)

theorem received_toOption (l : Link) (kind : Kind) (d : Dispatch) (outcome : Except String Reply) :
    (l.received kind outcome).toOption = Errand.brought? ⟨d, outcome⟩ := by
  cases outcome with
  | error detail => rfl
  | ok r =>
    cases success : r.isSuccess with
    | false =>
      have outside : ¬(200 ≤ r.status ∧ r.status < 300) := by simpa [Reply.isSuccess] using success
      simp [received, answer, success, Errand.brought?, outside, Except.toOption]
    | true =>
      have within : 200 ≤ r.status ∧ r.status < 300 := by simpa [Reply.isSuccess] using success
      cases body : r.body <;> simp [received, answer, success, Errand.brought?, within, body, Except.toOption]

theorem received_eq_error {outcome : Except String Reply} {f : Failure} (failed : l.received kind outcome = .error f) :
    ∃ fault, f = .transport fault := by
  cases outcome with
  | error detail => exact ⟨_, (Except.error.inj failed).symm⟩
  | ok r =>
    simp only [received, answer] at failed
    split at failed
    · exact ⟨_, (Except.error.inj failed).symm⟩
    · split at failed
      · exact ⟨_, (Except.error.inj failed).symm⟩
      · cases failed

theorem brought?_of_rejected {e : Errand} (rejected : e.Rejected) : e.brought? = none := by
  obtain ⟨d, outcome⟩ := e
  obtain ⟨r, rfl, status⟩ := rejected
  have outside : ¬(200 ≤ r.status ∧ r.status < 300) := by omega
  simp [Errand.brought?, outside]

/-- The answer is what the last post brought. -/
theorem Fired.brings (fired : Fired l kind body sent x l') :
    x.toOption = sent.lastPost?.bind Errand.brought? ∧ ∀ f, x = .error f → ∃ fault, f = .transport fault := by
  cases fired with
  | settled =>
    refine ⟨?_, fun f => received_eq_error⟩
    simpa [Trail.lastPost?, isExchange_dispatch] using received_toOption ..
  | @denied r o outcome f rejected _ _ =>
    refine ⟨?_, fun f' failed => ⟨f, (Except.error.inj failed).symm⟩⟩
    have nothing := brought?_of_rejected (rejected_iff (d := l.dispatch body).mpr rejected)
    simp [Trail.lastPost?, isExchange_dispatch, isExchange_refreshDispatch, nothing, Except.toOption]
  | @retried r o outcome second g =>
    refine ⟨?_, fun f => received_eq_error⟩
    simpa [Trail.lastPost?, isExchange_dispatch, isExchange_refreshDispatch] using received_toOption ..

end Link

structure Correspondence (σ : Type) where
  link : Link
  world : σ
  trail : Trail := []

namespace Correspondence
variable {σ : Type} (c : Client (StateM σ))

def fire (kind : Kind) (body : List UInt8) (k : Correspondence σ) : Answer × Correspondence σ :=
  let (((x, link), trail), world) := ((k.link.fire c.observed kind body).run k.trail).run k.world
  (x, { link, world, trail })

def fires (envelopes : List (Kind × List UInt8)) (k : Correspondence σ) : Correspondence σ :=
  envelopes.foldl (fun k e => (k.fire c e.1 e.2).2) k

variable {c}

def Latest (first : Link) (k : Correspondence σ) : Prop := k.link = first.after k.trail ∧ k.trail.Proper first

theorem fire_fired (k : Correspondence σ) (kind : Kind) (body : List UInt8) :
    ∃ sent, (k.fire c kind body).2.trail = k.trail ++ sent ∧
      k.link.Fired kind body sent (k.fire c kind body).1 (k.fire c kind body).2.link := by
  obtain ⟨sent, x, l', world, run, fired⟩ := Link.fire_fired c k.link kind body k.world
  have ran : k.fire c kind body = (x, ⟨l', world, k.trail ++ sent⟩) := by
    rw [fire, run k.trail]
    rfl
  rw [ran]
  exact ⟨sent, rfl, fired⟩

theorem Latest.fire {first : Link} {k : Correspondence σ} (latest : Latest first k) (kind : Kind) (body : List UInt8) :
    Latest first (k.fire c kind body).2 := by
  obtain ⟨stands, proper⟩ := latest
  obtain ⟨sent, trail, fired⟩ := k.fire_fired (c := c) kind body
  obtain ⟨moved, sends⟩ := fired.follows
  rw [stands] at moved sends
  refine ⟨?_, ?_⟩
  · rw [trail, Link.after_append, moved]
  · rw [trail]
    exact proper.append sends

theorem Latest.fires {first : Link} {k : Correspondence σ} (latest : Latest first k) (envelopes : List (Kind × List UInt8)) :
    Latest first (k.fires c envelopes) := by
  induction envelopes generalizing k with
  | nil => exact latest
  | cons e rest ih => exact ih (latest.fire e.1 e.2)

end Correspondence

/- The second exchange fails, and the tokens of the first stay. -/
example :
    let page (status : Nat) (s : String) : Reply := ⟨status, some (Text.Utf8.encode s.toList)⟩
    let o : OAuth := { tokenUrl := "https://id.example/token", refreshToken := "refresh-1" }
    let k := Correspondence.fires inTurn [(.launch, []), (.intent, []), (.intent, [])]
      { link := { endpoint := "https://skill.example", token := some "stale", oauth := some o }
        world := [page 401 "", page 200 "\x7b\"access_token\": \"fresh\", \"refresh_token\": \"refresh-2\"\x7d", page 204 "",
          page 200 "\x7b\x7d", page 403 "", page 500 ""] }
    k.trail.map (·.dispatch.authorization) =
        [some "Bearer stale", none, some "Bearer fresh", some "Bearer fresh", some "Bearer fresh", none] ∧
      k.link.oauth.map (·.refreshToken) = some "refresh-2" := by
  decide +kernel

end Rehearsal.Transport
