import Rehearsal.Proofs.Command.Acceptance
import Rehearsal.Proofs.Session.WellFormed

/-!
What settings are accepted for. A run with them never lacks an identity, and all that it posts, token requests apart, are
envelopes that were made for this identity, at a time that the clock showed.
-/
namespace Rehearsal.Script
open Session (Dateless History Identity Policy)

/-- Where the transport fails as a transport, a run fails for the configuration only by a clock without a date. -/
theorem played_dateless {τ : Type} {w : World (StateM τ)} (honest : Honest w) {identity : Identity} {policy : Policy}
    {script : Script} {s : τ} {fault : ConfigFault}
    (failed : (played w identity policy script s).result = .error (.config fault)) : Dateless w identity (.config fault) := by
  obtain ⟨n, -, s', failed⟩ := played_eq_error w identity policy failed
  obtain ⟨-, blame⟩ := session_timed w identity policy n {} s'
  rcases blame fault failed with dateless | ⟨d, handed, answer⟩
  · exact dateless
  · obtain ⟨fault', same⟩ := session_traced honest identity policy n {} s' d handed _ answer
    cases same

end Rehearsal.Script

namespace Rehearsal.Transport

/-- All that an attempt posts, token requests apart, carries the one envelope. -/
theorem Attempt.carries {renews : Bool} {body : List UInt8} {sent : Trail} (attempt : Attempt renews body sent) :
    ∀ e ∈ sent, e.isExchange = false → e.Carries body := by
  cases attempt with
  | settled posted => simpa using fun _ => posted
  | denied posted _ _ asked => simp [asked, posted]
  | retried posted _ _ asked _ reposted => simp [asked, posted, reposted]

end Rehearsal.Transport

namespace Rehearsal.Command
open Calendar (instant? isStamp yearBegins)
open Script (Report Traces played played_dateless played_made played_traced)
open Session (Dateless History Identity Made Policy checkOffset offsetLimit)
open Transport
open Wire (Envelope)

section
variable {σ : Type}

def Posts (new : History) (sent : Trail) : Prop := ∀ e ∈ sent, e.isExchange = false → ∃ d ∈ new, e.Carries d.envelope.toBytes

theorem Posts.append {a b : History} {sent later : Trail} (first : Posts a sent) (second : Posts b later) :
    Posts (a ++ b) (sent ++ later) := by
  intro e member posted
  rcases List.mem_append.mp member with member | member
  · obtain ⟨d, handed, carries⟩ := first e member posted
    exact ⟨d, List.mem_append_left b handed, carries⟩
  · obtain ⟨d, handed, carries⟩ := second e member posted
    exact ⟨d, List.mem_append_right a handed, carries⟩

variable (h : Host (StateM σ)) (limit : Span)

theorem link_posts : Traces (linkWorld h limit) fun k new k' => ∃ sent, k'.2.1 = k.2.1 ++ sent ∧ Posts new sent :=
  link_traces h limit (List.forall_mem_nil _) Posts.append fun fired errand member posted =>
    ⟨_, List.mem_singleton.mpr rfl, fired.attempt.carries errand member posted⟩

variable {h limit} {identity : Identity} {policy : Policy} {scripts out : List Script} {x : Except Failure (List Report)}
  {k k' : Link × Trail × σ}

/-- Scripts that are played post envelopes of their identity. -/
theorem Plays.posts (plays : Plays (linkWorld h limit) identity policy scripts out k x k') :
    ∃ sent, k'.2.1 = k.2.1 ++ sent ∧
      ∀ e ∈ sent, e.isExchange = false → ∃ envelope, Made (linkWorld h limit) identity envelope ∧ e.Carries envelope.toBytes := by
  have one (script : Script) (k : Link × Trail × σ) :
      ∃ sent, (played (linkWorld h limit) identity policy script k).world.2.1 = k.2.1 ++ sent ∧ ∀ e ∈ sent, e.isExchange = false →
        ∃ envelope, Made (linkWorld h limit) identity envelope ∧ e.Carries envelope.toBytes := by
    obtain ⟨sent, trail, carried⟩ := played_traced (link_posts h limit) identity policy script k
    refine ⟨sent, trail, fun e member posted => ?_⟩
    obtain ⟨d, handed, carries⟩ := carried e member posted
    exact ⟨d.envelope, played_made _ identity policy script k d handed, carries⟩
  induction plays with
  | done k => exact ⟨[], (List.append_nil _).symm, List.forall_mem_nil _⟩
  | failed => exact one _ _
  | passed _ _ ih =>
    obtain ⟨sent, trail, made⟩ := one _ _
    obtain ⟨later, trail', made'⟩ := ih
    exact ⟨sent ++ later, by rw [trail', trail, List.append_assoc], List.forall_mem_append.mpr ⟨made, made'⟩⟩

theorem Plays.dateless {fault : ConfigFault} (plays : Plays (linkWorld h limit) identity policy scripts out k x k')
    (failed : x = .error (.config fault)) : Dateless (linkWorld h limit) identity (.config fault) := by
  obtain ⟨before, script, k₁, -, failed⟩ := plays.last failed
  exact played_dateless (link_honest h limit) failed

end

/-- From the year 1000 to the end of the year 9800. -/
def InGoodTime (now : Int) : Prop := yearBegins 1000 ≤ now ∧ now < yearBegins 9801

/- Settings that were accepted once, whatever layers they came from. The last part is about all the offsets that there are,
   accepted or not. -/
theorem accepted_settings_suffice [Regex.Room] {σ : Type} (h : Host (StateM σ)) (config : Option String) (layer : Settings.Layer) (s₀ s₁ : σ)
    (settings settings' : Settings) (loaded : (Settings.load h.sources config).run s₀ = pure (.ok settings, s₁))
    (valid : (settings.overlaid layer).checked = .ok settings') :
    (∀ application user, ∃ identity, Identity.ofProfile settings'.profile application user = .ok identity ∧
      ∀ now, InGoodTime now → ∃ text, identity.timestamp now = .ok text ∧ isStamp text.toList = true ∧
        instant? text.toList = some (now + settings'.profile.offset)) ∧
    (∀ paths tag, ∃ x trail s',
      ((perform h.observed { job := .run paths layer tag, config }).run []).run s₀ = pure ((x, trail), s') ∧
      (∀ e ∈ trail, e.isExchange = false → ∃ envelope : Envelope, e.Carries envelope.toBytes ∧ envelope.WellFormed ∧
        ((∀ s, InGoodTime (h.now.run s).1) → isStamp envelope.request.timestamp.toList = true ∧
          ∃ s, instant? envelope.request.timestamp.toList = some ((h.now.run s).1 + settings'.profile.offset))) ∧
      ∀ scripts s₂, (scriptsAt h settings'.marker paths).run s₁ = pure (.ok scripts, s₂) → (∀ s, InGoodTime (h.now.run s).1) →
        ∀ fault, x = .error (.config fault) → fault = .noEndpoint) ∧
    ∀ n : Int, (-offsetLimit ≤ n ∧ n ≤ offsetLimit ∧ checkOffset n = .ok n) ∨
      ((n < -offsetLimit ∨ offsetLimit < n) ∧ checkOffset n = .error (.config (.offset n)) ∧
        ∀ s : Settings, s.profile.offset = n → ∃ fault, s.checked = .error (.config fault)) := by
  have sound := Settings.sound_of_checked valid
  refine ⟨fun application user => ?_, fun paths tag => ?_, fun n => ?_⟩
  · obtain ⟨identity, made, offset, formed⟩ := sound.wellFormed application user
    refine ⟨identity, made, fun now time => ?_⟩
    rw [← offset]
    exact formed.timestamp time.1 time.2
  · obtain ⟨x, trail, s', ran, course⟩ := run_takes_course h settings' paths tag s₁
    refine ⟨x, trail, s', (perform_runs_watched h rfl loaded valid).trans ran, ?_⟩
    cases course with
    | unread unread =>
      refine ⟨List.forall_mem_nil _, fun scripts s₂ read => ?_⟩
      cases (Prod.mk.inj (unread.symm.trans read)).1
    | anonymous _ drawn =>
      obtain ⟨application, user, made⟩ := Session.drawIdentity_eq drawn
      cases made.trans (sound.identity application user)
    | unlinked _ _ unlinked =>
      obtain ⟨rfl, -⟩ := ofSettings_eq_error unlinked
      refine ⟨List.forall_mem_nil _, fun _ _ _ _ fault same => ?_⟩
      cases same
      rfl
    | @played scripts identity link link' out y trail s₂ s₃ s' read drawn linked plays =>
      obtain ⟨application, user, chosen⟩ := Session.drawIdentity_eq drawn
      obtain ⟨identity', made, offset, formed⟩ := sound.wellFormed application user
      obtain rfl : identity = identity' := Except.ok.inj (chosen.trans made)
      obtain ⟨sent, posted, envelopes⟩ := plays.posts
      obtain rfl : trail = sent := posted
      refine ⟨fun e member post => ?_, fun _ _ _ time fault failed => ?_⟩
      · obtain ⟨envelope, made, carries⟩ := envelopes e member post
        refine ⟨envelope, carries, made.wellFormed formed, fun time => ?_⟩
        obtain ⟨⟨l, t, s⟩, stamped⟩ := made.stamped
        obtain ⟨text, clock, stamp, instant⟩ := formed.timestamp (time s).1 (time s).2
        obtain rfl : envelope.request.timestamp = text := Except.ok.inj (stamped.symm.trans clock)
        exact ⟨stamp, s, by rw [instant, offset]⟩
      · obtain ⟨⟨l, t, s⟩, dateless⟩ := plays.dateless (map_eq_error.mp failed)
        obtain ⟨text, clock, -⟩ := formed.timestamp (time s).1 (time s).2
        cases dateless.symm.trans clock
  · rcases Session.checkOffset_cases n with within | ⟨far, refused⟩
    · exact .inl within
    · refine .inr ⟨far, refused, fun s same => ?_⟩
      rw [← same] at far
      exact Settings.checked_of_far_offset far

/-- With nothing but the defaults, at one moment of the year 2023. -/
theorem greeting_goes_out_in_good_form :
    let page (status : Nat) (text : String) : Reply := ⟨status, some (Text.Utf8.encode text.toList)⟩
    let h := still [("greeting.yaml", "name: greeting\nsessions: [[launch: true]]")]
    let replies : List Reply := [page 204 "", page 200 "\x7b\"response\": \x7b\"shouldEndSession\": true\x7d\x7d"]
    ∃ x trail s',
      ((perform h.observed { job := .run ["greeting.yaml"] { endpoint := some "https://skill.example" } none }).run []).run
        replies = pure ((x, trail), s') ∧ trail.posts = 2 ∧
      ∀ e ∈ trail, e.isExchange = false → ∃ envelope : Envelope, e.Carries envelope.toBytes ∧ envelope.WellFormed ∧
        instant? envelope.request.timestamp.toList = some 1700000000 := by
  intro page h replies
  have loaded : (Settings.load h.sources none).run replies = pure (.ok {}, replies) :=
    Settings.load_of_nothing (fun _ => rfl) rfl rfl
  have valid : (({} : Settings).overlaid { endpoint := some "https://skill.example" }).checked =
      .ok { endpoint := some "https://skill.example" } := Settings.defaults_accepted _
  obtain ⟨x, trail, s', ran, posted, -⟩ :=
    (accepted_settings_suffice h none { endpoint := some "https://skill.example" } replies replies {} _ loaded valid).2.1
      ["greeting.yaml"] none
  have time : ∀ s, InGoodTime (h.now.run s).1 := by
    intro s
    have first := Calendar.daysBefore_eq 1000
    have last := Calendar.daysBefore_eq 9801
    have shown : (h.now.run s).1 = 1700000000 := rfl
    rw [InGoodTime, shown, Calendar.yearBegins_eq, Calendar.yearBegins_eq, Calendar.daysBefore_epoch]
    unfold Calendar.secondsPerDay
    omega
  have twice : ((((run h.observed { endpoint := some "https://skill.example" } ["greeting.yaml"] none).run []).run replies).1.2 :
      Trail).posts = 2 := by
    decide +kernel
  refine ⟨x, trail, s', ran, ?_, fun e member post => ?_⟩
  · rw [perform_runs_watched h rfl loaded valid] at ran
    rwa [ran] at twice
  · obtain ⟨envelope, carries, formed, stamped⟩ := posted e member post
    obtain ⟨-, s, instant⟩ := stamped time
    exact ⟨envelope, carries, formed, instant⟩

end Rehearsal.Command
