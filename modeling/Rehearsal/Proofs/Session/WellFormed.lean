import Rehearsal.Proofs.Calendar.Stamp
import Rehearsal.Proofs.Session.Sending
import Rehearsal.Proofs.Settings.Sound
import Rehearsal.Proofs.Wire.Ids

/-!
Identities as accepted settings give them. Their clock always has a date, within the years of four digits as well as can be
asked, and what is made for them carries a locale, ids and a token that will do.
-/
namespace Rehearsal
open Calendar (instant? isStamp yearBegins)
open Wire (Envelope Ids.isApplicationId Ids.isUserId Party)

structure Wire.Party.WellFormed (p : Party) : Prop where
  application : Ids.isApplicationId p.applicationId = true
  user : Ids.isUserId p.user.id = true
  token : ∀ token, p.user.accessToken = some token → Text.isBlankText token = false

structure Wire.Envelope.WellFormed (e : Envelope) : Prop where
  locale : ∃ a b c d : Char, e.request.locale.toList = [a, b, '-', c, d] ∧
    a.isLower = true ∧ b.isLower = true ∧ c.isUpper = true ∧ d.isUpper = true
  session : e.session.party.WellFormed
  context : e.context.WellFormed

namespace Session

structure Identity.WellFormed (i : Identity) : Prop where
  locale : Settings.isLocale i.locale = true
  party : i.party.WellFormed
  offset : -offsetLimit ≤ i.offset ∧ i.offset ≤ offsetLimit

/-- Made up or given, the ids will do. -/
theorem Profile.Sound.wellFormed {p : Profile} (sound : p.Sound) (application user : Nat) :
    ∃ i, Identity.ofProfile p application user = .ok i ∧ i.offset = p.offset ∧ i.WellFormed := by
  refine ⟨_, sound.identity application user, rfl, sound.locale, ⟨?_, ?_, sound.token⟩, sound.offset⟩
  · cases given : p.applicationId with
    | none => simpa [Identity.party, given] using Wire.Ids.isApplicationId_application application
    | some id => simpa [Identity.party, given] using sound.application id given
  · cases given : p.userId with
    | none => simpa [Identity.party, given] using Wire.Ids.isUserId_user user
    | some id => simpa [Identity.party, given] using sound.user id given

/-- A hundred years more or less lead from a year of four digits to another. -/
theorem Identity.WellFormed.timestamp {i : Identity} (formed : i.WellFormed) {now : Int} (low : yearBegins 1000 ≤ now)
    (high : now < yearBegins 9801) :
    ∃ text, i.timestamp now = .ok text ∧ isStamp text.toList = true ∧ instant? text.toList = some (now + i.offset) := by
  obtain ⟨least, most⟩ := formed.offset
  have first := Calendar.daysBefore_eq 1000
  have last := Calendar.daysBefore_eq 9801
  have longest := Calendar.daysBefore_eq 10000
  rw [Calendar.yearBegins_eq, Calendar.daysBefore_epoch] at low high
  unfold Calendar.secondsPerDay at low high
  unfold offsetLimit at least most
  have begun : -Calendar.epoch * Calendar.secondsPerDay ≤ now + i.offset := by
    unfold Calendar.epoch Calendar.secondsPerDay
    omega
  have unended : now + i.offset < yearBegins 10000 := by
    rw [Calendar.yearBegins_eq, Calendar.daysBefore_epoch]
    unfold Calendar.secondsPerDay
    omega
  refine ⟨_, if_pos (Calendar.shown_of_low_of_high begun unended), ?_⟩
  exact Calendar.stamp_spec begun unended

theorem Made.wellFormed {σ : Type} {w : World (StateM σ)} {i : Identity} (formed : i.WellFormed) {e : Envelope}
    (made : Made w i e) : e.WellFormed := by
  obtain ⟨a, r, n, s, time, rfl, -, rfl⟩ := made
  refine ⟨?_, formed.party, formed.party⟩
  have kept : (a.wrap r (Wire.Ids.request n) time).request.locale = a.identity.locale := by
    cases r <;> rfl
  rw [kept]
  exact (Settings.isLocale_iff _).mp formed.locale

theorem Made.stamped {σ : Type} {w : World (StateM σ)} {i : Identity} {e : Envelope} (made : Made w i e) :
    ∃ s, i.timestamp (w.now.run s).1 = .ok e.request.timestamp := by
  obtain ⟨a, r, n, s, time, -, clock, rfl⟩ := made
  have kept : (a.wrap r (Wire.Ids.request n) time).request.timestamp = time := by
    cases r <;> rfl
  exact ⟨s, by rw [kept, clock]⟩

end Session
end Rehearsal
