import Rehearsal.Settings.Load

/-!
Settings that were accepted once. The check does not change them, whatever layers they came from, and what it passes is
enough to make an identity.
-/
namespace Rehearsal
open Session (Identity Profile checkOffset offsetLimit)

structure Session.Profile.Sound (p : Profile) : Prop where
  locale : Settings.isLocale p.locale = true
  application : ∀ id, p.applicationId = some id → Wire.Ids.isApplicationId id = true
  user : ∀ id, p.userId = some id → Wire.Ids.isUserId id = true
  token : ∀ token, p.accessToken = some token → Text.isBlankText token = false
  offset : -offsetLimit ≤ p.offset ∧ p.offset ≤ offsetLimit

namespace Session

theorem checkOffset_cases (n : Int) :
    (-offsetLimit ≤ n ∧ n ≤ offsetLimit ∧ checkOffset n = .ok n) ∨
      ((n < -offsetLimit ∨ offsetLimit < n) ∧ checkOffset n = .error (.config (.offset n))) := by
  unfold checkOffset
  split
  · rename_i within
    exact .inl ⟨within.1, within.2, rfl⟩
  · rename_i beyond
    exact .inr ⟨by omega, rfl⟩

/-- A sound profile is never turned down. -/
theorem Profile.Sound.identity {p : Profile} (sound : p.Sound) (application user : Nat) :
    Identity.ofProfile p application user = .ok {
      applicationId := p.applicationId.getD (Wire.Ids.application application)
      userId := p.userId.getD (Wire.Ids.user user)
      accessToken := p.accessToken
      locale := p.locale
      offset := p.offset } := by
  have bounded : checkOffset p.offset = .ok p.offset := if_pos sound.offset
  simp [Identity.ofProfile, bounded, bind, Except.bind, pure, Except.pure]

theorem drawIdentity_eq {σ : Type} {around : Surroundings (StateM σ)} {p : Profile} {x : Except Failure Identity} {s s' : σ}
    (drawn : (drawIdentity around p).run s = pure (x, s')) : ∃ application user, x = Identity.ofProfile p application user := by
  obtain ⟨application, s₁, first⟩ : ∃ n s₁, (around.draw Wire.Ids.uuidBound).run s = pure (n, s₁) := ⟨_, _, rfl⟩
  obtain ⟨user, s₂, second⟩ : ∃ n s₂, (around.draw Wire.Ids.userBound).run s₁ = pure (n, s₂) := ⟨_, _, rfl⟩
  rw [drawIdentity, StateT.run_bind, first, pure_bind, StateT.run_bind, second, pure_bind] at drawn
  exact ⟨application, user, (Prod.mk.inj drawn).1.symm⟩

end Session

namespace Settings

theorem firstBlank_eq_none {fields : List (String × Option String)} (h : firstBlank fields = none) {name value : String}
    (mem : (name, some value) ∈ fields) : Text.isBlankText value = false := by
  simp only [firstBlank, Option.map_eq_none_iff, List.find?_eq_none] at h
  simpa using h _ mem

theorem profile_sound {p : Profile} (passed : profileFault? p = none) : p.Sound := by
  unfold profileFault? at passed
  split at passed
  · cases passed
  rename_i locale
  split at passed
  · cases passed
  rename_i filled
  split at passed
  · cases passed
  · cases passed
  rename_i application user
  split at passed
  · rename_i offset bounded
    constructor
    case locale => simpa using locale
    case application =>
      intro id given
      simpa [given] using application
    case user =>
      intro id given
      simpa [given] using user
    case token =>
      intro token given
      have listed : ("access_token", some token) ∈
          [("application_id", p.applicationId), ("user_id", p.userId), ("access_token", p.accessToken)] := by
        simp [given]
      exact firstBlank_eq_none filled listed
    case offset =>
      rcases Session.checkOffset_cases p.offset with ⟨least, most, -⟩ | ⟨-, refused⟩
      · exact ⟨least, most⟩
      · rw [refused] at bounded
        cases bounded
  · cases passed

theorem isLocale_iff (s : String) : isLocale s = true ↔
    ∃ a b c d : Char, s.toList = [a, b, '-', c, d] ∧ a.isLower = true ∧ b.isLower = true ∧ c.isUpper = true ∧ d.isUpper = true := by
  constructor
  · intro form
    unfold isLocale at form
    split at form
    · rename_i a b h c d text
      simp only [Bool.and_eq_true, beq_iff_eq] at form
      obtain ⟨⟨⟨⟨ha, hb⟩, rfl⟩, hc⟩, hd⟩ := form
      exact ⟨a, b, c, d, text, ha, hb, hc, hd⟩
    · cases form
  · rintro ⟨a, b, c, d, text, ha, hb, hc, hd⟩
    simp [isLocale, text, ha, hb, hc, hd]

theorem checked_eq_ok {s s' : Settings} (accepted : s.checked = .ok s') : s' = s ∧ s.fault? = none := by
  unfold checked at accepted
  split at accepted
  · cases accepted
  · rename_i sound
    exact ⟨(Except.ok.inj accepted).symm, sound⟩

theorem sound_of_checked {s s' : Settings} (accepted : s.checked = .ok s') : s'.profile.Sound := by
  obtain ⟨rfl, passed⟩ := checked_eq_ok accepted
  unfold fault? at passed
  split at passed
  · cases passed
  · rename_i faultless
    exact profile_sound faultless

/-- An offset beyond the limit is a fault of the settings that hold it. -/
theorem checked_of_far_offset {s : Settings} (far : s.profile.offset < -offsetLimit ∨ offsetLimit < s.profile.offset) :
    ∃ fault, s.checked = .error (.config fault) := by
  cases accepted : s.checked with
  | ok s' =>
    obtain ⟨rfl, -⟩ := checked_eq_ok accepted
    obtain ⟨least, most⟩ := (sound_of_checked accepted).offset
    rcases far with low | high
    · exact absurd least (Int.not_le.mpr low)
    · exact absurd most (Int.not_le.mpr high)
  | error f =>
    unfold checked at accepted
    split at accepted
    · exact ⟨_, congrArg _ (Except.error.inj accepted).symm⟩
    · cases accepted

end Settings
end Rehearsal
