import Rehearsal.Proofs.Json.Fields
import Rehearsal.Proofs.Transport.Errand

/-!
Replies that grant tokens. The access token is a text under its name; next to it may stand a refresh token, and under other
names anything. A reply without the one text, or with either name twice, grants nothing.
-/
namespace Rehearsal.Transport
open Json (Source Fields depthLimit)
open Settings (OAuth)

namespace Grant
variable {g : Grant} {depth : Nat}

/-- Where a refresh token would stand, there is one, null, or nothing. -/
def Renews (token : Option String) (values : List Source) : Prop :=
  values = (token.map fun t => .string (some t)).toList ∨ token = none ∧ values = [.null]

/- An array has both tokens in order. -/
inductive Told (g : Grant) : Source → Prop where
  | members {members : List (Option String × Source)} (named : ∀ m ∈ members, m.1 ≠ none)
      (access : Source.under "access_token" members = [.string (some g.accessToken)])
      (refresh : Renews g.refreshToken (Source.under "refresh_token" members)) : Told g (.object members)
  | items {rest : List Source} (refresh : Renews g.refreshToken rest) :
    Told g (.array (.string (some g.accessToken) :: rest))

theorem Renews.length_le {token : Option String} {values : List Source} (renews : Renews token values) : values.length ≤ 1 := by
  obtain rfl | ⟨-, rfl⟩ := renews
  · cases token <;> simp
  · exact Nat.le_refl 1

theorem text?_eq_some {s : Source} {t : String} : s.text? = some t ↔ s = .string (some t) := by
  cases s <;> simp [Source.text?]

theorem need_text_iff {f : Fields} {name t : String} :
    f.need name (·.text?) = some t ↔ (List.lookup name f).toList = [.string (some t)] := by
  rw [Fields.need]
  cases List.lookup name f <;> simp [text?_eq_some]

theorem get?_text_iff {f : Fields} {name : String} {token : Option String} :
    f.get? name (·.text?) = some token ↔ Renews token (List.lookup name f).toList := by
  rw [Fields.get?, Fields.getD, Renews]
  cases List.lookup name f with
  | none => cases token <;> simp
  | some s =>
    cases s with
    | string o => cases o <;> cases token <;> simp [Source.nullable?, Source.text?]
    | null => cases token <;> simp [Source.nullable?]
    | _ => cases token <;> simp [Source.nullable?, Source.text?]

/-- The tokens among the parts of a reply. -/
theorem tokens_eq_some (f : Fields) : (do
      let access ← f.need "access_token" (·.text?)
      let refresh ← f.get? "refresh_token" (·.text?)
      return (⟨access, refresh⟩ : Grant)) = some g ↔
    (List.lookup "access_token" f).toList = [.string (some g.accessToken)] ∧
      Renews g.refreshToken (List.lookup "refresh_token" f).toList := by
  obtain ⟨access, refresh⟩ := g
  simp [Option.bind_eq_some_iff, need_text_iff, get?_text_iff]

theorem ofSource?_object {members : List (Option String × Source)} (deep : depth ≠ 0) :
    ofSource? depth (.object members) = some g ↔ g.Told (.object members) := by
  have read : ofSource? depth (.object members) = some g ↔ depth ≠ 0 ∧ (∀ m ∈ members, m.1 ≠ none) ∧
      Source.under "access_token" members = [.string (some g.accessToken)] ∧
      Renews g.refreshToken (Source.under "refresh_token" members) := by
    refine Source.bind_fields?_object (fun f found => ?_) fun ⟨access, refresh⟩ => ?_
    · rw [found "access_token" (by simp), found "refresh_token" (by simp)]
      exact tokens_eq_some f
    · simpa [access] using refresh.length_le
  refine read.trans ⟨fun ⟨_, named, access, refresh⟩ => .members named access refresh, fun told => ?_⟩
  cases told with
  | members named access refresh => exact ⟨deep, named, access, refresh⟩

theorem told_array {access : Source} {rest : List Source} :
    g.Told (.array (access :: rest)) ↔ [access] = [.string (some g.accessToken)] ∧ Renews g.refreshToken rest := by
  constructor
  · rintro (_ | refresh)
    exact ⟨rfl, refresh⟩
  · rintro ⟨same, refresh⟩
    obtain rfl := List.singleton_inj.mp same
    exact .items refresh

theorem ofSource?_array {items : List Source} (deep : depth ≠ 0) :
    ofSource? depth (.array items) = some g ↔ g.Told (.array items) := by
  have fields : (Source.array items).fields? ["access_token", "refresh_token"] depth =
      if 2 < items.length then none else some (["access_token", "refresh_token"].zip items) := by
    simp [Source.fields?, deep]
  cases items with
  | nil => exact ⟨fun read => (by simp [ofSource?, fields, Fields.need] at read), fun told => (by cases told)⟩
  | cons access rest =>
    rw [told_array, ofSource?, fields]
    by_cases short : rest.length ≤ 1
    · obtain rfl | ⟨refresh, rfl⟩ : rest = [] ∨ ∃ refresh, rest = [refresh] := by
        cases rest <;> simp_all
      · exact tokens_eq_some _
      · exact tokens_eq_some _
    · have long : 2 < (access :: rest).length := Nat.succ_lt_succ (Nat.not_le.mp short)
      rw [if_pos long]
      exact ⟨fun read => (by cases read), fun told => absurd told.2.length_le short⟩

theorem ofSource?_eq_some (deep : depth ≠ 0) {s : Source} : ofSource? depth s = some g ↔ g.Told s := by
  cases s with
  | object members => exact ofSource?_object deep
  | array items => exact ofSource?_array deep
  | _ => exact ⟨fun read => (by cases read), fun told => (by cases told)⟩

/-- The tokens that a reply grants. -/
theorem ofBytes?_eq_some {bytes : List UInt8} :
    ofBytes? bytes = some g ↔ ∃ s, Source.ofBytes? bytes = some s ∧ g.Told s := by
  have deep : depthLimit ≠ 0 := by decide
  simp only [ofBytes?, Option.bind_eq_some_iff, ofSource?_eq_some deep]

example : ofBytes? (Text.Utf8.encode "\x7b\"expires_in\": 3600, \"access_token\": \"fresh\", \"refresh_token\": null\x7d".toList) =
    some { accessToken := "fresh" } := by
  decide +kernel

end Grant

theorem grant_of_reply {r : Reply} {g : Grant} :
    OAuth.grant (.ok r) = .ok g ↔ r.isSuccess = true ∧ r.body.bind Grant.ofBytes? = some g := by
  cases success : r.isSuccess with
  | false => simp [OAuth.grant, success]
  | true => cases read : r.body.bind Grant.ofBytes? <;> simp [OAuth.grant, success, read]

theorem grant_eq_ok {outcome : Except String Reply} {g : Grant} : OAuth.grant outcome = .ok g ↔
    ∃ r body s, outcome = .ok r ∧ r.isSuccess = true ∧ r.body = some body ∧ Source.ofBytes? body = some s ∧ g.Told s := by
  cases outcome with
  | error detail => simp [OAuth.grant]
  | ok r => simp [grant_of_reply, Option.bind_eq_some_iff, Grant.ofBytes?_eq_some]

/-- An errand grants tokens if it asks for them and is answered well, and then those that the answer tells. -/
theorem Errand.grant?_eq_some {e : Errand} {g : Grant} : e.grant? = some g ↔ e.isExchange = true ∧
    ∃ r body s, e.outcome = .ok r ∧ r.isSuccess = true ∧ r.body = some body ∧ Source.ofBytes? body = some s ∧ g.Told s := by
  rw [← grant_eq_ok]
  cases asks : e.isExchange with
  | false => cases outcome : e.outcome <;> simp [Errand.grant?, outcome, asks]
  | true =>
    obtain ⟨g', granted, found⟩ | ⟨f, failed, found⟩ := grant_of_outcome asks
    · simp [granted, found]
    · simp [failed, found]

end Rehearsal.Transport
