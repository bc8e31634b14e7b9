import Mathlib.Data.List.Basic
import Rehearsal.Proofs.Text.Percent
import Rehearsal.Proofs.Transport.Errand

/-!
Forms read back. A value is spelled without the two signs that hold a form together, so that no value, whatever is in it,
can pass for the end of itself.
-/
namespace Rehearsal.Transport
open Settings (OAuth)
open Text

namespace Form

def ampersand : UInt8 := 0x26
def equals : UInt8 := 0x3D

def cut (part : List UInt8) : List UInt8 × List UInt8 :=
  (part.takeWhile (· ≠ equals), (part.dropWhile (· ≠ equals)).drop 1)

def field? (part : List UInt8) : Option (String × String) := do
  let name ← Utf8.decode? (Percent.decode (cut part).1)
  let value ← Utf8.decode? (Percent.decode (cut part).2)
  return (name, value)

def decode? (body : List UInt8) : Option (List (String × String)) :=
  (body.splitOn ampersand).mapM field?

section
variable {c : Char} {text : List Char} {b : UInt8} {name value : String}

theorem plain_of_unreserved (c : Char) (stays : isUnreserved c = true) : Percent.Plain c := by
  have other {d : Char} (reserved : isUnreserved d = false) : c ≠ d := by
    rintro rfl
    rw [reserved] at stays
    cases stays
  refine ⟨?_, other rfl, other rfl⟩
  rw [isUnreserved] at stays
  delta Char.isAlphanum Char.isAlpha Char.isUpper Char.isLower Char.isDigit at stays
  simp only [Bool.or_eq_true, Bool.and_eq_true, decide_eq_true_eq, beq_iff_eq] at stays
  have most {high : UInt32} (within : c.val ≤ high) : c.toNat ≤ high.toNat := UInt32.le_iff_toNat_le.mp within
  rcases stays with (((((⟨-, upper⟩ | ⟨-, lower⟩) | ⟨-, figure⟩) | rfl) | rfl) | rfl) | rfl
  · exact Nat.lt_of_le_of_lt (most upper) (by decide)
  · exact Nat.lt_of_le_of_lt (most lower) (by decide)
  · exact Nat.lt_of_le_of_lt (most figure) (by decide)
  all_goals decide

/-- What is written without being kept is no sign of a form either. -/
theorem not_mem_encode (sign : Char) (short : sign.toNat < 0x80) (reserved : isUnreserved sign = false) (other : '%' ≠ sign) :
    UInt8.ofNat sign.toNat ∉ Utf8.encode (Percent.encode isUnreserved text) := by
  intro written
  have digits : ∀ n < 16, isUnreserved (Percent.digit n) = true := by decide
  obtain ⟨c, origin, short', same⟩ := Percent.mem_encode plain_of_unreserved written
  have distinct : c ≠ sign := by
    rintro rfl
    obtain stays | rfl | ⟨n, small, rfl⟩ := origin
    · rw [reserved] at stays
      cases stays
    · exact other rfl
    · rw [digits n small] at reserved
      cases reserved
  exact Percent.byte_ne_of_short short' short distinct same.symm

theorem ampersand_not_mem_encode : ampersand ∉ Utf8.encode (Percent.encode isUnreserved text) :=
  not_mem_encode '&' (by decide) rfl (by decide)

theorem equals_not_mem_encode : equals ∉ Utf8.encode (Percent.encode isUnreserved text) :=
  not_mem_encode '=' (by decide) rfl (by decide)

def IsPlainName (name : String) : Prop := ∀ c ∈ name.toList, isUnreserved c = true

theorem encode_of_plain (plain : IsPlainName name) : Percent.encode isUnreserved name.toList = name.toList := by
  have each : ∀ c ∈ name.toList, Percent.encodeChar isUnreserved c = [c] := fun c inside => if_pos (plain c inside)
  rw [Percent.encode, List.flatMap_congr each, List.flatMap_singleton']

theorem utf8_encodeField (plain : IsPlainName name) :
    Utf8.encode (encodeField (name, value)) =
      Utf8.encode (Percent.encode isUnreserved name.toList) ++
        equals :: Utf8.encode (Percent.encode isUnreserved value.toList) := by
  have sign : String.utf8EncodeChar '=' = [equals] := by decide
  simp [encodeField, Utf8.encode, sign, encode_of_plain plain]

theorem cut_at_equals {before after : List UInt8} (unequal : equals ∉ before) :
    cut (before ++ equals :: after) = (before, after) := by
  have each : ∀ b ∈ before, decide (b ≠ equals) = true := fun b inside => decide_eq_true fun same => unequal (same ▸ inside)
  rw [cut, List.takeWhile_append_of_pos each, List.dropWhile_append_of_pos each, List.takeWhile_cons_of_neg (by decide),
    List.dropWhile_cons_of_neg (by decide), List.append_nil]
  rfl

theorem field?_encodeField (plain : IsPlainName name) :
    field? (Utf8.encode (encodeField (name, value))) = some (name, value) := by
  rw [field?, utf8_encodeField plain, cut_at_equals equals_not_mem_encode]
  simp only [Percent.decode_encode plain_of_unreserved, Utf8.decode?_encode, Option.bind_eq_bind, Option.bind_some,
    Option.pure_def]

theorem utf8_intercalate (parts : List (List Char)) :
    Utf8.encode (['&'].intercalate parts) = [ampersand].intercalate (parts.map Utf8.encode) := by
  have sign : String.utf8EncodeChar '&' = [ampersand] := by decide
  induction parts with
  | nil => rfl
  | cons part parts ih =>
    cases parts with
    | nil => simp [Utf8.encode]
    | cons next parts =>
      rw [List.intercalate_cons_cons, List.map_cons, List.map_cons, List.intercalate_cons_cons, ← List.map_cons, ← ih]
      simp [Utf8.encode, sign]

theorem decode?_encode {fields : List (String × String)} (some_field : fields ≠ [])
    (plain : ∀ f ∈ fields, IsPlainName f.1) : decode? (Utf8.encode (encode fields)) = some fields := by
  have whole : ∀ part ∈ (fields.map encodeField).map Utf8.encode, ampersand ∉ part := by
    simp only [List.map_map, List.mem_map]
    rintro part ⟨⟨name, value⟩, inside, rfl⟩
    simp only [Function.comp, utf8_encodeField (plain _ inside), List.mem_append, List.mem_cons, not_or]
    exact ⟨ampersand_not_mem_encode, by decide, ampersand_not_mem_encode⟩
  have parts : (Utf8.encode (encode fields)).splitOn ampersand = fields.map (Utf8.encode ∘ encodeField) := by
    rw [encode, utf8_intercalate, List.splitOn_intercalate _ whole (by simpa using some_field), List.map_map]
  rw [decode?, parts, List.mapM_map]
  clear whole parts some_field
  induction fields with
  | nil => rfl
  | cons f fields ih =>
    have first : (field? ∘ Utf8.encode ∘ encodeField) f = some f := field?_encodeField (plain f (.head _))
    rw [List.mapM_cons, first, ih fun g inside => plain g (.tail _ inside)]
    rfl

end
end Form

theorem decode?_refreshBody (o : OAuth) : Form.decode? o.refreshBody = some o.refreshFields := by
  have names : ∀ name ∈ ["grant_type", "refresh_token", "client_id", "client_secret"],
      name.toList.all Form.isUnreserved = true := by decide
  refine Form.decode?_encode (List.cons_ne_nil _ _) fun f inside => List.all_eq_true.mp (names f.1 ?_)
  exact List.mem_map_of_mem (f := Prod.fst) inside

example :
    Form.decode? (OAuth.refreshBody { clientId := "client", clientSecret := "s3cret&more", refreshToken := "1=%+ \u00FC" }) =
      some [("grant_type", "refresh_token"), ("refresh_token", "1=%+ \u00FC"), ("client_id", "client"),
        ("client_secret", "s3cret&more")] := by
  decide +kernel

theorem refreshBody_inj {o o' : OAuth} :
    o.refreshBody = o'.refreshBody ↔
      o.refreshToken = o'.refreshToken ∧ o.clientId = o'.clientId ∧ o.clientSecret = o'.clientSecret := by
  constructor
  · intro same
    have fields : some o.refreshFields = some o'.refreshFields := by
      rw [← decode?_refreshBody, ← decode?_refreshBody, same]
    simpa [OAuth.refreshFields] using fields
  · rintro ⟨token, client, secret⟩
    simp [OAuth.refreshBody, OAuth.refreshFields, token, client, secret]

/-- A refresh posts once, whatever comes of it. -/
theorem refresh_posts {σ : Type} (c : Client (StateM σ)) (o : OAuth) (trail : Trail) (s : σ) :
    ∃ outcome x s', ((o.refresh c.observed).run trail).run s = pure ((x, trail ++ [⟨o.refreshDispatch, outcome⟩]), s') := by
  obtain ⟨outcome, s', post⟩ := Session.run_eq_pure (c o.refreshDispatch) s
  cases granted : OAuth.grant outcome with
  | error f => exact ⟨outcome, (.error f, o), s', by simp [OAuth.refresh, Client.observed, post, granted]⟩
  | ok g => exact ⟨outcome, _, s', by simp [OAuth.refresh, Client.observed, post, granted]; rfl⟩

/-- Whoever takes the form that asks for a token reads the secrets in it as they were, whatever signs are in them. -/
theorem refresh_posts_secrets_unmixed (o : OAuth) {σ : Type} (c : Client (StateM σ)) (s : σ) :
    ∃ e x s', ((o.refresh c.observed).run []).run s = pure ((x, [e]), s') ∧
      e.dispatch.contentType = Form.contentType ∧
      Form.decode? e.dispatch.body = some [("grant_type", "refresh_token"), ("refresh_token", o.refreshToken),
        ("client_id", o.clientId), ("client_secret", o.clientSecret)] ∧
      ∀ o' : OAuth, o'.refreshDispatch.body = e.dispatch.body ↔
        o'.refreshToken = o.refreshToken ∧ o'.clientId = o.clientId ∧ o'.clientSecret = o.clientSecret := by
  obtain ⟨outcome, x, s', run⟩ := refresh_posts c o [] s
  exact ⟨⟨o.refreshDispatch, outcome⟩, x, s', run, rfl, decode?_refreshBody o, fun o' => refreshBody_inj⟩

end Rehearsal.Transport
