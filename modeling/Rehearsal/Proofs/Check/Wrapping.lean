import Rehearsal.Check.Verdict
import Rehearsal.Proofs.Keyed
import Rehearsal.Proofs.Text.Search

/-!
Checks of session attributes. All of them look at one value, from which one slot has been taken off, and they differ only in
what they ask of it: so a slot around a value that is none itself changes no check, and the checks form an order.
-/
namespace Rehearsal.Check
open Json (Value Members)
open Wire

def Wraps (slot v : Value) : Prop :=
  ∃ m, slot = .object m ∧ (Members.get? m "name").isSome = true ∧ Members.get? m "value" = some v

def IsSlot (v : Value) : Prop := ∃ inner, Wraps v inner

def IsStructured : Value → Prop
  | .array _ | .object _ => True
  | _ => False

def withAttribute (r : Response) (key : String) (v : Value) : Response :=
  { r with attributes := some (Keyed.insert key v (r.attributes.getD [])) }

section
variable {r : Response} {key : String} {v slot : Value}

theorem attribute?_withAttribute : attribute? (withAttribute r key v) key = some (unwrapSlot v) := by
  simp [attribute?, withAttribute, Members.get?, Keyed.lookup_insert]

theorem unwrapSlot_of_wraps (wraps : Wraps slot v) : unwrapSlot slot = v := by
  obtain ⟨m, rfl, name, value⟩ := wraps
  obtain ⟨n, name⟩ := Option.isSome_iff_exists.mp name
  simp [unwrapSlot, name, value]

theorem unwrapSlot_of_not_slot (bare : ¬ IsSlot v) : unwrapSlot v = v := by
  cases v with
  | object m =>
    simp only [unwrapSlot]
    split
    · rename_i name value
      exact absurd ⟨_, m, rfl, by rw [name]; rfl, value⟩ bare
    · rfl
  | _ => rfl

/-- What is looked at is all there is to a check. -/
theorem holds_congr {r' : Response} (same : attribute? r key = attribute? r' key) (c : AttributeCheck) :
    c.holds r key = c.holds r' key ∧ requireAttribute r key c = requireAttribute r' key c := by
  have holds : c.holds r key = c.holds r' key := by rw [AttributeCheck.holds, AttributeCheck.holds, same]
  exact ⟨holds, by rw [requireAttribute, requireAttribute, holds, same]⟩

theorem wrapping_changes_no_check (bare : ¬ IsSlot v) (wraps : Wraps slot v) (c : AttributeCheck) :
    c.holds (withAttribute r key slot) key = c.holds (withAttribute r key v) key ∧
      requireAttribute (withAttribute r key slot) key c = requireAttribute (withAttribute r key v) key c := by
  refine holds_congr ?_ c
  rw [attribute?_withAttribute, attribute?_withAttribute, unwrapSlot_of_wraps wraps, unwrapSlot_of_not_slot bare]

theorem attribute?_eq_none (absent : r.attributes = none ∨ ∃ m, r.attributes = some m ∧ Members.get? m key = none) :
    attribute? r key = none := by
  obtain none_at_all | ⟨m, attributes, missing⟩ := absent
  · simp [attribute?, none_at_all]
  · simp [attribute?, attributes, missing]

theorem present_of_holds {c : AttributeCheck} (h : c.holds r key = true) : AttributeCheck.present.holds r key = true := by
  cases value : attribute? r key with
  | none => simp [AttributeCheck.holds, value] at h
  | some v => simp [AttributeCheck.holds, value]

theorem notNull_of_notBlank (h : AttributeCheck.notBlank.holds r key = true) : AttributeCheck.notNull.holds r key = true := by
  cases value : attribute? r key with
  | none => simp [AttributeCheck.holds, value] at h
  | some v =>
    simp only [AttributeCheck.holds, value, Bool.and_eq_true] at h ⊢
    exact h.1

theorem contains_empty : (AttributeCheck.contains "").holds r key = AttributeCheck.present.holds r key := by
  cases value : attribute? r key <;> simp [AttributeCheck.holds, value, Text.contains_nil]

theorem contains_of_equals (value : attribute? r key = some v) (plain : ¬ IsStructured v) {text : String}
    (h : (AttributeCheck.equals text).holds r key = true) : (AttributeCheck.contains text).holds r key = true := by
  have same : v.text = text := by
    simp only [AttributeCheck.holds, value] at h
    cases v with
    | array _ | object _ => exact absurd trivial plain
    | _ => simpa [valueEquals] using h
  simp [AttributeCheck.holds, value, same, Text.contains_self]

end

/-- The checks of an attribute agree on what they look at: a slot around it is as good as nothing, and none holds where
another one that asks for less does not. -/
theorem attribute_checks_consistent (r : Response) (key : String) :
    (∀ (c : AttributeCheck) (v slot : Value), ¬ IsSlot v → Wraps slot v →
      c.holds (withAttribute r key slot) key = c.holds (withAttribute r key v) key ∧
        requireAttribute (withAttribute r key slot) key c = requireAttribute (withAttribute r key v) key c) ∧
    (AttributeCheck.notBlank.holds r key = true → AttributeCheck.notNull.holds r key = true) ∧
    (AttributeCheck.notNull.holds r key = true → AttributeCheck.present.holds r key = true) ∧
    (∀ text, (AttributeCheck.equals text).holds r key = true → AttributeCheck.present.holds r key = true) ∧
    (∀ text, (AttributeCheck.contains text).holds r key = true → AttributeCheck.present.holds r key = true) ∧
    (∀ p, (AttributeCheck.like p).holds r key = true → AttributeCheck.present.holds r key = true) ∧
    (AttributeCheck.contains "").holds r key = AttributeCheck.present.holds r key ∧
    (∀ v text, attribute? r key = some v → ¬ IsStructured v →
      (AttributeCheck.equals text).holds r key = true → (AttributeCheck.contains text).holds r key = true) ∧
    ((r.attributes = none ∨ ∃ m, r.attributes = some m ∧ Members.get? m key = none) →
      ∀ c : AttributeCheck, c.holds r key = false) := by
  refine ⟨fun c v slot bare wraps => wrapping_changes_no_check bare wraps c, notNull_of_notBlank, present_of_holds,
    fun _ => present_of_holds, fun _ => present_of_holds, fun _ => present_of_holds, contains_empty,
    fun v text value plain => contains_of_equals value plain, fun absent c => ?_⟩
  simp [AttributeCheck.holds, attribute?_eq_none absent]

def city : Value := .object [("name", .string "city"), ("value", .string "Berlin")]

theorem city_is_checked_by_its_value :
    ∃ p, Pattern.ofSource? "B.*n" = some p ∧
      (∀ c ∈ [.present, .notNull, .notBlank, .equals "Berlin", .contains "Berlin", .like p],
        AttributeCheck.holds (withAttribute {} "slot" city) "slot" c = true ∧
          AttributeCheck.holds (withAttribute {} "slot" (.string "Berlin")) "slot" c = true) ∧
      ∀ c : AttributeCheck, c.holds {} "slot" = false := by
  obtain ⟨p, found⟩ := Option.isSome_iff_exists.mp (show (Pattern.ofSource? "B.*n").isSome = true by decide +kernel)
  have like : (Pattern.ofSource? "B.*n").any (fun p => (AttributeCheck.like p).holds (withAttribute {} "slot" city) "slot") =
      true := by decide +kernel
  rw [found, Option.any_some] at like
  have notBlank : AttributeCheck.notBlank.holds (withAttribute {} "slot" city) "slot" = true := by decide +kernel
  have equals : (AttributeCheck.equals "Berlin").holds (withAttribute {} "slot" city) "slot" = true := by decide +kernel
  have bare : ¬ IsSlot (.string "Berlin") := by
    rintro ⟨inner, m, same, -⟩
    cases same
  have wraps : Wraps city (.string "Berlin") := ⟨_, rfl, rfl, rfl⟩
  obtain ⟨-, null, -, -, -, present, -, part, -⟩ := attribute_checks_consistent (withAttribute {} "slot" city) "slot"
  obtain ⟨wrapping, -, -, -, -, -, -, -, absent⟩ := attribute_checks_consistent {} "slot"
  refine ⟨p, found, fun c listed => ?_, absent (.inl rfl)⟩
  have wrapped : c.holds (withAttribute {} "slot" city) "slot" = true := by
    simp only [List.mem_cons, List.not_mem_nil, or_false] at listed
    obtain rfl | rfl | rfl | rfl | rfl | rfl := listed
    · exact present p like
    · exact null notBlank
    · exact notBlank
    · exact equals
    · exact part (.string "Berlin") "Berlin" rfl id equals
    · exact like
  exact ⟨wrapped, (wrapping c _ _ bare wraps).1 ▸ wrapped⟩

end Rehearsal.Check
