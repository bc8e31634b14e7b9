import Mathlib.Data.List.Basic
import Mathlib.Data.List.GetD
import Rehearsal.Wire.Ids

/-! Ids that are made up have the form that is asked of ids that are given. -/
namespace Rehearsal.Wire.Ids

section
variable {alphabet : List Char} (length n : Nat)

theorem spell_length : (spell alphabet length n).length = length := by
  induction length generalizing n with
  | zero => rfl
  | succ length ih => rw [spell, List.length_cons, ih]

/-- A spelling has no characters but those of its alphabet. -/
theorem mem_spell (letters : alphabet ≠ []) : ∀ c ∈ spell alphabet length n, c ∈ alphabet := by
  induction length generalizing n with
  | zero => simp [spell]
  | succ length ih =>
    intro c member
    rcases List.mem_cons.mp member with rfl | later
    · have place : n % alphabet.length < alphabet.length := Nat.mod_lt _ (List.length_pos_iff.mpr letters)
      rw [List.getD_eq_getElem _ _ place]
      exact List.getElem_mem place
    · exact ih _ c later

end

def Group (size : Nat) (text : List Char) : Prop := text.length = size ∧ ∀ c ∈ text, isHex c = true

theorem Group.last {size : Nat} {text : List Char} (group : Group size text) : isGrouped [size] text = true := by
  simp only [isGrouped, group.1, beq_self_eq_true, Bool.true_and]
  exact List.all_eq_true.mpr group.2

theorem Group.behind {size next : Nat} {sizes : List Nat} {text rest : List Char} (group : Group size text)
    (grouped : isGrouped (next :: sizes) rest = true) : isGrouped (size :: next :: sizes) (text ++ '-' :: rest) = true := by
  have front : (text ++ '-' :: rest).take size = text := List.take_left' group.1
  have back : (text ++ '-' :: rest).drop size = '-' :: rest := List.drop_left' group.1
  have digits : text.all isHex = true := List.all_eq_true.mpr group.2
  simp only [isGrouped, front, back, group.1, digits, grouped, beq_self_eq_true, Bool.true_and]

theorem hexAlphabet_isHex : hexAlphabet.all isHex = true := by decide

theorem variant_isHex : ∀ k < 4, isHex (['8', '9', 'a', 'b'].getD k '8') = true := by decide

theorem uuid_isUuid (n : Nat) : isUuid (uuid n) = true := by
  have length : (spell hexAlphabet 30 n).length = 30 := spell_length 30 n
  have digits : ∀ c ∈ spell hexAlphabet 30 n, isHex c = true := fun c member =>
    List.all_eq_true.mp hexAlphabet_isHex c (mem_spell 30 n (by decide) c member)
  have variant := variant_isHex (n / Nat.pow 16 30 % 4) (Nat.mod_lt _ (by decide))
  have stretch (first size : Nat) (fits : first + size ≤ 30) : Group size (((spell hexAlphabet 30 n).drop first).take size) :=
    ⟨by simp only [List.length_take, List.length_drop, length]; omega,
      fun c member => digits c (List.mem_of_mem_drop (List.mem_of_mem_take member))⟩
  have headed (c : Char) (hex : isHex c = true) {size : Nat} {text : List Char} (group : Group size text) :
      Group (size + 1) (c :: text) :=
    ⟨congrArg (· + 1) group.1, List.forall_mem_cons.mpr ⟨hex, group.2⟩⟩
  have tail : Group 12 ((spell hexAlphabet 30 n).drop 18) := by
    have last := stretch 18 12 (by decide)
    rwa [List.take_of_length_le (by simp only [List.length_drop, length]; decide)] at last
  have grouped : isGrouped [8, 4, 4, 4, 12] (uuid n) = true := by
    have fourth := (headed _ variant (stretch 15 3 (by decide))).behind tail.last
    have third := (headed '4' rfl (stretch 12 3 (by decide))).behind fourth
    have second := (stretch 8 4 (by decide)).behind third
    have first := (stretch 0 8 (by decide)).behind second
    simpa only [uuid, List.append_assoc, List.cons_append, List.drop_zero] using first
  simp only [isUuid, grouped, Bool.or_true, Bool.true_or]

theorem isApplicationId_application (n : Nat) : isApplicationId (application n) = true := by
  have text : (application n).toList = applicationPrefix.toList ++ uuid n := by
    rw [application, String.toList_append, String.toList_ofList]
  rw [isApplicationId, text, List.isPrefixOf?_eq_some_iff_append_eq.mpr rfl]
  exact uuid_isUuid n

theorem isUserId_user (n : Nat) : isUserId (user n) = true := by
  have text : (user n).toList = userPrefix.toList ++ spell userAlphabet userLength n := by
    rw [user, String.toList_append, String.toList_ofList]
  have filled : (spell userAlphabet userLength n).isEmpty = false := by
    rw [List.isEmpty_eq_false_iff, ← List.length_pos_iff, spell_length]
    decide
  have letters : (spell userAlphabet userLength n).all (userAlphabet.contains ·) = true := by
    refine List.all_eq_true.mpr fun c member => ?_
    exact List.contains_iff_mem.mpr (mem_spell userLength n (by decide) c member)
  rw [isUserId, text, List.isPrefixOf?_eq_some_iff_append_eq.mpr rfl]
  simp only [filled, letters, Bool.not_false, Bool.and_self]

end Rehearsal.Wire.Ids
