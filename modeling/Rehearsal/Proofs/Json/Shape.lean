import Rehearsal.Json.Source
import Rehearsal.Proofs.Json.Fractions
import Rehearsal.Proofs.Keyed
import Rehearsal.Text.Integer

/-! What may be said of a value and of all that is in it; and what is true of every value that was read. -/
namespace Rehearsal.Json

namespace Value

mutual
def all (p : Value → Bool) : Value → Bool
  | .null => p .null
  | .bool b => p (.bool b)
  | .number n => p (.number n)
  | .string s => p (.string s)
  | .array items => p (.array items) && allItems p items
  | .object members => p (.object members) && allMembers p members

def allItems (p : Value → Bool) : List Value → Bool
  | [] => true
  | v :: rest => v.all p && allItems p rest

def allMembers (p : Value → Bool) : List (String × Value) → Bool
  | [] => true
  | (_, v) :: rest => v.all p && allMembers p rest
end

mutual
def nesting : Value → Nat
  | .null | .bool _ | .number _ | .string _ => 0
  | .array items => nestingOfItems items + 1
  | .object members => nestingOfMembers members + 1

def nestingOfItems : List Value → Nat
  | [] => 0
  | v :: rest => max v.nesting (nestingOfItems rest)

def nestingOfMembers : List (String × Value) → Nat
  | [] => 0
  | (_, v) :: rest => max v.nesting (nestingOfMembers rest)
end

def isWhole (v : Value) : Bool :=
  v.all fun
    | .number (.int n) => Text.fits 64 n
    | .number (.float _) => false
    | _ => true

def isFinite (v : Value) : Bool :=
  v.all fun
    | .number n => n.isFinite
    | _ => true

def isOrdered (v : Value) : Bool :=
  v.all fun
    | .object members => decide (Keyed.Rising members)
    | _ => true

section
variable {p : Value → Bool} {items : List Value} {members : Members} {depth : Nat}

theorem allItems_iff : allItems p items = true ↔ ∀ v ∈ items, v.all p = true := by
  induction items with
  | nil => simp [allItems]
  | cons v rest ih => simp [allItems, ih]

theorem allMembers_iff : allMembers p members = true ↔ ∀ e ∈ members, e.2.all p = true := by
  induction members with
  | nil => simp [allMembers]
  | cons e rest ih => simp [allMembers, ih]

theorem nestingOfItems_le : nestingOfItems items ≤ depth ↔ ∀ v ∈ items, v.nesting ≤ depth := by
  induction items with
  | nil => simp [nestingOfItems]
  | cons v rest ih => rw [nestingOfItems, Nat.max_le, ih, List.forall_mem_cons]

theorem nestingOfMembers_le : nestingOfMembers members ≤ depth ↔ ∀ e ∈ members, e.2.nesting ≤ depth := by
  induction members with
  | nil => simp [nestingOfMembers]
  | cons e rest ih => rw [nestingOfMembers, Nat.max_le, ih, List.forall_mem_cons]

theorem isWhole_array : isWhole (.array items) = true ↔ ∀ v ∈ items, v.isWhole = true := by
  simp [isWhole, all, allItems_iff]

theorem isWhole_object : isWhole (.object members) = true ↔ ∀ e ∈ members, e.2.isWhole = true := by
  simp [isWhole, all, allMembers_iff]

theorem isFinite_array : isFinite (.array items) = true ↔ ∀ v ∈ items, v.isFinite = true := by
  simp [isFinite, all, allItems_iff]

theorem isFinite_object : isFinite (.object members) = true ↔ ∀ e ∈ members, e.2.isFinite = true := by
  simp [isFinite, all, allMembers_iff]

theorem isOrdered_array : isOrdered (.array items) = true ↔ ∀ v ∈ items, v.isOrdered = true := by
  simp [isOrdered, all, allItems_iff]

theorem isOrdered_object :
    isOrdered (.object members) = true ↔ Keyed.Rising members ∧ ∀ e ∈ members, e.2.isOrdered = true := by
  simp [isOrdered, all, allMembers_iff]

theorem nesting_array_le : nesting (.array items) ≤ depth ↔ depth ≠ 0 ∧ ∀ v ∈ items, v.nesting ≤ depth - 1 := by
  rw [nesting, ← nestingOfItems_le]
  omega

theorem nesting_object_le : nesting (.object members) ≤ depth ↔ depth ≠ 0 ∧ ∀ e ∈ members, e.2.nesting ≤ depth - 1 := by
  rw [nesting, ← nestingOfMembers_le]
  omega

end

mutual
theorem all_mono {p q : Value → Bool} (weaker : ∀ v, p v = true → q v = true) : ∀ v : Value, v.all p = true → v.all q = true
  | .null, passes => weaker _ passes
  | .bool _, passes => weaker _ passes
  | .number _, passes => weaker _ passes
  | .string _, passes => weaker _ passes
  | .array items, passes => by
    simp only [all, Bool.and_eq_true] at passes ⊢
    exact ⟨weaker _ passes.1, allItems_mono weaker items passes.2⟩
  | .object members, passes => by
    simp only [all, Bool.and_eq_true] at passes ⊢
    exact ⟨weaker _ passes.1, allMembers_mono weaker members passes.2⟩

theorem allItems_mono {p q : Value → Bool} (weaker : ∀ v, p v = true → q v = true) :
    ∀ items : List Value, allItems p items = true → allItems q items = true
  | [], _ => rfl
  | v :: rest, passes => by
    simp only [allItems, Bool.and_eq_true] at passes ⊢
    exact ⟨v.all_mono weaker passes.1, allItems_mono weaker rest passes.2⟩

theorem allMembers_mono {p q : Value → Bool} (weaker : ∀ v, p v = true → q v = true) :
    ∀ members : Members, allMembers p members = true → allMembers q members = true
  | [], _ => rfl
  | (_, v) :: rest, passes => by
    simp only [allMembers, Bool.and_eq_true] at passes ⊢
    exact ⟨v.all_mono weaker passes.1, allMembers_mono weaker rest passes.2⟩
end

theorem isFinite_of_isWhole {v : Value} (whole : v.isWhole = true) : v.isFinite = true := by
  refine v.all_mono (fun w passes => ?_) whole
  cases w with
  | number n => cases n <;> simp_all [Number.isFinite]
  | _ => rfl

structure Shaped (depth : Nat) (v : Value) : Prop where
  ordered : v.isOrdered = true
  nested : v.nesting ≤ depth
  finite : v.isFinite = true

end Value

mutual
theorem Source.value?_shape {depth : Nat} {v : Value} : ∀ s : Source, s.value? depth = some v → v.Shaped depth
  | .null, read => by
    cases read
    exact ⟨rfl, Nat.zero_le depth, rfl⟩
  | .bool b, read => by
    cases read
    exact ⟨rfl, Nat.zero_le depth, rfl⟩
  | .number t, read => by
    obtain ⟨n, value, rfl⟩ := Option.map_eq_some_iff.mp read
    exact ⟨rfl, Nat.zero_le depth, Numeral.value?_finite value⟩
  | .string s, read => by
    obtain ⟨s, -, rfl⟩ := Option.map_eq_some_iff.mp read
    exact ⟨rfl, Nat.zero_le depth, rfl⟩
  | .array items, read => by
    rw [Source.value?] at read
    split at read
    · cases read
    · rename_i deep
      obtain ⟨values, inner, rfl⟩ := Option.map_eq_some_iff.mp read
      have shapes := valuesOf?_shape items inner
      exact ⟨Value.isOrdered_array.mpr fun v member => (shapes v member).ordered,
        Value.nesting_array_le.mpr ⟨deep, fun v member => (shapes v member).nested⟩,
        Value.isFinite_array.mpr fun v member => (shapes v member).finite⟩
  | .object members, read => by
    rw [Source.value?] at read
    split at read
    · cases read
    · rename_i deep
      obtain ⟨entries, inner, rfl⟩ := Option.map_eq_some_iff.mp read
      have shapes : ∀ e ∈ Members.ofList entries, e.2.Shaped (depth - 1) := fun e member =>
        membersOf?_shape members inner e (Keyed.mem_of_mem_ofList member)
      exact ⟨Value.isOrdered_object.mpr ⟨Keyed.rising_ofList entries, fun e member => (shapes e member).ordered⟩,
        Value.nesting_object_le.mpr ⟨deep, fun e member => (shapes e member).nested⟩,
        Value.isFinite_object.mpr fun e member => (shapes e member).finite⟩

theorem valuesOf?_shape {depth : Nat} {values : List Value} : ∀ items : List Source, valuesOf? depth items = some values →
    ∀ v ∈ values, v.Shaped depth
  | [], read, v, member => by
    cases read
    cases member
  | s :: rest, read, v, member => by
    simp only [valuesOf?, Option.bind_eq_bind, Option.bind_eq_some_iff, Option.pure_def] at read
    obtain ⟨w, first, later, others, built⟩ := read
    cases built
    obtain rfl | member := List.mem_cons.mp member
    · exact s.value?_shape first
    · exact valuesOf?_shape rest others v member

theorem membersOf?_shape {depth : Nat} {entries : List (String × Value)} : ∀ members : List (Option String × Source),
    membersOf? depth members = some entries → ∀ e ∈ entries, e.2.Shaped depth
  | [], read, e, member => by
    cases read
    cases member
  | (name, s) :: rest, read, e, member => by
    simp only [membersOf?, Option.bind_eq_bind, Option.bind_eq_some_iff, Option.pure_def] at read
    obtain ⟨key, -, w, first, later, others, built⟩ := read
    cases built
    obtain rfl | member := List.mem_cons.mp member
    · exact s.value?_shape first
    · exact membersOf?_shape rest others e member
end

end Rehearsal.Json
