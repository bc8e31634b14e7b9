import Rehearsal.Proofs.Json.Spelling

/-!
What a text says. A value is set down as no other is, and the text of a value whose numbers are whole says that value
alone; so do all texts that say the same with the members of their objects in another order.
-/
namespace Rehearsal.Json

theorem Number.exists_source : ∀ {n : Number}, n.isFinite = true → ∃ t, n.source = .number t
  | .int n, _ => ⟨_, source_int n⟩
  | .float _, finite =>
    have ⟨t, _, _, _, spelled⟩ := source_float finite
    ⟨t, spelled⟩

/-- No number with a point or a power is set down as a whole one. -/
theorem Number.source_injective {n : Int} : ∀ {m : Number}, m.isFinite = true → source (.int n) = m.source → .int n = m
  | .int m, _, same => by
    rw [source_int, source_int] at same
    exact congrArg int (Numeral.ofInt_injective (Source.number.inj same))
  | .float x, finite, same => by
    obtain ⟨t, -, broken, -, spelled⟩ := source_float finite
    rw [source_int, spelled] at same
    obtain rfl := Source.number.inj same
    simp [Numeral.IsBroken, Numeral.ofInt] at broken

namespace Value

/-- Nothing but a number is set down as one. -/
theorem eq_number {v : Value} {n : Number} (finite : n.isFinite = true) (same : v.source = n.source) :
    ∃ m, v = .number m := by
  obtain ⟨t, spelled⟩ := Number.exists_source finite
  cases v with
  | number m => exact ⟨m, rfl⟩
  | _ => cases same.trans spelled

mutual
theorem source_injective : ∀ {v w : Value}, v.isWhole = true → w.isFinite = true → v.source = w.source → v = w
  | .number (.float _), _, whole, _, _ => by cases whole
  | .number (.int n), w, _, finite, same => by
    obtain ⟨m, rfl⟩ := eq_number (n := .int n) rfl same.symm
    exact congrArg number (Number.source_injective finite same)
  | .null, w, _, finite, same => by
    cases w with
    | null => rfl
    | number m => obtain ⟨_, ⟨⟩⟩ := eq_number finite same
    | _ => cases same
  | .bool b, w, _, finite, same => by
    cases w with
    | bool c => exact congrArg Value.bool (Source.bool.inj same)
    | number m => obtain ⟨_, ⟨⟩⟩ := eq_number finite same
    | _ => cases same
  | .string s, w, _, finite, same => by
    cases w with
    | string t => exact congrArg string (Option.some.inj (Source.string.inj same))
    | number m => obtain ⟨_, ⟨⟩⟩ := eq_number finite same
    | _ => cases same
  | .array items, w, whole, finite, same => by
    cases w with
    | array others =>
      exact congrArg array (sourcesOfItems_injective (isWhole_array.mp whole) (isFinite_array.mp finite) (Source.array.inj same))
    | number m => obtain ⟨_, ⟨⟩⟩ := eq_number finite same
    | _ => cases same
  | .object members, w, whole, finite, same => by
    cases w with
    | object others =>
      exact congrArg object
        (sourcesOfMembers_injective (isWhole_object.mp whole) (isFinite_object.mp finite) (Source.object.inj same))
    | number m => obtain ⟨_, ⟨⟩⟩ := eq_number finite same
    | _ => cases same

theorem sourcesOfItems_injective : ∀ {items others : List Value}, (∀ v ∈ items, v.isWhole = true) →
    (∀ w ∈ others, w.isFinite = true) → sourcesOfItems items = sourcesOfItems others → items = others
  | [], [], _, _, _ => rfl
  | v :: items, w :: others, whole, finite, same => by
    obtain ⟨first, whole⟩ := List.forall_mem_cons.mp whole
    obtain ⟨first', finite⟩ := List.forall_mem_cons.mp finite
    obtain ⟨here, rest⟩ := List.cons.inj same
    rw [source_injective first first' here, sourcesOfItems_injective whole finite rest]

theorem sourcesOfMembers_injective : ∀ {members others : List (String × Value)}, (∀ e ∈ members, e.2.isWhole = true) →
    (∀ e ∈ others, e.2.isFinite = true) → sourcesOfMembers members = sourcesOfMembers others → members = others
  | [], [], _, _, _ => rfl
  | (name, v) :: members, (name', w) :: others, whole, finite, same => by
    obtain ⟨first, whole⟩ := List.forall_mem_cons.mp whole
    obtain ⟨first', finite⟩ := List.forall_mem_cons.mp finite
    obtain ⟨here, rest⟩ := List.cons.inj same
    obtain ⟨named, here⟩ := Prod.mk.inj here
    have value : v = w := source_injective first first' here
    rw [Option.some.inj named, value, sourcesOfMembers_injective whole finite rest]
end

variable {v w : Value}

theorem ofText?_render_source (finite : v.isFinite = true) : Source.ofText? v.render = some v.source := by
  rw [Source.ofText?, render, String.toList_ofList]
  exact Source.ofSymbols?_of_written (v.written finite)

/-- Of two values that are set down alike, none is the other with a whole number written as a broken one. -/
theorem render_injective (whole : v.isWhole = true) (finite : w.isFinite = true) (same : v.render = w.render) : v = w := by
  refine source_injective whole finite (Option.some.inj ?_)
  rw [← ofText?_render_source (isFinite_of_isWhole whole), same, ofText?_render_source finite]

/-- What a text carries is read from it as it was. -/
theorem ofText?_render (portable : v.Portable depthLimit) : ofText? v.render = some v := by
  rw [ofText?, ofText?_render_source (isFinite_of_isWhole portable.whole), Option.bind_some, v.value?_source portable]

end Value

namespace Source

mutual
/-- Does the source say the value? The members of an object stand in any order; of those with one name the last counts. -/
def Says : Source → Value → Prop
  | .null, v => v = .null
  | .bool b, v => v = .bool b
  | .number t, v => ∃ n, t.value? = some n ∧ v = .number n
  | .string s, v => ∃ text, s = some text ∧ v = .string text
  | .array items, v => ∃ values, v = .array values ∧ SaysItems items values
  | .object members, v => ∃ entries, v = .object entries ∧
    (∀ name, (∃ w, (name, w) ∈ entries) ↔ ∃ s, (some name, s) ∈ members) ∧ ∀ e ∈ entries, SaysLast e.1 members e.2

def SaysItems : List Source → List Value → Prop
  | [], values => values = []
  | s :: rest, values => ∃ v others, values = v :: others ∧ s.Says v ∧ SaysItems rest others

def SaysLast (name : String) : List (Option String × Source) → Value → Prop
  | [], _ => False
  | (key, s) :: rest, v => SaysLast name rest v ∨ key = some name ∧ s.Says v ∧ ∀ t, (some name, t) ∉ rest
end

end Source

theorem mem_of_membersOf? {depth : Nat} {members : List (Option String × Source)} {entries : List (String × Value)}
    (read : membersOf? depth members = some entries) {name : String} :
    (∃ v, (name, v) ∈ entries) ↔ ∃ s, (some name, s) ∈ members := by
  induction members generalizing entries with
  | nil =>
    cases read
    simp
  | cons m rest ih =>
    obtain ⟨key, s⟩ := m
    simp only [membersOf?, Option.bind_eq_bind, Option.bind_eq_some_iff, Option.pure_def, Option.some.injEq] at read
    obtain ⟨key, rfl, w, -, others, more, rfl⟩ := read
    simp only [List.mem_cons, Prod.mk.injEq, exists_or, ih more]
    simp

mutual
/-- A source that can be read says what is read from it, and nothing else. -/
theorem Source.says_iff {depth : Nat} {v w : Value} (ordered : v.isOrdered = true) :
    ∀ s : Source, s.value? depth = some w → (s.Says v ↔ v = w)
  | .null, read => by
    cases read
    rfl
  | .bool b, read => by
    cases read
    rfl
  | .number t, read => by
    obtain ⟨n, value, rfl⟩ := Option.map_eq_some_iff.mp read
    simp [Says, value]
  | .string s, read => by
    obtain ⟨text, rfl, rfl⟩ := Option.map_eq_some_iff.mp read
    simp [Says]
  | .array items, read => by
    rw [value?] at read
    split at read
    · cases read
    obtain ⟨values, inner, rfl⟩ := Option.map_eq_some_iff.mp read
    rw [Says]
    constructor
    · rintro ⟨values', rfl, told⟩
      rw [(saysItems_iff (Value.isOrdered_array.mp ordered) items inner).mp told]
    · rintro rfl
      exact ⟨values, rfl, (saysItems_iff (Value.isOrdered_array.mp ordered) items inner).mpr rfl⟩
  | .object members, read => by
    rw [value?] at read
    split at read
    · cases read
    obtain ⟨entries, inner, rfl⟩ := Option.map_eq_some_iff.mp read
    rw [Says]
    constructor
    · rintro ⟨entries', rfl, names, told⟩
      obtain ⟨rising, ordered⟩ := Value.isOrdered_object.mp ordered
      have kept : ∀ e ∈ entries', e ∈ Members.ofList entries := fun e member =>
        Keyed.mem_ofList_iff.mpr ((saysLast_iff (ordered e member) members inner).mp (told e member))
      refine congrArg Value.object (Keyed.eq_of_rising rising (Keyed.rising_ofList entries) fun e => ⟨kept e, fun member => ?_⟩)
      -- a member that was read has its name in both, and there the value that was kept
      obtain ⟨s, written⟩ := (mem_of_membersOf? inner).mp ⟨e.2, Keyed.mem_of_mem_ofList member⟩
      obtain ⟨v, there⟩ := (names e.1).mpr ⟨s, written⟩
      rwa [Keyed.value_unique (Keyed.rising_ofList entries) (kept _ there) member] at there
    · rintro rfl
      obtain ⟨-, ordered⟩ := Value.isOrdered_object.mp ordered
      refine ⟨_, rfl, fun name => Keyed.key_mem_ofList_iff.trans (mem_of_membersOf? inner), fun e member => ?_⟩
      exact (saysLast_iff (ordered e member) members inner).mpr (Keyed.mem_ofList_iff.mp member)

theorem Source.saysItems_iff {depth : Nat} {values others : List Value} (ordered : ∀ v ∈ values, v.isOrdered = true) :
    ∀ items : List Source, valuesOf? depth items = some others → (SaysItems items values ↔ values = others)
  | [], read => by
    cases read
    rfl
  | s :: rest, read => by
    simp only [valuesOf?, Option.bind_eq_bind, Option.bind_eq_some_iff, Option.pure_def, Option.some.injEq] at read
    obtain ⟨w, first, more, later, rfl⟩ := read
    rw [SaysItems]
    cases values with
    | nil => simp
    | cons v values =>
      obtain ⟨here, ordered⟩ := List.forall_mem_cons.mp ordered
      simp [← s.says_iff here first, ← saysItems_iff ordered rest later]

theorem Source.saysLast_iff {depth : Nat} {name : String} {v : Value} {entries : List (String × Value)}
    (ordered : v.isOrdered = true) : ∀ members : List (Option String × Source), membersOf? depth members = some entries →
      (SaysLast name members v ↔ (entries.filter (·.1 = name)).getLast? = some (name, v))
  | [], read => by
    cases read
    simp [SaysLast]
  | (key, s) :: rest, read => by
    simp only [membersOf?, Option.bind_eq_bind, Option.bind_eq_some_iff, Option.pure_def, Option.some.injEq] at read
    obtain ⟨key, rfl, w, first, others, later, rfl⟩ := read
    have named : (∀ t, (some name, t) ∉ rest) ↔ others.filter (·.1 = name) = [] := by
      have names : (∀ v, (name, v) ∉ others) ↔ ∀ t, (some name, t) ∉ rest := by
        simpa only [not_exists] using (mem_of_membersOf? later).not
      rw [← names, List.filter_eq_nil_iff]
      simp only [decide_eq_true_eq]
      exact ⟨fun none e member same => none e.2 (same ▸ member), fun none v member => none _ member rfl⟩
    rw [SaysLast, saysLast_iff ordered rest later, s.says_iff ordered first, named]
    by_cases same : key = name
    · subst same
      rw [List.filter_cons_of_pos (by simp)]
      cases more : others.filter (·.1 = key) with
      | nil => simp [eq_comm]
      | cons e l => simp [List.getLast?_cons]
    · rw [List.filter_cons_of_neg (by simpa using same)]
      simp [same]
end

def Value.SaidBy (v : Value) (text : String) : Prop :=
  ∃ s, Source.ofText? text = some s ∧ (s.value? depthLimit).isSome = true ∧ s.Says v

theorem Value.saidBy_iff {v : Value} {text : String} (ordered : v.isOrdered = true) :
    v.SaidBy text ↔ Value.ofText? text = some v := by
  rw [SaidBy, ofText?, Option.bind_eq_some_iff]
  refine exists_congr fun s => and_congr_right fun _ => ?_
  cases read : s.value? depthLimit with
  | none => simp
  | some w => simp [s.says_iff ordered read, eq_comm]

end Rehearsal.Json
