import Rehearsal.Json.Outline
import Rehearsal.Proofs.Json.Numeral
import Rehearsal.Proofs.Json.Shape
import Rehearsal.Proofs.Json.Written

/-! What values and outlines spell once they are set down, and that a value is read back from it. -/
namespace Rehearsal.Json

def Number.source (n : Number) : Source := (Numeral.ofText? n.render).elim .null .number

mutual
def Value.source : Value → Source
  | .null => .null
  | .bool b => .bool b
  | .number n => n.source
  | .string s => .string (some s)
  | .array items => .array (sourcesOfItems items)
  | .object members => .object (sourcesOfMembers members)

def sourcesOfItems : List Value → List Source
  | [] => []
  | v :: rest => v.source :: sourcesOfItems rest

def sourcesOfMembers : List (String × Value) → List (Option String × Source)
  | [] => []
  | (name, v) :: rest => (some name, v.source) :: sourcesOfMembers rest
end

theorem Number.source_int (n : Int) : source (.int n) = .number (.ofInt n) := by
  rw [source, render, Numeral.ofText?_intText]
  rfl

theorem Number.source_float {x : Decimal.Binary64} (finite : x.isFinite = true) :
    ∃ t : Numeral, t.Proper ∧ t.IsBroken ∧ t.chars = render (.float x) ∧ source (.float x) = .number t := by
  obtain ⟨t, proper, broken, text⟩ := exists_float finite
  refine ⟨t, proper, broken, text, ?_⟩
  rw [source, ← text, Numeral.ofText?_chars proper]
  rfl

theorem written_numeral {t : Numeral} (proper : t.Proper) : Written (.number t) t.chars := by
  have goes := Numeral.chars_goes proper
  have spells := Numeral.ofText?_chars proper
  obtain ⟨c, more, text, starts⟩ := Numeral.chars_starts proper
  rw [text] at goes spells ⊢
  exact .number starts (fun d member => goes d (List.mem_cons_of_mem c member)) spells

theorem Number.written : ∀ n : Number, n.isFinite = true → Written n.source n.render
  | .int n, _ => by
    rw [source_int, render, ← Numeral.chars_ofInt]
    exact written_numeral (Numeral.proper_ofInt n)
  | .float x, finite => by
    obtain ⟨t, proper, -, text, spelled⟩ := source_float finite
    rw [spelled, ← text]
    exact written_numeral proper

mutual
theorem Value.written : ∀ v : Value, v.isFinite = true → Written v.source v.chars
  | .null, _ => .null
  | .bool true, _ => .yes
  | .bool false, _ => .no
  | .number n, finite => n.written finite
  | .string s, _ => .string s
  | .array [], _ => .noItems
  | .array (v :: rest), finite => .array (writtenItems (v :: rest) (List.cons_ne_nil v rest) (Value.isFinite_array.mp finite))
  | .object [], _ => .noMembers
  | .object (e :: rest), finite =>
    .object (writtenMembers (e :: rest) (List.cons_ne_nil e rest) (Value.isFinite_object.mp finite))

theorem writtenItems : ∀ items : List Value, items ≠ [] → (∀ v ∈ items, v.isFinite = true) →
    WrittenItems (sourcesOfItems items) (charsOfItems items)
  | [], nonempty, _ => absurd rfl nonempty
  | [v], _, finite => .last (v.written (finite v List.mem_cons_self))
  | v :: w :: rest, _, finite =>
    have ⟨first, others⟩ := List.forall_mem_cons.mp finite
    .more (v.written first) (writtenItems (w :: rest) (List.cons_ne_nil w rest) others)

theorem writtenMembers : ∀ members : List (String × Value), members ≠ [] → (∀ e ∈ members, e.2.isFinite = true) →
    WrittenMembers (sourcesOfMembers members) (charsOfMembers members)
  | [], nonempty, _ => absurd rfl nonempty
  | [(name, v)], _, finite => .last name (v.written (finite _ List.mem_cons_self))
  | (name, v) :: e :: rest, _, finite =>
    have ⟨first, others⟩ := List.forall_mem_cons.mp finite
    .more name (v.written first) (writtenMembers (e :: rest) (List.cons_ne_nil e rest) others)
end

/-- The bytes of a value spell its source. -/
theorem Value.ofBytes?_chars {v : Value} (finite : v.isFinite = true) :
    Source.ofBytes? (Text.Utf8.encode v.chars) = some v.source :=
  Source.ofBytes?_of_written (v.written finite)

/-- What a text carries unchanged. -/
structure Value.Portable (depth : Nat) (v : Value) : Prop where
  whole : v.isWhole = true
  ordered : v.isOrdered = true
  nested : v.nesting ≤ depth

theorem Value.Portable.item {depth : Nat} {items : List Value} (portable : Portable depth (.array items)) :
    depth ≠ 0 ∧ ∀ v ∈ items, v.Portable (depth - 1) := by
  obtain ⟨whole, ordered, nested⟩ := portable
  obtain ⟨deep, nested⟩ := nesting_array_le.mp nested
  exact ⟨deep, fun v member => ⟨isWhole_array.mp whole v member, isOrdered_array.mp ordered v member, nested v member⟩⟩

theorem Value.Portable.member {depth : Nat} {members : Members} (portable : Portable depth (.object members)) :
    depth ≠ 0 ∧ Keyed.Rising members ∧ ∀ e ∈ members, e.2.Portable (depth - 1) := by
  obtain ⟨whole, ordered, nested⟩ := portable
  obtain ⟨deep, nested⟩ := nesting_object_le.mp nested
  obtain ⟨rising, ordered⟩ := isOrdered_object.mp ordered
  exact ⟨deep, rising, fun e member => ⟨isWhole_object.mp whole e member, ordered e member, nested e member⟩⟩

theorem Value.Portable.array {depth : Nat} {items : List Value} (deep : depth ≠ 0)
    (inside : ∀ v ∈ items, v.Portable (depth - 1)) : Portable depth (.array items) where
  whole := isWhole_array.mpr fun v member => (inside v member).whole
  ordered := isOrdered_array.mpr fun v member => (inside v member).ordered
  nested := nesting_array_le.mpr ⟨deep, fun v member => (inside v member).nested⟩

theorem Value.Portable.object {depth : Nat} {members : Members} (deep : depth ≠ 0) (rising : Keyed.Rising members)
    (inside : ∀ e ∈ members, e.2.Portable (depth - 1)) : Portable depth (.object members) where
  whole := isWhole_object.mpr fun e member => (inside e member).whole
  ordered := isOrdered_object.mpr ⟨rising, fun e member => (inside e member).ordered⟩
  nested := nesting_object_le.mpr ⟨deep, fun e member => (inside e member).nested⟩

mutual
theorem Value.value?_source {depth : Nat} : ∀ v : Value, v.Portable depth → v.source.value? depth = some v
  | .null, _ => rfl
  | .bool b, _ => rfl
  | .number (.int n), portable => by
    have fits : Text.fits 64 n = true := portable.whole
    rw [Value.source, Number.source_int, Source.value?, Numeral.value?_ofInt fits, Option.map_some]
  | .number (.float _), portable => by cases portable.whole
  | .string s, _ => rfl
  | .array items, portable => by
    obtain ⟨deep, inside⟩ := portable.item
    rw [Value.source, Source.value?, if_neg deep, valuesOf?_sources items inside, Option.map_some]
  | .object members, portable => by
    obtain ⟨deep, rising, inside⟩ := portable.member
    rw [Value.source, Source.value?, if_neg deep, membersOf?_sources members inside, Option.map_some, Members.ofList,
      Keyed.ofList_of_rising rising]

theorem valuesOf?_sources {depth : Nat} : ∀ items : List Value, (∀ v ∈ items, v.Portable depth) →
    valuesOf? depth (sourcesOfItems items) = some items
  | [], _ => rfl
  | v :: rest, portable => by
    obtain ⟨first, others⟩ := List.forall_mem_cons.mp portable
    rw [sourcesOfItems, valuesOf?, v.value?_source first, valuesOf?_sources rest others]
    rfl

theorem membersOf?_sources {depth : Nat} : ∀ members : List (String × Value), (∀ e ∈ members, e.2.Portable depth) →
    membersOf? depth (sourcesOfMembers members) = some members
  | [], _ => rfl
  | (name, v) :: rest, portable => by
    obtain ⟨first, others⟩ := List.forall_mem_cons.mp portable
    rw [sourcesOfMembers, membersOf?, v.value?_source first, membersOf?_sources rest others]
    rfl
end

namespace Outline

mutual
def source : Outline → Source
  | .leaf v => v.source
  | .list items => .array (sources items)
  | .record members => .object (memberSources members)

def sources : List Outline → List Source
  | [] => []
  | o :: rest => o.source :: sources rest

def memberSources : List (String × Outline) → List (Option String × Source)
  | [] => []
  | (name, o) :: rest => (some name, o.source) :: memberSources rest
end

mutual
def nesting : Outline → Nat
  | .leaf v => v.nesting
  | .list items => nestingOfItems items + 1
  | .record members => nestingOfMembers members + 1

def nestingOfItems : List Outline → Nat
  | [] => 0
  | o :: rest => max o.nesting (nestingOfItems rest)

def nestingOfMembers : List (String × Outline) → Nat
  | [] => 0
  | (_, o) :: rest => max o.nesting (nestingOfMembers rest)
end

theorem nesting_le_nestingOfMembers {members : List (String × Outline)} {m : String × Outline} (member : m ∈ members) :
    m.2.nesting ≤ nestingOfMembers members := by
  induction members with
  | nil => cases member
  | cons n rest ih =>
    rw [nestingOfMembers]
    obtain rfl | later := List.mem_cons.mp member
    · exact Nat.le_max_left ..
    · exact Nat.le_trans (ih later) (Nat.le_max_right ..)

/-- A member opens one less than the record that it stands in. -/
theorem nesting_lt_present {members : List (String × Option Outline)} {name : String} {o : Outline}
    (member : (name, some o) ∈ members) : o.nesting < (present members).nesting := by
  have there : (name, o) ∈ members.filterMap fun m => m.2.map (m.1, ·) := List.mem_filterMap.mpr ⟨_, member, rfl⟩
  exact Nat.lt_succ_of_le (nesting_le_nestingOfMembers there)

theorem sources_eq_map (items : List Outline) : sources items = items.map source := by
  induction items with
  | nil => rfl
  | cons o rest ih => rw [sources, ih, List.map_cons]

theorem memberSources_eq_map (members : List (String × Outline)) :
    memberSources members = members.map fun (name, o) => (some name, o.source) := by
  induction members with
  | nil => rfl
  | cons m rest ih => rw [memberSources, ih, List.map_cons]

theorem toValues_eq_map (items : List Outline) : toValues items = items.map toValue := by
  induction items with
  | nil => rfl
  | cons o rest ih => rw [toValues, ih, List.map_cons]

theorem toMembers_eq_map (members : List (String × Outline)) :
    toMembers members = members.map fun (name, o) => (name, o.toValue) := by
  induction members with
  | nil => rfl
  | cons m rest ih => rw [toMembers, ih, List.map_cons]

structure Legible (depth : Nat) (o : Outline) : Prop where
  written : Written o.source o.line
  valued : (o.source.value? depth).isSome = true
  portable : o.toValue.Portable depth

variable {depth : Nat}

theorem legible_leaf {v : Value} (portable : v.Portable depth) : Legible depth (.leaf v) where
  written := v.written (Value.isFinite_of_isWhole portable.whole)
  valued := by rw [source, v.value?_source portable, Option.isSome_some]
  portable := portable

theorem legible_text (s : String) : Legible depth (.text s) := legible_leaf ⟨rfl, rfl, Nat.zero_le depth⟩

theorem legible_bool (b : Bool) : Legible depth (.leaf (.bool b)) := legible_leaf ⟨rfl, rfl, Nat.zero_le depth⟩

theorem legible_int {n : Int} (fits : Text.fits 64 n = true) : Legible depth (.leaf (.number (.int n))) :=
  legible_leaf ⟨fits, rfl, Nat.zero_le depth⟩

theorem written_items : ∀ items : List Outline, items ≠ [] → (∀ o ∈ items, Written o.source o.line) →
    WrittenItems (sources items) (lineOfItems items)
  | [], nonempty, _ => absurd rfl nonempty
  | [_], _, written => .last (written _ List.mem_cons_self)
  | _ :: p :: rest, _, written =>
    have ⟨first, others⟩ := List.forall_mem_cons.mp written
    .more first (written_items (p :: rest) (List.cons_ne_nil p rest) others)

theorem written_members : ∀ members : List (String × Outline), members ≠ [] → (∀ m ∈ members, Written m.2.source m.2.line) →
    WrittenMembers (memberSources members) (lineOfMembers members)
  | [], nonempty, _ => absurd rfl nonempty
  | [(name, _)], _, written => .last name (written _ List.mem_cons_self)
  | (name, _) :: m :: rest, _, written =>
    have ⟨first, others⟩ := List.forall_mem_cons.mp written
    .more name first (written_members (m :: rest) (List.cons_ne_nil m rest) others)

theorem valued_items {items : List Outline} (valued : ∀ o ∈ items, (o.source.value? depth).isSome = true) :
    (valuesOf? depth (sources items)).isSome = true := by
  induction items with
  | nil => rfl
  | cons o rest ih =>
    obtain ⟨first, others⟩ := List.forall_mem_cons.mp valued
    obtain ⟨v, first⟩ := Option.isSome_iff_exists.mp first
    obtain ⟨values, others⟩ := Option.isSome_iff_exists.mp (ih others)
    rw [sources, valuesOf?, first, others]
    rfl

theorem valued_members {members : List (String × Outline)} (valued : ∀ m ∈ members, (m.2.source.value? depth).isSome = true) :
    (membersOf? depth (memberSources members)).isSome = true := by
  induction members with
  | nil => rfl
  | cons m rest ih =>
    obtain ⟨first, others⟩ := List.forall_mem_cons.mp valued
    obtain ⟨v, first⟩ := Option.isSome_iff_exists.mp first
    obtain ⟨entries, others⟩ := Option.isSome_iff_exists.mp (ih others)
    rw [memberSources, membersOf?, first, others]
    rfl

theorem legible_list {items : List Outline} (deep : depth ≠ 0) (legible : ∀ o ∈ items, Legible (depth - 1) o) :
    Legible depth (.list items) where
  written := by
    cases items with
    | nil => exact .noItems
    | cons o rest => exact .array (written_items _ (List.cons_ne_nil o rest) fun p member => (legible p member).written)
  valued := by
    rw [source, Source.value?, if_neg deep, Option.isSome_map]
    exact valued_items fun o member => (legible o member).valued
  portable := by
    rw [toValue, toValues_eq_map]
    refine .array deep fun v member => ?_
    obtain ⟨o, given, rfl⟩ := List.mem_map.mp member
    exact (legible o given).portable

theorem legible_record {members : List (String × Outline)} (deep : depth ≠ 0) (legible : ∀ m ∈ members, Legible (depth - 1) m.2) :
    Legible depth (.record members) where
  written := by
    cases members with
    | nil => exact .noMembers
    | cons m rest => exact .object (written_members _ (List.cons_ne_nil m rest) fun n member => (legible n member).written)
  valued := by
    rw [source, Source.value?, if_neg deep, Option.isSome_map]
    exact valued_members fun m member => (legible m member).valued
  portable := by
    rw [toValue, toMembers_eq_map]
    refine .object deep (Keyed.rising_ofList _) fun e member => ?_
    obtain ⟨m, given, rfl⟩ := List.mem_map.mp (Keyed.mem_of_mem_ofList member)
    exact (legible m given).portable

def LegibleParts (depth : Nat) : List (String × Option Outline) → Prop
  | [] => True
  | (_, o) :: rest => (∀ p, o = some p → Legible depth p) ∧ LegibleParts depth rest

theorem LegibleParts.part {members : List (String × Option Outline)} (parts : LegibleParts depth members) :
    ∀ m ∈ members, ∀ o, m.2 = some o → Legible depth o := by
  induction members with
  | nil => exact List.forall_mem_nil _
  | cons m rest ih =>
    obtain ⟨first, others⟩ := parts
    exact List.forall_mem_cons.mpr ⟨first, ih others⟩

theorem legible_present {members : List (String × Option Outline)} (deep : depth ≠ 0) (parts : LegibleParts (depth - 1) members) :
    Legible depth (present members) := by
  refine legible_record deep fun n member => ?_
  obtain ⟨m, given, built⟩ := List.mem_filterMap.mp member
  obtain ⟨o, there, rfl⟩ := Option.map_eq_some_iff.mp built
  exact parts.part m given o there

theorem legible_some {o : Outline} (legible : Legible depth o) : ∀ p, some o = some p → Legible depth p := by
  rintro p ⟨⟩
  exact legible

theorem legible_map {α : Type} {x : Option α} {write : α → Outline} (legible : ∀ a, x = some a → Legible depth (write a)) :
    ∀ p, x.map write = some p → Legible depth p := by
  intro p there
  obtain ⟨a, given, rfl⟩ := Option.map_eq_some_iff.mp there
  exact legible a given

theorem legible_given (s : String) : ∀ p, some (text s) = some p → Legible depth p := legible_some (legible_text s)

theorem legible_optional (s : Option String) : ∀ p, s.map text = some p → Legible depth p := legible_map fun s _ => legible_text s

/-- What is legible is read from its bytes as it was set down. -/
theorem Legible.ofBytes? {o : Outline} (legible : Legible depth o) : Source.ofBytes? (Text.Utf8.encode o.line) = some o.source :=
  Source.ofBytes?_of_written legible.written

end Outline
end Rehearsal.Json
