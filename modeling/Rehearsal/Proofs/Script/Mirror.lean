import Rehearsal.Proofs.Json.Numeral
import Rehearsal.Proofs.Traversal
import Rehearsal.Script.Tree

/-!
Values as trees. A value has a tree exactly when nothing in it is tagged and all keys of its maps are scalars. The tree is then
the value over again: lists for lists, maps for maps with their entries in order, and a text for each scalar.
-/
namespace Rehearsal.Yaml

inductive Value.Occurs : Value → Value → Prop where
  | here {v : Value} : Occurs v v
  | item {u v : Value} {items : List Value} (member : v ∈ items) (inner : Occurs u v) : Occurs u (.list items)
  | key {u : Value} {entries : List (Value × Value)} {e : Value × Value} (member : e ∈ entries) (inner : Occurs u e.1) :
    Occurs u (.map entries)
  | value {u : Value} {entries : List (Value × Value)} {e : Value × Value} (member : e ∈ entries) (inner : Occurs u e.2) :
    Occurs u (.map entries)
  | content {u v : Value} {tag : String} (inner : Occurs u v) : Occurs u (.tagged tag v)

def Value.isScalar : Value → Bool
  | .null | .bool _ | .int _ | .float _ | .text _ => true
  | .list _ | .map _ | .tagged .. => false

/-- Nothing in the value is tagged, and the keys of the maps in it are scalars. -/
structure Value.Plain (v : Value) : Prop where
  untagged : ∀ tag u, ¬ Occurs (.tagged tag u) v
  keyed : ∀ entries, Occurs (.map entries) v → ∀ e ∈ entries, e.1.isScalar = true

inductive Value.Spells : Value → String → Prop where
  | null : Spells .null ""
  | yes : Spells (.bool true) "true"
  | no : Spells (.bool false) "false"
  | int (n : Int) : Spells (.int n) (toString n)
  | float (x : Decimal.Binary64) : Spells (.float x) (.ofList (x.render floatText))
  | text (s : String) : Spells (.text s) s

theorem Value.Spells.isScalar {v : Value} {s : String} (spells : v.Spells s) : v.isScalar = true := by
  cases spells <;> rfl

theorem Value.induct {P : Value → Prop} (scalar : ∀ v, v.isScalar = true → P v)
    (list : ∀ items, (∀ v ∈ items, P v) → P (.list items)) (map : ∀ entries, (∀ e ∈ entries, P e.2) → P (.map entries))
    (tagged : ∀ tag v, P (.tagged tag v)) : ∀ v, P v
  | .null => scalar _ rfl
  | .bool _ => scalar _ rfl
  | .int _ => scalar _ rfl
  | .float _ => scalar _ rfl
  | .text _ => scalar _ rfl
  | .list items => list items fun v _ => Value.induct scalar list map tagged v
  | .map entries => map entries fun e _ => Value.induct scalar list map tagged e.2
  | .tagged tag v => tagged tag v
decreasing_by
  · rename_i member
    have smaller := List.sizeOf_lt_of_mem member
    simp only [Value.list.sizeOf_spec]
    omega
  · rename_i member
    have smaller := List.sizeOf_lt_of_mem member
    obtain ⟨k, v⟩ := e
    simp only [Value.map.sizeOf_spec, Prod.mk.sizeOf_spec] at smaller ⊢
    omega

end Rehearsal.Yaml

namespace Rehearsal.Script
open Yaml (Value)

/-- The tree is the value over again, part by part. -/
inductive Tree.Mirrors : Value → Tree → Prop where
  | scalar {v : Value} {s : String} (spells : v.Spells s) : Mirrors v (.text s)
  | list {items : List Value} {trees : List Tree} (parts : List.Forall₂ Mirrors items trees) : Mirrors (.list items) (.list trees)
  | map {entries : List (Value × Value)} {branches : List (String × Tree)}
    (keys : List.Forall₂ Value.Spells (entries.map Prod.fst) (branches.map Prod.fst))
    (values : List.Forall₂ Mirrors (entries.map Prod.snd) (branches.map Prod.snd)) : Mirrors (.map entries) (.map branches)

inductive Tree.Spoils (v : Value) : ScriptFault → Prop where
  | tagged {tag : String} {u : Value} (occurs : Value.Occurs (.tagged tag u) v) : Spoils v (.tagged (Yaml.showTag tag))
  | key {entries : List (Value × Value)} {e : Value × Value} (occurs : Value.Occurs (.map entries) v) (member : e ∈ entries)
    (compound : e.1.isScalar = false) : Spoils v (.keyNotScalar e.1.describe)

section
variable {v : Value} {s : String}

theorem scalarText?_eq_some : scalarText? v = some s ↔ v.Spells s := by
  constructor
  · intro read
    cases v with
    | bool b => cases b <;> cases read <;> constructor
    | int n =>
      cases read
      rw [Json.ofList_intText]
      exact .int n
    | list | map | tagged => cases read
    | _ =>
      cases read
      constructor
  · intro spells
    cases spells with
    | int n => exact congrArg some (Json.ofList_intText n)
    | _ => rfl

theorem scalarText?_eq_none : scalarText? v = none ↔ v.isScalar = false := by
  cases v <;> simp [scalarText?, Value.isScalar]

theorem ofValue_scalar (scalar : v.isScalar = true) : ∃ s, v.Spells s ∧ Tree.ofValue v = .ok (.text s) := by
  cases text : scalarText? v with
  | none => simp [scalarText?_eq_none.mp text] at scalar
  | some s =>
    refine ⟨s, scalarText?_eq_some.mp text, ?_⟩
    cases v <;> simp_all [Tree.ofValue, Value.isScalar]

end

def entryOf (e : Value × Value) : Except ScriptFault (String × Tree) :=
  match scalarText? e.1 with
  | none => .error (.keyNotScalar e.1.describe)
  | some key => (Tree.ofValue e.2).map fun t => (key, t)

theorem treesOf_eq_mapM (items : List Value) : treesOf items = items.mapM Tree.ofValue := by
  induction items with
  | nil => rfl
  | cons v rest ih => rw [treesOf, ih, List.mapM_cons]

theorem entriesOf_eq_mapM (entries : List (Value × Value)) : entriesOf entries = entries.mapM entryOf := by
  induction entries with
  | nil => rfl
  | cons e rest ih =>
    rw [entriesOf, ih, List.mapM_cons, entryOf]
    cases scalarText? e.1 with
    | none => rfl
    | some key => cases Tree.ofValue e.2 <;> rfl

theorem entryOf_eq_ok {e : Value × Value} {b : String × Tree} :
    entryOf e = .ok b ↔ e.1.Spells b.1 ∧ Tree.ofValue e.2 = .ok b.2 := by
  obtain ⟨key, t⟩ := b
  rw [entryOf, ← scalarText?_eq_some]
  cases scalarText? e.1 with
  | none => simp
  | some text => cases Tree.ofValue e.2 <;> simp [Except.map]

theorem entryOf_eq_error {e : Value × Value} {f : ScriptFault} :
    entryOf e = .error f ↔
      e.1.isScalar = false ∧ f = .keyNotScalar e.1.describe ∨ e.1.isScalar = true ∧ Tree.ofValue e.2 = .error f := by
  rw [entryOf]
  cases text : scalarText? e.1 with
  | none => simp [scalarText?_eq_none.mp text, eq_comm]
  | some key =>
    have scalar : e.1.isScalar = true := by
      rw [← Bool.not_eq_false, ← scalarText?_eq_none, text]
      exact Option.some_ne_none key
    cases Tree.ofValue e.2 <;> simp [Except.map, scalar]

section
variable {α β : Type} {R S : α → β → Prop} {l : List α} {m : List β}

theorem forall₂_iff (same : ∀ x ∈ l, ∀ y, R x y ↔ S x y) : List.Forall₂ R l m ↔ List.Forall₂ S l m := by
  constructor
  · intro related
    exact (List.forall₂_and_left _ _ |>.mpr ⟨same, related⟩).imp fun x y h => (h.1 y).mp h.2
  · intro related
    exact (List.forall₂_and_left _ _ |>.mpr ⟨same, related⟩).imp fun x y h => (h.1 y).mpr h.2

theorem exists_related (related : List.Forall₂ R l m) {x : α} (member : x ∈ l) : ∃ y, R x y := by
  induction related with
  | nil => cases member
  | cons first _ ih =>
    cases member with
    | head => exact ⟨_, first⟩
    | tail _ later => exact ih later

end

theorem ofValue_list {items : List Value} {t : Tree} :
    Tree.ofValue (.list items) = .ok t ↔ ∃ trees, List.Forall₂ (fun v t => Tree.ofValue v = .ok t) items trees ∧ .list trees = t := by
  rw [Tree.ofValue, treesOf_eq_mapM, map_eq_ok]
  simp only [mapM_eq_ok]

theorem ofValue_map {entries : List (Value × Value)} {t : Tree} :
    Tree.ofValue (.map entries) = .ok t ↔
      ∃ branches, List.Forall₂ (fun e b => e.1.Spells b.1 ∧ Tree.ofValue e.2 = .ok b.2) entries branches ∧ .map branches = t := by
  rw [Tree.ofValue, entriesOf_eq_mapM, map_eq_ok]
  simp only [mapM_eq_ok, entryOf_eq_ok]

/-- Entries are related where their keys are, in order, and their values too. -/
theorem forall₂_entries {R : Value → Tree → Prop} {entries : List (Value × Value)} {branches : List (String × Tree)} :
    List.Forall₂ (fun e b => e.1.Spells b.1 ∧ R e.2 b.2) entries branches ↔
      List.Forall₂ Value.Spells (entries.map Prod.fst) (branches.map Prod.fst) ∧
        List.Forall₂ R (entries.map Prod.snd) (branches.map Prod.snd) := by
  simp only [List.forall₂_map_left_iff, List.forall₂_map_right_iff]
  constructor
  · intro both
    exact ⟨both.imp fun _ _ => And.left, both.imp fun _ _ => And.right⟩
  · rintro ⟨keys, values⟩
    exact List.Forall₂.mp (fun _ _ key value => ⟨key, value⟩) keys values

theorem ofValue_eq_ok (v : Value) (t : Tree) : Tree.ofValue v = .ok t ↔ t.Mirrors v := by
  induction v using Value.induct generalizing t with
  | scalar v scalar =>
    obtain ⟨s, spells, tree⟩ := ofValue_scalar scalar
    rw [tree, Except.ok.injEq]
    constructor
    · rintro rfl
      exact .scalar spells
    · intro mirrors
      cases mirrors with
      | scalar spells' => rw [Option.some.inj ((scalarText?_eq_some.mpr spells).symm.trans (scalarText?_eq_some.mpr spells'))]
      | list | map => cases scalar
  | list items each =>
    simp only [ofValue_list, forall₂_iff each]
    constructor
    · rintro ⟨trees, parts, rfl⟩
      exact .list parts
    · intro mirrors
      cases mirrors with
      | scalar spells => cases spells
      | list parts => exact ⟨_, parts, rfl⟩
  | map entries each =>
    have parts {branches : List (String × Tree)} :
        List.Forall₂ (fun e b => e.1.Spells b.1 ∧ Tree.ofValue e.2 = .ok b.2) entries branches ↔
          List.Forall₂ (fun e b => e.1.Spells b.1 ∧ b.2.Mirrors e.2) entries branches :=
      forall₂_iff fun e member b => and_congr_right fun _ => each e member b.2
    simp only [ofValue_map, parts, forall₂_entries]
    constructor
    · rintro ⟨branches, ⟨keys, values⟩, rfl⟩
      exact .map keys values
    · intro mirrors
      cases mirrors with
      | scalar spells => cases spells
      | map keys values => exact ⟨_, ⟨keys, values⟩, rfl⟩
  | tagged tag v =>
    rw [Tree.ofValue]
    refine iff_of_false nofun fun mirrors => ?_
    cases mirrors with
    | scalar spells => cases spells

/-- What has a tree has one in each of its parts. -/
theorem Tree.Mirrors.occurs {u v : Value} {t : Tree} (occurs : u.Occurs v) (mirrors : t.Mirrors v) : ∃ t', Tree.Mirrors u t' := by
  induction occurs generalizing t with
  | here => exact ⟨t, mirrors⟩
  | item member _ ih =>
    cases mirrors with
    | scalar spells => cases spells
    | list parts =>
      obtain ⟨_, mirrors⟩ := exists_related parts member
      exact ih mirrors
  | key member _ ih =>
    cases mirrors with
    | scalar spells => cases spells
    | map keys _ =>
      obtain ⟨_, spells⟩ := exists_related keys (List.mem_map_of_mem member)
      exact ih (.scalar spells)
  | value member _ ih =>
    cases mirrors with
    | scalar spells => cases spells
    | map _ values =>
      obtain ⟨_, mirrors⟩ := exists_related values (List.mem_map_of_mem member)
      exact ih mirrors
  | content =>
    cases mirrors with
    | scalar spells => cases spells

theorem Tree.Mirrors.plain {v : Value} {t : Tree} (mirrors : t.Mirrors v) : v.Plain where
  untagged tag u occurs := by
    obtain ⟨t', tagged⟩ := mirrors.occurs occurs
    cases tagged with
    | scalar spells => cases spells
  keyed entries occurs e member := by
    obtain ⟨t', map⟩ := mirrors.occurs occurs
    cases map with
    | scalar spells => cases spells
    | map keys _ =>
      obtain ⟨s, spells⟩ := exists_related keys (List.mem_map_of_mem member)
      exact spells.isScalar

theorem Tree.Spoils.outward {u v : Value} (outward : ∀ w : Value, w.Occurs u → w.Occurs v) {f : ScriptFault} (spoils : Tree.Spoils u f) :
    Tree.Spoils v f := by
  cases spoils with
  | tagged occurs => exact .tagged (outward _ occurs)
  | key occurs member compound => exact .key (outward _ occurs) member compound

theorem ofValue_eq_error {v : Value} {f : ScriptFault} (failed : Tree.ofValue v = .error f) : Tree.Spoils v f := by
  induction v using Value.induct with
  | scalar v scalar =>
    obtain ⟨s, -, tree⟩ := ofValue_scalar scalar
    rw [tree] at failed
    cases failed
  | list items each =>
    rw [Tree.ofValue, treesOf_eq_mapM, map_eq_error, mapM_eq_error] at failed
    obtain ⟨before, v, after, rfl, -, failed⟩ := failed
    have member : v ∈ before ++ v :: after := List.mem_append_right before List.mem_cons_self
    exact (each v member failed).outward fun _ => .item member
  | map entries each =>
    rw [Tree.ofValue, entriesOf_eq_mapM, map_eq_error, mapM_eq_error] at failed
    obtain ⟨before, e, after, rfl, -, failed⟩ := failed
    have member : e ∈ before ++ e :: after := List.mem_append_right before List.mem_cons_self
    obtain ⟨compound, rfl⟩ | ⟨-, failed⟩ := entryOf_eq_error.mp failed
    · exact .key .here member compound
    · exact (each e member failed).outward fun _ => .value member
  | tagged tag v =>
    cases failed
    exact .tagged .here

theorem Tree.Spoils.not_plain {v : Value} {f : ScriptFault} (spoils : Tree.Spoils v f) : ¬ v.Plain := by
  intro plain
  cases spoils with
  | tagged occurs => exact plain.untagged _ _ occurs
  | key occurs member compound => exact Bool.false_ne_true (compound.symm.trans (plain.keyed _ occurs _ member))

theorem exists_tree_iff (v : Value) : (∃ t, Tree.ofValue v = .ok t) ↔ v.Plain := by
  constructor
  · rintro ⟨t, read⟩
    exact ((ofValue_eq_ok v t).mp read).plain
  · intro plain
    cases read : Tree.ofValue v with
    | ok t => exact ⟨t, rfl⟩
    | error f => exact absurd plain (ofValue_eq_error read).not_plain

/-- Plain values and no others have a tree, the one that mirrors them; any other is refused for a part of it, as a fault of the
script. -/
theorem plain_values_have_their_tree (v : Value) :
    ((∃ t, Tree.ofValue v = .ok t) ↔ v.Plain) ∧ (∀ t, Tree.ofValue v = .ok t ↔ t.Mirrors v) ∧
      ∀ fault, Tree.ofValue v = .error fault → Tree.Spoils v fault ∧ (Failure.script fault).code = "script_error" :=
  ⟨exists_tree_iff v, ofValue_eq_ok v, fun _ failed => ⟨ofValue_eq_error failed, rfl⟩⟩

def oddlyKeyed (second : Value) : Value := .list [.map [(.int 5, .list [.null, .bool true]), (second, .tagged "t" .null)]]

theorem key_is_blamed_before_its_value :
    Tree.Spoils (oddlyKeyed (.list [])) (.keyNotScalar "Sequence []") ∧ ¬ (oddlyKeyed (.list [])).Plain ∧
      Tree.Spoils (oddlyKeyed .null) (.tagged "!t") := by
  have key : Tree.ofValue (oddlyKeyed (.list [])) = .error (.keyNotScalar "Sequence []") := rfl
  have value : Tree.ofValue (oddlyKeyed .null) = .error (.tagged "!t") := rfl
  obtain ⟨accepted, -, blamed⟩ := plain_values_have_their_tree (oddlyKeyed (.list []))
  refine ⟨(blamed _ key).1, fun plain => ?_, ((plain_values_have_their_tree _).2.2 _ value).1⟩
  obtain ⟨t, read⟩ := accepted.mpr plain
  cases key.symm.trans read

end Rehearsal.Script
