import Mathlib.Tactic.SplitIfs
import Rehearsal.Proofs.Traversal
import Rehearsal.Script.Action

/-!
Lists that have been lowered. At every depth a request is of a kind that scripts may send, and has what that kind
needs; slots stand beside intents alone.
-/
namespace Rehearsal.Script
open Check (Predicate)
open Wire (Kind)

/-- The lists in a node: itself, the bodies of its conditions, what follows, and the lists in those. -/
inductive Node.Within : Node → Node → Prop where
  | self (n : Node) : Within n n
  | branch {m n body : Node} {p : Predicate} (h : .branch p body ∈ n) (inner : Within m body) : Within m n
  | follow {m n body : Node} (h : .follow body ∈ n) (inner : Within m body) : Within m n

theorem Node.Within.branch_mem {m n body : Node} {p : Predicate} (inner : Within m n) (h : .branch p body ∈ m) :
    Within body n := by
  induction inner with
  | self => exact .branch h (.self body)
  | branch outer _ ih => exact .branch outer ih
  | follow outer _ ih => exact .follow outer ih

theorem Node.Within.follow_mem {m n body : Node} (inner : Within m n) (h : .follow body ∈ m) : Within body n := by
  induction inner with
  | self => exact .follow h (.self body)
  | branch outer _ ih => exact .branch outer ih
  | follow outer _ ih => exact .follow outer ih

structure Node.Sendable (n : Node) : Prop where
  kind : ∀ k, n.kind? = some k → k = .launch ∨ k = .intent ∨ k = .utterance
  intent : n.kind? = some .intent → ∃ name, .intent name ∈ n.params
  named : ∀ name, .intent name ∈ n.params → Text.isBlankText name = false
  utterance : n.kind? = some .utterance → ∃ text, .utterance text ∈ n.params
  slots : ∀ name v, .slot name v ∈ n.params → n.kind? = some .intent

def Param.Plain : Param → Prop
  | .intent name => Text.isBlankText name = false
  | .request k => k = .launch ∨ k = .intent ∨ k = .utterance
  | _ => True

mutual
inductive Action.Sound : Action → Prop where
  | check (p : Predicate) : Action.Sound (.check p)
  | param {p : Param} (plain : p.Plain) : Action.Sound (.param p)
  | branch {p : Predicate} {body : List Action} (sound : Node.Sound body) : Action.Sound (.branch p body)
  | follow {body : List Action} (sound : Node.Sound body) : Action.Sound (.follow body)

inductive Node.Sound : List Action → Prop where
  | mk {n : List Action} (valid : Node.validate n = .ok ()) (parts : ∀ a ∈ n, Action.Sound a) : Node.Sound n
end

theorem Node.Sound.within {m n : Node} (sound : Node.Sound n) (h : Node.Within m n) : Node.Sound m := by
  induction h with
  | self => exact sound
  | branch h inner ih =>
    obtain ⟨-, parts⟩ := sound
    cases parts _ h with
    | branch sound => exact ih sound
  | follow h inner ih =>
    obtain ⟨-, parts⟩ := sound
    cases parts _ h with
    | follow sound => exact ih sound

theorem mem_params {n : Node} {p : Param} : p ∈ n.params ↔ .param p ∈ n := by
  simp only [Node.params, List.mem_filterMap]
  constructor
  · rintro ⟨a, ha, hp⟩
    cases a <;> simp_all [Action.param?]
  · intro h
    exact ⟨_, h, rfl⟩

theorem Node.Sound.plain {n : Node} (sound : Node.Sound n) {p : Param} (h : p ∈ n.params) : p.Plain := by
  obtain ⟨-, parts⟩ := sound
  cases parts _ (mem_params.mp h) with
  | param plain => exact plain

/-- The kind that is asked for stands in a parameter; any other is one of three. -/
theorem Node.kind?_cases {n : Node} {k : Kind} (h : n.kind? = some k) :
    .request k ∈ n.params ∨ k = .launch ∨ k = .intent ∨ k = .utterance := by
  unfold Node.kind? at h
  split at h
  · rename_i forced
    obtain rfl := Option.some.inj h
    obtain ⟨p, hp, asked⟩ := List.mem_filterMap.mp (List.mem_of_getLast? forced)
    cases p <;> simp_all [Param.forced?]
  · split at h
    · simp_all
    · split at h
      · simp_all
      · split at h <;> simp_all

theorem mem_params_of_any {α : Type} {n : Node} {test : Param → Bool} {made : α → Param}
    (only : ∀ p, test p = true → ∃ x, p = made x) (has : n.params.any test = true) : ∃ x, made x ∈ n.params := by
  obtain ⟨p, member, passed⟩ := List.any_eq_true.mp has
  obtain ⟨x, rfl⟩ := only p passed
  exact ⟨x, member⟩

theorem any_isSlot {n : Node} {name : String} {v : SlotValue} (h : .slot name v ∈ n.params) :
    n.params.any Param.isSlot = true :=
  List.any_eq_true.mpr ⟨_, h, rfl⟩

theorem Node.Sound.sendable {n : Node} (sound : Node.Sound n) : n.Sendable where
  kind k hk := by
    rcases Node.kind?_cases hk with asked | plain
    · exact sound.plain asked
    · exact plain
  named name h := sound.plain h
  intent hk := by
    obtain ⟨valid, -⟩ := sound
    rw [Node.validate, hk] at valid
    cases has : n.params.any Param.isIntent with
    | true => exact mem_params_of_any (fun p is => by cases p <;> simp_all [Param.isIntent]) has
    | false => simp [has] at valid
  utterance hk := by
    obtain ⟨valid, -⟩ := sound
    rw [Node.validate, hk] at valid
    cases has : n.params.any Param.isUtterance with
    | true => exact mem_params_of_any (fun p is => by cases p <;> simp_all [Param.isUtterance]) has
    | false => simp [has] at valid
  slots name v h := by
    obtain ⟨valid, -⟩ := sound
    have has := any_isSlot h
    cases kind : n.kind? with
    | none => simp [Node.validate, kind, has] at valid
    | some k =>
      cases k with
      | intent => rfl
      | utterance => cases worded : n.params.any Param.isUtterance <;> simp [Node.validate, kind, worded, has] at valid
      | _ => simp [Node.validate, kind, has] at valid

theorem isBlankText_of_nonEmpty {key value name : String} (h : nonEmpty key value = .ok name) :
    Text.isBlankText name = false := by
  simp only [nonEmpty] at h
  split at h
  · cases h
  · rename_i filled
    obtain rfl := Except.ok.inj h
    cases blank : Text.isBlankText (Text.trimText value) with
    | false => rfl
    | true =>
      simp only [Text.isBlankText, Text.trimText, String.toList_ofList] at blank
      simp [Text.trimText, Text.trim_eq_nil_of_all blank] at filled

theorem askedKind?_eq_some {name : String} {k : Kind} (h : askedKind? name = some k) :
    k = .launch ∨ k = .intent ∨ k = .utterance := by
  simpa using List.mem_of_find?_eq_some h

theorem param_plain {marker : Char} {key value : String} {p : Param} (h : param marker key value = .ok p) : p.Plain := by
  simp only [param] at h
  split_ifs at h
  · obtain ⟨name, named, rfl⟩ := map_eq_ok.mp h
    exact isBlankText_of_nonEmpty named
  · obtain ⟨text, -, rfl⟩ := map_eq_ok.mp h
    trivial
  · obtain rfl := Except.ok.inj h
    trivial
  · obtain ⟨s, -, rfl⟩ := map_eq_ok.mp h
    trivial
  · split at h
    · rename_i asked
      obtain rfl := Except.ok.inj h
      exact askedKind?_eq_some asked
    · cases h
  · obtain ⟨v, -, rfl⟩ := map_eq_ok.mp h
    trivial

theorem paramsOf_sound {marker : Char} {entries : List (String × Tree)} {actions : List Action}
    (h : paramsOf marker entries = .ok actions) : ∀ a ∈ actions, Action.Sound a := by
  induction entries generalizing actions with
  | nil =>
    obtain rfl := Except.ok.inj h
    simp
  | cons entry rest ih =>
    obtain ⟨key, t⟩ := entry
    cases t with
    | text value =>
      obtain ⟨p, lowered, h⟩ := bind_eq_ok.mp h
      obtain ⟨later, lowered', h⟩ := bind_eq_ok.mp h
      obtain rfl := pure_eq_ok.mp h
      exact List.forall_mem_cons.mpr ⟨.param (param_plain lowered), ih lowered'⟩
    | map => cases h
    | list => cases h

theorem checked_sound {n n' : Node} (parts : ∀ a ∈ n, Action.Sound a) (h : checked n = .ok n') : Node.Sound n' := by
  unfold checked at h
  split at h
  · rename_i valid
    obtain rfl := Except.ok.inj h
    exact ⟨valid, parts⟩
  · cases h

variable [Regex.Room]

mutual
theorem actionsOf_sound {marker : Char} : ∀ {t : Tree} {actions : List Action},
    actionsOf marker t = .ok actions → ∀ a ∈ actions, Action.Sound a
  | .text s, actions, h => by
    obtain ⟨p, -, rfl⟩ := map_eq_ok.mp h
    simpa using Action.Sound.check p
  | .list items, actions, h => by
    obtain ⟨parts, lowered, h⟩ := bind_eq_ok.mp h
    obtain ⟨body, valid, h⟩ := bind_eq_ok.mp h
    obtain rfl := pure_eq_ok.mp h
    simpa using Action.Sound.follow (checked_sound (actionsOfItems_sound lowered) valid)
  | .map entries, actions, h => by
    simp only [actionsOf] at h
    split_ifs at h
    · exact branchesOf_sound h
    · exact paramsOf_sound h

theorem actionsOfItems_sound {marker : Char} : ∀ {items : List Tree} {actions : List Action},
    actionsOfItems marker items = .ok actions → ∀ a ∈ actions, Action.Sound a
  | [], actions, h => by
    obtain rfl := Except.ok.inj h
    simp
  | t :: rest, actions, h => by
    obtain ⟨first, lowered, h⟩ := bind_eq_ok.mp h
    obtain ⟨later, lowered', h⟩ := bind_eq_ok.mp h
    obtain rfl := pure_eq_ok.mp h
    exact List.forall_mem_append.mpr ⟨actionsOf_sound lowered, actionsOfItems_sound lowered'⟩

theorem branchesOf_sound {marker : Char} : ∀ {entries : List (String × Tree)} {actions : List Action},
    branchesOf marker entries = .ok actions → ∀ a ∈ actions, Action.Sound a
  | [], actions, h => by
    obtain rfl := Except.ok.inj h
    simp
  | (key, .list items) :: rest, actions, h => by
    obtain ⟨p, -, h⟩ := bind_eq_ok.mp h
    obtain ⟨parts, lowered, h⟩ := bind_eq_ok.mp h
    obtain ⟨body, valid, h⟩ := bind_eq_ok.mp h
    obtain ⟨later, lowered', h⟩ := bind_eq_ok.mp h
    obtain rfl := pure_eq_ok.mp h
    have sound := checked_sound (actionsOfItems_sound lowered) valid
    exact List.forall_mem_cons.mpr ⟨.branch sound, branchesOf_sound lowered'⟩
  | (key, .text s) :: rest, actions, h => by cases h
  | (key, .map entries) :: rest, actions, h => by cases h
end

theorem ofTree_sound {marker : Char} {t : Tree} {n : Node} (h : Node.ofTree marker t = .ok n) : Node.Sound n := by
  cases t with
  | list items =>
    obtain ⟨parts, lowered, valid⟩ := bind_eq_ok.mp h
    exact checked_sound (actionsOfItems_sound lowered) valid
  | text => cases h
  | map => cases h

/-- What has been lowered asks, at every depth, for nothing that it does not have. -/
theorem sendable_of_ofTree {marker : Char} {t : Tree} {m n : Node} (h : Node.ofTree marker t = .ok n)
    (inner : Node.Within m n) : m.Sendable :=
  ((ofTree_sound h).within inner).sendable

end Rehearsal.Script
