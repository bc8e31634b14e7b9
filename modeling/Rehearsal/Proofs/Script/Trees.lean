import Mathlib.Data.List.Forall2
import Rehearsal.Proofs.Script.Lowering

/-!
Trees part by part. What a list or a map is lowered to is what its parts are lowered to, one behind the other, so a proof about
lowered trees goes by induction on the tree and says of a list what it says of one part.
-/
namespace Rehearsal.Script
open Check (Predicate)

theorem Tree.induct {P : Tree → Prop} (text : ∀ s, P (.text s)) (list : ∀ items, (∀ t ∈ items, P t) → P (.list items))
    (map : ∀ entries, (∀ e ∈ entries, P e.2) → P (.map entries)) : ∀ t, P t
  | .text s => text s
  | .list items => list items fun t _ => Tree.induct text list map t
  | .map entries => map entries fun e _ => Tree.induct text list map e.2
decreasing_by
  · rename_i member
    have smaller := List.sizeOf_lt_of_mem member
    simp only [Tree.list.sizeOf_spec]
    omega
  · rename_i member
    have smaller := List.sizeOf_lt_of_mem member
    obtain ⟨key, t⟩ := e
    simp only [Tree.map.sizeOf_spec, Prod.mk.sizeOf_spec] at smaller ⊢
    omega

/-- Somewhere in the tree a map sets the key to the text. -/
inductive Tree.Sets : Tree → String → String → Prop where
  | here {entries : List (String × Tree)} {key value : String} (member : (key, .text value) ∈ entries) :
    Sets (.map entries) key value
  | item {items : List Tree} {t : Tree} {key value : String} (member : t ∈ items) (inner : Sets t key value) :
    Sets (.list items) key value
  | value {entries : List (String × Tree)} {e : String × Tree} {key value : String} (member : e ∈ entries)
    (inner : Sets e.2 key value) : Sets (.map entries) key value

theorem Tree.sets_text {s key value : String} : ¬ (Tree.text s).Sets key value :=
  fun sets => nomatch sets

theorem Tree.sets_list {items : List Tree} {key value : String} :
    (Tree.list items).Sets key value ↔ ∃ t ∈ items, t.Sets key value := by
  constructor
  · intro sets
    cases sets with
    | item member inner => exact ⟨_, member, inner⟩
  · rintro ⟨t, member, inner⟩
    exact .item member inner

theorem Tree.sets_map {entries : List (String × Tree)} {key value : String} :
    (Tree.map entries).Sets key value ↔ (key, .text value) ∈ entries ∨ ∃ e ∈ entries, e.2.Sets key value := by
  constructor
  · intro sets
    cases sets with
    | here member => exact .inl member
    | value member inner => exact .inr ⟨_, member, inner⟩
  · rintro (member | ⟨e, member, inner⟩)
    · exact .here member
    · exact .value member inner

def gather {α : Type} (one : α → Except Failure (List Action)) : List α → Except Failure (List Action)
  | [] => .ok []
  | x :: rest => do
    let first ← one x
    return first ++ (← gather one rest)

section
variable {α β : Type} {one one' : α → Except Failure (List Action)}

theorem gather_singleton (x : α) : gather one [x] = one x := by
  rw [gather, gather]
  cases one x with
  | error => rfl
  | ok actions => exact congrArg Except.ok (List.append_nil actions)

theorem gather_append (before after : List α) :
    gather one (before ++ after) = do
      let first ← gather one before
      let later ← gather one after
      return first ++ later := by
  induction before with
  | nil =>
    change gather one after = gather one after >>= fun later => pure later
    exact (bind_pure _).symm
  | cons x rest ih => simp only [List.cons_append, gather, ih, bind_assoc, pure_bind, List.append_assoc]

theorem gather_map (f : β → α) (l : List β) : gather one (l.map f) = gather (one ∘ f) l := by
  induction l with
  | nil => rfl
  | cons x rest ih => rw [List.map_cons, gather, ih]; rfl

theorem gather_congr {l : List α} (same : ∀ x ∈ l, one x = one' x) : gather one l = gather one' l := by
  induction l with
  | nil => rfl
  | cons x rest ih =>
    obtain ⟨here, later⟩ := List.forall_mem_cons.mp same
    rw [gather, gather, here, ih later]

theorem gather_exchange {before after : List α} {x x' : α} (same : one x' = one x) :
    gather one (before ++ x' :: after) = gather one (before ++ x :: after) := by
  simp only [gather_append, gather, same]

/-- What stands for the parts one by one stands for all of them in order. -/
theorem gather_forall₂ {R : β → Action → Prop} {parts : α → List β} {l : List α} {actions : List Action}
    (each : ∀ x ∈ l, ∀ actions, one x = .ok actions → List.Forall₂ R (parts x) actions) (h : gather one l = .ok actions) :
    List.Forall₂ R (l.flatMap parts) actions := by
  induction l generalizing actions with
  | nil =>
    obtain rfl := Except.ok.inj h
    exact .nil
  | cons x rest ih =>
    obtain ⟨here, later⟩ := List.forall_mem_cons.mp each
    obtain ⟨first, lowered, h⟩ := bind_eq_ok.mp h
    obtain ⟨others, lowered', h⟩ := bind_eq_ok.mp h
    obtain rfl := pure_eq_ok.mp h
    exact List.rel_append (here first lowered) (ih later lowered')

theorem gather_ok_iff {l : List α} (same : ∀ x ∈ l, ∀ actions, one x = .ok actions ↔ one' x = .ok actions)
    (actions : List Action) : gather one l = .ok actions ↔ gather one' l = .ok actions := by
  induction l generalizing actions with
  | nil => rfl
  | cons x rest ih =>
    obtain ⟨here, later⟩ := List.forall_mem_cons.mp same
    simp only [gather, bind_eq_ok, here, ih later]

theorem gather_eq_error {l : List α} {f : Failure} (h : gather one l = .error f) : ∃ x ∈ l, one x = .error f := by
  induction l with
  | nil => cases h
  | cons x rest ih =>
    obtain here | ⟨first, -, h⟩ := bind_eq_error.mp h
    · exact ⟨x, List.mem_cons_self, here⟩
    · obtain later | ⟨others, -, h⟩ := bind_eq_error.mp h
      · obtain ⟨y, member, failed⟩ := ih later
        exact ⟨y, List.mem_cons_of_mem x member, failed⟩
      · cases h

end

section
variable (marker : Char)

def paramOf (e : String × Tree) : Except Failure (List Action) :=
  match e.2 with
  | .text value => (param marker e.1 value).map fun p => [.param p]
  | t => .error (.script (.notAScalar e.1 t.shape))

theorem paramsOf_eq_gather (entries : List (String × Tree)) : paramsOf marker entries = gather (paramOf marker) entries := by
  induction entries with
  | nil => rfl
  | cons e rest ih =>
    obtain ⟨key, t⟩ := e
    cases t with
    | text value =>
      have one : paramOf marker (key, .text value) = (param marker key value).map fun p => [.param p] := rfl
      rw [paramsOf, gather, one, ih]
      cases param marker key value <;> rfl
    | list => rfl
    | map => rfl

variable [Regex.Room]

def branchOf (e : String × Tree) : Except Failure (List Action) :=
  match e.2 with
  | .list items => do
    let p ← Predicate.ofText e.1
    let body ← Node.ofTree marker (.list items)
    return [.branch p body]
  | t => .error (.script (.notAList t.shape))

theorem actionsOfItems_eq_gather (items : List Tree) : actionsOfItems marker items = gather (actionsOf marker) items := by
  induction items with
  | nil => rfl
  | cons t rest ih => rw [actionsOfItems, gather, ih]

theorem branchesOf_eq_gather (entries : List (String × Tree)) :
    branchesOf marker entries = gather (branchOf marker) entries := by
  induction entries with
  | nil => rfl
  | cons e rest ih =>
    obtain ⟨key, t⟩ := e
    cases t with
    | list items => simp [branchesOf, gather, branchOf, Node.ofTree, ih]
    | text => rfl
    | map => rfl

theorem ofTree_list (items : List Tree) :
    Node.ofTree marker (.list items) = gather (actionsOf marker) items >>= checked := by
  rw [Node.ofTree, actionsOfItems_eq_gather]

theorem actionsOf_list (items : List Tree) :
    actionsOf marker (.list items) = (Node.ofTree marker (.list items)).map fun body => [.follow body] := by
  rw [Node.ofTree, actionsOf]
  cases actionsOfItems marker items with
  | error => rfl
  | ok actions => cases h : checked actions <;> simp [h, bind, Except.bind, Except.map, pure, Except.pure]

theorem ofTree_list_eq_ok (items : List Tree) (body : Node) :
    Node.ofTree marker (.list items) = .ok body ↔ actionsOf marker (.list items) = .ok [.follow body] := by
  rw [actionsOf_list]
  cases Node.ofTree marker (.list items) <;> simp [Except.map]

theorem actionsOf_map (entries : List (String × Tree)) :
    actionsOf marker (.map entries) =
      if entries.isEmpty then .error (.script .emptyMap)
      else if entries.all fun (_, t) => t.isList then gather (branchOf marker) entries
      else if entries.any fun (_, t) => t.isList then .error (.script (.mixedMap (entries.map (·.1))))
      else gather (paramOf marker) entries := by
  rw [actionsOf, branchesOf_eq_gather, paramsOf_eq_gather]

end

theorem checked_eq_ok {n n' : Node} (h : checked n = .ok n') : n' = n := by
  unfold checked at h
  split at h
  · exact (Except.ok.inj h).symm
  · cases h

end Rehearsal.Script
