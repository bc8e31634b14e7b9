import Mathlib.Logic.Relation
import Rehearsal.Proofs.Script.Trees

/-!
Lists entry by entry. Each entry becomes one action, in its place and of the class that its shape demands; whether entries
share a map or have one each makes no difference.
-/
namespace Rehearsal.Script
open Check (Predicate)

inductive Entry where
  | text (s : String)
  | list (items : List Tree)
  | keyed (key : String) (t : Tree)

def Tree.entries : Tree → List Entry
  | .text s => [.text s]
  | .list items => [.list items]
  | .map entries => entries.map fun (key, t) => .keyed key t

/- An action and the entry it stands for; so do the actions of its body, one by one, for the entries of the list there. -/
inductive Action.StandsFor [Regex.Room] (marker : Char) : Entry → Action → Prop where
  | check {s : String} {p : Predicate} (read : Predicate.ofText s = .ok p) : StandsFor marker (.text s) (.check p)
  | param {key value : String} {p : Param} (read : Script.param marker key value = .ok p) :
    StandsFor marker (.keyed key (.text value)) (.param p)
  | branch {key : String} {items : List Tree} {p : Predicate} {body : List Action} (read : Predicate.ofText key = .ok p)
    (parts : List.Forall₂ (StandsFor marker) (items.flatMap Tree.entries) body) :
    StandsFor marker (.keyed key (.list items)) (.branch p body)
  | follow {items : List Tree} {body : List Action}
    (parts : List.Forall₂ (StandsFor marker) (items.flatMap Tree.entries) body) : StandsFor marker (.list items) (.follow body)

/- A map that is an entry of a list, here or deeper, falls into maps of one key each. -/
inductive Tree.Splits : Tree → Tree → Prop where
  | here {before after : List Tree} {entries : List (String × Tree)} (filled : entries ≠ [])
    (alike : (∀ e ∈ entries, e.2.isList = true) ∨ ∀ e ∈ entries, e.2.isList = false) :
    Splits (.list (before ++ .map entries :: after)) (.list (before ++ entries.map (fun e => .map [e]) ++ after))
  | item {before after : List Tree} {t t' : Tree} (inner : Splits t t') :
    Splits (.list (before ++ t :: after)) (.list (before ++ t' :: after))
  | value {before after : List (String × Tree)} {key : String} {t t' : Tree} (inner : Splits t t') :
    Splits (.map (before ++ (key, t) :: after)) (.map (before ++ (key, t') :: after))

section
variable {marker : Char}

theorem Tree.Splits.shape {t t' : Tree} (splits : t.Splits t') : t'.shape = t.shape := by
  cases splits <;> rfl

theorem Tree.Splits.isList {t t' : Tree} (splits : t.Splits t') : t'.isList = t.isList := by
  cases splits <;> rfl

theorem paramOf_of_splits {key : String} {t t' : Tree} (splits : t.Splits t') :
    paramOf marker (key, t') = paramOf marker (key, t) := by
  cases splits <;> rfl

variable [Regex.Room]

theorem paramOf_standsFor {e : String × Tree} {actions : List Action} (h : paramOf marker e = .ok actions) :
    List.Forall₂ (Action.StandsFor marker) [.keyed e.1 e.2] actions := by
  obtain ⟨key, t⟩ := e
  cases t with
  | text value =>
    obtain ⟨p, read, rfl⟩ := map_eq_ok.mp h
    exact .cons (.param read) .nil
  | list => cases h
  | map => cases h

/-- What a list that is an entry of another is lowered to, read off the action it becomes there. -/
theorem parts_of_list {items : List Tree} {body : Node} (lowered : Node.ofTree marker (.list items) = .ok body)
    (entry : ∀ actions, actionsOf marker (.list items) = .ok actions →
      List.Forall₂ (Action.StandsFor marker) (Tree.list items).entries actions) :
    List.Forall₂ (Action.StandsFor marker) (items.flatMap Tree.entries) body := by
  cases entry _ ((ofTree_list_eq_ok marker items body).mp lowered) with
  | cons stands _ =>
    cases stands with
    | follow parts => exact parts

theorem branchOf_standsFor {e : String × Tree} {actions : List Action}
    (inner : ∀ actions, actionsOf marker e.2 = .ok actions → List.Forall₂ (Action.StandsFor marker) e.2.entries actions)
    (h : branchOf marker e = .ok actions) : List.Forall₂ (Action.StandsFor marker) [.keyed e.1 e.2] actions := by
  obtain ⟨key, t⟩ := e
  cases t with
  | list items =>
    obtain ⟨p, read, h⟩ := bind_eq_ok.mp h
    obtain ⟨body, lowered, h⟩ := bind_eq_ok.mp h
    obtain rfl := pure_eq_ok.mp h
    exact .cons (.branch read (parts_of_list lowered inner)) .nil
  | text => cases h
  | map => cases h

theorem ofItems_standFor {items : List Tree} {n : Node} (h : Node.ofTree marker (.list items) = .ok n)
    (each : ∀ t ∈ items, ∀ actions, actionsOf marker t = .ok actions →
      List.Forall₂ (Action.StandsFor marker) t.entries actions) :
    List.Forall₂ (Action.StandsFor marker) (items.flatMap Tree.entries) n := by
  rw [ofTree_list] at h
  obtain ⟨parts, lowered, valid⟩ := bind_eq_ok.mp h
  obtain rfl := checked_eq_ok valid
  exact gather_forall₂ each lowered

theorem actionsOf_standFor (t : Tree) :
    ∀ actions, actionsOf marker t = .ok actions → List.Forall₂ (Action.StandsFor marker) t.entries actions := by
  induction t using Tree.induct with
  | text s =>
    intro actions h
    obtain ⟨p, read, rfl⟩ := map_eq_ok.mp h
    exact .cons (.check read) .nil
  | list items each =>
    intro actions h
    rw [actionsOf_list] at h
    obtain ⟨body, lowered, rfl⟩ := map_eq_ok.mp h
    exact .cons (.follow (ofItems_standFor lowered each)) .nil
  | map entries each =>
    intro actions h
    have keyed : (Tree.map entries).entries = entries.flatMap fun e => [.keyed e.1 e.2] := List.map_eq_flatMap
    rw [actionsOf_map] at h
    rw [keyed]
    split_ifs at h
    · exact gather_forall₂ (fun e member _ => branchOf_standsFor (each e member)) h
    · exact gather_forall₂ (fun e _ _ => paramOf_standsFor) h

theorem ofTree_standFor {items : List Tree} {n : Node} (h : Node.ofTree marker (.list items) = .ok n) :
    List.Forall₂ (Action.StandsFor marker) (items.flatMap Tree.entries) n :=
  ofItems_standFor h fun t _ => actionsOf_standFor t

theorem branchOf_eq {key : String} {t : Tree} :
    branchOf marker (key, t) = if t.isList then do
        let p ← Predicate.ofText key
        let body ← Node.ofTree marker t
        return [.branch p body]
      else .error (.script (.notAList t.shape)) := by
  cases t <;> rfl

theorem actionsOf_singles {entries : List (String × Tree)} (filled : entries ≠ [])
    (alike : (∀ e ∈ entries, e.2.isList = true) ∨ ∀ e ∈ entries, e.2.isList = false) :
    gather (actionsOf marker) (entries.map fun e => .map [e]) = actionsOf marker (.map entries) := by
  have some : entries.isEmpty = false := by simpa using filled
  rw [gather_map, actionsOf_map, some]
  obtain lists | scalars := alike
  · have all : (entries.all fun (_, t) => t.isList) = true := by simpa using fun key t member => lists (key, t) member
    rw [all]
    refine gather_congr fun e member => ?_
    simp [actionsOf_map, lists e member, gather_singleton]
  · have any : (entries.any fun (_, t) => t.isList) = false := by simpa using fun key t member => scalars (key, t) member
    have all : (entries.all fun (_, t) => t.isList) = false := by
      obtain ⟨e, rest, rfl⟩ := List.exists_cons_of_ne_nil filled
      simp [scalars e List.mem_cons_self]
    rw [all, any]
    refine gather_congr fun e member => ?_
    simp [actionsOf_map, scalars e member, gather_singleton]

theorem Tree.Splits.lowered {t t' : Tree} (splits : t.Splits t') :
    Node.ofTree marker t' = Node.ofTree marker t ∧ actionsOf marker t' = actionsOf marker t := by
  have follows {items items' : List Tree} (same : gather (actionsOf marker) items' = gather (actionsOf marker) items) :
      Node.ofTree marker (.list items') = Node.ofTree marker (.list items) ∧
        actionsOf marker (.list items') = actionsOf marker (.list items) := by
    have node : Node.ofTree marker (.list items') = Node.ofTree marker (.list items) := by
      rw [ofTree_list, ofTree_list, same]
    exact ⟨node, by rw [actionsOf_list, actionsOf_list, node]⟩
  induction splits with
  | here filled alike =>
    refine follows ?_
    simp only [gather_append, gather, actionsOf_singles filled alike, bind_assoc, pure_bind, List.append_assoc]
  | item _ ih => exact follows (gather_exchange ih.2)
  | @value before after key t t' inner ih =>
    refine ⟨rfl, ?_⟩
    have branch : branchOf marker (key, t') = branchOf marker (key, t) := by
      rw [branchOf_eq, branchOf_eq, inner.isList, inner.shape, ih.1]
    have none : (before ++ (key, t') :: after).isEmpty = (before ++ (key, t) :: after).isEmpty := by
      cases before <;> rfl
    have keys : (before ++ (key, t') :: after).map (·.1) = (before ++ (key, t) :: after).map (·.1) := by
      rw [List.map_append, List.map_append, List.map_cons, List.map_cons]
    rw [actionsOf_map, actionsOf_map, gather_exchange branch, gather_exchange (paramOf_of_splits inner), none, keys]
    simp only [List.all_append, List.all_cons, List.any_append, List.any_cons, inner.isList]

theorem ofTree_regrouped {t t' : Tree} (regrouped : Relation.EqvGen Tree.Splits t t') :
    Node.ofTree marker t' = Node.ofTree marker t := by
  induction regrouped with
  | rel _ _ splits => exact splits.lowered.1
  | refl => rfl
  | symm _ _ _ ih => exact ih.symm
  | trans _ _ _ _ _ ih ih' => exact ih'.trans ih

end

theorem lowering_keeps_every_entry [Regex.Room] (marker : Char) (items : List Tree) :
    (∀ n, Node.ofTree marker (.list items) = .ok n →
      List.Forall₂ (Action.StandsFor marker) (items.flatMap Tree.entries) n) ∧
    ∀ t', Relation.EqvGen Tree.Splits (.list items) t' → Node.ofTree marker t' = Node.ofTree marker (.list items) :=
  ⟨fun _ => ofTree_standFor, fun _ => ofTree_regrouped⟩

theorem one_map_or_two :
    let both : Tree := .map [("HasCard", .list []), ("Card", .list [])]
    let items : List Tree := [.map [("intent", .text "Order"), ("size", .text "large")], .list [both]]
    let apart : Tree := .list [.map [("intent", .text "Order"), ("size", .text "large")],
      .list [.map [("HasCard", .list [])], .map [("Card", .list [])]]]
    let n : Node := [.param (.intent "Order"), .param (.slot "size" (.literal "large")),
      .follow [.branch (.assertion .hasCard) [], .branch (.present .card) []]]
    Node.ofTree '$' (.list items) = .ok n ∧ Node.ofTree '$' apart = .ok n ∧
      List.Forall₂ (Action.StandsFor '$') (items.flatMap Tree.entries) n := by
  intro both items apart n
  have lowered : Node.ofTree '$' (.list items) = .ok n := by rfl
  have inner : Tree.Splits (.list [both]) (.list [.map [("HasCard", .list [])], .map [("Card", .list [])]]) :=
    @Tree.Splits.here [] [] _ (List.cons_ne_nil _ _) (.inl (by simp [Tree.isList]))
  have parted : Tree.Splits (.list items) apart := @Tree.Splits.item [_] [] _ _ inner
  obtain ⟨entries, regroup⟩ := lowering_keeps_every_entry '$' items
  exact ⟨lowered, (regroup apart (.rel _ _ parted)).trans lowered, entries n lowered⟩

end Rehearsal.Script
