import Rehearsal.Proofs.Script.Play

/-!
The order of a list. Whoever reads a list reads the entries of one class: what is sent, checked, decided, or what follows.
A list may therefore be grouped by class, it and all the lists in it, and runs as it did.
-/
namespace Rehearsal.Script
open Check (Predicate)

def Action.rank : Action → Nat
  | .param _ => 0
  | .check _ => 1
  | .branch .. => 2
  | .follow _ => 3

@[simp] theorem rank_param (p : Param) : (Action.param p).rank = 0 := rfl
@[simp] theorem rank_check (p : Predicate) : (Action.check p).rank = 1 := rfl
@[simp] theorem rank_branch (p : Predicate) (body : Node) : (Action.branch p body).rank = 2 := rfl
@[simp] theorem rank_follow (body : Node) : (Action.follow body).rank = 3 := rfl

def Node.ofRank (r : Nat) (n : Node) : Node := n.filter (·.rank = r)

def Node.arranged (n : Node) : Node := Node.ofRank 0 n ++ Node.ofRank 1 n ++ Node.ofRank 2 n ++ Node.ofRank 3 n

mutual
/-- An action whose lists are arranged, however deep they lie. -/
def Action.grouped : Action → Action
  | .check p => .check p
  | .param p => .param p
  | .branch p body => .branch p (Node.arranged (Node.groupedParts body))
  | .follow body => .follow (Node.arranged (Node.groupedParts body))

def Node.groupedParts : List Action → List Action
  | [] => []
  | a :: rest => a.grouped :: Node.groupedParts rest
end

def Node.grouped (n : Node) : Node := Node.arranged (Node.groupedParts n)

theorem rank_le (a : Action) : a.rank ≤ 3 := by
  cases a <;> simp [Action.rank]

theorem rank_grouped (a : Action) : a.grouped.rank = a.rank := by
  cases a <;> rfl

theorem groupedParts_eq_map (n : Node) : Node.groupedParts n = n.map Action.grouped := by
  induction n with
  | nil => rfl
  | cons a rest ih => rw [Node.groupedParts, ih, List.map_cons]

section
variable (n : Node)

theorem ofRank_cons (r : Nat) (a : Action) :
    Node.ofRank r (a :: n) = if a.rank = r then a :: Node.ofRank r n else Node.ofRank r n := by
  by_cases here : a.rank = r <;> simp [Node.ofRank, here]

theorem ofRank_ofRank (r s : Nat) : Node.ofRank r (Node.ofRank s n) = if r = s then Node.ofRank r n else [] := by
  rw [Node.ofRank, Node.ofRank, List.filter_filter]
  by_cases same : r = s
  · subst same
    simp [Node.ofRank]
  · rw [if_neg same, List.filter_eq_nil_iff]
    intro a _ both
    simp only [Bool.and_eq_true, decide_eq_true_eq] at both
    exact same (both.1.symm.trans both.2)

theorem ofRank_eq_nil {r : Nat} (beyond : 3 < r) : Node.ofRank r n = [] := by
  rw [Node.ofRank, List.filter_eq_nil_iff]
  intro a _ here
  have bounded := rank_le a
  simp only [decide_eq_true_eq] at here
  omega

/-- To arrange a list moves no action past another of its class. -/
theorem ofRank_arranged (r : Nat) : Node.ofRank r (Node.arranged n) = Node.ofRank r n := by
  have split : Node.ofRank r (Node.arranged n) = Node.ofRank r (Node.ofRank 0 n) ++ Node.ofRank r (Node.ofRank 1 n) ++
      Node.ofRank r (Node.ofRank 2 n) ++ Node.ofRank r (Node.ofRank 3 n) := by
    rw [Node.arranged, Node.ofRank, List.filter_append, List.filter_append, List.filter_append]
    rfl
  rw [split, ofRank_ofRank, ofRank_ofRank, ofRank_ofRank, ofRank_ofRank]
  by_cases beyond : 3 < r
  · rw [ofRank_eq_nil n beyond]
    simp
  · have within : r = 0 ∨ r = 1 ∨ r = 2 ∨ r = 3 := by omega
    rcases within with rfl | rfl | rfl | rfl <;> simp

theorem ofRank_grouped (r : Nat) : Node.ofRank r (Node.grouped n) = (Node.ofRank r n).map Action.grouped := by
  rw [Node.grouped, ofRank_arranged, groupedParts_eq_map, Node.ofRank, Node.ofRank, List.filter_map]
  simp [Function.comp_def, rank_grouped]

/-- Who reads the actions of one class alone does not see how a list is arranged. -/
theorem reads_arranged {β : Type} {read : Node → β} {r : Nat} (reads : ∀ n, read (Node.ofRank r n) = read n) :
    read (Node.arranged n) = read n := by
  rw [← reads, ofRank_arranged, reads]

theorem rank_of_mem {r : Nat} {a : Action} (h : a ∈ Node.ofRank r n) : a.rank = r := by
  simpa using (List.mem_filter.mp h).2

theorem rising_arranged : (Node.arranged n).Pairwise (·.rank ≤ ·.rank) := by
  have level (r : Nat) : (Node.ofRank r n).Pairwise (·.rank ≤ ·.rank) := by
    rw [List.pairwise_iff_forall_sublist]
    intro a b both
    rw [rank_of_mem n (both.subset (by simp)), rank_of_mem n (both.subset (by simp))]
  simp only [Node.arranged, List.pairwise_append, List.mem_append]
  refine ⟨⟨⟨level 0, level 1, ?_⟩, level 2, ?_⟩, level 3, ?_⟩
  · intro a ha b hb
    rw [rank_of_mem n ha, rank_of_mem n hb]
    omega
  · intro a ha b hb
    rw [rank_of_mem n hb]
    rcases ha with ha | ha <;> rw [rank_of_mem n ha] <;> omega
  · intro a ha b hb
    rw [rank_of_mem n hb]
    rcases ha with (ha | ha) | ha <;> rw [rank_of_mem n ha] <;> omega

theorem mem_grouped {n : Node} {a : Action} (h : a ∈ Node.grouped n) : ∃ b ∈ n, a = b.grouped := by
  have placed : a ∈ Node.ofRank a.rank (Node.grouped n) := List.mem_filter.mpr ⟨h, by simp⟩
  rw [ofRank_grouped] at placed
  obtain ⟨b, hb, rfl⟩ := List.mem_map.mp placed
  exact ⟨b, (List.mem_filter.mp hb).1, rfl⟩

/-- Every list is arranged, however deep it lies. -/
theorem Node.Within.rising {m n : Node} (inner : Node.Within m (Node.grouped n)) : m.Pairwise (·.rank ≤ ·.rank) := by
  generalize whole : Node.grouped n = g at inner
  induction inner generalizing n with
  | self =>
    subst whole
    exact rising_arranged _
  | branch h _ ih =>
    subst whole
    obtain ⟨b, -, same⟩ := mem_grouped h
    cases b with
    | branch q body => exact ih (n := body) (Action.branch.inj same).2.symm
    | check | param | follow => cases same
  | follow h _ ih =>
    subst whole
    obtain ⟨b, -, same⟩ := mem_grouped h
    cases b with
    | follow body => exact ih (n := body) (Action.follow.inj same).symm
    | check | param | branch => cases same

end

section
variable {m : Type → Type} [Monad m]

theorem params_ofRank (n : Node) : Node.params (Node.ofRank 0 n) = Node.params n := by
  induction n with
  | nil => rfl
  | cons a rest ih =>
    simp only [Node.params] at ih ⊢
    cases a <;> simp [ofRank_cons, Action.rank, Action.param?, List.filterMap_cons, ih]

theorem checkAll_ofRank (n : Node) : (checkAll (Node.ofRank 1 n) : Play m Unit) = checkAll n := by
  induction n with
  | nil => rfl
  | cons a rest ih =>
    cases a <;> simp [ofRank_cons, Action.rank, checkAll, ih]

theorem params_groupedParts (n : Node) : Node.params (Node.groupedParts n) = Node.params n := by
  induction n with
  | nil => rfl
  | cons a rest ih =>
    simp only [Node.params] at ih
    cases a <;> simp [Node.groupedParts, Action.grouped, Node.params, Action.param?, List.filterMap_cons, ih]

theorem checkAll_groupedParts (n : Node) : (checkAll (Node.groupedParts n) : Play m Unit) = checkAll n := by
  induction n with
  | nil => rfl
  | cons a rest ih => cases a <;> simp [Node.groupedParts, Action.grouped, checkAll, ih]

variable (w : World m)

/-- What a list waits for, sends and checks is told by its parameters and its checks. -/
theorem runHead_grouped (n : Node) : runHead w (Node.grouped n) = runHead w n := by
  have params : Node.params (Node.grouped n) = Node.params n := by
    rw [Node.grouped, reads_arranged _ params_ofRank, params_groupedParts]
  have checks : (checkAll (Node.grouped n) : Play m Unit) = checkAll n := by
    rw [Node.grouped, reads_arranged _ checkAll_ofRank, checkAll_groupedParts]
  rw [runHead, runHead, params, checks, ask_of_params w params]

variable [LawfulMonad m]

theorem runBranches_ofRank (n : Node) : runBranches w (Node.ofRank 2 n) = runBranches w n := by
  induction n with
  | nil => rfl
  | cons a rest ih =>
    cases a <;> simp [ofRank_cons, Action.rank, runBranches, runBranch, ih]

theorem runFollows_ofRank (n : Node) : runFollows w (Node.ofRank 3 n) = runFollows w n := by
  induction n with
  | nil => rfl
  | cons a rest ih =>
    cases a <;> simp [ofRank_cons, Action.rank, runFollows, runFollow, ih]

theorem runNode_of_parts {n : Node} (branches : runBranches w (Node.groupedParts n) = runBranches w n)
    (follows : runFollows w (Node.groupedParts n) = runFollows w n) : runNode w (Node.grouped n) = runNode w n := by
  have decided : runBranches w (Node.grouped n) = runBranches w n := by
    rw [Node.grouped, reads_arranged _ (runBranches_ofRank w), branches]
  have followed : runFollows w (Node.grouped n) = runFollows w n := by
    rw [Node.grouped, reads_arranged _ (runFollows_ofRank w), follows]
  rw [runNode, runNode, runHead_grouped, decided, followed]

mutual
theorem runBranches_groupedParts : ∀ n : List Action, runBranches w (Node.groupedParts n) = runBranches w n
  | [] => rfl
  | a :: rest => by
    have later := runBranches_groupedParts rest
    cases a with
    | branch p body =>
      have whole := runNode_of_parts w (runBranches_groupedParts body) (runFollows_groupedParts body)
      have here : runBranch w (Action.grouped (.branch p body)) = runBranch w (.branch p body) := by
        rw [runBranch_eq, ← whole, ← runBranch_eq]
        rfl
      rw [Node.groupedParts, runBranches, runBranches, here, later]
    | check | param | follow => rw [Node.groupedParts, runBranches, runBranches, later]; rfl

theorem runFollows_groupedParts : ∀ n : List Action, runFollows w (Node.groupedParts n) = runFollows w n
  | [] => rfl
  | a :: rest => by
    have later := runFollows_groupedParts rest
    cases a with
    | follow body =>
      have whole := runNode_of_parts w (runBranches_groupedParts body) (runFollows_groupedParts body)
      have here : runFollow w (Action.grouped (.follow body)) = runFollow w (.follow body) := by
        rw [runFollow_eq, ← whole, ← runFollow_eq]
        rfl
      rw [Node.groupedParts, runFollows, runFollows, here, later]
    | check | param | branch => rw [Node.groupedParts, runFollows, runFollows, later]; rfl
end

/-- A list and what it is when grouped are one program, in whatever world. -/
theorem runNode_grouped (n : Node) : runNode w (Node.grouped n) = runNode w n :=
  runNode_of_parts w (runBranches_groupedParts w n) (runFollows_groupedParts w n)

end

theorem order_among_classes_is_free {σ : Type} (w : World (StateM σ)) (n : Node) :
    (∀ m, Node.Within m (Node.grouped n) → m.Pairwise (·.rank ≤ ·.rank)) ∧
    (∀ r, Node.ofRank r (Node.grouped n) = (Node.ofRank r n).map Action.grouped) ∧
    ∀ k, Play.outcome (runNode w.observed (Node.grouped n)) k = Play.outcome (runNode w.observed n) k := by
  refine ⟨fun m inner => inner.rising, ofRank_grouped n, fun k => ?_⟩
  rw [runNode_grouped]

end Rehearsal.Script
