import Rehearsal.Proofs.Script.Trees

/-!
The marker before the names of assets. It is looked for in front of slot values and nowhere else, so a script in which another
character takes its place there means the same to whoever reads it with that character.
-/
namespace Rehearsal.Script
open Check (Asset)

def reservedKeys : List String := ["intent", "utterance", "launch", "delay", "request"]

def exchange (marker marker' : Char) (value : String) : String :=
  match value.toList with
  | c :: name => if c = marker then .ofList (marker' :: name) else value
  | [] => value

mutual
/-- The tree with the marker exchanged in front of its slot values. -/
def Tree.respelled (marker marker' : Char) : Tree → Tree
  | .text s => .text s
  | .list items => .list (respelledItems marker marker' items)
  | .map entries => .map (respelledEntries marker marker' entries)

def respelledItems (marker marker' : Char) : List Tree → List Tree
  | [] => []
  | t :: rest => t.respelled marker marker' :: respelledItems marker marker' rest

def respelledEntries (marker marker' : Char) : List (String × Tree) → List (String × Tree)
  | [] => []
  | (key, .text value) :: rest =>
    (key, .text (if key ∈ reservedKeys then value else exchange marker marker' value)) :: respelledEntries marker marker' rest
  | (key, t) :: rest => (key, t.respelled marker marker') :: respelledEntries marker marker' rest
end

def Tree.Free (t : Tree) (marker : Char) : Prop :=
  ∀ key value, t.Sets key value → key ∉ reservedKeys → value.toList.head? ≠ some marker

section
variable {marker marker' : Char}

def respelledEntry (marker marker' : Char) (e : String × Tree) : String × Tree :=
  (e.1, match e.2 with
    | .text value => .text (if e.1 ∈ reservedKeys then value else exchange marker marker' value)
    | t => t.respelled marker marker')

theorem respelledItems_eq_map (items : List Tree) :
    respelledItems marker marker' items = items.map (Tree.respelled marker marker') := by
  induction items with
  | nil => rfl
  | cons t rest ih => rw [respelledItems, ih, List.map_cons]

theorem respelledEntries_eq_map (entries : List (String × Tree)) :
    respelledEntries marker marker' entries = entries.map (respelledEntry marker marker') := by
  induction entries with
  | nil => rfl
  | cons e rest ih =>
    obtain ⟨key, t⟩ := e
    cases t <;> simp only [respelledEntries, ih, List.map_cons, respelledEntry]

theorem respelledEntry_isList (e : String × Tree) : (respelledEntry marker marker' e).2.isList = e.2.isList := by
  obtain ⟨key, t⟩ := e
  cases t <;> rfl

theorem exchange_of_marked {value : String} {name : List Char} (marked : value.toList = marker :: name) :
    exchange marker marker' value = .ofList (marker' :: name) := by
  unfold exchange
  rw [marked]
  exact if_pos rfl

theorem exchange_of_unmarked {value : String} (free : value.toList.head? ≠ some marker) :
    exchange marker marker' value = value := by
  unfold exchange
  cases shape : value.toList with
  | nil => rfl
  | cons c name => exact if_neg fun marked => free (by rw [shape, marked]; rfl)

theorem slotValue_of_marked {value : String} {name : List Char} (marked : value.toList = marker :: name) :
    slotValue marker value = match Asset.ofName? (.ofList name) with
      | some a => .ok (.reference a)
      | none => .error (.script (.unknownReference value)) := by
  unfold slotValue
  rw [marked]
  exact if_pos rfl

theorem slotValue_of_unmarked {value : String} (free : value.toList.head? ≠ some marker) :
    slotValue marker value = .ok (.literal value) := by
  unfold slotValue
  cases shape : value.toList with
  | nil => rfl
  | cons c name => exact if_neg fun marked => free (by rw [shape, marked]; rfl)

/-- Where the value has the old marker it gets the new one; where it has neither it is a text for both. -/
theorem slotValue_exchange {value : String} (free : value.toList.head? ≠ some marker') (v : SlotValue) :
    slotValue marker' (exchange marker marker' value) = .ok v ↔ slotValue marker value = .ok v := by
  by_cases marked : value.toList.head? = some marker
  · obtain ⟨name, shape⟩ := List.head?_eq_some_iff.mp marked
    rw [exchange_of_marked shape, slotValue_of_marked shape, slotValue_of_marked String.toList_ofList]
    -- The two differ in the text that they blame.
    cases Asset.ofName? (.ofList name) with
    | some a => rfl
    | none => exact ⟨nofun, nofun⟩
  · rw [exchange_of_unmarked marked, slotValue_of_unmarked free, slotValue_of_unmarked marked]

theorem param_of_reserved {key : String} (reserved : key ∈ reservedKeys) (value : String) :
    param marker' key value = param marker key value := by
  simp only [reservedKeys, List.mem_cons, List.not_mem_nil, or_false] at reserved
  obtain rfl | rfl | rfl | rfl | rfl := reserved <;> rfl

theorem param_of_free {key : String} (other : key ∉ reservedKeys) (value : String) :
    param marker key value =
      let name := (slotPrefix.isPrefixOf? key.toList).getD key.toList
      if name.isEmpty then .error (.script (.missingSlotName key))
      else (slotValue marker value).map (.slot (.ofList name)) := by
  simp only [reservedKeys, List.mem_cons, List.not_mem_nil, or_false, not_or] at other
  obtain ⟨intent, utterance, launch, delay, request⟩ := other
  rw [param, if_neg intent, if_neg utterance, if_neg launch, if_neg delay, if_neg request]

theorem param_exchange {key value : String} (free : key ∉ reservedKeys → value.toList.head? ≠ some marker') (p : Param) :
    param marker' key (if key ∈ reservedKeys then value else exchange marker marker' value) = .ok p ↔
      param marker key value = .ok p := by
  by_cases reserved : key ∈ reservedKeys
  · rw [if_pos reserved, param_of_reserved reserved]
  · rw [if_neg reserved, param_of_free reserved, param_of_free reserved]
    dsimp only
    split_ifs with unnamed
    · simp
    · simp only [map_eq_ok, slotValue_exchange (free reserved)]

theorem paramOf_respelled {e : String × Tree}
    (free : ∀ value, e.2 = .text value → e.1 ∉ reservedKeys → value.toList.head? ≠ some marker') (actions : List Action) :
    paramOf marker' (respelledEntry marker marker' e) = .ok actions ↔ paramOf marker e = .ok actions := by
  obtain ⟨key, t⟩ := e
  cases t with
  | text value => simp only [paramOf, respelledEntry, map_eq_ok, param_exchange (free value rfl)]
  | list => simp [paramOf, respelledEntry, Tree.respelled]
  | map => simp [paramOf, respelledEntry, Tree.respelled]

variable [Regex.Room]

theorem branchOf_respelled {e : String × Tree}
    (inner : ∀ actions, actionsOf marker' (e.2.respelled marker marker') = .ok actions ↔ actionsOf marker e.2 = .ok actions)
    (actions : List Action) :
    branchOf marker' (respelledEntry marker marker' e) = .ok actions ↔ branchOf marker e = .ok actions := by
  obtain ⟨key, t⟩ := e
  cases t with
  | list items =>
    have body (n : Node) : Node.ofTree marker' (.list (respelledItems marker marker' items)) = .ok n ↔
        Node.ofTree marker (.list items) = .ok n := by
      rw [ofTree_list_eq_ok, ofTree_list_eq_ok]
      exact inner _
    simp only [branchOf, respelledEntry, Tree.respelled, bind_eq_ok, body]
  | text => simp [branchOf, respelledEntry]
  | map => simp [branchOf, respelledEntry, Tree.respelled]

theorem ofItems_respelled {items : List Tree} (each : ∀ t ∈ items, ∀ actions,
      actionsOf marker' (t.respelled marker marker') = .ok actions ↔ actionsOf marker t = .ok actions) (n : Node) :
    Node.ofTree marker' (.list (respelledItems marker marker' items)) = .ok n ↔ Node.ofTree marker (.list items) = .ok n := by
  have parts (actions : List Action) :
      gather (actionsOf marker') (respelledItems marker marker' items) = .ok actions ↔
        gather (actionsOf marker) items = .ok actions := by
    rw [respelledItems_eq_map, gather_map]
    exact gather_ok_iff each actions
  simp only [ofTree_list, bind_eq_ok, parts]

theorem actionsOf_respelled {t : Tree} (free : t.Free marker') (actions : List Action) :
    actionsOf marker' (t.respelled marker marker') = .ok actions ↔ actionsOf marker t = .ok actions := by
  induction t using Tree.induct generalizing actions with
  | text s => rfl
  | list items each =>
    have bodies := ofItems_respelled fun t member =>
      each t member fun key value sets => free key value (.item member sets)
    simp only [Tree.respelled, actionsOf_list, map_eq_ok, bodies]
  | map entries each =>
    have branches (actions : List Action) :
        gather (branchOf marker') (entries.map (respelledEntry marker marker')) = .ok actions ↔
          gather (branchOf marker) entries = .ok actions := by
      rw [gather_map]
      exact gather_ok_iff (fun e member => branchOf_respelled (each e member fun key value sets =>
        free key value (.value member sets))) actions
    have params (actions : List Action) :
        gather (paramOf marker') (entries.map (respelledEntry marker marker')) = .ok actions ↔
          gather (paramOf marker) entries = .ok actions := by
      rw [gather_map]
      refine gather_ok_iff (fun e member => paramOf_respelled fun value text => ?_) actions
      exact free e.1 value (.here (by rw [← text]; exact member))
    rw [Tree.respelled, respelledEntries_eq_map, actionsOf_map, actionsOf_map, List.isEmpty_map]
    simp only [List.all_map, List.any_map, Function.comp_def, respelledEntry_isList]
    split_ifs with empty lists mixed
    · rfl
    · exact branches actions
    · simp
    · exact params actions

theorem ofTree_respelled {t : Tree} (free : t.Free marker') (n : Node) :
    Node.ofTree marker' (t.respelled marker marker') = .ok n ↔ Node.ofTree marker t = .ok n := by
  cases t with
  | list items =>
    exact ofItems_respelled (fun t member => actionsOf_respelled fun key value sets => free key value (.item member sets)) n
  | text => exact ⟨nofun, nofun⟩
  | map => exact ⟨nofun, nofun⟩

end

/-- Each tree with its own marker, both are refused or both give one node. -/
theorem marker_is_only_a_spelling [Regex.Room] (marker marker' : Char) (t : Tree) (free : t.Free marker') :
    (∃ n, Node.ofTree marker t = .ok n ∧ Node.ofTree marker' (t.respelled marker marker') = .ok n) ∨
      (∃ f, Node.ofTree marker t = .error f) ∧ ∃ f, Node.ofTree marker' (t.respelled marker marker') = .error f := by
  cases lowered : Node.ofTree marker t with
  | ok n => exact .inl ⟨n, rfl, (ofTree_respelled free n).mpr lowered⟩
  | error f =>
    refine .inr ⟨⟨f, rfl⟩, ?_⟩
    cases lowered' : Node.ofTree marker' (t.respelled marker marker') with
    | error f' => exact ⟨f', rfl⟩
    | ok n => cases ((ofTree_respelled free n).mp lowered').symm.trans lowered

theorem hash_reads_as_dollar :
    let dollars : Tree := .list [.map [("intent", .text "#1"), ("size", .text "$SimpleCard.Title"), ("slot.launch", .text "5$")],
      .map [("HasCard", .list [.map [("intent", .text "$"), ("title", .text "$StandardCard.Title")]])]]
    let hashes : Tree := .list [.map [("intent", .text "#1"), ("size", .text "#SimpleCard.Title"), ("slot.launch", .text "5$")],
      .map [("HasCard", .list [.map [("intent", .text "$"), ("title", .text "#StandardCard.Title")]])]]
    let n : Node := [.param (.intent "#1"), .param (.slot "size" (.reference .simpleCardTitle)),
      .param (.slot "launch" (.literal "5$")),
      .branch (.assertion .hasCard) [.param (.intent "$"), .param (.slot "title" (.reference .standardCardTitle))]]
    dollars.Free '#' ∧ dollars.respelled '$' '#' = hashes ∧
      Node.ofTree '$' dollars = .ok n ∧ Node.ofTree '#' hashes = .ok n := by
  intro dollars hashes n
  have lowered : Node.ofTree '$' dollars = .ok n := by rfl
  have respelled : dollars.respelled '$' '#' = hashes := by rfl
  have free : dollars.Free '#' := by
    intro key value sets slot
    have settings : key = "intent" ∨ value = "$SimpleCard.Title" ∨ value = "5$" ∨ value = "$StandardCard.Title" := by
      simp [dollars, Tree.sets_list, Tree.sets_map, Tree.sets_text] at sets
      tauto
    obtain rfl | rfl | rfl | rfl := settings
    · exact absurd (by decide) slot
    all_goals decide
  obtain ⟨n', lowered', both⟩ | ⟨⟨f, failed⟩, -⟩ := marker_is_only_a_spelling '$' '#' dollars free
  · obtain rfl := Except.ok.inj (lowered'.symm.trans lowered)
    exact ⟨free, respelled, lowered, respelled ▸ both⟩
  · cases failed.symm.trans lowered

end Rehearsal.Script
