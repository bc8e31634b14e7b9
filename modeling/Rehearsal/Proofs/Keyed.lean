import Mathlib.Data.List.Induction
import Mathlib.Data.List.Nodup
import Rehearsal.Json.Value

/-!
Entries in rising order: what is put in stays in order, of those with one key the last stays, and entries that rise already
are left as they stand.
-/
namespace Rehearsal.Keyed
variable {α : Type}

def Rising (entries : List (String × α)) : Prop := entries.Pairwise (·.1 < ·.1)

instance (entries : List (String × α)) : Decidable (Rising entries) := inferInstanceAs (Decidable (entries.Pairwise _))

theorem mem_insert {key : String} {v : α} {entries : List (String × α)} {e : String × α} (h : e ∈ insert key v entries) :
    e = (key, v) ∨ e ∈ entries := by
  induction entries with
  | nil => simpa [insert] using h
  | cons f rest ih =>
    rw [insert] at h
    split at h
    · simpa using h
    split at h
    · exact (List.mem_cons.mp h).imp_right (List.mem_cons_of_mem f)
    · obtain rfl | later := List.mem_cons.mp h
      · exact .inr List.mem_cons_self
      · exact (ih later).imp_right (List.mem_cons_of_mem f)

theorem rising_insert {key : String} {v : α} {entries : List (String × α)} (rising : Rising entries) :
    Rising (insert key v entries) := by
  induction entries with
  | nil => exact List.pairwise_singleton ..
  | cons f rest ih =>
    obtain ⟨first, rising'⟩ := List.pairwise_cons.mp rising
    rw [insert]
    split
    · rename_i before
      refine List.pairwise_cons.mpr ⟨fun e member => ?_, rising⟩
      obtain rfl | later := List.mem_cons.mp member
      · exact before
      · exact String.lt_trans before (first e later)
    split
    · rename_i same
      subst key
      exact List.pairwise_cons.mpr ⟨first, rising'⟩
    · rename_i notBefore other
      have behind : f.1 < key := Decidable.by_contra fun notBehind =>
        other (String.le_antisymm (String.not_lt.mp notBehind) (String.not_lt.mp notBefore))
      refine List.pairwise_cons.mpr ⟨fun e member => ?_, ih rising'⟩
      obtain rfl | old := mem_insert member
      · exact behind
      · exact first e old

/-- What is greater than all that is there goes to the end. -/
theorem insert_last {key : String} (v : α) {entries : List (String × α)} (last : ∀ e ∈ entries, e.1 < key) :
    insert key v entries = entries ++ [(key, v)] := by
  induction entries with
  | nil => rfl
  | cons f rest ih =>
    have before : f.1 < key := last f List.mem_cons_self
    have other : key ≠ f.1 := fun same => String.lt_irrefl key (same ▸ before)
    rw [insert, if_neg (String.lt_asymm before), if_neg other, ih fun e member => last e (List.mem_cons_of_mem f member)]
    rfl

section
variable (entries front : List (String × α))

private theorem foldl_insert_rising (rising : Rising front) : Rising (entries.foldl (fun m (key, v) => insert key v m) front) := by
  induction entries generalizing front with
  | nil => exact rising
  | cons f rest ih => exact ih _ (rising_insert rising)

private theorem mem_foldl_insert {e : String × α} (h : e ∈ entries.foldl (fun m (key, v) => insert key v m) front) :
    e ∈ entries ∨ e ∈ front := by
  induction entries generalizing front with
  | nil => exact .inr h
  | cons f rest ih =>
    obtain later | old := ih _ h
    · exact .inl (List.mem_cons_of_mem f later)
    · obtain rfl | old := mem_insert old
      · exact .inl List.mem_cons_self
      · exact .inr old

theorem foldl_insert_of_rising (rising : Rising (front ++ entries)) :
    entries.foldl (fun m (key, v) => insert key v m) front = front ++ entries := by
  induction entries generalizing front with
  | nil => exact (List.append_nil front).symm
  | cons f rest ih =>
    have last : ∀ e ∈ front, e.1 < f.1 := fun e member => (List.pairwise_append.mp rising).2.2 e member f List.mem_cons_self
    have split : front ++ f :: rest = front ++ [f] ++ rest := by rw [List.append_assoc, List.singleton_append]
    change rest.foldl _ (insert f.1 f.2 front) = _
    rw [insert_last f.2 last, split]
    exact ih (front ++ [f]) (split ▸ rising)

end

theorem rising_ofList (entries : List (String × α)) : Rising (ofList entries) :=
  foldl_insert_rising entries [] .nil

theorem mem_of_mem_ofList {entries : List (String × α)} {e : String × α} (h : e ∈ ofList entries) : e ∈ entries :=
  (mem_foldl_insert entries [] h).resolve_right List.not_mem_nil

theorem ofList_of_rising {entries : List (String × α)} (rising : Rising entries) : ofList entries = entries :=
  foldl_insert_of_rising entries [] rising

theorem mem_insert_iff {key : String} {v : α} {entries : List (String × α)} (rising : Rising entries) {e : String × α} :
    e ∈ insert key v entries ↔ e = (key, v) ∨ e ∈ entries ∧ e.1 ≠ key := by
  induction entries with
  | nil => simp [insert]
  | cons f rest ih =>
    obtain ⟨first, rising'⟩ := List.pairwise_cons.mp rising
    rw [insert]
    split
    · rename_i before
      have other : ∀ e ∈ f :: rest, e.1 ≠ key := by
        intro e member same
        subst key
        obtain rfl | later := List.mem_cons.mp member
        · exact String.lt_irrefl _ before
        · exact String.lt_asymm before (first e later)
      rw [List.mem_cons]
      exact or_congr_right ⟨fun member => ⟨member, other e member⟩, And.left⟩
    split
    · rename_i same
      subst key
      have other : ∀ e ∈ rest, e.1 ≠ f.1 := fun e later same => String.lt_irrefl _ (same ▸ first e later)
      rw [List.mem_cons, List.mem_cons]
      refine or_congr_right ⟨fun later => ⟨.inr later, other e later⟩, ?_⟩
      rintro ⟨rfl | later, different⟩
      · exact absurd rfl different
      · exact later
    · rename_i other
      have here : f.1 ≠ key := fun same => other same.symm
      rw [List.mem_cons, List.mem_cons, ih rising']
      constructor
      · rintro (rfl | rfl | ⟨later, different⟩)
        · exact .inr ⟨.inl rfl, here⟩
        · exact .inl rfl
        · exact .inr ⟨.inr later, different⟩
      · rintro (rfl | ⟨rfl | later, different⟩)
        · exact .inr (.inl rfl)
        · exact .inl rfl
        · exact .inr (.inr ⟨later, different⟩)

theorem ofList_concat (entries : List (String × α)) (e : String × α) :
    ofList (entries ++ [e]) = insert e.1 e.2 (ofList entries) := by
  rw [ofList, List.foldl_append]
  rfl

/-- Of the entries with one key the last stays. -/
theorem mem_ofList_iff {entries : List (String × α)} {e : String × α} :
    e ∈ ofList entries ↔ (entries.filter (·.1 = e.1)).getLast? = some e := by
  induction entries using List.reverseRecOn with
  | nil => simp [ofList]
  | append_singleton front f ih =>
    rw [ofList_concat, mem_insert_iff (rising_ofList front), ih, List.filter_append]
    by_cases same : f.1 = e.1
    · obtain ⟨key, v⟩ := f
      subst same
      simp [eq_comm]
    · have other : e ≠ f := fun h => same (h ▸ rfl)
      simp [same, other, Ne.symm same]

theorem key_mem_ofList_iff {entries : List (String × α)} {key : String} :
    (∃ v, (key, v) ∈ ofList entries) ↔ ∃ v, (key, v) ∈ entries := by
  constructor
  · rintro ⟨v, member⟩
    exact ⟨v, mem_of_mem_ofList member⟩
  · rintro ⟨v, member⟩
    cases last : (entries.filter (·.1 = key)).getLast? with
    | none =>
      have here : (key, v) ∈ entries.filter (·.1 = key) := List.mem_filter.mpr ⟨member, by simp⟩
      rw [List.getLast?_eq_none_iff.mp last] at here
      cases here
    | some e =>
      obtain ⟨-, same⟩ := List.mem_filter.mp (List.mem_of_getLast? last)
      obtain rfl : e.1 = key := by simpa using same
      exact ⟨e.2, mem_ofList_iff.mpr last⟩

theorem nodup_of_rising {entries : List (String × α)} (rising : Rising entries) : (entries.map (·.1)).Nodup := by
  refine List.pairwise_map.mpr (List.Pairwise.imp (fun before same => ?_) rising)
  exact String.lt_irrefl _ (same ▸ before)

/-- Under a key stands one value. -/
theorem value_unique {entries : List (String × α)} (rising : Rising entries) {key : String} {v w : α}
    (here : (key, v) ∈ entries) (there : (key, w) ∈ entries) : v = w := by
  exact congrArg Prod.snd (List.inj_on_of_nodup_map (nodup_of_rising rising) here there rfl)

theorem eq_of_rising {entries entries' : List (String × α)} (rising : Rising entries) (rising' : Rising entries')
    (same : ∀ e, e ∈ entries ↔ e ∈ entries') : entries = entries' := by
  have perm : entries.Perm entries' :=
    (List.perm_ext_iff_of_nodup (nodup_of_rising rising).of_map (nodup_of_rising rising').of_map).mpr same
  exact perm.eq_of_pairwise (fun _ _ _ _ before behind => absurd behind (String.lt_asymm before)) rising rising'

/-- Where each key stands once, no entry is lost. -/
theorem mem_ofList_of_nodup {entries : List (String × α)} (distinct : (entries.map (·.1)).Nodup) (e : String × α) :
    e ∈ ofList entries ↔ e ∈ entries := by
  refine ⟨mem_of_mem_ofList, fun member => ?_⟩
  obtain ⟨v, kept⟩ := key_mem_ofList_iff.mpr ⟨e.2, member⟩
  have same : (e.1, v) = e := List.inj_on_of_nodup_map distinct (mem_of_mem_ofList kept) member rfl
  rwa [same] at kept

theorem lookup_eq_some_iff {entries : List (String × α)} (distinct : (entries.map (·.1)).Nodup) {key : String} {v : α} :
    List.lookup key entries = some v ↔ (key, v) ∈ entries := by
  induction entries with
  | nil => simp
  | cons e rest ih =>
    obtain ⟨new, others⟩ := List.nodup_cons.mp distinct
    rw [List.lookup_cons]
    by_cases same : key = e.1
    · subst same
      have absent : (e.1, v) ∉ rest := fun member => new (List.mem_map.mpr ⟨_, member, rfl⟩)
      simp [absent, Prod.ext_iff, eq_comm]
    · rw [beq_false_of_ne same, ih others]
      simp [Prod.ext_iff, same]

theorem lookup_ofList {entries : List (String × α)} (distinct : (entries.map (·.1)).Nodup) {key : String} :
    List.lookup key (ofList entries) = List.lookup key entries := by
  refine Option.ext fun v => ?_
  rw [lookup_eq_some_iff (nodup_of_rising (rising_ofList entries)), lookup_eq_some_iff distinct, mem_ofList_of_nodup distinct]

/-- Where each key stands once, the order of the entries does not matter. -/
theorem ofList_perm {entries entries' : List (String × α)} (distinct : (entries.map (·.1)).Nodup)
    (perm : entries.Perm entries') : ofList entries = ofList entries' := by
  refine eq_of_rising (rising_ofList entries) (rising_ofList entries') fun e => ?_
  rw [mem_ofList_of_nodup distinct, mem_ofList_of_nodup ((perm.map _).nodup_iff.mp distinct)]
  exact perm.mem_iff

theorem lookup_insert (key : String) (v : α) (entries : List (String × α)) : List.lookup key (insert key v entries) = some v := by
  induction entries with
  | nil => simp [insert]
  | cons e rest ih =>
    rw [insert]
    split
    · simp
    split
    · simp
    · rename_i other
      rw [List.lookup_cons, beq_false_of_ne other, ih]

end Rehearsal.Keyed
