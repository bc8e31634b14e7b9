import Mathlib.Data.List.Basic
import Rehearsal.Json.Record

/-!
A structure with one member changed. It may be written as an object or as an array of its values; where the member is missing
it is put in, and what stands before it in an array is given as null.
-/
namespace Rehearsal.Json

def upsert {κ : Type} [DecidableEq κ] (key : κ) (absent : Source) (change : Source → Source) :
    List (κ × Source) → List (κ × Source)
  | [] => [(key, change absent)]
  | (k, s) :: rest => if k = key then (k, change s) :: rest else (k, s) :: upsert key absent change rest

def upsertAt (absent : Source) (change : Source → Source) : Nat → List Source → List Source
  | 0, [] => [change absent]
  | 0, s :: rest => change s :: rest
  | place + 1, [] => .null :: upsertAt absent change place []
  | place + 1, s :: rest => s :: upsertAt absent change place rest

def Source.upsert (name : String) (place : Nat) (absent : Source) (change : Source → Source) : Source → Source
  | .object members => .object (Json.upsert (some name) absent change members)
  | .array items => .array (upsertAt absent change place items)
  | s => s

section
variable {name : String} {absent : Source} {change : Source → Source}

theorem mapM_upsert {members : List (Option String × Source)} {entries : Fields}
    (named : members.mapM (fun (name, v) => name.map (·, v)) = some entries) :
    (upsert (some name) absent change members).mapM (fun (name, v) => name.map (·, v)) = some (upsert name absent change entries) := by
  induction members generalizing entries with
  | nil =>
    cases named
    rfl
  | cons m rest ih =>
    obtain ⟨key, s⟩ := m
    simp only [List.mapM_cons, Option.bind_eq_bind, Option.bind_eq_some_iff, Option.map_eq_some_iff, Option.pure_def,
      Option.some.injEq] at named
    obtain ⟨_, ⟨key, rfl, rfl⟩, others, more, rfl⟩ := named
    by_cases same : key = name
    · simp [upsert, same, more]
    · simp [upsert, same, ih more]

theorem filter_upsert {p : String → Bool} (kept : p name = true) (entries : Fields) :
    (upsert name absent change entries).filter (fun e => p e.1) = upsert name absent change (entries.filter fun e => p e.1) := by
  induction entries with
  | nil => simp [upsert, kept]
  | cons e rest ih =>
    by_cases same : e.1 = name
    · simp [upsert, same, kept]
    · by_cases keep : p e.1 = true <;> simp [upsert, same, keep, ih]

theorem mem_names_upsert {entries : Fields} {other : String} :
    other ∈ (upsert name absent change entries).map (·.1) ↔ other = name ∨ other ∈ entries.map (·.1) := by
  induction entries with
  | nil => simp [upsert]
  | cons e rest ih =>
    by_cases same : e.1 = name
    · simp [upsert, same]
    · simp only [upsert, if_neg same, List.map_cons, List.mem_cons, ih]
      exact or_left_comm

theorem nodup_upsert {entries : Fields} (distinct : (entries.map (·.1)).Nodup) :
    ((upsert name absent change entries).map (·.1)).Nodup := by
  induction entries with
  | nil => simp [upsert]
  | cons e rest ih =>
    obtain ⟨new, others⟩ := List.nodup_cons.mp distinct
    by_cases same : e.1 = name
    · rw [upsert, if_pos same]
      exact distinct
    · rw [upsert, if_neg same, List.map_cons, List.nodup_cons, mem_names_upsert]
      exact ⟨not_or.mpr ⟨same, new⟩, ih others⟩

theorem lookup_upsert (entries : Fields) :
    List.lookup name (upsert name absent change entries) = some (change ((List.lookup name entries).getD absent)) := by
  induction entries with
  | nil => simp [upsert]
  | cons e rest ih =>
    obtain ⟨key, s⟩ := e
    by_cases same : key = name
    · simp [upsert, same]
    · simp [upsert, same, List.lookup_cons, beq_false_of_ne (Ne.symm same), ih]

theorem lookup_upsert_other {other : String} (apart : other ≠ name) (entries : Fields) :
    List.lookup other (upsert name absent change entries) = List.lookup other entries := by
  induction entries with
  | nil => simp [upsert, List.lookup_cons, beq_false_of_ne apart]
  | cons e rest ih =>
    obtain ⟨key, s⟩ := e
    by_cases same : key = name
    · simp [upsert, same, List.lookup_cons, beq_false_of_ne apart]
    · simp [upsert, same, List.lookup_cons, ih]

end

section
variable {absent : Source} {change : Source → Source}

theorem length_upsertAt (place : Nat) (items : List Source) :
    (upsertAt absent change place items).length = max items.length (place + 1) := by
  induction place generalizing items with
  | zero => cases items <;> simp [upsertAt]
  | succ place ih => cases items <;> simp [upsertAt, ih]

theorem getElem?_upsertAt (place : Nat) (items : List Source) :
    (upsertAt absent change place items)[place]? = some (change (items[place]?.getD absent)) := by
  induction place generalizing items with
  | zero => cases items <;> simp [upsertAt]
  | succ place ih => cases items <;> simp [upsertAt, ih]

theorem getElem?_upsertAt_other {place other : Nat} (apart : other ≠ place) (items : List Source) :
    (upsertAt absent change place items)[other]? = items[other]? ∨
      other < place ∧ items[other]? = none ∧ (upsertAt absent change place items)[other]? = some .null := by
  induction place generalizing items other with
  | zero =>
    cases other with
    | zero => exact absurd rfl apart
    | succ other => cases items <;> simp [upsertAt]
  | succ place ih =>
    cases other with
    | zero => cases items <;> simp [upsertAt]
    | succ other =>
      have apart : other ≠ place := fun same => apart (congrArg (· + 1) same)
      cases items with
      | nil => simpa [upsertAt] using ih apart []
      | cons s rest => simpa [upsertAt] using ih apart rest

end

/-- What is found of a structure once a member is changed: under its name the change, elsewhere what was there, or null before
it where nothing was. -/
structure Fields.Changed (names : List String) (name : String) (absent : Source) (change : Source → Source) (f g : Fields) :
    Prop where
  here : List.lookup name g = some (change ((List.lookup name f).getD absent))
  elsewhere : ∀ other ≠ name, List.lookup other g = List.lookup other f ∨
    names.idxOf other < names.idxOf name ∧ List.lookup other f = none ∧ List.lookup other g = some .null

section
variable {α : Type} {name : String} {absent : Source} {change : Source → Source} {f g : Fields} {depth : Nat} {names : List String}

theorem fields?_upsert (known : names.contains name = true) {members : List (Option String × Source)}
    (read : (Source.object members).fields? names depth = some f) :
    (Source.object (upsert (some name) absent change members)).fields? names depth = some (upsert name absent change f) := by
  simp only [Source.fields?] at read ⊢
  split at read
  · cases read
  · rename_i deep
    obtain ⟨entries, named, read⟩ := Option.bind_eq_some_iff.mp read
    split at read
    · rename_i distinct
      obtain rfl := Option.some.inj read
      rw [if_neg deep, mapM_upsert named]
      simp only [Option.bind_eq_bind, Option.bind_some]
      rw [filter_upsert known, if_pos (nodup_upsert distinct)]
    · cases read

theorem lookup_zip (other : String) (items : List Source) :
    List.lookup other (names.zip items) = if other ∈ names then items[names.idxOf other]? else none := by
  induction names generalizing items with
  | nil => simp
  | cons n rest ih =>
    cases items with
    | nil => simp
    | cons s items =>
      by_cases same : other = n
      · simp [same]
      · simp [List.lookup_cons, beq_false_of_ne same, ih, same, List.idxOf_cons, beq_false_of_ne (Ne.symm same)]

theorem Source.fields?_upsert {s : Source} (known : name ∈ names) (read : s.fields? names depth = some f) :
    ∃ g, (Source.upsert name (names.idxOf name) absent change s).fields? names depth = some g ∧ Fields.Changed names name absent change f g := by
  cases s with
  | object members =>
    refine ⟨_, Json.fields?_upsert (List.contains_iff_mem.mpr known) read, lookup_upsert f, fun other apart => ?_⟩
    exact .inl (lookup_upsert_other apart f)
  | array items =>
    simp only [Source.fields?] at read
    split at read
    · cases read
    · rename_i short
      obtain rfl := Option.some.inj read
      obtain ⟨deep, fits⟩ := not_or.mp short
      have inside : names.idxOf name < names.length := List.idxOf_lt_length_iff.mpr known
      refine ⟨names.zip (upsertAt absent change (names.idxOf name) items), ?_, ?_, fun other apart => ?_⟩
      · have fits' : ¬(depth = 0 ∨ names.length < (upsertAt absent change (names.idxOf name) items).length) := by
          rw [length_upsertAt]
          omega
        rw [Source.upsert, Source.fields?, if_neg fits']
      · rw [lookup_zip, lookup_zip, if_pos known, if_pos known, getElem?_upsertAt]
      · rw [lookup_zip, lookup_zip]
        split
        · rename_i member
          have places : names.idxOf other ≠ names.idxOf name := fun same => apart ((List.idxOf_inj member).mp same)
          exact getElem?_upsertAt_other places items
        · exact .inl rfl
  | _ => cases read

namespace Fields.Changed
variable (changed : Fields.Changed names name absent change f g) {other : String} (apart : other ≠ name)
include changed apart

theorem get? (read : Source → Option α) : g.get? other read = f.get? other read := by
  obtain same | ⟨-, nothing, null⟩ := changed.elsewhere other apart
  · simp only [Fields.get?, getD, same]
  · simp only [Fields.get?, getD, nothing, null, Source.nullable?]

theorem getD_behind (behind : names.idxOf name ≤ names.idxOf other) (nothing : α) (read : Source → Option α) :
    g.getD other nothing read = f.getD other nothing read := by
  obtain same | ⟨before, -⟩ := changed.elsewhere other apart
  · simp only [getD, same]
  · exact absurd before (Nat.not_lt.mpr behind)

end Fields.Changed
end
end Rehearsal.Json
