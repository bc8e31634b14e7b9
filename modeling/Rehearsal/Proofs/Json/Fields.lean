import Rehearsal.Json.Record
import Rehearsal.Proofs.Json.Spelling

/-! A record that was set down gives its members to whoever reads it by their names. -/
namespace Rehearsal.Json

theorem Source.nullable?_of_refuses {α : Type} {read : Source → Option α} {s : Source} {a : α} (refuses : read .null = none)
    (reads : read s = some a) : s.nullable? read = some (some a) := by
  unfold nullable?
  split
  · rw [refuses] at reads
    cases reads
  · rw [reads, Option.map_some]

namespace Fields

def Has (f : Fields) (name : String) (o : Option Outline) : Prop := List.lookup name f = o.map (·.source)

def HasAll (f : Fields) : List (String × Option Outline) → Prop
  | [] => True
  | (name, o) :: rest => f.Has name o ∧ f.HasAll rest

theorem hasAll_of_has {f : Fields} {members : List (String × Option Outline)} (found : ∀ m ∈ members, f.Has m.1 m.2) :
    f.HasAll members := by
  induction members with
  | nil => trivial
  | cons m rest ih =>
    obtain ⟨first, others⟩ := List.forall_mem_cons.mp found
    exact ⟨first, ih others⟩

section
variable {α : Type} {f : Fields} {name : String} {o : Outline} {read : Source → Option α} {a : α}

theorem need_of_has (found : f.Has name (some o)) (reads : read o.source = some a) : f.need name read = some a := by
  rw [need, found]
  exact reads

theorem getD_of_has (absent : α) (found : f.Has name (some o)) (reads : read o.source = some a) :
    f.getD name absent read = some a := by
  rw [getD, found]
  exact reads

theorem getD_of_absent (absent : α) (found : f.Has name none) : f.getD name absent read = some absent := by
  rw [getD, found]
  rfl

/-- What is there is read, and is not null, since null would not be read. -/
theorem get?_of_has {x : Option α} {write : α → Outline} (found : f.Has name (x.map write)) (refuses : read .null = none)
    (reads : ∀ a, x = some a → read (write a).source = some a) : f.get? name read = some x := by
  cases x with
  | none => exact getD_of_absent none found
  | some a => exact getD_of_has none found (Source.nullable?_of_refuses refuses (reads a rfl))

end

section
variable {f : Fields} {name : String}

theorem need_text {s : String} (found : f.Has name (some (.text s))) : f.need name (·.text?) = some s :=
  need_of_has found rfl

theorem getD_text {s : String} (absent : String) (found : f.Has name (some (.text s))) :
    f.getD name absent (·.text?) = some s :=
  getD_of_has absent found rfl

theorem get?_text {x : Option String} (found : f.Has name (x.map .text)) : f.get? name (·.text?) = some x :=
  get?_of_has found rfl fun _ _ => rfl

end

section
variable {α : Type} {f : Fields} {name : String} {read : Source → Option α} {a : α}

theorem getD_eq_some {absent : α} (given : f.getD name absent read = some a) : a = absent ∨ ∃ v, read v = some a := by
  unfold getD at given
  split at given
  · exact .inl (Option.some.inj given).symm
  · exact .inr ⟨_, given⟩

theorem get?_eq_some (given : f.get? name read = some (some a)) : ∃ v, read v = some a := by
  obtain nothing | ⟨v, there⟩ := getD_eq_some given
  · cases nothing
  · unfold Source.nullable? at there
    split at there
    · cases there
    · obtain ⟨b, reads, same⟩ := Option.map_eq_some_iff.mp there
      exact ⟨v, Option.some.inj same ▸ reads⟩

end
end Fields

namespace Outline
variable {depth : Nat} {members : List (String × Option Outline)} {names : List String}

def fields (members : List (String × Option Outline)) : Fields :=
  members.filterMap fun (name, o) => o.map fun o => (name, o.source)

theorem source_present : (present members).source = .object ((fields members).map fun (name, s) => (some name, s)) := by
  rw [present, source, memberSources_eq_map]
  congr 1
  rw [fields, List.map_filterMap, List.map_filterMap]
  congr 1
  funext m
  obtain ⟨name, o⟩ := m
  cases o <;> rfl

/-! What is made of each member that is there: only `source` and `toValue` are used. -/
section
variable {β : Type} {make : Outline → β}

def made (make : Outline → β) (members : List (String × Option Outline)) : List (String × β) :=
  members.filterMap fun (name, o) => o.map fun o => (name, make o)

theorem name_mem_of_made {e : String × β} (member : e ∈ made make members) : e.1 ∈ members.map (·.1) := by
  obtain ⟨m, given, built⟩ := List.mem_filterMap.mp member
  obtain ⟨o, -, rfl⟩ := Option.map_eq_some_iff.mp built
  exact List.mem_map_of_mem given

theorem names_sublist : ((made make members).map (·.1)).Sublist (members.map (·.1)) := by
  induction members with
  | nil => exact .refl []
  | cons m rest ih =>
    obtain ⟨name, o⟩ := m
    cases o with
    | none => exact ih.cons name
    | some o => exact ih.cons_cons name

theorem lookup_made (distinct : (members.map (·.1)).Nodup) :
    ∀ m ∈ members, List.lookup m.1 (made make members) = m.2.map make := by
  induction members with
  | nil => exact List.forall_mem_nil _
  | cons m rest ih =>
    obtain ⟨name, o⟩ := m
    obtain ⟨new, others⟩ := List.nodup_cons.mp distinct
    refine List.forall_mem_cons.mpr ⟨?_, fun n member => ?_⟩
    · cases o with
      | none =>
        change List.lookup name (made make rest) = none
        refine List.lookup_eq_none_iff.mpr fun e member => bne_iff_ne.mpr ?_
        rintro rfl
        have named := name_mem_of_made member
        exact new named
      | some o => exact List.lookup_cons_self
    · have other : (n.1 == name) = false := beq_false_of_ne fun same => new (List.mem_map.mpr ⟨n, member, same⟩)
      cases o with
      | none => exact ih others n member
      | some o =>
        have passed : List.lookup n.1 ((name, make o) :: made make rest) = List.lookup n.1 (made make rest) := by
          rw [List.lookup_cons, other]
        exact passed.trans (ih others n member)

end

theorem mapM_named (f : Fields) :
    (f.map fun (name, s) => (some name, s)).mapM (fun (name, v) => name.map (·, v)) = some f := by
  induction f with
  | nil => rfl
  | cons e rest ih =>
    rw [List.map_cons, List.mapM_cons, ih]
    rfl

/-- Whoever reads a record by the names of its members goes on with all of them. -/
theorem bind_fields? {α : Type} {k : Fields → Option α} {x : α} (deep : depth ≠ 0) (known : members.map (·.1) = names)
    (distinct : names.Nodup) (rest : ∀ f : Fields, f.HasAll members → k f = some x) :
    (present members).source.fields? names depth >>= k = some x := by
  subst known
  have all : (fields members).filter (fun e => (members.map (·.1)).contains e.1) = fields members :=
    List.filter_eq_self.mpr fun e member => List.contains_iff_mem.mpr (name_mem_of_made member)
  have once : ((fields members).map (·.1)).Nodup := distinct.sublist names_sublist
  have read : (present members).source.fields? (members.map (·.1)) depth = some (fields members) := by
    simp only [source_present, Source.fields?, if_neg deep, mapM_named, Option.bind_eq_bind, Option.bind_some, all, if_pos once]
  rw [read]
  exact rest _ (Fields.hasAll_of_has (lookup_made distinct))

/-- The tag comes off, and the record of the others is left. -/
theorem tagged?_present {tag : String} (legible : Legible depth (present (("type", some (.text tag)) :: members)))
    (other : (members.map (·.1)).contains "type" = false) :
    (present (("type", some (.text tag)) :: members)).source.tagged? depth = some (tag, (present members).source) := by
  let rest := (fields members).map fun (name, s) => (some name, s)
  have apart : ∀ e ∈ rest, e.1 ≠ some "type" := by
    intro e member same
    obtain ⟨f, held, rfl⟩ := List.mem_map.mp member
    have named : "type" ∈ members.map (·.1) := Option.some.inj same ▸ name_mem_of_made held
    rw [List.contains_iff_mem.mpr named] at other
    cases other
  have valued : ¬((present (("type", some (.text tag)) :: members)).source.value? depth).isNone = true := by
    rw [Option.isNone_iff_eq_none]
    exact Option.isSome_iff_ne_none.mp legible.valued
  have source : (present (("type", some (.text tag)) :: members)).source =
      .object ((some "type", .string (some tag)) :: rest) := source_present
  have typed : rest.filter (fun e => decide (e.1 = some "type")) = [] :=
    List.filter_eq_nil_iff.mpr fun e member => by simpa using apart e member
  have untyped : rest.filter (fun e => !decide (e.1 = some "type")) = rest :=
    List.filter_eq_self.mpr fun e member => by simpa using apart e member
  have split : ((some "type", Source.string (some tag)) :: rest).partition (fun e => decide (e.1 = some "type")) =
      ([(some "type", .string (some tag))], rest) := by
    rw [List.partition_eq_filter_filter, List.filter_cons_of_pos rfl, typed, List.filter_cons_of_neg (by simp)]
    exact congrArg (Prod.mk _) untyped
  unfold Source.tagged?
  rw [if_neg valued, source]
  dsimp only
  rw [split]
  exact congrArg (fun s => some (tag, s)) source_present.symm

/-- Of a record whose members have names of their own, each is found under its name if it is there. -/
theorem get?_present (distinct : (members.map (·.1)).Nodup) {name : String} {o : Option Outline} (member : (name, o) ∈ members) :
    ∃ m, (present members).toValue = .object m ∧ Members.get? m name = o.map toValue := by
  refine ⟨Members.ofList (made toValue members), ?_, ?_⟩
  · rw [present, toValue, toMembers_eq_map, made, List.map_filterMap]
    congr 3
    funext m
    obtain ⟨name, o⟩ := m
    cases o <;> rfl
  · rw [Members.get?, Members.ofList, Keyed.lookup_ofList (distinct.sublist names_sublist)]
    exact lookup_made distinct _ member

theorem items?_source {α : Type} {write : α → Outline} {read : Source → Option α} {items : List α} (deep : depth ≠ 0)
    (reads : ∀ a ∈ items, read (write a).source = some a) : (list (items.map write)).source.items? depth read = some items := by
  rw [source, Source.items?, if_neg deep, sources_eq_map, List.map_map]
  clear deep
  induction items with
  | nil => rfl
  | cons a rest ih =>
    obtain ⟨first, others⟩ := List.forall_mem_cons.mp reads
    rw [List.map_cons, List.mapM_cons, ih others, Function.comp_apply, first]
    rfl

theorem int64?_source {n : Int} (fits : Text.fitsSigned 64 n = true) : (leaf (.number (.int n))).source.int64? = some n := by
  rw [source, Value.source, Number.source_int]
  simp only [Source.int64?, Numeral.value?_ofInt (Numeral.fits_of_fitsSigned fits), fits, if_true]

theorem members?_source {m : Members} (portable : Value.Portable depth (.object m)) :
    (leaf (.object m)).source.members? depth = some m := by
  rw [source, Source.members?, Value.value?_source _ portable]

end Outline

theorem Source.items?_eq_some {α : Type} {depth : Nat} {read : Source → Option α} {v : Source} {items : List α}
    (given : v.items? depth read = some items) : ∀ a ∈ items, ∃ s, read s = some a := by
  unfold items? at given
  split at given
  · rename_i sources
    split at given
    · cases given
    · clear * - given
      induction sources generalizing items with
      | nil =>
        cases given
        exact List.forall_mem_nil _
      | cons s rest ih =>
        simp only [List.mapM_cons, Option.bind_eq_bind, Option.bind_eq_some_iff, Option.pure_def, Option.some.injEq] at given
        obtain ⟨a, first, others, more, rfl⟩ := given
        exact List.forall_mem_cons.mpr ⟨⟨s, first⟩, ih more⟩
  · cases given

theorem Source.fits_of_int64? {s : Source} {n : Int} (read : s.int64? = some n) : Text.fitsSigned 64 n = true := by
  unfold int64? at read
  split at read
  · split at read
    · split at read
      · rename_i fits
        exact Option.some.inj read ▸ fits
      · cases read
    · cases read
  · cases read

theorem Source.members?_shape {depth : Nat} {s : Source} {m : Members} (read : s.members? depth = some m) :
    Value.isOrdered (.object m) = true ∧ Value.nesting (.object m) ≤ depth := by
  unfold members? at read
  split at read
  · rename_i m' given
    obtain rfl := Option.some.inj read
    have shape := s.value?_shape given
    exact ⟨shape.ordered, shape.nested⟩
  · cases read

/-! The values under a name. Of an object a structure is read if each of its names stands there at most once. -/
namespace Source
variable {names : List String} {members : List (Option String × Source)} {name : String} {depth : Nat} {f : Fields}

def under (name : String) (members : List (Option String × Source)) : List Source :=
  members.filterMap fun (n, s) => if n = some name then some s else none

theorem exists_entries (named : ∀ m ∈ members, m.1 ≠ none) : ∃ f : Fields, members = f.map fun (name, s) => (some name, s) := by
  induction members with
  | nil => exact ⟨[], rfl⟩
  | cons m rest ih =>
    obtain ⟨n, s⟩ := m
    obtain ⟨first, others⟩ := List.forall_mem_cons.mp named
    obtain ⟨name, rfl⟩ := Option.ne_none_iff_exists'.mp first
    obtain ⟨f, rfl⟩ := ih others
    exact ⟨(name, s) :: f, rfl⟩

theorem named_of_mapM (read : members.mapM (fun (name, s) => name.map (·, s)) = some f) : ∀ m ∈ members, m.1 ≠ none := by
  induction members generalizing f with
  | nil => exact List.forall_mem_nil _
  | cons m rest ih =>
    obtain ⟨n, s⟩ := m
    simp only [List.mapM_cons, Option.bind_eq_bind, Option.bind_eq_some_iff, Option.map_eq_some_iff] at read
    obtain ⟨-, ⟨name, rfl, -⟩, others, more, -⟩ := read
    exact List.forall_mem_cons.mpr ⟨Option.some_ne_none name, ih more⟩

def known (names : List String) (f : Fields) : Fields := f.filter fun (name, _) => names.contains name

theorem named_of_fields? (read : (Source.object members).fields? names depth = some f) : ∀ m ∈ members, m.1 ≠ none := by
  simp only [fields?] at read
  split_ifs at read
  obtain ⟨entries, named, -⟩ := Option.bind_eq_some_iff.mp read
  exact named_of_mapM named

theorem fields?_entries : (Source.object (f.map fun (name, s) => (some name, s))).fields? names depth =
    if depth ≠ 0 ∧ ((known names f).map (·.1)).Nodup then some (known names f) else none := by
  by_cases shut : depth = 0
  · simp [fields?, shut]
  · simp only [fields?, Outline.mapM_named, ne_eq, shut, not_false_eq_true, true_and]
    rfl

theorem under_entries (member : name ∈ names) :
    under name (f.map fun (n, s) => (some n, s)) = ((known names f).filter (·.1 = name)).map (·.2) := by
  induction f with
  | nil => rfl
  | cons e rest ih =>
    obtain ⟨n, s⟩ := e
    by_cases same : n = name
    · simp_all [under, known]
    · by_cases other : n ∈ names <;> simp_all [under, known]

theorem lookup_toList (once : (f.map (·.1)).Nodup) : (List.lookup name f).toList = (f.filter (·.1 = name)).map (·.2) := by
  induction f with
  | nil => rfl
  | cons e rest ih =>
    obtain ⟨n, s⟩ := e
    obtain ⟨new, others⟩ := List.nodup_cons.mp once
    by_cases same : n = name
    · subst same
      have none : rest.filter (·.1 = n) = [] :=
        List.filter_eq_nil_iff.mpr fun e member => by simpa using fun same => new (List.mem_map.mpr ⟨e, member, same⟩)
      simp [none]
    · have other : (name == n) = false := beq_false_of_ne (Ne.symm same)
      simp [List.lookup_cons, other, same, ih others]

theorem nodup_known : ((known names f).map (·.1)).Nodup ↔
    ∀ name ∈ names, (under name (f.map fun (n, s) => (some n, s))).length ≤ 1 := by
  have count (name : String) : ((known names f).map (·.1)).count name = ((known names f).filter (·.1 = name)).length := by
    rw [List.count, List.countP_map, List.countP_eq_length_filter]
    rfl
  rw [List.nodup_iff_count_le_one]
  constructor
  · intro once name member
    rw [under_entries member, List.length_map, ← count]
    exact once name
  · intro once name
    by_cases member : name ∈ names
    · rw [count, ← List.length_map (f := (·.2)), ← under_entries member]
      exact once name member
    · have unknown : name ∉ (known names f).map (·.1) := by simp [known, member]
      rw [List.count_eq_zero.mpr unknown]
      exact Nat.zero_le 1

/-- Whoever reads an object by names goes on with the values under them, of which there is one at the most. -/
theorem bind_fields?_object {α : Type} {k : Fields → Option α} {x : α} {P : Prop}
    (rest : ∀ f : Fields, (∀ name ∈ names, under name members = (List.lookup name f).toList) → (k f = some x ↔ P))
    (once : P → ∀ name ∈ names, (under name members).length ≤ 1) :
    (Source.object members).fields? names depth >>= k = some x ↔ depth ≠ 0 ∧ (∀ m ∈ members, m.1 ≠ none) ∧ P := by
  rw [Option.bind_eq_bind, Option.bind_eq_some_iff]
  constructor
  · rintro ⟨f, read, given⟩
    have named := named_of_fields? read
    obtain ⟨entries, rfl⟩ := exists_entries named
    rw [fields?_entries] at read
    split_ifs at read with proper
    obtain rfl := Option.some.inj read
    refine ⟨proper.1, named, (rest _ fun name member => ?_).mp given⟩
    rw [under_entries member, lookup_toList proper.2]
  · rintro ⟨deep, named, holds⟩
    obtain ⟨f, rfl⟩ := exists_entries named
    have distinct := nodup_known.mpr (once holds)
    refine ⟨known names f, by rw [fields?_entries, if_pos ⟨deep, distinct⟩], (rest _ fun name member => ?_).mpr holds⟩
    rw [under_entries member, lookup_toList distinct]

end Source

end Rehearsal.Json
