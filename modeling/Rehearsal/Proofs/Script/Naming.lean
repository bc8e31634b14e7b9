import Rehearsal.Proofs.Check.Quoting
import Rehearsal.Proofs.Script.Marker

/-!
The names that assets are found by. Points are passed over wherever they stand in a name. A path is a name with single points
between its words: paths are among what is found, and not all of it.
-/
namespace Rehearsal.Check

/-- The text is the name with any number of points before, among and behind its letters. -/
inductive Dotted : List Char → List Char → Prop
  | done : Dotted [] []
  | point {t n : List Char} : Dotted t n → Dotted ('.' :: t) n
  | letter {c : Char} {t n : List Char} : c ≠ '.' → Dotted t n → Dotted (c :: t) (c :: n)

inductive Continues : List Char → List Char → Prop
  | done : Continues [] []
  | letter {c : Char} {t n : List Char} : c ≠ '.' → Continues t n → Continues (c :: t) (c :: n)
  | word {c : Char} {t n : List Char} : c.isUpper = true → Continues t n → Continues ('.' :: c :: t) (c :: n)

/-- The text is the name with single points between words of it and nowhere else. -/
inductive Path : List Char → List Char → Prop
  | begins {c : Char} {t n : List Char} : c ≠ '.' → Continues t n → Path (c :: t) (c :: n)

/-- Each point stands behind a character that is none, and before a letter that begins a word. -/
def WellPlaced (t : List Char) : Prop :=
  ∀ before after, t = before ++ '.' :: after →
    (∃ c, before.getLast? = some c ∧ c ≠ '.') ∧ ∃ c, after.head? = some c ∧ c.isUpper = true

section
variable {c d : Char} {t n : List Char}

theorem dotted_iff : Dotted t n ↔ t.filter (· ≠ '.') = n := by
  constructor
  · intro dotted
    induction dotted with
    | done => rfl
    | point _ ih => rw [List.filter_cons_of_neg (by decide), ih]
    | letter other _ ih => rw [List.filter_cons_of_pos (by simpa using other), ih]
  · rintro rfl
    induction t with
    | nil => exact .done
    | cons c t ih =>
      by_cases point : c = '.'
      · subst point
        exact .point ih
      · rw [List.filter_cons_of_pos (by simpa using point)]
        exact .letter point ih

theorem ne_point_of_isUpper (upper : c.isUpper = true) : c ≠ '.' := by
  rintro rfl
  revert upper
  decide

theorem Continues.dotted (path : Continues t n) : Dotted t n := by
  induction path with
  | done => exact .done
  | letter other _ ih => exact .letter other ih
  | word upper _ ih => exact .point (.letter (ne_point_of_isUpper upper) ih)

theorem Path.dotted (path : Path t n) : Dotted t n := by
  cases path with
  | begins other continues => exact .letter other continues.dotted

/-- What stands before a letter that is no point has nothing to say about the points behind it. -/
theorem wellPlaced_cons (first : c ≠ '.') (second : d ≠ '.') : WellPlaced (c :: d :: t) ↔ WellPlaced (d :: t) := by
  constructor
  · intro placed before after shape
    obtain ⟨⟨e, last, other⟩, upper⟩ := placed (c :: before) after (congrArg (c :: ·) shape)
    cases before with
    | nil => exact absurd (List.cons.inj shape).1 second
    | cons b before => exact ⟨⟨e, by rwa [List.getLast?_cons_cons] at last, other⟩, upper⟩
  · intro placed before after shape
    cases before with
    | nil => exact absurd (List.cons.inj shape).1 first
    | cons b before =>
      obtain ⟨⟨e, last, other⟩, upper⟩ := placed before after (List.cons.inj shape).2
      cases before with
      | nil => cases last
      | cons b' before => exact ⟨⟨e, by rwa [List.getLast?_cons_cons], other⟩, upper⟩

theorem wellPlaced_point (first : c ≠ '.') :
    WellPlaced (c :: '.' :: t) ↔ ∃ d u, t = d :: u ∧ d.isUpper = true ∧ WellPlaced (d :: u) := by
  constructor
  · intro placed
    obtain ⟨-, d, head, upper⟩ := placed [c] t rfl
    obtain ⟨u, rfl⟩ := List.head?_eq_some_iff.mp head
    refine ⟨d, u, rfl, upper, fun before after shape => ?_⟩
    obtain ⟨⟨e, last, other⟩, upper'⟩ := placed (c :: '.' :: before) after (congrArg (c :: '.' :: ·) shape)
    cases before with
    | nil => exact absurd (List.cons.inj shape).1 (ne_point_of_isUpper upper)
    | cons b before => exact ⟨⟨e, by simpa [List.getLast?_cons_cons] using last, other⟩, upper'⟩
  · rintro ⟨d, u, rfl, upper, placed⟩ before after shape
    match before, shape with
    | [], shape => exact absurd (List.cons.inj shape).1 first
    | [b], shape =>
      obtain ⟨rfl, rfl⟩ : c = b ∧ d :: u = after := by simpa using shape
      exact ⟨⟨c, rfl, first⟩, d, rfl, upper⟩
    | b :: b' :: before, shape =>
      obtain ⟨⟨e, last, other⟩, upper'⟩ := placed before after (by simpa using (List.cons.inj (List.cons.inj shape).2).2)
      cases before with
      | nil => cases last
      | cons b'' before => exact ⟨⟨e, by simpa [List.getLast?_cons_cons] using last, other⟩, upper'⟩

theorem Continues.wellPlaced (path : Continues t n) : ∀ {c : Char}, c ≠ '.' → WellPlaced (c :: t) := by
  induction path with
  | done =>
    intro c first before after shape
    cases before with
    | nil => exact absurd (List.cons.inj shape).1 first
    | cons b before => simp at shape
  | letter other _ ih => exact fun first => (wellPlaced_cons first other).mpr (ih other)
  | word upper _ ih => exact fun first => (wellPlaced_point first).mpr ⟨_, _, rfl, upper, ih (ne_point_of_isUpper upper)⟩

theorem Dotted.continues (dotted : Dotted t n) : ∀ {c : Char}, c ≠ '.' → WellPlaced (c :: t) → Continues t n := by
  induction dotted with
  | done => exact fun _ _ => .done
  | letter other _ ih => exact fun first placed => .letter other (ih other ((wellPlaced_cons first other).mp placed))
  | point _ ih =>
    intro c first placed
    obtain ⟨d, u, rfl, upper, placed⟩ := (wellPlaced_point first).mp placed
    -- Without the point the letter behind it is one like any other.
    have continues := ih first ((wellPlaced_cons first (ne_point_of_isUpper upper)).mpr placed)
    cases continues with
    | letter _ rest => exact .word upper rest
    | word => exact absurd rfl (ne_point_of_isUpper upper)

theorem path_iff (named : n ≠ []) : Path t n ↔ Dotted t n ∧ WellPlaced t := by
  constructor
  · intro path
    refine ⟨path.dotted, ?_⟩
    cases path with
    | begins other continues => exact continues.wellPlaced other
  · rintro ⟨dotted, placed⟩
    cases dotted with
    | done => exact absurd rfl named
    | point _ =>
      obtain ⟨⟨c, none, -⟩, -⟩ := placed [] _ rfl
      cases none
    | letter other rest => exact .begins other (rest.continues other placed)

end

theorem Assertion.mem_all (a : Assertion) : a ∈ all := by
  cases a <;> decide

theorem Assertion.name_plain (a : Assertion) : a.name.toList.filter (· ≠ '.') = a.name.toList := by
  have plain : all.all (fun a => a.name.toList.filter (· ≠ '.') = a.name.toList) = true := by decide +kernel
  exact of_decide_eq_true (List.all_eq_true.mp plain a a.mem_all)

namespace Asset
variable {a : Asset} {name : String}

theorem mem_all (a : Asset) : a ∈ all := by
  cases a <;> decide

theorem find?_name (a : Asset) : all.find? (·.name = a.name) = some a := by
  have distinct : all.all (fun a => all.find? (·.name = a.name) = some a) = true := by decide +kernel
  exact of_decide_eq_true (List.all_eq_true.mp distinct a a.mem_all)

theorem ofName?_eq_some : ofName? name = some a ↔ Dotted name.toList a.name.toList := by
  rw [dotted_iff]
  constructor
  · exact plain_of_ofName?
  · intro plain
    rw [ofName?, plain]
    simp only [String.toList_inj, find?_name]

/-- No name is both an assertion's and an asset's. -/
theorem no_assertion (dotted : Dotted name.toList a.name.toList) : Assertion.ofName? name = none := by
  have apart : all.all (fun a => Assertion.ofName? a.name = none) = true := by decide +kernel
  cases found : Assertion.ofName? name with
  | none => rfl
  | some b =>
    have given := found
    rw [Assertion.ofName?] at given
    obtain rfl : b.name = name := by simpa using List.find?_some given
    have same : b.name = a.name := String.toList_inj.mp (b.name_plain.symm.trans (dotted_iff.mp dotted))
    have none := of_decide_eq_true (List.all_eq_true.mp apart a a.mem_all)
    rw [← same, found] at none
    cases none

end Asset

namespace Predicate
variable {a : Asset} {t left right op : List Char}

theorem assetOf_eq_ok : assetOf t = .ok a ↔ Dotted (Text.trim t) a.name.toList := by
  rw [← String.toList_ofList (l := Text.trim t), ← Asset.ofName?_eq_some, assetOf, Asset.ofName]
  split <;> simp_all

theorem attributeKey?_of_dotted (dotted : Dotted (Text.trim t) a.name.toList) : attributeKey? t = .ok none := by
  rw [attributeKey?, a.other_prefix (dotted_iff.mp dotted)]

def ofSide (onKey : String → Predicate) (onAsset : Asset → Predicate) (left : List Char) : Except Failure Predicate := do
  match ← attributeKey? left with
  | some key => return onKey key
  | none => return onAsset (← assetOf left)

theorem ofSide_eq_ok {onKey : String → Predicate} {onAsset : Asset → Predicate} {p : Predicate} :
    ofSide onKey onAsset left = .ok p ↔
      (∃ key, attributeKey? left = .ok (some key) ∧ onKey key = p) ∨ ∃ b, Dotted (Text.trim left) b.name.toList ∧ onAsset b = p := by
  constructor
  · intro read
    obtain ⟨key?, reads, read⟩ := bind_eq_ok.mp read
    cases key? with
    | some key => exact .inl ⟨key, reads, pure_eq_ok.mp read⟩
    | none =>
      obtain ⟨b, found, read⟩ := bind_eq_ok.mp read
      exact .inr ⟨b, assetOf_eq_ok.mp found, pure_eq_ok.mp read⟩
  · rintro (⟨key, reads, rfl⟩ | ⟨b, dotted, rfl⟩)
    · exact bind_eq_ok.mpr ⟨some key, reads, rfl⟩
    · refine bind_eq_ok.mpr ⟨none, attributeKey?_of_dotted dotted, ?_⟩
      exact bind_eq_ok.mpr ⟨b, assetOf_eq_ok.mpr dotted, rfl⟩

variable [Regex.Room]

theorem ofChars_eq (t : List Char) : ofChars t =
    match Text.cutAtFirst? [equality, likeness] (Text.trim t) with
    | none => ofName (Text.trim t)
    | some (left, op, right) =>
      let right := String.ofList (Text.unquote (Text.trim right))
      if op = equality then ofSide (fun key => .attribute key (.equals right)) (.equals · right) left
      else patternOf (.ofList (Text.trim t)) right >>= fun p => ofSide (fun key => .attribute key (.like p)) (.like · p) left := by
  rfl

theorem patternOf_eq_ok {whole source : String} {p : Pattern} : patternOf whole source = .ok p ↔ Pattern.ofSource? source = some p := by
  rw [patternOf]
  split <;> simp_all

theorem ofChars_eq_equals {text : String} : ofChars t = .ok (.equals a text) ↔
    ∃ left right, Text.cutAtFirst? [equality, likeness] (Text.trim t) = some (left, equality, right) ∧
      Dotted (Text.trim left) a.name.toList ∧ .ofList (Text.unquote (Text.trim right)) = text := by
  rw [ofChars_eq]
  split
  · simp_all [ofName_eq_ok]
  · split_ifs with equal
    · simp_all [ofSide_eq_ok]
    · simp_all [bind_eq_ok, ofSide_eq_ok]

theorem ofChars_eq_like {p : Pattern} : ofChars t = .ok (.like a p) ↔
    ∃ left right, Text.cutAtFirst? [equality, likeness] (Text.trim t) = some (left, likeness, right) ∧
      Dotted (Text.trim left) a.name.toList ∧ Pattern.ofSource? (.ofList (Text.unquote (Text.trim right))) = some p := by
  have other : equality ≠ likeness := by decide
  rw [ofChars_eq]
  split
  · simp_all [ofName_eq_ok]
  · next left op right cut =>
    split_ifs with equal
    · simp_all [ofSide_eq_ok]
    · obtain rfl : op = likeness := by simpa [equal] using Text.mem_of_cutAtFirst? cut
      simp_all [bind_eq_ok, ofSide_eq_ok, patternOf_eq_ok, and_comm]

theorem ofChars_eq_present : ofChars t = .ok (.present a) ↔ Dotted (Text.trim t) a.name.toList := by
  rw [ofChars_eq]
  constructor
  · intro read
    split at read
    · simp_all [ofName_eq_ok, Asset.ofName?_eq_some]
    · split_ifs at read <;> simp_all [bind_eq_ok, ofSide_eq_ok]
  · intro dotted
    have named : (Side.asset a).Named (.ofList (Text.trim t)) := Asset.ofName?_eq_some.mpr (by rwa [String.toList_ofList])
    have bare : ' ' ∉ Text.trim t := fun inside => absurd (named.bare.2 ' ' (by rwa [String.toList_ofList])) (by decide)
    have blanks : ∀ s ∈ [equality, likeness], s.head? = some ' ' := by decide
    have whole : Text.cutAtFirst? [equality, likeness] (Text.trim t) = none := by
      simpa [Text.cutAtFirst?] using Text.cutAtFirst?_append (l := Text.trim t) (r := []) blanks bare
    have trimmed : Text.trim (Text.trim t) = Text.trim t := by simpa using named.trimmed.trim_eq
    rw [whole]
    refine ofName_eq_ok.mpr (.inr ⟨attributeKey?_of_dotted (trimmed.symm ▸ dotted), .inr ⟨?_, a, named, rfl⟩⟩)
    exact Asset.no_assertion (by rwa [String.toList_ofList])

end Predicate
end Rehearsal.Check

namespace Rehearsal.Script
open Check

section
variable {marker : Char}

theorem slotValue_eq_reference {value : String} {a : Asset} :
    slotValue marker value = .ok (.reference a) ↔ ∃ name, value.toList = marker :: name ∧ Dotted name a.name.toList := by
  by_cases marked : value.toList.head? = some marker
  · obtain ⟨name, shape⟩ := List.head?_eq_some_iff.mp marked
    have found : Asset.ofName? (.ofList name) = some a ↔ Dotted name a.name.toList := by
      rw [Asset.ofName?_eq_some, String.toList_ofList]
    rw [slotValue_of_marked shape]
    simp only [shape, List.cons.injEq, true_and, exists_eq_left', ← found]
    split <;> simp_all
  · rw [slotValue_of_unmarked marked]
    refine ⟨nofun, ?_⟩
    rintro ⟨name, shape, -⟩
    exact absurd (by rw [shape, List.head?_cons]) marked

theorem slotValue_eq_error {name : List Char} :
    slotValue marker (.ofList (marker :: name)) = .error (.script (.unknownReference (.ofList (marker :: name)))) ↔
      ∀ a : Asset, ¬ Dotted name a.name.toList := by
  have found (a : Asset) : Dotted name a.name.toList ↔ Asset.ofName? (.ofList name) = some a := by
    rw [Asset.ofName?_eq_some, String.toList_ofList]
  rw [slotValue_of_marked String.toList_ofList]
  simp only [found]
  split <;> simp_all

end

structure Naming [Regex.Room] (text : String) (a : Asset) : Prop where
  found : Asset.ofName? text = some a ↔ Dotted text.toList a.name.toList
  path : Path text.toList a.name.toList ↔ Asset.ofName? text = some a ∧ WellPlaced text.toList
  present : Predicate.ofText text = .ok (.present a) ↔ Dotted (Text.trim text.toList) a.name.toList
  equals : ∀ value, Predicate.ofText text = .ok (.equals a value) ↔
    ∃ left right, Text.cutAtFirst? [Predicate.equality, Predicate.likeness] (Text.trim text.toList) =
        some (left, Predicate.equality, right) ∧
      Dotted (Text.trim left) a.name.toList ∧ .ofList (Text.unquote (Text.trim right)) = value
  like : ∀ p, Predicate.ofText text = .ok (.like a p) ↔
    ∃ left right, Text.cutAtFirst? [Predicate.equality, Predicate.likeness] (Text.trim text.toList) =
        some (left, Predicate.likeness, right) ∧
      Dotted (Text.trim left) a.name.toList ∧ Pattern.ofSource? (.ofList (Text.unquote (Text.trim right))) = some p
  reference : ∀ marker, slotValue marker text = .ok (.reference a) ↔
    ∃ name, text.toList = marker :: name ∧ Dotted name a.name.toList

theorem naming [Regex.Room] (text : String) (a : Asset) : Naming text a where
  found := Asset.ofName?_eq_some
  path := by rw [path_iff a.name_bare.1, Asset.ofName?_eq_some]
  present := Predicate.ofChars_eq_present
  equals _ := Predicate.ofChars_eq_equals
  like _ := Predicate.ofChars_eq_like
  reference _ := slotValue_eq_reference

/-- An asset is found by its name with points anywhere, in predicates and slot values alike, and by nothing else. What is found are
paths, and no others, as long as all points of the text stand between two words. -/
theorem points_are_passed_over [Regex.Room] (text : String) :
    (∀ a, Naming text a) ∧
    ((∀ a : Asset, Asset.ofName? text = some a ↔ Path text.toList a.name.toList) ↔
      ∀ a : Asset, Dotted text.toList a.name.toList → WellPlaced text.toList) ∧
    ∀ marker, slotValue marker (.ofList (marker :: text.toList)) =
        .error (.script (.unknownReference (.ofList (marker :: text.toList)))) ↔ ∀ a : Asset, ¬ Dotted text.toList a.name.toList := by
  refine ⟨naming text, forall_congr' fun a => ?_, fun _ => slotValue_eq_error⟩
  rw [(naming text a).path, (naming text a).found]
  exact iff_self_and

/-- Points before, in, and behind a word do not keep a script from being read, though no path has them there. -/
theorem stray_points_make_no_path :
    (∀ name ∈ [".Card", "C.ard", "Card."], Asset.ofName? name = some .card ∧ ¬ Path name.toList Asset.card.name.toList) ∧
      Node.ofTree '$' (.list [.map [("intent", .text "Order"), ("size", .text "$.Simple..Card.Ti.tle")], .text "C.ard"]) =
        .ok [.param (.intent "Order"), .param (.slot "size" (.reference .simpleCardTitle)), .check (.present .card)] := by
  have placed {name : List Char} (path : Path name Asset.card.name.toList) : WellPlaced name :=
    ((path_iff Asset.card.name_bare.1).mp path).2
  refine ⟨fun name stray => ?_, by rfl⟩
  simp only [List.mem_cons, List.not_mem_nil, or_false] at stray
  obtain rfl | rfl | rfl := stray
  · refine ⟨by decide +kernel, fun path => ?_⟩
    obtain ⟨⟨c, before, -⟩, -⟩ := placed path [] "Card".toList rfl
    cases before
  · refine ⟨by decide +kernel, fun path => ?_⟩
    obtain ⟨-, c, behind, upper⟩ := placed path "C".toList "ard".toList rfl
    cases behind
    revert upper
    decide
  · refine ⟨by decide +kernel, fun path => ?_⟩
    obtain ⟨-, c, behind, -⟩ := placed path "Card".toList [] rfl
    cases behind

end Rehearsal.Script
