import Rehearsal.Check.Predicate
import Rehearsal.Proofs.Text.Search

/-!
Comparisons as they are written. The first blank of a comparison stands behind the name on its left, so that
whatever stands inside quotes on its right is what the name is compared with.
-/
namespace Rehearsal.Check
open Text (Trimmed Quoted)

inductive Side where
  | asset (a : Asset)
  | key (k : String)

namespace Side

def equals (text : String) : Side → Predicate
  | .asset a => .equals a text
  | .key k => .attribute k (.equals text)

def like (p : Pattern) : Side → Predicate
  | .asset a => .like a p
  | .key k => .attribute k (.like p)

/-- The name is the side's: an asset's, or that of an attribute whose key is not empty and has no blanks. -/
def Named (name : String) : Side → Prop
  | .asset a => Asset.ofName? name = some a
  | .key k => name = "session." ++ k ∧ k ≠ "" ∧ ∀ c ∈ k.toList, Text.isBlank c = false

instance (name : String) : (side : Side) → Decidable (side.Named name)
  | .asset a => inferInstanceAs (Decidable (Asset.ofName? name = some a))
  | .key k => decidable_of_iff (name = "session." ++ k ∧ k ≠ "" ∧ k.toList.all (fun c => !Text.isBlank c) = true) (by simp [Named])

end Side

namespace Pattern
variable [Regex.Room]

/-- A source is a pattern if there is room for its expression. -/
theorem ofSource?_eq_some {source : String} {p : Pattern} :
    ofSource? source = some p ↔ p.source = source ∧ Regex.Room.holds p.expr = true := by
  rw [ofSource?]
  split
  · next e read =>
    constructor
    · intro found
      split_ifs at found with room
      cases found
      exact ⟨rfl, room⟩
    · rintro ⟨rfl, room⟩
      obtain ⟨source, expr, same⟩ := p
      cases same.symm.trans read
      exact if_pos room
  · next unread =>
    refine ⟨nofun, ?_⟩
    rintro ⟨rfl, -⟩
    cases p.expr_eq.symm.trans unread

theorem ofSource_eq_ok {source : String} {p : Pattern} : ofSource source = .ok p ↔ ofSource? source = some p := by
  rw [ofSource]
  split <;> simp_all

end Pattern

theorem Asset.name_bare (a : Asset) :
    a.name.toList ≠ [] ∧ (∀ c ∈ a.name.toList, Text.isBlank c = false) ∧ a.name.toList.head? ≠ some 's' := by
  have plain : a.name.toList.all (fun c => !Text.isBlank c) = true := by cases a <;> decide +kernel
  refine ⟨by cases a <;> decide +kernel, fun c hc => ?_, by cases a <;> decide +kernel⟩
  simpa using List.all_eq_true.mp plain c hc

section
variable {name : String} {side : Side}

theorem Asset.plain_of_ofName? {a : Asset} (found : Asset.ofName? name = some a) :
    name.toList.filter (· ≠ '.') = a.name.toList := by
  rw [Asset.ofName?] at found
  exact Eq.symm (by simpa using List.find?_some found)

/-- A text without blanks that is not empty: a name stands in a comparison as it is. -/
theorem Side.Named.bare (named : side.Named name) : name.toList ≠ [] ∧ ∀ c ∈ name.toList, Text.isBlank c = false := by
  cases side with
  | asset a =>
    have plain := Asset.plain_of_ofName? named
    obtain ⟨nonempty, bare, -⟩ := a.name_bare
    constructor
    · intro empty
      rw [empty] at plain
      exact nonempty plain.symm
    · intro c hc
      by_cases point : c = '.'
      · subst point
        decide
      · exact bare c (plain ▸ List.mem_filter.mpr ⟨hc, by simpa using point⟩)
  | key k =>
    obtain ⟨rfl, -, bare⟩ := named
    constructor
    · simp
    · intro c hc
      rw [String.toList_append, List.mem_append] at hc
      rcases hc with first | last
      · have plain : "session.".toList.all (fun c => !Text.isBlank c) = true := by decide
        simpa using List.all_eq_true.mp plain c first
      · exact bare c last

theorem Side.Named.trimmed (named : side.Named name) : Trimmed name.toList := by
  obtain ⟨nonempty, bare⟩ := named.bare
  exact ⟨nonempty, fun c hc => bare c (List.mem_of_head? hc), fun c hc => bare c (List.mem_of_getLast? hc)⟩

theorem Predicate.sessionPrefix_eq : Predicate.sessionPrefix = 's' :: "ession.".toList := rfl

/-- No name of an asset is taken for that of an attribute. -/
theorem Asset.other_prefix (a : Asset) {t : List Char} (plain : t.filter (· ≠ '.') = a.name.toList) :
    Predicate.sessionPrefix.isPrefixOf? t = none := by
  obtain ⟨nonempty, -, first⟩ := a.name_bare
  rw [← plain] at nonempty first
  cases t with
  | nil => exact absurd rfl nonempty
  | cons c rest =>
    have other : c ≠ 's' := by
      rintro rfl
      exact first (by rw [List.filter_cons_of_pos (by decide), List.head?_cons])
    have different : ¬ ('s' == c) = true := by simpa using Ne.symm other
    rw [Predicate.sessionPrefix_eq]
    exact if_neg different

/-- Either the name is an asset's and no attribute's, or it is read as the attribute of its key. -/
theorem Side.Named.read (named : side.Named name) :
    (∃ a, side = .asset a ∧ Predicate.attributeKey? name.toList = .ok none ∧ Predicate.assetOf name.toList = .ok a) ∨
      ∃ k, side = .key k ∧ Predicate.attributeKey? name.toList = .ok (some k) := by
  have trim := named.trimmed.trim_eq
  cases side with
  | asset a =>
    left
    refine ⟨a, rfl, ?_, ?_⟩
    · rw [Predicate.attributeKey?, trim, a.other_prefix (Asset.plain_of_ofName? named)]
    · have found : Asset.ofName? name = some a := named
      rw [Predicate.assetOf, trim, String.ofList_toList, Asset.ofName, found]
  | key k =>
    right
    obtain ⟨rfl, nonempty, bare⟩ := named
    refine ⟨k, rfl, ?_⟩
    have key : Predicate.sessionPrefix.isPrefixOf? ("session." ++ k).toList = some k.toList := by
      rw [String.toList_append]
      rfl
    have some : k.toList.isEmpty = false := by simpa using nonempty
    have plain : k.toList.any Text.isBlank = false := by simpa using bare
    rw [Predicate.attributeKey?, trim, key]
    simp only [some, plain, String.ofList_toList]
    rfl

end

namespace Predicate

def expected? : Predicate → Option String
  | .equals _ text | .attribute _ (.equals text) => some text
  | _ => none

/-- A text without operator names an attribute, else an assertion, else an asset. -/
theorem ofName_eq_ok {text : List Char} {p : Predicate} : ofName text = .ok p ↔
    (∃ key, attributeKey? text = .ok (some key) ∧ .attribute key .present = p) ∨
    attributeKey? text = .ok none ∧ ((∃ a, Assertion.ofName? (.ofList text) = some a ∧ .assertion a = p) ∨
      Assertion.ofName? (.ofList text) = none ∧ ∃ a, Asset.ofName? (.ofList text) = some a ∧ .present a = p) := by
  rw [ofName]
  cases key : attributeKey? text with
  | error f => simp [bind, Except.bind]
  | ok key? =>
    cases key? with
    | some key => simp [bind, Except.bind, pure, Except.pure]
    | none =>
      cases assertion : Assertion.ofName? (.ofList text) with
      | some a => simp [bind, Except.bind, pure, Except.pure, assertion]
      | none => cases asset : Asset.ofName? (.ofList text) <;> simp [bind, Except.bind, pure, Except.pure, assertion, asset]

theorem expected?_of_ofName {text : List Char} {p : Predicate} (read : ofName text = .ok p) : p.expected? = none := by
  obtain ⟨_, -, rfl⟩ | ⟨-, ⟨_, -, rfl⟩ | ⟨-, _, -, rfl⟩⟩ := ofName_eq_ok.mp read <;> rfl

section
variable {name : String} {side : Side} {op r : List Char}

theorem comparison_trimmed (named : side.Named name) (nonempty : r ≠ [])
    (last : ∀ c, r.getLast? = some c → Text.isBlank c = false) : Trimmed (name.toList ++ (op ++ r)) := by
  have first := named.trimmed
  refine ⟨by simp [first.nonempty], ?_, ?_⟩
  · rw [Text.head?_append_left first.nonempty]
    exact first.first
  · have ends : (name.toList ++ (op ++ r)).getLast? = r.getLast? := by
      rw [← List.append_assoc, List.getLast?_append, Option.or_of_isSome (by simp [nonempty])]
    rwa [ends]

theorem comparison_parts (named : side.Named name) (operator : op ∈ [equality, likeness]) :
    Text.cutAtFirst? [equality, likeness] (name.toList ++ (op ++ r)) = some (name.toList, op, r) := by
  have bare : ' ' ∉ name.toList := fun inside => absurd (named.bare.2 ' ' inside) (by decide)
  have front : Text.cutAtFirst? [equality, likeness] (op ++ r) = some ([], op, r) := by
    simp only [List.mem_cons, List.not_mem_nil, or_false] at operator
    rcases operator with rfl | rfl <;> rfl
  rw [Text.cutAtFirst?_append (by decide) bare, front]
  simp

variable [Regex.Room]

/-- The blanks around the right side of an equality do not count. -/
theorem ofChars_equality (named : side.Named name) (some : r.all Text.isBlank = false) :
    ofChars (name.toList ++ (equality ++ r)) = .ok (side.equals (.ofList (Text.unquote (Text.trim r)))) := by
  obtain ⟨a, m, b, rfl, before, behind, trimmed⟩ := Text.exists_trimmed some
  have right : Text.trim (a ++ m) = m := by simpa using trimmed.trim_padded (b := []) before nofun
  have whole : Trimmed (name.toList ++ (equality ++ (a ++ m))) := by
    have ends : (a ++ m).getLast? = m.getLast? := by
      rw [List.getLast?_append, Option.or_of_isSome (by simp [trimmed.nonempty])]
    exact comparison_trimmed named (by simp [trimmed.nonempty]) (ends ▸ trimmed.last)
  have text : Text.trim (name.toList ++ (equality ++ (a ++ m ++ b))) = name.toList ++ (equality ++ (a ++ m)) := by
    simpa using whole.trim_padded (a := []) nofun behind
  simp only [ofChars, text, comparison_parts named List.mem_cons_self, right, trimmed.trim_padded before behind, if_true]
  rcases named.read with ⟨a, rfl, none, asset⟩ | ⟨k, rfl, key⟩
  · rw [none]
    simp only [asset, bind, Except.bind, pure, Except.pure]
    rfl
  · rw [key]
    rfl

theorem ofChars_likeness (named : side.Named name) (trimmed : Trimmed r) :
    ofChars (name.toList ++ (likeness ++ r)) =
      (patternOf (.ofList (name.toList ++ (likeness ++ r))) (.ofList (Text.unquote r))).map fun p => side.like p := by
  have whole : Trimmed (name.toList ++ (likeness ++ r)) := comparison_trimmed named trimmed.nonempty trimmed.last
  have text := whole.trim_eq
  have other : likeness ≠ equality := by decide
  simp only [ofChars, text, comparison_parts named (List.mem_cons_of_mem _ List.mem_cons_self), trimmed.trim_eq, other, if_false]
  cases patternOf (.ofList (name.toList ++ (likeness ++ r))) (.ofList (Text.unquote r)) with
  | error f => rfl
  | ok p =>
    rcases named.read with ⟨a, rfl, none, asset⟩ | ⟨k, rfl, key⟩
    · simp only [none, asset, bind, Except.bind, pure, Except.pure, Except.map]
      rfl
    · simp only [key, bind, Except.bind, pure, Except.pure, Except.map]
      rfl

/-- Behind an equality there has to be something. -/
theorem ofChars_nothing (named : side.Named name) (blank : ∀ c ∈ r, Text.isBlank c = true) {p : Predicate}
    (read : ofChars (name.toList ++ (equality ++ r)) = .ok p) : p.expected? = none := by
  have whole : Trimmed (name.toList ++ ([] ++ " ==".toList)) := by
    refine comparison_trimmed named (by decide) fun c last => ?_
    obtain rfl : '=' = c := Option.some.inj last
    decide
  have behind : ∀ c ∈ ' ' :: r, Text.isBlank c = true := by
    simpa using ⟨by decide, blank⟩
  have text : Text.trim (name.toList ++ (equality ++ r)) = name.toList ++ " ==".toList := by
    simpa [equality] using whole.trim_padded (a := []) nofun behind
  have parts : Text.cutAtFirst? [equality, likeness] (name.toList ++ " ==".toList) = none := by
    have bare : ' ' ∉ name.toList := fun inside => absurd (named.bare.2 ' ' inside) (by decide)
    rw [Text.cutAtFirst?_append (by decide) bare]
    rfl
  simp only [ofChars, text, parts] at read
  exact expected?_of_ofName read

/-- A text that is compared with is the right side as it stands only if nothing is taken off it. -/
theorem expected_bare (named : side.Named name) :
    (∃ p, ofChars (name.toList ++ (equality ++ r)) = .ok p ∧ p.expected? = some (.ofList r)) ↔ Trimmed r ∧ ¬ Quoted r := by
  cases blank : r.all Text.isBlank with
  | true =>
    constructor
    · rintro ⟨p, read, expected⟩
      rw [ofChars_nothing named (List.all_eq_true.mp blank) read] at expected
      cases expected
    · rintro ⟨trimmed, -⟩
      simp [trimmed.not_all_blank] at blank
  | false =>
    rw [← Text.unquote_trim_eq_self_iff blank, ofChars_equality named blank]
    have expected (text : String) : (side.equals text).expected? = some text := by cases side <;> rfl
    simp [expected, String.ofList_inj]

end

theorem quoting_is_a_complete_escape [Regex.Room] {name : String} {side : Side} (named : side.Named name) (s : String) :
    (∀ q ∈ ['"', '\''],
      ofText (name ++ " == " ++ .singleton q ++ s ++ .singleton q) = .ok (side.equals s) ∧
      let likened := name ++ " =~ " ++ .singleton q ++ s ++ .singleton q
      (∀ p, Pattern.ofSource s = .ok p → ofText likened = .ok (side.like p) ∧ p.source = s) ∧
      (∀ f, Pattern.ofSource s = .error f → ofText likened = .error (.script (.pattern likened s Pattern.malformed)))) ∧
    ((∃ p, ofText (name ++ " == " ++ s) = .ok p ∧ p.expected? = some s) ↔ Trimmed s.toList ∧ ¬ Quoted s.toList) ∧
    (Trimmed s.toList ∧ ¬ Quoted s.toList → ofText (name ++ " == " ++ s) = .ok (side.equals s)) := by
  refine ⟨fun q quote => ?_, ?_, ?_⟩
  · have trimmed := Text.trimmed_quoted quote s.toList
    refine ⟨?_, ?_⟩
    · have read := ofChars_equality named trimmed.not_all_blank
      rw [trimmed.trim_eq, Text.unquote_quoted quote, String.ofList_toList] at read
      simpa [ofText, equality] using read
    · intro likened
      have text : likened.toList = name.toList ++ (likeness ++ (q :: s.toList ++ [q])) := by simp [likened, likeness]
      have read := ofChars_likeness named trimmed
      rw [Text.unquote_quoted quote, String.ofList_toList, ← text, String.ofList_toList] at read
      constructor
      · intro p accepted
        have found := Pattern.ofSource_eq_ok.mp accepted
        rw [patternOf, found] at read
        exact ⟨read, (Pattern.ofSource?_eq_some.mp found).1⟩
      · intro f refused
        have missing : Pattern.ofSource? s = none := by
          rw [Option.eq_none_iff_forall_ne_some]
          intro p found
          rw [Pattern.ofSource_eq_ok.mpr found] at refused
          cases refused
        rw [patternOf, missing] at read
        exact read
  · simpa [ofText, equality] using expected_bare (r := s.toList) named
  · rintro ⟨trimmed, bare⟩
    have kept := (Text.unquote_trim_eq_self_iff trimmed.not_all_blank).mpr ⟨trimmed, bare⟩
    have read := ofChars_equality named trimmed.not_all_blank
    rw [kept, String.ofList_toList] at read
    simpa [ofText, equality] using read

/-- Blanks, quotes and both operators inside quotes are part of the text. -/
theorem operators_in_quotes_are_text :
    (Side.asset .simpleCardTitle).Named "SimpleCard.Title" ∧ (Side.key "a==b").Named "session.a==b" ∧
      ofText "SimpleCard.Title == ' =~ \"x\" == '" = .ok (.equals .simpleCardTitle " =~ \"x\" == ") ∧
      ofText "session.a==b == '' =~ '" = .ok (.attribute "a==b" (.equals "' =~ ")) ∧
      ofText "session.a==b == ''" ≠ .ok (.attribute "a==b" (.equals "''")) := by
  have asset : (Side.asset .simpleCardTitle).Named "SimpleCard.Title" := by decide +kernel
  have key : (Side.key "a==b").Named "session.a==b" := by decide +kernel
  refine ⟨asset, key, ?_, ?_, ?_⟩
  · exact ((quoting_is_a_complete_escape asset " =~ \"x\" == ").1 '\'' (by decide)).1
  · exact ((quoting_is_a_complete_escape key "' =~ ").1 '\'' (by decide)).1
  · intro read
    have bare := (quoting_is_a_complete_escape key "''").2.1.mp ⟨_, read, rfl⟩
    exact bare.2 ⟨'\'', by decide, [], rfl⟩

end Predicate
end Rehearsal.Check
