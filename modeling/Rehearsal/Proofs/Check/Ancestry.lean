import Rehearsal.Check.Asset
import Rehearsal.Proofs.Json.Fields

/-!
Assets and their parents. What an asset is stands in the value of its parent, so along the parents it is found in the value
of its root, and nowhere else.
-/
namespace Rehearsal.Check
open Json Wire

namespace Asset

/-- The name that an asset has in its parent; the cards of a type are their parent itself. -/
def member? : Asset → Option String
  | .simpleCardTitle | .standardCardTitle | .linkAccountCardTitle => some "title"
  | .simpleCardContent => some "content"
  | .standardCardText | .outputSpeechPlainText | .repromptSpeechPlainText => some "text"
  | .standardCardImage => some "image"
  | .standardCardImageSmall => some "smallImageUrl"
  | .standardCardImageLarge => some "largeImageUrl"
  | .outputSpeechSsml | .repromptSpeechSsml => some "ssml"
  | .directivePlayBehavior => some "playBehavior"
  | .directivePlayAudioItem => some "audioItem"
  | .directivePlayAudioItemStream => some "stream"
  | .directivePlayAudioItemStreamUrl => some "url"
  | .directivePlayAudioItemStreamToken => some "token"
  | .directivePlayAudioItemStreamPreviousToken => some "expectedPreviousToken"
  | .directivePlayAudioItemStreamOffset => some "offsetInMilliseconds"
  | .directiveClearQueueBehavior => some "clearBehavior"
  | .card | .simpleCard | .standardCard | .linkAccountCard | .outputSpeech | .repromptSpeech | .directivePlay | .directiveStop
  | .directiveClearQueue => none

/-- The part of a parent that an asset is. -/
def PartOf (a : Asset) (parent : Members) (v : Value) : Prop :=
  match a.member? with
  | none => v = .object parent
  | some name => Members.get? parent name = some v

def kind? : Asset → Option (Directive → Bool)
  | .directivePlay => some Directive.isPlay
  | .directiveStop => some Directive.isStop
  | .directiveClearQueue => some Directive.isClearQueue
  | _ => none

def path (a : Asset) : List String := a.lineage.reverse.filterMap member?

theorem lineage_root {a : Asset} (root : a.parent? = none) : a.lineage = [a] := by
  unfold lineage
  split
  · rfl
  · rename_i p parent
    cases root.symm.trans parent

theorem lineage_child {a p : Asset} (parent : a.parent? = some p) : a.lineage = a :: p.lineage := by
  rw [lineage]
  split
  · rename_i root
    cases root.symm.trans parent
  · rename_i q other
    rw [Option.some.inj (other.symm.trans parent)]

theorem lineage_eq_cons (a : Asset) : a.lineage = a :: a.lineage.tail := by
  cases parent : a.parent? with
  | none => rw [lineage_root parent, List.tail_cons]
  | some p => rw [lineage_child parent, List.tail_cons]

theorem path_root {a : Asset} (root : a.parent? = none) : a.path = [] := by
  have unnamed : a.member? = none := by cases a <;> first | rfl | cases root
  simp [path, lineage_root root, unnamed]

theorem path_child {a p : Asset} (parent : a.parent? = some p) : a.path = p.path ++ a.member?.toList := by
  rw [path, lineage_child parent, List.reverse_cons, List.filterMap_append]
  cases named : a.member? <;> simp [path, named]

end Asset

def follow : List String → Value → Option Value
  | [], v => some v
  | name :: rest, .object m => (Members.get? m name).bind (follow rest)
  | _ :: _, _ => none

theorem follow_append (names more : List String) (v : Value) : follow (names ++ more) v = (follow names v).bind (follow more) := by
  induction names generalizing v with
  | nil => rfl
  | cons name rest ih =>
    cases v with
    | object m =>
      rw [List.cons_append, follow, follow, Option.bind_assoc]
      exact congrArg _ (funext ih)
    | _ => rfl

variable {r : Response} {a p : Asset} {v : Value}

/-! A part of a record is what was set down under its name. -/
section
variable {members : List (String × Option Outline)} {name : String} (distinct : (members.map (·.1)).Nodup)
  (named : a.member? = some name)
include distinct named

theorem part_of_present {α : Type} {x : Option α} {write : α → Outline} (member : (name, x.map write) ∈ members)
    (there : x.map (fun y => (write y).toValue) = some v) : ∃ m, (Outline.present members).toValue = .object m ∧ a.PartOf m v := by
  obtain ⟨m, record, found⟩ := Outline.get?_present distinct member
  refine ⟨m, record, ?_⟩
  rw [Option.map_map] at found
  rw [Asset.PartOf, named]
  exact found.trans there

theorem part_of_text {s : Option String} (member : (name, textOutline s) ∈ members) (there : textValue s = some v) :
    ∃ m, (Outline.present members).toValue = .object m ∧ a.PartOf m v :=
  part_of_present distinct named member there

theorem part_of_given {o : Outline} (member : (name, some o) ∈ members) :
    ∃ m, (Outline.present members).toValue = .object m ∧ a.PartOf m o.toValue :=
  part_of_present (x := some o) distinct named (show (name, (some o).map id) ∈ members from member) rfl

end

theorem part_of_parent (parent : a.parent? = some p) (there : a.value? r = some v) :
    ∃ m, p.value? r = some (.object m) ∧ a.PartOf m v := by
  -- one case for each asset with a parent, together where they look at the response in one way
  cases a <;> cases parent <;> simp only [Asset.value?] at there ⊢
  case simpleCard | standardCard | linkAccountCard =>
    split at there
    · rename_i given
      cases there
      rw [given]
      exact ⟨_, rfl, rfl⟩
    · cases there
  case simpleCardTitle | simpleCardContent | standardCardTitle | standardCardText =>
    split at there
    · rename_i given
      cases there
      simp only [given, Option.some.injEq]
      exact part_of_given (o := .text _) (by simp) rfl (by simp)
    · cases there
  case linkAccountCardTitle =>
    split at there
    · rename_i given
      simp only [given, Option.some.injEq]
      exact part_of_text (by simp) rfl (by simp) there
    · cases there
  case standardCardImage =>
    unfold image? at there
    split at there
    · rename_i given
      simp only [given, Option.some.injEq]
      exact part_of_present (by simp) rfl (by simp) there
    · cases there
  case standardCardImageSmall | standardCardImageLarge =>
    obtain ⟨i, given, there⟩ := Option.bind_eq_some_iff.mp there
    simp only [given, Option.map_some, Option.some.injEq]
    exact part_of_text (by simp) rfl (by simp) there
  case outputSpeechSsml | outputSpeechPlainText | repromptSpeechSsml | repromptSpeechPlainText =>
    simp only [ssml?, plainText?] at there
    split at there
    · rename_i given
      cases there
      simp only [given, Option.map_some, Option.some.injEq]
      exact part_of_given (o := .text _) (by simp) rfl (by simp)
    · cases there
  case directivePlayBehavior | directiveClearQueueBehavior =>
    split at there
    · rename_i given
      cases there
      simp only [given, Option.map_some, Option.some.injEq]
      exact part_of_given (o := .text _) (by simp) rfl (by simp)
    · cases there
  case directivePlayAudioItem =>
    unfold audioItem? at there
    split at there
    · rename_i given
      simp only [given, Option.map_some, Option.some.injEq]
      exact part_of_present (by simp) rfl (by simp) there
    · cases there
  case directivePlayAudioItemStream =>
    rw [stream?, Option.map_bind] at there
    obtain ⟨i, given, there⟩ := Option.bind_eq_some_iff.mp there
    simp only [given, Option.map_some, Option.some.injEq]
    exact part_of_present (by simp) rfl (by simp) there
  case directivePlayAudioItemStreamOffset =>
    obtain ⟨s, given, rfl⟩ := Option.map_eq_some_iff.mp there
    simp only [given, Option.map_some, Option.some.injEq]
    exact part_of_given (o := .leaf _) (by simp) rfl (by simp)
  case directivePlayAudioItemStreamUrl | directivePlayAudioItemStreamToken | directivePlayAudioItemStreamPreviousToken =>
    obtain ⟨s, given, there⟩ := Option.bind_eq_some_iff.mp there
    simp only [given, Option.map_some, Option.some.injEq]
    exact part_of_text (by simp) rfl (by simp) there

theorem follow_part {m : Members} (part : a.PartOf m v) : follow a.member?.toList (.object m) = some v := by
  unfold Asset.PartOf at part
  split at part
  · rename_i whole
    rw [whole, part]
    rfl
  · rename_i name named
    rw [named, Option.toList_some, follow, part]
    rfl

/-- Along the parents, from the asset up to its root. -/
theorem ancestors_objects (there : a.value? r = some v) : ∀ b ∈ a.lineage.tail, ∃ m, b.value? r = some (.object m) := by
  induction a using Asset.lineage.induct generalizing v with
  | case1 a root =>
    rw [Asset.lineage_root root]
    exact List.forall_mem_nil _
  | case2 a p parent ih =>
    obtain ⟨m, above, -⟩ := part_of_parent parent there
    rw [Asset.lineage_child parent, List.tail_cons, Asset.lineage_eq_cons]
    exact List.forall_mem_cons.mpr ⟨⟨m, above⟩, ih above⟩

/-- From the root down to the asset. -/
theorem followed_from_root (there : a.value? r = some v) {root : Asset} (member : root ∈ a.lineage) (top : root.parent? = none) :
    ∃ w, root.value? r = some w ∧ follow a.path w = some v := by
  induction a using Asset.lineage.induct generalizing v with
  | case1 a lone =>
    rw [Asset.lineage_root lone, List.mem_singleton] at member
    subst member
    exact ⟨v, there, by rw [Asset.path_root lone, follow]⟩
  | case2 a p parent ih =>
    rw [Asset.lineage_child parent, List.mem_cons] at member
    obtain rfl | member := member
    · cases top.symm.trans parent
    obtain ⟨m, above, part⟩ := part_of_parent parent there
    obtain ⟨w, found, followed⟩ := ih above member
    refine ⟨w, found, ?_⟩
    rw [Asset.path_child parent, follow_append, followed]
    exact follow_part part

theorem exists_root (a : Asset) : ∃ root ∈ a.lineage, root.parent? = none := by
  induction a using Asset.lineage.induct with
  | case1 a root => exact ⟨a, by simp [Asset.lineage_root root], root⟩
  | case2 a p parent ih =>
    obtain ⟨root, member, top⟩ := ih
    exact ⟨root, by simp [Asset.lineage_child parent, member], top⟩

theorem first_of_kind {kind : Directive → Bool} (family : a.kind? = some kind) :
    a.parent? = none ∧ a.value? r = (r.directives.find? kind).map (·.toValue) := by
  cases a <;> cases family <;> exact ⟨rfl, rfl⟩

theorem assets_stand_in_their_parents (there : a.value? r = some v) :
    (∀ b ∈ a.lineage.tail, ∃ m, b.value? r = some (.object m)) ∧
    (∀ b ∈ a.lineage, ∀ p, b.parent? = some p →
      ∃ m w, p.value? r = some (.object m) ∧ b.value? r = some w ∧ b.PartOf m w) ∧
    (∃ root ∈ a.lineage, root.parent? = none ∧ ∃ w, root.value? r = some w ∧ follow a.path w = some v) ∧
    ∀ b ∈ a.lineage, ∀ kind, b.kind? = some kind → ∃ before d after, r.directives = before ++ d :: after ∧
      (∀ e ∈ before, kind e = false) ∧ kind d = true ∧ b.value? r = some d.toValue ∧ follow a.path d.toValue = some v := by
  refine ⟨ancestors_objects there, fun b member p parent => ?_, ?_, fun b member kind family => ?_⟩
  · have found : ∃ w, b.value? r = some w := by
      rw [Asset.lineage_eq_cons, List.mem_cons] at member
      obtain rfl | above := member
      · exact ⟨v, there⟩
      · obtain ⟨m, found⟩ := ancestors_objects there b above
        exact ⟨_, found⟩
    obtain ⟨w, found⟩ := found
    obtain ⟨m, above, part⟩ := part_of_parent parent found
    exact ⟨m, w, above, found, part⟩
  · obtain ⟨root, member, top⟩ := exists_root a
    exact ⟨root, member, top, followed_from_root there member top⟩
  · obtain ⟨top, first⟩ := first_of_kind (r := r) family
    obtain ⟨w, found, followed⟩ := followed_from_root there member top
    rw [first] at found
    obtain ⟨d, given, rfl⟩ := Option.map_eq_some_iff.mp found
    obtain ⟨isKind, before, after, split, others⟩ := List.find?_eq_some_iff_append.mp given
    refine ⟨before, d, after, split, fun e earlier => ?_, isKind, by rw [first, given, Option.map_some], followed⟩
    simpa using others e earlier

def twoPlays : Response where
  body := { directives := [.unsupported, .play .enqueue (some { stream := some { url := some "a" } }),
    .play .replaceAll (some { stream := some { url := some "b" } })] }

theorem url_of_first_play : Asset.value? twoPlays .directivePlayAudioItemStreamUrl = some (.string "a") ∧
    ∃ d : Directive, d.isPlay = true ∧ Asset.value? twoPlays .directivePlay = some d.toValue ∧
      follow ["audioItem", "stream", "url"] d.toValue = some (.string "a") := by
  have there : Asset.value? twoPlays .directivePlayAudioItemStreamUrl = some (.string "a") := rfl
  have top : .directivePlay ∈ Asset.lineage .directivePlayAudioItemStreamUrl := by simp [Asset.lineage, Asset.parent?]
  have path : Asset.path .directivePlayAudioItemStreamUrl = ["audioItem", "stream", "url"] := by
    simp [Asset.path, Asset.lineage, Asset.parent?]
    rfl
  obtain ⟨-, d, -, -, -, plays, found, followed⟩ := (assets_stand_in_their_parents there).2.2.2 _ top _ rfl
  exact ⟨there, d, plays, found, path ▸ followed⟩

end Rehearsal.Check
