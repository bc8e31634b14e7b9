import Mathlib.Data.List.InsertIdx
import Rehearsal.Proofs.Json.Changing
import Rehearsal.Proofs.Json.Fields
import Rehearsal.Wire.ResponseText

/-!
Directives and cards of types that are not known. They are read as `unsupported`, whatever else they hold, so that a response
with one more of them is read as it was but for that.
-/
namespace Rehearsal.Wire
open Json

/-- An object of a type that is not among the known ones: it tells its type once, and can be read where it stands. -/
structure Foreign (known : List String) (depth : Nat) (s : Source) : Prop where
  typed : ∃ members tag, s = .object members ∧
    members.filter (·.1 = some "type") = [(some "type", .string (some tag))] ∧ tag ∉ known
  readable : (s.value? depth).isSome = true

def Directive.types : List String := ["AudioPlayer.Play", "AudioPlayer.Stop", "AudioPlayer.ClearQueue"]

def Card.types : List String := ["Simple", "Standard", "LinkAccount"]

variable {depth : Nat} {s : Source}

theorem Foreign.tagged? {known : List String} (foreign : Foreign known depth s) :
    ∃ tag rest, s.tagged? depth = some (tag, .object rest) ∧ tag ∉ known := by
  obtain ⟨⟨members, tag, rfl, once, unknown⟩, readable⟩ := foreign
  refine ⟨tag, members.filter fun m => !decide (m.1 = some "type"), ?_, unknown⟩
  have read : ¬((Source.object members).value? depth).isNone = true := by
    rw [Option.isNone_iff_eq_none]
    exact Option.isSome_iff_ne_none.mp readable
  unfold Source.tagged?
  rw [if_neg read]
  dsimp only
  rw [List.partition_eq_filter_filter, once]
  rfl

theorem Directive.ofSource?_foreign (foreign : Foreign types depth s) : ofSource? depth s = some .unsupported := by
  obtain ⟨tag, rest, read, unknown⟩ := foreign.tagged?
  rw [ofSource?, read]
  simp only [Option.bind_eq_bind, Option.bind_some]
  split
  · simp [types] at unknown
  · simp [types] at unknown
  · simp [types] at unknown
  · rfl

theorem Card.ofSource?_foreign (foreign : Foreign types depth s) : ofSource? depth s = some .unsupported := by
  obtain ⟨tag, rest, read, unknown⟩ := foreign.tagged?
  rw [ofSource?, read]
  simp only [Option.bind_eq_bind, Option.bind_some]
  split
  · simp [types] at unknown
  · simp [types] at unknown
  · simp [types] at unknown
  · rfl

def insertItem (place : Nat) (s : Source) : Source → Source
  | .array items => .array (items.insertIdx place s)
  | v => v

theorem mapM_insertIdx {α β : Type} {read : α → Option β} {items : List α} {x : α} {y : β} {out : List β}
    (reads : items.mapM read = some out) (here : read x = some y) (place : Nat) :
    (items.insertIdx place x).mapM read = some (out.insertIdx place y) := by
  induction items generalizing place out with
  | nil =>
    cases reads
    cases place <;> simp [here]
  | cons a rest ih =>
    simp only [List.mapM_cons, Option.bind_eq_bind, Option.bind_eq_some_iff, Option.pure_def, Option.some.injEq] at reads
    obtain ⟨b, first, others, more, rfl⟩ := reads
    cases place with
    | zero => simp [here, first, more]
    | succ place => simp [first, ih more]

theorem items?_insertItem {α : Type} {read : Source → Option α} {v : Source} {out : List α} {d : α}
    (reads : v.items? depth read = some out) (here : read s = some d) (place : Nat) :
    (insertItem place s v).items? depth read = some (out.insertIdx place d) := by
  unfold Source.items? at reads
  split at reads
  · split at reads
    · cases reads
    · rename_i deep
      rw [insertItem, Source.items?, if_neg deep, mapM_insertIdx reads here]
  · cases reads

namespace Body

def names : List String := ["shouldEndSession", "outputSpeech", "reprompt", "card", "directives"]

def withDirective (place : Nat) (s : Source) : Source → Source :=
  .upsert "directives" (names.idxOf "directives") (.array []) (insertItem place s)

def withCard (s : Source) : Source → Source :=
  .upsert "card" (names.idxOf "card") .null fun _ => s

variable {v : Source} {b : Body}

theorem ofSource?_withDirective {d : Directive} (deep : 2 ≤ depth) (read : ofSource? depth v = some b)
    (here : Directive.ofSource? (depth - 2) s = some d) (place : Nat) :
    ofSource? depth (withDirective place s v) = some { b with directives := b.directives.insertIdx place d } := by
  simp only [ofSource?, Option.bind_eq_bind, Option.bind_eq_some_iff, Option.pure_def, Option.some.injEq] at read
  obtain ⟨f, known, shouldEnd, ends, speech, speaks, reprompt, asks, card, shows, directives, does, rfl⟩ := read
  obtain ⟨g, read, changed⟩ : ∃ g, (withDirective place s v).fields? names depth = some g ∧
    Fields.Changed names "directives" (.array []) (insertItem place s) f g := Source.fields?_upsert (by decide) known
  have does : Fields.getD g "directives" [] (·.items? (depth - 1) (Directive.ofSource? (depth - 2))) =
      some (directives.insertIdx place d) := by
    rw [Fields.getD, changed.here]
    unfold Fields.getD at does
    cases was : List.lookup "directives" f with
    | none =>
      -- no directives so far: the new one goes into an empty list
      rw [was] at does
      cases does
      refine items?_insertItem ?_ here place
      rw [Option.getD_none, Source.items?, if_neg (by omega)]
      rfl
    | some items =>
      rw [was] at does
      exact items?_insertItem does here place
  rw [ofSource?]
  change (withDirective place s v).fields? names depth >>= _ = _
  rw [read]
  simp only [Option.bind_eq_bind, Option.bind_some]
  rw [changed.get? (by decide), ends, changed.get? (by decide), speaks, changed.get? (by decide), asks,
    changed.get? (by decide), shows, does]
  rfl

theorem ofSource?_withCard {c : Card} (read : ofSource? depth v = some b) (here : Card.ofSource? (depth - 1) s = some c) :
    ofSource? depth (withCard s v) = some { b with card := c } := by
  simp only [ofSource?, Option.bind_eq_bind, Option.bind_eq_some_iff, Option.pure_def, Option.some.injEq] at read
  obtain ⟨f, known, shouldEnd, ends, speech, speaks, reprompt, asks, card, shows, directives, does, rfl⟩ := read
  obtain ⟨g, read, changed⟩ : ∃ g, (withCard s v).fields? names depth = some g ∧
    Fields.Changed names "card" .null (fun _ => s) f g := Source.fields?_upsert (by decide) known
  have shows : Fields.get? g "card" (Card.ofSource? (depth - 1)) = some (some c) := by
    rw [Fields.get?, Fields.getD, changed.here]
    exact Source.nullable?_of_refuses rfl here
  rw [ofSource?]
  change (withCard s v).fields? names depth >>= _ = _
  rw [read]
  simp only [Option.bind_eq_bind, Option.bind_some]
  rw [changed.get? (by decide), ends, changed.get? (by decide), speaks, changed.get? (by decide), asks, shows,
    changed.getD_behind (by decide) (by decide), does]
  rfl

end Body

/-- Blanks spell no value. -/
theorem ofBytes?_blank {bytes : List UInt8} (blank : bytes.all Text.isBlankByte = true) : Source.ofBytes? bytes = none := by
  suffices ((Text.Utf8.decodeFrom none bytes).foldlM Reading.step {}).bind Reading.finish = none from this
  induction bytes with
  | nil => rfl
  | cons b rest ih =>
    obtain ⟨first, others⟩ := Bool.and_eq_true_iff.mp (List.all_cons.symm.trans blank)
    simp only [Text.isBlankByte, Bool.or_eq_true, beq_iff_eq] at first
    obtain (((rfl | rfl) | rfl) | rfl) | rfl := first
    · exact ih others
    · exact ih others
    · exact ih others
    · rfl
    · exact ih others

namespace Response
variable {r : Response} {members : List (Option String × Source)}

def withBody (change : Source → Source) (members : List (Option String × Source)) : List (Option String × Source) :=
  upsert (some "response") (.object []) change members

theorem read_spelled {bytes : List UInt8} (spelled : Source.ofBytes? bytes = some s) :
    read bytes = match ofSource? depthLimit s with | some r => .response r | none => .malformed := by
  have solid : bytes.all Text.isBlankByte = false := by
    rw [← Bool.not_eq_true]
    intro blank
    rw [ofBytes?_blank blank] at spelled
    cases spelled
  rw [read, solid, if_neg Bool.false_ne_true, spelled]
  rfl

theorem read_iff {bytes : List UInt8} (spelled : Source.ofBytes? bytes = some s) :
    read bytes = .response r ↔ ofSource? depthLimit s = some r := by
  rw [read_spelled spelled]
  cases ofSource? depthLimit s <;> simp

theorem ofSource?_withBody {change : Source → Source} {b : Body} (deep : 2 ≤ depth) (read : ofSource? depth (.object members) = some r)
    (body : ∀ v, Body.ofSource? (depth - 1) v = some r.body → Body.ofSource? (depth - 1) (change v) = some b) :
    ofSource? depth (.object (withBody change members)) = some { r with body := b } := by
  simp only [ofSource?, Option.bind_eq_bind, Option.bind_eq_some_iff, Option.pure_def, Option.some.injEq] at read
  obtain ⟨f, known, version, names, attributes, keeps, was, holds, rfl⟩ := read
  have changed : (Source.object (withBody change members)).fields? ["version", "sessionAttributes", "response"] depth =
    some (upsert "response" (.object []) change f) := fields?_upsert rfl known
  have holds : Fields.getD (upsert "response" (.object []) change f) "response" {} (Body.ofSource? (depth - 1)) = some b := by
    rw [Fields.getD, lookup_upsert]
    unfold Fields.getD at holds
    cases there : List.lookup "response" f with
    | none =>
      rw [there] at holds
      cases holds
      refine body _ ?_
      rw [Option.getD_none, Body.ofSource?, Source.fields?, if_neg (by omega)]
      rfl
    | some v =>
      rw [there] at holds
      exact body v holds
  have others {other : String} (apart : other ≠ "response") :
      List.lookup other (upsert "response" (.object []) change f) = List.lookup other f := lookup_upsert_other apart f
  rw [ofSource?, changed]
  simp only [Option.bind_eq_bind, Option.bind_some]
  rw [holds]
  simp only [Fields.get?, Fields.getD, others (show "version" ≠ "response" by decide),
    others (show "sessionAttributes" ≠ "response" by decide)] at names keeps ⊢
  rw [names, keeps]
  rfl

section
variable {bytes bytes' : List UInt8} (given : read bytes = .response r) (spelled : Source.ofBytes? bytes = some (.object members))
include given spelled

theorem read_withDirective {place : Nat} (foreign : Foreign Directive.types (depthLimit - 3) s)
    (spelled' : Source.ofBytes? bytes' = some (.object (withBody (Body.withDirective place s) members))) :
    read bytes' = .response { r with body := { r.body with directives := r.directives.insertIdx place .unsupported } } := by
  rw [read_iff spelled] at given
  refine (read_iff spelled').mpr (ofSource?_withBody (by decide) given fun v body => ?_)
  exact Body.ofSource?_withDirective (by decide) body (Directive.ofSource?_foreign foreign) place

theorem read_withCard (foreign : Foreign Card.types (depthLimit - 2) s)
    (spelled' : Source.ofBytes? bytes' = some (.object (withBody (Body.withCard s) members))) :
    read bytes' = .response { r with body := { r.body with card := some .unsupported } } := by
  rw [read_iff spelled] at given
  refine (read_iff spelled').mpr (ofSource?_withBody (by decide) given fun v body => ?_)
  exact Body.ofSource?_withCard body (Card.ofSource?_foreign foreign)

end
end Response
end Rehearsal.Wire
