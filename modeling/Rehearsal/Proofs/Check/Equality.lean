import Rehearsal.Check.Verdict
import Rehearsal.Proofs.Check.Ancestry
import Rehearsal.Proofs.Json.Meaning
import Rehearsal.Proofs.Wire.Response
import Rehearsal.Script.Run

/-!
Equality checks. They compare texts, and decide with them whether the expected text says the value that is there: for arrays
and objects in whatever order the members stand, for all else as the one text that the value has.
-/
namespace Rehearsal.Check
open Json Wire Script

/-- Is the text one for the value? -/
def Taken (v : Value) (text : String) : Prop :=
  match v with
  | .null => text = "null"
  | .bool b => text = toString b
  | .number (.int n) => text = toString n
  | .number (.float _) => text = v.render
  | .string s => text = s
  | .array _ | .object _ => v.SaidBy text

theorem render_int (n : Int) : Value.render (.number (.int n)) = toString n := ofList_intText n

/-- An expected text that is no JSON stands for itself, and that is no text of a value. -/
theorem render_eq_iff {v : Value} {text : String} (portable : v.Portable depthLimit) :
    (v.render = match Value.ofText? text with | some w => w.render | none => text) ↔ v.SaidBy text := by
  rw [Value.saidBy_iff portable.ordered]
  cases read : Value.ofText? text with
  | none =>
    refine iff_of_false (fun same => ?_) (Option.some_ne_none v).symm
    have same : v.render = text := same
    rw [← same, Value.ofText?_render portable] at read
    cases read
  | some w =>
    obtain ⟨s, -, valued⟩ := Option.bind_eq_some_iff.mp read
    have finite : w.isFinite = true := (s.value?_shape valued).finite
    constructor
    · intro same
      rw [Value.render_injective portable.whole finite same]
    · intro same
      rw [Option.some.inj same]

theorem valueEquals_iff {v : Value} {text : String} (portable : v.Portable depthLimit) :
    valueEquals v text = true ↔ Taken v text := by
  cases v with
  | null => simp [valueEquals, Taken, Value.text, Value.render, Value.chars, eq_comm]
  | bool b => cases b <;> simp [valueEquals, Taken, Value.text, Value.render, Value.chars, eq_comm, toString]
  | number n =>
    cases n with
    | int n => simp [valueEquals, Taken, Value.text, render_int, eq_comm]
    | float x => cases portable.whole
  | string s => simp [valueEquals, Taken, Value.text, eq_comm]
  | array items => exact decide_eq_true_iff.trans (render_eq_iff portable)
  | object members => exact decide_eq_true_iff.trans (render_eq_iff portable)

theorem taken_text {v : Value} (portable : v.Portable depthLimit) : Taken v v.text := by
  rw [← valueEquals_iff portable]
  cases v with
  | array items | object members => simp [valueEquals, Value.text, Value.ofText?_render portable]
  | _ => simp [valueEquals]

/-- A member opens no more than its object. -/
theorem shape_member {depth : Nat} {m : Members} {name : String} {v : Value} (found : Members.get? m name = some v)
    (ordered : Value.isOrdered (.object m) = true) (nested : Value.nesting (.object m) ≤ depth) :
    (name, v) ∈ m ∧ v.isOrdered = true ∧ v.nesting ≤ depth := by
  obtain ⟨rising, ordered⟩ := Value.isOrdered_object.mp ordered
  have member : (name, v) ∈ m := (Keyed.lookup_eq_some_iff (Keyed.nodup_of_rising rising)).mp found
  exact ⟨member, ordered _ member, Nat.le_trans ((Value.nesting_object_le.mp nested).2 _ member) (Nat.sub_le ..)⟩

theorem portable_root {r : Response} (fits : ∀ n ∈ r.offsets, Text.fitsSigned 64 n = true) {a : Asset} {v : Value}
    (root : a.parent? = none) (there : a.value? r = some v) : v.Portable depthLimit := by
  have first {kind : Directive → Bool} (there : (r.directives.find? kind).map (·.toValue) = some v) : v.Portable depthLimit := by
    obtain ⟨d, found, rfl⟩ := Option.map_eq_some_iff.mp there
    exact (d.legible (Response.fits_of_offsets fits d (List.mem_of_find?_eq_some found)) (by decide)).portable
  cases a with
  | directivePlay | directiveStop | directiveClearQueue => exact first there
  | card =>
    obtain ⟨c, -, rfl⟩ := Option.map_eq_some_iff.mp there
    exact (c.legible (by decide)).portable
  | outputSpeech | repromptSpeech =>
    obtain ⟨s, -, rfl⟩ := Option.map_eq_some_iff.mp there
    exact (s.legible (by decide)).portable
  | _ => cases root

/-- Where the streams of the directives begin within 64 bits, every asset is carried by its text. -/
theorem portable_asset {r : Response} (fits : ∀ n ∈ r.offsets, Text.fitsSigned 64 n = true) {a : Asset} {v : Value}
    (there : a.value? r = some v) : v.Portable depthLimit := by
  -- from the root down: a part opens no more than what it is a part of
  induction a using Asset.lineage.induct generalizing v with
  | case1 a root => exact portable_root fits root there
  | case2 a p parent ih =>
    obtain ⟨m, above, part⟩ := part_of_parent parent there
    have portable := ih above
    unfold Asset.PartOf at part
    split at part
    · exact part ▸ portable
    · obtain ⟨member, ordered, nested⟩ := shape_member part portable.ordered portable.nested
      exact ⟨Value.isWhole_object.mp portable.whole _ member, ordered, nested⟩

theorem unwrapSlot_cases (v : Value) : unwrapSlot v = v ∨ ∃ m, v = .object m ∧ Members.get? m "value" = some (unwrapSlot v) := by
  unfold unwrapSlot
  split
  · rename_i m
    split
    · rename_i value
      exact .inr ⟨m, rfl, value⟩
    · exact .inl rfl
  · exact .inl rfl

/-- Of what was read as an attribute, only the numbers may be more than a text carries. -/
theorem portable_attribute {bytes : List UInt8} {r : Response} (given : Response.read bytes = .response r) {key : String}
    {v : Value} (there : attribute? r key = some v) (whole : v.isWhole = true) : v.Portable depthLimit := by
  obtain ⟨w, found, rfl⟩ := Option.map_eq_some_iff.mp there
  obtain ⟨m, attributes, found⟩ := Option.bind_eq_some_iff.mp found
  obtain ⟨ordered, nested⟩ := (Response.read_shape given).1 m attributes
  obtain ⟨-, ordered, nested⟩ := shape_member found ordered (Nat.le_trans nested (Nat.sub_le depthLimit 1))
  obtain same | ⟨m, rfl, value⟩ := unwrapSlot_cases w
  · rw [same] at whole ⊢
    exact ⟨whole, ordered, nested⟩
  · obtain ⟨-, ordered, nested⟩ := shape_member value ordered nested
    exact ⟨whole, ordered, nested⟩

theorem attribute_equals_iff {r : Response} {key : String} (portable : ∀ v, attribute? r key = some v → v.Portable depthLimit)
    {text : String} : (AttributeCheck.equals text).holds r key = true ↔ ∃ v, attribute? r key = some v ∧ Taken v text := by
  unfold AttributeCheck.holds
  cases found : attribute? r key with
  | none => simp
  | some v => simpa using valueEquals_iff (portable v found)

section
variable {r : Response} (fits : ∀ n ∈ r.offsets, Text.fitsSigned 64 n = true) {a : Asset}
include fits

theorem asset_equals_iff {expected : Option String} : a.equals r expected = true ↔ Option.Rel Taken (a.value? r) expected := by
  unfold Asset.equals
  cases found : a.value? r with
  | none =>
    cases expected with
    | none => exact iff_of_true rfl .none
    | some text => exact iff_of_false Bool.false_ne_true nofun
  | some v =>
    cases expected with
    | none => exact iff_of_false Bool.false_ne_true nofun
    | some text =>
      refine (valueEquals_iff (portable_asset fits found)).trans ⟨.some, ?_⟩
      rintro ⟨taken⟩
      exact taken

theorem equals_text {v : Value} (found : a.value? r = some v) : a.equals r (some v.text) = true := by
  rw [asset_equals_iff fits, found]
  exact .some (taken_text (portable_asset fits found))

end

theorem equality_decides_sameness {r : Response} (fits : ∀ n ∈ r.offsets, Text.fitsSigned 64 n = true) :
    (∀ a expected, Asset.equals r a expected = true ↔ Option.Rel Taken (Asset.value? r a) expected) ∧
    (∀ a v expected, Asset.value? r a = some v → requireEquals r a expected = .ok () ∨
      ∃ check text, requireEquals r a expected = .error (.validation check (some text)) ∧
        requireEquals r a (some text) = .ok ()) ∧
    (∀ a text, (SlotValue.reference a).resolve (some r) = .ok text → Asset.equals r a (some text) = true) ∧
    ∀ key, (∀ v, attribute? r key = some v → v.Portable depthLimit) →
      (∀ text, (AttributeCheck.equals text).holds r key = true ↔ ∃ v, attribute? r key = some v ∧ Taken v text) ∧
      ∀ v expected, attribute? r key = some v → requireAttribute r key (.equals expected) = .ok () ∨
        ∃ check text, requireAttribute r key (.equals expected) = .error (.validation check (some text)) ∧
          requireAttribute r key (.equals text) = .ok () := by
  refine ⟨fun a expected => asset_equals_iff fits, fun a v expected found => ?_, fun a text resolved => ?_,
    fun key portable => ⟨fun text => attribute_equals_iff portable, fun v expected found => ?_⟩⟩
  · unfold requireEquals
    rw [found]
    cases a.equals r expected with
    | true => exact .inl rfl
    | false => exact .inr ⟨_, v.text, rfl, by rw [equals_text fits found]; rfl⟩
  · simp only [SlotValue.resolve] at resolved
    split at resolved
    · cases resolved
    · rename_i v found
      exact Except.ok.inj resolved ▸ equals_text fits found
  · have passes : (AttributeCheck.equals v.text).holds r key = true :=
      (attribute_equals_iff portable).mpr ⟨v, found, taken_text (portable v found)⟩
    unfold requireAttribute
    rw [found]
    cases (AttributeCheck.equals expected).holds r key with
    | true => exact .inl rfl
    | false => exact .inr ⟨_, v.text, rfl, by rw [passes]; rfl⟩

def keptAndPlayed : Response where
  attributes := some [("score", .object [("a", .number (.int 1)), ("b", .array [.bool true])])]
  body := { directives := [.play .enqueue (some { stream := some { offset := 7 } })] }

/-- The members stand the other way round, and a whole number is none with a point. -/
theorem members_in_any_order :
    (∃ v, attribute? keptAndPlayed "score" = some v ∧ Taken v "\x7b \"b\": [true], \"a\": 1 \x7d") ∧
    (¬∃ v, attribute? keptAndPlayed "score" = some v ∧ Taken v "\x7b\"a\":1.0,\"b\":[true]\x7d") ∧
    Asset.equals keptAndPlayed .directivePlayAudioItemStreamOffset (some "7") = true := by
  have fits : ∀ n ∈ keptAndPlayed.offsets, Text.fitsSigned 64 n = true := by decide
  have portable : ∀ v, attribute? keptAndPlayed "score" = some v → v.Portable depthLimit := by
    rintro v ⟨⟩
    exact ⟨rfl, by decide, by decide⟩
  obtain ⟨assets, -, -, attributes⟩ := equality_decides_sameness fits
  obtain ⟨attributes, -⟩ := attributes "score" portable
  refine ⟨(attributes _).mp (by decide +kernel), fun taken => ?_, (assets .directivePlayAudioItemStreamOffset _).mpr (.some rfl)⟩
  have broken : (AttributeCheck.equals "\x7b\"a\":1.0,\"b\":[true]\x7d").holds keptAndPlayed "score" = false := by decide +kernel
  cases broken.symm.trans ((attributes _).mpr taken)

end Rehearsal.Check
