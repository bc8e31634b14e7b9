import Rehearsal.Proofs.Json.Fields
import Rehearsal.Wire.ResponseText

/-! Every part of a response is read from its written form as it was, and so is the response. -/
namespace Rehearsal.Wire
open Json Json.Outline Json.Fields

variable {depth : Nat}

namespace Speech

theorem legible (s : Speech) (deep : 1 ≤ depth) : Legible depth s.outline := by
  cases s <;> exact legible_present (by omega) ⟨legible_given _, legible_given _, trivial⟩

theorem ofSource?_outline (s : Speech) (deep : 1 ≤ depth) : ofSource? depth s.outline.source = some s := by
  have legible := s.legible deep
  cases s with
  | ssml t =>
    rw [ofSource?, outline, tagged?_present legible rfl]
    exact bind_fields? (by omega) rfl (by decide) fun f ⟨text, _⟩ => by rw [need_text text]; rfl
  | plainText t =>
    rw [ofSource?, outline, tagged?_present legible rfl]
    exact bind_fields? (by omega) rfl (by decide) fun f ⟨text, _⟩ => by rw [need_text text]; rfl

end Speech

namespace CardImage

theorem legible (i : CardImage) (deep : 1 ≤ depth) : Legible depth i.outline :=
  legible_present (by omega) ⟨legible_optional _, legible_optional _, trivial⟩

theorem ofSource?_outline (i : CardImage) (deep : 1 ≤ depth) : ofSource? depth i.outline.source = some i := by
  refine bind_fields? (by omega) rfl (by decide) fun f ⟨small, large, _⟩ => ?_
  rw [get?_text small, get?_text large]
  rfl

end CardImage

namespace Card

theorem legible (c : Card) (deep : 2 ≤ depth) : Legible depth c.outline := by
  cases c with
  | simple title content =>
    exact legible_present (by omega) ⟨legible_given _, legible_given _, legible_given _, trivial⟩
  | standard title text image =>
    exact legible_present (by omega) ⟨legible_given _, legible_given _, legible_given _,
      legible_map fun i _ => i.legible (by omega), trivial⟩
  | linkAccount title =>
    exact legible_present (by omega) ⟨legible_given _, legible_optional _, trivial⟩
  | unsupported => exact legible_present (by omega) ⟨legible_given _, trivial⟩

theorem ofSource?_outline (c : Card) (deep : 2 ≤ depth) : ofSource? depth c.outline.source = some c := by
  have legible := c.legible deep
  cases c with
  | simple title content =>
    rw [ofSource?, outline, tagged?_present legible rfl]
    refine bind_fields? (by omega) rfl (by decide) fun f ⟨title, content, _⟩ => ?_
    rw [getD_text "" title, getD_text "" content]
    rfl
  | standard title text image =>
    rw [ofSource?, outline, tagged?_present legible rfl]
    refine bind_fields? (by omega) rfl (by decide) fun f ⟨title, text, picture, _⟩ => ?_
    have image : f.get? "image" (CardImage.ofSource? (depth - 1)) = some image :=
      get?_of_has picture rfl fun i _ => i.ofSource?_outline (by omega)
    rw [getD_text "" title, getD_text "" text, image]
    rfl
  | linkAccount title =>
    rw [ofSource?, outline, tagged?_present legible rfl]
    refine bind_fields? (by omega) rfl (by decide) fun f ⟨title, _⟩ => ?_
    rw [get?_text title]
    rfl
  | unsupported =>
    rw [ofSource?, outline, tagged?_present legible rfl]
    rfl

end Card

namespace Stream

theorem legible {s : Stream} (fits : Text.fitsSigned 64 s.offset = true) (deep : 1 ≤ depth) : Legible depth s.outline :=
  legible_present (by omega) ⟨legible_optional _, legible_optional _,
    legible_optional _, legible_some (legible_int (Numeral.fits_of_fitsSigned fits)), trivial⟩

theorem ofSource?_outline {s : Stream} (fits : Text.fitsSigned 64 s.offset = true) (deep : 1 ≤ depth) :
    ofSource? depth s.outline.source = some s := by
  refine bind_fields? (by omega) rfl (by decide) fun f ⟨url, token, previous, offset, _⟩ => ?_
  rw [get?_text url, get?_text token, get?_text previous, getD_of_has 0 offset (int64?_source fits)]
  rfl

end Stream

namespace AudioItem
variable {i : AudioItem} (fits : ∀ s, i.stream = some s → Text.fitsSigned 64 s.offset = true)
include fits

theorem legible (deep : 2 ≤ depth) : Legible depth i.outline :=
  legible_present (by omega) ⟨legible_map fun s there => s.legible (fits s there) (by omega), trivial⟩

theorem ofSource?_outline (deep : 2 ≤ depth) : ofSource? depth i.outline.source = some i := by
  refine bind_fields? (by omega) rfl (by decide) fun f ⟨stream, _⟩ => ?_
  have stream : f.get? "stream" (Stream.ofSource? (depth - 1)) = some i.stream :=
    get?_of_has stream rfl fun s there => Stream.ofSource?_outline (fits s there) (by omega)
  rw [stream]
  rfl

end AudioItem

theorem PlayBehavior.ofName?_wireName (b : PlayBehavior) : ofName? b.wireName = some b := by
  cases b <;> rfl

theorem ClearBehavior.ofName?_wireName (b : ClearBehavior) : ofName? b.wireName = some b := by
  cases b <;> rfl

namespace Directive

def stream? : Directive → Option Stream
  | .play _ item => item.bind (·.stream)
  | _ => none

def Fits (d : Directive) : Prop := ∀ s, d.stream? = some s → Text.fitsSigned 64 s.offset = true

variable {d : Directive} (fits : d.Fits)
include fits

theorem legible (deep : 3 ≤ depth) : Legible depth d.outline := by
  cases d with
  | play behavior item =>
    exact legible_present (by omega) ⟨legible_given _, legible_given _,
      legible_map fun i there => i.legible (fun s inside => fits s (there ▸ inside)) (by omega), trivial⟩
  | stop => exact legible_present (by omega) ⟨legible_given _, trivial⟩
  | clearQueue behavior => exact legible_present (by omega) ⟨legible_given _, legible_given _, trivial⟩
  | unsupported => exact legible_present (by omega) ⟨legible_given _, trivial⟩

theorem ofSource?_outline (deep : 3 ≤ depth) : ofSource? depth d.outline.source = some d := by
  have legible := d.legible fits deep
  cases d with
  | play behavior item =>
    rw [ofSource?, outline, tagged?_present legible rfl]
    refine bind_fields? (by omega) rfl (by decide) fun f ⟨way, thing, _⟩ => ?_
    have item : f.get? "audioItem" (AudioItem.ofSource? (depth - 1)) = some item :=
      get?_of_has thing rfl fun i there => i.ofSource?_outline (fun s inside => fits s (there ▸ inside)) (by omega)
    rw [need_of_has way behavior.ofName?_wireName, item]
    rfl
  | stop =>
    rw [ofSource?, outline, tagged?_present legible rfl]
    rfl
  | clearQueue behavior =>
    rw [ofSource?, outline, tagged?_present legible rfl]
    refine bind_fields? (by omega) rfl (by decide) fun f ⟨way, _⟩ => ?_
    rw [need_of_has way behavior.ofName?_wireName]
    rfl
  | unsupported =>
    rw [ofSource?, outline, tagged?_present legible rfl]
    rfl

end Directive

namespace Reprompt

theorem legible (r : Reprompt) (deep : 2 ≤ depth) : Legible depth r.outline :=
  legible_present (by omega) ⟨legible_map fun s _ => s.legible (by omega), trivial⟩

theorem ofSource?_outline (r : Reprompt) (deep : 2 ≤ depth) : ofSource? depth r.outline.source = some r := by
  refine bind_fields? (by omega) rfl (by decide) fun f ⟨speech, _⟩ => ?_
  have speech : f.get? "outputSpeech" (Speech.ofSource? (depth - 1)) = some r.speech :=
    get?_of_has speech rfl fun s _ => s.ofSource?_outline (by omega)
  rw [speech]
  rfl

end Reprompt

namespace Body
variable {b : Body} (fits : ∀ d ∈ b.directives, d.Fits)
include fits

theorem legible (deep : 5 ≤ depth) : Legible depth b.outline := by
  refine legible_present (by omega) ⟨legible_map fun _ _ => legible_bool _, legible_map fun s _ => s.legible (by omega),
    legible_map fun r _ => r.legible (by omega), legible_map fun c _ => c.legible (by omega), fun p there => ?_, trivial⟩
  split at there
  · cases there
  · cases there
    refine legible_list (by omega) fun o member => ?_
    obtain ⟨d, given, rfl⟩ := List.mem_map.mp member
    exact d.legible (fits d given) (by omega)

theorem ofSource?_outline (deep : 5 ≤ depth) : ofSource? depth b.outline.source = some b := by
  refine bind_fields? (by omega) rfl (by decide) fun f ⟨shouldEnd, speech, reprompt, card, directives, _⟩ => ?_
  have shouldEnd : f.get? "shouldEndSession" (·.bool?) = some b.shouldEnd := get?_of_has shouldEnd rfl fun _ _ => rfl
  have speech : f.get? "outputSpeech" (Speech.ofSource? (depth - 1)) = some b.speech :=
    get?_of_has speech rfl fun s _ => s.ofSource?_outline (by omega)
  have reprompt : f.get? "reprompt" (Reprompt.ofSource? (depth - 1)) = some b.reprompt :=
    get?_of_has reprompt rfl fun r _ => r.ofSource?_outline (by omega)
  have card : f.get? "card" (Card.ofSource? (depth - 1)) = some b.card :=
    get?_of_has card rfl fun c _ => c.ofSource?_outline (by omega)
  have directives : f.getD "directives" [] (·.items? (depth - 1) (Directive.ofSource? (depth - 2))) = some b.directives := by
    cases given : b.directives with
    | nil =>
      rw [given] at directives
      exact getD_of_absent [] directives
    | cons d rest =>
      rw [given] at directives fits
      exact getD_of_has [] directives (items?_source (by omega) fun d member => d.ofSource?_outline (fits d member) (by omega))
  rw [shouldEnd, speech, reprompt, card, directives]
  rfl

end Body

/-! What was read fits: offsets into 64 bits with a sign, and attributes into the depth they were read at. -/

theorem Stream.fits_of_ofSource? {v : Source} {s : Stream} (read : ofSource? depth v = some s) : Text.fitsSigned 64 s.offset = true := by
  simp only [ofSource?, Option.bind_eq_bind, Option.bind_eq_some_iff, Option.pure_def, Option.some.injEq] at read
  obtain ⟨f, -, url, -, token, -, previous, -, offset, read, rfl⟩ := read
  obtain rfl | ⟨v, read⟩ := getD_eq_some read
  · rfl
  · exact Source.fits_of_int64? read

theorem AudioItem.fits_of_ofSource? {v : Source} {i : AudioItem} (read : ofSource? depth v = some i) :
    ∀ s, i.stream = some s → Text.fitsSigned 64 s.offset = true := by
  simp only [ofSource?, Option.bind_eq_bind, Option.bind_eq_some_iff, Option.pure_def, Option.some.injEq] at read
  obtain ⟨f, -, stream, read, rfl⟩ := read
  rintro s rfl
  obtain ⟨v, read⟩ := get?_eq_some read
  exact Stream.fits_of_ofSource? read

theorem Directive.item_of_ofSource? {v : Source} {behavior : PlayBehavior} {i : AudioItem}
    (read : ofSource? depth v = some (.play behavior (some i))) : ∃ v, AudioItem.ofSource? (depth - 1) v = some i := by
  simp only [ofSource?, Option.bind_eq_bind, Option.bind_eq_some_iff, Option.pure_def] at read
  obtain ⟨⟨tag, rest⟩, -, read⟩ := read
  split at read
  · simp only [Option.bind_eq_some_iff, Option.some.injEq, play.injEq] at read
    obtain ⟨f, -, b, -, item, read, -, rfl⟩ := read
    exact get?_eq_some read
  · split at read <;> cases read
  · simp only [Option.bind_eq_some_iff, Option.some.injEq, reduceCtorEq, and_false, exists_false] at read
  · split at read <;> cases read

theorem Directive.fits_of_ofSource? {v : Source} {d : Directive} (read : ofSource? depth v = some d) : d.Fits := by
  intro s inside
  cases d with
  | play behavior item =>
    obtain ⟨i, rfl, inside⟩ := Option.bind_eq_some_iff.mp inside
    obtain ⟨v, read⟩ := item_of_ofSource? read
    exact AudioItem.fits_of_ofSource? read s inside
  | _ => cases inside

theorem Body.fits_of_ofSource? {v : Source} {b : Body} (read : ofSource? depth v = some b) :
    ∀ d ∈ b.directives, d.Fits := by
  simp only [ofSource?, Option.bind_eq_bind, Option.bind_eq_some_iff, Option.pure_def, Option.some.injEq] at read
  obtain ⟨f, -, shouldEnd, -, speech, -, reprompt, -, card, -, directives, read, rfl⟩ := read
  intro d member
  obtain rfl | ⟨v, read⟩ := getD_eq_some read
  · cases member
  · obtain ⟨s, read⟩ := Source.items?_eq_some read d member
    exact Directive.fits_of_ofSource? read

namespace Response

def offsets (r : Response) : List Int := r.directives.filterMap fun d => d.stream?.map (·.offset)

theorem fits_of_offsets {r : Response} (fits : ∀ n ∈ r.offsets, Text.fitsSigned 64 n = true) :
    ∀ d ∈ r.body.directives, d.Fits := fun d member s inside =>
  fits s.offset (List.mem_filterMap.mpr ⟨d, member, by rw [inside, Option.map_some]⟩)

theorem nesting_attributes {r : Response} {m : Members} (given : r.attributes = some m) :
    Value.nesting (.object m) < r.outline.nesting := by
  have attributes : (leaf (.object m)).nesting < r.outline.nesting :=
    nesting_lt_present (List.mem_cons_of_mem _ (by rw [given]; exact List.mem_cons_self))
  rwa [nesting] at attributes

section
variable {r : Response} (portable : ∀ m, r.attributes = some m → Value.Portable (depth - 1) (.object m))
  (fits : ∀ d ∈ r.body.directives, d.Fits)
include portable fits

theorem legible (deep : 6 ≤ depth) : Legible depth r.outline :=
  legible_present (by omega) ⟨legible_given _, legible_map fun m there => legible_leaf (portable m there),
    legible_some (r.body.legible fits (by omega)), trivial⟩

theorem ofSource?_outline (deep : 6 ≤ depth) : ofSource? depth r.outline.source = some r := by
  refine bind_fields? (by omega) rfl (by decide) fun f ⟨version, attributes, body, _⟩ => ?_
  have attributes : f.get? "sessionAttributes" (·.members? (depth - 1)) = some r.attributes :=
    get?_of_has attributes rfl fun m there => members?_source (portable m there)
  rw [getD_text "" version, attributes, getD_of_has {} body (Body.ofSource?_outline fits (by omega))]
  rfl

end

/-- No response is blank once it is set down. -/
theorem not_blank (r : Response) : r.toBytes.all Text.isBlankByte = false := rfl

theorem read_toBytes {r : Response} (portable : ∀ m, r.attributes = some m → Value.Portable (depthLimit - 1) (.object m))
    (fits : ∀ d ∈ r.body.directives, d.Fits) :
    read r.toBytes = .response r := by
  have spelled : Source.ofBytes? r.toBytes = some r.outline.source := (legible portable fits (by decide)).ofBytes?
  rw [read, r.not_blank, if_neg Bool.false_ne_true, spelled, Option.bind_some, ofSource?_outline portable fits (by decide)]

theorem read_shape {bytes : List UInt8} {r : Response} (given : read bytes = .response r) :
    (∀ m, r.attributes = some m → Value.isOrdered (.object m) = true ∧ Value.nesting (.object m) ≤ depthLimit - 1) ∧
      ∀ d ∈ r.body.directives, d.Fits := by
  unfold read at given
  split at given
  · cases given
  · split at given
    · rename_i r' source
      obtain rfl := Reading.response.inj given
      obtain ⟨v, -, source⟩ := Option.bind_eq_some_iff.mp source
      simp only [ofSource?, Option.bind_eq_bind, Option.bind_eq_some_iff, Option.pure_def, Option.some.injEq] at source
      obtain ⟨f, -, version, -, attributes, there, body, within, rfl⟩ := source
      refine ⟨?_, ?_⟩
      · rintro m rfl
        obtain ⟨v, read⟩ := get?_eq_some there
        exact Source.members?_shape read
      · obtain rfl | ⟨v, read⟩ := getD_eq_some within
        · exact List.forall_mem_nil _
        · exact Body.fits_of_ofSource? read
    · cases given

end Response

theorem responses_come_back :
    (∀ r : Response, (∀ m, r.attributes = some m → Value.isWhole (.object m) = true ∧ Value.isOrdered (.object m) = true) →
      (∀ n ∈ r.offsets, Text.fitsSigned 64 n = true) → r.outline.nesting ≤ depthLimit → Response.read r.toBytes = .response r) ∧
    ∀ bytes r, Response.read bytes = .response r → (∀ m, r.attributes = some m → Value.isWhole (.object m) = true) →
      Response.read r.toBytes = .response r := by
  refine ⟨fun r attributes fits nested => ?_, fun bytes r given whole => ?_⟩
  · refine Response.read_toBytes (fun m given => ?_) (Response.fits_of_offsets fits)
    obtain ⟨whole, ordered⟩ := attributes m given
    have within := Response.nesting_attributes given
    exact ⟨whole, ordered, by omega⟩
  · obtain ⟨shape, fits⟩ := Response.read_shape given
    exact Response.read_toBytes (fun m given => ⟨whole m given, (shape m given).1, (shape m given).2⟩) fits

/- Empty parts are not absent ones, and what was not known is known to be there. -/
theorem empty_and_unknown_parts_come_back :
    let full : Response :=
      { version := "1.0"
        attributes := some [("", .object []), ("\"seen\"\n", .array [.number (.int 18446744073709551615), .string "é😀", .null])]
        body := { shouldEnd := some false, reprompt := some {}, card := some (.standard "" "" (some {}))
                  directives := [.play .enqueue (some { stream := some { offset := -9223372036854775808 } }), .play .replaceAll none,
                    .unsupported] } }
    let bytes := Text.Utf8.encode (" \x7b\"more\": 0.5, \"response\": \x7b\"directives\": [\x7b\"hint\": [1e3], \"type\": \"Hint\"\x7d], " ++
      "\"card\": \x7b\"type\": \"Form\"\x7d\x7d, \"sessionAttributes\": \x7b\"b\": -1, \"a\": \"\\u00e9\", \"b\": 2\x7d\x7d\n").toList
    Response.read full.toBytes = .response full ∧
      ∃ r, Response.read bytes = .response r ∧ r.body = { card := some .unsupported, directives := [.unsupported] } ∧
        r.attributes.map (·.map (·.1)) = some ["a", "b"] ∧ Response.read r.toBytes = .response r := by
  intro full bytes
  refine ⟨responses_come_back.1 full ?_ (by decide +kernel) (by decide +kernel), ?_⟩
  · rintro m ⟨⟩
    decide +kernel
  · have found : (match Response.read bytes with
        | .response r => decide (r.body = { card := some .unsupported, directives := [.unsupported] } ∧
            r.attributes.map (·.map (·.1)) = some ["a", "b"] ∧ r.attributes.all (fun m => Value.isWhole (.object m)) = true)
        | _ => false) = true := by decide +kernel
    split at found
    · rename_i r given
      obtain ⟨body, names, whole⟩ := of_decide_eq_true found
      refine ⟨r, given, body, names, responses_come_back.2 bytes r given fun m there => ?_⟩
      rw [there] at whole
      exact whole
    · cases found

end Rehearsal.Wire
