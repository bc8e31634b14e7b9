import Mathlib.Data.List.Induction
import Mathlib.Tactic.IntervalCases
import Rehearsal.Json.Source
import Rehearsal.Proofs.Text.Utf8

/-!
What a text of JSON spells, told by rules: one for each kind of value, without needless blanks. Whatever is spelled is read.
-/
namespace Rehearsal.Json

mutual
inductive Written : Source → List Char → Prop where
  | null : Written .null ['n', 'u', 'l', 'l']
  | yes : Written (.bool true) ['t', 'r', 'u', 'e']
  | no : Written (.bool false) ['f', 'a', 'l', 's', 'e']
  | number {n : Numeral} {c : Char} {more : List Char} (starts : c = '-' ∨ c.isDigit = true)
      (goes : ∀ d ∈ more, isNumberChar d = true) (spells : Numeral.ofText? (c :: more) = some n) : Written (.number n) (c :: more)
  | string (s : String) : Written (.string (some s)) (renderString s)
  | noItems : Written (.array []) ['[', ']']
  | array {items : List Source} {text : List Char} (parts : WrittenItems items text) : Written (.array items) ('[' :: text ++ [']'])
  | noMembers : Written (.object []) ['\x7b', '\x7d']
  | object {members : List (Option String × Source)} {text : List Char} (parts : WrittenMembers members text) :
    Written (.object members) ('\x7b' :: text ++ ['\x7d'])

inductive WrittenItems : List Source → List Char → Prop where
  | last {v : Source} {text : List Char} (item : Written v text) : WrittenItems [v] text
  | more {v : Source} {text : List Char} {items : List Source} {rest : List Char} (item : Written v text)
      (later : WrittenItems items rest) : WrittenItems (v :: items) (text ++ ',' :: rest)

inductive WrittenMembers : List (Option String × Source) → List Char → Prop where
  | last {v : Source} {text : List Char} (name : String) (member : Written v text) :
    WrittenMembers [(some name, v)] (renderString name ++ ':' :: text)
  | more {v : Source} {text : List Char} {members : List (Option String × Source)} {rest : List Char} (name : String)
      (member : Written v text) (later : WrittenMembers members rest) :
    WrittenMembers ((some name, v) :: members) (renderString name ++ ':' :: text ++ ',' :: rest)
end

namespace Reading

def run (s : Reading) (text : List Char) : Option Reading := (text.map some).foldlM Reading.step s

variable (s : Reading)

theorem run_nil : s.run [] = some s := rfl

theorem run_cons (c : Char) (text : List Char) : s.run (c :: text) = (s.stepChar c).bind (·.run text) := rfl

theorem run_append (text more : List Char) : s.run (text ++ more) = (s.run text).bind (·.run more) := by
  simp only [run, List.map_append, List.foldlM_append]
  rfl

variable {s}

theorem run_step {t : Reading} {c : Char} (taken : s.stepChar c = some t) (text : List Char) : s.run (c :: text) = t.run text := by
  rw [run_cons, taken, Option.bind_some]

theorem run_after {t : Reading} {text : List Char} (taken : s.run text = some t) (more : List Char) :
    s.run (text ++ more) = t.run more := by
  rw [run_append, taken, Option.bind_some]

structure Settles (t u : Reading) : Prop where
  step : ∀ c, isNumberChar c = false → t.stepChar c = u.stepChar c
  finish : t.finish = u.finish

theorem Settles.refl : Settles s s := ⟨fun _ _ => rfl, rfl⟩

variable {fs : List Frame} {names : Option (List (Option String × Source))} {r : Option Source}

theorem run_escaped {c d : Char} (meant : escaped? d = some c) (other : d ≠ 'u') (ps : List Piece) :
    (Reading.mk fs names (.string ps) r).run ['\\', d] = some ⟨fs, names, .string (.char c :: ps), r⟩ := by
  have second : (Reading.mk fs names (.escape ps) r).stepChar d = some ⟨fs, names, .string (.char c :: ps), r⟩ := by
    simp only [stepChar, if_neg other, meant, Option.map_some]
  exact run_step second []

/-- The controls without a letter of their own. -/
theorem run_control {c : Char} (low : c.toNat < 32) (ps : List Piece) :
    (Reading.mk fs names (.string ps) r).run ['\\', 'u', '0', '0', hexDigit (c.toNat / 16), hexDigit c.toNat] =
      some ⟨fs, names, .string (.char c :: ps), r⟩ := by
  have whole : Char.ofNat c.toNat = c := Char.ofNat_toNat c
  generalize c.toNat = n at low whole
  subst whole
  interval_cases n <;> rfl

theorem escape_cases (c : Char) :
    (∃ d, escape c = ['\\', d] ∧ escaped? d = some c ∧ d ≠ 'u') ∨
      (c.toNat < 32 ∧ escape c = ['\\', 'u', '0', '0', hexDigit (c.toNat / 16), hexDigit c.toNat]) ∨
      (escape c = [c] ∧ c ≠ '"' ∧ c ≠ '\\' ∧ ¬c.toNat < 32) := by
  unfold escape
  repeat' split
  all_goals first
    | exact .inr (.inr ⟨rfl, ‹_›, ‹_›, ‹_›⟩)
    | exact .inr (.inl ⟨‹_›, rfl⟩)
    | (subst c; exact .inl ⟨_, rfl, rfl, by decide⟩)

theorem run_char (c : Char) (ps : List Piece) :
    (Reading.mk fs names (.string ps) r).run (escape c) = some ⟨fs, names, .string (.char c :: ps), r⟩ := by
  obtain ⟨d, text, meant, other⟩ | ⟨low, text⟩ | ⟨text, noQuote, noBackslash, high⟩ := escape_cases c
  · rw [text, run_escaped meant other]
  · rw [text, run_control low]
  · rw [text, run_cons]
    simp only [stepChar, if_neg noQuote, if_neg noBackslash, if_neg high, Option.bind_some, run_nil]

theorem run_chars (cs : List Char) (ps : List Piece) :
    (Reading.mk fs names (.string ps) r).run (cs.flatMap escape) =
      some ⟨fs, names, .string ((cs.map Piece.char).reverse ++ ps), r⟩ := by
  induction cs generalizing ps with
  | nil => rfl
  | cons c cs ih =>
    rw [List.flatMap_cons, run_after (run_char c ps), ih]
    simp only [List.map_cons, List.reverse_cons, List.append_assoc, List.singleton_append]

theorem joinPieces_chars (cs acc : List Char) : joinPieces ((cs.map Piece.char).reverse) acc = some (cs ++ acc) := by
  induction cs using List.reverseRecOn generalizing acc with
  | nil => rfl
  | append_singleton cs c ih =>
    rw [List.map_append, List.reverse_append, List.map_singleton, List.reverse_singleton, List.singleton_append, joinPieces, ih,
      List.append_assoc, List.singleton_append]

theorem run_string (s : String) :
    (Reading.mk fs names (.string []) r).run (s.toList.flatMap escape ++ ['"']) =
      some (acceptString ⟨fs, names, .value, r⟩ (s.toList.map Piece.char).reverse) := by
  rw [run_after (run_chars s.toList []), List.append_nil]
  cases names with
  | none => cases fs <;> rfl
  | some members => rfl

theorem pieceText_chars (s : String) : pieceText (s.toList.map Piece.char).reverse = some s := by
  rw [pieceText, joinPieces_chars, List.append_nil, Option.map_some, String.ofList_toList]

theorem run_text (s : String) :
    (Reading.mk fs none .value r).run (renderString s) = some ((Reading.mk fs none .value r).accept (.string (some s))) := by
  rw [renderString, List.cons_append, run_step (t := ⟨fs, none, .string [], r⟩) rfl, run_string, acceptString, pieceText_chars]

/-- A name is read alike at the start of an object and behind a comma. -/
theorem run_name {members : List (Option String × Source)} (begun : s.stepChar '"' = some ⟨fs, some members, .string [], r⟩)
    (name : String) : s.run (renderString name) = some ⟨.object members (some name) :: fs, none, .colon, r⟩ := by
  rw [renderString, List.cons_append, run_step begun, run_string, acceptString, pieceText_chars]

theorem run_digits {more : List Char} (goes : ∀ d ∈ more, isNumberChar d = true) (text : List Char) :
    (Reading.mk fs names (.number text) r).run more = some ⟨fs, names, .number (more.reverse ++ text), r⟩ := by
  induction more generalizing text with
  | nil => rfl
  | cons d more ih =>
    have taken : (Reading.mk fs names (.number text) r).stepChar d = some ⟨fs, names, .number (d :: text), r⟩ := by
      simp only [stepChar, goes d List.mem_cons_self, if_true]
    rw [run_step taken, ih fun e later => goes e (List.mem_cons_of_mem d later), List.reverse_cons, List.append_assoc,
      List.singleton_append]

theorem mode_accept (s : Reading) (v : Source) : (s.accept v).mode = .after := by
  unfold accept
  split <;> rfl

theorem accept_of_mode (mode : Mode) (v : Source) : accept ⟨fs, names, mode, r⟩ v = accept ⟨fs, names, .value, r⟩ v := by
  cases fs with
  | nil => rfl
  | cons f fs => cases f <;> rfl

theorem settles_number {text : List Char} {n : Numeral} (spells : Numeral.ofText? text = some n) :
    Settles ⟨fs, none, .number text.reverse, r⟩ (accept ⟨fs, none, .value, r⟩ (.number n)) := by
  have finished : finishNumber ⟨fs, none, .number text.reverse, r⟩ text.reverse =
      some (accept ⟨fs, none, .value, r⟩ (.number n)) := by
    rw [finishNumber, List.reverse_reverse, spells, Option.map_some, accept_of_mode]
  have behind := mode_accept ⟨fs, none, .value, r⟩ (.number n)
  constructor
  · intro c other
    simp only [stepChar, other, Bool.false_eq_true, if_false, finished, Option.bind_some, behind]
  · simp only [finish, finished, Option.bind_some, behind]

/-- A number begins with nothing that begins another value, or stands between values. -/
theorem starts_apart {c : Char} (starts : c = '-' ∨ c.isDigit = true) :
    ∀ d ∈ [' ', '\n', '\t', '\r', '"', '[', ']', '\x7b', 't', 'f', 'n'], c ≠ d := by
  have apart : ∀ d ∈ [' ', '\n', '\t', '\r', '"', '[', ']', '\x7b', 't', 'f', 'n'], ¬(d = '-' ∨ d.isDigit = true) := by
    simp [Char.isDigit]
  rintro d member rfl
  exact apart c member starts

theorem step_number {c : Char} (starts : c = '-' ∨ c.isDigit = true) :
    stepChar ⟨fs, none, .value, r⟩ c = some ⟨fs, none, .number [c], r⟩ := by
  have apart := starts_apart starts
  simp only [List.forall_mem_cons] at apart
  simp [stepChar, stepValue, isSpace, starts, apart]

theorem run_number {c : Char} {more : List Char} (starts : c = '-' ∨ c.isDigit = true)
    (goes : ∀ d ∈ more, isNumberChar d = true) :
    (Reading.mk fs none .value r).run (c :: more) = some ⟨fs, none, .number (c :: more).reverse, r⟩ := by
  rw [run_step (step_number starts), run_digits goes, List.reverse_cons]

end Reading

theorem Written.first {v : Source} {text : List Char} (w : Written v text) :
    ∃ c rest, text = c :: rest ∧ c ≠ ']' ∧ isSpace c = false := by
  cases w with
  | number starts _ _ =>
    have apart := Reading.starts_apart starts
    simp only [List.forall_mem_cons] at apart
    exact ⟨_, _, rfl, by simp [apart], by simp [isSpace, apart]⟩
  | _ => exact ⟨_, _, rfl, by decide, by decide⟩

theorem WrittenItems.first {items : List Source} {text : List Char} (w : WrittenItems items text) :
    ∃ c rest, text = c :: rest ∧ c ≠ ']' ∧ isSpace c = false := by
  cases w with
  | last item => exact item.first
  | more item later =>
    obtain ⟨c, rest, rfl, apart⟩ := item.first
    exact ⟨c, _, rfl, apart⟩

namespace Reading
variable {fs : List Frame} {r : Option Source}

/-- In front of the first item the end of the array is looked for too. -/
theorem run_first {items : List Source} {text : List Char} (w : WrittenItems items text) :
    (Reading.mk fs none .firstItem r).run text = (Reading.mk fs none .value r).run text := by
  obtain ⟨c, rest, rfl, noEnd, solid⟩ := w.first
  have step : stepChar ⟨fs, none, .firstItem, r⟩ c = stepChar ⟨fs, none, .value, r⟩ c := by
    simp only [stepChar, if_neg noEnd, solid, Bool.false_eq_true, if_false]
  rw [run_cons, run_cons, step]

/-- A value's end is behind it, so what is read on is the value taken and then the rest. -/
theorem run_settled {s t u : Reading} {text : List Char} (taken : s.run text = some t) (settled : t.Settles u) {c : Char}
    (other : isNumberChar c = false) (more : List Char) : s.run (text ++ c :: more) = u.run (c :: more) := by
  rw [run_after taken, run_cons, run_cons, settled.step c other]

theorem close_array (items : List Source) (fs : List Frame) (r : Option Source) :
    stepChar ⟨.array items :: fs, none, .after, r⟩ ']' = some (accept ⟨fs, none, .value, r⟩ (.array items.reverse)) := by
  rw [← accept_of_mode .after]
  rfl

theorem close_object (members : List (Option String × Source)) (name : Option String) (fs : List Frame) (r : Option Source) :
    stepChar ⟨.object members name :: fs, none, .after, r⟩ '\x7d' =
      some (accept ⟨fs, none, .value, r⟩ (.object members.reverse)) := by
  rw [← accept_of_mode .after]
  rfl

mutual
theorem reads {v : Source} {text : List Char} (fs : List Frame) (r : Option Source) : Written v text →
    ∃ t, (Reading.mk fs none .value r).run text = some t ∧ t.Settles (accept ⟨fs, none, .value, r⟩ v)
  | .null => ⟨_, rfl, .refl⟩
  | .yes => ⟨_, rfl, .refl⟩
  | .no => ⟨_, rfl, .refl⟩
  | .number starts goes spells => ⟨_, run_number starts goes, settles_number spells⟩
  | .string s => ⟨_, run_text s, .refl⟩
  | .noItems => ⟨_, rfl, .refl⟩
  | .noMembers => ⟨_, rfl, .refl⟩
  | .array parts => by
    obtain ⟨t, taken, settled⟩ := reads_items [] fs r parts
    refine ⟨_, ?_, .refl⟩
    rw [List.cons_append, run_step (t := ⟨.array [] :: fs, none, .firstItem, r⟩) rfl, run_append, run_first parts, ← run_append,
      run_settled taken settled rfl, run_step (close_array ..), run_nil, List.append_nil, List.reverse_reverse]
  | .object parts => by
    obtain ⟨t, name, taken, settled⟩ := reads_members (s := ⟨fs, none, .firstName, r⟩) fs r rfl parts
    refine ⟨_, ?_, .refl⟩
    rw [List.cons_append, run_step (t := ⟨fs, none, .firstName, r⟩) rfl, run_settled taken settled rfl,
      run_step (close_object ..), run_nil, List.append_nil, List.reverse_reverse]

theorem reads_items {items : List Source} {text : List Char} (before : List Source) (fs : List Frame) (r : Option Source) :
    WrittenItems items text → ∃ t, (Reading.mk (.array before :: fs) none .value r).run text = some t ∧
      t.Settles ⟨.array (items.reverse ++ before) :: fs, none, .after, r⟩
  | .last item => reads (.array before :: fs) r item
  | .more (v := v) item later => by
    obtain ⟨t, taken, settled⟩ := reads (.array before :: fs) r item
    obtain ⟨u, more, ended⟩ := reads_items (v :: before) fs r later
    refine ⟨u, ?_, ?_⟩
    · rw [run_settled taken settled rfl, run_step (t := ⟨.array (v :: before) :: fs, none, .value, r⟩) rfl, more]
    · rwa [List.reverse_cons, List.append_assoc]

theorem reads_members {members : List (Option String × Source)} {text : List Char} {s : Reading}
    {before : List (Option String × Source)} (fs : List Frame) (r : Option Source)
    (begun : s.stepChar '"' = some ⟨fs, some before, .string [], r⟩) : WrittenMembers members text →
    ∃ t name, s.run text = some t ∧ t.Settles ⟨.object (members.reverse ++ before) name :: fs, none, .after, r⟩
  | .last name member => by
    obtain ⟨t, taken, settled⟩ := reads (.object before (some name) :: fs) r member
    refine ⟨t, some name, ?_, settled⟩
    rw [run_after (run_name begun name), run_step (t := ⟨.object before (some name) :: fs, none, .value, r⟩) rfl, taken]
  | .more (v := v) name member later => by
    obtain ⟨t, taken, settled⟩ := reads (.object before (some name) :: fs) r member
    obtain ⟨u, last, more, ended⟩ := reads_members (s := ⟨fs, some ((some name, v) :: before), .name, r⟩) fs r rfl later
    refine ⟨u, last, ?_, ?_⟩
    · rw [List.append_assoc, run_after (run_name begun name), List.cons_append,
        run_step (t := ⟨.object before (some name) :: fs, none, .value, r⟩) rfl, run_settled taken settled rfl,
        run_step (t := ⟨fs, some ((some name, v) :: before), .name, r⟩) rfl, more]
    · rwa [List.reverse_cons, List.append_assoc]
end

end Reading

theorem Source.ofSymbols?_of_written {v : Source} {text : List Char} (w : Written v text) :
    Source.ofSymbols? (text.map some) = some v := by
  obtain ⟨t, taken, settled⟩ := Reading.reads [] none w
  have run : (text.map some).foldlM Reading.step {} = some t := taken
  rw [ofSymbols?, run, Option.bind_some, settled.finish]
  rfl

theorem Source.ofBytes?_of_written {v : Source} {text : List Char} (w : Written v text) :
    Source.ofBytes? (Text.Utf8.encode text) = some v := by
  rw [ofBytes?, Text.Utf8.decode_encode, ofSymbols?_of_written w]

end Rehearsal.Json
