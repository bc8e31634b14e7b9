import Rehearsal.Proofs.Script.Trees
import Rehearsal.Proofs.Traversal
import Rehearsal.Script.Document

/-!
Loading a script. Whatever is wrong with a session, at any depth, is a fault of the script, and the first session that is
wrong is blamed for it by its number. One case escapes: where the units of a delay leave what 64 bits of seconds count by a
carry of exactly one second, there is no fault, and loading breaks off.
-/
namespace Rehearsal.Script
open Check (Predicate Asset)

def FailsOnly (P : Failure → Prop) {α : Type} (x : Except Failure α) : Prop := ∀ f, x = .error f → P f

namespace FailsOnly
variable {P Q : Failure → Prop} {α β : Type} {x : Except Failure α}

theorem ok (a : α) : FailsOnly P (Except.ok a) := nofun

theorem error {f : Failure} (holds : P f) : FailsOnly P (Except.error f : Except Failure α) := by
  intro f' same
  exact Except.error.inj same ▸ holds

theorem bind {next : α → Except Failure β} (first : FailsOnly P x) (rest : ∀ a, x = .ok a → FailsOnly P (next a)) :
    FailsOnly P (x >>= next) := by
  intro f failed
  obtain here | ⟨a, read, later⟩ := bind_eq_error.mp failed
  · exact first f here
  · exact rest a read f later

theorem map {g : α → β} (inner : FailsOnly P x) : FailsOnly P (x.map g) :=
  fun f failed => inner f (map_eq_error.mp failed)

theorem mono (inner : FailsOnly P x) (imp : ∀ f, P f → Q f) : FailsOnly Q x :=
  fun f failed => imp f (inner f failed)

theorem gather {one : α → Except Failure (List Action)} {l : List α} (each : ∀ x ∈ l, FailsOnly P (one x)) :
    FailsOnly P (gather one l) := by
  intro f failed
  obtain ⟨x, member, here⟩ := gather_eq_error failed
  exact each x member f here

end FailsOnly

def Faulty (f : Failure) : Prop := ∃ fault, f = .script fault

theorem attributeKey?_faulty (text : List Char) : FailsOnly Faulty (Predicate.attributeKey? text) := by
  unfold Predicate.attributeKey?
  split
  · exact .ok _
  · split_ifs
    · exact .error ⟨_, rfl⟩
    · exact .error ⟨_, rfl⟩
    · exact .ok _

theorem assetOf_faulty (text : List Char) : FailsOnly Faulty (Predicate.assetOf text) := by
  unfold Predicate.assetOf Asset.ofName
  split
  · exact .ok _
  · exact .error ⟨_, rfl⟩

theorem patternOf_faulty [Regex.Room] (whole source : String) : FailsOnly Faulty (Predicate.patternOf whole source) := by
  unfold Predicate.patternOf
  split
  · exact .ok _
  · exact .error ⟨_, rfl⟩

theorem predicate_ofName_faulty (text : List Char) : FailsOnly Faulty (Predicate.ofName text) := by
  refine (attributeKey?_faulty text).bind fun key? _ => ?_
  cases key? with
  | some key => exact .ok _
  | none =>
    dsimp only
    split
    · exact .ok _
    · split
      · exact .ok _
      · exact .error ⟨_, rfl⟩

theorem ofChars_faulty [Regex.Room] (text : List Char) : FailsOnly Faulty (Predicate.ofChars text) := by
  unfold Predicate.ofChars
  dsimp only
  split
  · exact predicate_ofName_faulty _
  · rename_i left op right _
    split_ifs
    · refine (attributeKey?_faulty left).bind fun key? _ => ?_
      cases key? with
      | some key => exact .ok _
      | none => exact (assetOf_faulty left).bind fun a _ => .ok _
    · refine (patternOf_faulty _ _).bind fun p _ => (attributeKey?_faulty left).bind fun key? _ => ?_
      cases key? with
      | some key => exact .ok _
      | none => exact (assetOf_faulty left).bind fun a _ => .ok _

theorem nonEmpty_faulty (key value : String) : FailsOnly Faulty (nonEmpty key value) := by
  unfold nonEmpty
  dsimp only
  split_ifs
  · exact .error ⟨_, rfl⟩
  · exact .ok _

theorem slotValue_faulty (marker : Char) (value : String) : FailsOnly Faulty (slotValue marker value) := by
  unfold slotValue
  split
  · split_ifs
    · split
      · exact .ok _
      · exact .error ⟨_, rfl⟩
    · exact .ok _
  · exact .ok _

theorem checked_faulty (n : Node) : FailsOnly Faulty (checked n) := by
  unfold checked
  split
  · exact .ok _
  · exact .error ⟨_, rfl⟩

/-- A delay whose units leave what is counted by a carry of one second. -/
def Overruns (delay : String) : Prop := Span.ofText (Text.trim delay.toList) = .error .brokenCarry

theorem spanOf_fails (delay : String) : FailsOnly (fun f => Faulty f ∨ f = .breakdown ∧ Overruns delay) (spanOf delay) := by
  unfold spanOf
  dsimp only
  split
  · exact .ok _
  · split
    · exact .ok _
    · rename_i broken
      exact .error (.inr ⟨rfl, broken⟩)
    · exact .error (.inl ⟨_, rfl⟩)

/- Why a tree has no meaning: the script is at fault, or a delay in it overruns. -/
inductive Tree.Refused (t : Tree) : Failure → Prop where
  | faulty {f : Failure} (faulty : Faulty f) : Refused t f
  | overrun {delay : String} (sets : t.Sets "delay" delay) (overruns : Overruns delay) : Refused t .breakdown

theorem Tree.Refused.outward {t u : Tree} (inner : ∀ key value, t.Sets key value → u.Sets key value) {f : Failure}
    (refused : t.Refused f) : u.Refused f := by
  cases refused with
  | faulty faulty => exact .faulty faulty
  | overrun sets overruns => exact .overrun (inner _ _ sets) overruns

section
variable {marker : Char}

theorem param_fails (key value : String) :
    FailsOnly (fun f => Faulty f ∨ f = .breakdown ∧ key = "delay" ∧ Overruns value) (param marker key value) := by
  unfold param
  split_ifs with intent utterance launch delay
  · exact (nonEmpty_faulty key value).map.mono fun _ => .inl
  · exact (nonEmpty_faulty key value).map.mono fun _ => .inl
  · dsimp only
    split_ifs
    · exact .ok _
    · exact .error (.inl ⟨_, rfl⟩)
  · refine (spanOf_fails value).map.mono fun f failed => ?_
    exact failed.imp_right fun ⟨broken, overruns⟩ => ⟨broken, delay, overruns⟩
  · dsimp only
    split
    · exact .ok _
    · exact .error (.inl ⟨_, rfl⟩)
  · dsimp only
    split_ifs
    · exact .error (.inl ⟨_, rfl⟩)
    · exact (slotValue_faulty marker value).map.mono fun _ => .inl

theorem paramOf_refused {entries : List (String × Tree)} {e : String × Tree} (member : e ∈ entries) :
    FailsOnly (Tree.map entries).Refused (paramOf marker e) := by
  obtain ⟨key, t⟩ := e
  cases t with
  | text value =>
    refine (param_fails key value).map.mono fun f failed => ?_
    obtain faulty | ⟨rfl, rfl, overruns⟩ := failed
    · exact .faulty faulty
    · exact .overrun (.here member) overruns
  | list => exact .error (.faulty ⟨_, rfl⟩)
  | map => exact .error (.faulty ⟨_, rfl⟩)

variable [Regex.Room]

theorem ofItems_refused {items : List Tree} (each : ∀ t ∈ items, FailsOnly t.Refused (actionsOf marker t)) :
    FailsOnly (Tree.list items).Refused (Node.ofTree marker (.list items)) := by
  rw [ofTree_list]
  refine FailsOnly.bind (.gather fun t member => ?_) fun actions _ => (checked_faulty actions).mono fun _ => .faulty
  exact (each t member).mono fun _ => .outward fun _ _ => .item member

theorem branchOf_refused {entries : List (String × Tree)} {e : String × Tree} (member : e ∈ entries)
    (inner : FailsOnly e.2.Refused (Node.ofTree marker e.2)) : FailsOnly (Tree.map entries).Refused (branchOf marker e) := by
  obtain ⟨key, t⟩ := e
  cases t with
  | list items =>
    refine ((ofChars_faulty key.toList).mono fun _ => .faulty).bind fun p _ => ?_
    exact (inner.mono fun _ => .outward fun _ _ => .value member).bind fun body _ => .ok _
  | text => exact .error (.faulty ⟨_, rfl⟩)
  | map => exact .error (.faulty ⟨_, rfl⟩)

-- A condition needs its list as a node, an item of a list as actions, so one induction gives both.
theorem tree_refused (t : Tree) : FailsOnly t.Refused (Node.ofTree marker t) ∧ FailsOnly t.Refused (actionsOf marker t) := by
  induction t using Tree.induct with
  | text s => exact ⟨.error (.faulty ⟨_, rfl⟩), ((ofChars_faulty s.toList).mono fun _ => .faulty).map⟩
  | list items each =>
    have node := ofItems_refused fun t member => (each t member).2
    exact ⟨node, by rw [actionsOf_list]; exact node.map⟩
  | map entries each =>
    refine ⟨.error (.faulty ⟨_, rfl⟩), ?_⟩
    rw [actionsOf_map]
    split_ifs
    · exact .error (.faulty ⟨_, rfl⟩)
    · exact .gather fun e member => branchOf_refused member (each e member).1
    · exact .error (.faulty ⟨_, rfl⟩)
    · exact .gather fun e member => paramOf_refused member

end

def alone [Regex.Room] (marker : Char) (v : Yaml.Value) : Except Failure Node :=
  match Tree.ofValue v with
  | .ok t => Node.ofTree marker t
  | .error fault => .error (.script fault)

def inSession (number : Nat) : Failure → Failure
  | .script fault => .script (.inSession number fault)
  | f => f

/- Why a text is not loaded. -/
inductive Unloaded (text : String) : Failure → Prop where
  | malformed (detail : String) (unread : Draft.ofText? text = none) : Unloaded text (.yaml detail)
  | faulty (fault : ScriptFault) : Unloaded text (.script fault)
  | overrun {d : Draft} {v : Yaml.Value} {t : Tree} {delay : String} (read : Draft.ofText? text = some d)
      (member : v ∈ d.sessions) (tree : Tree.ofValue v = .ok t) (sets : t.Sets "delay" delay) (overruns : Overruns delay) :
    Unloaded text .breakdown

theorem full_mapText (m : Message) (start : String) : (m.mapText fun text => start ++ text).full = start ++ m.full :=
  String.append_assoc

section
variable {marker : Char} [Regex.Room]

theorem sessionOf_eq (number : Nat) (v : Yaml.Value) :
    sessionOf marker number v = (alone marker v).mapError (inSession number) := by
  unfold sessionOf alone
  cases Tree.ofValue v with
  | error fault => rfl
  | ok t =>
    dsimp only
    cases Node.ofTree marker t with
    | ok n => rfl
    | error f => cases f <;> rfl

theorem sessionsFrom_eq_mapM (number : Nat) (sessions : List Yaml.Value) :
    sessionsFrom marker number sessions = (sessions.zipIdx number).mapM fun (v, k) => sessionOf marker k v := by
  induction sessions generalizing number with
  | nil => rfl
  | cons v rest ih => rw [sessionsFrom, ih, List.zipIdx_cons, List.mapM_cons]

theorem sessionOf_eq_ok {number : Nat} {v : Yaml.Value} {n : Node} :
    sessionOf marker number v = .ok n ↔ alone marker v = .ok n := by
  rw [sessionOf_eq]
  cases alone marker v <;> simp [Except.mapError]

theorem sessionOf_eq_error {number : Nat} {v : Yaml.Value} {f : Failure} :
    sessionOf marker number v = .error f ↔ ∃ f', alone marker v = .error f' ∧ f = inSession number f' := by
  rw [sessionOf_eq]
  cases alone marker v <;> simp [Except.mapError, eq_comm]

theorem sessionsFrom_eq_ok {number : Nat} {sessions : List Yaml.Value} {nodes : List Node} :
    sessionsFrom marker number sessions = .ok nodes ↔ List.Forall₂ (fun v n => alone marker v = .ok n) sessions nodes := by
  have unnumbered := List.zipIdx_map_fst number sessions
  rw [sessionsFrom_eq_mapM, mapM_eq_ok]
  simp only [sessionOf_eq_ok]
  conv_rhs => rw [← unnumbered, List.forall₂_map_left_iff]

/-- The first session that is wrong is the one that counts. -/
theorem sessionsFrom_eq_error {number : Nat} {sessions : List Yaml.Value} {f : Failure} :
    sessionsFrom marker number sessions = .error f ↔
      ∃ before v after f', sessions = before ++ v :: after ∧ (∀ b ∈ before, ∃ n, alone marker b = .ok n) ∧
        alone marker v = .error f' ∧ f = inSession (number + before.length) f' := by
  rw [sessionsFrom_eq_mapM, mapM_eq_error]
  constructor
  · rintro ⟨numbered, x, later, split, passed, failed⟩
    obtain ⟨before, rest, rfl, rfl, here⟩ := List.zipIdx_eq_append_iff.mp split
    obtain ⟨v, after, rfl, rfl, -⟩ := List.zipIdx_eq_cons_iff.mp here.symm
    obtain ⟨f', wrong, rfl⟩ := sessionOf_eq_error.mp failed
    refine ⟨before, v, after, f', rfl, fun b member => ?_, wrong, rfl⟩
    rw [← List.zipIdx_map_fst number before] at member
    obtain ⟨numbered, place, rfl⟩ := List.mem_map.mp member
    obtain ⟨n, read⟩ := passed numbered place
    exact ⟨n, sessionOf_eq_ok.mp read⟩
  · rintro ⟨before, v, after, f', rfl, passed, failed, rfl⟩
    refine ⟨before.zipIdx number, (v, number + before.length), after.zipIdx (number + before.length + 1), ?_, ?_, ?_⟩
    · rw [List.zipIdx_append, List.zipIdx_cons]
    · intro b member
      obtain ⟨n, read⟩ := passed b.1 (List.fst_mem_of_mem_zipIdx member)
      exact ⟨n, sessionOf_eq_ok.mpr read⟩
    · exact sessionOf_eq_error.mpr ⟨f', failed, rfl⟩

theorem alone_fails {v : Yaml.Value} {f : Failure} (failed : alone marker v = .error f) :
    Faulty f ∨ ∃ t, Tree.ofValue v = .ok t ∧ t.Refused f := by
  unfold alone at failed
  split at failed
  · rename_i t tree
    exact .inr ⟨t, tree, (tree_refused t).1 f failed⟩
  · exact .inl ⟨_, (Except.error.inj failed).symm⟩

theorem ofText_of_read {text : String} {d : Draft} (read : Draft.ofText? text = some d) :
    ofText marker text = ofDraft marker d := by
  rw [ofText, read]

theorem ofDraft_sessions {d : Draft} (named : Text.isBlankText d.name = false) (filled : d.sessions ≠ []) :
    ofDraft marker d = (sessionsFrom marker 1 d.sessions).map fun nodes => { d with sessions := nodes } := by
  have nonempty : d.sessions.isEmpty = false := by simpa using filled
  rw [ofDraft, named, nonempty]
  cases sessionsFrom marker 1 d.sessions <;> rfl

theorem ofText_unloaded (text : String) : FailsOnly (Unloaded text) (ofText marker text) := by
  cases read : Draft.ofText? text with
  | none =>
    rw [ofText, read]
    exact .error (.malformed _ read)
  | some d =>
    rw [ofText_of_read read]
    cases named : Text.isBlankText d.name with
    | true =>
      rw [ofDraft, named]
      exact .error (.faulty _)
    | false =>
      by_cases empty : d.sessions = []
      · rw [ofDraft, named, empty]
        exact .error (.faulty _)
      · rw [ofDraft_sessions named empty]
        refine FailsOnly.map fun f failed => ?_
        obtain ⟨before, v, after, f', split, -, wrong, rfl⟩ := sessionsFrom_eq_error.mp failed
        obtain ⟨fault, rfl⟩ | ⟨t, tree, refused⟩ := alone_fails wrong
        · exact .faulty _
        · cases refused with
          | faulty faulty =>
            obtain ⟨fault, rfl⟩ := faulty
            exact .faulty _
          | overrun sets overruns =>
            exact .overrun read (by rw [split]; exact List.mem_append_right before List.mem_cons_self) tree sets overruns

end

/-- A text that is read, with a name and a session, is loaded as its sessions are by themselves, up to the first that is not. -/
theorem loading_blames_the_first_bad_session [Regex.Room] (marker : Char) (text : String) :
    (∀ f, ofText marker text = .error f → Unloaded text f) ∧
      (Draft.ofText? text = none → ∃ detail, ofText marker text = .error (.yaml detail)) ∧
      (∀ d, Draft.ofText? text = some d → Text.isBlankText d.name = false → d.sessions ≠ [] →
        (∀ s, ofText marker text = .ok s ↔
          ∃ nodes, List.Forall₂ (fun v n => alone marker v = .ok n) d.sessions nodes ∧ s = { d with sessions := nodes }) ∧
        ∀ f, ofText marker text = .error f ↔
          ∃ before v after f', d.sessions = before ++ v :: after ∧ (∀ b ∈ before, ∃ n, alone marker b = .ok n) ∧
            alone marker v = .error f' ∧ f = inSession (before.length + 1) f') ∧
      ∀ number fault, (Failure.script fault).message.full = "script error: " ++ fault.message.full ∧
        (inSession number (.script fault)).message.full =
          "script error: " ++ ("session " ++ toString number ++ ": " ++ fault.message.full) := by
  refine ⟨ofText_unloaded text, fun unread => ⟨_, by rw [ofText, unread]⟩,
    fun d read named filled => ⟨fun s => ?_, fun f => ?_⟩, fun number fault => ⟨full_mapText _ _, ?_⟩⟩
  · rw [ofText_of_read read, ofDraft_sessions named filled, map_eq_ok]
    simp only [sessionsFrom_eq_ok, eq_comm (b := s)]
  · rw [ofText_of_read read, ofDraft_sessions named filled, map_eq_error, sessionsFrom_eq_error]
    simp only [Nat.add_comm]
  · exact (full_mapText _ _).trans (congrArg _ (full_mapText _ _))

def complaint? [Regex.Room] (marker : Char) (text : String) : Option (String × String) :=
  match ofText marker text with
  | .ok _ => none
  | .error f => some (f.code, f.message.full)

theorem complaint?_eq_some [Regex.Room] {marker : Char} {text : String} {told : String × String}
    (complains : complaint? marker text = some told) :
    ∃ f, ofText marker text = .error f ∧ f.code = told.1 ∧ f.message.full = told.2 := by
  unfold complaint? at complains
  split at complains
  · cases complains
  · rename_i f failed
    obtain rfl := Option.some.inj complains
    exact ⟨f, failed, rfl, rfl⟩

def threeSessions : String := "name: s\nsessions:\n  - - launch: true\n  - - HasCardz\n  - - {}\n"

theorem second_session_is_blamed :
    (Draft.ofText? threeSessions).map (fun d => d.sessions.map fun v => (alone '$' v).toOption.isSome) =
        some [true, false, false] ∧
      complaint? '$' threeSessions =
        some ("script_error", "script error: session 2: unknown assertion or asset 'HasCardz'") ∧
      ∃ d before v after f, Draft.ofText? threeSessions = some d ∧ d.sessions = before ++ v :: after ∧
        (∀ b ∈ before, ∃ n, alone '$' b = .ok n) ∧ alone '$' v = .error f ∧
        ofText '$' threeSessions = .error (inSession (before.length + 1) f) := by
  have sessions : (Draft.ofText? threeSessions).map (fun d => d.sessions.map fun v => (alone '$' v).toOption.isSome) =
      some [true, false, false] := by decide +kernel
  have complains : complaint? '$' threeSessions =
      some ("script_error", "script error: session 2: unknown assertion or asset 'HasCardz'") := by decide +kernel
  have names : (Draft.ofText? threeSessions).map (fun d => Text.isBlankText d.name) = some false := by decide +kernel
  obtain ⟨d, read, alike⟩ := Option.map_eq_some_iff.mp sessions
  have named : Text.isBlankText d.name = false := by simpa [read] using names
  have filled : d.sessions ≠ [] := by
    intro empty
    rw [empty] at alike
    cases alike
  obtain ⟨f, failed, -⟩ := complaint?_eq_some complains
  obtain ⟨before, v, after, f', split, passed, wrong, rfl⟩ :=
    ((loading_blames_the_first_bad_session '$' threeSessions).2.2.1 d read named filled).2 f |>.mp failed
  exact ⟨sessions, complains, d, before, v, after, f', read, split, passed, wrong, failed⟩

def delayed (delay : String) : String := "name: s\nsessions:\n  - - launch: true\n      delay: " ++ delay ++ "\n"

/- One millisecond more and the session is blamed for it. -/
theorem overrunning_delay_breaks_off :
    (Draft.ofText? (delayed "18446744073709551615s 1000ms")).map (fun d => (d.name, d.sessions.length)) = some ("s", 1) ∧
      ofText '$' (delayed "18446744073709551615s 1000ms") = .error .breakdown ∧
      complaint? '$' (delayed "18446744073709551615s 1000ms") = some ("panic", "broken off") ∧
      complaint? '$' (delayed "18446744073709551615s 1001ms") =
        some ("script_error", "script error: session 1: invalid delay '18446744073709551615s 1001ms': " ++
          "number is too large or cannot be represented without a lack of precision (values below 1ns are not supported)") := by
  have complains : complaint? '$' (delayed "18446744073709551615s 1000ms") = some ("panic", "broken off") := by
    decide +kernel
  obtain ⟨f, failed, kind, -⟩ := complaint?_eq_some complains
  have broken : f = .breakdown := by
    cases f with
    | breakdown => rfl
    | _ => simp [Failure.code] at kind
  exact ⟨by decide +kernel, by rw [failed, broken], complains, by decide +kernel⟩

end Rehearsal.Script
