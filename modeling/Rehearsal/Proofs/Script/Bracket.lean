import Rehearsal.Proofs.Script.Causes
import Rehearsal.Proofs.Session.Handshake
import Rehearsal.Transport.Local

/-!
The shape of a session: the probe that it has started, then what is said, then at most one probe that the user has ended
it, and nothing behind that. The last one goes out exactly where the skill has left the session open.
-/
namespace Rehearsal.Script
open Check (Predicate)
open Session (Account Actor History Identity Policy Sent)
open Wire (Ids.request Kind Request Response)

variable {identity : Identity} {policy : Policy} {id : Nat} {a b : Actor} {r : Request} {sent log : History}
  {x : Except Failure (Option Response)}

def Opening (log : History) : Prop :=
  ∃ first said, log = first :: said ∧ first.kind = .sessionStarted ∧ ∀ d ∈ said, d.kind.expectsResponse = true

theorem kind_of_sent (step : Sent a r sent x b) : ∀ d ∈ sent, d.kind = r.kind := by
  intro d hd
  cases step with
  | refused => cases hd
  | untimed => cases hd
  | lost => rw [List.mem_singleton.mp hd]
  | arrived => rw [List.mem_singleton.mp hd]

/-- What was said and did not fail was answered with a response that counts. -/
theorem accepted_of_sent (step : Sent a r sent x b) {y : Option Response} (ok : x = .ok y)
    (converses : r.kind.expectsResponse = true) : ∀ d ∈ sent, d.accepted?.isSome = true := by
  intro d hd
  cases step with
  | refused => cases ok
  | untimed => cases ok
  | lost => cases ok
  | @arrived _ _ _ answer =>
    rw [Session.settle_conversational a r answer converses] at ok
    rw [List.mem_singleton.mp hd, Delivery.accepted?_conversational rfl converses r]
    cases read : Actor.readAnswer r answer with
    | error f => simp [read] at ok
    | ok response => rfl

theorem Opening.more (opening : Opening log) (step : Sent a r sent x b) (converses : r.kind.expectsResponse = true) :
    Opening (log ++ sent) := by
  obtain ⟨first, said, rfl, start, only⟩ := opening
  refine ⟨first, said ++ sent, rfl, start, fun d hd => ?_⟩
  rcases List.mem_append.mp hd with hd | hd
  · exact only d hd
  · rwa [kind_of_sent step d hd]

theorem Opening.of_start (step : Sent (.create identity policy id) .sessionStarted sent x a) :
    (sent = [] ∧ x = .error (.config (.clock identity.offset))) ∨ Opening sent := by
  cases step with
  | refused refusal => cases refusal
  | untimed _ clock =>
    obtain ⟨rfl, -⟩ := Session.timestamp_eq_error clock
    exact .inl ⟨rfl, rfl⟩
  | lost => exact .inr ⟨_, [], rfl, rfl, by simp⟩
  | arrived => exact .inr ⟨_, [], rfl, rfl, by simp⟩

/-- As long as no end is probed for, only the response that counts last closes a session. -/
theorem Opening.isClosed_eq (opening : Opening log) : log.isClosed = log.last?.any (·.shouldEnd = some true) := by
  obtain ⟨first, said, rfl, start, only⟩ := opening
  have unended : ∀ d ∈ History.sinceLast (first :: said), d.ends = false := by
    intro d hd
    rcases List.mem_cons.mp (List.mem_reverse.mp ((List.takeWhile_sublist _).subset hd)) with rfl | hd
    · simp [Delivery.ends, start]
    · have := only d hd
      cases kind : d.kind <;> simp_all [Delivery.ends, Kind.expectsResponse]
  have none_ends : (History.sinceLast (first :: said)).any Delivery.ends = false := by simpa using unended
  rw [History.isClosed, none_ends, Bool.false_or]

/- Between the probes of a session that has not failed, everything said has a response that counts. -/
structure Amid (identity : Identity) (policy : Policy) (id : Nat) (live : Live) (log : History) : Prop
    extends UnderWay identity policy id live log where
  opening : Opening log
  answered : ∀ d ∈ log, d.kind.expectsResponse = true → d.accepted?.isSome = true

theorem Amid.begun {y : Option Response} (step : Sent (.create identity policy id) .sessionStarted sent x a)
    (ok : x = .ok y) (report : Report) : Amid identity policy id ⟨a, report⟩ sent where
  toUnderWay := .begun step ok report
  opening := by
    rcases Opening.of_start step with ⟨-, failed⟩ | opening
    · rw [ok] at failed
      cases failed
    · exact opening
  answered d hd converses := by
    rw [kind_of_sent step d hd] at converses
    cases converses

theorem Amid.step {live : Live} (amid : Amid identity policy id live log) (step : Sent live.actor r sent x b)
    {y : Option Response} (ok : x = .ok y) (converses : r.kind.expectsResponse = true) :
    Amid identity policy id { live with actor := b } (log ++ sent) where
  toUnderWay := amid.toUnderWay.step step
  opening := amid.opening.more step converses
  answered d hd said := by
    rcases List.mem_append.mp hd with hd | hd
    · exact amid.answered d hd said
    · exact accepted_of_sent step ok converses d hd

section
variable {σ : Type} (w : World (StateM σ)) (n : Node)

theorem keeps_amid_ask : Keeps (Amid identity policy id) (fun _ _ log => Opening log) (ask w.observed n) := by
  intro k amid
  rw [outcome_ask]
  cases n.kind? with
  | none => exact amid
  | some asked =>
    cases built : n.request asked k.live.actor.last with
    | error f =>
      simp only [built]
      exact amid.opening
    | ok r =>
      have converses := Node.request_converses built
      obtain ⟨sent, x, b, t, step, run⟩ := outcome_fire w k r
      simp only [built, run]
      cases x with
      | error f => exact amid.opening.more step converses
      | ok y => exact amid.step step rfl converses

theorem keeps_amid : Keeps (Amid identity policy id) (fun _ _ log => Opening log) (runNode w.observed n) :=
  keeps_runNode w (fun m _ => keeps_amid_ask w m)
    (fun _ p _ _ => keeps_verify_of_actor p (fun _ _ _ amid => { amid with }) fun _ _ _ _ amid => amid.opening)
    fun _ p _ _ _ => keeps_test_of_actor p (fun _ _ _ amid => { amid with }) fun _ _ _ _ amid => amid.opening

variable {w} {n} {report : Report} {s : σ} {k : Stand σ} {y : Option Response}

theorem amid_of_passed (start : Sent (.create identity policy id) .sessionStarted sent (.ok y) a)
    (middle : Play.outcome (runNode w.observed n) ⟨⟨a, report⟩, sent, s⟩ = (.ok (), k)) :
    Amid identity policy id k.live k.log := by
  have amid := keeps_amid w n ⟨⟨a, report⟩, sent, s⟩ (Amid.begun start rfl report)
  rwa [middle] at amid

theorem opening_of_failed {f : Failure} (start : Sent (.create identity policy id) .sessionStarted sent (.ok y) a)
    (middle : Play.outcome (runNode w.observed n) ⟨⟨a, report⟩, sent, s⟩ = (.error f, k)) : Opening k.log := by
  have opening := keeps_amid w n ⟨⟨a, report⟩, sent, s⟩ (Amid.begun start rfl report)
  rwa [middle] at opening

def Farewell (d : Delivery) : Prop :=
  d.kind = .sessionEnded ∧ d.envelope.request.reason = some .userInitiated

theorem farewell_of_sent (step : Sent a (.sessionEnded .userInitiated) sent x b) :
    (sent = [] ∧ ∀ y, x ≠ .ok y) ∨ ∃ d, sent = [d] ∧ Farewell d ∧ ∀ f, x = .error f → d.answer = .error f := by
  cases step with
  | refused => exact .inl ⟨rfl, fun _ h => by cases h⟩
  | untimed => exact .inl ⟨rfl, fun _ h => by cases h⟩
  | lost =>
    refine .inr ⟨_, rfl, ⟨rfl, rfl⟩, fun f h => ?_⟩
    rw [← Except.error.inj h]
  | arrived => exact .inr ⟨_, rfl, ⟨rfl, rfl⟩, fun _ h => by cases h⟩

/- A session that has begun: what was said in it, and its end. -/
structure Bracket (said last : History) (result : Except Failure Unit) : Prop where
  opening : Opening said
  answered : result = .ok () → ∀ d ∈ said, d.kind.expectsResponse = true → d.accepted?.isSome = true
  ending : (last = [] ∧ (result = .ok () → said.isClosed = true)) ∨
    ∃ d, last = [d] ∧ Farewell d ∧ said.isClosed = false ∧ ∀ f, result = .error f → d.answer = .error f

theorem Opening.bracket_of_error (opening : Opening log) (f : Failure) : Bracket log [] (.error f) where
  opening := opening
  answered := nofun
  ending := .inl ⟨rfl, nofun⟩

theorem Course.bracket {after : Report} {result : Except Failure Unit}
    (course : Course w identity policy n report result after log) :
    (log = [] ∧ result = .error (.config (.clock identity.offset))) ∨
      ∃ said last, log = said ++ last ∧ Bracket said last result := by
  cases course with
  | unbegun start =>
    rcases Opening.of_start start with ⟨rfl, failed⟩ | opening
    · exact .inl ⟨rfl, by rw [Except.error.inj failed]⟩
    · exact .inr ⟨_, [], (List.append_nil _).symm, opening.bracket_of_error _⟩
  | broken start middle =>
    exact .inr ⟨_, [], (List.append_nil _).symm, (opening_of_failed start middle).bracket_of_error _⟩
  | closed start middle closed =>
    have amid := amid_of_passed start middle
    exact .inr ⟨_, [], (List.append_nil _).symm, {
      opening := amid.opening
      answered := fun _ => amid.answered
      ending := .inl ⟨rfl, fun _ => amid.account.closed.symm.trans closed⟩ }⟩
  | unended start middle opened stop =>
    have amid := amid_of_passed start middle
    obtain ⟨rfl, -⟩ | ⟨d, rfl, farewell, failed⟩ := farewell_of_sent stop
    · exact .inr ⟨_, [], rfl, amid.opening.bracket_of_error _⟩
    · exact .inr ⟨_, [d], rfl, {
        opening := amid.opening
        answered := nofun
        ending := .inr ⟨d, rfl, farewell, amid.account.closed.symm.trans opened, fun f h =>
          failed f (by rw [Except.error.inj h])⟩ }⟩
  | ended start middle opened stop =>
    have amid := amid_of_passed start middle
    obtain ⟨-, failed⟩ | ⟨d, rfl, farewell, -⟩ := farewell_of_sent stop
    · exact absurd rfl (failed _)
    · exact .inr ⟨_, [d], rfl, {
        opening := amid.opening
        answered := fun _ => amid.answered
        ending := .inr ⟨d, rfl, farewell, amid.account.closed.symm.trans opened, nofun⟩ }⟩

variable {said last before after : History} {result : Except Failure Unit} {d : Delivery}

theorem Opening.kind_ne (opening : Opening said) (hd : d ∈ said) : d.kind ≠ .sessionEnded := by
  obtain ⟨first, rest, rfl, start, only⟩ := opening
  rcases List.mem_cons.mp hd with rfl | hd
  · simp [start]
  · intro ended
    have := only d hd
    simp [ended, Kind.expectsResponse] at this

/-- The probe that ends a session stands alone, behind all that was said. -/
theorem Bracket.of_ended (bracket : Bracket said last result) (split : said ++ last = before ++ d :: after)
    (ended : d.kind = .sessionEnded) :
    before = said ∧ last = [d] ∧ after = [] ∧ said.isClosed = false ∧ ∀ f, result = .error f → d.answer = .error f := by
  obtain ⟨rfl, -⟩ | ⟨e, rfl, -, opened, failed⟩ := bracket.ending
  · have early : d ∈ said := by simp [show said = before ++ d :: after by simpa using split]
    exact absurd ended (bracket.opening.kind_ne early)
  · obtain ⟨rfl, rfl⟩ | ⟨rest, early⟩ := Session.concat_eq_append_cons split
    · have alone : after = [] := by simpa using split
      exact ⟨rfl, rfl, alone, opened, failed⟩
    · exact absurd ended (bracket.opening.kind_ne (early ▸ by simp))

theorem Bracket.last?_eq (bracket : Bracket said last result) : History.last? (said ++ last) = said.last? := by
  obtain ⟨rfl, -⟩ | ⟨d, rfl, ⟨ended, -⟩, -⟩ := bracket.ending
  · rw [List.append_nil]
  · rw [History.last?_concat, Delivery.accepted?_probe (by rw [ended]; rfl), Option.none_or]

theorem Bracket.ended_iff (bracket : Bracket said last (.ok ())) :
    (∃ d ∈ said ++ last, d.kind = .sessionEnded) ↔ said.isClosed = false := by
  constructor
  · rintro ⟨d, hd, ended⟩
    obtain ⟨before, after, split⟩ := List.append_of_mem hd
    exact (bracket.of_ended split ended).2.2.2.1
  · intro opened
    obtain ⟨-, closed⟩ | ⟨d, rfl, ⟨ended, -⟩, -⟩ := bracket.ending
    · rw [closed rfl] at opened
      cases opened
    · exact ⟨d, by simp, ended⟩

/-- Where all went well nothing counts only if nothing was said. -/
theorem Bracket.last?_eq_none_iff (bracket : Bracket said last (.ok ())) :
    said.last? = none ↔ ∀ d ∈ said ++ last, d.kind.expectsResponse = false := by
  have quiet : said.last? = none ↔ ∀ d ∈ said, d.accepted? = none := by simp [History.last?]
  rw [quiet]
  constructor
  · intro none_accepted d hd
    rcases List.mem_append.mp hd with hd | hd
    · cases converses : d.kind.expectsResponse with
      | false => rfl
      | true =>
        have accepted := bracket.answered rfl d hd converses
        simp [none_accepted d hd] at accepted
    · obtain ⟨rfl, -⟩ | ⟨e, rfl, ⟨ended, -⟩, -⟩ := bracket.ending
      · cases hd
      · rw [List.mem_singleton.mp hd, ended]
        rfl
  · intro probes d hd
    exact Delivery.accepted?_probe (probes d (List.mem_append_left last hd))

end

theorem session_is_bracketed {σ : Type} (w : World (StateM σ)) (identity : Identity) (policy : Policy) (n : Node)
    (report : Report) (s : σ) :
    let passed := session w identity policy n report s
    ((passed.log = [] ∧ passed.result = .error (.config (.clock identity.offset))) ∨
      ∃ first said last, passed.log = first :: (said ++ last) ∧ first.kind = .sessionStarted ∧
        (∀ d ∈ said, d.kind = .launch ∨ d.kind = .intent ∨ d.kind = .utterance) ∧
        (last = [] ∨ ∃ d, last = [d] ∧ d.kind = .sessionEnded ∧ d.envelope.request.reason = some .userInitiated)) ∧
    (∀ d ∈ passed.log, d.envelope.request.type = d.kind.wireName) ∧
    (passed.result = .ok () →
      ((∃ d ∈ passed.log, d.kind = .sessionEnded) ↔ ∀ r, History.last? passed.log = some r → r.shouldEnd ≠ some true) ∧
      (History.last? passed.log = none ↔ ∀ d ∈ passed.log, d.kind.expectsResponse = false)) ∧
    (∀ before d after, passed.log = before ++ d :: after → d.kind = .sessionEnded →
      after = [] ∧ History.isClosed before = false ∧ ∀ f, passed.result = .error f → d.answer = .error f) := by
  intro passed
  have types : ∀ d ∈ passed.log, d.envelope.request.type = d.kind.wireName := by
    intro d hd
    obtain ⟨a, sends⟩ := session_sends w identity policy n report s
    obtain ⟨before, after, split⟩ := List.append_of_mem hd
    exact (Session.delivery_of_sends sends split).2.1
  have course : Course w identity policy n report passed.result passed.report passed.log := session_course ..
  obtain ⟨silent, failed⟩ | ⟨said, last, log, bracket⟩ := course.bracket
  · rw [silent, failed]
    exact ⟨.inl ⟨rfl, rfl⟩, by simp, nofun, by simp⟩
  · rw [log] at types ⊢
    refine ⟨.inr ?_, types, fun ok => ?_, fun before d after split ended => ?_⟩
    · obtain ⟨first, rest, rfl, start, only⟩ := bracket.opening
      refine ⟨first, rest, last, rfl, start, fun d hd => ?_, ?_⟩
      · have := only d hd
        cases kind : d.kind <;> simp_all [Kind.expectsResponse]
      · obtain ⟨rfl, -⟩ | ⟨d, rfl, farewell, -⟩ := bracket.ending
        · exact .inl rfl
        · exact .inr ⟨d, rfl, farewell⟩
    · rw [ok] at bracket
      rw [bracket.last?_eq, bracket.ended_iff, bracket.opening.isClosed_eq]
      exact ⟨by cases said.last? <;> simp, bracket.last?_eq_none_iff⟩
    · obtain ⟨rfl, -, alone, opened, failed⟩ := bracket.of_ended split ended
      exact ⟨alone, opened, failed⟩

/-- A launch opens what the skill has closed, so the user ends it; where that probe is lost, that is the failure. -/
theorem user_ends_what_is_open_again :
    let told (ends : Bool) : Answer := .ok (some { body := { shouldEnd := some ends } : Response }.toBytes)
    let n : Node := [.param .launch, .follow [.param .launch]]
    let held (last : Answer) := session Session.listed ⟨"app", "user", none, "en-US", 0⟩ .allowLaunchAndSessionEnded n {}
      [.ok none, told true, told false, last]
    let ended := held (.ok none)
    let lost := held (.error (.io "lost"))
    (ended.result = .ok () ∧ ∀ r, History.last? ended.log = some r → r.shouldEnd ≠ some true) ∧
      lost.result = .error (.io "lost") ∧ History.isClosed (lost.log.take 3) = false ∧
      ∃ d, lost.log = lost.log.take 3 ++ [d] ∧ d.kind = .sessionEnded ∧ d.answer = .error (.io "lost") := by
  intro told n held ended lost
  have shape (last : Answer) := session_is_bracketed Session.listed ⟨"app", "user", none, "en-US", 0⟩
    .allowLaunchAndSessionEnded n {} [.ok none, told true, told false, last]
  have passed : ended.result = .ok () := by rfl
  have failed : lost.result = .error (.io "lost") := by rfl
  have split : lost.log = lost.log.take 3 ++ lost.log.get ⟨3, by decide +kernel⟩ :: [] := by rfl
  have farewell := (shape (.error (.io "lost"))).2.2.2 _ _ _ split rfl
  refine ⟨⟨passed, ?_⟩, failed, farewell.2.1, _, split, rfl, farewell.2.2 _ failed⟩
  exact ((shape (.ok none)).2.2.1 passed).1.mp ⟨ended.log.get ⟨3, by decide +kernel⟩, List.get_mem .., rfl⟩

end Rehearsal.Script
