import Rehearsal.Proofs.Session.Handshake
import Rehearsal.Transport.Local

/-!
Responses that the owner of a conversation takes in by hand, at any time. Once the session has started they keep the
handshake; one that comes before forestalls it: the session is open without having been started, can no longer be, and
whatever it sends is marked as new.
-/
namespace Rehearsal.Session
open Wire (Envelope Kind Request Response)

inductive Move where
  | call (c : Call)
  | apply (r : Response)

namespace Conversation
variable {σ : Type} (w : World (StateM σ))

def move (k : Conversation σ) : Move → Conversation σ
  | .call c => (k.call w c).2
  | .apply r => { k with actor := k.actor.apply r }

def moves (k : Conversation σ) (ms : List Move) : Conversation σ :=
  ms.foldl (·.move w) k

def forestalled (k : Conversation σ) : List Move → Bool
  | [] => false
  | .call c :: rest => (k.move w (.call c)).forestalled rest
  | .apply r :: rest => !k.log.isStarted || (k.move w (.apply r)).forestalled rest

@[simp] theorem moves_nil (k : Conversation σ) : k.moves w [] = k := rfl

@[simp] theorem moves_cons (k : Conversation σ) (move : Move) (rest : List Move) :
    k.moves w (move :: rest) = (k.move w move).moves w rest := rfl

theorem moves_append (k : Conversation σ) (ms more : List Move) : k.moves w (ms ++ more) = (k.moves w ms).moves w more :=
  List.foldl_append

theorem forestalled_iff (k : Conversation σ) (ms : List Move) :
    k.forestalled w ms = true ↔
      ∃ before r after, ms = before ++ .apply r :: after ∧ (k.moves w before).log.isStarted = false := by
  induction ms generalizing k with
  | nil => simp [forestalled]
  | cons move rest ih =>
    have later : (k.move w move).forestalled w rest = true ↔
        ∃ before r after, move :: rest = (move :: before) ++ .apply r :: after ∧ (k.moves w (move :: before)).log.isStarted = false := by
      rw [ih]
      simp
    constructor
    · intro early
      cases move with
      | call c =>
        obtain ⟨before, r, after, split, unstarted⟩ := later.mp early
        exact ⟨_, r, after, split, unstarted⟩
      | apply r =>
        rw [forestalled, Bool.or_eq_true] at early
        rcases early with now | early
        · exact ⟨[], r, rest, rfl, by simpa using now⟩
        · obtain ⟨before, r, after, split, unstarted⟩ := later.mp early
          exact ⟨_, r, after, split, unstarted⟩
    · rintro ⟨before, r, after, split, unstarted⟩
      cases before with
      | nil =>
        obtain ⟨rfl, rfl⟩ := List.cons_eq_cons.mp split
        have now : k.log.isStarted = false := unstarted
        simp [forestalled, now]
      | cons first before =>
        obtain ⟨rfl, -⟩ := List.cons_eq_cons.mp split
        have early := later.mpr ⟨before, r, after, split, unstarted⟩
        cases move with
        | call c => exact early
        | apply r => simp [forestalled, early]

end Conversation

/-- What the guards rest on. `early` says that a response came before the session had started. -/
structure Standing (early : Bool) (h : History) (a : Actor) : Prop where
  fresh : a.session.fresh = !h.isStarted
  closed : a.session.closed = true ↔ a.stage = .closed
  created : a.stage = .created ↔ h.isStarted = false ∧ early = false
  unstarted : early = true → h.isStarted = false
  marked : ∀ d ∈ h, d.envelope.session.fresh = true ↔ d.kind = .sessionStarted ∨ early = true
  probes : h.isStarted = false → early = false → ∀ d ∈ h, d.kind = .sessionStarted

theorem apply_stage (a : Actor) (response : Response) :
    ((a.apply response).session.closed = true ↔ (a.apply response).stage = .closed) ∧ (a.apply response).stage ≠ .created := by
  cases ends : response.ends <;> simp [Actor.apply, ends]

/-- Past the start, what a delivered request makes of an actor. -/
theorem settle_past_start {a : Actor} {r : Request} (answer : Option (List UInt8)) (probe : r.kind ≠ .sessionStarted)
    (begun : a.stage ≠ .created) (closed : a.session.closed = true ↔ a.stage = .closed) :
    (a.settle r answer).2.session.fresh = a.session.fresh ∧
      ((a.settle r answer).2.session.closed = true ↔ (a.settle r answer).2.stage = .closed) ∧
      (a.settle r answer).2.stage ≠ .created := by
  cases expects : r.kind.expectsResponse with
  | true =>
    rw [settle_conversational a r answer expects]
    cases Actor.readAnswer r answer with
    | error f => exact ⟨rfl, closed, begun⟩
    | ok response => exact ⟨rfl, apply_stage _ response⟩
  | false =>
    have ended : r.kind = .sessionEnded := by cases kind : r.kind <;> simp_all [Kind.expectsResponse]
    simp [Actor.settle, ended, Actor.noteEnded]

namespace Standing
variable {early : Bool} {h : History} {a b : Actor} {r : Request} {d : Delivery}

theorem create (identity : Identity) (policy : Policy) (n : Nat) : Standing false [] (.create identity policy n) := by
  constructor <;> simp [Actor.create, History.isStarted]

theorem probe_iff (st : Standing early h a) (free : a.refusal? r = none) :
    r.kind = .sessionStarted ↔ h.isStarted = false ∧ early = false :=
  ((refusal?_eq_none_iff a r).mp free).1.trans st.created

theorem marked_of_free (st : Standing early h a) (free : a.refusal? r = none) :
    a.session.fresh = true ↔ r.kind = .sessionStarted ∨ early = true := by
  rw [st.probe_iff free, st.fresh]
  have unstarted := st.unstarted
  cases early <;> simp_all

theorem marked_concat (st : Standing early h a) (free : a.refusal? r = none) (kind : d.kind = r.kind)
    (fresh : d.envelope.session.fresh = a.session.fresh) :
    ∀ e ∈ h ++ [d], e.envelope.session.fresh = true ↔ e.kind = .sessionStarted ∨ early = true := by
  intro e he
  rcases List.mem_append.mp he with old | new
  · exact st.marked e old
  · rw [List.mem_singleton.mp new, fresh, kind]
    exact st.marked_of_free free

/-- A delivery that does not start the session. -/
theorem concat (st : Standing early h a) (free : a.refusal? r = none) (kind : d.kind = r.kind)
    (fresh : d.envelope.session.fresh = a.session.fresh) (quiet : d.starts = false) : Standing early (h ++ [d]) a := by
  have same : History.isStarted (h ++ [d]) = h.isStarted := by simp [History.isStarted_concat, quiet]
  constructor
  case fresh => rw [same, st.fresh]
  case closed => exact st.closed
  case created => rw [same, st.created]
  case unstarted => rw [same]; exact st.unstarted
  case marked => exact st.marked_concat free kind fresh
  case probes =>
    intro unstarted late e he
    rw [same] at unstarted
    rcases List.mem_append.mp he with old | new
    · exact st.probes unstarted late e old
    · rw [List.mem_singleton.mp new, kind]
      exact (st.probe_iff free).mpr ⟨unstarted, late⟩

/-- The delivery that ends the time before the start. -/
theorem started (st : Standing early h a) (free : a.refusal? r = none) (probe : r.kind = .sessionStarted)
    (kind : d.kind = r.kind) (fresh : d.envelope.session.fresh = a.session.fresh) (arrived : d.arrived = true) (n : Nat) :
    Standing early (h ++ [d]) ({ a with fired := n } : Actor).noteStarted := by
  obtain ⟨-, late⟩ := (st.probe_iff free).mp probe
  have created : a.stage = .created := ((refusal?_eq_none_iff a r).mp free).1.mp probe
  have opened : a.session.closed ≠ true := fun closed => by simp [st.closed.mp closed] at created
  have now : History.isStarted (h ++ [d]) = true := by
    simp [History.isStarted_concat, Delivery.starts, kind, probe, arrived]
  constructor
  case fresh => rw [now]; rfl
  case closed => exact iff_of_false opened (by simp [Actor.noteStarted])
  case created => simp [now, Actor.noteStarted]
  case unstarted => simp [late]
  case marked => exact st.marked_concat free kind fresh
  case probes => simp [now]

/-- Past the start, or where it is forestalled, a new stage has only to agree with whether the session is closed. -/
theorem moved (st : Standing early h a) (begun : a.stage ≠ .created) (fresh : b.session.fresh = a.session.fresh)
    (closed : b.session.closed = true ↔ b.stage = .closed) (going : b.stage ≠ .created) : Standing early h b :=
  { st with
    fresh := fresh.trans st.fresh
    closed
    created := iff_of_false going fun unbegun => begun (st.created.mpr unbegun) }

theorem sent {log : List Delivery} {x : Except Failure (Option Response)} (st : Standing early h a) (step : Sent a r log x b) :
    Standing early (h ++ log) b := by
  cases step with
  | refused => rw [List.append_nil]; exact st
  | untimed => rw [List.append_nil]; exact st
  | lost free => exact st.concat free rfl rfl (by simp [Delivery.starts, Delivery.arrived, Except.isOk, Except.toBool])
  | @arrived _ _ _ answer free =>
    by_cases probe : r.kind = .sessionStarted
    · have settled : (a.settle r answer).2 = ({ a with fired := a.fired + 1 } : Actor).noteStarted := by
        simp [Actor.settle, probe]
      rw [settled]
      exact st.started free probe rfl rfl (Delivery.arrived_of_ok rfl) _
    · have begun : a.stage ≠ .created := fun created => probe (((refusal?_eq_none_iff a r).mp free).1.mpr created)
      obtain ⟨fresh, closed, going⟩ := settle_past_start answer probe begun st.closed
      exact (st.concat free rfl rfl (by simp [Delivery.starts, probe])).moved begun fresh closed going

/-- A response taken in by hand. -/
theorem apply (st : Standing early h a) (response : Response) :
    Standing (early || !h.isStarted) h (a.apply response) := by
  obtain ⟨closed, going⟩ := apply_stage a response
  by_cases started : h.isStarted = true
  · have begun : a.stage ≠ .created := by
      rw [Ne, st.created, started]
      simp
    simp only [started, Bool.not_true, Bool.or_false]
    exact st.moved begun rfl closed going
  · have unstarted : h.isStarted = false := by simpa using started
    simp only [unstarted, Bool.not_false, Bool.or_true]
    constructor
    case fresh => exact st.fresh
    case closed => exact closed
    case created => simp [going]
    case unstarted => exact fun _ => unstarted
    case marked =>
      -- all that went out so far went out as new: to start the session, or after an earlier response
      intro d hd
      have marked := st.marked d hd
      have probe := st.probes unstarted
      cases early <;> simp_all
    case probes => simp

end Standing

/-- What the handshake promises at one moment of a conversation. -/
structure Conversation.KeepsHandshake {σ : Type} (w : World (StateM σ)) (k : Conversation σ) : Prop where
  fresh : k.actor.session.fresh = true ↔ k.log.isStarted = false
  closed : k.actor.session.closed = true ↔ k.actor.stage = .closed
  held : ∀ r e, ((k.actor.envelope w r).run k.world).1 = .ok e → r.kind ≠ .sessionStarted → k.log.isStarted = true
  startable : k.log.isStarted = false → k.actor.refusal? .sessionStarted = none
  built : ∀ r e, ((k.actor.envelope w r).run k.world).1 = .ok e → r.kind ≠ .sessionStarted → e.session.fresh = false
  sent : ∀ d ∈ k.log, d.kind ≠ .sessionStarted → d.envelope.session.fresh = false

section
variable {σ : Type} (w : World (StateM σ)) {early : Bool} {k : Conversation σ}

theorem Standing.moves (st : Standing early k.log k.actor) (ms : List Move) :
    Standing (early || k.forestalled w ms) (k.moves w ms).log (k.moves w ms).actor := by
  induction ms generalizing k early with
  | nil => simpa [Conversation.forestalled] using st
  | cons move rest ih =>
    cases move with
    | call c =>
      obtain ⟨log, step, grown⟩ := Conversation.call_sent w k c
      have next : Standing early (k.move w (.call c)).log (k.move w (.call c)).actor := by
        rw [Conversation.move, grown]
        exact st.sent step
      exact ih next
    | apply r =>
      have next : Standing (early || !k.log.isStarted) (k.move w (.apply r)).log (k.move w (.apply r)).actor := st.apply r
      rw [Conversation.forestalled, ← Bool.or_assoc]
      exact ih next

theorem Standing.keepsHandshake (st : Standing false k.log k.actor) : k.KeepsHandshake w := by
  have unbegun : k.actor.stage = .created ↔ k.log.isStarted = false := by simpa using st.created
  constructor
  case fresh => simp [st.fresh]
  case closed => exact st.closed
  case held =>
    intro r e built other
    obtain ⟨free, -⟩ := envelope_built w k.world built
    simpa using (st.probe_iff free).not.mp other
  case startable =>
    intro unstarted
    have created := unbegun.mpr unstarted
    refine (refusal?_eq_none_iff _ _).mpr ⟨iff_of_true rfl created, fun closed => ?_⟩
    simp [st.closed.mp closed] at created
  case built =>
    intro r e built other
    obtain ⟨free, n, now, time, -, rfl⟩ := envelope_built w k.world built
    have fresh := (st.marked_of_free free).not.mpr (by simpa using other)
    simpa [Actor.wrap] using fresh
  case sent =>
    intro d hd other
    simpa [other] using st.marked d hd

/-- What is forestalled stays so. -/
theorem Standing.forestalled (st : Standing true k.log k.actor) :
    k.log.isStarted = false ∧ k.actor.refusal? .sessionStarted = some (.alreadyStarted k.actor.session.id) ∧
      (∀ r e, ((k.actor.envelope w r).run k.world).1 = .ok e → e.session.fresh = true) ∧
      ∀ d ∈ k.log, d.envelope.session.fresh = true := by
  have unstarted := st.unstarted rfl
  have begun : k.actor.stage ≠ .created := by simp [st.created]
  refine ⟨unstarted, ?_, ?_, ?_⟩
  · simp [Actor.refusal?, Request.kind, begun]
  · intro r e built
    obtain ⟨-, n, now, time, -, rfl⟩ := envelope_built w k.world built
    simp [Actor.wrap, st.fresh, unstarted]
  · intro d hd
    exact (st.marked d hd).mpr (.inr rfl)

theorem Standing.unprobed (st : Standing true k.log k.actor) (ms : List Move) :
    ∃ new, (k.moves w ms).log = k.log ++ new ∧ ∀ d ∈ new, d.kind ≠ .sessionStarted := by
  induction ms generalizing k with
  | nil => exact ⟨[], by simp, by simp⟩
  | cons move rest ih =>
    have next : Standing true (k.moves w [move]).log (k.moves w [move]).actor := by simpa using st.moves w [move]
    obtain ⟨new, grown, unprobed⟩ := ih next
    cases move with
    | apply r => exact ⟨new, grown, unprobed⟩
    | call c =>
      obtain ⟨sent, step, log⟩ := Conversation.call_sent w k c
      refine ⟨sent ++ new, ?_, ?_⟩
      · rw [← List.append_assoc, ← log]
        exact grown
      · intro d hd
        rcases List.mem_append.mp hd with hd | hd
        · obtain ⟨kind, free⟩ := step.free d hd
          rw [kind, Ne, st.probe_iff free]
          simp
        · exact unprobed d hd

end

theorem handshake_is_kept_unless_forestalled {σ : Type} (w : World (StateM σ)) (identity : Identity) (policy : Policy) (n : Nat)
    (s : σ) (ms : List Move) :
    let k₀ := Conversation.start identity policy n s
    let k := k₀.moves w ms
    (k.actor.session.fresh = true ↔ k.log.isStarted = false) ∧
    (k.actor.session.closed = true ↔ k.actor.stage = .closed) ∧
    (k.KeepsHandshake w ↔ ∀ before r after, ms = before ++ .apply r :: after → (k₀.moves w before).log.isStarted = true) ∧
    (∀ before r after, ms = before ++ .apply r :: after → (k₀.moves w before).log.isStarted = false →
      k.log.isStarted = false ∧ k.call w .start = (.error (.state (.alreadyStarted k.actor.session.id)), k) ∧
      (∀ r e, ((k.actor.envelope w r).run k.world).1 = .ok e → e.session.fresh = true) ∧
      (∀ d ∈ k.log, d.envelope.session.fresh = true) ∧
      ∃ new, k.log = (k₀.moves w before).log ++ new ∧ ∀ d ∈ new, d.kind ≠ .sessionStarted) := by
  intro k₀ k
  have start : Standing false k₀.log k₀.actor := .create identity policy n
  have st : Standing (k₀.forestalled w ms) k.log k.actor := by
    simpa using start.moves w ms
  refine ⟨by simp [st.fresh], st.closed, ?_, ?_⟩
  · constructor
    · intro kept before r after split
      by_contra unstarted
      have early : k₀.forestalled w ms = true :=
        (Conversation.forestalled_iff w k₀ ms).mpr ⟨before, r, after, split, by simpa using unstarted⟩
      rw [early] at st
      obtain ⟨never, refused, -⟩ := st.forestalled w
      rw [kept.startable never] at refused
      cases refused
    · intro late
      have early : k₀.forestalled w ms = false := by
        by_contra early
        obtain ⟨before, r, after, split, unstarted⟩ := (Conversation.forestalled_iff w k₀ ms).mp (by simpa using early)
        rw [late before r after split] at unstarted
        cases unstarted
      rw [early] at st
      exact st.keepsHandshake w
  · intro before r after split unstarted
    have early : k₀.forestalled w ms = true := (Conversation.forestalled_iff w k₀ ms).mpr ⟨before, r, after, split, unstarted⟩
    rw [early] at st
    obtain ⟨never, refused, built, sent⟩ := st.forestalled w
    refine ⟨never, Conversation.call_refused w k .start refused, built, sent, ?_⟩
    have forestalled : Standing true (k₀.moves w (before ++ [.apply r])).log (k₀.moves w (before ++ [.apply r])).actor := by
      have early := (Conversation.forestalled_iff w k₀ (before ++ [.apply r])).mpr ⟨before, r, [], rfl, unstarted⟩
      have after_it := start.moves w (before ++ [.apply r])
      rw [early] at after_it
      exact after_it
    obtain ⟨new, grown, unprobed⟩ := forestalled.unprobed w after
    refine ⟨new, ?_, unprobed⟩
    rw [← Conversation.moves_append, List.append_assoc, List.singleton_append, ← split] at grown
    rw [grown, Conversation.moves_append]
    rfl

/-- A response, then the start, then a launch: the start is refused, and the launch goes out, as the first of a new session. -/
theorem launch_goes_out_as_new :
    let told : Answer := .ok (some { body := { shouldEnd := some false } : Response }.toBytes)
    let k := (Conversation.start ⟨"app", "user", none, "en-US", 0⟩ .allowSessionEnded 7 [told]).moves listed
      [.apply { version := "1.0" }, .call .start, .call .launch]
    ¬k.KeepsHandshake listed ∧ k.log.isStarted = false ∧
      k.log.map (fun d => (d.kind, d.envelope.session.fresh)) = [(.launch, true)] := by
  intro told k
  have unstarted : k.log.isStarted = false := by decide +kernel
  have sent : k.log.map (fun d => (d.kind, d.envelope.session.fresh)) = [(.launch, true)] := by decide +kernel
  have stage : k.actor.stage = .opened := by decide +kernel
  refine ⟨fun kept => ?_, unstarted, sent⟩
  have free := kept.startable unstarted
  simp [Actor.refusal?, Request.kind, stage] at free

end Rehearsal.Session
