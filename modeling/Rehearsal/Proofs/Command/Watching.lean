import Rehearsal.Command.Perform
import Rehearsal.Proofs.Script.Watching
import Rehearsal.Proofs.Transport.Errand

/-! On hosts that answer alike commands come to the same. So a host may be watched: what its commands post is put down. -/
namespace Rehearsal
open Settings (Sources)
open Transport (Client Trail)

structure Settings.Sources.Alike {m₁ m₂ : Type → Type} (R : ∀ {α : Type}, m₁ α → m₂ α → Prop) (src₁ : Sources m₁)
    (src₂ : Sources m₂) : Prop where
  find : ∀ path, R (src₁.find path) (src₂.find path)
  environment : src₁.environment = src₂.environment
  globalPath : src₁.globalPath = src₂.globalPath
  projectPath : src₁.projectPath = src₂.projectPath

structure Command.Host.Alike {m₁ m₂ : Type → Type} (R : ∀ {α : Type}, m₁ α → m₂ α → Prop) (h₁ : Host m₁) (h₂ : Host m₂) : Prop
    extends Surroundings.Alike @R h₁.toSurroundings h₂.toSurroundings where
  sources : Sources.Alike @R h₁.sources h₂.sources
  net : ∀ limit d, R (h₁.net limit d) (h₂.net limit d)

namespace Composes
open Command (Host Invocation)
open Session (Identity Policy)

variable {m₁ m₂ : Type → Type} [Monad m₁] [Monad m₂] {R : ∀ {α : Type}, m₁ α → m₂ α → Prop} (c : Composes @R)
include c

section
variable {src₁ : Sources m₁} {src₂ : Sources m₂} (alike : Sources.Alike @R src₁ src₂)
include alike

theorem layerAt (path : String) : R (Settings.layerAt src₁ path) (Settings.layerAt src₂ path) := by
  refine c.bind (alike.find path) fun found => ?_
  cases found with
  | missing => exact c.pure _
  | unreadable detail => exact c.pure _
  | bytes b =>
    dsimp only
    split <;> exact c.pure _

theorem fileLayers (explicitPath : Option String) :
    R (Settings.fileLayers src₁ explicitPath) (Settings.fileLayers src₂ explicitPath) := by
  unfold Settings.fileLayers
  rw [alike.environment, alike.globalPath, alike.projectPath]
  split
  · refine c.bind (c.layerAt alike _) fun found => ?_
    split <;> exact c.pure _
  · refine c.bind ?_ fun user => ?_
    · cases src₂.globalPath with
      | none => exact c.pure _
      | some path => exact c.layerAt alike path
    · split
      · exact c.pure _
      · refine c.bind (c.layerAt alike _) fun project => ?_
        split <;> exact c.pure _

theorem load (explicitPath : Option String) : R (Settings.load src₁ explicitPath) (Settings.load src₂ explicitPath) := by
  unfold Settings.load
  rw [alike.environment]
  exact c.bind (c.fileLayers alike explicitPath) fun _ => c.pure _

end

variable {h₁ : Host m₁} {h₂ : Host m₂}

theorem scriptsAt [Regex.Room] (alike : Sources.Alike @R h₁.sources h₂.sources) (marker : Char) (paths : List String) :
    R (Command.scriptsAt h₁ marker paths) (Command.scriptsAt h₂ marker paths) := by
  induction paths with
  | nil => exact c.pure _
  | cons path rest ih =>
    refine c.bind (c.bind (alike.find path) fun found => ?_) fun first => ?_
    · split <;> exact c.pure _
    · cases first with
      | error f => exact c.pure _
      | ok s => exact c.bind ih fun _ => c.pure _

theorem drawIdentity {around₁ : Surroundings m₁} {around₂ : Surroundings m₂} (alike : Surroundings.Alike @R around₁ around₂)
    (p : Session.Profile) : R (Session.drawIdentity around₁ p) (Session.drawIdentity around₂ p) :=
  c.bind (alike.draw _) fun _ => c.bind (alike.draw _) fun _ => c.pure _

variable [LawfulMonad m₁]

theorem runAll {w₁ : World m₁} {w₂ : World m₂} (alike : World.Alike @R w₁ w₂) (identity : Identity) (policy : Policy)
    (scripts : List Script) : R (Command.runAll w₁ identity policy scripts) (Command.runAll w₂ identity policy scripts) := by
  induction scripts with
  | nil => exact c.pure _
  | cons s rest ih =>
    refine c.bind (c.run alike identity policy s) fun first => ?_
    cases first with
    | error f => exact c.pure _
    | ok report => exact c.bind ih fun _ => c.pure _

variable (alike : Host.Alike @R h₁ h₂)
include alike

theorem runCommand [Regex.Room] (s : Settings) (paths : List String) (tag : Option String) :
    R (Command.run h₁ s paths tag) (Command.run h₂ s paths tag) := by
  refine c.bind (c.scriptsAt alike.sources s.marker paths) fun scripts => ?_
  cases scripts with
  | error f => exact c.pure _
  | ok scripts =>
    refine c.bind (c.drawIdentity alike.toAlike s.profile) fun identity => ?_
    cases identity with
    | error f => exact c.pure _
    | ok identity =>
      dsimp only
      split
      · exact c.pure _
      · have world := c.overLink alike.toAlike (alike.net s.timeout)
        exact c.bind ((c.overState _).runAll world identity s.policy _ _) fun _ => c.pure _

theorem perform [Regex.Room] (i : Invocation) : R (Command.perform h₁ i) (Command.perform h₂ i) := by
  refine c.bind (c.load alike.sources i.config) fun settings => ?_
  cases settings with
  | error f => exact c.pure _
  | ok s =>
    cases i.job with
    | check paths => exact c.bind (c.scriptsAt alike.sources s.marker paths) fun _ => c.pure _
    | run paths layer tag =>
      dsimp only
      split
      · exact c.pure _
      · exact c.runCommand alike _ paths tag

end Composes

namespace Command
variable {m : Type → Type} [Monad m]

def Host.observed (h : Host m) : Host (StateT Trail m) where
  now := h.now
  draw bound := h.draw bound
  wait s := h.wait s
  sources := { h.sources with find := fun path => h.sources.find path }
  net limit := (h.net limit).observed

theorem host_observed_alike [LawfulMonad m] (h : Host m) : Host.Alike (@Forgets m _ Trail) h.observed h where
  now := forgets_lift h.now
  draw bound := forgets_lift (h.draw bound)
  wait s := forgets_lift (h.wait s)
  sources := {
    find := fun path => forgets_lift (h.sources.find path)
    environment := rfl
    globalPath := rfl
    projectPath := rfl }
  net limit d := (h.net limit).observed_forgets d

/-- To watch a command is not to change it. -/
theorem perform_observed [LawfulMonad m] [Regex.Room] (h : Host m) (i : Invocation) (trail : Trail) :
    Prod.fst <$> (perform h.observed i).run trail = perform h i :=
  forgets_composes.perform (host_observed_alike h) i trail

end Command
end Rehearsal
