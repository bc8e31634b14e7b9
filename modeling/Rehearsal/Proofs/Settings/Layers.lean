import Rehearsal.Proofs.Session.Sending
import Rehearsal.Proofs.Settings.Options
import Rehearsal.Proofs.Settings.Sound
import Rehearsal.Settings.Load

/-!
Layers of settings. What an option holds under a stack of layers is what the highest of them says that says something of it;
only the secrets of the environment reach into what a lower layer said.
-/
namespace Rehearsal.Settings

def held (s : Settings) : (i : Item) → Option i.Value
  | .applicationId => s.profile.applicationId
  | .userId => s.profile.userId
  | .accessToken => s.profile.accessToken
  | .locale => some s.profile.locale
  | .offset => some s.profile.offset
  | .policy => some s.policy
  | .marker => some s.marker
  | .endpoint => s.endpoint
  | .timeout => some s.timeout

section
variable (s : Settings) (l : Layer)

end

section
variable {env : Environment} {s s' : Settings}

end

section
variable {σ : Type} {src : Sources (StateM σ)} {config : Option String} {s s' : σ}

end
end Rehearsal.Settings
