import Rehearsal.Proofs.Command.Totals
import Rehearsal.Proofs.Settings.Defaults
import Rehearsal.Proofs.Settings.Layers
import Rehearsal.Proofs.Text.Utf8

/-!
The settings of a run. Arguments stand above the environment, the environment above the files of the project and of the user,
and the defaults below them all.
-/
namespace Rehearsal.Command
open Session (Policy)
open Settings

deriving instance DecidableEq for Layer

end Rehearsal.Command
