import Rehearsal.Main
import Rehearsal.Proofs.Script.Bracket
import Rehearsal.Proofs.Script.Isolation
import Rehearsal.Proofs.Script.Unchecked
import Rehearsal.Proofs.Script.Grouping
import Rehearsal.Proofs.Script.Turn
import Rehearsal.Proofs.Script.Slots
import Rehearsal.Proofs.Script.Entries
import Rehearsal.Proofs.Script.Marker
import Rehearsal.Proofs.Script.Loading
import Rehearsal.Proofs.Script.Policies
import Rehearsal.Proofs.Transport.Errand
import Rehearsal.Proofs.Transport.Grants
import Rehearsal.Proofs.Transport.Tokens
import Rehearsal.Proofs.Transport.Correspondence
import Rehearsal.Proofs.Script.Chronicle
import Rehearsal.Proofs.Command.Totals
import Rehearsal.Proofs.Json.Written
import Rehearsal.Proofs.Decimal.Finite
import Rehearsal.Proofs.Json.Numeral
import Rehearsal.Proofs.Json.Fractions
import Rehearsal.Proofs.Json.Shape
import Rehearsal.Proofs.Json.Spelling
import Rehearsal.Proofs.Json.Meaning
import Rehearsal.Proofs.Json.Fields
import Rehearsal.Proofs.Json.Changing
import Rehearsal.Proofs.Wire.Envelope
import Rehearsal.Proofs.Wire.Response
import Rehearsal.Proofs.Session.Carriage
import Rehearsal.Proofs.Session.Atomicity
import Rehearsal.Proofs.Session.Applying
import Rehearsal.Proofs.Command.Acceptance
import Rehearsal.Proofs.Settings.Defaults
import Rehearsal.Proofs.Calendar.Civil
import Rehearsal.Proofs.Calendar.Stamp
import Rehearsal.Proofs.Wire.Ids
import Rehearsal.Proofs.Session.WellFormed
import Rehearsal.Proofs.Command.Envelopes
import Rehearsal.Proofs.Check.Wholeness
import Rehearsal.Proofs.Check.Equality
import Rehearsal.Proofs.Check.Ancestry
import Rehearsal.Proofs.Check.Vocabulary
import Rehearsal.Proofs.Wire.Foreign
import Rehearsal.Proofs.Check.Foreign
import Rehearsal.Proofs.Check.Twins
import Rehearsal.Proofs.Check.Wrapping
import Rehearsal.Proofs.Script.Recasting
import Rehearsal.Proofs.Settings.Options
import Rehearsal.Proofs.Settings.Layers
import Rehearsal.Proofs.Command.Precedence
import Rehearsal.Proofs.Text.Percent
import Rehearsal.Proofs.Transport.Credentials
import Rehearsal.Proofs.Script.Mirror
import Rehearsal.Proofs.Session.Unread
import Rehearsal.Proofs.Script.Naming
import Rehearsal.Proofs.Script.Delay
