import Searchable.Fault.Made
import Searchable.Journal
import Searchable.Proofs.Registry.Acceptance
import Searchable.Proofs.Schema.Isolation
import Searchable.Proofs.Schema.Joining
import Searchable.Proofs.Schema.OwnName
import Searchable.Proofs.Schema.Rearrangement
import Searchable.Proofs.Session.Dispatch
import Searchable.Proofs.Session.Faults
import Searchable.Proofs.Session.Missing
import Searchable.Proofs.Session.Ordering
import Searchable.Proofs.Session.Precedence
import Searchable.Proofs.Session.Secrecy
import Searchable.Proofs.Session.Separation
import Searchable.Proofs.Settings.Failures
import Searchable.Proofs.Settings.Influence
import Searchable.Proofs.Settings.RoundTrip
import Searchable.Proofs.Statement.Agreement
import Searchable.Proofs.Statement.Origins
import Searchable.Settings.Dotenv
