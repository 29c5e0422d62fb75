import Syslog.Session
import Syslog.Proofs.Message.Constraint
import Syslog.Proofs.Text.Utf8
import Syslog.Proofs.Message.Accepted
import Syslog.Proofs.Text.Decimal
import Syslog.Proofs.Time.Written
import Syslog.Proofs.Message.Octets
import Syslog.Proofs.Message.Reading
import Syslog.Proofs.Message.Line
import Syslog.Proofs.Record.Interleaving
import Syslog.Proofs.Message.Decoded
import Syslog.Proofs.Event.Meaning
import Syslog.Proofs.Event.Composed
import Syslog.Proofs.Event.Renderable
import Syslog.Proofs.Event.Lossless
import Syslog.Proofs.Record.Classification
import Syslog.Proofs.Record.Composition
import Syslog.Proofs.Record.Encodable
import Syslog.Proofs.Session.LookUp
import Syslog.Proofs.Session.Step
import Syslog.Proofs.Session.Caching
import Syslog.Proofs.Session.Transparency
import Syslog.Proofs.Value.Json
import Syslog.Proofs.Event.Prepared
import Syslog.Proofs.Logging.Configured
import Syslog.Proofs.Logging.Delivery
import Syslog.Proofs.Logging.Levels
import Syslog.Proofs.Logging.Paths
import Syslog.Proofs.Logging.Provenance
import Syslog.Proofs.Logging.Rejection
import Syslog.Proofs.Logging.Sinks
import Syslog.Proofs.Logging.Threshold
import Syslog.Proofs.Record.Failure
import Syslog.Proofs.Time.WellFormed
import Syslog.Proofs.Value.Entries
import Syslog.Proofs.Event.Alike
import Syslog.Proofs.Event.Reordered
import Syslog.Proofs.Logging.Forgery
import Syslog.Proofs.Time.Instant
import Syslog.Proofs.Time.Iso8601
import Syslog.Proofs.Event.Stamped
import Syslog.Proofs.Record.Placement
import Syslog.Proofs.Record.Violation
import Syslog.Proofs.Record.Succession
import Syslog.Proofs.Record.Grouping
import Syslog.Proofs.Text.Case
import Syslog.Proofs.Event.Normalized
import Syslog.Proofs.Message.Conversion
import Syslog.Proofs.Record.TagForms
import Syslog.Proofs.Record.Independence
import Syslog.Proofs.Text.Malformed
import Syslog.Proofs.Record.OctetValues
import Syslog.Proofs.Event.Containment
import Syslog.Proofs.Message.Escaping
import Syslog.Proofs.Message.Capped
import Syslog.Proofs.Event.Capped
import Syslog.Proofs.Session.InForce
import Syslog.Proofs.Session.Shielding
import Syslog.Proofs.Record.LookedUp
