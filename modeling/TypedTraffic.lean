import TypedTraffic.Capture.Document
import TypedTraffic.Client.Module
import TypedTraffic.Command.Run
import TypedTraffic.Configuration
import TypedTraffic.Declaration.Registry
import TypedTraffic.Endpoint.Group
import TypedTraffic.Form
import TypedTraffic.Json.Reader
import TypedTraffic.Main
import TypedTraffic.Sample
import TypedTraffic.Session.Basic
import TypedTraffic.Terminal.Table
import TypedTraffic.Url.Basic
import TypedTraffic.Yaml.Value
import TypedTraffic.Proofs.Naming.Fresh
import TypedTraffic.Proofs.Naming.Identifier
import TypedTraffic.Proofs.Declaration.Legible
import TypedTraffic.Proofs.Declaration.Written
import TypedTraffic.Proofs.Declaration.Header
import TypedTraffic.Proofs.Declaration.Collapsed
import TypedTraffic.Proofs.Declaration.Marked
import TypedTraffic.Proofs.Declaration.Relabelled
import TypedTraffic.Proofs.Declaration.Fronted
import TypedTraffic.Proofs.Declaration.Rooted
import TypedTraffic.Proofs.Declaration.Registered
import TypedTraffic.Proofs.Naming.Assigned
import TypedTraffic.Proofs.Shape.Laid
import TypedTraffic.Proofs.Sample
import TypedTraffic.Proofs.Shape.Conforming
import TypedTraffic.Proofs.Session.Ledger
import TypedTraffic.Proofs.Endpoint.Grouped
import TypedTraffic.Proofs.Session.Run
import TypedTraffic.Proofs.Session.Declared
import TypedTraffic.Proofs.Session.Shared
import TypedTraffic.Proofs.Session.Alike
import TypedTraffic.Proofs.Session.Completed
import TypedTraffic.Proofs.Session.Latest
import TypedTraffic.Proofs.Naming.Stable
import TypedTraffic.Proofs.Sample.Reading
import TypedTraffic.Proofs.Session.Placed
import TypedTraffic.Proofs.Shape.Rerooted
import TypedTraffic.Proofs.Declaration.Renamed
import TypedTraffic.Proofs.Endpoint.Repeated
import TypedTraffic.Proofs.Session.Repeated
import TypedTraffic.Proofs.Endpoint.Meeting
import TypedTraffic.Proofs.Client.Lexical
import TypedTraffic.Proofs.Client.Literal
import TypedTraffic.Proofs.Client.Comment
import TypedTraffic.Proofs.Json.Keyed
import TypedTraffic.Proofs.Shape.Merged
import TypedTraffic.Proofs.Sample.Fields
import TypedTraffic.Proofs.Session.Fields
import TypedTraffic.Proofs.Naming.Joined
import TypedTraffic.Proofs.Session.Called
import TypedTraffic.Proofs.Session.Isolated
import TypedTraffic.Proofs.Session.Named
import TypedTraffic.Proofs.Session.Unshadowed
import TypedTraffic.Proofs.Session.Spelled
import TypedTraffic.Proofs.Command.Reported
import TypedTraffic.Proofs.Sample.Again
import TypedTraffic.Proofs.Declaration.Nameless
import TypedTraffic.Proofs.Command.Effective
import TypedTraffic.Proofs.Client.Encoded
import TypedTraffic.Proofs.Command.Stored
import TypedTraffic.Proofs.Command.Whole
import TypedTraffic.Proofs.Declaration.Exported
import TypedTraffic.Proofs.Session.Exported
import TypedTraffic.Proofs.Text.Casing
import TypedTraffic.Proofs.Text.Utf8
import TypedTraffic.Proofs.Form.Decoded
import TypedTraffic.Proofs.Form.Pieces
import TypedTraffic.Proofs.Sample.Value
import TypedTraffic.Proofs.Sample.Form
import TypedTraffic.Proofs.Shape.Depth
import TypedTraffic.Proofs.Sample.Outcome
import TypedTraffic.Proofs.Sample.Rejected
import TypedTraffic.Proofs.Fingerprint
import TypedTraffic.Proofs.Capture.Outline
import TypedTraffic.Proofs.Url.Absolute
import TypedTraffic.Proofs.Endpoint.Record
import TypedTraffic.Proofs.Session.Located
import TypedTraffic.Proofs.Declaration.Unnamed
import TypedTraffic.Proofs.Shape.Exact
