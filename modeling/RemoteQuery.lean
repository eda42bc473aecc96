import RemoteQuery.Client.Basic
import RemoteQuery.Client.ConfigJson
import RemoteQuery.Client.Logging
import RemoteQuery.Clause.OperatorText
import RemoteQuery.Query.ParamsText
import RemoteQuery.Query.SelfReference
import RemoteQuery.Service.Kind
import RemoteQuery.Proofs.Value
import RemoteQuery.Proofs.Clause.Frame
import RemoteQuery.Proofs.Clause.Written
import RemoteQuery.Proofs.Clause.Complete
import RemoteQuery.Proofs.Query.Embedded
import RemoteQuery.Proofs.Query.Slots
import RemoteQuery.Proofs.Query.RoundTrip
import RemoteQuery.Proofs.Service.Response
import RemoteQuery.Proofs.Service.Canonical
import RemoteQuery.Proofs.Fields
import RemoteQuery.Proofs.Text.Percent
import RemoteQuery.Proofs.Number.Literal
import RemoteQuery.Proofs.Json.Quoted
import RemoteQuery.Proofs.Json.Reading
import RemoteQuery.Proofs.Json.Shape
import RemoteQuery.Proofs.Json.Bounded
import RemoteQuery.Proofs.Query.QueryString
import RemoteQuery.Proofs.Query.Resending
import RemoteQuery.Proofs.Wire.Ordered
import RemoteQuery.Proofs.Clause.Ordered
import RemoteQuery.Proofs.Query.Ordered
import RemoteQuery.Proofs.Service.Request
import RemoteQuery.Proofs.Query.Content
import RemoteQuery.Proofs.Query.Presence
import RemoteQuery.Proofs.Service.Write
import RemoteQuery.Proofs.Http.Retry
import RemoteQuery.Proofs.Http.Endpoint
import RemoteQuery.Proofs.Builder.Writes
import RemoteQuery.Proofs.Builder.Slotwise
import RemoteQuery.Proofs.Builder.Groups
import RemoteQuery.Proofs.Query.Legal
import RemoteQuery.Proofs.Builder.Legal
import RemoteQuery.Proofs.Service.Run
import RemoteQuery.Proofs.Http.Reply
import RemoteQuery.Proofs.Service.Truthful
import RemoteQuery.Proofs.Service.Required
import RemoteQuery.Proofs.Http.Segments
import RemoteQuery.Proofs.Http.Resource
import RemoteQuery.Proofs.Number.Magnitude
import RemoteQuery.Proofs.Query.UrlSafe
import RemoteQuery.Proofs.Client.Sources
import RemoteQuery.Proofs.Query.SelfReference
import RemoteQuery.Proofs.Clause.FrameText
import RemoteQuery.Proofs.Query.Composition
import RemoteQuery.Proofs.Text.Lower
import RemoteQuery.Proofs.Text.Words
import RemoteQuery.Proofs.Clause.OperatorText
import RemoteQuery.Proofs.Clause.Vocabulary
import RemoteQuery.Proofs.Clause.Texts
import RemoteQuery.Proofs.Query.Texts
import RemoteQuery.Proofs.Builder.Paging
import RemoteQuery.Proofs.Builder.Reachable
import RemoteQuery.Proofs.Builder.Effective
import RemoteQuery.Proofs.Http.Headers
import RemoteQuery.Proofs.Value.Copy
import RemoteQuery.Proofs.Service.Faithful
