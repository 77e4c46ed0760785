import AccessControl.Bytes.Base64
import AccessControl.Bytes.Hex
import AccessControl.Bytes.Percent
import AccessControl.Bytes.Xxh3
import AccessControl.Call
import AccessControl.Client.Config
import AccessControl.Client.Connection
import AccessControl.Client.Connections
import AccessControl.Client.Directory
import AccessControl.Client.Environment
import AccessControl.Client.Fingerprint
import AccessControl.Client.Gateway
import AccessControl.Client.Headers
import AccessControl.Client.Load
import AccessControl.Client.Rpc
import AccessControl.Client.Tls
import AccessControl.Double.Basic
import AccessControl.Double.Shortest
import AccessControl.Entries
import AccessControl.Error
import AccessControl.Grpc.Code
import AccessControl.Http.Header
import AccessControl.Http.Uri
import AccessControl.Identity.Basic
import AccessControl.Identity.Rules
import AccessControl.Identity.Token
import AccessControl.Json.Basic
import AccessControl.Json.Document
import AccessControl.Json.Printer
import AccessControl.Json.Reader
import AccessControl.Json.Record
import AccessControl.Middleware.Basic
import AccessControl.Middleware.Builder
import AccessControl.Policy.Basic
import AccessControl.Policy.Path
import AccessControl.Proofs.Client.Backends
import AccessControl.Proofs.Client.Directory
import AccessControl.Proofs.Client.Fingerprint
import AccessControl.Proofs.Client.Headers
import AccessControl.Proofs.Client.Interleaving
import AccessControl.Proofs.Client.RoundTrip
import AccessControl.Proofs.Client.Transparency
import AccessControl.Proofs.Entries
import AccessControl.Proofs.Http.Authority
import AccessControl.Proofs.Identity.Authorization
import AccessControl.Proofs.Identity.Decoded
import AccessControl.Proofs.Identity.Host
import AccessControl.Proofs.Identity.HostForms
import AccessControl.Proofs.Identity.Precedence
import AccessControl.Proofs.Identity.Rules
import AccessControl.Proofs.Identity.Sent
import AccessControl.Proofs.Middleware.AllowList
import AccessControl.Proofs.Middleware.Authorize
import AccessControl.Proofs.Middleware.Builder
import AccessControl.Proofs.Middleware.BuiltIn
import AccessControl.Proofs.Middleware.Declared
import AccessControl.Proofs.Middleware.Noninterference
import AccessControl.Proofs.Policy.DistinctRoutes
import AccessControl.Proofs.Policy.Path
import AccessControl.Proofs.Policy.RawPath
import AccessControl.Proofs.Policy.RouteParams
import AccessControl.Proofs.Protobuf.Answer
import AccessControl.Proofs.Protobuf.Value
import AccessControl.Proofs.Relation.Authorize
import AccessControl.Proofs.Relation.Builder
import AccessControl.Proofs.Relation.BuiltIn
import AccessControl.Proofs.Relation.Mirror
import AccessControl.Proofs.Relation.Tuple
import AccessControl.Proofs.Resource.LastWrite
import AccessControl.Proofs.Resource.Mapper
import AccessControl.Proofs.Resource.Parsing
import AccessControl.Proofs.Resource.PathParams
import AccessControl.Proofs.Resource.Projection
import AccessControl.Proofs.Route.Braced
import AccessControl.Proofs.Route.Matching
import AccessControl.Proofs.Route.Table
import AccessControl.Proofs.Route.Template
import AccessControl.Proofs.Server.Adapters
import AccessControl.Proofs.Server.Enforcement
import AccessControl.Proofs.Server.Exempt
import AccessControl.Proofs.Server.GrpcPaths
import AccessControl.Proofs.Steps
import AccessControl.Proofs.Text.Split
import AccessControl.Proofs.Text.Trim
import AccessControl.Proofs.Text.Utf8
import AccessControl.Proofs.Verdict
import AccessControl.Protobuf.Message
import AccessControl.Protobuf.Reader
import AccessControl.Protobuf.Value
import AccessControl.Protobuf.Wire
import AccessControl.Query
import AccessControl.Relation.Basic
import AccessControl.Relation.Checker
import AccessControl.Relation.Middleware
import AccessControl.Resource.FieldMask
import AccessControl.Resource.Mapper
import AccessControl.Route.Matching
import AccessControl.Route.Table
import AccessControl.Route.Template
import AccessControl.Run
import AccessControl.Server.Guard
import AccessControl.Server.Handler
import AccessControl.Server.Response
import AccessControl.Text.Alphanumeric
import AccessControl.Text.Blank
import AccessControl.Text.CaseTable
import AccessControl.Text.Lowercase
import AccessControl.Text.Split
import AccessControl.Text.Utf8
import AccessControl.Url.Basic
import AccessControl.Url.Host
import AccessControl.Url.Punycode
import AccessControl.Verdict
import AccessControl.Yaml.Document
import AccessControl.Yaml.Flow
import AccessControl.Yaml.Scalar
