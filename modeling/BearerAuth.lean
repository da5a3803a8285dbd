import BearerAuth.Algorithm
import BearerAuth.AuthError
import BearerAuth.Base64Url
import BearerAuth.Claims.Draft
import BearerAuth.Claims.Error
import BearerAuth.Claims.Payload
import BearerAuth.Claims.StringList
import BearerAuth.Claims.Timestamp
import BearerAuth.Credentials
import BearerAuth.Decoder
import BearerAuth.Http.Form
import BearerAuth.Http.Message
import BearerAuth.Http.Percent
import BearerAuth.Http.Status
import BearerAuth.Http.Target
import BearerAuth.Http.Url.Basic
import BearerAuth.Http.Url.Host
import BearerAuth.Http.Url.Punycode
import BearerAuth.Introspection.Client
import BearerAuth.Introspection.Response
import BearerAuth.Json.Field
import BearerAuth.Json.Parser
import BearerAuth.Json.Printer
import BearerAuth.Json.Token
import BearerAuth.Json.Value
import BearerAuth.Jwk.Basic
import BearerAuth.Jwk.Set
import BearerAuth.Jwk.VerifyingKey
import BearerAuth.KeyFetcher
import BearerAuth.KeyStore
import BearerAuth.Middleware
import BearerAuth.Number.Binary64
import BearerAuth.Number.Layout
import BearerAuth.Number.Shortest
import BearerAuth.Policy.Basic
import BearerAuth.Policy.Display
import BearerAuth.Policy.File
import BearerAuth.Policy.Json
import BearerAuth.Proofs.Claims.Agreement
import BearerAuth.Proofs.Claims.Draft
import BearerAuth.Proofs.Claims.Fault
import BearerAuth.Proofs.Claims.NormalForm
import BearerAuth.Proofs.Claims.Payload
import BearerAuth.Proofs.Claims.Serialization
import BearerAuth.Proofs.Claims.StringList
import BearerAuth.Proofs.Claims.Timestamp
import BearerAuth.Proofs.Claims.WordList
import BearerAuth.Proofs.Credentials
import BearerAuth.Proofs.Decoder.Algorithm
import BearerAuth.Proofs.Decoder.Basic
import BearerAuth.Proofs.Decoder.Conformity
import BearerAuth.Proofs.Decoder.Disallowed
import BearerAuth.Proofs.Decoder.Failure
import BearerAuth.Proofs.Decoder.Loosening
import BearerAuth.Proofs.Decoder.Restriction
import BearerAuth.Proofs.Introspection.Client
import BearerAuth.Proofs.Introspection.Response
import BearerAuth.Proofs.Json.Equality
import BearerAuth.Proofs.Json.Field
import BearerAuth.Proofs.Json.Merge
import BearerAuth.Proofs.Json.Parser
import BearerAuth.Proofs.Json.Printer
import BearerAuth.Proofs.Json.Reading
import BearerAuth.Proofs.Json.Token
import BearerAuth.Proofs.Json.Trailing
import BearerAuth.Proofs.KeyFetcher
import BearerAuth.Proofs.KeyStore
import BearerAuth.Proofs.KeyStore.History
import BearerAuth.Proofs.Lookup
import BearerAuth.Proofs.Middleware
import BearerAuth.Proofs.Number.Layout
import BearerAuth.Proofs.Number.Signed
import BearerAuth.Proofs.Policy.Agreement
import BearerAuth.Proofs.Policy.Algorithms
import BearerAuth.Proofs.Policy.Environment
import BearerAuth.Proofs.Policy.Fields
import BearerAuth.Proofs.Policy.FirstOccurrences
import BearerAuth.Proofs.Policy.Normal
import BearerAuth.Proofs.Policy.Precedence
import BearerAuth.Proofs.Policy.Provenance
import BearerAuth.Proofs.Policy.Serialization
import BearerAuth.Proofs.Policy.Validity
import BearerAuth.Proofs.Policy.Variable
import BearerAuth.Proofs.Result
import BearerAuth.Proofs.Session.History
import BearerAuth.Proofs.Session.Rotation
import BearerAuth.Proofs.Session.Unauthorized
import BearerAuth.Proofs.Settings.Edit
import BearerAuth.Proofs.Settings.Environment
import BearerAuth.Proofs.Settings.Place
import BearerAuth.Proofs.Text.Blank
import BearerAuth.Proofs.Text.Cut
import BearerAuth.Proofs.Text.Lower
import BearerAuth.Proofs.Text.Utf8
import BearerAuth.Proofs.Text.Words
import BearerAuth.Proofs.Token.Header
import BearerAuth.Proofs.Token.Registered
import BearerAuth.Proofs.Token.Signed
import BearerAuth.Proofs.Verifier
import BearerAuth.Session
import BearerAuth.Settings.Environment
import BearerAuth.Settings.Json
import BearerAuth.Settings.Number
import BearerAuth.Settings.Place
import BearerAuth.Settings.Toml.Document
import BearerAuth.Settings.Toml.Scalar
import BearerAuth.Settings.Toml.Token
import BearerAuth.Settings.Value
import BearerAuth.Settings.Yaml.Block
import BearerAuth.Settings.Yaml.Flow
import BearerAuth.Settings.Yaml.Scalar
import BearerAuth.Signature.Ecdsa
import BearerAuth.Signature.Ed25519
import BearerAuth.Signature.Hmac
import BearerAuth.Signature.Number
import BearerAuth.Signature.Rsa
import BearerAuth.Signature.Sha2
import BearerAuth.Text.Blank
import BearerAuth.Text.CaseTable
import BearerAuth.Text.HiddenTable
import BearerAuth.Text.Lower
import BearerAuth.Text.Quoted
import BearerAuth.Text.Utf8
import BearerAuth.Token.Compact
import BearerAuth.Token.Header
import BearerAuth.Token.Registered
import BearerAuth.Token.Signed
import BearerAuth.Verifier
