import EditorLaunch.Access
import EditorLaunch.Address.Ip
import EditorLaunch.Address.Socket
import EditorLaunch.Backend
import EditorLaunch.Caller
import EditorLaunch.Catalogue.Basic
import EditorLaunch.Clock.Timestamp
import EditorLaunch.CommandLine.Arguments
import EditorLaunch.CommandLine.Startup
import EditorLaunch.Digest.Hmac
import EditorLaunch.Digest.Sha256
import EditorLaunch.Duration.Basic
import EditorLaunch.Duration.Printer
import EditorLaunch.Duration.Reader
import EditorLaunch.Duration.Setting
import EditorLaunch.EditorLink
import EditorLaunch.Environment.Layer
import EditorLaunch.Environment.Value
import EditorLaunch.Failure
import EditorLaunch.Http.Headers
import EditorLaunch.Http.Identity
import EditorLaunch.Http.OpenQuery
import EditorLaunch.Http.Request
import EditorLaunch.Http.Response
import EditorLaunch.Http.Service
import EditorLaunch.Json.Basic
import EditorLaunch.Json.Printer
import EditorLaunch.Json.Reader
import EditorLaunch.Logging.Filter
import EditorLaunch.Logging.Printer
import EditorLaunch.Logging.Setup
import EditorLaunch.Main
import EditorLaunch.Metadata
import EditorLaunch.Number.Rounding
import EditorLaunch.Number.Shortest
import EditorLaunch.Opening
import EditorLaunch.Outbound.Bridge
import EditorLaunch.Outbound.Client
import EditorLaunch.Outbound.Gateway
import EditorLaunch.Outbound.Network
import EditorLaunch.Outbound.Reply
import EditorLaunch.Path.Basic
import EditorLaunch.Proofs.Trace
import EditorLaunch.ResourceId
import EditorLaunch.Retry
import EditorLaunch.Server
import EditorLaunch.Session
import EditorLaunch.Settings.Basic
import EditorLaunch.Settings.Decode
import EditorLaunch.Settings.File
import EditorLaunch.Settings.Loading
import EditorLaunch.Settings.Validation
import EditorLaunch.Settings.Value
import EditorLaunch.Stat
import EditorLaunch.StorageToken
import EditorLaunch.Text.Base64
import EditorLaunch.Text.Escaped
import EditorLaunch.Text.Form
import EditorLaunch.Text.Hex
import EditorLaunch.Text.Percent
import EditorLaunch.Text.Quoted
import EditorLaunch.Text.Utf8
import EditorLaunch.Toml.Document
import EditorLaunch.Toml.Printer
import EditorLaunch.Toml.Reader
import EditorLaunch.Toml.Scalar
import EditorLaunch.Toml.Text
import EditorLaunch.Trace
import EditorLaunch.Unicode.Bidi
import EditorLaunch.Unicode.Blank
import EditorLaunch.Unicode.CodeTable
import EditorLaunch.Unicode.DomainMapping
import EditorLaunch.Unicode.Joining
import EditorLaunch.Unicode.Lowercase
import EditorLaunch.Unicode.Normalization
import EditorLaunch.Unicode.Printable
import EditorLaunch.Url.Basic
import EditorLaunch.Url.DomainName
import EditorLaunch.Url.Host
import EditorLaunch.Url.Punycode
import EditorLaunch.Url.Reader
import EditorLaunch.Proofs.Opening.Run
import EditorLaunch.Proofs.Opening.Stages
import EditorLaunch.Proofs.Outbound.Gateway
import EditorLaunch.Proofs.Json.Record
import EditorLaunch.Proofs.Stat
import EditorLaunch.Proofs.Opening.Authorisation
import EditorLaunch.Proofs.Text.Percent
import EditorLaunch.Proofs.Text.Form
import EditorLaunch.Proofs.Url.Host
import EditorLaunch.Proofs.Url.Parts
import EditorLaunch.Proofs.EditorLink
import EditorLaunch.Proofs.Http.Admission
import EditorLaunch.Proofs.Outbound.Finality
import EditorLaunch.Proofs.Http.Deadline
import EditorLaunch.Proofs.Http.StorageToken
import EditorLaunch.Proofs.Duration
import EditorLaunch.Proofs.Settings.Budget
import EditorLaunch.Proofs.Outbound.Budget
import EditorLaunch.Proofs.Http.Budget
import EditorLaunch.Proofs.ResourceId
import EditorLaunch.Proofs.Outbound.Classification
import EditorLaunch.Proofs.Url.Appending
import EditorLaunch.Proofs.Http.Target
import EditorLaunch.Proofs.Outbound.SessionRequest
import EditorLaunch.Proofs.Agreement
import EditorLaunch.Proofs.Outbound.Confinement
import EditorLaunch.Proofs.Http.Confinement
import EditorLaunch.Proofs.Text.Base64.Forms
import EditorLaunch.Proofs.Json.ReadBack
import EditorLaunch.Proofs.ResourceId.Spellings
import EditorLaunch.Proofs.Http.Routing
import EditorLaunch.Proofs.StorageToken.Verification
import EditorLaunch.Proofs.Url.Endings
import EditorLaunch.Proofs.Outbound.Addresses
import EditorLaunch.Proofs.EditorLink.Expiry
import EditorLaunch.Proofs.Settings.Lifetime
import EditorLaunch.Proofs.Unicode.Lowercase
import EditorLaunch.Proofs.Text.Order
import EditorLaunch.Proofs.Catalogue
import EditorLaunch.Proofs.Text.Respelling
import EditorLaunch.Proofs.Url.Query
import EditorLaunch.Proofs.EditorLink.Handle
import EditorLaunch.Proofs.Settings.Value
import EditorLaunch.Proofs.Toml.Tables
import EditorLaunch.Proofs.Environment.Value
import EditorLaunch.Proofs.Environment.Layer
import EditorLaunch.Proofs.Settings.Layout
import EditorLaunch.Proofs.Settings.Sections
import EditorLaunch.Proofs.Settings.Layers
import EditorLaunch.Proofs.Retry.Record
import EditorLaunch.Proofs.Path.Route
import EditorLaunch.Proofs.Path.NormalForm
import EditorLaunch.Proofs.Path.Destination
import EditorLaunch.Proofs.Path.Folder
import EditorLaunch.Proofs.Number.Comparison
import EditorLaunch.Proofs.Settings.Workable
import EditorLaunch.Proofs.Http.Labels
import EditorLaunch.Proofs.Trace.Events
import EditorLaunch.Proofs.Outbound.Messages
import EditorLaunch.Proofs.Http.Log
import EditorLaunch.Proofs.Unicode.Blank
import EditorLaunch.Proofs.Http.Caller
import EditorLaunch.Proofs.Stat.WireForm
import EditorLaunch.Proofs.Duration.ReadBack
import EditorLaunch.Proofs.Environment.Number
import EditorLaunch.Proofs.Environment.Spelling
import EditorLaunch.Proofs.Settings.Overrides
import EditorLaunch.Proofs.Path.Extension
import EditorLaunch.Proofs.Http.Root
import EditorLaunch.Proofs.Address.Listening
