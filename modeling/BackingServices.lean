import BackingServices.Binary64
import BackingServices.Binary64.Scaled
import BackingServices.Binary64.Shortest
import BackingServices.Charts
import BackingServices.Cluster.ApiError
import BackingServices.Cluster.Call
import BackingServices.Cluster.Connection
import BackingServices.Cluster.Credentials
import BackingServices.Cluster.Dialogue
import BackingServices.Cluster.Environment
import BackingServices.Cluster.Exchange
import BackingServices.Cluster.Handle
import BackingServices.Cluster.Kubeconfig
import BackingServices.Cluster.Program
import BackingServices.Cluster.Resource
import BackingServices.Cluster.Traffic
import BackingServices.Cluster.Transport
import BackingServices.CommandLine.Arguments
import BackingServices.CommandLine.LogFilter
import BackingServices.CommandLine.Run
import BackingServices.Config
import BackingServices.DebugText
import BackingServices.Deployment
import BackingServices.DryRun
import BackingServices.Error
import BackingServices.Event
import BackingServices.HelmChart
import BackingServices.Json.Basic
import BackingServices.Json.Cursor
import BackingServices.Json.Document
import BackingServices.Json.Printer
import BackingServices.Json.Scalar
import BackingServices.Json.Schema
import BackingServices.Main
import BackingServices.NamespaceName
import BackingServices.Plan
import BackingServices.Policy
import BackingServices.Preflight
import BackingServices.Proofs.Acceptance
import BackingServices.Proofs.Addressing
import BackingServices.Proofs.Attempts
import BackingServices.Proofs.Binary64
import BackingServices.Proofs.ChartDocument
import BackingServices.Proofs.ChartSource
import BackingServices.Proofs.Cluster.Call
import BackingServices.Proofs.Cluster.Connection
import BackingServices.Proofs.Cluster.Dialogue
import BackingServices.Proofs.Cluster.Interleaving
import BackingServices.Proofs.Cluster.Kubeconfig
import BackingServices.Proofs.Cluster.Likeness
import BackingServices.Proofs.Cluster.Outcome
import BackingServices.Proofs.Cluster.Rounds
import BackingServices.Proofs.CommandLine
import BackingServices.Proofs.Config
import BackingServices.Proofs.Convergence
import BackingServices.Proofs.Disclosure
import BackingServices.Proofs.Discovery
import BackingServices.Proofs.DryRun
import BackingServices.Proofs.HelmChart
import BackingServices.Proofs.Isolation
import BackingServices.Proofs.Json
import BackingServices.Proofs.Manifest
import BackingServices.Proofs.Members
import BackingServices.Proofs.NamespaceName
import BackingServices.Proofs.Number
import BackingServices.Proofs.Plan
import BackingServices.Proofs.Preflight
import BackingServices.Proofs.Provisioning
import BackingServices.Proofs.Reading
import BackingServices.Proofs.Record
import BackingServices.Proofs.Registry
import BackingServices.Proofs.Schema
import BackingServices.Proofs.Secrecy
import BackingServices.Proofs.Secret
import BackingServices.Proofs.Settings
import BackingServices.Proofs.Stages
import BackingServices.Proofs.Submission
import BackingServices.Proofs.Text
import BackingServices.Proofs.Truncation
import BackingServices.Proofs.Url.Behind
import BackingServices.Proofs.Url.Domain
import BackingServices.Proofs.Url.Escapes
import BackingServices.Proofs.Url.Parts
import BackingServices.Proofs.Url.Path
import BackingServices.Proofs.Url.Trailing
import BackingServices.Proofs.Writer
import BackingServices.Proofs.Yaml.Building
import BackingServices.Proofs.Yaml.Digits
import BackingServices.Proofs.Yaml.Layout
import BackingServices.Proofs.Yaml.Lexing
import BackingServices.Proofs.Yaml.Lines
import BackingServices.Proofs.Yaml.Literal
import BackingServices.Proofs.Yaml.Numeral
import BackingServices.Proofs.Yaml.Parsing
import BackingServices.Proofs.Yaml.Place
import BackingServices.Proofs.Yaml.Plain
import BackingServices.Proofs.Yaml.Quoted
import BackingServices.Proofs.Yaml.Style
import BackingServices.Provisioning
import BackingServices.Recorder
import BackingServices.Secret
import BackingServices.Service
import BackingServices.Submission
import BackingServices.Text.Base64
import BackingServices.Text.Blank
import BackingServices.Text.Composition
import BackingServices.Text.Hidden
import BackingServices.Text.Mark
import BackingServices.Text.Pattern
import BackingServices.Text.Pem
import BackingServices.Text.Quoted
import BackingServices.Text.Similarity
import BackingServices.Text.Terminal
import BackingServices.Text.Utf8
import BackingServices.Timestamp
import BackingServices.Uri
import BackingServices.Url
import BackingServices.Url.Address
import BackingServices.Url.Direction
import BackingServices.Url.Domain
import BackingServices.Url.Joiner
import BackingServices.Url.Mapping
import BackingServices.Url.Punycode
import BackingServices.Url.Refused
import BackingServices.Yaml.Block
import BackingServices.Yaml.Character
import BackingServices.Yaml.Event
import BackingServices.Yaml.Fault
import BackingServices.Yaml.Label
import BackingServices.Yaml.Place
import BackingServices.Yaml.Plain
import BackingServices.Yaml.Printer
import BackingServices.Yaml.Quoted
import BackingServices.Yaml.Resolve
import BackingServices.Yaml.Scalar
import BackingServices.Yaml.Schema
import BackingServices.Yaml.Token
import BackingServices.Yaml.Value
