import GatewayOperator.Access.Rule
import GatewayOperator.Autoscaling.Conversion
import GatewayOperator.Autoscaling.Spec
import GatewayOperator.Autoscaling.Version
import GatewayOperator.Binary64
import GatewayOperator.Cli.Command
import GatewayOperator.Cli.Option
import GatewayOperator.Compile.Access
import GatewayOperator.Compile.Controller
import GatewayOperator.Compile.Exposure
import GatewayOperator.Compile.Gateway
import GatewayOperator.Compile.Mesh
import GatewayOperator.Compile.Ownership
import GatewayOperator.Defaulting
import GatewayOperator.Definition.Directory
import GatewayOperator.Definition.Manifest
import GatewayOperator.Dict
import GatewayOperator.Digest.Sha256
import GatewayOperator.Failure
import GatewayOperator.Http.Exchange
import GatewayOperator.Instant
import GatewayOperator.Json.Access
import GatewayOperator.Json.Contains
import GatewayOperator.Json.Pointer
import GatewayOperator.Json.Reader
import GatewayOperator.Json.Text
import GatewayOperator.Json.Value
import GatewayOperator.Kind
import GatewayOperator.Lease.Acquire
import GatewayOperator.Lease.Basic
import GatewayOperator.Lease.Remote
import GatewayOperator.Main
import GatewayOperator.Metadata
import GatewayOperator.Metrics.Decimal
import GatewayOperator.Metrics.Registry
import GatewayOperator.Overlay.Fingerprint
import GatewayOperator.Overlay.OwnedKeys
import GatewayOperator.Overlay.Resource
import GatewayOperator.Program
import GatewayOperator.Proofs.Autoscaling.Conversion
import GatewayOperator.Proofs.Compile.Pods
import GatewayOperator.Proofs.Compile.Ports
import GatewayOperator.Proofs.Compile.References
import GatewayOperator.Proofs.Compile.Selection
import GatewayOperator.Proofs.Dict
import GatewayOperator.Proofs.Json.Canonical
import GatewayOperator.Proofs.Json.Completion
import GatewayOperator.Proofs.Json.Containment
import GatewayOperator.Proofs.Json.Same
import GatewayOperator.Proofs.Json.Text
import GatewayOperator.Proofs.Lease.Election
import GatewayOperator.Proofs.Lease.Server
import GatewayOperator.Proofs.Overlay.Body
import GatewayOperator.Proofs.Overlay.Desired
import GatewayOperator.Proofs.Overlay.History
import GatewayOperator.Proofs.Overlay.Metadata
import GatewayOperator.Proofs.Overlay.Owners
import GatewayOperator.Proofs.Overlay.Resource
import GatewayOperator.Proofs.Overlay.Service
import GatewayOperator.Proofs.Overlay.Turns
import GatewayOperator.Proofs.Program
import GatewayOperator.Proofs.Reconcile.Calls
import GatewayOperator.Proofs.Reconcile.Commute
import GatewayOperator.Proofs.Reconcile.Component
import GatewayOperator.Proofs.Reconcile.Concurrency
import GatewayOperator.Proofs.Reconcile.Controllers
import GatewayOperator.Proofs.Reconcile.Converge
import GatewayOperator.Proofs.Reconcile.DesiredState
import GatewayOperator.Proofs.Reconcile.Drift
import GatewayOperator.Proofs.Reconcile.Footprint
import GatewayOperator.Proofs.Reconcile.Gating
import GatewayOperator.Proofs.Reconcile.HandsOff
import GatewayOperator.Proofs.Reconcile.Identity
import GatewayOperator.Proofs.Reconcile.Neighbour
import GatewayOperator.Proofs.Reconcile.Object
import GatewayOperator.Proofs.Reconcile.Order
import GatewayOperator.Proofs.Reconcile.Ownership
import GatewayOperator.Proofs.Reconcile.Privilege
import GatewayOperator.Proofs.Reconcile.Quiescence
import GatewayOperator.Proofs.Reconcile.Release
import GatewayOperator.Proofs.Reconcile.Rename
import GatewayOperator.Proofs.Reconcile.Repair
import GatewayOperator.Proofs.Reconcile.Replicas
import GatewayOperator.Proofs.Reconcile.Retry
import GatewayOperator.Proofs.Reconcile.Selector
import GatewayOperator.Proofs.Reconcile.Settle
import GatewayOperator.Proofs.Reconcile.Shared
import GatewayOperator.Proofs.Reconcile.Step
import GatewayOperator.Proofs.Reconcile.Target
import GatewayOperator.Proofs.Reconcile.Undisturbed
import GatewayOperator.Proofs.Reconcile.Upgrade
import GatewayOperator.Proofs.Reconcile.Workload
import GatewayOperator.Proofs.Reconcile.WriteBack
import GatewayOperator.Proofs.Resource.Same
import GatewayOperator.Proofs.Settings.Defaulting
import GatewayOperator.Proofs.Settings.RoundTrip
import GatewayOperator.Proofs.Shape.Read
import GatewayOperator.Proofs.Store.Call
import GatewayOperator.Proofs.Store.Effect
import GatewayOperator.Proofs.Store.Interleaving
import GatewayOperator.Proofs.Store.Ledger
import GatewayOperator.Proofs.Store.Server
import GatewayOperator.Proofs.Store.SideBySide
import GatewayOperator.Proofs.Store.Version
import GatewayOperator.Proofs.Wire
import GatewayOperator.Reconcile.Converge
import GatewayOperator.Reconcile.Finalizer
import GatewayOperator.Reconcile.Pass
import GatewayOperator.Reconcile.Schedule
import GatewayOperator.Remote.ApiServer
import GatewayOperator.Remote.Client
import GatewayOperator.Remote.Discovery
import GatewayOperator.Remote.Path
import GatewayOperator.Resource.Basic
import GatewayOperator.Resource.Wire
import GatewayOperator.Rest.Answer
import GatewayOperator.Schema.Definition
import GatewayOperator.Schema.Field
import GatewayOperator.Schema.OpenApi
import GatewayOperator.Schema.Reading
import GatewayOperator.Schema.Tables
import GatewayOperator.Service.Port
import GatewayOperator.Settings.Common
import GatewayOperator.Settings.Controller
import GatewayOperator.Settings.Gateway
import GatewayOperator.Settings.Mesh
import GatewayOperator.Shape.Access
import GatewayOperator.Shape.Basic
import GatewayOperator.Shape.Definition
import GatewayOperator.Shape.Meta
import GatewayOperator.Shape.Network
import GatewayOperator.Shape.Object
import GatewayOperator.Shape.Read
import GatewayOperator.Shape.Scaling
import GatewayOperator.Shape.Volume
import GatewayOperator.Shape.Workload
import GatewayOperator.Shape.Yaml
import GatewayOperator.Store.Fault
import GatewayOperator.Store.Request
import GatewayOperator.Store.Server
import GatewayOperator.Text.Base64
import GatewayOperator.Text.Message
import GatewayOperator.Text.Quoted
import GatewayOperator.Text.Unprintable
import GatewayOperator.Wire
import GatewayOperator.Workload.Pod
import GatewayOperator.Yaml.BlockScalar
import GatewayOperator.Yaml.Cursor
import GatewayOperator.Yaml.Node
import GatewayOperator.Yaml.Plain
import GatewayOperator.Yaml.QuotedScalar
import GatewayOperator.Yaml.Scalar
import GatewayOperator.Yaml.Tag
import GatewayOperator.Yaml.Text
import GatewayOperator.Yaml.Token
import GatewayOperator.Yaml.Value
