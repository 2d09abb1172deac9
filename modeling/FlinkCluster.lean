import FlinkCluster.Api.Answer
import FlinkCluster.Api.Clock
import FlinkCluster.Api.Request
import FlinkCluster.Api.Session
import FlinkCluster.Choice
import FlinkCluster.Cluster
import FlinkCluster.Configuration
import FlinkCluster.Deployment
import FlinkCluster.Document.Rule
import FlinkCluster.Document.Scalar
import FlinkCluster.EffectiveConfiguration
import FlinkCluster.Error
import FlinkCluster.Host
import FlinkCluster.Kubernetes.Container
import FlinkCluster.Kubernetes.Metadata
import FlinkCluster.Kubernetes.Model
import FlinkCluster.Kubernetes.Pod
import FlinkCluster.Kubernetes.Resource
import FlinkCluster.Kubernetes.Volume
import FlinkCluster.Kubernetes.Workload
import FlinkCluster.Lifecycle
import FlinkCluster.Manifest.Codec
import FlinkCluster.Manifest.Overlay
import FlinkCluster.Manifest.Place
import FlinkCluster.MemorySize
import FlinkCluster.Naming
import FlinkCluster.Number.Binary64
import FlinkCluster.Number.Decimal
import FlinkCluster.Number.Integer
import FlinkCluster.Number.Shortest
import FlinkCluster.Observation
import FlinkCluster.Operator
import FlinkCluster.Options
import FlinkCluster.Parameters
import FlinkCluster.Plan
import FlinkCluster.PodDraft
import FlinkCluster.Proofs.Agreement
import FlinkCluster.Proofs.BuiltResources
import FlinkCluster.Proofs.Composition
import FlinkCluster.Proofs.Convergence
import FlinkCluster.Proofs.Deleting
import FlinkCluster.Proofs.Deploying
import FlinkCluster.Proofs.EffectiveLayers
import FlinkCluster.Proofs.Footprint
import FlinkCluster.Proofs.InsertionOrder
import FlinkCluster.Proofs.IntegerText
import FlinkCluster.Proofs.Isolation
import FlinkCluster.Proofs.Labels
import FlinkCluster.Proofs.Management
import FlinkCluster.Proofs.MountedResources
import FlinkCluster.Proofs.Mounting
import FlinkCluster.Proofs.ObjectStore
import FlinkCluster.Proofs.Outcome
import FlinkCluster.Proofs.Paths
import FlinkCluster.Proofs.Pieces
import FlinkCluster.Proofs.ProgramArguments
import FlinkCluster.Proofs.References
import FlinkCluster.Proofs.Refusals
import FlinkCluster.Proofs.Removal
import FlinkCluster.Proofs.RoleSeparation
import FlinkCluster.Proofs.Scaling
import FlinkCluster.Proofs.Selection
import FlinkCluster.Proofs.Sessions
import FlinkCluster.Proofs.SharedResources
import FlinkCluster.Proofs.Shutdown
import FlinkCluster.Proofs.TwoRuns
import FlinkCluster.Setting
import FlinkCluster.Specification
import FlinkCluster.Step
import FlinkCluster.Step.Command
import FlinkCluster.Step.Initial
import FlinkCluster.Step.Mounts
import FlinkCluster.Step.Secrets
import FlinkCluster.Step.Services
import FlinkCluster.Step.Volumes
import FlinkCluster.Table
import FlinkCluster.Text.Base64
import FlinkCluster.Text.Blank
import FlinkCluster.Text.Capital
import FlinkCluster.Text.Digit
import FlinkCluster.Text.Path
import FlinkCluster.Text.Printable
import FlinkCluster.Text.Quoted
import FlinkCluster.Text.Split
import FlinkCluster.Text.Utf8
import FlinkCluster.Value
import FlinkCluster.Value.Order
import FlinkCluster.Proofs.Templates
import FlinkCluster.Proofs.EnvironmentNames
import FlinkCluster.Proofs.Failing
import FlinkCluster.Proofs.LargeNumbers
import FlinkCluster.Proofs.StepFailures
import FlinkCluster.Proofs.VolumeConflicts
import FlinkCluster.Proofs.ForeignFailures
import FlinkCluster.Proofs.SmallQuotients
import FlinkCluster.Proofs.ReplicaCounts
import FlinkCluster.Proofs.StatusHistory
import FlinkCluster.Proofs.StoredValues
import FlinkCluster.Proofs.EffectiveValues
import FlinkCluster.Proofs.NamedItems
import FlinkCluster.Proofs.OverlayPlaces
import FlinkCluster.Proofs.RepeatedNames
import FlinkCluster.Proofs.OmittedFields
import FlinkCluster.Proofs.RenderedConfiguration
import FlinkCluster.Proofs.OverlayLaws
import FlinkCluster.Proofs.EnvironmentPrecedence
import FlinkCluster.Proofs.Rescaling
import FlinkCluster.Proofs.Verdict
import FlinkCluster.Proofs.RoundedUp
import FlinkCluster.Proofs.MemorySizes
import FlinkCluster.Proofs.SelectedObjects
import FlinkCluster.Proofs.MainContainer
import FlinkCluster.Proofs.Reapplication
