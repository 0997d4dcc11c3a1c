import FeatureStore.Main
import FeatureStore.Worker.Folder
import FeatureStore.Proofs.Host
import FeatureStore.Proofs.Job.Chunk
import FeatureStore.Proofs.Record.Latest
import FeatureStore.Proofs.Bindings
import FeatureStore.Proofs.Config
import FeatureStore.Proofs.Inference
import FeatureStore.Proofs.Job.Copy
import FeatureStore.Proofs.Job.Materialize
import FeatureStore.Proofs.Job.Preparing
import FeatureStore.Proofs.Job.Serving
import FeatureStore.Proofs.Job.Standalone
import FeatureStore.Proofs.Job.Vectors
import FeatureStore.Proofs.Job.Watching
import FeatureStore.Proofs.Offline.Client
import FeatureStore.Proofs.Offline.Frame
import FeatureStore.Proofs.Offline.TableCalls
import FeatureStore.Proofs.Offline.Targets
import FeatureStore.Proofs.Offline.History
import FeatureStore.Proofs.Offline.Session
import FeatureStore.Proofs.Offline.Snapshots
import FeatureStore.Proofs.Offline.SourceNames
import FeatureStore.Proofs.Offline.SourceRecords
import FeatureStore.Proofs.Offline.Unkeyed
import FeatureStore.Proofs.Online.Agreement
import FeatureStore.Proofs.Online.Contents
import FeatureStore.Proofs.Online.Isolation
import FeatureStore.Proofs.Online.Lasting
import FeatureStore.Proofs.Online.Naming
import FeatureStore.Proofs.Offline.Skew
import FeatureStore.Proofs.Number.Rounding
import FeatureStore.Proofs.Number.Shortest
import FeatureStore.Proofs.Json.Numbers
import FeatureStore.Proofs.Online.ReadBack
import FeatureStore.Proofs.Offline.Kinds
import FeatureStore.Proofs.Offline.Preflight
import FeatureStore.Proofs.Offline.TrainingSets
import FeatureStore.Proofs.Offline.Columns
import FeatureStore.Proofs.Job.Creating
import FeatureStore.Proofs.Job.Transformations
import FeatureStore.Proofs.Registries
import FeatureStore.Proofs.Online.Claiming
import FeatureStore.Proofs.Record.Join
import FeatureStore.Proofs.Transformation.Order
import FeatureStore.Proofs.Offline.Statements
import FeatureStore.Proofs.Online.Batches
import FeatureStore.Proofs.Offline.PrimaryRows
import FeatureStore.Proofs.BulkRegistration
import FeatureStore.Proofs.Job.Partition
import FeatureStore.Proofs.Worker.InMemory
