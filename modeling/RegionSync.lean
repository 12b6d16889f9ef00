import RegionSync.Main
import RegionSync.Proofs.Renewal
import RegionSync.Proofs.Watch.Delivery
import RegionSync.Proofs.FileTree.Edit
import RegionSync.Proofs.WriteBack
import RegionSync.Proofs.Watch.Session
import RegionSync.Proofs.Watch.Feedback
import RegionSync.Proofs.Watch.Convergence
import RegionSync.Proofs.Opacity
import RegionSync.Proofs.FileTree.Outline
import RegionSync.Proofs.Listing
import RegionSync.Proofs.FileTree.Names
import RegionSync.Proofs.Batch.Isolation
import RegionSync.Proofs.Batch.Forecast
import RegionSync.Proofs.Batch.Repetition
import RegionSync.Proofs.Watch.Shutdown
import RegionSync.Proofs.Trimming
import RegionSync.Proofs.Watch.Selection
import RegionSync.Proofs.Coherence
import RegionSync.Proofs.Declared
import RegionSync.Proofs.Skeleton
import RegionSync.Proofs.Faults
import RegionSync.Proofs.Interruption
import RegionSync.Proofs.LineEndings
import RegionSync.Proofs.Watch.Capacity
import RegionSync.Proofs.DeclarationGrammar
import RegionSync.Proofs.Readback
import RegionSync.Proofs.Advisories
import RegionSync.Proofs.Takeover
import RegionSync.Proofs.Enumeration
import RegionSync.Proofs.Accounting
import RegionSync.Proofs.Json.Spelling
import RegionSync.Proofs.Json.Scalars
import RegionSync.Proofs.Json.Values
import RegionSync.Proofs.Json.Records
import RegionSync.Proofs.RoundTrip
import RegionSync.Proofs.PartialConfig
