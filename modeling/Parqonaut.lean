import Parqonaut.App.Policy
import Parqonaut.App.Reports
import Parqonaut.Auth.Tokens
import Parqonaut.Columnar.UnifyOrder
import Parqonaut.Orchestrator.RemoteOutput
import Parqonaut.Orchestrator.ResumeCompleteness
import Parqonaut.Orchestrator.SucceededFinal
import Parqonaut.Repair.CanonicalOrder
import Parqonaut.Repair.CompleteSeeding
import Parqonaut.Repair.MergedPartitions
import Parqonaut.Repair.PublishSafety
import Parqonaut.Repair.RemoteVerification
import Parqonaut.Schema.ResolutionSoundness
import Parqonaut.Storage.InventoryKeys
import Parqonaut.Storage.LockExclusion
import Parqonaut.Storage.ParquetRange
import Parqonaut.Storage.PublicationSafety
import Parqonaut.Store.LeaseFencing
import Parqonaut.Store.RunningJobs
import Parqonaut.Stream.ResumedOptions
import Parqonaut.Stream.Convert
import Parqonaut.Transform.Executable
