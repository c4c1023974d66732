import Noland.Storage.Rclone
import Noland.Storage.CatalogHeads
import Noland.Storage.Adaptive
import Noland.Storage.CatalogClients
import Noland.Backup.IndexClosure
import Noland.Restore.DownloadPlan
import Noland.Pack.Builder
import Noland.Backup.WorkersProgress
import Noland.Backup.BuildPacks
import Noland.Backup.Seal
import Noland.Backup.Snapshot
import Noland.Backup.Scope
import Noland.Backup.FailedBackup
import Noland.Restore.Completion
import Noland.Restore.Tombstones
import Noland.Network.ProfileTransaction
import Noland.Lifecycle.ActivityStream
import Noland.Lifecycle.Verified
import Noland.Backup.RecordedPaths
import Noland.Restore.CachePruning
import Noland.Network.Session
import Noland.Network.AutomaticSelection
import Noland.Network.SwitchUndone
import Noland.Network.RelayRecords
import Noland.Desktop.BudgetStops
import Noland.Desktop.DestroyInstance
import Noland.Desktop.Orchestration
import Noland.Desktop.NvidiaReboot
import Noland.Desktop.StateFile
import Noland.Cas.Stability
import Noland.Cas.Eviction
import Noland.Network.LaunchScript
import Noland.Desktop.BackupGuard
import Noland.Attribution.Moves
import Noland.Attribution.Coalescing
import Noland.Attribution.EventLoss
import Noland.StateDb.PathPolicies
import Noland.StateDb.BundleCommits
import Noland.Network.HandshakeMac
import Noland.Network.Symmetry
import Noland.Operations.Manager
import Noland.Network.PacketSearch
import Noland.Network.MtuConfig
import Noland.Network.MtuTuning
import Noland.Network.PacketSize
import Noland.Network.QualityState
import Noland.Desktop.SpendConservation
import Noland.Feedback.JitterSamples
import Noland.Desktop.Edid
import Noland.Desktop.ProviderBodies
import Noland.Desktop.PendingCreation
import Noland.Network.RateLimiter
import Noland.Microphone.JitterBuffer
import Noland.Microphone.RtpAccounting
import Noland.Microphone.AudioRingSteps
import Noland.Microphone.Session
import Noland.Attribution.SteamMetadata
import Noland.Input.Motion
import Noland.Network.Monitor
import Noland.Network.TurnBridge
