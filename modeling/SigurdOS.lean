import SigurdOS.App.DiscoveryTurns
import SigurdOS.App.GpsTrackLog
import SigurdOS.App.MapCoverage
import SigurdOS.App.TileDiscovery
import SigurdOS.App.TileListing
import SigurdOS.Bytes.Fields
import SigurdOS.Bytes.LittleEndian
import SigurdOS.Bytes.Slots
import SigurdOS.Comms.BleAuthThrottle
import SigurdOS.Comms.BleBondRotation
import SigurdOS.Comms.BleConnections
import SigurdOS.Comms.Deframing
import SigurdOS.Comms.TransportTcp
import SigurdOS.Comms.WebSocketIntake
import SigurdOS.Companion.AtLeastOnce
import SigurdOS.Companion.Backlog
import SigurdOS.Companion.Bridge
import SigurdOS.Companion.Commands
import SigurdOS.Companion.ContactPass
import SigurdOS.Companion.Contacts
import SigurdOS.Companion.Deliverable
import SigurdOS.Companion.Device
import SigurdOS.Companion.Drain
import SigurdOS.Companion.Effects
import SigurdOS.Companion.Frame
import SigurdOS.Companion.Host
import SigurdOS.Companion.Isolation
import SigurdOS.Companion.MessageView
import SigurdOS.Companion.OfflineQueue
import SigurdOS.Companion.Ownership
import SigurdOS.Companion.Requests
import SigurdOS.Companion.Safety
import SigurdOS.Companion.Session
import SigurdOS.Companion.Signing
import SigurdOS.Companion.SigningCommands
import SigurdOS.Companion.SigningLedger
import SigurdOS.Companion.Submission
import SigurdOS.Companion.Sync
import SigurdOS.Companion.System
import SigurdOS.Companion.TracePath
import SigurdOS.Diagnostics.NonBlockingWriter
import SigurdOS.Diagnostics.WholeRecords
import SigurdOS.Hal.AtomicFile
import SigurdOS.Hal.AtomicRuns
import SigurdOS.Hal.ChatScopes
import SigurdOS.Hal.FactoryReset
import SigurdOS.Hal.GithubOtaPlan
import SigurdOS.Hal.GithubOtaReading
import SigurdOS.Hal.GithubOtaSkipping
import SigurdOS.Hal.Gps
import SigurdOS.Hal.GpsClock
import SigurdOS.Hal.NmeaIntake
import SigurdOS.Hal.NodePrefs
import SigurdOS.Hal.Prefs
import SigurdOS.Hal.PrefsAtomic
import SigurdOS.Hal.ReleaseSelection
import SigurdOS.Hal.RepeaterPasswords
import SigurdOS.Hal.SdDeletion
import SigurdOS.Hal.SdReplace
import SigurdOS.Hal.WifiCoordinator
import SigurdOS.Hal.WifiOta
import SigurdOS.Library.Binary32
import SigurdOS.Library.BoundedWalk
import SigurdOS.Library.CircleGap
import SigurdOS.Library.CivilCalendar
import SigurdOS.Library.FreshSearch
import SigurdOS.Library.Interrupted
import SigurdOS.Library.JsonText
import SigurdOS.Library.KeyValue
import SigurdOS.Library.PackedTable
import SigurdOS.Library.Retention
import SigurdOS.Library.RingQueue
import SigurdOS.Library.Runs
import SigurdOS.Library.SlotTable
import SigurdOS.Library.StagedCommit
import SigurdOS.Library.Utf8Text
import SigurdOS.Mesh.Base64
import SigurdOS.Mesh.ChannelSlots
import SigurdOS.Mesh.ChannelStore
import SigurdOS.Mesh.ChannelValidation
import SigurdOS.Mesh.CompanionAddressing
import SigurdOS.Mesh.ContactDurability
import SigurdOS.Mesh.ContactMutations
import SigurdOS.Mesh.ContactRuntime
import SigurdOS.Mesh.ContactStore
import SigurdOS.Mesh.ContactViews
import SigurdOS.Mesh.Conversations
import SigurdOS.Mesh.IdentityImport
import SigurdOS.Mesh.IdentityStore
import SigurdOS.Mesh.LoginUndo
import SigurdOS.Mesh.OneOperation
import SigurdOS.Mesh.OrderedTable
import SigurdOS.Mesh.PathDiscovery
import SigurdOS.Mesh.PendingAcks
import SigurdOS.Mesh.PendingOperations
import SigurdOS.Mesh.RadioConfig
import SigurdOS.Mesh.RegionAtomic
import SigurdOS.Mesh.RegionEnvelope
import SigurdOS.Mesh.RegionForest
import SigurdOS.Mesh.RegionOps
import SigurdOS.Mesh.RegionRuns
import SigurdOS.Mesh.RegionStore
import SigurdOS.Mesh.Regions
import SigurdOS.Mesh.ResponseCorrelation
import SigurdOS.Mesh.RoomMessages
import SigurdOS.Mesh.ShareUri
import SigurdOS.Mesh.TelemetryLpp
import SigurdOS.Mesh.TimeState
import SigurdOS.MessageStore.AnyFile
import SigurdOS.MessageStore.Append
import SigurdOS.MessageStore.Attempt
import SigurdOS.MessageStore.Boot
import SigurdOS.MessageStore.Codec
import SigurdOS.MessageStore.Compaction
import SigurdOS.MessageStore.Delivery
import SigurdOS.MessageStore.DeliveryMarks
import SigurdOS.MessageStore.Endurance
import SigurdOS.MessageStore.IdAllocation
import SigurdOS.MessageStore.Ids
import SigurdOS.MessageStore.Index
import SigurdOS.MessageStore.Log
import SigurdOS.MessageStore.Marks
import SigurdOS.MessageStore.Message
import SigurdOS.MessageStore.Migration
import SigurdOS.MessageStore.Operations
import SigurdOS.MessageStore.PowerCut
import SigurdOS.MessageStore.Reboot
import SigurdOS.MessageStore.RecordBytes
import SigurdOS.MessageStore.Recovery
import SigurdOS.MessageStore.Replacement
import SigurdOS.MessageStore.Retrieval
import SigurdOS.MessageStore.RetryOrder
import SigurdOS.MessageStore.Run
import SigurdOS.MessageStore.Selection
import SigurdOS.MessageStore.Service
import SigurdOS.MessageStore.Soundness
import SigurdOS.MessageStore.Store
import SigurdOS.MessageStore.Torn
import SigurdOS.MessageStore.Upgrade
import SigurdOS.Ui.ChatMigration
import SigurdOS.Ui.ChatRegistry
import SigurdOS.Ui.ChatUnread
import SigurdOS.Ui.Navigation
import SigurdOS.Ui.NotificationQueue
import SigurdOS.Ui.PinGate
import SigurdOS.Ui.TerminalVarRuns
import SigurdOS.Ui.TerminalVars
import SigurdOS.Utils.Utf8
