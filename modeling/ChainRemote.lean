import ChainRemote.Lib.Machine
import ChainRemote.Lib.Rows
import ChainRemote.Lib.Query
import ChainRemote.Lib.Maps
import ChainRemote.Lib.Statement
import ChainRemote.Lib.Decimal
import ChainRemote.Lib.Checks
import ChainRemote.Lib.LittleEndian
import ChainRemote.Lib.Utf16
import ChainRemote.Lib.Utf8
import ChainRemote.Lib.Utf8Cut
import ChainRemote.Lib.TextFile
import ChainRemote.Lib.Pattern
import ChainRemote.Lib.UnixPath
import ChainRemote.Lib.Window
import ChainRemote.Lib.Lowercase
import ChainRemote.Lib.Slice
import ChainRemote.Lib.Split
import ChainRemote.Lib.Base64
import ChainRemote.Lib.BinarySearch
import ChainRemote.Lib.GrowingCopy
import ChainRemote.Lib.Tally
import ChainRemote.Lib.RingBuffer
import ChainRemote.Lib.TokenChannel
import ChainRemote.Agent.SchedWindow
import ChainRemote.Agent.SchedSafety
import ChainRemote.Agent.SchedPromise
import ChainRemote.Agent.SchedSessions
import ChainRemote.Agent.SchedDisplay
import ChainRemote.Agent.PushChecks
import ChainRemote.Agent.UpnpSwitch
import ChainRemote.Agent.VanWatch
import ChainRemote.Agent.VanSafety
import ChainRemote.Panel.Schema
import ChainRemote.Panel.Text
import ChainRemote.Panel.Heartbeat
import ChainRemote.Panel.Database
import ChainRemote.Panel.Statements
import ChainRemote.Panel.Enroll
import ChainRemote.Panel.EnrollFrame
import ChainRemote.Panel.EnrollKeeps
import ChainRemote.Panel.EnrollRace
import ChainRemote.Panel.Operations
import ChainRemote.Panel.Links
import ChainRemote.Panel.Alerts
import ChainRemote.Panel.AlertRuns
import ChainRemote.Panel.OrphanFavorites
import ChainRemote.Panel.Replacement
import ChainRemote.Panel.PendingList
import ChainRemote.Panel.SessionRaces
import ChainRemote.Panel.OrphanSessions
import ChainRemote.Panel.Fingerprint
import ChainRemote.Panel.Push
import ChainRemote.Panel.PushLifecycle
import ChainRemote.Panel.PushBulk
import ChainRemote.Panel.Rollout
import ChainRemote.Link.SchedClose
import ChainRemote.Link.SchedCloseRuns
import ChainRemote.Link.ShortSessionRuns
import ChainRemote.Link.Cleanup
import ChainRemote.Link.PushAccepted
import ChainRemote.Link.Versions
import ChainRemote.Link.PushAgent
import ChainRemote.Link.PushAgentRuns
import ChainRemote.Link.PushInstall
import ChainRemote.Link.VanStatus
import ChainRemote.Link.SecureConnection
import ChainRemote.Link.DirectRetry
import ChainRemote.Link.EncodingRate
import ChainRemote.Panel.Seats
import ChainRemote.Panel.SeatLimit
import ChainRemote.Panel.SeatTokens
import ChainRemote.Panel.Accounts
import ChainRemote.Panel.AccountRuns
import ChainRemote.Panel.RateLimit
import ChainRemote.Panel.RateLimitRuns
import ChainRemote.Panel.Login
import ChainRemote.Panel.LoginRuns
import ChainRemote.Panel.HangulQwerty
import ChainRemote.Panel.SupportSessions
import ChainRemote.Panel.SupportSessionRuns
import ChainRemote.Panel.SessionTenants
import ChainRemote.Panel.HeartbeatTokens
import ChainRemote.Panel.EnrollKeys
import ChainRemote.Panel.UpnpDoor
import ChainRemote.Panel.UpnpRoutes
import ChainRemote.Panel.Tickets
import ChainRemote.Panel.TicketRuns
import ChainRemote.Lib.Crowd
import ChainRemote.Panel.Folders
import ChainRemote.Panel.FolderRaces
import ChainRemote.Hq.SessionReports
import ChainRemote.Hq.SessionRecordRuns
import ChainRemote.Hq.PeerStore
import ChainRemote.Hq.SeatHeartbeat
import ChainRemote.Hq.TerminalInput
import ChainRemote.Hq.TerminalOutput
import ChainRemote.Hq.CustomerCaches
import ChainRemote.Hq.Updater
import ChainRemote.Hq.UpdaterRuns
import ChainRemote.Hq.Downloader
import ChainRemote.Hq.DownloaderRuns
import ChainRemote.Hq.KeyboardGrabRuns
import ChainRemote.Hq.RemoteKeyRuns
import ChainRemote.Hq.AudioBuffer
import ChainRemote.Hq.VideoQueue
import ChainRemote.Lib.Settling
import ChainRemote.Hq.FpsControl
import ChainRemote.Server.Connection
import ChainRemote.Server.Authorization
import ChainRemote.Server.RestartGrace
import ChainRemote.Server.LoginThrottle
import ChainRemote.Server.TemporaryPassword
import ChainRemote.Server.OutputBuffer
import ChainRemote.Server.OutputAccounting
import ChainRemote.Server.OutputTail
import ChainRemote.Server.NetworkDelay
import ChainRemote.Server.FrameRate
import ChainRemote.Server.EncoderChoice
import ChainRemote.Server.EncoderSwitch
import ChainRemote.Server.RecordUpload
import ChainRemote.Server.RecordQueue
import ChainRemote.Server.RecordUploadRuns
import ChainRemote.Server.VirtualDisplays
import ChainRemote.Server.TerminalReplay
import ChainRemote.Server.TerminalService
import ChainRemote.Server.TerminalSessions
import ChainRemote.Server.TerminalNotices
import ChainRemote.Server.TerminalHelper
import ChainRemote.Server.SnapshotService
import ChainRemote.Server.Subscriptions
import ChainRemote.Server.SubscriptionRuns
import ChainRemote.Server.SubscriptionDisplays
import ChainRemote.Server.SubscriptionLogin
import ChainRemote.Server.SubscriptionInvariant
import ChainRemote.Server.VideoFrames
import ChainRemote.Server.PrivacyModeRuns
import ChainRemote.Clipboard.LocalFile
import ChainRemote.Clipboard.ServFiles
import ChainRemote.Clipboard.FileRange
import ChainRemote.Clipboard.FileReads
import ChainRemote.Clipboard.FileNeighbours
import ChainRemote.Clipboard.FileList
import ChainRemote.Clipboard.FileAudit
import ChainRemote.Clipboard.FuseRead
import ChainRemote.Clipboard.ClipMessages
import ChainRemote.Clipboard.FileDescriptors
import ChainRemote.Clipboard.DescriptorSafety
import ChainRemote.Clipboard.FuseTree
import ChainRemote.Clipboard.FuseLookup
import ChainRemote.Clipboard.FuseHandles
import ChainRemote.Clipboard.PastedReads
import ChainRemote.Clipboard.MultiClipboards
import ChainRemote.Clipboard.ClipboardSync
import ChainRemote.Clipboard.ClipboardSyncRuns
import ChainRemote.Lib.Remembered
import ChainRemote.Clipboard.ClipboardAgreement
import ChainRemote.Installer.AgentCustomTxt
import ChainRemote.Installer.EnrollOverlay
import ChainRemote.Installer.OverlayRoundTrip
import ChainRemote.Installer.EnrollFlag
import ChainRemote.Installer.PortablePackage
import ChainRemote.Installer.PortableLaunches
import ChainRemote.Installer.LegacyMigration
import ChainRemote.Installer.ServerNames
import ChainRemote.Installer.LicensedNames
