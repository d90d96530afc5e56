import KernelAv.Daemon.Connection
import KernelAv.Daemon.ControlProtocol
import KernelAv.Daemon.ControlSocket
import KernelAv.Daemon.Convictions
import KernelAv.Daemon.Corpus
import KernelAv.Daemon.DirectoryTrust
import KernelAv.Daemon.Quarantinable
import KernelAv.Daemon.Quarantine
import KernelAv.Daemon.QuarantineCalls
import KernelAv.Daemon.QuarantineInvariant
import KernelAv.Daemon.QuarantineListing
import KernelAv.Daemon.QuarantineLoss
import KernelAv.Daemon.QuarantineRaces
import KernelAv.Daemon.QuarantineSteps
import KernelAv.Daemon.RestoreInverse
import KernelAv.Daemon.RestoreRetry
import KernelAv.Daemon.RowVisibility
import KernelAv.Daemon.Scan
import KernelAv.Daemon.ScanQueue
import KernelAv.Daemon.ScanQueueRuns
import KernelAv.Daemon.Sha256
import KernelAv.Daemon.Sha256Correct
import KernelAv.Daemon.SharedOffset
import KernelAv.Daemon.Sidecar
import KernelAv.Daemon.Tlsh
import KernelAv.Daemon.TlshCalls
import KernelAv.Daemon.TlshChecked
import KernelAv.Daemon.TlshCodec
import KernelAv.Daemon.TlshDiff
import KernelAv.Daemon.TlshDigest
import KernelAv.Daemon.TlshFinal
import KernelAv.Daemon.TlshQuartiles
import KernelAv.Daemon.TlshStream
import KernelAv.Daemon.TrustedChain
import KernelAv.Daemon.VerdictHistory
import KernelAv.Daemon.VerdictListing
import KernelAv.Kernel.BehaviorChecks
import KernelAv.Kernel.BehaviorEviction
import KernelAv.Kernel.BehaviorSystem
import KernelAv.Kernel.BehaviorTable
import KernelAv.Kernel.Channel
import KernelAv.Kernel.ChannelIntegrity
import KernelAv.Kernel.ChannelInvariant
import KernelAv.Kernel.ChannelLifetime
import KernelAv.Kernel.ChannelLog
import KernelAv.Kernel.DigestSkipping
import KernelAv.Kernel.ExecHash
import KernelAv.Kernel.ExecTarget
import KernelAv.Kernel.ExecWork
import KernelAv.Kernel.HashWrites
import KernelAv.Kernel.InflightWork
import KernelAv.Kernel.Kill
import KernelAv.Kernel.LexicalPaths
import KernelAv.Kernel.ListTables
import KernelAv.Kernel.PathSpelling
import KernelAv.Kernel.Paths
import KernelAv.Kernel.PidReuse
import KernelAv.Kernel.ProcWrite
import KernelAv.Kernel.ProtectTable
import KernelAv.Kernel.ProtectedWrites
import KernelAv.Kernel.RenameRelocation
import KernelAv.Kernel.SelfDelete
import KernelAv.Kernel.SigTable
import KernelAv.Kernel.SigTableRefinement
import KernelAv.Kernel.SlidingWindow
import KernelAv.Kernel.Tasks
import KernelAv.Kernel.TrustSoundness
import KernelAv.Kernel.TrustTable
import KernelAv.Kernel.WindowKeeping
import KernelAv.Kernel.WindowSoundness
import KernelAv.Lib.Admission
import KernelAv.Lib.BitStrings
import KernelAv.Lib.Blocks
import KernelAv.Lib.Buffers
import KernelAv.Lib.CText
import KernelAv.Lib.Chains
import KernelAv.Lib.Checked
import KernelAv.Lib.Components
import KernelAv.Lib.CriticalSections
import KernelAv.Lib.DigitSums
import KernelAv.Lib.Directories
import KernelAv.Lib.Fallible
import KernelAv.Lib.Files
import KernelAv.Lib.Fips180
import KernelAv.Lib.Lines
import KernelAv.Lib.LinkedLists
import KernelAv.Lib.Loops
import KernelAv.Lib.Monitors
import KernelAv.Lib.PairCodes
import KernelAv.Lib.PathWalk
import KernelAv.Lib.PyText
import KernelAv.Lib.Replay
import KernelAv.Lib.Ring
import KernelAv.Lib.Run
import KernelAv.Lib.Scanf
import KernelAv.Lib.Selection
import KernelAv.Lib.SetLogs
import KernelAv.Lib.StdScanf
import KernelAv.Userspace.Avctl
import KernelAv.Userspace.AvctlReplies
import KernelAv.Userspace.AvdClient
import KernelAv.Userspace.GuiPaths
import KernelAv.Userspace.GuiState
import KernelAv.Userspace.LoadTwice
import KernelAv.Userspace.SaveCommit
import KernelAv.Userspace.SaveReload
import KernelAv.Userspace.StateFile
import KernelAv.Userspace.StateInvariant
import KernelAv.Userspace.StateLines
import KernelAv.Userspace.StateReplay
import KernelAv.Userspace.TlshDiffTable
