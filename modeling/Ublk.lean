import Ublk.Machine.Run
import Ublk.Machine.Progress
import Ublk.Machine.Guarded
import Ublk.Machine.Story
import Ublk.Machine.Retry
import Ublk.Machine.Scope
import Ublk.Machine.Fallible
import Ublk.Data.Bytes
import Ublk.Data.Span
import Ublk.Data.Count
import Ublk.Data.Buffer
import Ublk.Data.LastWrite
import Ublk.Data.Runs
import Ublk.Data.Ledger
import Ublk.Data.Words
import Ublk.Uapi
import Ublk.Offsets
import Ublk.Handler
import Ublk.Queue.Config
import Ublk.Queue.CommitBuffer
import Ublk.Queue.BatchCommand
import Ublk.Queue.FetchRing
import Ublk.Queue.Trace
import Ublk.Queue.Plain
import Ublk.Queue.Steps
import Ublk.Queue.Protocol
import Ublk.Queue.CopyBuffer
import Ublk.Queue.Batch.Model
import Ublk.Queue.Batch.Environment
import Ublk.Queue.Batch.Wakeup
import Ublk.Queue.Batch.Shutdown
import Ublk.Queue.Batch.Ownership
import Ublk.Queue.Batch.Ring
import Ublk.Queue.Batch.Places
import Ublk.Queue.Batch.Phases
import Ublk.Queue.Batch.ExactlyOnce
import Ublk.Queue.Batch.Loss
import Ublk.Queue.Batch.Progress
import Ublk.Queue.Batch.Refinement
import Ublk.Queue.Batch.CopyBuffer
import Ublk.Queue.Bracket
import Ublk.Queue.Drain
import Ublk.Queue.Verdict
import Ublk.Queue.Runtime
import Ublk.Queue.Spawns
import Ublk.Queue.Build
import Ublk.Queue.Resources
import Ublk.Shm.Session
import Ublk.Shm.Server
import Ublk.Shm.Failure
import Ublk.Shm.Descriptors
import Ublk.Shm.Lifecycle
import Ublk.Shm.Registrations
import Ublk.Shm.IndexMap
import Ublk.Shm.Release
import Ublk.Shm.Run
import Ublk.Shm.Termination
import Ublk.Control.Path
import Ublk.Control.Command
import Ublk.Control.Operations
import Ublk.Control.Unprivileged
import Ublk.Control.DevInfo
import Ublk.Control.Retries
import Ublk.Control.Answers
import Ublk.Control.Script
import Ublk.Daemon.Script
import Ublk.Daemon.Configure
import Ublk.Daemon.Setup
import Ublk.Daemon.Admission
import Ublk.Daemon.Options
import Ublk.Daemon.Spawns
import Ublk.Daemon.Run
import Ublk.Daemon.Isolation
import Ublk.Daemon.Termination
import Ublk.Loop.Handler
import Ublk.Loop.Disk
import Ublk.Loop.Linear
import Ublk.Loop.Shared
import Ublk.Server.Lifecycle
import Ublk.Server.Exit
import Ublk.Ctl.CpuStr
import Ublk.Ctl.Flags
import Ublk.Ctl.Commands
import Ublk.Ctl.Status
import Ublk.Ctl.Listing
