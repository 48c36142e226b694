import Lamb.Error
import Lamb.Lib.Slice
import Lamb.Lib.Blocks
import Lamb.Lib.Attempt
import Lamb.Lib.Path
import Lamb.Lib.Scan
import Lamb.Lib.Text
import Lamb.Lib.Table
import Lamb.Lib.Calendar
import Lamb.Lib.Decimal
import Lamb.Lib.Fields
import Lamb.Lib.FileTree
import Lamb.Lib.Json
import Lamb.Lib.Document
import Lamb.Lib.Loop
import Lamb.Lib.Thread
import Lamb.Ring.Basic
import Lamb.Ring.Window
import Lamb.Ring.Write
import Lamb.Ring.Snapshot
import Lamb.Ring.Run
import Lamb.Ring.Account
import Lamb.Arena.Queue
import Lamb.Arena.Fifo
import Lamb.Arena.Ingress
import Lamb.Arena.Worker
import Lamb.Arena.Epoch
import Lamb.Arena.Client
import Lamb.Arena.Custody
import Lamb.Arena.Serve
import Lamb.Arena.Owner
import Lamb.Arena.Session
import Lamb.Arena.History
import Lamb.Arena.Feed
import Lamb.Arena.Command
import Lamb.Arena.Turn
import Lamb.Arena.Slot
import Lamb.Arena.Barrier
import Lamb.Arena.Delivery
import Lamb.Arena.Conserve
import Lamb.Arena.CalibrationSlot
import Lamb.Arena.CalibrationLease
import Lamb.Arena.CalibrationCapture
import Lamb.Arena.CalibrationStream
import Lamb.Arena.CalibrationContiguous
import Lamb.Arena.CalibrationWindows
import Lamb.Capture.Links
import Lamb.Runtime.MemoryPlan
import Lamb.Runtime.Build
import Lamb.Runtime.Headroom
import Lamb.Runtime.Retention
import Lamb.Dump.Decision
import Lamb.Dump.Finalize
import Lamb.Dump.Coordinator
import Lamb.Dump.Ledger
import Lamb.Dump.Reconcile
import Lamb.Dump.Clear
import Lamb.Dump.Persist
import Lamb.Dump.Publish
import Lamb.Dump.Run
import Lamb.Dump.Accepted
import Lamb.Dump.Owned
import Lamb.Dump.Stable
import Lamb.Control.Lane
import Lamb.Control.Response
import Lamb.Control.Client
import Lamb.Control.Rendered
import Lamb.Control.RoundTrip
import Lamb.Daemon.Retry
import Lamb.Daemon.Lifecycle
import Lamb.Daemon.Health
import Lamb.Daemon.State
import Lamb.Daemon.Operation
import Lamb.Daemon.Transaction
import Lamb.Daemon.System
import Lamb.Daemon.Law
import Lamb.Daemon.Facts
import Lamb.Daemon.Step
import Lamb.Daemon.Begin
import Lamb.Daemon.Publish
import Lamb.Daemon.Install
import Lamb.Daemon.Work
import Lamb.Daemon.Boot
import Lamb.Daemon.Shutdown
import Lamb.Daemon.Runs
import Lamb.Daemon.Label
import Lamb.Recovery.Manifest
import Lamb.Recovery.System
import Lamb.Recovery.Validate
import Lamb.Recovery.Recover
import Lamb.Recovery.Lookup
import Lamb.Recovery.Synced
import Lamb.Recovery.Quarantine
import Lamb.Recovery.Cleaned
import Lamb.Recovery.Effects
import Lamb.Recovery.Approved
import Lamb.Recovery.Owned
import Lamb.Recovery.Resolution
import Lamb.Recovery.ResolvedRecall
import Lamb.Recovery.ResolvedDump
import Lamb.Recovery.Kept
import Lamb.Recovery.Retryable
import Lamb.Recovery.Format
import Lamb.Recovery.Store
import Lamb.Recovery.Recognized
import Lamb.Recovery.Arena
import Lamb.Recovery.Parse
import Lamb.Recovery.RoundTrip
import Lamb.Recovery.Length
import Lamb.Export.Pattern
import Lamb.Export.Grammar
import Lamb.Export.Preview
import Lamb.Export.Planner
import Lamb.Export.Canonical
import Lamb.Export.Render
import Lamb.Export.Plan
import Lamb.Export.Passes
import Lamb.Export.Agree
import Lamb.Export.Safe
import Lamb.Export.Capacity
import Lamb.Export.Restage
import Lamb.Export.Publisher
import Lamb.Export.Published
import Lamb.Export.Entries
import Lamb.Export.Directories
import Lamb.Export.Publishable
import Lamb.Export.Stream
import Lamb.Export.Streamed
import Lamb.Export.Split
import Lamb.Export.Encoded
import Lamb.Calibration.Save
import Lamb.Calibration.Saved
import Lamb.Calibration.Outcome
import Lamb.Calibration.Alone
import Lamb.Calibration.Store
import Lamb.Calibration.Spare
import Lamb.Calibration.Commit
import Lamb.Calibration.Committed
import Lamb.Calibration.Identity
import Lamb.Calibration.Report
import Lamb.Calibration.Threshold
import Lamb.Calibration.Together
import Lamb.Calibration.Referenced
import Lamb.Calibration.Prepare
import Lamb.Activity.Detector
import Lamb.Activity.Windows
import Lamb.Activity.Classify
