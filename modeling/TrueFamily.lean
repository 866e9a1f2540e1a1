import TrueFamily.Backend.Atomic
import TrueFamily.Discovery.Kept
import TrueFamily.JournalApp.PacketBoundaries
import TrueFamily.JournalApp.Reopen
import TrueFamily.Mqtt.Attribution
import TrueFamily.Preflight.Interference
import TrueFamily.Probe.Reach
import TrueFamily.Providers.Readiness
import TrueFamily.Runtime.Exclusive
import TrueFamily.Runtime.SessionsEnd
import TrueFamily.Transaction.Ownership
import TrueFamily.Setup.Cleanup
import TrueFamily.Transaction.Codec.Attempts
import TrueFamily.Transaction.Compensation
import TrueFamily.Transaction.Reconciliation
import TrueFamily.Transaction.Fencing
import TrueFamily.Transaction.Repeat
import TrueFamily.JournalFile.Loaded
import TrueFamily.JournalFile.MountTable
import TrueFamily.JournalFile.ExtentTree
import TrueFamily.Probe.SerialQueue
import TrueFamily.Projection.Replace
import TrueFamily.Providers.DocumentSnapshot
import TrueFamily.Migration.Applied
