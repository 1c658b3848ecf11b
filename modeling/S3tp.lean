import S3tp.Machine.Run
import S3tp.ToMathlib.ByteSequence
import S3tp.ToMathlib.TailInsertion
import S3tp.ToMathlib.ByteMap
import S3tp.Model.Core.Header
import S3tp.Model.Core.Checksum
import S3tp.Model.Core.Buffer
import S3tp.Model.Core.SequenceOrder
import S3tp.Model.Concurrent.TxSystem
import S3tp.Soundness.TransmitOrder
import S3tp.Model.Core.SendToLinkLayer
import S3tp.Soundness.FragmentSplit
import S3tp.Model.Core.RxModule
import S3tp.Soundness.SyncAgreement
import S3tp.Model.Core.Message
import S3tp.Model.Core.Window
import S3tp.Model.Concurrent.RxSystem
import S3tp.Soundness.Reordering
import S3tp.Soundness.WindowTracking
import S3tp.Soundness.Availability
import S3tp.Machine.Locks
import S3tp.Model.Concurrent.ModuleLocks
import S3tp.Soundness.LockOrder
import S3tp.Model.Concurrent.ConnectorSystem
import S3tp.Soundness.ExactlyOnce
import S3tp.Soundness.QueueAccounting
import S3tp.Soundness.GlobalOrder
import S3tp.Model.Concurrent.Endpoints
import S3tp.Soundness.SyncStorm
import S3tp.Machine.ShiftRegister
import S3tp.Soundness.Corruption
import S3tp.Model.Core.Framing
import S3tp.Model.Core.ClientRoutine
import S3tp.Soundness.Framing
import S3tp.Model.Concurrent.ClientSocket
import S3tp.Model.Concurrent.Connection
import S3tp.Model.Concurrent.Transfer
import S3tp.Soundness.WholeFrames
import S3tp.Model.Core.Registry
import S3tp.Soundness.Reentrancy
import S3tp.Model.Concurrent.RegistrySystem
import S3tp.Soundness.RegistrySafety
import S3tp.Soundness.Recovery
import S3tp.Soundness.Duplicates
import S3tp.Soundness.SyncTransparency
import S3tp.Soundness.Payloads
import S3tp.Soundness.Sending
import S3tp.Soundness.EndToEnd
import S3tp.Soundness.Admission
import S3tp.Soundness.Detection
import S3tp.Soundness.Consumption
import S3tp.Machine.WakeUp
import S3tp.Model.Concurrent.RxThreads
import S3tp.Model.Concurrent.TxThreads
import S3tp.Soundness.RxWakeUps
import S3tp.Soundness.TxWakeUps
import S3tp.Model.Concurrent.Daemon
import S3tp.Soundness.NullEntries
import S3tp.Soundness.PortIdentity
import S3tp.Soundness.OpenPorts
import S3tp.Soundness.Sessions
import S3tp.Soundness.LengthVote
import S3tp.Machine.PolynomialRemainder
import S3tp.Soundness.Teardown
import S3tp.Soundness.Remainder
import S3tp.Model.Core.FrameBytes
import S3tp.Soundness.HeaderRoundTrip
import S3tp.Model.Core.MessageSampler
import S3tp.Soundness.Sampling
import S3tp.Soundness.SyncReceive
import S3tp.Soundness.TxMutexes
import S3tp.Soundness.Blocking
import S3tp.Model.Concurrent.ConnectorThreads
import S3tp.Soundness.SendRelease
import S3tp.Model.Concurrent.LinkLayerCall
import S3tp.Soundness.AllOrNothing
import S3tp.Machine.Loads
import S3tp.Model.Core.FrameReads
import S3tp.Soundness.FrameBounds
import S3tp.Machine.LastWrite
import S3tp.Soundness.HeaderFields
import S3tp.Machine.LinkedMemory
import S3tp.Model.Core.LinkedQueue
import S3tp.Soundness.LinkedOrder
import S3tp.Model.Core.SimpleQueue
import S3tp.Model.Concurrent.SimpleQueueThreads
import S3tp.Soundness.BoundedFifo
import S3tp.Model.Core.BufferMaps
import S3tp.Soundness.Conservation
import S3tp.Soundness.SequenceAccounting
import S3tp.ToMathlib.CutAfter
import S3tp.Model.Concurrent.LossyLink
import S3tp.Soundness.Provenance
import S3tp.Soundness.Integrity
import S3tp.Machine.PriorityServer
import S3tp.Soundness.Outbox
import S3tp.Model.Core.LinkedBuffer
import S3tp.Soundness.BufferMemory
import S3tp.Model.Core.LinkedRx
import S3tp.Soundness.ReceiveMemory
import S3tp.Model.Concurrent.ApplicationPath
import S3tp.Soundness.ApplicationPath
import S3tp.Soundness.TransmitStop
import S3tp.Soundness.AssemblyStop
import S3tp.Soundness.Tolerance
import S3tp.Model.Concurrent.DaemonLocks
import S3tp.Soundness.Deadlocks
import S3tp.Soundness.AtomicTurns
import S3tp.Soundness.FramesInTurn
import S3tp.Model.Concurrent.ThreadedLink
import S3tp.Soundness.ThreadedDelivery
