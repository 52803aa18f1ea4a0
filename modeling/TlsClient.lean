import TlsClient.Bench.Scenario
import TlsClient.Client.Request
import TlsClient.Proofs.Histories
import TlsClient.Sim.Board
import TlsClient.Sim.Entropy
import TlsClient.Proofs.WriteStream
import TlsClient.Proofs.ReadStream
import TlsClient.Proofs.Resumption
import TlsClient.Proofs.AckBounds
import TlsClient.Proofs.Reachability
import TlsClient.Proofs.ShutSessions
import TlsClient.Proofs.SoundStates
import TlsClient.Proofs.Deadlines
import TlsClient.Proofs.WriteWaits
import TlsClient.Proofs.Termination
import TlsClient.Proofs.ConformingBoard
import TlsClient.Proofs.ConnectOutcome
import TlsClient.Proofs.CacheLaws
import TlsClient.Proofs.CacheHistories
import TlsClient.Proofs.SessionKeeping
import TlsClient.Proofs.Likeness
import TlsClient.Proofs.Reconnects
import TlsClient.Proofs.CorruptedMemory
import TlsClient.Proofs.LifecycleStates
import TlsClient.Proofs.Reports
import TlsClient.Proofs.StrandedSessions
import TlsClient.Proofs.GuardedBoard
import TlsClient.Proofs.InBounds
import TlsClient.Proofs.SplitWrites
import TlsClient.Proofs.Transcripts
import TlsClient.Proofs.WriteBatches
import TlsClient.Proofs.PumpTurns
import TlsClient.Proofs.WaitOutcomes
import TlsClient.Proofs.Sessions
import TlsClient.Proofs.Receipts
import TlsClient.Proofs.QuietLines
import TlsClient.Proofs.ReadTurns
import TlsClient.Proofs.Observers
import TlsClient.Proofs.DrainingReads
import TlsClient.Proofs.Teardowns
import TlsClient.Proofs.Deliveries
import TlsClient.Proofs.Shutdowns
import TlsClient.Proofs.StreamEnds
import TlsClient.Proofs.RepeatedStops
import TlsClient.Proofs.Overruns
import TlsClient.Proofs.EngineContract
