import Ucanlab.Safety.BudgetConformance
import Ucanlab.Safety.Permission
import Ucanlab.Safety.RateEscalation
import Ucanlab.Safety.MissLatch
import Ucanlab.Safety.CriticalGate
import Ucanlab.Safety.RaisedCall
import Ucanlab.Safety.CounterStream
import Ucanlab.Hal.ReplaySessions
import Ucanlab.Protocols.J1939.CmdtLink
import Ucanlab.Safety.ResetAuthority
import Ucanlab.Safety.ArmRace
import Ucanlab.Safety.TransitionHistory
import Ucanlab.Safety.WatchdogLease
import Ucanlab.Protocols.J1939.BamRoundTrip
import Ucanlab.Protocols.J1939.RtsReplacement
import Ucanlab.Protocols.J1939.AddressContention
import Ucanlab.Protocols.Nmea2000.FastPacketSoundness
import Ucanlab.Protocols.Nmea2000.FastPacketIndependence
import Ucanlab.Uds.FlowControl
import Ucanlab.Engine.DynamicIsoTp
import Ucanlab.Engine.LoopSuppression
import Ucanlab.Engine.SessionAccounting
import Ucanlab.Engine.Buffer.RingBufferLog
import Ucanlab.Engine.Buffer.RollingDiskRuns
import Ucanlab.Uds.Truncation
import Ucanlab.Uds.TargetEcu
import Ucanlab.Uds.FlashConfirmation
import Ucanlab.Hal.TraceReducer
import Ucanlab.Hal.N2KConverter
import Ucanlab.Security.Audit.MerkleTree
import Ucanlab.Security.Audit.ChainEdits
import Ucanlab.Security.Cloud.TicketRuns
import Ucanlab.Security.SyncAnchor
import Ucanlab.Protocols.Obd.LateAnswers
import Ucanlab.Protocols.J1939.HoldLimit
import Ucanlab.Engine.ResponseLimit
import Ucanlab.Safety.E2E.BurstErrors
import Ucanlab.Uds.ChunkMerging
import Ucanlab.Engine.Diagnosis.Events
import Ucanlab.Engine.Decoder.DbcDecoder
import Ucanlab.Engine.Discovery.DbcBuilder
import Ucanlab.Engine.Diagnosis.CalibrationPairing
import Ucanlab.Uds.BlockLimit
import Ucanlab.Uds.ForeignTraffic
import Ucanlab.Engine.Diagnosis.OneShotPolls
import Ucanlab.Engine.Exporters.AtomicWrite
import Ucanlab.Core.VinMasking
import Ucanlab.Hal.TraceParsers
import Ucanlab.Hal.Rp1210
import Ucanlab.Engine.Ai.FmiGate
import Ucanlab.Engine.Ai.SeverityRules
import Ucanlab.Security.License.Jcs
import Ucanlab.Safety.VaultRuns
import Ucanlab.Safety.E2E.IncrementalCrc
import Ucanlab.Engine.Discovery.BitSerialCrc
import Ucanlab.Engine.Ai.FuzzyMatch
import Ucanlab.Hal.PythonCanBus
import Ucanlab.Protocols.CanOpen.EdsParser
import Ucanlab.Protocols.J1939.DmFraming
import Ucanlab.Engine.RouterViews
import Ucanlab.Protocols.J1939.ReplayIsolation
import Ucanlab.Engine.Buffer.DiskRetention
import Ucanlab.Safety.TokenMinting
