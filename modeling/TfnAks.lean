import TfnAks.Lib.Runs
import TfnAks.SystemConfig
import TfnAks.Telemetry.Data
import TfnAks.Relay.RelayManager
import TfnAks.Relay.PowerOnSafety
import TfnAks.Vcu.VcuLogic
import TfnAks.Vcu.Contactors
import TfnAks.Vcu.EmergencyStop
import TfnAks.Vcu.Freshness
import TfnAks.Hmi.DisplayHMI
import TfnAks.Bms.NextionPacket
import TfnAks.Bms.FullRefresh
import TfnAks.Can.CanManager
import TfnAks.Can.Streams
import TfnAks.System.Aks
import TfnAks.System.DriveSafety
import TfnAks.Lib.RingBuffer
import TfnAks.Telemetry.Sanitize
import TfnAks.Uplink.OfflineBuffer
import TfnAks.Uplink.Telemetry
import TfnAks.Uplink.LoraTask
import TfnAks.Uplink.OfflineAccount
import TfnAks.Uplink.UksFrame
import TfnAks.Can.CanTask
import TfnAks.Uplink.FrameContract
import TfnAks.Uplink.Acceptance
import TfnAks.Vcu.TransitionLaw
import TfnAks.Vcu.ContactorClosing
import TfnAks.Vcu.IdleSafety
import TfnAks.Vcu.FailedStart
import TfnAks.Vcu.FaultQueue
import TfnAks.Uplink.OfflineRefinement
import TfnAks.Uplink.RoundTrip
import TfnAks.Can.FreshnessFlags
import TfnAks.System.Noninterference
import TfnAks.Uplink.E22Boot
import TfnAks.Hmi.MainPage
import TfnAks.Hmi.PageCoherence
import TfnAks.Hmi.RxHistory
import TfnAks.Hmi.TouchResync
import TfnAks.Bms.PageCache
import TfnAks.Bms.BmsAlgo
import TfnAks.Bms.PackSpec
import TfnAks.Lib.HeartbeatMonitor
import TfnAks.Uplink.LinkState
import TfnAks.Lib.SparseSampling
import TfnAks.Uplink.OutageSampling
import TfnAks.Can.FieldRanges
import TfnAks.Uplink.TxBudget
import TfnAks.Can.FaultEvents
import TfnAks.System.DisplayLevel
import TfnAks.System.FaultPaths
import TfnAks.Lib.FifoService
import TfnAks.Vcu.QueueService
import TfnAks.Lib.Cadence
import TfnAks.Relay.ShadowState
import TfnAks.Vcu.Reassertion
import TfnAks.Lib.Numbering
import TfnAks.Uplink.SequenceNumbers
import TfnAks.Uplink.OutageRehearsal
import TfnAks.Can.SnifferLog
import TfnAks.Uplink.RehearsalDrain
import TfnAks.Can.SnifferGrammar
import TfnAks.Lib.LateItems
import TfnAks.Lib.Framing
import TfnAks.Hmi.HmiTask
import TfnAks.Hmi.ShownPass
import TfnAks.Hmi.NextionWire
import TfnAks.System.Cockpit
import TfnAks.System.DisplayedSignals
import TfnAks.System.OperatorEvents
import TfnAks.Can.BusRecord
import TfnAks.Can.CanReplay
import TfnAks.Uplink.LineStream
import TfnAks.System.Vehicle
import TfnAks.System.ReplayedSession
import TfnAks.Uplink.RehearsalFirmware
import TfnAks.Uplink.AcceptedLines
import TfnAks.System.PowerStage
import TfnAks.Vcu.StopOpening
import TfnAks.System.StopButton
