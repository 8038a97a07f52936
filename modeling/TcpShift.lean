import TcpShift.Lib.Word
import TcpShift.Lib.Run
import TcpShift.Lib.Compaction
import TcpShift.Lib.MinHeap
import TcpShift.Lib.SlotTable
import TcpShift.Lib.Scale
import TcpShift.Lib.History
import TcpShift.Lib.Lockstep
import TcpShift.Lib.Selection
import TcpShift.Pacer
import TcpShift.PacerQueue
import TcpShift.PacerTimer
import TcpShift.TcpMemory
import TcpShift.TcpMemoryAccounting
import TcpShift.TcpMemoryWrappers
import TcpShift.Cc
import TcpShift.Reno
import TcpShift.Cubic
import TcpShift.CubicController
import TcpShift.CubicBounds
import TcpShift.CubicArithmetic
import TcpShift.LossBased
import TcpShift.CongestionSignals
import TcpShift.Delivery
import TcpShift.DeliveryLedger
import TcpShift.DeliverySlots
import TcpShift.Adapter
import TcpShift.ControllerErrors
import TcpShift.AdapterRuns
import TcpShift.Bbr
import TcpShift.BbrProbe
import TcpShift.BbrController
import TcpShift.BbrEstimator
import TcpShift.BbrRuns
import TcpShift.Bridge
import TcpShift.BridgeStreams
import TcpShift.BridgeRuns
import TcpShift.Prr
import TcpShift.PrrEpisodes
import TcpShift.RackTlp
import TcpShift.RackTranslation
import TcpShift.RackAdapter
import TcpShift.RackEvidence
import TcpShift.Bbr3
import TcpShift.Bbr3Congestion
import TcpShift.Bbr3Controller
import TcpShift.Bbr3Envelope
import TcpShift.Bbr3LossEvidence
import TcpShift.Bbr3LossRuns
import TcpShift.Bbr3LossObserver
import TcpShift.RateSamples
import TcpShift.RateSampleRuns
import TcpShift.BbrModes
import TcpShift.BbrModeRuns
import TcpShift.BbrBinding
import TcpShift.BbrRecovery
import TcpShift.BbrRecoveryRuns
import TcpShift.FlowRegistry
import TcpShift.FlowRegistrySound
import TcpShift.FlowRegistration
import TcpShift.FlowRegistryRuns
import TcpShift.BbrBandwidth
import TcpShift.BbrForecast
import TcpShift.BbrCalls
import TcpShift.PacerFailures
import TcpShift.BbrProbeRtt
import TcpShift.RackDeadline
import TcpShift.RackOrder
import TcpShift.RackDsack
import TcpShift.RecoveryTimer
import TcpShift.EffectiveCwnd
import TcpShift.FlowPacerRate
import TcpShift.CubicCurve
import TcpShift.CubicSteps
import TcpShift.CubicEpoch
import TcpShift.Lib.Stopwatch
import TcpShift.CubicEpochTime
import TcpShift.CubicGrowth
import TcpShift.CubicHystart
import TcpShift.Lib.Checked
import TcpShift.BandwidthDelay
import TcpShift.Lib.Latch
import TcpShift.Bbr3CongestionRuns
import TcpShift.Lib.TaggedRing
import TcpShift.Bbr3Schedule
import TcpShift.Bbr3Aggregation
import TcpShift.Bbr3ScheduleRuns
import TcpShift.Bbr3Binding
import TcpShift.Bbr3BindingRuns
import TcpShift.Lib.RingQueue
import TcpShift.L3Tun
import TcpShift.L3TunQueue
import TcpShift.L3TunAdmission
import TcpShift.Lib.Smoothing
import TcpShift.PacingFallback
import TcpShift.Lib.CString
import TcpShift.TcpMemoryParse
import TcpShift.TcpMemoryGrammar
import TcpShift.ServiceConfigText
import TcpShift.ServiceConfigStrings
import TcpShift.Lib.Reorder
import TcpShift.ServiceConfig
import TcpShift.ServiceConfigOrder
import TcpShift.ServiceConfigCanonical
import TcpShift.ServiceConfigRender
import TcpShift.PacingWrapper
import TcpShift.PacingWrapperRuns
import TcpShift.Ecn
import TcpShift.EcnEndpoint
import TcpShift.EcnRuns
import TcpShift.EcnGate
import TcpShift.EcnChannel
import TcpShift.EcnEcho
import TcpShift.EcnPlacement
import TcpShift.EcnResponse
import TcpShift.Lib.OrderedQueue
import TcpShift.SendQueues
import TcpShift.SendQueueRuns
import TcpShift.SendQueueMoves
import TcpShift.RackRepair
import TcpShift.SendQueueConserved
import TcpShift.SendQueueLaid
import TcpShift.SendQueueOrder
import TcpShift.SendQueueTimeouts
import TcpShift.SendQueueProbe
import TcpShift.SackMarks
import TcpShift.SackOption
import TcpShift.HostRules
import TcpShift.AddedRules
import TcpShift.Firewall
import TcpShift.FirewallRuns
import TcpShift.FirewallLegacy
import TcpShift.FirewallTracks
import TcpShift.FirewallIngress
import TcpShift.FirewallBatch
import TcpShift.FastRecovery
import TcpShift.FastRecoveryRuns
import TcpShift.FastRecoveryWindow
import TcpShift.EventLoop
import TcpShift.EventLoopRuns
