import SdrModem.Machine
import SdrModem.BoundedFifo
import SdrModem.LinkedList
import SdrModem.Queue
import SdrModem.QueueShape
import SdrModem.QueueMonitor
import SdrModem.QueueRefinement
import SdrModem.Api
import SdrModem.TcpUtils
import SdrModem.TcpServer
import SdrModem.TcpFraming
import SdrModem.ClientTxWorker
import SdrModem.RxWorker
import SdrModem.RxWorkerQueue
import SdrModem.RxWorkerModem
import SdrModem.TxWorker
import SdrModem.TxWorkerFrame
import SdrModem.Server
import SdrModem.ServerFlow
import SdrModem.ServerEffect
import SdrModem.ServerProvenance
import SdrModem.ServerIsolation
import SdrModem.ServerBalance
import SdrModem.ServerAnswers
import SdrModem.ServerFrames
import SdrModem.FieldLayout
import SdrModem.ApiSettings
import SdrModem.ClientTxStream
import SdrModem.ServerWire
import SdrModem.ServerWireOrder
import SdrModem.ServerTrace
import SdrModem.ServerOrder
import SdrModem.RxWorkerSwitch
import SdrModem.RxStream
import SdrModem.ServerBarrier
import SdrModem.RxWorkerShutdown
import SdrModem.ServerShutdown
import SdrModem.ServerProgress
import SdrModem.StepwiseUpdate
import SdrModem.Plutosdr
import SdrModem.Airspy
import SdrModem.ParameterUpdate
import SdrModem.RxWorkerStart
import SdrModem.Mealy
import SdrModem.Modulator
import SdrModem.ModulatorReset
import SdrModem.TxWorkerModem
import SdrModem.ModulatorStream
import SdrModem.ModulatorChunks
import SdrModem.PlutosdrRate
import SdrModem.PlutosdrHistory
import SdrModem.PlutosdrErrors
import SdrModem.PlutosdrConfigured
import SdrModem.Libc
import SdrModem.Config
import SdrModem.ConfigMerge
import SdrModem.ConfigOrder
import SdrModem.ConfigAdmits
import SdrModem.SdrDevice
import SdrModem.HalfbandDecim
import SdrModem.BufferSizes
import SdrModem.FrameAdmission
import SdrModem.CorrelatorBurst
import SdrModem.GfskCorrelator
import SdrModem.CorrelatorStream
import SdrModem.CorrelatorRefinement
import SdrModem.CorrelatorSafety
import SdrModem.Stage
import SdrModem.Demodulator
import SdrModem.DemodulatorStream
import SdrModem.DcBlocker
import SdrModem.FreqOffsetCurve
import SdrModem.AirspyStaging
import SdrModem.PlutosdrTx
import SdrModem.TcpRead
import SdrModem.ParameterRanges
import SdrModem.SdrFile
import SdrModem.SyncWord
import SdrModem.AirspyNumbers
import SdrModem.ModemAdmission
import SdrModem.ModemBandwidth
import SdrModem.HalfbandBuffer
import SdrModem.FirFilter
import SdrModem.QueueOverwrite
import SdrModem.QueueProgress
import SdrModem.TransmitBuffers
import SdrModem.TransmitBounds
import SdrModem.TransmitRate
import SdrModem.CliModem
import SdrModem.Cli
import SdrModem.CliReceive
import SdrModem.CliTransmit
import SdrModem.CliLoopback
import SdrModem.CliPush
import SdrModem.Ledger
import SdrModem.Lifecycle
import SdrModem.DeviceLifecycle
import SdrModem.ServerLifecycle
import SdrModem.CliLifecycle
