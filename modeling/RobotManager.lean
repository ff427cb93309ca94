import RobotManager.Library.TransitionSystem
import RobotManager.Library.FiniteMap
import RobotManager.Library.Double
import RobotManager.Library.JobTable
import RobotManager.Types.Command
import RobotManager.Control.CommandGuard
import RobotManager.Control.Executor
import RobotManager.Control.SitePolicy
import RobotManager.Control.SectionCases
import RobotManager.Control.CommandLedger
import RobotManager.Control.SectionFrames
import RobotManager.Control.RecordOrigins
import RobotManager.Control.Ownership
import RobotManager.Control.Transitions
import RobotManager.Control.Schedules
import RobotManager.Control.Lifecycle
import RobotManager.Control.Threads
import RobotManager.Control.Validated
import RobotManager.Control.SafeDispatch
import RobotManager.Control.RequestEquality
import RobotManager.Control.Watchdogs
import RobotManager.Control.ShutdownStop
import RobotManager.Control.MotionOutcome
import RobotManager.Control.FreshReadings
import RobotManager.Control.Idempotency
import RobotManager.Control.QueueOrder
import RobotManager.Control.WorkerProgress
import RobotManager.Control.ShutdownSettles
import RobotManager.Control.StopPreemption
import RobotManager.Control.StaleState
import RobotManager.Control.LeaseCases
import RobotManager.Control.ReleasedLease
import RobotManager.Control.LeasePromises
import RobotManager.Control.DeadLeases
import RobotManager.Adapters.EfortDriver
import RobotManager.Adapters.EfortFrames
import RobotManager.Adapters.EfortJog
import RobotManager.Adapters.EfortHold
import RobotManager.Control.Pruning
import RobotManager.Control.Admission
import RobotManager.Control.Retention
import RobotManager.Control.ActiveRecord
import RobotManager.Library.SeparatedPair
import RobotManager.Control.ClientKeys
import RobotManager.Control.Sequences
import RobotManager.Control.Timeouts
import RobotManager.Library.NumberText
import RobotManager.Config.Settings
import RobotManager.Config.ConfigLoader
import RobotManager.Config.LoadedConfig
import RobotManager.Config.FailClosed
import RobotManager.Config.Deployment
import RobotManager.Adapters.ModelCheck
import RobotManager.Config.NumericSettings
import RobotManager.Transport.GrpcOptions
import RobotManager.Config.Flattening
import RobotManager.Adapters.MockDriver
import RobotManager.Adapters.MockInterlocks
import RobotManager.Control.ReleasedWork
import RobotManager.Control.JogExclusion
import RobotManager.Library.Triple
import RobotManager.Library.Refinement
import RobotManager.Adapters.EfortCalls
import RobotManager.Adapters.EfortOrders
import RobotManager.Adapters.EfortConnection
import RobotManager.Adapters.EfortFailures
import RobotManager.Transport.Messages
import RobotManager.Transport.RobotControl
import RobotManager.Transport.CommandConversion
import RobotManager.Service.Station
import RobotManager.Service.StationRuns
import RobotManager.Service.OneConnection
import RobotManager.Service.CommandOrigins
import RobotManager.Service.ControllerPolicy
import RobotManager.Library.Ranking
import RobotManager.Control.ShutdownProgress
import RobotManager.Service.ShutdownCompletes
import RobotManager.Service.ConfiguredSite
import RobotManager.Service.CommandReports
import RobotManager.Adapters.EfortReadings
import RobotManager.Service.Telemetry
import RobotManager.Service.MotionReadings
import RobotManager.Service.Process
