import RobotManager.Types.Command

/-!
# Messages of the protocol

The messages of `robot_control.proto` that the endpoint reads, and the state that it sends.  A
message field that is absent reads as the default of its type, so it is modelled by that default.
Enumerations are open: a peer may send a number that has no name.
-/

namespace RobotManager

/-- A `grpc::Status`; the codes are those with which a request is admitted or refused. -/
inductive GrpcStatusCode where
  | ok
  | permissionDenied
  | notFound
  | unauthenticated
deriving DecidableEq, Repr

structure GrpcStatus where
  code : GrpcStatusCode
  message : String := ""
deriving DecidableEq, Repr

namespace GrpcStatus

def OK : GrpcStatus := { code := .ok }

def ok (status : GrpcStatus) : Bool := status.code == .ok

end GrpcStatus

namespace V1

structure JointPosition where
  degrees : List Double := []
deriving DecidableEq, Repr

structure CartesianPose where
  xMm : Double := .finite 0
  yMm : Double := .finite 0
  zMm : Double := .finite 0
  aDeg : Double := .finite 0
  bDeg : Double := .finite 0
  cDeg : Double := .finite 0
  configuration : ℤ := 0
  joint1Turn : ℤ := 0
  joint4Turn : ℤ := 0
  joint6Turn : ℤ := 0
deriving DecidableEq, Repr

structure MoveJ where
  target : JointPosition := {}
  speedPercent : ℤ := 0
  blend : Double := .finite 0
  toolName : String := ""
  workObjectName : String := ""
deriving DecidableEq, Repr

structure MoveL where
  target : CartesianPose := {}
  speedMmPerSecond : ℤ := 0
  blendMm : Double := .finite 0
  toolName : String := ""
  workObjectName : String := ""
deriving DecidableEq, Repr

structure MoveC where
  via : CartesianPose := {}
  target : CartesianPose := {}
  speedMmPerSecond : ℤ := 0
  blendMm : Double := .finite 0
  toolName : String := ""
  workObjectName : String := ""
deriving DecidableEq, Repr

inductive StopMode where
  | unspecified
  | controlled
  | quick
  | powerOffRequest
  | unrecognized (value : ℤ)
deriving DecidableEq, Repr

inductive JogFrame where
  | unspecified
  | joint
  | robot
  | tool
  | user
  | world
  | unrecognized (value : ℤ)
deriving DecidableEq, Repr

structure Jog where
  frame : JogFrame := .unspecified
  axis : ℕ := 0
  direction : ℤ := 0
  start : Bool := false
deriving DecidableEq, Repr

structure WriteDigitalOutput where
  index : ℕ := 0
  value : Bool := false
deriving DecidableEq, Repr

/-- The oneof of a command request, with the case that nothing is set. -/
inductive Command where
  | notSet
  | acquireControl
  | releaseControl
  | powerOn
  | powerOff
  | clearFault
  | setGlobalSpeed (ratio : ℕ)
  | moveJ (message : MoveJ)
  | moveL (message : MoveL)
  | moveC (message : MoveC)
  | hold
  | resume
  | stop (mode : StopMode)
  | jog (message : Jog)
  | writeDigitalOutput (message : WriteDigitalOutput)
  | loadProgram (name : String)
  | startProgram
  | stopProgram
deriving DecidableEq, Repr

structure CommandRequest where
  robotId : String := ""
  clientId : String := ""
  leaseId : String := ""
  idempotencyKey : String := ""
  timeoutMs : ℤ := 0
  command : Command := .notSet
deriving DecidableEq, Repr

structure AcquireControlLeaseRequest where
  robotId : String := ""
  clientId : String := ""
deriving DecidableEq, Repr

structure RenewControlLeaseRequest where
  robotId : String := ""
  clientId : String := ""
  leaseId : String := ""
deriving DecidableEq, Repr

structure ReleaseControlLeaseRequest where
  robotId : String := ""
  clientId : String := ""
  leaseId : String := ""
deriving DecidableEq, Repr

structure GetCommandRequest where
  robotId : String := ""
  commandId : ℕ := 0
deriving DecidableEq, Repr

structure GetStateRequest where
  robotId : String := ""
deriving DecidableEq, Repr

structure StreamStateRequest where
  robotId : String := ""
deriving DecidableEq, Repr

structure ReadDigitalIoRequest where
  robotId : String := ""
  index : ℕ := 0
deriving DecidableEq, Repr

inductive LifecycleState where
  | unspecified
  | disconnected
  | connecting
  | standby
  | ready
  | executing
  | paused
  | fault
  | emergencyStop
  | unknown
deriving DecidableEq, Repr

inductive ControllerMode where
  | unspecified
  | manual
  | manualFast
  | automatic
  | unknown
deriving DecidableEq, Repr

/-- A `google.protobuf.Timestamp`. -/
structure Timestamp where
  seconds : ℤ := 0
  nanos : ℤ := 0
deriving DecidableEq, Repr

structure RobotState where
  robotId : String := ""
  sequence : ℕ := 0
  observedAt : Timestamp := {}
  lifecycle : LifecycleState := .unspecified
  connected : Bool := false
  apiControl : Bool := false
  servoOn : Bool := false
  emergencyStop : Bool := false
  alarmActive : Bool := false
  moving : Bool := false
  paused : Bool := false
  speedRatio : ℕ := 0
  tcpSpeedMmPerSecond : Double := .finite 0
  controllerModel : String := ""
  activeTool : String := ""
  activeWorkObject : String := ""
  joints : JointPosition := {}
  tcpPose : CartesianPose := {}
  programRunning : Bool := false
  controllerMode : ControllerMode := .unspecified
  stateAgeMs : ℤ := 0
  stateStale : Bool := false
deriving DecidableEq, Repr

end V1

end RobotManager
