import RobotManager.Library.Double

/-!
# Robot domain types

The data types of `types/types.h`: controller state snapshots, motion targets and
profiles, and the site's safety policy.
-/

namespace RobotManager

inductive RobotLifecycleState where
  | disconnected
  | connecting
  | standby
  | ready
  | executing
  | paused
  | fault
  | emergencyStop
  | unknown
deriving DecidableEq, Repr

inductive ControllerMode where
  | manual
  | manualFast
  | automatic
  | unknown
deriving DecidableEq, Repr

inductive StopMode where
  | controlled
  | quick
  | powerOffRequest
deriving DecidableEq, Repr

inductive JogFrame where
  | joint
  | robot
  | tool
  | user
  | world
deriving DecidableEq, Repr

inductive JogDirection where
  | negative
  | positive
deriving DecidableEq, Repr

/-- What an adapter reads of the options of a connection. -/
structure ConnectionOptions where
  address : String := ""
  expectedModel : String := ""
  expectedAxisCount : ℕ := 0
  verifySdkVersion : Bool := true
  sdkDebugLogging : Bool := false
deriving DecidableEq, Repr

structure JointPosition where
  degrees : List Double := []
deriving DecidableEq, Repr

structure CartesianPose where
  xMm : Double := .finite 0
  yMm : Double := .finite 0
  zMm : Double := .finite 0
  aDeg : Double := .finite 0
  bDeg : Double := .finite 0
  cDeg : Double := .finite 0
  configuration : ℤ := 0
  joint1Turn : ℤ := 0
  joint4Turn : ℤ := 0
  joint6Turn : ℤ := 0
deriving DecidableEq, Repr

structure JointMotionProfile where
  speedPercent : ℤ := 10
  blend : Double := .finite 0
deriving DecidableEq, Repr

structure CartesianMotionProfile where
  speedMmPerSecond : ℤ := 100
  blendMm : Double := .finite 0
deriving DecidableEq, Repr

structure JointTarget where
  position : JointPosition := {}
  toolName : String := "tool0"
  workObjectName : String := "wobj0"
deriving DecidableEq, Repr

structure CartesianTarget where
  pose : CartesianPose := {}
  toolName : String := "tool0"
  workObjectName : String := "wobj0"
deriving DecidableEq, Repr

structure CircularTarget where
  via : CartesianPose := {}
  target : CartesianPose := {}
  toolName : String := "tool0"
  workObjectName : String := "wobj0"
deriving DecidableEq, Repr

structure JogCommand where
  frame : JogFrame := .joint
  axis : ℕ := 1
  direction : JogDirection := .positive
  start : Bool := true
deriving DecidableEq, Repr

structure Alarm where
  code : ℤ := 0
  severity : ℤ := 0
  occurredAt : String := ""
  message : String := ""
deriving DecidableEq, Repr

/-- A controller state as published to readers; `observedAt` is on the steady clock. -/
structure RobotSnapshot where
  sequence : ℕ := 0
  observedAt : ℤ := 0
  lifecycle : RobotLifecycleState := .unknown
  controllerMode : ControllerMode := .unknown
  connected : Bool := false
  apiControl : Bool := false
  servoOn : Bool := false
  emergencyStop : Bool := false
  alarmActive : Bool := false
  moving : Bool := false
  paused : Bool := false
  programRunning : Bool := false
  speedRatio : ℕ := 0
  tcpSpeedMmPerSecond : Double := .finite 0
  controllerModel : String := ""
  axisCount : ℕ := 0
  activeTool : String := ""
  activeWorkObject : String := ""
  joints : JointPosition := {}
  tcpPose : CartesianPose := {}
deriving DecidableEq, Repr

structure JointLimit where
  minimumDeg : Double := .finite 0
  maximumDeg : Double := .finite 0
deriving DecidableEq, Repr

structure CartesianWorkspace where
  minimumXMm : Double := .finite 0
  maximumXMm : Double := .finite 0
  minimumYMm : Double := .finite 0
  maximumYMm : Double := .finite 0
  minimumZMm : Double := .finite 0
  maximumZMm : Double := .finite 0
deriving DecidableEq, Repr

/-- The site-verified software limits. -/
structure SafetyPolicy where
  motionEnabled : Bool := false
  programExecutionEnabled : Bool := false
  jointLimitsVerified : Bool := false
  cartesianWorkspaceVerified : Bool := false
  maximumJointSpeedPercent : ℤ := 20
  maximumLinearSpeedMmPerSecond : ℤ := 500
  jointLimits : List JointLimit := []
  cartesianWorkspace : CartesianWorkspace := {}
  cartesianWorkspaceFrame : String := "wobj0"
  writableDigitalOutputs : List ℕ := []
  approvedPrograms : List String := []
deriving DecidableEq, Repr

end RobotManager
