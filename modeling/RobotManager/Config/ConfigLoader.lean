import RobotManager.Config.Settings
import RobotManager.Control.ExecutorState
import Mathlib.Data.String.Basic

/-!
# Loading a service configuration

`CheckKnownKeys` and `LoadServiceConfig` of `config_loader.cc`, from the flattened document on.
-/

namespace RobotManager

open Checked

/-! ### Known keys -/

def knownScalars : List String := [
  "schema_version",
  "service.instance_id",
  "service.state_poll_ms",
  "service.state_stale_after_ms",
  "service.command_queue_capacity",
  "service.command_history_capacity",
  "robot.id",
  "robot.driver",
  "robot.address",
  "robot.model",
  "robot.axis_count",
  "robot.verify_sdk_version",
  "robot.sdk_debug_logging",
  "control_lease.ttl_ms",
  "control_lease.jog_heartbeat_timeout_ms",
  "limits.motion_enabled",
  "limits.program_execution_enabled",
  "limits.maximum_joint_speed_percent",
  "limits.maximum_linear_speed_mm_per_second",
  "limits.cartesian_workspace.frame",
  "limits.cartesian_workspace.x_mm",
  "limits.cartesian_workspace.y_mm",
  "limits.cartesian_workspace.z_mm"]

def knownLists : List String :=
  ["limits.joint_limits_deg", "limits.writable_digital_outputs", "limits.approved_programs"]

def knownMappings : List String :=
  ["service", "robot", "control_lease", "limits", "limits.cartesian_workspace", "transport"]

def isTransportExtension (key : String) : Bool := "transport.".toList.isPrefixOf key.toList

/-- The first key that is neither known nor an extension; the maps and the set of the document are
traversed in the order of their keys. -/
def firstUnknown (known keys : List String) : Option String :=
  (keys.filter fun key => !known.contains key && !isTransportExtension key).min?

def checkKnownKeys (document : ConfigDocument) : Status :=
  match firstUnknown knownScalars document.scalars.keys with
  | some key => configError ("unknown setting '" ++ key ++ "'")
  | none =>
      match firstUnknown knownLists document.lists.keys with
      | some key => configError ("unknown list setting '" ++ key ++ "'")
      | none =>
          match firstUnknown (knownMappings ++ knownLists) document.mappings with
          | some key => configError ("unknown section '" ++ key ++ "'")
          | none => Status.Ok

/-! ### The settings -/

/-- The options of a connection together with the robot's id, which no adapter reads. -/
structure ServiceConnection extends ConnectionOptions where
  robotId : String := ""
deriving DecidableEq

structure ServiceConfig where
  instanceId : String := ""
  driverName : String := ""
  connection : ServiceConnection := {}
  safetyPolicy : SafetyPolicy := {}
  executorOptions : ExecutorOptions := {}
deriving DecidableEq

/-- The settings that every document gives, besides its version. -/
structure RequiredSettings where
  instanceId : String
  robotId : String
  driverName : String
  address : String
  modelName : String
  verifySdk : Bool
  sdkDebug : Bool
  statePoll : ℤ
  stateStale : ℤ
  queueSize : ℤ
  historySize : ℤ
  leaseTtl : ℤ
  jogTimeout : ℤ
  motionEnabled : Bool
  programsEnabled : Bool
  maximumJointSpeed : ℤ
  maximumLinearSpeed : ℤ

/-- The settings are read in the order of `statuses`, the first failing one of which is returned. -/
def requiredSettings (document : ConfigDocument) : StatusOr RequiredSettings := do
  let instanceId ← requiredScalar document "service.instance_id"
  let robotId ← requiredScalar document "robot.id"
  let driverName ← requiredScalar document "robot.driver"
  let address ← requiredScalar document "robot.address"
  let modelName ← requiredScalar document "robot.model"
  let verifySdk ← parseBool document "robot.verify_sdk_version"
  let sdkDebug ← parseBool document "robot.sdk_debug_logging"
  let statePoll ← parseInt document "service.state_poll_ms"
  let stateStale ← parseInt document "service.state_stale_after_ms"
  let queueSize ← parseInt document "service.command_queue_capacity"
  let historySize ← parseInt document "service.command_history_capacity"
  let leaseTtl ← parseInt document "control_lease.ttl_ms"
  let jogTimeout ← parseInt document "control_lease.jog_heartbeat_timeout_ms"
  let motionEnabled ← parseBool document "limits.motion_enabled"
  let programsEnabled ← parseBool document "limits.program_execution_enabled"
  let maximumJointSpeed ← parseInt document "limits.maximum_joint_speed_percent"
  let maximumLinearSpeed ← parseInt document "limits.maximum_linear_speed_mm_per_second"
  .ok {
    instanceId, robotId, driverName, address, modelName, verifySdk, sdkDebug, statePoll,
    stateStale, queueSize, historySize, leaseTtl, jogTimeout, motionEnabled, programsEnabled,
    maximumJointSpeed, maximumLinearSpeed }

def RequiredSettings.outOfRange (settings : RequiredSettings) : Bool :=
  decide (settings.statePoll < 1) || decide (settings.stateStale < settings.statePoll) ||
    decide (settings.queueSize < 1) || decide (settings.historySize < 1) ||
    decide (settings.leaseTtl < 1) || decide (settings.jogTimeout < settings.statePoll) ||
    decide (settings.maximumJointSpeed < 1) || decide (100 < settings.maximumJointSpeed) ||
    decide (settings.maximumLinearSpeed < 1)

/-- A number from a bound on; every other text gets the same message. -/
def parseAtLeast (least : ℕ) (value key message : String) : StatusOr ℕ :=
  match parseIntScalar value key with
  | .error _ => .error (configError message)
  | .ok number =>
      if number < least then .error (configError message) else .ok number.toNat

/-- The axis count, which is zero if it is left to the adapter. -/
def expectedAxisCount (document : ConfigDocument) : StatusOr ℕ :=
  match document.scalars.lookup "robot.axis_count" with
  | none => .ok 0
  | some value =>
      parseAtLeast 1 value "robot.axis_count" "robot.axis_count must be a positive integer"

def jointLimits (document : ConfigDocument) : StatusOr (List JointLimit) := do
  let values ← optionalList document "limits.joint_limits_deg"
  values.mapM fun value => parseRange value "limits.joint_limits_deg"

structure WorkspaceSettings where
  frame : String
  workspace : CartesianWorkspace
deriving DecidableEq

def hasWorkspace (document : ConfigDocument) : Bool :=
  (document.scalars.lookup "limits.cartesian_workspace.frame").isSome ||
    (document.scalars.lookup "limits.cartesian_workspace.x_mm").isSome ||
    (document.scalars.lookup "limits.cartesian_workspace.y_mm").isSome ||
    (document.scalars.lookup "limits.cartesian_workspace.z_mm").isSome

/-- The workspace of a document that has one: it needs all four of its settings. -/
def cartesianWorkspace (document : ConfigDocument) : StatusOr WorkspaceSettings :=
  match document.scalars.lookup "limits.cartesian_workspace.frame",
    document.scalars.lookup "limits.cartesian_workspace.x_mm",
    document.scalars.lookup "limits.cartesian_workspace.y_mm",
    document.scalars.lookup "limits.cartesian_workspace.z_mm" with
  | some frame, some xRange, some yRange, some zRange => do
      reject (frame = "")
        (configError "cartesian workspace requires frame and x_mm/y_mm/z_mm ranges")
      let x ← parseRange xRange "limits.cartesian_workspace.x_mm"
      let y ← parseRange yRange "limits.cartesian_workspace.y_mm"
      let z ← parseRange zRange "limits.cartesian_workspace.z_mm"
      .ok ⟨frame, ⟨x.minimumDeg, x.maximumDeg, y.minimumDeg, y.maximumDeg, z.minimumDeg,
        z.maximumDeg⟩⟩
  | _, _, _, _ =>
      .error (configError "cartesian workspace requires frame and x_mm/y_mm/z_mm ranges")

def optionalWorkspace (document : ConfigDocument) : StatusOr (Option WorkspaceSettings) :=
  if hasWorkspace document then (cartesianWorkspace document).map some else .ok none

def writableDigitalOutputs (document : ConfigDocument) : StatusOr (List ℕ) := do
  let outputs ← optionalList document "limits.writable_digital_outputs"
  outputs.mapM fun output => parseAtLeast 0 output "writable output"
    "limits.writable_digital_outputs contains an invalid index"

/-! ### The configuration -/

/-- The settings that a document may leave out. -/
structure OptionalSettings where
  axisCount : ℕ
  jointLimits : List JointLimit
  workspace : Option WorkspaceSettings
  outputs : List ℕ
  programs : List String

/-- The policy keeps its own defaults for a workspace that the document leaves out. -/
def RequiredSettings.safetyPolicy (settings : RequiredSettings) (optional : OptionalSettings) :
    SafetyPolicy where
  motionEnabled := settings.motionEnabled
  programExecutionEnabled := settings.programsEnabled
  jointLimitsVerified := !optional.jointLimits.isEmpty
  cartesianWorkspaceVerified := optional.workspace.isSome
  maximumJointSpeedPercent := settings.maximumJointSpeed
  maximumLinearSpeedMmPerSecond := settings.maximumLinearSpeed
  jointLimits := optional.jointLimits
  cartesianWorkspace := optional.workspace.elim ({} : SafetyPolicy).cartesianWorkspace
    WorkspaceSettings.workspace
  cartesianWorkspaceFrame := optional.workspace.elim ({} : SafetyPolicy).cartesianWorkspaceFrame
    WorkspaceSettings.frame
  writableDigitalOutputs := optional.outputs
  approvedPrograms := optional.programs

def RequiredSettings.executorOptions (settings : RequiredSettings) : ExecutorOptions where
  statePollInterval := settings.statePoll
  stateStaleAfter := settings.stateStale
  controlLeaseTtl := settings.leaseTtl
  jogHeartbeatTimeout := settings.jogTimeout
  maximumQueueSize := settings.queueSize.toNat
  maximumCommandHistory := settings.historySize.toNat

def RequiredSettings.serviceConfig (settings : RequiredSettings) (optional : OptionalSettings) :
    ServiceConfig where
  instanceId := settings.instanceId
  driverName := settings.driverName
  connection := {
    robotId := settings.robotId
    address := settings.address
    expectedModel := settings.modelName
    expectedAxisCount := optional.axisCount
    verifySdkVersion := settings.verifySdk
    sdkDebugLogging := settings.sdkDebug }
  safetyPolicy := settings.safetyPolicy optional
  executorOptions := settings.executorOptions

/-- `LoadServiceConfig`, from the document that `LoadConfigDocument` has read. -/
def loadServiceConfig (document : ConfigDocument) : StatusOr ServiceConfig := do
  reject ((checkKnownKeys document).ok = false) (checkKnownKeys document)
  let schemaVersion ← parseInt document "schema_version"
  reject (schemaVersion ≠ 1) (configError "unsupported schema_version")
  let settings ← requiredSettings document
  reject settings.outOfRange (configError "timing, queue, or speed limits are out of range")
  let axisCount ← expectedAxisCount document
  let jointLimits ← jointLimits document
  reject (axisCount ≠ 0 ∧ jointLimits ≠ [] ∧ jointLimits.length ≠ axisCount)
    (configError "limits.joint_limits_deg count must match robot.axis_count")
  reject (settings.motionEnabled ∧ jointLimits = [])
    (configError "motion requires verified joint limits")
  let workspace ← optionalWorkspace document
  let outputs ← writableDigitalOutputs document
  let programs ← optionalList document "limits.approved_programs"
  reject (settings.programsEnabled ∧ programs = [])
    (configError "program execution requires approved programs")
  .ok (settings.serviceConfig { axisCount, jointLimits, workspace, outputs, programs })

end RobotManager
