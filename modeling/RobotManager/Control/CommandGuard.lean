import RobotManager.Control.StateMachine
import RobotManager.Types.Command

/-!
# The command guard

`CommandGuard` of `command_guard.cc`: the software safety gate every command passes
when it is submitted and again before the worker calls the driver.
-/

namespace RobotManager

def isFinitePose (pose : CartesianPose) : Bool :=
  pose.xMm.isFinite && pose.yMm.isFinite && pose.zMm.isFinite && pose.aDeg.isFinite &&
    pose.bDeg.isFinite && pose.cDeg.isFinite && decide (0 ≤ pose.configuration)

def isInsideWorkspace (pose : CartesianPose) (workspace : CartesianWorkspace) : Bool :=
  decide (workspace.minimumXMm ≤ pose.xMm) && decide (pose.xMm ≤ workspace.maximumXMm) &&
    decide (workspace.minimumYMm ≤ pose.yMm) && decide (pose.yMm ≤ workspace.maximumYMm) &&
    decide (workspace.minimumZMm ≤ pose.zMm) && decide (pose.zMm ≤ workspace.maximumZMm)

def requireLease (leaseValid : Bool) : Status :=
  if !leaseValid then ⟨.permissionDenied, "a valid control lease is required", 0⟩ else Status.Ok

/-- The payload alternatives that belong to a command type. -/
def payloadTypeMatches (type : CommandType) (payload : CommandPayload) : Bool :=
  match type, payload with
  | .acquireControl, .empty | .releaseControl, .empty | .powerOn, .empty | .powerOff, .empty
  | .clearFault, .empty | .hold, .empty | .resume, .empty | .startProgram, .empty
  | .stopProgram, .empty => true
  | .setGlobalSpeed, .speed _ => true
  | .moveJ, .moveJ _ => true
  | .moveL, .moveL _ => true
  | .moveC, .moveC _ => true
  | .stop, .empty | .stop, .stop _ => true
  | .jog, .jog _ => true
  | .writeDigitalOutput, .digitalOutput _ => true
  | .loadProgram, .program _ => true
  | _, _ => false

def validatePayloadType (request : CommandRequest) : Status :=
  if payloadTypeMatches request.type request.payload then Status.Ok
  else ⟨.invalidArgument, "command payload has the wrong type", 0⟩

/-- The preconditions shared by MoveJ, MoveL, MoveC and program start. -/
def validateCommonMotion (policy : SafetyPolicy) (snapshot : RobotSnapshot)
    (leaseValid : Bool) : Status :=
  if !(requireLease leaseValid).ok then requireLease leaseValid
  else if !policy.motionEnabled || !policy.jointLimitsVerified then
    ⟨.failedPrecondition, "motion or verified site joint limits are disabled", 0⟩
  else if snapshot.lifecycle != .ready || snapshot.controllerMode != .automatic ||
      !snapshot.connected || !snapshot.apiControl || !snapshot.servoOn ||
      snapshot.emergencyStop || snapshot.alarmActive || snapshot.moving ||
      snapshot.paused || snapshot.programRunning then
    ⟨.failedPrecondition, "robot is not ready for a new motion command", 0⟩
  else Status.Ok

/-- The loop over the joint targets: the first target that is not finite or lies outside its
limit rejects the command.  It runs over as many axes as there are limits. -/
def jointTargetsRejected : List Double → List JointLimit → Bool
  | value :: values, limit :: limits =>
      if !value.isFinite || decide (value < limit.minimumDeg) ||
          decide (limit.maximumDeg < value) then true
      else jointTargetsRejected values limits
  | _, _ => false

def validateMoveJ (policy : SafetyPolicy) (payload : MoveJPayload) : Status :=
  if !policy.jointLimitsVerified then
    ⟨.failedPrecondition, "site joint limits have not been verified", 0⟩
  else if payload.target.toolName == "" || payload.target.workObjectName == "" ||
      decide (payload.profile.speedPercent < 1) ||
      decide (policy.maximumJointSpeedPercent < payload.profile.speedPercent) ||
      !payload.profile.blend.isFinite || decide (payload.profile.blend < .finite 0) then
    ⟨.invalidArgument, "joint speed or blend is outside the site policy", 0⟩
  else if payload.target.position.degrees.length != policy.jointLimits.length then
    ⟨.invalidArgument, "joint target axis count does not match site limits", 0⟩
  else if jointTargetsRejected payload.target.position.degrees policy.jointLimits then
    ⟨.invalidArgument, "joint target is outside the configured limits", 0⟩
  else Status.Ok

def validateMoveL (policy : SafetyPolicy) (payload : MoveLPayload) : Status :=
  if !policy.cartesianWorkspaceVerified then
    ⟨.failedPrecondition, "site Cartesian workspace has not been verified", 0⟩
  else if payload.target.toolName == "" || payload.target.workObjectName == "" ||
      payload.target.workObjectName != policy.cartesianWorkspaceFrame ||
      !isFinitePose payload.target.pose ||
      !isInsideWorkspace payload.target.pose policy.cartesianWorkspace ||
      decide (payload.profile.speedMmPerSecond < 1) ||
      decide (policy.maximumLinearSpeedMmPerSecond < payload.profile.speedMmPerSecond) ||
      !payload.profile.blendMm.isFinite || decide (payload.profile.blendMm < .finite 0) then
    ⟨.invalidArgument, "linear target or profile is invalid", 0⟩
  else Status.Ok

def validateMoveC (policy : SafetyPolicy) (payload : MoveCPayload) : Status :=
  if !policy.cartesianWorkspaceVerified then
    ⟨.failedPrecondition, "site Cartesian workspace has not been verified", 0⟩
  else if payload.target.toolName == "" || payload.target.workObjectName == "" ||
      payload.target.workObjectName != policy.cartesianWorkspaceFrame ||
      !isFinitePose payload.target.via || !isFinitePose payload.target.target ||
      !isInsideWorkspace payload.target.via policy.cartesianWorkspace ||
      !isInsideWorkspace payload.target.target policy.cartesianWorkspace ||
      decide (payload.profile.speedMmPerSecond < 1) ||
      decide (policy.maximumLinearSpeedMmPerSecond < payload.profile.speedMmPerSecond) ||
      !payload.profile.blendMm.isFinite || decide (payload.profile.blendMm < .finite 0) then
    ⟨.invalidArgument, "circular target or profile is invalid", 0⟩
  else Status.Ok

/-- The jog case of `Validate`. -/
def validateJog (policy : SafetyPolicy) (jog : JogCommand) (snapshot : RobotSnapshot)
    (leaseValid jogActive : Bool) : Status :=
  if decide (jog.axis < 1) ||
      (policy.jointLimits.length != 0 && decide (policy.jointLimits.length < jog.axis)) then
    ⟨.invalidArgument, "jog payload or axis is invalid", 0⟩
  else if !(requireLease leaseValid).ok then requireLease leaseValid
  else if !snapshot.connected || !snapshot.apiControl || snapshot.emergencyStop ||
      snapshot.alarmActive || snapshot.lifecycle == .unknown || snapshot.programRunning ||
      snapshot.controllerMode != .manual then
    ⟨.failedPrecondition, "jog preconditions are not satisfied", 0⟩
  else if !jog.start then Status.Ok
  else if snapshot.moving && !jogActive then
    ⟨.failedPrecondition, "cannot start jog during another motion", 0⟩
  else if !policy.motionEnabled || !policy.jointLimitsVerified || !snapshot.servoOn ||
      snapshot.paused then
    ⟨.failedPrecondition, "jog motion is disabled or robot is not ready", 0⟩
  else if snapshot.speedRatio == 0 || decide (policy.maximumJointSpeedPercent < 1) ||
      decide (policy.maximumJointSpeedPercent < snapshot.speedRatio) then
    ⟨.failedPrecondition, "global speed ratio is unsafe for jog", 0⟩
  else Status.Ok

/-- What follows the switch of `Validate`: the lease, then the parameters of the three command
types whose payload the site policy bounds. -/
def validateParameters (policy : SafetyPolicy) (request : CommandRequest)
    (leaseValid : Bool) : Status :=
  if !(requireLease leaseValid).ok then requireLease leaseValid
  else
    match request.type, request.payload with
    | .setGlobalSpeed, .speed payload =>
        if payload.ratio == 0 || decide (policy.maximumJointSpeedPercent < 1) ||
            decide (policy.maximumJointSpeedPercent < payload.ratio) then
          ⟨.invalidArgument, "global speed ratio exceeds the site policy", 0⟩
        else Status.Ok
    | .setGlobalSpeed, _ => ⟨.invalidArgument, "global speed ratio exceeds the site policy", 0⟩
    | .writeDigitalOutput, .digitalOutput payload =>
        if policy.writableDigitalOutputs.contains payload.index then Status.Ok
        else ⟨.permissionDenied, "digital output is not in the write allowlist", 0⟩
    | .writeDigitalOutput, _ => ⟨.invalidArgument, "digital output payload is missing", 0⟩
    | .loadProgram, .program payload =>
        if payload.name == "" then ⟨.invalidArgument, "controller program name is required", 0⟩
        else if !policy.programExecutionEnabled ||
            !policy.approvedPrograms.contains payload.name then
          ⟨.permissionDenied, "controller program is not approved for execution", 0⟩
        else Status.Ok
    | .loadProgram, _ => ⟨.invalidArgument, "controller program name is required", 0⟩
    | _, _ => Status.Ok

/-- `CommandGuard::Validate`. -/
def validate (policy : SafetyPolicy) (request : CommandRequest) (snapshot : RobotSnapshot)
    (leaseValid jogActive : Bool) : Status :=
  if !(validatePayloadType request).ok then validatePayloadType request
  else
    match request.type with
    | .stop =>
        if snapshot.connected then Status.Ok
        else ⟨.failedPrecondition, "robot is not connected", 0⟩
    | .acquireControl =>
        if !snapshot.connected then ⟨.failedPrecondition, "robot is not connected", 0⟩
        else requireLease leaseValid
    | .releaseControl => requireLease leaseValid
    | .clearFault =>
        if !snapshot.connected || snapshot.emergencyStop || snapshot.lifecycle == .unknown then
          ⟨.failedPrecondition, "cannot clear faults while disconnected or in emergency stop", 0⟩
        else requireLease leaseValid
    | .powerOn =>
        if !snapshot.connected || !snapshot.apiControl || snapshot.emergencyStop ||
            snapshot.alarmActive || snapshot.lifecycle == .unknown then
          ⟨.failedPrecondition, "power-on preconditions are not satisfied", 0⟩
        else requireLease leaseValid
    | .powerOff | .stopProgram =>
        if !snapshot.connected || !snapshot.apiControl then
          ⟨.failedPrecondition, "robot is not under API control", 0⟩
        else validateParameters policy request leaseValid
    | .setGlobalSpeed | .writeDigitalOutput | .loadProgram =>
        if !snapshot.connected || !snapshot.apiControl || snapshot.lifecycle == .unknown then
          ⟨.failedPrecondition, "robot is not under API control", 0⟩
        else validateParameters policy request leaseValid
    | .startProgram =>
        if !(validateCommonMotion policy snapshot leaseValid).ok then
          validateCommonMotion policy snapshot leaseValid
        else if !policy.programExecutionEnabled then
          ⟨.failedPrecondition, "controller program execution is disabled by policy", 0⟩
        else Status.Ok
    | .moveJ =>
        if !(validateCommonMotion policy snapshot leaseValid).ok then
          validateCommonMotion policy snapshot leaseValid
        else
          match request.payload with
          | .moveJ payload => validateMoveJ policy payload
          | _ => ⟨.invalidArgument, "MoveJ payload is missing", 0⟩
    | .moveL =>
        if !(validateCommonMotion policy snapshot leaseValid).ok then
          validateCommonMotion policy snapshot leaseValid
        else
          match request.payload with
          | .moveL payload => validateMoveL policy payload
          | _ => ⟨.invalidArgument, "MoveL payload is missing", 0⟩
    | .moveC =>
        if !(validateCommonMotion policy snapshot leaseValid).ok then
          validateCommonMotion policy snapshot leaseValid
        else
          match request.payload with
          | .moveC payload => validateMoveC policy payload
          | _ => ⟨.invalidArgument, "MoveC payload is missing", 0⟩
    | .hold =>
        if !snapshot.moving && !snapshot.programRunning then
          ⟨.failedPrecondition, "robot motion or program is not running", 0⟩
        else requireLease leaseValid
    | .resume =>
        if !snapshot.paused then ⟨.failedPrecondition, "robot motion is not paused", 0⟩
        else requireLease leaseValid
    | .jog =>
        match request.payload with
        | .jog jog => validateJog policy jog snapshot leaseValid jogActive
        | _ => ⟨.invalidArgument, "jog payload or axis is invalid", 0⟩

end RobotManager
