import RobotManager.Transport.Messages

/-!
# Between messages and domain values

The conversions of `grpc_server.cc` between commands, states and their messages, and the private
functions of `RobotControlEndpoint` that admit a request.  `FromProtoCommand` is the only way in
which a remote client's command becomes a `CommandRequest`.
-/

namespace RobotManager

namespace GrpcServer

def toProtoLifecycleState : RobotLifecycleState → V1.LifecycleState
  | .disconnected => .disconnected
  | .connecting => .connecting
  | .standby => .standby
  | .ready => .ready
  | .executing => .executing
  | .paused => .paused
  | .fault => .fault
  | .emergencyStop => .emergencyStop
  | .unknown => .unknown

def toProtoControllerMode : ControllerMode → V1.ControllerMode
  | .manual => .manual
  | .manualFast => .manualFast
  | .automatic => .automatic
  | .unknown => .unknown

def fromProtoPose (pose : V1.CartesianPose) : CartesianPose :=
  ⟨pose.xMm, pose.yMm, pose.zMm, pose.aDeg, pose.bDeg, pose.cDeg, pose.configuration,
    pose.joint1Turn, pose.joint4Turn, pose.joint6Turn⟩

def populatePose (source : CartesianPose) : V1.CartesianPose where
  xMm := source.xMm
  yMm := source.yMm
  zMm := source.zMm
  aDeg := source.aDeg
  bDeg := source.bDeg
  cDeg := source.cDeg
  configuration := source.configuration
  joint1Turn := source.joint1Turn
  joint4Turn := source.joint4Turn
  joint6Turn := source.joint6Turn

/-- The three clock readings that `PopulateState` makes, in nanoseconds. -/
structure ClockReadings where
  steadyNow : TimePoint
  timestampNow : TimePoint
  systemNow : ℤ

/-- The age of a state at a reading of the steady clock, if it has been observed before it. -/
def stateAge (observedAt now : TimePoint) : Option ℤ :=
  if observedAt ≠ 0 ∧ observedAt ≤ now then some (now.sub observedAt) else none

def populateState (robotId : String) (source : RobotSnapshot) (clocks : ClockReadings) :
    V1.RobotState :=
  let observedAt := clocks.systemNow - (stateAge source.observedAt clocks.timestampNow).getD 0
  let seconds := observedAt.tdiv 1000000000
  { robotId := robotId
    sequence := source.sequence
    lifecycle := toProtoLifecycleState source.lifecycle
    connected := source.connected
    apiControl := source.apiControl
    servoOn := source.servoOn
    emergencyStop := source.emergencyStop
    alarmActive := source.alarmActive
    moving := source.moving
    paused := source.paused
    programRunning := source.programRunning
    controllerMode := toProtoControllerMode source.controllerMode
    stateAgeMs := ((stateAge source.observedAt clocks.steadyNow).getD 0).tdiv 1000000
    stateStale := source.lifecycle == .unknown
    speedRatio := source.speedRatio
    tcpSpeedMmPerSecond := source.tcpSpeedMmPerSecond
    controllerModel := source.controllerModel
    activeTool := source.activeTool
    activeWorkObject := source.activeWorkObject
    joints := ⟨source.joints.degrees⟩
    tcpPose := populatePose source.tcpPose
    observedAt := ⟨seconds, observedAt - seconds * 1000000000⟩ }

/-! ### The endpoint -/

/-- What a call's context tells about the peer; `none` stands for a missing authentication. -/
structure ServerContext where
  peerIdentity : Option (List String) := none
deriving DecidableEq, Repr

structure RobotControlEndpoint where
  robotId : String
  allowedClientCommonNames : List String
deriving DecidableEq, Repr

namespace RobotControlEndpoint

def authorize (endpoint : RobotControlEndpoint) (context : ServerContext) : GrpcStatus :=
  if endpoint.allowedClientCommonNames.isEmpty then .OK
  else
    match context.peerIdentity with
    | none => ⟨.unauthenticated, "mTLS client certificate is required"⟩
    | some identities =>
        if identities.any fun commonName => endpoint.allowedClientCommonNames.contains commonName
        then .OK
        else ⟨.permissionDenied, "client certificate identity is not authorized"⟩

def validateRobotId (endpoint : RobotControlEndpoint) (robotId : String) : GrpcStatus :=
  if robotId ≠ endpoint.robotId then ⟨.notFound, "robot_id is not served by this instance"⟩
  else .OK

def validateRequest (endpoint : RobotControlEndpoint) (context : ServerContext)
    (robotId : String) : GrpcStatus :=
  let status := endpoint.authorize context
  if status.ok then endpoint.validateRobotId robotId else status

end RobotControlEndpoint

def toStopMode : V1.StopMode → StopMode
  | .quick => .quick
  | .powerOffRequest => .powerOffRequest
  | .unspecified | .controlled => .controlled
  | .unrecognized _ => .controlled

def toJogFrame : V1.JogFrame → JogFrame
  | .robot => .robot
  | .tool => .tool
  | .user => .user
  | .world => .world
  | .unspecified | .joint => .joint
  | .unrecognized _ => .joint

/-- Whether `FromProtoCommand` takes the frame of a jog for valid. -/
def isJogFrame : V1.JogFrame → Bool
  | .unspecified | .joint | .robot | .tool | .user | .world => true
  | .unrecognized _ => false

/-- The switch of `FromProtoCommand` over the command of a request. -/
def fromProtoPayload : V1.Command → StatusOr (CommandType × CommandPayload)
  | .acquireControl => .ok (.acquireControl, .empty)
  | .releaseControl => .ok (.releaseControl, .empty)
  | .powerOn => .ok (.powerOn, .empty)
  | .powerOff => .ok (.powerOff, .empty)
  | .clearFault => .ok (.clearFault, .empty)
  | .setGlobalSpeed ratio => .ok (.setGlobalSpeed, .speed ⟨ratio⟩)
  | .moveJ message =>
      if message.target.degrees.length = 0 then
        .error ⟨.invalidArgument, "MoveJ requires at least one joint value", 0⟩
      else
        .ok (.moveJ, .moveJ
          { target := ⟨⟨message.target.degrees⟩, message.toolName, message.workObjectName⟩
            profile := ⟨message.speedPercent, message.blend⟩ })
  | .moveL message =>
      .ok (.moveL, .moveL
        { target := ⟨fromProtoPose message.target, message.toolName, message.workObjectName⟩
          profile := ⟨message.speedMmPerSecond, message.blendMm⟩ })
  | .moveC message =>
      .ok (.moveC, .moveC
        { target := ⟨fromProtoPose message.via, fromProtoPose message.target, message.toolName,
            message.workObjectName⟩
          profile := ⟨message.speedMmPerSecond, message.blendMm⟩ })
  | .hold => .ok (.hold, .empty)
  | .resume => .ok (.resume, .empty)
  | .stop mode => .ok (.stop, .stop ⟨toStopMode mode⟩)
  | .jog message =>
      if !isJogFrame message.frame then .error ⟨.invalidArgument, "jog frame is invalid", 0⟩
      else if message.direction ≠ -1 ∧ message.direction ≠ 1 then
        .error ⟨.invalidArgument, "jog direction must be -1 or 1", 0⟩
      else
        .ok (.jog, .jog
          { frame := toJogFrame message.frame
            axis := message.axis
            direction := if message.direction < 0 then .negative else .positive
            start := message.start })
  | .writeDigitalOutput message =>
      .ok (.writeDigitalOutput, .digitalOutput ⟨message.index, message.value⟩)
  | .loadProgram name => .ok (.loadProgram, .program ⟨name⟩)
  | .startProgram => .ok (.startProgram, .empty)
  | .stopProgram => .ok (.stopProgram, .empty)
  | .notSet => .error ⟨.invalidArgument, "command payload is required", 0⟩

def fromProtoCommand (source : V1.CommandRequest) : StatusOr CommandRequest :=
  if source.timeoutMs < 0 then
    .error ⟨.invalidArgument, "command timeout must not be negative", 0⟩
  else do
    let (type, payload) ← fromProtoPayload source.command
    .ok
      { type := type
        payload := payload
        clientId := source.clientId
        leaseId := source.leaseId
        idempotencyKey := source.idempotencyKey
        timeout := if 0 < source.timeoutMs then source.timeoutMs else 30000 }

end GrpcServer

end RobotManager
