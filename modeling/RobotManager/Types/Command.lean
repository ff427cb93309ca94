import RobotManager.Types.Chrono
import RobotManager.Types.Robot
import RobotManager.Types.Status

/-!
# Commands and command records

The command requests of `types/command.h`, their payloads, and the record the
executor keeps of each accepted command, together with the classification and
comparison functions at the head of `command_executor.cc`.
-/

namespace RobotManager

inductive CommandType where
  | acquireControl
  | releaseControl
  | powerOn
  | powerOff
  | clearFault
  | setGlobalSpeed
  | moveJ
  | moveL
  | moveC
  | hold
  | resume
  | stop
  | jog
  | writeDigitalOutput
  | loadProgram
  | startProgram
  | stopProgram
deriving DecidableEq, Repr

inductive CommandState where
  | queued
  | running
  | succeeded
  | failed
  | cancelled
  | timedOut
  | stopped
deriving DecidableEq, Repr

structure MoveJPayload where
  target : JointTarget := {}
  profile : JointMotionProfile := {}
deriving DecidableEq, Repr

structure MoveLPayload where
  target : CartesianTarget := {}
  profile : CartesianMotionProfile := {}
deriving DecidableEq, Repr

structure MoveCPayload where
  target : CircularTarget := {}
  profile : CartesianMotionProfile := {}
deriving DecidableEq, Repr

structure StopPayload where
  mode : StopMode := .controlled
deriving DecidableEq, Repr

structure SpeedPayload where
  ratio : ℕ := 10
deriving DecidableEq, Repr

structure DigitalOutputPayload where
  index : ℕ := 0
  value : Bool := false
deriving DecidableEq, Repr

structure ProgramPayload where
  name : String := ""
deriving DecidableEq, Repr

/-- The variant `CommandPayload`; `empty` is `std::monostate`. -/
inductive CommandPayload where
  | empty
  | moveJ (payload : MoveJPayload)
  | moveL (payload : MoveLPayload)
  | moveC (payload : MoveCPayload)
  | stop (payload : StopPayload)
  | speed (payload : SpeedPayload)
  | jog (payload : JogCommand)
  | digitalOutput (payload : DigitalOutputPayload)
  | program (payload : ProgramPayload)
deriving DecidableEq, Repr

/-- The index of the alternative a payload holds. -/
def CommandPayload.index : CommandPayload → ℕ
  | .empty => 0
  | .moveJ _ => 1
  | .moveL _ => 2
  | .moveC _ => 3
  | .stop _ => 4
  | .speed _ => 5
  | .jog _ => 6
  | .digitalOutput _ => 7
  | .program _ => 8

structure CommandRequest where
  type : CommandType := .stop
  payload : CommandPayload := .empty
  clientId : String := ""
  leaseId : String := ""
  idempotencyKey : String := ""
  timeout : Milliseconds := 30000
deriving DecidableEq, Repr

structure CommandRecord where
  id : ℕ := 0
  request : CommandRequest := {}
  state : CommandState := .queued
  result : Status := Status.Ok
  createdAt : TimePoint := 0
  updatedAt : TimePoint := 0
deriving DecidableEq, Repr

def isMotionCommand (type : CommandType) : Bool :=
  type == .moveJ || type == .moveL || type == .moveC || type == .startProgram

def canRunDuringMotion (type : CommandType) : Bool :=
  type == .stop || type == .hold || type == .resume || type == .powerOff

def isTerminal (state : CommandState) : Bool :=
  state == .succeeded || state == .failed || state == .cancelled || state == .timedOut ||
    state == .stopped

def idempotencyMapKey (request : CommandRequest) : String :=
  request.clientId ++ "\n" ++ request.idempotencyKey

def posesEqual (left right : CartesianPose) : Bool :=
  decide (left.xMm.Equal right.xMm) && decide (left.yMm.Equal right.yMm) &&
    decide (left.zMm.Equal right.zMm) && decide (left.aDeg.Equal right.aDeg) &&
    decide (left.bDeg.Equal right.bDeg) && decide (left.cDeg.Equal right.cDeg) &&
    left.configuration == right.configuration && left.joint1Turn == right.joint1Turn &&
    left.joint4Turn == right.joint4Turn && left.joint6Turn == right.joint6Turn

/-- `operator==` of two vectors of doubles. -/
def degreesEqual : List Double → List Double → Bool
  | [], [] => true
  | left :: lefts, right :: rights => decide (left.Equal right) && degreesEqual lefts rights
  | _, _ => false

/-- Whether two requests ask for the same thing.  `none` stands for the exception that
`std::get` throws when a payload does not hold the alternative of the request's type. -/
def payloadsEqual (left right : CommandRequest) : Option Bool :=
  if left.type ≠ right.type ∨ left.leaseId ≠ right.leaseId ∨ left.timeout ≠ right.timeout ∨
      left.payload.index ≠ right.payload.index then
    some false
  else if left.payload = .empty then
    some true
  else
    match left.type with
    | .setGlobalSpeed =>
        match left.payload, right.payload with
        | .speed a, .speed b => some (a.ratio == b.ratio)
        | _, _ => none
    | .moveJ =>
        match left.payload, right.payload with
        | .moveJ a, .moveJ b =>
            some (degreesEqual a.target.position.degrees b.target.position.degrees &&
              a.target.toolName == b.target.toolName &&
              a.target.workObjectName == b.target.workObjectName &&
              a.profile.speedPercent == b.profile.speedPercent &&
              decide (a.profile.blend.Equal b.profile.blend))
        | _, _ => none
    | .moveL =>
        match left.payload, right.payload with
        | .moveL a, .moveL b =>
            some (posesEqual a.target.pose b.target.pose &&
              a.target.toolName == b.target.toolName &&
              a.target.workObjectName == b.target.workObjectName &&
              a.profile.speedMmPerSecond == b.profile.speedMmPerSecond &&
              decide (a.profile.blendMm.Equal b.profile.blendMm))
        | _, _ => none
    | .moveC =>
        match left.payload, right.payload with
        | .moveC a, .moveC b =>
            some (posesEqual a.target.via b.target.via &&
              posesEqual a.target.target b.target.target &&
              a.target.toolName == b.target.toolName &&
              a.target.workObjectName == b.target.workObjectName &&
              a.profile.speedMmPerSecond == b.profile.speedMmPerSecond &&
              decide (a.profile.blendMm.Equal b.profile.blendMm))
        | _, _ => none
    | .stop =>
        match left.payload, right.payload with
        | .stop a, .stop b => some (a.mode == b.mode)
        | _, _ => none
    | .jog =>
        match left.payload, right.payload with
        | .jog a, .jog b =>
            some (a.frame == b.frame && a.axis == b.axis && a.direction == b.direction &&
              a.start == b.start)
        | _, _ => none
    | .writeDigitalOutput =>
        match left.payload, right.payload with
        | .digitalOutput a, .digitalOutput b => some (a.index == b.index && a.value == b.value)
        | _, _ => none
    | .loadProgram =>
        match left.payload, right.payload with
        | .program a, .program b => some (a.name == b.name)
        | _, _ => none
    | .acquireControl | .releaseControl | .powerOn | .powerOff | .clearFault | .hold | .resume
    | .startProgram | .stopProgram => some true

end RobotManager
