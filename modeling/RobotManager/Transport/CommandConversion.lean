import RobotManager.Control.RequestEquality
import RobotManager.Transport.RobotControl

/-!
# What a command keeps on its way in

`FromProtoCommand` refuses some messages and reads others as their canonical form: a timeout of
zero stands for the default, and unnamed stop modes and frames stand for named ones.  Up to
that nothing is lost, and every well-typed domain command with a positive timeout is the image
of some message.
-/

namespace RobotManager

namespace V1

def StopMode.canonical : StopMode → StopMode
  | .unspecified | .unrecognized _ => .controlled
  | mode => mode

def JogFrame.canonical : JogFrame → JogFrame
  | .unspecified => .joint
  | frame => frame

/-- The command as the service reads it. -/
def Command.canonical : Command → Command
  | .stop mode => .stop mode.canonical
  | .jog message => .jog { message with frame := message.frame.canonical }
  | command => command

/-- The request as the service reads it. -/
def CommandRequest.canonical (message : CommandRequest) : CommandRequest :=
  { message with
    timeoutMs := if message.timeoutMs = 0 then 30000 else message.timeoutMs
    command := message.command.canonical }

end V1

/-- The payload has the type's own alternative, and a MoveJ has a joint value. -/
def CommandPayload.Expressible : CommandType → CommandPayload → Prop
  | .stop, payload => ∃ stop, payload = .stop stop
  | .moveJ, payload => ∃ motion, payload = .moveJ motion ∧ motion.target.position.degrees ≠ []
  | type, payload => payloadTypeMatches type payload = true

/-- The requests that a remote client can make. -/
def CommandRequest.Expressible (request : CommandRequest) : Prop :=
  0 < request.timeout ∧ request.payload.Expressible request.type

namespace GrpcServer

def toProtoStopMode : StopMode → V1.StopMode
  | .controlled => .controlled
  | .quick => .quick
  | .powerOffRequest => .powerOffRequest

def toProtoJogFrame : JogFrame → V1.JogFrame
  | .joint => .joint
  | .robot => .robot
  | .tool => .tool
  | .user => .user
  | .world => .world

/-- The command of a message for a payload. -/
def toProtoPayload : CommandType → CommandPayload → V1.Command
  | .acquireControl, _ => .acquireControl
  | .releaseControl, _ => .releaseControl
  | .powerOn, _ => .powerOn
  | .powerOff, _ => .powerOff
  | .clearFault, _ => .clearFault
  | .setGlobalSpeed, .speed speed => .setGlobalSpeed speed.ratio
  | .moveJ, .moveJ motion =>
      .moveJ ⟨⟨motion.target.position.degrees⟩, motion.profile.speedPercent,
        motion.profile.blend, motion.target.toolName, motion.target.workObjectName⟩
  | .moveL, .moveL motion =>
      .moveL ⟨populatePose motion.target.pose, motion.profile.speedMmPerSecond,
        motion.profile.blendMm, motion.target.toolName, motion.target.workObjectName⟩
  | .moveC, .moveC motion =>
      .moveC ⟨populatePose motion.target.via, populatePose motion.target.target,
        motion.profile.speedMmPerSecond, motion.profile.blendMm, motion.target.toolName,
        motion.target.workObjectName⟩
  | .hold, _ => .hold
  | .resume, _ => .resume
  | .stop, .stop stop => .stop (toProtoStopMode stop.mode)
  | .jog, .jog jog =>
      .jog ⟨toProtoJogFrame jog.frame, jog.axis,
        match jog.direction with
        | .negative => -1
        | .positive => 1, jog.start⟩
  | .writeDigitalOutput, .digitalOutput output =>
      .writeDigitalOutput ⟨output.index, output.value⟩
  | .loadProgram, .program program => .loadProgram program.name
  | .startProgram, _ => .startProgram
  | .stopProgram, _ => .stopProgram
  | _, _ => .notSet

/-- The message that asks a robot for a command. -/
def toProtoCommand (robotId : String) (request : CommandRequest) : V1.CommandRequest where
  robotId := robotId
  clientId := request.clientId
  leaseId := request.leaseId
  idempotencyKey := request.idempotencyKey
  timeoutMs := request.timeout
  command := toProtoPayload request.type request.payload

/-- A payload that is accepted is expressible, and its message is the canonical form of what was
read. -/
theorem toProtoPayload_of_accepted {command : V1.Command} {type : CommandType}
    {payload : CommandPayload} (accepted : fromProtoPayload command = .ok (type, payload)) :
    payload.Expressible type ∧ toProtoPayload type payload = command.canonical := by
  cases command with
  | notSet => cases accepted
  | moveJ message =>
      simp only [fromProtoPayload] at accepted
      split at accepted
      · cases accepted
      next values =>
      cases accepted
      exact ⟨⟨_, rfl, fun none => values (by simpa using none)⟩, rfl⟩
  | jog message =>
      simp only [fromProtoPayload] at accepted
      split at accepted
      · cases accepted
      next frame =>
      split at accepted
      · cases accepted
      next direction =>
      cases accepted
      refine ⟨rfl, ?_⟩
      rcases message with ⟨frameName, axis, sign, start⟩
      have signed : sign = -1 ∨ sign = 1 := by
        simp only [not_and_or, not_not] at direction
        exact direction
      have named : toProtoJogFrame (toJogFrame frameName) = frameName.canonical := by
        cases frameName with
        | unrecognized value => exact absurd rfl frame
        | _ => rfl
      simp only [toProtoPayload, V1.Command.canonical, named]
      rcases signed with rfl | rfl <;> rfl
  | stop mode =>
      cases accepted
      exact ⟨⟨_, rfl⟩, by cases mode <;> rfl⟩
  | _ =>
      cases accepted
      exact ⟨rfl, rfl⟩

/-- The message of an expressible payload is read back as it. -/
theorem fromProtoPayload_toProtoPayload {type : CommandType} {payload : CommandPayload}
    (expressible : payload.Expressible type) :
    fromProtoPayload (toProtoPayload type payload) = .ok (type, payload) := by
  cases type with
  | stop =>
      rcases expressible with ⟨⟨mode⟩, rfl⟩
      cases mode <;> rfl
  | moveJ =>
      rcases expressible with ⟨motion, rfl, values⟩
      simp only [toProtoPayload, fromProtoPayload]
      rw [if_neg (by simpa using values)]
  | jog =>
      cases payload <;> simp only [CommandPayload.Expressible, payloadTypeMatches,
        Bool.false_eq_true] at expressible
      next jog =>
      rcases jog with ⟨frame, axis, direction, start⟩
      cases frame <;> cases direction <;> rfl
  | _ =>
      cases payload <;> simp only [CommandPayload.Expressible, payloadTypeMatches,
        Bool.false_eq_true] at expressible
      rfl

/-- Reading a command does not depend on which of its names an enumeration value was sent by. -/
theorem fromProtoPayload_canonical (command : V1.Command) :
    fromProtoPayload command.canonical = fromProtoPayload command := by
  cases command with
  | stop mode => cases mode <;> rfl
  | jog message =>
      rcases message with ⟨frame, axis, direction, start⟩
      cases frame <;> rfl
  | _ => rfl

/-- A message is accepted as a request exactly if the request can be expressed at all and the
message is, in its canonical form, the request's own. -/
theorem fromProtoCommand_eq_ok_iff (source : V1.CommandRequest) (request : CommandRequest) :
    fromProtoCommand source = .ok request ↔
      request.Expressible ∧ source.canonical = toProtoCommand source.robotId request := by
  constructor
  · intro accepted
    unfold fromProtoCommand at accepted
    split at accepted
    · cases accepted
    next nonnegative =>
    cases read : fromProtoPayload source.command with
    | error status =>
        rw [read] at accepted
        cases accepted
    | ok result =>
        rw [read] at accepted
        cases accepted
        rcases toProtoPayload_of_accepted read with ⟨expressible, same⟩
        have positive : (0 : ℤ) <
            if 0 < source.timeoutMs then source.timeoutMs else 30000 := by
          split <;> omega
        refine ⟨⟨positive, expressible⟩, ?_⟩
        · simp only [V1.CommandRequest.canonical, toProtoCommand, same]
          congr 1
          split <;> split <;> omega
  · rintro ⟨⟨positive, expressible⟩, same⟩
    rcases source with ⟨robotId, clientId, leaseId, key, timeoutMs, command⟩
    rcases request with ⟨type, payload, client, lease, idempotencyKey, timeout⟩
    simp only [V1.CommandRequest.canonical, toProtoCommand, V1.CommandRequest.mk.injEq] at same
    rcases same with ⟨-, rfl, rfl, rfl, sameTimeout, sameCommand⟩
    have read : fromProtoPayload command = .ok (type, payload) := by
      rw [← fromProtoPayload_canonical, sameCommand]
      exact fromProtoPayload_toProtoPayload expressible
    have positive : (0 : ℤ) < timeout := positive
    simp only [fromProtoCommand, read]
    split at sameTimeout
    · next zero =>
      subst zero
      rw [if_neg (by omega)]
      simp [← sameTimeout]
      rfl
    · next nonzero =>
      subst sameTimeout
      rw [if_neg (by omega), if_pos positive]
      rfl

end GrpcServer

end RobotManager
