import RobotManager.Adapters.EfortOrders

/-!
# Readings of the controller

`ReadState` asks a connected controller for its state in nine calls, one directly after the other.
A snapshot that it returns is what the answers to these calls say, but for two fields that the
driver keeps: the model, which the controller was asked for when it was connected, and a pause that
the service has ordered itself.
-/

namespace RobotManager

open Fallible

/-- What a snapshot says about the robot, without its number, its time and the lifecycle, which is
derived from the rest. -/
def RobotSnapshot.data (snapshot : RobotSnapshot) : RobotSnapshot :=
  { snapshot with sequence := 0, observedAt := 0, lifecycle := .unknown }

/-- The answers that a complete reading consists of. -/
structure EfortReading where
  device : ℕ
  link : SdkAnswer
  status : SdkAnswer
  control : SdkAnswer
  servo : SdkAnswer
  emergency : SdkAnswer
  alarm : SdkAnswer
  motion : SdkAnswer
  joints : SdkAnswer
  pose : SdkAnswer

namespace EfortReading

/-- The exchanges of a reading, the latest first. -/
def exchanges (reading : EfortReading) : List SdkExchange :=
  [⟨reading.device, .getBaseCoordinatePos2, reading.pose⟩,
    ⟨reading.device, .getJointPos, reading.joints⟩,
    ⟨reading.device, .getMoveState, reading.motion⟩,
    ⟨reading.device, .getCurrentAlarmStatus, reading.alarm⟩,
    ⟨reading.device, .getCurrentEmgStatus, reading.emergency⟩,
    ⟨reading.device, .getCurrentServoStatus, reading.servo⟩,
    ⟨reading.device, .isApiControl, reading.control⟩,
    ⟨reading.device, .getRobotStatusData, reading.status⟩,
    ⟨reading.device, .isConnected, reading.link⟩]

/-- The controller is connected, and every call that returns a code has succeeded. -/
structure Complete (errorOk : ℤ) (reading : EfortReading) : Prop where
  link : reading.link.flag = true
  codes : ∀ answer ∈ [reading.status, reading.servo, reading.emergency, reading.alarm,
    reading.motion, reading.joints, reading.pose], answer.code = errorOk

/-- What the answers say about the robot.  The driver adds a pause that it has ordered itself, and
the model it has asked for when it was connected. -/
def data (constants : EfortConstants) (driver : EfortDriver) (reading : EfortReading) :
    RobotSnapshot where
  connected := true
  apiControl := reading.control.flag
  controllerMode := toControllerMode reading.status.runInfo.keyMode
  speedRatio := reading.status.runInfo.velocity
  tcpSpeedMmPerSecond := reading.status.runInfo.tcpSpeed
  programRunning := reading.status.runInfo.programStatus == .run
  activeTool := safeString reading.status.runInfo.toolName constants.maxCharLength
  activeWorkObject := safeString reading.status.runInfo.wobjName constants.maxCharLength
  controllerModel := driver.controllerModel
  servoOn := reading.servo.flag
  emergencyStop := reading.emergency.flag
  alarmActive := reading.alarm.flag || reading.status.runInfo.programStatus == .error
  moving := reading.motion.flag
  paused := driver.pausedByService || reading.status.runInfo.programStatus == .pause
  axisCount := efortAxisCount
  joints := ⟨List.ofFn reading.joints.joints⟩
  tcpPose :=
    { xMm := reading.pose.position.x
      yMm := reading.pose.position.y
      zMm := reading.pose.position.z
      aDeg := reading.pose.position.a
      bDeg := reading.pose.position.b
      cDeg := reading.pose.position.c
      configuration := reading.pose.position.cfgx
      joint1Turn := reading.pose.position.cfg1
      joint4Turn := reading.pose.position.cfg4
      joint6Turn := reading.pose.position.cfg6 }

end EfortReading

/-- A snapshot shows what a reading in the session `before` has left in the log: a complete reading,
or one that has found the controller no longer connected. -/
inductive RobotSnapshot.Measured (constants : EfortConstants) (snapshot : RobotSnapshot)
    (before : EfortSession) (log : List SdkExchange) : Prop where
  | complete (reading : EfortReading) (complete : reading.Complete constants.errorOk)
      (addressed : reading.device = before.driver.deviceId)
      (asked : log = reading.exchanges ++ before.exchanges)
      (shows : snapshot.data = reading.data constants before.driver)
  | unconnected (link : SdkAnswer) (gone : link.flag = false)
      (asked : log = ⟨before.driver.deviceId, .isConnected, link⟩ :: before.exchanges)
      (shows : snapshot.data = {})

/-- Numbering a snapshot and deriving its lifecycle does not change what it says. -/
theorem RobotSnapshot.Measured.congr {constants : EfortConstants}
    {snapshot other : RobotSnapshot} {before : EfortSession} {log : List SdkExchange}
    (measured : snapshot.Measured constants before log) (same : other.data = snapshot.data) :
    other.Measured constants before log := by
  cases measured with
  | complete reading complete addressed asked shows =>
      exact .complete reading complete addressed asked (same.trans shows)
  | unconnected link gone asked shows => exact .unconnected link gone asked (same.trans shows)

/-- The model that the controller has answered when it was last asked. -/
def modelAnswered : List SdkExchange → String
  | [] => ""
  | exchange :: earlier =>
      if exchange.call = .getCurrentRobotType then exchange.answer.model else modelAnswered earlier

/-- The driver has the model that the controller has answered. -/
def EfortSession.Modelled (session : EfortSession) : Prop :=
  session.driver.controllerModel = modelAnswered session.exchanges

namespace EfortDriver

variable (sdk : EfortSdk)

/-- The driver and the exchanges of a session. -/
def At (driver : EfortDriver) (log : List SdkExchange) (session : EfortSession) : Prop :=
  session.driver = driver ∧ session.exchanges = log

section Steps

variable {driver : EfortDriver} {log : List SdkExchange}

theorem invoke_at (call : SdkCall) {failed : Status → EfortSession → Prop} :
    Triple (At driver log) (invoke sdk call)
      (fun answer => At driver (⟨driver.deviceId, call, answer⟩ :: log)) failed := by
  rintro session ⟨rfl, rfl⟩
  exact ⟨rfl, rfl⟩

theorem query_at (operation : String) (call : SdkCall) :
    Triple (At driver log) (query sdk operation call)
      (fun answer session => answer.code = sdk.constants.errorOk ∧
        At driver (⟨driver.deviceId, call, answer⟩ :: log) session) fun _ _ => True := by
  refine triple_answered ?_ fun _ _ _ _ => trivial
  rintro session answer ⟨rfl, rfl⟩ isOk
  exact ⟨isOk, rfl, rfl⟩

theorem current_at {failed : Status → EfortSession → Prop} :
    Triple (At driver log) current
      (fun found session => found = driver ∧ At driver log session) failed :=
  fun _ held => ⟨held.1, held⟩

end Steps

/-- The part of `ReadState` for a connected controller returns what its answers say. -/
theorem readConnected_measured (before : EfortSession) (link : SdkAnswer)
    (linked : link.flag = true) (now : TimePoint) :
    Triple (At before.driver (⟨before.driver.deviceId, .isConnected, link⟩ :: before.exchanges))
      (readConnected sdk now)
      (fun snapshot session => snapshot.Measured sdk.constants before session.exchanges)
      fun _ _ => True := by
  apply Triple.bind (query_at sdk _ _)
  refine fun status => Triple.assuming fun statusOk => ?_
  apply Triple.bind (invoke_at sdk _)
  intro control
  apply Triple.bind current_at
  refine fun found => Triple.assuming fun same => ?_
  apply Triple.bind (query_at sdk _ _)
  refine fun servo => Triple.assuming fun servoOk => ?_
  apply Triple.bind (query_at sdk _ _)
  refine fun emergency => Triple.assuming fun emergencyOk => ?_
  apply Triple.bind (query_at sdk _ _)
  refine fun alarm => Triple.assuming fun alarmOk => ?_
  apply Triple.bind (query_at sdk _ _)
  refine fun motion => Triple.assuming fun motionOk => ?_
  apply Triple.bind (query_at sdk _ _)
  refine fun joints => Triple.assuming fun jointsOk => ?_
  apply Triple.bind (query_at sdk _ _)
  refine fun pose => Triple.assuming fun poseOk => ?_
  let reading : EfortReading :=
    { device := before.driver.deviceId
      link := link
      status := status
      control := control
      servo := servo
      emergency := emergency
      alarm := alarm
      motion := motion
      joints := joints
      pose := pose }
  have complete : reading.Complete sdk.constants.errorOk :=
    ⟨linked, by simp [reading, statusOk, servoOk, emergencyOk, alarmOk, motionOk, jointsOk, poseOk]⟩
  refine Triple.pure fun session held => ?_
  subst same
  exact .complete reading complete rfl held.2 rfl

/-- A state that `ReadState` returns on a connection is what the controller has just answered. -/
theorem readState_measured (before : EfortSession) (connected : before.driver.connected = true)
    (now : TimePoint) :
    Triple (· = before) (readState sdk now)
      (fun snapshot session => snapshot.Measured sdk.constants before session.exchanges)
      fun _ _ => True := by
  have asks : Triple (At before.driver before.exchanges) (isConnected sdk)
      (fun flag after => ∃ link, link.flag = flag ∧
        At before.driver (⟨before.driver.deviceId, .isConnected, link⟩ :: before.exchanges) after)
      fun _ _ => True := by
    apply Triple.bind current_at
    refine fun found => Triple.assuming fun same => ?_
    subst same
    refine Triple.ite (fun _ => ?_) fun unconnected => absurd connected unconnected
    apply Triple.bind (invoke_at sdk _)
    exact fun link => Triple.pure fun after held => ⟨link, rfl, held⟩
  have reads : Triple (At before.driver before.exchanges) (readState sdk now)
      (fun snapshot after => snapshot.Measured sdk.constants before after.exchanges)
      fun _ _ => True := by
    apply Triple.bind asks
    intro flag
    apply Triple.ite
    · rintro linked after ⟨link, same, held⟩
      exact readConnected_measured sdk before link (same.trans linked) now after held
    · intro gone
      have gone : flag = false := by simpa using gone
      apply Triple.pure
      rintro after ⟨link, same, held⟩
      exact .unconnected link (same.trans gone) held.2 rfl
  rintro session rfl
  exact reads session ⟨rfl, rfl⟩

/-! ### The model of the controller -/

/-- Only `Connect` asks for the model, and keeps the answer. -/
theorem upheld_modelled : Upheld EfortSession.Modelled (· ≠ .getCurrentRobotType) := by
  constructor
  · intro session call answer other modelled
    exact modelled.trans (if_neg other).symm
  · exact fun session driver _ _ sameModel modelled => sameModel.trans modelled

theorem connect_modelled (options : ConnectionOptions) (start : EfortSession → Prop) :
    Triple start (connect sdk options) (fun _ => EfortSession.Modelled) fun _ _ => True := by
  have names : Triple (fun _ => True) (invoke sdk .getCurrentRobotType)
      (fun answer session => modelAnswered session.exchanges = answer.model) fun _ _ => True :=
    fun _ _ => rfl
  refine triple_connect (fun _ _ _ _ _ => trivial) Triple.trivial (fun _ => Triple.trivial) ?_
  exact triple_checkModel names (fun _ _ => triple_close _) (fun _ _ _ => triple_close _)
    fun _ _ _ asked => asked.symm

end EfortDriver

end RobotManager
