import RobotManager.Adapters.EfortSdk
import RobotManager.Control.StateMachine
import RobotManager.Library.Fallible
import RobotManager.Library.NumberText
import RobotManager.Types.Chrono

/-!
# The EFORT adapter

`EfortDriver` of `efort_driver.cc`.  An operation is a program over the driver's fields and
the list of its exchanges with the SDK.  It fails with the status that the source returns
when that is not OK, and what it has done up to there stays done.
-/

namespace RobotManager

def efortAxisCount : ℕ := 6

def efortDigitalIoCount : ℕ := 176

def normalizeModelName (value : String) : List Char :=
  (value.toList.filter Char.isAlphanum).map Char.toUpper

def efortModelMatches (expected actual : String) : Bool :=
  let e := normalizeModelName expected
  let a := normalizeModelName actual
  e.isEmpty || e == a || ("EFORT".toList.isPrefixOf a && a.drop 5 == e)

/-- The decimal numbers without leading zeros that fit into a byte. -/
def isOctet (digits : List Char) : Bool :=
  digits.all Char.isDigit && 0 < digits.length && digits.length ≤ 3 &&
    (digits.length == 1 || digits.head? != some '0') && Nat.ofDigitChars 10 digits 0 ≤ 255

/-- Four octets with dots between them. -/
def isIpv4Address (address : List Char) : Bool :=
  let octets := address.splitOn '.'
  octets.length == 4 && octets.all isOctet

/-- Whether `inet_pton` accepts the C string that it is handed as an IPv4 address. -/
def inetPton (address : String) : Bool :=
  isIpv4Address (NumberText.cString address.toList)

def toEfortPose (pose : CartesianPose) : List Double :=
  [pose.xMm, pose.yMm, pose.zMm, pose.aDeg, pose.bDeg, pose.cDeg]

def toRobotPos (pose : CartesianPose) : RobotPos where
  x := pose.xMm
  y := pose.yMm
  z := pose.zMm
  a := pose.aDeg
  b := pose.bDeg
  c := pose.cDeg
  cfgx := pose.configuration
  cfg1 := pose.joint1Turn
  cfg4 := pose.joint4Turn
  cfg6 := pose.joint6Turn

def toPointC (pose : CartesianPose) : PointC where
  x := pose.xMm
  y := pose.yMm
  z := pose.zMm
  a := pose.aDeg
  b := pose.bDeg
  c := pose.cDeg
  cfgx := pose.configuration.toNat
  cfg1 := pose.joint1Turn
  cfg4 := pose.joint4Turn
  cfg6 := pose.joint6Turn

/-- The characters before the first null character. -/
def safeString (value : List Char) (maximumLength : ℕ) : String :=
  String.ofList ((value.take maximumLength).takeWhile (· ≠ '\x00'))

def toControllerMode : RoboxKeyMode → ControllerMode
  | .manual => .manual
  | .manualFast => .manualFast
  | .auto => .automatic
  | .other => .unknown

def toEfortJogMode : JogFrame → RoboxJogMode
  | .joint => .jog
  | .robot => .robot
  | .tool => .tool
  | .user => .uframe
  | .world => .world

structure EfortDriver where
  deviceId : ℕ := 0
  connected : Bool := false
  pausedByService : Bool := false
  hasActiveJog : Bool := false
  expectedModel : String := ""
  activeJog : JogCommand := {}
  controllerModel : String := ""
deriving DecidableEq, Repr

/-- The driver with its exchanges with the SDK, the latest first. -/
structure EfortSession where
  driver : EfortDriver := {}
  exchanges : List SdkExchange := []

abbrev EfortProgram := EStateM Status EfortSession

namespace EfortDriver

/-! ### Steps of the operations -/

def current : EfortProgram EfortDriver := fun session => .ok session.driver session

def change (update : EfortDriver → EfortDriver) : EfortProgram Unit :=
  fun session => .ok () { session with driver := update session.driver }

variable (sdk : EfortSdk)

/-- Call an SDK function on the driver's device. -/
def invoke (call : SdkCall) : EfortProgram SdkAnswer := fun session =>
  let answer := sdk.answer session.exchanges session.driver.deviceId call
  .ok answer { session with
    exchanges := ⟨session.driver.deviceId, call, answer⟩ :: session.exchanges }

/-- Go on exactly if the vendor's code is mapped to an OK status. -/
def settle (code : ℤ) (operation : String) : EfortProgram Unit :=
  let status := sdk.constants.mapEfortError code operation
  if status.ok then pure () else throw status

/-- Call an SDK function that returns an error code, and go on if it succeeded. -/
def query (operation : String) (call : SdkCall) : EfortProgram SdkAnswer := do
  let answer ← invoke sdk call
  settle sdk answer.code operation
  pure answer

/-- `query` for a function without results. -/
def order (operation : String) (call : SdkCall) : EfortProgram Unit := do
  let _ ← query sdk operation call
  pure ()

def onlyIf (condition : Bool) (program : EfortProgram Unit) : EfortProgram Unit :=
  if condition then program else pure ()

/-! ### Private functions -/

def selectFrames (toolName workObjectName : String) : EfortProgram Unit := do
  order sdk "SetCurrentToolByName" (.setCurrentToolByName toolName)
  order sdk "SetCurrentUframeByName" (.setCurrentUframeByName workObjectName)

/-- The code of the SDK function for the jog's axis and direction. -/
def invokeJog (command : JogCommand) (start : Bool) : EfortProgram ℤ :=
  if 1 ≤ command.axis ∧ command.axis ≤ 6 then do
    let answer ← invoke sdk (.jog command.axis command.direction start)
    pure answer.code
  else pure sdk.constants.errorParaInvalid

def callJog (command : JogCommand) (start : Bool) : EfortProgram Unit := do
  let code ← invokeJog sdk command start
  change fun driver =>
    if !start && driver.hasActiveJog && driver.activeJog.axis == command.axis &&
        driver.activeJog.direction == command.direction then
      { driver with hasActiveJog := false }
    else driver
  settle sdk code (if start then "Jog(start)" else "Jog(stop)")

def stopActiveJog : EfortProgram Unit := do
  let driver ← current
  if !driver.hasActiveJog then pure ()
  else do
    callJog sdk driver.activeJog false
    change fun driver => { driver with hasActiveJog := false }

/-! ### Connection -/

def disconnect : EfortProgram Unit := do
  let driver ← current
  if !driver.connected then pure ()
  else do
    Fallible.attempt (stopActiveJog sdk)
    let control ← invoke sdk .isApiControl
    onlyIf control.flag do
      let _ ← invoke sdk (.enableApiControl false)
      pure ()
    let _ ← invoke sdk .disconnectRobot
    change fun driver => { driver with
      deviceId := 0
      connected := false
      pausedByService := false
      hasActiveJog := false
      controllerModel := "" }

/-- The check of the controller's model at the end of `Connect`. -/
def checkModel (options : ConnectionOptions) : EfortProgram Unit := do
  let answer ← invoke sdk .getCurrentRobotType
  let status := sdk.constants.mapEfortError answer.code "GetCurrentRobotType"
  if !status.ok then do
    disconnect sdk
    throw status
  else if !efortModelMatches options.expectedModel answer.model then do
    disconnect sdk
    throw ⟨.failedPrecondition, "configured model " ++ options.expectedModel ++
      " does not match controller model " ++ answer.model, 0⟩
  else change fun driver => { driver with controllerModel := answer.model }

def connect (options : ConnectionOptions) : EfortProgram Unit := do
  let driver ← current
  if driver.connected then
    throw ⟨.alreadyExists, "EFORT driver is already connected", 0⟩
  else if options.address = "" then
    throw ⟨.invalidArgument, "robot address is required", 0⟩
  else if options.expectedAxisCount ≠ 0 ∧ options.expectedAxisCount ≠ efortAxisCount then
    throw ⟨.invalidArgument, "EFORT adapter requires an axis count of six", 0⟩
  else if !inetPton options.address then
    throw ⟨.invalidArgument, "EFORT robot address must be an IPv4 address", 0⟩
  else do
    let answer ← query sdk "ConnectRobot"
      (.connectRobot options.address options.sdkDebugLogging options.verifySdkVersion)
    change fun driver => { driver with
      deviceId := answer.deviceId
      expectedModel := options.expectedModel
      connected := true }
    checkModel sdk options

/-! ### Operations -/

def acquireControl : EfortProgram Unit :=
  order sdk "EnableApiControl(true)" (.enableApiControl true)

def releaseControl : EfortProgram Unit :=
  order sdk "EnableApiControl(false)" (.enableApiControl false)

def powerOn : EfortProgram Unit := order sdk "PowerOn" .powerOn

/-- The service no longer pauses the robot. -/
def forgetPause : EfortProgram Unit :=
  change fun driver => { driver with pausedByService := false }

def powerOff : EfortProgram Unit := do
  stopActiveJog sdk
  forgetPause
  order sdk "PowerOff" .powerOff

def clearFault : EfortProgram Unit := do
  let answer ← query sdk "GetCurrentEmgStatus" .getCurrentEmgStatus
  if answer.flag then
    throw ⟨.failedPrecondition, "cannot clear alarms while emergency stop is active", 0⟩
  else order sdk "ClearAlarm" .clearAlarm

def setGlobalSpeed (ratio : ℕ) : EfortProgram Unit :=
  if ratio < 1 ∨ 100 < ratio then
    throw ⟨.invalidArgument, "speed ratio must be in [1, 100]", 0⟩
  else order sdk "SetGlobalSpeed" (.setGlobalSpeed ratio)

def moveJ (target : JointTarget) (profile : JointMotionProfile) : EfortProgram Unit :=
  if target.position.degrees.length ≠ efortAxisCount then
    throw ⟨.invalidArgument, "EFORT MoveJ requires six joint values", 0⟩
  else do
    order sdk "CheckTarget(MoveJ)"
      (.checkTarget (.joints target.position.degrees) target.toolName target.workObjectName)
    forgetPause
    order sdk "MJOINT" (.mjoint target.position.degrees profile.speedPercent profile.blend)

def moveL (target : CartesianTarget) (profile : CartesianMotionProfile) : EfortProgram Unit := do
  selectFrames sdk target.toolName target.workObjectName
  order sdk "CheckTarget(MoveL)" (.checkTarget (.position (toRobotPos target.pose))
    target.toolName target.workObjectName)
  forgetPause
  order sdk "MLIN" (.mlin (toEfortPose target.pose) profile.speedMmPerSecond profile.blendMm)

def moveC (target : CircularTarget) (profile : CartesianMotionProfile) : EfortProgram Unit := do
  selectFrames sdk target.toolName target.workObjectName
  order sdk "CheckTarget(MoveC via)" (.checkTarget (.position (toRobotPos target.via))
    target.toolName target.workObjectName)
  order sdk "CheckTarget(MoveC target)" (.checkTarget (.position (toRobotPos target.target))
    target.toolName target.workObjectName)
  forgetPause
  order sdk "MCIRC" (.mcirc (toPointC target.via) (toPointC target.target)
    profile.speedMmPerSecond profile.blendMm target.toolName target.workObjectName)

def hold : EfortProgram Unit := do
  order sdk "MOVEHOLD" .moveHold
  change fun driver => { driver with pausedByService := true }

def resume : EfortProgram Unit := do
  order sdk "MOVERESUME" .moveResume
  forgetPause

/-- The part of `Stop` that stops the program and the motion. -/
def stopMotion : EfortProgram Unit := do
  let program ← query sdk "GetCurrentProStatus(stop)" .getCurrentProStatus
  onlyIf (program.programState == .run || program.programState == .pause)
    (order sdk "StopProgram" .stopProgram)
  let move ← query sdk "GetMoveState(stop)" .getMoveState
  onlyIf move.flag (order sdk "MOVEHOLD" .moveHold)
  order sdk "MOVECLEAR" .moveClear

def stop (mode : StopMode) : EfortProgram Unit :=
  if mode = .quick then
    throw ⟨.failedPrecondition, "EFORT SDK V2.8 has no distinct quick-stop API", 0⟩
  else do
    stopActiveJog sdk
    forgetPause
    if mode = .powerOffRequest then powerOff sdk else stopMotion sdk

def jog (command : JogCommand) : EfortProgram Unit := do
  let driver ← current
  if command.axis < 1 ∨ efortAxisCount < command.axis then
    throw ⟨.invalidArgument, "jog axis must be in [1, 6]", 0⟩
  else if !command.start then stopActiveJog sdk
  else if driver.hasActiveJog && driver.activeJog.frame == command.frame &&
      driver.activeJog.axis == command.axis &&
      driver.activeJog.direction == command.direction then pure ()
  else do
    stopActiveJog sdk
    order sdk "SetJogMode" (.setJogMode (toEfortJogMode command.frame))
    callJog sdk command true
    change fun driver => { driver with activeJog := command, hasActiveJog := true }

def loadProgram (name : String) : EfortProgram Unit :=
  if name = "" then throw ⟨.invalidArgument, "program name is required", 0⟩
  else order sdk "LoadProgram" (.loadProgram name)

def startProgram : EfortProgram Unit := do
  forgetPause
  order sdk "StartProgram" .startProgram

def stopProgram : EfortProgram Unit := do
  order sdk "StopProgram" .stopProgram
  forgetPause

/-- The part of `ReadState` for a connected controller. -/
def readConnected (now : TimePoint) : EfortProgram RobotSnapshot := do
  let run ← query sdk "GetRobotStatusData" .getRobotStatusData
  let control ← invoke sdk .isApiControl
  let driver ← current
  let servo ← query sdk "GetCurrentServoStatus" .getCurrentServoStatus
  let emergency ← query sdk "GetCurrentEmgStatus" .getCurrentEmgStatus
  let alarm ← query sdk "GetCurrentAlarmStatus" .getCurrentAlarmStatus
  let move ← query sdk "GetMoveState" .getMoveState
  let joints ← query sdk "GetJointPos" .getJointPos
  let pose ← query sdk "GetBaseCoordinatePos2" .getBaseCoordinatePos2
  let snapshot : RobotSnapshot :=
    { observedAt := now
      connected := true
      apiControl := control.flag
      controllerMode := toControllerMode run.runInfo.keyMode
      speedRatio := run.runInfo.velocity
      tcpSpeedMmPerSecond := run.runInfo.tcpSpeed
      programRunning := run.runInfo.programStatus == .run
      activeTool := safeString run.runInfo.toolName sdk.constants.maxCharLength
      activeWorkObject := safeString run.runInfo.wobjName sdk.constants.maxCharLength
      controllerModel := driver.controllerModel
      servoOn := servo.flag
      emergencyStop := emergency.flag
      alarmActive := alarm.flag || run.runInfo.programStatus == .error
      moving := move.flag
      paused := driver.pausedByService || run.runInfo.programStatus == .pause
      axisCount := efortAxisCount
      joints := ⟨List.ofFn joints.joints⟩
      tcpPose := ⟨pose.position.x, pose.position.y, pose.position.z, pose.position.a,
        pose.position.b, pose.position.c, pose.position.cfgx, pose.position.cfg1,
        pose.position.cfg4, pose.position.cfg6⟩ }
  pure { snapshot with lifecycle := deriveLifecycleState snapshot }

def isConnected : EfortProgram Bool := do
  let driver ← current
  if driver.connected then do
    let answer ← invoke sdk .isConnected
    pure answer.flag
  else pure false

def readState (now : TimePoint) : EfortProgram RobotSnapshot := do
  let connected ← isConnected sdk
  if connected then readConnected sdk now
  else pure { observedAt := now, connected := false, lifecycle := .disconnected }

def readAlarms : EfortProgram (List Alarm) := do
  let answer ← query sdk "GetAlarmData" .getAlarmData
  pure <| answer.alarms.map fun alarm =>
    { code := alarm.alarmCode
      severity := alarm.alarmType
      occurredAt := safeString alarm.alarmTime sdk.constants.maxCharLength
      message := safeString alarm.alarmInfo sdk.constants.maxCharLength }

/-- An access to a digital channel, whose kind the error text names. -/
def accessDigital (kind : String) (index : ℕ) (operation : String) (call : SdkCall) :
    EfortProgram SdkAnswer :=
  if efortDigitalIoCount ≤ index then
    throw ⟨.invalidArgument, "digital " ++ kind ++ " index must be in [0, 175]", 0⟩
  else query sdk operation call

def readDigitalInput (index : ℕ) : EfortProgram Bool := do
  let answer ← accessDigital sdk "input" index "ReadDIn" (.readDIn index)
  pure answer.flag

def readDigitalOutput (index : ℕ) : EfortProgram Bool := do
  let answer ← accessDigital sdk "output" index "ReadDOut" (.readDOut index)
  pure answer.flag

def writeDigitalOutput (index : ℕ) (value : Bool) : EfortProgram Unit := do
  let _ ← accessDigital sdk "output" index "WriteDOut" (.writeDOut index value)
  pure ()

end EfortDriver

/-! ### Runs of the adapter -/

/-- The operations of `IRobotDriver`; reading the state takes the time of the clock. -/
inductive EfortOperation where
  | connect (options : ConnectionOptions)
  | disconnect
  | acquireControl
  | releaseControl
  | powerOn
  | powerOff
  | clearFault
  | setGlobalSpeed (ratio : ℕ)
  | moveJ (target : JointTarget) (profile : JointMotionProfile)
  | moveL (target : CartesianTarget) (profile : CartesianMotionProfile)
  | moveC (target : CircularTarget) (profile : CartesianMotionProfile)
  | hold
  | resume
  | stop (mode : StopMode)
  | jog (command : JogCommand)
  | loadProgram (name : String)
  | startProgram
  | stopProgram
  | readState (now : TimePoint)
  | readAlarms
  | readDigitalInput (index : ℕ)
  | readDigitalOutput (index : ℕ)
  | writeDigitalOutput (index : ℕ) (value : Bool)
deriving DecidableEq, Repr

/-- What a successful operation returns. -/
inductive EfortReply where
  | done
  | state (snapshot : RobotSnapshot)
  | alarms (alarms : List Alarm)
  | level (value : Bool)

namespace EfortDriver

/-- Run an operation for its reply. -/
def reply {Value : Type} (program : EfortProgram Value) (make : Value → EfortReply) :
    EfortProgram EfortReply := do
  let value ← program
  pure (make value)

def perform (sdk : EfortSdk) : EfortOperation → EfortProgram EfortReply
  | .connect options => reply (connect sdk options) fun _ => .done
  | .disconnect => reply (disconnect sdk) fun _ => .done
  | .acquireControl => reply (acquireControl sdk) fun _ => .done
  | .releaseControl => reply (releaseControl sdk) fun _ => .done
  | .powerOn => reply (powerOn sdk) fun _ => .done
  | .powerOff => reply (powerOff sdk) fun _ => .done
  | .clearFault => reply (clearFault sdk) fun _ => .done
  | .setGlobalSpeed ratio => reply (setGlobalSpeed sdk ratio) fun _ => .done
  | .moveJ target profile => reply (moveJ sdk target profile) fun _ => .done
  | .moveL target profile => reply (moveL sdk target profile) fun _ => .done
  | .moveC target profile => reply (moveC sdk target profile) fun _ => .done
  | .hold => reply (hold sdk) fun _ => .done
  | .resume => reply (resume sdk) fun _ => .done
  | .stop mode => reply (stop sdk mode) fun _ => .done
  | .jog command => reply (jog sdk command) fun _ => .done
  | .loadProgram name => reply (loadProgram sdk name) fun _ => .done
  | .startProgram => reply (startProgram sdk) fun _ => .done
  | .stopProgram => reply (stopProgram sdk) fun _ => .done
  | .readState now => reply (readState sdk now) .state
  | .readAlarms => reply (readAlarms sdk) .alarms
  | .readDigitalInput index => reply (readDigitalInput sdk index) .level
  | .readDigitalOutput index => reply (readDigitalOutput sdk index) .level
  | .writeDigitalOutput index value => reply (writeDigitalOutput sdk index value) fun _ => .done

end EfortDriver

namespace EfortSession

/-- The session after an operation, whether it failed or not. -/
def after (sdk : EfortSdk) (session : EfortSession) (operation : EfortOperation) : EfortSession :=
  Fallible.finalState (EfortDriver.perform sdk operation) session

/-- Whether an operation succeeds. -/
def succeeds (sdk : EfortSdk) (session : EfortSession) (operation : EfortOperation) : Bool :=
  Fallible.succeeds (EfortDriver.perform sdk operation) session

/-- The session after a list of operations, the latest first. -/
def afterAll (sdk : EfortSdk) (start : EfortSession) : List EfortOperation → EfortSession
  | [] => start
  | operation :: earlier => (start.afterAll sdk earlier).after sdk operation

end EfortSession

end RobotManager
