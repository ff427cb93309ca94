import RobotManager.Types.Robot
import RobotManager.Types.Status

/-!
# The EFORT SDK as the adapter sees it

The functions of the vendor's SDK that `efort_driver.cc` calls, with what it reads of their
results, and the error mapping of `efort_error_mapper.cc`.  The SDK itself is not part of
the program: its error codes and its answers are parameters.
-/

namespace RobotManager

/-- The constants of the SDK's headers. -/
structure EfortConstants where
  errorOk : ℤ
  errorConnectFailed : ℤ
  errorNoConnection : ℤ
  errorConnectionBroken : ℤ
  errorAccessRejected : ℤ
  errorCurModeNotSupport : ℤ
  errorServoOnFailed : ℤ
  errorPowerOffFailed : ℤ
  errorSetModeFailed : ℤ
  errorSetSpeedRatioFailed : ℤ
  errorStartProgramFailed : ℤ
  errorResetProgramFailed : ℤ
  errorLoadProgramFailed : ℤ
  errorParaInvalid : ℤ
  errorStillRunning : ℤ
  errorSetParaFailed : ℤ
  errorGetParaFailed : ℤ
  errorMoveFailed : ℤ
  errorEnableApiControlFailed : ℤ
  errorThirdOperationTimeOut : ℤ
  errorThirdReceiveNoData : ℤ
  errorThirdReceiveLossData : ℤ
  errorThirdParty : ℤ
  errorRobotNotInPosition : ℤ
  errorTargetInvalid : ℤ
  errorMemoryLack : ℤ
  errorVersionMismatch : ℤ
  maxCharLength : ℕ

namespace EfortConstants

def errorMessage (constants : EfortConstants) (vendorCode : ℤ) : String :=
  if vendorCode = constants.errorOk then "operation succeeded"
  else if vendorCode = constants.errorConnectFailed then "connection failed"
  else if vendorCode = constants.errorNoConnection then "robot is not connected"
  else if vendorCode = constants.errorConnectionBroken then "robot connection was lost"
  else if vendorCode = constants.errorAccessRejected then "controller rejected API access"
  else if vendorCode = constants.errorCurModeNotSupport then
    "controller mode does not support this operation"
  else if vendorCode = constants.errorServoOnFailed then "servo power-on failed"
  else if vendorCode = constants.errorPowerOffFailed then "servo power-off failed"
  else if vendorCode = constants.errorSetModeFailed then "setting controller mode failed"
  else if vendorCode = constants.errorSetSpeedRatioFailed then "setting speed ratio failed"
  else if vendorCode = constants.errorStartProgramFailed then "starting controller program failed"
  else if vendorCode = constants.errorResetProgramFailed then
    "resetting controller program failed"
  else if vendorCode = constants.errorLoadProgramFailed then "loading controller program failed"
  else if vendorCode = constants.errorParaInvalid then "SDK parameter is invalid"
  else if vendorCode = constants.errorStillRunning then "controller is still running"
  else if vendorCode = constants.errorSetParaFailed then "setting controller parameter failed"
  else if vendorCode = constants.errorGetParaFailed then "reading controller parameter failed"
  else if vendorCode = constants.errorMoveFailed then "controller rejected the motion command"
  else if vendorCode = constants.errorEnableApiControlFailed then
    "changing API control state failed"
  else if vendorCode = constants.errorThirdOperationTimeOut then "SDK operation timed out"
  else if vendorCode = constants.errorRobotNotInPosition then
    "robot is not in the requested position"
  else if vendorCode = constants.errorTargetInvalid then "motion target is unreachable"
  else if vendorCode = constants.errorMemoryLack then "SDK reported insufficient memory"
  else if vendorCode = constants.errorVersionMismatch then
    "SDK and controller versions do not match"
  else "EFORT SDK operation failed"

/-- The status code for a vendor code other than `ERROR_OK`. -/
def statusCode (constants : EfortConstants) (vendorCode : ℤ) : StatusCode :=
  if vendorCode ∈ [constants.errorConnectFailed, constants.errorNoConnection,
      constants.errorConnectionBroken, constants.errorThirdReceiveNoData,
      constants.errorThirdReceiveLossData] then .unavailable
  else if vendorCode ∈ [constants.errorAccessRejected, constants.errorEnableApiControlFailed] then
    .permissionDenied
  else if vendorCode ∈ [constants.errorParaInvalid, constants.errorTargetInvalid] then
    .invalidArgument
  else if vendorCode = constants.errorThirdOperationTimeOut then .deadlineExceeded
  else if vendorCode ∈ [constants.errorCurModeNotSupport, constants.errorServoOnFailed,
      constants.errorPowerOffFailed, constants.errorStillRunning,
      constants.errorRobotNotInPosition, constants.errorVersionMismatch] then .failedPrecondition
  else if vendorCode ∈ [constants.errorMoveFailed, constants.errorStartProgramFailed,
      constants.errorResetProgramFailed, constants.errorLoadProgramFailed] then .controllerFault
  else if constants.errorThirdParty ≤ vendorCode then .internal
  else .controllerFault

def mapEfortError (constants : EfortConstants) (vendorCode : ℤ) (operation : String) : Status :=
  if vendorCode = constants.errorOk then Status.Ok
  else ⟨constants.statusCode vendorCode, operation ++ ": " ++ constants.errorMessage vendorCode,
    vendorCode⟩

theorem statusCode_ne_ok (constants : EfortConstants) (vendorCode : ℤ) :
    constants.statusCode vendorCode ≠ .ok := by
  unfold statusCode
  repeat' split
  all_goals simp

/-- Only the vendor's own success code is mapped to success. -/
@[simp]
theorem mapEfortError_ok (constants : EfortConstants) (vendorCode : ℤ) (operation : String) :
    (constants.mapEfortError vendorCode operation).ok =
      decide (vendorCode = constants.errorOk) := by
  unfold mapEfortError
  split
  · next isOk => simp [isOk]
  · next notOk => simp [notOk, statusCode_ne_ok]

end EfortConstants

/-! ### Data of the SDK -/

/-- The values of `RoboxProgramState` that the adapter tells apart. -/
inductive RoboxProgramState where
  | init
  | run
  | pause
  | error
  | other
deriving DecidableEq, Repr

inductive RoboxKeyMode where
  | manual
  | manualFast
  | auto
  | other
deriving DecidableEq, Repr

inductive RoboxJogMode where
  | jog
  | robot
  | tool
  | uframe
  | world
deriving DecidableEq, Repr

/-- `RobotAPI::RobotPos`. -/
structure RobotPos where
  x : Double := .finite 0
  y : Double := .finite 0
  z : Double := .finite 0
  a : Double := .finite 0
  b : Double := .finite 0
  c : Double := .finite 0
  cfgx : ℤ := 0
  cfg1 : ℤ := 0
  cfg4 : ℤ := 0
  cfg6 : ℤ := 0
deriving DecidableEq, Repr

/-- `RobotAPI::PointC`, which is a `RobotPos` whose first configuration is unsigned. -/
structure PointC where
  x : Double := .finite 0
  y : Double := .finite 0
  z : Double := .finite 0
  a : Double := .finite 0
  b : Double := .finite 0
  c : Double := .finite 0
  cfgx : ℕ := 0
  cfg1 : ℤ := 0
  cfg4 : ℤ := 0
  cfg6 : ℤ := 0
deriving DecidableEq, Repr

/-- The fields of `RobotAPI::RunInfo` that the adapter reads; the names are character arrays. -/
structure RunInfo where
  keyMode : RoboxKeyMode := .other
  velocity : ℕ := 0
  tcpSpeed : Double := .finite 0
  programStatus : RoboxProgramState := .init
  toolName : List Char := []
  wobjName : List Char := []
deriving DecidableEq, Repr

/-- `RobotAPI::AlarmData`. -/
structure AlarmData where
  alarmCode : ℤ := 0
  alarmType : ℤ := 0
  alarmTime : List Char := []
  alarmInfo : List Char := []
deriving DecidableEq, Repr

/-- The target of `RobotAPI::CheckTarget`, which is overloaded. -/
inductive CheckedTarget where
  | joints (degrees : List Double)
  | position (position : RobotPos)
deriving DecidableEq, Repr

/-- A call of an SDK function.  Arguments that are the same in every call are left out. -/
inductive SdkCall where
  | connectRobot (address : String) (debugLogging verifyVersion : Bool)
  | disconnectRobot
  | isConnected
  | getCurrentRobotType
  | isApiControl
  | enableApiControl (enabled : Bool)
  | powerOn
  | powerOff
  | getCurrentEmgStatus
  | getCurrentServoStatus
  | getCurrentAlarmStatus
  | clearAlarm
  | setGlobalSpeed (ratio : ℕ)
  | checkTarget (target : CheckedTarget) (toolName workObjectName : String)
  | mjoint (position : List Double) (speedPercent : ℤ) (blend : Double)
  | mlin (position : List Double) (speed : ℤ) (blend : Double)
  | mcirc (via target : PointC) (speed : ℤ) (blend : Double) (toolName workObjectName : String)
  | moveHold
  | moveResume
  | moveClear
  | getCurrentProStatus
  | getMoveState
  | setJogMode (mode : RoboxJogMode)
  /-- `JogNPlus` and `JogNMinus` for the axes N from 1 to 6. -/
  | jog (axis : ℕ) (direction : JogDirection) (start : Bool)
  | loadProgram (name : String)
  | startProgram
  | stopProgram
  | getRobotStatusData
  | getJointPos
  | getBaseCoordinatePos2
  | getAlarmData
  | readDIn (index : ℕ)
  | readDOut (index : ℕ)
  | writeDOut (index : ℕ) (value : Bool)
  | setCurrentToolByName (name : String)
  | setCurrentUframeByName (name : String)
deriving DecidableEq, Repr

/-- What a call returns, with what it writes to its output parameters. -/
structure SdkAnswer where
  code : ℤ
  flag : Bool := false
  deviceId : ℕ := 0
  model : String := ""
  programState : RoboxProgramState := .init
  runInfo : RunInfo := {}
  joints : Fin 6 → Double := fun _ => .finite 0
  position : RobotPos := {}
  alarms : List AlarmData := []

structure SdkExchange where
  device : ℕ
  call : SdkCall
  answer : SdkAnswer

/-- The SDK with the controller behind it: its answer to a call may depend on all earlier ones. -/
structure EfortSdk where
  constants : EfortConstants
  answer : List SdkExchange → ℕ → SdkCall → SdkAnswer

end RobotManager
