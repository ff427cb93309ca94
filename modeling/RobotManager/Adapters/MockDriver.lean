import RobotManager.Control.StateMachine
import RobotManager.Types.Chrono
import RobotManager.Types.Status

/-!
# The mock driver

`MockDriver` of `mock_driver.cc`, the deterministic stand-in for a controller.  Its operations take
the time of the steady clock where they read it.
-/

namespace RobotManager

structure MockDriver where
  motionDuration : Milliseconds := 150
  motionEndsAt : TimePoint := 0
  state : RobotSnapshot := {}
  programLoaded : Bool := false
  programRunning : Bool := false
  jogActive : Bool := false
  digitalInputs : List Bool
  digitalOutputs : List Bool

namespace MockDriver

def mockDigitalIoCount : ℕ := 176

/-- The constructor. -/
def create (motionDuration : Milliseconds) : MockDriver where
  motionDuration := motionDuration
  digitalInputs := List.replicate mockDigitalIoCount false
  digitalOutputs := List.replicate mockDigitalIoCount false

/-! ### Private helpers -/

def checkReadyLocked (driver : MockDriver) : Status :=
  if !driver.state.connected || !driver.state.apiControl || !driver.state.servoOn ||
      driver.state.emergencyStop || driver.state.alarmActive || driver.state.moving ||
      driver.state.paused then
    ⟨.failedPrecondition, "mock robot is not ready for motion", 0⟩
  else Status.Ok

def beginMotionLocked (driver : MockDriver) (now : TimePoint) : MockDriver :=
  { driver with
    state := { driver.state with moving := true, paused := false }
    jogActive := false
    motionEndsAt := now.addMs driver.motionDuration }

def refreshMotionLocked (driver : MockDriver) (now : TimePoint) : MockDriver :=
  if driver.state.moving && !driver.jogActive && decide (driver.motionEndsAt ≤ now) then
    if driver.programRunning then
      { driver with
        state := { driver.state with moving := false, programRunning := false }
        programRunning := false }
    else { driver with state := { driver.state with moving := false } }
  else driver

/-! ### Connection and power -/

def connect (driver : MockDriver) (options : ConnectionOptions) (now : TimePoint) :
    Status × MockDriver :=
  if driver.state.connected then
    (⟨.alreadyExists, "mock robot is already connected", 0⟩, driver)
  else if options.address = "" then
    (⟨.invalidArgument, "robot address is required", 0⟩, driver)
  else
    let axisCount := if options.expectedAxisCount = 0 then 6 else options.expectedAxisCount
    let state := { driver.state with
      connected := true
      controllerModel := if options.expectedModel = "" then "mock" else options.expectedModel
      axisCount := axisCount
      joints := ⟨driver.state.joints.degrees.takeD axisCount (.finite 0)⟩
      controllerMode := .automatic
      speedRatio := 10
      activeTool := "tool0"
      activeWorkObject := "wobj0"
      observedAt := now }
    (Status.Ok, { driver with state := { state with lifecycle := deriveLifecycleState state } })

def disconnect (driver : MockDriver) : Status × MockDriver :=
  (Status.Ok, { driver with
    state := {}, programLoaded := false, programRunning := false, jogActive := false })

def acquireControl (driver : MockDriver) : Status × MockDriver :=
  if !driver.state.connected then
    (⟨.failedPrecondition, "mock robot is not connected", 0⟩, driver)
  else (Status.Ok, { driver with state := { driver.state with apiControl := true } })

def releaseControl (driver : MockDriver) : Status × MockDriver :=
  (Status.Ok, { driver with state := { driver.state with apiControl := false } })

def powerOn (driver : MockDriver) : Status × MockDriver :=
  if !driver.state.connected || !driver.state.apiControl || driver.state.emergencyStop ||
      driver.state.alarmActive then
    (⟨.failedPrecondition, "mock power-on preconditions are not satisfied", 0⟩, driver)
  else (Status.Ok, { driver with state := { driver.state with servoOn := true } })

def powerOff (driver : MockDriver) : Status × MockDriver :=
  (Status.Ok, { driver with
    state := { driver.state with
      moving := false, paused := false, servoOn := false, programRunning := false }
    programRunning := false
    jogActive := false })

def clearFault (driver : MockDriver) : Status × MockDriver :=
  if driver.state.emergencyStop then
    (⟨.failedPrecondition, "emergency stop is still active", 0⟩, driver)
  else (Status.Ok, { driver with state := { driver.state with alarmActive := false } })

def setGlobalSpeed (driver : MockDriver) (ratio : ℕ) : Status × MockDriver :=
  if ratio < 1 ∨ 100 < ratio then
    (⟨.invalidArgument, "speed ratio must be in [1, 100]", 0⟩, driver)
  else (Status.Ok, { driver with state := { driver.state with speedRatio := ratio } })

/-! ### Motion -/

def moveJ (driver : MockDriver) (target : JointTarget) (profile : JointMotionProfile)
    (now : TimePoint) : Status × MockDriver :=
  if !driver.checkReadyLocked.ok then (driver.checkReadyLocked, driver)
  else if profile.speedPercent < 1 ∨ 100 < profile.speedPercent then
    (⟨.invalidArgument, "joint speed must be in [1, 100]", 0⟩, driver)
  else
    let placed := { driver with
      state := { driver.state with
        joints := target.position
        activeTool := target.toolName
        activeWorkObject := target.workObjectName } }
    (Status.Ok, placed.beginMotionLocked now)

def moveL (driver : MockDriver) (target : CartesianTarget) (profile : CartesianMotionProfile)
    (now : TimePoint) : Status × MockDriver :=
  if !driver.checkReadyLocked.ok then (driver.checkReadyLocked, driver)
  else if profile.speedMmPerSecond < 1 then
    (⟨.invalidArgument, "linear speed must be positive", 0⟩, driver)
  else
    let placed := { driver with
      state := { driver.state with
        tcpPose := target.pose
        activeTool := target.toolName
        activeWorkObject := target.workObjectName } }
    (Status.Ok, placed.beginMotionLocked now)

def moveC (driver : MockDriver) (target : CircularTarget) (profile : CartesianMotionProfile)
    (now : TimePoint) : Status × MockDriver :=
  if !driver.checkReadyLocked.ok then (driver.checkReadyLocked, driver)
  else if profile.speedMmPerSecond < 1 then
    (⟨.invalidArgument, "circular speed must be positive", 0⟩, driver)
  else
    let placed := { driver with
      state := { driver.state with
        tcpPose := target.target
        activeTool := target.toolName
        activeWorkObject := target.workObjectName } }
    (Status.Ok, placed.beginMotionLocked now)

def hold (driver : MockDriver) (now : TimePoint) : Status × MockDriver :=
  let refreshed := driver.refreshMotionLocked now
  if !refreshed.state.moving then
    (⟨.failedPrecondition, "mock robot is not moving", 0⟩, refreshed)
  else
    (Status.Ok, { refreshed with
      state := { refreshed.state with moving := false, paused := true } })

def resume (driver : MockDriver) (now : TimePoint) : Status × MockDriver :=
  if !driver.state.paused then
    (⟨.failedPrecondition, "mock robot is not paused", 0⟩, driver)
  else
    let unpaused := { driver with state := { driver.state with paused := false } }
    (Status.Ok, unpaused.beginMotionLocked now)

def stop (driver : MockDriver) (mode : StopMode) : Status × MockDriver :=
  if mode = .quick then
    (⟨.failedPrecondition, "EFORT SDK V2.8 has no distinct quick-stop API", 0⟩, driver)
  else
    (Status.Ok, { driver with
      state := { driver.state with
        moving := false
        paused := false
        programRunning := false
        servoOn := if mode = .powerOffRequest then false else driver.state.servoOn }
      programRunning := false
      jogActive := false })

def jog (driver : MockDriver) (command : JogCommand) : Status × MockDriver :=
  if command.axis < 1 ∨ driver.state.axisCount < command.axis then
    (⟨.invalidArgument, "jog axis exceeds the mock robot axis count", 0⟩, driver)
  else if !command.start then
    (Status.Ok, { driver with
      state := { driver.state with moving := false, paused := false }, jogActive := false })
  else if driver.jogActive then (Status.Ok, driver)
  else if !driver.checkReadyLocked.ok then (driver.checkReadyLocked, driver)
  else
    (Status.Ok, { driver with
      state := { driver.state with moving := true, paused := false }, jogActive := true })

/-! ### Programs -/

def loadProgram (driver : MockDriver) (name : String) : Status × MockDriver :=
  if !driver.state.connected || !driver.state.apiControl then
    (⟨.failedPrecondition, "mock robot is not under API control", 0⟩, driver)
  else if name = "" then (⟨.invalidArgument, "program name is required", 0⟩, driver)
  else (Status.Ok, { driver with programLoaded := true })

def startProgram (driver : MockDriver) (now : TimePoint) : Status × MockDriver :=
  if !driver.checkReadyLocked.ok then (driver.checkReadyLocked, driver)
  else if !driver.programLoaded then (⟨.failedPrecondition, "no program is loaded", 0⟩, driver)
  else
    let started := { driver with
      state := { driver.state with programRunning := true }, programRunning := true }
    (Status.Ok, started.beginMotionLocked now)

def stopProgram (driver : MockDriver) : Status × MockDriver :=
  (Status.Ok, { driver with
    state := { driver.state with programRunning := false, moving := false, paused := false }
    programRunning := false
    jogActive := false })

/-! ### Reading and outputs -/

def readState (driver : MockDriver) (now : TimePoint) : StatusOr RobotSnapshot × MockDriver :=
  let refreshed := driver.refreshMotionLocked now
  let observed := { refreshed.state with observedAt := now }
  let state := { observed with lifecycle := deriveLifecycleState observed }
  (.ok state, { refreshed with state := state })

def readAlarms (driver : MockDriver) : StatusOr (List Alarm) :=
  if driver.state.alarmActive then .ok [⟨1, 3, "mock-time", "mock controller alarm"⟩]
  else .ok []

def readDigitalInput (driver : MockDriver) (index : ℕ) : StatusOr Bool :=
  match driver.digitalInputs[index]? with
  | none => .error ⟨.invalidArgument, "digital input index is out of range", 0⟩
  | some value => .ok value

def readDigitalOutput (driver : MockDriver) (index : ℕ) : StatusOr Bool :=
  match driver.digitalOutputs[index]? with
  | none => .error ⟨.invalidArgument, "digital output index is out of range", 0⟩
  | some value => .ok value

def writeDigitalOutput (driver : MockDriver) (index : ℕ) (value : Bool) : Status × MockDriver :=
  if driver.digitalOutputs.length ≤ index then
    (⟨.invalidArgument, "digital output index is out of range", 0⟩, driver)
  else (Status.Ok, { driver with digitalOutputs := driver.digitalOutputs.set index value })

/-! ### Injected conditions -/

def setEmergencyStop (driver : MockDriver) (active : Bool) : MockDriver :=
  if active then
    { driver with
      state := { driver.state with
        emergencyStop := true, moving := false, paused := false, servoOn := false } }
  else { driver with state := { driver.state with emergencyStop := false } }

def setAlarm (driver : MockDriver) (active : Bool) : MockDriver :=
  if active then
    { driver with state := { driver.state with alarmActive := true, moving := false } }
  else { driver with state := { driver.state with alarmActive := false } }

def setControllerMode (driver : MockDriver) (mode : ControllerMode) : MockDriver :=
  { driver with state := { driver.state with controllerMode := mode } }

end MockDriver

/-! ### Runs of the mock -/

/-- What a test can do with the mock: call it, or let time pass. -/
inductive MockOperation where
  | connect (options : ConnectionOptions)
  | disconnect
  | acquireControl
  | releaseControl
  | powerOn
  | powerOff
  | clearFault
  | setGlobalSpeed (ratio : ℕ)
  | moveJ (target : JointTarget) (profile : JointMotionProfile)
  | moveL (target : CartesianTarget) (profile : CartesianMotionProfile)
  | moveC (target : CircularTarget) (profile : CartesianMotionProfile)
  | hold
  | resume
  | stop (mode : StopMode)
  | jog (command : JogCommand)
  | loadProgram (name : String)
  | startProgram
  | stopProgram
  | readState
  | readAlarms
  | readDigitalInput (index : ℕ)
  | readDigitalOutput (index : ℕ)
  | writeDigitalOutput (index : ℕ) (value : Bool)
  | setEmergencyStop (active : Bool)
  | setAlarm (active : Bool)
  | setControllerMode (mode : ControllerMode)
deriving DecidableEq

inductive MockReply where
  | status (status : Status)
  | state (answer : StatusOr RobotSnapshot)
  | alarms (answer : StatusOr (List Alarm))
  | level (answer : StatusOr Bool)
  | none

namespace MockDriver

def reply (outcome : Status × MockDriver) : MockReply × MockDriver := (.status outcome.1, outcome.2)

def perform (driver : MockDriver) (now : TimePoint) :
    MockOperation → MockReply × MockDriver
  | .connect options => reply (driver.connect options now)
  | .disconnect => reply driver.disconnect
  | .acquireControl => reply driver.acquireControl
  | .releaseControl => reply driver.releaseControl
  | .powerOn => reply driver.powerOn
  | .powerOff => reply driver.powerOff
  | .clearFault => reply driver.clearFault
  | .setGlobalSpeed ratio => reply (driver.setGlobalSpeed ratio)
  | .moveJ target profile => reply (driver.moveJ target profile now)
  | .moveL target profile => reply (driver.moveL target profile now)
  | .moveC target profile => reply (driver.moveC target profile now)
  | .hold => reply (driver.hold now)
  | .resume => reply (driver.resume now)
  | .stop mode => reply (driver.stop mode)
  | .jog command => reply (driver.jog command)
  | .loadProgram name => reply (driver.loadProgram name)
  | .startProgram => reply (driver.startProgram now)
  | .stopProgram => reply driver.stopProgram
  | .readState => (.state (driver.readState now).1, (driver.readState now).2)
  | .readAlarms => (.alarms driver.readAlarms, driver)
  | .readDigitalInput index => (.level (driver.readDigitalInput index), driver)
  | .readDigitalOutput index => (.level (driver.readDigitalOutput index), driver)
  | .writeDigitalOutput index value => reply (driver.writeDigitalOutput index value)
  | .setEmergencyStop active => (.none, driver.setEmergencyStop active)
  | .setAlarm active => (.none, driver.setAlarm active)
  | .setControllerMode mode => (.none, driver.setControllerMode mode)

end MockDriver

/-- A mock with the steady clock it reads. -/
structure MockBench where
  driver : MockDriver
  now : TimePoint

inductive MockEvent where
  | call (operation : MockOperation)
  | advance (elapsed : ℕ)

def MockBench.step (bench : MockBench) : MockEvent → Option MockBench
  | .call operation => some { bench with driver := (bench.driver.perform bench.now operation).2 }
  | .advance elapsed => some { bench with now := bench.now + elapsed }

/-- A mock just constructed, with any motion duration and at any time. -/
def MockBench.Initial (bench : MockBench) : Prop :=
  ∃ motionDuration, bench.driver = MockDriver.create motionDuration

end RobotManager
