import RobotManager.Adapters.MockDriver
import RobotManager.Library.TransitionSystem

/-!
# Interlocks of the mock driver

How far the mock's flags stay consistent when conditions are injected between its operations.  An
alarm or an emergency stop that hits a jog leaves the jog flag behind, and neither resuming nor
repeating a jog looks for an alarm.
-/

namespace RobotManager

open TransitionSystem

namespace MockDriver

variable {driver after : MockDriver}

/-- What a controller's flags would agree on. -/
structure Sound (driver : MockDriver) : Prop where
  programs : driver.programRunning = driver.state.programRunning
  exclusive : ¬(driver.state.moving = true ∧ driver.state.paused = true)
  moving : driver.state.moving = true → driver.state.connected = true ∧
    driver.state.servoOn = true ∧ driver.state.emergencyStop = false ∧
      driver.state.alarmActive = false
  jogging : driver.jogActive = true →
    driver.state.moving = true ∨ driver.state.paused = true

/-- A motion that is paused may have been hit by an alarm, but by nothing else. -/
structure Consistent (driver : MockDriver) : Prop extends driver.Sound where
  paused : driver.state.paused = true → driver.state.connected = true ∧
    driver.state.servoOn = true ∧ driver.state.emergencyStop = false

theorem consistent_create (motionDuration : Milliseconds) :
    (create motionDuration).Consistent where
  programs := rfl
  exclusive := by simp [create]
  moving := by simp [create]
  jogging := by simp [create]
  paused := by simp [create]

/-! ### What keeps the flags consistent -/

/-- The flags that tell of motion are as before, and what motion needs is not withdrawn. -/
structure KeepsMotion (driver after : MockDriver) : Prop where
  programRunning : after.programRunning = driver.programRunning
  stateProgramRunning : after.state.programRunning = driver.state.programRunning
  jogActive : after.jogActive = driver.jogActive
  moving : after.state.moving = driver.state.moving
  paused : after.state.paused = driver.state.paused
  connected : driver.state.connected = true → after.state.connected = true
  servoOn : driver.state.servoOn = true → after.state.servoOn = true
  emergencyStop : driver.state.emergencyStop = false → after.state.emergencyStop = false
  alarmActive : driver.state.alarmActive = false → after.state.alarmActive = false

theorem KeepsMotion.refl (driver : MockDriver) : driver.KeepsMotion driver := by
  constructor <;> simp

theorem KeepsMotion.consistent (keeps : driver.KeepsMotion after)
    (consistent : driver.Consistent) : after.Consistent where
  programs := by
    rw [keeps.programRunning, keeps.stateProgramRunning]
    exact consistent.programs
  exclusive := by
    rw [keeps.moving, keeps.paused]
    exact consistent.exclusive
  moving := by
    rw [keeps.moving]
    intro moving
    rcases consistent.moving moving with ⟨connected, servoOn, noStop, noAlarm⟩
    exact ⟨keeps.connected connected, keeps.servoOn servoOn, keeps.emergencyStop noStop,
      keeps.alarmActive noAlarm⟩
  jogging := by
    rw [keeps.jogActive, keeps.moving, keeps.paused]
    exact consistent.jogging
  paused := by
    rw [keeps.paused]
    intro paused
    rcases consistent.paused paused with ⟨connected, servoOn, noStop⟩
    exact ⟨keeps.connected connected, keeps.servoOn servoOn, keeps.emergencyStop noStop⟩

/-- Nothing moves and nothing waits to go on. -/
theorem consistent_of_still (programs : after.programRunning = after.state.programRunning)
    (notMoving : after.state.moving = false) (notPaused : after.state.paused = false)
    (notJogging : after.jogActive = false) : after.Consistent := by
  constructor
  · constructor <;> simp_all
  · simp [notPaused]

/-- A motion goes on in a driver that motion is permitted in. -/
theorem consistent_of_moving (programs : after.programRunning = after.state.programRunning)
    (notPaused : after.state.paused = false) (moving : after.state.moving = true)
    (connected : after.state.connected = true) (servoOn : after.state.servoOn = true)
    (noStop : after.state.emergencyStop = false) (noAlarm : after.state.alarmActive = false) :
    after.Consistent := by
  constructor
  · constructor <;> simp_all
  · simp [notPaused]

theorem checkReadyLocked_ok_iff :
    driver.checkReadyLocked.ok = true ↔ driver.state.connected = true ∧
      driver.state.apiControl = true ∧ driver.state.servoOn = true ∧
        driver.state.emergencyStop = false ∧ driver.state.alarmActive = false ∧
          driver.state.moving = false ∧ driver.state.paused = false := by
  unfold checkReadyLocked
  split
  · next refused =>
    simp only [Status.ok_mk, beq_iff_eq, reduceCtorEq, false_iff]
    intro ready
    simp [ready] at refused
  · next ready => simpa [and_assoc] using ready

/-! ### The operations -/

theorem Consistent.refreshMotionLocked (consistent : driver.Consistent) (now : TimePoint) :
    (driver.refreshMotionLocked now).Consistent := by
  unfold MockDriver.refreshMotionLocked
  split
  · next ended =>
    simp only [Bool.and_eq_true, Bool.not_eq_true', decide_eq_true_eq] at ended
    have notPaused : driver.state.paused = false := by
      simpa [ended.1.1] using consistent.exclusive
    split
    · exact consistent_of_still rfl rfl notPaused ended.1.2
    · exact consistent_of_still consistent.programs rfl notPaused ended.1.2
  · exact consistent

theorem Consistent.connect (consistent : driver.Consistent) (options : ConnectionOptions)
    (now : TimePoint) : (driver.connect options now).2.Consistent := by
  apply KeepsMotion.consistent _ consistent
  unfold MockDriver.connect
  split
  · exact .refl driver
  · split
    · exact .refl driver
    · constructor <;> simp

theorem Consistent.acquireControl (consistent : driver.Consistent) :
    driver.acquireControl.2.Consistent := by
  apply KeepsMotion.consistent _ consistent
  unfold MockDriver.acquireControl
  split
  · exact .refl driver
  · constructor <;> simp

theorem Consistent.releaseControl (consistent : driver.Consistent) :
    driver.releaseControl.2.Consistent := by
  apply KeepsMotion.consistent _ consistent
  constructor <;> simp [MockDriver.releaseControl]

theorem Consistent.powerOn (consistent : driver.Consistent) : driver.powerOn.2.Consistent := by
  apply KeepsMotion.consistent _ consistent
  unfold MockDriver.powerOn
  split
  · exact .refl driver
  · constructor <;> simp

theorem Consistent.clearFault (consistent : driver.Consistent) :
    driver.clearFault.2.Consistent := by
  apply KeepsMotion.consistent _ consistent
  unfold MockDriver.clearFault
  split
  · exact .refl driver
  · constructor <;> simp

theorem Consistent.setGlobalSpeed (consistent : driver.Consistent) (ratio : ℕ) :
    (driver.setGlobalSpeed ratio).2.Consistent := by
  apply KeepsMotion.consistent _ consistent
  unfold MockDriver.setGlobalSpeed
  split
  · exact .refl driver
  · constructor <;> simp

theorem Consistent.loadProgram (consistent : driver.Consistent) (name : String) :
    (driver.loadProgram name).2.Consistent := by
  apply KeepsMotion.consistent _ consistent
  unfold MockDriver.loadProgram
  split
  · exact .refl driver
  · split
    · exact .refl driver
    · constructor <;> simp

theorem Consistent.writeDigitalOutput (consistent : driver.Consistent) (index : ℕ) (value : Bool) :
    (driver.writeDigitalOutput index value).2.Consistent := by
  apply KeepsMotion.consistent _ consistent
  unfold MockDriver.writeDigitalOutput
  split
  · exact .refl driver
  · constructor <;> simp

theorem Consistent.setControllerMode (consistent : driver.Consistent) (mode : ControllerMode) :
    (driver.setControllerMode mode).Consistent := by
  apply KeepsMotion.consistent _ consistent
  constructor <;> simp [MockDriver.setControllerMode]

theorem Consistent.stop (consistent : driver.Consistent) (mode : StopMode) :
    (driver.stop mode).2.Consistent := by
  unfold MockDriver.stop
  split
  · exact consistent
  · exact consistent_of_still rfl rfl rfl rfl

/-- A motion that begins in a driver that is ready. -/
theorem consistent_of_ready {begun : MockDriver} (ready : driver.checkReadyLocked.ok = true)
    (programs : begun.programRunning = begun.state.programRunning)
    (moving : begun.state.moving = true) (notPaused : begun.state.paused = false)
    (connected : begun.state.connected = driver.state.connected)
    (servoOn : begun.state.servoOn = driver.state.servoOn)
    (emergencyStop : begun.state.emergencyStop = driver.state.emergencyStop)
    (alarmActive : begun.state.alarmActive = driver.state.alarmActive) : begun.Consistent := by
  rcases checkReadyLocked_ok_iff.mp ready with ⟨isConnected, _, isOn, noStop, noAlarm, _, _⟩
  exact consistent_of_moving programs notPaused moving (connected.trans isConnected)
    (servoOn.trans isOn) (emergencyStop.trans noStop) (alarmActive.trans noAlarm)

/-- The operation leaves the flags consistent, and begins a motion only in a driver that is
ready. -/
structure StartsReady (driver : MockDriver) (answer : Status × MockDriver) : Prop where
  ready : answer.1.ok = true → driver.checkReadyLocked.ok = true
  consistent : driver.Consistent → answer.2.Consistent

theorem startsReady_of_begin {refused : Prop} [Decidable refused] {error : Status}
    {begun : MockDriver}
    (begins : driver.checkReadyLocked.ok = true → driver.Consistent → begun.Consistent) :
    driver.StartsReady (if !driver.checkReadyLocked.ok then (driver.checkReadyLocked, driver)
      else if refused then (error, driver) else (Status.Ok, begun)) := by
  split
  · exact ⟨fun ready => ready, fun consistent => consistent⟩
  · next notRefused =>
    have ready : driver.checkReadyLocked.ok = true := by simpa using notRefused
    refine ⟨fun _ => ready, fun consistent => ?_⟩
    split
    · exact consistent
    · exact begins ready consistent

theorem startsReady_moveJ (target : JointTarget) (profile : JointMotionProfile)
    (now : TimePoint) : driver.StartsReady (driver.moveJ target profile now) := by
  apply startsReady_of_begin
  intro ready consistent
  exact consistent_of_ready ready consistent.programs rfl rfl rfl rfl rfl rfl

theorem startsReady_moveL (target : CartesianTarget) (profile : CartesianMotionProfile)
    (now : TimePoint) : driver.StartsReady (driver.moveL target profile now) := by
  apply startsReady_of_begin
  intro ready consistent
  exact consistent_of_ready ready consistent.programs rfl rfl rfl rfl rfl rfl

theorem startsReady_moveC (target : CircularTarget) (profile : CartesianMotionProfile)
    (now : TimePoint) : driver.StartsReady (driver.moveC target profile now) := by
  apply startsReady_of_begin
  intro ready consistent
  exact consistent_of_ready ready consistent.programs rfl rfl rfl rfl rfl rfl

theorem startsReady_startProgram (now : TimePoint) :
    driver.StartsReady (driver.startProgram now) := by
  apply startsReady_of_begin
  intro ready _
  exact consistent_of_ready ready rfl rfl rfl rfl rfl rfl rfl

theorem Consistent.hold (consistent : driver.Consistent) (now : TimePoint) :
    (driver.hold now).2.Consistent := by
  have refreshed : (driver.refreshMotionLocked now).Consistent := consistent.refreshMotionLocked now
  unfold MockDriver.hold
  dsimp only
  split
  · exact refreshed
  · next moving =>
    rcases refreshed.moving (by simpa using moving) with ⟨connected, servoOn, noStop, _⟩
    constructor
    · constructor
      · exact refreshed.programs
      · simp
      · simp
      · simp
    · exact fun _ => ⟨connected, servoOn, noStop⟩

theorem Consistent.resume (consistent : driver.Consistent) (now : TimePoint)
    (careful : driver.state.paused = true → driver.state.alarmActive = false) :
    (driver.resume now).2.Consistent := by
  unfold MockDriver.resume
  split
  · exact consistent
  · next notUnpaused =>
    have paused : driver.state.paused = true := by simpa using notUnpaused
    rcases consistent.paused paused with ⟨connected, servoOn, noStop⟩
    exact consistent_of_moving consistent.programs rfl rfl connected servoOn noStop
      (careful paused)

theorem Consistent.jog (consistent : driver.Consistent) (command : JogCommand) :
    (driver.jog command).2.Consistent := by
  unfold MockDriver.jog
  split
  · exact consistent
  · split
    · exact consistent_of_still consistent.programs rfl rfl rfl
    · split
      · exact consistent
      · split
        · exact consistent
        · next ready =>
          rcases checkReadyLocked_ok_iff.mp (by simpa using ready) with
            ⟨connected, _, servoOn, noStop, noAlarm, _, _⟩
          exact consistent_of_moving consistent.programs rfl rfl connected servoOn noStop noAlarm

theorem Consistent.readState (consistent : driver.Consistent) (now : TimePoint) :
    (driver.readState now).2.Consistent := by
  apply KeepsMotion.consistent _ (consistent.refreshMotionLocked now)
  constructor <;> simp [MockDriver.readState]

theorem Consistent.setEmergencyStop (consistent : driver.Consistent) (active : Bool)
    (careful : active = true → driver.jogActive = false) :
    (driver.setEmergencyStop active).Consistent := by
  unfold MockDriver.setEmergencyStop
  split
  · next isActive => exact consistent_of_still consistent.programs rfl rfl (careful isActive)
  · apply KeepsMotion.consistent _ consistent
    constructor <;> simp

theorem Consistent.setAlarm (consistent : driver.Consistent) (active : Bool)
    (careful : active = true → driver.jogActive = true → driver.state.paused = true) :
    (driver.setAlarm active).Consistent := by
  unfold MockDriver.setAlarm
  split
  · next isActive =>
    constructor
    · constructor
      · exact consistent.programs
      · simp
      · simp
      · exact fun jogging => .inr (careful isActive jogging)
    · exact consistent.paused
  · apply KeepsMotion.consistent _ consistent
    constructor <;> simp

/-! ### Steps -/

/-- An alarm or an emergency stop comes only while no jog is running (an alarm also while it is
held), and with an alarm nothing is resumed and no running jog is started again. -/
def Careful (driver : MockDriver) : MockOperation → Prop
  | .setEmergencyStop active => active = true → driver.jogActive = false
  | .setAlarm active => active = true → driver.jogActive = true → driver.state.paused = true
  | .resume => driver.state.paused = true → driver.state.alarmActive = false
  | .jog command => command.start = true → 1 ≤ command.axis →
      command.axis ≤ driver.state.axisCount → driver.jogActive = true →
        driver.state.alarmActive = false
  | _ => True

theorem Consistent.perform (consistent : driver.Consistent) (now : TimePoint)
    {operation : MockOperation} (careful : driver.Careful operation) :
    (driver.perform now operation).2.Consistent := by
  cases operation with
  | connect options => exact consistent.connect options now
  | disconnect => exact consistent_of_still rfl rfl rfl rfl
  | acquireControl => exact consistent.acquireControl
  | releaseControl => exact consistent.releaseControl
  | powerOn => exact consistent.powerOn
  | powerOff => exact consistent_of_still rfl rfl rfl rfl
  | clearFault => exact consistent.clearFault
  | setGlobalSpeed ratio => exact consistent.setGlobalSpeed ratio
  | moveJ target profile => exact (startsReady_moveJ target profile now).consistent consistent
  | moveL target profile => exact (startsReady_moveL target profile now).consistent consistent
  | moveC target profile => exact (startsReady_moveC target profile now).consistent consistent
  | hold => exact consistent.hold now
  | resume => exact consistent.resume now careful
  | stop mode => exact consistent.stop mode
  | jog command => exact consistent.jog command
  | loadProgram name => exact consistent.loadProgram name
  | startProgram => exact (startsReady_startProgram now).consistent consistent
  | stopProgram => exact consistent_of_still rfl rfl rfl rfl
  | readState => exact consistent.readState now
  | readAlarms => exact consistent
  | readDigitalInput index => exact consistent
  | readDigitalOutput index => exact consistent
  | writeDigitalOutput index value => exact consistent.writeDigitalOutput index value
  | setEmergencyStop active => exact consistent.setEmergencyStop active careful
  | setAlarm active => exact consistent.setAlarm active careful
  | setControllerMode mode => exact consistent.setControllerMode mode

end MockDriver

/-- The operations that set the robot moving. -/
def MockOperation.startsMotion : MockOperation → Bool
  | .moveJ _ _ => true
  | .moveL _ _ => true
  | .moveC _ _ => true
  | .startProgram => true
  | .resume => true
  | .jog command => command.start
  | _ => false

def MockReply.ok : MockReply → Bool
  | .status outcome => outcome.ok
  | .state answer => answer.isOk
  | .alarms answer => answer.isOk
  | .level answer => answer.isOk
  | .none => true

namespace MockDriver

variable {driver : MockDriver} {now : TimePoint}

/-- With an emergency stop or an alarm, the operation does not claim to have started a motion. -/
def AnswersSoundly (driver : MockDriver) (now : TimePoint) (operation : MockOperation) : Prop :=
  operation.startsMotion = true → (driver.perform now operation).1.ok = true →
    driver.state.emergencyStop = false ∧ driver.state.alarmActive = false

/-- A robot that is ready has neither an emergency stop nor an alarm. -/
theorem clear_of_ready (ready : driver.checkReadyLocked.ok = true) :
    driver.state.emergencyStop = false ∧ driver.state.alarmActive = false := by
  rcases checkReadyLocked_ok_iff.mp ready with ⟨_, _, _, noStop, noAlarm, _, _⟩
  exact ⟨noStop, noAlarm⟩

theorem resume_ok_iff : (driver.resume now).1.ok = true ↔ driver.state.paused = true := by
  unfold resume
  split
  · next notPaused => simpa using notPaused
  · next paused => simpa using paused

/-- A jog is answered with success if it runs already, or if the robot is ready for it. -/
theorem jog_ok_iff {command : JogCommand} (starts : command.start = true) :
    (driver.jog command).1.ok = true ↔
      1 ≤ command.axis ∧ command.axis ≤ driver.state.axisCount ∧
        (driver.jogActive = true ∨ driver.checkReadyLocked.ok = true) := by
  unfold jog
  split
  · next badAxis =>
    simp only [Status.ok_mk, beq_iff_eq, reduceCtorEq, false_iff]
    omega
  · next axis =>
    have inRange : 1 ≤ command.axis ∧ command.axis ≤ driver.state.axisCount := by omega
    rw [if_neg (by simp [starts])]
    cases jogActive : driver.jogActive with
    | true => simp [inRange]
    | false => cases ready : driver.checkReadyLocked.ok <;> simp [inRange, ready]

theorem Consistent.answersSoundly (consistent : driver.Consistent) {operation : MockOperation}
    (careful : driver.Careful operation) : driver.AnswersSoundly now operation := by
  intro starts succeeded
  cases operation with
  | moveJ target profile =>
      exact clear_of_ready ((startsReady_moveJ target profile now).ready succeeded)
  | moveL target profile =>
      exact clear_of_ready ((startsReady_moveL target profile now).ready succeeded)
  | moveC target profile =>
      exact clear_of_ready ((startsReady_moveC target profile now).ready succeeded)
  | startProgram => exact clear_of_ready ((startsReady_startProgram now).ready succeeded)
  | resume =>
      have paused : driver.state.paused = true := resume_ok_iff.mp succeeded
      exact ⟨(consistent.paused paused).2.2, careful paused⟩
  | jog command =>
      rcases (jog_ok_iff starts).mp succeeded with ⟨low, high, jogActive | ready⟩
      · have noAlarm : driver.state.alarmActive = false := careful starts low high jogActive
        rcases consistent.jogging jogActive with moving | paused
        · exact ⟨(consistent.moving moving).2.2.1, noAlarm⟩
        · exact ⟨(consistent.paused paused).2.2, noAlarm⟩
      · exact clear_of_ready ready
  | _ => cases starts

/-- An operation without the care it takes leaves inconsistent flags or answers wrongly. -/
theorem careful_of_sound {operation : MockOperation}
    (sound : (driver.perform now operation).2.Sound)
    (answers : driver.AnswersSoundly now operation) : driver.Careful operation := by
  cases operation with
  | resume =>
      intro paused
      exact (answers rfl (resume_ok_iff.mpr paused)).2
  | jog command =>
      intro starts low high jogActive
      exact (answers starts ((jog_ok_iff starts).mpr ⟨low, high, .inl jogActive⟩)).2
  | setEmergencyStop active =>
      rintro rfl
      cases jogActive : driver.jogActive with
      | false => rfl
      | true =>
          rcases sound.jogging jogActive with moving | paused
          · cases moving
          · cases paused
  | setAlarm active =>
      rintro rfl jogActive
      rcases sound.jogging jogActive with moving | paused
      · cases moving
      · exact paused
  | _ => trivial

end MockDriver

/-! ### Runs -/

namespace MockBench

variable {bench after : MockBench}

def Careful (bench : MockBench) : MockEvent → Prop
  | .call operation => bench.driver.Careful operation
  | .advance _ => True

def AnswersSoundly (bench : MockBench) : MockEvent → Prop
  | .call operation => bench.driver.AnswersSoundly bench.now operation
  | .advance _ => True

theorem consistent_step {event : MockEvent} (consistent : bench.driver.Consistent)
    (careful : bench.Careful event) (taken : bench.step event = some after) :
    after.driver.Consistent := by
  cases event with
  | call operation =>
      cases taken
      exact consistent.perform bench.now careful
  | advance elapsed =>
      cases taken
      exact consistent

theorem careful_of_sound {event : MockEvent} (taken : bench.step event = some after)
    (sound : after.driver.Sound) (answers : bench.AnswersSoundly event) : bench.Careful event := by
  cases event with
  | call operation =>
      cases taken
      exact MockDriver.careful_of_sound sound answers
  | advance elapsed => trivial

theorem answersSoundly_of_careful {event : MockEvent} (consistent : bench.driver.Consistent)
    (careful : bench.Careful event) : bench.AnswersSoundly event := by
  cases event with
  | call operation => exact consistent.answersSoundly careful
  | advance elapsed => trivial

theorem consistent_of_run {past : List (MockBench × MockEvent)}
    (run : Run step Initial past bench) (careful : ∀ taken ∈ past, taken.1.Careful taken.2) :
    bench.driver.Consistent ∧ ∀ taken ∈ past, taken.1.driver.Consistent := by
  induction run with
  | init initial =>
      rcases initial with ⟨motionDuration, isNew⟩
      rw [isNew]
      exact ⟨MockDriver.consistent_create motionDuration, by simp⟩
  | next run taken ih =>
      rw [List.forall_mem_cons] at careful
      rcases ih careful.2 with ⟨consistent, earlier⟩
      exact ⟨consistent_step consistent careful.1 taken,
        List.forall_mem_cons.mpr ⟨consistent, earlier⟩⟩

/-- A run keeps the flags sound and the answers right exactly if all its steps take care. -/
theorem sound_run_iff {past : List (MockBench × MockEvent)} (run : Run step Initial past bench) :
    (bench.driver.Sound ∧
      ∀ taken ∈ past, taken.1.driver.Sound ∧ taken.1.AnswersSoundly taken.2) ↔
      ∀ taken ∈ past, taken.1.Careful taken.2 := by
  constructor
  · rintro ⟨sound, earlier⟩
    induction run with
    | init initial => simp
    | next run taken ih =>
        rw [List.forall_mem_cons] at earlier
        exact List.forall_mem_cons.mpr ⟨careful_of_sound taken sound earlier.1.2,
          ih earlier.1.1 earlier.2⟩
  · intro careful
    rcases consistent_of_run run careful with ⟨consistent, earlier⟩
    refine ⟨consistent.toSound, ?_⟩
    intro taken mem
    exact ⟨(earlier taken mem).toSound,
      answersSoundly_of_careful (earlier taken mem) (careful taken mem)⟩

/-- A mock under control with its servo on. -/
def poweredUp : List MockEvent :=
  [.call (.connect { address := "mock" }), .call .acquireControl, .call .powerOn]

theorem sound_run_resumed : ∃ past bench, Run step Initial past bench ∧
    bench.driver.state.moving = true ∧ bench.driver.Sound ∧
      ∀ taken ∈ past, taken.1.driver.Sound ∧ taken.1.AnswersSoundly taken.2 := by
  have start : Run step Initial [] ⟨MockDriver.create 150, 0⟩ := .init ⟨150, rfl⟩
  have connected := start.next
    (show step _ (.call (.connect { address := "mock" })) = some _ from rfl)
  have controlled := connected.next (show step _ (.call .acquireControl) = some _ from rfl)
  have powered := controlled.next (show step _ (.call .powerOn) = some _ from rfl)
  have moved := powered.next (show step _ (.call (.moveJ {} {})) = some _ from rfl)
  have held := moved.next (show step _ (.call .hold) = some _ from rfl)
  have resumed := held.next (show step _ (.call .resume) = some _ from rfl)
  refine ⟨_, _, resumed, ?_, (sound_run_iff resumed).mpr ?_⟩
  · decide +kernel
  · simp only [List.forall_mem_cons]
    refine ⟨fun _ => ?_, trivial, trivial, trivial, trivial, trivial, by simp⟩
    decide +kernel

/-- Resuming succeeds although an alarm came up during the pause, and an alarm during a jog leaves
a jog that neither moves nor is held. -/
theorem motion_despite_alarm :
    (∃ past bench, Run step Initial past bench ∧ bench.driver.state.moving = true ∧
      bench.driver.state.alarmActive = true) ∧
    ∃ past bench, Run step Initial past bench ∧ bench.driver.jogActive = true ∧
      bench.driver.state.moving = false ∧ bench.driver.state.paused = false := by
  have start : Reachable step Initial ⟨MockDriver.create 150, 0⟩ := .init ⟨150, rfl⟩
  constructor
  · rcases exists_reachable_of_execute start
      (poweredUp ++ [.call (.moveJ {} {}), .call .hold, .call (.setAlarm true), .call .resume])
      (fun bench => bench.driver.state.moving && bench.driver.state.alarmActive)
      (by decide +kernel) with ⟨bench, reached, attained⟩
    rcases reached.exists_run with ⟨past, run⟩
    exact ⟨past, bench, run, by simpa using attained⟩
  · rcases exists_reachable_of_execute start
      (poweredUp ++ [.call (.jog {}), .call (.setAlarm true)])
      (fun bench => bench.driver.jogActive && !bench.driver.state.moving &&
        !bench.driver.state.paused) (by decide +kernel) with ⟨bench, reached, attained⟩
    rcases reached.exists_run with ⟨past, run⟩
    exact ⟨past, bench, run, by simpa [and_assoc] using attained⟩

end MockBench

end RobotManager
