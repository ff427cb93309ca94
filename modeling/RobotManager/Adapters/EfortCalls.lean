import RobotManager.Adapters.EfortJog
import RobotManager.Library.Triple

/-!
# The calls that an operation makes

Which SDK functions an operation of the adapter may call, and with which arguments.  An
invariant of the session that survives these calls and any change of the driver's fields
other than its connection survives the operation, whether it succeeds or fails.
-/

namespace RobotManager

open Fallible

namespace EfortOperation

/-- The calls of an operation besides those that stop a jog. -/
def calls : EfortOperation → List SdkCall
  | .connect options =>
      [.connectRobot options.address options.sdkDebugLogging options.verifySdkVersion,
        .getCurrentRobotType, .isApiControl, .enableApiControl false, .disconnectRobot]
  | .disconnect => [.isApiControl, .enableApiControl false, .disconnectRobot]
  | .acquireControl => [.enableApiControl true]
  | .releaseControl => [.enableApiControl false]
  | .powerOn => [.powerOn]
  | .powerOff => [.powerOff]
  | .clearFault => [.getCurrentEmgStatus, .clearAlarm]
  | .setGlobalSpeed ratio => [.setGlobalSpeed ratio]
  | .moveJ target profile =>
      [.checkTarget (.joints target.position.degrees) target.toolName target.workObjectName,
        .mjoint target.position.degrees profile.speedPercent profile.blend]
  | .moveL target profile =>
      [.setCurrentToolByName target.toolName, .setCurrentUframeByName target.workObjectName,
        .checkTarget (.position (toRobotPos target.pose)) target.toolName target.workObjectName,
        .mlin (toEfortPose target.pose) profile.speedMmPerSecond profile.blendMm]
  | .moveC target profile =>
      [.setCurrentToolByName target.toolName, .setCurrentUframeByName target.workObjectName,
        .checkTarget (.position (toRobotPos target.via)) target.toolName target.workObjectName,
        .checkTarget (.position (toRobotPos target.target)) target.toolName target.workObjectName,
        .mcirc (toPointC target.via) (toPointC target.target) profile.speedMmPerSecond
          profile.blendMm target.toolName target.workObjectName]
  | .hold => [.moveHold]
  | .resume => [.moveResume]
  | .stop .quick => []
  | .stop .powerOffRequest => [.powerOff]
  | .stop .controlled =>
      [.getCurrentProStatus, .stopProgram, .getMoveState, .moveHold, .moveClear]
  | .jog command =>
      if command.start then
        [.setJogMode (toEfortJogMode command.frame), .jog command.axis command.direction true]
      else []
  | .loadProgram name => [.loadProgram name]
  | .startProgram => [.startProgram]
  | .stopProgram => [.stopProgram]
  | .readState _ =>
      [.isConnected, .getRobotStatusData, .isApiControl, .getCurrentServoStatus,
        .getCurrentEmgStatus, .getCurrentAlarmStatus, .getMoveState, .getJointPos,
        .getBaseCoordinatePos2]
  | .readAlarms => [.getAlarmData]
  | .readDigitalInput index => [.readDIn index]
  | .readDigitalOutput index => [.readDOut index]
  | .writeDigitalOutput index value => [.writeDOut index value]

/-- The operations that stop a jog that is active. -/
def stopsJog : EfortOperation → Bool
  | .connect _ | .disconnect | .powerOff | .stop _ | .jog _ => true
  | _ => false

def MayCall (operation : EfortOperation) (call : SdkCall) : Prop :=
  call ∈ operation.calls ∨
    operation.stopsJog = true ∧ ∃ axis direction, call = .jog axis direction false

/-- The operations that open or close a connection. -/
def connects : EfortOperation → Bool
  | .connect _ | .disconnect => true
  | _ => false

end EfortOperation

/-- A property of sessions that certain calls keep, and all changes of the driver's fields that
leave its connection and the model of its controller alone. -/
structure Upheld (invariant : EfortSession → Prop) (allowed : SdkCall → Prop) : Prop where
  calls : ∀ session call answer, allowed call → invariant session →
    invariant (EfortDriver.answered session call answer)
  fields : ∀ session driver, driver.connected = session.driver.connected →
    driver.deviceId = session.driver.deviceId →
    driver.controllerModel = session.driver.controllerModel → invariant session →
    invariant { session with driver := driver }

theorem Upheld.mono {invariant : EfortSession → Prop} {allowed fewer : SdkCall → Prop}
    (upheld : Upheld invariant allowed) (weaker : ∀ call, fewer call → allowed call) :
    Upheld invariant fewer :=
  ⟨fun session call answer made => upheld.calls session call answer (weaker call made),
    upheld.fields⟩

namespace EfortDriver

/-- A program that keeps a property of sessions, whether it succeeds or fails. -/
abbrev Maintains {Value : Type} (invariant : EfortSession → Prop) (program : EfortProgram Value) :
    Prop :=
  Triple invariant program (fun _ => invariant) fun _ => invariant

section Rules

variable {Value : Type} {invariant : EfortSession → Prop} {program other : EfortProgram Value}

theorem maintains_pure (value : Value) :
    Maintains invariant (pure value : EfortProgram Value) :=
  Triple.pure fun _ => id

theorem maintains_throw (status : Status) :
    Maintains invariant (throw status : EfortProgram Value) :=
  Triple.throw fun _ => id

theorem maintains_ite {condition : Prop} [Decidable condition]
    (holds : Maintains invariant program) (fails : Maintains invariant other) :
    Maintains invariant (if condition then program else other) :=
  Triple.ite (fun _ => holds) fun _ => fails

theorem maintains_current : Maintains invariant current := fun _ => id

theorem triple_reply {pre post : EfortSession → Prop}
    {failed : Status → EfortSession → Prop} {make : Value → EfortReply}
    (triple : Triple pre program (fun _ => post) failed) :
    Triple pre (reply program make) (fun _ => post) failed :=
  triple.bind fun _ => Triple.pure fun _ => id

theorem maintains_onlyIf {program : EfortProgram Unit} (condition : Bool)
    (maintains : Maintains invariant program) : Maintains invariant (onlyIf condition program) :=
  maintains_ite maintains (maintains_pure ())

theorem maintains_settle (sdk : EfortSdk) (code : ℤ) (operation : String) :
    Maintains invariant (settle sdk code operation) :=
  maintains_ite (maintains_pure ()) (maintains_throw _)

end Rules

/-- A query succeeds or fails as the code of its answer says. -/
theorem triple_answered {sdk : EfortSdk} {pre : EfortSession → Prop}
    {post : SdkAnswer → EfortSession → Prop} {failed : Status → EfortSession → Prop}
    {operation : String} {call : SdkCall}
    (succeeds : ∀ session answer, pre session → answer.code = sdk.constants.errorOk →
      post answer (answered session call answer))
    (fails : ∀ session answer, pre session → answer.code ≠ sdk.constants.errorOk →
      failed (sdk.constants.mapEfortError answer.code operation) (answered session call answer)) :
    Triple pre (query sdk operation call) post failed := by
  intro session holds
  generalize sameAnswer : sdk.answer session.exchanges session.driver.deviceId call = answer
  unfold query
  rw [EStateM.run_bind, run_invoke, sameAnswer]
  dsimp only
  rw [EStateM.run_bind]
  by_cases isOk : answer.code = sdk.constants.errorOk
  · rw [run_settle_of_ok sdk isOk]
    exact succeeds session answer holds isOk
  · rw [run_settle_of_ne sdk isOk]
    exact fails session answer holds isOk

section Connection

variable {sdk : EfortSdk} {options : ConnectionOptions} {pre post linked : EfortSession → Prop}
  {failed : Status → EfortSession → Prop} {asked : SdkAnswer → EfortSession → Prop}

/-- `Connect` refuses, or it makes the connection, keeps it and goes on to the model. -/
theorem triple_connect
    (refuses : ∀ code ∈ [StatusCode.alreadyExists, .invalidArgument], ∀ message session,
      pre session → failed ⟨code, message, 0⟩ session)
    (asks : Triple pre (query sdk "ConnectRobot"
      (.connectRobot options.address options.sdkDebugLogging options.verifySdkVersion))
      asked failed)
    (learns : ∀ answer, Triple (asked answer)
      (change fun driver => { driver with
        deviceId := answer.deviceId
        expectedModel := options.expectedModel
        connected := true }) (fun _ => linked) failed)
    (checks : Triple linked (checkModel sdk options) (fun _ => post) failed) :
    Triple pre (connect sdk options) (fun _ => post) failed := by
  have refused : ∀ {code : StatusCode} {message : String},
      code ∈ [StatusCode.alreadyExists, .invalidArgument] →
      Triple pre (throw ⟨code, message, 0⟩ : EfortProgram Unit) (fun _ => post) failed :=
    fun own => Triple.throw (refuses _ own _)
  have known : Triple pre current (fun _ => pre) failed := fun _ => id
  apply Triple.bind known
  intro driver
  apply Triple.ite (fun _ => refused (by simp))
  intro _
  apply Triple.ite (fun _ => refused (by simp))
  intro _
  apply Triple.ite (fun _ => refused (by simp))
  intro _
  apply Triple.ite (fun _ => refused (by simp))
  intro _
  apply Triple.bind asks
  intro answer
  exact Triple.bind (learns answer) fun _ => checks

/-- The model is kept if the controller names the one that is expected; otherwise the connection is
closed again. -/
theorem triple_checkModel
    (asks : Triple linked (invoke sdk .getCurrentRobotType) asked failed)
    (unnamed : ∀ answer, answer.code ≠ sdk.constants.errorOk → Triple (asked answer)
      (do disconnect sdk
          throw (sdk.constants.mapEfortError answer.code "GetCurrentRobotType") :
        EfortProgram Unit) (fun _ => post) failed)
    (differs : ∀ answer message, answer.code = sdk.constants.errorOk → Triple (asked answer)
      (do disconnect sdk
          throw ⟨.failedPrecondition, message, 0⟩ : EfortProgram Unit) (fun _ => post) failed)
    (keeps : ∀ answer session, answer.code = sdk.constants.errorOk → asked answer session →
      post { session with driver := { session.driver with controllerModel := answer.model } }) :
    Triple linked (checkModel sdk options) (fun _ => post) failed := by
  apply Triple.bind asks
  intro answer
  apply Triple.ite
  · intro notOk
    exact unnamed answer (by simpa using notOk)
  intro named
  have isOk : answer.code = sdk.constants.errorOk := by simpa using named
  apply Triple.ite (fun _ => differs answer _ isOk)
  exact fun _ session holds => keeps answer session isOk holds

/-- Where nothing is claimed of a failure, nothing is claimed of what closes the connection. -/
theorem triple_close (status : Status) : Triple pre
    (do disconnect sdk; throw status : EfortProgram Unit) (fun _ => post) fun _ _ => True :=
  Triple.trivial.bind fun _ => Triple.throw fun _ _ => True.intro

end Connection

end EfortDriver

namespace Upheld

open EfortDriver

variable {invariant : EfortSession → Prop} {allowed : SdkCall → Prop}
  (upheld : Upheld invariant allowed) (sdk : EfortSdk) {call : SdkCall}

section Steps

include upheld

theorem change {update : EfortDriver → EfortDriver} {failed : Status → EfortSession → Prop}
    (connected : ∀ driver, (update driver).connected = driver.connected)
    (deviceId : ∀ driver, (update driver).deviceId = driver.deviceId)
    (model : ∀ driver, (update driver).controllerModel = driver.controllerModel) :
    Triple invariant (change update) (fun _ => invariant) failed :=
  fun session holds => upheld.fields session _ (connected session.driver)
    (deviceId session.driver) (model session.driver) holds

theorem forgetPause : Maintains invariant forgetPause :=
  upheld.change (fun _ => rfl) (fun _ => rfl) fun _ => rfl

theorem invoke {failed : Status → EfortSession → Prop} (isAllowed : allowed call) :
    Triple invariant (invoke sdk call) (fun _ => invariant) failed :=
  fun session holds => upheld.calls session call _ isAllowed holds

theorem query (operation : String) (isAllowed : allowed call) :
    Maintains invariant (query sdk operation call) := by
  apply Triple.bind (upheld.invoke sdk isAllowed)
  intro answer
  apply Triple.bind (maintains_settle sdk answer.code operation)
  intro _
  apply maintains_pure

theorem order (operation : String) (isAllowed : allowed call) :
    Maintains invariant (order sdk operation call) := by
  apply Triple.bind (upheld.query sdk operation isAllowed)
  intro _
  apply maintains_pure

theorem selectFrames {toolName workObjectName : String}
    (tool : allowed (.setCurrentToolByName toolName))
    (workObject : allowed (.setCurrentUframeByName workObjectName)) :
    Maintains invariant (selectFrames sdk toolName workObjectName) := by
  apply Triple.bind (upheld.order sdk _ tool)
  intro _
  exact upheld.order sdk _ workObject

theorem callJog {command : JogCommand} {start : Bool}
    (jogs : allowed (.jog command.axis command.direction start)) :
    Maintains invariant (callJog sdk command start) := by
  have invoked : Maintains invariant (invokeJog sdk command start) := by
    apply maintains_ite
    · apply Triple.bind (upheld.invoke sdk jogs)
      intro answer
      apply maintains_pure
    · apply maintains_pure
  apply Triple.bind invoked
  intro code
  refine Triple.bind (upheld.change ?_ ?_ ?_) fun _ => maintains_settle sdk code _
  all_goals
    intro driver
    split <;> rfl

theorem stopActiveJog (jogs : ∀ axis direction, allowed (.jog axis direction false)) :
    Maintains invariant (stopActiveJog sdk) := by
  apply Triple.bind maintains_current
  intro driver
  apply maintains_ite (maintains_pure ())
  apply Triple.bind (upheld.callJog sdk (jogs _ _))
  intro _
  exact upheld.change (fun _ => rfl) (fun _ => rfl) fun _ => rfl

end Steps

/-! ### The operations -/

/-- What `PowerOff` does, as an operation and as a kind of stop. -/
theorem powerOff (upheld : Upheld invariant allowed) (powers : allowed .powerOff)
    (jogs : ∀ axis direction, allowed (.jog axis direction false)) :
    Maintains invariant (powerOff sdk) := by
  apply Triple.bind (upheld.stopActiveJog sdk jogs)
  intro _
  apply Triple.bind upheld.forgetPause
  intro _
  exact upheld.order sdk _ powers

theorem stopMotion (upheld : Upheld invariant (EfortOperation.stop .controlled).MayCall) :
    Maintains invariant (stopMotion sdk) := by
  apply Triple.bind (upheld.query sdk _ (Or.inl (by simp [EfortOperation.calls])))
  intro program
  apply Triple.bind
    (maintains_onlyIf _ (upheld.order sdk _ (Or.inl (by simp [EfortOperation.calls]))))
  intro _
  apply Triple.bind (upheld.query sdk _ (Or.inl (by simp [EfortOperation.calls])))
  intro move
  apply Triple.bind
    (maintains_onlyIf _ (upheld.order sdk _ (Or.inl (by simp [EfortOperation.calls]))))
  intro _
  exact upheld.order sdk _ (Or.inl (by simp [EfortOperation.calls]))

theorem stop {mode : StopMode} (upheld : Upheld invariant (EfortOperation.stop mode).MayCall) :
    Maintains invariant (stop sdk mode) := by
  have jogs : ∀ axis direction, (EfortOperation.stop mode).MayCall (.jog axis direction false) :=
    fun axis direction => Or.inr ⟨rfl, axis, direction, rfl⟩
  apply Triple.ite (fun _ => maintains_throw _)
  intro distinct
  apply Triple.bind (upheld.stopActiveJog sdk jogs)
  intro _
  apply Triple.bind upheld.forgetPause
  intro _
  cases mode with
  | quick => exact absurd rfl distinct
  | powerOffRequest => exact upheld.powerOff sdk (Or.inl (by simp [EfortOperation.calls])) jogs
  | controlled => exact upheld.stopMotion sdk

theorem jog {command : JogCommand}
    (upheld : Upheld invariant (EfortOperation.jog command).MayCall) :
    Maintains invariant (jog sdk command) := by
  have jogs : ∀ axis direction, (EfortOperation.jog command).MayCall (.jog axis direction false) :=
    fun axis direction => Or.inr ⟨rfl, axis, direction, rfl⟩
  have stops := upheld.stopActiveJog sdk jogs
  apply Triple.bind maintains_current
  intro driver
  apply maintains_ite (maintains_throw _)
  apply Triple.ite (fun _ => stops)
  intro starts
  have starts : command.start = true := by simpa using starts
  apply maintains_ite (maintains_pure ())
  apply Triple.bind stops
  intro _
  apply Triple.bind (upheld.order sdk _ (Or.inl (by simp [EfortOperation.calls, starts])))
  intro _
  apply Triple.bind (upheld.callJog sdk (Or.inl (by simp [EfortOperation.calls, starts])))
  intro _
  exact upheld.change (fun _ => rfl) (fun _ => rfl) fun _ => rfl

theorem readState {now : TimePoint}
    (upheld : Upheld invariant (EfortOperation.readState now).MayCall) :
    Maintains invariant (readState sdk now) := by
  have reads : ∀ {call}, call ∈ (EfortOperation.readState now).calls →
      (EfortOperation.readState now).MayCall call := Or.inl
  have asked : Maintains invariant (isConnected sdk) := by
    apply Triple.bind maintains_current
    intro driver
    apply maintains_ite
    · apply Triple.bind (upheld.invoke sdk (reads (by simp [EfortOperation.calls])))
      intro answer
      apply maintains_pure
    · apply maintains_pure
  apply Triple.bind asked
  intro connected
  apply maintains_ite
  · apply Triple.bind (upheld.query sdk _ (reads (by simp [EfortOperation.calls])))
    intro run
    apply Triple.bind (upheld.invoke sdk (reads (by simp [EfortOperation.calls])))
    intro control
    apply Triple.bind maintains_current
    intro driver
    apply Triple.bind (upheld.query sdk _ (reads (by simp [EfortOperation.calls])))
    intro servo
    apply Triple.bind (upheld.query sdk _ (reads (by simp [EfortOperation.calls])))
    intro emergency
    apply Triple.bind (upheld.query sdk _ (reads (by simp [EfortOperation.calls])))
    intro alarm
    apply Triple.bind (upheld.query sdk _ (reads (by simp [EfortOperation.calls])))
    intro move
    apply Triple.bind (upheld.query sdk _ (reads (by simp [EfortOperation.calls])))
    intro joints
    apply Triple.bind (upheld.query sdk _ (reads (by simp [EfortOperation.calls])))
    intro pose
    apply maintains_pure
  · apply maintains_pure

/-- An operation keeps what its calls keep, unless it opens or closes a connection. -/
theorem perform {operation : EfortOperation} (upheld : Upheld invariant operation.MayCall)
    (other : operation.connects = false) : Maintains invariant (perform sdk operation) := by
  cases operation with
  | connect options | disconnect => cases other
  | acquireControl | releaseControl | powerOn =>
      exact triple_reply (upheld.order sdk _ (Or.inl (by simp [EfortOperation.calls])))
  | powerOff =>
      exact triple_reply (upheld.powerOff sdk (Or.inl (by simp [EfortOperation.calls]))
        fun axis direction => Or.inr ⟨rfl, axis, direction, rfl⟩)
  | clearFault =>
      apply triple_reply
      apply Triple.bind (upheld.query sdk _ (Or.inl (by simp [EfortOperation.calls])))
      intro answer
      apply maintains_ite (maintains_throw _)
      exact upheld.order sdk _ (Or.inl (by simp [EfortOperation.calls]))
  | setGlobalSpeed | loadProgram =>
      exact triple_reply (maintains_ite (maintains_throw _)
        (upheld.order sdk _ (Or.inl (by simp [EfortOperation.calls]))))
  | moveJ =>
      apply triple_reply
      apply maintains_ite (maintains_throw _)
      apply Triple.bind (upheld.order sdk _ (Or.inl (by simp [EfortOperation.calls])))
      intro _
      apply Triple.bind upheld.forgetPause
      intro _
      exact upheld.order sdk _ (Or.inl (by simp [EfortOperation.calls]))
  | moveL =>
      apply triple_reply
      apply Triple.bind (upheld.selectFrames sdk (Or.inl (by simp [EfortOperation.calls]))
        (Or.inl (by simp [EfortOperation.calls])))
      intro _
      apply Triple.bind (upheld.order sdk _ (Or.inl (by simp [EfortOperation.calls])))
      intro _
      apply Triple.bind upheld.forgetPause
      intro _
      exact upheld.order sdk _ (Or.inl (by simp [EfortOperation.calls]))
  | moveC =>
      apply triple_reply
      apply Triple.bind (upheld.selectFrames sdk (Or.inl (by simp [EfortOperation.calls]))
        (Or.inl (by simp [EfortOperation.calls])))
      intro _
      apply Triple.bind (upheld.order sdk _ (Or.inl (by simp [EfortOperation.calls])))
      intro _
      apply Triple.bind (upheld.order sdk _ (Or.inl (by simp [EfortOperation.calls])))
      intro _
      apply Triple.bind upheld.forgetPause
      intro _
      exact upheld.order sdk _ (Or.inl (by simp [EfortOperation.calls]))
  | hold =>
      apply triple_reply
      apply Triple.bind (upheld.order sdk _ (Or.inl (by simp [EfortOperation.calls])))
      intro _
      exact upheld.change (fun _ => rfl) (fun _ => rfl) fun _ => rfl
  | resume | stopProgram =>
      apply triple_reply
      apply Triple.bind (upheld.order sdk _ (Or.inl (by simp [EfortOperation.calls])))
      intro _
      exact upheld.forgetPause
  | stop => exact triple_reply (upheld.stop sdk)
  | jog => exact triple_reply (upheld.jog sdk)
  | startProgram =>
      apply triple_reply
      apply Triple.bind upheld.forgetPause
      intro _
      exact upheld.order sdk _ (Or.inl (by simp [EfortOperation.calls]))
  | readState => exact triple_reply (upheld.readState sdk)
  | readAlarms =>
      apply triple_reply
      apply Triple.bind (upheld.query sdk _ (Or.inl (by simp [EfortOperation.calls])))
      intro answer
      apply maintains_pure
  | readDigitalInput | readDigitalOutput | writeDigitalOutput =>
      apply triple_reply
      apply Triple.bind (maintains_ite (maintains_throw _)
        (upheld.query sdk _ (Or.inl (by simp [EfortOperation.calls]))))
      intro answer
      apply maintains_pure

/-! ### Properties of the exchanges alone -/

section Exchanges

variable {holds : List SdkExchange → Prop} {operation : EfortOperation}

theorem ofExchanges
    (calls : ∀ exchange earlier, allowed exchange.call → holds earlier →
      holds (exchange :: earlier)) : Upheld (fun session => holds session.exchanges) allowed :=
  ⟨fun session call _ made => calls ⟨_, call, _⟩ session.exchanges made, fun _ _ _ _ _ => id⟩

theorem disconnect_exchanges (upheld : Upheld (fun session => holds session.exchanges)
      EfortOperation.disconnect.MayCall) :
    Maintains (fun session => holds session.exchanges) (disconnect sdk) := by
  apply Triple.bind maintains_current
  intro driver
  apply maintains_ite (maintains_pure ())
  apply Triple.bind (Triple.attempt
    (upheld.stopActiveJog sdk fun axis direction => Or.inr ⟨rfl, axis, direction, rfl⟩))
  intro _
  apply Triple.bind (upheld.invoke sdk (Or.inl (by simp [EfortOperation.calls])))
  intro control
  have releases : Maintains (fun session => holds session.exchanges)
      (do let _ ← EfortDriver.invoke sdk (.enableApiControl false)
          pure () : EfortProgram Unit) := by
    apply Triple.bind (upheld.invoke sdk (Or.inl (by simp [EfortOperation.calls])))
    intro _
    apply maintains_pure
  apply Triple.bind (maintains_onlyIf _ releases)
  intro _
  apply Triple.bind (upheld.invoke sdk (Or.inl (by simp [EfortOperation.calls])))
  intro _
  exact fun _ => id

theorem connect_exchanges {options : ConnectionOptions}
    (upheld : Upheld (fun session => holds session.exchanges)
      (EfortOperation.connect options).MayCall) :
    Maintains (fun session => holds session.exchanges) (connect sdk options) := by
  have disconnects := disconnect_exchanges sdk (upheld.mono fun call made =>
    made.imp (fun mem => by simp_all [EfortOperation.calls]) fun jogs => jogs)
  have closes : ∀ status, Maintains (fun session => holds session.exchanges)
      (do EfortDriver.disconnect sdk; throw status : EfortProgram Unit) := by
    intro status
    apply Triple.bind disconnects
    intro _
    apply maintains_throw
  have checks : Maintains (fun session => holds session.exchanges) (checkModel sdk options) :=
    triple_checkModel (upheld.invoke sdk (Or.inl (by simp [EfortOperation.calls])))
      (fun _ _ => closes _) (fun _ _ _ => closes _) fun _ _ _ => id
  exact triple_connect (fun _ _ _ _ => id)
    (upheld.query sdk _ (Or.inl (by simp [EfortOperation.calls]))) (fun _ _ => id) checks

/-- A property of the exchanges that the calls of an operation keep is kept by the operation. -/
theorem perform_exchanges
    (calls : ∀ exchange earlier, operation.MayCall exchange.call → holds earlier →
      holds (exchange :: earlier)) :
    Maintains (fun session => holds session.exchanges) (EfortDriver.perform sdk operation) := by
  have upheld := ofExchanges calls
  cases others : operation.connects with
  | false => exact upheld.perform sdk others
  | true =>
      cases operation with
      | connect => exact triple_reply (connect_exchanges sdk upheld)
      | disconnect => exact triple_reply (disconnect_exchanges sdk upheld)
      | _ => cases others

end Exchanges

end Upheld

/-- An operation only adds calls of its own to the exchanges. -/
theorem EfortSession.exchanges_after (sdk : EfortSdk) (session : EfortSession)
    (operation : EfortOperation) :
    ∃ newer, (session.after sdk operation).exchanges = newer ++ session.exchanges ∧
      ∀ exchange ∈ newer, operation.MayCall exchange.call := by
  let added : List SdkExchange → Prop := fun exchanges =>
    ∃ newer, exchanges = newer ++ session.exchanges ∧
      ∀ exchange ∈ newer, operation.MayCall exchange.call
  have adds : EfortDriver.Maintains (fun session => added session.exchanges)
      (EfortDriver.perform sdk operation) := by
    apply Upheld.perform_exchanges
    rintro exchange earlier made ⟨newer, rfl, others⟩
    exact ⟨exchange :: newer, rfl, List.forall_mem_cons.mpr ⟨made, others⟩⟩
  exact adds.finalState ⟨[], rfl, by simp⟩

theorem EfortSession.afterAll_append (sdk : EfortSdk) (start : EfortSession)
    (newer operations : List EfortOperation) :
    start.afterAll sdk (newer ++ operations) =
      (start.afterAll sdk operations).afterAll sdk newer := by
  induction newer with
  | nil => rfl
  | cons operation rest ih => exact congrArg (·.after sdk operation) ih

/-- The exchanges of a session are those that its operations so far have left, and newer ones. -/
theorem EfortSession.exchanges_of_suffix (sdk : EfortSdk) (start : EfortSession)
    {earlier operations : List EfortOperation} (suffix : earlier <:+ operations) :
    (start.afterAll sdk earlier).exchanges <:+ (start.afterAll sdk operations).exchanges := by
  induction operations with
  | nil => exact List.suffix_nil.mp suffix ▸ List.suffix_refl _
  | cons operation before ih =>
      rcases List.suffix_cons_iff.mp suffix with rfl | sooner
      · exact List.suffix_refl _
      · rcases exchanges_after sdk (start.afterAll sdk before) operation with ⟨newer, added, _⟩
        exact (ih sooner).trans (added ▸ List.suffix_append newer _)

end RobotManager
