import RobotManager.Adapters.EfortFrames

/-!
# Running jogs

Whether a jog runs is read off the exchanges with the SDK.  The adapter remembers the jog
it has started, but `CallJog` forgets it as soon as the call that stops it returns, also
when that call has failed.
-/

namespace RobotManager

open Fallible

/-- Whether the jog of an axis in a direction runs: the latest successful call for it started it. -/
def jogRunning (errorOk : ℤ) (axis : ℕ) (direction : JogDirection) : List SdkExchange → Bool
  | [] => false
  | exchange :: earlier =>
      match exchange.call with
      | .jog jogAxis jogDirection start =>
          if jogAxis = axis ∧ jogDirection = direction ∧ exchange.answer.code = errorOk then start
          else jogRunning errorOk axis direction earlier
      | _ => jogRunning errorOk axis direction earlier

def SdkCall.stopsJog : SdkCall → Bool
  | .jog _ _ false => true
  | _ => false

/-- Whether an exchange is a call to stop a jog that has failed. -/
def SdkExchange.failsStop (errorOk : ℤ) (exchange : SdkExchange) : Bool :=
  match exchange.call with
  | .jog _ _ false => exchange.answer.code != errorOk
  | _ => false

namespace EfortSession

variable (sdk : EfortSdk)

def Running (session : EfortSession) (axis : ℕ) (direction : JogDirection) : Prop :=
  jogRunning sdk.constants.errorOk axis direction session.exchanges = true

/-- At most one jog runs, and the driver knows which. -/
structure Tracked (session : EfortSession) : Prop where
  single : ∀ {axis other direction otherDirection}, session.Running sdk axis direction →
    session.Running sdk other otherDirection → axis = other ∧ direction = otherDirection
  known : ∀ {axis direction}, session.Running sdk axis direction →
    session.driver.hasActiveJog = true ∧ session.driver.activeJog.axis = axis ∧
      session.driver.activeJog.direction = direction

/-- No call to stop a jog has failed. -/
def Clean (session : EfortSession) : Prop :=
  ∀ exchange ∈ session.exchanges, exchange.failsStop sdk.constants.errorOk = false

/-- A jog runs exactly if it is the one that the connected driver remembers. -/
structure Synchronized (session : EfortSession) : Prop where
  connected : session.driver.connected = true
  running : ∀ axis direction, session.Running sdk axis direction ↔
    session.driver.hasActiveJog = true ∧ session.driver.activeJog.axis = axis ∧
      session.driver.activeJog.direction = direction
  inRange : session.driver.hasActiveJog = true →
    1 ≤ session.driver.activeJog.axis ∧ session.driver.activeJog.axis ≤ 6

theorem Synchronized.tracked {session : EfortSession} (synchronized : session.Synchronized sdk) :
    session.Tracked sdk := by
  refine ⟨fun first second => ?_, fun running => (synchronized.running _ _).mp running⟩
  rcases (synchronized.running _ _).mp first with ⟨_, sameAxis, sameDirection⟩
  rcases (synchronized.running _ _).mp second with ⟨_, otherAxis, otherDirection⟩
  exact ⟨sameAxis.symm.trans otherAxis, sameDirection.symm.trans otherDirection⟩

end EfortSession

theorem jogRunning_append_of_not_isJog {errorOk : ℤ} {axis : ℕ} {direction : JogDirection}
    {added earlier : List SdkExchange}
    (others : ∀ exchange ∈ added, (!exchange.call.isJog) = true) :
    jogRunning errorOk axis direction (added ++ earlier) =
      jogRunning errorOk axis direction earlier := by
  induction added with
  | nil => rfl
  | cons exchange added ih =>
      have other := others exchange List.mem_cons_self
      have rest := ih fun exchange mem => others exchange (List.mem_cons_of_mem _ mem)
      rw [List.cons_append, jogRunning]
      split
      · next call =>
        rw [call] at other
        cases other
      · exact rest

theorem failsStop_of_not_isJog {errorOk : ℤ} {exchange : SdkExchange}
    (other : (!exchange.call.isJog) = true) : exchange.failsStop errorOk = false := by
  unfold SdkExchange.failsStop
  split
  · next call =>
    rw [call] at other
    cases other
  · rfl

namespace EfortDriver

variable (sdk : EfortSdk)

/-! ### What the programs about jogs do -/

@[simp]
theorem run_current (session : EfortSession) : current.run session = .ok session.driver session :=
  rfl

@[simp]
theorem run_change (update : EfortDriver → EfortDriver) (session : EfortSession) :
    (change update).run session = .ok () { session with driver := update session.driver } := rfl

theorem run_invoke (call : SdkCall) (session : EfortSession) :
    (invoke sdk call).run session =
      .ok (sdk.answer session.exchanges session.driver.deviceId call)
        { session with exchanges := ⟨session.driver.deviceId, call,
            sdk.answer session.exchanges session.driver.deviceId call⟩ :: session.exchanges } := rfl

theorem run_settle_of_ok {code : ℤ} (isOk : code = sdk.constants.errorOk) (operation : String)
    (session : EfortSession) : (settle sdk code operation).run session = .ok () session := by
  simp [settle, isOk]

theorem run_settle_of_ne {code : ℤ} (notOk : code ≠ sdk.constants.errorOk) (operation : String)
    (session : EfortSession) : (settle sdk code operation).run session =
      .error (sdk.constants.mapEfortError code operation) session := by
  simp only [settle, EfortConstants.mapEfortError_ok, notOk, decide_false, Bool.false_eq_true,
    if_false]
  rfl

/-- The session after a call has been answered. -/
def answered (session : EfortSession) (call : SdkCall) (answer : SdkAnswer) : EfortSession :=
  { session with exchanges := ⟨session.driver.deviceId, call, answer⟩ :: session.exchanges }

/-- The outcomes of `StopActiveJog`. -/
inductive JogStop (session : EfortSession) : EStateM.Result Status EfortSession Unit → Prop where
  | idle (inactive : session.driver.hasActiveJog = false) : JogStop session (.ok () session)
  | stopped (active : session.driver.hasActiveJog = true) {answer : SdkAnswer}
      (isOk : answer.code = sdk.constants.errorOk) :
      JogStop session (.ok () (answered
        { session with driver := { session.driver with hasActiveJog := false } }
        (.jog session.driver.activeJog.axis session.driver.activeJog.direction false) answer))
  | failed (active : session.driver.hasActiveJog = true) {answer : SdkAnswer} {status : Status}
      (notOk : answer.code ≠ sdk.constants.errorOk) :
      JogStop session (.error status (answered
        { session with driver := { session.driver with hasActiveJog := false } }
        (.jog session.driver.activeJog.axis session.driver.activeJog.direction false) answer))

theorem stopActiveJog_cases {session : EfortSession}
    (inRange : session.driver.hasActiveJog = true →
      1 ≤ session.driver.activeJog.axis ∧ session.driver.activeJog.axis ≤ 6) :
    JogStop sdk session ((stopActiveJog sdk).run session) := by
  cases active : session.driver.hasActiveJog with
  | false =>
      have same : (stopActiveJog sdk).run session = .ok () session := by
        simp [stopActiveJog, active]
      rw [same]
      exact .idle active
  | true =>
      have bounds := inRange active
      generalize sameAnswer : sdk.answer session.exchanges session.driver.deviceId
        (.jog session.driver.activeJog.axis session.driver.activeJog.direction false) = answer
      by_cases isOk : answer.code = sdk.constants.errorOk
      · have run : (stopActiveJog sdk).run session = .ok () (answered
            { session with driver := { session.driver with hasActiveJog := false } }
            (.jog session.driver.activeJog.axis session.driver.activeJog.direction false)
            answer) := by
          simp [stopActiveJog, active, callJog, invokeJog, bounds, run_invoke, sameAnswer,
            run_settle_of_ok sdk isOk, answered]
        rw [run]
        exact .stopped active isOk
      · have run : (stopActiveJog sdk).run session =
            .error (sdk.constants.mapEfortError answer.code "Jog(stop)") (answered
              { session with driver := { session.driver with hasActiveJog := false } }
              (.jog session.driver.activeJog.axis session.driver.activeJog.direction false)
              answer) := by
          simp [stopActiveJog, active, callJog, invokeJog, bounds, run_invoke, sameAnswer,
            run_settle_of_ne sdk isOk, answered]
        rw [run]
        exact .failed active isOk

/-! ### What the operations preserve -/

/-- The driver is synchronized, and no call to stop a jog has failed so far. -/
structure InOrder (session : EfortSession) : Prop where
  synchronized : session.Synchronized sdk
  clean : session.Clean sdk

/-- From an orderly session a program leads to an orderly one, unless a call to stop a jog fails:
then the program fails, and the driver has lost track of the jog. -/
def KeepsOrder {Value : Type} (program : EfortProgram Value) : Prop :=
  ∀ session, InOrder sdk session → InOrder sdk (finalState program session) ∨
    (succeeds program session = false ∧ ¬(finalState program session).Tracked sdk ∧
      ¬(finalState program session).Clean sdk)

/-- The driver without the fields that do not matter for jogs. -/
def jogView (driver : EfortDriver) : EfortDriver := { driver with pausedByService := false }

theorem InOrder.stays {session after : EfortSession} (inOrder : InOrder sdk session)
    (stays : Stays (!·.isJog) jogView session after) : InOrder sdk after := by
  rcases stays with ⟨same, added, adds, others⟩
  have connected := congrArg EfortDriver.connected same
  have hasActiveJog := congrArg EfortDriver.hasActiveJog same
  have activeJog := congrArg EfortDriver.activeJog same
  simp only [jogView] at connected hasActiveJog activeJog
  constructor
  · constructor
    · exact connected.trans inOrder.synchronized.connected
    · intro axis direction
      rw [hasActiveJog, activeJog, ← inOrder.synchronized.running]
      unfold EfortSession.Running
      rw [adds, jogRunning_append_of_not_isJog others]
    · rw [hasActiveJog, activeJog]
      exact inOrder.synchronized.inRange
  · intro exchange mem
    rw [adds] at mem
    rcases List.mem_append.mp mem with new | old
    · exact failsStop_of_not_isJog (others exchange new)
    · exact inOrder.clean exchange old

namespace KeepsOrder

variable {Value Other : Type}

theorem of_keeps {program : EfortProgram Value}
    (keeps : Keeps (Stays (!·.isJog) jogView) program) : KeepsOrder sdk program := by
  intro session inOrder
  exact Or.inl (inOrder.stays sdk (keeps session))

theorem bind {program : EfortProgram Value} {next : Value → EfortProgram Other}
    (first : KeepsOrder sdk program) (rest : ∀ value, KeepsOrder sdk (next value)) :
    KeepsOrder sdk (program >>= next) := by
  intro session inOrder
  have outcome := first session inOrder
  cases run : program.run session with
  | ok value after =>
      rw [finalState_of_ok run, succeeds_of_ok run] at outcome
      rw [finalState_bind_of_ok run, succeeds_bind_of_ok run]
      rcases outcome with inOrder | ⟨failed, _⟩
      · exact rest value after inOrder
      · cases failed
  | error status after =>
      rw [finalState_of_error run] at outcome
      rw [finalState_bind_of_error run, succeeds_bind_of_error run]
      rcases outcome with inOrder | ⟨_, lost⟩
      · exact Or.inl inOrder
      · exact Or.inr ⟨rfl, lost⟩

theorem ite {condition : Prop} [Decidable condition] {program other : EfortProgram Value}
    (holds : KeepsOrder sdk program) (fails : KeepsOrder sdk other) :
    KeepsOrder sdk (if condition then program else other) := by
  split
  · exact holds
  · exact fails

end KeepsOrder

/-- No jog runs in an orderly session whose driver remembers none. -/
theorem InOrder.not_running {session : EfortSession} (inOrder : InOrder sdk session)
    (inactive : session.driver.hasActiveJog = false) (axis : ℕ) (direction : JogDirection) :
    ¬session.Running sdk axis direction := by
  intro running
  have active := ((inOrder.synchronized.running axis direction).mp running).1
  cases inactive.symm.trans active

theorem InOrder.jogStop {session : EfortSession} (inOrder : InOrder sdk session) :
    (∃ after, (stopActiveJog sdk).run session = .ok () after ∧ InOrder sdk after ∧
      after.driver.hasActiveJog = false) ∨
    ∃ status after, (stopActiveJog sdk).run session = .error status after ∧
      ¬after.Tracked sdk ∧ ¬after.Clean sdk := by
  have outcome := stopActiveJog_cases sdk inOrder.synchronized.inRange
  generalize (stopActiveJog sdk).run session = result at outcome
  cases outcome with
  | idle inactive => exact Or.inl ⟨session, rfl, inOrder, inactive⟩
  | stopped active isOk =>
      refine Or.inl ⟨_, rfl, ⟨⟨inOrder.synchronized.connected, ?_, ?_⟩, ?_⟩, rfl⟩
      · intro axis direction
        have before := inOrder.synchronized.running axis direction
        simp only [EfortSession.Running, active, true_and] at before
        simp only [EfortSession.Running, answered, jogRunning, isOk, and_true,
          Bool.false_eq_true, false_and, iff_false]
        split
        · simp
        · next other => rw [before]; exact other
      · intro active
        cases active
      · intro exchange mem
        rcases List.mem_cons.mp mem with rfl | old
        · simp [SdkExchange.failsStop, isOk]
        · exact inOrder.clean exchange old
  | @failed active answer _ notOk =>
      refine Or.inr ⟨_, _, rfl, fun tracked => ?_, fun clean => ?_⟩
      · have before := (inOrder.synchronized.running session.driver.activeJog.axis
          session.driver.activeJog.direction).mpr ⟨active, rfl, rfl⟩
        have running : EfortSession.Running sdk (answered
            { session with driver := { session.driver with hasActiveJog := false } }
            (.jog session.driver.activeJog.axis session.driver.activeJog.direction false) answer)
            session.driver.activeJog.axis session.driver.activeJog.direction := by
          simp only [EfortSession.Running, answered, jogRunning, notOk, and_false, if_false]
          exact before
        cases (tracked.known running).1
      · have failing := clean _ List.mem_cons_self
        simp [SdkExchange.failsStop, notOk] at failing

theorem keepsOrder_stopActiveJog : KeepsOrder sdk (stopActiveJog sdk) := by
  intro session inOrder
  rcases inOrder.jogStop with ⟨after, run, inOrder, _⟩ | ⟨status, after, run, lost⟩
  · rw [finalState_of_ok run]
    exact Or.inl inOrder
  · rw [finalState_of_error run, succeeds_of_error run]
    exact Or.inr ⟨rfl, lost⟩

/-- The start of a jog when none runs. -/
theorem InOrder.jogStart {session : EfortSession} (inOrder : InOrder sdk session)
    (inactive : session.driver.hasActiveJog = false) {command : JogCommand}
    (inRange : 1 ≤ command.axis ∧ command.axis ≤ 6) :
    InOrder sdk (finalState (do
      callJog sdk command true
      change fun driver => { driver with activeJog := command, hasActiveJog := true })
      session) := by
  have rests := inOrder.not_running sdk inactive
  generalize sameAnswer : sdk.answer session.exchanges session.driver.deviceId
    (.jog command.axis command.direction true) = answer
  have clean : ∀ exchange ∈ (answered session (.jog command.axis command.direction true)
      answer).exchanges, exchange.failsStop sdk.constants.errorOk = false := by
    intro exchange mem
    rcases List.mem_cons.mp mem with rfl | old
    · rfl
    · exact inOrder.clean exchange old
  by_cases isOk : answer.code = sdk.constants.errorOk
  · have run : (callJog sdk command true).run session =
        .ok () (answered session (.jog command.axis command.direction true) answer) := by
      simp [callJog, invokeJog, inRange, run_invoke, sameAnswer, run_settle_of_ok sdk isOk,
        answered]
    rw [finalState_bind_of_ok run]
    refine ⟨⟨inOrder.synchronized.connected, fun axis direction => ?_, fun _ => inRange⟩, clean⟩
    have rest := rests axis direction
    simp only [EfortSession.Running] at rest
    simp only [EfortSession.Running, finalState, run_change, answered, jogRunning, isOk, and_true,
      true_and]
    split
    · next same => simp [same]
    · next other => exact iff_of_false rest other
  · have run : (callJog sdk command true).run session =
        .error (sdk.constants.mapEfortError answer.code "Jog(start)")
          (answered session (.jog command.axis command.direction true) answer) := by
      simp [callJog, invokeJog, inRange, run_invoke, sameAnswer, run_settle_of_ne sdk isOk,
        answered]
    rw [finalState_bind_of_error run]
    refine ⟨⟨inOrder.synchronized.connected, fun axis direction => ?_, ?_⟩, clean⟩
    · have before := inOrder.synchronized.running axis direction
      simpa [EfortSession.Running, answered, jogRunning, isOk] using before
    · intro active
      cases inactive.symm.trans active

theorem keepsOrder_jog (command : JogCommand) : KeepsOrder sdk (jog sdk command) := by
  intro session inOrder
  have sets : Keeps (Stays (!·.isJog) jogView)
      (order sdk "SetJogMode" (.setJogMode (toEfortJogMode command.frame))) :=
    keeps_order sdk _ rfl
  unfold jog
  rw [finalState_bind_of_ok (run_current session), succeeds_bind_of_ok (run_current session)]
  split
  · exact Or.inl inOrder
  next inRange =>
  have inRange : 1 ≤ command.axis ∧ command.axis ≤ 6 := by
    simp only [efortAxisCount, not_or, not_lt] at inRange
    exact inRange
  split
  · exact keepsOrder_stopActiveJog sdk session inOrder
  split
  · exact Or.inl inOrder
  rcases inOrder.jogStop with ⟨stopped, run, inOrder, inactive⟩ | ⟨status, after, run, lost⟩
  · left
    rw [finalState_bind_of_ok run]
    have mode := sets stopped
    cases runMode : (order sdk "SetJogMode"
        (.setJogMode (toEfortJogMode command.frame))).run stopped with
    | ok value middle =>
        rw [finalState_of_ok runMode] at mode
        rw [finalState_bind_of_ok runMode]
        have hasActiveJog := congrArg EfortDriver.hasActiveJog mode.view
        exact (inOrder.stays sdk mode).jogStart sdk (hasActiveJog.trans inactive) inRange
    | error status after =>
        rw [finalState_of_error runMode] at mode
        rw [finalState_bind_of_error runMode]
        exact inOrder.stays sdk mode
  · right
    rw [finalState_bind_of_error run, succeeds_bind_of_error run]
    exact ⟨rfl, lost⟩

theorem keepsOrder_reply {Value : Type} {program : EfortProgram Value}
    {make : Value → EfortReply} (keeps : KeepsOrder sdk program) :
    KeepsOrder sdk (reply program make) := by
  apply KeepsOrder.bind sdk keeps
  intro value
  apply KeepsOrder.of_keeps
  apply Keeps.pure

theorem keepsOrder_powerOff : KeepsOrder sdk (powerOff sdk) := by
  apply KeepsOrder.bind sdk (keepsOrder_stopActiveJog sdk)
  intro _
  apply KeepsOrder.of_keeps
  apply Keeps.bind (keeps_forgetPause fun _ _ => rfl)
  intro _
  exact keeps_order sdk _ rfl

/-- Every operation on a connected driver keeps order, except for disconnecting it. -/
theorem keepsOrder_perform {operation : EfortOperation} (stays : operation ≠ .disconnect) :
    KeepsOrder sdk (perform sdk operation) := by
  cases operation with
  | disconnect => exact absurd rfl stays
  | connect options =>
      apply keepsOrder_reply
      intro session inOrder
      have refused : finalState (connect sdk options) session = session := by
        rw [connect, finalState_bind_of_ok (run_current session),
          if_pos inOrder.synchronized.connected]
        rfl
      rw [refused]
      exact Or.inl inOrder
  | powerOff => exact keepsOrder_reply sdk (keepsOrder_powerOff sdk)
  | stop mode =>
      apply keepsOrder_reply
      apply KeepsOrder.ite
      · apply KeepsOrder.of_keeps
        apply Keeps.throw
      apply KeepsOrder.bind sdk (keepsOrder_stopActiveJog sdk)
      intro _
      apply KeepsOrder.bind
      · apply KeepsOrder.of_keeps
        exact keeps_forgetPause fun _ _ => rfl
      intro _
      apply KeepsOrder.ite sdk (keepsOrder_powerOff sdk)
      apply KeepsOrder.of_keeps
      exact keeps_stopMotion sdk
  | jog command => exact keepsOrder_reply sdk (keepsOrder_jog sdk command)
  | acquireControl | releaseControl | powerOn | clearFault | setGlobalSpeed | moveJ | moveL
  | moveC | hold | resume | loadProgram | startProgram | stopProgram | readState | readAlarms
  | readDigitalInput | readDigitalOutput | writeDigitalOutput =>
      apply KeepsOrder.of_keeps
      apply keeps_perform_of_plain sdk (fun _ _ => rfl) <;> simp

/-! ### Connecting -/

theorem InOrder.checkModel {session after : EfortSession} {options : ConnectionOptions}
    (inOrder : InOrder sdk session) (run : (checkModel sdk options).run session = .ok () after) :
    InOrder sdk after := by
  unfold EfortDriver.checkModel at run
  rw [EStateM.run_bind, run_invoke] at run
  dsimp only at run
  split at run
  · rw [EStateM.run_bind] at run
    split at run <;> cases run
  split at run
  · rw [EStateM.run_bind] at run
    split at run <;> cases run
  cases run
  exact ⟨⟨inOrder.synchronized.connected, inOrder.synchronized.running,
    inOrder.synchronized.inRange⟩, List.forall_mem_cons.mpr ⟨rfl, inOrder.clean⟩⟩

/-- A new driver that has been connected is in order. -/
theorem inOrder_of_connect {options : ConnectionOptions} {start : EfortSession}
    (connects : (connect sdk options).run {} = .ok () start) : InOrder sdk start := by
  unfold connect at connects
  rw [EStateM.run_bind, run_current] at connects
  dsimp only at connects
  split at connects
  · cases connects
  split at connects
  · cases connects
  split at connects
  · cases connects
  split at connects
  · cases connects
  have asked : Keeps (Stays (!·.isJog) id) (query sdk "ConnectRobot"
      (.connectRobot options.address options.sdkDebugLogging options.verifySdkVersion)) :=
    keeps_query sdk _ rfl
  have stays := asked {}
  rw [EStateM.run_bind] at connects
  split at connects
  · next answer connected run =>
    rw [finalState_of_ok run] at stays
    rcases stays with ⟨same, added, adds, others⟩
    rw [EStateM.run_bind, run_change] at connects
    refine InOrder.checkModel sdk ⟨⟨rfl, fun axis direction => ?_, fun active => ?_⟩, ?_⟩ connects
    · have same : connected.driver = {} := same
      have rests : jogRunning sdk.constants.errorOk axis direction connected.exchanges = false := by
        rw [adds]
        exact jogRunning_append_of_not_isJog others
      simp [EfortSession.Running, rests, same]
    · have same : connected.driver = {} := same
      simp [same] at active
    · intro exchange mem
      have mem : exchange ∈ added := by simpa [adds] using mem
      exact failsStop_of_not_isJog (others exchange mem)
  · cases connects

end EfortDriver

namespace EfortSession

open EfortDriver

variable (sdk : EfortSdk)

/-! ### Runs -/

theorem Clean.of_after {session : EfortSession} {operation : EfortOperation}
    (clean : (session.after sdk operation).Clean sdk) : session.Clean sdk := by
  rcases keeps_perform sdk operation session with ⟨_, added, adds, _⟩
  intro exchange mem
  apply clean
  rw [after, adds]
  exact List.mem_append_right _ mem

theorem inOrder_afterAll {start : EfortSession} (inOrder : InOrder sdk start)
    {operations : List EfortOperation} (stays : .disconnect ∉ operations)
    (clean : (start.afterAll sdk operations).Clean sdk) :
    InOrder sdk (start.afterAll sdk operations) := by
  induction operations with
  | nil => exact inOrder
  | cons operation earlier ih =>
      rw [List.mem_cons, not_or] at stays
      have before := ih stays.2 (Clean.of_after sdk clean)
      rcases keepsOrder_perform sdk (Ne.symm stays.1) _ before with after | ⟨_, _, unclean⟩
      · exact after
      · exact absurd clean unclean

/-- The first call that an operation makes is the one that stops the given jog. -/
def StopsFirst (session : EfortSession) (operation : EfortOperation) (axis : ℕ)
    (direction : JogDirection) : Prop :=
  ∃ later answer, (session.after sdk operation).exchanges =
    later ++ ⟨session.driver.deviceId, .jog axis direction false, answer⟩ :: session.exchanges

theorem not_stopsFirst_of_unchanged {session : EfortSession} {operation : EfortOperation} {axis : ℕ}
    {direction : JogDirection} (unchanged : session.after sdk operation = session) :
    ¬session.StopsFirst sdk operation axis direction := by
  rintro ⟨later, answer, exchanges⟩
  rw [unchanged] at exchanges
  have lengths := congrArg List.length exchanges
  simp only [List.length_append, List.length_cons] at lengths
  omega

/-- `StopActiveJog` begins with the call that stops the jog which runs. -/
theorem stopActiveJog_calls {session : EfortSession} (inOrder : InOrder sdk session) {axis : ℕ}
    {direction : JogDirection} (running : session.Running sdk axis direction) : ∃ answer,
    (finalState (stopActiveJog sdk) session).exchanges =
      ⟨session.driver.deviceId, .jog axis direction false, answer⟩ :: session.exchanges := by
  rcases (inOrder.synchronized.running _ _).mp running with ⟨active, rfl, rfl⟩
  have outcome := stopActiveJog_cases sdk inOrder.synchronized.inRange
  cases run : (stopActiveJog sdk).run session with
  | ok value after =>
      rw [finalState_of_ok run]
      rw [run] at outcome
      cases outcome with
      | idle inactive => cases inactive.symm.trans active
      | stopped => exact ⟨_, rfl⟩
  | error status after =>
      rw [finalState_of_error run]
      rw [run] at outcome
      cases outcome
      exact ⟨_, rfl⟩

theorem stopsFirst_of_bind {session : EfortSession} {operation : EfortOperation}
    {next : Unit → EfortProgram Unit} {axis : ℕ} {direction : JogDirection}
    (inOrder : InOrder sdk session) (running : session.Running sdk axis direction)
    (runs : session.after sdk operation = finalState (stopActiveJog sdk >>= next) session)
    (adds : ∀ value, Keeps (Stays (fun _ => true) fun _ => ()) (next value)) :
    session.StopsFirst sdk operation axis direction := by
  rcases stopActiveJog_calls sdk inOrder running with ⟨answer, calls⟩
  unfold StopsFirst
  cases run : (stopActiveJog sdk).run session with
  | ok value stopped =>
      rw [finalState_of_ok run] at calls
      rw [runs, finalState_bind_of_ok run]
      rcases adds value stopped with ⟨_, later, added, _⟩
      exact ⟨later, answer, by rw [added, calls]⟩
  | error status stopped =>
      rw [finalState_of_error run] at calls
      rw [runs, finalState_bind_of_error run]
      exact ⟨[], answer, calls⟩

theorem finalState_reply {Value : Type} {program : EfortProgram Value}
    {make : Value → EfortReply} (session : EfortSession) :
    finalState (reply program make) session = finalState program session :=
  finalState_bind_pure program make session

/-- A stop begins by stopping the jog that runs, unless its mode is refused. -/
theorem stop_stopsFirst_iff {session : EfortSession} (inOrder : InOrder sdk session) {axis : ℕ}
    {direction : JogDirection} (running : session.Running sdk axis direction) (mode : StopMode) :
    session.StopsFirst sdk (.stop mode) axis direction ↔ mode ≠ .quick := by
  constructor
  · rintro first rfl
    exact not_stopsFirst_of_unchanged sdk rfl first
  · intro notQuick
    refine stopsFirst_of_bind sdk inOrder running ?_ fun _ => keeps_stopRest sdk mode
    rw [after, perform, finalState_reply, stop, if_neg notQuick]

/-- The end of a jog begins by stopping the one that runs, unless its axis is refused. -/
theorem jog_stopsFirst_iff {session : EfortSession} (inOrder : InOrder sdk session) {axis : ℕ}
    {direction : JogDirection} (running : session.Running sdk axis direction)
    {command : JogCommand} (ends : command.start = false) :
    session.StopsFirst sdk (.jog command) axis direction ↔
      1 ≤ command.axis ∧ command.axis ≤ efortAxisCount := by
  constructor
  · intro first
    by_contra outOfRange
    refine not_stopsFirst_of_unchanged sdk ?_ first
    rw [after, perform, finalState_reply, jog, finalState_bind_of_ok (run_current session), if_pos]
    · rfl
    · omega
  · intro inRange
    have pures : ∀ value, Keeps (Stays (fun _ => true) fun _ => ())
        (Pure.pure value : EfortProgram Unit) := fun value => Keeps.pure value
    refine stopsFirst_of_bind sdk inOrder running ?_ pures
    rw [after, perform, finalState_reply, jog, finalState_bind_of_ok (run_current session),
      if_neg (by omega), ends, bind_pure]
    rfl

/-- After a driver has been connected (the latest operation is the first of the list) it tracks the
jog that runs, in every run as long as no call to stop a jog fails, and no longer.  While it does,
stops and ends of jogs begin by stopping that jog, unless they are refused. -/
theorem running_jog_tracked_iff {options : ConnectionOptions} {start : EfortSession}
    {operations : List EfortOperation} (connects : (connect sdk options).run {} = .ok () start)
    (stays : .disconnect ∉ operations) :
    ((∀ performed, performed <:+ operations → (start.afterAll sdk performed).Tracked sdk) ↔
      (start.afterAll sdk operations).Clean sdk) ∧
    ∀ {axis direction}, (start.afterAll sdk operations).Clean sdk →
      (start.afterAll sdk operations).Running sdk axis direction →
      (∀ mode, (start.afterAll sdk operations).StopsFirst sdk (.stop mode) axis direction ↔
        mode ≠ .quick) ∧
      ∀ command, command.start = false →
        ((start.afterAll sdk operations).StopsFirst sdk (.jog command) axis direction ↔
          1 ≤ command.axis ∧ command.axis ≤ efortAxisCount) := by
  have inOrder := inOrder_of_connect sdk connects
  refine ⟨⟨fun tracked => ?_, fun clean => ?_⟩, fun clean running => ?_⟩
  · induction operations with
    | nil => exact inOrder.clean
    | cons operation earlier ih =>
        rw [List.mem_cons, not_or] at stays
        have clean := ih stays.2 fun performed sooner =>
          tracked performed (sooner.trans (List.suffix_cons _ _))
        have before := inOrder_afterAll sdk inOrder stays.2 clean
        rcases keepsOrder_perform sdk (Ne.symm stays.1) _ before with after | ⟨_, untracked, _⟩
        · exact after.clean
        · exact absurd (tracked _ (List.suffix_refl _)) untracked
  · intro performed sooner
    have cleanThen : (start.afterAll sdk performed).Clean sdk := by
      rcases sooner with ⟨later, rfl⟩
      induction later with
      | nil => exact clean
      | cons operation later ih =>
          rw [List.cons_append, List.mem_cons, not_or] at stays
          exact ih stays.2 (Clean.of_after sdk clean)
    exact (inOrder_afterAll sdk inOrder (fun mem => stays (sooner.subset mem))
      cleanThen).synchronized.tracked
  · have now := inOrder_afterAll sdk inOrder stays clean
    exact ⟨stop_stopsFirst_iff sdk now running, fun _ => jog_stopsFirst_iff sdk now running⟩

/-! ### Examples -/

/-- Some error codes. -/
def sampleConstants : EfortConstants where
  errorOk := 0
  errorConnectFailed := 1
  errorNoConnection := 2
  errorConnectionBroken := 3
  errorAccessRejected := 4
  errorCurModeNotSupport := 5
  errorServoOnFailed := 6
  errorPowerOffFailed := 7
  errorSetModeFailed := 8
  errorSetSpeedRatioFailed := 9
  errorStartProgramFailed := 10
  errorResetProgramFailed := 11
  errorLoadProgramFailed := 12
  errorParaInvalid := 13
  errorStillRunning := 14
  errorSetParaFailed := 15
  errorGetParaFailed := 16
  errorMoveFailed := 17
  errorEnableApiControlFailed := 18
  errorThirdOperationTimeOut := 19
  errorThirdReceiveNoData := 20
  errorThirdReceiveLossData := 21
  errorThirdParty := 100
  errorRobotNotInPosition := 22
  errorTargetInvalid := 23
  errorMemoryLack := 24
  errorVersionMismatch := 25
  maxCharLength := 64

/-- An SDK on which the calls of one kind fail and every flag is set. -/
def sdkFailing (fails : SdkCall → Bool) : EfortSdk where
  constants := sampleConstants
  answer _ _ call := { code := if fails call then 17 else 0, flag := true }

def sampleOptions : ConnectionOptions := { address := "10.0.0.2" }

/-- A new driver after its connection. -/
def sampleStart : EfortSession := finalState (connect sdk sampleOptions) {}

/-- The call that stops the jog fails, so the stop fails; the next stop is reported as done while
the jog still runs. -/
theorem jog_runs_behind_stop : ∃ sdk options start,
    (connect sdk options).run {} = .ok () start ∧
    ¬(start.afterAll sdk [.stop .controlled, .jog {}]).Tracked sdk ∧
    (start.afterAll sdk [.stop .controlled, .jog {}]).succeeds sdk (.stop .controlled) = true ∧
    (start.afterAll sdk [.stop .controlled, .stop .controlled, .jog {}]).Running sdk 1
      .positive := by
  let sdk := sdkFailing SdkCall.stopsJog
  have running : ((sampleStart sdk).afterAll sdk [.stop .controlled, .jog {}]).Running sdk 1
      .positive := by
    unfold Running
    decide
  have runningStill : ((sampleStart sdk).afterAll sdk
      [.stop .controlled, .stop .controlled, .jog {}]).Running sdk 1 .positive := by
    unfold Running
    decide
  refine ⟨sdk, sampleOptions, sampleStart sdk, rfl, fun tracked => ?_, by decide, runningStill⟩
  cases (tracked.known running).1

/-- The jog that runs is stopped. -/
theorem running_jog_tracked_iff_stop : ∃ sdk options start,
    (connect sdk options).run {} = .ok () start ∧
    (start.afterAll sdk [.jog {}]).Tracked sdk ∧
    (start.afterAll sdk [.jog {}]).Running sdk 1 .positive ∧
    (start.afterAll sdk [.jog {}]).StopsFirst sdk (.stop .controlled) 1 .positive := by
  let sdk := sdkFailing fun _ => false
  have connects : (connect sdk sampleOptions).run {} = .ok () (sampleStart sdk) := rfl
  have running : ((sampleStart sdk).afterAll sdk [.jog {}]).Running sdk 1 .positive := by
    unfold Running
    decide
  have clean : ((sampleStart sdk).afterAll sdk [.jog {}]).Clean sdk := by
    unfold Clean
    decide
  have stays : EfortOperation.disconnect ∉ [EfortOperation.jog {}] := by decide
  have tracks := running_jog_tracked_iff sdk connects stays
  exact ⟨sdk, sampleOptions, _, connects, tracks.1.mpr clean _ (List.suffix_refl _), running,
    ((tracks.2 clean running).1 .controlled).mpr (by decide)⟩

end EfortSession

end RobotManager
