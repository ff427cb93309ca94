import RobotManager.Adapters.EfortJog
import RobotManager.Control.MotionOutcome
import RobotManager.Control.Schedules

/-!
# Held robots

The adapter reports a robot that it holds as paused, and the executor does not take a
paused robot for one whose motion has ended.  Some operations clear the pause before the
SDK call that decides whether anything happens, and when that call fails the robot is
still held but no longer reported as paused.
-/

namespace RobotManager

open Fallible

namespace EfortOperation

/-- The calls that an operation makes after it has cleared the pause. -/
def clearsBefore (operation : EfortOperation) (call : SdkCall) : Bool :=
  match operation, call with
  | .powerOff, .powerOff | .stop _, .powerOff | .stop _, .getCurrentProStatus
  | .stop _, .stopProgram | .stop _, .getMoveState | .stop _, .moveHold | .stop _, .moveClear
  | .moveJ _ _, .mjoint _ _ _ | .moveL _ _, .mlin _ _ _ | .moveC _ _, .mcirc _ _ _ _ _ _
  | .startProgram, .startProgram => true
  | _, _ => false

/-- Whether an answer of the SDK makes an operation fail with the pause cleared: a call after the
pause was cleared fails, or the check of the model does, after which `Connect` disconnects. -/
def dropsHold (errorOk : ℤ) (operation : EfortOperation) (exchange : SdkExchange) : Bool :=
  match operation, exchange.call with
  | .connect options, .getCurrentRobotType => exchange.answer.code != errorOk ||
      !efortModelMatches options.expectedModel exchange.answer.model
  | _, _ => operation.clearsBefore exchange.call && exchange.answer.code != errorOk

/-- The operations that end a hold when they succeed. -/
def endsHold : EfortOperation → Bool
  | .disconnect | .powerOff | .moveJ _ _ | .moveL _ _ | .moveC _ _ | .resume | .stop _
  | .startProgram | .stopProgram => true
  | _ => false

/-- What an operation that succeeds makes of the pause. -/
def Pauses (operation : EfortOperation) (before after : Bool) : Prop :=
  match operation with
  | .hold => after = true
  | operation => operation.endsHold = false → after = before

end EfortOperation

theorem EfortOperation.pauses_of_endsHold {operation : EfortOperation}
    (ends : operation.endsHold = true) (before after : Bool) : operation.Pauses before after := by
  cases operation <;> first | (cases ends; done) | exact fun stays => by cases stays

theorem EfortOperation.dropsHold_of_not_clearsBefore {errorOk : ℤ} {operation : EfortOperation}
    {exchange : SdkExchange} (connects : ∀ options, operation ≠ .connect options)
    (spared : (!operation.clearsBefore exchange.call) = true) :
    operation.dropsHold errorOk exchange = false := by
  unfold dropsHold
  split
  · exact absurd rfl (connects _)
  · rw [Bool.not_eq_true'] at spared
    rw [spared, Bool.false_and]

namespace EfortDriver

variable (sdk : EfortSdk)

/-- The ways in which a program treats a pause: it succeeds, it fails before it has cleared the
pause, or it fails after that and has been told so by one of its calls. -/
def Treats {Value : Type} (drops : SdkExchange → Bool) (pauses : Bool → Bool → Prop)
    (program : EfortProgram Value) (session : EfortSession) : Prop :=
  ∃ added, (finalState program session).exchanges = added ++ session.exchanges ∧
    ((succeeds program session = true ∧ added.any drops = false ∧
        pauses session.driver.pausedByService (finalState program session).driver.pausedByService) ∨
      (succeeds program session = false ∧ added.any drops = false ∧
        (finalState program session).driver.pausedByService = session.driver.pausedByService) ∨
      (succeeds program session = false ∧ added.any drops = true ∧
        (finalState program session).driver.pausedByService = false))

section Treatments

variable {Value Other : Type} {drops : SdkExchange → Bool} {pauses : Bool → Bool → Prop}
  {kind : SdkCall → Bool} {session : EfortSession}

theorem Treats.congr {program other : EfortProgram Value}
    (same : program.run session = other.run session) (treats : Treats drops pauses other session) :
    Treats drops pauses program session := by
  unfold Treats
  rw [finalState_congr same, succeeds_congr same]
  exact treats

theorem Treats.reply {program : EfortProgram Value} {make : Value → EfortReply}
    (treats : Treats drops pauses program session) :
    Treats drops pauses (reply program make) session := by
  have same : succeeds (EfortDriver.reply program make) session = succeeds program session :=
    succeeds_bind_pure program make session
  unfold Treats
  rw [EfortSession.finalState_reply, same]
  exact treats

theorem any_drops_eq_false {added : List SdkExchange}
    (spares : ∀ exchange : SdkExchange, kind exchange.call = true → drops exchange = false)
    (kinds : ∀ exchange ∈ added, kind exchange.call = true) : added.any drops = false := by
  rw [List.any_eq_false]
  intro exchange mem
  rw [spares exchange (kinds exchange mem)]
  exact Bool.false_ne_true

/-- A program that leaves the pause alone. -/
theorem treats_of_keeps {program : EfortProgram Value}
    (keeps : Keeps (Stays kind EfortDriver.pausedByService) program)
    (spares : ∀ exchange : SdkExchange, kind exchange.call = true → drops exchange = false)
    (stays : ∀ paused, pauses paused paused) : Treats drops pauses program session := by
  rcases keeps session with ⟨same, added, adds, kinds⟩
  have spared := any_drops_eq_false spares kinds
  refine ⟨added, adds, ?_⟩
  cases outcome : succeeds program session with
  | true => exact Or.inl ⟨rfl, spared, same ▸ stays _⟩
  | false => exact Or.inr (Or.inl ⟨rfl, spared, same⟩)

/-- A program that leaves the pause alone, followed by another one. -/
theorem treats_bind {program : EfortProgram Value} {next : Value → EfortProgram Other}
    (keeps : Keeps (Stays kind EfortDriver.pausedByService) program)
    (spares : ∀ exchange : SdkExchange, kind exchange.call = true → drops exchange = false)
    (rest : ∀ value after, program.run session = .ok value after →
      Treats drops pauses (next value) after) : Treats drops pauses (program >>= next) session := by
  rcases keeps session with ⟨same, added, adds, kinds⟩
  have spared := any_drops_eq_false spares kinds
  cases run : program.run session with
  | ok value middle =>
      rw [finalState_of_ok run] at same adds
      rcases rest value middle run with ⟨later, addsLater, treats⟩
      refine ⟨later ++ added, ?_, ?_⟩
      · rw [finalState_bind_of_ok run, addsLater, adds, List.append_assoc]
      · rw [finalState_bind_of_ok run, succeeds_bind_of_ok run, List.any_append, spared,
          Bool.or_false, ← same]
        exact treats
  | error status after =>
      rw [finalState_of_error run] at same adds
      refine ⟨added, ?_, Or.inr (Or.inl ?_)⟩
      · rw [finalState_bind_of_error run, adds]
      · rw [finalState_bind_of_error run, succeeds_bind_of_error run]
        exact ⟨rfl, spared, same⟩

/-- A program that clears the pause and then does something that its calls decide on. -/
theorem treats_forgetPause {program : EfortProgram Unit}
    (accounts : Accounts EfortSession.exchanges drops program)
    (keeps : Keeps (Stays kind EfortDriver.pausedByService) program)
    (clears : ∀ paused, pauses paused false) :
    Treats drops pauses (forgetPause >>= fun _ => program) session := by
  let cleared : EfortSession :=
    { session with driver := { session.driver with pausedByService := false } }
  have run : forgetPause.run session = .ok () cleared := rfl
  rcases accounts cleared with ⟨added, adds, outcome⟩
  have paused : (finalState program cleared).driver.pausedByService = false := (keeps cleared).view
  refine ⟨added, by rw [finalState_bind_of_ok run, adds], ?_⟩
  rw [finalState_bind_of_ok run, succeeds_bind_of_ok run, outcome, paused]
  cases added.any drops with
  | false => exact Or.inl ⟨rfl, rfl, clears _⟩
  | true => exact Or.inr (Or.inr ⟨rfl, rfl, rfl⟩)

theorem treats_change {update : EfortDriver → EfortDriver}
    (changes : pauses session.driver.pausedByService (update session.driver).pausedByService) :
    Treats drops pauses (change update) session :=
  ⟨[], rfl, Or.inl ⟨rfl, rfl, changes⟩⟩

theorem treats_throw (status : Status) :
    Treats drops pauses (throw status : EfortProgram Value) session :=
  ⟨[], rfl, Or.inr (Or.inl ⟨rfl, rfl, rfl⟩)⟩

end Treatments

/-! ### Programs decided by their calls -/

section Accounts

variable {drops : SdkExchange → Bool}

theorem accounts_query (operation : String) {call : SdkCall}
    (decides : ∀ device answer,
      drops ⟨device, call, answer⟩ = (answer.code != sdk.constants.errorOk)) :
    Accounts EfortSession.exchanges drops (query sdk operation call) := by
  intro session
  generalize sameAnswer : sdk.answer session.exchanges session.driver.deviceId call = answer
  have invoked : (invoke sdk call).run session = .ok answer (answered session call answer) := by
    rw [run_invoke, sameAnswer]
    rfl
  refine ⟨[⟨session.driver.deviceId, call, answer⟩], ?_, ?_⟩
  all_goals unfold query
  · rw [finalState_bind_of_ok invoked]
    by_cases isOk : answer.code = sdk.constants.errorOk
    · rw [finalState_bind_of_ok (run_settle_of_ok sdk isOk _ _)]
      rfl
    · rw [finalState_bind_of_error (run_settle_of_ne sdk isOk _ _)]
      rfl
  · rw [succeeds_bind_of_ok invoked, List.any_cons, List.any_nil, Bool.or_false, decides]
    by_cases isOk : answer.code = sdk.constants.errorOk
    · rw [succeeds_bind_of_ok (run_settle_of_ok sdk isOk _ _), isOk, bne_self_eq_false]
      rfl
    · rw [succeeds_bind_of_error (run_settle_of_ne sdk isOk _ _), bne_iff_ne.mpr isOk]
      rfl

theorem accounts_order (operation : String) {call : SdkCall}
    (decides : ∀ device answer,
      drops ⟨device, call, answer⟩ = (answer.code != sdk.constants.errorOk)) :
    Accounts EfortSession.exchanges drops (order sdk operation call) := by
  apply Accounts.bind (accounts_query sdk operation decides)
  intro _
  apply Accounts.pure

theorem accounts_onlyIf (condition : Bool) {program : EfortProgram Unit}
    (accounts : Accounts EfortSession.exchanges drops program) :
    Accounts EfortSession.exchanges drops (onlyIf condition program) := by
  apply Accounts.ite accounts
  apply Accounts.pure

theorem accounts_stopMotion (mode : StopMode) : Accounts EfortSession.exchanges
    (EfortOperation.dropsHold sdk.constants.errorOk (.stop mode)) (stopMotion sdk) := by
  apply Accounts.bind (accounts_query sdk _ fun _ _ => rfl)
  intro program
  apply Accounts.bind (accounts_onlyIf _ (accounts_order sdk _ fun _ _ => rfl))
  intro _
  apply Accounts.bind (accounts_query sdk _ fun _ _ => rfl)
  intro move
  apply Accounts.bind (accounts_onlyIf _ (accounts_order sdk _ fun _ _ => rfl))
  intro _
  exact accounts_order sdk _ fun _ _ => rfl

end Accounts

/-! ### How each operation treats the pause -/

/-- `Disconnect` succeeds always. -/
theorem succeeds_disconnect (session : EfortSession) :
    succeeds (disconnect sdk) session = true := by
  unfold disconnect
  rw [succeeds_bind_of_ok (run_current session)]
  split
  · rfl
  · rw [succeeds_bind_of_ok (run_attempt _ _), succeeds_bind_of_ok (run_invoke sdk _ _)]
    unfold onlyIf
    split <;> rfl

theorem stopActiveJog_inactive {session after : EfortSession}
    (run : (stopActiveJog sdk).run session = .ok () after) :
    after.driver.hasActiveJog = false := by
  unfold stopActiveJog at run
  rw [EStateM.run_bind, run_current] at run
  dsimp only at run
  split at run
  · next inactive =>
    cases run
    simpa using inactive
  · rw [EStateM.run_bind] at run
    split at run
    · cases run
      rfl
    · cases run

/-- A stop that asks for the power to be switched off switches it off. -/
theorem run_stop_powerOffRequest (session : EfortSession) :
    (stop sdk .powerOffRequest).run session = (powerOff sdk).run session := by
  unfold stop powerOff
  rw [if_neg (by decide), EStateM.run_bind, EStateM.run_bind]
  split
  · next value after run =>
    have inactive := stopActiveJog_inactive sdk run
    let cleared : EfortSession :=
      { after with driver := { after.driver with pausedByService := false } }
    have again : (stopActiveJog sdk).run cleared = .ok () cleared := by
      simp [stopActiveJog, cleared, inactive]
    have clears : forgetPause.run after = .ok () cleared := rfl
    have clearsAgain : forgetPause.run cleared = .ok () cleared := rfl
    rw [if_pos rfl, EStateM.run_bind, EStateM.run_bind, clears]
    dsimp only
    rw [EStateM.run_bind, again]
    dsimp only
    rw [EStateM.run_bind, clearsAgain]
  · rfl

theorem disconnect_clears {session : EfortSession} (connected : session.driver.connected = true) :
    (finalState (disconnect sdk) session).driver.pausedByService = false := by
  unfold disconnect
  rw [finalState_bind_of_ok (run_current session), if_neg (by simp [connected]),
    finalState_bind_of_ok (run_attempt _ _), finalState_bind_of_ok (run_invoke sdk _ _)]
  unfold onlyIf
  split <;> rfl

/-- A program that is told of a failure disconnects before it returns it. -/
theorem treats_refusal {drops : SdkExchange → Bool} {pauses : Bool → Bool → Prop}
    {program : EfortProgram Unit} {session asked : EfortSession} {exchange : SdkExchange}
    {status : Status} (asks : asked.exchanges = exchange :: session.exchanges)
    (connected : asked.driver.connected = true) (dropped : drops exchange = true)
    (same : program.run session =
      (disconnect sdk >>= fun _ => (throw status : EfortProgram Unit)).run asked) :
    Treats drops pauses program session := by
  have state : finalState program session = finalState (disconnect sdk) asked := by
    rw [finalState_congr same, finalState_bind_throw]
  have outcome : succeeds program session = false := by
    rw [succeeds_congr same, succeeds_bind_throw]
  rcases keeps_disconnect sdk asked with ⟨_, added, adds, _⟩
  refine ⟨added ++ [exchange], ?_, Or.inr (Or.inr ⟨outcome, ?_, ?_⟩)⟩
  · rw [state, adds, asks, List.append_assoc, List.singleton_append]
  · rw [List.any_append, List.any_cons, dropped, Bool.true_or, Bool.or_true]
  · rw [state]
    exact disconnect_clears sdk connected

theorem treats_checkModel {session : EfortSession} {options : ConnectionOptions}
    (connected : session.driver.connected = true) :
    Treats (EfortOperation.dropsHold sdk.constants.errorOk (.connect options))
      (EfortOperation.Pauses (.connect options)) (checkModel sdk options) session := by
  generalize sameAnswer : sdk.answer session.exchanges session.driver.deviceId
    .getCurrentRobotType = answer
  have invoked : (invoke sdk .getCurrentRobotType).run session =
      .ok answer (answered session .getCurrentRobotType answer) := by
    rw [run_invoke, sameAnswer]
    rfl
  have asks : (answered session .getCurrentRobotType answer).exchanges =
      ⟨session.driver.deviceId, .getCurrentRobotType, answer⟩ :: session.exchanges := rfl
  by_cases isOk : answer.code = sdk.constants.errorOk
  · cases isModel : efortModelMatches options.expectedModel answer.model with
    | true =>
        have run : (checkModel sdk options).run session = .ok ()
            { answered session .getCurrentRobotType answer with
              driver := { session.driver with controllerModel := answer.model } } := by
          rw [checkModel, EStateM.run_bind, invoked]
          simp [isOk, isModel, answered]
        refine ⟨[⟨session.driver.deviceId, .getCurrentRobotType, answer⟩], ?_,
          Or.inl ⟨succeeds_of_ok run, ?_, ?_⟩⟩
        · rw [finalState_of_ok run]
          rfl
        · simp [EfortOperation.dropsHold, isOk, isModel]
        · rw [finalState_of_ok run]
          exact fun _ => rfl
    | false =>
        apply treats_refusal sdk asks connected (by simp [EfortOperation.dropsHold, isModel])
        rw [checkModel, EStateM.run_bind, invoked]
        simp [isOk, isModel]
        rfl
  · apply treats_refusal sdk asks connected (by simp [EfortOperation.dropsHold, isOk])
    rw [checkModel, EStateM.run_bind, invoked]
    simp [isOk]
    rfl

section Operations

variable {operation : EfortOperation} {session : EfortSession}

/-- An operation that begins with calls which do not decide about the pause. -/
theorem treats_then {Value : Type} {program : EfortProgram Value}
    {next : Value → EfortProgram Unit} (connects : ∀ options, operation ≠ .connect options)
    (keeps : Keeps (Stays (!operation.clearsBefore ·) EfortDriver.pausedByService) program)
    (rest : ∀ value after, Treats (operation.dropsHold sdk.constants.errorOk) operation.Pauses
      (next value) after) :
    Treats (operation.dropsHold sdk.constants.errorOk) operation.Pauses (program >>= next)
      session :=
  treats_bind keeps
    (fun _ spared => EfortOperation.dropsHold_of_not_clearsBefore connects spared)
    fun value after _ => rest value after

/-- An operation that clears the pause before a call that decides. -/
theorem treats_clear {name : String} {call : SdkCall} (ends : operation.endsHold = true)
    (decides : ∀ device answer, operation.dropsHold sdk.constants.errorOk ⟨device, call, answer⟩ =
      (answer.code != sdk.constants.errorOk)) :
    Treats (operation.dropsHold sdk.constants.errorOk) operation.Pauses
      (forgetPause >>= fun _ => order sdk name call) session := by
  have keeps : Keeps (Stays (fun _ => true) EfortDriver.pausedByService) (order sdk name call) :=
    keeps_order sdk name rfl
  exact treats_forgetPause (accounts_order sdk name decides) keeps fun _ =>
    EfortOperation.pauses_of_endsHold ends _ _

/-- `Stop` clears the pause once it has stopped the jog; the calls after that decide. -/
theorem treats_stop (mode : StopMode) (session : EfortSession) :
    Treats (EfortOperation.dropsHold sdk.constants.errorOk (.stop mode))
      (EfortOperation.Pauses (.stop mode)) (stop sdk mode) session := by
  by_cases powersOff : mode = .powerOffRequest
  · subst powersOff
    apply Treats.congr (run_stop_powerOffRequest sdk session)
    apply treats_then sdk (by simp) (keeps_stopActiveJog sdk (fun _ _ => rfl) fun _ _ => rfl)
    intro _ _
    exact treats_clear sdk rfl fun _ _ => rfl
  unfold stop
  split
  · exact treats_throw _
  apply treats_then sdk (by simp) (keeps_stopActiveJog sdk (fun _ _ => rfl) fun _ _ => rfl)
  intro _ _
  exact treats_forgetPause (accounts_stopMotion sdk mode) (keeps_stopMotion sdk) fun _ =>
    EfortOperation.pauses_of_endsHold rfl _ _

/-- `Connect` leaves the pause alone up to the check of the model. -/
theorem treats_connect (options : ConnectionOptions) (session : EfortSession) :
    Treats (EfortOperation.dropsHold sdk.constants.errorOk (.connect options))
      (EfortOperation.Pauses (.connect options)) (connect sdk options) session := by
  have reads : Keeps (Stays (fun _ => false) EfortDriver.pausedByService) current :=
    keeps_current
  apply treats_bind reads (fun _ never => by cases never)
  intro driver after run
  cases run
  split
  · exact treats_throw _
  split
  · exact treats_throw _
  split
  · exact treats_throw _
  split
  · exact treats_throw _
  have asks : Keeps (Stays (· ≠ .getCurrentRobotType) EfortDriver.pausedByService)
      (query sdk "ConnectRobot" (.connectRobot options.address options.sdkDebugLogging
        options.verifySdkVersion)) := keeps_query sdk _ (by simp)
  apply treats_bind asks
  · intro exchange other
    unfold EfortOperation.dropsHold
    split
    · next isModel => simp [isModel] at other
    · rfl
  intro answer after _
  have sets : Keeps (Stays (fun _ => false) EfortDriver.pausedByService)
      (change fun driver => { driver with
        deviceId := answer.deviceId
        expectedModel := options.expectedModel
        connected := true }) := keeps_change fun _ => rfl
  apply treats_bind sets (fun _ never => by cases never)
  intro _ connected run
  cases run
  exact treats_checkModel sdk rfl

/-- Every operation treats the pause in one of the three ways. -/
theorem treats_perform (operation : EfortOperation) (session : EfortSession) :
    Treats (operation.dropsHold sdk.constants.errorOk) operation.Pauses (perform sdk operation)
      session := by
  cases operation with
  | acquireControl | releaseControl | powerOn | clearFault | setGlobalSpeed | loadProgram
  | readState | readAlarms | readDigitalInput | readDigitalOutput | writeDigitalOutput =>
      refine treats_of_keeps (keeps_perform_of_isQuiet sdk rfl) (fun exchange _ => ?_)
        fun _ _ => rfl
      exact EfortOperation.dropsHold_of_not_clearsBefore (by simp) rfl
  | jog command =>
      refine treats_of_keeps (keeps_reply (keeps_jog sdk command fun _ _ _ => rfl))
        (fun exchange _ => ?_) fun _ _ => rfl
      exact EfortOperation.dropsHold_of_not_clearsBefore (by simp) rfl
  | hold =>
      apply Treats.reply
      apply treats_then sdk (by simp) (keeps_order sdk _ rfl)
      intro _ _
      exact treats_change rfl
  | resume | stopProgram =>
      apply Treats.reply
      apply treats_then sdk (by simp) (keeps_order sdk _ rfl)
      intro _ _
      exact treats_change fun stays => by cases stays
  | powerOff =>
      apply Treats.reply
      apply treats_then sdk (by simp) (keeps_stopActiveJog sdk (fun _ _ => rfl) fun _ _ => rfl)
      intro _ _
      exact treats_clear sdk rfl fun _ _ => rfl
  | startProgram =>
      apply Treats.reply
      exact treats_clear sdk rfl fun _ _ => rfl
  | moveJ =>
      apply Treats.reply
      unfold moveJ
      split
      · exact treats_throw _
      apply treats_then sdk (by simp) (keeps_order sdk _ rfl)
      intro _ _
      exact treats_clear sdk rfl fun _ _ => rfl
  | moveL =>
      apply Treats.reply
      apply treats_then sdk (by simp) (keeps_selectFrames sdk _ _ rfl rfl)
      intro _ _
      apply treats_then sdk (by simp) (keeps_order sdk _ rfl)
      intro _ _
      exact treats_clear sdk rfl fun _ _ => rfl
  | moveC =>
      apply Treats.reply
      apply treats_then sdk (by simp) (keeps_selectFrames sdk _ _ rfl rfl)
      intro _ _
      apply treats_then sdk (by simp) (keeps_order sdk _ rfl)
      intro _ _
      apply treats_then sdk (by simp) (keeps_order sdk _ rfl)
      intro _ _
      exact treats_clear sdk rfl fun _ _ => rfl
  | stop mode => exact (treats_stop sdk mode session).reply
  | connect options => exact (treats_connect sdk options session).reply
  | disconnect =>
      apply Treats.reply
      rcases keeps_disconnect sdk session with ⟨_, added, adds, _⟩
      refine ⟨added, adds, Or.inl ⟨succeeds_disconnect sdk session, ?_,
        EfortOperation.pauses_of_endsHold rfl _ _⟩⟩
      rw [List.any_eq_false]
      intro exchange _
      rw [EfortOperation.dropsHold_of_not_clearsBefore (by simp) rfl]
      exact Bool.false_ne_true

end Operations

theorem pausedByService_of_run {Value : Type} {kind : SdkCall → Bool}
    {program : EfortProgram Value} {session after : EfortSession} {value : Value}
    (keeps : Keeps (Stays kind EfortDriver.pausedByService) program)
    (run : program.run session = .ok value after) :
    after.driver.pausedByService = session.driver.pausedByService := by
  have stays := keeps session
  rw [finalState_of_ok run] at stays
  exact stays.view

theorem readConnected_paused {now : TimePoint} {session after : EfortSession}
    {snapshot : RobotSnapshot} (run : (readConnected sdk now).run session = .ok snapshot after)
    (paused : session.driver.pausedByService = true) : snapshot.paused = true := by
  rcases exists_of_bind_ok run with ⟨status, first, asksStatus, run⟩
  rcases exists_of_bind_ok run with ⟨control, second, asksControl, run⟩
  rcases exists_of_bind_ok run with ⟨driver, third, reads, run⟩
  have keepsStatus : Keeps (Stays (!·.isJog) EfortDriver.pausedByService)
      (query sdk "GetRobotStatusData" .getRobotStatusData) := keeps_query sdk _ rfl
  have keepsControl : Keeps (Stays (!·.isJog) EfortDriver.pausedByService)
      (invoke sdk .isApiControl) := keeps_invoke sdk rfl
  have kept := (pausedByService_of_run keepsControl asksControl).trans
    (pausedByService_of_run keepsStatus asksStatus)
  have isDriver : driver.pausedByService = true := by
    cases reads
    exact kept.trans paused
  rcases exists_of_bind_ok run with ⟨servo, _, _, run⟩
  rcases exists_of_bind_ok run with ⟨emergency, _, _, run⟩
  rcases exists_of_bind_ok run with ⟨alarm, _, _, run⟩
  rcases exists_of_bind_ok run with ⟨move, _, _, run⟩
  rcases exists_of_bind_ok run with ⟨joints, _, _, run⟩
  rcases exists_of_bind_ok run with ⟨pose, _, _, run⟩
  cases run
  simp [isDriver]

/-- A reading of a connected controller shows the pause. -/
theorem readState_paused {now : TimePoint} {session after : EfortSession}
    {snapshot : RobotSnapshot} (run : (readState sdk now).run session = .ok snapshot after)
    (connected : snapshot.connected = true) (paused : session.driver.pausedByService = true) :
    snapshot.paused = true := by
  rcases exists_of_bind_ok run with ⟨isConnected, start, reads, rest⟩
  have kept := pausedByService_of_run (keeps_isConnected sdk) reads
  split at rest
  · exact readConnected_paused sdk rest (kept.trans paused)
  · cases rest
    cases connected

end EfortDriver

namespace Impl

/-- Publishing a paused robot lets no command succeed. -/
theorem publishLocked_paused {options : ExecutorOptions} {leases : ControlLeaseManager}
    {snapshot : RobotSnapshot} {now : TimePoint} {impl : Impl} {id : ℕ}
    {old record : CommandRecord} (paused : snapshot.paused = true)
    (before : impl.commands.lookup id = some old) (unfinished : isTerminal old.state = false)
    (found : (impl.publishLocked options leases (.ok snapshot) now).commands.lookup id =
      some record) : record.state ≠ .succeeded := by
  intro succeeded
  have finishes := (publishLocked_succeeded before unfinished found succeeded).2
  simp only [readingFinishes, publishState, Bool.true_and, finishesMotion] at finishes
  split at finishes
  · cases finishes
  · simp [paused] at finishes

end Impl

namespace EfortSession

open EfortDriver

variable (sdk : EfortSdk)

/-- The session of a new driver after a list of operations, the latest first. -/
def ofNew (operations : List EfortOperation) : EfortSession := afterAll sdk {} operations

/-- Whether the robot is held: after the latest successful `Hold` no operation that ends the hold
has succeeded. -/
def held : List EfortOperation → Bool
  | [] => false
  | operation :: earlier =>
      if (ofNew sdk earlier).succeeds sdk operation then
        operation == .hold || (!operation.endsHold && held earlier)
      else held earlier

/-- An operation begins in a pause, and the SDK fails it after it has cleared the pause. -/
def Forgets (session : EfortSession) (operation : EfortOperation) : Prop :=
  session.driver.pausedByService = true ∧ ∃ added exchange,
    (session.after sdk operation).exchanges = added ++ session.exchanges ∧ exchange ∈ added ∧
      operation.dropsHold sdk.constants.errorOk exchange = true

theorem pause_kept_iff (session : EfortSession) (operation : EfortOperation) :
    (session.succeeds sdk operation = false →
      (session.after sdk operation).driver.pausedByService = session.driver.pausedByService) ↔
      ¬session.Forgets sdk operation := by
  rcases treats_perform sdk operation session with ⟨added, adds, treatment⟩
  have forgets_iff : session.Forgets sdk operation ↔ session.driver.pausedByService = true ∧
      added.any (operation.dropsHold sdk.constants.errorOk) = true := by
    constructor
    · rintro ⟨paused, other, exchange, same, mem, drops⟩
      obtain rfl : added = other := List.append_cancel_right (adds.symm.trans same)
      exact ⟨paused, List.any_eq_true.mpr ⟨exchange, mem, drops⟩⟩
    · rintro ⟨paused, some⟩
      rcases List.any_eq_true.mp some with ⟨exchange, mem, drops⟩
      exact ⟨paused, added, exchange, adds, mem, drops⟩
  rw [forgets_iff]
  unfold after succeeds
  rcases treatment with ⟨ok, spared, _⟩ | ⟨failed, spared, same⟩ | ⟨failed, drops, cleared⟩
  · simp [ok, spared]
  · refine ⟨fun _ forgets => ?_, fun _ _ => same⟩
    cases spared.symm.trans forgets.2
  · constructor
    · intro keeps forgets
      cases (cleared.symm.trans (keeps failed)).trans forgets.1
    · intro remembers _
      cases paused : session.driver.pausedByService with
      | false => exact cleared
      | true => exact absurd ⟨paused, drops⟩ remembers

/-- In a run that forgets no hold the driver remembers it. -/
theorem pausedByService_of_held {operations : List EfortOperation}
    (remembers : ∀ operation earlier, operation :: earlier <:+ operations →
      ¬(ofNew sdk earlier).Forgets sdk operation) (isHeld : held sdk operations = true) :
    (ofNew sdk operations).driver.pausedByService = true := by
  induction operations with
  | nil => cases isHeld
  | cons operation earlier ih =>
      have before := ih fun operation rest sooner =>
        remembers operation rest (sooner.trans (List.suffix_cons _ _))
      have kept := (pause_kept_iff sdk (ofNew sdk earlier) operation).mpr
        (remembers operation earlier (List.suffix_refl _))
      rcases treats_perform sdk operation (ofNew sdk earlier) with ⟨added, adds, treatment⟩
      unfold held at isHeld
      cases outcome : (ofNew sdk earlier).succeeds sdk operation with
      | false =>
          rw [outcome, if_neg (by decide)] at isHeld
          exact (kept outcome).trans (before isHeld)
      | true =>
          rw [outcome, if_pos rfl] at isHeld
          have pauses : operation.Pauses (ofNew sdk earlier).driver.pausedByService
              (ofNew sdk (operation :: earlier)).driver.pausedByService := by
            rcases treatment with ⟨_, _, pauses⟩ | ⟨failed, _⟩ | ⟨failed, _⟩
            · exact pauses
            · cases failed.symm.trans outcome
            · cases failed.symm.trans outcome
          by_cases holds : operation = .hold
          · subst holds
            exact pauses
          · rw [beq_eq_false_iff_ne.mpr holds, Bool.false_or, Bool.and_eq_true,
              Bool.not_eq_true'] at isHeld
            rcases isHeld with ⟨notEnds, heldBefore⟩
            have same : (ofNew sdk (operation :: earlier)).driver.pausedByService =
                (ofNew sdk earlier).driver.pausedByService := by
              cases operation <;> first | exact absurd rfl holds | exact pauses notEnds
            exact same.trans (before heldBefore)

/-- An operation does not lose the hold of the robot: when it fails it leaves the pause as it was,
and when it reads the state of a held robot it shows the pause, so that publishing the reading lets
no command of the executor succeed. -/
structure KeepsHold (session : EfortSession) (isHeld : Bool) (operation : EfortOperation) :
    Prop where
  failure : session.succeeds sdk operation = false →
    (session.after sdk operation).driver.pausedByService = session.driver.pausedByService
  reading : isHeld = true → ∀ {now snapshot after}, operation = .readState now →
    (readState sdk now).run session = .ok snapshot after → snapshot.connected = true →
    snapshot.paused = true ∧ ∀ {options leases time impl id old record},
      impl.commands.lookup id = some old → isTerminal old.state = false →
      (Impl.publishLocked options leases (.ok snapshot) time impl).commands.lookup id =
        some record → record.state ≠ .succeeded

/-- In a run from a new driver (the latest operation is the first of the list) no operation loses
the hold of the robot exactly if none begins in a pause and is failed by the SDK after it has
cleared the pause. -/
theorem failed_operation_keeps_hold_iff (operations : List EfortOperation) :
    (∀ operation earlier, operation :: earlier <:+ operations →
      (ofNew sdk earlier).KeepsHold sdk (held sdk earlier) operation) ↔
    ∀ operation earlier, operation :: earlier <:+ operations →
      ¬(ofNew sdk earlier).Forgets sdk operation := by
  constructor
  · intro keeps operation earlier sooner
    exact (pause_kept_iff sdk _ _).mp (keeps operation earlier sooner).failure
  · intro remembers operation earlier sooner
    refine ⟨(pause_kept_iff sdk _ _).mpr (remembers operation earlier sooner), ?_⟩
    intro isHeld now snapshot after _ run connected
    have remembersBefore : ∀ operation rest, operation :: rest <:+ earlier →
        ¬(ofNew sdk rest).Forgets sdk operation := fun operation rest before =>
      remembers operation rest (before.trans ((List.suffix_cons _ _).trans sooner))
    have paused := readState_paused sdk run connected
      (pausedByService_of_held sdk remembersBefore isHeld)
    exact ⟨paused, fun before unfinished found =>
      Impl.publishLocked_paused paused before unfinished found⟩

/-- An SDK on which only `MOVECLEAR` fails, of a controller whose robot stands with its servos
on. -/
def sdkKeepingQueue : EfortSdk where
  constants := sampleConstants
  answer _ _ call :=
    { code := if call = .moveClear then 17 else 0
      flag := call == .isConnected || call == .isApiControl || call == .getCurrentServoStatus
      runInfo := { keyMode := .auto } }

/-- A reading of this controller. -/
def standingReading : RobotSnapshot :=
  { RobotSnapshot.standing with
    observedAt := 2000
    axisCount := 6
    joints := ⟨List.replicate 6 (.finite 0)⟩
    lifecycle := .ready }

/-- A stop of the held robot fails.  The next reading does not show the pause, and with it the
executor lets its motion succeed. -/
theorem stop_forgets_hold : ∃ sdk operations after,
    held sdk operations = true ∧
    (readState sdk 2000).run (ofNew sdk operations) = .ok standingReading after ∧
    standingReading.connected = true ∧ standingReading.paused = false ∧
    ∃ system old record, System.Reachable .moving system ∧
      system.impl.commands.lookup 1 = some old ∧ isTerminal old.state = false ∧
      (system.impl.publishLocked Setup.moving.options system.leases (.ok standingReading)
        system.now).commands.lookup 1 = some record ∧ record.state = .succeeded := by
  let operations : List EfortOperation := [.stop .controlled, .hold, .connect sampleOptions]
  have reads : (readState sdkKeepingQueue 2000).run (ofNew sdkKeepingQueue operations) =
      .ok standingReading (finalState (readState sdkKeepingQueue 2000)
        (ofNew sdkKeepingQueue operations)) := rfl
  refine ⟨sdkKeepingQueue, operations, _, by decide, reads, rfl, rfl, ?_⟩
  rcases TransitionSystem.exists_reachable_of_execute System.ready_reachable
    (Schedule.startMotion ++ Schedule.poll (.ok { RobotSnapshot.standing with moving := true }))
    (fun system => (system.impl.commands.lookup 1).any (fun old => !isTerminal old.state) &&
      ((system.impl.publishLocked Setup.moving.options system.leases (.ok standingReading)
        system.now).commands.lookup 1).any fun record => record.state == .succeeded)
    (by decide) with ⟨system, reached, checked⟩
  rcases (Bool.and_eq_true _ _).mp checked with ⟨unfinished, finished⟩
  rcases (Option.any_eq_true _ _).mp unfinished with ⟨old, before, live⟩
  rcases (Option.any_eq_true _ _).mp finished with ⟨record, found, succeeded⟩
  exact ⟨system, old, record, reached, before, by simpa using live, found, by simpa using succeeded⟩

end EfortSession

end RobotManager
