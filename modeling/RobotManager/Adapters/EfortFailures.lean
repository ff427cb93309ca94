import RobotManager.Adapters.EfortCalls
import RobotManager.Adapters.EfortHold

/-!
# Failures of the adapter

An operation stops at the first SDK call that fails and returns the code of this call in its
status; an operation that the adapter refuses by itself has no vendor's code.  `Connect`, which
closes the connection again, and `Disconnect`, which goes on whatever fails, are apart.
-/

namespace RobotManager

open Fallible

/-- The calls that answer with a flag instead of a code. -/
def SdkCall.isUncoded : SdkCall → Bool
  | .isConnected | .isApiControl => true
  | _ => false

def SdkExchange.Passes (errorOk : ℤ) (exchange : SdkExchange) : Prop :=
  exchange.call.isUncoded = true ∨ exchange.answer.code = errorOk

/-- A status that the adapter has made up by itself. -/
structure Status.Refusal (status : Status) : Prop where
  code : status.code ∈ [.invalidArgument, .failedPrecondition, .alreadyExists]
  vendorCode : status.vendorCode = 0

/-- The status that an operation fails with, and the exchanges it has added, the latest first. -/
inductive StoppedAt (constants : EfortConstants) (status : Status) : List SdkExchange → Prop where
  | refused {newer : List SdkExchange} (refusal : status.Refusal)
      (passed : ∀ exchange ∈ newer, exchange.Passes constants.errorOk) :
      StoppedAt constants status newer
  | failed {exchange : SdkExchange} {earlier : List SdkExchange} {operation : String}
      (code : exchange.answer.code ≠ constants.errorOk)
      (mapped : status = constants.mapEfortError exchange.answer.code operation)
      (passed : ∀ exchange ∈ earlier, exchange.Passes constants.errorOk) :
      StoppedAt constants status (exchange :: earlier)

theorem StoppedAt.not_ok {constants : EfortConstants} {status : Status} {newer : List SdkExchange}
    (stopped : StoppedAt constants status newer) : status.ok = false := by
  cases stopped with
  | refused refusal =>
      have code := refusal.code
      cases status with
      | mk kind message vendorCode => cases kind <;> simp_all
  | failed code mapped => simp [mapped, code]

namespace EfortSession

variable (sdk : EfortSdk)

/-- A jog that the driver takes for running is one of a joint that there is. -/
def JogInRange (session : EfortSession) : Prop :=
  session.driver.hasActiveJog = true →
    1 ≤ session.driver.activeJog.axis ∧ session.driver.activeJog.axis ≤ efortAxisCount

/-- The session has gone on from another without a failure. -/
structure Onward (start session : EfortSession) : Prop where
  inRange : session.JogInRange
  added : ∃ newer, session.exchanges = newer ++ start.exchanges ∧
    ∀ exchange ∈ newer, exchange.Passes sdk.constants.errorOk

/-- The session has gone on from another up to a failure. -/
structure Halted (start : EfortSession) (status : Status) (session : EfortSession) : Prop where
  inRange : session.JogInRange
  added : ∃ newer, session.exchanges = newer ++ start.exchanges ∧
    StoppedAt sdk.constants status newer

/-- The session has gone on from another without a failure, and a call has answered with a code. -/
structure Replied (start : EfortSession) (code : ℤ) (session : EfortSession) : Prop where
  inRange : session.JogInRange
  added : ∃ exchange newer, session.exchanges = exchange :: newer ++ start.exchanges ∧
    exchange.answer.code = code ∧ ∀ exchange ∈ newer, exchange.Passes sdk.constants.errorOk

variable {sdk} {start session : EfortSession}

/-- The adapter refuses to go on. -/
theorem Onward.halted {status : Status} (refusal : status.Refusal)
    (onward : Onward sdk start session) : Halted sdk start status session := by
  rcases onward with ⟨inRange, newer, same, passed⟩
  exact ⟨inRange, newer, same, .refused refusal passed⟩

theorem Onward.replied (onward : Onward sdk start session) (exchange : SdkExchange) :
    Replied sdk start exchange.answer.code
      { session with exchanges := exchange :: session.exchanges } := by
  rcases onward with ⟨inRange, newer, same, passed⟩
  exact ⟨inRange, exchange, newer, congrArg (List.cons exchange) same, rfl, passed⟩

theorem Replied.onward {code : ℤ} (replied : Replied sdk start code session)
    (isOk : code = sdk.constants.errorOk) : Onward sdk start session := by
  rcases replied with ⟨inRange, exchange, newer, same, replies, passed⟩
  refine ⟨inRange, exchange :: newer, same, List.forall_mem_cons.mpr ⟨Or.inr ?_, passed⟩⟩
  exact replies.trans isOk

theorem Replied.halted {code : ℤ} (replied : Replied sdk start code session)
    (notOk : code ≠ sdk.constants.errorOk) (operation : String) :
    Halted sdk start (sdk.constants.mapEfortError code operation) session := by
  rcases replied with ⟨inRange, exchange, newer, same, rfl, passed⟩
  exact ⟨inRange, exchange :: newer, same, .failed notOk rfl passed⟩

end EfortSession

namespace EfortDriver

open EfortSession

/-- A program that stops at its first failure. -/
abbrev FailsStop {Value : Type} (sdk : EfortSdk) (start : EfortSession)
    (program : EfortProgram Value) : Prop :=
  Triple (Onward sdk start) program (fun _ => Onward sdk start) (Halted sdk start)

variable {sdk : EfortSdk} {start : EfortSession} {Value : Type}

/-! ### Steps of the operations -/

theorem failsStop_pure (value : Value) : FailsStop sdk start (pure value : EfortProgram Value) :=
  Triple.pure fun _ => id

theorem failsStop_throw {status : Status} (refusal : status.Refusal) :
    FailsStop sdk start (throw status : EfortProgram Value) := by
  apply Triple.throw
  exact fun _ onward => onward.halted refusal

/-- What the adapter refuses by itself. -/
theorem refusal (code : StatusCode) (message : String)
    (own : code ∈ [StatusCode.invalidArgument, .failedPrecondition, .alreadyExists]) :
    Status.Refusal ⟨code, message, 0⟩ :=
  ⟨own, rfl⟩

theorem failsStop_ite {condition : Prop} [Decidable condition]
    {program other : EfortProgram Value} (holds : FailsStop sdk start program)
    (fails : FailsStop sdk start other) :
    FailsStop sdk start (if condition then program else other) :=
  Triple.ite (fun _ => holds) fun _ => fails

theorem failsStop_onlyIf {program : EfortProgram Unit} (condition : Bool)
    (stops : FailsStop sdk start program) : FailsStop sdk start (onlyIf condition program) :=
  failsStop_ite stops (failsStop_pure ())

theorem failsStop_reply {program : EfortProgram Value} {make : Value → EfortReply}
    (stops : FailsStop sdk start program) : FailsStop sdk start (reply program make) :=
  Triple.bind stops fun _ => failsStop_pure _

/-- A change that lets no jog run that did not. -/
theorem failsStop_change {update : EfortDriver → EfortDriver}
    (jogs : ∀ driver, (update driver).hasActiveJog = true →
      driver.hasActiveJog = true ∧ (update driver).activeJog = driver.activeJog) :
    FailsStop sdk start (change update) := by
  rintro session ⟨inRange, added⟩
  refine ⟨fun active => ?_, added⟩
  rcases jogs session.driver active with ⟨before, same⟩
  simpa only [same] using inRange before

theorem failsStop_forgetPause : FailsStop sdk start forgetPause :=
  failsStop_change fun _ active => ⟨active, rfl⟩

theorem failsStop_invoke {call : SdkCall} (uncoded : call.isUncoded = true) :
    FailsStop sdk start (invoke sdk call) := by
  rintro session ⟨inRange, newer, same, passed⟩
  rw [run_invoke]
  refine ⟨inRange, _ :: newer, congrArg (List.cons _) same, ?_⟩
  exact List.forall_mem_cons.mpr ⟨Or.inl uncoded, passed⟩

theorem replied_invoke (call : SdkCall) {failed : Status → EfortSession → Prop} :
    Triple (Onward sdk start) (invoke sdk call) (fun answer => Replied sdk start answer.code)
      failed := by
  intro session onward
  rw [run_invoke]
  exact onward.replied ⟨session.driver.deviceId, call,
    sdk.answer session.exchanges session.driver.deviceId call⟩

/-- What an exchange settles: the operation goes on if it succeeded, and stops at it otherwise. -/
theorem failsStop_settle (code : ℤ) (operation : String) :
    Triple (Replied sdk start code) (settle sdk code operation) (fun _ => Onward sdk start)
      (Halted sdk start) := by
  intro session replied
  by_cases isOk : code = sdk.constants.errorOk
  · rw [run_settle_of_ok sdk isOk]
    exact replied.onward isOk
  · rw [run_settle_of_ne sdk isOk]
    exact replied.halted isOk operation

theorem failsStop_query (operation : String) (call : SdkCall) :
    FailsStop sdk start (query sdk operation call) := by
  apply triple_answered
  · intro session answer onward isOk
    exact (onward.replied ⟨session.driver.deviceId, call, answer⟩).onward isOk
  · intro session answer onward notOk
    exact (onward.replied ⟨session.driver.deviceId, call, answer⟩).halted notOk operation

theorem failsStop_order (operation : String) (call : SdkCall) :
    FailsStop sdk start (order sdk operation call) := by
  apply Triple.bind (failsStop_query operation call)
  intro _
  apply failsStop_pure

/-- The driver as an operation finds it. -/
theorem failsStop_current :
    Triple (Onward sdk start) current
      (fun driver session => Onward sdk start session ∧ session.driver = driver)
      (Halted sdk start) :=
  fun _ onward => ⟨onward, rfl⟩

/-! ### Jogs -/

theorem failsStop_callJog {command : JogCommand} {begins : Bool}
    (inRange : 1 ≤ command.axis ∧ command.axis ≤ efortAxisCount) :
    FailsStop sdk start (callJog sdk command begins) := by
  have invoked : Triple (Onward sdk start) (invokeJog sdk command begins)
      (fun code => Replied sdk start code) (Halted sdk start) := by
    apply Triple.ite
    · exact fun _ => Triple.bind (replied_invoke _) fun _ => Triple.pure fun _ => id
    · exact fun out => absurd inRange out
  apply Triple.bind invoked
  intro code
  have forgets : Triple (Replied sdk start code)
      (change fun driver =>
        if !begins && driver.hasActiveJog && driver.activeJog.axis == command.axis &&
            driver.activeJog.direction == command.direction then
          { driver with hasActiveJog := false }
        else driver)
      (fun _ => Replied sdk start code) (Halted sdk start) := by
    rintro session ⟨jogs, added⟩
    refine ⟨fun active => ?_, added⟩
    dsimp only at active ⊢
    split at active
    · cases active
    · next unchanged =>
      rw [if_neg unchanged]
      exact jogs active
  apply Triple.bind forgets
  intro _
  exact failsStop_settle code _

theorem failsStop_stopActiveJog : FailsStop sdk start (stopActiveJog sdk) := by
  apply Triple.bind failsStop_current
  intro driver
  apply Triple.ite
  · exact fun _ => Triple.pure fun _ held => held.1
  intro active
  have active : driver.hasActiveJog = true := by simpa using active
  by_cases inRange : 1 ≤ driver.activeJog.axis ∧ driver.activeJog.axis ≤ efortAxisCount
  · apply Triple.bind ((failsStop_callJog inRange).strengthen fun _ held => held.1)
    intro _
    exact failsStop_change fun _ => nofun
  · rintro session ⟨onward, rfl⟩
    exact absurd (onward.inRange active) inRange

theorem failsStop_jog (command : JogCommand) : FailsStop sdk start (jog sdk command) := by
  apply Triple.bind (failsStop_current.weaken fun _ _ => And.left)
  intro driver
  apply Triple.ite
  · exact fun _ => failsStop_throw (refusal _ _ (by simp))
  intro inRange
  have inRange : 1 ≤ command.axis ∧ command.axis ≤ efortAxisCount := by
    simpa only [not_or, not_lt] using inRange
  apply failsStop_ite failsStop_stopActiveJog
  apply failsStop_ite (failsStop_pure ())
  apply Triple.bind failsStop_stopActiveJog
  intro _
  apply Triple.bind (failsStop_order _ _)
  intro _
  apply Triple.bind (failsStop_callJog inRange)
  intro _
  exact fun session onward => ⟨fun _ => inRange, onward.added⟩

/-! ### The operations -/

theorem failsStop_powerOff : FailsStop sdk start (powerOff sdk) := by
  apply Triple.bind failsStop_stopActiveJog
  intro _
  apply Triple.bind failsStop_forgetPause
  intro _
  apply failsStop_order

theorem failsStop_selectFrames (toolName workObjectName : String) :
    FailsStop sdk start (selectFrames sdk toolName workObjectName) := by
  apply Triple.bind (failsStop_order _ _)
  intro _
  apply failsStop_order

theorem failsStop_stop (mode : StopMode) : FailsStop sdk start (stop sdk mode) := by
  apply failsStop_ite (failsStop_throw (refusal _ _ (by simp)))
  apply Triple.bind failsStop_stopActiveJog
  intro _
  apply Triple.bind failsStop_forgetPause
  intro _
  apply failsStop_ite failsStop_powerOff
  apply Triple.bind (failsStop_query _ _)
  intro program
  apply Triple.bind (failsStop_onlyIf _ (failsStop_order _ _))
  intro _
  apply Triple.bind (failsStop_query _ _)
  intro move
  apply Triple.bind (failsStop_onlyIf _ (failsStop_order _ _))
  intro _
  apply failsStop_order

theorem failsStop_readState (now : TimePoint) : FailsStop sdk start (readState sdk now) := by
  have current : FailsStop sdk start current := failsStop_current.weaken fun _ _ => And.left
  have asked : FailsStop sdk start (isConnected sdk) := by
    apply Triple.bind current
    intro driver
    apply failsStop_ite
    · apply Triple.bind (failsStop_invoke rfl)
      intro answer
      apply failsStop_pure
    · apply failsStop_pure
  apply Triple.bind asked
  intro connected
  apply failsStop_ite
  · apply Triple.bind (failsStop_query _ _)
    intro run
    apply Triple.bind (failsStop_invoke rfl)
    intro control
    apply Triple.bind current
    intro driver
    apply Triple.bind (failsStop_query _ _)
    intro servo
    apply Triple.bind (failsStop_query _ _)
    intro emergency
    apply Triple.bind (failsStop_query _ _)
    intro alarm
    apply Triple.bind (failsStop_query _ _)
    intro move
    apply Triple.bind (failsStop_query _ _)
    intro joints
    apply Triple.bind (failsStop_query _ _)
    intro pose
    apply failsStop_pure
  · apply failsStop_pure

theorem failsStop_perform {operation : EfortOperation} (others : operation.connects = false) :
    FailsStop sdk start (perform sdk operation) := by
  cases operation with
  | connect | disconnect => cases others
  | acquireControl | releaseControl | powerOn => exact failsStop_reply (failsStop_order _ _)
  | powerOff => exact failsStop_reply failsStop_powerOff
  | clearFault =>
      apply failsStop_reply
      apply Triple.bind (failsStop_query _ _)
      intro answer
      exact failsStop_ite (failsStop_throw (refusal _ _ (by simp))) (failsStop_order _ _)
  | setGlobalSpeed | loadProgram =>
      exact failsStop_reply
        (failsStop_ite (failsStop_throw (refusal _ _ (by simp))) (failsStop_order _ _))
  | moveJ =>
      apply failsStop_reply
      apply failsStop_ite (failsStop_throw (refusal _ _ (by simp)))
      apply Triple.bind (failsStop_order _ _)
      intro _
      apply Triple.bind failsStop_forgetPause
      intro _
      apply failsStop_order
  | moveL =>
      apply failsStop_reply
      apply Triple.bind (failsStop_selectFrames _ _)
      intro _
      apply Triple.bind (failsStop_order _ _)
      intro _
      apply Triple.bind failsStop_forgetPause
      intro _
      apply failsStop_order
  | moveC =>
      apply failsStop_reply
      apply Triple.bind (failsStop_selectFrames _ _)
      intro _
      apply Triple.bind (failsStop_order _ _)
      intro _
      apply Triple.bind (failsStop_order _ _)
      intro _
      apply Triple.bind failsStop_forgetPause
      intro _
      apply failsStop_order
  | hold =>
      apply failsStop_reply
      apply Triple.bind (failsStop_order _ _)
      intro _
      exact failsStop_change fun _ active => ⟨active, rfl⟩
  | resume | stopProgram =>
      apply failsStop_reply
      apply Triple.bind (failsStop_order _ _)
      intro _
      apply failsStop_forgetPause
  | stop mode => exact failsStop_reply (failsStop_stop mode)
  | jog command => exact failsStop_reply (failsStop_jog command)
  | startProgram =>
      apply failsStop_reply
      apply Triple.bind failsStop_forgetPause
      intro _
      apply failsStop_order
  | readState now => exact failsStop_reply (failsStop_readState now)
  | readAlarms =>
      apply failsStop_reply
      apply Triple.bind (failsStop_query _ _)
      intro answer
      apply failsStop_pure
  | readDigitalInput | readDigitalOutput | writeDigitalOutput =>
      apply failsStop_reply
      apply Triple.bind
        (failsStop_ite (failsStop_throw (refusal _ _ (by simp))) (failsStop_query _ _))
      intro answer
      apply failsStop_pure

/-! ### The connection -/

theorem inRange_stopActiveJog : Maintains JogInRange (stopActiveJog sdk) := by
  intro session inRange
  have stops : FailsStop sdk session (stopActiveJog sdk) := failsStop_stopActiveJog
  have reached := stops session ⟨inRange, [], rfl, by simp⟩
  cases run : (stopActiveJog sdk).run session with
  | ok value after =>
      simp only [run] at reached
      exact reached.inRange
  | error status after =>
      simp only [run] at reached
      exact reached.inRange

/-- `Disconnect` always succeeds. -/
theorem disconnect_succeeds :
    Triple JogInRange (disconnect sdk) (fun _ => JogInRange) fun _ _ => False := by
  have asks : ∀ call, Triple JogInRange (invoke sdk call) (fun _ => JogInRange) fun _ _ => False :=
    fun _ _ => id
  have known : Triple JogInRange current (fun _ => JogInRange) fun _ _ => False := fun _ => id
  apply Triple.bind known
  intro driver
  apply Triple.ite
  · exact fun _ => Triple.pure fun _ => id
  intro _
  apply Triple.bind (Triple.attempt inRange_stopActiveJog)
  intro _
  apply Triple.bind (asks _)
  intro control
  have releases : Triple JogInRange
      (onlyIf control.flag do
        let _ ← invoke sdk (.enableApiControl false)
        pure ()) (fun _ => JogInRange) fun _ _ => False := by
    apply Triple.ite
    · intro _
      apply Triple.bind (asks _)
      intro _
      exact Triple.pure fun _ => id
    · exact fun _ => Triple.pure fun _ => id
  apply Triple.bind releases
  intro _
  apply Triple.bind (asks _)
  intro _
  exact fun _ _ => nofun

end EfortDriver

namespace EfortSession

/-- The session has gone on from another up to a failure, after which the connection may have been
closed. -/
structure Given (sdk : EfortSdk) (start : EfortSession) (status : Status) (session : EfortSession) :
    Prop where
  inRange : session.JogInRange
  added : ∃ closing stopped, session.exchanges = closing ++ stopped ++ start.exchanges ∧
    StoppedAt sdk.constants status stopped ∧
    ∀ exchange ∈ closing, EfortOperation.disconnect.MayCall exchange.call

theorem Halted.given {sdk : EfortSdk} {start session : EfortSession} {status : Status}
    (halted : Halted sdk start status session) : Given sdk start status session := by
  rcases halted with ⟨inRange, stopped, same, stoppedAt⟩
  exact ⟨inRange, [], stopped, same, stoppedAt, by simp⟩

end EfortSession

namespace EfortDriver

open EfortSession

variable {sdk : EfortSdk} {start : EfortSession}

/-- The connection is closed behind a failure. -/
theorem given_disconnect (status : Status) :
    Triple (Halted sdk start status) (do disconnect sdk; throw status : EfortProgram Unit)
      (fun _ => Onward sdk start) (Given sdk start) := by
  intro session halted
  rcases halted with ⟨inRange, stopped, same, stoppedAt⟩
  let closed : List SdkExchange → Prop := fun exchanges =>
    ∃ closing, exchanges = closing ++ stopped ++ start.exchanges ∧
      ∀ exchange ∈ closing, EfortOperation.disconnect.MayCall exchange.call
  have upheld : Upheld (fun session => closed session.exchanges)
      EfortOperation.disconnect.MayCall := by
    apply Upheld.ofExchanges
    rintro exchange earlier made ⟨closing, rfl, calls⟩
    exact ⟨exchange :: closing, rfl, List.forall_mem_cons.mpr ⟨made, calls⟩⟩
  have succeeds : Triple JogInRange (disconnect sdk) (fun _ => JogInRange) fun _ _ => False :=
    disconnect_succeeds
  have closes := succeeds.and (Upheld.disconnect_exchanges sdk upheld)
  have closes : Triple (fun session => session.JogInRange ∧ closed session.exchanges)
      (do disconnect sdk; throw status : EfortProgram Unit) (fun _ => Onward sdk start)
      (Given sdk start) := by
    apply Triple.bind (closes.consequence (fun _ => id) (fun _ _ => id)
      fun _ _ impossible => impossible.1.elim)
    intro _
    apply Triple.throw
    rintro later ⟨laterInRange, closing, sameLater, calls⟩
    exact ⟨laterInRange, closing, stopped, sameLater, stoppedAt, calls⟩
  exact closes session ⟨inRange, [], same, by simp⟩

theorem given_connect (options : ConnectionOptions) :
    Triple (Onward sdk start) (connect sdk options) (fun _ => Onward sdk start)
      (Given sdk start) := by
  have gives : ∀ {Value : Type} {program : EfortProgram Value}, FailsStop sdk start program →
      Triple (Onward sdk start) program (fun _ => Onward sdk start) (Given sdk start) :=
    fun stops => stops.consequence (fun _ => id) (fun _ _ => id) fun _ _ => Halted.given
  have checks : Triple (Onward sdk start) (checkModel sdk options) (fun _ => Onward sdk start)
      (Given sdk start) := by
    apply triple_checkModel (replied_invoke _)
    · intro answer notOk
      exact (given_disconnect _).strengthen fun _ replied => replied.halted notOk _
    · intro answer message isOk
      apply (given_disconnect _).strengthen
      exact fun _ replied => (replied.onward isOk).halted (refusal _ _ (by simp))
    · intro answer session isOk replied
      rcases replied.onward isOk with ⟨inRange, passed⟩
      exact ⟨inRange, passed⟩
  refine triple_connect (fun code own message session onward => ?_) (gives (failsStop_query _ _))
    (fun _ => gives (failsStop_change fun _ active => ⟨active, rfl⟩)) checks
  have refused : Status.Refusal ⟨code, message, 0⟩ := by
    apply refusal
    simp only [List.mem_cons, List.not_mem_nil, or_false] at own ⊢
    tauto
  exact (onward.halted refused).given

end EfortDriver

namespace EfortSession

open EfortDriver

variable {sdk : EfortSdk}

/-- How an operation ends, given the exchanges it has added, the latest first. -/
def Ends (sdk : EfortSdk) (operation : EfortOperation) (newer : List SdkExchange) :
    EStateM.Result Status EfortSession EfortReply → Prop
  | .ok _ _ => operation ≠ .disconnect →
      ∀ exchange ∈ newer, exchange.Passes sdk.constants.errorOk
  | .error status _ => operation ≠ .disconnect ∧ ∃ closing stopped, newer = closing ++ stopped ∧
      StoppedAt sdk.constants status stopped ∧
      (∀ exchange ∈ closing, EfortOperation.disconnect.MayCall exchange.call) ∧
      (operation.connects = false → closing = [])

/-- What an operation ends with, from a driver whose jog is in range. -/
theorem ends_of_triple {operation : EfortOperation} {session : EfortSession}
    (distinct : operation ≠ .disconnect)
    (triple : Triple (Onward sdk session) (perform sdk operation) (fun _ => Onward sdk session)
      (if operation.connects then Given sdk session else Halted sdk session))
    (inRange : session.JogInRange) :
    (session.after sdk operation).JogInRange ∧ ∃ newer,
      (session.after sdk operation).exchanges = newer ++ session.exchanges ∧
        Ends sdk operation newer ((perform sdk operation).run session) := by
  have reached := triple session ⟨inRange, [], rfl, by simp⟩
  cases run : (perform sdk operation).run session with
  | ok reply after =>
      rw [run] at reached
      rw [EfortSession.after, finalState_of_ok run]
      rcases reached with ⟨laterInRange, newer, same, passed⟩
      exact ⟨laterInRange, newer, same, fun _ => passed⟩
  | error status after =>
      rw [run] at reached
      rw [EfortSession.after, finalState_of_error run]
      cases connects : operation.connects with
      | true =>
          simp only [connects, if_true] at reached
          rcases reached with ⟨laterInRange, closing, stopped, same, stoppedAt, calls⟩
          refine ⟨laterInRange, closing ++ stopped, same, distinct, closing, stopped, rfl,
            stoppedAt, calls, ?_⟩
          simp [connects]
      | false =>
          simp only [connects, Bool.false_eq_true, if_false] at reached
          rcases reached with ⟨laterInRange, stopped, same, stoppedAt⟩
          exact ⟨laterInRange, stopped, same, distinct, [], stopped, rfl, stoppedAt, by simp,
            fun _ => rfl⟩

theorem ends_perform (operation : EfortOperation) {session : EfortSession}
    (inRange : session.JogInRange) :
    (session.after sdk operation).JogInRange ∧ ∃ newer,
      (session.after sdk operation).exchanges = newer ++ session.exchanges ∧
        Ends sdk operation newer ((perform sdk operation).run session) := by
  cases connects : operation.connects with
  | false =>
      apply ends_of_triple ?_ ?_ inRange
      · rintro rfl
        cases connects
      · rw [connects]
        exact failsStop_perform connects
  | true =>
      cases operation with
      | connect options =>
          apply ends_of_triple (by simp) ?_ inRange
          exact Triple.bind (given_connect options) fun _ => Triple.pure fun _ => id
      | disconnect =>
          rcases exchanges_after sdk session .disconnect with ⟨newer, same, _⟩
          have succeeds : Triple JogInRange (perform sdk .disconnect) (fun _ => JogInRange)
              fun _ _ => False := triple_reply disconnect_succeeds
          have reached := succeeds session inRange
          cases run : (perform sdk .disconnect).run session with
          | ok reply after =>
              rw [run] at reached
              rw [EfortSession.after, finalState_of_ok run] at same ⊢
              exact ⟨reached, newer, same, fun other => absurd rfl other⟩
          | error status after =>
              rw [run] at reached
              exact reached.elim
      | _ => cases connects

theorem inRange_ofNew (operations : List EfortOperation) :
    (ofNew sdk operations).JogInRange := by
  induction operations with
  | nil => exact nofun
  | cons operation earlier ih => exact (ends_perform operation ih).1

/-- Failures of operations other than `Disconnect`, which ignores them and never fails, are neither
hidden nor made up: an operation that succeeds has had no SDK call fail, one that fails has stopped
at the first call that failed and returns its code, or is refused by the adapter itself, and only
`Connect` then goes on, to close the connection. -/
theorem failures_reported (sdk : EfortSdk) (operations : List EfortOperation)
    (operation : EfortOperation) : ∃ newer,
    ((ofNew sdk operations).after sdk operation).exchanges =
        newer ++ (ofNew sdk operations).exchanges ∧
      Ends sdk operation newer ((perform sdk operation).run (ofNew sdk operations)) :=
  (ends_perform operation (inRange_ofNew operations)).2

/-- No operation fails with an OK status. -/
theorem error_not_ok {operations : List EfortOperation} {operation : EfortOperation}
    {status : Status} {after : EfortSession}
    (run : (perform sdk operation).run (ofNew sdk operations) = .error status after) :
    status.ok = false := by
  rcases ends_perform operation (inRange_ofNew operations) with ⟨_, _, _, ends⟩
  rw [run] at ends
  rcases ends with ⟨_, _, _, _, stoppedAt, _⟩
  exact stoppedAt.not_ok

end EfortSession

end RobotManager
