import RobotManager.Adapters.EfortCalls

/-!
# Orders and the checks they rest on

The adapter checks a target before it orders a motion to it, and it asks the controller before
it clears alarms, clears a motion or closes the connection.  What counts is the sequence of SDK
calls: nothing may come between a check and the order that rests on it, also when earlier
operations have failed half-way.
-/

namespace RobotManager

open Fallible

/-- The latest exchanges are the given calls to a device, the latest first, and all succeeded. -/
def Confirmed (errorOk : ℤ) (device : ℕ) : List SdkCall → List SdkExchange → Prop
  | [], _ => True
  | _ :: _, [] => False
  | call :: calls, exchange :: earlier =>
      exchange.device = device ∧ exchange.call = call ∧ exchange.answer.code = errorOk ∧
        Confirmed errorOk device calls earlier

/-- The flag that the latest call has answered. -/
def latestFlag (exchanges : List SdkExchange) : Option Bool :=
  exchanges.head?.map (·.answer.flag)

/-- The checks that an operation makes with its own arguments right before its order, the latest
first. -/
def EfortOperation.checks : EfortOperation → List SdkCall
  | .moveJ target _ =>
      [.checkTarget (.joints target.position.degrees) target.toolName target.workObjectName]
  | .moveL target _ =>
      [.checkTarget (.position (toRobotPos target.pose)) target.toolName target.workObjectName,
        .setCurrentUframeByName target.workObjectName, .setCurrentToolByName target.toolName]
  | .moveC target _ =>
      [.checkTarget (.position (toRobotPos target.target)) target.toolName target.workObjectName,
        .checkTarget (.position (toRobotPos target.via)) target.toolName target.workObjectName,
        .setCurrentUframeByName target.workObjectName, .setCurrentToolByName target.toolName]
  | .jog command => [.setJogMode (toEfortJogMode command.frame)]
  | _ => []

/-- What the calls directly before an order of the given operation must have been. -/
def SdkExchange.Checked (errorOk : ℤ) (operation : EfortOperation) (exchange : SdkExchange)
    (earlier : List SdkExchange) : Prop :=
  match exchange.call with
  | .mjoint _ _ _ | .mlin _ _ _ | .mcirc _ _ _ _ _ _ | .jog _ _ true =>
      Confirmed errorOk exchange.device operation.checks earlier
  | .clearAlarm =>
      Confirmed errorOk exchange.device [.getCurrentEmgStatus] earlier ∧
        latestFlag earlier = some false
  | .moveClear =>
      (Confirmed errorOk exchange.device [.getMoveState] earlier ∧
        latestFlag earlier = some false) ∨
      (Confirmed errorOk exchange.device [.moveHold, .getMoveState] earlier ∧
        latestFlag earlier.tail = some true)
  | .disconnectRobot =>
      (∃ control rest, earlier = control :: rest ∧ control.call = .isApiControl ∧
        control.device = exchange.device ∧ control.answer.flag = false) ∨
      (∃ release control rest, earlier = release :: control :: rest ∧
        release.call = .enableApiControl false ∧ control.call = .isApiControl ∧
        release.device = exchange.device ∧ control.device = exchange.device)
  | _ => True

/-- The calls that rest on no check. -/
def SdkCall.isFree : SdkCall → Bool
  | .mjoint _ _ _ | .mlin _ _ _ | .mcirc _ _ _ _ _ _ | .jog _ _ true | .clearAlarm | .moveClear
  | .disconnectRobot => false
  | _ => true

theorem SdkExchange.checked_of_isFree {errorOk : ℤ} {operation : EfortOperation}
    {exchange : SdkExchange} {earlier : List SdkExchange}
    (isFree : exchange.call.isFree = true) : exchange.Checked errorOk operation earlier := by
  unfold Checked
  split <;> first | trivial | (next call => rw [call] at isFree; cases isFree)

section Append

variable {errorOk : ℤ} {between : List SdkExchange} (older : List SdkExchange)

theorem Confirmed.append {device : ℕ} {calls : List SdkCall}
    (confirmed : Confirmed errorOk device calls between) :
    Confirmed errorOk device calls (between ++ older) := by
  induction calls generalizing between with
  | nil => trivial
  | cons call calls ih =>
      cases between with
      | nil => cases confirmed
      | cons exchange between =>
          exact ⟨confirmed.1, confirmed.2.1, confirmed.2.2.1, ih confirmed.2.2.2⟩

theorem latestFlag_append {flag : Bool} (latest : latestFlag between = some flag) :
    latestFlag (between ++ older) = some flag := by
  cases between with
  | nil => cases latest
  | cons exchange between => exact latest

/-- An order that rests on its checks still does so when older exchanges are taken into account. -/
theorem SdkExchange.Checked.append {operation : EfortOperation} {exchange : SdkExchange}
    (checked : exchange.Checked errorOk operation between) :
    exchange.Checked errorOk operation (between ++ older) := by
  cases isFree : exchange.call.isFree with
  | true => exact checked_of_isFree isFree
  | false =>
      unfold Checked at checked ⊢
      unfold SdkCall.isFree at isFree
      generalize exchange.call = call at *
      split at isFree
      · exact Confirmed.append older checked
      · exact Confirmed.append older checked
      · exact Confirmed.append older checked
      · exact Confirmed.append older checked
      · exact checked.imp (Confirmed.append older) (latestFlag_append older)
      · rcases checked with ⟨asked, standing⟩ | ⟨asked, moving⟩
        · exact Or.inl ⟨asked.append older, latestFlag_append older standing⟩
        · refine Or.inr ⟨asked.append older, ?_⟩
          cases between with
          | nil => cases asked
          | cons held between => exact latestFlag_append older moving
      · rcases checked with ⟨control, rest, rfl, holds⟩ | ⟨release, control, rest, rfl, holds⟩
        · exact Or.inl ⟨control, rest ++ older, rfl, holds⟩
        · exact Or.inr ⟨release, control, rest ++ older, rfl, holds⟩
      · cases isFree

end Append

theorem EfortOperation.isFree_of_mayCall {operation : EfortOperation} {call : SdkCall}
    (free : operation.calls.all SdkCall.isFree = true) (made : operation.MayCall call) :
    call.isFree = true := by
  rcases made with mem | ⟨_, axis, direction, rfl⟩
  · exact List.all_eq_true.mp free call mem
  · rfl

namespace EfortSession

variable (sdk : EfortSdk) (operation : EfortOperation) (start : List SdkExchange)

/-- Every order since the start of an operation rests on its checks, and the driver's device and
the exchanges since then have a property. -/
def VettedWith (holds : ℕ → List SdkExchange → Prop) (session : EfortSession) : Prop :=
  ∃ newer, session.exchanges = newer ++ start ∧
    Backed (SdkExchange.Checked sdk.constants.errorOk operation) newer ∧
    holds session.driver.deviceId newer

/-- Every order since the start of an operation rests on its checks. -/
def VettedSince (session : EfortSession) : Prop :=
  session.VettedWith sdk operation start fun _ _ => True

/-- The latest exchanges are the given calls to the device, and all succeeded. -/
def Recent (calls : List SdkCall) (device : ℕ) (newer : List SdkExchange) : Prop :=
  Confirmed sdk.constants.errorOk device calls newer

variable {sdk operation start} {holds weaker : ℕ → List SdkExchange → Prop}
  {session : EfortSession}

theorem VettedWith.mono (vetted : session.VettedWith sdk operation start holds)
    (implies : ∀ device newer, holds device newer → weaker device newer) :
    session.VettedWith sdk operation start weaker := by
  rcases vetted with ⟨newer, added, backed, holds⟩
  exact ⟨newer, added, backed, implies _ newer holds⟩

theorem VettedWith.since (vetted : session.VettedWith sdk operation start holds) :
    session.VettedSince sdk operation start :=
  vetted.mono fun _ _ _ => trivial

end EfortSession

namespace EfortDriver

open EfortSession

variable (sdk : EfortSdk) {operation : EfortOperation} {start : List SdkExchange}

/-! ### Triples of the steps -/

theorem triple_settle {pre : EfortSession → Prop} (code : ℤ) (name : String) :
    Triple pre (settle sdk code name)
      (fun _ session => pre session ∧ code = sdk.constants.errorOk) fun _ => pre := by
  intro session holds
  by_cases isOk : code = sdk.constants.errorOk
  · rw [run_settle_of_ok sdk isOk]
    exact ⟨holds, isOk⟩
  · rw [run_settle_of_ne sdk isOk]
    exact holds

section Steps

variable {pre : ℕ → List SdkExchange → Prop} {call : SdkCall}

theorem triple_invoke (post : SdkAnswer → ℕ → List SdkExchange → Prop)
    {failed : Status → EfortSession → Prop}
    (warranted : ∀ device newer answer, pre device newer →
      (SdkExchange.mk device call answer).Checked sdk.constants.errorOk operation newer)
    (establishes : ∀ device newer answer, pre device newer →
      post answer device (⟨device, call, answer⟩ :: newer)) :
    Triple (VettedWith sdk operation start pre) (invoke sdk call)
      (fun answer => VettedWith sdk operation start (post answer)) failed := by
  rintro session ⟨newer, added, backed, holds⟩
  rw [run_invoke]
  refine ⟨⟨session.driver.deviceId, call, _⟩ :: newer, ?_,
    Backed.cons_iff.mpr ⟨warranted _ newer _ holds, backed⟩, establishes _ newer _ holds⟩
  rw [added]
  rfl

theorem triple_query (name : String) (post : SdkAnswer → ℕ → List SdkExchange → Prop)
    (warranted : ∀ device newer answer, pre device newer →
      (SdkExchange.mk device call answer).Checked sdk.constants.errorOk operation newer)
    (establishes : ∀ device newer answer, pre device newer →
      answer.code = sdk.constants.errorOk →
      post answer device (⟨device, call, answer⟩ :: newer)) :
    Triple (VettedWith sdk operation start pre) (query sdk name call)
      (fun answer => VettedWith sdk operation start (post answer))
      fun _ => VettedSince sdk operation start := by
  apply Triple.bind (triple_invoke sdk
    (fun answer device newer => answer.code = sdk.constants.errorOk → post answer device newer)
    warranted fun device newer answer holds isOk => establishes device newer answer holds isOk)
  intro answer
  apply Triple.bind ((triple_settle sdk answer.code name).consequence
    (fun _ => id) (fun _ _ => id) fun _ _ => VettedWith.since)
  intro _
  exact Triple.pure fun session held => held.1.mono fun _ _ established => established held.2

theorem triple_order (name : String) (post : ℕ → List SdkExchange → Prop)
    (warranted : ∀ device newer answer, pre device newer →
      (SdkExchange.mk device call answer).Checked sdk.constants.errorOk operation newer)
    (establishes : ∀ device newer answer, pre device newer →
      answer.code = sdk.constants.errorOk → post device (⟨device, call, answer⟩ :: newer)) :
    Triple (VettedWith sdk operation start pre) (order sdk name call)
      (fun _ => VettedWith sdk operation start post) fun _ => VettedSince sdk operation start := by
  apply Triple.bind (triple_query sdk name (fun _ => post) warranted establishes)
  intro _
  exact Triple.pure fun _ => id

/-- An order that has the checks it needs behind it. -/
theorem order_safe (name : String)
    (warranted : ∀ device newer answer, pre device newer →
      (SdkExchange.mk device call answer).Checked sdk.constants.errorOk operation newer) :
    Triple (VettedWith sdk operation start pre) (order sdk name call)
      (fun _ => VettedSince sdk operation start) fun _ => VettedSince sdk operation start :=
  triple_order sdk name _ warranted fun _ _ _ _ _ => trivial

theorem invoke_safe {failed : Status → EfortSession → Prop}
    (warranted : ∀ device newer answer, pre device newer →
      (SdkExchange.mk device call answer).Checked sdk.constants.errorOk operation newer) :
    Triple (VettedWith sdk operation start pre) (invoke sdk call)
      (fun _ => VettedSince sdk operation start) failed :=
  triple_invoke sdk (fun _ _ _ => True) warranted fun _ _ _ _ => trivial

end Steps

/-! ### Programs that send no order without its check -/

/-- Calls that rest on no check need none. -/
theorem upheld_vetted : Upheld (VettedSince sdk operation start) (·.isFree = true) := by
  refine ⟨?_, fun _ _ _ _ _ => id⟩
  rintro session call answer isFree ⟨newer, added, backed, _⟩
  refine ⟨⟨session.driver.deviceId, call, answer⟩ :: newer, ?_,
    Backed.cons_iff.mpr ⟨SdkExchange.checked_of_isFree isFree, backed⟩, trivial⟩
  rw [answered, added]
  rfl

theorem vetted_change (update : EfortDriver → EfortDriver) :
    Maintains (VettedSince sdk operation start) (change update) :=
  fun _ => id

theorem vetted_stopActiveJog : Maintains (VettedSince sdk operation start) (stopActiveJog sdk) :=
  (upheld_vetted sdk).stopActiveJog sdk fun _ _ => rfl

/-- A free call that succeeds is the latest one. -/
theorem order_recent {call : SdkCall} (name : String) (isFree : call.isFree = true)
    (calls : List SdkCall) :
    Triple (VettedWith sdk operation start (Recent sdk calls)) (order sdk name call)
      (fun _ => VettedWith sdk operation start (Recent sdk (call :: calls)))
      fun _ => VettedSince sdk operation start :=
  triple_order sdk name _ (fun _ _ _ _ => SdkExchange.checked_of_isFree isFree)
    fun _ _ _ recent isOk => ⟨rfl, rfl, isOk, recent⟩

/-- No call has to be recent at first. -/
theorem recent_nil {session : EfortSession} (vetted : session.VettedSince sdk operation start) :
    session.VettedWith sdk operation start (Recent sdk []) :=
  vetted

/-- A free call that succeeds answers with the latest flag. -/
theorem query_recent {call : SdkCall} (name : String) (isFree : call.isFree = true) :
    Triple (VettedSince sdk operation start) (query sdk name call)
      (fun answer => VettedWith sdk operation start fun device newer =>
        Recent sdk [call] device newer ∧ latestFlag newer = some answer.flag)
      fun _ => VettedSince sdk operation start :=
  triple_query sdk name _ (fun _ _ _ _ => SdkExchange.checked_of_isFree isFree)
    fun _ _ _ _ isOk => ⟨⟨rfl, rfl, isOk, trivial⟩, rfl⟩

/-- Clearing the pause keeps the checks that are behind. -/
theorem forgetPause_recent (calls : List SdkCall) {failed : Status → EfortSession → Prop} :
    Triple (VettedWith sdk operation start (Recent sdk calls)) forgetPause
      (fun _ => VettedWith sdk operation start (Recent sdk calls)) failed :=
  fun _ => id

/-! ### The operations -/

theorem selectFrames_recent (toolName workObjectName : String) :
    Triple (VettedSince sdk operation start) (selectFrames sdk toolName workObjectName)
      (fun _ => VettedWith sdk operation start (Recent sdk
        [.setCurrentUframeByName workObjectName, .setCurrentToolByName toolName]))
      fun _ => VettedSince sdk operation start := by
  apply Triple.bind ((order_recent sdk _ rfl []).strengthen fun _ => recent_nil sdk)
  intro _
  exact order_recent sdk _ rfl _

theorem vetted_moveJ (target : JointTarget) (profile : JointMotionProfile) :
    Maintains (VettedSince sdk (.moveJ target profile) start) (moveJ sdk target profile) := by
  apply maintains_ite (maintains_throw _)
  apply Triple.bind ((order_recent sdk _ rfl []).strengthen fun _ => recent_nil sdk)
  intro _
  apply Triple.bind (forgetPause_recent sdk _)
  intro _
  exact order_safe sdk _ fun _ _ _ recent => recent

theorem vetted_moveL (target : CartesianTarget) (profile : CartesianMotionProfile) :
    Maintains (VettedSince sdk (.moveL target profile) start) (moveL sdk target profile) := by
  apply Triple.bind (selectFrames_recent sdk target.toolName target.workObjectName)
  intro _
  apply Triple.bind (order_recent sdk _ rfl _)
  intro _
  apply Triple.bind (forgetPause_recent sdk _)
  intro _
  exact order_safe sdk _ fun _ _ _ recent => recent

theorem vetted_moveC (target : CircularTarget) (profile : CartesianMotionProfile) :
    Maintains (VettedSince sdk (.moveC target profile) start) (moveC sdk target profile) := by
  apply Triple.bind (selectFrames_recent sdk target.toolName target.workObjectName)
  intro _
  apply Triple.bind (order_recent sdk _ rfl _)
  intro _
  apply Triple.bind (order_recent sdk _ rfl _)
  intro _
  apply Triple.bind (forgetPause_recent sdk _)
  intro _
  exact order_safe sdk _ fun _ _ _ recent => recent

theorem vetted_clearFault : Maintains (VettedSince sdk operation start) (clearFault sdk) := by
  apply Triple.bind (query_recent sdk _ rfl)
  intro answer
  apply Triple.ite
  · exact fun _ => Triple.throw fun session => VettedWith.since
  · intro released
    have released : answer.flag = false := by simpa using released
    exact order_safe sdk _ fun _ _ _ asked => ⟨asked.1, released ▸ asked.2⟩

theorem vetted_stopMotion : Maintains (VettedSince sdk operation start) (stopMotion sdk) := by
  apply Triple.bind ((upheld_vetted sdk).query sdk _ rfl)
  intro program
  apply Triple.bind (maintains_onlyIf _ ((upheld_vetted sdk).order sdk _ rfl))
  intro _
  apply Triple.bind (query_recent sdk _ rfl)
  intro move
  -- a robot that moves is held before its motion is cleared
  let cleared : ℕ → List SdkExchange → Prop := fun device newer =>
    (Recent sdk [.getMoveState] device newer ∧ latestFlag newer = some false) ∨
      (Recent sdk [.moveHold, .getMoveState] device newer ∧ latestFlag newer.tail = some true)
  have held : Triple (VettedWith sdk operation start fun device newer =>
        Recent sdk [.getMoveState] device newer ∧ latestFlag newer = some move.flag)
      (onlyIf move.flag (order sdk "MOVEHOLD" .moveHold))
      (fun _ => VettedWith sdk operation start cleared)
      fun _ => VettedSince sdk operation start := by
    apply Triple.ite
    · intro moving
      refine triple_order sdk _ _ (fun _ _ _ _ => SdkExchange.checked_of_isFree rfl) ?_
      intro device newer answer asked isOk
      exact Or.inr ⟨⟨rfl, rfl, isOk, asked.1⟩, moving ▸ asked.2⟩
    · intro standing
      have standing : move.flag = false := by simpa using standing
      exact Triple.pure fun session asked =>
        asked.mono fun _ _ asked => Or.inl ⟨asked.1, standing ▸ asked.2⟩
  apply Triple.bind held
  intro _
  exact order_safe sdk _ fun _ _ _ => id

/-- A jog starts right after its frame was set. -/
theorem callJog_start_safe (command : JogCommand) :
    Triple (VettedWith sdk (.jog command) start
        (Recent sdk [.setJogMode (toEfortJogMode command.frame)]))
      (callJog sdk command true) (fun _ => VettedSince sdk (.jog command) start)
      fun _ => VettedSince sdk (.jog command) start := by
  have invoked : Triple (VettedWith sdk (.jog command) start
        (Recent sdk [.setJogMode (toEfortJogMode command.frame)]))
      (invokeJog sdk command true) (fun _ => VettedSince sdk (.jog command) start)
      fun _ => VettedSince sdk (.jog command) start := by
    apply Triple.ite
    · intro _
      refine Triple.bind (invoke_safe sdk ?_) fun answer => Triple.pure fun _ => id
      exact fun _ _ _ recent => recent
    · exact fun _ => Triple.pure fun _ => VettedWith.since
  apply Triple.bind invoked
  intro code
  apply Triple.bind (vetted_change sdk _)
  intro _
  apply maintains_settle

theorem vetted_jog (command : JogCommand) :
    Maintains (VettedSince sdk (.jog command) start) (jog sdk command) := by
  apply Triple.bind maintains_current
  intro driver
  apply maintains_ite (maintains_throw _)
  apply maintains_ite (vetted_stopActiveJog sdk)
  apply maintains_ite (maintains_pure ())
  apply Triple.bind (vetted_stopActiveJog sdk)
  intro _
  apply Triple.bind ((order_recent sdk _ rfl []).strengthen fun _ => recent_nil sdk)
  intro _
  apply Triple.bind (callJog_start_safe sdk command)
  intro _
  apply vetted_change

theorem vetted_stop (mode : StopMode) :
    Maintains (VettedSince sdk operation start) (stop sdk mode) := by
  apply maintains_ite (maintains_throw _)
  apply Triple.bind (vetted_stopActiveJog sdk)
  intro _
  apply Triple.bind (vetted_change sdk _)
  intro _
  exact maintains_ite ((upheld_vetted sdk).powerOff sdk rfl fun _ _ => rfl) (vetted_stopMotion sdk)

/-- Whether the service holds the control is asked, and the control given up, right before the
connection is closed. -/
theorem vetted_disconnect : Maintains (VettedSince sdk operation start) (disconnect sdk) := by
  apply Triple.bind maintains_current
  intro driver
  apply maintains_ite (maintains_pure ())
  apply Triple.bind (Triple.attempt (vetted_stopActiveJog sdk))
  intro _
  have asked : Triple (VettedSince sdk operation start) (invoke sdk .isApiControl)
      (fun answer => VettedWith sdk operation start fun device newer =>
        ∃ rest, newer = ⟨device, .isApiControl, answer⟩ :: rest)
      fun _ => VettedSince sdk operation start :=
    triple_invoke sdk
      (fun answer device newer => ∃ rest, newer = ⟨device, .isApiControl, answer⟩ :: rest)
      (fun _ _ _ _ => SdkExchange.checked_of_isFree rfl) fun _ newer _ _ => ⟨newer, rfl⟩
  apply Triple.bind asked
  intro control
  let released : ℕ → List SdkExchange → Prop := fun device newer => ∀ answer,
    (SdkExchange.mk device .disconnectRobot answer).Checked sdk.constants.errorOk operation newer
  have gives : Triple (VettedWith sdk operation start fun device newer =>
        ∃ rest, newer = ⟨device, .isApiControl, control⟩ :: rest)
      (onlyIf control.flag do
        let _ ← invoke sdk (.enableApiControl false)
        pure ())
      (fun _ => VettedWith sdk operation start released)
      fun _ => VettedSince sdk operation start := by
    apply Triple.ite
    · intro _
      apply Triple.bind (triple_invoke sdk (fun _ => released)
        (fun _ _ _ _ => SdkExchange.checked_of_isFree rfl) ?_)
      · intro _
        exact Triple.pure fun _ => id
      · rintro device newer answer ⟨rest, rfl⟩ _
        exact Or.inr ⟨_, _, rest, rfl, rfl, rfl, rfl, rfl⟩
    · intro unheld
      have unheld : control.flag = false := by simpa using unheld
      refine Triple.pure fun session held => held.mono ?_
      rintro device newer ⟨rest, rfl⟩ _
      exact Or.inl ⟨_, rest, rfl, rfl, rfl, unheld⟩
  apply Triple.bind gives
  intro _
  apply Triple.bind (invoke_safe sdk fun _ _ answer checked => checked answer)
  intro _
  apply vetted_change

theorem vetted_connect (options : ConnectionOptions) :
    Maintains (VettedSince sdk operation start) (connect sdk options) := by
  have closes : ∀ status, Maintains (VettedSince sdk operation start)
      (do disconnect sdk; throw status : EfortProgram Unit) := by
    intro status
    apply Triple.bind (vetted_disconnect sdk)
    intro _
    apply maintains_throw
  have checks : Maintains (VettedSince sdk operation start) (checkModel sdk options) :=
    triple_checkModel ((upheld_vetted sdk).invoke sdk rfl) (fun _ _ => closes _)
      (fun _ _ _ => closes _) fun _ _ _ => id
  exact triple_connect (fun _ _ _ _ => id) ((upheld_vetted sdk).query sdk _ rfl)
    (fun _ => vetted_change sdk _) checks

theorem vetted_perform : Maintains (VettedSince sdk operation start) (perform sdk operation) := by
  cases operation with
  | connect options => exact triple_reply (vetted_connect sdk options)
  | disconnect => exact triple_reply (vetted_disconnect sdk)
  | clearFault => exact triple_reply (vetted_clearFault sdk)
  | moveJ target profile => exact triple_reply (vetted_moveJ sdk target profile)
  | moveL target profile => exact triple_reply (vetted_moveL sdk target profile)
  | moveC target profile => exact triple_reply (vetted_moveC sdk target profile)
  | stop mode => exact triple_reply (vetted_stop sdk mode)
  | jog command => exact triple_reply (vetted_jog sdk command)
  | acquireControl | releaseControl | powerOn | powerOff | setGlobalSpeed | hold | resume
  | loadProgram | startProgram | stopProgram | readState | readAlarms | readDigitalInput
  | readDigitalOutput | writeDigitalOutput =>
      exact ((upheld_vetted sdk).mono fun _ => EfortOperation.isFree_of_mayCall rfl).perform sdk rfl

end EfortDriver

/-- The exchanges of an operation are calls of its own, with its own arguments, and each order
among them rests on the checks directly before it. -/
def EfortOperation.Explains (operation : EfortOperation) (errorOk : ℤ)
    (exchanges : List SdkExchange) : Prop :=
  (∀ exchange ∈ exchanges, operation.MayCall exchange.call) ∧
    Backed (SdkExchange.Checked errorOk operation) exchanges

theorem EfortSession.explains_after (sdk : EfortSdk) (session : EfortSession)
    (operation : EfortOperation) :
    ∃ newer, (session.after sdk operation).exchanges = newer ++ session.exchanges ∧
      operation.Explains sdk.constants.errorOk newer := by
  rcases exchanges_after sdk session operation with ⟨newer, added, own⟩
  have fresh : session.VettedSince sdk operation session.exchanges :=
    ⟨[], rfl, Backed.nil, trivial⟩
  rcases (EfortDriver.vetted_perform sdk).finalState fresh with ⟨vetted, sameAdded, backed, _⟩
  obtain rfl : vetted = newer := List.append_cancel_right (sameAdded.symm.trans added)
  exact ⟨vetted, added, own, backed⟩

/-- Every exchange so far is a call of some operation and rests on the checks of that operation. -/
def EfortSession.Vetted (sdk : EfortSdk) (session : EfortSession) : Prop :=
  Backed (fun exchange earlier => ∃ operation : EfortOperation, operation.MayCall exchange.call ∧
    exchange.Checked sdk.constants.errorOk operation earlier) session.exchanges

theorem EfortSession.Vetted.after {sdk : EfortSdk} {session : EfortSession}
    (vetted : session.Vetted sdk) (operation : EfortOperation) :
    (session.after sdk operation).Vetted sdk := by
  rcases explains_after sdk session operation with ⟨newer, added, own, backed⟩
  rw [Vetted, added]
  refine Backed.append vetted fun exchange between suffix => ?_
  exact ⟨operation, own exchange (suffix.subset List.mem_cons_self),
    (backed exchange between suffix).append session.exchanges⟩

/-- Whatever is asked of the adapter, in whatever order and however the SDK answers, its exchanges
are those of one operation after the other: each makes the calls of its own, and every order it
sends rests on the checks that it has made directly before. -/
theorem EfortSession.orders_checked (sdk : EfortSdk) (operations : List EfortOperation) :
    ∃ segments : List (List SdkExchange),
      (afterAll sdk {} operations).exchanges = segments.flatten ∧
      List.Forall₂ (EfortOperation.Explains · sdk.constants.errorOk) operations segments := by
  induction operations with
  | nil => exact ⟨[], rfl, .nil⟩
  | cons operation earlier ih =>
      rcases ih with ⟨segments, same, explained⟩
      rcases explains_after sdk (afterAll sdk {} earlier) operation with ⟨newer, added, own⟩
      refine ⟨newer :: segments, ?_, .cons own explained⟩
      rw [List.flatten_cons, ← same]
      exact added

end RobotManager
