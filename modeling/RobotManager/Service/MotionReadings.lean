import RobotManager.Service.ControllerPolicy
import RobotManager.Service.Telemetry

/-!
# Motions and the readings they rest on

Before the service sets the robot in motion, the controller has answered in one reading that the
robot may be moved: its servos are on, it is under the service's control, and no emergency stop,
alarm, pause or program stands against it.
-/

namespace RobotManager

open Fallible

/-- The answers of a reading permit a call that sets the robot in motion.  Jogs need the manual
mode and a speed within the policy; everything else needs the automatic mode and a robot that
stands still. -/
structure EfortReading.Permits (policy : SafetyPolicy) (call : SdkCall) (reading : EfortReading) :
    Prop where
  apiControl : reading.control.flag = true
  servoOn : reading.servo.flag = true
  released : reading.emergency.flag = false
  noAlarm : reading.alarm.flag = false
  idle : reading.status.runInfo.programStatus ∉
    [RoboxProgramState.run, RoboxProgramState.pause, RoboxProgramState.error]
  manual : call.isJog = true → reading.status.runInfo.keyMode = .manual ∧
    1 ≤ reading.status.runInfo.velocity ∧
    reading.status.runInfo.velocity ≤ policy.maximumJointSpeedPercent
  automatic : call.isJog = false → reading.status.runInfo.keyMode = .auto ∧
    reading.motion.flag = false

/-- Some complete reading in the log permits the call. -/
def SdkCall.PermittedBy (policy : SafetyPolicy) (errorOk : ℤ) (call : SdkCall)
    (log : List SdkExchange) : Prop :=
  ∃ (reading : EfortReading) (older : List SdkExchange), reading.exchanges ++ older <:+ log ∧
    reading.Complete errorOk ∧ reading.Permits policy call

/-- A call that sets the robot in motion has a complete reading of its device behind it which
permits it. -/
def SdkExchange.RestsOnReading (policy : SafetyPolicy) (errorOk : ℤ) (exchange : SdkExchange)
    (earlier : List SdkExchange) : Prop :=
  exchange.call.moves = true → ∃ (reading : EfortReading) (older : List SdkExchange),
    reading.exchanges ++ older <:+ earlier ∧ reading.Complete errorOk ∧
      reading.Permits policy exchange.call ∧ reading.device = exchange.device

/-- An operation that makes no call on request sets nothing in motion. -/
theorem EfortOperation.not_moves {operation : EfortOperation} {call : SdkCall}
    (spared : operation.calls.all (!·.commands) = true) (made : operation.MayCall call) :
    call.moves = false := by
  have own := EfortOperation.not_commands spared made
  cases call with
  | jog axis direction start => cases start <;> first | rfl | cases own
  | _ => first | rfl | cases own

/-! ### What the guard has looked at -/

/-- What a snapshot says of a robot that may be set in motion. -/
structure RobotSnapshot.Movable (policy : SafetyPolicy) (call : SdkCall)
    (snapshot : RobotSnapshot) : Prop where
  connected : snapshot.connected = true
  apiControl : snapshot.apiControl = true
  servoOn : snapshot.servoOn = true
  released : snapshot.emergencyStop = false
  noAlarm : snapshot.alarmActive = false
  unpaused : snapshot.paused = false
  noProgram : snapshot.programRunning = false
  manual : call.isJog = true → snapshot.controllerMode = .manual ∧ 1 ≤ snapshot.speedRatio ∧
    snapshot.speedRatio ≤ policy.maximumJointSpeedPercent
  automatic : call.isJog = false → snapshot.controllerMode = .automatic ∧ snapshot.moving = false

theorem validateCommonMotion_movable {policy : SafetyPolicy} {evidence : Evidence} {call : SdkCall}
    (ok : (validateCommonMotion policy evidence.snapshot evidence.leaseValid).ok = true)
    (notJog : call.isJog = false) : evidence.snapshot.Movable policy call := by
  unfold validateCommonMotion at ok
  split at ok
  · next noLease =>
    simp [ok] at noLease
  split at ok
  · cases ok
  split at ok
  · cases ok
  next ready =>
  simp only [Bool.or_eq_true, bne_iff_ne, Bool.not_eq_true', not_or, ne_eq, not_not,
    Bool.not_eq_false, Bool.not_eq_true] at ready
  rcases ready with ⟨⟨⟨⟨⟨⟨⟨⟨⟨_, mode⟩, connected⟩, apiControl⟩, servoOn⟩, released⟩, noAlarm⟩,
    standing⟩, unpaused⟩, noProgram⟩
  exact ⟨connected, apiControl, servoOn, released, noAlarm, unpaused, noProgram, by simp [notJog],
    fun _ => ⟨mode, standing⟩⟩

theorem validateJog_movable {policy : SafetyPolicy} {jog : JogCommand} {evidence : Evidence}
    {call : SdkCall} (starts : jog.start = true)
    (ok : (validateJog policy jog evidence.snapshot evidence.leaseValid evidence.jogActive).ok =
      true) (isJog : call.isJog = true) : evidence.snapshot.Movable policy call := by
  unfold validateJog at ok
  split at ok
  · cases ok
  split at ok
  · next noLease =>
    simp [ok] at noLease
  split at ok
  · cases ok
  next healthy =>
  split at ok
  · next ends =>
    simp [starts] at ends
  split at ok
  · cases ok
  split at ok
  · cases ok
  next enabled =>
  split at ok
  · cases ok
  next slow =>
  simp only [Bool.or_eq_true, bne_iff_ne, beq_iff_eq, Bool.not_eq_true', not_or, ne_eq, not_not,
    Bool.not_eq_false, Bool.not_eq_true, decide_eq_true_eq, not_lt] at healthy enabled slow
  rcases healthy with ⟨⟨⟨⟨⟨⟨connected, apiControl⟩, released⟩, noAlarm⟩, _⟩, noProgram⟩, mode⟩
  rcases enabled with ⟨⟨_, servoOn⟩, unpaused⟩
  exact ⟨connected, apiControl, servoOn, released, noAlarm, unpaused, noProgram,
    fun _ => ⟨mode, Nat.pos_of_ne_zero slow.1.1, slow.2⟩, by simp [isJog]⟩

/-- The calls of a driver call that sets the robot in motion jog it exactly if the driver call is a
jog. -/
theorem DriverCall.isJog_of_moves {call : DriverCall} {sdkCall : SdkCall}
    (made : call.operation.MayCall sdkCall) (moves : sdkCall.moves = true) :
    (∃ command, call = .jog command ∧ command.start = true ∧ sdkCall.isJog = true) ∨
      ((∀ command, call ≠ .jog command) ∧ sdkCall.isJog = false) := by
  rcases made with mem | ⟨_, axis, direction, rfl⟩
  swap
  · cases moves
  cases call with
  | jog command =>
      cases starts : command.start with
      | false => simp [DriverCall.operation, EfortOperation.calls, starts] at mem
      | true =>
          simp only [DriverCall.operation, EfortOperation.calls, starts, if_true, List.mem_cons,
            List.not_mem_nil, or_false] at mem
          rcases mem with rfl | rfl
          · cases moves
          · exact Or.inl ⟨command, rfl, starts, rfl⟩
  | stop mode =>
      have starts := (DriverCall.startsMotion_of_moves (Or.inl mem) moves).1
      cases starts
  | _ =>
      refine Or.inr ⟨by simp, ?_⟩
      cases sdkCall with
      | jog axis direction start => simp_all [DriverCall.operation, EfortOperation.calls]
      | _ => rfl

/-- A request that passes the guard and leads to a call that moves the robot was validated on a
snapshot that permits the call. -/
theorem Evidence.Passes.movable {policy : SafetyPolicy} {request : CommandRequest}
    {evidence : Evidence} {call : DriverCall} {sdkCall : SdkCall}
    (passes : evidence.Passes policy request) (executed : execute request = .ok call)
    (made : call.operation.MayCall sdkCall) (moves : sdkCall.moves = true) :
    evidence.snapshot.Movable policy sdkCall := by
  have origin := execute_origin executed
  rcases DriverCall.isJog_of_moves made moves with ⟨command, rfl, starts, isJog⟩ | ⟨other, notJog⟩
  · exact validateJog_movable starts (passes.jog origin.1 origin.2) isJog
  · have motion : isMotionCommand request.type = true := by
      rcases DriverCall.startsMotion_of_moves made moves with ⟨starts, notResume⟩
      cases call with
      | moveJ | moveL | moveC => simp [origin.1, isMotionCommand]
      | startProgram => simp [origin, isMotionCommand]
      | jog command => exact absurd rfl (other command)
      | resume => exact absurd rfl notResume
      | _ => cases starts
    exact validateCommonMotion_movable (passes.commonMotion motion) notJog

theorem toControllerMode_eq_manual {mode : RoboxKeyMode} (same : toControllerMode mode = .manual) :
    mode = .manual := by
  cases mode <;> first | rfl | cases same

theorem toControllerMode_eq_automatic {mode : RoboxKeyMode}
    (same : toControllerMode mode = .automatic) : mode = .auto := by
  cases mode <;> first | rfl | cases same

/-- A reading that shows a robot which may be moved permits the motion. -/
theorem RobotSnapshot.Movable.permits {policy : SafetyPolicy} {call : SdkCall}
    {constants : EfortConstants} {snapshot : RobotSnapshot} {before : EfortSession}
    {log : List SdkExchange} (movable : snapshot.Movable policy call)
    (measured : snapshot.Measured constants before log) :
    ∃ (reading : EfortReading) (older : List SdkExchange), log = reading.exchanges ++ older ∧
      reading.Complete constants.errorOk ∧ reading.Permits policy call := by
  cases measured with
  | unconnected link gone asked shows =>
      have lost : snapshot.connected = false := congrArg RobotSnapshot.connected shows
      cases lost.symm.trans movable.connected
  | complete reading complete addressed asked shows =>
      have noAlarm := (congrArg RobotSnapshot.alarmActive shows).symm.trans movable.noAlarm
      have unpaused := (congrArg RobotSnapshot.paused shows).symm.trans movable.unpaused
      have noProgram := (congrArg RobotSnapshot.programRunning shows).symm.trans movable.noProgram
      have mode := congrArg RobotSnapshot.controllerMode shows
      have ratio : snapshot.speedRatio = reading.status.runInfo.velocity :=
        congrArg RobotSnapshot.speedRatio shows
      rw [EfortReading.data, Bool.or_eq_false_iff, beq_eq_false_iff_ne] at noAlarm unpaused
      rw [EfortReading.data, beq_eq_false_iff_ne] at noProgram
      refine ⟨reading, before.exchanges, asked, complete,
        { apiControl := (congrArg RobotSnapshot.apiControl shows).symm.trans movable.apiControl
          servoOn := (congrArg RobotSnapshot.servoOn shows).symm.trans movable.servoOn
          released := (congrArg RobotSnapshot.emergencyStop shows).symm.trans movable.released
          noAlarm := noAlarm.1
          idle := by simp [noAlarm.2, unpaused.2, noProgram]
          manual := fun isJog => ?_
          automatic := fun notJog => ?_ }⟩
      · have manual := movable.manual isJog
        rw [ratio] at manual
        refine ⟨?_, manual.2⟩
        have same := mode.symm.trans manual.1
        exact toControllerMode_eq_manual same
      · have automatic := movable.automatic notJog
        refine ⟨toControllerMode_eq_automatic (mode.symm.trans automatic.1), ?_⟩
        exact (congrArg RobotSnapshot.moving shows).symm.trans automatic.2

/-! ### Runs of the service -/

namespace System

/-- The worker's snapshot is the published one, copied now or before. -/
theorem snapshot_of_step {setup : Setup} {system after : System} {action : Action}
    (taken : step setup system action = some after) {snapshot : RobotSnapshot}
    (copied : after.worker.snapshot = some snapshot) :
    system.worker.snapshot = some snapshot ∨ snapshot = system.impl.latestState := by
  cases action with
  | advance nanoseconds =>
      cases taken
      exact Or.inl copied
  | poll action => cases pollStep_cases taken <;> exact Or.inl copied
  | client thread action => cases clientStep_cases taken <;> exact Or.inl copied
  | shutdown action => cases shutdownStep_cases taken <;> exact Or.inl copied
  | worker action =>
      cases workerStep_cases taken with
      | copies =>
          cases copied
          exact Or.inr rfl
      | samples position | checksProgram position | calls position =>
          rw [position]
          exact Or.inl copied
      | validates position seen =>
          subst seen
          rw [position]
          exact Or.inl copied
      | dequeues =>
          cases handed : (system.impl.dequeueLocked system.now).2 <;>
            simp [handed, WorkerPc.afterDequeue, WorkerPc.snapshot] at copied
      | exits | refuses | lacksPayload | returns | completes => cases copied

end System

namespace Station

open EfortSession

variable {plant : Plant} {station after : Station}

theorem snapshot_of_step {label : Step} (taken : step plant station label = some after)
    {snapshot : RobotSnapshot} (copied : after.system.worker.snapshot = some snapshot) :
    station.system.worker.snapshot = some snapshot ∨
      snapshot = station.system.impl.latestState := by
  cases step_cases taken with
  | waits system => exact Or.inl (system ▸ copied)
  | enters _ _ _ inner => exact System.snapshot_of_step inner copied
  | proceeds _ _ inner => exact System.snapshot_of_step inner copied

/-- What the worker validates its command on is a reading. -/
theorem Reachable.informed (reached : Reachable plant station) :
    ∀ snapshot, station.system.worker.snapshot = some snapshot →
      ∃ before log, log <:+ station.session.exchanges ∧
        snapshot.Measured plant.sdk.constants before log := by
  refine reached.invariant (fun station => ∀ snapshot,
    station.system.worker.snapshot = some snapshot → ∃ before log,
      log <:+ station.session.exchanges ∧ snapshot.Measured plant.sdk.constants before log)
    (fun station initial => ?_) fun station label after reached informed _ taken => ?_
  · rcases initial with ⟨_, _, _, _, rfl⟩
    exact fun snapshot copied => by cases copied
  have reached : Reachable plant station := reached
  rcases exchanges_of_step taken with ⟨newer, added⟩
  have grown : station.session.exchanges <:+ after.session.exchanges :=
    added ▸ List.suffix_append newer _
  intro snapshot copied
  rcases snapshot_of_step taken copied with before | rfl
  · rcases informed snapshot before with ⟨session, log, made, measured⟩
    exact ⟨session, log, made.trans grown, measured⟩
  · rcases reached.observed with ⟨performed, latest, _, observed⟩
    have same : afterAll plant.sdk {} performed = station.session := observed.session.symm
    have made := exchanges_of_suffix plant.sdk {} observed.made
    rw [same] at made
    rcases observed.published with ⟨_, earlier, _, measured⟩
    exact ⟨_, _, made.trans grown, measured⟩

/-- An operation whose motions are permitted by what has been read before adds no others. -/
theorem permitted_after {sdk : EfortSdk} {policy : SafetyPolicy} {session : EfortSession}
    {operation : EfortOperation}
    (before : Backed (fun exchange earlier => exchange.call.moves = true →
      exchange.call.PermittedBy policy sdk.constants.errorOk earlier) session.exchanges)
    (permitted : ∀ call, operation.MayCall call → call.moves = true →
      call.PermittedBy policy sdk.constants.errorOk session.exchanges) :
    Backed (fun exchange earlier => exchange.call.moves = true →
      exchange.call.PermittedBy policy sdk.constants.errorOk earlier)
      (session.after sdk operation).exchanges := by
  let kept : List SdkExchange → Prop := fun exchanges =>
    Backed (fun exchange earlier => exchange.call.moves = true →
      exchange.call.PermittedBy policy sdk.constants.errorOk earlier) exchanges ∧
    session.exchanges <:+ exchanges
  have keeps : EfortDriver.Maintains (fun session => kept session.exchanges)
      (EfortDriver.perform sdk operation) := by
    apply Upheld.perform_exchanges
    rintro exchange earlier made ⟨backed, since⟩
    refine ⟨Backed.cons_iff.mpr ⟨fun moves => ?_, backed⟩,
      since.trans (List.suffix_cons exchange earlier)⟩
    rcases permitted _ made moves with ⟨reading, older, inside, permits⟩
    exact ⟨reading, older, inside.trans since, permits⟩
  exact (keeps.finalState ⟨before, List.suffix_refl _⟩).1

/-- The motions that a step may lead to are permitted by what the worker has validated them on. -/
theorem Performs.permittedBy {operation : EfortOperation}
    (performed : Performs station operation) (reached : Reachable plant station) (call : SdkCall)
    (made : operation.MayCall call) (moves : call.moves = true) :
    call.PermittedBy plant.setup.policy plant.sdk.constants.errorOk station.session.exchanges := by
  have spared : operation.calls.all (!·.commands) = true →
      call.PermittedBy plant.setup.policy plant.sdk.constants.errorOk
        station.session.exchanges := by
    intro spared
    cases (EfortOperation.not_moves spared made).symm.trans moves
  cases performed with
  | polls | stops => exact spared rfl
  | reads => exact spared (EfortOperation.observes_spared (reached.observes _))
  | @commands record evidence driverCall position =>
      have passes : evidence.Passes plant.setup.policy record.request :=
        reached.system.vetted.passed (by rw [position]; rfl)
      have executed := (reached.system.consistent.executing position).1
      rcases reached.informed evidence.snapshot (by rw [position]; rfl) with
        ⟨_, log, made', measured⟩
      rcases (passes.movable executed made moves).permits measured with
        ⟨reading, older, rfl, complete, permits⟩
      exact ⟨reading, older, made', complete, permits⟩

theorem Reachable.permittedBy (reached : Reachable plant station) :
    Backed (fun exchange earlier => exchange.call.moves = true →
      exchange.call.PermittedBy plant.setup.policy plant.sdk.constants.errorOk earlier)
      station.session.exchanges := by
  have own : ∀ {session : EfortSession} {operation : EfortOperation},
      operation.calls.all (!·.commands) = true → ∀ call, operation.MayCall call →
      call.moves = true → call.PermittedBy plant.setup.policy plant.sdk.constants.errorOk
        session.exchanges := by
    intro session operation spared call made moves
    cases (EfortOperation.not_moves spared made).symm.trans moves
  refine reached.invariant (fun station => Backed (fun exchange earlier =>
      exchange.call.moves = true → exchange.call.PermittedBy plant.setup.policy
        plant.sdk.constants.errorOk earlier) station.session.exchanges)
    (fun station initial => ?_) fun station label after reached backed _ taken => ?_
  · rcases initial with ⟨readAt, _, _, _, rfl⟩
    exact permitted_after (permitted_after Backed.nil (own rfl)) (own rfl)
  have reached : Reachable plant station := reached
  cases sessionStep_cases taken with
  | quiet session =>
      rw [session]
      exact backed
  | performs performed session =>
      rw [session]
      exact permitted_after backed (performed.permittedBy reached)
  | disconnects _ session =>
      rw [session]
      exact permitted_after (permitted_after backed (own rfl)) (own rfl)

/-- Everything but the connection itself goes to one device. -/
theorem Reachable.one_device (reached : Reachable plant station) : ∃ device,
    ∀ exchange ∈ station.session.exchanges, exchange.call.connects = false →
      exchange.device = device := by
  have served : ∀ {device log}, Served plant.sdk.constants.errorOk plant.connection device log →
      ∀ exchange ∈ log, exchange.call.connects = false → exchange.device = device := by
    intro device log served
    induction served with
    | opened call =>
        intro exchange mem other
        obtain rfl := List.mem_singleton.mp mem
        simp [call, SdkCall.connects] at other
    | goesOn _ _ addressed ih => exact List.forall_mem_cons.mpr ⟨fun _ => addressed, ih⟩
  have attached := reached.attached
  cases closed : station.system.shutdown.disconnected with
  | false => exact ⟨_, served (attached.serving closed).served⟩
  | true =>
      rcases attached.closed closed with ⟨closing, earlier, same, call, before⟩
      refine ⟨closing.device, fun exchange mem other => ?_⟩
      rw [same] at mem
      rcases List.mem_cons.mp mem with rfl | mem
      · rfl
      · exact served before exchange mem other

/-- Over every run of the service, however the SDK answers: a call that sets the robot in motion
comes after a complete reading of the same device in which the controller has answered that its
servos are on, that it is under the service's control and in the mode for the motion, and that no
emergency stop, alarm, pause or program stands against it. -/
theorem motions_rest_on_readings (reached : Reachable plant station) :
    Backed (SdkExchange.RestsOnReading plant.setup.policy plant.sdk.constants.errorOk)
      station.session.exchanges := by
  intro exchange earlier suffix moves
  rcases reached.permittedBy exchange earlier suffix moves with
    ⟨reading, older, inside, complete, permits⟩
  refine ⟨reading, older, inside, complete, permits, ?_⟩
  rcases reached.one_device with ⟨device, same⟩
  have asked : (⟨reading.device, .isConnected, reading.link⟩ : SdkExchange) ∈
      station.session.exchanges := by
    apply suffix.subset
    apply List.mem_cons_of_mem
    exact inside.subset (List.mem_append_left _ (by simp [EfortReading.exchanges]))
  have moved : exchange.call.connects = false := by
    cases call : exchange.call with
    | connectRobot | disconnectRobot => simp [call, SdkCall.moves] at moves
    | _ => rfl
  exact (same _ asked rfl).trans (same exchange (suffix.subset List.mem_cons_self) moved).symm

/-- The motion that the operator asks for rests on the reading of the start. -/
theorem motions_rest_on_readings_move : ∃ station exchange earlier,
    Reachable Plant.standing station ∧ exchange :: earlier <:+ station.session.exchanges ∧
    exchange.call = .mjoint (List.replicate 6 (.finite 5)) 10 (.finite 0) ∧
    ∃ (reading : EfortReading) (older : List SdkExchange),
      reading.exchanges ++ older <:+ earlier ∧
        reading.Permits Plant.standing.setup.policy exchange.call := by
  rcases TransitionSystem.exists_reachable_of_execute standing_reachable moves
    (fun station => station.session.exchanges.head?.any fun exchange =>
      exchange.call = .mjoint (List.replicate 6 (.finite 5)) 10 (.finite 0)) (by decide) with
    ⟨station, reached, sent⟩
  cases same : station.session.exchanges with
  | nil => simp [same] at sent
  | cons exchange earlier =>
      simp only [same, List.head?_cons, Option.any_some, decide_eq_true_eq] at sent
      have suffix : exchange :: earlier <:+ station.session.exchanges := same ▸ List.suffix_refl _
      rcases motions_rest_on_readings reached exchange earlier suffix (by rw [sent]; rfl) with
        ⟨reading, older, inside, _, permits, _⟩
      exact ⟨station, exchange, earlier, reached, suffix, sent, reading, older, inside, permits⟩

end Station

end RobotManager
