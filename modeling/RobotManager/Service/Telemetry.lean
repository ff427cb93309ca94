import RobotManager.Adapters.EfortReadings
import RobotManager.Control.Sequences
import RobotManager.Service.OneConnection

/-!
# What clients are told about the robot

The states that `GetState` and `StreamState` send are readings of the controller, each taken by
one `ReadState` of the adapter, and a client that is told a later state is told a later reading.
-/

namespace RobotManager

open Fallible

/-! ### Messages -/

/-- A state message says what the answers of a reading say.  The model is the answer that the
controller has given before, and a pause that the driver has ordered itself is added. -/
structure V1.RobotState.Reports (constants : EfortConstants) (robotId : String)
    (before : EfortSession) (reading : EfortReading) (message : V1.RobotState) : Prop where
  named : message.robotId = robotId
  connected : message.connected = true
  apiControl : message.apiControl = reading.control.flag
  servoOn : message.servoOn = reading.servo.flag
  emergencyStop : message.emergencyStop = reading.emergency.flag
  alarmActive : message.alarmActive =
    (reading.alarm.flag || reading.status.runInfo.programStatus == .error)
  moving : message.moving = reading.motion.flag
  paused : message.paused =
    (before.driver.pausedByService || reading.status.runInfo.programStatus == .pause)
  programRunning : message.programRunning = (reading.status.runInfo.programStatus == .run)
  controllerMode : message.controllerMode =
    GrpcServer.toProtoControllerMode (toControllerMode reading.status.runInfo.keyMode)
  speedRatio : message.speedRatio = reading.status.runInfo.velocity
  tcpSpeed : message.tcpSpeedMmPerSecond = reading.status.runInfo.tcpSpeed
  controllerModel : message.controllerModel = modelAnswered before.exchanges
  tool : message.activeTool =
    safeString reading.status.runInfo.toolName constants.maxCharLength
  workObject : message.activeWorkObject =
    safeString reading.status.runInfo.wobjName constants.maxCharLength
  joints : message.joints = ⟨List.ofFn reading.joints.joints⟩
  tcpPose : message.tcpPose =
    { xMm := reading.pose.position.x
      yMm := reading.pose.position.y
      zMm := reading.pose.position.z
      aDeg := reading.pose.position.a
      bDeg := reading.pose.position.b
      cDeg := reading.pose.position.c
      configuration := reading.pose.position.cfgx
      joint1Turn := reading.pose.position.cfg1
      joint4Turn := reading.pose.position.cfg4
      joint6Turn := reading.pose.position.cfg6 }
  lifecycle : (message.stateStale = true ∧ message.lifecycle = .unknown) ∨
    (message.stateStale = false ∧ message.lifecycle =
      GrpcServer.toProtoLifecycleState (deriveLifecycleState
        (reading.data constants before.driver)))

/-- A state message tells what the latest of these operations has read, the earlier ones being
those that the driver had performed before. -/
inductive V1.RobotState.Tells (sdk : EfortSdk) (robotId : String) (message : V1.RobotState) :
    List EfortOperation → Prop where
  | complete {now : TimePoint} {earlier : List EfortOperation} (reading : EfortReading)
      (complete : reading.Complete sdk.constants.errorOk)
      (addressed : reading.device = (EfortSession.ofNew sdk earlier).driver.deviceId)
      (asked : (EfortSession.ofNew sdk (.readState now :: earlier)).exchanges =
        reading.exchanges ++ (EfortSession.ofNew sdk earlier).exchanges)
      (reports : message.Reports sdk.constants robotId (EfortSession.ofNew sdk earlier) reading) :
      message.Tells sdk robotId (.readState now :: earlier)
  | unconnected {now : TimePoint} {earlier : List EfortOperation} (link : SdkAnswer)
      (gone : link.flag = false)
      (asked : (EfortSession.ofNew sdk (.readState now :: earlier)).exchanges =
        ⟨(EfortSession.ofNew sdk earlier).driver.deviceId, .isConnected, link⟩ ::
          (EfortSession.ofNew sdk earlier).exchanges)
      (named : message.robotId = robotId) (connected : message.connected = false)
      (lifecycle : message.stateStale = true ∧ message.lifecycle = .unknown ∨
        message.stateStale = false ∧ message.lifecycle = .disconnected) :
      message.Tells sdk robotId (.readState now :: earlier)

/-- A snapshot shows what the latest of these operations has read, by a driver that knew the
model of its controller. -/
inductive RobotSnapshot.ReadBy (sdk : EfortSdk) (snapshot : RobotSnapshot) :
    List EfortOperation → Prop where
  | mk (now : TimePoint) (earlier : List EfortOperation)
      (modelled : (EfortSession.ofNew sdk earlier).Modelled)
      (measured : snapshot.Measured sdk.constants (EfortSession.ofNew sdk earlier)
        (EfortSession.ofNew sdk (.readState now :: earlier)).exchanges) :
      snapshot.ReadBy sdk (.readState now :: earlier)

theorem RobotSnapshot.ReadBy.congr {sdk : EfortSdk} {snapshot other : RobotSnapshot}
    {operations : List EfortOperation} (read : snapshot.ReadBy sdk operations)
    (same : other.data = snapshot.data) : other.ReadBy sdk operations := by
  rcases read with ⟨now, earlier, modelled, measured⟩
  exact .mk now earlier modelled (measured.congr same)

/-- The lifecycle of a message is derived from what the snapshot says, unless that is stale. -/
theorem GrpcServer.populateState_lifecycle {snapshot : RobotSnapshot}
    (published : snapshot.Published) (robotId : String) (clocks : ClockReadings) :
    ((populateState robotId snapshot clocks).stateStale = true ∧
      (populateState robotId snapshot clocks).lifecycle = .unknown) ∨
    ((populateState robotId snapshot clocks).stateStale = false ∧
      (populateState robotId snapshot clocks).lifecycle =
        toProtoLifecycleState (deriveLifecycleState snapshot.data)) := by
  have derived : deriveLifecycleState snapshot.data = deriveLifecycleState snapshot := rfl
  rw [derived]
  rcases published with same | unknown
  · right
    have known : snapshot.lifecycle ≠ .unknown := same ▸ deriveLifecycleState_known snapshot
    exact ⟨by simp [populateState, known], congrArg toProtoLifecycleState same⟩
  · exact Or.inl ⟨by simp [populateState, unknown], congrArg toProtoLifecycleState unknown⟩

/-- A message about a snapshot that was read reports the reading. -/
theorem RobotSnapshot.ReadBy.tells {sdk : EfortSdk} {snapshot : RobotSnapshot}
    {operations : List EfortOperation} (read : snapshot.ReadBy sdk operations)
    (published : snapshot.Published) (robotId : String) (clocks : GrpcServer.ClockReadings) :
    (GrpcServer.populateState robotId snapshot clocks).Tells sdk robotId operations := by
  have lifecycle := GrpcServer.populateState_lifecycle published robotId clocks
  rcases read with ⟨now, earlier, modelled, measured⟩
  cases measured with
  | complete reading complete addressed asked shows =>
      refine .complete reading complete addressed asked
        { named := rfl
          connected := congrArg RobotSnapshot.connected shows
          apiControl := congrArg RobotSnapshot.apiControl shows
          servoOn := congrArg RobotSnapshot.servoOn shows
          emergencyStop := congrArg RobotSnapshot.emergencyStop shows
          alarmActive := congrArg RobotSnapshot.alarmActive shows
          moving := congrArg RobotSnapshot.moving shows
          paused := congrArg RobotSnapshot.paused shows
          programRunning := congrArg RobotSnapshot.programRunning shows
          controllerMode := congrArg
            (GrpcServer.toProtoControllerMode ∘ RobotSnapshot.controllerMode) shows
          speedRatio := congrArg RobotSnapshot.speedRatio shows
          tcpSpeed := congrArg RobotSnapshot.tcpSpeedMmPerSecond shows
          controllerModel := (congrArg RobotSnapshot.controllerModel shows).trans modelled
          tool := congrArg RobotSnapshot.activeTool shows
          workObject := congrArg RobotSnapshot.activeWorkObject shows
          joints := congrArg (V1.JointPosition.mk ∘ JointPosition.degrees ∘ RobotSnapshot.joints)
            shows
          tcpPose := congrArg (GrpcServer.populatePose ∘ RobotSnapshot.tcpPose) shows
          lifecycle := shows ▸ lifecycle }
  | unconnected link gone asked shows =>
      rw [shows] at lifecycle
      exact .unconnected link gone asked rfl (congrArg RobotSnapshot.connected shows) lifecycle

/-! ### Steps of the executor -/

/-- A poll publishes what it has read, or what was published before. -/
theorem Impl.publishState_data (options : ExecutorOptions) (state : StatusOr RobotSnapshot)
    (now : TimePoint) (impl : Impl) :
    (impl.publishState options state now).1.latestState.data = impl.latestState.data ∨
      ∃ snapshot, state = .ok snapshot ∧
        (impl.publishState options state now).1.latestState.data = snapshot.data := by
  unfold publishState
  cases state with
  | ok snapshot => exact Or.inr ⟨snapshot, rfl, rfl⟩
  | error status =>
      left
      dsimp only
      split <;> rfl

namespace System

/-- What a step publishes was published before, or is what the poll thread has read. -/
theorem latestState_of_step {setup : Setup} {system after : System} {action : Action}
    (taken : step setup system action = some after) :
    after.impl.latestState.data = system.impl.latestState.data ∨
      ∃ snapshot, system.poll = .read (.ok snapshot) ∧
        after.impl.latestState.data = snapshot.data ∧ ∀ state, after.poll ≠ .read state := by
  by_cases publishes : action = .poll .publish
  · subst publishes
    rcases publish_latestState taken with ⟨state, position, latest⟩
    rw [latest]
    refine (Impl.publishState_data _ state _ _).imp_right ?_
    rintro ⟨snapshot, rfl, same⟩
    refine ⟨snapshot, position, same, fun state reads => ?_⟩
    cases pollStep_cases taken with
    | publishes => cases reads
  · exact Or.inl (congrArg RobotSnapshot.data (step_latestState taken publishes))

/-- The poll thread holds a reading if it did before, or if `ReadState` has just returned it. -/
theorem read_of_step {setup : Setup} {system after : System} {action : Action}
    (taken : step setup system action = some after) {state : StatusOr RobotSnapshot}
    (reads : after.poll = .read state) :
    system.poll = .read state ∨
      (action = .poll (.readReturns state) ∧ system.poll = .reading) := by
  cases action with
  | advance nanoseconds =>
      cases taken
      exact Or.inl reads
  | worker action => cases workerStep_cases taken <;> exact Or.inl reads
  | client thread action => cases clientStep_cases taken <;> exact Or.inl reads
  | shutdown action => cases shutdownStep_cases taken <;> exact Or.inl reads
  | poll action =>
      cases pollStep_cases taken with
      | readReturns position =>
          cases reads
          exact Or.inr ⟨rfl, position⟩
      | checks | skips | readBegins | publishes | exits | wakes => cases reads

end System

/-! ### Runs of the service -/

/-- What `ReadState` returns on a connection is measured. -/
theorem EfortSession.measured_of_outcome {sdk : EfortSdk} {session : EfortSession}
    {now : TimePoint} {snapshot : RobotSnapshot} (connected : session.driver.connected = true)
    (ok : session.outcome (EfortDriver.readState sdk now) = .ok snapshot) :
    snapshot.Measured sdk.constants session (session.after sdk (.readState now)).exchanges := by
  have reached := EfortDriver.readState_measured sdk session connected now session rfl
  have same : session.after sdk (.readState now) =
      finalState (EfortDriver.readState sdk now) session :=
    EfortSession.finalState_reply session
  unfold outcome at ok
  split at ok
  · next value after run =>
    cases ok
    rw [run] at reached
    rwa [same, finalState_of_ok run]
  · cases ok

/-- Only `Connect` asks for the model of the controller. -/
theorem EfortOperation.ne_getCurrentRobotType {operation : EfortOperation} {call : SdkCall}
    (other : operation.connects = false) (made : operation.MayCall call) :
    call ≠ .getCurrentRobotType := by
  rcases made with mem | ⟨_, axis, direction, rfl⟩
  · rintro rfl
    cases operation with
    | connect | disconnect => cases other
    | jog command => cases start : command.start <;> simp [EfortOperation.calls, start] at mem
    | stop mode => cases mode <;> simp [EfortOperation.calls] at mem
    | _ => simp [EfortOperation.calls] at mem
  · simp

/-- An operation that keeps the connection keeps the model. -/
theorem EfortSession.modelled_after {sdk : EfortSdk} {session : EfortSession}
    {operation : EfortOperation} (other : operation.connects = false)
    (modelled : session.Modelled) : (session.after sdk operation).Modelled :=
  ((EfortDriver.upheld_modelled.mono fun _ =>
    EfortOperation.ne_getCurrentRobotType other).perform sdk other).finalState modelled

namespace Station

open EfortSession

variable {plant : Plant} {station after : Station}

theorem modelled_of_connect
    (accepted : (({} : EfortSession).status plant.sdk (.connect plant.connection)).ok = true) :
    (({} : EfortSession).after plant.sdk (.connect plant.connection)).Modelled := by
  have connects : Triple (· = {}) (EfortDriver.perform plant.sdk (.connect plant.connection))
      (fun _ => Modelled) fun _ _ => True :=
    EfortDriver.triple_reply (EfortDriver.connect_modelled plant.sdk plant.connection _)
  have reached := connects {} rfl
  cases run : (EfortDriver.perform plant.sdk (.connect plant.connection)).run {} with
  | ok reply after =>
      rw [run] at reached
      rw [EfortSession.after, finalState_of_ok run]
      exact reached
  | error status after =>
      have fresh : (EfortDriver.perform plant.sdk (.connect plant.connection)).run
          (ofNew plant.sdk []) = .error status after := run
      have refused := error_not_ok fresh
      simp [EfortSession.status, outcome, run, refused] at accepted

/-- While the connection is open, the driver knows the model that the controller has answered. -/
theorem Reachable.modelled (reached : Reachable plant station) :
    station.system.shutdown.disconnected = false → station.session.Modelled := by
  refine reached.invariant (fun station =>
      station.system.shutdown.disconnected = false → station.session.Modelled)
    (fun station initial => ?_) fun station label after reached modelled _ taken => ?_
  · rcases initial with ⟨readAt, now, impl, started, rfl⟩
    exact fun _ => modelled_after rfl (modelled_of_connect (connect_ok_of_start started))
  have reached : Reachable plant station := reached
  intro connected
  cases sessionStep_cases taken with
  | quiet session phase => exact session ▸ modelled (phase ▸ connected)
  | performs performed session phase =>
      rw [session]
      exact modelled_after (performed.not_connects reached.observes) (modelled (phase ▸ connected))
  | disconnects _ _ phase => cases phase.symm.trans connected

/-- A snapshot that may be told to clients: what the latest of some operations has read. -/
structure Tellable (sdk : EfortSdk) (snapshot : RobotSnapshot) (past : List EfortOperation) :
    Prop where
  published : snapshot.Published
  read : snapshot.ReadBy sdk past

/-- What is published and what was told are readings, each at its place among the operations that
the adapter has performed. -/
structure Observed (plant : Plant) (station : Station) (performed latest : List EfortOperation)
    (pasts : List (List EfortOperation)) : Prop where
  session : station.session = ofNew plant.sdk performed
  made : latest <:+ performed
  published : station.system.impl.latestState.ReadBy plant.sdk latest
  told : List.Forall₂ (Tellable plant.sdk) station.system.statesReturned pasts
  ordered : (latest :: pasts).Pairwise fun later earlier => earlier <:+ later
  pending : ∀ snapshot, station.system.poll = .read (.ok snapshot) → ∃ past,
    past <:+ performed ∧ latest <:+ past ∧ snapshot.ReadBy plant.sdk past

/-- A step performs further operations, and a reading that the poll thread has got is what the
latest of them has read. -/
theorem performed_of_step {label : Step} {performed : List EfortOperation}
    (reached : Reachable plant station) (session : station.session = ofNew plant.sdk performed)
    (taken : step plant station label = some after) :
    ∃ newer, after.session = ofNew plant.sdk (newer ++ performed) ∧
      ∀ snapshot, after.system.poll = .read (.ok snapshot) →
        station.system.poll = .read (.ok snapshot) ∨
          snapshot.ReadBy plant.sdk (newer ++ performed) := by
  cases step_cases taken with
  | waits system same => exact ⟨[], same.trans session, fun _ reads => Or.inl (system ▸ reads)⟩
  | enters _ _ _ inner same =>
      refine ⟨[], same.trans session, fun snapshot reads => ?_⟩
      rcases System.read_of_step inner reads with before | ⟨other, _⟩
      · exact Or.inl before
      · cases other
  | @proceeds action _ _ inner same =>
      refine ⟨station.operations action, ?_, fun snapshot reads => ?_⟩
      · rw [same, session, ofNew, ofNew, afterAll_append]
      rcases System.read_of_step inner reads with before | ⟨isRead, position⟩
      · exact Or.inl before
      right
      have connected : station.system.shutdown.disconnected = false := by
        by_contra disconnected
        exact reached.performs_none (by simpa using disconnected) _ (.polls position)
      have serving := reached.attached.serving connected
      have modelled := reached.modelled connected
      rw [session] at serving modelled
      unfold answered at isRead
      split at isRead
      · split at isRead <;> cases isRead
      · have ok := PollAction.readReturns.inj (Action.poll.inj isRead)
        rw [session] at ok
        exact .mk _ performed modelled (measured_of_outcome serving.connected ok)
      · cases isRead
      · next readReturns _ =>
        subst isRead
        exact absurd rfl (readReturns _)

/-- Clients are told what is published. -/
theorem told_of_step {label : Step} (taken : step plant station label = some after) :
    after.system.statesReturned = station.system.statesReturned ∨
      after.system.statesReturned =
        station.system.impl.latestState :: station.system.statesReturned := by
  cases step_cases taken with
  | waits system => exact Or.inl (congrArg System.statesReturned system)
  | enters _ _ _ inner => exact (System.step_statesReturned inner).imp_right And.left
  | proceeds _ _ inner => exact (System.step_statesReturned inner).imp_right And.left

theorem latestState_of_step {label : Step} (taken : step plant station label = some after) :
    after.system.impl.latestState.data = station.system.impl.latestState.data ∨
      ∃ snapshot, station.system.poll = .read (.ok snapshot) ∧
        after.system.impl.latestState.data = snapshot.data ∧
        ∀ state, after.system.poll ≠ .read state := by
  cases step_cases taken with
  | waits system => exact Or.inl (by rw [system])
  | enters _ _ _ inner => exact System.latestState_of_step inner
  | proceeds _ _ inner => exact System.latestState_of_step inner

theorem Observed.step {label : Step} {performed latest : List EfortOperation}
    {pasts : List (List EfortOperation)} (observed : Observed plant station performed latest pasts)
    (reached : Reachable plant station) (taken : step plant station label = some after) :
    ∃ performed latest pasts, Observed plant after performed latest pasts := by
  rcases performed_of_step reached observed.session taken with ⟨newer, session, pending⟩
  have grown : performed <:+ newer ++ performed := List.suffix_append newer performed
  rcases List.pairwise_cons.mp observed.ordered with ⟨older, ordered⟩
  -- what clients have been told after the step, none of it later than what was published before it
  have told : ∃ pasts, List.Forall₂ (Tellable plant.sdk) after.system.statesReturned pasts ∧
      (∀ past ∈ pasts, past <:+ latest) ∧
      pasts.Pairwise fun later earlier => earlier <:+ later := by
    rcases told_of_step taken with same | more
    · exact ⟨pasts, same ▸ observed.told, older, ordered⟩
    · have tellable : Tellable plant.sdk station.system.impl.latestState latest :=
        ⟨reached.system.vetted.published, observed.published⟩
      refine ⟨latest :: pasts, more ▸ .cons tellable observed.told, ?_, observed.ordered⟩
      exact List.forall_mem_cons.mpr ⟨List.suffix_refl _, older⟩
  rcases told with ⟨pasts, told, older, ordered⟩
  rcases latestState_of_step taken with same | ⟨snapshot, position, same, published⟩
  · refine ⟨_, latest, pasts, session, observed.made.trans grown, observed.published.congr same,
      told, .cons older ordered, fun snapshot reads => ?_⟩
    rcases pending snapshot reads with before | fresh
    · rcases observed.pending snapshot before with ⟨past, made, later, read⟩
      exact ⟨past, made.trans grown, later, read⟩
    · exact ⟨_, List.suffix_refl _, observed.made.trans grown, fresh⟩
  · rcases observed.pending snapshot position with ⟨past, made, later, read⟩
    refine ⟨_, past, pasts, session, made.trans grown, read.congr same, told, ?_,
      fun snapshot reads => absurd reads (published _)⟩
    exact .cons (fun told mem => (older told mem).trans later) ordered

/-- `Start` publishes the first reading. -/
theorem latestState_of_start {options : ExecutorOptions} {connect : Status}
    {initial : StatusOr RobotSnapshot} {now : TimePoint} {impl : Impl}
    (started : Impl.start options true connect initial now {} = .ok impl) :
    ∃ snapshot, initial = .ok snapshot ∧ impl.latestState.data = snapshot.data := by
  unfold Impl.start at started
  split at started
  · cases started
  split at started
  · cases started
  split at started
  · cases started
  split at started
  · cases started
  split at started
  · cases started
  · cases started
    exact ⟨_, rfl, rfl⟩

theorem Init.observed (initial : Init plant station) :
    ∃ performed latest, Observed plant station performed latest [] := by
  rcases initial with ⟨readAt, now, impl, started, rfl⟩
  have accepted := connect_ok_of_start started
  have serving := serving_of_connect accepted
  rcases latestState_of_start started with ⟨snapshot, read, same⟩
  have shows : snapshot.ReadBy plant.sdk [.readState readAt, .connect plant.connection] :=
    .mk readAt _ (modelled_of_connect accepted) (measured_of_outcome serving.connected read)
  exact ⟨_, _, rfl, List.suffix_refl _, shows.congr same, .nil, .cons (by simp) .nil, by simp⟩

theorem Reachable.observed (reached : Reachable plant station) :
    ∃ performed latest pasts, Observed plant station performed latest pasts := by
  refine reached.invariant
    (fun station => ∃ performed latest pasts, Observed plant station performed latest pasts)
    (fun station initial => ?_) fun station label after reached observed _ taken => ?_
  · rcases Init.observed initial with ⟨performed, latest, observed⟩
    exact ⟨performed, latest, [], observed⟩
  · rcases observed with ⟨performed, latest, pasts, observed⟩
    exact observed.step reached taken

/-- Over every run of the service, however the SDK answers: each state message that a client is
sent tells what one `ReadState` among the operations of the adapter has read from the controller,
and of two messages the later one tells no earlier reading. -/
theorem messages_report_readings (reached : Reachable plant station) :
    ∃ performed, station.session = ofNew plant.sdk performed ∧
      ∃ pasts : List (List EfortOperation),
        List.Forall₂ (fun snapshot past => past <:+ performed ∧
          ∀ clocks, (GrpcServer.populateState plant.endpoint.robotId snapshot clocks).Tells
            plant.sdk plant.endpoint.robotId past) station.system.statesReturned pasts ∧
        pasts.Pairwise fun later earlier => earlier <:+ later := by
  rcases reached.observed with ⟨performed, latest, pasts, observed⟩
  rcases List.pairwise_cons.mp observed.ordered with ⟨older, ordered⟩
  refine ⟨performed, observed.session, pasts, ?_, ordered⟩
  have made : ∀ past ∈ pasts, past <:+ performed :=
    fun past mem => (older past mem).trans observed.made
  have told := observed.told
  generalize station.system.statesReturned = snapshots at told
  clear observed older ordered
  induction told with
  | nil => exact .nil
  | cons tellable _ ih =>
      rcases List.forall_mem_cons.mp made with ⟨newest, rest⟩
      exact .cons ⟨newest, tellable.read.tells tellable.published _⟩ (ih rest)

/-- The operator asks for the state twice, with a poll in between. -/
theorem messages_report_readings_polled : ∃ station performed pasts,
    Reachable Plant.standing station ∧ station.system.statesReturned.length = 2 ∧
    station.session = ofNew sdkStanding performed ∧
    List.Forall₂ (fun snapshot past => past <:+ performed ∧
      ∀ clocks, (GrpcServer.populateState "cell" snapshot clocks).Tells sdkStanding "cell" past)
        station.system.statesReturned pasts := by
  let asks : Step := .rpc 0 ⟨some ["operator"]⟩ (.getState ⟨"cell"⟩)
  rcases TransitionSystem.exists_reachable_of_execute standing_reachable
    ([asks] ++ (Schedule.poll (.error ⟨.unavailable, "", 0⟩)).map .proceed ++ [asks])
    (fun station => station.system.statesReturned.length = 2) (by decide) with
    ⟨station, reached, asked⟩
  rcases messages_report_readings reached with ⟨performed, session, pasts, told, _⟩
  exact ⟨station, performed, pasts, reached, of_decide_eq_true asked, session, told⟩

end Station

end RobotManager
