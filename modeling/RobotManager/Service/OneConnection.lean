import RobotManager.Adapters.EfortConnection
import RobotManager.Adapters.EfortFailures
import RobotManager.Control.ShutdownSettles
import RobotManager.Service.StationRuns

/-!
# One connection in the life of the service

The service opens one connection to the controller before it takes calls, sends everything to
the device of this connection, and closes it once, as the last thing it asks of the SDK.
-/

namespace RobotManager

open Fallible

/-- A log, the latest first, that begins with the connection that the options ask for and goes on
with calls to its device. -/
inductive Served (errorOk : ℤ) (options : ConnectionOptions) (device : ℕ) :
    List SdkExchange → Prop where
  | opened {exchange : SdkExchange} (call : exchange.call =
        .connectRobot options.address options.sdkDebugLogging options.verifySdkVersion)
      (isOk : exchange.answer.code = errorOk) (given : exchange.answer.deviceId = device) :
      Served errorOk options device [exchange]
  | goesOn {exchange : SdkExchange} {earlier : List SdkExchange}
      (served : Served errorOk options device earlier) (other : exchange.call.connects = false)
      (addressed : exchange.device = device) : Served errorOk options device (exchange :: earlier)

namespace EfortSession

variable (sdk : EfortSdk) (options : ConnectionOptions)

/-- The only connection is open. -/
structure Serving (session : EfortSession) : Prop where
  connected : session.driver.connected = true
  served : Served sdk.constants.errorOk options session.driver.deviceId session.exchanges

/-- The only connection has been closed, and nothing came after. -/
def Closed (session : EfortSession) : Prop :=
  ∃ closing earlier, session.exchanges = closing :: earlier ∧ closing.call = .disconnectRobot ∧
    Served sdk.constants.errorOk options closing.device earlier

end EfortSession

namespace EfortDriver

open EfortSession

variable (sdk : EfortSdk) (options : ConnectionOptions)

theorem upheld_serving : Upheld (Serving sdk options) (·.connects = false) := by
  constructor
  · rintro session call answer other ⟨connected, served⟩
    exact ⟨connected, .goesOn served other rfl⟩
  · rintro session driver sameConnected sameDevice _ ⟨connected, served⟩
    exact ⟨sameConnected.trans connected, sameDevice ▸ served⟩

theorem connect_serves : Triple (· = {}) (connect sdk options)
    (fun _ => Serving sdk options) fun _ _ => True := by
  have asks : Triple (· = {}) (query sdk "ConnectRobot"
        (.connectRobot options.address options.sdkDebugLogging options.verifySdkVersion))
      (fun answer session =>
        Served sdk.constants.errorOk options answer.deviceId session.exchanges)
      fun _ _ => True := by
    refine triple_answered ?_ fun _ _ _ _ => trivial
    rintro session answer rfl isOk
    exact .opened rfl isOk rfl
  have checks : Triple (Serving sdk options) (checkModel sdk options)
      (fun _ => Serving sdk options) fun _ _ => True :=
    triple_checkModel ((upheld_serving sdk options).invoke sdk rfl) (fun _ _ => triple_close _)
      (fun _ _ _ => triple_close _) fun _ _ _ serving => ⟨serving.connected, serving.served⟩
  refine triple_connect (fun _ _ _ _ _ => trivial) asks (fun _ => ?_) checks
  exact fun _ served => ⟨rfl, served⟩

/-- `Disconnect` asks for nothing after it has closed the connection. -/
theorem disconnect_closed : Triple (Serving sdk options) (disconnect sdk)
    (fun _ => Closed sdk options) fun _ => Closed sdk options := by
  have upheld := upheld_serving sdk options
  have knows : Triple (Serving sdk options) current
      (fun driver session => Serving sdk options session ∧ driver.connected = true)
      fun _ => Closed sdk options := fun _ serving => ⟨serving, serving.connected⟩
  apply Triple.bind knows
  intro driver
  apply Triple.ite
  · rintro idle session ⟨_, connected⟩
    simp [connected] at idle
  intro _
  have stops : Triple (Serving sdk options) (attempt (stopActiveJog sdk))
      (fun _ => Serving sdk options) fun _ => Closed sdk options :=
    Triple.attempt (upheld.stopActiveJog sdk fun _ _ => rfl)
  apply Triple.bind (stops.strengthen fun _ => And.left)
  intro _
  apply Triple.bind (upheld.invoke sdk rfl)
  intro control
  have releases : Triple (Serving sdk options)
      (onlyIf control.flag do
        let _ ← invoke sdk (.enableApiControl false)
        pure ()) (fun _ => Serving sdk options) fun _ => Closed sdk options := by
    apply Triple.ite
    · intro _
      apply Triple.bind (upheld.invoke sdk rfl)
      intro _
      exact Triple.pure fun _ => id
    · exact fun _ => Triple.pure fun _ => id
  apply Triple.bind releases
  intro _
  have closes : Triple (Serving sdk options) (invoke sdk .disconnectRobot)
      (fun _ => Closed sdk options) fun _ => Closed sdk options :=
    fun session serving => ⟨_, session.exchanges, rfl, rfl, serving.served⟩
  apply Triple.bind closes
  intro _
  exact fun _ => id

end EfortDriver

/-! ### Runs of the service -/

/-- The operations that only read from the robot. -/
def EfortOperation.observes : EfortOperation → Bool
  | .readState _ | .readAlarms | .readDigitalInput _ | .readDigitalOutput _ => true
  | _ => false

theorem Rpc.observes_of_reading {rpc : Rpc} {operation : EfortOperation}
    (reading : rpc.reading = some operation) : operation.observes = true := by
  unfold Rpc.reading at reading
  split at reading <;> cases reading <;> rfl

namespace Station

open EfortSession

variable {plant : Plant} {station after : Station}

/-- The handlers' threads only read from the robot. -/
theorem Reachable.observes (reached : Reachable plant station) (thread : ℕ) :
    (station.reads thread).observes = true := by
  refine reached.invariant (fun station => ∀ thread, (station.reads thread).observes = true)
    (fun station initial => ?_) (fun station label after _ observes _ taken => ?_) thread
  · rcases initial with ⟨_, _, _, _, rfl⟩
    exact fun _ => rfl
  · intro other
    cases step_cases taken with
    | waits _ _ _ reads => exact reads ▸ observes other
    | @enters thread action _ _ asked _ _ _ reads =>
        rcases reads other with same | ⟨rfl, isRead⟩
        · exact same ▸ observes other
        · rcases asked.reads isRead with ⟨_, rpc, _, reading⟩
          exact Rpc.observes_of_reading reading
    | proceeds _ _ _ _ _ reads => exact reads ▸ observes other

/-- The service only adds exchanges. -/
theorem exchanges_of_step {label : Step} (taken : step plant station label = some after) :
    ∃ newer, after.session.exchanges = newer ++ station.session.exchanges := by
  cases sessionStep_cases taken with
  | quiet session => exact ⟨[], congrArg _ session⟩
  | performs _ session =>
      rcases exchanges_after plant.sdk station.session _ with ⟨newer, same, _⟩
      exact ⟨newer, (congrArg _ session).trans same⟩
  | disconnects _ session =>
      rcases exchanges_after plant.sdk station.session .releaseControl with ⟨older, same, _⟩
      rcases exchanges_after plant.sdk (station.session.after plant.sdk .releaseControl)
        .disconnect with ⟨newer, sameAgain, _⟩
      refine ⟨newer ++ older, ?_⟩
      rw [session, sameAgain, same, List.append_assoc]

/-- What the service asks of the adapter while it is connected opens and closes no connection. -/
theorem Performs.not_connects {operation : EfortOperation} (performed : Performs station operation)
    (observes : ∀ thread, (station.reads thread).observes = true) : operation.connects = false := by
  cases performed with
  | @commands record evidence call => cases call <;> rfl
  | polls => rfl
  | @reads thread =>
      have only := observes thread
      cases operation : station.reads thread <;> simp_all [EfortOperation.observes] <;> rfl
  | stops => rfl

/-- Once the connection is closed, nobody is left who could ask something of the adapter. -/
theorem Reachable.performs_none (reached : Reachable plant station)
    (disconnected : station.system.shutdown.disconnected = true) (operation : EfortOperation) :
    ¬Performs station operation := by
  have consistent := reached.system.consistent
  have winding := reached.system.windingDown
  have exited : station.system.worker = .exited ∧ station.system.poll = .exited := by
    cases phase : station.system.shutdown with
    | stopped stage result active =>
        have late : stage = .finishing := by
          cases stage <;> simp_all [ShutdownPc.disconnected]
        exact ⟨consistent.joined phase (by simp [late]),
          winding.joined phase (by simp [late]) (by simp [late])⟩
    | done => exact ⟨consistent.done phase, winding.done phase⟩
    | idle | flagged | stopping => simp [phase, ShutdownPc.disconnected] at disconnected
  intro performed
  cases performed with
  | commands position => cases position.symm.trans exited.1
  | polls position => cases position.symm.trans exited.2
  | reads position =>
      have closed : station.system.shutdown ≠ .idle := by
        intro idle
        simp [idle, ShutdownPc.disconnected] at disconnected
      have tended : Tended station := Reachable.tended reached
      cases position.symm.trans (tended.clients_idle (tended.closed closed) _)
  | stops position => simp [position, ShutdownPc.disconnected] at disconnected

/-- Where the connection is in the life of the service. -/
structure Attached (plant : Plant) (station : Station) : Prop where
  serving : station.system.shutdown.disconnected = false →
    station.session.Serving plant.sdk plant.connection
  closed : station.system.shutdown.disconnected = true →
    station.session.Closed plant.sdk plant.connection

theorem connect_ok_of_start {options : ExecutorOptions} {connect : Status}
    {initial : StatusOr RobotSnapshot} {now : TimePoint} {impl : Impl}
    (started : Impl.start options true connect initial now {} = .ok impl) : connect.ok = true := by
  unfold Impl.start at started
  split at started
  · cases started
  split at started
  · cases started
  split at started
  · cases started
  split at started
  · cases started
  next accepted => simpa using accepted

/-- A connection that is reported as made serves. -/
theorem serving_of_connect
    (accepted : (({} : EfortSession).status plant.sdk (.connect plant.connection)).ok = true) :
    (({} : EfortSession).after plant.sdk (.connect plant.connection)).Serving plant.sdk
      plant.connection := by
  have connects : Triple (· = {}) (EfortDriver.perform plant.sdk (.connect plant.connection))
      (fun _ => Serving plant.sdk plant.connection) fun _ _ => True :=
    EfortDriver.triple_reply (EfortDriver.connect_serves plant.sdk plant.connection)
  have reached := connects {} rfl
  cases run : (EfortDriver.perform plant.sdk (.connect plant.connection)).run {} with
  | ok reply after =>
      rw [run] at reached
      rw [EfortSession.after, finalState_of_ok run]
      exact reached
  | error status after =>
      have fresh : (EfortDriver.perform plant.sdk (.connect plant.connection)).run
          (ofNew plant.sdk []) = .error status after := run
      have refused := error_not_ok fresh
      simp [EfortSession.status, outcome, run, refused] at accepted

theorem Init.attached (initial : Init plant station) : Attached plant station := by
  rcases initial with ⟨readAt, now, impl, started, rfl⟩
  refine ⟨fun _ => ?_, nofun⟩
  have serving := serving_of_connect (connect_ok_of_start started)
  have upheld := EfortDriver.upheld_serving plant.sdk plant.connection
  exact ((upheld.mono fun _ => EfortOperation.not_connects_of_mayCall rfl).perform plant.sdk
    rfl).finalState serving

theorem Reachable.attached (reached : Reachable plant station) : Attached plant station := by
  refine reached.invariant (Attached plant) (fun _ => Init.attached)
    fun station label after reached attached _ taken => ?_
  have reached : Reachable plant station := reached
  have upheld := EfortDriver.upheld_serving plant.sdk plant.connection
  have keeps : ∀ {operation : EfortOperation}, operation.connects = false →
      station.session.Serving plant.sdk plant.connection →
      (station.session.after plant.sdk operation).Serving plant.sdk plant.connection :=
    fun others serving => ((upheld.mono fun _ =>
      EfortOperation.not_connects_of_mayCall others).perform plant.sdk others).finalState serving
  cases sessionStep_cases taken with
  | quiet session phase =>
      exact ⟨session ▸ phase ▸ attached.serving, session ▸ phase ▸ attached.closed⟩
  | performs performed session phase =>
      refine ⟨fun connected => ?_, fun disconnected => ?_⟩
      · rw [session]
        exact keeps (performed.not_connects reached.observes) (attached.serving (phase ▸ connected))
      · exact absurd performed (reached.performs_none (phase ▸ disconnected) _)
  | disconnects position session phase =>
      refine ⟨fun connected => ?_, fun _ => ?_⟩
      · cases phase.symm.trans connected
      · rw [session]
        have serving := attached.serving (by simp [position, ShutdownPc.disconnected])
        have closes : Triple (Serving plant.sdk plant.connection)
            (EfortDriver.perform plant.sdk .disconnect)
            (fun _ => Closed plant.sdk plant.connection)
            fun _ => Closed plant.sdk plant.connection :=
          EfortDriver.triple_reply (EfortDriver.disconnect_closed plant.sdk plant.connection)
        exact closes.finalState (keeps rfl serving)

/-- Over every run of the service, whatever its clients do and however the SDK answers: until
`Shutdown` has disconnected, the SDK has been asked for one connection, with the options of the
configuration, and everything since has gone to its device; then this connection has been closed as
the last call to the SDK, in this state and in every later one. -/
theorem one_connection (reached : Reachable plant station) :
    (station.system.shutdown.disconnected = false →
      Served plant.sdk.constants.errorOk plant.connection station.session.driver.deviceId
        station.session.exchanges) ∧
    (station.system.shutdown.disconnected = true →
      ∃ closing earlier, closing.call = .disconnectRobot ∧
        Served plant.sdk.constants.errorOk plant.connection closing.device earlier ∧
        ∀ later, TransitionSystem.StepsUnder (step plant) (fun _ _ => True) station later →
          later.session.exchanges = closing :: earlier) := by
  have attached := reached.attached
  refine ⟨fun connected => (attached.serving connected).served, fun disconnected => ?_⟩
  rcases attached.closed disconnected with ⟨closing, earlier, same, call, served⟩
  refine ⟨closing, earlier, call, served, fun later steps => ?_⟩
  have ended : later.system.shutdown.disconnected = true ∧
      later.session.exchanges = closing :: earlier := by
    refine steps.invariant (fun later => later.system.shutdown.disconnected = true ∧
      later.session.exchanges = closing :: earlier) reached ⟨disconnected, same⟩ ?_
    rintro middle label after middleReached ⟨gone, unchanged⟩ _ taken
    have middleReached : Reachable plant middle := middleReached
    cases sessionStep_cases taken with
    | quiet session phase => exact ⟨phase.trans gone, session ▸ unchanged⟩
    | performs performed => exact absurd performed (middleReached.performs_none gone _)
    | disconnects position => simp [position, ShutdownPc.disconnected] at gone
  exact ended.2

/-- A service that is stopped has closed its connection. -/
theorem one_connection_stopped : ∃ station closing earlier, Reachable Plant.standing station ∧
    station.session.exchanges = closing :: earlier ∧ closing.call = .disconnectRobot ∧
    Served 0 EfortSession.sampleOptions closing.device earlier := by
  let stops : List Step := .stopRequested ::
    (Schedule.stopForShutdown Status.Ok ++ Schedule.disconnect).map .proceed
  rcases TransitionSystem.exists_reachable_of_execute standing_reachable stops
    (fun station => station.system.shutdown.disconnected) (by decide) with
    ⟨station, reached, disconnected⟩
  rcases (one_connection reached).2 disconnected with ⟨closing, earlier, call, served, kept⟩
  exact ⟨station, closing, earlier, reached, kept station .refl, call, served⟩

end Station

end RobotManager
