import Mathlib
import RobotManager.Service.ConfiguredSite
import RobotManager.Service.ShutdownCompletes

/-!
# The process

`Run` of `main.cc` from the loading of the configuration to its return code.  `Start` can fail at
every point, the server may not come up, and the process may be told to stop at any time; on every
one of these ways `Run` leaves no connection to the controller behind.
-/

namespace RobotManager

open Fallible

/-- What `Start` finds: the clock, and whether the threads can be created. -/
structure Launch where
  readAt : TimePoint
  now : TimePoint
  threadsFail : Option String := none

/-- `Start` of the executor with the driver it asks, on every path. -/
def Impl.startOn (plant : Plant) (launch : Launch) (impl : Impl) (session : EfortSession) :
    Status × Impl × EfortSession :=
  let connect := session.status plant.sdk (.connect plant.connection)
  let connected := session.after plant.sdk (.connect plant.connection)
  let read := connected.after plant.sdk (.readState launch.readAt)
  if !plant.setup.options.accepted then
    (⟨.invalidArgument, "executor timing and queue options are invalid", 0⟩, impl, session)
  else if impl.running || impl.startedOnce then
    (⟨.alreadyExists, "command executor cannot be started again", 0⟩, impl, session)
  else if !connect.ok then (connect, impl, connected)
  else
    match connected.outcome (EfortDriver.readState plant.sdk launch.readAt) with
    | .error status => (status, impl, read.after plant.sdk .disconnect)
    | .ok snapshot =>
        let published := { snapshot with observedAt := launch.now, sequence := 1 }
        let started :=
          { impl with
            latestState := { published with lifecycle := deriveLifecycleState published }
            shuttingDown := false
            running := true
            startedOnce := true }
        match launch.threadsFail with
        | none => (Status.Ok, started, read)
        | some what =>
            (⟨.resourceExhausted, "failed to start executor threads: " ++ what, 0⟩,
              { started with running := false, startedOnce := false },
              read.after plant.sdk .disconnect)

/-- The service right after a successful `Start`. -/
def Station.begun (plant : Plant) (launch : Launch) (impl : Impl) (session : EfortSession) :
    Station where
  system :=
    { impl := impl
      leases := { leaseTtl := plant.setup.options.controlLeaseTtl }
      now := launch.now }
  session := session

/-- Where `RunGrpcServer` is: before the server is up, serving, or refused. -/
inductive Stage where
  | awaited
  | up
  | refused
deriving DecidableEq

/-- Where `Run` is. -/
inductive Process where
  | loading
  | starting (plant : Plant)
  | running (stage : Stage) (plant : Plant) (station : Station)
  | returned (code : ℕ) (session : EfortSession)

namespace Process

inductive Step where
  | load
  | start (launch : Launch)
  | serverStarts
  /-- `RunGrpcServer` returns an error before it serves. -/
  | serverFails
  | work (label : Station.Step)
  /-- `Shutdown` has returned. -/
  | returns

/-- The steps of the service that need a server. -/
def needsServer : Station.Step → Bool
  | .proceed _ => false
  | _ => true

def step (document : ConfigDocument) (sdk : EfortSdk) : Process → Step → Option Process
  | .loading, .load =>
      match Plant.ofDocument document sdk with
      | .error _ => some (.returned 2 {})
      | .ok plant => some (.starting plant)
  | .starting plant, .start launch =>
      match Impl.startOn plant launch {} {} with
      | (status, impl, session) =>
          if status.ok then some (.running .awaited plant (.begun plant launch impl session))
          else some (.returned 1 session)
  | .running .awaited plant station, .serverStarts => some (.running .up plant station)
  | .running .awaited plant station, .serverFails =>
      some (.running .refused plant { station with serving := false })
  | .running stage plant station, .work label =>
      if stage = .awaited ∧ needsServer label = true then none
      else (Station.step plant station label).map (.running stage plant)
  | .running stage _ station, .returns =>
      if station.system.shutdown = .done then
        some (.returned (if stage = .refused then 1 else 0) station.session)
      else none
  | _, _ => none

/-- The states of a run of the process with a configuration document, whatever SDK stands at the
other end. -/
abbrev Reachable (document : ConfigDocument) (sdk : EfortSdk) : Process → Prop :=
  TransitionSystem.Reachable (step document sdk) (· = .loading)

end Process

/-! ### The outcomes of `Start` -/

namespace EfortSession

/-- Operations that make no call on request leave none in the log. -/
theorem not_commands_ofNew {plant : Plant} {operations : List EfortOperation}
    (spared : ∀ operation ∈ operations, operation.calls.all (!·.commands) = true) :
    ∀ exchange ∈ (ofNew plant.sdk operations).exchanges, exchange.call.commands = false := by
  induction operations with
  | nil => exact fun exchange mem => by cases mem
  | cons operation earlier ih =>
      rcases List.forall_mem_cons.mp spared with ⟨spared, before⟩
      intro exchange sent
      cases commands : exchange.call.commands with
      | false => rfl
      | true =>
          have sent : exchange ∈
              ((ofNew plant.sdk earlier).after plant.sdk operation).exchanges := sent
          have old := Station.commands_after spared sent commands
          cases commands.symm.trans (ih before exchange old)

/-- An operation whose status is not OK has failed. -/
theorem succeeds_of_status {sdk : EfortSdk} {session : EfortSession} {operation : EfortOperation}
    (notOk : (session.status sdk operation).ok = false) :
    session.succeeds sdk operation = false := by
  cases run : (EfortDriver.perform sdk operation).run session with
  | ok reply after => simp [status, outcome, run] at notOk
  | error status after => exact succeeds_of_error run

/-- `ReadState` does not fail with an OK status. -/
theorem not_ok_of_readState {sdk : EfortSdk} {operations : List EfortOperation} {now : TimePoint}
    {status : Status}
    (failed : (ofNew sdk operations).outcome (EfortDriver.readState sdk now) = .error status) :
    status.ok = false := by
  unfold outcome at failed
  split at failed
  · cases failed
  · next reason after run =>
    cases failed
    have performed : (EfortDriver.perform sdk (.readState now)).run (ofNew sdk operations) =
        .error status after := by
      simp [EfortDriver.perform, EfortDriver.reply, run]
    exact error_not_ok performed

end EfortSession

/-- What `Start` leaves: a service that has begun, or a driver without a connection whose robot was
commanded nothing but to stop. -/
inductive StartOutcome (plant : Plant) (launch : Launch) : Status × Impl × EfortSession → Prop where
  | begun {status : Status} {impl : Impl} {session : EfortSession} (ok : status.ok = true)
      (initial : Station.Init plant (.begun plant launch impl session)) :
      StartOutcome plant launch (status, impl, session)
  | failed {status : Status} {impl : Impl} {operations : List EfortOperation}
      (notOk : status.ok = false)
      (closed : EfortSession.connectedAfter plant.sdk operations = false)
      (spared : ∀ operation ∈ operations, operation.calls.all (!·.commands) = true) :
      StartOutcome plant launch (status, impl, EfortSession.ofNew plant.sdk operations)

theorem Impl.startOn_cases (plant : Plant) (launch : Launch) :
    StartOutcome plant launch (Impl.startOn plant launch {} {}) := by
  have untouched : ∀ {status : Status}, status.ok = false →
      StartOutcome plant launch (status, {}, EfortSession.ofNew plant.sdk []) :=
    fun notOk => .failed notOk rfl (by simp)
  -- what was connected is disconnected again
  have undone : ∀ {status : Status} {impl : Impl}, status.ok = false →
      StartOutcome plant launch (status, impl, EfortSession.ofNew plant.sdk
        [.disconnect, .readState launch.readAt, .connect plant.connection]) :=
    fun notOk => .failed notOk rfl (by simp [EfortOperation.calls, SdkCall.commands])
  unfold startOn
  dsimp only
  split
  · exact untouched rfl
  next accepted =>
  split
  · exact untouched rfl
  split
  · next refused =>
    have refused : (({} : EfortSession).status plant.sdk (.connect plant.connection)).ok =
        false := by simpa using refused
    have closed : EfortSession.connectedAfter plant.sdk [.connect plant.connection] = false :=
      EfortSession.succeeds_of_status refused
    have outcome : StartOutcome plant launch (_, {}, EfortSession.ofNew plant.sdk
        [.connect plant.connection]) :=
      .failed refused closed (by simp [EfortOperation.calls, SdkCall.commands])
    exact outcome
  next connected =>
  split
  · next status failed =>
    have failed : (EfortSession.ofNew plant.sdk [.connect plant.connection]).outcome
        (EfortDriver.readState plant.sdk launch.readAt) = .error status := failed
    exact undone (EfortSession.not_ok_of_readState failed)
  · next snapshot read =>
    cases launch.threadsFail with
    | some what => exact undone rfl
    | none =>
        refine .begun rfl ⟨launch.readAt, launch.now, _, ?_, rfl⟩
        simp only [Bool.not_eq_true] at accepted connected
        simp [start, accepted, connected, read]

/-! ### Runs of the process -/

namespace Process

variable {document : ConfigDocument} {sdk : EfortSdk} {process after : Process}

/-- What holds of a process wherever `Run` is. -/
inductive Sound (document : ConfigDocument) (sdk : EfortSdk) : Process → Prop where
  | loading : Sound document sdk .loading
  | starting {plant : Plant} (made : Plant.ofDocument document sdk = .ok plant) :
      Sound document sdk (.starting plant)
  | awaited {plant : Plant} {station : Station} (made : Plant.ofDocument document sdk = .ok plant)
      (reached : Station.Reachable plant station) (untouched : station.accepted = []) :
      Sound document sdk (.running .awaited plant station)
  | up {plant : Plant} {station : Station} (made : Plant.ofDocument document sdk = .ok plant)
      (reached : Station.Reachable plant station) :
      Sound document sdk (.running .up plant station)
  | refused {plant : Plant} {station : Station} (made : Plant.ofDocument document sdk = .ok plant)
      (draining : Station.Draining plant station) (untouched : station.accepted = []) :
      Sound document sdk (.running .refused plant station)
  | returned {code : ℕ} {session : EfortSession}
      (released : openDevice sdk.constants.errorOk session.exchanges = none)
      (uncommanded : code ≠ 0 → ∀ exchange ∈ session.exchanges, exchange.call.commands = false)
      (unconfigured : code = 2 → session.exchanges = []) :
      Sound document sdk (.returned code session)

theorem sdk_of_made {plant : Plant} (made : Plant.ofDocument document sdk = .ok plant) :
    plant.sdk = sdk := by
  rcases Plant.of_ofDocument made with ⟨config, grpc, _, _, _, rfl⟩
  rfl

/-- `Shutdown` leaves no connection. -/
theorem released_of_done {plant : Plant} {station : Station}
    (reached : Station.Reachable plant station) (done : station.system.shutdown = .done) :
    openDevice plant.sdk.constants.errorOk station.session.exchanges = none := by
  have disconnected : station.system.shutdown.disconnected = true := by rw [done]; rfl
  rcases reached.attached.closed disconnected with ⟨closing, earlier, same, call, _⟩
  rw [same, openDevice, call]

/-- Without a call nothing is commanded. -/
theorem uncommanded_of_untouched {plant : Plant} {station : Station}
    (reached : Station.Reachable plant station) (untouched : station.accepted = []) :
    ∀ exchange ∈ station.session.exchanges, exchange.call.commands = false := by
  intro exchange sent
  cases commands : exchange.call.commands with
  | false => rfl
  | true =>
      rcases reached.ordered exchange sent commands with ⟨_, _, _, _, mem, _⟩
      rw [untouched] at mem
      cases mem

theorem accepted_of_work {plant : Plant} {station after : Station} {label : Station.Step}
    (closed : station.serving = false ∨ needsServer label = false)
    (taken : Station.step plant station label = some after) :
    after.accepted = station.accepted := by
  cases label with
  | rpc thread context rpc =>
      rcases closed with closed | closed
      · simp [Station.step, Station.beginRpc, closed] at taken
      · cases closed
  | streamRound thread =>
      simp only [Station.step] at taken
      split at taken
      · have same := congrArg Station.accepted (Station.enter_cases taken).2
        exact same
      · cases taken
  | streamEnds | stopRequested =>
      cases taken
      rfl
  | proceed action =>
      have same := congrArg Station.accepted (Station.proceed_cases taken).2.2.2
      exact same

theorem Sound.step {label : Step} (sound : Sound document sdk process)
    (taken : step document sdk process label = some after) : Sound document sdk after := by
  cases sound with
  | returned => cases label <;> cases taken
  | loading =>
      cases label <;> try cases taken
      simp only [Process.step] at taken
      split at taken
      · cases taken
        exact .returned rfl (by simp) fun _ => rfl
      · next made =>
        cases taken
        exact .starting made
  | @starting plant made =>
      cases label <;> try cases taken
      next launch =>
      have outcome := Impl.startOn_cases plant launch
      simp only [Process.step] at taken
      generalize Impl.startOn plant launch {} {} = result at outcome taken
      cases outcome with
      | begun ok initial =>
          simp only [ok, if_true, Option.some.injEq] at taken
          subst taken
          exact .awaited made (.init initial) rfl
      | @failed status impl operations notOk closed spared =>
          simp only [notOk, Bool.false_eq_true, if_false, Option.some.injEq] at taken
          subst taken
          have linked := EfortSession.linked_ofNew plant.sdk operations
          rw [closed] at linked
          have released : openDevice plant.sdk.constants.errorOk
              (EfortSession.ofNew plant.sdk operations).exchanges = none := by
            simpa [EfortSession.device] using linked.isOpen
          obtain rfl := sdk_of_made made
          exact .returned released (fun _ => EfortSession.not_commands_ofNew spared) (by simp)
  | @awaited plant station made reached untouched =>
      cases label with
      | load | start => cases taken
      | serverStarts =>
          cases taken
          exact .up made reached
      | serverFails =>
          cases taken
          have told : Station.step plant station .stopRequested =
              some { station with serving := false } := rfl
          exact .refused made ⟨.next reached trivial told, rfl⟩ untouched
      | work label =>
          simp only [Process.step, true_and] at taken
          split at taken
          · cases taken
          next serverless =>
          rcases Option.map_eq_some_iff.mp taken with ⟨next, worked, rfl⟩
          have serverless : needsServer label = false := by simpa using serverless
          exact .awaited made (.next reached trivial worked)
            ((accepted_of_work (Or.inr serverless) worked).trans untouched)
      | returns =>
          simp only [Process.step] at taken
          split at taken
          · next done =>
            cases taken
            have released := released_of_done reached done
            rw [sdk_of_made made] at released
            exact .returned released (by simp) (by simp)
          · cases taken
  | @up plant station made reached =>
      cases label with
      | load | start | serverStarts | serverFails => cases taken
      | work label =>
          rcases Option.map_eq_some_iff.mp taken with ⟨next, worked, rfl⟩
          exact .up made (.next reached trivial worked)
      | returns =>
          simp only [Process.step] at taken
          split at taken
          · next done =>
            cases taken
            have released := released_of_done reached done
            rw [sdk_of_made made] at released
            exact .returned released (by simp) (by simp)
          · cases taken
  | @refused plant station made draining untouched =>
      cases label with
      | load | start | serverStarts | serverFails => cases taken
      | work label =>
          rcases Option.map_eq_some_iff.mp taken with ⟨next, worked, rfl⟩
          exact .refused made (draining.next worked)
            ((accepted_of_work (Or.inl draining.2) worked).trans untouched)
      | returns =>
          simp only [Process.step] at taken
          split at taken
          · next done =>
            cases taken
            have released := released_of_done draining.1 done
            rw [sdk_of_made made] at released
            exact .returned released
              (fun _ => uncommanded_of_untouched draining.1 untouched) (by simp)
          · cases taken

theorem Reachable.sound (reached : Reachable document sdk process) :
    Sound document sdk process :=
  reached.invariant (Sound document sdk) (fun _ initial => initial ▸ .loading)
    fun _ _ _ _ sound _ taken => sound.step taken

/-- What the service can do, the process can do once the server has been asked for. -/
theorem steps_of_execute {plant : Plant} {stage : Stage} (asked : stage ≠ .awaited)
    {labels : List Station.Step} {station final : Station}
    (executed : TransitionSystem.execute (Station.step plant) (fun _ _ => true) labels station =
      some final) :
    TransitionSystem.StepsUnder (step document sdk) (fun _ _ => True)
      (.running stage plant station) (.running stage plant final) := by
  induction labels generalizing station with
  | nil =>
      cases executed
      exact .refl
  | cons label labels ih =>
      rcases Option.bind_eq_some_iff.mp executed with ⟨next, taken, rest⟩
      have worked : step document sdk (.running stage plant station) (.work label) =
          some (.running stage plant next) := by
        cases stage with
        | awaited => exact absurd rfl asked
        | up | refused => simp [step, taken]
      exact (ih rest).precede trivial worked

/-- A service that runs can be stopped, and `Run` returns. -/
theorem exists_return_of_running {plant : Plant} {stage : Stage} {station : Station}
    (asked : stage ≠ .awaited) (reached : Station.Reachable plant station) :
    ∃ code session, TransitionSystem.StepsUnder (step document sdk) (fun _ _ => True)
      (.running stage plant station) (.returned code session) := by
  rcases reached.stoppable with ⟨labels, final, _, executed, done⟩
  have returns : step document sdk (.running stage plant final) .returns =
      some (.returned (if stage = .refused then 1 else 0) final.session) := by
    cases stage <;> simp [step, done]
  exact ⟨_, _, .next (steps_of_execute asked executed) trivial returns⟩

theorem exists_return_of_awaited {plant : Plant} {station : Station}
    (reached : Station.Reachable plant station) :
    ∃ code session, TransitionSystem.StepsUnder (step document sdk) (fun _ _ => True)
      (.running .awaited plant station) (.returned code session) := by
  have up : Stage.up ≠ .awaited := by simp
  rcases exists_return_of_running up reached with ⟨code, session, steps⟩
  have started : step document sdk (.running .awaited plant station) .serverStarts =
      some (.running .up plant station) := rfl
  exact ⟨code, session, steps.precede trivial started⟩

theorem exists_return_of_starting (plant : Plant) :
    ∃ code session, TransitionSystem.StepsUnder (step document sdk) (fun _ _ => True)
      (.starting plant) (.returned code session) := by
  let launch : Launch := ⟨0, 0, none⟩
  have outcome := Impl.startOn_cases plant launch
  cases same : Impl.startOn plant launch {} {} with
  | mk status rest =>
  rw [same] at outcome
  cases outcome with
  | @begun _ impl session ok initial =>
      rcases exists_return_of_awaited (.init initial) with ⟨code, later, steps⟩
      have started : step document sdk (.starting plant) (.start launch) =
          some (.running .awaited plant (.begun plant launch impl session)) := by
        simp [step, same, ok]
      exact ⟨code, later, steps.precede trivial started⟩
  | @failed _ impl operations notOk =>
      have failed : step document sdk (.starting plant) (.start launch) =
          some (.returned 1 (EfortSession.ofNew plant.sdk operations)) := by
        simp [step, same, notOk]
      exact ⟨_, _, .next .refl trivial failed⟩

/-- Wherever `Run` is, it can return. -/
theorem exists_return (sound : Sound document sdk process) :
    ∃ code session, TransitionSystem.StepsUnder (step document sdk) (fun _ _ => True) process
      (.returned code session) := by
  cases sound with
  | returned => exact ⟨_, _, .refl⟩
  | starting => exact exists_return_of_starting _
  | awaited _ reached => exact exists_return_of_awaited reached
  | up _ reached => exact exists_return_of_running (by simp) reached
  | refused _ draining => exact exists_return_of_running (by simp) draining.1
  | loading =>
      cases made : Plant.ofDocument document sdk with
      | error text =>
          have refused : step document sdk .loading .load = some (.returned 2 {}) := by
            simp [step, made]
          exact ⟨_, _, .next .refl trivial refused⟩
      | ok plant =>
          have loaded : step document sdk .loading .load = some (.starting plant) := by
            simp [step, made]
          rcases exists_return_of_starting plant with ⟨code, session, steps⟩
          exact ⟨code, session, steps.precede trivial loaded⟩

/-- Whatever the configuration says, however `Start` fails, whether the server comes up and however
the SDK answers: when `Run` returns no connection to the controller is open, if it returns an error
the robot was commanded nothing but to stop, and if the configuration was refused the SDK was not
even called; and from wherever it is `Run` can return. -/
theorem run_releases_controller (reached : Reachable document sdk process) :
    (∀ code session, process = .returned code session →
      openDevice sdk.constants.errorOk session.exchanges = none ∧
      (code ≠ 0 → ∀ exchange ∈ session.exchanges, exchange.call.commands = false) ∧
      (code = 2 → session.exchanges = [])) ∧
    ∃ code session, TransitionSystem.StepsUnder (step document sdk) (fun _ _ => True) process
      (.returned code session) := by
  refine ⟨?_, exists_return reached.sound⟩
  rintro code session rfl
  cases reached.sound with
  | returned released uncommanded unconfigured => exact ⟨released, uncommanded, unconfigured⟩

/-- At a robot of another model the process connects, disconnects and returns an error. -/
theorem run_releases_controller_mismatch : ∃ session,
    Reachable enabledDocument (sdkOfModel "ER20-1700") (.returned 1 session) ∧
    session.exchanges ≠ [] ∧ openDevice 0 session.exchanges = none := by
  rcases TransitionSystem.exists_reachable_of_execute
    (.init rfl : Reachable enabledDocument (sdkOfModel "ER20-1700") .loading)
    [.load, .start ⟨0, 1000, none⟩]
    (fun process => match process with
      | .returned code session => code == 1 && !session.exchanges.isEmpty
      | _ => false) (by decide +kernel) with ⟨process, reached, checked⟩
  cases process with
  | returned code session =>
      simp only [Bool.and_eq_true, beq_iff_eq, Bool.not_eq_true'] at checked
      obtain rfl := checked.1
      have outcome := (run_releases_controller reached).1 1 session rfl
      exact ⟨session, reached, by simpa using checked.2, outcome.1⟩
  | _ => cases checked

end Process

end RobotManager
