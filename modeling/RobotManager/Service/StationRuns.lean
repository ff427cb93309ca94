import RobotManager.Adapters.EfortJog
import RobotManager.Control.Threads
import RobotManager.Library.Refinement
import RobotManager.Service.Station

/-!
# Runs of the service

The inversion of the service's steps, and the refinement that makes every run of the service a
run of the executor: the endpoint and the adapter only resolve choices that the executor's model
leaves open.  Since the server returns before `Shutdown` is called, no remote call is in progress
from then on.
-/

namespace RobotManager

/-- The operation with which a call reads from the robot. -/
def Rpc.reading : Rpc → Option EfortOperation
  | .readAlarms _ => some .readAlarms
  | .readDigitalInput request => some (.readDigitalInput request.index)
  | .readDigitalOutput request => some (.readDigitalOutput request.index)
  | _ => none

def Action.isShutdown : Action → Bool
  | .shutdown _ => true
  | _ => false

/-- `Shutdown` has closed the connection. -/
def ShutdownPc.disconnected : ShutdownPc → Bool
  | .stopped .finishing _ _ | .done => true
  | _ => false

namespace System

/-- A client thread moves by its own actions only. -/
theorem clients_of_step {setup : Setup} {system after : System} {action : Action}
    (taken : step setup system action = some after) {thread : ℕ}
    (changed : after.clients thread ≠ system.clients thread) :
    ∃ clientAction, action = .client thread clientAction := by
  cases action with
  | advance nanoseconds =>
      cases taken
      exact absurd rfl changed
  | worker action => cases workerStep_cases taken <;> exact absurd rfl changed
  | poll action => cases pollStep_cases taken <;> exact absurd rfl changed
  | shutdown action => cases shutdownStep_cases taken <;> exact absurd rfl changed
  | client other action =>
      by_cases same : thread = other
      · subst same
        exact ⟨action, rfl⟩
      · refine absurd ?_ changed
        cases clientStep_cases taken with
        | idles => rfl
        | moves | returns | cancels | submits | readBegins | readReturns =>
            exact (clients_setClient system other thread _).trans (if_neg same)

/-- Steps of other threads leave the shutdown where it is. -/
theorem shutdown_kept {setup : Setup} {system after : System} {action : Action}
    (taken : step setup system action = some after) (other : action.isShutdown = false) :
    after.shutdown = system.shutdown := by
  cases action with
  | advance nanoseconds =>
      cases taken
      rfl
  | worker action => cases workerStep_cases taken <;> rfl
  | poll action => cases pollStep_cases taken <;> rfl
  | client thread action => cases clientStep_cases taken <;> rfl
  | shutdown action => cases other

/-- Only the begin of `Shutdown` ends the idle phase of its thread. -/
theorem shutdown_of_step {setup : Setup} {system after : System} {action : Action}
    (taken : step setup system action = some after) (idle : system.shutdown = .idle)
    (begun : after.shutdown ≠ .idle) : action = .shutdown .begins := by
  cases other : action.isShutdown with
  | false => exact absurd ((shutdown_kept taken other).trans idle) begun
  | true =>
      cases action with
      | shutdown action =>
          cases shutdownStep_cases taken with
          | begins => rfl
          | stopBegins position | stopReturns position | joinsWorker position
          | joinsPoll position | disconnects position | finishes position =>
              cases idle.symm.trans position
      | _ => cases other

/-- An idle client thread that does not begin an operation stays idle. -/
theorem idle_of_step {setup : Setup} {system after : System} {thread : ℕ}
    {action : ClientAction} (goes : Station.begins (.client thread action) = false)
    (taken : step setup system (.client thread action) = some after) :
    system.clients thread ≠ .idle := by
  intro idle
  cases action <;> simp_all [Station.begins, step, clientStep]

end System

namespace Station

variable {plant : Plant} {station after : Station}

/-! ### What a step does -/

/-- What an accepted call makes its handler's thread do. -/
structure Asked (station : Station) (thread : ℕ) (action : ClientAction) : Prop where
  submits : ∀ command, action = .submit command → ∃ context request,
    (context, Rpc.submitCommand request) ∈ station.accepted ∧
      GrpcServer.fromProtoCommand request = .ok command
  reads : action = .read → ∃ context rpc, (context, rpc) ∈ station.accepted ∧
    rpc.reading = some (station.reads thread)

/-- What a step of the service does to the executor and to the adapter. -/
inductive Transition (plant : Plant) (station after : Station) : Prop where
  | waits (system : after.system = station.system) (session : after.session = station.session)
      (handlers : after.handlers = station.handlers) (reads : after.reads = station.reads)
  | enters {thread : ℕ} {action : ClientAction} (begun : begins (.client thread action) = true)
      (serves : station.busy = true) (asked : after.Asked thread action)
      (taken : System.step plant.setup station.system (.client thread action) = some after.system)
      (session : after.session = station.session)
      (handlers : after.handlers = if (after.system.clients thread).isIdle then station.handlers
        else thread :: station.handlers)
      (reads : ∀ other, after.reads other = station.reads other ∨ other = thread ∧ action = .read)
  | proceeds {action : Action} (goes : begins action = false)
      (closed : closes action = true → station.busy = false)
      (taken : System.step plant.setup station.system (station.answered plant.sdk action) =
        some after.system)
      (session : after.session =
        station.session.afterAll plant.sdk (station.operations action))
      (handlers : after.handlers = station.handlers.filter fun thread =>
        !(after.system.clients thread).isIdle)
      (reads : after.reads = station.reads)

theorem enter_cases {start : Station} {thread : ℕ} {action : ClientAction}
    (entered : start.enter plant thread action = some after) :
    System.step plant.setup start.system (.client thread action) = some after.system ∧
      after = { start with
        system := after.system
        handlers := if (after.system.clients thread).isIdle then start.handlers
          else thread :: start.handlers } := by
  unfold enter at entered
  cases taken : System.step plant.setup start.system (.client thread action) with
  | none => simp [taken] at entered
  | some system =>
      rw [taken, Option.map_some] at entered
      cases entered
      exact ⟨rfl, rfl⟩

/-- A thread that enters an operation of the executor.  Its station differs from the one before
the call in the histories only. -/
theorem Transition.ofEnter {start : Station} {thread : ℕ} {action : ClientAction}
    (entered : start.enter plant thread action = some after)
    (begun : begins (.client thread action) = true) (serves : station.busy = true)
    (system : start.system = station.system) (session : start.session = station.session)
    (handlers : start.handlers = station.handlers)
    (reads : ∀ other, start.reads other = station.reads other ∨ other = thread ∧ action = .read)
    (asked : start.Asked thread action) : Transition plant station after := by
  rcases enter_cases entered with ⟨taken, same⟩
  generalize after.system = reached at taken same
  subst same
  rw [system] at taken
  rw [handlers]
  exact .enters begun serves ⟨asked.submits, asked.reads⟩ taken session rfl reads

theorem Asked.neither {thread : ℕ} {action : ClientAction}
    (noSubmit : ∀ command, action ≠ .submit command) (noRead : action ≠ .read) :
    station.Asked thread action :=
  ⟨fun command same => absurd same (noSubmit command), fun same => absurd same noRead⟩

theorem Transition.ofHandle {thread : ℕ} {context : GrpcServer.ServerContext} {rpc : Rpc}
    (serves : station.busy = true)
    (handled : handle plant thread rpc
      { station with accepted := (context, rpc) :: station.accepted } = some after) :
    Transition plant station after := by
  cases rpc with
  | acquireControlLease | renewControlLease | releaseControlLease | getState =>
      exact .ofEnter handled rfl serves rfl rfl rfl (fun _ => Or.inl rfl)
        (.neither (by simp) (by simp))
  | submitCommand request =>
      simp only [handle] at handled
      cases converted : GrpcServer.fromProtoCommand request with
      | error status =>
          rw [converted] at handled
          cases handled
          exact .waits rfl rfl rfl rfl
      | ok command =>
          rw [converted] at handled
          refine .ofEnter handled rfl serves rfl rfl rfl (fun _ => Or.inl rfl) ⟨?_, by simp⟩
          rintro submitted ⟨⟩
          exact ⟨context, request, List.mem_cons_self, converted⟩
  | getCommand | streamState =>
      cases handled
      exact .waits rfl rfl rfl rfl
  | readAlarms | readDigitalInput | readDigitalOutput =>
      refine .ofEnter handled rfl serves rfl rfl rfl (fun other => ?_)
        ⟨by simp, fun _ => ⟨context, _, List.mem_cons_self, ?_⟩⟩
      · by_cases same : other = thread
        · exact Or.inr ⟨same, rfl⟩
        · exact Or.inl (Function.update_of_ne same _ _)
      · simp [Rpc.reading]

theorem proceed_cases {action : Action} (proceeded : station.proceed plant action = some after) :
    begins action = false ∧ (closes action = true → station.busy = false) ∧
      System.step plant.setup station.system (station.answered plant.sdk action) =
        some after.system ∧
      after = { station with
        system := after.system
        session := station.session.afterAll plant.sdk (station.operations action)
        handlers := station.handlers.filter fun thread =>
          !(after.system.clients thread).isIdle } := by
  unfold proceed at proceeded
  split at proceeded
  · cases proceeded
  next goes =>
  rw [Bool.or_eq_true, Bool.and_eq_true, not_or, not_and] at goes
  cases taken : System.step plant.setup station.system (station.answered plant.sdk action) with
  | none => simp [taken] at proceeded
  | some system =>
      rw [taken, Option.map_some] at proceeded
      cases proceeded
      exact ⟨by simpa using goes.1, by simpa using goes.2, rfl, rfl⟩

theorem step_cases {label : Step} (taken : step plant station label = some after) :
    Transition plant station after := by
  cases label with
  | rpc thread context rpc =>
      simp only [step, beginRpc] at taken
      split at taken
      · cases taken
      next free =>
      split at taken
      · cases taken
        exact .waits rfl rfl rfl rfl
      refine .ofHandle ?_ taken
      simp only [Bool.or_eq_true, not_or, Bool.not_eq_true', Bool.not_eq_false] at free
      simp [busy, free.1.1]
  | streamRound thread =>
      simp only [step] at taken
      split at taken
      · next streaming =>
        refine .ofEnter taken rfl ?_ rfl rfl rfl (fun _ => Or.inl rfl)
          (.neither (by simp) (by simp))
        have someStream : station.streams ≠ [] := by
          rintro none
          simp [none] at streaming
        simp [busy, someStream]
      · cases taken
  | streamEnds thread =>
      cases taken
      exact .waits rfl rfl rfl rfl
  | stopRequested =>
      cases taken
      exact .waits rfl rfl rfl rfl
  | proceed action =>
      rcases proceed_cases taken with ⟨goes, closed, inner, same⟩
      generalize after.system = reached at inner same
      subst same
      exact .proceeds goes closed inner rfl rfl rfl

/-! ### A run of the service is a run of the executor -/

theorem Init.system (initial : Init plant station) : System.Init plant.setup station.system := by
  rcases initial with ⟨_, now, impl, started, rfl⟩
  exact ⟨_, _, now, impl, started, rfl⟩

/-- No call is accepted or served again once the server has returned. -/
theorem busy_of_step {label : Step} (returned : station.busy = false)
    (taken : step plant station label = some after) : after.busy = false := by
  simp only [busy, Bool.or_eq_false_iff, Bool.not_eq_false', List.isEmpty_iff] at returned ⊢
  rcases returned with ⟨⟨closed, handlers⟩, streams⟩
  cases label with
  | rpc thread context rpc => simp [step, beginRpc, closed] at taken
  | streamRound thread => simp [step, streams] at taken
  | streamEnds thread =>
      cases taken
      exact ⟨⟨closed, handlers⟩, by simp [streams]⟩
  | stopRequested =>
      cases taken
      exact ⟨⟨rfl, handlers⟩, streams⟩
  | proceed action =>
      rcases proceed_cases taken with ⟨_, _, _, same⟩
      rw [same]
      exact ⟨⟨closed, by simp [handlers]⟩, streams⟩

/-- Whoever is inside the executor has a handler, and the executor is shut down only after the
server. -/
structure Tended (station : Station) : Prop where
  handled : ∀ {thread}, (station.system.clients thread).isIdle = false → thread ∈ station.handlers
  closed : station.system.shutdown ≠ .idle → station.busy = false

theorem Tended.clients_idle (tended : Tended station) (returned : station.busy = false)
    (thread : ℕ) : station.system.clients thread = .idle := by
  apply ClientPc.eq_idle_of_isIdle
  by_contra inside
  have handled := tended.handled (by simpa using inside)
  simp only [busy, Bool.or_eq_false_iff, Bool.not_eq_false', List.isEmpty_iff] at returned
  simp [returned.1.2] at handled

theorem answered_isShutdown (sdk : EfortSdk) (action : Action) :
    (station.answered sdk action).isShutdown = action.isShutdown := by
  unfold answered
  split
  · split <;> rfl
  · rfl
  · rfl
  · rfl

theorem answered_closes {sdk : EfortSdk} {action : Action}
    (closing : station.answered sdk action = .shutdown .begins) : closes action = true := by
  unfold answered at closing
  split at closing
  · split at closing <;> cases closing
  · cases closing
  · cases closing
  · rw [closing]
    rfl

theorem answered_client {sdk : EfortSdk} {action : Action} {thread : ℕ}
    {clientAction : ClientAction}
    (clients : station.answered sdk action = .client thread clientAction) :
    action = .client thread clientAction := by
  unfold answered at clients
  split at clients
  · split at clients <;> cases clients
  · cases clients
  · cases clients
  · exact clients

theorem Tended.step {label : Step} (tended : Tended station)
    (taken : step plant station label = some after) : Tended after := by
  have returned := fun returned => busy_of_step returned taken
  cases step_cases taken with
  | waits system _ handlers =>
      refine ⟨fun inside => ?_, fun closing => returned (tended.closed (system ▸ closing))⟩
      rw [handlers]
      exact tended.handled (system ▸ inside)
  | @enters thread action begun serves _ inner _ handlers =>
      constructor
      · intro other inside
        rw [handlers]
        by_cases changed : after.system.clients other = station.system.clients other
        · have old := tended.handled (changed ▸ inside)
          split
          · exact old
          · exact List.mem_cons_of_mem _ old
        · rcases System.clients_of_step inner changed with ⟨_, same⟩
          cases same
          rw [inside]
          exact List.mem_cons_self
      · intro closing
        refine returned (tended.closed fun idle => ?_)
        cases System.shutdown_of_step inner idle closing
  | @proceeds action goes closed inner _ handlers =>
      constructor
      · intro other inside
        rw [handlers, List.mem_filter]
        refine ⟨tended.handled ?_, by simpa using inside⟩
        by_cases changed : after.system.clients other = station.system.clients other
        · exact changed ▸ inside
        · rcases System.clients_of_step inner changed with ⟨clientAction, same⟩
          rw [same] at inner
          rw [answered_client same] at goes
          by_contra idle
          exact System.idle_of_step goes inner (ClientPc.eq_idle_of_isIdle (by simpa using idle))
      · intro closing
        by_cases idle : station.system.shutdown = .idle
        · exact returned (closed (answered_closes (System.shutdown_of_step inner idle closing)))
        · exact returned (tended.closed idle)

theorem Reachable.tended (reached : Reachable plant station) : Tended station := by
  refine reached.invariant Tended (fun station initial => ?_)
    fun station label after _ tended _ taken => tended.step taken
  rcases initial with ⟨_, now, impl, _, rfl⟩
  exact ⟨by simp [ClientPc.isIdle], by simp⟩

/-- The service is a refinement of the executor that shuts it down only when no client is inside. -/
def refinement (plant : Plant) : TransitionSystem.Refinement (step plant) (Init plant)
    (System.step plant.setup) (System.Init plant.setup)
    (fun system action =>
      action = .shutdown .begins → ∀ thread, system.clients thread = .idle) where
  view := Station.system
  init := Init.system
  next := by
    intro station label after reached taken
    have tended : Tended station := Reachable.tended reached
    cases step_cases taken with
    | waits system => exact Or.inl system
    | @enters thread action begun _ _ inner => exact Or.inr ⟨_, by simp, inner⟩
    | proceeds _ closed inner =>
        refine Or.inr ⟨_, fun closing => ?_, inner⟩
        exact tended.clients_idle (closed (answered_closes closing))

theorem Reachable.system (reached : Reachable plant station) :
    System.Reachable plant.setup station.system :=
  ((refinement plant).reached reached).reachable

/-! ### What a step asks of the adapter -/

/-- The operations that a step may complete, other than those that end the connection. -/
inductive Performs (station : Station) : EfortOperation → Prop where
  | commands {record : CommandRecord} {evidence : Evidence} {call : DriverCall}
      (position : station.system.worker = .executing record evidence call) :
      Performs station call.operation
  | polls (position : station.system.poll = .reading) :
      Performs station (.readState station.system.now)
  | reads {thread : ℕ} (position : station.system.clients thread = .reading) :
      Performs station (station.reads thread)
  | stops (position : station.system.shutdown = .stopping) : Performs station (.stop .controlled)

/-- How a step changes the session. -/
inductive SessionStep (plant : Plant) (station after : Station) : Prop where
  | quiet (session : after.session = station.session)
      (phase : after.system.shutdown.disconnected = station.system.shutdown.disconnected)
  | performs {operation : EfortOperation} (performed : Performs station operation)
      (session : after.session = station.session.after plant.sdk operation)
      (phase : after.system.shutdown.disconnected = station.system.shutdown.disconnected)
  | disconnects {result : Status} {active : Option ℕ}
      (position : station.system.shutdown = .stopped .disconnecting result active)
      (session : after.session =
        (station.session.after plant.sdk .releaseControl).after plant.sdk .disconnect)
      (phase : after.system.shutdown.disconnected = true)

theorem SessionStep.ofProceeds {action : Action} {system : System}
    (taken : System.step plant.setup station.system (station.answered plant.sdk action) =
      some system)
    (session : after.session = station.session.afterAll plant.sdk (station.operations action))
    (reached : after.system = system) : SessionStep plant station after := by
  have phase : system.shutdown = station.system.shutdown →
      after.system.shutdown.disconnected = station.system.shutdown.disconnected := by
    intro kept
    rw [reached, kept]
  have others : action.isShutdown = false → system.shutdown = station.system.shutdown :=
    fun other => System.shutdown_kept taken ((answered_isShutdown _ _).trans other)
  cases action with
  | advance nanoseconds => exact .quiet session (phase (others rfl))
  | worker action =>
      cases action with
      | callReturns outcome =>
          cases position : station.system.worker with
          | executing record evidence call =>
              simp only [operations, position] at session
              exact .performs (.commands position) session (phase (others rfl))
          | _ =>
              simp only [operations, position] at session
              exact .quiet session (phase (others rfl))
      | _ => exact .quiet session (phase (others rfl))
  | poll action =>
      cases action with
      | readReturns state =>
          have kept := others rfl
          cases System.pollStep_cases taken with
          | readReturns position => exact .performs (.polls position) session (phase kept)
      | _ => exact .quiet session (phase (others rfl))
  | client thread action =>
      cases action with
      | readReturns =>
          cases position : station.system.clients thread with
          | reading => exact .performs (.reads position) session (phase (others rfl))
          | _ => simp [answered, System.step, System.clientStep, position] at taken
      | _ => exact .quiet session (phase (others rfl))
  | shutdown action =>
      cases action with
      | begins =>
          cases System.shutdownStep_cases taken with
          | begins position => exact .quiet session (by rw [reached, position]; rfl)
      | stopBegins =>
          cases System.shutdownStep_cases taken with
          | stopBegins position => exact .quiet session (by rw [reached, position]; rfl)
      | stopReturns =>
          cases System.shutdownStep_cases taken with
          | stopReturns position =>
              exact .performs (.stops position) session (by rw [reached, position]; rfl)
      | joinWorker =>
          cases System.shutdownStep_cases taken with
          | joinsWorker position => exact .quiet session (by rw [reached, position]; rfl)
      | joinPoll =>
          cases System.shutdownStep_cases taken with
          | joinsPoll position => exact .quiet session (by rw [reached, position]; rfl)
      | disconnect =>
          cases System.shutdownStep_cases taken with
          | disconnects position => exact .disconnects position session (by rw [reached]; rfl)
      | finish =>
          cases System.shutdownStep_cases taken with
          | finishes position => exact .quiet session (by rw [reached, position]; rfl)

theorem sessionStep_cases {label : Step} (taken : step plant station label = some after) :
    SessionStep plant station after := by
  cases step_cases taken with
  | waits system session => exact .quiet session (by rw [system])
  | enters _ _ _ inner session =>
      exact .quiet session (congrArg _ (System.shutdown_kept inner rfl))
  | proceeds _ _ inner session => exact .ofProceeds inner session rfl

end Station

/-! ### A service -/

/-- An SDK on which every call succeeds, of a robot that stands ready. -/
def sdkStanding : EfortSdk where
  constants := EfortSession.sampleConstants
  answer _ _ call :=
    { code := 0
      deviceId := 1
      flag := call ∈ [.isConnected, .isApiControl, .getCurrentServoStatus]
      runInfo := { keyMode := .auto } }

/-- A cell that one operator may use, with six joints that move by ten degrees. -/
def Plant.standing : Plant where
  setup := { policy := {
    motionEnabled := true
    jointLimitsVerified := true
    jointLimits := List.replicate 6 ⟨.finite (-10), .finite 10⟩ } }
  endpoint := ⟨"cell", ["operator"]⟩
  connection := EfortSession.sampleOptions
  sdk := sdkStanding

namespace Station

/-- The service in this cell right after its start. -/
def standing : Station :=
  let connected := ({} : EfortSession).after sdkStanding (.connect EfortSession.sampleOptions)
  let snapshot := (connected.outcome (EfortDriver.readState sdkStanding 0)).toOption.getD {}
  { system := System.started Plant.standing.setup snapshot 1000
    session := connected.after sdkStanding (.readState 0) }

theorem standing_reachable : Reachable Plant.standing standing :=
  .init ⟨0, 1000, standing.system.impl, rfl, rfl⟩

end Station

end RobotManager
