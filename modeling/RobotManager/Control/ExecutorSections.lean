import RobotManager.Control.ExecutorState

/-!
# Critical sections of the executor

What each thread of `CommandExecutor::Impl` does while it holds `mutex_`: starting,
submitting, dequeuing and completing commands, publishing a polled state, releasing
a lease and the last part of a shutdown.
-/

namespace RobotManager

namespace Impl

/-- `Start`, up to the creation of the two threads: the options are checked, the driver connects
and reads its first state, and that state is published. -/
def start (options : ExecutorOptions) (driverPresent : Bool) (connect : Status)
    (initial : StatusOr RobotSnapshot) (now : TimePoint) (impl : Impl) : StatusOr Impl :=
  if !driverPresent then .error ⟨.invalidArgument, "robot driver is required", 0⟩
  else if !options.accepted then
    .error ⟨.invalidArgument, "executor timing and queue options are invalid", 0⟩
  else if impl.running || impl.startedOnce then
    .error ⟨.alreadyExists, "command executor cannot be started again", 0⟩
  else if !connect.ok then .error connect
  else
    match initial with
    | .error status => .error status
    | .ok snapshot =>
        let published := { snapshot with observedAt := now, sequence := 1 }
        .ok { impl with
          latestState := { published with lifecycle := deriveLifecycleState published }
          shuttingDown := false
          running := true
          startedOnce := true }

/-! ### Submit -/

/-- What `Submit` returns; the last case is the exception of `std::get`. -/
inductive SubmitResult where
  | accepted (id : ℕ)
  | refused (status : Status)
  | badVariantAccess
deriving DecidableEq, Repr

def notRunning : Status := ⟨.unavailable, "command executor is not running", 0⟩

/-- The checks of `Submit` that need no lock. -/
def checkRequest (request : CommandRequest) : Option Status :=
  if request.clientId = "" then some ⟨.invalidArgument, "client_id is required", 0⟩
  else if request.idempotencyKey = "" then
    some ⟨.invalidArgument, "idempotency_key is required", 0⟩
  else if request.timeout ≤ 0 then
    some ⟨.invalidArgument, "command timeout must be positive", 0⟩
  else none

/-- The idempotency check both phases of `Submit` make. -/
def findExisting (request : CommandRequest) (impl : Impl) : Option SubmitResult :=
  match impl.idempotency.lookup (idempotencyMapKey request) with
  | none => none
  | some id =>
      match impl.commands.lookup id with
      | none =>
          some (.refused ⟨.alreadyExists, "idempotency key was used by a different command", 0⟩)
      | some record =>
          match payloadsEqual record.request request with
          | none => some .badVariantAccess
          | some true => some (.accepted id)
          | some false =>
              some (.refused
                ⟨.alreadyExists, "idempotency key was used by a different command", 0⟩)

/-- The first locked section of `Submit`: an answer, or nothing if validation comes next. -/
def submitLookup (request : CommandRequest) (impl : Impl) : Option SubmitResult :=
  if !impl.running || impl.shuttingDown then some (.refused notRunning)
  else impl.findExisting request

def motionPending (impl : Impl) : Bool :=
  impl.commands.entries.any fun command =>
    isMotionCommand command.2.request.type && !isTerminal command.2.state

/-- Whether a safety stop may displace the queued command. -/
def isDisplaceable (impl : Impl) (id : ℕ) : Bool :=
  match impl.commands.lookup id with
  | none => false
  | some displaced => displaced.request.type != .stop

/-- Displace the newest queued command that is not a Stop. -/
def displaceNewestLocked (now : TimePoint) (impl : Impl) : Option Impl :=
  match impl.queue.reverse.find? impl.isDisplaceable with
  | none => none
  | some id =>
      some { impl with
        commands := impl.commands.modify id fun record =>
          { record with
            state := .cancelled
            result := ⟨.resourceExhausted, "command was displaced by a safety stop", 0⟩
            updatedAt := now }
        queue := (impl.queue.reverse.eraseP impl.isDisplaceable).reverse }

/-- Make room in the queue for the request, or refuse it. -/
def makeRoomLocked (options : ExecutorOptions) (request : CommandRequest) (now : TimePoint)
    (impl : Impl) : StatusOr Impl :=
  if impl.queue.length < options.maximumQueueSize then .ok impl
  else if request.type ≠ .stop then .error ⟨.resourceExhausted, "command queue is full", 0⟩
  else
    match impl.displaceNewestLocked now with
    | none => .error ⟨.resourceExhausted, "command queue is full of stop requests", 0⟩
    | some displaced => .ok displaced

def newRecord (request : CommandRequest) (id : ℕ) (now : TimePoint) : CommandRecord where
  id := id
  request := request
  state := .queued
  result := Status.Ok
  createdAt := now
  updatedAt := now

/-- Record and queue an admitted request; a Stop goes to the head of the queue. -/
def enqueueLocked (request : CommandRequest) (now : TimePoint) (impl : Impl) : Impl :=
  let id := impl.nextCommandId
  { impl with
    nextCommandId := id + 1
    idempotency := impl.idempotency.insert (idempotencyMapKey request) id
    commands := impl.commands.emplace id (newRecord request id now)
    queue := if request.type = .stop then id :: impl.queue else impl.queue ++ [id] }

/-- The final locked section of `Submit`. -/
def submitLocked (options : ExecutorOptions) (traversal : Traversal) (request : CommandRequest)
    (now : TimePoint) (impl : Impl) : SubmitResult × Impl :=
  if !impl.running || impl.shuttingDown then (.refused notRunning, impl)
  else
    match impl.findExisting request with
    | some result => (result, impl)
    | none =>
        if isMotionCommand request.type && impl.motionPending then
          (.refused
            ⟨.resourceExhausted, "another motion command is active or queued", 0⟩, impl)
        else if request.type = .startProgram ∧ impl.loadedApprovedProgram = "" then
          (.refused
            ⟨.failedPrecondition, "no approved program was loaded by this service", 0⟩, impl)
        else
          match impl.makeRoomLocked options request now with
          | .error status => (.refused status, impl)
          | .ok roomy =>
              let pruned := roomy.pruneCommandHistoryLocked options traversal
              if options.maximumCommandHistory ≤ pruned.commands.size then
                (.refused
                  ⟨.resourceExhausted, "command history is full of active records", 0⟩, pruned)
              else (.accepted pruned.nextCommandId, pruned.enqueueLocked request now)

/-! ### The worker -/

/-- The predicate of the worker's wait. -/
def workerWakes (now : TimePoint) (impl : Impl) : Bool :=
  impl.shuttingDown || impl.hasExpiredQueuedCommandLocked now ||
    impl.findExecutableCommandLocked.isSome

/-- The dequeue section after the wait: the state it leaves and the record it hands to the rest
of the loop body, if it does not `continue`. -/
def dequeueLocked (now : TimePoint) (impl : Impl) : Impl × Option CommandRecord :=
  match impl.findExecutableCommandLocked with
  | none => (impl, none)
  | some id =>
      let dequeued := { impl with queue := impl.queue.eraseP impl.isExecutable }
      match impl.commands.lookup id with
      | none => (dequeued, none)
      | some command =>
          if command.expired now then
            ({ dequeued with
              commands := impl.commands.modify id fun record =>
                { record with
                  state := .timedOut
                  result := ⟨.deadlineExceeded, "command timed out before execution", 0⟩
                  updatedAt := now } }, none)
          else
            let record := { command with state := .running, updatedAt := now }
            ({ dequeued with commands := impl.commands.modify id fun _ => record }, some record)

def setState (id : ℕ) (state : CommandState) (impl : Impl) : Impl :=
  { impl with commands := impl.commands.modify id fun record => { record with state := state } }

/-- Completion of a motion command that the driver has started. -/
def activateMotionLocked (leases : ControlLeaseManager) (now : TimePoint)
    (record : CommandRecord) (impl : Impl) : Impl :=
  if impl.activeMotionId.isSome ∧ impl.activeMotionId ≠ some record.id then
    requestInternalStopLocked "conflicting motion startup" now
      { impl with
        commands := impl.commands.modify record.id fun command =>
          { command with
            result := ⟨.failedPrecondition, "another motion became active during startup", 0⟩
            state := .failed } }
  else
    let activated := { impl with
      activeMotionId := some record.id
      activeMotionStartedAt := now
      activeMotionSeen := false
      stopRequested := false }
    if leases.isValid record.request.leaseId record.request.clientId now then activated
    else
      requestInternalStopLocked "control lease expired while motion was starting" now activated

/-- Completion of a jog command. -/
def completeJogLocked (options : ExecutorOptions) (leases : ControlLeaseManager) (now : TimePoint)
    (record : CommandRecord) (impl : Impl) : Impl :=
  match record.request.payload with
  | .jog jog =>
      if jog.start then
        let started := { impl with
          jogActive := true
          activeJogClientId := record.request.clientId
          activeJogLeaseId := record.request.leaseId
          jogDeadline := now.addMs options.jogHeartbeatTimeout }
        if leases.isValid record.request.leaseId record.request.clientId now then started
        else requestInternalStopLocked "control lease expired while jog was starting" now started
      else impl.clearActiveJogLocked
  | _ => impl.clearActiveJogLocked

/-- The program name of a payload, empty if it names none. -/
def programName : CommandPayload → String
  | .program program => program.name
  | _ => ""

/-- What a successful command that is not a motion changes besides its own record. -/
def completeOrdinaryLocked (options : ExecutorOptions) (leases : ControlLeaseManager)
    (now : TimePoint) (record : CommandRecord) (impl : Impl) : Impl :=
  match record.request.type with
  | .loadProgram => { impl with loadedApprovedProgram := programName record.request.payload }
  | .jog => impl.completeJogLocked options leases now record
  | .stop | .powerOff =>
      { (impl.completeActiveMotionLocked .stopped now).clearActiveJogLocked with
        stopRequested := false }
  | .stopProgram => { impl.completeActiveProgramLocked now with stopRequested := false }
  | _ => impl

/-- The completion section of the worker for the record it has in flight. -/
def completeLocked (options : ExecutorOptions) (leases : ControlLeaseManager) (now : TimePoint)
    (record : CommandRecord) (result : Status) (impl : Impl) : Impl :=
  match impl.commands.lookup record.id with
  | none => impl
  | some _ =>
      let finished := { impl with
        commands := impl.commands.modify record.id fun command =>
          { command with result := result, updatedAt := now } }
      if !result.ok then finished.setState record.id .failed
      else if isMotionCommand record.request.type then
        finished.activateMotionLocked leases now record
      else
        (finished.setState record.id .succeeded).completeOrdinaryLocked options leases now record

/-! ### The poll thread -/

/-- Whether the published lifecycle makes an active motion unsafe. -/
def unsafeLifecycle (state : RobotLifecycleState) : Bool :=
  state == .unknown || state == .disconnected || state == .fault || state == .emergencyStop

/-- Publish the result of a poll; the flag tells whether the active motion is to be updated. -/
def publishState (options : ExecutorOptions) (state : StatusOr RobotSnapshot) (now : TimePoint)
    (impl : Impl) : Impl × Bool :=
  match state with
  | .ok snapshot =>
      let published :=
        { snapshot with observedAt := now, sequence := impl.latestState.sequence + 1 }
      ({ impl with
        latestState := { published with lifecycle := deriveLifecycleState published } }, true)
  | .error _ =>
      if impl.latestState.observedAt = 0 ∨ now < impl.latestState.observedAt ∨
          elapsedAtLeast now impl.latestState.observedAt options.stateStaleAfter then
        ({ impl with
          latestState := { impl.latestState with
            sequence :=
              if impl.latestState.lifecycle ≠ .unknown then impl.latestState.sequence + 1
              else impl.latestState.sequence
            lifecycle := .unknown } }, true)
      else (impl, false)

/-- The active motion has ended: its record succeeds and tracking stops. -/
def finishActiveMotionLocked (active : ℕ) (now : TimePoint) (impl : Impl) : Impl :=
  { impl with
    commands := impl.commands.modify active (CommandRecord.settle .succeeded Status.Ok now)
    activeMotionId := none
    activeMotionSeen := false
    stopRequested := false }

def updateActiveMotionLocked (options : ExecutorOptions) (now : TimePoint) (impl : Impl) : Impl :=
  match impl.activeMotionId with
  | none => impl
  | some active =>
      match impl.commands.lookup active with
      | none => { impl with activeMotionId := none }
      | some command =>
          if command.expired now then
            requestInternalStopLocked "motion command timed out" now
              { impl with
                commands := impl.commands.modify active (CommandRecord.settle .timedOut
                  ⟨.deadlineExceeded, "motion command timed out", 0⟩ now) }
          else if unsafeLifecycle impl.latestState.lifecycle then
            let code : StatusCode :=
              if impl.latestState.lifecycle = .unknown ∨
                  impl.latestState.lifecycle = .disconnected then .unavailable
              else .controllerFault
            { requestInternalStopLocked "robot state became unsafe" now
                { impl with
                  commands := impl.commands.modify active (CommandRecord.settle .failed
                    ⟨code, "robot state became unsafe while motion was active", 0⟩ now) } with
              activeMotionId := none
              activeMotionSeen := false }
          else if impl.latestState.paused then impl
          else if command.request.type = .startProgram then
            if impl.latestState.programRunning then { impl with activeMotionSeen := true }
            else if impl.activeMotionSeen ||
                elapsedAtLeast now impl.activeMotionStartedAt options.motionStartGrace then
              impl.finishActiveMotionLocked active now
            else impl
          else if impl.latestState.moving then { impl with activeMotionSeen := true }
          else if impl.activeMotionSeen ||
              elapsedAtLeast now impl.activeMotionStartedAt options.motionStartGrace then
            impl.finishActiveMotionLocked active now
          else impl

/-- The lease checks that end the publish-and-check section. -/
def checkLeasesLocked (leases : ControlLeaseManager) (now : TimePoint) (impl : Impl) : Impl :=
  let checked :=
    if impl.activeMotionId.isSome ∧ !impl.activeMotionLeaseIsValidLocked leases now then
      requestInternalStopLocked "control lease expired" now impl
    else impl
  if checked.jogActive ∧ (checked.jogDeadline ≤ now ∨
      !leases.isValid checked.activeJogLeaseId checked.activeJogClientId now) then
    requestInternalStopLocked "jog heartbeat or control lease expired" now checked
  else checked

/-- The publish-and-check section of `PollLoop`. -/
def publishLocked (options : ExecutorOptions) (leases : ControlLeaseManager)
    (state : StatusOr RobotSnapshot) (now : TimePoint) (impl : Impl) : Impl :=
  let (published, update) := impl.publishState options state now
  let updated := if update then published.updateActiveMotionLocked options now else published
  updated.checkLeasesLocked leases now

/-! ### Lease release and shutdown -/

/-- The locked section of `ReleaseControlLease`. -/
def releaseLocked (leaseId clientId : String) (now : TimePoint) (impl : Impl) : Impl :=
  let cancelled := impl.cancelQueuedCommandsForLeaseLocked leaseId clientId now
  if cancelled.running ∧ (cancelled.activeMotionId.isSome ∨ cancelled.jogActive) then
    requestInternalStopLocked "control lease released" now cancelled
  else cancelled

/-- The last section of `Shutdown`. -/
def shutdownLocked (stopStatus : Status) (now : TimePoint) (impl : Impl) : Impl :=
  let cancelled := impl.cancelCommandsForShutdownLocked now
  let settled :=
    match cancelled.activeMotionId with
    | none => cancelled
    | some active =>
        { cancelled with
          commands := cancelled.commands.modify active (CommandRecord.settle
            (if stopStatus.ok then .stopped else .failed) stopStatus now)
          activeMotionId := none
          activeMotionSeen := false }
  { settled.clearActiveJogLocked with stopRequested := false }

end Impl

end RobotManager
