import RobotManager.Control.Transitions

/-!
# Uninterrupted operations

The steps of one whole operation as a list of actions: a public call that no other
thread interrupts, one round of the worker loop, one round of the poll loop.  Runs
that need a particular interleaving are put together from these and single actions.
-/

namespace RobotManager

/-- Visit the hash map in the order in which it stores its entries. -/
def Traversal.stored : Traversal := ⟨id, fun _ => .refl _⟩

namespace Schedule

def acquire (thread : ℕ) (clientId : String) : List Action :=
  [.client thread (.acquire clientId), .client thread .acquireSample,
    .client thread .acquireCommit]

def release (thread : ℕ) (leaseId clientId : String) : List Action :=
  [.client thread (.release leaseId clientId), .client thread .releaseCommit]

/-- `Submit` up to its final locked section. -/
def validate (thread : ℕ) (request : CommandRequest) : List Action :=
  [.client thread (.submit request), .client thread .submitSample,
    .client thread .submitValidate]

def commit (thread : ℕ) : List Action := [.client thread (.submitCommit .stored)]

def submit (thread : ℕ) (request : CommandRequest) : List Action :=
  validate thread request ++ commit thread

/-- The worker takes a command from the queue and validates it. -/
def prepare : List Action :=
  [.worker .dequeue, .worker .copySnapshot, .worker .sampleClock, .worker .checkLease,
    .worker .checkProgram]

/-- The worker calls the driver for the prepared command, up to the return of the call. -/
def call (outcome : CallOutcome) : List Action :=
  [.worker .callBegins, .worker (.callReturns outcome)]

/-- The worker processes a command that passes its validation. -/
def work (outcome : CallOutcome) : List Action :=
  prepare ++ call outcome ++ [.worker .complete]

/-- The poll thread reads the robot's state. -/
def read (state : StatusOr RobotSnapshot) : List Action :=
  [.poll .check, .poll .readBegins, .poll (.readReturns state)]

/-- The poll thread reads the robot's state and publishes it. -/
def poll (state : StatusOr RobotSnapshot) : List Action := read state ++ [.poll .publish]

/-- The shutdown up to the return of its Stop call. -/
def stopForShutdown (result : Status) : List Action :=
  [.shutdown .begins, .shutdown .stopBegins, .shutdown (.stopReturns result)]

/-- The idle worker and the idle poll thread leave, and the shutdown disconnects. -/
def disconnect : List Action :=
  [.worker .dequeue, .shutdown .joinWorker, .poll .check, .shutdown .joinPoll,
    .shutdown .disconnect]

end Schedule

/-- A connected robot with its servos on, in automatic mode. -/
def RobotSnapshot.standing : RobotSnapshot where
  connected := true
  apiControl := true
  servoOn := true
  controllerMode := .automatic

/-- A site that allows motion without further limits. -/
def Setup.moving : Setup where
  policy := { motionEnabled := true, jointLimitsVerified := true }

/-- The lease the first successful `AcquireControlLease` grants at time `now`. -/
def firstLease (now : TimePoint) : String := ControlLeaseManager.leaseId now 1

/-- A joint motion with default values. -/
def CommandRequest.move (leaseId clientId idempotencyKey : String) : CommandRequest where
  type := .moveJ
  payload := .moveJ {}
  clientId := clientId
  leaseId := leaseId
  idempotencyKey := idempotencyKey

/-- A request without a payload. -/
def CommandRequest.plain (type : CommandType) (leaseId clientId idempotencyKey : String) :
    CommandRequest where
  type := type
  clientId := clientId
  leaseId := leaseId
  idempotencyKey := idempotencyKey

namespace System

/-- An executor that retains few records. -/
def crowded : Setup := { Setup.moving with
  options := { maximumQueueSize := 2, maximumCommandHistory := 3 } }

/-- A freshly started executor whose robot stands ready. -/
def ready : System := started .moving .standing 1000

theorem ready_reachable {allowed : System → Action → Prop} : ReachableUnder .moving allowed ready :=
  .init (init_started (by decide) _ _)

end System

/-- From the ready executor: a client takes the lease and starts the joint motion with id 1. -/
def Schedule.startMotion : List Action :=
  acquire 0 "client" ++ submit 0 (.move (firstLease 1000) "client" "motion") ++
    work (.returned Status.Ok)

namespace System

/-- Take the listed steps in order, with no other step in between. -/
def uninterrupted (setup : Setup) (actions : List Action) (system : System) : Option System :=
  TransitionSystem.execute (step setup) (fun _ _ => true) actions system

theorem uninterrupted_append (setup : Setup) (first second : List Action) (system : System) :
    uninterrupted setup (first ++ second) system =
      (uninterrupted setup first system).bind (uninterrupted setup second) :=
  TransitionSystem.execute_append _ first second system

theorem Reachable.uninterrupted {setup : Setup} {actions : List Action} {system after : System}
    (reached : Reachable setup system)
    (taken : System.uninterrupted setup actions system = some after) : Reachable setup after :=
  reached.onward (TransitionSystem.stepsUnder_of_execute (fun _ _ _ => trivial) taken)

/-- A submission that no other thread interrupts gets to its final section if the key is new and
the guard accepts the request on the published snapshot. -/
theorem execute_validate {setup : Setup} {system : System} {thread : ℕ} {request : CommandRequest}
    (idle : system.clients thread = .idle) (checked : Impl.checkRequest request = none)
    (fresh : system.impl.submitLookup request = none)
    (passes : (validate setup.policy request system.impl.latestState
      (system.leases.isValid request.leaseId request.clientId system.now)
      system.impl.jogActive).ok = true) :
    uninterrupted setup (Schedule.validate thread request) system =
      some (system.setClient thread (.submitValidated request
        ⟨system.impl.latestState, system.impl.jogActive,
          system.leases.isValid request.leaseId request.clientId system.now⟩)) := by
  simp [uninterrupted, TransitionSystem.execute, Schedule.validate, step, clientStep, idle, checked,
    fresh, setClient, passes]

/-- A submission that the guard refuses does not get to its final section. -/
theorem execute_validate_refused {setup : Setup} {system : System} {thread : ℕ}
    {request : CommandRequest} (idle : system.clients thread = .idle)
    (checked : Impl.checkRequest request = none)
    (fresh : system.impl.submitLookup request = none)
    (refused : (validate setup.policy request system.impl.latestState
      (system.leases.isValid request.leaseId request.clientId system.now)
      system.impl.jogActive).ok = false) (traversal : Traversal) :
    uninterrupted setup
      (Schedule.validate thread request ++ [.client thread (.submitCommit traversal)]) system =
        none := by
  simp [uninterrupted, TransitionSystem.execute, Schedule.validate, step, clientStep, idle, checked,
    fresh, setClient, clientReturns, refused]

/-- The final section of a submission that has got there. -/
theorem execute_submit {setup : Setup} {system : System} {thread : ℕ} {request : CommandRequest}
    (idle : system.clients thread = .idle) (checked : Impl.checkRequest request = none)
    (fresh : system.impl.submitLookup request = none)
    (passes : (validate setup.policy request system.impl.latestState
      (system.leases.isValid request.leaseId request.clientId system.now)
      system.impl.jogActive).ok = true) (traversal : Traversal) :
    uninterrupted setup
      (Schedule.validate thread request ++ [.client thread (.submitCommit traversal)]) system =
      some { system.clientReturns thread (.submitReturned request
          (system.impl.submitLocked setup.options traversal request system.now).1) with
        impl := (system.impl.submitLocked setup.options traversal request system.now).2 } := by
  rw [uninterrupted_append, execute_validate idle checked fresh passes]
  simp [uninterrupted, TransitionSystem.execute, step, clientStep, setClient, clientReturns]

end System

/-! ### What a run shows -/

/-- Whether the worker has just copied a snapshot with the given property. -/
def WorkerPc.copies (check : CommandRecord → RobotSnapshot → Bool → Bool) : WorkerPc → Bool
  | .copied record snapshot jogActive => check record snapshot jogActive
  | _ => false

theorem WorkerPc.exists_of_copies {check : CommandRecord → RobotSnapshot → Bool → Bool}
    {worker : WorkerPc} (copies : worker.copies check = true) : ∃ record snapshot jogActive,
    worker = .copied record snapshot jogActive ∧ check record snapshot jogActive = true := by
  cases worker with
  | copied record snapshot jogActive => exact ⟨record, snapshot, jogActive, rfl, copies⟩
  | _ => cases copies

/-- Whether the worker is inside a driver call with the given property. -/
def WorkerPc.executes (check : CommandRecord → Evidence → DriverCall → Bool) : WorkerPc → Bool
  | .executing record evidence call => check record evidence call
  | _ => false

theorem WorkerPc.exists_of_executes {check : CommandRecord → Evidence → DriverCall → Bool}
    {worker : WorkerPc} (executes : worker.executes check = true) : ∃ record evidence call,
    worker = .executing record evidence call ∧ check record evidence call = true := by
  cases worker with
  | executing record evidence call => exact ⟨record, evidence, call, rfl, executes⟩
  | _ => cases executes

/-- What `Submit` has answered, if the event is its return. -/
def Event.answer : Event → Option (CommandRequest × Impl.SubmitResult)
  | .submitReturned request result => some (request, result)
  | _ => none

/-- The answer of `Submit`, if it is the latest event. -/
def System.lastAnswer (system : System) : Option (CommandRequest × Impl.SubmitResult) :=
  system.events.head?.bind Event.answer

def ClientPc.isIdle : ClientPc → Bool
  | .idle => true
  | _ => false

theorem ClientPc.eq_idle_of_isIdle {client : ClientPc} (idle : client.isIdle = true) :
    client = .idle := by
  cases client with
  | idle => rfl
  | _ => cases idle

/-- Whether the step publishes a reading. -/
def Action.publishes : Action → Bool
  | .poll .publish => true
  | _ => false

/-- Whether the step is the worker's. -/
def Action.isWorkers : Action → Bool
  | .worker _ => true
  | _ => false

end RobotManager
