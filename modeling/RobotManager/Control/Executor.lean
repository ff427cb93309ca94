import RobotManager.Control.ExecutorSections
import RobotManager.Library.TransitionSystem
import Mathlib.Logic.Function.Basic

/-!
# The executor as a transition system

The threads of a running `CommandExecutor`: the worker, the poll thread, any number
of client threads and one call of `Shutdown`.  Every step is one critical section of
`mutex_` or of the lease manager's mutex, one clock reading made outside `mutex_`,
or the beginning or the return of a driver call, during which `driver_mutex_` is
held.  An action names the step and supplies what the code does not determine: the
requests, the driver's answers, the passing of time and the hash map's iteration
order.  The list `events`, newest first, is a history that no step reads.
-/

namespace RobotManager

/-! ### Driver calls -/

/-- The calls the worker makes on `IRobotDriver`. -/
inductive DriverCall where
  | acquireControl
  | releaseControl
  | powerOn
  | powerOff
  | clearFault
  | setGlobalSpeed (ratio : ℕ)
  | moveJ (target : JointTarget) (profile : JointMotionProfile)
  | moveL (target : CartesianTarget) (profile : CartesianMotionProfile)
  | moveC (target : CircularTarget) (profile : CartesianMotionProfile)
  | hold
  | resume
  | stop (mode : StopMode)
  | jog (command : JogCommand)
  | writeDigitalOutput (index : ℕ) (value : Bool)
  | loadProgram (name : String)
  | startProgram
  | stopProgram
deriving DecidableEq, Repr

/-- The calls that can set the robot in motion. -/
def DriverCall.startsMotion : DriverCall → Bool
  | .moveJ _ _ | .moveL _ _ | .moveC _ _ | .startProgram | .resume => true
  | .jog command => command.start
  | _ => false

/-- How a driver call made by the worker ends. -/
inductive CallOutcome where
  | returned (status : Status)
  | threw (what : String)
  | threwUnknown
deriving DecidableEq, Repr

/-- The status the worker records for an outcome. -/
def CallOutcome.status : CallOutcome → Status
  | .returned status => status
  | .threw what => ⟨.internal, "driver threw an exception: " ++ what, 0⟩
  | .threwUnknown => ⟨.internal, "driver threw an unknown exception", 0⟩

/-- `Execute`: the driver call a request leads to, or the status returned without one. -/
def execute (request : CommandRequest) : StatusOr DriverCall :=
  match request.type, request.payload with
  | .acquireControl, _ => .ok .acquireControl
  | .releaseControl, _ => .ok .releaseControl
  | .powerOn, _ => .ok .powerOn
  | .powerOff, _ => .ok .powerOff
  | .clearFault, _ => .ok .clearFault
  | .setGlobalSpeed, .speed speed => .ok (.setGlobalSpeed speed.ratio)
  | .setGlobalSpeed, _ => .error ⟨.invalidArgument, "speed payload is missing", 0⟩
  | .moveJ, .moveJ motion => .ok (.moveJ motion.target motion.profile)
  | .moveJ, _ => .error ⟨.invalidArgument, "MoveJ payload is missing", 0⟩
  | .moveL, .moveL motion => .ok (.moveL motion.target motion.profile)
  | .moveL, _ => .error ⟨.invalidArgument, "MoveL payload is missing", 0⟩
  | .moveC, .moveC motion => .ok (.moveC motion.target motion.profile)
  | .moveC, _ => .error ⟨.invalidArgument, "MoveC payload is missing", 0⟩
  | .hold, _ => .ok .hold
  | .resume, _ => .ok .resume
  | .stop, .stop stop => .ok (.stop stop.mode)
  | .stop, _ => .ok (.stop .controlled)
  | .jog, .jog command => .ok (.jog command)
  | .jog, _ => .error ⟨.invalidArgument, "jog payload is missing", 0⟩
  | .writeDigitalOutput, .digitalOutput output =>
      .ok (.writeDigitalOutput output.index output.value)
  | .writeDigitalOutput, _ =>
      .error ⟨.invalidArgument, "digital output payload is missing", 0⟩
  | .loadProgram, .program program => .ok (.loadProgram program.name)
  | .loadProgram, _ => .error ⟨.invalidArgument, "program payload is missing", 0⟩
  | .startProgram, _ => .ok .startProgram
  | .stopProgram, _ => .ok .stopProgram

/-! ### Threads -/

/-- What a validation looked at: the copied snapshot and jog flag and the lease check. -/
structure Evidence where
  snapshot : RobotSnapshot
  jogActive : Bool
  leaseValid : Bool
deriving DecidableEq, Repr

/-- Where the worker is in `WorkerLoop`. -/
inductive WorkerPc where
  | waiting
  | dequeued (record : CommandRecord)
  | copied (record : CommandRecord) (snapshot : RobotSnapshot) (jogActive : Bool)
  | leaseSampled (record : CommandRecord) (snapshot : RobotSnapshot) (jogActive : Bool)
      (sampled : TimePoint)
  | validated (record : CommandRecord) (evidence : Evidence) (result : Status)
  | ready (record : CommandRecord) (evidence : Evidence) (result : Status)
  | executing (record : CommandRecord) (evidence : Evidence) (call : DriverCall)
  | finished (record : CommandRecord) (result : Status)
  | exited
deriving DecidableEq

/-- Where the poll thread is in `PollLoop`. -/
inductive PollPc where
  | starting
  | checked
  | reading
  | read (state : StatusOr RobotSnapshot)
  | sleeping (since : TimePoint)
  | exited

/-- Where a client thread is in the public operation it is calling. -/
inductive ClientPc where
  | idle
  | acquiring (clientId : String)
  | acquireSampled (clientId : String) (sampled : TimePoint)
  | renewing (leaseId clientId : String)
  | renewSampled (leaseId clientId : String) (sampled : TimePoint)
  | releasing (leaseId clientId : String)
  | submitChecked (request : CommandRequest) (snapshot : RobotSnapshot) (jogActive : Bool)
  | submitSampled (request : CommandRequest) (snapshot : RobotSnapshot) (jogActive : Bool)
      (sampled : TimePoint)
  | submitValidated (request : CommandRequest) (evidence : Evidence)
  | readChecked
  | reading

/-- The part of `Shutdown` that follows its Stop call. -/
inductive ShutdownStage where
  | joiningWorker
  | joiningPoll
  | disconnecting
  | finishing
deriving DecidableEq

/-- Where `Shutdown` is; `activeAtStop` remembers the motion that was active when the Stop call
returned. -/
inductive ShutdownPc where
  | idle
  | flagged
  | stopping
  | stopped (stage : ShutdownStage) (stopStatus : Status) (activeAtStop : Option ℕ)
  | done
deriving DecidableEq

/-- The threads that can hold `driver_mutex_`. -/
inductive Thread where
  | worker
  | poll
  | client (thread : ℕ)
  | shutdown
deriving DecidableEq

/-- What a run leaves behind for an observer. -/
inductive Event where
  | acquireReturned (clientId : String) (result : StatusOr ControlLease)
  | renewReturned (leaseId clientId : String) (result : StatusOr ControlLease)
  | releaseReturned (leaseId clientId : String) (result : Status)
  | submitReturned (request : CommandRequest) (result : Impl.SubmitResult)
  | stateReturned (snapshot : RobotSnapshot)
  | callBegan (id : ℕ) (call : DriverCall)
  | callReturned (id : ℕ) (call : DriverCall) (result : Status)
  | readBegan
  | motionSeen (id : ℕ)
  | shutdownStopBegan
  | shutdownStopReturned (result : Status)
  | disconnected

/-- The members of `CommandExecutor::Impl` that never change. -/
structure Setup where
  policy : SafetyPolicy := {}
  options : ExecutorOptions := {}

structure System where
  impl : Impl
  leases : ControlLeaseManager
  now : TimePoint
  driverMutex : Option Thread := none
  worker : WorkerPc := .waiting
  poll : PollPc := .starting
  clients : ℕ → ClientPc := fun _ => .idle
  shutdown : ShutdownPc := .idle
  events : List Event := []

/-- The record the worker has taken from the queue and not yet completed. -/
def WorkerPc.inFlight : WorkerPc → Option CommandRecord
  | .dequeued record | .copied record _ _ | .leaseSampled record _ _ _ | .validated record _ _
  | .ready record _ _ | .executing record _ _ | .finished record _ => some record
  | .waiting | .exited => none

/-! ### Steps -/

inductive WorkerAction where
  | dequeue
  | copySnapshot
  | sampleClock
  | checkLease
  | checkProgram
  | callBegins
  | callReturns (outcome : CallOutcome)
  | complete

inductive PollAction where
  | check
  | readBegins
  | readReturns (state : StatusOr RobotSnapshot)
  | publish
  | wake

inductive ClientAction where
  | acquire (clientId : String)
  | acquireSample
  | acquireCommit
  | renew (leaseId clientId : String)
  | renewSample
  | renewCommit
  | release (leaseId clientId : String)
  | releaseCommit
  | submit (request : CommandRequest)
  | submitSample
  | submitValidate
  | submitCommit (traversal : Traversal)
  | getState
  | read
  | readBegins
  | readReturns

inductive ShutdownAction where
  | begins
  | stopBegins
  | stopReturns (result : Status)
  | joinWorker
  | joinPoll
  | disconnect
  | finish

inductive Action where
  | advance (nanoseconds : ℕ)
  | worker (action : WorkerAction)
  | poll (action : PollAction)
  | client (thread : ℕ) (action : ClientAction)
  | shutdown (action : ShutdownAction)

namespace System

/-- The second check of a program start: a program must have been loaded by this service. -/
def programCheck (impl : Impl) (request : CommandRequest) (result : Status) : Status :=
  if result.ok ∧ request.type = .startProgram ∧ impl.loadedApprovedProgram = "" then
    ⟨.failedPrecondition, "no approved program was loaded by this service", 0⟩
  else result

def workerStep (setup : Setup) (action : WorkerAction) (system : System) : Option System :=
  match system.worker, action with
  | .waiting, .dequeue =>
      if !system.impl.workerWakes system.now then none
      else if system.impl.shuttingDown then some { system with worker := .exited }
      else
        match system.impl.dequeueLocked system.now with
        | (impl, none) => some { system with impl := impl }
        | (impl, some record) => some { system with impl := impl, worker := .dequeued record }
  | .dequeued record, .copySnapshot =>
      some { system with worker := .copied record system.impl.latestState system.impl.jogActive }
  | .copied record snapshot jogActive, .sampleClock =>
      some { system with worker := .leaseSampled record snapshot jogActive system.now }
  | .leaseSampled record snapshot jogActive sampled, .checkLease =>
      let leaseValid :=
        system.leases.isValid record.request.leaseId record.request.clientId sampled
      some { system with
        worker := .validated record ⟨snapshot, jogActive, leaseValid⟩
          (validate setup.policy record.request snapshot leaseValid jogActive) }
  | .validated record evidence result, .checkProgram =>
      some { system with
        worker := .ready record evidence (programCheck system.impl record.request result) }
  | .ready record evidence result, .callBegins =>
      if !result.ok then some { system with worker := .finished record result }
      else if system.driverMutex.isSome then none
      else
        match execute record.request with
        | .error status => some { system with worker := .finished record status }
        | .ok call =>
            some { system with
              worker := .executing record evidence call
              driverMutex := some .worker
              events := .callBegan record.id call :: system.events }
  | .executing record _ call, .callReturns outcome =>
      some { system with
        worker := .finished record outcome.status
        driverMutex := none
        events := .callReturned record.id call outcome.status :: system.events }
  | .finished record result, .complete =>
      some { system with
        impl := system.impl.completeLocked setup.options system.leases system.now record result
        worker := .waiting }
  | _, _ => none

/-- The history entry of a publish section that sets `active_motion_seen_`. -/
def seenEvents (before after : Impl) : List Event :=
  match after.activeMotionId with
  | some active =>
      if after.activeMotionSeen && !before.activeMotionSeen then [.motionSeen active] else []
  | none => []

def pollStep (setup : Setup) (action : PollAction) (system : System) : Option System :=
  match system.poll, action with
  | .starting, .check =>
      some { system with poll := if system.impl.shuttingDown then .exited else .checked }
  | .checked, .readBegins =>
      if system.driverMutex.isSome then none
      else
        some { system with
          poll := .reading
          driverMutex := some .poll
          events := .readBegan :: system.events }
  | .reading, .readReturns state => some { system with poll := .read state, driverMutex := none }
  | .read state, .publish =>
      let impl := system.impl.publishLocked setup.options system.leases state system.now
      some { system with
        impl := impl
        poll := .sleeping system.now
        events := seenEvents system.impl impl ++ system.events }
  | .sleeping since, .wake =>
      if system.impl.shuttingDown then some { system with poll := .exited }
      else if elapsedAtLeast system.now since setup.options.statePollInterval then
        some { system with poll := .starting }
      else none
  | _, _ => none

/-- Move a client thread on. -/
def setClient (system : System) (thread : ℕ) (pc : ClientPc) : System :=
  { system with clients := Function.update system.clients thread pc }

/-- A client thread's operation returns, which the history records. -/
def clientReturns (system : System) (thread : ℕ) (event : Event) : System :=
  { system.setClient thread .idle with events := event :: system.events }

def clientStep (setup : Setup) (thread : ℕ) (action : ClientAction) (system : System) :
    Option System :=
  match system.clients thread, action with
  | .idle, .acquire clientId =>
      if !system.impl.running || system.impl.shuttingDown then
        some (system.clientReturns thread (.acquireReturned clientId (.error Impl.notRunning)))
      else some (system.setClient thread (.acquiring clientId))
  | .acquiring clientId, .acquireSample =>
      if clientId = "" then
        some (system.clientReturns thread
          (.acquireReturned clientId (.error ⟨.invalidArgument, "client_id is required", 0⟩)))
      else some (system.setClient thread (.acquireSampled clientId system.now))
  | .acquireSampled clientId sampled, .acquireCommit =>
      let (result, leases) := system.leases.acquireLocked clientId sampled
      some { system.clientReturns thread (.acquireReturned clientId result) with leases := leases }
  | .idle, .renew leaseId clientId =>
      if !system.impl.running || system.impl.shuttingDown then
        some (system.clientReturns thread
          (.renewReturned leaseId clientId (.error Impl.notRunning)))
      else some (system.setClient thread (.renewing leaseId clientId))
  | .renewing leaseId clientId, .renewSample =>
      some (system.setClient thread (.renewSampled leaseId clientId system.now))
  | .renewSampled leaseId clientId sampled, .renewCommit =>
      let (result, leases) := system.leases.renewLocked leaseId clientId sampled
      some { system.clientReturns thread (.renewReturned leaseId clientId result) with
        leases := leases }
  | .idle, .release leaseId clientId =>
      let (status, leases) := system.leases.release leaseId clientId
      if !status.ok then
        some (system.clientReturns thread (.releaseReturned leaseId clientId status))
      else some { system.setClient thread (.releasing leaseId clientId) with leases := leases }
  | .releasing leaseId clientId, .releaseCommit =>
      some { system.clientReturns thread (.releaseReturned leaseId clientId Status.Ok) with
        impl := system.impl.releaseLocked leaseId clientId system.now }
  | .idle, .submit request =>
      match Impl.checkRequest request with
      | some status =>
          some (system.clientReturns thread (.submitReturned request (.refused status)))
      | none =>
          match system.impl.submitLookup request with
          | some result => some (system.clientReturns thread (.submitReturned request result))
          | none =>
              some (system.setClient thread
                (.submitChecked request system.impl.latestState system.impl.jogActive))
  | .submitChecked request snapshot jogActive, .submitSample =>
      some (system.setClient thread (.submitSampled request snapshot jogActive system.now))
  | .submitSampled request snapshot jogActive sampled, .submitValidate =>
      let leaseValid := system.leases.isValid request.leaseId request.clientId sampled
      let validation := validate setup.policy request snapshot leaseValid jogActive
      if !validation.ok then
        some (system.clientReturns thread (.submitReturned request (.refused validation)))
      else
        some (system.setClient thread
          (.submitValidated request ⟨snapshot, jogActive, leaseValid⟩))
  | .submitValidated request _, .submitCommit traversal =>
      let (result, impl) := system.impl.submitLocked setup.options traversal request system.now
      some { system.clientReturns thread (.submitReturned request result) with impl := impl }
  | .idle, .getState =>
      some (system.clientReturns thread (.stateReturned system.impl.latestState))
  | .idle, .read =>
      if !system.impl.running || system.impl.shuttingDown then some system
      else some (system.setClient thread .readChecked)
  | .readChecked, .readBegins =>
      if system.driverMutex.isSome then none
      else some { system.setClient thread .reading with driverMutex := some (.client thread) }
  | .reading, .readReturns => some { system.setClient thread .idle with driverMutex := none }
  | _, _ => none

def shutdownStep (action : ShutdownAction) (system : System) : Option System :=
  match system.shutdown, action with
  | .idle, .begins =>
      some { system with
        impl := { system.impl with shuttingDown := true, running := false }
        shutdown := .flagged }
  | .flagged, .stopBegins =>
      if system.driverMutex.isSome then none
      else
        some { system with
          shutdown := .stopping
          driverMutex := some .shutdown
          events := .shutdownStopBegan :: system.events }
  | .stopping, .stopReturns result =>
      some { system with
        shutdown := .stopped .joiningWorker result system.impl.activeMotionId
        driverMutex := none
        events := .shutdownStopReturned result :: system.events }
  | .stopped .joiningWorker result active, .joinWorker =>
      match system.worker with
      | .exited => some { system with shutdown := .stopped .joiningPoll result active }
      | _ => none
  | .stopped .joiningPoll result active, .joinPoll =>
      match system.poll with
      | .exited => some { system with shutdown := .stopped .disconnecting result active }
      | _ => none
  | .stopped .disconnecting result active, .disconnect =>
      if system.driverMutex.isSome then none
      else
        some { system with
          shutdown := .stopped .finishing result active
          events := .disconnected :: system.events }
  | .stopped .finishing result _, .finish =>
      some { system with impl := system.impl.shutdownLocked result system.now, shutdown := .done }
  | _, _ => none

def step (setup : Setup) (system : System) : Action → Option System
  | .advance nanoseconds => some { system with now := system.now + nanoseconds }
  | .worker action => workerStep setup action system
  | .poll action => pollStep setup action system
  | .client thread action => clientStep setup thread action system
  | .shutdown action => shutdownStep action system

/-- A system right after a successful `Start`. -/
def Init (setup : Setup) (system : System) : Prop :=
  ∃ connect initial now impl,
    Impl.start setup.options true connect initial now {} = .ok impl ∧
      system =
        { impl := impl
          leases := { leaseTtl := setup.options.controlLeaseTtl }
          now := now }

/-- The states of a started executor under every interleaving of its threads. -/
abbrev Reachable (setup : Setup) : System → Prop :=
  TransitionSystem.Reachable (step setup) (Init setup)

/-- The states reached by runs all of whose steps satisfy a condition. -/
abbrev ReachableUnder (setup : Setup) (allowed : System → Action → Prop) : System → Prop :=
  TransitionSystem.ReachableUnder (step setup) (Init setup) allowed

end System

end RobotManager
