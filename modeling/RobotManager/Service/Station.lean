import RobotManager.Adapters.EfortDriver
import RobotManager.Control.Schedules
import RobotManager.Transport.RobotControl

/-!
# The service at its controller

`Run` of `main.cc` puts the parts together: the gRPC endpoint calls the executor, the executor
calls the EFORT adapter, the adapter calls the SDK.  When the process is told to stop, the server
first stops serving and waits for the calls in progress, and only then the executor is shut
down.  A step is a remote call that begins, a part of one that goes on, or a step of the
executor, whose driver calls are answered by the adapter.
-/

namespace RobotManager

/-- The operation of the adapter behind a call of the worker. -/
def DriverCall.operation : DriverCall → EfortOperation
  | .acquireControl => .acquireControl
  | .releaseControl => .releaseControl
  | .powerOn => .powerOn
  | .powerOff => .powerOff
  | .clearFault => .clearFault
  | .setGlobalSpeed ratio => .setGlobalSpeed ratio
  | .moveJ target profile => .moveJ target profile
  | .moveL target profile => .moveL target profile
  | .moveC target profile => .moveC target profile
  | .hold => .hold
  | .resume => .resume
  | .stop mode => .stop mode
  | .jog command => .jog command
  | .writeDigitalOutput index value => .writeDigitalOutput index value
  | .loadProgram name => .loadProgram name
  | .startProgram => .startProgram
  | .stopProgram => .stopProgram

namespace EfortSession

variable (sdk : EfortSdk) (session : EfortSession)

/-- What a program returns to its caller. -/
def outcome {Value : Type} (program : EfortProgram Value) : StatusOr Value :=
  match program.run session with
  | .ok value _ => .ok value
  | .error status _ => .error status

def status (operation : EfortOperation) : Status :=
  match session.outcome (EfortDriver.perform sdk operation) with
  | .ok _ => Status.Ok
  | .error status => status

end EfortSession

/-- `GetCommand` of the executor. -/
def Impl.getCommand (impl : Impl) (id : ℕ) : StatusOr CommandRecord :=
  match impl.commands.lookup id with
  | none => .error ⟨.notFound, "command was not found", 0⟩
  | some record => .ok record

/-- The calls of the service `RobotControlService`. -/
inductive Rpc where
  | acquireControlLease (request : V1.AcquireControlLeaseRequest)
  | renewControlLease (request : V1.RenewControlLeaseRequest)
  | releaseControlLease (request : V1.ReleaseControlLeaseRequest)
  | submitCommand (request : V1.CommandRequest)
  | getCommand (request : V1.GetCommandRequest)
  | getState (request : V1.GetStateRequest)
  | streamState (request : V1.StreamStateRequest)
  | readAlarms (request : V1.GetStateRequest)
  | readDigitalInput (request : V1.ReadDigitalIoRequest)
  | readDigitalOutput (request : V1.ReadDigitalIoRequest)
deriving DecidableEq, Repr

def Rpc.robotId : Rpc → String
  | .acquireControlLease request => request.robotId
  | .renewControlLease request => request.robotId
  | .releaseControlLease request => request.robotId
  | .submitCommand request => request.robotId
  | .getCommand request => request.robotId
  | .getState request => request.robotId
  | .streamState request => request.robotId
  | .readAlarms request => request.robotId
  | .readDigitalInput request => request.robotId
  | .readDigitalOutput request => request.robotId

/-- What a process runs with. -/
structure Plant where
  setup : Setup
  endpoint : GrpcServer.RobotControlEndpoint
  connection : ConnectionOptions
  sdk : EfortSdk

/-- The lists `accepted` and `reports`, the latest first, are histories that no step reads:
the calls that have passed `ValidateRequest`, and the answers of `GetCommand`. -/
structure Station where
  system : System
  session : EfortSession
  serving : Bool := true
  handlers : List ℕ := []
  streams : List ℕ := []
  reads : ℕ → EfortOperation := fun _ => .readAlarms
  accepted : List (GrpcServer.ServerContext × Rpc) := []
  reports : List (ℕ × StatusOr CommandRecord) := []

namespace Station

/-! ### Steps -/

inductive Step where
  /-- A remote call reaches its handler. -/
  | rpc (thread : ℕ) (context : GrpcServer.ServerContext) (rpc : Rpc)
  /-- A `StreamState` call in progress sends the state. -/
  | streamRound (thread : ℕ)
  | streamEnds (thread : ℕ)
  /-- The process is told to stop: the server takes no further calls. -/
  | stopRequested
  /-- The executor goes on.  What the action says about the driver's answer does not count. -/
  | proceed (action : Action)

/-- A handler's thread enters an operation of the executor. -/
def enter (plant : Plant) (thread : ℕ) (action : ClientAction) (station : Station) :
    Option Station :=
  (System.step plant.setup station.system (.client thread action)).map fun system =>
    { station with
      system := system
      handlers := if (system.clients thread).isIdle then station.handlers
        else thread :: station.handlers }

/-- A handler reads something from the robot. -/
def enterRead (plant : Plant) (thread : ℕ) (operation : EfortOperation) (station : Station) :
    Option Station :=
  enter plant thread .read
    { station with reads := Function.update station.reads thread operation }

/-- What the handler of a call does once the request is validated. -/
def handle (plant : Plant) (thread : ℕ) (rpc : Rpc) (station : Station) : Option Station :=
  match rpc with
  | .acquireControlLease request => station.enter plant thread (.acquire request.clientId)
  | .renewControlLease request =>
      station.enter plant thread (.renew request.leaseId request.clientId)
  | .releaseControlLease request =>
      station.enter plant thread (.release request.leaseId request.clientId)
  | .submitCommand request =>
      match GrpcServer.fromProtoCommand request with
      | .error _ => some station
      | .ok command => station.enter plant thread (.submit command)
  | .getCommand request =>
      some { station with
        reports := (request.commandId, station.system.impl.getCommand request.commandId) ::
          station.reports }
  | .getState _ => station.enter plant thread .getState
  | .streamState _ => some { station with streams := thread :: station.streams }
  | .readAlarms _ => station.enterRead plant thread .readAlarms
  | .readDigitalInput request => station.enterRead plant thread (.readDigitalInput request.index)
  | .readDigitalOutput request => station.enterRead plant thread (.readDigitalOutput request.index)

def beginRpc (plant : Plant) (thread : ℕ) (context : GrpcServer.ServerContext) (rpc : Rpc)
    (station : Station) : Option Station :=
  if !station.serving || station.handlers.contains thread || station.streams.contains thread then
    none
  else if !(plant.endpoint.validateRequest context rpc.robotId).ok then some station
  else handle plant thread rpc { station with accepted := (context, rpc) :: station.accepted }

/-- Whether a client's action begins an operation, which only a handler does. -/
def begins : Action → Bool
  | .client _ (.acquire _) | .client _ (.renew _ _) | .client _ (.release _ _)
  | .client _ (.submit _) | .client _ .getState | .client _ .read => true
  | _ => false

/-- Whether the server still serves a call or may still take one. -/
def busy (station : Station) : Bool :=
  station.serving || !station.handlers.isEmpty || !station.streams.isEmpty

/-- The operations of the adapter that a step of the executor completes, the latest first. -/
def operations (station : Station) : Action → List EfortOperation
  | .worker (.callReturns _) =>
      match station.system.worker with
      | .executing _ _ call => [call.operation]
      | _ => []
  | .poll (.readReturns _) => [.readState station.system.now]
  | .client thread .readReturns => [station.reads thread]
  | .shutdown (.stopReturns _) => [.stop .controlled]
  | .shutdown .disconnect => [.disconnect, .releaseControl]
  | _ => []

/-- The action with the adapter's answer in it. -/
def answered (sdk : EfortSdk) (station : Station) : Action → Action
  | .worker (.callReturns outcome) =>
      match station.system.worker with
      | .executing _ _ call =>
          .worker (.callReturns (.returned (station.session.status sdk call.operation)))
      | _ => .worker (.callReturns outcome)
  | .poll (.readReturns _) =>
      .poll (.readReturns
        (station.session.outcome (EfortDriver.readState sdk station.system.now)))
  | .shutdown (.stopReturns _) =>
      .shutdown (.stopReturns (station.session.status sdk (.stop .controlled)))
  | action => action

/-- Whether the action is the begin of `Shutdown`. -/
def closes : Action → Bool
  | .shutdown .begins => true
  | _ => false

/-- A step of the executor.  The server has returned before `Shutdown` is called. -/
def proceed (plant : Plant) (action : Action) (station : Station) : Option Station :=
  if begins action || (closes action && station.busy) then none
  else
    (System.step plant.setup station.system (station.answered plant.sdk action)).map fun system =>
      { station with
        system := system
        session := station.session.afterAll plant.sdk (station.operations action)
        handlers := station.handlers.filter fun thread => !(system.clients thread).isIdle }

def step (plant : Plant) (station : Station) : Step → Option Station
  | .rpc thread context rpc => station.beginRpc plant thread context rpc
  | .streamRound thread =>
      if station.streams.contains thread then station.enter plant thread .getState else none
  | .streamEnds thread =>
      some { station with streams := station.streams.filter (· != thread) }
  | .stopRequested => some { station with serving := false }
  | .proceed action => station.proceed plant action

/-- The process once the executor has started: the driver is connected and has read its first
state. -/
def Init (plant : Plant) (station : Station) : Prop :=
  ∃ readAt now impl,
    let connected := ({} : EfortSession).after plant.sdk (.connect plant.connection)
    Impl.start plant.setup.options true (({} : EfortSession).status plant.sdk
      (.connect plant.connection)) (connected.outcome (EfortDriver.readState plant.sdk readAt)) now
      {} = .ok impl ∧
    station =
      { system :=
          { impl := impl
            leases := { leaseTtl := plant.setup.options.controlLeaseTtl }
            now := now }
        session := connected.after plant.sdk (.readState readAt) }

/-- The states of the service, whatever its clients call, however its threads are scheduled and
however the SDK answers. -/
abbrev Reachable (plant : Plant) : Station → Prop :=
  TransitionSystem.Reachable (step plant) (Init plant)

end Station

end RobotManager
