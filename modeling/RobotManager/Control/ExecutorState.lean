import RobotManager.Control.CommandGuard
import RobotManager.Control.ControlLease
import RobotManager.Library.FiniteMap

/-!
# Executor state

The members of `CommandExecutor::Impl` that `mutex_` guards, and the helper
functions of `command_executor.cc` that run with that mutex held.  The clock
reading of a critical section is passed in as `now`.
-/

namespace RobotManager

structure ExecutorOptions where
  statePollInterval : Milliseconds := 50
  stateStaleAfter : Milliseconds := 500
  motionStartGrace : Milliseconds := 500
  controlLeaseTtl : Milliseconds := 3000
  jogHeartbeatTimeout : Milliseconds := 300
  maximumQueueSize : ℕ := 16
  maximumCommandHistory : ℕ := 4096
deriving DecidableEq, Repr

/-- The option validation of `Start`. -/
def ExecutorOptions.accepted (options : ExecutorOptions) : Bool :=
  !(decide (options.statePollInterval ≤ 0) || decide (options.stateStaleAfter ≤ 0) ||
    decide (options.motionStartGrace < 0) || decide (options.controlLeaseTtl ≤ 0) ||
    decide (options.jogHeartbeatTimeout ≤ 0) ||
    decide (options.stateStaleAfter < options.statePollInterval) ||
    decide (options.jogHeartbeatTimeout < options.statePollInterval) ||
    options.maximumQueueSize == 0 ||
    decide (options.maximumCommandHistory ≤ options.maximumQueueSize))

theorem ExecutorOptions.accepted_iff {options : ExecutorOptions} :
    options.accepted = true ↔
      (0 < options.statePollInterval ∧ 0 < options.stateStaleAfter ∧
        0 ≤ options.motionStartGrace ∧ 0 < options.controlLeaseTtl ∧
        0 < options.jogHeartbeatTimeout ∧ options.statePollInterval ≤ options.stateStaleAfter ∧
        options.statePollInterval ≤ options.jogHeartbeatTimeout) ∧
      0 < options.maximumQueueSize ∧ options.maximumQueueSize < options.maximumCommandHistory := by
  simp only [accepted, Bool.not_eq_true', Bool.or_eq_false_iff, decide_eq_false_iff_not, not_le,
    not_lt, beq_eq_false_iff_ne, ← Nat.pos_iff_ne_zero, and_assoc]

structure Impl where
  running : Bool := false
  startedOnce : Bool := false
  shuttingDown : Bool := false
  stopRequested : Bool := false
  jogActive : Bool := false
  activeJogClientId : String := ""
  activeJogLeaseId : String := ""
  jogDeadline : TimePoint := 0
  latestState : RobotSnapshot := {}
  queue : List ℕ := []
  commands : FiniteMap ℕ CommandRecord := ∅
  idempotency : FiniteMap String ℕ := ∅
  nextCommandId : ℕ := 1
  activeMotionId : Option ℕ := none
  activeMotionStartedAt : TimePoint := 0
  activeMotionSeen : Bool := false
  loadedApprovedProgram : String := ""

/-- An iteration order of the hash map `commands_`, which the standard leaves open. -/
structure Traversal where
  order : List (Sigma fun _ : ℕ => CommandRecord) → List (Sigma fun _ : ℕ => CommandRecord)
  perm : ∀ entries, (order entries).Perm entries

/-- Whether a record has used up its timeout. -/
def CommandRecord.expired (now : TimePoint) (record : CommandRecord) : Bool :=
  elapsedAtLeast now record.createdAt record.request.timeout

/-- Enter a state with its result unless the record is already terminal. -/
def CommandRecord.settle (state : CommandState) (result : Status) (now : TimePoint)
    (record : CommandRecord) : CommandRecord :=
  if isTerminal record.state then record
  else { record with state := state, result := result, updatedAt := now }

namespace Impl

/-- The record of the internal stop that gets the next command id. -/
def internalStop (id : ℕ) (reason : String) (now : TimePoint) : CommandRecord where
  id := id
  request := {
    type := .stop
    payload := .stop {}
    clientId := "robot-manager"
    idempotencyKey := "internal-stop-" ++ toString id }
  state := .queued
  result := ⟨.failedPrecondition, reason, 0⟩
  createdAt := now
  updatedAt := now

def requestInternalStopLocked (reason : String) (now : TimePoint) (impl : Impl) : Impl :=
  if impl.stopRequested then impl
  else
    { impl with
      nextCommandId := impl.nextCommandId + 1
      commands := impl.commands.emplace impl.nextCommandId
        (internalStop impl.nextCommandId reason now)
      queue := impl.nextCommandId :: impl.queue
      stopRequested := true }

def completeActiveMotionLocked (state : CommandState) (now : TimePoint) (impl : Impl) : Impl :=
  match impl.activeMotionId with
  | none => impl
  | some active =>
      { impl with
        commands := impl.commands.modify active fun record =>
          if isTerminal record.state then record
          else { record with state := state, updatedAt := now }
        activeMotionId := none
        activeMotionSeen := false }

def completeActiveProgramLocked (now : TimePoint) (impl : Impl) : Impl :=
  match impl.activeMotionId.bind impl.commands.lookup with
  | none => impl
  | some active =>
      if active.request.type ≠ .startProgram then impl
      else impl.completeActiveMotionLocked .stopped now

def clearActiveJogLocked (impl : Impl) : Impl :=
  { impl with jogActive := false, activeJogClientId := "", activeJogLeaseId := "" }

def activeMotionLeaseIsValidLocked (leases : ControlLeaseManager) (now : TimePoint)
    (impl : Impl) : Bool :=
  match impl.activeMotionId with
  | none => true
  | some active =>
      match impl.commands.lookup active with
      | none => false
      | some record => leases.isValid record.request.leaseId record.request.clientId now

/-- The predicate of `FindExecutableCommandLocked`. -/
def isExecutable (impl : Impl) (id : ℕ) : Bool :=
  match impl.commands.lookup id with
  | none => true
  | some record =>
      if impl.activeMotionId = none then true
      else if canRunDuringMotion record.request.type then true
      else if record.request.type ≠ .stopProgram then false
      else
        match impl.activeMotionId.bind impl.commands.lookup with
        | none => false
        | some active => active.request.type == .startProgram

/-- The queue item `FindExecutableCommandLocked` points at, if it is not `end()`. -/
def findExecutableCommandLocked (impl : Impl) : Option ℕ := impl.queue.find? impl.isExecutable

def hasExpiredQueuedCommandLocked (now : TimePoint) (impl : Impl) : Bool :=
  impl.queue.any fun id =>
    match impl.commands.lookup id with
    | none => true
    | some command => command.expired now

/-- The loop of `CancelQueuedCommandsForLeaseLocked` over the rest of the queue: the ids it
keeps and the record map it leaves. -/
def cancelQueued (leaseId clientId : String) (now : TimePoint) :
    List ℕ → FiniteMap ℕ CommandRecord → List ℕ × FiniteMap ℕ CommandRecord
  | [], commands => ([], commands)
  | id :: rest, commands =>
      match commands.lookup id with
      | none => cancelQueued leaseId clientId now rest commands
      | some command =>
          if command.request.type = .stop ∨ command.request.leaseId ≠ leaseId ∨
              command.request.clientId ≠ clientId then
            let (kept, commands) := cancelQueued leaseId clientId now rest commands
            (id :: kept, commands)
          else
            cancelQueued leaseId clientId now rest (commands.modify id fun record =>
              { record with
                state := .cancelled
                result := ⟨.permissionDenied, "control lease released", 0⟩
                updatedAt := now })

def cancelQueuedCommandsForLeaseLocked (leaseId clientId : String) (now : TimePoint)
    (impl : Impl) : Impl :=
  let (queue, commands) := cancelQueued leaseId clientId now impl.queue impl.commands
  { impl with queue := queue, commands := commands }

def cancelCommandsForShutdownLocked (now : TimePoint) (impl : Impl) : Impl :=
  { impl with
    commands := impl.queue.foldl (fun commands id => commands.modify id
      (CommandRecord.settle .cancelled ⟨.unavailable, "command executor shut down", 0⟩ now))
      impl.commands
    queue := [] }

/-- The inner loop of `PruneCommandHistoryLocked`: the terminal record with the least
`updatedAt`, the first one met among equals. -/
def oldestTerminal : List (Sigma fun _ : ℕ => CommandRecord) →
    Option (Sigma fun _ : ℕ => CommandRecord) → Option (Sigma fun _ : ℕ => CommandRecord)
  | [], oldest => oldest
  | command :: rest, oldest =>
      if !isTerminal command.2.state ||
          oldest.any (fun best => decide (best.2.updatedAt ≤ command.2.updatedAt)) then
        oldestTerminal rest oldest
      else oldestTerminal rest (some command)

/-- The outer loop of `PruneCommandHistoryLocked`, run for at most the given number of rounds. -/
def pruneLoop (options : ExecutorOptions) (traversal : Traversal) : ℕ → Impl → Impl
  | 0, impl => impl
  | rounds + 1, impl =>
      if impl.commands.size < options.maximumCommandHistory then impl
      else
        match oldestTerminal (traversal.order impl.commands.entries) none with
        | none => impl
        | some oldest =>
            pruneLoop options traversal rounds
              { impl with
                idempotency := impl.idempotency.erase (idempotencyMapKey oldest.2.request)
                commands := impl.commands.erase oldest.1 }

/-- Every round drops a record, so as many rounds as there are records are enough. -/
def pruneCommandHistoryLocked (options : ExecutorOptions) (traversal : Traversal)
    (impl : Impl) : Impl :=
  pruneLoop options traversal impl.commands.size impl

end Impl

end RobotManager
