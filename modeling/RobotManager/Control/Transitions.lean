import RobotManager.Control.Executor
import RobotManager.Control.Ownership

/-!
# The transitions of each thread

The inversion lemmas of the step function, thread by thread, and a summary of what a
step does to the members guarded by `mutex_` and to the command in flight.
-/

namespace RobotManager

/-- The worker after the dequeue section has handed it a record or nothing. -/
def WorkerPc.afterDequeue : Option CommandRecord → WorkerPc
  | none => .waiting
  | some record => .dequeued record

@[simp]
theorem WorkerPc.inFlight_afterDequeue (handed : Option CommandRecord) :
    (WorkerPc.afterDequeue handed).inFlight = handed := by
  cases handed <;> rfl

namespace System

/-- The transitions of the worker. -/
inductive WorkerTransition (setup : Setup) (system : System) :
    WorkerAction → System → Prop where
  | exits (position : system.worker = .waiting) (flagged : system.impl.shuttingDown = true) :
      WorkerTransition setup system .dequeue { system with worker := .exited }
  | dequeues (position : system.worker = .waiting) (serving : system.impl.shuttingDown = false) :
      WorkerTransition setup system .dequeue { system with
        impl := (system.impl.dequeueLocked system.now).1
        worker := .afterDequeue (system.impl.dequeueLocked system.now).2 }
  | copies {record : CommandRecord} (position : system.worker = .dequeued record) :
      WorkerTransition setup system .copySnapshot { system with
        worker := .copied record system.impl.latestState system.impl.jogActive }
  | samples {record : CommandRecord} {snapshot : RobotSnapshot} {jogActive : Bool}
      (position : system.worker = .copied record snapshot jogActive) :
      WorkerTransition setup system .sampleClock { system with
        worker := .leaseSampled record snapshot jogActive system.now }
  | validates {record : CommandRecord} {snapshot : RobotSnapshot} {jogActive : Bool}
      {sampled : TimePoint} {evidence : Evidence}
      (position : system.worker = .leaseSampled record snapshot jogActive sampled)
      (seen : evidence = ⟨snapshot, jogActive,
        system.leases.isValid record.request.leaseId record.request.clientId sampled⟩) :
      WorkerTransition setup system .checkLease { system with
        worker := .validated record evidence
          (validate setup.policy record.request evidence.snapshot evidence.leaseValid
            evidence.jogActive) }
  | checksProgram {record : CommandRecord} {evidence : Evidence} {result : Status}
      (position : system.worker = .validated record evidence result) :
      WorkerTransition setup system .checkProgram { system with
        worker := .ready record evidence (programCheck system.impl record.request result) }
  | refuses {record : CommandRecord} {evidence : Evidence} {result : Status}
      (position : system.worker = .ready record evidence result) (notOk : result.ok = false) :
      WorkerTransition setup system .callBegins { system with worker := .finished record result }
  | lacksPayload {record : CommandRecord} {evidence : Evidence} {result status : Status}
      (position : system.worker = .ready record evidence result)
      (missing : execute record.request = .error status) :
      WorkerTransition setup system .callBegins { system with worker := .finished record status }
  | calls {record : CommandRecord} {evidence : Evidence} {result : Status} {call : DriverCall}
      (position : system.worker = .ready record evidence result) (ok : result.ok = true)
      (free : system.driverMutex = none) (executed : execute record.request = .ok call) :
      WorkerTransition setup system .callBegins { system with
        worker := .executing record evidence call
        driverMutex := some .worker
        events := .callBegan record.id call :: system.events }
  | returns {record : CommandRecord} {evidence : Evidence} {call : DriverCall}
      {outcome : CallOutcome} (position : system.worker = .executing record evidence call) :
      WorkerTransition setup system (.callReturns outcome) { system with
        worker := .finished record outcome.status
        driverMutex := none
        events := .callReturned record.id call outcome.status :: system.events }
  | completes {record : CommandRecord} {result : Status}
      (position : system.worker = .finished record result) :
      WorkerTransition setup system .complete { system with
        impl := system.impl.completeLocked setup.options system.leases system.now record result
        worker := .waiting }

theorem workerStep_cases {setup : Setup} {action : WorkerAction} {system after : System}
    (taken : workerStep setup action system = some after) :
    WorkerTransition setup system action after := by
  unfold workerStep at taken
  split at taken
  · next position =>
    split at taken
    · cases taken
    split at taken
    · next flagged =>
      cases taken
      exact .exits position flagged
    next serving =>
    have serving : system.impl.shuttingDown = false := by simpa using serving
    have dequeues : WorkerTransition setup system .dequeue _ := .dequeues position serving
    split at taken <;> next eq =>
      cases taken
      simpa only [eq, WorkerPc.afterDequeue, ← position] using dequeues
  · next position =>
    cases taken
    exact .copies position
  · next position =>
    cases taken
    exact .samples position
  · next position =>
    cases taken
    exact .validates position rfl
  · next position =>
    cases taken
    exact .checksProgram position
  · next position =>
    split at taken
    · next notOk =>
      cases taken
      exact .refuses position (by simpa using notOk)
    next ok =>
    split at taken
    · cases taken
    next free =>
    split at taken
    · next missing =>
      cases taken
      exact .lacksPayload position missing
    · next executed =>
      cases taken
      exact .calls position (by simpa using ok) (by simpa using free) executed
  · next position =>
    cases taken
    exact .returns position
  · next position =>
    cases taken
    exact .completes position
  · cases taken

theorem seenEvents_cases (before after : Impl) :
    seenEvents before after = [] ∨ ∃ active, seenEvents before after = [.motionSeen active] := by
  unfold seenEvents
  split
  · split
    · exact Or.inr ⟨_, rfl⟩
    · exact Or.inl rfl
  · exact Or.inl rfl

/-- The transitions of the poll thread. -/
inductive PollTransition (setup : Setup) (system : System) : PollAction → System → Prop where
  | checks (position : system.poll = .starting) (serving : system.impl.shuttingDown = false) :
      PollTransition setup system .check { system with poll := .checked }
  | skips (position : system.poll = .starting) (flagged : system.impl.shuttingDown = true) :
      PollTransition setup system .check { system with poll := .exited }
  | readBegins (position : system.poll = .checked) (free : system.driverMutex = none) :
      PollTransition setup system .readBegins { system with
        poll := .reading
        driverMutex := some .poll
        events := .readBegan :: system.events }
  | readReturns (position : system.poll = .reading) (state : StatusOr RobotSnapshot) :
      PollTransition setup system (.readReturns state) { system with
        poll := .read state
        driverMutex := none }
  | publishes {state : StatusOr RobotSnapshot} (position : system.poll = .read state) :
      PollTransition setup system .publish { system with
        impl := system.impl.publishLocked setup.options system.leases state system.now
        poll := .sleeping system.now
        events := seenEvents system.impl
          (system.impl.publishLocked setup.options system.leases state system.now) ++
            system.events }
  | exits {since : TimePoint} (position : system.poll = .sleeping since)
      (flagged : system.impl.shuttingDown = true) :
      PollTransition setup system .wake { system with poll := .exited }
  | wakes {since : TimePoint} (position : system.poll = .sleeping since) :
      PollTransition setup system .wake { system with poll := .starting }

theorem pollStep_cases {setup : Setup} {action : PollAction} {system after : System}
    (taken : pollStep setup action system = some after) :
    PollTransition setup system action after := by
  unfold pollStep at taken
  split at taken
  · next position =>
    cases flagged : system.impl.shuttingDown <;> simp only [flagged] at taken <;> cases taken
    · exact .checks position flagged
    · exact .skips position flagged
  · next position =>
    split at taken
    · cases taken
    next free =>
    cases taken
    exact .readBegins position (by simpa using free)
  · next position =>
    cases taken
    exact .readReturns position _
  · next position =>
    cases taken
    exact .publishes position
  · next position =>
    split at taken
    · next flagged =>
      cases taken
      exact .exits position flagged
    split at taken
    · cases taken
      exact .wakes position
    · cases taken
  · cases taken

/-- The transitions of the thread that shuts the executor down. -/
inductive ShutdownTransition (system : System) : ShutdownAction → System → Prop where
  | begins (position : system.shutdown = .idle) :
      ShutdownTransition system .begins { system with
        impl := { system.impl with shuttingDown := true, running := false }
        shutdown := .flagged }
  | stopBegins (position : system.shutdown = .flagged) (free : system.driverMutex = none) :
      ShutdownTransition system .stopBegins { system with
        shutdown := .stopping
        driverMutex := some .shutdown
        events := .shutdownStopBegan :: system.events }
  | stopReturns (position : system.shutdown = .stopping) (result : Status) :
      ShutdownTransition system (.stopReturns result) { system with
        shutdown := .stopped .joiningWorker result system.impl.activeMotionId
        driverMutex := none
        events := .shutdownStopReturned result :: system.events }
  | joinsWorker {result : Status} {active : Option ℕ}
      (position : system.shutdown = .stopped .joiningWorker result active)
      (worker : system.worker = .exited) :
      ShutdownTransition system .joinWorker { system with
        shutdown := .stopped .joiningPoll result active }
  | joinsPoll {result : Status} {active : Option ℕ}
      (position : system.shutdown = .stopped .joiningPoll result active)
      (poll : system.poll = .exited) :
      ShutdownTransition system .joinPoll { system with
        shutdown := .stopped .disconnecting result active }
  | disconnects {result : Status} {active : Option ℕ}
      (position : system.shutdown = .stopped .disconnecting result active)
      (free : system.driverMutex = none) :
      ShutdownTransition system .disconnect { system with
        shutdown := .stopped .finishing result active
        events := .disconnected :: system.events }
  | finishes {result : Status} {active : Option ℕ}
      (position : system.shutdown = .stopped .finishing result active) :
      ShutdownTransition system .finish { system with
        impl := system.impl.shutdownLocked result system.now
        shutdown := .done }

theorem shutdownStep_cases {action : ShutdownAction} {system after : System}
    (taken : shutdownStep action system = some after) :
    ShutdownTransition system action after := by
  unfold shutdownStep at taken
  split at taken
  · next position =>
    cases taken
    exact .begins position
  · next position =>
    split at taken
    · cases taken
    next free =>
    cases taken
    exact .stopBegins position (by simpa using free)
  · next position =>
    cases taken
    exact .stopReturns position _
  · next position =>
    split at taken
    · next worker =>
      cases taken
      exact .joinsWorker position worker
    · cases taken
  · next position =>
    split at taken
    · next poll =>
      cases taken
      exact .joinsPoll position poll
    · cases taken
  · next position =>
    split at taken
    · cases taken
    next free =>
    cases taken
    exact .disconnects position (by simpa using free)
  · next position =>
    cases taken
    exact .finishes position
  · cases taken

end System

/-! ### Clients -/

/-- Whether an event concerns the driver rather than the answer to a client. -/
def Event.isDriver : Event → Bool
  | .acquireReturned _ _ | .renewReturned _ _ _ | .releaseReturned _ _ _ | .submitReturned _ _
  | .stateReturned _ => false
  | .callBegan _ _ | .callReturned _ _ _ | .readBegan | .motionSeen _ | .shutdownStopBegan
  | .shutdownStopReturned _ | .disconnected => true

/-- The request a client thread is submitting. -/
def ClientPc.submitted : ClientPc → Option CommandRequest
  | .submitChecked request _ _ | .submitSampled request _ _ _ | .submitValidated request _ =>
      some request
  | _ => none

/-- The snapshot a submission has copied. -/
def ClientPc.snapshot : ClientPc → Option RobotSnapshot
  | .submitChecked _ snapshot _ | .submitSampled _ snapshot _ _ => some snapshot
  | .submitValidated _ evidence => some evidence.snapshot
  | _ => none

/-- How a client thread may move on: what it submits has been checked, the snapshot it holds was
published, and what it has validated has passed. -/
structure ClientPc.Follows (setup : Setup) (impl : Impl) (before after : ClientPc) : Prop where
  submitted : ∀ request, after.submitted = some request →
    Impl.checkRequest request = none ∨ before.submitted = some request
  snapshot : ∀ snapshot, after.snapshot = some snapshot →
    snapshot = impl.latestState ∨ before.snapshot = some snapshot
  validated : ∀ request evidence, after = .submitValidated request evidence →
    (validate setup.policy request evidence.snapshot evidence.leaseValid evidence.jogActive).ok =
      true
  outside : after ≠ .reading

/-- Operations other than `Submit` hold neither a request nor a snapshot. -/
theorem ClientPc.Follows.plain {setup : Setup} {impl : Impl} {before after : ClientPc}
    (request : after.submitted = none) (copied : after.snapshot = none)
    (outside : after ≠ .reading) : ClientPc.Follows setup impl before after := by
  refine ⟨by simp [request], by simp [copied], ?_, outside⟩
  rintro submitted evidence rfl
  cases request

namespace System

/-- The transitions of a client thread. -/
inductive ClientTransition (setup : Setup) (thread : ℕ) (system : System) : System → Prop where
  | idles : ClientTransition setup thread system system
  | moves (pc : ClientPc) (leases : ControlLeaseManager)
      (follows : ClientPc.Follows setup system.impl (system.clients thread) pc) :
      ClientTransition setup thread system { system.setClient thread pc with leases := leases }
  | returns (event : Event) (leases : ControlLeaseManager) (quiet : event.isDriver = false)
      (known : ∀ request result, event = .submitReturned request result →
        (∃ status, result = .refused status) ∨
          (Impl.checkRequest request = none ∧ system.impl.findExisting request = some result)) :
      ClientTransition setup thread system
        { system.clientReturns thread event with leases := leases }
  | cancels (leaseId clientId : String) :
      ClientTransition setup thread system
        { system.clientReturns thread (.releaseReturned leaseId clientId Status.Ok) with
          impl := system.impl.releaseLocked leaseId clientId system.now }
  | submits {request : CommandRequest} {evidence : Evidence} (traversal : Traversal)
      (position : system.clients thread = .submitValidated request evidence) :
      ClientTransition setup thread system
        { system.clientReturns thread (.submitReturned request
            (system.impl.submitLocked setup.options traversal request system.now).1) with
          impl := (system.impl.submitLocked setup.options traversal request system.now).2 }
  | readBegins (position : system.clients thread = .readChecked)
      (free : system.driverMutex = none) :
      ClientTransition setup thread system
        { system.setClient thread .reading with driverMutex := some (.client thread) }
  | readReturns (position : system.clients thread = .reading) :
      ClientTransition setup thread system
        { system.setClient thread .idle with driverMutex := none }

theorem submitLookup_cases {impl : Impl} {request : CommandRequest} {result : Impl.SubmitResult}
    (answered : impl.submitLookup request = some result) :
    (∃ status, result = .refused status) ∨ impl.findExisting request = some result := by
  unfold Impl.submitLookup at answered
  split at answered
  · exact Or.inl ⟨_, (Option.some.inj answered).symm⟩
  · exact Or.inr answered

theorem clientStep_cases {setup : Setup} {thread : ℕ} {action : ClientAction}
    {system after : System} (taken : clientStep setup thread action system = some after) :
    ClientTransition setup thread system after := by
  unfold clientStep at taken
  split at taken
  · split at taken <;> cases taken
    · exact .returns _ system.leases rfl (by simp)
    · exact .moves _ system.leases (.plain rfl rfl (by simp))
  · split at taken <;> cases taken
    · exact .returns _ system.leases rfl (by simp)
    · exact .moves _ system.leases (.plain rfl rfl (by simp))
  · cases taken
    exact .returns _ _ rfl (by simp)
  · split at taken <;> cases taken
    · exact .returns _ system.leases rfl (by simp)
    · exact .moves _ system.leases (.plain rfl rfl (by simp))
  · cases taken
    exact .moves _ system.leases (.plain rfl rfl (by simp))
  · cases taken
    exact .returns _ _ rfl (by simp)
  · dsimp only at taken
    split at taken <;> cases taken
    · exact .returns _ system.leases rfl (by simp)
    · exact .moves _ _ (.plain rfl rfl (by simp))
  · cases taken
    exact .cancels _ _
  · split at taken
    · cases taken
      refine .returns _ system.leases rfl fun request result same => Or.inl ?_
      cases same
      exact ⟨_, rfl⟩
    next checked =>
    split at taken <;> cases taken
    · next answered =>
      refine .returns _ system.leases rfl fun request result same => ?_
      cases same
      exact (submitLookup_cases answered).imp id fun found => ⟨checked, found⟩
    · refine .moves _ system.leases ⟨fun request same => Or.inl ?_, fun snapshot same => Or.inl ?_,
        by simp, by simp⟩
      · cases same
        exact checked
      · cases same
        rfl
  · next position =>
    cases taken
    refine .moves _ system.leases ⟨fun request same => Or.inr ?_, fun snapshot same => Or.inr ?_,
      by simp, by simp⟩ <;>
    · rw [position]
      exact same
  · next position =>
    dsimp only at taken
    split at taken <;> cases taken
    · refine .returns _ system.leases rfl fun request result same => Or.inl ?_
      cases same
      exact ⟨_, rfl⟩
    · next passed =>
      refine .moves _ system.leases ⟨fun request same => Or.inr ?_, fun snapshot same => Or.inr ?_,
        fun request evidence same => ?_, by simp⟩
      · rw [position]
        exact same
      · rw [position]
        exact same
      · cases same
        simpa using passed
  · next position =>
    cases taken
    exact .submits _ position
  · cases taken
    exact .returns _ system.leases rfl (by simp)
  · split at taken <;> cases taken
    · exact .idles
    · exact .moves _ system.leases (.plain rfl rfl (by simp))
  · next position =>
    split at taken
    · cases taken
    next free =>
    cases taken
    exact .readBegins position (by simpa using free)
  · next position =>
    cases taken
    exact .readReturns position
  · cases taken

/-- Outside the two sections that process commands, a client leaves the guarded members alone. -/
theorem clientStep_impl {setup : Setup} {thread : ℕ} {action : ClientAction}
    {system after : System} (notRelease : action ≠ .releaseCommit)
    (notSubmit : ∀ traversal, action ≠ .submitCommit traversal)
    (taken : clientStep setup thread action system = some after) :
    after.impl = system.impl := by
  cases action with
  | releaseCommit => exact absurd rfl notRelease
  | submitCommit traversal => exact absurd rfl (notSubmit traversal)
  | submit request =>
      cases position : system.clients thread <;> simp only [clientStep, position] at taken <;>
        try cases taken
      split at taken
      · cases taken
        rfl
      split at taken
      · cases taken
        rfl
      · cases taken
        rfl
  | acquireCommit | renewSample | renewCommit | submitSample | getState | readReturns =>
      cases position : system.clients thread <;> simp only [clientStep, position] at taken <;>
        cases taken
      rfl
  | acquire | acquireSample | renew | release | submitValidate | read | readBegins =>
      cases position : system.clients thread <;> simp only [clientStep, position] at taken <;>
        try cases taken
      split at taken <;> cases taken <;> rfl

theorem releaseCommit_cases {setup : Setup} {thread : ℕ} {system after : System}
    (taken : clientStep setup thread .releaseCommit system = some after) :
    ∃ leaseId clientId, system.clients thread = .releasing leaseId clientId ∧
      after.impl = system.impl.releaseLocked leaseId clientId system.now := by
  cases position : system.clients thread with
  | releasing leaseId clientId =>
      simp only [clientStep, position, Option.some.injEq] at taken
      exact ⟨leaseId, clientId, rfl, taken ▸ rfl⟩
  | _ => simp [clientStep, position] at taken

theorem submitCommit_cases {setup : Setup} {thread : ℕ} {traversal : Traversal}
    {system after : System}
    (taken : clientStep setup thread (.submitCommit traversal) system = some after) :
    ∃ request evidence, system.clients thread = .submitValidated request evidence ∧
      after = { system.clientReturns thread (.submitReturned request
          (system.impl.submitLocked setup.options traversal request system.now).1) with
        impl := (system.impl.submitLocked setup.options traversal request system.now).2 } := by
  cases position : system.clients thread with
  | submitValidated request evidence =>
      simp only [clientStep, position, Option.some.injEq] at taken
      exact ⟨request, evidence, rfl, taken.symm⟩
  | _ => simp [clientStep, position] at taken

/-! ### All threads together -/

/-- What a step does to the members guarded by `mutex_` and to the command in flight. -/
inductive Effect (setup : Setup) (system : System) :
    Action → Impl → Option CommandRecord → Prop where
  | unchanged {action : Action} :
      Effect setup system action system.impl system.worker.inFlight
  | dequeued (position : system.worker = .waiting) (serving : system.impl.shuttingDown = false) :
      Effect setup system (.worker .dequeue) (system.impl.dequeueLocked system.now).1
        (system.impl.dequeueLocked system.now).2
  | completed {record : CommandRecord} {result : Status}
      (position : system.worker = .finished record result) :
      Effect setup system (.worker .complete)
        (system.impl.completeLocked setup.options system.leases system.now record result) none
  | published {state : StatusOr RobotSnapshot} (position : system.poll = .read state) :
      Effect setup system (.poll .publish)
        (system.impl.publishLocked setup.options system.leases state system.now)
        system.worker.inFlight
  | submitted {thread : ℕ} {action : ClientAction} {request : CommandRequest}
      {evidence : Evidence} (traversal : Traversal)
      (position : system.clients thread = .submitValidated request evidence) :
      Effect setup system (.client thread action)
        (system.impl.submitLocked setup.options traversal request system.now).2
        system.worker.inFlight
  | released {thread : ℕ} {action : ClientAction} (leaseId clientId : String) :
      Effect setup system (.client thread action)
        (system.impl.releaseLocked leaseId clientId system.now) system.worker.inFlight
  | flagged (position : system.shutdown = .idle) :
      Effect setup system (.shutdown .begins)
        { system.impl with shuttingDown := true, running := false } system.worker.inFlight
  | settled {result : Status} {active : Option ℕ}
      (position : system.shutdown = .stopped .finishing result active) :
      Effect setup system (.shutdown .finish) (system.impl.shutdownLocked result system.now)
        system.worker.inFlight

theorem step_effect {setup : Setup} {system after : System} {action : Action}
    (taken : step setup system action = some after) :
    Effect setup system action after.impl after.worker.inFlight := by
  cases action with
  | advance nanoseconds =>
      cases taken
      exact .unchanged
  | worker action =>
      have same : Effect setup system (.worker action) system.impl system.worker.inFlight :=
        .unchanged
      cases workerStep_cases taken with
      | dequeues position serving =>
          simpa only [WorkerPc.inFlight_afterDequeue] using Effect.dequeued position serving
      | completes position => exact .completed position
      | exits position | copies position | samples position | validates position
      | checksProgram position | refuses position | lacksPayload position | calls position
      | returns position =>
          rw [position] at same
          exact same
  | poll action =>
      cases pollStep_cases taken with
      | publishes position => exact .published position
      | checks | skips | exits | readBegins | readReturns | wakes => exact .unchanged
  | client thread action =>
      cases clientStep_cases taken with
      | cancels leaseId clientId => exact .released leaseId clientId
      | submits traversal position => exact .submitted traversal position
      | idles | moves | returns | readBegins | readReturns => exact .unchanged
  | shutdown action =>
      cases shutdownStep_cases taken with
      | begins position => exact .flagged position
      | finishes position => exact .settled position
      | stopBegins | stopReturns | joinsWorker | joinsPoll | disconnects => exact .unchanged

/-- What a step does to the shutdown flag, the published snapshot and the name of the loaded
program. -/
structure MembersKept (setup : Setup) (system : System) (action : Action) (impl : Impl) : Prop where
  shuttingDown : system.impl.shuttingDown = true → impl.shuttingDown = true
  latestState : impl.latestState = system.impl.latestState ∨ ∃ state,
    impl.latestState = (system.impl.publishState setup.options state system.now).1.latestState
  loadedApprovedProgram : impl.loadedApprovedProgram = system.impl.loadedApprovedProgram ∨
    ∃ record result, action = .worker .complete ∧ system.worker = .finished record result ∧
      result.ok = true ∧ record.request.type = .loadProgram

theorem MembersKept.ofFrame {setup : Setup} {system : System} {action : Action} {impl : Impl}
    (frame : Impl.Frame system.impl impl) : MembersKept setup system action impl :=
  ⟨frame.shuttingDown.trans, Or.inl frame.latestState, Or.inl frame.loadedApprovedProgram⟩

theorem Effect.members {setup : Setup} {system : System} {action : Action} {impl : Impl}
    {next : Option CommandRecord} (effect : Effect setup system action impl next) :
    MembersKept setup system action impl := by
  cases effect with
  | unchanged => exact .ofFrame (.refl _)
  | flagged => exact ⟨fun _ => rfl, Or.inl rfl, Or.inl rfl⟩
  | dequeued => exact .ofFrame (Impl.dequeueLocked_frame _ _)
  | @completed record result position =>
      rcases Impl.completeLocked_frame setup.options system.leases system.now record result
        system.impl with frame | ⟨ok, type, frame⟩
      · exact .ofFrame frame
      · exact ⟨frame.shuttingDown.trans, Or.inl frame.latestState,
          Or.inr ⟨record, result, rfl, position, ok, type⟩⟩
  | @published state position =>
      have frame := Impl.publishLocked_frame setup.options system.leases state system.now
        system.impl
      exact ⟨frame.shuttingDown.trans, Or.inr ⟨state, frame.latestState⟩,
        Or.inl frame.loadedApprovedProgram⟩
  | @submitted _ _ request evidence traversal position =>
      rcases Impl.submitLocked_eq setup.options traversal request system.now system.impl with
        ⟨_, _, _, _, eq⟩
      rw [eq]
      exact ⟨id, Or.inl rfl, Or.inl rfl⟩
  | released => exact .ofFrame (Impl.releaseLocked_frame _ _ _ _)
  | settled => exact .ofFrame (Impl.shutdownLocked_frame _ _ _)

/-- Only the completion of a command changes the name of the loaded program. -/
theorem loadedApprovedProgram_of_step {setup : Setup} {system after : System} {action : Action}
    (taken : step setup system action = some after) (other : action ≠ .worker .complete) :
    after.impl.loadedApprovedProgram = system.impl.loadedApprovedProgram := by
  rcases (step_effect taken).members.loadedApprovedProgram with same | ⟨_, _, completes, _⟩
  · exact same
  · exact absurd completes other

/-- The state right after `Start` has published the first snapshot. -/
def started (setup : Setup) (snapshot : RobotSnapshot) (now : TimePoint) : System where
  impl := {
    latestState := { snapshot with
      observedAt := now
      sequence := 1
      lifecycle := deriveLifecycleState { snapshot with observedAt := now, sequence := 1 } }
    running := true
    startedOnce := true }
  leases := { leaseTtl := setup.options.controlLeaseTtl }
  now := now

theorem init_cases {setup : Setup} {system : System} (initial : Init setup system) :
    setup.options.accepted = true ∧ ∃ snapshot now, system = started setup snapshot now := by
  rcases initial with ⟨connect, initial, now, impl, started, rfl⟩
  unfold Impl.start at started
  split at started
  · cases started
  split at started
  · cases started
  next accepted =>
  split at started
  · cases started
  split at started
  · cases started
  split at started
  · cases started
  next snapshot =>
  cases started
  exact ⟨by simpa using accepted, snapshot, now, rfl⟩

theorem init_started {setup : Setup} (accepted : setup.options.accepted = true)
    (snapshot : RobotSnapshot) (now : TimePoint) : Init setup (started setup snapshot now) := by
  refine ⟨Status.Ok, .ok snapshot, now, (started setup snapshot now).impl, ?_, rfl⟩
  simp [Impl.start, accepted, started]

/-- Only options that `Start` accepts are ever run with. -/
theorem Reachable.optionsAccepted {setup : Setup} {system : System}
    (reached : Reachable setup system) : setup.options.accepted = true := by
  induction reached with
  | init initial => exact (init_cases initial).1
  | next _ _ _ ih => exact ih

theorem Reachable.followed {setup : Setup} {system after : System} {action : Action}
    (reached : Reachable setup system) (taken : step setup system action = some after) :
    Reachable setup after :=
  .next reached trivial taken

theorem Reachable.onward {setup : Setup} {system later : System}
    {allowed : System → Action → Prop} (reached : Reachable setup system)
    (steps : TransitionSystem.StepsUnder (step setup) allowed system later) :
    Reachable setup later :=
  steps.reachable reached

/-- The invariant rule for runs that begin with a successful `Start`. -/
theorem Reachable.rule {setup : Setup} {system : System} (reached : Reachable setup system)
    (Invariant : System → Prop)
    (base : ∀ snapshot now, Invariant (started setup snapshot now))
    (preserved : ∀ {system after action}, Reachable setup system → Invariant system →
      step setup system action = some after → Invariant after) : Invariant system := by
  refine reached.invariant Invariant (fun system initial => ?_)
    fun system action after reached holds _ taken => preserved reached holds taken
  rcases init_cases initial with ⟨_, snapshot, now, rfl⟩
  exact base snapshot now

/-- Ownership holds in every reachable state. -/
theorem Reachable.owned {setup : Setup} {system : System} (reached : Reachable setup system) :
    system.impl.Owned system.worker.inFlight := by
  refine reached.rule (fun system => system.impl.Owned system.worker.inFlight)
    (fun _ _ => Impl.Owned.empty rfl rfl rfl) fun {system after action} _ owned taken => ?_
  have effect := step_effect taken
  generalize after.impl = afterImpl at effect ⊢
  generalize after.worker.inFlight = next at effect ⊢
  cases effect with
  | unchanged => exact owned
  | dequeued position =>
      rw [position] at owned
      exact owned.dequeueLocked system.now
  | completed position =>
      rw [position] at owned
      exact owned.completeLocked _ _ _ _
  | published => exact owned.publishLocked _ _ _ _
  | submitted => exact owned.submitLocked _ _ _ _
  | released => exact owned.releaseLocked _ _ _
  | flagged => exact owned.congr rfl rfl
  | settled => exact owned.shutdownLocked _ _

end System

end RobotManager
