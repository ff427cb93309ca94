import RobotManager.Control.Lifecycle

/-!
# The threads and the driver

Invariants that tie the program counters of the threads to `driver_mutex_`, to each
other and to the history of driver calls: a thread inside a driver call holds the
mutex, the shutdown joins the worker before it disconnects, and the active motion has
been dispatched.
-/

namespace RobotManager

namespace Impl

/-! ### Which motion becomes active -/

@[simp]
theorem dequeueLocked_activeMotionId (now : TimePoint) (impl : Impl) :
    (impl.dequeueLocked now).1.activeMotionId = impl.activeMotionId := by
  have dequeue := impl.dequeueLocked_cases now
  generalize (impl.dequeueLocked now).1 = after at dequeue ⊢
  generalize (impl.dequeueLocked now).2 = handed at dequeue
  cases dequeue <;> rfl

theorem MotionUpdate.activeMotionId {options : ExecutorOptions} {now : TimePoint}
    {impl after : Impl} (update : MotionUpdate options now impl after) {id : ℕ}
    (isActive : after.activeMotionId = some id) : impl.activeMotionId = some id := by
  cases update with
  | unchanged | seen => exact isActive
  | timedOut => simpa using isActive
  | vanished | failed | finished => cases isActive

theorem publishLocked_activeMotionId {options : ExecutorOptions} {leases : ControlLeaseManager}
    {state : StatusOr RobotSnapshot} {now : TimePoint} {impl : Impl} {id : ℕ}
    (isActive : (impl.publishLocked options leases state now).activeMotionId = some id) :
    impl.activeMotionId = some id := by
  rcases impl.publishLocked_cases options leases state now with ⟨updated, update, _, same⟩
  rw [same] at isActive
  rw [← publishState_activeMotionId options state now]
  apply update.activeMotionId
  rcases updated.checkLeasesLocked_cases leases now with ⟨_, same⟩ | ⟨reason, same⟩
  · rwa [same] at isActive
  · simpa [same] using isActive

theorem completeActiveMotionLocked_activeMotionId (state : CommandState) (now : TimePoint)
    (impl : Impl) : (impl.completeActiveMotionLocked state now).activeMotionId = none := by
  unfold completeActiveMotionLocked
  split
  · next none => exact none
  · rfl

theorem OrdinaryCompletion.activeMotionId {options : ExecutorOptions} {now : TimePoint}
    {record : CommandRecord} {impl after : Impl}
    (completion : OrdinaryCompletion options now record impl after) {id : ℕ}
    (isActive : after.activeMotionId = some id) : impl.activeMotionId = some id := by
  cases completion with
  | plain | loaded | jogStarted | jogEnded => exact isActive
  | jogStartedWithoutLease => simpa using isActive
  | stopped =>
      have none := impl.completeActiveMotionLocked_activeMotionId .stopped now
      cases none.symm.trans isActive
  | programStopped =>
      have isActive : (impl.completeActiveProgramLocked now).activeMotionId = some id := isActive
      unfold completeActiveProgramLocked at isActive
      split at isActive
      · exact isActive
      split at isActive
      · exact isActive
      · simp [completeActiveMotionLocked_activeMotionId] at isActive

/-- The completion section makes at most the motion in flight active. -/
theorem Completion.activeMotionId {options : ExecutorOptions} {leases : ControlLeaseManager}
    {now : TimePoint} {record : CommandRecord} {result : Status} {impl after : Impl}
    (completion : Completion options leases now record result impl after) {id : ℕ}
    (isActive : after.activeMotionId = some id) :
    impl.activeMotionId = some id ∨
      (result.ok = true ∧ isMotionCommand record.request.type = true ∧ record.id = id) := by
  cases completion with
  | missing | failed => exact Or.inl isActive
  | superseded => exact Or.inl (by simpa [finished] using isActive)
  | activated ok motion => exact Or.inr ⟨ok, motion, Option.some.inj isActive⟩
  | activatedWithoutLease ok motion =>
      refine Or.inr ⟨ok, motion, ?_⟩
      simpa [Impl.activated] using isActive
  | ordinary =>
      left
      have kept := (completeOrdinaryLocked_cases options leases now record
        (impl.finished record .succeeded result now)).activeMotionId isActive
      exact kept

theorem releaseLocked_activeMotionId (leaseId clientId : String) (now : TimePoint) (impl : Impl) :
    (impl.releaseLocked leaseId clientId now).activeMotionId = impl.activeMotionId := by
  rcases impl.releaseLocked_cases leaseId clientId now with same | same <;> rw [same]
  · rfl
  · simp [cancelQueuedCommandsForLeaseLocked]

theorem shutdownLocked_activeMotionId (stopStatus : Status) (now : TimePoint) (impl : Impl) :
    (impl.shutdownLocked stopStatus now).activeMotionId = none := by
  unfold shutdownLocked
  dsimp only
  split
  · next none => exact none
  · rfl

end Impl

namespace System

/-- A motion is active after a step if it was before or the worker has just completed its start. -/
theorem Effect.activeMotionId {setup : Setup} {system : System} {action : Action}
    {impl : Impl} {next : Option CommandRecord} (effect : Effect setup system action impl next)
    {id : ℕ}
    (isActive : impl.activeMotionId = some id) :
    system.impl.activeMotionId = some id ∨ ∃ record result,
      system.worker = .finished record result ∧ result.ok = true ∧
        isMotionCommand record.request.type = true ∧ record.id = id := by
  cases effect with
  | unchanged | flagged => exact Or.inl isActive
  | dequeued => exact Or.inl (by simpa using isActive)
  | @completed record result position =>
      rcases (Impl.completeLocked_cases _ _ _ _ _ _).activeMotionId isActive with
        old | ⟨ok, motion, same⟩
      · exact Or.inl old
      · exact Or.inr ⟨record, result, position, ok, motion, same⟩
  | published => exact Or.inl (Impl.publishLocked_activeMotionId isActive)
  | submitted traversal =>
      rcases Impl.submitLocked_eq setup.options traversal _ system.now system.impl with
        ⟨_, _, _, _, eq⟩
      rw [eq] at isActive
      exact Or.inl isActive
  | released => exact Or.inl (by rwa [Impl.releaseLocked_activeMotionId] at isActive)
  | settled => cases (Impl.shutdownLocked_activeMotionId _ _ _).symm.trans isActive

/-! ### The history of driver calls -/

/-- Steps only add to the history. -/
theorem step_events {setup : Setup} {system after : System} {action : Action}
    (taken : step setup system action = some after) :
    ∃ newer, after.events = newer ++ system.events := by
  have same : ∃ newer, system.events = newer ++ system.events := ⟨[], rfl⟩
  have one : ∀ event, ∃ newer, event :: system.events = newer ++ system.events :=
    fun event => ⟨[event], rfl⟩
  cases action with
  | advance nanoseconds =>
      cases taken
      exact same
  | worker action => cases workerStep_cases taken <;> first | exact same | exact one _
  | poll action =>
      cases pollStep_cases taken with
      | readBegins => exact one _
      | publishes => exact ⟨_, rfl⟩
      | checks | skips | readReturns | exits | wakes => exact same
  | client thread action => cases clientStep_cases taken <;> first | exact same | exact one _
  | shutdown action => cases shutdownStep_cases taken <;> first | exact same | exact one _

theorem mem_events_of_step {setup : Setup} {system after : System} {action : Action}
    (taken : step setup system action = some after) {event : Event}
    (mem : event ∈ system.events) : event ∈ after.events := by
  rcases step_events taken with ⟨newer, eq⟩
  rw [eq]
  exact List.mem_append_right newer mem

theorem execute_error_not_ok {request : CommandRequest} {status : Status}
    (missing : execute request = .error status) : status.ok = false := by
  unfold execute at missing
  split at missing <;> cases missing <;> rfl

/-- A motion command leads to a motion-starting call. -/
theorem startsMotion_of_execute {request : CommandRequest} {call : DriverCall}
    (executed : execute request = .ok call) (motion : isMotionCommand request.type = true) :
    call.startsMotion = true := by
  unfold execute at executed
  split at executed <;> cases executed <;> simp_all [isMotionCommand, DriverCall.startsMotion]

/-- How the threads, the mutex of the driver and the history fit together. -/
structure Consistent (system : System) : Prop where
  workerHolds : ∀ {record evidence call}, system.worker = .executing record evidence call →
    system.driverMutex = some .worker
  pollHolds : system.poll = .reading → system.driverMutex = some .poll
  clientHolds : ∀ {thread}, system.clients thread = .reading →
    system.driverMutex = some (.client thread)
  shutdownHolds : system.shutdown = .stopping → system.driverMutex = some .shutdown
  flagged : system.shutdown ≠ .idle → system.impl.shuttingDown = true
  joined : ∀ {stage result active}, system.shutdown = .stopped stage result active →
    stage ≠ .joiningWorker → system.worker = .exited
  done : system.shutdown = .done → system.worker = .exited
  executing : ∀ {record evidence call}, system.worker = .executing record evidence call →
    execute record.request = .ok call ∧ .callBegan record.id call ∈ system.events
  finished : ∀ {record result}, system.worker = .finished record result → result.ok = true →
    ∃ call, execute record.request = .ok call ∧ .callBegan record.id call ∈ system.events ∧
      .callReturned record.id call result ∈ system.events
  dispatched : ∀ {id}, system.impl.activeMotionId = some id →
    ∃ call result, .callBegan id call ∈ system.events ∧
      .callReturned id call result ∈ system.events ∧ call.startsMotion = true

/-- No step takes the flag of the shutdown back. -/
theorem Consistent.flagged_of_step {setup : Setup} {system after : System} {action : Action}
    (consistent : Consistent system) (taken : step setup system action = some after)
    (shutting : system.shutdown ≠ .idle) : after.impl.shuttingDown = true :=
  (step_effect taken).members.shuttingDown (consistent.flagged shutting)

/-- A motion that is active after a step has been dispatched. -/
theorem Consistent.dispatched_of_step {setup : Setup} {system after : System} {action : Action}
    (consistent : Consistent system) (taken : step setup system action = some after) {id : ℕ}
    (isActive : after.impl.activeMotionId = some id) :
    ∃ call result, .callBegan id call ∈ after.events ∧
      .callReturned id call result ∈ after.events ∧ call.startsMotion = true := by
  have dispatched : ∃ call result, .callBegan id call ∈ system.events ∧
      .callReturned id call result ∈ system.events ∧ call.startsMotion = true := by
    rcases (step_effect taken).activeMotionId isActive with
      old | ⟨record, result, position, ok, motion, rfl⟩
    · exact consistent.dispatched old
    · rcases consistent.finished position ok with ⟨call, executed, began, returned⟩
      exact ⟨call, result, began, returned, startsMotion_of_execute executed motion⟩
  rcases dispatched with ⟨call, result, began, returned, starts⟩
  exact ⟨call, result, mem_events_of_step taken began, mem_events_of_step taken returned, starts⟩

theorem Consistent.workerStep {setup : Setup} {system after : System} {action : WorkerAction}
    (consistent : Consistent system)
    (taken : step setup system (.worker action) = some after) : Consistent after := by
  have flagged := consistent.flagged_of_step taken
  have dispatched : ∀ {id}, after.impl.activeMotionId = some id → _ :=
    consistent.dispatched_of_step taken
  -- the shutdown has not joined a worker that is still taking steps
  have joined : system.worker ≠ .exited → ∀ {stage result active},
      system.shutdown = .stopped stage result active → stage ≠ .joiningWorker →
      after.worker = .exited := by
    intro busy stage result active stopped late
    exact absurd (consistent.joined stopped late) busy
  have done : system.worker ≠ .exited → system.shutdown = .done → after.worker = .exited :=
    fun busy finished => absurd (consistent.done finished) busy
  cases workerStep_cases taken with
  | exits position =>
      exact ⟨by simp, consistent.pollHolds, consistent.clientHolds, consistent.shutdownHolds,
        flagged, by simp, by simp, by simp, by simp, dispatched⟩
  | dequeues position serving =>
      have idle : system.worker ≠ .exited := by simp [position]
      refine ⟨?_, consistent.pollHolds, consistent.clientHolds, consistent.shutdownHolds,
        flagged, joined idle, done idle, ?_, ?_, dispatched⟩ <;>
      · intro record
        cases (system.impl.dequeueLocked system.now).2 <;> simp [WorkerPc.afterDequeue]
  | copies position | samples position | validates position | checksProgram position =>
      have busy : system.worker ≠ .exited := by simp [position]
      exact ⟨by simp, consistent.pollHolds, consistent.clientHolds, consistent.shutdownHolds,
        flagged, joined busy, done busy, by simp, by simp, dispatched⟩
  | refuses position notOk =>
      have busy : system.worker ≠ .exited := by simp [position]
      refine ⟨by simp, consistent.pollHolds, consistent.clientHolds, consistent.shutdownHolds,
        flagged, joined busy, done busy, by simp, ?_, dispatched⟩
      rintro record result ⟨⟩ ok
      cases notOk.symm.trans ok
  | lacksPayload position missing =>
      have busy : system.worker ≠ .exited := by simp [position]
      refine ⟨by simp, consistent.pollHolds, consistent.clientHolds, consistent.shutdownHolds,
        flagged, joined busy, done busy, by simp, ?_, dispatched⟩
      rintro record result ⟨⟩ ok
      cases (execute_error_not_ok missing).symm.trans ok
  | calls position ok free executed =>
      have busy : system.worker ≠ .exited := by simp [position]
      refine ⟨fun _ => rfl, ?_, ?_, ?_, flagged, joined busy, done busy, ?_, by simp, dispatched⟩
      · intro reading
        cases free.symm.trans (consistent.pollHolds reading)
      · intro thread reading
        cases free.symm.trans (consistent.clientHolds reading)
      · intro stopping
        cases free.symm.trans (consistent.shutdownHolds stopping)
      · rintro record evidence call ⟨⟩
        exact ⟨executed, List.mem_cons_self⟩
  | returns position =>
      have busy : system.worker ≠ .exited := by simp [position]
      have held := consistent.workerHolds position
      refine ⟨by simp, ?_, ?_, ?_, flagged, joined busy, done busy, by simp, ?_, dispatched⟩
      · intro reading
        cases held.symm.trans (consistent.pollHolds reading)
      · intro thread reading
        cases held.symm.trans (consistent.clientHolds reading)
      · intro stopping
        cases held.symm.trans (consistent.shutdownHolds stopping)
      · rintro record result ⟨⟩ ok
        rcases consistent.executing position with ⟨executed, began⟩
        exact ⟨_, executed, List.mem_cons_of_mem _ began, List.mem_cons_self⟩
  | completes position =>
      have busy : system.worker ≠ .exited := by simp [position]
      exact ⟨by simp, consistent.pollHolds, consistent.clientHolds, consistent.shutdownHolds,
        flagged, joined busy, done busy, by simp, by simp, dispatched⟩

theorem Consistent.pollStep {setup : Setup} {system after : System} {action : PollAction}
    (consistent : Consistent system)
    (taken : step setup system (.poll action) = some after) : Consistent after := by
  have flagged := consistent.flagged_of_step taken
  have dispatched : ∀ {id}, after.impl.activeMotionId = some id → _ :=
    consistent.dispatched_of_step taken
  have kept : ∀ {event}, event ∈ system.events → event ∈ after.events := mem_events_of_step taken
  have executing : ∀ {record evidence call}, system.worker = .executing record evidence call →
      execute record.request = .ok call ∧ .callBegan record.id call ∈ after.events := by
    intro record evidence call position
    exact ⟨(consistent.executing position).1, kept (consistent.executing position).2⟩
  have finished : ∀ {record result}, system.worker = .finished record result → result.ok = true →
      ∃ call, execute record.request = .ok call ∧ .callBegan record.id call ∈ after.events ∧
        .callReturned record.id call result ∈ after.events := by
    intro record result position ok
    rcases consistent.finished position ok with ⟨call, executed, began, returned⟩
    exact ⟨call, executed, kept began, kept returned⟩
  cases pollStep_cases taken with
  | checks | skips | exits | wakes | publishes =>
      exact ⟨consistent.workerHolds, by simp, consistent.clientHolds, consistent.shutdownHolds,
        flagged, consistent.joined, consistent.done, executing, finished, dispatched⟩
  | readBegins position free =>
      refine ⟨?_, fun _ => rfl, ?_, ?_, flagged, consistent.joined, consistent.done, executing,
        finished, dispatched⟩
      · intro record evidence call executing
        cases free.symm.trans (consistent.workerHolds executing)
      · intro thread reading
        cases free.symm.trans (consistent.clientHolds reading)
      · intro stopping
        cases free.symm.trans (consistent.shutdownHolds stopping)
  | readReturns position =>
      have held := consistent.pollHolds position
      refine ⟨?_, by simp, ?_, ?_, flagged, consistent.joined, consistent.done, executing,
        finished, dispatched⟩
      · intro record evidence call executing
        cases held.symm.trans (consistent.workerHolds executing)
      · intro thread reading
        cases held.symm.trans (consistent.clientHolds reading)
      · intro stopping
        cases held.symm.trans (consistent.shutdownHolds stopping)

theorem clients_setClient (system : System) (thread other : ℕ) (pc : ClientPc) :
    (system.setClient thread pc).clients other =
      if other = thread then pc else system.clients other := by
  simp [setClient, Function.update_apply]

/-- A client thread that leaves or stays out of the driver. -/
theorem Consistent.clientHolds_setClient {system : System} (consistent : Consistent system)
    {thread other : ℕ} {pc : ClientPc} (outside : pc ≠ .reading)
    (reading : (system.setClient thread pc).clients other = .reading) :
    system.driverMutex = some (.client other) := by
  rw [clients_setClient] at reading
  split at reading
  · exact absurd reading outside
  · exact consistent.clientHolds reading

theorem Consistent.clientStep {setup : Setup} {system after : System} {thread : ℕ}
    {action : ClientAction} (consistent : Consistent system)
    (taken : step setup system (.client thread action) = some after) : Consistent after := by
  have flagged := consistent.flagged_of_step taken
  have dispatched : ∀ {id}, after.impl.activeMotionId = some id → _ :=
    consistent.dispatched_of_step taken
  have kept : ∀ {event}, event ∈ system.events → event ∈ after.events := mem_events_of_step taken
  have executing : ∀ {record evidence call}, system.worker = .executing record evidence call →
      execute record.request = .ok call ∧ .callBegan record.id call ∈ after.events := by
    intro record evidence call position
    exact ⟨(consistent.executing position).1, kept (consistent.executing position).2⟩
  have finished : ∀ {record result}, system.worker = .finished record result → result.ok = true →
      ∃ call, execute record.request = .ok call ∧ .callBegan record.id call ∈ after.events ∧
        .callReturned record.id call result ∈ after.events := by
    intro record result position ok
    rcases consistent.finished position ok with ⟨call, executed, began, returned⟩
    exact ⟨call, executed, kept began, kept returned⟩
  cases clientStep_cases taken with
  | idles => exact consistent
  | moves pc leases follows =>
      exact ⟨consistent.workerHolds, consistent.pollHolds,
        consistent.clientHolds_setClient follows.outside, consistent.shutdownHolds, flagged,
        consistent.joined, consistent.done, executing, finished, dispatched⟩
  | returns | cancels | submits =>
      exact ⟨consistent.workerHolds, consistent.pollHolds,
        consistent.clientHolds_setClient (by simp), consistent.shutdownHolds, flagged,
        consistent.joined, consistent.done, executing, finished, dispatched⟩
  | readBegins position free =>
      refine ⟨?_, ?_, ?_, ?_, flagged, consistent.joined, consistent.done, executing, finished,
        dispatched⟩
      · intro record evidence call executing
        cases free.symm.trans (consistent.workerHolds executing)
      · intro reading
        cases free.symm.trans (consistent.pollHolds reading)
      · intro other reading
        by_cases same : other = thread
        · rw [same]
        · have reading : (system.setClient thread .reading).clients other = .reading := reading
          rw [clients_setClient, if_neg same] at reading
          cases free.symm.trans (consistent.clientHolds reading)
      · intro stopping
        cases free.symm.trans (consistent.shutdownHolds stopping)
  | readReturns position =>
      have held := consistent.clientHolds position
      refine ⟨?_, ?_, ?_, ?_, flagged, consistent.joined, consistent.done, executing, finished,
        dispatched⟩
      · intro record evidence call executing
        cases held.symm.trans (consistent.workerHolds executing)
      · intro reading
        cases held.symm.trans (consistent.pollHolds reading)
      · intro other reading
        have reading : (system.setClient thread .idle).clients other = .reading := reading
        rw [clients_setClient] at reading
        split at reading
        · cases reading
        · next different =>
          cases held.symm.trans (consistent.clientHolds reading)
          exact absurd rfl different
      · intro stopping
        cases held.symm.trans (consistent.shutdownHolds stopping)

theorem Consistent.shutdownStep {setup : Setup} {system after : System} {action : ShutdownAction}
    (consistent : Consistent system)
    (taken : step setup system (.shutdown action) = some after) : Consistent after := by
  have dispatched : ∀ {id}, after.impl.activeMotionId = some id → _ :=
    consistent.dispatched_of_step taken
  have kept : ∀ {event}, event ∈ system.events → event ∈ after.events := mem_events_of_step taken
  have executing : ∀ {record evidence call}, system.worker = .executing record evidence call →
      execute record.request = .ok call ∧ .callBegan record.id call ∈ after.events := by
    intro record evidence call position
    exact ⟨(consistent.executing position).1, kept (consistent.executing position).2⟩
  have finished : ∀ {record result}, system.worker = .finished record result → result.ok = true →
      ∃ call, execute record.request = .ok call ∧ .callBegan record.id call ∈ after.events ∧
        .callReturned record.id call result ∈ after.events := by
    intro record result position ok
    rcases consistent.finished position ok with ⟨call, executed, began, returned⟩
    exact ⟨call, executed, kept began, kept returned⟩
  have flagged := consistent.flagged_of_step taken
  cases shutdownStep_cases taken with
  | begins position =>
      exact ⟨consistent.workerHolds, consistent.pollHolds, consistent.clientHolds, by simp,
        fun _ => rfl, by simp, by simp, executing, finished, dispatched⟩
  | stopBegins position free =>
      refine ⟨?_, ?_, ?_, fun _ => rfl, fun _ => flagged (by simp [position]), by simp, by simp,
        executing, finished, dispatched⟩
      · intro record evidence call executing
        cases free.symm.trans (consistent.workerHolds executing)
      · intro reading
        cases free.symm.trans (consistent.pollHolds reading)
      · intro thread reading
        cases free.symm.trans (consistent.clientHolds reading)
  | stopReturns position =>
      have held := consistent.shutdownHolds position
      refine ⟨?_, ?_, ?_, by simp, fun _ => flagged (by simp [position]), ?_, by simp, executing,
        finished, dispatched⟩
      · intro record evidence call executing
        cases held.symm.trans (consistent.workerHolds executing)
      · intro reading
        cases held.symm.trans (consistent.pollHolds reading)
      · intro thread reading
        cases held.symm.trans (consistent.clientHolds reading)
      · rintro stage result active ⟨⟩ late
        exact absurd rfl late
  | joinsWorker position worker =>
      refine ⟨consistent.workerHolds, consistent.pollHolds, consistent.clientHolds, by simp,
        fun _ => flagged (by simp [position]), ?_, by simp, executing, finished, dispatched⟩
      exact fun _ _ => worker
  | joinsPoll position | disconnects position =>
      refine ⟨consistent.workerHolds, consistent.pollHolds, consistent.clientHolds, by simp,
        fun _ => flagged (by simp [position]), ?_, by simp, executing, finished, dispatched⟩
      exact fun _ _ => consistent.joined position (by simp)
  | finishes position =>
      exact ⟨consistent.workerHolds, consistent.pollHolds, consistent.clientHolds, by simp,
        fun _ => flagged (by simp [position]), by simp,
        fun _ => consistent.joined position (by simp), executing, finished, dispatched⟩

theorem Reachable.consistent {setup : Setup} {system : System} (reached : Reachable setup system) :
    Consistent system := by
  refine reached.rule Consistent (fun snapshot now => ?_)
    fun {system after action} _ consistent taken => ?_
  · refine ⟨?_, ?_, ?_, ?_, ?_, ?_, ?_, ?_, ?_, ?_⟩ <;> simp [started]
  cases action with
  | advance nanoseconds =>
      cases taken
      exact ⟨consistent.workerHolds, consistent.pollHolds, consistent.clientHolds,
        consistent.shutdownHolds, consistent.flagged, consistent.joined, consistent.done,
        consistent.executing, consistent.finished, consistent.dispatched⟩
  | worker action => exact consistent.workerStep taken
  | poll action => exact consistent.pollStep taken
  | client thread action => exact consistent.clientStep taken
  | shutdown action => exact consistent.shutdownStep taken

end System

end RobotManager
