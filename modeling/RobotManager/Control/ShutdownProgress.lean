import RobotManager.Control.Threads

/-!
# Progress of the shutdown

A thread that has `driver_mutex_` is inside the driver, so the mutex is always given back.  Once
`Shutdown` has set its flag, every step of the worker, of the poll thread and of `Shutdown` itself
brings the executor closer to its end, and one of the three can take a step until the end is
reached.
-/

namespace RobotManager

/-- The steps the worker has left once the flag is set. -/
def WorkerPc.left : WorkerPc → ℕ
  | .dequeued _ => 8
  | .copied _ _ _ => 7
  | .leaseSampled _ _ _ _ => 6
  | .validated _ _ _ => 5
  | .ready _ _ _ => 4
  | .executing _ _ _ => 3
  | .finished _ _ => 2
  | .waiting => 1
  | .exited => 0

/-- The steps the poll thread has left once the flag is set. -/
def PollPc.left : PollPc → ℕ
  | .checked => 4
  | .reading => 3
  | .read _ => 2
  | .sleeping _ | .starting => 1
  | .exited => 0

def ShutdownPc.left : ShutdownPc → ℕ
  | .idle => 7
  | .flagged => 6
  | .stopping => 5
  | .stopped .joiningWorker _ _ => 4
  | .stopped .joiningPoll _ _ => 3
  | .stopped .disconnecting _ _ => 2
  | .stopped .finishing _ _ => 1
  | .done => 0

/-- Whether a thread of the executor, or the one that shuts it down, takes the step. -/
def Action.ofExecutor : Action → Bool
  | .worker _ | .poll _ | .shutdown _ => true
  | .advance _ | .client _ _ => false

namespace System

/-- The steps the executor has left once the flag is set. -/
def left (system : System) : ℕ :=
  system.worker.left + system.poll.left + system.shutdown.left

theorem left_le {system : System} (closing : system.shutdown ≠ .idle) : system.left ≤ 18 := by
  have worker : system.worker.left ≤ 8 := by cases system.worker <;> simp [WorkerPc.left]
  have poll : system.poll.left ≤ 4 := by cases system.poll <;> simp [PollPc.left]
  have shutdown : system.shutdown.left ≤ 6 := by
    cases position : system.shutdown with
    | idle => exact absurd position closing
    | stopped stage => cases stage <;> simp [ShutdownPc.left]
    | flagged | stopping | done => simp [ShutdownPc.left]
  unfold left
  omega

/-- A client's step leaves the executor's own threads where they are. -/
theorem left_of_other {setup : Setup} {system after : System} {action : Action}
    (taken : step setup system action = some after) (other : action.ofExecutor = false) :
    after.left = system.left := by
  cases action with
  | advance nanoseconds =>
      cases taken
      rfl
  | client thread action => cases clientStep_cases taken <;> rfl
  | worker | poll | shutdown => cases other

theorem left_of_workerStep {setup : Setup} {system after : System} {action : WorkerAction}
    (flagged : system.impl.shuttingDown = true)
    (taken : step setup system (.worker action) = some after) : after.left < system.left := by
  cases workerStep_cases taken with
  | dequeues position serving => cases flagged.symm.trans serving
  | exits position | copies position | samples position | validates position
  | checksProgram position | refuses position | lacksPayload position | calls position
  | returns position | completes position => simp [left, position, WorkerPc.left]

theorem left_of_pollStep {setup : Setup} {system after : System} {action : PollAction}
    (flagged : system.impl.shuttingDown = true)
    (taken : step setup system (.poll action) = some after) : after.left < system.left := by
  cases pollStep_cases taken with
  | checks position serving => cases flagged.symm.trans serving
  | wakes position => simp [step, pollStep, position, flagged] at taken
  | skips position | readBegins position | readReturns position | publishes position
  | exits position => simp [left, position, PollPc.left]

theorem left_of_shutdownStep {setup : Setup} {system after : System} {action : ShutdownAction}
    (taken : step setup system (.shutdown action) = some after) : after.left < system.left := by
  cases shutdownStep_cases taken with
  | begins position | stopBegins position | stopReturns position | joinsWorker position
  | joinsPoll position | disconnects position | finishes position =>
      simp [left, position, ShutdownPc.left]

/-- A step of the executor's threads brings the end of the shutdown closer. -/
theorem left_of_step {setup : Setup} {system after : System} {action : Action}
    (flagged : system.impl.shuttingDown = true) (own : action.ofExecutor = true)
    (taken : step setup system action = some after) : after.left < system.left := by
  cases action with
  | worker action => exact left_of_workerStep flagged taken
  | poll action => exact left_of_pollStep flagged taken
  | shutdown action => exact left_of_shutdownStep taken
  | advance | client => cases own

/-! ### Who holds the mutex -/

/-- Whether a thread is inside a call of the driver. -/
def inDriver (system : System) : Thread → Prop
  | .worker => ∃ record evidence call, system.worker = .executing record evidence call
  | .poll => system.poll = .reading
  | .client thread => system.clients thread = .reading
  | .shutdown => system.shutdown = .stopping

/-- A step of the worker: the mutex is given back when its call returns. -/
theorem inDriver_of_workerStep {setup : Setup} {system after : System} {action : WorkerAction}
    (inside : ∀ {holder}, system.driverMutex = some holder → system.inDriver holder)
    (taken : step setup system (.worker action) = some after) {holder : Thread}
    (held : after.driverMutex = some holder) : after.inDriver holder := by
  cases workerStep_cases taken with
  | calls =>
      cases held
      exact ⟨_, _, _, rfl⟩
  | returns => cases held
  | exits position | dequeues position | copies position | samples position
  | validates position | checksProgram position | refuses position | lacksPayload position
  | completes position =>
      have old : system.inDriver holder := inside held
      cases holder with
      | worker =>
          rcases old with ⟨_, _, _, executing⟩
          cases position.symm.trans executing
      | poll | client | shutdown => exact old

theorem inDriver_of_pollStep {setup : Setup} {system after : System} {action : PollAction}
    (inside : ∀ {holder}, system.driverMutex = some holder → system.inDriver holder)
    (taken : step setup system (.poll action) = some after) {holder : Thread}
    (held : after.driverMutex = some holder) : after.inDriver holder := by
  cases pollStep_cases taken with
  | readBegins =>
      cases held
      exact rfl
  | readReturns => cases held
  | checks position | skips position | publishes position | exits position | wakes position =>
      have old : system.inDriver holder := inside held
      cases holder with
      | poll => cases position.symm.trans old
      | worker | client | shutdown => exact old

theorem inDriver_of_shutdownStep {setup : Setup} {system after : System} {action : ShutdownAction}
    (inside : ∀ {holder}, system.driverMutex = some holder → system.inDriver holder)
    (taken : step setup system (.shutdown action) = some after) {holder : Thread}
    (held : after.driverMutex = some holder) : after.inDriver holder := by
  cases shutdownStep_cases taken with
  | stopBegins =>
      cases held
      exact rfl
  | stopReturns => cases held
  | begins position | joinsWorker position | joinsPoll position | disconnects position
  | finishes position =>
      have old : system.inDriver holder := inside held
      cases holder with
      | shutdown => cases position.symm.trans old
      | worker | poll | client => exact old

/-- A client that leaves the driver gives the mutex back. -/
theorem driverMutex_of_reading {setup : Setup} {system after : System} {thread : ℕ}
    {action : ClientAction} (reading : system.clients thread = .reading)
    (taken : step setup system (.client thread action) = some after) :
    after.driverMutex = none := by
  cases action with
  | readReturns =>
      simp only [step, clientStep, reading, Option.some.injEq] at taken
      rw [← taken]
  | _ => simp [step, clientStep, reading] at taken

theorem inDriver_of_clientStep {setup : Setup} {system after : System} {thread : ℕ}
    {action : ClientAction}
    (inside : ∀ {holder}, system.driverMutex = some holder → system.inDriver holder)
    (taken : step setup system (.client thread action) = some after) {holder : Thread}
    (held : after.driverMutex = some holder) : after.inDriver holder := by
  have returned := fun reading => driverMutex_of_reading reading taken
  -- a client that has the mutex in both states is another one, which the step does not move
  have others : ∀ {other}, holder = .client other → system.clients other = .reading →
      ∀ pc, (system.setClient thread pc).clients other = .reading := by
    rintro other rfl old pc
    have different : other ≠ thread := by
      rintro rfl
      cases (returned old).symm.trans held
    exact (clients_setClient system thread other pc).trans ((if_neg different).trans old)
  cases clientStep_cases taken with
  | readBegins =>
      cases held
      exact (clients_setClient system thread thread _).trans (if_pos rfl)
  | readReturns => cases held
  | idles => exact inside held
  | moves | returns | cancels | submits =>
      have old : system.inDriver holder := inside held
      cases holder with
      | client other => exact others rfl old _
      | worker | poll | shutdown => exact old

/-- Only a thread that is inside the driver has `driver_mutex_`. -/
theorem Reachable.inDriver {setup : Setup} {system : System} (reached : Reachable setup system)
    {holder : Thread} (held : system.driverMutex = some holder) : system.inDriver holder := by
  refine reached.rule (fun system => ∀ {holder}, system.driverMutex = some holder →
    system.inDriver holder) (fun _ _ {holder} held => by simp [started] at held)
    (fun {system after action} _ inside taken {holder} held => ?_) held
  cases action with
  | advance nanoseconds =>
      cases taken
      have old := inside held
      cases holder <;> exact old
  | worker action => exact inDriver_of_workerStep inside taken held
  | poll action => exact inDriver_of_pollStep inside taken held
  | client thread action => exact inDriver_of_clientStep inside taken held
  | shutdown action => exact inDriver_of_shutdownStep inside taken held

/-! ### A thread can go on -/

/-- With the mutex free, a worker that has not exited can take a step. -/
theorem exists_workerStep (setup : Setup) {system : System}
    (flagged : system.impl.shuttingDown = true) (free : system.driverMutex = none)
    (busy : system.worker ≠ .exited) :
    ∃ action, (workerStep setup action system).isSome = true := by
  cases position : system.worker with
  | exited => exact absurd position busy
  | waiting => exact ⟨.dequeue, by simp [workerStep, position, Impl.workerWakes, flagged]⟩
  | dequeued => exact ⟨.copySnapshot, by simp [workerStep, position]⟩
  | copied => exact ⟨.sampleClock, by simp [workerStep, position]⟩
  | leaseSampled => exact ⟨.checkLease, by simp [workerStep, position]⟩
  | validated => exact ⟨.checkProgram, by simp [workerStep, position]⟩
  | ready record evidence result =>
      refine ⟨.callBegins, ?_⟩
      simp only [workerStep, position, free]
      cases result.ok with
      | false => rfl
      | true => cases execute record.request <;> rfl
  | executing => exact ⟨.callReturns (.returned Status.Ok), by simp [workerStep, position]⟩
  | finished => exact ⟨.complete, by simp [workerStep, position]⟩

/-- With the mutex free, a poll thread that has not exited can take a step. -/
theorem exists_pollStep (setup : Setup) {system : System}
    (flagged : system.impl.shuttingDown = true) (free : system.driverMutex = none)
    (busy : system.poll ≠ .exited) : ∃ action, (pollStep setup action system).isSome = true := by
  cases position : system.poll with
  | exited => exact absurd position busy
  | starting => exact ⟨.check, by simp [pollStep, position]⟩
  | checked => exact ⟨.readBegins, by simp [pollStep, position, free]⟩
  | reading => exact ⟨.readReturns (.ok {}), by simp [pollStep, position]⟩
  | read => exact ⟨.publish, by simp [pollStep, position]⟩
  | sleeping => exact ⟨.wake, by simp [pollStep, position, flagged]⟩

/-- `Shutdown` can go on, or waits for a thread that has not exited. -/
theorem exists_shutdownStep {system : System} (free : system.driverMutex = none)
    (closing : system.shutdown ≠ .idle) :
    system.shutdown = .done ∨ system.worker ≠ .exited ∨ system.poll ≠ .exited ∨
      ∃ action, (shutdownStep action system).isSome = true := by
  by_cases worker : system.worker = .exited
  · by_cases poll : system.poll = .exited
    · cases position : system.shutdown with
      | idle => exact absurd position closing
      | done => exact Or.inl rfl
      | flagged =>
          exact Or.inr (Or.inr (Or.inr ⟨.stopBegins, by simp [shutdownStep, position, free]⟩))
      | stopping =>
          exact Or.inr (Or.inr (Or.inr
            ⟨.stopReturns Status.Ok, by simp [shutdownStep, position]⟩))
      | stopped stage =>
          refine Or.inr (Or.inr (Or.inr ?_))
          cases stage with
          | joiningWorker => exact ⟨.joinWorker, by simp [shutdownStep, position, worker]⟩
          | joiningPoll => exact ⟨.joinPoll, by simp [shutdownStep, position, poll]⟩
          | disconnecting => exact ⟨.disconnect, by simp [shutdownStep, position, free]⟩
          | finishing => exact ⟨.finish, by simp [shutdownStep, position]⟩
    · exact Or.inr (Or.inr (Or.inl poll))
  · exact Or.inr (Or.inl worker)

/-- A thread that is inside the driver comes back. -/
theorem exists_return (setup : Setup) {system : System} {holder : Thread}
    (inside : system.inDriver holder) (outside : ∀ thread, system.clients thread ≠ .reading) :
    ∃ action : Action, action.ofExecutor = true ∧ (step setup system action).isSome = true := by
  cases holder with
  | worker =>
      rcases inside with ⟨record, evidence, call, position⟩
      exact ⟨.worker (.callReturns (.returned Status.Ok)), rfl, by
        simp [step, workerStep, position]⟩
  | poll =>
      have position : system.poll = .reading := inside
      exact ⟨.poll (.readReturns (.ok {})), rfl, by simp [step, pollStep, position]⟩
  | client thread => exact absurd inside (outside thread)
  | shutdown =>
      have position : system.shutdown = .stopping := inside
      exact ⟨.shutdown (.stopReturns Status.Ok), rfl, by simp [step, shutdownStep, position]⟩

/-- Until `Shutdown` has returned, one of the executor's threads can take a step. -/
theorem Reachable.progress {setup : Setup} {system : System} (reached : Reachable setup system)
    (closing : system.shutdown ≠ .idle) (outside : ∀ thread, system.clients thread = .idle) :
    system.shutdown = .done ∨
      ∃ action : Action, action.ofExecutor = true ∧ (step setup system action).isSome = true := by
  have flagged := reached.consistent.flagged closing
  cases free : system.driverMutex with
  | some holder =>
      exact Or.inr (exists_return setup (reached.inDriver free) (by simp [outside]))
  | none =>
      rcases exists_shutdownStep free closing with done | busy | busy | ⟨action, enabled⟩
      · exact Or.inl done
      · rcases exists_workerStep setup flagged free busy with ⟨action, enabled⟩
        exact Or.inr ⟨.worker action, rfl, enabled⟩
      · rcases exists_pollStep setup flagged free busy with ⟨action, enabled⟩
        exact Or.inr ⟨.poll action, rfl, enabled⟩
      · exact Or.inr ⟨.shutdown action, rfl, enabled⟩

end System

end RobotManager
