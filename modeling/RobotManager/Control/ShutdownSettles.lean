import RobotManager.Control.RecordOrigins
import RobotManager.Control.Threads

/-!
# What a shutdown leaves behind

When `Shutdown` returns, both threads have exited, so every unfinished command was either
queued or the active motion, and the last section has settled it.  Nothing that runs
later changes the executor any more.
-/

namespace RobotManager

namespace Impl

/-! ### The service flags -/

section StartedOnce

variable (options : ExecutorOptions) (leases : ControlLeaseManager) (now : TimePoint) (impl : Impl)

@[simp]
theorem requestInternalStopLocked_startedOnce (reason : String) :
    (impl.requestInternalStopLocked reason now).startedOnce = impl.startedOnce := by
  unfold requestInternalStopLocked
  split <;> rfl

theorem checkLeasesLocked_startedOnce :
    (impl.checkLeasesLocked leases now).startedOnce = impl.startedOnce := by
  rcases impl.checkLeasesLocked_cases leases now with ⟨_, same⟩ | ⟨reason, same⟩ <;> simp [same]

theorem publishLocked_startedOnce (state : StatusOr RobotSnapshot) :
    (impl.publishLocked options leases state now).startedOnce = impl.startedOnce := by
  have published : (impl.publishState options state now).1.startedOnce = impl.startedOnce := by
    unfold publishState
    split
    · rfl
    · split <;> rfl
  rcases impl.publishLocked_cases options leases state now with ⟨updated, update, _, same⟩
  rw [same, checkLeasesLocked_startedOnce, ← published]
  cases update with
  | unchanged | vanished | seen | finished => rfl
  | timedOut | failed => simp

theorem dequeueLocked_startedOnce : (impl.dequeueLocked now).1.startedOnce = impl.startedOnce := by
  have dequeue := impl.dequeueLocked_cases now
  generalize (impl.dequeueLocked now).1 = after at dequeue ⊢
  generalize (impl.dequeueLocked now).2 = handed at dequeue
  cases dequeue <;> rfl

theorem completeActiveMotionLocked_startedOnce (state : CommandState) :
    (impl.completeActiveMotionLocked state now).startedOnce = impl.startedOnce := by
  unfold completeActiveMotionLocked
  split <;> rfl

theorem completeActiveProgramLocked_startedOnce :
    (impl.completeActiveProgramLocked now).startedOnce = impl.startedOnce := by
  unfold completeActiveProgramLocked
  split
  · rfl
  split
  · rfl
  · exact completeActiveMotionLocked_startedOnce now impl .stopped

theorem completeLocked_startedOnce (record : CommandRecord) (result : Status) :
    (impl.completeLocked options leases now record result).startedOnce = impl.startedOnce := by
  have completion := impl.completeLocked_cases options leases now record result
  generalize impl.completeLocked options leases now record result = after at completion ⊢
  cases completion with
  | missing | failed | activated => rfl
  | superseded | activatedWithoutLease => simp [finished, Impl.activated]
  | ordinary =>
      have ordinary := completeOrdinaryLocked_cases options leases now record
        (impl.finished record .succeeded result now)
      generalize completeOrdinaryLocked options leases now record
        (impl.finished record .succeeded result now) = after at ordinary ⊢
      cases ordinary with
      | plain | loaded | jogStarted | jogEnded => rfl
      | jogStartedWithoutLease => simp [finished]
      | stopped => exact completeActiveMotionLocked_startedOnce now _ .stopped
      | programStopped => exact completeActiveProgramLocked_startedOnce now _

theorem releaseLocked_startedOnce (leaseId clientId : String) :
    (impl.releaseLocked leaseId clientId now).startedOnce = impl.startedOnce := by
  rcases impl.releaseLocked_cases leaseId clientId now with same | same <;>
    simp [same, cancelQueuedCommandsForLeaseLocked]

theorem shutdownLocked_startedOnce (stopStatus : Status) :
    (impl.shutdownLocked stopStatus now).startedOnce = impl.startedOnce := by
  unfold shutdownLocked
  dsimp only
  split <;> rfl

end StartedOnce

/-- Whether `Shutdown` goes on after its first check. -/
def shutdownEnters (workerJoinable pollJoinable : Bool) (impl : Impl) : Bool :=
  impl.running || workerJoinable || pollJoinable

/-- An executor that has been started cannot be started again. -/
theorem start_refused {impl : Impl} (startedOnce : impl.startedOnce = true)
    (options : ExecutorOptions) (driverPresent : Bool) (connect : Status)
    (initial : StatusOr RobotSnapshot) (now : TimePoint) :
    ∃ status, impl.start options driverPresent connect initial now = .error status := by
  unfold start
  split
  · exact ⟨_, rfl⟩
  split
  · exact ⟨_, rfl⟩
  · rw [if_pos (by simp [startedOnce])]
    exact ⟨_, rfl⟩

/-! ### The last section of the shutdown -/

section ShutdownLocked

variable (stopStatus : Status) (now : TimePoint) (impl : Impl)

theorem shutdownLocked_queue : (impl.shutdownLocked stopStatus now).queue = [] := by
  unfold shutdownLocked
  dsimp only
  split <;> rfl

theorem shutdownLocked_jogActive : (impl.shutdownLocked stopStatus now).jogActive = false := by
  unfold shutdownLocked
  dsimp only
  split <;> rfl

end ShutdownLocked

/-- The last section keeps every record. -/
theorem shutdownLocked_retains {stopStatus : Status} {now : TimePoint} {impl : Impl} {id : ℕ}
    {old : CommandRecord} (found : impl.commands.lookup id = some old) :
    ∃ record, (impl.shutdownLocked stopStatus now).commands.lookup id = some record := by
  rcases (shutdownLocked_carries stopStatus now impl).kept found with ⟨record, lookup, _⟩
  exact ⟨record, lookup⟩

/-- If no command is in flight, the last section leaves terminal records only. -/
theorem Owned.shutdownLocked_terminal {impl : Impl} (owned : impl.Owned none)
    (stopStatus : Status) (now : TimePoint) {id : ℕ} {record : CommandRecord}
    (found : (impl.shutdownLocked stopStatus now).commands.lookup id = some record) :
    isTerminal record.state = true := by
  have after := owned.shutdownLocked stopStatus now
  have notQueued : record.state ≠ .queued := by
    intro queued
    have mem := WellFormed.mem_queue after.wellFormed found queued
    simp [shutdownLocked_queue] at mem
  have notRunning : record.state ≠ .running := by
    intro running
    have owner := after.runningOwned found running
    simp [shutdownLocked_activeMotionId] at owner
  cases state : record.state <;> simp_all [isTerminal]

/-- It cancels the queued commands, and the active motion gets the outcome of the Stop. -/
theorem Owned.shutdownLocked_settles {impl : Impl} (owned : impl.Owned none) (stopStatus : Status)
    (now : TimePoint) {id : ℕ} {old record : CommandRecord}
    (found : impl.commands.lookup id = some old) (unfinished : isTerminal old.state = false)
    (later : (impl.shutdownLocked stopStatus now).commands.lookup id = some record) :
    (old.state = .queued ∧ record.state = .cancelled) ∨
      (impl.activeMotionId = some id ∧
        record.state = if stopStatus.ok then .stopped else .failed) := by
  have moves := shutdownLocked_moves owned.wellFormed owned.activeStarted stopStatus now
  have terminal := owned.shutdownLocked_terminal stopStatus now later
  rcases shutdownLocked_lookup later with same | cancelled | settled
  · rw [Option.some.inj (same.symm.trans found), unfinished] at terminal
    cases terminal
  · left
    refine ⟨?_, cancelled⟩
    rcases moves.retained (owned.wellFormed.issued found) later with
      same | ⟨_, before, lookup, rewrite⟩
    · have same : impl.commands.lookup id = some record := same
      rw [Option.some.inj (same.symm.trans found), unfinished] at terminal
      cases terminal
    · have lookup : impl.commands.lookup id = some before := lookup
      obtain rfl := Option.some.inj (lookup.symm.trans found)
      rcases rewrite.state with follows | ⟨_, running⟩
      · rw [cancelled] at follows
        cases state : before.state <;> rw [state] at follows <;> first | rfl | cases follows
      · cases cancelled.symm.trans running
  · exact Or.inr settled

/-! ### After the shutdown -/

theorem cancelQueuedCommandsForLeaseLocked_empty {impl : Impl} (empty : impl.queue = [])
    (leaseId clientId : String) (now : TimePoint) :
    impl.cancelQueuedCommandsForLeaseLocked leaseId clientId now = impl := by
  unfold cancelQueuedCommandsForLeaseLocked
  simp only [empty, cancelQueued]
  rw [← empty]

/-- Without queued commands a release does nothing to an executor that no longer runs. -/
theorem releaseLocked_stopped {impl : Impl} (empty : impl.queue = [])
    (stopped : impl.running = false) (leaseId clientId : String) (now : TimePoint) :
    impl.releaseLocked leaseId clientId now = impl := by
  unfold releaseLocked
  simp [cancelQueuedCommandsForLeaseLocked_empty empty, stopped]

theorem submitLocked_shuttingDown {impl : Impl} (flagged : impl.shuttingDown = true)
    (options : ExecutorOptions) (traversal : Traversal) (request : CommandRequest)
    (now : TimePoint) : (impl.submitLocked options traversal request now).2 = impl := by
  unfold submitLocked
  rw [if_pos (by simp [flagged])]

end Impl

namespace System

open TransitionSystem

/-- What a step does to the flag of the running service and the flag of the first start. -/
structure FlagsKept (system : System) (impl : Impl) : Prop where
  running : system.impl.running = false → impl.running = false
  startedOnce : impl.startedOnce = system.impl.startedOnce

theorem Effect.flags {setup : Setup} {system : System} {action : Action} {impl : Impl}
    {next : Option CommandRecord} (effect : Effect setup system action impl next) :
    FlagsKept system impl := by
  cases effect with
  | unchanged => exact ⟨id, rfl⟩
  | flagged => exact ⟨fun _ => rfl, rfl⟩
  | dequeued =>
      exact ⟨(Impl.dequeueLocked_frame _ _).running.trans, Impl.dequeueLocked_startedOnce _ _⟩
  | completed =>
      refine ⟨fun stopped => ?_, Impl.completeLocked_startedOnce _ _ _ _ _ _⟩
      rcases Impl.completeLocked_frame _ _ _ _ _ _ with frame | ⟨_, _, frame⟩ <;>
        exact frame.running.trans stopped
  | published =>
      exact ⟨(Impl.publishLocked_frame _ _ _ _ _).running.trans,
        Impl.publishLocked_startedOnce _ _ _ _ _⟩
  | @submitted _ _ request evidence traversal position =>
      rcases Impl.submitLocked_eq setup.options traversal request system.now system.impl with
        ⟨_, _, _, _, eq⟩
      rw [eq]
      exact ⟨id, rfl⟩
  | released =>
      exact ⟨(Impl.releaseLocked_frame _ _ _ _).running.trans,
        Impl.releaseLocked_startedOnce _ _ _ _⟩
  | settled =>
      exact ⟨(Impl.shutdownLocked_frame _ _ _).running.trans,
        Impl.shutdownLocked_startedOnce _ _ _⟩

/-- How far the shutdown has got, and what holds since then. -/
structure WindingDown (system : System) : Prop where
  startedOnce : system.impl.startedOnce = true
  stopped : system.shutdown ≠ .idle → system.impl.running = false
  reported : ∀ {stage result active}, system.shutdown = .stopped stage result active →
    .shutdownStopReturned result ∈ system.events
  joined : ∀ {stage result active}, system.shutdown = .stopped stage result active →
    stage ≠ .joiningWorker → stage ≠ .joiningPoll → system.poll = .exited
  done : system.shutdown = .done → system.poll = .exited

theorem WindingDown.keep {setup : Setup} {system after : System} {action : Action}
    (winding : WindingDown system) (taken : step setup system action = some after)
    (shutdown : after.shutdown = system.shutdown)
    (poll : system.poll = .exited → after.poll = .exited) : WindingDown after := by
  have flags := (step_effect taken).flags
  refine ⟨flags.startedOnce.trans winding.startedOnce, ?_, ?_, ?_, ?_⟩ <;> rw [shutdown]
  · exact fun begun => flags.running (winding.stopped begun)
  · exact fun stopped => mem_events_of_step taken (winding.reported stopped)
  · exact fun stopped late later => poll (winding.joined stopped late later)
  · exact fun done => poll (winding.done done)

theorem WindingDown.shutdownStep {setup : Setup} {system after : System} {action : ShutdownAction}
    (winding : WindingDown system)
    (taken : step setup system (.shutdown action) = some after) : WindingDown after := by
  have flags := (step_effect taken).flags
  have startedOnce := flags.startedOnce.trans winding.startedOnce
  have stopped : system.shutdown ≠ .idle → after.impl.running = false :=
    fun begun => flags.running (winding.stopped begun)
  have kept : ∀ {event}, event ∈ system.events → event ∈ after.events := mem_events_of_step taken
  cases shutdownStep_cases taken with
  | begins => exact ⟨startedOnce, fun _ => rfl, by simp, by simp, by simp⟩
  | stopBegins position =>
      exact ⟨startedOnce, fun _ => stopped (by simp [position]), by simp, by simp, by simp⟩
  | stopReturns position result =>
      refine ⟨startedOnce, fun _ => stopped (by simp [position]), ?_, ?_, by simp⟩
      · rintro stage status active ⟨⟩
        exact List.mem_cons_self
      · rintro stage status active ⟨⟩ late
        exact absurd rfl late
  | joinsWorker position =>
      refine ⟨startedOnce, fun _ => stopped (by simp [position]), ?_, ?_, by simp⟩
      · rintro stage status active ⟨⟩
        exact winding.reported position
      · rintro stage status active ⟨⟩ _ later
        exact absurd rfl later
  | joinsPoll position poll =>
      refine ⟨startedOnce, fun _ => stopped (by simp [position]), ?_, fun _ _ _ => poll, by simp⟩
      rintro stage status active ⟨⟩
      exact winding.reported position
  | disconnects position =>
      refine ⟨startedOnce, fun _ => stopped (by simp [position]), ?_, ?_, by simp⟩
      · rintro stage status active ⟨⟩
        exact kept (winding.reported position)
      · exact fun _ _ _ => winding.joined position (by simp) (by simp)
  | finishes position =>
      refine ⟨startedOnce, fun _ => stopped (by simp [position]), by simp, by simp, fun _ => ?_⟩
      exact winding.joined position (by simp) (by simp)

theorem Reachable.windingDown {setup : Setup} {system : System}
    (reached : Reachable setup system) : WindingDown system := by
  refine reached.rule WindingDown (fun _ _ => ⟨rfl, by simp [started], by simp [started],
    by simp [started], by simp [started]⟩) fun {system after action} _ winding taken => ?_
  cases action with
  | advance nanoseconds =>
      apply winding.keep taken <;> cases taken
      · rfl
      · exact id
  | worker action =>
      apply winding.keep taken <;> cases workerStep_cases taken <;> first | rfl | exact id
  | poll action =>
      apply winding.keep taken
      · cases pollStep_cases taken <;> rfl
      · intro exited
        cases pollStep_cases taken with
        | skips | exits => rfl
        | checks position | readBegins position | readReturns position | publishes position
        | wakes position => cases position.symm.trans exited
  | client thread action =>
      apply winding.keep taken <;> cases clientStep_cases taken <;> first | rfl | exact id
  | shutdown action => exact winding.shutdownStep taken

/-- Once the shutdown is done, no step changes the executor's members any more. -/
theorem Reachable.impl_of_done {setup : Setup} {system after : System} {action : Action}
    (reached : Reachable setup system) (done : system.shutdown = .done)
    (empty : system.impl.queue = []) (taken : step setup system action = some after) :
    after.impl = system.impl ∧ after.shutdown = .done := by
  have consistent := reached.consistent
  have winding := reached.windingDown
  have worker := consistent.done done
  have poll := winding.done done
  cases action with
  | advance nanoseconds =>
      cases taken
      exact ⟨rfl, done⟩
  | worker action =>
      cases workerStep_cases taken with
      | exits position | dequeues position | copies position | samples position
      | validates position | checksProgram position | refuses position | lacksPayload position
      | calls position | returns position | completes position =>
          cases position.symm.trans worker
  | poll action =>
      cases pollStep_cases taken with
      | checks position | skips position | readBegins position | readReturns position
      | publishes position | exits position | wakes position => cases position.symm.trans poll
  | client thread action =>
      cases clientStep_cases taken with
      | idles | moves | returns | readBegins | readReturns => exact ⟨rfl, done⟩
      | cancels =>
          refine ⟨Impl.releaseLocked_stopped empty ?_ _ _ _, done⟩
          exact winding.stopped (by simp [done])
      | submits =>
          refine ⟨Impl.submitLocked_shuttingDown ?_ _ _ _ _, done⟩
          exact consistent.flagged (by simp [done])
  | shutdown action =>
      cases shutdownStep_cases taken with
      | begins position | stopBegins position | stopReturns position | joinsWorker position
      | joinsPoll position | disconnects position | finishes position =>
          cases position.symm.trans done

/-- When the shutdown returns, nothing is queued, active or jogging, all records are terminal, the
queued commands have been cancelled and an unfinished motion has got the outcome of the shutdown's
Stop; from then on nothing changes the executor, and it is neither started nor shut down again. -/
theorem shutdown_settles_everything {setup : Setup} {system after : System}
    (reached : Reachable setup system)
    (taken : step setup system (.shutdown .finish) = some after) :
    (after.impl.queue = [] ∧ after.impl.activeMotionId = none ∧ after.impl.jogActive = false) ∧
    (∀ id record, after.impl.commands.lookup id = some record →
      isTerminal record.state = true) ∧
    (∃ result, .shutdownStopReturned result ∈ system.events ∧
      ∀ id old, system.impl.commands.lookup id = some old → isTerminal old.state = false →
        ∃ record, after.impl.commands.lookup id = some record ∧
          ((old.state = .queued ∧ record.state = .cancelled) ∨
            (system.impl.activeMotionId = some id ∧
              record.state = if result.ok then .stopped else .failed))) ∧
    ∀ later, StepsUnder (step setup) (fun _ _ => True) after later →
      later.impl = after.impl ∧
      (∀ options driverPresent connect initial now, ∃ status,
        later.impl.start options driverPresent connect initial now = .error status) ∧
      later.impl.shutdownEnters false false = false := by
  have afterReached := reached.followed taken
  have owned := reached.owned
  cases shutdownStep_cases taken with
  | @finishes result active position =>
      have worker := reached.consistent.joined position (by simp)
      rw [worker] at owned
      refine ⟨⟨Impl.shutdownLocked_queue _ _ _, Impl.shutdownLocked_activeMotionId _ _ _,
        Impl.shutdownLocked_jogActive _ _ _⟩, fun id record found =>
          owned.shutdownLocked_terminal result system.now found,
        ⟨result, reached.windingDown.reported position, ?_⟩, ?_⟩
      · intro id old found unfinished
        have kept : ∃ record, (system.impl.shutdownLocked result system.now).commands.lookup id =
            some record := Impl.shutdownLocked_retains found
        rcases kept with ⟨record, lookup⟩
        exact ⟨record, lookup,
          owned.shutdownLocked_settles result system.now found unfinished lookup⟩
      · intro later steps
        have frozen : later.impl = system.impl.shutdownLocked result system.now ∧
            later.shutdown = .done := by
          refine steps.invariant (fun later => later.impl =
            system.impl.shutdownLocked result system.now ∧ later.shutdown = .done) afterReached
            ⟨rfl, rfl⟩ ?_
          rintro middle action next middleReached ⟨same, done⟩ _ taken
          have empty : middle.impl.queue = [] := same ▸ Impl.shutdownLocked_queue _ _ _
          rcases Reachable.impl_of_done middleReached done empty taken with ⟨unchanged, still⟩
          exact ⟨unchanged.trans same, still⟩
        have winding := Reachable.windingDown (steps.reachable afterReached)
        refine ⟨frozen.1, Impl.start_refused winding.startedOnce, ?_⟩
        simp [Impl.shutdownEnters, winding.stopped (by simp [frozen.2])]

/-- A motion is active and a command waits behind it when the executor is shut down. -/
theorem shutdown_settles_everything_active : ∃ system after, Reachable .moving system ∧
    step .moving system (.shutdown .finish) = some after ∧
    (system.impl.activeMotionId = some 1 ∧ system.impl.queue = [2]) ∧
    after.impl.queue = [] ∧ (∀ id record, after.impl.commands.lookup id = some record →
      isTerminal record.state = true) ∧
    ∀ later, StepsUnder (step .moving) (fun _ _ => True) after later →
      later.impl = after.impl := by
  rcases exists_reachable_of_execute ready_reachable
    (Schedule.startMotion ++
      Schedule.submit 0 (.plain .clearFault (firstLease 1000) "client" "clear") ++
      Schedule.stopForShutdown Status.Ok ++ Schedule.disconnect)
    (fun system => (system.impl.activeMotionId = some 1 ∧ system.impl.queue = [2]) ∧
      (step .moving system (.shutdown .finish)).isSome = true)
    (by decide) with ⟨system, reached, checked⟩
  rcases of_decide_eq_true checked with ⟨busy, finishes⟩
  rcases Option.isSome_iff_exists.mp finishes with ⟨after, taken⟩
  rcases shutdown_settles_everything reached taken with ⟨⟨empty, _⟩, terminal, _, frozen⟩
  exact ⟨system, after, reached, taken, busy, empty, terminal,
    fun later steps => (frozen later steps).1⟩

end System

end RobotManager
