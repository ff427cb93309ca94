import RobotManager.Control.Threads

/-!
# The outcome of a motion

A motion succeeds when the poll thread counts one of its readings as the end of the
motion.  Two things can go wrong with that.  The reading may be counted after a driver
call has already stopped the motion, or it may have been taken before the motion was
dispatched.  In runs without such readings a stopped motion never succeeds, and every
success rests on readings that began after the motion's own driver call had returned.
-/

namespace RobotManager

namespace Impl

/-! ### Which sections write a success -/

/-- Whether `UpdateActiveMotionLocked` would count the published snapshot as the end of the active
motion. -/
def finishesMotion (options : ExecutorOptions) (now : TimePoint) (impl : Impl) : Bool :=
  match impl.activeMotionId.bind impl.commands.lookup with
  | none => false
  | some command =>
      !command.expired now && !unsafeLifecycle impl.latestState.lifecycle &&
        !impl.latestState.paused && !showsMotion command.request.type impl.latestState &&
        (impl.activeMotionSeen ||
          elapsedAtLeast now impl.activeMotionStartedAt options.motionStartGrace)

/-- Whether publishing a poll's result ends the active motion as succeeded. -/
def readingFinishes (options : ExecutorOptions) (state : StatusOr RobotSnapshot) (now : TimePoint)
    (impl : Impl) : Bool :=
  (impl.publishState options state now).2 &&
    (impl.publishState options state now).1.finishesMotion options now

theorem updateActiveMotionLocked_of_finishes {options : ExecutorOptions} {now : TimePoint}
    {impl : Impl} {active : ℕ} (isActive : impl.activeMotionId = some active)
    (finishes : impl.finishesMotion options now = true) :
    impl.updateActiveMotionLocked options now = impl.finishActiveMotionLocked active now := by
  simp only [finishesMotion, isActive, Option.bind_some] at finishes
  split at finishes
  · cases finishes
  next command found =>
  simp only [Bool.and_eq_true, Bool.not_eq_true', showsMotion] at finishes
  rcases finishes with ⟨⟨⟨⟨live, safe⟩, unpaused⟩, idle⟩, due⟩
  simp only [updateActiveMotionLocked, isActive, found, live, safe, unpaused, Bool.false_eq_true,
    if_false]
  split
  · next program =>
    rw [if_pos program] at idle
    simp [idle]
  · next program =>
    rw [if_neg program] at idle
    simp [idle]

/-- A record succeeds in an update of the active motion only if the update finishes it. -/
theorem MotionUpdate.succeeded {options : ExecutorOptions} {now : TimePoint} {impl after : Impl}
    (update : MotionUpdate options now impl after) {id : ℕ} {old record : CommandRecord}
    (before : impl.commands.lookup id = some old) (unfinished : isTerminal old.state = false)
    (found : after.commands.lookup id = some record) (succeeded : record.state = .succeeded) :
    impl.activeMotionId = some id ∧ impl.finishesMotion options now = true := by
  -- a record that the update leaves alone has not succeeded
  have untouched : impl.commands.lookup id ≠ some record := by
    intro same
    rw [Option.some.inj (before.symm.trans same), succeeded] at unfinished
    cases unfinished
  cases update with
  | unchanged | vanished | seen => exact absurd found untouched
  | @timedOut active command isActive =>
      exfalso
      rcases lookup_of_requestInternalStopLocked _ _ _ found with kept | ⟨_, rfl⟩
      · rw [FiniteMap.lookup_modify] at kept
        split at kept
        · next same =>
          subst same
          rw [before, Option.map_some, settle_unfinished unfinished] at kept
          cases kept
          cases succeeded
        · exact untouched kept
      · cases succeeded
  | @failed active command result isActive =>
      exfalso
      rcases lookup_of_requestInternalStopLocked _ _ _ found with kept | ⟨_, rfl⟩
      · rw [FiniteMap.lookup_modify] at kept
        split at kept
        · next same =>
          subst same
          rw [before, Option.map_some, settle_unfinished unfinished] at kept
          cases kept
          cases succeeded
        · exact untouched kept
      · cases succeeded
  | @finished active command isActive stored live safe unpaused idle due =>
      have same : id = active := by
        by_contra different
        apply untouched
        simpa [finishActiveMotionLocked, different] using found
      refine ⟨same ▸ isActive, ?_⟩
      simp [finishesMotion, isActive, stored, live, safe, unpaused, idle, due]

theorem checkLeasesLocked_succeeded {leases : ControlLeaseManager} {now : TimePoint} {impl : Impl}
    {id : ℕ} {record : CommandRecord}
    (found : (impl.checkLeasesLocked leases now).commands.lookup id = some record)
    (succeeded : record.state = .succeeded) : impl.commands.lookup id = some record := by
  rcases impl.checkLeasesLocked_cases leases now with ⟨_, same⟩ | ⟨reason, same⟩ <;>
    rw [same] at found
  · exact found
  · rcases lookup_of_requestInternalStopLocked _ _ _ found with old | ⟨_, rfl⟩
    · exact old
    · cases succeeded

/-- A record succeeds in the publish-and-check section only as the active motion, and only if the
reading finishes it. -/
theorem publishLocked_succeeded {options : ExecutorOptions} {leases : ControlLeaseManager}
    {state : StatusOr RobotSnapshot} {now : TimePoint} {impl : Impl} {id : ℕ}
    {old record : CommandRecord} (before : impl.commands.lookup id = some old)
    (unfinished : isTerminal old.state = false)
    (found : (impl.publishLocked options leases state now).commands.lookup id = some record)
    (succeeded : record.state = .succeeded) :
    impl.activeMotionId = some id ∧ impl.readingFinishes options state now = true := by
  rcases impl.publishLocked_cases options leases state now with ⟨updated, update, skipped, same⟩
  rw [same] at found
  have found := checkLeasesLocked_succeeded found succeeded
  have published : (impl.publishState options state now).1.commands.lookup id = some old := by
    rw [← table_jobs, publishState_table]
    exact before
  rcases update.succeeded published unfinished found succeeded with ⟨isActive, finishes⟩
  rw [publishState_activeMotionId] at isActive
  refine ⟨isActive, ?_⟩
  cases updates : (impl.publishState options state now).2 with
  | true => simp [readingFinishes, updates, finishes]
  | false =>
      rw [skipped updates, published] at found
      rw [Option.some.inj found, succeeded] at unfinished
      cases unfinished

/-- A reading that finishes the active motion makes its record succeed. -/
theorem publishLocked_of_finishes {options : ExecutorOptions} (leases : ControlLeaseManager)
    {state : StatusOr RobotSnapshot} {now : TimePoint} {impl : Impl} {id : ℕ}
    {old : CommandRecord} (isActive : impl.activeMotionId = some id)
    (before : impl.commands.lookup id = some old) (unfinished : isTerminal old.state = false)
    (finishes : impl.readingFinishes options state now = true) :
    ∃ record, (impl.publishLocked options leases state now).commands.lookup id = some record ∧
      record.state = .succeeded := by
  simp only [readingFinishes, Bool.and_eq_true] at finishes
  have published : (impl.publishState options state now).1.commands.lookup id = some old := by
    rw [← table_jobs, publishState_table]
    exact before
  have publishedActive : (impl.publishState options state now).1.activeMotionId = some id := by
    rw [publishState_activeMotionId]
    exact isActive
  have updated := updateActiveMotionLocked_of_finishes publishedActive finishes.2
  have found : ((impl.publishState options state now).1.updateActiveMotionLocked options
      now).commands.lookup id = some (old.settle .succeeded Status.Ok now) := by
    rw [updated]
    simp [finishActiveMotionLocked, published]
  refine ⟨old.settle .succeeded Status.Ok now, ?_, by rw [settle_unfinished unfinished]⟩
  unfold publishLocked
  simp only [finishes.1, if_true]
  rcases checkLeasesLocked_cases leases now
    ((impl.publishState options state now).1.updateActiveMotionLocked options now) with
    ⟨_, same⟩ | ⟨reason, same⟩ <;> rw [same]
  · exact found
  · exact lookup_requestInternalStopLocked found

/-! ### What a completion does to other commands -/

theorem completeActiveMotionLocked_lookup {state : CommandState} {now : TimePoint} {impl : Impl}
    {id : ℕ} {record : CommandRecord}
    (found : (impl.completeActiveMotionLocked state now).commands.lookup id = some record) :
    impl.commands.lookup id = some record ∨ record.state = state := by
  unfold completeActiveMotionLocked at found
  split at found
  · exact Or.inl found
  simp only [FiniteMap.lookup_modify] at found
  split at found
  · next same =>
    subst same
    rcases Option.map_eq_some_iff.mp found with ⟨stored, lookup, rfl⟩
    split
    · exact Or.inl lookup
    · exact Or.inr rfl
  · exact Or.inl found

theorem completeActiveProgramLocked_lookup {now : TimePoint} {impl : Impl} {id : ℕ}
    {record : CommandRecord}
    (found : (impl.completeActiveProgramLocked now).commands.lookup id = some record) :
    impl.commands.lookup id = some record ∨ record.state = .stopped := by
  unfold completeActiveProgramLocked at found
  split at found
  · exact Or.inl found
  split at found
  · exact Or.inl found
  · exact completeActiveMotionLocked_lookup found

/-- A completed command other than a motion leaves the other records alone, stops the active
motion or adds an internal stop. -/
theorem OrdinaryCompletion.lookup {options : ExecutorOptions} {now : TimePoint}
    {flight : CommandRecord} {impl after : Impl}
    (completion : OrdinaryCompletion options now flight impl after) {id : ℕ}
    {record : CommandRecord} (found : after.commands.lookup id = some record) :
    impl.commands.lookup id = some record ∨ record.state = .stopped ∨ record.state = .queued := by
  cases completion with
  | plain | loaded | jogStarted | jogEnded => exact Or.inl found
  | jogStartedWithoutLease =>
      rcases lookup_of_requestInternalStopLocked _ _ _ found with old | ⟨_, rfl⟩
      · exact Or.inl old
      · exact Or.inr (Or.inr rfl)
  | stopped => exact (completeActiveMotionLocked_lookup found).imp_right Or.inl
  | programStopped => exact (completeActiveProgramLocked_lookup found).imp_right Or.inl

theorem Completion.lookup {options : ExecutorOptions} {leases : ControlLeaseManager}
    {now : TimePoint} {flight : CommandRecord} {result : Status} {impl after : Impl}
    (completion : Completion options leases now flight result impl after) {id : ℕ}
    {record : CommandRecord} (other : id ≠ flight.id)
    (found : after.commands.lookup id = some record) :
    impl.commands.lookup id = some record ∨ record.state = .stopped ∨ record.state = .queued := by
  cases completion with
  | missing => exact Or.inl found
  | failed | activated => exact Or.inl (by simpa [finished, Impl.activated, other] using found)
  | superseded | activatedWithoutLease =>
      rcases lookup_of_requestInternalStopLocked _ _ _ found with old | ⟨_, rfl⟩
      · exact Or.inl (by simpa [finished, Impl.activated, other] using old)
      · exact Or.inr (Or.inr rfl)
  | ordinary =>
      refine ((completeOrdinaryLocked_cases options leases now flight _).lookup found).imp_left ?_
      intro kept
      simpa [finished, other] using kept

end Impl

/-- Only a running command succeeds. -/
theorem CommandRecord.Rewrite.running_of_succeeded {before after : CommandRecord}
    (rewrite : before.Rewrite after) (succeeded : after.state = .succeeded) :
    before.state = .running := by
  rcases rewrite.state with follows | ⟨running, _⟩
  · rw [succeeded] at follows
    generalize before.state = state at follows ⊢
    cases follows
    rfl
  · exact running

/-- Sections that write queued records only make none of the old ones succeed. -/
theorem Impl.WellFormed.not_succeeded {impl after : Impl} {targets : Set ℕ}
    (wellFormed : impl.WellFormed) (moves : Impl.Moves impl.table targets after.table)
    (queued : ∀ id ∈ targets, id ∈ impl.queue) {id : ℕ} {old record : CommandRecord}
    (before : impl.commands.lookup id = some old) (unfinished : isTerminal old.state = false)
    (found : after.commands.lookup id = some record) : record.state ≠ .succeeded := by
  intro succeeded
  rcases moves.retained (wellFormed.issued before) found with
    same | ⟨target, stored, lookup, rewrite⟩
  · rw [Option.some.inj (before.symm.trans same), succeeded] at unfinished
    cases unfinished
  · have running := rewrite.running_of_succeeded succeeded
    rcases wellFormed.queued (queued id target) with ⟨waiting, waits, waitingQueued⟩
    obtain rfl := Option.some.inj (waits.symm.trans lookup)
    cases waitingQueued.symm.trans running

namespace System

/-- A command succeeds in a step only when the worker completes it or when the poll thread counts
its reading as the end of the active motion. -/
theorem Effect.succeeded {setup : Setup} {system : System} {action : Action}
    {impl : Impl} {next : Option CommandRecord} (effect : Effect setup system action impl next)
    (owned : system.impl.Owned system.worker.inFlight) {id : ℕ} {old record : CommandRecord}
    (before : system.impl.commands.lookup id = some old)
    (unfinished : isTerminal old.state = false) (found : impl.commands.lookup id = some record)
    (succeeded : record.state = .succeeded) :
    (∃ flight, system.worker.inFlight = some flight ∧ flight.id = id) ∨
      (action = .poll .publish ∧ ∃ state, system.poll = .read state ∧
        system.impl.activeMotionId = some id ∧
        system.impl.readingFinishes setup.options state system.now = true) := by
  have wellFormed := owned.wellFormed
  have untouched : system.impl.commands.lookup id ≠ some record := by
    intro same
    rw [Option.some.inj (before.symm.trans same), succeeded] at unfinished
    cases unfinished
  cases effect with
  | unchanged | flagged => exact absurd found untouched
  | dequeued =>
      refine absurd succeeded (wellFormed.not_succeeded
        (Impl.dequeueLocked_moves wellFormed system.now) ?_ before unfinished found)
      exact fun id executable => List.mem_of_find?_eq_some executable
  | @completed flight result position =>
      left
      refine ⟨flight, by rw [position]; rfl, ?_⟩
      by_contra other
      have completion := Impl.completeLocked_cases setup.options system.leases system.now flight
        result system.impl
      rcases completion.lookup (Ne.symm other) found with same | stopped | queued
      · exact untouched same
      · cases stopped.symm.trans succeeded
      · cases queued.symm.trans succeeded
  | @published state position =>
      right
      rcases Impl.publishLocked_succeeded before unfinished found succeeded with
        ⟨isActive, finishes⟩
      exact ⟨rfl, state, position, isActive, finishes⟩
  | submitted =>
      exact absurd succeeded (wellFormed.not_succeeded
        (Impl.submitLocked_moves wellFormed _ _ _ _) (fun id target => target.1) before unfinished
        found)
  | released =>
      exact absurd succeeded (wellFormed.not_succeeded
        (Impl.releaseLocked_moves wellFormed _ _ _) (fun id target => target.1) before unfinished
        found)
  | settled =>
      exfalso
      rcases Impl.shutdownLocked_lookup found with same | cancelled | ⟨_, ended⟩
      · exact untouched same
      · cases cancelled.symm.trans succeeded
      · rw [succeeded] at ended
        split at ended <;> cases ended

end System

/-! ### Stopped motions -/

/-- Whether a driver call ends a motion command of the given type. -/
def DriverCall.stopsMotion (motion : CommandType) : DriverCall → Bool
  | .stop _ | .powerOff => true
  | .stopProgram => motion == .startProgram
  | _ => false

/-- Whether the worker is inside a driver call that ends a motion command of the given type. -/
def WorkerPc.stopsMotion (motion : CommandType) : WorkerPc → Bool
  | .executing _ _ call => call.stopsMotion motion
  | _ => false

theorem execute_stopsMotion {request : CommandRequest} {call : DriverCall} {motion : CommandType}
    (executed : execute request = .ok call) (stops : call.stopsMotion motion = true) :
    request.type = .stop ∨ request.type = .powerOff ∨
      (request.type = .stopProgram ∧ motion = .startProgram) := by
  unfold execute at executed
  split at executed <;> cases executed <;> simp_all [DriverCall.stopsMotion]

theorem Impl.completeActiveProgramLocked_ends {impl : Impl} {now : TimePoint} {id : ℕ}
    {stored : CommandRecord} (found : impl.commands.lookup id = some stored)
    (program : stored.request.type = .startProgram) :
    (impl.completeActiveProgramLocked now).activeMotionId ≠ some id := by
  intro isActive
  unfold completeActiveProgramLocked at isActive
  split at isActive
  · next untracked =>
    simp [isActive, found] at untracked
  next active tracked =>
  split at isActive
  · next other =>
    simp only [isActive, Option.bind_some, found, Option.some.injEq] at tracked
    exact other (tracked ▸ program)
  · simp [completeActiveMotionLocked_activeMotionId] at isActive

/-- Completing a command whose call has stopped the active motion ends its tracking. -/
theorem Impl.Owned.completeLocked_stops {impl : Impl} {flight : CommandRecord}
    (owned : impl.Owned (some flight)) (options : ExecutorOptions) (leases : ControlLeaseManager)
    (now : TimePoint) {result : Status} (ok : result.ok = true) {call : DriverCall} {id : ℕ}
    {stored : CommandRecord} (found : impl.commands.lookup id = some stored)
    (isActive : impl.activeMotionId = some id) (executed : execute flight.request = .ok call)
    (stops : call.stopsMotion stored.request.type = true) :
    (impl.completeLocked options leases now flight result).activeMotionId ≠ some id := by
  have type := execute_stopsMotion executed stops
  have notMotion : isMotionCommand flight.request.type = false := by
    rcases type with type | type | ⟨type, _⟩ <;> rw [type] <;> rfl
  have completion := impl.completeLocked_cases options leases now flight result
  generalize impl.completeLocked options leases now flight result = after at completion ⊢
  cases completion with
  | missing absent =>
      rcases owned.flying rfl with ⟨_, lookup, _⟩
      cases absent.symm.trans lookup
  | failed notOk => cases notOk.symm.trans ok
  | superseded motion | activated _ motion | activatedWithoutLease _ motion =>
      cases notMotion.symm.trans motion
  | ordinary =>
      have ordinary := completeOrdinaryLocked_cases options leases now flight
        (impl.finished flight .succeeded result now)
      generalize completeOrdinaryLocked options leases now flight
        (impl.finished flight .succeeded result now) = after at ordinary ⊢
      cases ordinary with
      | plain other => simp [other] at type
      | loaded other | jogStarted other | jogStartedWithoutLease other | jogEnded other =>
          simp [other] at type
      | stopped =>
          intro stillActive
          have none :=
            (impl.finished flight .succeeded result now).completeActiveMotionLocked_activeMotionId
            .stopped now
          cases none.symm.trans stillActive
      | programStopped other =>
          have program : stored.request.type = .startProgram := by simpa [other] using type
          have different : id ≠ flight.id := fun same =>
            owned.active_ne_flight (isActive.trans (congrArg some same))
          have kept : (impl.finished flight .succeeded result now).commands.lookup id =
              some stored := by simpa [Impl.finished, different] using found
          exact completeActiveProgramLocked_ends kept program

namespace System

open TransitionSystem

/-- A step in which a driver call that ends a motion of the given type returns OK. -/
inductive Acknowledges (system : System) (motion : CommandType) : Action → Prop where
  | worker {status : Status} (stops : system.worker.stopsMotion motion = true)
      (ok : status.ok = true) :
      Acknowledges system motion (.worker (.callReturns (.returned status)))
  | shutdown {status : Status} (position : system.shutdown = .stopping) (ok : status.ok = true) :
      Acknowledges system motion (.shutdown (.stopReturns status))

/-- The driver has stopped the active motion, and the section that records this is still to come:
the worker's completion of the stopping command, or the last section of the shutdown. -/
inductive StopAcknowledged (system : System) (id : ℕ) (motion : CommandType) : Prop where
  | worker {record : CommandRecord} {result : Status} {call : DriverCall}
      (position : system.worker = .finished record result) (ok : result.ok = true)
      (executed : execute record.request = .ok call) (stops : call.stopsMotion motion = true)
  | shutdown {stage : ShutdownStage} {result : Status}
      (position : system.shutdown = .stopped stage result (some id)) (ok : result.ok = true)

/-- The poll thread counts its reading as the end of a motion which the driver has stopped. -/
inductive FinishesStopped (setup : Setup) (id : ℕ) (system : System) : Action → Prop where
  | publishes {state : StatusOr RobotSnapshot} {record : CommandRecord}
      (position : system.poll = .read state) (isActive : system.impl.activeMotionId = some id)
      (found : system.impl.commands.lookup id = some record)
      (unfinished : isTerminal record.state = false)
      (stopped : StopAcknowledged system id record.request.type)
      (finishes : system.impl.readingFinishes setup.options state system.now = true) :
      FinishesStopped setup id system (.poll .publish)

/-- The motion has been stopped by the driver: it has ended other than by success, or it is still
active and its end is about to be recorded. -/
structure StoppedByDriver (id : ℕ) (motion : CommandType) (system : System) : Prop where
  issued : id < system.impl.nextCommandId
  record : ∀ record, system.impl.commands.lookup id = some record →
    record.request.type = motion ∧
      (record.state = .stopped ∨ record.state = .timedOut ∨ record.state = .failed ∨
        (record.state = .running ∧ system.impl.activeMotionId = some id ∧
          StopAcknowledged system id motion))

/-- What a step hands to the worker was queued before it. -/
theorem Effect.flight {setup : Setup} {system : System} {action : Action}
    {impl : Impl} {next : Option CommandRecord} (effect : Effect setup system action impl next)
    (owned : system.impl.Owned system.worker.inFlight) {flight : CommandRecord}
    (flying : next = some flight) :
    system.worker.inFlight = some flight ∨ flight.id ∈ system.impl.queue := by
  cases effect with
  | unchanged | published | submitted | released | flagged | settled => exact Or.inl flying
  | completed => cases flying
  | dequeued =>
      rcases Impl.dequeueLocked_handed flying with ⟨id, command, executable, found, _, rfl⟩
      right
      rw [show command.id = id from owned.wellFormed.ident_eq found]
      exact List.mem_of_find?_eq_some executable

/-- The acknowledgement lasts until it is recorded, which ends the motion's tracking. -/
theorem StopAcknowledged.keep {setup : Setup} {system after : System} {action : Action} {id : ℕ}
    {stored : CommandRecord}
    (acknowledged : StopAcknowledged system id stored.request.type)
    (owned : system.impl.Owned system.worker.inFlight)
    (taken : step setup system action = some after)
    (found : system.impl.commands.lookup id = some stored)
    (isActive : system.impl.activeMotionId = some id)
    (stillActive : after.impl.activeMotionId = some id) :
    StopAcknowledged after id stored.request.type := by
  cases acknowledged with
  | @worker record result call position ok executed stops =>
      cases action with
      | advance =>
          cases taken
          exact .worker position ok executed stops
      | worker action =>
          cases workerStep_cases taken with
          | completes completing =>
              cases position.symm.trans completing
              rw [position] at owned
              exact absurd stillActive (owned.completeLocked_stops setup.options system.leases
                system.now ok found isActive executed stops)
          | exits other | dequeues other | copies other | samples other | validates other
          | checksProgram other | refuses other | lacksPayload other | calls other
          | returns other => cases position.symm.trans other
      | poll action => cases pollStep_cases taken <;> exact .worker position ok executed stops
      | client thread action =>
          cases clientStep_cases taken <;> exact .worker position ok executed stops
      | shutdown action =>
          cases shutdownStep_cases taken <;> exact .worker position ok executed stops
  | @shutdown stage result position ok =>
      cases action with
      | advance =>
          cases taken
          exact .shutdown position ok
      | worker action => cases workerStep_cases taken <;> exact .shutdown position ok
      | poll action => cases pollStep_cases taken <;> exact .shutdown position ok
      | client thread action => cases clientStep_cases taken <;> exact .shutdown position ok
      | shutdown action =>
          cases shutdownStep_cases taken with
          | begins other | stopBegins other | stopReturns other => cases position.symm.trans other
          | joinsWorker other | joinsPoll other | disconnects other =>
              cases position.symm.trans other
              exact .shutdown rfl ok
          | finishes =>
              cases (Impl.shutdownLocked_activeMotionId _ _ _).symm.trans stillActive

theorem StoppedByDriver.keep {setup : Setup} {system after : System} {action : Action} {id : ℕ}
    {motion : CommandType} (stopped : StoppedByDriver id motion system)
    (reached : Reachable setup system) (spared : ¬FinishesStopped setup id system action)
    (taken : step setup system action = some after) : StoppedByDriver id motion after := by
  have owned := reached.owned
  rcases reached.step_moves taken with ⟨targets, _, moves⟩
  refine ⟨Nat.lt_of_lt_of_le stopped.issued moves.nextId_le, fun record found => ?_⟩
  have old : ∃ old, system.impl.commands.lookup id = some old ∧
      record.request = old.request := by
    rcases moves.retained stopped.issued found with same | ⟨_, old, lookup, rewrite⟩
    · exact ⟨record, same, rfl⟩
    · exact ⟨old, lookup, rewrite.request_eq⟩
  rcases old with ⟨old, before, request⟩
  rcases records_follow_lifecycle reached taken with ⟨follows, frozen, _, _⟩
  rcases stopped.record old before with ⟨rfl, ended⟩
  rw [request]
  refine ⟨rfl, ?_⟩
  rcases ended with state | state | state | ⟨running, isActive, acknowledged⟩
  · rw [frozen id old record before (by simp [state, isTerminal]) found]
    exact Or.inl state
  · rw [frozen id old record before (by simp [state, isTerminal]) found]
    exact Or.inr (Or.inl state)
  · rw [frozen id old record before (by simp [state, isTerminal]) found]
    exact Or.inr (Or.inr (Or.inl state))
  have unfinished : isTerminal old.state = false := by simp [running, isTerminal]
  have effect := step_effect taken
  have notSucceeded : record.state ≠ .succeeded := by
    intro succeeded
    rcases effect.succeeded owned before unfinished found succeeded with
      ⟨flight, flying, same⟩ | ⟨rfl, state, position, _, finishes⟩
    · rw [flying] at owned
      exact owned.active_ne_flight (same ▸ isActive)
    · exact spared (.publishes position isActive before unfinished acknowledged finishes)
  have still : record.state = .running → after.impl.activeMotionId = some id := by
    intro stillRunning
    rcases (reached.followed taken).owned.runningOwned found stillRunning with still | flies
    · exact still
    rcases Option.map_eq_some_iff.mp flies with ⟨flight, flying, rfl⟩
    rcases effect.flight owned flying with flew | queued
    · rw [flew] at owned
      exact absurd isActive owned.active_ne_flight
    · rcases owned.wellFormed.queued queued with ⟨waiting, waits, waitingQueued⟩
      obtain rfl := Option.some.inj (waits.symm.trans before)
      cases waitingQueued.symm.trans running
  rcases follows id old record before found with same | moved
  · have stillRunning := same.trans running
    exact Or.inr (Or.inr (Or.inr ⟨stillRunning, still stillRunning,
      acknowledged.keep owned taken before isActive (still stillRunning)⟩))
  · rw [running] at moved
    generalize record.state = state at moved notSucceeded ⊢
    cases moved with
    | succeed => exact absurd rfl notSucceeded
    | fail => exact Or.inr (Or.inr (Or.inl rfl))
    | timeOut => exact Or.inr (Or.inl rfl)
    | stop => exact Or.inl rfl

/-- The state right after the acknowledgement. -/
theorem StoppedByDriver.begins {setup : Setup} {system after : System} {action : Action} {id : ℕ}
    {motion : CommandRecord} (reached : Reachable setup system)
    (isActive : system.impl.activeMotionId = some id)
    (found : system.impl.commands.lookup id = some motion)
    (unfinished : isTerminal motion.state = false)
    (acknowledges : Acknowledges system motion.request.type action)
    (taken : step setup system action = some after) :
    StoppedByDriver id motion.request.type after := by
  have running : motion.state = .running := by
    rcases (reached.owned.active isActive found).2 with running | timedOut
    · exact running
    · simp [timedOut, isTerminal] at unfinished
  have issued := reached.owned.wellFormed.issued found
  cases acknowledges with
  | worker stops ok =>
      cases workerStep_cases taken with
      | returns position =>
          rw [position] at stops
          have executed := (reached.consistent.executing position).1
          refine ⟨issued, fun stored lookup => ?_⟩
          cases found.symm.trans lookup
          exact ⟨rfl, Or.inr (Or.inr (Or.inr ⟨running, isActive, .worker rfl ok executed stops⟩))⟩
  | shutdown position ok =>
      cases shutdownStep_cases taken with
      | stopReturns =>
          refine ⟨issued, fun stored lookup => ?_⟩
          cases found.symm.trans lookup
          have acknowledged : system.impl.activeMotionId = some id := isActive
          refine ⟨rfl, Or.inr (Or.inr (Or.inr ⟨running, isActive, ?_⟩))⟩
          exact .shutdown (by rw [acknowledged]) ok

/-- A motion which the driver has stopped is reported as stopped, timed out or failed, as long as
the poll thread does not count its reading as the end of the motion before the worker or the
shutdown has recorded the stop; where it does, the motion is reported as succeeded. -/
theorem stopped_motion_never_succeeds {setup : Setup} {system after later : System}
    {action : Action} {id : ℕ} {motion : CommandRecord} (reached : Reachable setup system)
    (isActive : system.impl.activeMotionId = some id)
    (found : system.impl.commands.lookup id = some motion)
    (unfinished : isTerminal motion.state = false)
    (acknowledges : Acknowledges system motion.request.type action)
    (taken : step setup system action = some after)
    (steps : StepsUnder (step setup)
      (fun state label => ¬FinishesStopped setup id state label) after later) :
    (∀ record, later.impl.commands.lookup id = some record → record.state ≠ .succeeded ∧
      (isTerminal record.state = true →
        record.state = .stopped ∨ record.state = .timedOut ∨ record.state = .failed)) ∧
    ∀ label last, FinishesStopped setup id later label → step setup later label = some last →
      ∃ record, last.impl.commands.lookup id = some record ∧ record.state = .succeeded := by
  have stopped : StoppedByDriver id motion.request.type later := by
    refine steps.invariant (StoppedByDriver id motion.request.type) (reached.followed taken)
      (.begins reached isActive found unfinished acknowledges taken) ?_
    intro state label next stateReached stopped spared moved
    exact stopped.keep stateReached spared moved
  refine ⟨fun record lookup => ?_, fun label last finishes moved => ?_⟩
  · rcases (stopped.record record lookup).2 with state | state | state | ⟨state, _⟩ <;>
      simp [state, isTerminal]
  · cases finishes with
    | publishes position isActive lookup unfinished _ finishes =>
        cases pollStep_cases moved with
        | publishes other =>
            cases position.symm.trans other
            exact Impl.publishLocked_of_finishes later.leases isActive lookup unfinished finishes

/-- A Stop returns OK while a motion is active, the poll thread publishes an idle reading before
the worker completes the Stop, and the motion is reported as succeeded. -/
theorem stopped_motion_succeeds : ∃ system action after later, Reachable .moving system ∧
    (system.impl.activeMotionId = some 1 ∧
      (system.impl.commands.lookup 1).map CommandRecord.state = some .running) ∧
    Acknowledges system .moveJ action ∧ step .moving system action = some after ∧
    StepsUnder (step .moving) (fun _ _ => True) after later ∧
    (later.impl.commands.lookup 1).map CommandRecord.state = some .succeeded := by
  let moving : RobotSnapshot := { RobotSnapshot.standing with moving := true }
  let idle : RobotSnapshot := .standing
  let returns : Action := .worker (.callReturns (.returned Status.Ok))
  rcases exists_reachable_of_execute ready_reachable
    (Schedule.startMotion ++ Schedule.poll (.ok moving) ++ [.advance 50000000, .poll .wake] ++
      Schedule.submit 0 (.plain .stop (firstLease 1000) "client" "stop") ++ Schedule.prepare ++
      [.worker .callBegins])
    (fun system => (system.impl.activeMotionId = some 1 ∧
      (system.impl.commands.lookup 1).map CommandRecord.state = some .running) ∧
      system.worker.stopsMotion .moveJ = true ∧
      ((step .moving system returns).bind
        (TransitionSystem.execute (step .moving) (fun _ _ => true)
          (Schedule.poll (.ok idle)))).any fun later =>
          (later.impl.commands.lookup 1).map CommandRecord.state = some .succeeded)
    (by decide) with ⟨system, reached, checked⟩
  rcases of_decide_eq_true checked with ⟨isActive, stopping, run⟩
  rcases (Option.any_eq_true _ _).mp run with ⟨later, followed, succeeded⟩
  rcases Option.bind_eq_some_iff.mp followed with ⟨after, taken, executed⟩
  exact ⟨system, returns, after, later, reached, isActive, .worker stopping rfl, taken,
    stepsUnder_of_execute (fun _ _ _ => trivial) executed, of_decide_eq_true succeeded⟩

/-- The worker completes the Stop before the poll thread publishes again. -/
theorem stopped_motion_never_succeeds_stop : ∃ system action after later,
    Reachable .moving system ∧ Acknowledges system .moveJ action ∧
    step .moving system action = some after ∧
    StepsUnder (step .moving) (fun state label => ¬FinishesStopped .moving 1 state label) after
      later ∧
    ∃ record, later.impl.commands.lookup 1 = some record ∧ isTerminal record.state = true ∧
      record.state ≠ .succeeded := by
  let returns : Action := .worker (.callReturns (.returned Status.Ok))
  rcases exists_reachable_of_execute ready_reachable
    (Schedule.startMotion ++
      Schedule.submit 0 (.plain .stop (firstLease 1000) "client" "stop") ++ Schedule.prepare ++
      [.worker .callBegins])
    (fun system => system.impl.activeMotionId = some 1 ∧
      ((system.impl.commands.lookup 1).any fun record =>
        record.request.type = .moveJ ∧ isTerminal record.state = false) = true ∧
      system.worker.stopsMotion .moveJ = true ∧
      ((step .moving system returns).bind
        (TransitionSystem.execute (step .moving) (fun _ label => !label.publishes)
          [.worker .complete])).any fun later =>
            (later.impl.commands.lookup 1).any fun record => isTerminal record.state)
    (by decide) with ⟨system, reached, checked⟩
  rcases of_decide_eq_true checked with ⟨isActive, motion, stopping, run⟩
  rcases (Option.any_eq_true _ _).mp motion with ⟨record, found, kind⟩
  rcases of_decide_eq_true kind with ⟨type, unfinished⟩
  rcases (Option.any_eq_true _ _).mp run with ⟨later, followed, ended⟩
  rcases (Option.any_eq_true _ _).mp ended with ⟨last, lookup, terminal⟩
  rcases Option.bind_eq_some_iff.mp followed with ⟨after, taken, executed⟩
  have steps : StepsUnder (step .moving)
      (fun state label => ¬FinishesStopped .moving 1 state label) after later := by
    refine stepsUnder_of_execute ?_ executed
    rintro state label checked ⟨⟩
    cases checked
  have acknowledges : Acknowledges system record.request.type returns :=
    .worker (by rw [type]; exact stopping) rfl
  have outcome := (stopped_motion_never_succeeds reached isActive found unfinished acknowledges
    taken steps).1 last lookup
  exact ⟨system, returns, after, later, reached, type ▸ acknowledges, taken, steps, last, lookup,
    terminal, outcome.1⟩

end System

end RobotManager
