import RobotManager.Control.Threads

/-!
# Watchdogs

The poll thread answers a dangerous motion or jog by requesting an internal Stop, unless
`stop_requested_` says that one is already under way.  That flag is honest as long as no
step discards the last pending Stop; under this condition every danger that a poll
iteration finds has a Stop queued or in flight.
-/

namespace RobotManager

namespace Impl

/-- A Stop other than the given command is in the queue. -/
def OtherStopQueued (impl : Impl) (id : ℕ) : Prop :=
  ∃ other ∈ impl.queue, other ≠ id ∧ ∃ record, impl.commands.lookup other = some record ∧
    record.request.type = .stop

/-- A Stop is in the queue. -/
def StopQueued (impl : Impl) : Prop :=
  ∃ id ∈ impl.queue, ∃ record, impl.commands.lookup id = some record ∧
    record.request.type = .stop

/-- A Stop is in the queue or is the command the worker is executing. -/
def StopPending (impl : Impl) (inFlight : Option CommandRecord) : Prop :=
  impl.StopQueued ∨ ∃ record, inFlight = some record ∧ record.request.type = .stop

/-- The flag that suppresses internal stops is honest, and it is set for as long as a motion that
has timed out is active. -/
structure Guarded (impl : Impl) (inFlight : Option CommandRecord) : Prop where
  pending : impl.stopRequested = true → impl.StopPending inFlight
  timedOut : ∀ {active record}, impl.activeMotionId = some active →
    impl.commands.lookup active = some record → record.state = .timedOut →
    impl.stopRequested = true

section Moves

variable {impl after : Impl} {inFlight : Option CommandRecord} {targets : Set ℕ}

/-- A queued command which is not among the targets stays queued. -/
theorem WellFormed.queued_kept (wellFormed : impl.WellFormed)
    (moves : Moves impl.table targets after.table) {id : ℕ} {record : CommandRecord}
    (mem : id ∈ impl.queue) (found : impl.commands.lookup id = some record)
    (untouched : id ∉ targets) :
    id ∈ after.queue ∧ after.commands.lookup id = some record := by
  rcases wellFormed.queued mem with ⟨stored, lookup, queued⟩
  obtain rfl := Option.some.inj (lookup.symm.trans found)
  have waiting := CommandRecord.phase_waiting_iff.mpr queued
  have kept : after.commands.lookup id = some stored :=
    moves.unfinished_kept wellFormed untouched found fun finished => by
      cases waiting.symm.trans finished
  have afterWellFormed : after.WellFormed := moves.wellFormed wellFormed
  exact ⟨afterWellFormed.mem_queue kept queued, kept⟩

theorem StopQueued.moves (stop : impl.StopQueued) (wellFormed : impl.WellFormed)
    (moves : Moves impl.table targets after.table)
    (spared : ∀ id ∈ targets, ∀ record, impl.commands.lookup id = some record →
      record.state = .queued → record.request.type ≠ .stop) : after.StopQueued := by
  rcases stop with ⟨id, mem, record, found, type⟩
  have untouched : id ∉ targets := by
    intro target
    rcases wellFormed.queued mem with ⟨stored, lookup, queued⟩
    obtain rfl := Option.some.inj (lookup.symm.trans found)
    exact spared id target stored found queued type
  rcases wellFormed.queued_kept moves mem found untouched with ⟨stillQueued, kept⟩
  exact ⟨id, stillQueued, record, kept, type⟩

theorem StopPending.moves (pending : impl.StopPending inFlight) (wellFormed : impl.WellFormed)
    (moves : Moves impl.table targets after.table)
    (spared : ∀ id ∈ targets, ∀ record, impl.commands.lookup id = some record →
      record.state = .queued → record.request.type ≠ .stop) : after.StopPending inFlight := by
  rcases pending with stop | flight
  · exact Or.inl (stop.moves wellFormed moves spared)
  · exact Or.inr flight

theorem requestInternalStopLocked_queued (wellFormed : impl.WellFormed)
    (unrequested : impl.stopRequested = false) (reason : String) (now : TimePoint) :
    (impl.requestInternalStopLocked reason now).StopQueued := by
  refine ⟨impl.nextCommandId, ?_, internalStop impl.nextCommandId reason now, ?_, rfl⟩
  · simp [requestInternalStopLocked, unrequested]
  · simp [requestInternalStopLocked, unrequested,
      FiniteMap.emplace_of_lookup_none _ wellFormed.lookup_nextCommandId]

/-- After a request a Stop is pending, if the flag was honest. -/
theorem guarded_requestInternalStopLocked (wellFormed : impl.WellFormed)
    (pending : impl.stopRequested = true → impl.StopPending inFlight) (reason : String)
    (now : TimePoint) : Guarded (impl.requestInternalStopLocked reason now) inFlight := by
  refine ⟨fun _ => ?_, by simp⟩
  cases requested : impl.stopRequested with
  | true => simpa [requestInternalStopLocked, requested] using pending requested
  | false => exact Or.inl (requestInternalStopLocked_queued wellFormed requested reason now)

end Moves

namespace Guarded

variable {impl after : Impl} {inFlight : Option CommandRecord} {targets : Set ℕ}

/-- Without an active motion and with the flag cleared there is nothing to guard. -/
theorem idle (unrequested : impl.stopRequested = false) (inactive : impl.activeMotionId = none) :
    Guarded impl inFlight := by
  refine ⟨?_, ?_⟩
  · simp [unrequested]
  · simp [inactive]

theorem congr (guarded : Guarded impl inFlight) (table : after.table = impl.table)
    (active : after.activeMotionId = impl.activeMotionId)
    (flag : after.stopRequested = impl.stopRequested) : Guarded after inFlight := by
  have lookup : ∀ id, after.commands.lookup id = impl.commands.lookup id := fun id =>
    congrFun (congrArg JobTable.jobs table) id
  have queue : after.queue = impl.queue := congrArg JobTable.queue table
  refine ⟨fun requested => ?_, ?_⟩
  · simpa [StopPending, StopQueued, lookup, queue] using guarded.pending (flag ▸ requested)
  · intro active' record isActive found timedOut
    rw [flag]
    exact guarded.timedOut (active ▸ isActive) (lookup active' ▸ found) timedOut

/-- Moves that spare the stops and the active motion keep the guard. -/
theorem moves (guarded : Guarded impl inFlight) (owned : Owned impl inFlight)
    (moves : Moves impl.table targets after.table)
    (spared : ∀ id ∈ targets, ∀ record, impl.commands.lookup id = some record →
      record.state = .queued → record.request.type ≠ .stop)
    (apart : ∀ id ∈ targets, impl.activeMotionId ≠ some id)
    (active : after.activeMotionId = impl.activeMotionId)
    (flag : after.stopRequested = impl.stopRequested) : Guarded after inFlight := by
  refine ⟨fun requested => ?_, ?_⟩
  · exact (guarded.pending (flag ▸ requested)).moves owned.wellFormed moves spared
  · intro id record isActive found timedOut
    rw [active] at isActive
    rw [flag]
    rcases moves.retained (owned.activeIssued isActive) found with same | ⟨target, _⟩
    · exact guarded.timedOut isActive same timedOut
    · exact absurd isActive (apart id target)

/-! ### The poll thread -/

theorem motionUpdate (guarded : Guarded impl inFlight) (owned : Owned impl inFlight)
    {options : ExecutorOptions} {now : TimePoint} (update : MotionUpdate options now impl after) :
    Guarded after inFlight := by
  have started : impl.ActiveStarted := owned.activeStarted
  have spared : ∀ id ∈ {id | impl.activeMotionId = some id}, ∀ record,
      impl.commands.lookup id = some record → record.state = .queued →
      record.request.type ≠ .stop :=
    fun id isActive record found queued => absurd queued (started isActive found)
  cases update with
  | unchanged => exact guarded
  | seen => exact guarded.congr rfl rfl rfl
  | vanished => exact ⟨guarded.pending, by simp⟩
  | timedOut isActive =>
      have moves := settleActive_moves .timedOut
        ⟨.deadlineExceeded, "motion command timed out", 0⟩ now started isActive .timeOut (by simp)
      exact guarded_requestInternalStopLocked (moves.wellFormed owned.wellFormed)
        (fun requested => (guarded.pending requested).moves owned.wellFormed moves spared) _ now
  | @failed active command result isActive found danger notOk =>
      have moves := settleActive_moves .failed result now started isActive .fail (by simp [notOk])
      have stopping := guarded_requestInternalStopLocked (moves.wellFormed owned.wellFormed)
        (fun requested => (guarded.pending requested).moves owned.wellFormed moves spared)
        "robot state became unsafe" now
      exact ⟨stopping.pending, by simp⟩
  | finished => exact idle rfl rfl

theorem checkLeasesLocked (guarded : Guarded impl inFlight) (wellFormed : impl.WellFormed)
    (leases : ControlLeaseManager) (now : TimePoint) :
    Guarded (impl.checkLeasesLocked leases now) inFlight := by
  rcases impl.checkLeasesLocked_cases leases now with ⟨_, same⟩ | ⟨reason, same⟩ <;> rw [same]
  · exact guarded
  · exact guarded_requestInternalStopLocked wellFormed guarded.pending reason now

/-! ### The worker -/

theorem dequeueLocked (guarded : Guarded impl none) (owned : Owned impl none) (now : TimePoint)
    (spares : ∀ {id command}, impl.stopRequested = true →
      impl.findExecutableCommandLocked = some id → impl.commands.lookup id = some command →
      command.request.type = .stop → command.expired now = true → impl.OtherStopQueued id) :
    Guarded (impl.dequeueLocked now).1 (impl.dequeueLocked now).2 := by
  have moves := dequeueLocked_moves owned.wellFormed now
  have dequeue := impl.dequeueLocked_cases now
  generalize (impl.dequeueLocked now).1 = after at dequeue moves ⊢
  generalize (impl.dequeueLocked now).2 = handed at dequeue ⊢
  -- an active motion is not queued, so its record is the one it had
  have timedOut : after.activeMotionId = impl.activeMotionId →
      after.stopRequested = impl.stopRequested → ∀ {active record},
      after.activeMotionId = some active → after.commands.lookup active = some record →
      record.state = .timedOut → after.stopRequested = true := by
    intro active flag id record isActive found state
    rw [active] at isActive
    rw [flag]
    rcases moves.retained (owned.activeIssued isActive) found with same | ⟨target, _, lookup, _⟩
    · exact guarded.timedOut isActive same state
    · rcases owned.wellFormed.queued (List.mem_of_find?_eq_some target) with
        ⟨stored, storedLookup, queued⟩
      exact absurd queued (owned.activeStarted isActive storedLookup)
  have kept : ∀ {id other record}, impl.findExecutableCommandLocked = some id →
      other ∈ impl.queue → other ≠ id → impl.commands.lookup other = some record →
      record.request.type = .stop → after.StopQueued := by
    intro id other record executable mem different found type
    have untouched : other ∉ {id | impl.findExecutableCommandLocked = some id} := fun target =>
      different (Option.some.inj (target.symm.trans executable))
    rcases owned.wellFormed.queued_kept moves mem found untouched with ⟨stillQueued, lookup⟩
    exact ⟨other, stillQueued, record, lookup, type⟩
  cases dequeue with
  | nothing => exact guarded
  | @vanished id front back executable queue absent =>
      rcases owned.wellFormed.queued (List.mem_of_find?_eq_some executable) with ⟨_, found, _⟩
      cases absent.symm.trans found
  | @expired id front back command executable queue found expired =>
      refine ⟨fun requested => Or.inl ?_, timedOut rfl rfl⟩
      rcases guarded.pending requested with ⟨other, mem, record, lookup, type⟩ | ⟨_, flight, _⟩
      · by_cases same : other = id
        · subst same
          obtain rfl := Option.some.inj (lookup.symm.trans found)
          rcases spares requested executable found type expired with
            ⟨another, anotherMem, different, stop, stopLookup, stopType⟩
          exact kept executable anotherMem different stopLookup stopType
        · exact kept executable mem same lookup type
      · cases flight
  | @started id front back command executable queue found live =>
      refine ⟨fun requested => ?_, timedOut rfl rfl⟩
      rcases guarded.pending requested with ⟨other, mem, record, lookup, type⟩ | ⟨_, flight, _⟩
      · by_cases same : other = id
        · subst same
          obtain rfl := Option.some.inj (lookup.symm.trans found)
          exact Or.inr ⟨_, rfl, type⟩
        · exact Or.inl (kept executable mem same lookup type)
      · cases flight

/-- The command in flight ends, and it was not the last pending Stop. -/
theorem finished {record : CommandRecord} (guarded : Guarded impl (some record))
    (owned : Owned impl (some record)) {state : CommandState} {result : Status} {now : TimePoint}
    (moves : Moves impl.table {record.id} (impl.finished record state result now).table)
    (spares : impl.stopRequested = true → record.request.type = .stop → impl.StopQueued) :
    Guarded (impl.finished record state result now) none := by
  have spared : ∀ id ∈ ({record.id} : Set ℕ), ∀ stored, impl.commands.lookup id = some stored →
      stored.state = .queued → stored.request.type ≠ .stop := by
    rintro id rfl stored found queued
    cases queued.symm.trans (owned.flightRunning found)
  refine ⟨fun requested => Or.inl ?_, ?_⟩
  · rcases guarded.pending requested with stop | ⟨flight, same, type⟩
    · exact stop.moves owned.wellFormed moves spared
    · obtain rfl := Option.some.inj same
      exact (spares requested type).moves owned.wellFormed moves spared
  · intro active stored isActive found timedOut
    have different : active ≠ record.id := fun same => owned.active_ne_flight (same ▸ isActive)
    exact guarded.timedOut isActive (by simpa [Impl.finished, different] using found) timedOut

/-- The motion in flight becomes active, which clears the flag. -/
theorem activated {record : CommandRecord} (owned : Owned impl (some record)) (result : Status)
    (now : TimePoint) : Guarded (impl.activated record result now) none := by
  refine ⟨?_, ?_⟩
  · intro requested
    cases requested
  · intro active stored isActive found timedOut
    obtain rfl : record.id = active := Option.some.inj isActive
    simp only [Impl.activated, FiniteMap.lookup_modify, if_true, Option.map_eq_some_iff] at found
    rcases found with ⟨old, lookup, rfl⟩
    have running : old.state = .running := owned.flightRunning lookup
    cases timedOut.symm.trans running

/-- After a successful program stop no motion with a record is active. -/
theorem completeActiveProgramLocked_idle (now : TimePoint)
    (target : ∀ {id stored}, impl.activeMotionId = some id → impl.commands.lookup id = some stored →
      stored.request.type = .startProgram) :
    (impl.completeActiveProgramLocked now).activeMotionId.bind
      (impl.completeActiveProgramLocked now).commands.lookup = none := by
  unfold Impl.completeActiveProgramLocked
  split
  · next none => exact none
  next active found =>
  rcases Option.bind_eq_some_iff.mp found with ⟨id, isActive, lookup⟩
  simp [target isActive lookup, completeActiveMotionLocked_activeMotionId]

theorem ordinaryCompletion {record : CommandRecord} {options : ExecutorOptions} {now : TimePoint}
    (guarded : record.request.type ≠ .stop → Guarded impl none) (wellFormed : impl.WellFormed)
    (target : record.request.type = .stopProgram → ∀ {id stored}, impl.activeMotionId = some id →
      impl.commands.lookup id = some stored → stored.request.type = .startProgram)
    (completion : OrdinaryCompletion options now record impl after) : Guarded after none := by
  cases completion with
  | plain type => exact guarded type.2.2.1
  | loaded type | jogStarted type | jogEnded type =>
      exact (guarded (by simp [type])).congr rfl rfl rfl
  | jogStartedWithoutLease type =>
      apply guarded_requestInternalStopLocked
      · exact wellFormed
      · exact (guarded (by simp [type])).pending
  | stopped => exact idle rfl (completeActiveMotionLocked_activeMotionId _ _ _)
  | programStopped type =>
      refine ⟨?_, ?_⟩
      · intro requested
        cases requested
      · intro active stored isActive found
        have none := completeActiveProgramLocked_idle now (target type)
        rw [isActive] at none
        cases none.symm.trans found

theorem completeLocked {record : CommandRecord} (guarded : Guarded impl (some record))
    (owned : Owned impl (some record)) (options : ExecutorOptions) (leases : ControlLeaseManager)
    (now : TimePoint) (result : Status)
    (spares : impl.stopRequested = true → record.request.type = .stop → result.ok = false →
      impl.StopQueued) :
    Guarded (impl.completeLocked options leases now record result) none := by
  have running : impl.FlightRunning record := owned.flightRunning
  have completion := impl.completeLocked_cases options leases now record result
  generalize impl.completeLocked options leases now record result = after at completion ⊢
  cases completion with
  | missing absent =>
      rcases owned.flying rfl with ⟨stored, found, _⟩
      cases absent.symm.trans found
  | failed notOk =>
      have moves := finished_moves .failed result running now .fail (by simp [notOk])
      exact guarded.finished owned moves fun requested type => spares requested type notOk
  | superseded motion isActive =>
      cases (owned.motionAlone rfl motion).symm.trans isActive
  | activated ok motion => exact activated owned result now
  | activatedWithoutLease ok motion =>
      have wellFormed := (owned.activated motion result now).wellFormed
      exact guarded_requestInternalStopLocked wellFormed (activated owned result now).pending _ now
  | ordinary ok =>
      have moves := finished_moves .succeeded result running now .succeed (by simp [ok])
      refine ordinaryCompletion (fun other => ?_) (moves.wellFormed owned.wellFormed) ?_
        (completeOrdinaryLocked_cases options leases now record _)
      · exact guarded.finished owned moves fun _ stop => absurd stop other
      · intro type id stored isActive found
        have different : id ≠ record.id := fun same => owned.active_ne_flight (same ▸ isActive)
        exact owned.stopProgramTarget rfl type isActive
          (by simpa [Impl.finished, different] using found)

/-! ### Clients and shutdown -/

theorem ordinaryQueued_apart (owned : Owned impl inFlight) :
    ∀ id ∈ impl.ordinaryQueued, impl.activeMotionId ≠ some id := by
  intro id target isActive
  rcases owned.wellFormed.queued target.1 with ⟨record, found, queued⟩
  exact owned.activeStarted isActive found queued

theorem submitLocked (guarded : Guarded impl inFlight) (owned : Owned impl inFlight)
    (options : ExecutorOptions) (traversal : Traversal) (request : CommandRequest)
    (now : TimePoint) : Guarded (impl.submitLocked options traversal request now).2 inFlight := by
  have moves := submitLocked_moves owned.wellFormed options traversal request now
  rcases impl.submitLocked_eq options traversal request now with ⟨_, _, _, _, eq⟩
  rw [eq] at moves ⊢
  exact guarded.moves owned moves (fun id target record found _ => target.2 record found)
    (ordinaryQueued_apart owned) rfl rfl

theorem releaseLocked (guarded : Guarded impl inFlight) (owned : Owned impl inFlight)
    (leaseId clientId : String) (now : TimePoint) :
    Guarded (impl.releaseLocked leaseId clientId now) inFlight := by
  have moves : Moves impl.table impl.ordinaryQueued
      (impl.cancelQueuedCommandsForLeaseLocked leaseId clientId now).table :=
    cancelQueued_moves leaseId clientId now impl.nextCommandId [] impl.queue impl.commands
      owned.wellFormed
  have cancelled : Guarded (impl.cancelQueuedCommandsForLeaseLocked leaseId clientId now)
      inFlight :=
    guarded.moves owned moves (fun id target record found _ => target.2 record found)
      (ordinaryQueued_apart owned) rfl rfl
  rcases impl.releaseLocked_cases leaseId clientId now with same | same <;> rw [same]
  · exact cancelled
  · exact guarded_requestInternalStopLocked (moves.wellFormed owned.wellFormed) cancelled.pending _
      now

theorem shutdownLocked (stopStatus : Status) (now : TimePoint) :
    Guarded (impl.shutdownLocked stopStatus now) inFlight :=
  idle rfl (shutdownLocked_activeMotionId stopStatus now impl)

theorem publishLocked (guarded : Guarded impl inFlight) (owned : Owned impl inFlight)
    (options : ExecutorOptions) (leases : ControlLeaseManager) (state : StatusOr RobotSnapshot)
    (now : TimePoint) : Guarded (impl.publishLocked options leases state now) inFlight := by
  have table := publishState_table options state now impl
  have active := publishState_activeMotionId options state now impl
  have published := guarded.congr table active (publishState_stopRequested options state now impl)
  have publishedOwned := owned.congr table active
  rcases impl.publishLocked_cases options leases state now with ⟨updated, update, _, same⟩
  rw [same]
  exact (published.motionUpdate publishedOwned update).checkLeasesLocked
    (publishedOwned.motionUpdate update).wellFormed leases now

end Guarded

end Impl

namespace System

open TransitionSystem

/-- A step that ends the last pending Stop without the robot having been stopped, although the
flag still promises one: the Stop expires in the queue, is refused or fails in the driver. -/
inductive DiscardsLastStop (system : System) : Action → Prop where
  | expires {id : ℕ} {command : CommandRecord} (requested : system.impl.stopRequested = true)
      (position : system.worker = .waiting) (serving : system.impl.shuttingDown = false)
      (executable : system.impl.findExecutableCommandLocked = some id)
      (found : system.impl.commands.lookup id = some command)
      (type : command.request.type = .stop) (expired : command.expired system.now = true)
      (last : ¬system.impl.OtherStopQueued id) : DiscardsLastStop system (.worker .dequeue)
  | fails {record : CommandRecord} {result : Status}
      (requested : system.impl.stopRequested = true)
      (position : system.worker = .finished record result) (type : record.request.type = .stop)
      (notOk : result.ok = false) (last : ¬system.impl.StopQueued) :
      DiscardsLastStop system (.worker .complete)

/-- The guard holds along every run in which no step discards the last pending Stop. -/
theorem ReachableUnder.guarded {setup : Setup} {system : System}
    (reached : ReachableUnder setup (fun system action => ¬DiscardsLastStop system action) system) :
    system.impl.Guarded system.worker.inFlight := by
  refine reached.invariant (fun system => system.impl.Guarded system.worker.inFlight) ?_ ?_
  · intro system initial
    rcases init_cases initial with ⟨_, snapshot, now, rfl⟩
    exact Impl.Guarded.idle rfl rfl
  intro system action after reached guarded spared taken
  have owned := Reachable.owned reached.reachable
  cases action with
  | advance nanoseconds =>
      cases taken
      exact guarded
  | worker action =>
      cases workerStep_cases taken with
      | dequeues position serving =>
          rw [position] at guarded owned
          rw [WorkerPc.inFlight_afterDequeue]
          apply guarded.dequeueLocked owned
          intro id command requested executable found type expired
          by_contra last
          exact spared (.expires requested position serving executable found type expired last)
      | @completes record result position =>
          rw [position] at guarded owned
          apply guarded.completeLocked owned
          intro requested type notOk
          by_contra last
          exact spared (.fails requested position type notOk last)
      | exits position | copies position | samples position | validates position
      | checksProgram position | refuses position | lacksPayload position | calls position
      | returns position =>
          rw [position] at guarded
          exact guarded
  | poll action =>
      cases pollStep_cases taken with
      | publishes => exact guarded.publishLocked owned _ _ _ _
      | checks | skips | exits | readBegins | readReturns | wakes => exact guarded
  | client thread action =>
      cases clientStep_cases taken with
      | cancels => exact guarded.releaseLocked owned _ _ _
      | submits => exact guarded.submitLocked owned _ _ _ _
      | idles | moves | returns | readBegins | readReturns => exact guarded
  | shutdown action =>
      cases shutdownStep_cases taken with
      | begins => exact guarded.congr rfl rfl rfl
      | finishes => exact Impl.Guarded.shutdownLocked _ _
      | stopBegins | stopReturns | joinsWorker | joinsPoll | disconnects => exact guarded

/-- What the watchdogs must answer after a poll iteration: an active motion without a valid lease
or past its timeout, a jog without heartbeat or lease, or a motion this iteration has failed. -/
def Danger (before after : System) : Prop :=
  (∃ active, after.impl.activeMotionId = some active ∧
    (after.impl.activeMotionLeaseIsValidLocked after.leases after.now = false ∨
      ∃ record, after.impl.commands.lookup active = some record ∧ record.state = .timedOut)) ∨
  (after.impl.jogActive = true ∧ (after.impl.jogDeadline ≤ after.now ∨
    after.leases.isValid after.impl.activeJogLeaseId after.impl.activeJogClientId after.now =
      false)) ∨
  ∃ active old record, before.impl.activeMotionId = some active ∧
    before.impl.commands.lookup active = some old ∧ isTerminal old.state = false ∧
    after.impl.commands.lookup active = some record ∧ record.state = .failed

end System

namespace Impl

/-- A poll iteration that leaves a danger or has just failed the active motion has set the flag. -/
theorem publishLocked_requests {impl : Impl} (options : ExecutorOptions)
    (leases : ControlLeaseManager) (state : StatusOr RobotSnapshot) (now : TimePoint) :
    ((impl.publishLocked options leases state now).watchdogDue leases now →
      (impl.publishLocked options leases state now).stopRequested = true) ∧
    ∀ {active old record}, impl.activeMotionId = some active →
      impl.commands.lookup active = some old → isTerminal old.state = false →
      (impl.publishLocked options leases state now).commands.lookup active = some record →
      record.state = .failed →
        (impl.publishLocked options leases state now).stopRequested = true := by
  have table := publishState_table options state now impl
  have lookupEq : ∀ id, (impl.publishState options state now).1.commands.lookup id =
      impl.commands.lookup id := fun id => congrFun (congrArg JobTable.jobs table) id
  have activeEq := publishState_activeMotionId options state now impl
  rcases impl.publishLocked_cases options leases state now with ⟨updated, update, _, same⟩
  rw [same]
  refine ⟨fun due => ?_, ?_⟩
  · rcases updated.checkLeasesLocked_cases leases now with ⟨fine, same⟩ | ⟨reason, same⟩
    · exact absurd (same ▸ due) fine
    · simp [same]
  intro active old record isActive found unfinished after failed
  rw [← activeEq] at isActive
  rw [← lookupEq] at found
  generalize (impl.publishState options state now).1 = published at *
  have unchecked : updated.commands.lookup active = some record ∨
      (updated.checkLeasesLocked leases now).stopRequested = true := by
    rcases updated.checkLeasesLocked_cases leases now with ⟨_, same⟩ | ⟨reason, same⟩
    · exact Or.inl (same ▸ after)
    · exact Or.inr (by simp [same])
  rcases unchecked with updatedFound | requested
  · have kept : updated.stopRequested = true →
        (updated.checkLeasesLocked leases now).stopRequested = true := by
      intro requested
      rcases updated.checkLeasesLocked_cases leases now with ⟨_, same⟩ | ⟨reason, same⟩ <;>
        simp [same, requested]
    cases update with
    | unchanged | vanished | seen =>
        obtain rfl := Option.some.inj (updatedFound.symm.trans found)
        simp [failed, isTerminal] at unfinished
    | timedOut | failed => exact kept (by simp)
    | finished isActive' =>
        obtain rfl := Option.some.inj (isActive'.symm.trans isActive)
        simp only [finishActiveMotionLocked, FiniteMap.lookup_modify, if_true, found,
          Option.map_some, Option.some.injEq] at updatedFound
        rw [← updatedFound, settle_unfinished unfinished] at failed
        cases failed
  · exact requested

/-- Once the only queued Stop has expired, none is pending. -/
theorem Dequeue.discards {now : TimePoint} {impl after : Impl} {handed : Option CommandRecord}
    (dequeue : Dequeue now impl after handed) (wellFormed : impl.WellFormed) {id : ℕ}
    {command : CommandRecord} (executable : impl.findExecutableCommandLocked = some id)
    (found : impl.commands.lookup id = some command) (expired : command.expired now = true)
    (last : ¬impl.OtherStopQueued id) :
    after.stopRequested = impl.stopRequested ∧ ¬after.StopPending handed := by
  cases dequeue with
  | nothing nothing => cases nothing.symm.trans executable
  | vanished other _ absent =>
      obtain rfl := Option.some.inj (other.symm.trans executable)
      cases absent.symm.trans found
  | started other _ otherFound live =>
      obtain rfl := Option.some.inj (other.symm.trans executable)
      obtain rfl := Option.some.inj (otherFound.symm.trans found)
      cases live.symm.trans expired
  | @expired other front back _ otherExecutable queue =>
      obtain rfl := Option.some.inj (otherExecutable.symm.trans executable)
      refine ⟨rfl, ?_⟩
      rintro (⟨stop, mem, record, lookup, type⟩ | ⟨_, flight, _⟩)
      · have nodup : (front ++ other :: back).Nodup := queue ▸ wellFormed.queueNodup
        have different : stop ≠ other := fun same =>
          (List.nodup_cons.mp (List.nodup_middle.mp nodup)).1 (same ▸ mem)
        apply last
        refine ⟨stop, ?_, different, record, by simpa [different] using lookup, type⟩
        have mem : stop ∈ front ++ back := mem
        rw [queue]
        simp only [List.mem_append, List.mem_cons] at mem ⊢
        tauto
      · cases flight

/-- Once the Stop in flight has failed and none is queued, none is pending. -/
theorem Completion.discards {options : ExecutorOptions} {leases : ControlLeaseManager}
    {now : TimePoint} {record : CommandRecord} {result : Status} {impl after : Impl}
    (completion : Completion options leases now record result impl after)
    (type : record.request.type = .stop) (notOk : result.ok = false) (last : ¬impl.StopQueued) :
    after.stopRequested = impl.stopRequested ∧ ¬after.StopPending none := by
  cases completion with
  | missing =>
      refine ⟨rfl, ?_⟩
      rintro (stop | ⟨_, flight, _⟩)
      · exact last stop
      · cases flight
  | failed =>
      refine ⟨rfl, ?_⟩
      rintro (⟨stop, mem, stored, lookup, stopType⟩ | ⟨_, flight, _⟩)
      · apply last
        simp only [finished, FiniteMap.lookup_modify] at lookup
        split at lookup
        · next same =>
          rcases Option.map_eq_some_iff.mp lookup with ⟨old, found, rfl⟩
          exact ⟨stop, mem, old, same ▸ found, stopType⟩
        · exact ⟨stop, mem, stored, lookup, stopType⟩
      · cases flight
  | superseded motion => simp [type, isMotionCommand] at motion
  | activated ok | activatedWithoutLease ok | ordinary ok => cases notOk.symm.trans ok

end Impl

namespace System

open TransitionSystem

/-- Watchdogs stay live along every run in which no step discards the last pending Stop: the flag
is honest in every state, and every danger a poll iteration leaves has a Stop on its way.  A step
that does discard it leaves the flag set without a Stop. -/
theorem watchdogs_stay_live {setup : Setup} {system : System}
    (reached : ReachableUnder setup (fun system action => ¬DiscardsLastStop system action) system) :
    (system.impl.stopRequested = true → system.impl.StopPending system.worker.inFlight) ∧
    (∀ after, step setup system (.poll .publish) = some after → Danger system after →
      after.impl.StopPending after.worker.inFlight) ∧
    ∀ action after, DiscardsLastStop system action → step setup system action = some after →
      after.impl.stopRequested = true ∧ ¬after.impl.StopPending after.worker.inFlight := by
  have guarded := reached.guarded
  refine ⟨guarded.pending, ?_, ?_⟩
  · intro after taken danger
    have afterGuarded : after.impl.Guarded after.worker.inFlight :=
      ReachableUnder.guarded (reached.next (by rintro ⟨⟩) taken)
    apply afterGuarded.pending
    cases pollStep_cases taken with
    | @publishes state position =>
        rcases system.impl.publishLocked_requests setup.options system.leases state system.now with
          ⟨due, failed⟩
        rcases danger with ⟨active, isActive, invalid | ⟨record, found, timedOut⟩⟩ | jog |
          ⟨active, old, record, isActive, oldFound, unfinished, found, state⟩
        · apply due
          exact Or.inl ⟨Option.isSome_iff_exists.mpr ⟨active, isActive⟩, invalid⟩
        · exact afterGuarded.timedOut isActive found timedOut
        · exact due (Or.inr jog)
        · exact failed isActive oldFound unfinished found state
  · intro action after discards taken
    have owned := Reachable.owned reached.reachable
    cases discards with
    | expires requested position serving executable found type expired last =>
        cases workerStep_cases taken with
        | exits _ flagged => cases serving.symm.trans flagged
        | dequeues =>
            rw [WorkerPc.inFlight_afterDequeue, ← requested]
            exact (system.impl.dequeueLocked_cases system.now).discards owned.wellFormed executable
              found expired last
    | fails requested position type notOk last =>
        cases workerStep_cases taken with
        | completes position' =>
            cases position.symm.trans position'
            rw [← requested]
            exact (Impl.completeLocked_cases _ _ _ _ _ _).discards type notOk last

/-! ### A Stop that fails -/

/-- After the lease of an active motion has been released the internal Stop fails in the driver;
the next poll finds the robot moving without a lease and requests nothing. -/
theorem watchdog_goes_dead : ∃ system after, Reachable .moving system ∧
    step .moving system (.poll .publish) = some after ∧ Danger system after ∧
    after.impl.stopRequested = true ∧ ¬after.impl.StopPending after.worker.inFlight := by
  rcases exists_reachable_of_execute ready_reachable
    (Schedule.startMotion ++ Schedule.release 0 (firstLease 1000) "client" ++
      Schedule.work (.returned ⟨.controllerFault, "stop failed", 0⟩) ++
      Schedule.read (.ok { RobotSnapshot.standing with moving := true }))
    (fun system => (step .moving system (.poll .publish)).any fun after =>
      after.impl.activeMotionId = some 1 ∧ after.impl.stopRequested = true ∧
        after.impl.activeMotionLeaseIsValidLocked after.leases after.now = false ∧
        after.impl.queue = [] ∧ after.worker.inFlight = none)
    (by decide) with ⟨system, reached, checked⟩
  rcases (Option.any_eq_true _ _).mp checked with ⟨after, taken, holds⟩
  rcases of_decide_eq_true holds with ⟨isActive, requested, invalid, queue, idle⟩
  refine ⟨system, after, reached, taken, Or.inl ⟨1, isActive, Or.inl invalid⟩, requested, ?_⟩
  rintro (⟨id, mem, _⟩ | ⟨record, flight, _⟩)
  · simp [queue] at mem
  · simp [idle] at flight

/-- A released lease whose internal Stop is still queued when the next poll publishes. -/
theorem watchdogs_stay_live_release : ∃ system after,
    ReachableUnder .moving (fun system action => ¬DiscardsLastStop system action) system ∧
      step .moving system (.poll .publish) = some after ∧ Danger system after ∧
      after.impl.StopPending after.worker.inFlight := by
  have start : ReachableUnder .moving
      (fun system action => ¬DiscardsLastStop system action) ready := ready_reachable
  have sound : ∀ (system : System) (action : Action),
      (!system.impl.stopRequested || !action.isWorkers) = true →
      ¬DiscardsLastStop system action := by
    rintro system action checked (⟨requested⟩ | ⟨requested⟩) <;>
      simp [requested, Action.isWorkers] at checked
  rcases exists_reachableUnder_of_execute start _ sound
    (Schedule.startMotion ++ Schedule.release 0 (firstLease 1000) "client" ++
      Schedule.read (.ok { RobotSnapshot.standing with moving := true }))
    (fun system => (step .moving system (.poll .publish)).any fun after =>
      after.impl.activeMotionId = some 1 ∧
        after.impl.activeMotionLeaseIsValidLocked after.leases after.now = false)
    (by decide) with ⟨system, reached, checked⟩
  rcases (Option.any_eq_true _ _).mp checked with ⟨after, taken, holds⟩
  rcases of_decide_eq_true holds with ⟨isActive, invalid⟩
  have danger : Danger system after := Or.inl ⟨1, isActive, Or.inl invalid⟩
  exact ⟨system, after, reached, taken, danger,
    (watchdogs_stay_live reached).2.1 after taken danger⟩

end System

end RobotManager
