import RobotManager.Control.Schedules

/-!
# The life of a command

Results about the command records over whole runs: none is lost, duplicated or
orphaned, each follows one lifecycle, and motions exclude each other.
-/

namespace RobotManager

/-- The command in flight whose driver call has not begun. -/
def WorkerPc.undispatched : WorkerPc → Option CommandRecord
  | .dequeued record | .copied record _ _ | .leaseSampled record _ _ _ | .validated record _ _
  | .ready record _ _ => some record
  | .executing _ _ _ | .finished _ _ | .waiting | .exited => none

@[simp]
theorem WorkerPc.undispatched_afterDequeue (handed : Option CommandRecord) :
    (WorkerPc.afterDequeue handed).undispatched = handed := by
  cases handed <;> rfl

namespace System

open TransitionSystem

/-- Every step moves the command table, writing only commands that were issued before. -/
theorem Effect.moves {setup : Setup} {system : System} {action : Action}
    {impl : Impl} {next : Option CommandRecord} (effect : Effect setup system action impl next)
    (owned : system.impl.Owned system.worker.inFlight) :
    ∃ targets, (∀ id ∈ targets, id < system.impl.nextCommandId) ∧
      Impl.Moves system.impl.table targets impl.table := by
  have queueIssued : ∀ id ∈ {id | id ∈ system.impl.queue}, id < system.impl.nextCommandId := by
    intro id mem
    rcases owned.wellFormed.queued mem with ⟨_, found, _⟩
    exact owned.wellFormed.issued found
  have activeIssued : ∀ id ∈ {id | system.impl.activeMotionId = some id},
      id < system.impl.nextCommandId := fun id isActive => owned.activeIssued isActive
  cases effect with
  | unchanged | flagged => exact ⟨∅, by simp, .refl _ _⟩
  | dequeued =>
      refine ⟨_, fun id executable => ?_, Impl.dequeueLocked_moves owned.wellFormed _⟩
      exact queueIssued id (List.mem_of_find?_eq_some executable)
  | @completed record result position =>
      rw [position] at owned
      refine ⟨_, ?_, Impl.completeLocked_moves owned.wellFormed owned.activeStarted
        owned.flightRunning owned.active_ne_flight _ _ _ _⟩
      rintro id (rfl | isActive)
      · rcases owned.flying rfl with ⟨_, found, _⟩
        exact owned.wellFormed.issued found
      · exact activeIssued id isActive
  | published =>
      exact ⟨_, activeIssued, Impl.publishLocked_moves owned.wellFormed owned.activeStarted _ _ _ _⟩
  | submitted =>
      exact ⟨_, fun id target => queueIssued id target.1,
        Impl.submitLocked_moves owned.wellFormed _ _ _ _⟩
  | released =>
      exact ⟨_, fun id target => queueIssued id target.1,
        Impl.releaseLocked_moves owned.wellFormed _ _ _⟩
  | settled =>
      refine ⟨_, ?_, Impl.shutdownLocked_moves owned.wellFormed owned.activeStarted _ _⟩
      rintro id (mem | isActive)
      · exact queueIssued id mem
      · exact activeIssued id isActive

theorem Reachable.step_moves {setup : Setup} {system after : System} {action : Action}
    (reached : Reachable setup system) (taken : step setup system action = some after) :
    ∃ targets, (∀ id ∈ targets, id < system.impl.nextCommandId) ∧
      Impl.Moves system.impl.table targets after.impl.table :=
  (step_effect taken).moves reached.owned

/-! ### Dispatch -/

/-- How often the worker has begun a driver call for a command. -/
def dispatches (id : ℕ) (events : List Event) : ℕ :=
  events.countP fun event =>
    match event with
    | .callBegan other _ => other == id
    | _ => false

/-- A dispatched command is neither queued nor waiting for its call in the worker. -/
structure DispatchedOnce (system : System) : Prop where
  once : ∀ id, dispatches id system.events ≤ 1
  past : ∀ id, 0 < dispatches id system.events → id < system.impl.nextCommandId ∧
    id ∉ system.impl.queue ∧ ∀ {record}, system.worker.undispatched = some record → record.id ≠ id

theorem dispatches_cons {id : ℕ} {event : Event} {events : List Event}
    (notCall : ∀ other call, event ≠ .callBegan other call) :
    dispatches id (event :: events) = dispatches id events := by
  rw [dispatches, List.countP_cons_of_neg]
  · rfl
  · split
    · next other call => exact absurd rfl (notCall other call)
    · simp

theorem dispatches_callBegan (id other : ℕ) (call : DriverCall) (events : List Event) :
    dispatches id (.callBegan other call :: events) =
      dispatches id events + if other = id then 1 else 0 := by
  simp [dispatches, List.countP_cons]

/-- A step that begins no call and takes nothing from the queue keeps the accounting. -/
theorem DispatchedOnce.keep {system after : System} (once : DispatchedOnce system)
    (events : ∀ id, dispatches id after.events = dispatches id system.events)
    (issued : system.impl.nextCommandId ≤ after.impl.nextCommandId)
    (queue : ∀ {id}, id ∈ after.impl.queue →
      id ∈ system.impl.queue ∨ system.impl.nextCommandId ≤ id)
    (undispatched : ∀ {record}, after.worker.undispatched = some record →
      system.worker.undispatched = some record ∨ record.id ∈ system.impl.queue) :
    DispatchedOnce after := by
  refine ⟨fun id => (events id).symm ▸ once.once id, fun id dispatched => ?_⟩
  rw [events id] at dispatched
  rcases once.past id dispatched with ⟨old, unqueued, passed⟩
  refine ⟨Nat.lt_of_lt_of_le old issued, fun mem => ?_, fun {record} pending same => ?_⟩
  · rcases queue mem with before | new
    · exact unqueued before
    · exact absurd old (Nat.not_lt.mpr new)
  · rcases undispatched pending with before | before
    · exact passed before same
    · exact unqueued (same ▸ before)

/-- What is queued after a step was queued before it or is new. -/
theorem Reachable.queue_of_step {setup : Setup} {system after : System} {action : Action}
    (reached : Reachable setup system) (taken : step setup system action = some after) {id : ℕ}
    (mem : id ∈ after.impl.queue) :
    id ∈ system.impl.queue ∨ system.impl.nextCommandId ≤ id := by
  rcases Nat.lt_or_ge id system.impl.nextCommandId with issued | unissued
  · rcases reached.step_moves taken with ⟨targets, _, moves⟩
    rcases (reached.followed taken).owned.wellFormed.queued mem with ⟨record, found, queued⟩
    rcases moves.retained issued found with same | ⟨_, before, _, rewrite⟩
    · exact Or.inl (reached.owned.wellFormed.mem_queue same queued)
    · exact absurd queued rewrite.started
  · exact Or.inr unissued

theorem Reachable.dispatchedOnce {setup : Setup} {system : System}
    (reached : Reachable setup system) : DispatchedOnce system := by
  refine reached.rule DispatchedOnce
    (fun _ _ => ⟨by simp [started, dispatches], by simp [started, dispatches]⟩)
    fun {system after action} reached once taken => ?_
  rcases reached.step_moves taken with ⟨targets, _, moves⟩
  have issued : system.impl.nextCommandId ≤ after.impl.nextCommandId := moves.nextId_le
  have queue := @Reachable.queue_of_step setup system after action reached taken
  cases action with
  | advance nanoseconds =>
      cases taken
      exact once.keep (fun _ => rfl) issued queue .inl
  | worker action =>
      cases workerStep_cases taken with
      | exits => exact once.keep (fun _ => rfl) issued queue (by simp [WorkerPc.undispatched])
      | dequeues position serving =>
          refine once.keep (fun _ => rfl) issued queue fun {record} pending => .inr ?_
          rw [WorkerPc.undispatched_afterDequeue] at pending
          rcases Impl.dequeueLocked_handed pending with ⟨id, command, executable, found, _, rfl⟩
          rw [show command.id = id from reached.owned.wellFormed.ident_eq found]
          exact List.mem_of_find?_eq_some executable
      | copies position | samples position | validates position | checksProgram position =>
          exact once.keep (fun _ => rfl) issued queue fun pending =>
            .inl (by rw [position]; exact pending)
      | refuses | lacksPayload | completes =>
          exact once.keep (fun _ => rfl) issued queue (by simp [WorkerPc.undispatched])
      | returns =>
          exact once.keep (fun _ => dispatches_cons (by simp)) issued queue
            (by simp [WorkerPc.undispatched])
      | @calls record evidence result call position ok free executed =>
          have owned := reached.owned
          rw [position] at owned
          have unqueued := owned.flight_not_queued
          rcases owned.flying rfl with ⟨stored, found, _⟩
          have undispatched : system.worker.undispatched = some record := by rw [position]; rfl
          refine ⟨fun id => ?_, fun id dispatched => ?_⟩
          · rw [dispatches_callBegan]
            split
            · next same =>
              have never : dispatches id system.events = 0 := by
                refine Nat.eq_zero_of_not_pos fun dispatched => ?_
                exact (once.past id dispatched).2.2 undispatched same
              omega
            · exact once.once id
          · rw [dispatches_callBegan] at dispatched
            refine ⟨?_, ?_, by simp [WorkerPc.undispatched]⟩ <;> split at dispatched
            · next same => exact same ▸ owned.wellFormed.issued found
            · exact (once.past id dispatched).1
            · next same => exact same ▸ unqueued
            · exact (once.past id dispatched).2.1
  | poll action =>
      cases pollStep_cases taken with
      | checks | skips | exits | readReturns | wakes =>
          exact once.keep (fun _ => rfl) issued queue .inl
      | readBegins => exact once.keep (fun _ => dispatches_cons (by simp)) issued queue .inl
      | publishes =>
          refine once.keep (fun id => ?_) issued queue .inl
          rcases seenEvents_cases system.impl _ with none | ⟨active, seen⟩
          · rw [none, List.nil_append]
          · rw [seen]
            exact dispatches_cons (by simp)
  | client thread action =>
      cases clientStep_cases taken with
      | idles | moves | readBegins | readReturns =>
          exact once.keep (fun _ => rfl) issued queue .inl
      | returns event leases quiet =>
          refine once.keep (fun _ => dispatches_cons ?_) issued queue .inl
          rintro other call rfl
          cases quiet
      | cancels | submits => exact once.keep (fun _ => dispatches_cons (by simp)) issued queue .inl
  | shutdown action =>
      cases shutdownStep_cases taken with
      | begins | joinsWorker | joinsPoll | finishes =>
          exact once.keep (fun _ => rfl) issued queue .inl
      | stopBegins | stopReturns | disconnects =>
          exact once.keep (fun _ => dispatches_cons (by simp)) issued queue .inl

/-- No command is lost, duplicated or orphaned: the queue holds exactly the queued commands, each
once, running commands are in flight or the active motion, and none is dispatched twice. -/
theorem commands_accounted {setup : Setup} {system : System} (reached : Reachable setup system) :
    system.impl.queue.Nodup ∧
      (∀ id, id ∈ system.impl.queue ↔
        ∃ record, system.impl.commands.lookup id = some record ∧ record.state = .queued) ∧
      (∀ id record, system.impl.commands.lookup id = some record → record.state = .running →
        (∃ flight, system.worker.inFlight = some flight ∧ flight.id = id) ∨
          system.impl.activeMotionId = some id) ∧
      ∀ id, dispatches id system.events ≤ 1 := by
  have owned := reached.owned
  refine ⟨owned.wellFormed.queueNodup, fun id => ⟨owned.wellFormed.queued, ?_⟩,
    fun id record found running => ?_, reached.dispatchedOnce.once⟩
  · rintro ⟨record, found, queued⟩
    exact owned.wellFormed.mem_queue found queued
  · rcases owned.runningOwned found running with isActive | flight
    · exact Or.inr isActive
    · exact Or.inl (Option.map_eq_some_iff.mp flight)

/-- A run that leaves a Stop queued beside an active motion that has been dispatched. -/
theorem commands_accounted_stop : ∃ system, Reachable .moving system ∧
    (system.impl.queue = [2] ∧ dispatches 1 system.events = 1) ∧
    (∃ record, system.impl.commands.lookup 2 = some record ∧ record.state = .queued) ∧
    ∀ id, dispatches id system.events ≤ 1 := by
  rcases exists_reachable_of_execute ready_reachable
    (Schedule.startMotion ++
      Schedule.submit 0 (.plain .stop (firstLease 1000) "client" "stop"))
    (fun system => system.impl.queue = [2] ∧ dispatches 1 system.events = 1)
    (by decide) with ⟨system, reached, checked⟩
  rcases of_decide_eq_true checked with ⟨queue, dispatched⟩
  rcases commands_accounted reached with ⟨_, queued, _, once⟩
  exact ⟨system, reached, ⟨queue, dispatched⟩, (queued 2).mp (by simp [queue]), once⟩

/-! ### One lifecycle -/

/-- What one step does to the retained records: a state changes along the lifecycle, a terminal
record is frozen, a new record is queued, and results agree with terminal states. -/
theorem records_follow_lifecycle {setup : Setup} {system after : System} {action : Action}
    (reached : Reachable setup system) (taken : step setup system action = some after) :
    (∀ id before record, system.impl.commands.lookup id = some before →
      after.impl.commands.lookup id = some record →
      record.state = before.state ∨ before.state.Follows record.state) ∧
    (∀ id before record, system.impl.commands.lookup id = some before →
      isTerminal before.state = true → after.impl.commands.lookup id = some record →
      record = before) ∧
    (∀ id record, system.impl.commands.lookup id = none →
      after.impl.commands.lookup id = some record →
      record.state = .queued ∧ system.impl.nextCommandId ≤ id) ∧
    ∀ id record, after.impl.commands.lookup id = some record →
      (record.state = .succeeded → record.result.ok = true) ∧
        (record.state = .failed ∨ record.state = .cancelled ∨ record.state = .timedOut →
          record.result.ok = false) := by
  have wellFormed := reached.owned.wellFormed
  rcases reached.step_moves taken with ⟨targets, issuedTargets, moves⟩
  refine ⟨fun id before record old found => ?_, fun id before record old terminal found => ?_,
    fun id record absent found => ?_,
    fun id record found => (reached.followed taken).owned.agrees found⟩
  · rcases moves.retained (wellFormed.issued old) found with same | ⟨_, stored, lookup, rewrite⟩
    · exact Or.inl (congrArg CommandRecord.state (Option.some.inj (same.symm.trans old)))
    · obtain rfl := Option.some.inj (lookup.symm.trans old)
      rcases rewrite.state with follows | ⟨running, stillRunning⟩
      · exact Or.inr follows
      · exact Or.inl (stillRunning.trans running.symm)
  · exact moves.finished_unchanged wellFormed old (CommandRecord.phase_finished_iff.mpr terminal)
      found
  · have unissued : system.impl.nextCommandId ≤ id := by
      refine Nat.le_of_not_lt fun issued => ?_
      rcases moves.retained issued found with same | ⟨_, stored, lookup, _⟩
      · cases absent.symm.trans same
      · cases absent.symm.trans lookup
    exact ⟨CommandRecord.phase_waiting_iff.mp
      (moves.new_waiting wellFormed issuedTargets unissued found), unissued⟩

/-- A terminal record is the same in every later state that retains it. -/
theorem Reachable.terminal_frozen {setup : Setup} {system later : System}
    (reached : Reachable setup system)
    (steps : StepsUnder (step setup) (fun _ _ => True) system later) {id : ℕ}
    {before record : CommandRecord} (old : system.impl.commands.lookup id = some before)
    (terminal : isTerminal before.state = true)
    (found : later.impl.commands.lookup id = some record) : record = before := by
  have frozen : id < later.impl.nextCommandId ∧
      ∀ record, later.impl.commands.lookup id = some record → record = before := by
    refine steps.invariant (fun later => id < later.impl.nextCommandId ∧
      ∀ record, later.impl.commands.lookup id = some record → record = before) reached
      ⟨reached.owned.wellFormed.issued old, fun record found =>
        Option.some.inj (found.symm.trans old)⟩ ?_
    intro middle action after middleReached holds _ taken
    rcases records_follow_lifecycle middleReached taken with ⟨_, terminalKept, new, _⟩
    rcases Reachable.step_moves middleReached taken with ⟨targets, _, moves⟩
    refine ⟨Nat.lt_of_lt_of_le holds.1 moves.nextId_le, fun record found => ?_⟩
    cases stored : middle.impl.commands.lookup id with
    | none => exact absurd holds.1 (Nat.not_lt.mpr (new id record stored found).2)
    | some stored' =>
        obtain rfl := holds.2 stored' stored
        exact terminalKept id _ record stored terminal found
  exact frozen.2 record found

/-- Every record follows one lifecycle, in every interleaving. -/
theorem one_lifecycle {setup : Setup} {system : System} (reached : Reachable setup system) :
    (∀ action after, step setup system action = some after →
      (∀ id before record, system.impl.commands.lookup id = some before →
        after.impl.commands.lookup id = some record →
        record.state = before.state ∨ before.state.Follows record.state) ∧
      ∀ id record, system.impl.commands.lookup id = none →
        after.impl.commands.lookup id = some record → record.state = .queued) ∧
    (∀ later, StepsUnder (step setup) (fun _ _ => True) system later →
      ∀ id before record, system.impl.commands.lookup id = some before →
        isTerminal before.state = true → later.impl.commands.lookup id = some record →
        record.state = before.state ∧ record.result = before.result) ∧
    ∀ id record, system.impl.commands.lookup id = some record →
      (record.state = .succeeded → record.result.ok = true) ∧
        (record.state = .failed ∨ record.state = .cancelled ∨ record.state = .timedOut →
          record.result.ok = false) := by
  refine ⟨fun action after taken => ?_, fun later steps id before record old terminal found => ?_,
    fun id record found => reached.owned.agrees found⟩
  · rcases records_follow_lifecycle reached taken with ⟨moved, _, new, _⟩
    exact ⟨moved, fun id record absent found => (new id record absent found).1⟩
  · rw [reached.terminal_frozen steps old terminal found]
    exact ⟨rfl, rfl⟩

/-- A motion that a Stop has ended stays stopped. -/
theorem one_lifecycle_stopped : ∃ system, Reachable .moving system ∧
    (system.impl.commands.lookup 1).map CommandRecord.state = some .stopped ∧
    ∀ later, StepsUnder (step .moving) (fun _ _ => True) system later →
      ∀ record, later.impl.commands.lookup 1 = some record → record.state = .stopped := by
  rcases exists_reachable_of_execute ready_reachable
    (Schedule.startMotion ++
      Schedule.submit 0 (.plain .stop (firstLease 1000) "client" "stop") ++
      Schedule.work (.returned Status.Ok))
    (fun system => (system.impl.commands.lookup 1).map CommandRecord.state = some .stopped)
    (by decide) with ⟨system, reached, checked⟩
  have state := of_decide_eq_true checked
  refine ⟨system, reached, state, fun later steps record found => ?_⟩
  rcases Option.map_eq_some_iff.mp state with ⟨before, old, stopped⟩
  have frozen := (one_lifecycle reached).2.1 later steps 1 before record old
    (by simp [stopped, isTerminal]) found
  exact frozen.1.trans stopped

/-! ### One motion at a time -/

/-- What the dequeue step takes from the queue is the executable command. -/
theorem executable_of_dequeue {setup : Setup} {system after : System} {id : ℕ}
    (taken : step setup system (.worker .dequeue) = some after) (queued : id ∈ system.impl.queue)
    (gone : id ∉ after.impl.queue) : system.impl.findExecutableCommandLocked = some id := by
  have only : ∀ {executable front back}, system.impl.queue = front ++ executable :: back →
      id ∉ front ++ back → executable = id := by
    intro executable front back queue absent
    simp only [queue, List.mem_append, List.mem_cons] at queued
    simp only [List.mem_append, not_or] at absent
    rcases queued with mem | same | mem
    · exact absurd mem absent.1
    · exact same.symm
    · exact absurd mem absent.2
  cases workerStep_cases taken with
  | dequeues position serving =>
      dsimp only at gone
      have dequeue := system.impl.dequeueLocked_cases system.now
      generalize (system.impl.dequeueLocked system.now).1 = impl at dequeue gone
      generalize (system.impl.dequeueLocked system.now).2 = handed at dequeue
      cases dequeue with
      | nothing => exact absurd queued gone
      | vanished executable queue | expired executable queue | started executable queue =>
          exact only queue gone ▸ executable
  | exits => exact absurd queued gone

/-- Motions exclude each other: at most one unfinished motion record exists, no motion is active
while another is in flight, and what leaves the queue beside an active motion may run with it. -/
theorem one_motion_at_a_time {setup : Setup} {system : System}
    (reached : Reachable setup system) :
    (∀ id other record otherRecord, system.impl.commands.lookup id = some record →
      system.impl.commands.lookup other = some otherRecord →
      isMotionCommand record.request.type = true → isTerminal record.state = false →
      isMotionCommand otherRecord.request.type = true → isTerminal otherRecord.state = false →
      id = other) ∧
    (∀ record, system.worker.inFlight = some record →
      isMotionCommand record.request.type = true → system.impl.activeMotionId = none) ∧
    (∀ record result, system.worker = .finished record result →
      isMotionCommand record.request.type = true →
      ¬(system.impl.activeMotionId.isSome ∧ system.impl.activeMotionId ≠ some record.id)) ∧
    ∀ after id record active, step setup system (.worker .dequeue) = some after →
      id ∈ system.impl.queue → id ∉ after.impl.queue →
      system.impl.commands.lookup id = some record → system.impl.activeMotionId = some active →
      record.request.type ∈ [.stop, .hold, .resume, .powerOff] ∨
        (record.request.type = .stopProgram ∧ ∃ stored,
          system.impl.commands.lookup active = some stored ∧
            stored.request.type = .startProgram) := by
  have owned := reached.owned
  refine ⟨fun _ _ _ _ => owned.oneMotion, fun _ => owned.motionAlone, ?_, ?_⟩
  · intro record result position motion superseded
    rw [position] at owned
    simp [owned.motionAlone rfl motion] at superseded
  intro after id record active taken queued gone found isActive
  have executable := executable_of_dequeue taken queued gone
  rcases Impl.isExecutable_active (List.find?_some executable) found isActive with during | program
  · left
    cases type : record.request.type <;> simp [type, canRunDuringMotion] at during ⊢
  · exact Or.inr program

/-- A run that queues a Stop beside an active motion. -/
theorem one_motion_at_a_time_stop : ∃ system, Reachable .moving system ∧
    (system.impl.activeMotionId = some 1 ∧ system.impl.queue = [2]) ∧
    ∀ after record, step .moving system (.worker .dequeue) = some after →
      2 ∉ after.impl.queue → system.impl.commands.lookup 2 = some record →
      record.request.type ∈ [.stop, .hold, .resume, .powerOff] ∨
        (record.request.type = .stopProgram ∧ ∃ stored,
          system.impl.commands.lookup 1 = some stored ∧
            stored.request.type = .startProgram) := by
  rcases exists_reachable_of_execute ready_reachable
    (Schedule.startMotion ++
      Schedule.submit 0 (.plain .stop (firstLease 1000) "client" "stop"))
    (fun system => system.impl.activeMotionId = some 1 ∧ system.impl.queue = [2])
    (by decide) with ⟨system, reached, checked⟩
  rcases of_decide_eq_true checked with ⟨isActive, queue⟩
  refine ⟨system, reached, ⟨isActive, queue⟩, fun after record taken gone found => ?_⟩
  exact (one_motion_at_a_time reached).2.2.2 after 2 record 1 taken (by simp [queue]) gone found
    isActive

end System

end RobotManager
