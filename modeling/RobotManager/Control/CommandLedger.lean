import RobotManager.Control.SectionCases
import RobotManager.Library.JobTable

/-!
# The command records as a job table

The record map, the queue and the id counter of the executor form a job table whose
jobs are the command records.  This file states the lifecycle of a record, reads the
executor's members as such a table, and shows that every helper that runs under
`mutex_` performs moves of the table.
-/

namespace RobotManager

/-- The state changes in the life of a command. -/
inductive CommandState.Follows : CommandState → CommandState → Prop where
  | start : Follows .queued .running
  | cancel : Follows .queued .cancelled
  | expire : Follows .queued .timedOut
  | succeed : Follows .running .succeeded
  | fail : Follows .running .failed
  | timeOut : Follows .running .timedOut
  | stop : Follows .running .stopped

namespace CommandRecord

def phase (record : CommandRecord) : JobPhase :=
  match record.state with
  | .queued => .waiting
  | .running => .running
  | .succeeded | .failed | .cancelled | .timedOut | .stopped => .finished

/-- A terminal record's result agrees with its state. -/
def ResultAgrees (record : CommandRecord) : Prop :=
  (record.state = .succeeded → record.result.ok = true) ∧
    (record.state = .failed ∨ record.state = .cancelled ∨ record.state = .timedOut →
      record.result.ok = false)

/-- What one write may do to a record. -/
structure Rewrite (before after : CommandRecord) : Prop where
  id_eq : after.id = before.id
  request_eq : after.request = before.request
  createdAt_eq : after.createdAt = before.createdAt
  state : before.state.Follows after.state ∨ (before.state = .running ∧ after.state = .running)
  agrees : after.ResultAgrees

theorem phase_finished_iff {record : CommandRecord} :
    record.phase = .finished ↔ isTerminal record.state = true := by
  cases state : record.state <;> simp [phase, state, isTerminal]

theorem phase_waiting_iff {record : CommandRecord} :
    record.phase = .waiting ↔ record.state = .queued := by
  cases state : record.state <;> simp [phase, state]

theorem phase_running_iff {record : CommandRecord} :
    record.phase = .running ↔ record.state = .running := by
  cases state : record.state <;> simp [phase, state]

theorem Rewrite.unfinished {before after : CommandRecord} (rewrite : Rewrite before after) :
    isTerminal before.state = false := by
  rcases rewrite.state with follows | ⟨running, _⟩
  · cases before_state : before.state <;> cases after_state : after.state <;>
      rw [before_state, after_state] at follows <;> first | rfl | cases follows
  · simp [running, isTerminal]

theorem Rewrite.started {before after : CommandRecord} (rewrite : Rewrite before after) :
    after.state ≠ .queued := by
  rcases rewrite.state with follows | ⟨_, running⟩
  · intro queued
    generalize before.state = old at follows
    rw [queued] at follows
    cases follows
  · simp [running]

theorem agrees_of_running {record : CommandRecord} (running : record.state = .running) :
    record.ResultAgrees := by
  simp [ResultAgrees, running]

theorem agrees_of_queued {record : CommandRecord} (queued : record.state = .queued) :
    record.ResultAgrees := by
  simp [ResultAgrees, queued]

end CommandRecord

/-- The discipline of command records. -/
def commandDiscipline : JobDiscipline CommandRecord where
  ident := CommandRecord.id
  phase := CommandRecord.phase
  Rewrite := CommandRecord.Rewrite
  rewrite_ident := fun rewrite => rewrite.id_eq
  rewrite_unfinished := fun rewrite finished => by
    simpa [rewrite.unfinished] using CommandRecord.phase_finished_iff.mp finished
  rewrite_started := fun rewrite waiting =>
    rewrite.started (CommandRecord.phase_waiting_iff.mp waiting)

namespace Impl

/-- A record map, a queue and a counter as a job table. -/
def tableOf (commands : FiniteMap ℕ CommandRecord) (queue : List ℕ) (nextId : ℕ) :
    JobTable CommandRecord :=
  ⟨fun id => commands.lookup id, queue, nextId⟩

/-- The job table the executor maintains. -/
def table (impl : Impl) : JobTable CommandRecord :=
  tableOf impl.commands impl.queue impl.nextCommandId

abbrev WellFormed (impl : Impl) : Prop := impl.table.WellFormed commandDiscipline

/-- The command records change by moves of the table which write each target at most once. -/
abbrev Moves : JobTable CommandRecord → Set ℕ → JobTable CommandRecord → Prop :=
  JobTable.MovesWithin commandDiscipline

@[simp]
theorem table_jobs (impl : Impl) (id : ℕ) : impl.table.jobs id = impl.commands.lookup id := rfl

theorem tableOf_modify {commands : FiniteMap ℕ CommandRecord} {id : ℕ} {record : CommandRecord}
    (change : CommandRecord → CommandRecord) (queue : List ℕ) (nextId : ℕ)
    (found : commands.lookup id = some record) :
    tableOf (commands.modify id change) queue nextId =
      ⟨Function.update (tableOf commands queue nextId).jobs id (some (change record)), queue,
        nextId⟩ := by
  simp only [tableOf, JobTable.mk.injEq, and_true]
  funext other
  simp [Function.update_apply, found]

theorem tableOf_insert (commands : FiniteMap ℕ CommandRecord) (id : ℕ) (record : CommandRecord)
    (queue : List ℕ) (nextId : ℕ) :
    tableOf (commands.insert id record) queue nextId =
      ⟨Function.update (tableOf commands queue nextId).jobs id (some record), queue, nextId⟩ := by
  simp only [tableOf, JobTable.mk.injEq, and_true]
  funext other
  rw [FiniteMap.lookup_insert_eq, Function.update_apply]

theorem tableOf_erase (commands : FiniteMap ℕ CommandRecord) (id : ℕ) (queue : List ℕ)
    (nextId : ℕ) :
    tableOf (commands.erase id) queue nextId =
      ⟨Function.update (tableOf commands queue nextId).jobs id none, queue, nextId⟩ := by
  simp only [tableOf, JobTable.mk.injEq, and_true]
  funext other
  rw [FiniteMap.lookup_erase_eq, Function.update_apply]

/-- Changing a record in place is a rewrite, unless it changes nothing. -/
theorem modify_moves {commands : FiniteMap ℕ CommandRecord} {id : ℕ}
    {change : CommandRecord → CommandRecord} (queue : List ℕ) (nextId : ℕ)
    (permitted : ∀ record, commands.lookup id = some record →
      change record = record ∨ (record.state = .running ∧ record.Rewrite (change record))) :
    Moves (tableOf commands queue nextId) {id}
      (tableOf (commands.modify id change) queue nextId) := by
  cases found : commands.lookup id with
  | none =>
      rw [FiniteMap.modify_of_lookup_none change found]
      exact .refl _ _
  | some record =>
      rw [tableOf_modify change queue nextId found]
      rcases permitted record found with unchanged | ⟨running, rewrite⟩
      · have same : Function.update (tableOf commands queue nextId).jobs id (some (change record)) =
            (tableOf commands queue nextId).jobs := by
          rw [unchanged, ← found]
          exact Function.update_eq_self id _
        rw [same]
        exact .refl _ _
      · refine ⟨[id], by simp, .write .refl (.rewrite found ?_ rewrite) (by simp)⟩
        exact CommandRecord.phase_running_iff.mpr running

/-- Taking a queued command out of the queue while changing its record. -/
theorem take_moves {commands : FiniteMap ℕ CommandRecord} {id : ℕ} {record : CommandRecord}
    (change : CommandRecord → CommandRecord) (front back : List ℕ) (nextId : ℕ)
    (found : commands.lookup id = some record) (rewrite : record.Rewrite (change record)) :
    Moves (tableOf commands (front ++ id :: back) nextId) {id}
      (tableOf (commands.modify id change) (front ++ back) nextId) := by
  rw [tableOf_modify change (front ++ back) nextId found]
  exact ⟨[id], by simp, .write .refl (.take found rfl rewrite) (by simp)⟩

/-- The record of a queued command. -/
theorem WellFormed.queued {impl : Impl} (wellFormed : impl.WellFormed) {id : ℕ}
    (mem : id ∈ impl.queue) :
    ∃ record, impl.commands.lookup id = some record ∧ record.state = .queued := by
  rcases (wellFormed.memQueue_iff id).mp mem with ⟨record, found, waiting⟩
  exact ⟨record, found, CommandRecord.phase_waiting_iff.mp waiting⟩

theorem WellFormed.mem_queue {impl : Impl} (wellFormed : impl.WellFormed) {id : ℕ}
    {record : CommandRecord} (found : impl.commands.lookup id = some record)
    (queued : record.state = .queued) : id ∈ impl.queue :=
  (wellFormed.memQueue_iff id).mpr ⟨record, found, CommandRecord.phase_waiting_iff.mpr queued⟩

theorem WellFormed.queued_of_append {impl : Impl} (wellFormed : impl.WellFormed) {id : ℕ}
    {front back : List ℕ} {record : CommandRecord} (queue : impl.queue = front ++ id :: back)
    (found : impl.commands.lookup id = some record) : record.state = .queued := by
  have mem : id ∈ impl.queue := by
    rw [queue]
    simp
  rcases wellFormed.queued mem with ⟨stored, lookup, queued⟩
  obtain rfl : record = stored := Option.some.inj (found.symm.trans lookup)
  exact queued

theorem WellFormed.lookup_nextCommandId {impl : Impl} (wellFormed : impl.WellFormed) :
    impl.commands.lookup impl.nextCommandId = none :=
  (wellFormed.unqueued le_rfl).2

/-! ### Internal stops and the active motion -/

theorem requestInternalStopLocked_moves {impl : Impl} (wellFormed : impl.WellFormed)
    (reason : String) (now : TimePoint) :
    Moves impl.table ∅ (impl.requestInternalStopLocked reason now).table := by
  unfold requestInternalStopLocked
  split
  · exact .refl _ _
  · refine ⟨[], by simp, .pass .refl ?_⟩
    simp only [table]
    rw [FiniteMap.emplace_of_lookup_none _ wellFormed.lookup_nextCommandId, tableOf_insert]
    exact .enqueue [] impl.queue rfl rfl rfl

/-- The record of the active motion has left the queue. -/
def ActiveStarted (impl : Impl) : Prop :=
  ∀ {active record}, impl.activeMotionId = some active →
    impl.commands.lookup active = some record → record.state ≠ .queued

theorem settle_unfinished {record : CommandRecord} (unfinished : isTerminal record.state = false)
    (state : CommandState) (result : Status) (now : TimePoint) :
    record.settle state result now =
      { record with state := state, result := result, updatedAt := now } := by
  simp [CommandRecord.settle, unfinished]

theorem settle_terminal {record : CommandRecord} (terminal : isTerminal record.state = true)
    (state : CommandState) (result : Status) (now : TimePoint) :
    record.settle state result now = record := by
  simp [CommandRecord.settle, terminal]

/-- Settling a record that has been started is a rewrite or leaves it alone. -/
theorem settle_permitted {record : CommandRecord} {state : CommandState} {result : Status}
    (now : TimePoint) (started : record.state ≠ .queued)
    (follows : CommandState.Follows .running state)
    (agrees : (state = .succeeded → result.ok = true) ∧
      (state = .failed ∨ state = .cancelled ∨ state = .timedOut → result.ok = false)) :
    record.settle state result now = record ∨
      (record.state = .running ∧ record.Rewrite (record.settle state result now)) := by
  cases stateEq : record.state with
  | queued => exact absurd stateEq started
  | running =>
      refine Or.inr ⟨rfl, ?_⟩
      rw [settle_unfinished (by simp [stateEq, isTerminal])]
      exact ⟨rfl, rfl, rfl, .inl (stateEq ▸ follows), agrees⟩
  | succeeded | failed | cancelled | timedOut | stopped =>
      exact Or.inl (settle_terminal (by simp [stateEq, isTerminal]) _ _ _)

theorem settleActive_moves {impl : Impl} {active : ℕ} (state : CommandState) (result : Status)
    (now : TimePoint) (started : impl.ActiveStarted) (isActive : impl.activeMotionId = some active)
    (follows : CommandState.Follows .running state)
    (agrees : (state = .succeeded → result.ok = true) ∧
      (state = .failed ∨ state = .cancelled ∨ state = .timedOut → result.ok = false)) :
    Moves impl.table {id | impl.activeMotionId = some id}
      { impl with
        commands := impl.commands.modify active
          (CommandRecord.settle state result now) }.table := by
  refine (modify_moves impl.queue impl.nextCommandId fun record found => ?_).mono
    (Set.singleton_subset_iff.mpr isActive)
  exact settle_permitted now (started isActive found) follows agrees

theorem MotionUpdate.moves {options : ExecutorOptions} {now : TimePoint} {impl after : Impl}
    (update : MotionUpdate options now impl after) (wellFormed : impl.WellFormed)
    (started : impl.ActiveStarted) :
    Moves impl.table {id | impl.activeMotionId = some id} after.table := by
  cases update with
  | unchanged | vanished | seen => exact .refl _ _
  | timedOut isActive =>
      have moves := settleActive_moves .timedOut
        ⟨.deadlineExceeded, "motion command timed out", 0⟩ now started isActive .timeOut (by simp)
      exact moves.andThen (requestInternalStopLocked_moves (moves.wellFormed wellFormed) _ _)
  | @failed active command result isActive found danger notOk =>
      have moves := settleActive_moves .failed result now started isActive .fail (by simp [notOk])
      exact moves.andThen (requestInternalStopLocked_moves (moves.wellFormed wellFormed) _ _)
  | finished isActive =>
      exact settleActive_moves .succeeded Status.Ok now started isActive .succeed (by simp)

/-- Neither the snapshot nor the result of the poll touches the records. -/
@[simp]
theorem publishState_table (options : ExecutorOptions) (state : StatusOr RobotSnapshot)
    (now : TimePoint) (impl : Impl) :
    (impl.publishState options state now).1.table = impl.table := by
  unfold publishState
  split
  · rfl
  · split <;> rfl

@[simp]
theorem publishState_activeMotionId (options : ExecutorOptions) (state : StatusOr RobotSnapshot)
    (now : TimePoint) (impl : Impl) :
    (impl.publishState options state now).1.activeMotionId = impl.activeMotionId := by
  unfold publishState
  split
  · rfl
  · split <;> rfl

@[simp]
theorem publishState_stopRequested (options : ExecutorOptions) (state : StatusOr RobotSnapshot)
    (now : TimePoint) (impl : Impl) :
    (impl.publishState options state now).1.stopRequested = impl.stopRequested := by
  unfold publishState
  split
  · rfl
  · split <;> rfl

theorem checkLeasesLocked_moves {impl : Impl} (wellFormed : impl.WellFormed)
    (leases : ControlLeaseManager) (now : TimePoint) :
    Moves impl.table ∅ (impl.checkLeasesLocked leases now).table := by
  rcases impl.checkLeasesLocked_cases leases now with ⟨_, same⟩ | ⟨reason, same⟩ <;> rw [same]
  · exact .refl _ _
  · exact requestInternalStopLocked_moves wellFormed reason now

theorem publishLocked_moves {impl : Impl} (wellFormed : impl.WellFormed)
    (started : impl.ActiveStarted) (options : ExecutorOptions) (leases : ControlLeaseManager)
    (state : StatusOr RobotSnapshot) (now : TimePoint) :
    Moves impl.table {id | impl.activeMotionId = some id}
      (impl.publishLocked options leases state now).table := by
  have table := publishState_table options state now impl
  have publishedStarted : (impl.publishState options state now).1.ActiveStarted := by
    intro active record isActive found
    rw [publishState_activeMotionId] at isActive
    rw [← table_jobs, table] at found
    exact started isActive found
  have publishedWellFormed : (impl.publishState options state now).1.WellFormed := by
    rw [WellFormed, table]
    exact wellFormed
  rcases impl.publishLocked_cases options leases state now with ⟨updated, update, _, same⟩
  have moves := update.moves publishedWellFormed publishedStarted
  rw [publishState_activeMotionId, table] at moves
  rw [same]
  exact moves.andThen (checkLeasesLocked_moves (moves.wellFormed wellFormed) _ _)

/-! ### The worker -/

theorem dequeueLocked_moves {impl : Impl} (wellFormed : impl.WellFormed) (now : TimePoint) :
    Moves impl.table {id | impl.findExecutableCommandLocked = some id}
      (impl.dequeueLocked now).1.table := by
  have dequeue := impl.dequeueLocked_cases now
  generalize (impl.dequeueLocked now).1 = after at dequeue ⊢
  generalize (impl.dequeueLocked now).2 = handed at dequeue
  cases dequeue with
  | nothing => exact .refl _ _
  | @vanished id front back executable queue absent =>
      have mem : id ∈ impl.queue := by
        rw [queue]
        simp
      rcases wellFormed.queued mem with ⟨record, found, _⟩
      rw [absent] at found
      cases found
  | @expired id front back command executable queue found expired =>
      have queued := wellFormed.queued_of_append queue found
      have moves := take_moves
        (fun record => { record with
          state := .timedOut
          result := ⟨.deadlineExceeded, "command timed out before execution", 0⟩
          updatedAt := now })
        front back impl.nextCommandId found
        ⟨rfl, rfl, rfl, .inl (queued ▸ .expire), by simp [CommandRecord.ResultAgrees]⟩
      rw [← queue] at moves
      exact moves.mono (Set.singleton_subset_iff.mpr executable)
  | @started id front back command executable queue found live =>
      have queued := wellFormed.queued_of_append queue found
      have moves := take_moves (fun _ => { command with state := .running, updatedAt := now })
        front back impl.nextCommandId found
        ⟨rfl, rfl, rfl, .inl (queued ▸ .start), CommandRecord.agrees_of_running rfl⟩
      rw [← queue] at moves
      exact moves.mono (Set.singleton_subset_iff.mpr executable)

/-- The record the worker has in flight is a running one, if it is retained. -/
def FlightRunning (impl : Impl) (record : CommandRecord) : Prop :=
  ∀ {stored}, impl.commands.lookup record.id = some stored → stored.state = .running

theorem finished_moves {impl : Impl} {record : CommandRecord} (state : CommandState)
    (result : Status) (running : impl.FlightRunning record) (now : TimePoint)
    (follows : CommandState.Follows .running state)
    (agrees : (state = .succeeded → result.ok = true) ∧
      (state = .failed ∨ state = .cancelled ∨ state = .timedOut → result.ok = false)) :
    Moves impl.table {record.id} (impl.finished record state result now).table :=
  modify_moves impl.queue impl.nextCommandId fun _ found =>
    .inr ⟨running found, rfl, rfl, rfl, .inl (running found ▸ follows), agrees⟩

theorem activated_moves {impl : Impl} {record : CommandRecord}
    (running : impl.FlightRunning record) (result : Status) (now : TimePoint) :
    Moves impl.table {record.id} (impl.activated record result now).table := by
  refine modify_moves impl.queue impl.nextCommandId fun stored found => ?_
  have isRunning : stored.state = .running := running found
  exact .inr ⟨isRunning, rfl, rfl, rfl, .inr ⟨isRunning, isRunning⟩,
    CommandRecord.agrees_of_running isRunning⟩

theorem completeActiveMotionLocked_moves {impl : Impl} (started : impl.ActiveStarted)
    (now : TimePoint) :
    Moves impl.table {id | impl.activeMotionId = some id}
      (impl.completeActiveMotionLocked .stopped now).table := by
  unfold completeActiveMotionLocked
  split
  · exact .refl _ _
  next active isActive =>
  refine (modify_moves impl.queue impl.nextCommandId fun record found => ?_).mono
    (Set.singleton_subset_iff.mpr isActive)
  cases terminal : isTerminal record.state with
  | true => exact .inl (by simp)
  | false =>
      have running : record.state = .running := by
        have notQueued := started isActive found
        cases state : record.state <;> simp_all [isTerminal]
      simp only [Bool.false_eq_true, if_false]
      exact .inr ⟨running, rfl, rfl, rfl, .inl (running ▸ .stop),
        by simp [CommandRecord.ResultAgrees]⟩

theorem completeActiveProgramLocked_moves {impl : Impl} (started : impl.ActiveStarted)
    (now : TimePoint) :
    Moves impl.table {id | impl.activeMotionId = some id}
      (impl.completeActiveProgramLocked now).table := by
  unfold completeActiveProgramLocked
  split
  · exact .refl _ _
  split
  · exact .refl _ _
  · exact completeActiveMotionLocked_moves started now

theorem OrdinaryCompletion.moves {options : ExecutorOptions} {now : TimePoint}
    {record : CommandRecord} {impl after : Impl}
    (completion : OrdinaryCompletion options now record impl after) (wellFormed : impl.WellFormed)
    (started : impl.ActiveStarted) :
    Moves impl.table {id | impl.activeMotionId = some id} after.table := by
  cases completion with
  | plain | loaded | jogStarted | jogEnded => exact .refl _ _
  | jogStartedWithoutLease =>
      have jogging : WellFormed { impl with
          jogActive := true
          activeJogClientId := record.request.clientId
          activeJogLeaseId := record.request.leaseId
          jogDeadline := now.addMs options.jogHeartbeatTimeout } := wellFormed
      exact (requestInternalStopLocked_moves jogging _ _).mono (Set.empty_subset _)
  | stopped => exact completeActiveMotionLocked_moves started now
  | programStopped => exact completeActiveProgramLocked_moves started now

/-- The completion section writes the record in flight and then at most the active motion. -/
theorem completeLocked_moves {impl : Impl} {record : CommandRecord} (wellFormed : impl.WellFormed)
    (started : impl.ActiveStarted) (running : impl.FlightRunning record)
    (apart : impl.activeMotionId ≠ some record.id) (options : ExecutorOptions)
    (leases : ControlLeaseManager) (now : TimePoint) (result : Status) :
    Moves impl.table ({record.id} ∪ {id | impl.activeMotionId = some id})
      (impl.completeLocked options leases now record result).table := by
  have completion := impl.completeLocked_cases options leases now record result
  generalize impl.completeLocked options leases now record result = after at completion ⊢
  have within : {record.id} ⊆ {record.id} ∪ {id | impl.activeMotionId = some id} :=
    Set.subset_union_left
  cases completion with
  | missing => exact .refl _ _
  | failed notOk =>
      exact (finished_moves .failed result running now .fail (by simp [notOk])).mono within
  | superseded =>
      have moves := finished_moves .failed
        ⟨.failedPrecondition, "another motion became active during startup", 0⟩ running now .fail
        (by simp)
      exact (moves.andThen (requestInternalStopLocked_moves (moves.wellFormed wellFormed) _ _)).mono
        within
  | activated => exact (activated_moves running result now).mono within
  | activatedWithoutLease =>
      have moves := activated_moves running result now
      exact (moves.andThen (requestInternalStopLocked_moves (moves.wellFormed wellFormed) _ _)).mono
        within
  | ordinary ok =>
      have moves := finished_moves .succeeded result running now .succeed (by simp [ok])
      have finishedStarted : (impl.finished record .succeeded result now).ActiveStarted := by
        intro active stored isActive found
        have different : active ≠ record.id := fun same => apart (same ▸ isActive)
        exact started isActive (by simpa [finished, different] using found)
      refine moves.trans ((completeOrdinaryLocked_cases options leases now record _).moves
        (moves.wellFormed wellFormed) finishedStarted) ?_
      exact Set.disjoint_singleton_left.mpr apart

/-! ### Submitting -/

/-- The queued commands other than stops, which are the only ones that may be cancelled. -/
def ordinaryQueued (impl : Impl) : Set ℕ :=
  {id | id ∈ impl.queue ∧
    ∀ record, impl.commands.lookup id = some record → record.request.type ≠ .stop}

theorem makeRoomLocked_moves {impl roomy : Impl} {options : ExecutorOptions}
    {request : CommandRequest} {now : TimePoint} (wellFormed : impl.WellFormed)
    (room : impl.makeRoomLocked options request now = .ok roomy) :
    Moves impl.table impl.ordinaryQueued roomy.table := by
  rcases makeRoomLocked_cases room with rfl | ⟨id, front, back, displaceable, queue, rfl⟩
  · exact .refl _ _
  have mem : id ∈ impl.queue := by rw [queue]; simp
  rcases wellFormed.queued mem with ⟨record, found, queued⟩
  have moves := take_moves
    (fun record => { record with
      state := .cancelled
      result := ⟨.resourceExhausted, "command was displaced by a safety stop", 0⟩
      updatedAt := now })
    front back impl.nextCommandId found
    ⟨rfl, rfl, rfl, .inl (queued ▸ .cancel), by simp [CommandRecord.ResultAgrees]⟩
  rw [← queue] at moves
  refine moves.mono (Set.singleton_subset_iff.mpr ⟨mem, fun stored lookup => ?_⟩)
  simpa [isDisplaceable, lookup] using displaceable

/-- The record to be pruned is one of those looked at and terminal. -/
theorem oldestTerminal_mem {records : List (Sigma fun _ : ℕ => CommandRecord)}
    {best : Option (Sigma fun _ : ℕ => CommandRecord)} {oldest : Sigma fun _ : ℕ => CommandRecord}
    (found : oldestTerminal records best = some oldest) :
    best = some oldest ∨ (oldest ∈ records ∧ isTerminal oldest.2.state = true) := by
  induction records generalizing best with
  | nil => exact Or.inl found
  | cons record records ih =>
      simp only [oldestTerminal] at found
      split at found
      · rcases ih found with same | ⟨mem, terminal⟩
        · exact Or.inl same
        · exact Or.inr ⟨List.mem_cons_of_mem _ mem, terminal⟩
      · next considered =>
        rcases ih found with same | ⟨mem, terminal⟩
        · obtain rfl : record = oldest := Option.some.inj same
          simp only [Bool.or_eq_true, not_or, Bool.not_eq_true', Bool.not_eq_false] at considered
          exact Or.inr ⟨List.mem_cons_self, considered.1⟩
        · exact Or.inr ⟨List.mem_cons_of_mem _ mem, terminal⟩

/-- The record `PruneCommandHistoryLocked` erases is a stored terminal one. -/
theorem oldestTerminal_lookup {impl : Impl} (traversal : Traversal)
    {oldest : Sigma fun _ : ℕ => CommandRecord}
    (found : oldestTerminal (traversal.order impl.commands.entries) none = some oldest) :
    impl.commands.lookup oldest.1 = some oldest.2 ∧ isTerminal oldest.2.state = true := by
  rcases oldestTerminal_mem found with none | ⟨mem, terminal⟩
  · cases none
  · exact ⟨FiniteMap.mem_entries_iff.mp ((traversal.perm _).mem_iff.mp mem), terminal⟩

theorem pruneLoop_moves (options : ExecutorOptions) (traversal : Traversal) (rounds : ℕ)
    (impl : Impl) : Moves impl.table ∅ (pruneLoop options traversal rounds impl).table := by
  induction rounds generalizing impl with
  | zero => exact .refl _ _
  | succ rounds ih =>
      simp only [pruneLoop]
      split
      · exact .refl _ _
      split
      · exact .refl _ _
      next oldest found =>
      rcases oldestTerminal_lookup traversal found with ⟨lookup, terminal⟩
      refine JobTable.MovesWithin.andThen ⟨[], by simp, .pass .refl ?_⟩ (ih _)
      simp only [table, tableOf_erase]
      exact .forget lookup (CommandRecord.phase_finished_iff.mpr terminal)

theorem pruneCommandHistoryLocked_moves (options : ExecutorOptions) (traversal : Traversal)
    (impl : Impl) : Moves impl.table ∅ (impl.pruneCommandHistoryLocked options traversal).table :=
  pruneLoop_moves options traversal _ impl

theorem enqueueLocked_moves {impl : Impl} (wellFormed : impl.WellFormed) (request : CommandRequest)
    (now : TimePoint) : Moves impl.table ∅ (impl.enqueueLocked request now).table := by
  refine ⟨[], by simp, .pass .refl ?_⟩
  simp only [table, enqueueLocked]
  rw [FiniteMap.emplace_of_lookup_none _ wellFormed.lookup_nextCommandId, tableOf_insert]
  split
  · exact .enqueue [] impl.queue rfl rfl rfl
  · exact .enqueue impl.queue [] rfl rfl (List.append_nil _).symm

theorem submitLocked_moves {impl : Impl} (wellFormed : impl.WellFormed) (options : ExecutorOptions)
    (traversal : Traversal) (request : CommandRequest) (now : TimePoint) :
    Moves impl.table impl.ordinaryQueued
      (impl.submitLocked options traversal request now).2.table := by
  have submission := impl.submitLocked_cases options traversal request now
  generalize (impl.submitLocked options traversal request now).1 = result at submission
  generalize (impl.submitLocked options traversal request now).2 = after at submission ⊢
  cases submission with
  | refused | known => exact .refl _ _
  | full fresh room =>
      exact (makeRoomLocked_moves wellFormed room).andThen (pruneCommandHistoryLocked_moves _ _ _)
  | accepted running accepting fresh exclusive loaded room slot =>
      have moves := (makeRoomLocked_moves wellFormed room).andThen
        (pruneCommandHistoryLocked_moves options traversal _)
      exact moves.andThen (enqueueLocked_moves (moves.wellFormed wellFormed) request now)

/-! ### Lease release and shutdown -/

/-- The loop that cancels a client's queued commands, after it has kept `kept`. -/
theorem cancelQueued_moves (leaseId clientId : String) (now : TimePoint) (nextId : ℕ)
    (kept rest : List ℕ) (commands : FiniteMap ℕ CommandRecord)
    (wellFormed : (tableOf commands (kept ++ rest) nextId).WellFormed commandDiscipline) :
    Moves (tableOf commands (kept ++ rest) nextId)
      {id | id ∈ rest ∧ ∀ record, commands.lookup id = some record → record.request.type ≠ .stop}
      (tableOf (cancelQueued leaseId clientId now rest commands).2
        (kept ++ (cancelQueued leaseId clientId now rest commands).1) nextId) := by
  induction rest generalizing kept commands with
  | nil => exact .refl _ _
  | cons id rest ih =>
      rcases (wellFormed.memQueue_iff id).mp (by simp [tableOf]) with ⟨record, found, waiting⟩
      replace found : commands.lookup id = some record := found
      have queued := CommandRecord.phase_waiting_iff.mp waiting
      have unqueued : id ∉ rest := by
        have nodup : (kept ++ id :: rest).Nodup := wellFormed.queueNodup
        exact (List.nodup_cons.mp (List.nodup_append.mp nodup).2.1).1
      simp only [cancelQueued, found]
      split
      · have keep := ih (kept ++ [id]) commands (by simpa using wellFormed)
        simp only [List.append_assoc, List.singleton_append] at keep
        exact keep.mono fun other target => ⟨List.mem_cons_of_mem id target.1, target.2⟩
      · next cancels =>
        have moves := take_moves
          (fun record => { record with
            state := .cancelled
            result := ⟨.permissionDenied, "control lease released", 0⟩
            updatedAt := now })
          kept rest nextId found
          ⟨rfl, rfl, rfl, .inl (queued ▸ .cancel), by simp [CommandRecord.ResultAgrees]⟩
        refine (moves.trans (ih kept _ (moves.wellFormed wellFormed)) ?_).mono ?_
        · exact Set.disjoint_singleton_left.mpr fun target => unqueued target.1
        · rintro other (rfl | ⟨mem, ordinary⟩)
          · refine ⟨List.mem_cons_self, fun stored lookup stop => cancels (Or.inl ?_)⟩
            obtain rfl := Option.some.inj (found.symm.trans lookup)
            exact stop
          · have different : other ≠ id := fun same => unqueued (same ▸ mem)
            exact ⟨List.mem_cons_of_mem id mem, fun stored lookup =>
              ordinary stored (by simpa [different] using lookup)⟩

theorem releaseLocked_cases (leaseId clientId : String) (now : TimePoint) (impl : Impl) :
    impl.releaseLocked leaseId clientId now =
        impl.cancelQueuedCommandsForLeaseLocked leaseId clientId now ∨
      impl.releaseLocked leaseId clientId now =
        (impl.cancelQueuedCommandsForLeaseLocked leaseId clientId now).requestInternalStopLocked
          "control lease released" now := by
  unfold releaseLocked
  dsimp only
  split
  · exact Or.inr rfl
  · exact Or.inl rfl

theorem releaseLocked_moves {impl : Impl} (wellFormed : impl.WellFormed)
    (leaseId clientId : String) (now : TimePoint) :
    Moves impl.table impl.ordinaryQueued (impl.releaseLocked leaseId clientId now).table := by
  have moves : Moves impl.table impl.ordinaryQueued
      (impl.cancelQueuedCommandsForLeaseLocked leaseId clientId now).table :=
    cancelQueued_moves leaseId clientId now impl.nextCommandId [] impl.queue impl.commands
      wellFormed
  rcases impl.releaseLocked_cases leaseId clientId now with same | same <;> rw [same]
  · exact moves
  · exact moves.andThen (requestInternalStopLocked_moves (moves.wellFormed wellFormed) _ _)

/-- The loop that cancels the rest of the queue when the executor shuts down. -/
theorem cancelCommandsForShutdown_moves (now : TimePoint) (nextId : ℕ) (rest : List ℕ)
    (commands : FiniteMap ℕ CommandRecord)
    (wellFormed : (tableOf commands rest nextId).WellFormed commandDiscipline) :
    Moves (tableOf commands rest nextId) {id | id ∈ rest}
      (tableOf (rest.foldl (fun commands id => commands.modify id
        (CommandRecord.settle .cancelled ⟨.unavailable, "command executor shut down", 0⟩ now))
        commands) [] nextId) := by
  induction rest generalizing commands with
  | nil => exact .refl _ _
  | cons id rest ih =>
      rcases (wellFormed.memQueue_iff id).mp (by simp [tableOf]) with ⟨record, found, waiting⟩
      replace found : commands.lookup id = some record := found
      have queued := CommandRecord.phase_waiting_iff.mp waiting
      have unqueued : id ∉ rest := (List.nodup_cons.mp wellFormed.queueNodup).1
      have rewrite : record.Rewrite (record.settle .cancelled
          ⟨.unavailable, "command executor shut down", 0⟩ now) := by
        rw [settle_unfinished (by simp [queued, isTerminal])]
        exact ⟨rfl, rfl, rfl, .inl (queued ▸ .cancel), by simp [CommandRecord.ResultAgrees]⟩
      have moves := take_moves _ [] rest nextId found rewrite
      refine (moves.trans (ih _ (moves.wellFormed wellFormed)) ?_).mono ?_
      · exact Set.disjoint_singleton_left.mpr unqueued
      · exact Set.union_subset (Set.singleton_subset_iff.mpr List.mem_cons_self)
          fun other mem => List.mem_cons_of_mem id mem

/-- What the last section of the shutdown writes into a record. -/
theorem shutdownLocked_lookup {stopStatus : Status} {now : TimePoint} {impl : Impl} {id : ℕ}
    {record : CommandRecord}
    (found : (impl.shutdownLocked stopStatus now).commands.lookup id = some record) :
    impl.commands.lookup id = some record ∨ record.state = .cancelled ∨
      (impl.activeMotionId = some id ∧
        record.state = if stopStatus.ok then .stopped else .failed) := by
  unfold shutdownLocked at found
  dsimp only at found
  split at found
  · exact (cancelCommandsForShutdown_lookup found).imp_right Or.inl
  next active isActive =>
  simp only [clearActiveJogLocked, FiniteMap.lookup_modify] at found
  split at found
  · next same =>
    subst same
    rcases Option.map_eq_some_iff.mp found with ⟨cancelled, lookup, rfl⟩
    cases terminal : isTerminal cancelled.state with
    | true =>
        rw [settle_terminal terminal]
        exact (cancelCommandsForShutdown_lookup lookup).imp_right Or.inl
    | false =>
        rw [settle_unfinished terminal]
        exact Or.inr (Or.inr ⟨isActive, rfl⟩)
  · exact (cancelCommandsForShutdown_lookup found).imp_right Or.inl

theorem shutdownLocked_moves {impl : Impl} (wellFormed : impl.WellFormed)
    (started : impl.ActiveStarted) (stopStatus : Status) (now : TimePoint) :
    Moves impl.table ({id | id ∈ impl.queue} ∪ {id | impl.activeMotionId = some id})
      (impl.shutdownLocked stopStatus now).table := by
  have cancelMoves : Moves impl.table {id | id ∈ impl.queue}
      (impl.cancelCommandsForShutdownLocked now).table :=
    cancelCommandsForShutdown_moves now impl.nextCommandId impl.queue impl.commands wellFormed
  have apart : Disjoint {id | id ∈ impl.queue} {id | impl.activeMotionId = some id} := by
    refine Set.disjoint_left.mpr fun id mem isActive => ?_
    rcases wellFormed.queued mem with ⟨record, found, queued⟩
    exact started isActive found queued
  have cancelledStarted : (impl.cancelCommandsForShutdownLocked now).ActiveStarted := by
    intro active record isActive found queued
    have unfinished : commandDiscipline.phase record = .waiting :=
      CommandRecord.phase_waiting_iff.mpr queued
    have mem := ((cancelMoves.wellFormed wellFormed).memQueue_iff active).mpr
      ⟨record, found, unfinished⟩
    cases mem
  unfold shutdownLocked
  dsimp only
  split
  · exact cancelMoves.mono Set.subset_union_left
  · next active isActive =>
    refine cancelMoves.trans (settleActive_moves _ _ now cancelledStarted isActive ?_ ?_) apart
    · split
      · exact .stop
      · exact .fail
    · cases stopStatus.ok <;> simp

end Impl

end RobotManager
