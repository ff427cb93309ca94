import RobotManager.Control.Admission
import RobotManager.Control.Threads

/-!
# The record of the active motion

A motion that has timed out is terminal, and so may be pruned, while it is still the active
motion and waits for its stop.  Its record is kept as long as every submission that has to
prune finds enough older terminal records.
-/

namespace RobotManager

namespace Impl

/-- The active motion has a record, and its command is a motion. -/
def ActiveFound (impl : Impl) : Prop :=
  ∀ active, impl.activeMotionId = some active →
    ∃ record, impl.commands.lookup active = some record ∧
      isMotionCommand record.request.type = true

/-- If the final section of the submission gets as far as the history and the active motion has
ended, the records beyond the limit are fewer than the terminal records older than the motion's. -/
def SparesActive (options : ExecutorOptions) (request : CommandRequest) (impl : Impl) : Prop :=
  impl.PassesChecks request → impl.FindsRoom options request →
    ∀ active record, impl.activeMotionId = some active →
      impl.commands.lookup active = some record → isTerminal record.state = true →
      impl.commands.size < options.maximumCommandHistory + impl.olderTerminals record.updatedAt

/-- A section that keeps the records keeps the active motion's. -/
theorem ActiveFound.carries {before after : Impl} (found : before.ActiveFound)
    (carries : Carries before.commands after.commands)
    (active : ∀ {id}, after.activeMotionId = some id → before.activeMotionId = some id) :
    after.ActiveFound := by
  intro id isActive
  rcases found id (active isActive) with ⟨old, lookup, motion⟩
  rcases carries.kept lookup with ⟨record, later, request⟩
  exact ⟨record, later, request ▸ motion⟩

/-! ### Submissions -/

section MakingRoom

variable {options : ExecutorOptions} {request : CommandRequest} {now : TimePoint}
  {impl roomy : Impl}

/-- A displaced command adds a terminal record. -/
theorem makeRoomLocked_olderTerminals (wellFormed : impl.WellFormed)
    (room : impl.makeRoomLocked options request now = .ok roomy) (time : TimePoint) :
    impl.olderTerminals time ≤ roomy.olderTerminals time := by
  rcases makeRoomLocked_cases room with rfl | ⟨id, front, back, _, queue, rfl⟩
  · exact le_rfl
  apply FiniteMap.count_le_count_modify
  intro record found terminal
  simp [wellFormed.queued_of_append queue found, isTerminal] at terminal

/-- Making room leaves the records of started commands alone. -/
theorem makeRoomLocked_keeps (wellFormed : impl.WellFormed)
    (room : impl.makeRoomLocked options request now = .ok roomy) {id : ℕ} {record : CommandRecord}
    (found : impl.commands.lookup id = some record) (started : record.state ≠ .queued) :
    roomy.commands.lookup id = some record := by
  rcases makeRoomLocked_cases room with rfl | ⟨displaced, front, back, _, queue, rfl⟩
  · exact found
  have different : id ≠ displaced := by
    rintro rfl
    exact started (wellFormed.queued_of_append queue found)
  rw [FiniteMap.lookup_modify, if_neg different]
  exact found

end MakingRoom

/-- Pruning leaves unfinished records alone. -/
theorem pruneCommandHistoryLocked_keeps {impl : Impl} (options : ExecutorOptions)
    (traversal : Traversal) (wellFormed : impl.WellFormed) {id : ℕ} {record : CommandRecord}
    (found : impl.commands.lookup id = some record) (live : isTerminal record.state = false) :
    (impl.pruneCommandHistoryLocked options traversal).commands.lookup id = some record := by
  have unfinished : commandDiscipline.phase record ≠ .finished := by
    intro finished
    simp [CommandRecord.phase_finished_iff.mp finished] at live
  exact (pruneCommandHistoryLocked_moves options traversal impl).unfinished_kept wellFormed
    (by simp) found unfinished

theorem submitLocked_activeFound {options : ExecutorOptions} {impl : Impl}
    {inFlight : Option CommandRecord} (owned : impl.Owned inFlight) (found : impl.ActiveFound)
    (traversal : Traversal) (request : CommandRequest) (now : TimePoint)
    (spares : impl.SparesActive options request) :
    (impl.submitLocked options traversal request now).2.ActiveFound := by
  by_cases gets : impl.PassesChecks request ∧ impl.FindsRoom options request
  swap
  · rw [submitLocked_unchanged gets]
    exact found
  rcases gets with ⟨passes, finds⟩
  rcases makeRoomLocked_isOk_iff.mpr finds with ⟨roomy, room⟩
  have roomyWellFormed := (makeRoomLocked_moves owned.wellFormed room).wellFormed owned.wellFormed
  rcases pruneLoop_eq options traversal roomy.commands.size roomy with
    ⟨commands, idempotency, pruned, _⟩
  have sameActive : (roomy.pruneCommandHistoryLocked options traversal).activeMotionId =
      impl.activeMotionId := by
    rw [pruneCommandHistoryLocked, pruned]
    rcases makeRoomLocked_cases room with rfl | ⟨_, _, _, _, _, rfl⟩ <;> rfl
  have kept : (roomy.pruneCommandHistoryLocked options traversal).ActiveFound := by
    intro active isActive
    rw [sameActive] at isActive
    rcases found active isActive with ⟨record, lookup, motion⟩
    have roomyFound := makeRoomLocked_keeps owned.wellFormed room lookup
      (owned.activeStarted isActive lookup)
    refine ⟨record, ?_, motion⟩
    cases terminal : isTerminal record.state with
    | false =>
        exact pruneCommandHistoryLocked_keeps options traversal roomyWellFormed roomyFound terminal
    | true =>
        have spared := spares passes finds active record isActive lookup terminal
        have older := makeRoomLocked_olderTerminals owned.wellFormed room record.updatedAt
        apply pruneLoop_keeps traversal _ roomyFound
        rw [(makeRoomLocked_counts owned.wellFormed room).2.2]
        omega
  rw [submitLocked_of_room traversal passes room]
  split
  · exact kept
  · have absent := (pruneCommandHistoryLocked_cleared options traversal roomy).lookup_nextCommandId
      (WellFormed.lookup_nextCommandId roomyWellFormed)
    intro active isActive
    rcases kept active isActive with ⟨record, lookup, motion⟩
    refine ⟨record, ?_, motion⟩
    rw [enqueueLocked_lookup request now absent, if_neg ?_]
    · exact lookup
    · rintro rfl
      cases absent.symm.trans lookup

end Impl

namespace System

open TransitionSystem

/-- If the step is the final section of a submission, it spares the active motion. -/
def SparesActive (setup : Setup) (system : System) : Action → Prop
  | .client thread (.submitCommit _) =>
      ∀ request evidence, system.clients thread = .submitValidated request evidence →
        system.impl.SparesActive setup.options request
  | _ => True

/-- In every run whose submissions spare the active motion, it can always be looked up. -/
theorem active_motion_resolvable {setup : Setup} {system : System}
    (reached : ReachableUnder setup (SparesActive setup) system) {active : ℕ}
    (isActive : system.impl.activeMotionId = some active) :
    ∃ record, system.impl.commands.lookup active = some record ∧
      isMotionCommand record.request.type = true := by
  refine reached.invariant (fun system => system.impl.ActiveFound) (fun system initial => ?_)
    (fun system action after reached found spares taken => ?_) active isActive
  · rcases init_cases initial with ⟨_, snapshot, now, rfl⟩
    intro active isActive
    cases isActive
  have owned := Reachable.owned reached.reachable
  cases action with
  | advance nanoseconds =>
      cases taken
      exact found
  | worker action =>
      cases workerStep_cases taken with
      | dequeues =>
          exact found.carries (Impl.dequeueLocked_carries _ _) fun isActive => by
            simpa using isActive
      | @completes record result position =>
          have carries := Impl.completeLocked_carries setup.options system.leases system.now record
            result system.impl
          intro active isActive
          rcases (Impl.completeLocked_cases _ _ _ _ _ _).activeMotionId isActive with
            old | ⟨_, motion, rfl⟩
          · rcases found active old with ⟨old, lookup, motion⟩
            rcases carries.kept lookup with ⟨stored, later, request⟩
            exact ⟨stored, later, request ▸ motion⟩
          · rw [position] at owned
            rcases owned.flying rfl with ⟨flying, lookup, _, same⟩
            rcases carries.kept lookup with ⟨stored, later, request⟩
            exact ⟨stored, later, request ▸ same ▸ motion⟩
      | exits | copies | samples | validates | checksProgram | refuses | lacksPayload | calls
      | returns => exact found
  | poll action =>
      cases pollStep_cases taken with
      | publishes =>
          exact found.carries (Impl.publishLocked_carries _ _ _ _ _)
            Impl.publishLocked_activeMotionId
      | checks | skips | exits | readBegins | readReturns | wakes => exact found
  | client thread action =>
      cases action with
      | submitCommit traversal =>
          rcases submitCommit_cases taken with ⟨request, evidence, position, rfl⟩
          exact Impl.submitLocked_activeFound owned found traversal request system.now
            (spares request evidence position)
      | releaseCommit =>
          rcases releaseCommit_cases taken with ⟨leaseId, clientId, position, released⟩
          rw [released]
          apply found.carries (Impl.releaseLocked_carries _ _ _ _)
          intro id isActive
          rwa [Impl.releaseLocked_activeMotionId] at isActive
      | _ =>
          rw [clientStep_impl (by simp) (by simp) taken]
          exact found
  | shutdown action =>
      cases shutdownStep_cases taken with
      | finishes =>
          intro active isActive
          cases (Impl.shutdownLocked_activeMotionId _ _ _).symm.trans isActive
      | begins | stopBegins | stopReturns | joinsWorker | joinsPoll | disconnects => exact found

/-- A joint motion that may take one second. -/
def briefMotion : CommandRequest :=
  { CommandRequest.move (firstLease 1000) "client" "motion" with timeout := 1000 }

/-- The motion has been started and times out while the robot is still moving. -/
def timeOutMotion : List Action :=
  Schedule.acquire 0 "client" ++ Schedule.submit 0 briefMotion ++
    Schedule.work (.returned Status.Ok) ++ [.advance 2000000000] ++
    Schedule.poll (.ok { RobotSnapshot.standing with moving := true })

/-- A motion that has timed out can still be looked up after a further submission. -/
theorem active_motion_resolvable_timed_out : ∃ system,
    ReachableUnder .moving (SparesActive .moving) system ∧ system.impl.commands.size = 3 ∧
    ∃ record, system.impl.commands.lookup 1 = some record ∧
      isMotionCommand record.request.type = true := by
  have sound : ∀ (system : System) (action : Action),
      decide (system.impl.commands.size < 4096) = true → SparesActive .moving system action := by
    intro system action checked
    have few : system.impl.commands.size < 4096 := of_decide_eq_true checked
    cases action with
    | client thread action =>
        cases action with
        | submitCommit traversal =>
            intro request evidence position passes finds active record isActive found terminal
            exact Nat.lt_of_lt_of_le few (Nat.le_add_right _ _)
        | _ => trivial
    | _ => trivial
  rcases exists_reachableUnder_of_execute ready_reachable _ sound
    (timeOutMotion ++
      Schedule.submit 0 (.plain .releaseControl (firstLease 1000) "client" "later"))
    (fun system => decide (system.impl.activeMotionId = some 1 ∧ system.impl.commands.size = 3))
    (by decide) with ⟨system, reached, checked⟩
  rcases of_decide_eq_true checked with ⟨isActive, three⟩
  exact ⟨system, reached, three, active_motion_resolvable reached isActive⟩

/-- A submission prunes the record of a motion that has timed out while its stop is in flight, and
the next reading of the moving robot ends the tracking. -/
theorem active_motion_pruned : ∃ system, Reachable crowded system ∧
    system.impl.activeMotionId = some 1 ∧ system.impl.commands.lookup 1 = none ∧
    ∃ after, uninterrupted crowded
        (Schedule.poll (.ok { RobotSnapshot.standing with moving := true })) system = some after ∧
      after.impl.latestState.moving = true ∧ after.impl.activeMotionId = none := by
  rcases exists_reachable_of_execute crowded_reachable
    (timeOutMotion ++ [.worker .dequeue] ++
      Schedule.submit 0 (.plain .releaseControl (firstLease 1000) "client" "first") ++
      Schedule.submit 0 (.plain .releaseControl (firstLease 1000) "client" "second") ++
      [.advance 50000000, .poll .wake])
    (fun system => decide (system.impl.activeMotionId = some 1) &&
      (system.impl.commands.lookup 1).isNone &&
      (uninterrupted crowded
        (Schedule.poll (.ok { RobotSnapshot.standing with moving := true })) system).any
          fun after => after.impl.latestState.moving && after.impl.activeMotionId.isNone)
    (by decide) with ⟨system, reached, checked⟩
  simp only [Bool.and_eq_true, decide_eq_true_eq, Option.isNone_iff_eq_none,
    Option.any_eq_true] at checked
  rcases checked with ⟨⟨isActive, gone⟩, after, taken, moving, dropped⟩
  exact ⟨system, reached, isActive, gone, after, taken, moving, dropped⟩

end System

end RobotManager
