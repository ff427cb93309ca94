import RobotManager.Control.SectionFrames

/-!
# Who may touch which record

Every running record belongs to the worker, which has it in flight, or is the active
motion.  `Owned` states this together with what the admission and scheduling rules
guarantee about motions, and each critical section is shown to keep it.
-/

namespace RobotManager

namespace Impl

/-- The ownership invariant of the records and the command the worker has in flight. -/
structure Owned (impl : Impl) (inFlight : Option CommandRecord) : Prop where
  wellFormed : impl.WellFormed
  agrees : ∀ {id record}, impl.commands.lookup id = some record → record.ResultAgrees
  flying : ∀ {record}, inFlight = some record →
    ∃ stored, impl.commands.lookup record.id = some stored ∧ stored.state = .running ∧
      stored.request = record.request
  runningOwned : ∀ {id record}, impl.commands.lookup id = some record → record.state = .running →
    impl.activeMotionId = some id ∨ inFlight.map CommandRecord.id = some id
  active : ∀ {id record}, impl.activeMotionId = some id → impl.commands.lookup id = some record →
    isMotionCommand record.request.type = true ∧
      (record.state = .running ∨ record.state = .timedOut)
  activeIssued : ∀ {id}, impl.activeMotionId = some id → id < impl.nextCommandId
  oneMotion : ∀ {id other record otherRecord}, impl.commands.lookup id = some record →
    impl.commands.lookup other = some otherRecord →
    isMotionCommand record.request.type = true → isTerminal record.state = false →
    isMotionCommand otherRecord.request.type = true → isTerminal otherRecord.state = false →
    id = other
  motionAlone : ∀ {record}, inFlight = some record →
    isMotionCommand record.request.type = true → impl.activeMotionId = none
  stopProgramTarget : ∀ {record id stored}, inFlight = some record →
    record.request.type = .stopProgram → impl.activeMotionId = some id →
    impl.commands.lookup id = some stored → stored.request.type = .startProgram

namespace Owned

variable {impl after : Impl} {inFlight next : Option CommandRecord} {targets : Set ℕ}

theorem activeStarted (owned : Owned impl inFlight) : impl.ActiveStarted := by
  intro active record isActive found queued
  rcases (owned.active isActive found).2 with state | state <;> simp [queued] at state

theorem flightRunning {record : CommandRecord} (owned : Owned impl (some record)) :
    impl.FlightRunning record := by
  intro stored found
  rcases owned.flying rfl with ⟨flying, lookup, running, _⟩
  obtain rfl : stored = flying := Option.some.inj (found.symm.trans lookup)
  exact running

theorem absent (owned : Owned impl inFlight) {id : ℕ} (unissued : impl.nextCommandId ≤ id) :
    impl.commands.lookup id = none :=
  (owned.wellFormed.unqueued unissued).2

/-- The active motion is never the command in flight. -/
theorem active_ne_flight {record : CommandRecord} (owned : Owned impl (some record)) :
    impl.activeMotionId ≠ some record.id := by
  intro isActive
  rcases owned.flying rfl with ⟨stored, found, _, request⟩
  have motion := (owned.active isActive found).1
  rw [request] at motion
  simp [owned.motionAlone rfl motion] at isActive

/-- The command in flight is not queued. -/
theorem flight_not_queued {record : CommandRecord} (owned : Owned impl (some record)) :
    record.id ∉ impl.queue := by
  intro mem
  rcases owned.wellFormed.queued mem with ⟨stored, found, queued⟩
  simp [owned.flightRunning found] at queued

/-- Moves of the table keep ownership if the members outside the table follow. -/
theorem of_moves (owned : Owned impl inFlight) (moves : Moves impl.table targets after.table)
    (flying : ∀ {record}, next = some record →
      ∃ stored, after.commands.lookup record.id = some stored ∧ stored.state = .running ∧
        stored.request = record.request)
    (runningOwned : ∀ {id record}, (id ∈ targets ∨ impl.activeMotionId = some id ∨
        inFlight.map CommandRecord.id = some id) →
      after.commands.lookup id = some record → record.state = .running →
      after.activeMotionId = some id ∨ next.map CommandRecord.id = some id)
    (active : ∀ {id record}, after.activeMotionId = some id →
      after.commands.lookup id = some record → isMotionCommand record.request.type = true ∧
        (record.state = .running ∨ record.state = .timedOut))
    (activeIssued : ∀ {id}, after.activeMotionId = some id → id < after.nextCommandId)
    (fresh : ∀ {id record}, impl.nextCommandId ≤ id → after.commands.lookup id = some record →
      isMotionCommand record.request.type = true → id = impl.nextCommandId ∧
        ∀ {old oldRecord}, impl.commands.lookup old = some oldRecord →
          isMotionCommand oldRecord.request.type = true → isTerminal oldRecord.state = true)
    (motionAlone : ∀ {record}, next = some record →
      isMotionCommand record.request.type = true → after.activeMotionId = none)
    (stopProgramTarget : ∀ {record id stored}, next = some record →
      record.request.type = .stopProgram → after.activeMotionId = some id →
      after.commands.lookup id = some stored → stored.request.type = .startProgram)
    (issuedTargets : ∀ id ∈ targets, id < impl.nextCommandId) : Owned after next := by
  have waiting : ∀ {id record}, impl.nextCommandId ≤ id → after.commands.lookup id = some record →
      record.state = .queued := fun unissued found =>
    CommandRecord.phase_waiting_iff.mp
      (moves.new_waiting owned.wellFormed issuedTargets unissued found)
  -- a motion that is unfinished now was already unfinished, or it is new
  have pending : ∀ {id record}, id < impl.nextCommandId → after.commands.lookup id = some record →
      isMotionCommand record.request.type = true → isTerminal record.state = false →
      ∃ old, impl.commands.lookup id = some old ∧
        isMotionCommand old.request.type = true ∧ isTerminal old.state = false := by
    intro id record issued found motion unfinished
    rcases moves.retained issued found with same | ⟨_, old, lookup, rewrite⟩
    · exact ⟨record, same, motion, unfinished⟩
    · exact ⟨old, lookup, rewrite.request_eq ▸ motion, rewrite.unfinished⟩
  refine ⟨moves.wellFormed owned.wellFormed, ?_, flying, ?_, active, activeIssued, ?_, motionAlone,
    stopProgramTarget⟩
  · intro id record found
    rcases Nat.lt_or_ge id impl.nextCommandId with issued | unissued
    · rcases moves.retained issued found with same | ⟨_, old, lookup, rewrite⟩
      · exact owned.agrees same
      · exact rewrite.agrees
    · exact CommandRecord.agrees_of_queued (waiting unissued found)
  · intro id record found running
    rcases Nat.lt_or_ge id impl.nextCommandId with issued | unissued
    · rcases moves.retained issued found with same | ⟨target, _⟩
      · exact runningOwned (Or.inr (owned.runningOwned same running)) found running
      · exact runningOwned (Or.inl target) found running
    · simp [waiting unissued found] at running
  · intro id other record otherRecord found otherFound motion unfinished otherMotion otherUnfinished
    rcases Nat.lt_or_ge id impl.nextCommandId with issued | unissued <;>
      rcases Nat.lt_or_ge other impl.nextCommandId with otherIssued | otherUnissued
    · rcases pending issued found motion unfinished with ⟨old, lookup, oldMotion, oldUnfinished⟩
      rcases pending otherIssued otherFound otherMotion otherUnfinished with
        ⟨otherOld, otherLookup, otherOldMotion, otherOldUnfinished⟩
      exact owned.oneMotion lookup otherLookup oldMotion oldUnfinished otherOldMotion
        otherOldUnfinished
    · rcases pending issued found motion unfinished with ⟨old, lookup, oldMotion, oldUnfinished⟩
      simp [(fresh otherUnissued otherFound otherMotion).2 lookup oldMotion] at oldUnfinished
    · rcases pending otherIssued otherFound otherMotion otherUnfinished with
        ⟨old, lookup, oldMotion, oldUnfinished⟩
      simp [(fresh unissued found motion).2 lookup oldMotion] at oldUnfinished
    · exact (fresh unissued found motion).1.trans
        (fresh otherUnissued otherFound otherMotion).1.symm

/-- Moves that leave the command in flight alone and keep or drop the active motion. -/
theorem of_moves_same (owned : Owned impl inFlight)
    (moves : Moves impl.table targets after.table)
    (apart : ∀ {record}, inFlight = some record → record.id ∉ targets)
    (activeKept : ∀ {id}, after.activeMotionId = some id → impl.activeMotionId = some id)
    (settled : ∀ {id record}, (id ∈ targets ∨ impl.activeMotionId = some id) →
      after.commands.lookup id = some record → record.state = .running →
      after.activeMotionId = some id)
    (timedOut : ∀ {id record}, after.activeMotionId = some id → id ∈ targets →
      after.commands.lookup id = some record →
      record.state = .running ∨ record.state = .timedOut)
    (fresh : ∀ {id record}, impl.nextCommandId ≤ id → after.commands.lookup id = some record →
      isMotionCommand record.request.type = true → id = impl.nextCommandId ∧
        ∀ {old oldRecord}, impl.commands.lookup old = some oldRecord →
          isMotionCommand oldRecord.request.type = true → isTerminal oldRecord.state = true)
    (issuedTargets : ∀ id ∈ targets, id < impl.nextCommandId) : Owned after inFlight := by
  have kept : ∀ {record}, inFlight = some record →
      ∃ stored, after.commands.lookup record.id = some stored ∧ stored.state = .running ∧
        stored.request = record.request := by
    intro record flight
    rcases owned.flying flight with ⟨stored, found, running, request⟩
    have unfinished : commandDiscipline.phase stored ≠ .finished := fun finished => by
      simpa [running, isTerminal] using CommandRecord.phase_finished_iff.mp finished
    exact ⟨stored, moves.unfinished_kept owned.wellFormed (apart flight) found unfinished, running,
      request⟩
  have activeBefore : ∀ {id record}, after.activeMotionId = some id →
      after.commands.lookup id = some record →
      ∃ old, impl.commands.lookup id = some old ∧ old.request = record.request ∧
        (old = record ∨ id ∈ targets) := by
    intro id record isActive found
    rcases moves.retained (owned.activeIssued (activeKept isActive)) found with
      same | ⟨target, old, lookup, rewrite⟩
    · exact ⟨record, same, rfl, Or.inl rfl⟩
    · exact ⟨old, lookup, rewrite.request_eq.symm, Or.inr target⟩
  refine owned.of_moves moves kept ?_ ?_ ?_ fresh ?_ ?_ issuedTargets
  · rintro id record (target | isActive | flight) found running
    · exact Or.inl (settled (Or.inl target) found running)
    · exact Or.inl (settled (Or.inr isActive) found running)
    · exact Or.inr flight
  · intro id record isActive found
    rcases activeBefore isActive found with ⟨old, lookup, request, same | target⟩
    · exact same ▸ owned.active (activeKept isActive) lookup
    · exact ⟨request ▸ (owned.active (activeKept isActive) lookup).1,
        timedOut isActive target found⟩
  · intro id isActive
    exact Nat.lt_of_lt_of_le (owned.activeIssued (activeKept isActive)) moves.nextId_le
  · intro record flight motion
    have none := owned.motionAlone flight motion
    refine Option.eq_none_iff_forall_ne_some.mpr fun id isActive => ?_
    simp [activeKept isActive] at none
  · intro record id stored flight type isActive found
    rcases activeBefore isActive found with ⟨old, lookup, request, _⟩
    exact request ▸ owned.stopProgramTarget flight type (activeKept isActive) lookup

theorem empty {impl : Impl} (commands : impl.commands = ∅) (queue : impl.queue = [])
    (active : impl.activeMotionId = none) : Owned impl none := by
  have absent : ∀ id, impl.commands.lookup id = none := by simp [commands]
  have waiting : impl.table.queue = [] := queue
  refine ⟨⟨?_, ?_, ?_, ?_⟩, ?_, ?_, ?_, ?_, ?_, ?_, ?_, ?_⟩ <;> simp [absent, waiting, active]

/-- Ownership only depends on the table and the active motion. -/
theorem congr (owned : Owned impl inFlight) (table : after.table = impl.table)
    (active : after.activeMotionId = impl.activeMotionId) : Owned after inFlight := by
  have moves : Moves impl.table ∅ after.table := table ▸ .refl _ _
  refine owned.of_moves_same moves (by simp) (by simp [active])
    (fun target _ _ => by simpa [active] using target) (by simp) ?_ (by simp)
  intro id record unissued found
  have absent : impl.table.jobs id = none := (owned.wellFormed.unqueued unissued).2
  rw [← table, table_jobs, found] at absent
  cases absent

theorem requestInternalStopLocked (owned : Owned impl inFlight) (reason : String)
    (now : TimePoint) : Owned (impl.requestInternalStopLocked reason now) inFlight := by
  refine owned.of_moves_same (requestInternalStopLocked_moves owned.wellFormed reason now)
    (by simp) (by simp) (fun target _ _ => by simpa using target) (by simp) ?_ (by simp)
  intro id record unissued found motion
  rcases impl.lookup_of_requestInternalStopLocked reason now found with old | ⟨_, rfl⟩
  · simp [owned.absent unissued] at old
  · cases motion

theorem checkLeasesLocked (owned : Owned impl inFlight) (leases : ControlLeaseManager)
    (now : TimePoint) : Owned (impl.checkLeasesLocked leases now) inFlight := by
  rcases impl.checkLeasesLocked_cases leases now with ⟨_, same⟩ | ⟨reason, same⟩ <;> rw [same]
  · exact owned
  · exact owned.requestInternalStopLocked reason now

/-! ### The active motion -/

/-- Ending the active motion and its tracking. -/
theorem dropActive (owned : Owned impl inFlight) {active : ℕ}
    {change : CommandRecord → CommandRecord} (isActive : impl.activeMotionId = some active)
    (moves : Moves impl.table {id | impl.activeMotionId = some id}
      { impl with commands := impl.commands.modify active change }.table)
    (ended : ∀ record, (change record).state ≠ .running) :
    Owned { impl with
      commands := impl.commands.modify active change
      activeMotionId := none
      activeMotionSeen := false } inFlight := by
  refine owned.of_moves_same moves ?_ (by simp) ?_ (by simp) ?_ ?_
  · rintro record rfl
    exact owned.active_ne_flight
  · intro id record target found running
    have same : id = active := by
      rcases target with target | target <;>
        exact Option.some.inj (target.symm.trans isActive)
    subst same
    simp only [FiniteMap.lookup_modify, if_true, Option.map_eq_some_iff] at found
    rcases found with ⟨old, _, rfl⟩
    exact absurd running (ended old)
  · intro id record unissued found
    simp [FiniteMap.lookup_modify_of_none (owned.absent unissued)] at found
  · exact fun id isActive => owned.activeIssued isActive

theorem settle_ended {state : CommandState} (result : Status) (now : TimePoint)
    (ended : state ≠ .running) (record : CommandRecord) :
    (record.settle state result now).state ≠ .running := by
  unfold CommandRecord.settle
  split
  · next terminal =>
    intro running
    simp [running, isTerminal] at terminal
  · exact ended

/-- A motion that is settled as timed out stays active until it has been stopped. -/
theorem settleTimedOut (owned : Owned impl inFlight) {active : ℕ} (result : Status)
    (now : TimePoint) (isActive : impl.activeMotionId = some active)
    (moves : Moves impl.table {id | impl.activeMotionId = some id}
      { impl with
        commands := impl.commands.modify active
          (CommandRecord.settle .timedOut result now) }.table) :
    Owned { impl with
      commands := impl.commands.modify active (CommandRecord.settle .timedOut result now) }
      inFlight := by
  refine owned.of_moves_same moves ?_ id ?_ ?_ ?_ ?_
  · rintro record rfl
    exact owned.active_ne_flight
  · rintro id record (target | target) _ _ <;> exact target
  · intro id record _ target found
    obtain rfl : active = id := Option.some.inj (isActive.symm.trans target)
    simp only [FiniteMap.lookup_modify, if_true, Option.map_eq_some_iff] at found
    rcases found with ⟨old, lookup, rfl⟩
    rcases (owned.active isActive lookup).2 with running | timedOut
    · simp [CommandRecord.settle, running, isTerminal]
    · simp [CommandRecord.settle, timedOut, isTerminal]
  · intro id record unissued found
    simp [FiniteMap.lookup_modify_of_none (owned.absent unissued)] at found
  · exact fun id isActive => owned.activeIssued isActive

theorem motionUpdate (owned : Owned impl inFlight) {options : ExecutorOptions} {now : TimePoint}
    (update : MotionUpdate options now impl after) : Owned after inFlight := by
  have started : impl.ActiveStarted := owned.activeStarted
  cases update with
  | unchanged => exact owned
  | seen => exact owned.congr rfl rfl
  | vanished isActive absent =>
      refine owned.of_moves_same (.refl _ ∅) (by simp) (by simp) ?_ (by simp) ?_
        (by simp)
      · rintro id record (target | target) found running
        · cases target
        · obtain rfl := Option.some.inj (isActive.symm.trans target)
          cases absent.symm.trans found
      · intro id record unissued found motion
        cases (owned.absent unissued).symm.trans found
  | timedOut isActive =>
      exact (owned.settleTimedOut _ now isActive (settleActive_moves _ _ now started isActive
        .timeOut (by simp))).requestInternalStopLocked _ now
  | failed isActive found danger notOk =>
      rw [requestInternalStopLocked_dropActive]
      exact (owned.dropActive isActive (settleActive_moves _ _ now started isActive .fail
        (by simp [notOk])) (settle_ended _ now (by simp))).requestInternalStopLocked _ now
  | finished isActive =>
      exact (owned.dropActive isActive (settleActive_moves _ _ now started isActive .succeed
        (by simp)) (settle_ended _ now (by simp))).congr rfl rfl

theorem publishLocked (owned : Owned impl inFlight) (options : ExecutorOptions)
    (leases : ControlLeaseManager) (state : StatusOr RobotSnapshot) (now : TimePoint) :
    Owned (impl.publishLocked options leases state now) inFlight := by
  rcases impl.publishLocked_cases options leases state now with ⟨updated, update, _, same⟩
  rw [same]
  exact ((owned.congr (publishState_table options state now impl)
    (publishState_activeMotionId options state now impl)).motionUpdate update).checkLeasesLocked
    leases now

/-! ### The worker -/

theorem dequeueLocked (owned : Owned impl none) (now : TimePoint) :
    Owned (impl.dequeueLocked now).1 (impl.dequeueLocked now).2 := by
  have moves := dequeueLocked_moves owned.wellFormed now
  have dequeue := impl.dequeueLocked_cases now
  generalize (impl.dequeueLocked now).1 = after at dequeue moves ⊢
  generalize (impl.dequeueLocked now).2 = handed at dequeue ⊢
  have issuedTargets : ∀ id ∈ {id | impl.findExecutableCommandLocked = some id},
      id < impl.nextCommandId := by
    intro id executable
    rcases owned.wellFormed.queued (List.mem_of_find?_eq_some executable) with ⟨_, found, _⟩
    exact owned.wellFormed.issued found
  cases dequeue with
  | nothing => exact owned
  | @vanished id front back executable queue absent =>
      have mem : id ∈ impl.queue := by
        rw [queue]
        simp
      rcases owned.wellFormed.queued mem with ⟨record, found, _⟩
      cases absent.symm.trans found
  | @expired id front back command executable queue found expired =>
      have timedOut : ∀ {other record}, impl.findExecutableCommandLocked = some other →
          AList.lookup other (impl.commands.modify id fun record =>
            { record with
              state := .timedOut
              result := ⟨.deadlineExceeded, "command timed out before execution", 0⟩
              updatedAt := now }) = some record → record.state = .timedOut := by
        intro other record target lookup
        obtain rfl := Option.some.inj (executable.symm.trans target)
        simp only [FiniteMap.lookup_modify, if_true, Option.map_eq_some_iff] at lookup
        rcases lookup with ⟨_, _, rfl⟩
        rfl
      refine owned.of_moves_same moves (by simp) (fun isActive => isActive) ?_ ?_ ?_ issuedTargets
      · rintro other record (target | isActive) lookup running
        · simp [timedOut target lookup] at running
        · exact isActive
      · exact fun _ target lookup => Or.inr (timedOut target lookup)
      · intro other record unissued lookup
        simp [FiniteMap.lookup_modify_of_none (owned.absent unissued)] at lookup
  | @started id front back command executable queue found live =>
      have queued := owned.wellFormed.queued_of_append queue found
      have ident : command.id = id := owned.wellFormed.ident_eq found
      have permitted := List.find?_some executable
      have other_lookup : ∀ {other record}, impl.activeMotionId = some other →
          AList.lookup other (impl.commands.modify id fun _ =>
            { command with state := .running, updatedAt := now }) = some record →
          impl.commands.lookup other = some record := by
        intro other record isActive lookup
        rw [FiniteMap.lookup_modify] at lookup
        split at lookup
        · next same =>
          subst same
          exact absurd queued (owned.activeStarted isActive found)
        · exact lookup
      refine owned.of_moves moves ?_ ?_ ?_ ?_ ?_ ?_ ?_ issuedTargets
      · rintro record flight
        obtain rfl := Option.some.inj flight
        exact ⟨_, by simp [ident, found], rfl, rfl⟩
      · rintro other record (target | isActive | flight) lookup running
        · exact Or.inr (by simpa [ident] using executable.symm.trans target)
        · exact Or.inl isActive
        · cases flight
      · exact fun isActive lookup => owned.active isActive (other_lookup isActive lookup)
      · exact fun isActive => owned.activeIssued isActive
      · intro other record unissued lookup
        simp [FiniteMap.lookup_modify_of_none (owned.absent unissued)] at lookup
      · intro record flight motion
        obtain rfl := Option.some.inj flight
        refine Option.eq_none_iff_forall_ne_some.mpr fun active isActive => ?_
        rcases isExecutable_active permitted found isActive with during | ⟨type, _⟩
        · cases type : command.request.type <;>
            simp [type, isMotionCommand, canRunDuringMotion] at motion during
        · simp [type, isMotionCommand] at motion
      · intro record active stored flight type isActive lookup
        obtain rfl := Option.some.inj flight
        rcases isExecutable_active permitted found isActive with
          during | ⟨_, target, targetLookup, program⟩
        · simp [show command.request.type = .stopProgram from type, canRunDuringMotion] at during
        · obtain rfl := Option.some.inj (targetLookup.symm.trans (other_lookup isActive lookup))
          exact program

/-- The command in flight ends without becoming the active motion. -/
theorem finished {record : CommandRecord} (owned : Owned impl (some record))
    {state : CommandState} {result : Status} {now : TimePoint} (ended : state ≠ .running)
    (moves : Moves impl.table {record.id} (impl.finished record state result now).table) :
    Owned (impl.finished record state result now) none := by
  have recorded : ∀ {stored}, (impl.commands.modify record.id
      (finishRecord state result now)).lookup record.id = some stored →
      stored.state = state := by
    intro stored found
    simp only [FiniteMap.lookup_modify, if_true, Option.map_eq_some_iff] at found
    rcases found with ⟨_, _, rfl⟩
    rfl
  refine owned.of_moves moves (by simp) ?_ ?_ owned.activeIssued ?_ (by simp) (by simp) ?_
  · rintro id stored (target | isActive | flight) found running
    · obtain rfl : id = record.id := target
      exact absurd ((recorded found).symm.trans running) ended
    · exact Or.inl isActive
    · obtain rfl : record.id = id := Option.some.inj flight
      exact absurd ((recorded found).symm.trans running) ended
  · intro id stored isActive found
    have different : id ≠ record.id := fun same => owned.active_ne_flight (same ▸ isActive)
    exact owned.active isActive (by simpa [Impl.finished, different] using found)
  · intro id stored unissued found
    simp [Impl.finished, FiniteMap.lookup_modify_of_none (owned.absent unissued)] at found
  · rintro id rfl
    rcases owned.flying rfl with ⟨stored, found, _⟩
    exact owned.wellFormed.issued found

/-- The motion in flight becomes the active motion. -/
theorem activated {record : CommandRecord} (owned : Owned impl (some record))
    (motion : isMotionCommand record.request.type = true) (result : Status) (now : TimePoint) :
    Owned (impl.activated record result now) none := by
  have moves := activated_moves owned.flightRunning result now
  rcases owned.flying rfl with ⟨flying, flyingLookup, running, request⟩
  have issued := owned.wellFormed.issued flyingLookup
  refine owned.of_moves moves (by simp) ?_ ?_ ?_ ?_ (by simp) (by simp) ?_
  · rintro id stored (target | isActive | flight) found _
    · obtain rfl : id = record.id := target
      exact Or.inl rfl
    · simp [owned.motionAlone rfl motion] at isActive
    · exact Or.inl flight
  · intro id stored isActive found
    obtain rfl : record.id = id := Option.some.inj isActive
    simp only [Impl.activated, FiniteMap.lookup_modify, if_true, flyingLookup, Option.map_some,
      Option.some.injEq] at found
    subst found
    exact ⟨by simpa [request] using motion, Or.inl running⟩
  · rintro id isActive
    obtain rfl : record.id = id := Option.some.inj isActive
    exact issued
  · intro id stored unissued found
    simp [Impl.activated, FiniteMap.lookup_modify_of_none (owned.absent unissued)] at found
  · rintro id rfl
    exact issued

theorem completeActiveMotionLocked (owned : Owned impl inFlight) (now : TimePoint) :
    Owned (impl.completeActiveMotionLocked .stopped now) inFlight := by
  have moves := completeActiveMotionLocked_moves owned.activeStarted now
  unfold Impl.completeActiveMotionLocked at moves ⊢
  split
  · exact owned
  next active isActive =>
  rw [isActive] at moves
  refine owned.dropActive isActive (by rw [isActive]; exact moves) fun record => ?_
  split
  · next terminal =>
    intro running
    simp [running, isTerminal] at terminal
  · simp

theorem completeActiveProgramLocked (owned : Owned impl inFlight) (now : TimePoint) :
    Owned (impl.completeActiveProgramLocked now) inFlight := by
  unfold Impl.completeActiveProgramLocked
  split
  · exact owned
  split
  · exact owned
  · exact owned.completeActiveMotionLocked now

theorem ordinaryCompletion (owned : Owned impl inFlight) {options : ExecutorOptions}
    {now : TimePoint} {record : CommandRecord}
    (completion : OrdinaryCompletion options now record impl after) : Owned after inFlight := by
  cases completion with
  | plain => exact owned
  | loaded | jogStarted | jogEnded => exact owned.congr rfl rfl
  | jogStartedWithoutLease =>
      have jogging : Owned { impl with
          jogActive := true
          activeJogClientId := record.request.clientId
          activeJogLeaseId := record.request.leaseId
          jogDeadline := now.addMs options.jogHeartbeatTimeout } inFlight := owned.congr rfl rfl
      exact jogging.requestInternalStopLocked _ now
  | stopped => exact (owned.completeActiveMotionLocked now).congr rfl rfl
  | programStopped => exact (owned.completeActiveProgramLocked now).congr rfl rfl

theorem completeLocked {record : CommandRecord} (owned : Owned impl (some record))
    (options : ExecutorOptions) (leases : ControlLeaseManager) (now : TimePoint)
    (result : Status) : Owned (impl.completeLocked options leases now record result) none := by
  have running : impl.FlightRunning record := owned.flightRunning
  have completion := impl.completeLocked_cases options leases now record result
  generalize impl.completeLocked options leases now record result = after at completion ⊢
  cases completion with
  | missing absent =>
      rcases owned.flying rfl with ⟨stored, found, _⟩
      cases absent.symm.trans found
  | failed notOk =>
      exact owned.finished (by simp) (finished_moves _ _ running now .fail
        (by simp [notOk]))
  | superseded motion isActive =>
      cases (owned.motionAlone rfl motion).symm.trans isActive
  | activated ok motion => exact owned.activated motion result now
  | activatedWithoutLease ok motion =>
      exact (owned.activated motion result now).requestInternalStopLocked _ now
  | ordinary ok =>
      exact (owned.finished (by simp) (finished_moves _ _ running now .succeed
        (by simp [ok]))).ordinaryCompletion (completeOrdinaryLocked_cases _ _ _ _ _)

/-! ### Clients and shutdown -/

/-- Cancelling queued commands. -/
theorem cancel (owned : Owned impl inFlight)
    (moves : Moves impl.table {id | id ∈ impl.queue} after.table)
    (active : after.activeMotionId = impl.activeMotionId)
    (cancelled : ∀ {id record}, after.commands.lookup id = some record →
      impl.commands.lookup id = some record ∨ record.state = .cancelled) :
    Owned after inFlight := by
  refine owned.of_moves_same moves ?_ (by simp [active]) ?_ ?_ ?_ ?_
  · rintro record rfl
    exact owned.flight_not_queued
  · rintro id record (target | isActive) found running
    · rcases cancelled found with old | state
      · rcases owned.wellFormed.queued target with ⟨stored, lookup, queued⟩
        obtain rfl := Option.some.inj (old.symm.trans lookup)
        simp [queued] at running
      · simp [state] at running
    · exact active.trans isActive
  · intro id record isActive target found
    rcases owned.wellFormed.queued target with ⟨stored, lookup, queued⟩
    exact absurd queued (owned.activeStarted (active ▸ isActive) lookup)
  · intro id record unissued found motion
    have waiting := moves.new_waiting owned.wellFormed (fun id mem => ?_) unissued found
    · rcases cancelled found with old | state
      · cases (owned.absent unissued).symm.trans old
      · simp [CommandRecord.phase_waiting_iff.mp waiting] at state
    · rcases owned.wellFormed.queued mem with ⟨_, lookup, _⟩
      exact owned.wellFormed.issued lookup
  · intro id mem
    rcases owned.wellFormed.queued mem with ⟨_, lookup, _⟩
    exact owned.wellFormed.issued lookup

theorem makeRoomLocked_lookup {roomy : Impl} {options : ExecutorOptions}
    {request : CommandRequest} {now : TimePoint}
    (room : impl.makeRoomLocked options request now = .ok roomy) {id : ℕ} {record : CommandRecord}
    (found : roomy.commands.lookup id = some record) :
    impl.commands.lookup id = some record ∨ record.state = .cancelled := by
  rcases makeRoomLocked_cases room with rfl | ⟨displaced, front, back, _, _, rfl⟩
  · exact Or.inl found
  · rw [FiniteMap.lookup_modify] at found
    split at found
    · rcases Option.map_eq_some_iff.mp found with ⟨_, _, rfl⟩
      exact Or.inr rfl
    · exact Or.inl found

theorem makeRoomLocked (owned : Owned impl inFlight) {roomy : Impl} {options : ExecutorOptions}
    {request : CommandRequest} {now : TimePoint}
    (room : impl.makeRoomLocked options request now = .ok roomy) : Owned roomy inFlight := by
  refine owned.cancel ((makeRoomLocked_moves owned.wellFormed room).mono fun id target => target.1)
    ?_ (makeRoomLocked_lookup room)
  rcases makeRoomLocked_cases room with rfl | ⟨displaced, front, back, _, _, rfl⟩ <;> rfl

theorem pruneCommandHistoryLocked (owned : Owned impl inFlight) (options : ExecutorOptions)
    (traversal : Traversal) :
    Owned (impl.pruneCommandHistoryLocked options traversal) inFlight := by
  have moves := pruneCommandHistoryLocked_moves options traversal impl
  rcases pruneLoop_eq options traversal impl.commands.size impl with
    ⟨commands, idempotency, eq, retained⟩
  rw [Impl.pruneCommandHistoryLocked, eq] at moves ⊢
  refine owned.of_moves_same moves (by simp) (fun isActive => isActive) ?_ (by simp) ?_ (by simp)
  · rintro id record (target | isActive) _ _
    · cases target
    · exact isActive
  · intro id record unissued found
    cases (owned.absent unissued).symm.trans (retained found)

/-- A new command keeps ownership, provided that a new motion is the only unfinished one. -/
theorem enqueueLocked (owned : Owned impl inFlight) (request : CommandRequest) (now : TimePoint)
    (exclusive : isMotionCommand request.type = true → ∀ {id record},
      impl.commands.lookup id = some record → isMotionCommand record.request.type = true →
      isTerminal record.state = true) : Owned (impl.enqueueLocked request now) inFlight := by
  refine owned.of_moves_same (enqueueLocked_moves owned.wellFormed request now) (by simp)
    (fun isActive => isActive) ?_ (by simp) ?_ (by simp)
  · rintro id record (target | isActive) _ _
    · cases target
    · exact isActive
  · intro id record unissued found motion
    simp only [Impl.enqueueLocked] at found
    rw [FiniteMap.emplace_of_lookup_none _ owned.wellFormed.lookup_nextCommandId,
      FiniteMap.lookup_insert_eq] at found
    split at found
    · next same =>
      obtain rfl := Option.some.inj found
      exact ⟨same, exclusive motion⟩
    · cases (owned.absent unissued).symm.trans found

theorem submitLocked (owned : Owned impl inFlight) (options : ExecutorOptions)
    (traversal : Traversal) (request : CommandRequest) (now : TimePoint) :
    Owned (impl.submitLocked options traversal request now).2 inFlight := by
  have submission := impl.submitLocked_cases options traversal request now
  generalize (impl.submitLocked options traversal request now).1 = result at submission
  generalize (impl.submitLocked options traversal request now).2 = after at submission ⊢
  cases submission with
  | refused | known => exact owned
  | full fresh room => exact (owned.makeRoomLocked room).pruneCommandHistoryLocked options traversal
  | @accepted roomy running accepting fresh exclusive loaded room slot =>
      refine ((owned.makeRoomLocked room).pruneCommandHistoryLocked options
        traversal).enqueueLocked request now fun motion => ?_
      intro id record found recordMotion
      rcases pruneLoop_eq options traversal roomy.commands.size roomy with
        ⟨commands, idempotency, eq, retained⟩
      rw [Impl.pruneCommandHistoryLocked, eq] at found
      rcases makeRoomLocked_lookup room (retained found) with old | cancelled
      · exact motionPending_eq_false (exclusive motion) old recordMotion
      · simp [cancelled, isTerminal]

theorem releaseLocked (owned : Owned impl inFlight) (leaseId clientId : String)
    (now : TimePoint) : Owned (impl.releaseLocked leaseId clientId now) inFlight := by
  have cancelled : Owned (impl.cancelQueuedCommandsForLeaseLocked leaseId clientId now) inFlight :=
    owned.cancel ((cancelQueued_moves leaseId clientId now impl.nextCommandId [] impl.queue
      impl.commands owned.wellFormed).mono fun id target => target.1) rfl cancelQueued_lookup
  rcases impl.releaseLocked_cases leaseId clientId now with same | same <;> rw [same]
  · exact cancelled
  · exact cancelled.requestInternalStopLocked _ now

theorem shutdownLocked (owned : Owned impl inFlight) (stopStatus : Status) (now : TimePoint) :
    Owned (impl.shutdownLocked stopStatus now) inFlight := by
  have cancelled : Owned (impl.cancelCommandsForShutdownLocked now) inFlight :=
    owned.cancel (cancelCommandsForShutdown_moves now impl.nextCommandId impl.queue impl.commands
      owned.wellFormed) rfl cancelCommandsForShutdown_lookup
  unfold Impl.shutdownLocked
  dsimp only
  split
  · exact cancelled.congr rfl rfl
  · next active isActive =>
    refine (cancelled.dropActive isActive (settleActive_moves
      (if stopStatus.ok then .stopped else .failed) stopStatus now cancelled.activeStarted isActive
      ?_ ?_) (settle_ended _ now ?_)).congr rfl rfl
    · split
      · exact .stop
      · exact .fail
    · cases stopStatus.ok <;> simp
    · split <;> simp

end Owned

end Impl

end RobotManager
