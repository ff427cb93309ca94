import RobotManager.Control.ExecutorSections

/-!
# What each critical section can do

One inversion lemma for each section of `mutex_` that branches.  It lists the states
the section can leave, with the conditions under which it leaves them, so that the
proofs of invariants need not unfold the sections again.
-/

namespace RobotManager

namespace Impl

/-! ### Internal stops -/

section InternalStop

variable (reason : String) (now : TimePoint) (impl : Impl)

/-- A second request finds the flag of the first. -/
theorem requestInternalStopLocked_twice (second : String) :
    (impl.requestInternalStopLocked reason now).requestInternalStopLocked second now =
      impl.requestInternalStopLocked reason now := by
  cases requested : impl.stopRequested <;> simp [requestInternalStopLocked, requested]

@[simp]
theorem requestInternalStopLocked_stopRequested :
    (impl.requestInternalStopLocked reason now).stopRequested = true := by
  cases requested : impl.stopRequested <;> simp [requestInternalStopLocked, requested]

@[simp]
theorem requestInternalStopLocked_activeMotionId :
    (impl.requestInternalStopLocked reason now).activeMotionId = impl.activeMotionId := by
  unfold requestInternalStopLocked
  split <;> rfl

@[simp]
theorem requestInternalStopLocked_activeMotionSeen :
    (impl.requestInternalStopLocked reason now).activeMotionSeen = impl.activeMotionSeen := by
  unfold requestInternalStopLocked
  split <;> rfl

/-- Dropping the active motion before or after the request makes no difference. -/
theorem requestInternalStopLocked_dropActive :
    { impl.requestInternalStopLocked reason now with
      activeMotionId := none
      activeMotionSeen := false } =
      requestInternalStopLocked reason now
        { impl with activeMotionId := none, activeMotionSeen := false } := by
  unfold requestInternalStopLocked
  split <;> rfl

/-- A request keeps every record. -/
theorem lookup_requestInternalStopLocked {reason : String} {now : TimePoint} {impl : Impl} {id : ℕ}
    {record : CommandRecord} (found : impl.commands.lookup id = some record) :
    (impl.requestInternalStopLocked reason now).commands.lookup id = some record := by
  unfold requestInternalStopLocked FiniteMap.emplace
  split
  · exact found
  dsimp only
  split
  · exact found
  next absent =>
  rw [FiniteMap.lookup_insert_eq, if_neg ?_]
  · exact found
  · rintro rfl
    apply absent
    exact FiniteMap.mem_of_lookup found

/-- The only record a request can add is the stop itself. -/
theorem lookup_of_requestInternalStopLocked {id : ℕ} {record : CommandRecord}
    (found : (impl.requestInternalStopLocked reason now).commands.lookup id = some record) :
    impl.commands.lookup id = some record ∨
      (id = impl.nextCommandId ∧ record = internalStop impl.nextCommandId reason now) := by
  unfold requestInternalStopLocked FiniteMap.emplace at found
  split at found
  · exact Or.inl found
  dsimp only at found
  split at found
  · exact Or.inl found
  rw [FiniteMap.lookup_insert_eq] at found
  split at found
  · next same => exact Or.inr ⟨same, (Option.some.inj found).symm⟩
  · exact Or.inl found

end InternalStop

/-! ### The active motion -/

/-- Whether a snapshot shows a motion command of the given type in progress. -/
def showsMotion (type : CommandType) (snapshot : RobotSnapshot) : Bool :=
  if type = .startProgram then snapshot.programRunning else snapshot.moving

/-- The outcomes of `UpdateActiveMotionLocked`. -/
inductive MotionUpdate (options : ExecutorOptions) (now : TimePoint) (impl : Impl) :
    Impl → Prop where
  | unchanged : MotionUpdate options now impl impl
  | vanished {active : ℕ} (isActive : impl.activeMotionId = some active)
      (absent : impl.commands.lookup active = none) :
      MotionUpdate options now impl { impl with activeMotionId := none }
  | timedOut {active : ℕ} {command : CommandRecord} (isActive : impl.activeMotionId = some active)
      (found : impl.commands.lookup active = some command)
      (expired : command.expired now = true) :
      MotionUpdate options now impl
        (requestInternalStopLocked "motion command timed out" now
          { impl with
            commands := impl.commands.modify active (CommandRecord.settle .timedOut
              ⟨.deadlineExceeded, "motion command timed out", 0⟩ now) })
  | failed {active : ℕ} {command : CommandRecord} {result : Status}
      (isActive : impl.activeMotionId = some active)
      (found : impl.commands.lookup active = some command)
      (danger : unsafeLifecycle impl.latestState.lifecycle = true) (notOk : result.ok = false) :
      MotionUpdate options now impl
        { requestInternalStopLocked "robot state became unsafe" now
            { impl with
              commands := impl.commands.modify active
                (CommandRecord.settle .failed result now) } with
          activeMotionId := none
          activeMotionSeen := false }
  | seen {active : ℕ} {command : CommandRecord} (isActive : impl.activeMotionId = some active)
      (found : impl.commands.lookup active = some command) (live : command.expired now = false)
      (safe : unsafeLifecycle impl.latestState.lifecycle = false)
      (unpaused : impl.latestState.paused = false)
      (shown : showsMotion command.request.type impl.latestState = true) :
      MotionUpdate options now impl { impl with activeMotionSeen := true }
  | finished {active : ℕ} {command : CommandRecord} (isActive : impl.activeMotionId = some active)
      (found : impl.commands.lookup active = some command) (live : command.expired now = false)
      (safe : unsafeLifecycle impl.latestState.lifecycle = false)
      (unpaused : impl.latestState.paused = false)
      (idle : showsMotion command.request.type impl.latestState = false)
      (due : impl.activeMotionSeen = true ∨
        elapsedAtLeast now impl.activeMotionStartedAt options.motionStartGrace = true) :
      MotionUpdate options now impl (impl.finishActiveMotionLocked active now)

theorem updateActiveMotionLocked_cases (options : ExecutorOptions) (now : TimePoint)
    (impl : Impl) : MotionUpdate options now impl (impl.updateActiveMotionLocked options now) := by
  unfold updateActiveMotionLocked
  split
  · exact .unchanged
  next active isActive =>
  split
  · next absent => exact .vanished isActive absent
  next command found =>
  split
  · next expired => exact .timedOut isActive found expired
  next live =>
  have live : command.expired now = false := by simpa using live
  split
  · next danger =>
    refine .failed isActive found danger ?_
    split <;> rfl
  next safe =>
  have safe : unsafeLifecycle impl.latestState.lifecycle = false := by simpa using safe
  split
  · exact .unchanged
  next unpaused =>
  have unpaused : impl.latestState.paused = false := by simpa using unpaused
  split
  · next program =>
    split
    · next shown =>
      exact .seen isActive found live safe unpaused (by simpa [showsMotion, program] using shown)
    · next idle =>
      split
      · next due =>
        exact .finished isActive found live safe unpaused
          (by simpa [showsMotion, program] using idle) (by simpa using due)
      · exact .unchanged
  · next program =>
    split
    · next shown =>
      exact .seen isActive found live safe unpaused (by simpa [showsMotion, program] using shown)
    · next idle =>
      split
      · next due =>
        exact .finished isActive found live safe unpaused
          (by simpa [showsMotion, program] using idle) (by simpa using due)
      · exact .unchanged

/-! ### Watchdogs -/

/-- Whether the lease of the active motion or the running jog calls for a stop. -/
def watchdogDue (leases : ControlLeaseManager) (now : TimePoint) (impl : Impl) : Prop :=
  (impl.activeMotionId.isSome = true ∧ impl.activeMotionLeaseIsValidLocked leases now = false) ∨
    (impl.jogActive = true ∧ (impl.jogDeadline ≤ now ∨
      leases.isValid impl.activeJogLeaseId impl.activeJogClientId now = false))

theorem checkLeasesLocked_cases (leases : ControlLeaseManager) (now : TimePoint) (impl : Impl) :
    (¬impl.watchdogDue leases now ∧ impl.checkLeasesLocked leases now = impl) ∨
      ∃ reason, impl.checkLeasesLocked leases now = impl.requestInternalStopLocked reason now := by
  unfold checkLeasesLocked
  by_cases motion : impl.activeMotionId.isSome ∧ !impl.activeMotionLeaseIsValidLocked leases now
  · refine Or.inr ⟨"control lease expired", ?_⟩
    simp only [if_pos motion, requestInternalStopLocked_twice, ite_self]
  · simp only [if_neg motion]
    split
    · exact Or.inr ⟨_, rfl⟩
    · next jog =>
      refine Or.inl ⟨?_, rfl⟩
      simp only [Bool.not_eq_true'] at motion jog
      exact not_or.mpr ⟨motion, jog⟩

/-- The publish-and-check section publishes, updates the active motion and checks the leases. -/
theorem publishLocked_cases (options : ExecutorOptions) (leases : ControlLeaseManager)
    (state : StatusOr RobotSnapshot) (now : TimePoint) (impl : Impl) :
    ∃ updated, MotionUpdate options now (impl.publishState options state now).1 updated ∧
      ((impl.publishState options state now).2 = false →
        updated = (impl.publishState options state now).1) ∧
      impl.publishLocked options leases state now = updated.checkLeasesLocked leases now := by
  unfold publishLocked
  rcases impl.publishState options state now with ⟨published, update⟩
  cases update with
  | true => exact ⟨_, updateActiveMotionLocked_cases _ _ _, by simp, rfl⟩
  | false => exact ⟨_, .unchanged, fun _ => rfl, rfl⟩

/-! ### Dequeuing -/

/-- While a motion is active, only commands that may run beside it are executable. -/
theorem isExecutable_active {impl : Impl} {id active : ℕ} {record : CommandRecord}
    (executable : impl.isExecutable id = true) (found : impl.commands.lookup id = some record)
    (isActive : impl.activeMotionId = some active) :
    canRunDuringMotion record.request.type = true ∨
      (record.request.type = .stopProgram ∧ ∃ stored,
        impl.commands.lookup active = some stored ∧ stored.request.type = .startProgram) := by
  simp only [isExecutable, found, isActive, reduceCtorEq, if_false, Option.bind_some] at executable
  split at executable
  · next during => exact Or.inl during
  split at executable
  · cases executable
  next type =>
  split at executable
  · cases executable
  next stored lookup =>
  exact Or.inr ⟨not_not.mp type, stored, lookup, by simpa using executable⟩

/-- Removing the first element that satisfies a predicate splits the list around it. -/
theorem find?_eraseP {Element : Type*} {p : Element → Bool} {list : List Element}
    {element : Element} (found : list.find? p = some element) :
    ∃ front back, list = front ++ element :: back ∧ list.eraseP p = front ++ back := by
  rcases List.find?_eq_some_iff_append.mp found with ⟨holds, front, back, rfl, before⟩
  refine ⟨front, back, rfl, ?_⟩
  rw [List.eraseP_append_right _ fun other mem => by simpa using before other mem,
    List.eraseP_cons_of_pos holds]

/-- The outcomes of the dequeue section: the state and the record handed on. -/
inductive Dequeue (now : TimePoint) (impl : Impl) : Impl → Option CommandRecord → Prop where
  | nothing (nothing : impl.findExecutableCommandLocked = none) : Dequeue now impl impl none
  | vanished {id : ℕ} {front back : List ℕ}
      (executable : impl.findExecutableCommandLocked = some id)
      (queue : impl.queue = front ++ id :: back) (absent : impl.commands.lookup id = none) :
      Dequeue now impl { impl with queue := front ++ back } none
  | expired {id : ℕ} {front back : List ℕ} {command : CommandRecord}
      (executable : impl.findExecutableCommandLocked = some id)
      (queue : impl.queue = front ++ id :: back)
      (found : impl.commands.lookup id = some command) (expired : command.expired now = true) :
      Dequeue now impl
        { impl with
          queue := front ++ back
          commands := impl.commands.modify id fun record =>
            { record with
              state := .timedOut
              result := ⟨.deadlineExceeded, "command timed out before execution", 0⟩
              updatedAt := now } } none
  | started {id : ℕ} {front back : List ℕ} {command : CommandRecord}
      (executable : impl.findExecutableCommandLocked = some id)
      (queue : impl.queue = front ++ id :: back)
      (found : impl.commands.lookup id = some command) (live : command.expired now = false) :
      Dequeue now impl
        { impl with
          queue := front ++ back
          commands := impl.commands.modify id fun _ =>
            { command with state := .running, updatedAt := now } }
        (some { command with state := .running, updatedAt := now })

theorem dequeueLocked_cases (now : TimePoint) (impl : Impl) :
    Dequeue now impl (impl.dequeueLocked now).1 (impl.dequeueLocked now).2 := by
  unfold dequeueLocked
  split
  · next nothing => exact .nothing nothing
  next id executable =>
  rcases find?_eraseP executable with ⟨front, back, queue, erased⟩
  simp only [erased]
  split
  · next absent => exact .vanished executable queue absent
  next command found =>
  split
  · next expired => exact .expired executable queue found expired
  · next live => exact .started executable queue found (by simpa using live)

/-- What the dequeue section hands to the worker is a live executable command. -/
theorem dequeueLocked_handed {now : TimePoint} {impl : Impl} {handed : CommandRecord}
    (started : (impl.dequeueLocked now).2 = some handed) :
    ∃ id command, impl.findExecutableCommandLocked = some id ∧
      impl.commands.lookup id = some command ∧ command.expired now = false ∧
      handed = { command with state := .running, updatedAt := now } := by
  have dequeue := impl.dequeueLocked_cases now
  generalize (impl.dequeueLocked now).1 = after at dequeue
  rw [started] at dequeue
  cases dequeue with
  | started executable _ found live => exact ⟨_, _, executable, found, live, rfl⟩

/-! ### Submitting -/

/-- The outcomes of the final section of `Submit`. -/
inductive Submission (options : ExecutorOptions) (traversal : Traversal)
    (request : CommandRequest) (now : TimePoint) (impl : Impl) : SubmitResult → Impl → Prop where
  | refused (status : Status) : Submission options traversal request now impl (.refused status) impl
  | known {result : SubmitResult} (existing : impl.findExisting request = some result) :
      Submission options traversal request now impl result impl
  | full {roomy : Impl} (fresh : impl.findExisting request = none)
      (room : impl.makeRoomLocked options request now = .ok roomy) (status : Status) :
      Submission options traversal request now impl (.refused status)
        (roomy.pruneCommandHistoryLocked options traversal)
  | accepted {roomy : Impl} (running : impl.running = true) (accepting : impl.shuttingDown = false)
      (fresh : impl.findExisting request = none)
      (exclusive : isMotionCommand request.type = true → impl.motionPending = false)
      (loaded : request.type = .startProgram → impl.loadedApprovedProgram ≠ "")
      (room : impl.makeRoomLocked options request now = .ok roomy)
      (slot : (roomy.pruneCommandHistoryLocked options traversal).commands.size <
        options.maximumCommandHistory) :
      Submission options traversal request now impl
        (.accepted (roomy.pruneCommandHistoryLocked options traversal).nextCommandId)
        ((roomy.pruneCommandHistoryLocked options traversal).enqueueLocked request now)

theorem submitLocked_cases (options : ExecutorOptions) (traversal : Traversal)
    (request : CommandRequest) (now : TimePoint) (impl : Impl) :
    Submission options traversal request now impl
      (impl.submitLocked options traversal request now).1
      (impl.submitLocked options traversal request now).2 := by
  unfold submitLocked
  split
  · exact .refused _
  next serving =>
  have serving : impl.running = true ∧ impl.shuttingDown = false := by simpa using serving
  split
  · next existing => exact .known existing
  next fresh =>
  split
  · exact .refused _
  next exclusive =>
  split
  · exact .refused _
  next loaded =>
  split
  · exact .refused _
  next roomy room =>
  dsimp only
  split
  · exact .full fresh room _
  next slot =>
  exact .accepted serving.1 serving.2 fresh (by simpa using exclusive)
    (fun type empty => loaded ⟨type, empty⟩) room (Nat.lt_of_not_le slot)

/-- The outcomes of making room in the queue. -/
theorem makeRoomLocked_cases {options : ExecutorOptions} {request : CommandRequest}
    {now : TimePoint} {impl roomy : Impl}
    (room : impl.makeRoomLocked options request now = .ok roomy) :
    roomy = impl ∨ ∃ id front back, impl.isDisplaceable id = true ∧
      impl.queue = front ++ id :: back ∧
      roomy = { impl with
        commands := impl.commands.modify id fun record =>
          { record with
            state := .cancelled
            result := ⟨.resourceExhausted, "command was displaced by a safety stop", 0⟩
            updatedAt := now }
        queue := front ++ back } := by
  unfold makeRoomLocked at room
  split at room
  · exact Or.inl (Except.ok.inj room).symm
  split at room
  · cases room
  split at room
  · cases room
  next displaced displacement =>
  obtain rfl : displaced = roomy := Except.ok.inj room
  unfold displaceNewestLocked at displacement
  split at displacement
  · cases displacement
  next id found =>
  rcases find?_eraseP found with ⟨front, back, queue, erased⟩
  refine Or.inr ⟨id, back.reverse, front.reverse, List.find?_some found, ?_, ?_⟩
  · simpa using congrArg List.reverse queue
  · rw [← Option.some.inj displacement, erased, List.reverse_append]

/-- The outcomes of cancelling the queued commands of a lease. -/
theorem cancelQueued_lookup {leaseId clientId : String} {now : TimePoint} {rest : List ℕ}
    {commands : FiniteMap ℕ CommandRecord} {id : ℕ} {record : CommandRecord}
    (found : (cancelQueued leaseId clientId now rest commands).2.lookup id = some record) :
    commands.lookup id = some record ∨ record.state = .cancelled := by
  induction rest generalizing commands with
  | nil => exact Or.inl found
  | cons first rest ih =>
      simp only [cancelQueued] at found
      split at found
      · exact ih found
      split at found
      · exact ih found
      rcases ih found with old | cancelled
      · rw [FiniteMap.lookup_modify] at old
        split at old
        · rcases Option.map_eq_some_iff.mp old with ⟨before, _, rfl⟩
          exact Or.inr rfl
        · exact Or.inl old
      · exact Or.inr cancelled

theorem cancelCommandsForShutdown_lookup {now : TimePoint} {rest : List ℕ}
    {commands : FiniteMap ℕ CommandRecord} {id : ℕ} {record : CommandRecord}
    (found : (rest.foldl (fun commands id => commands.modify id
      (CommandRecord.settle .cancelled ⟨.unavailable, "command executor shut down", 0⟩ now))
      commands).lookup id = some record) :
    commands.lookup id = some record ∨ record.state = .cancelled := by
  induction rest generalizing commands with
  | nil => exact Or.inl found
  | cons first rest ih =>
      rcases ih found with old | cancelled
      · rw [FiniteMap.lookup_modify] at old
        split at old
        · next same =>
          rcases Option.map_eq_some_iff.mp old with ⟨before, lookup, rfl⟩
          unfold CommandRecord.settle
          split
          · exact Or.inl (same ▸ lookup)
          · exact Or.inr rfl
        · exact Or.inl old
      · exact Or.inr cancelled

/-- Pruning only erases records and idempotency entries. -/
theorem pruneLoop_eq (options : ExecutorOptions) (traversal : Traversal) (rounds : ℕ)
    (impl : Impl) :
    ∃ commands idempotency, pruneLoop options traversal rounds impl =
        { impl with commands := commands, idempotency := idempotency } ∧
      ∀ {id record}, commands.lookup id = some record → impl.commands.lookup id = some record := by
  induction rounds generalizing impl with
  | zero => exact ⟨_, _, rfl, fun found => found⟩
  | succ rounds ih =>
      simp only [pruneLoop]
      split
      · exact ⟨_, _, rfl, fun found => found⟩
      split
      · exact ⟨_, _, rfl, fun found => found⟩
      next oldest _ =>
      rcases ih { impl with
        idempotency := impl.idempotency.erase (idempotencyMapKey oldest.2.request)
        commands := impl.commands.erase oldest.1 } with ⟨commands, idempotency, eq, retained⟩
      refine ⟨commands, idempotency, eq, fun {id record} found => ?_⟩
      have kept := retained found
      rw [FiniteMap.lookup_erase_eq] at kept
      split at kept
      · cases kept
      · exact kept

/-- `Submit` changes the records, the queue, the counter and the idempotency map only. -/
theorem submitLocked_eq (options : ExecutorOptions) (traversal : Traversal)
    (request : CommandRequest) (now : TimePoint) (impl : Impl) :
    ∃ commands idempotency queue nextId,
      (impl.submitLocked options traversal request now).2 = { impl with
        commands := commands
        idempotency := idempotency
        queue := queue
        nextCommandId := nextId } := by
  have submission := impl.submitLocked_cases options traversal request now
  generalize (impl.submitLocked options traversal request now).1 = result at submission
  generalize (impl.submitLocked options traversal request now).2 = after at submission ⊢
  cases submission with
  | refused | known => exact ⟨_, _, _, _, rfl⟩
  | @full roomy fresh room =>
      rcases pruneLoop_eq options traversal roomy.commands.size roomy with ⟨_, _, eq, _⟩
      rw [pruneCommandHistoryLocked, eq]
      rcases makeRoomLocked_cases room with rfl | ⟨_, _, _, _, _, rfl⟩ <;> exact ⟨_, _, _, _, rfl⟩
  | @accepted roomy _ _ fresh _ _ room =>
      rcases pruneLoop_eq options traversal roomy.commands.size roomy with ⟨_, _, eq, _⟩
      rw [pruneCommandHistoryLocked, eq, enqueueLocked]
      rcases makeRoomLocked_cases room with rfl | ⟨_, _, _, _, _, rfl⟩ <;> exact ⟨_, _, _, _, rfl⟩

theorem motionPending_eq_false {impl : Impl} (none : impl.motionPending = false) {id : ℕ}
    {record : CommandRecord} (found : impl.commands.lookup id = some record)
    (motion : isMotionCommand record.request.type = true) : isTerminal record.state = true := by
  rw [motionPending, List.any_eq_false] at none
  simpa [motion] using none ⟨id, record⟩ (FiniteMap.mem_entries_iff.mpr found)

/-! ### Completing -/

/-- How the completion section rewrites the record of the command that has been run. -/
def finishRecord (state : CommandState) (result : Status) (now : TimePoint)
    (record : CommandRecord) : CommandRecord :=
  { record with state := state, result := result, updatedAt := now }

/-- The state in which the command that has been run has got its final record. -/
def finished (record : CommandRecord) (state : CommandState) (result : Status) (now : TimePoint)
    (impl : Impl) : Impl :=
  { impl with commands := impl.commands.modify record.id (finishRecord state result now) }

/-- The state in which a dispatched motion has just become active. -/
def activated (record : CommandRecord) (result : Status) (now : TimePoint) (impl : Impl) : Impl :=
  { impl with
    commands := impl.commands.modify record.id fun command =>
      { command with result := result, updatedAt := now }
    activeMotionId := some record.id
    activeMotionStartedAt := now
    activeMotionSeen := false
    stopRequested := false }

/-- The outcomes of the completion section. -/
inductive Completion (options : ExecutorOptions) (leases : ControlLeaseManager) (now : TimePoint)
    (record : CommandRecord) (result : Status) (impl : Impl) : Impl → Prop where
  | missing (absent : impl.commands.lookup record.id = none) :
      Completion options leases now record result impl impl
  | failed (notOk : result.ok = false) :
      Completion options leases now record result impl (impl.finished record .failed result now)
  | superseded (motion : isMotionCommand record.request.type = true) {other : ℕ}
      (isActive : impl.activeMotionId = some other) (different : other ≠ record.id) :
      Completion options leases now record result impl
        (requestInternalStopLocked "conflicting motion startup" now
          (impl.finished record .failed
            ⟨.failedPrecondition, "another motion became active during startup", 0⟩ now))
  | activated (ok : result.ok = true) (motion : isMotionCommand record.request.type = true) :
      Completion options leases now record result impl (impl.activated record result now)
  | activatedWithoutLease (ok : result.ok = true)
      (motion : isMotionCommand record.request.type = true) :
      Completion options leases now record result impl
        (requestInternalStopLocked "control lease expired while motion was starting" now
          (impl.activated record result now))
  | ordinary (ok : result.ok = true) (notMotion : isMotionCommand record.request.type = false) :
      Completion options leases now record result impl
        (completeOrdinaryLocked options leases now record
          (impl.finished record .succeeded result now))

theorem completeLocked_cases (options : ExecutorOptions) (leases : ControlLeaseManager)
    (now : TimePoint) (record : CommandRecord) (result : Status) (impl : Impl) :
    Completion options leases now record result impl
      (impl.completeLocked options leases now record result) := by
  unfold completeLocked
  split
  · next absent => exact .missing absent
  simp only [setState, FiniteMap.modify_modify]
  split
  · next notOk => exact .failed (by simpa using notOk)
  next ok =>
  have ok : result.ok = true := by simpa using ok
  split
  · next motion =>
    unfold activateMotionLocked
    simp only [FiniteMap.modify_modify]
    split
    · next superseded =>
      rcases Option.isSome_iff_exists.mp superseded.1 with ⟨other, isActive⟩
      refine .superseded motion isActive fun same => superseded.2 ?_
      rw [isActive, same]
    · split
      · exact .activated ok motion
      · exact .activatedWithoutLease ok motion
  · next notMotion => exact .ordinary ok (by simpa using notMotion)

/-- What a successful command that is not a motion leaves behind. -/
inductive OrdinaryCompletion (options : ExecutorOptions) (now : TimePoint)
    (record : CommandRecord) (impl : Impl) : Impl → Prop where
  | plain (type : record.request.type ≠ .loadProgram ∧ record.request.type ≠ .jog ∧
        record.request.type ≠ .stop ∧ record.request.type ≠ .powerOff ∧
        record.request.type ≠ .stopProgram) :
      OrdinaryCompletion options now record impl impl
  | loaded (type : record.request.type = .loadProgram) :
      OrdinaryCompletion options now record impl
        { impl with loadedApprovedProgram := programName record.request.payload }
  | jogStarted (type : record.request.type = .jog) :
      OrdinaryCompletion options now record impl
        { impl with
          jogActive := true
          activeJogClientId := record.request.clientId
          activeJogLeaseId := record.request.leaseId
          jogDeadline := now.addMs options.jogHeartbeatTimeout }
  | jogStartedWithoutLease (type : record.request.type = .jog) :
      OrdinaryCompletion options now record impl
        (requestInternalStopLocked "control lease expired while jog was starting" now
          { impl with
            jogActive := true
            activeJogClientId := record.request.clientId
            activeJogLeaseId := record.request.leaseId
            jogDeadline := now.addMs options.jogHeartbeatTimeout })
  | jogEnded (type : record.request.type = .jog) :
      OrdinaryCompletion options now record impl impl.clearActiveJogLocked
  | stopped (type : record.request.type = .stop ∨ record.request.type = .powerOff) :
      OrdinaryCompletion options now record impl
        { (impl.completeActiveMotionLocked .stopped now).clearActiveJogLocked with
          stopRequested := false }
  | programStopped (type : record.request.type = .stopProgram) :
      OrdinaryCompletion options now record impl
        { impl.completeActiveProgramLocked now with stopRequested := false }

theorem completeOrdinaryLocked_cases (options : ExecutorOptions) (leases : ControlLeaseManager)
    (now : TimePoint) (record : CommandRecord) (impl : Impl) :
    OrdinaryCompletion options now record impl
      (impl.completeOrdinaryLocked options leases now record) := by
  unfold completeOrdinaryLocked
  split
  · next type => exact .loaded type
  · next type =>
    unfold completeJogLocked
    split
    · split
      · split
        · exact .jogStarted type
        · exact .jogStartedWithoutLease type
      · exact .jogEnded type
    · exact .jogEnded type
  · next type => exact .stopped (.inl type)
  · next type => exact .stopped (.inr type)
  · next type => exact .programStopped type
  · next load jog stop powerOff stopProgram =>
    exact .plain ⟨load, jog, stop, powerOff, stopProgram⟩

end Impl

end RobotManager
