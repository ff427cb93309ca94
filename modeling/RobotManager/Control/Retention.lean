import RobotManager.Control.Admission

/-!
# Bounded retention

`Submit` keeps the queue and the history within their limits.  An internal stop enters both
without a check, so they stay within their limits as long as every internal stop finds room
in both.
-/

namespace RobotManager

namespace Impl

/-- The queue and the history are within their limits. -/
def WithinLimits (options : ExecutorOptions) (impl : Impl) : Prop :=
  impl.queue.length ≤ options.maximumQueueSize ∧
    impl.commands.size ≤ options.maximumCommandHistory

/-- A section adds nothing to the queue and the history. -/
structure Contained (before after : Impl) : Prop where
  queue : after.queue.length ≤ before.queue.length
  size : after.commands.size ≤ before.commands.size
  nextCommandId : after.nextCommandId = before.nextCommandId
  absent : ∀ {id}, before.commands.lookup id = none → after.commands.lookup id = none

/-- The section has recorded an internal stop. -/
def RecordsStop (now : TimePoint) (before after : Impl) : Prop :=
  ∃ reason, after.commands.lookup before.nextCommandId =
    some (internalStop before.nextCommandId reason now)

/-- A section adds nothing, except that it ends with at most one request for an internal stop,
which finds the given queue. -/
def RequestsAtMost (now : TimePoint) (found : List ℕ) (before after : Impl) : Prop :=
  ∃ middle, Contained before middle ∧ middle.queue = found ∧
    (after = middle ∨ ∃ reason, after = middle.requestInternalStopLocked reason now)

namespace Contained

theorem refl (impl : Impl) : Contained impl impl := ⟨le_rfl, le_rfl, rfl, id⟩

theorem trans {first second third : Impl} (former : Contained first second)
    (latter : Contained second third) : Contained first third :=
  ⟨latter.queue.trans former.queue, latter.size.trans former.size,
    latter.nextCommandId.trans former.nextCommandId, fun none => latter.absent (former.absent none)⟩

/-- Nothing but members outside the queue and the history changes. -/
theorem congr {before after : Impl} (table : after.table = before.table)
    (size : after.commands.size = before.commands.size) : Contained before after := by
  have queue : after.queue = before.queue := congrArg JobTable.queue table
  refine ⟨queue ▸ le_rfl, size.le, congrArg JobTable.nextId table, fun {id} none => ?_⟩
  exact (congrFun (congrArg JobTable.jobs table) id).trans none

/-- Changing a record in place, beside other members. -/
theorem modify {before after : Impl} (id : ℕ) (change : CommandRecord → CommandRecord)
    (commands : after.commands = before.commands.modify id change)
    (queue : after.queue = before.queue) (next : after.nextCommandId = before.nextCommandId) :
    Contained before after := by
  refine ⟨queue ▸ le_rfl, ?_, next, fun none => ?_⟩
  · rw [commands, FiniteMap.size_modify]
  · rw [commands]
    exact FiniteMap.lookup_modify_of_none none

theorem withinLimits {options : ExecutorOptions} {before after : Impl}
    (contained : Contained before after) (within : before.WithinLimits options) :
    after.WithinLimits options :=
  ⟨contained.queue.trans within.1, contained.size.trans within.2⟩

end Contained

namespace RequestsAtMost

variable {now : TimePoint} {found : List ℕ} {before middle after : Impl}

theorem none (contained : Contained before after) (queue : after.queue = found) :
    RequestsAtMost now found before after :=
  ⟨after, contained, queue, Or.inl rfl⟩

theorem one (contained : Contained before middle) (queue : middle.queue = found)
    (reason : String) :
    RequestsAtMost now found before (middle.requestInternalStopLocked reason now) :=
  ⟨middle, contained, queue, Or.inr ⟨reason, rfl⟩⟩

theorem precede (contained : Contained before middle)
    (requests : RequestsAtMost now found middle after) : RequestsAtMost now found before after := by
  rcases requests with ⟨last, lastContained, queue, ends⟩
  exact ⟨last, contained.trans lastContained, queue, ends⟩

/-- A further request is one too many only if the section has made none. -/
theorem again (requests : RequestsAtMost now found before after) (reason : String) :
    RequestsAtMost now found before (after.requestInternalStopLocked reason now) := by
  rcases requests with ⟨last, contained, queue, rfl | ⟨first, rfl⟩⟩
  · exact ⟨_, contained, queue, Or.inr ⟨reason, rfl⟩⟩
  · exact ⟨_, contained, queue,
      Or.inr ⟨first, requestInternalStopLocked_twice first now last reason⟩⟩

/-- The limits are kept if a stop that is recorded has found room. -/
theorem withinLimits {options : ExecutorOptions} (requests : RequestsAtMost now found before after)
    (within : before.WithinLimits options)
    (unissued : before.commands.lookup before.nextCommandId = Option.none)
    (room : RecordsStop now before after → found.length < options.maximumQueueSize ∧
      before.commands.size < options.maximumCommandHistory) : after.WithinLimits options := by
  rcases requests with ⟨middle, contained, rfl, rfl | ⟨reason, rfl⟩⟩
  · exact contained.withinLimits within
  have absent := contained.absent unissued
  unfold requestInternalStopLocked at room ⊢
  split at room
  · next requested =>
    rw [if_pos requested]
    exact contained.withinLimits within
  · next unrequested =>
    rw [if_neg unrequested]
    rw [contained.nextCommandId, FiniteMap.emplace_of_lookup_none _ absent] at room ⊢
    rcases room ⟨reason, by simp⟩ with ⟨queueRoom, historyRoom⟩
    refine ⟨queueRoom, ?_⟩
    rw [FiniteMap.size_insert_of_none _ absent]
    exact Nat.lt_of_le_of_lt contained.size historyRoom

end RequestsAtMost

/-! ### The sections -/

theorem dequeueLocked_contained (now : TimePoint) (impl : Impl) :
    Contained impl (impl.dequeueLocked now).1 := by
  have dequeue := impl.dequeueLocked_cases now
  generalize (impl.dequeueLocked now).1 = after at dequeue ⊢
  generalize (impl.dequeueLocked now).2 = handed at dequeue
  cases dequeue with
  | nothing => exact .refl impl
  | vanished executable queue absent =>
    refine ⟨?_, le_rfl, rfl, id⟩
    simp [queue]
  | expired executable queue found expired =>
    refine ⟨?_, (FiniteMap.size_modify _ _ _).le, rfl, FiniteMap.lookup_modify_of_none⟩
    simp [queue]
  | started executable queue found live =>
    refine ⟨?_, (FiniteMap.size_modify _ _ _).le, rfl, FiniteMap.lookup_modify_of_none⟩
    simp [queue]

theorem MotionUpdate.requests {options : ExecutorOptions} {now : TimePoint} {impl after : Impl}
    (update : MotionUpdate options now impl after) :
    RequestsAtMost now impl.queue impl after := by
  cases update with
  | unchanged => exact .none (.refl impl) rfl
  | vanished | seen => exact .none (.congr rfl rfl) rfl
  | timedOut =>
      apply RequestsAtMost.one
      · exact .modify _ _ rfl rfl rfl
      · rfl
  | failed =>
      rw [requestInternalStopLocked_dropActive]
      apply RequestsAtMost.one
      · exact .modify _ _ rfl rfl rfl
      · rfl
  | finished => exact .none (.modify _ _ rfl rfl rfl) rfl

theorem publishLocked_requestsAtMost (options : ExecutorOptions) (leases : ControlLeaseManager)
    (state : StatusOr RobotSnapshot) (now : TimePoint) (impl : Impl) :
    RequestsAtMost now impl.queue impl (impl.publishLocked options leases state now) := by
  have published : Contained impl (impl.publishState options state now).1 ∧
      (impl.publishState options state now).1.queue = impl.queue := by
    unfold publishState
    split
    · exact ⟨.congr rfl rfl, rfl⟩
    · split
      · exact ⟨.congr rfl rfl, rfl⟩
      · exact ⟨.refl impl, rfl⟩
  rcases impl.publishLocked_cases options leases state now with ⟨updated, update, _, same⟩
  have requests := update.requests.precede published.1
  rw [published.2] at requests
  rw [same]
  rcases updated.checkLeasesLocked_cases leases now with ⟨_, same⟩ | ⟨reason, same⟩ <;> rw [same]
  · exact requests
  · exact requests.again reason

theorem completeActiveMotionLocked_contained (state : CommandState) (now : TimePoint)
    (impl : Impl) : Contained impl (impl.completeActiveMotionLocked state now) ∧
      (impl.completeActiveMotionLocked state now).queue = impl.queue := by
  unfold completeActiveMotionLocked
  split
  · exact ⟨.refl impl, rfl⟩
  · exact ⟨.modify _ _ rfl rfl rfl, rfl⟩

theorem completeActiveProgramLocked_contained (now : TimePoint) (impl : Impl) :
    Contained impl (impl.completeActiveProgramLocked now) ∧
      (impl.completeActiveProgramLocked now).queue = impl.queue := by
  unfold completeActiveProgramLocked
  split
  · exact ⟨.refl impl, rfl⟩
  split
  · exact ⟨.refl impl, rfl⟩
  · exact completeActiveMotionLocked_contained .stopped now impl

theorem OrdinaryCompletion.requests {options : ExecutorOptions} {now : TimePoint}
    {record : CommandRecord} {impl after : Impl}
    (completion : OrdinaryCompletion options now record impl after) :
    RequestsAtMost now impl.queue impl after := by
  cases completion with
  | plain => exact .none (.refl impl) rfl
  | loaded | jogStarted | jogEnded => exact .none (.congr rfl rfl) rfl
  | jogStartedWithoutLease =>
      apply RequestsAtMost.one
      · exact .congr rfl rfl
      · rfl
  | stopped =>
      rcases impl.completeActiveMotionLocked_contained .stopped now with ⟨contained, queue⟩
      exact .none (contained.trans (.congr rfl rfl)) queue
  | programStopped =>
      rcases impl.completeActiveProgramLocked_contained now with ⟨contained, queue⟩
      exact .none (contained.trans (.congr rfl rfl)) queue

theorem completeLocked_requestsAtMost (options : ExecutorOptions) (leases : ControlLeaseManager)
    (now : TimePoint) (record : CommandRecord) (result : Status) (impl : Impl) :
    RequestsAtMost now impl.queue impl
      (impl.completeLocked options leases now record result) := by
  have completion := impl.completeLocked_cases options leases now record result
  generalize impl.completeLocked options leases now record result = after at completion ⊢
  have finishes : ∀ state status, Contained impl (impl.finished record state status now) :=
    fun _ _ => .modify _ _ rfl rfl rfl
  have activates : Contained impl (impl.activated record result now) :=
    .modify _ _ rfl rfl rfl
  cases completion with
  | missing => exact .none (.refl impl) rfl
  | failed => exact .none (finishes _ _) rfl
  | superseded => exact .one (finishes _ _) rfl _
  | activated => exact .none activates rfl
  | activatedWithoutLease => exact .one activates rfl _
  | ordinary =>
      exact (completeOrdinaryLocked_cases options leases now record _).requests.precede
        (finishes _ _)

theorem cancelQueued_contained (leaseId clientId : String) (now : TimePoint) (rest : List ℕ)
    (commands : FiniteMap ℕ CommandRecord) :
    (cancelQueued leaseId clientId now rest commands).1.length ≤ rest.length ∧
      (cancelQueued leaseId clientId now rest commands).2.size = commands.size ∧
      ∀ {id}, commands.lookup id = none →
        (cancelQueued leaseId clientId now rest commands).2.lookup id = none := by
  induction rest generalizing commands with
  | nil => exact ⟨le_rfl, rfl, id⟩
  | cons id rest ih =>
      simp only [cancelQueued]
      split
      · rcases ih commands with ⟨length, size, absent⟩
        exact ⟨length.trans (Nat.le_succ _), size, absent⟩
      split
      · rcases ih commands with ⟨length, size, absent⟩
        exact ⟨Nat.succ_le_succ length, size, absent⟩
      · next command found cancels =>
        rcases ih (commands.modify id fun record =>
          { record with
            state := .cancelled
            result := ⟨.permissionDenied, "control lease released", 0⟩
            updatedAt := now }) with ⟨length, size, absent⟩
        refine ⟨length.trans (Nat.le_succ _), ?_, fun none => ?_⟩
        · rw [size, FiniteMap.size_modify]
        · exact absent (FiniteMap.lookup_modify_of_none none)

theorem cancelQueuedCommandsForLeaseLocked_contained (leaseId clientId : String)
    (now : TimePoint) (impl : Impl) :
    Contained impl (impl.cancelQueuedCommandsForLeaseLocked leaseId clientId now) := by
  rcases cancelQueued_contained leaseId clientId now impl.queue impl.commands with
    ⟨length, size, absent⟩
  exact ⟨length, size.le, rfl, absent⟩

theorem releaseLocked_requestsAtMost (leaseId clientId : String) (now : TimePoint) (impl : Impl) :
    RequestsAtMost now (impl.cancelQueuedCommandsForLeaseLocked leaseId clientId now).queue impl
      (impl.releaseLocked leaseId clientId now) := by
  have cancelled := impl.cancelQueuedCommandsForLeaseLocked_contained leaseId clientId now
  rcases impl.releaseLocked_cases leaseId clientId now with same | same <;> rw [same]
  · exact .none cancelled rfl
  · exact .one cancelled rfl _

theorem cancelCommandsForShutdownLocked_contained (now : TimePoint) (impl : Impl) :
    Contained impl (impl.cancelCommandsForShutdownLocked now) := by
  have settled : ∀ (rest : List ℕ) (commands : FiniteMap ℕ CommandRecord),
      (rest.foldl (fun commands id => commands.modify id (CommandRecord.settle .cancelled
        ⟨.unavailable, "command executor shut down", 0⟩ now)) commands).size = commands.size ∧
      ∀ {id}, commands.lookup id = none →
        (rest.foldl (fun commands id => commands.modify id (CommandRecord.settle .cancelled
          ⟨.unavailable, "command executor shut down", 0⟩ now)) commands).lookup id = none := by
    intro rest
    induction rest with
    | nil => exact fun commands => ⟨rfl, id⟩
    | cons id rest ih =>
        intro commands
        rcases ih (commands.modify id (CommandRecord.settle .cancelled
          ⟨.unavailable, "command executor shut down", 0⟩ now)) with ⟨size, absent⟩
        refine ⟨size.trans (FiniteMap.size_modify _ _ _), fun none => ?_⟩
        exact absent (FiniteMap.lookup_modify_of_none none)
  rcases settled impl.queue impl.commands with ⟨size, absent⟩
  exact ⟨Nat.zero_le _, size.le, rfl, absent⟩

theorem shutdownLocked_contained (stopStatus : Status) (now : TimePoint) (impl : Impl) :
    Contained impl (impl.shutdownLocked stopStatus now) := by
  have cancelled := impl.cancelCommandsForShutdownLocked_contained now
  unfold shutdownLocked
  dsimp only
  split
  · exact cancelled.trans (.congr rfl rfl)
  · exact cancelled.trans (.modify _ _ rfl rfl rfl)

/-- `Submit` keeps the limits: it displaces a command before it goes over the queue's, and it
refuses before it goes over the history's. -/
theorem submitLocked_withinLimits {options : ExecutorOptions} {impl : Impl}
    (wellFormed : impl.WellFormed) (within : impl.WithinLimits options) (traversal : Traversal)
    (request : CommandRequest) (now : TimePoint) :
    (impl.submitLocked options traversal request now).2.WithinLimits options := by
  have submission := impl.submitLocked_cases options traversal request now
  generalize (impl.submitLocked options traversal request now).1 = result at submission
  generalize (impl.submitLocked options traversal request now).2 = after at submission ⊢
  have prunedQueue : ∀ {roomy : Impl},
      (roomy.pruneCommandHistoryLocked options traversal).queue = roomy.queue := by
    intro roomy
    rcases pruneLoop_eq options traversal roomy.commands.size roomy with ⟨_, _, eq, _⟩
    rw [pruneCommandHistoryLocked, eq]
  cases submission with
  | refused | known => exact within
  | full fresh room =>
      rcases makeRoomLocked_counts wellFormed room with ⟨queue, _, size⟩
      refine ⟨?_, ?_⟩
      · rw [prunedQueue]
        exact le_trans (Nat.le.intro queue) within.1
      · rw [pruneCommandHistoryLocked_size, size]
        exact le_trans (min_le_left _ _) within.2
  | @accepted roomy running accepting fresh exclusive loaded room slot =>
      rcases makeRoomLocked_counts wellFormed room with ⟨queue, _, size⟩
      have roomyWellFormed := (makeRoomLocked_moves wellFormed room).wellFormed wellFormed
      have cleared := pruneCommandHistoryLocked_cleared options traversal roomy
      have unused := cleared.lookup_nextCommandId
        (WellFormed.lookup_nextCommandId roomyWellFormed)
      have length : ((roomy.pruneCommandHistoryLocked options traversal).enqueueLocked
          request now).queue.length = roomy.queue.length + 1 := by
        simp only [enqueueLocked, prunedQueue]
        split <;> simp
      refine ⟨?_, ?_⟩
      · have limit := within.1
        rw [length]
        unfold displacedCount at queue
        split at queue <;> omega
      · simp only [enqueueLocked]
        rw [FiniteMap.emplace_of_lookup_none _ unused, FiniteMap.size_insert_of_none _ unused]
        exact slot

end Impl

namespace System

open TransitionSystem

/-- The queue that an internal stop requested by the step is put in front of. -/
def stopFinds (system : System) : Action → List ℕ
  | .client thread .releaseCommit =>
      match system.clients thread with
      | .releasing leaseId clientId =>
          (system.impl.cancelQueuedCommandsForLeaseLocked leaseId clientId system.now).queue
      | _ => system.impl.queue
  | _ => system.impl.queue

/-- If the step records an internal stop, neither the queue nor the history is full. -/
def StopsFindRoom (setup : Setup) (system : System) (action : Action) : Prop :=
  ∀ after, step setup system action = some after →
    system.impl.RecordsStop system.now after.impl →
      (system.stopFinds action).length < setup.options.maximumQueueSize ∧
        system.impl.commands.size < setup.options.maximumCommandHistory

/-- In every run whose internal stops find room, the queue and the history stay within their
limits. -/
theorem retention_bounded {setup : Setup} {system : System}
    (reached : ReachableUnder setup (StopsFindRoom setup) system) :
    system.impl.queue.length ≤ setup.options.maximumQueueSize ∧
      system.impl.commands.size ≤ setup.options.maximumCommandHistory := by
  refine reached.invariant (fun system => system.impl.WithinLimits setup.options)
    (fun system initial => ?_) fun system action after reached within room taken => ?_
  · rcases init_cases initial with ⟨_, snapshot, now, rfl⟩
    exact ⟨Nat.zero_le _, Nat.zero_le _⟩
  have wellFormed := (Reachable.owned reached.reachable).wellFormed
  have requests : Impl.RequestsAtMost system.now (system.stopFinds action) system.impl after.impl →
      after.impl.WithinLimits setup.options := fun requests =>
    requests.withinLimits within wellFormed.lookup_nextCommandId (room after taken)
  cases action with
  | advance nanoseconds =>
      cases taken
      exact within
  | worker action =>
      cases workerStep_cases taken with
      | dequeues => exact (Impl.dequeueLocked_contained _ _).withinLimits within
      | completes => exact requests (Impl.completeLocked_requestsAtMost _ _ _ _ _ _)
      | exits | copies | samples | validates | checksProgram | refuses | lacksPayload | calls
      | returns => exact within
  | poll action =>
      cases pollStep_cases taken with
      | publishes => exact requests (Impl.publishLocked_requestsAtMost _ _ _ _ _)
      | checks | skips | exits | readBegins | readReturns | wakes => exact within
  | client thread action =>
      cases action with
      | submitCommit traversal =>
          rcases submitCommit_cases taken with ⟨request, evidence, position, rfl⟩
          exact Impl.submitLocked_withinLimits wellFormed within traversal request system.now
      | releaseCommit =>
          rcases releaseCommit_cases taken with ⟨leaseId, clientId, position, released⟩
          apply requests
          simp only [released, stopFinds, position]
          exact Impl.releaseLocked_requestsAtMost _ _ _ _
      | _ =>
          rw [clientStep_impl (by simp) (by simp) taken]
          exact within
  | shutdown action =>
      cases shutdownStep_cases taken with
      | finishes => exact (Impl.shutdownLocked_contained _ _ _).withinLimits within
      | begins | stopBegins | stopReturns | joinsWorker | joinsPoll | disconnects => exact within

/-- An internal stop is recorded within the limits. -/
theorem retention_bounded_release : ∃ system,
    ReachableUnder .moving (StopsFindRoom .moving) system ∧ system.impl.stopRequested = true ∧
    system.impl.queue.length ≤ 16 ∧ system.impl.commands.size ≤ 4096 := by
  have sound : ∀ (system : System) (action : Action),
      decide ((system.stopFinds action).length < 16 ∧ system.impl.commands.size < 4096) = true →
      StopsFindRoom .moving system action :=
    fun system action checked after _ _ => of_decide_eq_true checked
  rcases exists_reachableUnder_of_execute ready_reachable _ sound
    (Schedule.startMotion ++ Schedule.release 0 (firstLease 1000) "client")
    (fun system => system.impl.stopRequested) (by decide) with ⟨system, reached, requested⟩
  exact ⟨system, reached, requested, retention_bounded reached⟩

/-- An internal stop is recorded beside a full queue and a full history. -/
theorem retention_exceeded : ∃ system, Reachable crowded system ∧
    crowded.options.maximumQueueSize < system.impl.queue.length ∧
    crowded.options.maximumCommandHistory < system.impl.commands.size := by
  rcases exists_reachable_of_execute crowded_reachable
    (Schedule.startMotion ++
      Schedule.submit 0 (.plain .releaseControl (firstLease 1000) "client" "first") ++
      Schedule.submit 0 (.plain .releaseControl (firstLease 1000) "client" "second") ++
      [.advance 3000000000] ++
      Schedule.poll (.ok { RobotSnapshot.standing with moving := true }))
    (fun system => decide (crowded.options.maximumQueueSize < system.impl.queue.length ∧
      crowded.options.maximumCommandHistory < system.impl.commands.size))
    (by decide) with ⟨system, reached, checked⟩
  exact ⟨system, reached, of_decide_eq_true checked⟩

end System

end RobotManager
