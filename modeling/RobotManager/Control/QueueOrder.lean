import RobotManager.Control.RecordOrigins
import RobotManager.Control.Threads
import RobotManager.Library.UrgentQueue

/-!
# The order of the queue

The queue of the executor lists the waiting Stops, the newest first, and then the other
commands in the order of their submission.  Every critical section keeps this order, so
the worker serves a Stop before anything else and the other commands in turn.
-/

namespace RobotManager

open UrgentQueue

namespace Impl

/-- The command with the given id is a Stop. -/
def IsStop (impl : Impl) (id : ℕ) : Prop :=
  ∃ record, impl.commands.lookup id = some record ∧ record.request.type = .stop

theorem isStop_iff {impl : Impl} {id : ℕ} {record : CommandRecord}
    (found : impl.commands.lookup id = some record) :
    impl.IsStop id ↔ record.request.type = .stop := by
  constructor
  · rintro ⟨stored, lookup, stop⟩
    rwa [Option.some.inj (found.symm.trans lookup)]
  · exact fun stop => ⟨record, found, stop⟩

/-- The queue is in order, and its commands and the issued ids are recorded. -/
structure InOrder (impl : Impl) : Prop where
  ordered : Ordered impl.IsStop impl.queue
  recorded : ∀ {id}, id ∈ impl.queue → ∃ record, impl.commands.lookup id = some record
  issued : ∀ {id record}, impl.commands.lookup id = some record → id < impl.nextCommandId

namespace InOrder

variable {impl after : Impl}

theorem ofWellFormed (ordered : Ordered impl.IsStop impl.queue) (wellFormed : impl.WellFormed) :
    impl.InOrder := by
  refine ⟨ordered, fun mem => ?_, fun found => wellFormed.issued found⟩
  rcases wellFormed.queued mem with ⟨record, found, _⟩
  exact ⟨record, found⟩

/-- Taking commands out of the queue and records out of the map keeps the order, as long as the
queued commands keep their records. -/
theorem keep (inOrder : impl.InOrder) (queue : after.queue.Sublist impl.queue)
    (recorded : ∀ {id}, id ∈ after.queue → ∃ record, after.commands.lookup id = some record)
    (origin : ∀ {id record}, after.commands.lookup id = some record →
      ∃ old, impl.commands.lookup id = some old ∧ record.request = old.request)
    (nextId : after.nextCommandId = impl.nextCommandId) : after.InOrder := by
  refine ⟨Ordered.congr (inOrder.ordered.sublist queue) fun id mem => ?_, recorded,
    fun found => ?_⟩
  · rcases recorded mem with ⟨record, found⟩
    rcases origin found with ⟨old, lookup, request⟩
    rw [isStop_iff found, isStop_iff lookup, request]
  · rcases origin found with ⟨old, lookup, _⟩
    rw [nextId]
    exact inOrder.issued lookup

/-- Changing a record in place, except for its request. -/
theorem modify {id : ℕ} {change : CommandRecord → CommandRecord} (inOrder : impl.InOrder)
    (queue : after.queue.Sublist impl.queue)
    (commands : after.commands = impl.commands.modify id change)
    (request : ∀ record, impl.commands.lookup id = some record →
      (change record).request = record.request)
    (nextId : after.nextCommandId = impl.nextCommandId) : after.InOrder := by
  have carries : Carries impl.commands after.commands := commands ▸ .modify _ _ request
  refine inOrder.keep queue (fun mem => ?_) (fun {other record} found => ?_) nextId
  · rcases inOrder.recorded (queue.subset mem) with ⟨old, found⟩
    rcases carries.kept found with ⟨record, lookup, _⟩
    exact ⟨record, lookup⟩
  · rw [commands, FiniteMap.lookup_modify] at found
    split at found
    · next same =>
      subst same
      rcases Option.map_eq_some_iff.mp found with ⟨old, lookup, rfl⟩
      exact ⟨old, lookup, request old lookup⟩
    · exact ⟨record, found, rfl⟩

theorem settle (inOrder : impl.InOrder) {id : ℕ} {state : CommandState} {result : Status}
    {now : TimePoint} (queue : after.queue = impl.queue)
    (commands : after.commands = impl.commands.modify id (CommandRecord.settle state result now))
    (nextId : after.nextCommandId = impl.nextCommandId) : after.InOrder := by
  refine inOrder.modify (queue ▸ .refl _) commands (fun record _ => ?_) nextId
  unfold CommandRecord.settle
  split <;> rfl

/-- The order depends on the queue, the records and the counter only. -/
theorem same (inOrder : impl.InOrder) (queue : after.queue = impl.queue)
    (commands : after.commands = impl.commands)
    (nextId : after.nextCommandId = impl.nextCommandId) : after.InOrder :=
  inOrder.keep (queue ▸ .refl _) (fun mem => by rw [commands]; exact inOrder.recorded (queue ▸ mem))
    (fun found => ⟨_, commands ▸ found, rfl⟩) nextId

theorem unissued (inOrder : impl.InOrder) : impl.commands.lookup impl.nextCommandId = none := by
  refine Option.eq_none_iff_forall_ne_some.mpr fun record found => ?_
  exact absurd (inOrder.issued found) (Nat.lt_irrefl _)

theorem queue_issued (inOrder : impl.InOrder) : ∀ id ∈ impl.queue, id < impl.nextCommandId := by
  intro id mem
  rcases inOrder.recorded mem with ⟨record, found⟩
  exact inOrder.issued found

/-- Recording a command under the next id and placing it by its kind. -/
theorem place (inOrder : impl.InOrder) {record : CommandRecord}
    (commands : after.commands = impl.commands.emplace impl.nextCommandId record)
    (queue : after.queue = if record.request.type = .stop then impl.nextCommandId :: impl.queue
      else impl.queue ++ [impl.nextCommandId])
    (nextId : after.nextCommandId = impl.nextCommandId + 1) : after.InOrder := by
  have lookup : ∀ id, after.commands.lookup id =
      if id = impl.nextCommandId then some record else impl.commands.lookup id := by
    intro id
    rw [commands, FiniteMap.emplace_of_lookup_none _ inOrder.unissued, FiniteMap.lookup_insert_eq]
  have newest := inOrder.queue_issued
  have old : ∀ id ∈ impl.queue, after.commands.lookup id = impl.commands.lookup id := by
    intro id mem
    rw [lookup, if_neg (Nat.ne_of_lt (newest id mem))]
  have ordered : Ordered after.IsStop impl.queue := by
    refine inOrder.ordered.congr fun id mem => ?_
    unfold IsStop
    rw [old id mem]
  have placed : after.commands.lookup impl.nextCommandId = some record := by
    rw [lookup, if_pos rfl]
  refine ⟨?_, fun {id} mem => ?_, fun {id stored} found => ?_⟩
  · rw [queue]
    split
    · next stop => exact ordered.push ((isStop_iff placed).mpr stop) newest
    · next ordinary => exact ordered.append (mt (isStop_iff placed).mp ordinary) newest
  · have cases : id = impl.nextCommandId ∨ id ∈ impl.queue := by
      rw [queue] at mem
      split at mem
      · simpa using mem
      · simpa [or_comm] using mem
    rcases cases with rfl | mem
    · exact ⟨record, placed⟩
    · rw [old id mem]
      exact inOrder.recorded mem
  · rw [lookup] at found
    rw [nextId]
    split at found
    · next same => omega
    · have issued := inOrder.issued found
      omega

theorem requestInternalStopLocked (inOrder : impl.InOrder) (reason : String) (now : TimePoint) :
    (impl.requestInternalStopLocked reason now).InOrder := by
  unfold Impl.requestInternalStopLocked
  split
  · exact inOrder
  · exact inOrder.place rfl rfl rfl

theorem checkLeasesLocked (inOrder : impl.InOrder) (leases : ControlLeaseManager)
    (now : TimePoint) : (impl.checkLeasesLocked leases now).InOrder := by
  rcases impl.checkLeasesLocked_cases leases now with ⟨_, same⟩ | ⟨reason, same⟩ <;> rw [same]
  · exact inOrder
  · exact inOrder.requestInternalStopLocked reason now

theorem motionUpdate (inOrder : impl.InOrder) {options : ExecutorOptions} {now : TimePoint}
    (update : MotionUpdate options now impl after) : after.InOrder := by
  cases update with
  | unchanged => exact inOrder
  | vanished | seen => exact inOrder.same rfl rfl rfl
  | finished => exact inOrder.settle rfl rfl rfl
  | timedOut =>
      apply requestInternalStopLocked
      exact inOrder.settle rfl rfl rfl
  | failed =>
      rw [requestInternalStopLocked_dropActive]
      apply requestInternalStopLocked
      exact inOrder.settle rfl rfl rfl

theorem publishLocked (inOrder : impl.InOrder) (options : ExecutorOptions)
    (leases : ControlLeaseManager) (state : StatusOr RobotSnapshot) (now : TimePoint) :
    (impl.publishLocked options leases state now).InOrder := by
  have published : (impl.publishState options state now).1.InOrder := by
    unfold publishState
    split
    · exact inOrder.same rfl rfl rfl
    · split
      · exact inOrder.same rfl rfl rfl
      · exact inOrder
  rcases impl.publishLocked_cases options leases state now with ⟨updated, update, _, same⟩
  rw [same]
  exact (published.motionUpdate update).checkLeasesLocked leases now

theorem dequeueLocked (inOrder : impl.InOrder) (now : TimePoint) :
    (impl.dequeueLocked now).1.InOrder := by
  have shrinks : ∀ {id front back}, impl.queue = front ++ id :: back →
      (front ++ back).Sublist impl.queue := by
    intro id front back queue
    rw [queue]
    exact (List.Sublist.refl front).append (List.sublist_cons_self id back)
  have dequeue := impl.dequeueLocked_cases now
  generalize (impl.dequeueLocked now).1 = after at dequeue ⊢
  generalize (impl.dequeueLocked now).2 = handed at dequeue
  cases dequeue with
  | nothing => exact inOrder
  | vanished _ queue =>
      exact inOrder.keep (shrinks queue) (fun mem => inOrder.recorded ((shrinks queue).subset mem))
        (fun found => ⟨_, found, rfl⟩) rfl
  | expired _ queue => exact inOrder.modify (shrinks queue) rfl (fun _ _ => rfl) rfl
  | started _ queue found =>
      refine inOrder.modify (shrinks queue) rfl (fun record lookup => ?_) rfl
      rw [Option.some.inj (found.symm.trans lookup)]

theorem finished (inOrder : impl.InOrder) (record : CommandRecord) (state : CommandState)
    (result : Status) (now : TimePoint) : (impl.finished record state result now).InOrder :=
  inOrder.modify (.refl _) rfl (fun _ _ => rfl) rfl

theorem activated (inOrder : impl.InOrder) (record : CommandRecord) (result : Status)
    (now : TimePoint) : (impl.activated record result now).InOrder :=
  inOrder.modify (.refl _) rfl (fun _ _ => rfl) rfl

theorem completeActiveMotionLocked (inOrder : impl.InOrder) (state : CommandState)
    (now : TimePoint) : (impl.completeActiveMotionLocked state now).InOrder := by
  unfold Impl.completeActiveMotionLocked
  split
  · exact inOrder
  · refine inOrder.modify (.refl _) rfl (fun record _ => ?_) rfl
    split <;> rfl

theorem completeActiveProgramLocked (inOrder : impl.InOrder) (now : TimePoint) :
    (impl.completeActiveProgramLocked now).InOrder := by
  unfold Impl.completeActiveProgramLocked
  split
  · exact inOrder
  split
  · exact inOrder
  · exact inOrder.completeActiveMotionLocked .stopped now

theorem ordinaryCompletion (inOrder : impl.InOrder) {options : ExecutorOptions} {now : TimePoint}
    {record : CommandRecord} (completion : OrdinaryCompletion options now record impl after) :
    after.InOrder := by
  cases completion with
  | plain => exact inOrder
  | loaded | jogStarted | jogEnded => exact inOrder.same rfl rfl rfl
  | jogStartedWithoutLease =>
      apply requestInternalStopLocked
      exact inOrder.same rfl rfl rfl
  | stopped => exact (inOrder.completeActiveMotionLocked .stopped now).same rfl rfl rfl
  | programStopped => exact (inOrder.completeActiveProgramLocked now).same rfl rfl rfl

theorem completeLocked (inOrder : impl.InOrder) (options : ExecutorOptions)
    (leases : ControlLeaseManager) (now : TimePoint) (record : CommandRecord) (result : Status) :
    (impl.completeLocked options leases now record result).InOrder := by
  have completion := impl.completeLocked_cases options leases now record result
  generalize impl.completeLocked options leases now record result = after at completion ⊢
  cases completion with
  | missing => exact inOrder
  | failed => exact inOrder.finished record .failed result now
  | superseded =>
      apply requestInternalStopLocked
      exact inOrder.finished record .failed _ now
  | activated => exact inOrder.activated record result now
  | activatedWithoutLease =>
      apply requestInternalStopLocked
      exact inOrder.activated record result now
  | ordinary =>
      exact (inOrder.finished record .succeeded result now).ordinaryCompletion
        (completeOrdinaryLocked_cases options leases now record _)

theorem makeRoomLocked (inOrder : impl.InOrder) {options : ExecutorOptions}
    {request : CommandRequest} {now : TimePoint}
    (room : impl.makeRoomLocked options request now = .ok after) : after.InOrder := by
  rcases makeRoomLocked_cases room with rfl | ⟨id, front, back, _, queue, rfl⟩
  · exact inOrder
  · refine inOrder.modify ?_ rfl (fun _ _ => rfl) rfl
    rw [queue]
    exact (List.Sublist.refl front).append (List.sublist_cons_self id back)

/-- Pruning drops terminal records only, so none of a queued command. -/
theorem pruneCommandHistoryLocked (inOrder : impl.InOrder) (wellFormed : impl.WellFormed)
    (options : ExecutorOptions) (traversal : Traversal) :
    (impl.pruneCommandHistoryLocked options traversal).InOrder := by
  have prunedWellFormed :=
    (pruneCommandHistoryLocked_moves options traversal impl).wellFormed wellFormed
  have cleared := pruneCommandHistoryLocked_cleared options traversal impl
  have queue : (impl.pruneCommandHistoryLocked options traversal).queue = impl.queue := by
    rcases pruneLoop_eq options traversal impl.commands.size impl with ⟨_, _, eq, _⟩
    rw [Impl.pruneCommandHistoryLocked, eq]
  refine inOrder.keep (queue ▸ .refl _) (fun mem => ?_) cleared.records cleared.nextCommandId
  rcases WellFormed.queued prunedWellFormed mem with ⟨record, found, _⟩
  exact ⟨record, found⟩

theorem submitLocked (inOrder : impl.InOrder) (wellFormed : impl.WellFormed)
    (options : ExecutorOptions) (traversal : Traversal) (request : CommandRequest)
    (now : TimePoint) : (impl.submitLocked options traversal request now).2.InOrder := by
  have submission := impl.submitLocked_cases options traversal request now
  generalize (impl.submitLocked options traversal request now).1 = result at submission
  generalize (impl.submitLocked options traversal request now).2 = after at submission ⊢
  have pruned : ∀ {roomy}, impl.makeRoomLocked options request now = .ok roomy →
      (roomy.pruneCommandHistoryLocked options traversal).InOrder := by
    intro roomy room
    have moves := makeRoomLocked_moves wellFormed room
    exact (inOrder.makeRoomLocked room).pruneCommandHistoryLocked (moves.wellFormed wellFormed)
      options traversal
  cases submission with
  | refused | known => exact inOrder
  | full _ room => exact pruned room
  | accepted _ _ _ _ _ room => exact (pruned room).place rfl rfl rfl

theorem cancelQueued_sublist (leaseId clientId : String) (now : TimePoint) (rest : List ℕ)
    (commands : FiniteMap ℕ CommandRecord) :
    (cancelQueued leaseId clientId now rest commands).1.Sublist rest := by
  induction rest generalizing commands with
  | nil => exact .refl _
  | cons id rest ih =>
      simp only [cancelQueued]
      split
      · exact (ih commands).cons id
      split
      · exact (ih commands).cons_cons id
      · exact (ih _).cons id

/-- Cancelling commands changes their records in place. -/
theorem cancelQueued_origin {leaseId clientId : String} {now : TimePoint} {rest : List ℕ}
    {commands : FiniteMap ℕ CommandRecord} {id : ℕ} {record : CommandRecord}
    (found : (cancelQueued leaseId clientId now rest commands).2.lookup id = some record) :
    ∃ old, commands.lookup id = some old ∧ record.request = old.request := by
  induction rest generalizing commands with
  | nil => exact ⟨record, found, rfl⟩
  | cons first rest ih =>
      simp only [cancelQueued] at found
      split at found
      · exact ih found
      split at found
      · exact ih found
      rcases ih found with ⟨changed, lookup, request⟩
      rw [FiniteMap.lookup_modify] at lookup
      split at lookup
      · next same =>
        subst same
        rcases Option.map_eq_some_iff.mp lookup with ⟨old, before, rfl⟩
        exact ⟨old, before, request⟩
      · exact ⟨changed, lookup, request⟩

theorem releaseLocked (inOrder : impl.InOrder) (leaseId clientId : String) (now : TimePoint) :
    (impl.releaseLocked leaseId clientId now).InOrder := by
  have shrinks := cancelQueued_sublist leaseId clientId now impl.queue impl.commands
  have cancelled : (impl.cancelQueuedCommandsForLeaseLocked leaseId clientId now).InOrder := by
    refine inOrder.keep shrinks (fun mem => ?_) cancelQueued_origin rfl
    rcases inOrder.recorded (shrinks.subset mem) with ⟨old, found⟩
    rcases (cancelQueued_carries leaseId clientId now impl.queue impl.commands).kept found with
      ⟨record, lookup, _⟩
    exact ⟨record, lookup⟩
  rcases impl.releaseLocked_cases leaseId clientId now with same | same <;> rw [same]
  · exact cancelled
  · exact cancelled.requestInternalStopLocked _ now

end InOrder

/-- A command that the worker may run at any time. -/
theorem isExecutable_of_canRunDuringMotion {impl : Impl} {id : ℕ} {record : CommandRecord}
    (found : impl.commands.lookup id = some record)
    (during : canRunDuringMotion record.request.type = true) : impl.isExecutable id = true := by
  unfold isExecutable
  simp only [found, during, if_true, ite_self]

/-- Without an active motion every command is executable. -/
theorem isExecutable_of_inactive {impl : Impl} (inactive : impl.activeMotionId = none) (id : ℕ) :
    impl.isExecutable id = true := by
  unfold isExecutable
  split
  · rfl
  · rw [if_pos inactive]

/-- If the first queued command is executable, then it is the one that is dequeued. -/
theorem dequeueLocked_of_head {impl : Impl} {id : ℕ} {rest : List ℕ} (now : TimePoint)
    (queue : impl.queue = id :: rest) (executable : impl.isExecutable id = true) :
    (impl.dequeueLocked now).1.queue = rest := by
  have first : impl.findExecutableCommandLocked = some id := by
    unfold findExecutableCommandLocked
    rw [queue, List.find?_cons_of_pos executable]
  have erased : impl.queue.eraseP impl.isExecutable = rest := by
    rw [queue, List.eraseP_cons_of_pos executable]
  unfold dequeueLocked
  simp only [first, erased]
  split
  · rfl
  · split <;> rfl

end Impl

namespace System

open TransitionSystem

theorem Reachable.inOrder {setup : Setup} {system : System} (reached : Reachable setup system) :
    system.impl.InOrder := by
  refine .ofWellFormed ?_ reached.owned.wellFormed
  refine reached.rule (fun system => Ordered system.impl.IsStop system.impl.queue)
    (fun _ _ => .nil) fun {system after action} reached ordered taken => ?_
  have wellFormed := reached.owned.wellFormed
  have inOrder := Impl.InOrder.ofWellFormed ordered wellFormed
  have effect := step_effect taken
  generalize after.impl = afterImpl at effect ⊢
  generalize after.worker.inFlight = next at effect
  cases effect with
  | unchanged => exact ordered
  | dequeued => exact (inOrder.dequeueLocked _).ordered
  | completed => exact (inOrder.completeLocked _ _ _ _ _).ordered
  | published => exact (inOrder.publishLocked _ _ _ _).ordered
  | submitted => exact (inOrder.submitLocked wellFormed _ _ _ _).ordered
  | released => exact (inOrder.releaseLocked _ _ _).ordered
  | flagged => exact (inOrder.same rfl rfl rfl : Impl.InOrder { system.impl with
      shuttingDown := true, running := false }).ordered
  | @settled result _ position =>
      have empty : (system.impl.shutdownLocked result system.now).queue = [] := by
        unfold Impl.shutdownLocked
        dsimp only
        split <;> rfl
      rw [empty]
      exact .nil

/-- The worker takes a command out of the queue. -/
def Dequeues (setup : Setup) (system after : System) (id : ℕ) : Prop :=
  step setup system (.worker .dequeue) = some after ∧ id ∈ system.impl.queue ∧
    id ∉ after.impl.queue

/-- Without an active motion the worker dequeues the first command. -/
theorem Dequeues.head {setup : Setup} {system after : System} {id : ℕ}
    (dequeues : Dequeues setup system after id)
    (inactive : system.impl.activeMotionId = none) :
    system.impl.queue = id :: after.impl.queue := by
  rcases dequeues with ⟨taken, mem, gone⟩
  have executable := executable_of_dequeue taken mem gone
  cases queue : system.impl.queue with
  | nil => simp [queue] at mem
  | cons head rest =>
      have first : system.impl.findExecutableCommandLocked = some head := by
        unfold Impl.findExecutableCommandLocked
        rw [queue, List.find?_cons_of_pos (Impl.isExecutable_of_inactive inactive head)]
      obtain rfl : head = id := Option.some.inj (first.symm.trans executable)
      cases workerStep_cases taken with
      | exits => exact absurd mem gone
      | dequeues =>
          dsimp only
          rw [Impl.dequeueLocked_of_head system.now queue
            (Impl.isExecutable_of_inactive inactive head)]

/-- What is queued later was queued before or has been issued since. -/
theorem Reachable.queue_of_steps {setup : Setup} {system later : System}
    {allowed : System → Action → Prop} (reached : Reachable setup system)
    (steps : StepsUnder (step setup) allowed system later) {id : ℕ}
    (mem : id ∈ later.impl.queue) : id ∈ system.impl.queue ∨ system.impl.nextCommandId ≤ id := by
  have old : system.impl.nextCommandId ≤ later.impl.nextCommandId ∧
      ∀ id ∈ later.impl.queue, id ∈ system.impl.queue ∨ system.impl.nextCommandId ≤ id := by
    refine steps.invariant (fun later => system.impl.nextCommandId ≤ later.impl.nextCommandId ∧
      ∀ id ∈ later.impl.queue, id ∈ system.impl.queue ∨ system.impl.nextCommandId ≤ id) reached
      ⟨Nat.le_refl _, fun id mem => Or.inl mem⟩ ?_
    intro middle action after middleReached holds _ taken
    rcases Reachable.step_moves middleReached taken with ⟨_, _, moves⟩
    refine ⟨Nat.le_trans holds.1 moves.nextId_le, fun id mem => ?_⟩
    rcases Reachable.queue_of_step middleReached taken mem with before | new
    · exact holds.2 id before
    · exact Or.inr (Nat.le_trans holds.1 new)
  exact old.2 id mem

/-- The queue holds the queued Stops, the latest first, and behind them the other queued commands,
the oldest first. -/
theorem Reachable.queue_split {setup : Setup} {system : System} (reached : Reachable setup system) :
    ∃ stops others, system.impl.queue = stops ++ others ∧
      stops.Pairwise (· > ·) ∧ others.Pairwise (· < ·) ∧
      (∀ id, id ∈ stops ↔ ∃ record, system.impl.commands.lookup id = some record ∧
        record.state = .queued ∧ record.request.type = .stop) ∧
      ∀ id, id ∈ others ↔ ∃ record, system.impl.commands.lookup id = some record ∧
        record.state = .queued ∧ record.request.type ≠ .stop := by
  have wellFormed := reached.owned.wellFormed
  rcases reached.inOrder.ordered.split with
    ⟨stops, others, queue, areStops, areOthers, falling, rising⟩
  have member : ∀ id, (id ∈ stops ∨ id ∈ others) ↔
      ∃ record, system.impl.commands.lookup id = some record ∧ record.state = .queued := by
    intro id
    rw [← List.mem_append, ← queue]
    constructor
    · exact wellFormed.queued
    · rintro ⟨record, found, queued⟩
      exact wellFormed.mem_queue found queued
  refine ⟨stops, others, queue, falling, rising, fun id => ⟨fun mem => ?_, ?_⟩,
    fun id => ⟨fun mem => ?_, ?_⟩⟩
  · rcases (member id).mp (Or.inl mem) with ⟨record, found, queued⟩
    exact ⟨record, found, queued, (Impl.isStop_iff found).mp (areStops id mem)⟩
  · rintro ⟨record, found, queued, stop⟩
    rcases (member id).mpr ⟨record, found, queued⟩ with mem | mem
    · exact mem
    · exact absurd ((Impl.isStop_iff found).mpr stop) (areOthers id mem)
  · rcases (member id).mp (Or.inr mem) with ⟨record, found, queued⟩
    exact ⟨record, found, queued, mt (Impl.isStop_iff found).mpr (areOthers id mem)⟩
  · rintro ⟨record, found, queued, ordinary⟩
    rcases (member id).mpr ⟨record, found, queued⟩ with mem | mem
    · exact absurd ((Impl.isStop_iff found).mp (areStops id mem)) ordinary
    · exact mem

/-- While a Stop is queued the worker takes a Stop, the first command of the queue. -/
theorem Reachable.takes_stop {setup : Setup} {system after : System} {stop : ℕ}
    (reached : Reachable setup system)
    (taken : step setup system (.worker .dequeue) = some after)
    (serving : system.impl.shuttingDown = false) (mem : stop ∈ system.impl.queue)
    (isStop : system.impl.IsStop stop) :
    ∃ id, system.impl.IsStop id ∧ system.impl.queue = id :: after.impl.queue := by
  cases queue : system.impl.queue with
  | nil => simp [queue] at mem
  | cons head rest =>
      have ordered := reached.inOrder.ordered
      rw [queue] at ordered mem
      have headStop : system.impl.IsStop head := Ordered.head_urgent ordered mem isStop
      refine ⟨head, headStop, ?_⟩
      rcases headStop with ⟨record, found, type⟩
      have executable : system.impl.isExecutable head = true :=
        Impl.isExecutable_of_canRunDuringMotion found (by simp [type, canRunDuringMotion])
      cases workerStep_cases taken with
      | exits _ flagged => simp [serving] at flagged
      | dequeues =>
          dsimp only
          rw [Impl.dequeueLocked_of_head system.now queue executable]

/-- Behind an ordinary command that leaves the queue while no motion is active only newer ones
wait. -/
theorem Reachable.takes_newer {setup : Setup} {system after later laterAfter : System}
    {first second : ℕ} (reached : Reachable setup system)
    (dequeues : Dequeues setup system after first)
    (inactive : system.impl.activeMotionId = none) (ordinary : ¬system.impl.IsStop first)
    (steps : StepsUnder (step setup) (fun _ _ => True) after later)
    (laterDequeues : Dequeues setup later laterAfter second) : first < second := by
  have inOrder := reached.inOrder
  have queue := dequeues.head inactive
  have ordered := inOrder.ordered
  rw [queue] at ordered
  have afterReached := reached.followed dequeues.1
  have issued := inOrder.queue_issued first dequeues.2.1
  rcases reached.step_moves dequeues.1 with ⟨_, _, moves⟩
  have nextId : system.impl.nextCommandId ≤ after.impl.nextCommandId := moves.nextId_le
  rcases afterReached.queue_of_steps steps laterDequeues.2.1 with mem | new
  · exact (Ordered.newer_behind ordered ordinary mem).2
  · omega

/-- Stops go first: the queue lists all waiting Stops, the newest first, and then the other waiting
commands in the order of submission; the worker dequeues a Stop whenever one waits; and a command
that it dequeues while no motion is active is older than every ordinary one it dequeues later. -/
theorem stops_first_others_in_order {setup : Setup} {system : System}
    (reached : Reachable setup system) :
    (∃ stops others, system.impl.queue = stops ++ others ∧
      stops.Pairwise (· > ·) ∧ others.Pairwise (· < ·) ∧
      (∀ id, id ∈ stops ↔ ∃ record, system.impl.commands.lookup id = some record ∧
        record.state = .queued ∧ record.request.type = .stop) ∧
      ∀ id, id ∈ others ↔ ∃ record, system.impl.commands.lookup id = some record ∧
        record.state = .queued ∧ record.request.type ≠ .stop) ∧
    (∀ after stop, step setup system (.worker .dequeue) = some after →
      system.impl.shuttingDown = false → stop ∈ system.impl.queue → system.impl.IsStop stop →
      ∃ id, system.impl.IsStop id ∧ system.impl.queue = id :: after.impl.queue) ∧
    ∀ after later laterAfter first second, Dequeues setup system after first →
      system.impl.activeMotionId = none → ¬system.impl.IsStop first →
      StepsUnder (step setup) (fun _ _ => True) after later →
      Dequeues setup later laterAfter second → ¬later.impl.IsStop second → first < second := by
  refine ⟨reached.queue_split, fun after stop taken serving mem isStop => ?_, ?_⟩
  · exact reached.takes_stop taken serving mem isStop
  · intro after later laterAfter first second dequeues inactive ordinary steps laterDequeues _
    exact reached.takes_newer dequeues inactive ordinary steps laterDequeues

/-- Two ordinary commands and a Stop wait: the Stop leaves first, then the older of the others. -/
theorem stops_first_others_in_order_stop : ∃ system after later laterAfter,
    Reachable .moving system ∧ system.impl.queue = [3, 1, 2] ∧
    step .moving system (.worker .dequeue) = some after ∧
    (∃ id, system.impl.IsStop id ∧ system.impl.queue = id :: after.impl.queue) ∧
    Dequeues .moving later laterAfter 1 ∧ ∀ last lastAfter second,
      StepsUnder (step .moving) (fun _ _ => True) laterAfter last →
      Dequeues .moving last lastAfter second → ¬last.impl.IsStop second → 1 < second := by
  rcases exists_reachable_of_execute ready_reachable
    (Schedule.acquire 0 "client" ++
      Schedule.submit 0 (.plain .clearFault (firstLease 1000) "client" "first") ++
      Schedule.submit 0 (.plain .clearFault (firstLease 1000) "client" "second") ++
      Schedule.submit 0 (.plain .stop (firstLease 1000) "client" "stop"))
    (fun system => system.impl.queue = [3, 1, 2] ∧ system.impl.shuttingDown = false ∧
      (system.impl.commands.lookup 3).any (fun record => record.request.type = .stop) = true ∧
      (step .moving system (.worker .dequeue)).isSome = true ∧
      (TransitionSystem.execute (step .moving) (fun _ _ => true)
        (Schedule.work (.returned Status.Ok)) system).any
        fun later => later.impl.queue = [1, 2] ∧ later.impl.activeMotionId = none ∧
          ((later.impl.commands.lookup 1).any fun record => record.request.type ≠ .stop) = true ∧
          (step .moving later (.worker .dequeue)).any fun last => last.impl.queue = [2])
    (by decide) with ⟨system, reached, checked⟩
  rcases of_decide_eq_true checked with ⟨queue, serving, stop, dequeues, served⟩
  rcases (Option.any_eq_true _ _).mp stop with ⟨record, found, type⟩
  rcases Option.isSome_iff_exists.mp dequeues with ⟨after, taken⟩
  rcases (Option.any_eq_true _ _).mp served with ⟨later, executed, laterChecked⟩
  rcases of_decide_eq_true laterChecked with ⟨laterQueue, inactive, ordinary, dequeuesLater⟩
  rcases (Option.any_eq_true _ _).mp ordinary with ⟨first, firstFound, firstType⟩
  rcases (Option.any_eq_true _ _).mp dequeuesLater with ⟨laterAfter, laterTaken, left⟩
  have steps : StepsUnder (step .moving) (fun _ _ => True) system later :=
    stepsUnder_of_execute (fun _ _ _ => trivial) executed
  have laterReached : Reachable .moving later := steps.reachable reached
  have leaves : Dequeues .moving later laterAfter 1 :=
    ⟨laterTaken, by simp [laterQueue], by simp [of_decide_eq_true left]⟩
  have notStop : ¬later.impl.IsStop 1 :=
    mt (Impl.isStop_iff firstFound).mp (of_decide_eq_true firstType)
  refine ⟨system, after, later, laterAfter, reached, queue, taken, ?_, leaves, ?_⟩
  · exact (stops_first_others_in_order reached).2.1 after 3 taken serving (by simp [queue])
      ⟨record, found, of_decide_eq_true type⟩
  · intro last lastAfter second steps lastDequeues lastOrdinary
    exact (stops_first_others_in_order laterReached).2.2 laterAfter last lastAfter 1 second leaves
      inactive notStop steps lastDequeues lastOrdinary

end System

end RobotManager
