import RobotManager.Control.QueueOrder

/-!
# Progress of the worker

The worker waits until a queued command is executable or has used up its timeout, but
only an executable one is then taken from the queue.  This file says in which states the
two agree: an expired command that the active motion keeps from running wakes the worker
for nothing.
-/

namespace RobotManager

namespace Impl

/-- The worker may run a command: no motion is active, or the command may run beside the active
motion. -/
def MayRun (impl : Impl) (id : ℕ) : Prop :=
  impl.activeMotionId = none ∨ ∃ record, impl.commands.lookup id = some record ∧
    (record.request.type ∈ [.stop, .hold, .resume, .powerOff] ∨
      (record.request.type = .stopProgram ∧ ∃ active stored, impl.activeMotionId = some active ∧
        impl.commands.lookup active = some stored ∧ stored.request.type = .startProgram))

theorem canRunDuringMotion_iff (type : CommandType) :
    canRunDuringMotion type = true ↔ type ∈ [.stop, .hold, .resume, .powerOff] := by
  cases type <;> decide

/-- For a recorded command the scan of the queue tests whether it may run. -/
theorem isExecutable_iff {impl : Impl} {id : ℕ} {record : CommandRecord}
    (found : impl.commands.lookup id = some record) :
    impl.isExecutable id = true ↔ impl.MayRun id := by
  constructor
  · intro executable
    cases isActive : impl.activeMotionId with
    | none => exact Or.inl isActive
    | some active =>
        refine Or.inr ⟨record, found, ?_⟩
        rcases isExecutable_active executable found isActive with
          during | ⟨type, stored, lookup, program⟩
        · exact Or.inl ((canRunDuringMotion_iff _).mp during)
        · exact Or.inr ⟨type, active, stored, isActive, lookup, program⟩
  · rintro (inactive | ⟨stored, lookup, allowed⟩)
    · exact isExecutable_of_inactive inactive id
    obtain rfl := Option.some.inj (found.symm.trans lookup)
    rcases allowed with during | ⟨type, active, target, isActive, targetLookup, program⟩
    · exact isExecutable_of_canRunDuringMotion found ((canRunDuringMotion_iff _).mpr during)
    · unfold isExecutable
      simp [found, type, isActive, targetLookup, program]

/-- The commands that wait although their timeout has elapsed. -/
def ExpiredQueued (now : TimePoint) (impl : Impl) (id : ℕ) : Prop :=
  id ∈ impl.queue ∧ ∃ record, impl.commands.lookup id = some record ∧ record.expired now = true

theorem findExecutable_isSome_iff {impl : Impl} (wellFormed : impl.WellFormed) :
    impl.findExecutableCommandLocked.isSome = true ↔ ∃ id ∈ impl.queue, impl.MayRun id := by
  unfold findExecutableCommandLocked
  rw [List.find?_isSome]
  refine exists_congr fun id => and_congr_right fun mem => ?_
  rcases wellFormed.queued mem with ⟨record, found, _⟩
  exact isExecutable_iff found

theorem hasExpiredQueued_iff {impl : Impl} (wellFormed : impl.WellFormed) (now : TimePoint) :
    impl.hasExpiredQueuedCommandLocked now = true ↔ ∃ id, impl.ExpiredQueued now id := by
  unfold hasExpiredQueuedCommandLocked ExpiredQueued
  rw [List.any_eq_true]
  refine exists_congr fun id => and_congr_right fun mem => ?_
  rcases wellFormed.queued mem with ⟨record, found, _⟩
  simp [found]

end Impl

namespace System

open TransitionSystem

/-- A round of the worker takes a command from the queue, to dispatch it or as timed out. -/
def Progresses (system after : System) : Prop :=
  ∃ id ∈ system.impl.queue, id ∉ after.impl.queue ∧
    ((∃ record, after.worker = .dequeued record ∧ record.id = id) ∨
      ∃ record, after.impl.commands.lookup id = some record ∧ record.state = .timedOut)

/-- A round of the worker leaves no expired command behind that the active motion keeps from
running. -/
def TimesOutBlocked (system after : System) : Prop :=
  ∀ id, system.impl.ExpiredQueued system.now id → ¬system.impl.MayRun id →
    ∃ record, after.impl.commands.lookup id = some record ∧ record.state = .timedOut

/-- A round that finds an executable command takes it from the queue. -/
theorem dequeue_progresses {setup : Setup} {system : System} {id : ℕ}
    (reached : Reachable setup system) (position : system.worker = .waiting)
    (serving : system.impl.shuttingDown = false)
    (executable : system.impl.findExecutableCommandLocked = some id) :
    ∃ after, step setup system (.worker .dequeue) = some after ∧ Progresses system after ∧
      ∀ other, other ≠ id →
        after.impl.commands.lookup other = system.impl.commands.lookup other := by
  have wellFormed := reached.owned.wellFormed
  have wakes : system.impl.workerWakes system.now = true := by
    simp [Impl.workerWakes, executable]
  have taken : step setup system (.worker .dequeue) = some { system with
      impl := (system.impl.dequeueLocked system.now).1
      worker := .afterDequeue (system.impl.dequeueLocked system.now).2 } := by
    simp only [step, workerStep, position, wakes, serving]
    rcases system.impl.dequeueLocked system.now with ⟨impl, _ | record⟩
    · simp [WorkerPc.afterDequeue, ← position]
    · rfl
  refine ⟨_, taken, ?_⟩
  have removed : ∀ {front back}, system.impl.queue = front ++ id :: back → id ∉ front ++ back := by
    intro front back queue
    have nodup : (front ++ id :: back).Nodup := queue ▸ wellFormed.queueNodup
    exact (List.nodup_cons.mp (List.nodup_middle.mp nodup)).1
  have mem : id ∈ system.impl.queue := List.mem_of_find?_eq_some executable
  have dequeue := system.impl.dequeueLocked_cases system.now
  dsimp only [Progresses]
  generalize (system.impl.dequeueLocked system.now).1 = impl at dequeue ⊢
  generalize (system.impl.dequeueLocked system.now).2 = handed at dequeue ⊢
  cases dequeue with
  | nothing nothing => cases nothing.symm.trans executable
  | vanished found _ absent =>
      obtain rfl := Option.some.inj (found.symm.trans executable)
      rcases wellFormed.queued mem with ⟨record, lookup, _⟩
      cases absent.symm.trans lookup
  | expired found queue lookup =>
      obtain rfl := Option.some.inj (found.symm.trans executable)
      refine ⟨⟨_, mem, removed queue, Or.inr ?_⟩, fun other different => ?_⟩
      · simp [FiniteMap.lookup_modify, lookup]
      · simp [FiniteMap.lookup_modify, different]
  | started found queue lookup =>
      obtain rfl := Option.some.inj (found.symm.trans executable)
      refine ⟨⟨_, mem, removed queue, Or.inl ⟨_, rfl, ?_⟩⟩, fun other different => ?_⟩
      · exact wellFormed.ident_eq lookup
      · simp [FiniteMap.lookup_modify, different]

/-- A round that finds no executable command changes nothing. -/
theorem dequeue_spins {setup : Setup} {system : System} (position : system.worker = .waiting)
    (wakes : system.impl.workerWakes system.now = true)
    (serving : system.impl.shuttingDown = false)
    (nothing : system.impl.findExecutableCommandLocked = none) :
    step setup system (.worker .dequeue) = some system := by
  simp only [step, workerStep, position, wakes, serving, Impl.dequeueLocked, nothing]
  simp [← position]

/-- A round of the worker makes progress and leaves no expired command behind exactly if the active
motion keeps no expired command from running; otherwise it may change nothing at all. -/
theorem wakeup_makes_progress_iff {setup : Setup} {system : System}
    (reached : Reachable setup system) (position : system.worker = .waiting)
    (wakes : system.impl.workerWakes system.now = true)
    (serving : system.impl.shuttingDown = false) :
    ∃ after, step setup system (.worker .dequeue) = some after ∧
      (Progresses system after ∧ TimesOutBlocked system after ↔
        ∀ id, system.impl.ExpiredQueued system.now id → system.impl.MayRun id) ∧
      (Progresses system after ↔ ∃ id ∈ system.impl.queue, system.impl.MayRun id) ∧
      (¬Progresses system after → after = system) := by
  have wellFormed := reached.owned.wellFormed
  have someExecutable := Impl.findExecutable_isSome_iff wellFormed
  cases executable : system.impl.findExecutableCommandLocked with
  | some chosen =>
      rcases dequeue_progresses reached position serving executable with
        ⟨after, taken, progresses, others⟩
      rw [executable] at someExecutable
      refine ⟨after, taken, ⟨?_, ?_⟩, iff_of_true progresses (someExecutable.mp rfl),
        fun stuck => absurd progresses stuck⟩
      · rintro ⟨_, timesOut⟩ id expired
        by_contra blocked
        rcases timesOut id expired blocked with ⟨marked, found, state⟩
        rcases expired with ⟨mem, record, lookup, _⟩
        have different : id ≠ chosen := by
          rintro rfl
          exact blocked ((Impl.isExecutable_iff lookup).mp (List.find?_some executable))
        rw [others id different] at found
        rcases wellFormed.queued mem with ⟨stored, storedLookup, queued⟩
        rw [Option.some.inj (storedLookup.symm.trans found), state] at queued
        cases queued
      · intro allowed
        exact ⟨progresses, fun id expired blocked => absurd (allowed id expired) blocked⟩
  | none =>
      rw [executable] at someExecutable
      have none : ¬∃ id ∈ system.impl.queue, system.impl.MayRun id := by
        simpa using someExecutable.not
      have stuck : ¬Progresses system system := by
        rintro ⟨id, mem, gone, _⟩
        exact gone mem
      -- nothing is executable, so it was an expired command that woke the worker
      have expired : ∃ id, system.impl.ExpiredQueued system.now id := by
        rw [← Impl.hasExpiredQueued_iff wellFormed]
        simpa [Impl.workerWakes, serving, executable] using wakes
      refine ⟨system, dequeue_spins position wakes serving executable, ⟨?_, ?_⟩,
        iff_of_false stuck none, fun _ => rfl⟩
      · rintro ⟨progresses, _⟩
        exact absurd progresses stuck
      · intro allowed
        rcases expired with ⟨id, isExpired⟩
        exact absurd ⟨id, isExpired.1, allowed id isExpired⟩ none

/-- A fault is to be cleared within a millisecond, but a motion is active. -/
def hastyClearFault : CommandRequest :=
  { CommandRequest.plain .clearFault (firstLease 1000) "client" "clear" with timeout := 1 }

/-- Beside an active motion an expired command wakes the worker again and again. -/
theorem wakeup_without_progress : ∃ system, Reachable .moving system ∧
    system.worker = .waiting ∧ system.impl.workerWakes system.now = true ∧
    system.impl.shuttingDown = false ∧ system.impl.ExpiredQueued system.now 2 ∧
    step .moving system (.worker .dequeue) = some system := by
  rcases exists_reachable_of_execute ready_reachable
    (Schedule.startMotion ++ Schedule.submit 0 hastyClearFault ++ [.advance 2000000])
    (fun system => system.worker = .waiting ∧ system.impl.workerWakes system.now = true ∧
      system.impl.shuttingDown = false ∧ 2 ∈ system.impl.queue ∧
      ((system.impl.commands.lookup 2).any fun record => record.expired system.now) = true ∧
      system.impl.findExecutableCommandLocked = none)
    (by decide) with ⟨system, reached, checked⟩
  rcases of_decide_eq_true checked with ⟨position, wakes, serving, mem, expired, nothing⟩
  rcases (Option.any_eq_true _ _).mp expired with ⟨record, found, isExpired⟩
  exact ⟨system, reached, position, wakes, serving, ⟨mem, record, found, isExpired⟩,
    dequeue_spins position wakes serving nothing⟩

/-- A Stop that waits beside the motion may run, so the worker takes it. -/
theorem wakeup_makes_progress_iff_stop : ∃ system, Reachable .moving system ∧
    system.impl.activeMotionId = some 1 ∧
    (∀ id, system.impl.ExpiredQueued system.now id → system.impl.MayRun id) ∧
    ∃ after, step .moving system (.worker .dequeue) = some after ∧ Progresses system after := by
  rcases exists_reachable_of_execute ready_reachable
    (Schedule.startMotion ++
      Schedule.submit 0 (.plain .stop (firstLease 1000) "client" "stop"))
    (fun system => system.worker = .waiting ∧ system.impl.workerWakes system.now = true ∧
      system.impl.shuttingDown = false ∧ system.impl.activeMotionId = some 1 ∧
      system.impl.queue = [2] ∧
      ((system.impl.commands.lookup 2).any fun record => record.request.type = .stop) = true)
    (by decide) with ⟨system, reached, checked⟩
  rcases of_decide_eq_true checked with ⟨position, wakes, serving, isActive, queue, stop⟩
  rcases (Option.any_eq_true _ _).mp stop with ⟨record, found, type⟩
  have allowed : ∀ id, system.impl.ExpiredQueued system.now id → system.impl.MayRun id := by
    rintro id ⟨mem, _⟩
    rw [queue, List.mem_singleton] at mem
    subst mem
    exact Or.inr ⟨record, found, Or.inl (by simp [of_decide_eq_true type])⟩
  rcases wakeup_makes_progress_iff reached position wakes serving with ⟨after, taken, exact, _⟩
  exact ⟨system, reached, isActive, allowed, after, taken, (exact.mpr allowed).1⟩

end System

end RobotManager
