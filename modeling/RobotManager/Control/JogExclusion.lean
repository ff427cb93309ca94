import RobotManager.Control.ShutdownSettles
import RobotManager.Control.Threads

/-!
# Jogs and motions

Whether a motion can be set off while a jog is active.  The guard asks the published snapshot for
other motion and takes the jog flag into account for jogs only, so a snapshot that shows a robot
ready in automatic mode lets a motion pass beside a jog.  Without such a passage jogs and motions
exclude each other.
-/

namespace RobotManager

/-- MoveJ, MoveL, MoveC and StartProgram. -/
def DriverCall.beginsMotion : DriverCall → Bool
  | .moveJ _ _ | .moveL _ _ | .moveC _ _ | .startProgram => true
  | _ => false

theorem beginsMotion_of_execute {request : CommandRequest} {call : DriverCall}
    (executed : execute request = .ok call) :
    call.beginsMotion = isMotionCommand request.type := by
  unfold execute at executed
  split at executed <;> cases executed <;> simp_all [isMotionCommand, DriverCall.beginsMotion]

/-- The jog flag that the worker has copied for its command. -/
def WorkerPc.copiedJog : WorkerPc → Option Bool
  | .copied _ _ jogActive | .leaseSampled _ _ jogActive _ => some jogActive
  | _ => none

/-- The command that has passed its validation and whose driver call has not failed. -/
def WorkerPc.starting (impl : Impl) : WorkerPc → Option CommandRecord
  | .validated record _ result =>
      if (System.programCheck impl record.request result).ok then some record else none
  | .ready record _ result | .finished record result => if result.ok then some record else none
  | .executing record _ _ => some record
  | _ => none

theorem WorkerPc.starting_congr {impl other : Impl}
    (loaded : other.loadedApprovedProgram = impl.loadedApprovedProgram) (worker : WorkerPc) :
    worker.starting other = worker.starting impl := by
  cases worker with
  | validated =>
      unfold WorkerPc.starting System.programCheck
      rw [loaded]
  | _ => rfl

namespace Impl

variable {options : ExecutorOptions} {now : TimePoint} {impl after : Impl}

/-! ### Which sections change the jog flag -/

@[simp]
theorem requestInternalStopLocked_jogActive (reason : String) :
    (impl.requestInternalStopLocked reason now).jogActive = impl.jogActive := by
  unfold requestInternalStopLocked
  split <;> rfl

theorem dequeueLocked_jogActive (now : TimePoint) (impl : Impl) :
    (impl.dequeueLocked now).1.jogActive = impl.jogActive := by
  have dequeue := impl.dequeueLocked_cases now
  generalize (impl.dequeueLocked now).1 = after at dequeue ⊢
  generalize (impl.dequeueLocked now).2 = handed at dequeue
  cases dequeue <;> rfl

theorem MotionUpdate.jogActive (update : MotionUpdate options now impl after) :
    after.jogActive = impl.jogActive := by
  cases update <;> simp [finishActiveMotionLocked]

theorem publishState_jogActive (options : ExecutorOptions) (state : StatusOr RobotSnapshot)
    (now : TimePoint) (impl : Impl) :
    (impl.publishState options state now).1.jogActive = impl.jogActive := by
  unfold publishState
  split
  · rfl
  · split <;> rfl

theorem publishLocked_jogActive (options : ExecutorOptions) (leases : ControlLeaseManager)
    (state : StatusOr RobotSnapshot) (now : TimePoint) (impl : Impl) :
    (impl.publishLocked options leases state now).jogActive = impl.jogActive := by
  rcases impl.publishLocked_cases options leases state now with ⟨updated, update, _, same⟩
  rw [same, ← publishState_jogActive options state now impl, ← update.jogActive]
  rcases updated.checkLeasesLocked_cases leases now with ⟨_, same⟩ | ⟨reason, same⟩
  · rw [same]
  · simp [same]

theorem releaseLocked_jogActive (leaseId clientId : String) (now : TimePoint) (impl : Impl) :
    (impl.releaseLocked leaseId clientId now).jogActive = impl.jogActive := by
  rcases impl.releaseLocked_cases leaseId clientId now with same | same <;> rw [same]
  · rfl
  · simp [cancelQueuedCommandsForLeaseLocked]

theorem completeActiveProgramLocked_jogActive (now : TimePoint) (impl : Impl) :
    (impl.completeActiveProgramLocked now).jogActive = impl.jogActive := by
  unfold completeActiveProgramLocked completeActiveMotionLocked
  split
  · rfl
  split
  · rfl
  · split <;> rfl

theorem OrdinaryCompletion.jogActive {record : CommandRecord}
    (completion : OrdinaryCompletion options now record impl after)
    (jogs : after.jogActive = true) : impl.jogActive = true ∨ record.request.type = .jog := by
  cases completion with
  | plain | loaded => exact Or.inl jogs
  | jogStarted type | jogStartedWithoutLease type => exact Or.inr type
  | jogEnded | stopped => cases jogs
  | programStopped =>
      have jogs : (impl.completeActiveProgramLocked now).jogActive = true := jogs
      rw [completeActiveProgramLocked_jogActive] at jogs
      exact Or.inl jogs

/-- The completion section makes a jog active only for a jog in flight. -/
theorem Completion.jogActive {leases : ControlLeaseManager} {record : CommandRecord}
    {result : Status} (completion : Completion options leases now record result impl after)
    (jogs : after.jogActive = true) : impl.jogActive = true ∨ record.request.type = .jog := by
  cases completion with
  | missing | failed | activated => exact Or.inl jogs
  | superseded | activatedWithoutLease =>
      exact Or.inl (by simpa [finished, Impl.activated] using jogs)
  | ordinary =>
      exact (completeOrdinaryLocked_cases options leases now record
        (impl.finished record .succeeded result now)).jogActive jogs

end Impl

namespace System

open TransitionSystem

/-- Only the worker's completions make a jog or a motion active. -/
theorem Effect.calm {setup : Setup} {system : System} {action : Action} {impl : Impl}
    {next : Option CommandRecord} (effect : Effect setup system action impl next)
    (other : action ≠ .worker .complete) :
    (impl.jogActive = true → system.impl.jogActive = true) ∧
      (system.impl.activeMotionId = none → impl.activeMotionId = none) := by
  cases effect with
  | unchanged | flagged => exact ⟨id, id⟩
  | dequeued => simp [Impl.dequeueLocked_jogActive]
  | completed => exact absurd rfl other
  | published =>
      constructor
      · rw [Impl.publishLocked_jogActive]
        exact id
      · intro noMotion
        apply Option.eq_none_iff_forall_ne_some.mpr
        intro id isActive
        cases noMotion.symm.trans (Impl.publishLocked_activeMotionId isActive)
  | @submitted _ _ request _ traversal =>
      rcases Impl.submitLocked_eq setup.options traversal request system.now system.impl with
        ⟨_, _, _, _, eq⟩
      rw [eq]
      exact ⟨id, id⟩
  | released => simp [Impl.releaseLocked_jogActive, Impl.releaseLocked_activeMotionId]
  | settled => simp [Impl.shutdownLocked_jogActive, Impl.shutdownLocked_activeMotionId]

/-- The guard is asked about a motion while the copied jog flag is set, and lets it pass. -/
def AdmitsMotionDuringJog (setup : Setup) (system : System) (action : Action) : Prop :=
  action = .worker .checkLease ∧ ∃ record snapshot sampled,
    system.worker = .leaseSampled record snapshot true sampled ∧
    isMotionCommand record.request.type = true ∧
    (programCheck system.impl record.request (validate setup.policy record.request snapshot
      (system.leases.isValid record.request.leaseId record.request.clientId sampled) true)).ok =
        true

/-- No jog is active beside a motion, nor beside one that is about to start. -/
structure JogApart (system : System) : Prop where
  copied : ∀ {jogActive}, system.worker.copiedJog = some jogActive →
    system.impl.jogActive = true → jogActive = true
  starting : ∀ {record}, system.worker.starting system.impl = some record →
    isMotionCommand record.request.type = true → system.impl.jogActive = false
  jogging : ∀ {record}, system.worker.inFlight = some record → record.request.type = .jog →
    system.impl.activeMotionId = none
  apart : system.impl.jogActive = true → system.impl.activeMotionId = none

/-- Steps after which no more is active and the worker holds no more than before. -/
theorem JogApart.keep {system after : System} (separate : JogApart system)
    (jogs : after.impl.jogActive = true → system.impl.jogActive = true)
    (motion : system.impl.activeMotionId = none → after.impl.activeMotionId = none)
    (copied : ∀ {jogActive}, after.worker.copiedJog = some jogActive →
      system.worker.copiedJog = some jogActive ∨ jogActive = after.impl.jogActive)
    (starting : ∀ {record}, after.worker.starting after.impl = some record →
      system.worker.starting system.impl = some record ∨
        (isMotionCommand record.request.type = true → after.impl.jogActive = false))
    (flight : ∀ {record}, after.worker.inFlight = some record →
      system.worker.inFlight = some record ∨
        (record.request.type = .jog → after.impl.activeMotionId = none)) : JogApart after where
  copied := by
    intro jogActive isCopied isActive
    rcases copied isCopied with before | current
    · exact separate.copied before (jogs isActive)
    · rw [current, isActive]
  starting := by
    intro record starts isMotion
    rcases starting starts with before | quiet
    · cases isActive : after.impl.jogActive with
      | false => rfl
      | true => cases (separate.starting before isMotion).symm.trans (jogs isActive)
    · exact quiet isMotion
  jogging := by
    intro record held isJog
    rcases flight held with before | quiet
    · exact motion (separate.jogging before isJog)
    · exact quiet isJog
  apart := fun isActive => motion (separate.apart (jogs isActive))

/-- Steps of the worker between two sections keep the command that it holds. -/
theorem JogApart.between {system after : System} (separate : JogApart system)
    (impl : after.impl = system.impl) (flight : after.worker.inFlight = system.worker.inFlight)
    (copied : ∀ {jogActive}, after.worker.copiedJog = some jogActive →
      system.worker.copiedJog = some jogActive ∨ jogActive = system.impl.jogActive)
    (starting : ∀ {record}, after.worker.starting system.impl = some record →
      system.worker.starting system.impl = some record ∨
        (isMotionCommand record.request.type = true → system.impl.jogActive = false)) :
    JogApart after := by
  apply separate.keep <;> rw [impl]
  · exact id
  · exact id
  · exact copied
  · exact starting
  · rw [flight]
    exact .inl

/-- A jog is taken from the queue only while no motion is active. -/
theorem activeMotionId_of_dequeued_jog {impl : Impl} {now : TimePoint} {record : CommandRecord}
    (handed : (impl.dequeueLocked now).2 = some record) (isJog : record.request.type = .jog) :
    impl.activeMotionId = none := by
  rcases Impl.dequeueLocked_handed handed with ⟨id, command, executable, found, _, rfl⟩
  have isJog : command.request.type = .jog := isJog
  have executes : impl.isExecutable id = true := List.find?_some executable
  simp only [Impl.isExecutable, found, isJog] at executes
  by_contra isActive
  simp [isActive, canRunDuringMotion] at executes

/-- Steps outside the worker. -/
theorem JogApart.elsewhere {setup : Setup} {system after : System} {action : Action}
    (separate : JogApart system) (taken : step setup system action = some after)
    (other : action ≠ .worker .complete) (worker : after.worker = system.worker) :
    JogApart after := by
  rcases (step_effect taken).calm other with ⟨jogs, motion⟩
  refine separate.keep jogs motion ?_ ?_ ?_
  · rw [worker]
    exact .inl
  · rw [worker, WorkerPc.starting_congr (loadedApprovedProgram_of_step taken other)]
    exact .inl
  · rw [worker]
    exact .inl

theorem JogApart.workerStep {setup : Setup} {system after : System} {action : WorkerAction}
    (separate : JogApart system)
    (refused : ¬AdmitsMotionDuringJog setup system (.worker action))
    (taken : step setup system (.worker action) = some after) : JogApart after := by
  have effect := step_effect taken
  cases workerStep_cases taken with
  | exits =>
      refine separate.keep id id ?_ ?_ ?_
      · simp [WorkerPc.copiedJog]
      · simp [WorkerPc.starting]
      · simp [WorkerPc.inFlight]
  | dequeues position serving =>
      rcases effect.calm (by simp) with ⟨jogs, motion⟩
      refine separate.keep jogs motion ?_ ?_ ?_
      · cases (system.impl.dequeueLocked system.now).2 <;>
          simp [WorkerPc.afterDequeue, WorkerPc.copiedJog]
      · cases (system.impl.dequeueLocked system.now).2 <;>
          simp [WorkerPc.afterDequeue, WorkerPc.starting]
      · intro record held
        rw [WorkerPc.inFlight_afterDequeue] at held
        exact .inr fun isJog => motion (activeMotionId_of_dequeued_jog held isJog)
  | copies position =>
      refine separate.between rfl (by rw [position]; rfl) ?_ (by simp [WorkerPc.starting])
      rintro jogActive ⟨⟩
      exact .inr rfl
  | samples position =>
      refine separate.between rfl (by rw [position]; rfl) ?_ (by simp [WorkerPc.starting])
      rw [position]
      exact .inl
  | @validates record snapshot jogActive sampled evidence position seen =>
      refine separate.between rfl (by rw [position]; rfl) (by simp [WorkerPc.copiedJog]) ?_
      intro started starts
      simp only [WorkerPc.starting] at starts
      split at starts
      · next passes =>
        cases starts
        refine .inr fun isMotion => ?_
        cases isActive : system.impl.jogActive with
        | false => rfl
        | true =>
            have flagged : jogActive = true :=
              separate.copied (by rw [position]; rfl) isActive
            subst seen flagged
            exact absurd ⟨rfl, record, snapshot, sampled, position, isMotion, passes⟩ refused
      · cases starts
  | checksProgram position =>
      refine separate.between rfl (by rw [position]; rfl) (by simp [WorkerPc.copiedJog]) ?_
      rw [position]
      exact .inl
  | refuses position notOk =>
      refine separate.between rfl (by rw [position]; rfl) (by simp [WorkerPc.copiedJog]) ?_
      simp [WorkerPc.starting, notOk]
  | lacksPayload position missing =>
      refine separate.between rfl (by rw [position]; rfl) (by simp [WorkerPc.copiedJog]) ?_
      simp [WorkerPc.starting, execute_error_not_ok missing]
  | calls position ok free executed =>
      refine separate.between rfl (by rw [position]; rfl) (by simp [WorkerPc.copiedJog]) ?_
      simp [position, WorkerPc.starting, ok]
  | @returns record evidence call outcome position =>
      refine separate.between rfl (by rw [position]; rfl) (by simp [WorkerPc.copiedJog]) ?_
      intro started starts
      simp only [WorkerPc.starting] at starts
      split at starts
      · rw [position]
        exact .inl starts
      · cases starts
  | @completes record result position =>
      have completion := Impl.completeLocked_cases setup.options system.leases system.now record
        result system.impl
      refine ⟨by simp [WorkerPc.copiedJog], by simp [WorkerPc.starting],
        by simp [WorkerPc.inFlight], ?_⟩
      intro jogs
      apply Option.eq_none_iff_forall_ne_some.mpr
      intro id isActive
      -- what is active afterwards was active before or has just been completed
      rcases completion.jogActive jogs with wasJogging | isJog
      · rcases completion.activeMotionId isActive with wasActive | ⟨ok, isMotion, _⟩
        · cases (separate.apart wasJogging).symm.trans wasActive
        · have quiet : system.impl.jogActive = false :=
            separate.starting (by simp [position, WorkerPc.starting, ok]) isMotion
          cases quiet.symm.trans wasJogging
      · rcases completion.activeMotionId isActive with wasActive | ⟨_, isMotion, _⟩
        · have noMotion : system.impl.activeMotionId = none :=
            separate.jogging (by rw [position]; rfl) isJog
          cases noMotion.symm.trans wasActive
        · simp [isJog, isMotionCommand] at isMotion

theorem ReachableUnder.jogApart {setup : Setup} {system : System}
    (reached : ReachableUnder setup
      (fun system action => ¬AdmitsMotionDuringJog setup system action) system) :
    JogApart system := by
  refine reached.invariant JogApart ?_ ?_
  · intro system initial
    rcases init_cases initial with ⟨_, snapshot, now, rfl⟩
    refine ⟨?_, ?_, ?_, ?_⟩ <;>
      simp [started, WorkerPc.copiedJog, WorkerPc.starting, WorkerPc.inFlight]
  intro system action after _ separate refused taken
  cases action with
  | worker action => exact separate.workerStep refused taken
  | advance nanoseconds =>
      apply separate.elsewhere taken (by simp)
      cases taken
      rfl
  | poll action =>
      apply separate.elsewhere taken (by simp)
      cases pollStep_cases taken <;> rfl
  | client thread action =>
      apply separate.elsewhere taken (by simp)
      cases clientStep_cases taken <;> rfl
  | shutdown action =>
      apply separate.elsewhere taken (by simp)
      cases shutdownStep_cases taken <;> rfl

/-- The jog watchdog requests a stop: the heartbeat is overdue or the lease of the jog is gone. -/
def JogDue (system : System) : Prop :=
  system.impl.jogActive = true ∧ (system.impl.jogDeadline ≤ system.now ∨
    system.leases.isValid system.impl.activeJogLeaseId system.impl.activeJogClientId system.now =
      false)

/-- In every run in which the guard lets no motion pass while the copied jog flag is set, no call
that begins a motion is made while a jog is active, no motion and jog are active together, and the
jog watchdog acts only while no motion is active or about to be. -/
theorem motions_exclude_jogs {setup : Setup} {system : System}
    (reached : ReachableUnder setup
      (fun system action => ¬AdmitsMotionDuringJog setup system action) system) :
    (∀ after record evidence call, step setup system (.worker .callBegins) = some after →
      after.worker = .executing record evidence call → call.beginsMotion = true →
      system.impl.jogActive = false) ∧
    (∀ record evidence call, system.worker = .executing record evidence call →
      call.beginsMotion = true → system.impl.jogActive = false) ∧
    ¬(system.impl.activeMotionId.isSome = true ∧ system.impl.jogActive = true) ∧
    ∀ after, step setup system (.poll .publish) = some after → JogDue after →
      system.impl.activeMotionId = none ∧ after.impl.activeMotionId = none ∧
        ∀ record, after.worker.starting after.impl = some record →
          isMotionCommand record.request.type = false := by
  have separate := ReachableUnder.jogApart reached
  have calling : ∀ {system}, ReachableUnder setup
      (fun system action => ¬AdmitsMotionDuringJog setup system action) system →
      ∀ record evidence call, system.worker = .executing record evidence call →
        call.beginsMotion = true → system.impl.jogActive = false := by
    intro system reached record evidence call position begins
    have executed : execute record.request = .ok call :=
      (Reachable.consistent reached.reachable).executing position |>.1
    rw [beginsMotion_of_execute executed] at begins
    exact (ReachableUnder.jogApart reached).starting (by rw [position]; rfl) begins
  refine ⟨?_, calling reached, ?_, ?_⟩
  · intro after record evidence call taken position begins
    have afterReached := TransitionSystem.ReachableUnder.next reached
      (fun admits => by cases admits.1) taken
    have quiet := calling afterReached record evidence call position begins
    cases workerStep_cases taken with
    | calls => exact quiet
    | refuses | lacksPayload => cases position
  · rintro ⟨isSome, jogs⟩
    simp [separate.apart jogs] at isSome
  · intro after taken due
    have afterReached := TransitionSystem.ReachableUnder.next reached
      (fun admits => by cases admits.1) taken
    have afterSeparate := ReachableUnder.jogApart afterReached
    refine ⟨?_, afterSeparate.apart due.1, ?_⟩
    · exact separate.apart (((step_effect taken).calm (by simp)).1 due.1)
    · intro record starts
      by_contra isMotion
      have quiet := afterSeparate.starting starts (by simpa using isMotion)
      cases quiet.symm.trans due.1

/-! ### A jog and a change of mode -/

/-- The robot stands ready in manual mode. -/
def manual : System :=
  started .moving { RobotSnapshot.standing with controllerMode := .manual, speedRatio := 10 } 1000

theorem manual_reachable {allowed : System → Action → Prop} :
    ReachableUnder .moving allowed manual :=
  .init (init_started (by decide) _ _)

/-- A client takes the lease and starts a jog, which gets the id 1. -/
def startJog : List Action :=
  Schedule.acquire 0 "client" ++
    Schedule.submit 0 { CommandRequest.plain .jog (firstLease 1000) "client" "jog" with
      payload := .jog {} } ++
    Schedule.work (.returned Status.Ok)

/-- A jog is active while the guard is asked about it alone. -/
theorem motions_exclude_jogs_jogging : ∃ system, ReachableUnder .moving
      (fun system action => ¬AdmitsMotionDuringJog .moving system action) system ∧
    system.impl.jogActive = true ∧ system.impl.activeMotionId.isSome = false := by
  have refused : ∀ (system : System) (action : Action),
      (!(action.isWorkers && system.worker.copiedJog == some true)) = true →
      ¬AdmitsMotionDuringJog .moving system action := by
    rintro system action checked ⟨rfl, record, snapshot, sampled, position, _⟩
    simp [Action.isWorkers, position, WorkerPc.copiedJog] at checked
  rcases exists_reachableUnder_of_execute manual_reachable _ refused startJog
    (fun system => system.impl.jogActive) (by decide +kernel) with ⟨system, reached, jogs⟩
  have apart := (motions_exclude_jogs reached).2.2.1
  refine ⟨system, reached, jogs, ?_⟩
  cases active : system.impl.activeMotionId with
  | none => rfl
  | some id => exact absurd ⟨by simp [active], jogs⟩ apart

/-- The mode is switched to automatic during the jog, and a reading shows the robot ready before
the heartbeat of the jog is overdue.  A motion is submitted, and the worker calls the driver. -/
def moveDuringJog : List Action :=
  startJog ++ Schedule.poll (.ok .standing) ++
    Schedule.submit 0 (.move (firstLease 1000) "client" "motion") ++
    Schedule.prepare ++ [.worker .callBegins]

/-- The call returns, and the next iteration of the poll finds the heartbeat overdue. -/
def overdueJog : List Action :=
  [.worker (.callReturns (.returned Status.Ok)), .worker .complete, .advance 400000000,
    .poll .wake] ++ Schedule.poll (.ok { RobotSnapshot.standing with moving := true })

/-- A motion is begun and becomes active beside a jog, and the jog watchdog stops it although its
own lease is valid. -/
theorem motion_beside_jog :
    (∃ system record evidence call, Reachable .moving system ∧
      system.worker = .executing record evidence call ∧ call.beginsMotion = true ∧
      system.impl.jogActive = true) ∧
    ∃ system, Reachable .moving system ∧ system.impl.activeMotionId = some 2 ∧
      system.impl.jogActive = true ∧ system.impl.stopRequested = true ∧
      system.impl.activeMotionLeaseIsValidLocked system.leases system.now = true := by
  constructor
  · rcases exists_reachable_of_execute manual_reachable moveDuringJog
      (fun system => system.impl.jogActive &&
        system.worker.executes fun _ _ call => call.beginsMotion)
      (by decide +kernel) with ⟨system, reached, holds⟩
    rw [Bool.and_eq_true] at holds
    rcases WorkerPc.exists_of_executes holds.2 with ⟨record, evidence, call, position, begins⟩
    exact ⟨system, record, evidence, call, reached, position, begins, holds.1⟩
  · rcases exists_reachable_of_execute manual_reachable (moveDuringJog ++ overdueJog)
      (fun system => system.impl.activeMotionId == some 2 && system.impl.jogActive &&
        system.impl.stopRequested &&
        system.impl.activeMotionLeaseIsValidLocked system.leases system.now)
      (by decide +kernel) with ⟨system, reached, holds⟩
    simp only [Bool.and_eq_true, beq_iff_eq] at holds
    exact ⟨system, reached, holds.1.1.1, holds.1.1.2, holds.1.2, holds.2⟩

end System

end RobotManager
