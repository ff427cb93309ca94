import RobotManager.Control.Schedules
import RobotManager.Control.Validated

/-!
# Driver calls are safe and inside the site policy

In every run the worker sets the robot in motion only in a safe state, except for a
resume, and keeps every driver call inside the site policy, except for a MoveJ under
joint limits with a NaN bound.
-/

namespace RobotManager

/-! ### The loaded program -/

/-- The program of the last LoadProgram call that succeeded. -/
def lastLoaded : List Event → Option String
  | [] => none
  | .callReturned _ (.loadProgram name) result :: older =>
      if result.ok then some name else lastLoaded older
  | _ :: older => lastLoaded older

theorem lastLoaded_cons {event : Event} (events : List Event)
    (other : ∀ id call result, event ≠ .callReturned id call result) :
    lastLoaded (event :: events) = lastLoaded events := by
  cases event with
  | callReturned id call result => exact absurd rfl (other id call result)
  | _ => rfl

theorem lastLoaded_callReturned (id : ℕ) (call : DriverCall) (result : Status)
    (events : List Event) :
    (∃ name, call = .loadProgram name ∧
      lastLoaded (.callReturned id call result :: events) = some name) ∨
      lastLoaded (.callReturned id call result :: events) = lastLoaded events := by
  cases call with
  | loadProgram name =>
      cases ok : result.ok with
      | true => exact Or.inl ⟨name, rfl, by simp [lastLoaded, ok]⟩
      | false => exact Or.inr (by simp [lastLoaded, ok])
  | _ => exact Or.inr rfl

/-- Once a LoadProgram call has succeeded, some program is the last one loaded. -/
theorem lastLoaded_of_mem {events : List Event} {id : ℕ} {name : String} {result : Status}
    (mem : .callReturned id (.loadProgram name) result ∈ events) (ok : result.ok = true) :
    (lastLoaded events).isSome = true := by
  induction events with
  | nil => cases mem
  | cons event events ih =>
      rcases List.mem_cons.mp mem with rfl | older
      · simp [lastLoaded, ok]
      · have loaded := ih older
        cases event with
        | callReturned other call status =>
            rcases lastLoaded_callReturned other call status events with ⟨_, _, same⟩ | same <;>
              simp [same, loaded]
        | _ => exact loaded

/-- Whether the worker holds a program start that has passed the check for a loaded program. -/
def WorkerPc.startsProgram : WorkerPc → Bool
  | .ready record _ result => result.ok && record.request.type == .startProgram
  | .executing record _ _ => record.request.type == .startProgram
  | _ => false

namespace System

open TransitionSystem

theorem execute_loadProgram {request : CommandRequest} {call : DriverCall}
    (executed : execute request = .ok call) (type : request.type = .loadProgram) :
    ∃ name, call = .loadProgram name := by
  unfold execute at executed
  split at executed <;> cases executed <;> simp_all

/-- Only the return of a call of the worker changes which program was loaded last. -/
theorem step_lastLoaded {setup : Setup} {system after : System} {action : Action}
    (taken : step setup system action = some after)
    (other : ∀ outcome, action ≠ .worker (.callReturns outcome)) :
    lastLoaded after.events = lastLoaded system.events := by
  cases action with
  | advance =>
      cases taken
      rfl
  | worker action =>
      cases workerStep_cases taken with
      | returns => exact absurd rfl (other _)
      | exits | dequeues | copies | samples | validates | checksProgram | refuses | lacksPayload
      | calls | completes => rfl
  | poll action =>
      cases pollStep_cases taken with
      | publishes =>
          dsimp only
          rcases seenEvents_cases system.impl _ with none | ⟨active, seen⟩
          · rw [none, List.nil_append]
          · rw [seen]
            rfl
      | checks | skips | readBegins | readReturns | exits | wakes => rfl
  | client thread action =>
      cases clientStep_cases taken with
      | returns event leases quiet =>
          apply lastLoaded_cons
          rintro id call result rfl
          cases quiet
      | idles | moves | cancels | submits | readBegins | readReturns => rfl
  | shutdown action => cases shutdownStep_cases taken <;> rfl

/-- Every program loaded was approved, and a program is started only when one has been loaded. -/
structure ProgramKnown (setup : Setup) (system : System) : Prop where
  approved : ∀ {name}, lastLoaded system.events = some name →
    name ∈ setup.policy.approvedPrograms
  tracked : system.impl.loadedApprovedProgram ≠ "" →
    (lastLoaded system.events).isSome = true
  starting : system.worker.startsProgram = true → system.impl.loadedApprovedProgram ≠ ""

theorem ProgramKnown.workerStep {setup : Setup} {system after : System} {action : WorkerAction}
    (known : ProgramKnown setup system) (reached : Reachable setup system)
    (taken : step setup system (.worker action) = some after) : ProgramKnown setup after := by
  have keep : (∀ outcome, action ≠ .callReturns outcome) → action ≠ .complete →
      (after.worker.startsProgram = true → after.impl.loadedApprovedProgram ≠ "") →
      ProgramKnown setup after := by
    intro returns completes starting
    have events := step_lastLoaded taken (by simpa using returns)
    refine ⟨?_, ?_, starting⟩
    · rw [events]
      exact known.approved
    · rw [loadedApprovedProgram_of_step taken (by simpa using completes), events]
      exact known.tracked
  cases workerStep_cases taken with
  | exits | copies | samples | validates | refuses | lacksPayload =>
      exact keep (by simp) (by simp) (by simp [WorkerPc.startsProgram])
  | dequeues =>
      refine keep (by simp) (by simp) ?_
      dsimp only
      cases (system.impl.dequeueLocked system.now).2 <;>
        simp [WorkerPc.afterDequeue, WorkerPc.startsProgram]
  | @checksProgram record evidence result position =>
      refine keep (by simp) (by simp) ?_
      intro starts empty
      simp only [WorkerPc.startsProgram, programCheck, Bool.and_eq_true, beq_iff_eq] at starts
      rcases starts with ⟨ok, type⟩
      split at ok
      · cases ok
      · next unloaded => exact unloaded ⟨ok, type, empty⟩
  | @calls record evidence result call position ok free executed =>
      refine keep (by simp) (by simp) fun starts => ?_
      apply known.starting
      rw [position]
      simpa [WorkerPc.startsProgram, ok] using starts
  | @returns record evidence call outcome position =>
      have passes := reached.vetted.passed
        (show system.worker.passed = some (record.request, evidence) by rw [position]; rfl)
      have executed := (reached.consistent.executing position).1
      have loads := lastLoaded_callReturned record.id call outcome.status system.events
      refine ⟨fun {name} loaded => ?_, fun nonempty => ?_, by simp [WorkerPc.startsProgram]⟩
      · rcases loads with ⟨program, rfl, same⟩ | same
        · cases same.symm.trans loaded
          have origin := execute_origin executed
          have within : (DriverCall.loadProgram name).WithinPolicy setup.policy none := by
            refine (passes.withinPolicy_iff executed (by simp)).mpr fun type => ?_
            cases type.symm.trans origin.1
          exact within.2
        · exact known.approved (same.symm.trans loaded)
      · rcases loads with ⟨_, _, same⟩ | same <;> dsimp only <;> rw [same]
        · rfl
        · exact known.tracked nonempty
  | @completes record result position =>
      refine ⟨known.approved, fun nonempty => ?_, by simp [WorkerPc.startsProgram]⟩
      rcases (step_effect taken).members.loadedApprovedProgram with
        same | ⟨_, _, _, other, ok, type⟩
      · exact known.tracked (same ▸ nonempty)
      · cases position.symm.trans other
        rcases reached.consistent.finished position ok with ⟨call, executed, _, returned⟩
        rcases execute_loadProgram executed type with ⟨name, rfl⟩
        exact lastLoaded_of_mem returned ok

theorem Reachable.programKnown {setup : Setup} {system : System}
    (reached : Reachable setup system) : ProgramKnown setup system := by
  refine reached.rule (ProgramKnown setup) (fun snapshot now => ?_)
    fun {system after action} reached known taken => ?_
  · refine ⟨?_, ?_, ?_⟩ <;> simp [started, lastLoaded, WorkerPc.startsProgram]
  have elsewhere : (∀ workerAction, action ≠ .worker workerAction) →
      after.worker = system.worker → ProgramKnown setup after := by
    intro other worker
    have events := step_lastLoaded taken fun outcome => other (.callReturns outcome)
    have program := loadedApprovedProgram_of_step taken (other .complete)
    refine ⟨?_, ?_, ?_⟩
    · rw [events]
      exact known.approved
    · rw [program, events]
      exact known.tracked
    · rw [program, worker]
      exact known.starting
  cases action with
  | worker action => exact known.workerStep reached taken
  | advance nanoseconds =>
      apply elsewhere (by simp)
      cases taken
      rfl
  | poll action =>
      apply elsewhere (by simp)
      cases pollStep_cases taken <;> rfl
  | client thread action =>
      apply elsewhere (by simp)
      cases clientStep_cases taken <;> rfl
  | shutdown action =>
      apply elsewhere (by simp)
      cases shutdownStep_cases taken <;> rfl

/-! ### Motion in safe states -/

/-- A motion that the worker sends to the driver, or that a client has had validated, was validated
in a state that is safe for motion, except that a resume was only if the robot was ready for it. -/
theorem motion_validated_in_safe_state {setup : Setup} {system : System}
    (reached : Reachable setup system) :
    (∀ record evidence call, system.worker = .executing record evidence call →
      call.startsMotion = true →
      (MotionSafe setup.policy evidence ↔
        (record.request.type = .resume → ResumeReady setup.policy evidence.snapshot))) ∧
    ∀ thread request evidence call, system.clients thread = .submitValidated request evidence →
      execute request = .ok call → call.startsMotion = true →
      (MotionSafe setup.policy evidence ↔
        (request.type = .resume → ResumeReady setup.policy evidence.snapshot)) := by
  have vetted := reached.vetted
  constructor
  · intro record evidence call position starts
    have passes : evidence.Passes setup.policy record.request :=
      vetted.passed (by rw [position]; rfl)
    have published : evidence.snapshot.Published := vetted.copied (by rw [position]; rfl)
    exact passes.motionSafe_iff published (reached.consistent.executing position).1 starts
  · intro thread request evidence call position executed starts
    have published : evidence.snapshot.Published := vetted.submitting (by rw [position]; rfl)
    exact (vetted.validated position).motionSafe_iff published executed starts

/-- A robot that is held in an emergency stop is resumed. -/
theorem motion_resumed_in_emergency_stop : ∃ system record evidence, Reachable .moving system ∧
    system.worker = .executing record evidence .resume ∧
    ¬MotionSafe Setup.moving.policy evidence := by
  let held : RobotSnapshot :=
    { RobotSnapshot.standing with paused := true, emergencyStop := true, servoOn := false }
  have start : Reachable .moving (started .moving held 1000) := .init (init_started (by decide) _ _)
  rcases exists_reachable_of_execute start
    (Schedule.acquire 0 "client" ++
      Schedule.submit 0 (.plain .resume (firstLease 1000) "client" "resume") ++
      Schedule.prepare ++ [.worker .callBegins])
    (fun system => system.worker.executes fun _ evidence call =>
      call = .resume ∧ evidence.snapshot.emergencyStop = true)
    (by decide) with ⟨system, reached, checked⟩
  rcases WorkerPc.exists_of_executes checked with ⟨record, evidence, call, position, holds⟩
  rcases of_decide_eq_true holds with ⟨rfl, stop⟩
  refine ⟨system, record, evidence, reached, position, fun safe => ?_⟩
  cases safe.noEmergencyStop.symm.trans stop

/-- A joint motion is sent to a standing robot. -/
theorem motion_validated_in_safe_state_move : ∃ system record evidence call,
    Reachable .moving system ∧ system.worker = .executing record evidence call ∧
    call.startsMotion = true ∧ MotionSafe Setup.moving.policy evidence := by
  rcases exists_reachable_of_execute ready_reachable
    (Schedule.acquire 0 "client" ++
      Schedule.submit 0 (.move (firstLease 1000) "client" "motion") ++ Schedule.prepare ++
      [.worker .callBegins])
    (fun system => system.worker.executes fun record _ call =>
      call.startsMotion = true ∧ record.request.type = .moveJ)
    (by decide) with ⟨system, reached, checked⟩
  rcases WorkerPc.exists_of_executes checked with ⟨record, evidence, call, position, holds⟩
  rcases of_decide_eq_true holds with ⟨starts, type⟩
  have safe := ((motion_validated_in_safe_state reached).1 record evidence call position
    starts).mpr (by simp [type])
  exact ⟨system, record, evidence, call, reached, position, starts, safe⟩

/-! ### Calls inside the site policy -/

/-- Every driver call stays inside the site policy, except that a MoveJ does exactly if no bound of
the joint limits is NaN. -/
theorem driver_calls_within_policy {setup : Setup} {system : System} {record : CommandRecord}
    {evidence : Evidence} {call : DriverCall} (reached : Reachable setup system)
    (position : system.worker = .executing record evidence call) :
    call.WithinPolicy setup.policy (lastLoaded system.events) ↔
      (record.request.type = .moveJ → setup.policy.JointLimitsComparable) := by
  have passes : evidence.Passes setup.policy record.request :=
    reached.vetted.passed (by rw [position]; rfl)
  have executed := (reached.consistent.executing position).1
  apply passes.withinPolicy_iff executed
  rintro rfl
  have known := reached.programKnown
  have starts : system.worker.startsProgram = true := by
    rw [position]
    simp [WorkerPc.startsProgram, execute_origin executed]
  rcases Option.isSome_iff_exists.mp (known.tracked (known.starting starts)) with ⟨name, loaded⟩
  exact ⟨name, loaded, known.approved loaded⟩

/-- A site whose only joint limit has the given bounds. -/
def limitedSite (minimumDeg maximumDeg : Double) : Setup where
  policy := {
    motionEnabled := true
    jointLimitsVerified := true
    jointLimits := [⟨minimumDeg, maximumDeg⟩] }

/-- A joint motion to the given angle. -/
def moveTo (angle : ℚ) : CommandRequest where
  type := .moveJ
  payload := .moveJ { target := { position := ⟨[.finite angle]⟩ } }
  clientId := "client"
  leaseId := firstLease 1000
  idempotencyKey := "motion"

/-- Under a limit whose bounds are NaN a joint is sent to any angle. -/
theorem driver_call_outside_policy : ∃ system record evidence call,
    Reachable (limitedSite .nan .nan) system ∧
    system.worker = .executing record evidence call ∧
    ¬call.WithinPolicy (limitedSite .nan .nan).policy (lastLoaded system.events) := by
  have start : Reachable (limitedSite .nan .nan) (started (limitedSite .nan .nan) .standing 1000) :=
    .init (init_started (by decide) _ _)
  rcases exists_reachable_of_execute start
    (Schedule.acquire 0 "client" ++ Schedule.submit 0 (moveTo 7200) ++ Schedule.prepare ++
      [.worker .callBegins])
    (fun system => system.worker.executes fun _ _ call =>
      call = .moveJ { position := ⟨[.finite 7200]⟩ } {})
    (by decide) with ⟨system, reached, checked⟩
  rcases WorkerPc.exists_of_executes checked with ⟨record, evidence, call, position, moves⟩
  refine ⟨system, record, evidence, call, reached, position, fun within => ?_⟩
  rw [of_decide_eq_true moves] at within
  rcases within with ⟨admitted, _⟩
  cases admitted with
  | cons admits _ => exact absurd admits.2.1 (by decide)

/-- A joint motion inside a limit with ordinary bounds. -/
theorem driver_calls_within_policy_move : ∃ system record evidence call,
    Reachable (limitedSite (.finite (-10)) (.finite 10)) system ∧
    system.worker = .executing record evidence call ∧ record.request.type = .moveJ ∧
    call.WithinPolicy (limitedSite (.finite (-10)) (.finite 10)).policy
      (lastLoaded system.events) := by
  have start : Reachable (limitedSite (.finite (-10)) (.finite 10))
      (started (limitedSite (.finite (-10)) (.finite 10)) .standing 1000) :=
    .init (init_started (by decide) _ _)
  rcases exists_reachable_of_execute start
    (Schedule.acquire 0 "client" ++ Schedule.submit 0 (moveTo 5) ++ Schedule.prepare ++
      [.worker .callBegins])
    (fun system => system.worker.executes fun record _ _ => record.request.type = .moveJ)
    (by decide) with ⟨system, reached, checked⟩
  rcases WorkerPc.exists_of_executes checked with ⟨record, evidence, call, position, holds⟩
  refine ⟨system, record, evidence, call, reached, position, of_decide_eq_true holds, ?_⟩
  apply (driver_calls_within_policy reached position).mpr
  intro _ limit mem
  rw [List.mem_singleton.mp mem]
  exact ⟨rfl, rfl⟩

end System

end RobotManager
