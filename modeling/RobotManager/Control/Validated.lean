import RobotManager.Control.SitePolicy
import RobotManager.Control.Threads

/-!
# Validated commands

The worker and the clients validate requests on snapshots that the executor has
published, and the worker calls the driver for validated requests only.  From this
follows in which states the robot is set in motion and which bounds every driver call
keeps.
-/

namespace RobotManager

/-- The snapshot that the worker has copied for its command. -/
def WorkerPc.snapshot : WorkerPc → Option RobotSnapshot
  | .copied _ snapshot _ | .leaseSampled _ snapshot _ _ => some snapshot
  | .validated _ evidence _ | .ready _ evidence _ | .executing _ evidence _ =>
      some evidence.snapshot
  | .waiting | .dequeued _ | .finished _ _ | .exited => none

/-- The request that has passed the worker's validation, with what the validation looked at. -/
def WorkerPc.passed : WorkerPc → Option (CommandRequest × Evidence)
  | .validated record evidence result | .ready record evidence result =>
      if result.ok then some (record.request, evidence) else none
  | .executing record evidence _ => some (record.request, evidence)
  | _ => none

namespace Impl

/-- A poll publishes the derived lifecycle, keeps what is published, or makes it unknown. -/
theorem publishState_published {impl : Impl} (published : impl.latestState.Published)
    (options : ExecutorOptions) (state : StatusOr RobotSnapshot) (now : TimePoint) :
    (impl.publishState options state now).1.latestState.Published := by
  unfold publishState
  split
  · exact Or.inl rfl
  · split
    · exact Or.inr rfl
    · exact published

end Impl

namespace System

open TransitionSystem

theorem Effect.latestPublished {setup : Setup} {system : System} {action : Action} {impl : Impl}
    {next : Option CommandRecord} (effect : Effect setup system action impl next)
    (published : system.impl.latestState.Published) : impl.latestState.Published := by
  rcases effect.members.latestState with same | ⟨state, same⟩ <;> rw [same]
  · exact published
  · exact Impl.publishState_published published _ _ _

/-- What a step does to a client thread other than entering or leaving a driver call. -/
theorem ClientTransition.clients {setup : Setup} {thread : ℕ} {system after : System}
    (transition : ClientTransition setup thread system after) (other : ℕ) :
    after.clients other = system.clients other ∨
      ((after.clients other).submitted = none ∧ (after.clients other).snapshot = none) ∨
      ClientPc.Follows setup system.impl (system.clients other) (after.clients other) := by
  have moved : ∀ {pc}, (∀ {after : System}, after.clients = (system.setClient thread pc).clients →
      (other = thread → (pc.submitted = none ∧ pc.snapshot = none) ∨
        ClientPc.Follows setup system.impl (system.clients thread) pc) →
      after.clients other = system.clients other ∨
      ((after.clients other).submitted = none ∧ (after.clients other).snapshot = none) ∨
      ClientPc.Follows setup system.impl (system.clients other) (after.clients other)) := by
    intro pc after same outcome
    rw [same, clients_setClient]
    split
    · next this =>
      subst this
      exact Or.inr (outcome rfl)
    · exact Or.inl rfl
  cases transition with
  | idles => exact Or.inl rfl
  | moves pc leases follows => exact moved rfl fun _ => Or.inr follows
  | returns | cancels | submits | readBegins | readReturns =>
      exact moved rfl fun _ => Or.inl ⟨rfl, rfl⟩

/-- The snapshots that validations use have been published, the requests that clients submit have
been checked, and the requests that are passed on have passed the guard. -/
structure Vetted (setup : Setup) (system : System) : Prop where
  published : system.impl.latestState.Published
  copied : ∀ {snapshot}, system.worker.snapshot = some snapshot → snapshot.Published
  passed : ∀ {request evidence}, system.worker.passed = some (request, evidence) →
    evidence.Passes setup.policy request
  submitting : ∀ {thread snapshot}, (system.clients thread).snapshot = some snapshot →
    snapshot.Published
  checked : ∀ {thread request}, (system.clients thread).submitted = some request →
    Impl.checkRequest request = none
  validated : ∀ {thread request evidence},
    system.clients thread = .submitValidated request evidence →
    evidence.Passes setup.policy request

theorem Vetted.workerStep {setup : Setup} {system after : System} {action : WorkerAction}
    (vetted : Vetted setup system)
    (taken : step setup system (.worker action) = some after) : Vetted setup after := by
  have published := (step_effect taken).latestPublished vetted.published
  have idle : ∀ {worker : WorkerPc}, after.worker = worker → worker.snapshot = none →
      worker.passed = none → after.clients = system.clients → Vetted setup after := by
    intro worker position noSnapshot nonePassed clients
    refine ⟨published, ?_, ?_, ?_, ?_, ?_⟩
    · simp [position, noSnapshot]
    · simp [position, nonePassed]
    all_goals rw [clients]
    · exact vetted.submitting
    · exact vetted.checked
    · exact vetted.validated
  cases workerStep_cases taken with
  | exits | refuses | lacksPayload | returns | completes => exact idle rfl rfl rfl rfl
  | dequeues =>
      refine idle rfl ?_ ?_ rfl <;>
        cases (system.impl.dequeueLocked system.now).2 <;> rfl
  | copies =>
      refine ⟨published, ?_, by simp [WorkerPc.passed], vetted.submitting, vetted.checked,
        vetted.validated⟩
      rintro snapshot ⟨⟩
      exact vetted.published
  | samples position =>
      refine ⟨published, ?_, by simp [WorkerPc.passed], vetted.submitting, vetted.checked,
        vetted.validated⟩
      rintro snapshot ⟨⟩
      exact vetted.copied (by rw [position]; rfl)
  | validates position seen =>
      subst seen
      refine ⟨published, ?_, ?_, vetted.submitting, vetted.checked, vetted.validated⟩
      · rintro snapshot ⟨⟩
        exact vetted.copied (by rw [position]; rfl)
      · intro request evidence passed
        simp only [WorkerPc.passed] at passed
        split at passed
        · next ok =>
          cases passed
          exact ok
        · cases passed
  | @checksProgram record evidence result position =>
      refine ⟨published, ?_, ?_, vetted.submitting, vetted.checked, vetted.validated⟩
      · rintro snapshot ⟨⟩
        exact vetted.copied (by rw [position]; rfl)
      · intro request evidence passed
        apply vetted.passed
        rw [position]
        simp only [WorkerPc.passed, programCheck] at passed ⊢
        split at passed
        · cases passed
        · exact passed
  | @calls record evidence result call position ok =>
      refine ⟨published, ?_, ?_, vetted.submitting, vetted.checked, vetted.validated⟩
      · rintro snapshot ⟨⟩
        exact vetted.copied (by rw [position]; rfl)
      · rintro request evidence ⟨⟩
        apply vetted.passed
        rw [position]
        simp [WorkerPc.passed, ok]

theorem Vetted.clientStep {setup : Setup} {system after : System} {thread : ℕ}
    {action : ClientAction} (vetted : Vetted setup system)
    (taken : step setup system (.client thread action) = some after) : Vetted setup after := by
  have transition := clientStep_cases taken
  have worker : after.worker = system.worker := by cases transition <;> rfl
  refine ⟨(step_effect taken).latestPublished vetted.published, ?_, ?_, ?_, ?_, ?_⟩
  · rw [worker]
    exact vetted.copied
  · rw [worker]
    exact vetted.passed
  · intro other snapshot copied
    rcases transition.clients other with same | ⟨_, none⟩ | follows
    · exact vetted.submitting (same ▸ copied)
    · cases none.symm.trans copied
    · rcases follows.snapshot snapshot copied with rfl | before
      · exact vetted.published
      · exact vetted.submitting before
  · intro other request submitted
    rcases transition.clients other with same | ⟨none, _⟩ | follows
    · exact vetted.checked (same ▸ submitted)
    · cases none.symm.trans submitted
    · exact (follows.submitted request submitted).elim id vetted.checked
  · intro other request evidence position
    rcases transition.clients other with same | ⟨none, _⟩ | follows
    · exact vetted.validated (same ▸ position)
    · rw [position] at none
      cases none
    · exact follows.validated request evidence position

theorem Reachable.vetted {setup : Setup} {system : System} (reached : Reachable setup system) :
    Vetted setup system := by
  refine reached.rule (Vetted setup) (fun snapshot now => ?_)
    fun {system after action} _ vetted taken => ?_
  · refine ⟨Or.inl rfl, ?_, ?_, ?_, ?_, ?_⟩ <;>
      simp [started, WorkerPc.snapshot, WorkerPc.passed, ClientPc.snapshot, ClientPc.submitted]
  have published := (step_effect taken).latestPublished vetted.published
  cases action with
  | worker action => exact vetted.workerStep taken
  | client thread action => exact vetted.clientStep taken
  | advance nanoseconds =>
      cases taken
      exact ⟨published, vetted.copied, vetted.passed, vetted.submitting, vetted.checked,
        vetted.validated⟩
  | poll action =>
      cases pollStep_cases taken <;>
        exact ⟨published, vetted.copied, vetted.passed, vetted.submitting, vetted.checked,
          vetted.validated⟩
  | shutdown action =>
      cases shutdownStep_cases taken <;>
        exact ⟨published, vetted.copied, vetted.passed, vetted.submitting, vetted.checked,
          vetted.validated⟩

end System

end RobotManager
