import RobotManager.Control.QueueOrder
import RobotManager.Control.ShutdownStop
import RobotManager.Control.Validated

/-!
# Commands that wait behind a Stop

A Stop is served first, and its success cancels nothing that waits behind it.  This file
traces a command in flight back to the round of the worker that took it from the queue
and says what a motion that was waiting has to pass before it is sent to the driver
after all.
-/

namespace RobotManager

/-- What the validation of the command in flight has looked at. -/
def WorkerPc.evidence : WorkerPc → Option Evidence
  | .validated _ evidence _ | .ready _ evidence _ | .executing _ evidence _ => some evidence
  | .waiting | .dequeued _ | .copied _ _ _ | .leaseSampled _ _ _ _ | .finished _ _
  | .exited => none

/-- When the worker has read the clock for the check of the lease. -/
def WorkerPc.sampled : WorkerPc → Option TimePoint
  | .leaseSampled _ _ _ sampled => some sampled
  | _ => none

namespace System

open TransitionSystem

/-- A round of the worker since `start` that took a command from the queue, with what the worker
has looked at for it since. -/
structure Fetched (setup : Setup) (start before after system : System) (record : CommandRecord) :
    Prop where
  earlier : StepsUnder (step setup) (fun _ _ => True) start before
  taken : step setup before (.worker .dequeue) = some after
  handed : after.worker = .dequeued record
  since : StepsUnder (step setup) (fun _ _ => True) after system
  copied : ∀ {snapshot}, system.worker.snapshot = some snapshot →
    ∃ copying, StepsUnder (step setup) (fun _ _ => True) after copying ∧
      snapshot = copying.impl.latestState
  sampled : ∀ {sampled}, system.worker.sampled = some sampled →
    ∃ sampling, StepsUnder (step setup) (fun _ _ => True) after sampling ∧
      sampled = sampling.now
  checked : ∀ {evidence}, system.worker.evidence = some evidence →
    ∃ sampling checking, StepsUnder (step setup) (fun _ _ => True) after sampling ∧
      StepsUnder (step setup) (fun _ _ => True) after checking ∧
      evidence.leaseValid = checking.leases.isValid record.request.leaseId
        record.request.clientId sampling.now

/-- A step that leaves what the worker has looked at alone. -/
theorem Fetched.keep {setup : Setup} {start before after system next : System}
    {action : Action} {record : CommandRecord}
    (fetched : Fetched setup start before after system record)
    (taken : step setup system action = some next)
    (snapshot : next.worker.snapshot = system.worker.snapshot ∨ next.worker.snapshot = none)
    (sampled : next.worker.sampled = system.worker.sampled ∨ next.worker.sampled = none)
    (evidence : next.worker.evidence = system.worker.evidence ∨ next.worker.evidence = none) :
    Fetched setup start before after next record := by
  refine ⟨fetched.earlier, fetched.taken, fetched.handed, fetched.since.next trivial taken,
    fun {copy} copied => ?_, fun {time} read => ?_, fun {seen} checked => ?_⟩
  · rcases snapshot with same | none
    · exact fetched.copied (same ▸ copied)
    · cases none.symm.trans copied
  · rcases sampled with same | none
    · exact fetched.sampled (same ▸ read)
    · cases none.symm.trans read
  · rcases evidence with same | none
    · exact fetched.checked (same ▸ checked)
    · cases none.symm.trans checked

/-- A command in flight has been in flight from the start or has been taken from the queue since. -/
def Originates (setup : Setup) (start system : System) : Prop :=
  ∀ record, system.worker.inFlight = some record → start.worker.inFlight = some record ∨
    ∃ before after, Fetched setup start before after system record

/-- A step during which the worker keeps its command. -/
theorem Originates.keep {setup : Setup} {start system next : System}
    (originates : Originates setup start system)
    (flight : next.worker.inFlight = system.worker.inFlight)
    (fetches : ∀ {before after record}, system.worker.inFlight = some record →
      Fetched setup start before after system record →
      Fetched setup start before after next record) : Originates setup start next := by
  intro record inFlight
  rw [flight] at inFlight
  rcases originates record inFlight with held | ⟨before, after, fetched⟩
  · exact Or.inl held
  · exact Or.inr ⟨before, after, fetches inFlight fetched⟩

theorem Originates.workerStep {setup : Setup} {start system next : System} {action : WorkerAction}
    (originates : Originates setup start system)
    (steps : StepsUnder (step setup) (fun _ _ => True) start system)
    (taken : step setup system (.worker action) = some next) : Originates setup start next := by
  have whole := taken
  cases workerStep_cases taken with
  | exits | completes =>
      intro record flight
      cases flight
  | dequeues position serving =>
      intro record flight
      rw [WorkerPc.inFlight_afterDequeue] at flight
      refine Or.inr ⟨system, _, steps, whole, ?_, .refl, ?_, ?_, ?_⟩ <;>
        simp [flight, WorkerPc.afterDequeue, WorkerPc.snapshot, WorkerPc.sampled,
          WorkerPc.evidence]
  | copies position =>
      apply originates.keep (by rw [position]; rfl)
      intro before after record _ fetched
      refine ⟨fetched.earlier, fetched.taken, fetched.handed, fetched.since.next trivial whole, ?_,
        by simp [WorkerPc.sampled], by simp [WorkerPc.evidence]⟩
      rintro snapshot ⟨⟩
      exact ⟨system, fetched.since, rfl⟩
  | samples position =>
      apply originates.keep (by rw [position]; rfl)
      intro before after record _ fetched
      refine ⟨fetched.earlier, fetched.taken, fetched.handed, fetched.since.next trivial whole, ?_,
        ?_, by simp [WorkerPc.evidence]⟩
      · rintro snapshot ⟨⟩
        exact fetched.copied (by rw [position]; rfl)
      · rintro sampled ⟨⟩
        exact ⟨system, fetched.since, rfl⟩
  | @validates stored snapshot jogActive sampled evidence position seen =>
      apply originates.keep (by rw [position]; rfl)
      intro before after record flight fetched
      subst seen
      rw [position] at flight
      obtain rfl : stored = record := Option.some.inj flight
      refine ⟨fetched.earlier, fetched.taken, fetched.handed, fetched.since.next trivial whole, ?_,
        by simp [WorkerPc.sampled], ?_⟩
      · rintro copy ⟨⟩
        exact fetched.copied (by rw [position]; rfl)
      · rintro seen ⟨⟩
        rcases fetched.sampled (by rw [position]; rfl) with ⟨sampling, since, rfl⟩
        exact ⟨sampling, system, since, fetched.since, rfl⟩
  | checksProgram position | calls position | refuses position | lacksPayload position
  | returns position =>
      apply originates.keep (by rw [position]; rfl)
      intro before after record _ fetched
      apply fetched.keep whole <;> rw [position] <;>
        simp [WorkerPc.snapshot, WorkerPc.sampled, WorkerPc.evidence]

end System

end RobotManager
