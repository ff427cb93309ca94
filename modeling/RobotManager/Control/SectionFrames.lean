import RobotManager.Control.CommandLedger

/-!
# What the critical sections leave alone

The members that processing commands does not change: the service flags, the published
snapshot, the idempotency map and, but for a successful LoadProgram, the name of the
loaded program.
-/

namespace RobotManager

namespace Impl

/-- The members which only particular sections change. -/
structure Frame (before after : Impl) : Prop where
  running : after.running = before.running
  shuttingDown : after.shuttingDown = before.shuttingDown
  latestState : after.latestState = before.latestState
  idempotency : after.idempotency = before.idempotency
  loadedApprovedProgram : after.loadedApprovedProgram = before.loadedApprovedProgram

theorem Frame.refl (impl : Impl) : Frame impl impl := ⟨rfl, rfl, rfl, rfl, rfl⟩

theorem Frame.trans {first second third : Impl} (former : Frame first second)
    (latter : Frame second third) : Frame first third :=
  ⟨latter.running.trans former.running, latter.shuttingDown.trans former.shuttingDown,
    latter.latestState.trans former.latestState, latter.idempotency.trans former.idempotency,
    latter.loadedApprovedProgram.trans former.loadedApprovedProgram⟩

theorem requestInternalStopLocked_frame (reason : String) (now : TimePoint) (impl : Impl) :
    Frame impl (impl.requestInternalStopLocked reason now) := by
  unfold requestInternalStopLocked
  split <;> exact ⟨rfl, rfl, rfl, rfl, rfl⟩

theorem checkLeasesLocked_frame (leases : ControlLeaseManager) (now : TimePoint) (impl : Impl) :
    Frame impl (impl.checkLeasesLocked leases now) := by
  rcases impl.checkLeasesLocked_cases leases now with ⟨_, same⟩ | ⟨reason, same⟩ <;> rw [same]
  · exact .refl impl
  · exact requestInternalStopLocked_frame reason now impl

theorem dequeueLocked_frame (now : TimePoint) (impl : Impl) :
    Frame impl (impl.dequeueLocked now).1 := by
  have dequeue := impl.dequeueLocked_cases now
  generalize (impl.dequeueLocked now).1 = after at dequeue ⊢
  generalize (impl.dequeueLocked now).2 = handed at dequeue
  cases dequeue <;> exact ⟨rfl, rfl, rfl, rfl, rfl⟩

theorem completeActiveMotionLocked_frame (state : CommandState) (now : TimePoint) (impl : Impl) :
    Frame impl (impl.completeActiveMotionLocked state now) := by
  unfold completeActiveMotionLocked
  split <;> exact ⟨rfl, rfl, rfl, rfl, rfl⟩

theorem completeActiveProgramLocked_frame (now : TimePoint) (impl : Impl) :
    Frame impl (impl.completeActiveProgramLocked now) := by
  unfold completeActiveProgramLocked
  split
  · exact .refl impl
  split
  · exact .refl impl
  · exact completeActiveMotionLocked_frame .stopped now impl

theorem OrdinaryCompletion.frame {options : ExecutorOptions} {now : TimePoint}
    {record : CommandRecord} {impl after : Impl}
    (completion : OrdinaryCompletion options now record impl after) :
    Frame impl after ∨ (record.request.type = .loadProgram ∧
      Frame { impl with loadedApprovedProgram := programName record.request.payload } after) := by
  cases completion with
  | plain => exact Or.inl (.refl impl)
  | loaded type => exact Or.inr ⟨type, .refl _⟩
  | jogStarted | jogEnded => exact Or.inl ⟨rfl, rfl, rfl, rfl, rfl⟩
  | jogStartedWithoutLease =>
      left
      have jogging : Frame impl { impl with
          jogActive := true
          activeJogClientId := record.request.clientId
          activeJogLeaseId := record.request.leaseId
          jogDeadline := now.addMs options.jogHeartbeatTimeout } := ⟨rfl, rfl, rfl, rfl, rfl⟩
      exact jogging.trans (requestInternalStopLocked_frame _ _ _)
  | stopped =>
      left
      have ended := completeActiveMotionLocked_frame .stopped now impl
      exact ⟨ended.running, ended.shuttingDown, ended.latestState, ended.idempotency,
        ended.loadedApprovedProgram⟩
  | programStopped =>
      left
      have ended := completeActiveProgramLocked_frame now impl
      exact ⟨ended.running, ended.shuttingDown, ended.latestState, ended.idempotency,
        ended.loadedApprovedProgram⟩

theorem finished_frame (record : CommandRecord) (state : CommandState) (result : Status)
    (now : TimePoint) (impl : Impl) : Frame impl (impl.finished record state result now) :=
  ⟨rfl, rfl, rfl, rfl, rfl⟩

theorem activated_frame (record : CommandRecord) (result : Status) (now : TimePoint)
    (impl : Impl) : Frame impl (impl.activated record result now) := ⟨rfl, rfl, rfl, rfl, rfl⟩

/-- Only the completion of a LoadProgram changes one of these members. -/
theorem completeLocked_frame (options : ExecutorOptions) (leases : ControlLeaseManager)
    (now : TimePoint) (record : CommandRecord) (result : Status) (impl : Impl) :
    Frame impl (impl.completeLocked options leases now record result) ∨
      (result.ok = true ∧ record.request.type = .loadProgram ∧
        Frame { impl with loadedApprovedProgram := programName record.request.payload }
          (impl.completeLocked options leases now record result)) := by
  have completion := impl.completeLocked_cases options leases now record result
  generalize impl.completeLocked options leases now record result = after at completion ⊢
  cases completion with
  | missing => exact Or.inl (.refl impl)
  | failed => exact Or.inl (finished_frame _ _ _ _ _)
  | superseded =>
      exact Or.inl ((finished_frame _ _ _ _ _).trans (requestInternalStopLocked_frame _ _ _))
  | activated => exact Or.inl (activated_frame _ _ _ _)
  | activatedWithoutLease =>
      exact Or.inl ((activated_frame _ _ _ _).trans (requestInternalStopLocked_frame _ _ _))
  | ordinary ok =>
      have ended := finished_frame record .succeeded result now impl
      rcases (completeOrdinaryLocked_cases options leases now record _).frame with
        kept | ⟨type, kept⟩
      · exact Or.inl (ended.trans kept)
      · exact Or.inr ⟨ok, type, kept.running, kept.shuttingDown, kept.latestState,
          kept.idempotency, kept.loadedApprovedProgram⟩

theorem MotionUpdate.frame {options : ExecutorOptions} {now : TimePoint} {impl after : Impl}
    (update : MotionUpdate options now impl after) : Frame impl after := by
  cases update with
  | unchanged => exact .refl impl
  | vanished | seen | finished => exact ⟨rfl, rfl, rfl, rfl, rfl⟩
  | timedOut =>
      refine .trans ?_ (requestInternalStopLocked_frame _ _ _)
      exact ⟨rfl, rfl, rfl, rfl, rfl⟩
  | failed =>
      rw [requestInternalStopLocked_dropActive]
      refine .trans ?_ (requestInternalStopLocked_frame _ _ _)
      exact ⟨rfl, rfl, rfl, rfl, rfl⟩

/-- The publish-and-check section changes the snapshot only. -/
theorem publishLocked_frame (options : ExecutorOptions) (leases : ControlLeaseManager)
    (state : StatusOr RobotSnapshot) (now : TimePoint) (impl : Impl) :
    Frame { impl with latestState := (impl.publishState options state now).1.latestState }
      (impl.publishLocked options leases state now) := by
  have published : Frame
      { impl with latestState := (impl.publishState options state now).1.latestState }
      (impl.publishState options state now).1 := by
    unfold publishState
    split
    · exact ⟨rfl, rfl, rfl, rfl, rfl⟩
    · split <;> exact ⟨rfl, rfl, rfl, rfl, rfl⟩
  rcases impl.publishLocked_cases options leases state now with ⟨updated, update, _, same⟩
  rw [same]
  exact (published.trans update.frame).trans (checkLeasesLocked_frame _ _ _)

theorem releaseLocked_frame (leaseId clientId : String) (now : TimePoint) (impl : Impl) :
    Frame impl (impl.releaseLocked leaseId clientId now) := by
  have cancelled : Frame impl (impl.cancelQueuedCommandsForLeaseLocked leaseId clientId now) :=
    ⟨rfl, rfl, rfl, rfl, rfl⟩
  rcases impl.releaseLocked_cases leaseId clientId now with same | same <;> rw [same]
  · exact cancelled
  · exact cancelled.trans (requestInternalStopLocked_frame _ _ _)

theorem shutdownLocked_frame (stopStatus : Status) (now : TimePoint) (impl : Impl) :
    Frame impl (impl.shutdownLocked stopStatus now) := by
  unfold shutdownLocked
  dsimp only
  split <;> exact ⟨rfl, rfl, rfl, rfl, rfl⟩

end Impl

end RobotManager
