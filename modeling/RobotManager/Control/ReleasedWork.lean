import RobotManager.Control.QueueOrder
import RobotManager.Control.ReleasedLease

/-!
# The work of a released lease

What the second section of `ReleaseControlLease` does to commands, queue and motion.  It cancels the
queued commands of the lease and leaves all others alone, but it requests a stop for whatever is
active, even if that runs under a lease that somebody else has acquired in the meantime.
-/

namespace RobotManager

instance (request : CommandRequest) (leaseId clientId : String) :
    Decidable (request.Unaffected leaseId clientId) :=
  inferInstanceAs (Decidable (_ ∨ _ ∨ _))

/-- A queued record after the release of the lease. -/
def CommandRecord.surrendered (leaseId clientId : String) (now : TimePoint)
    (record : CommandRecord) : CommandRecord :=
  if record.request.Unaffected leaseId clientId then record
  else
    { record with
      state := .cancelled
      result := ⟨.permissionDenied, "control lease released", 0⟩
      updatedAt := now }

namespace Impl

theorem WellFormed.mem_queue_iff {impl : Impl} (wellFormed : impl.WellFormed) {id : ℕ}
    {record : CommandRecord} (found : impl.commands.lookup id = some record) :
    id ∈ impl.queue ↔ record.state = .queued := by
  constructor
  · intro mem
    rcases wellFormed.queued mem with ⟨stored, lookup, queued⟩
    cases found.symm.trans lookup
    exact queued
  · exact wellFormed.mem_queue found

variable {leaseId clientId : String} {now : TimePoint} {impl : Impl}

/-- The loop changes the queued records and no others. -/
theorem lookup_cancelQueued (rest : List ℕ) (commands : FiniteMap ℕ CommandRecord) (id : ℕ) :
    (cancelQueued leaseId clientId now rest commands).2.lookup id =
      if id ∈ rest then (commands.lookup id).map (CommandRecord.surrendered leaseId clientId now)
      else commands.lookup id := by
  induction rest generalizing commands with
  | nil => simp [cancelQueued]
  | cons first rest ih =>
      rw [cancelQueued]
      split
      · next absent =>
        rw [ih]
        by_cases same : id = first
        · subst same
          simp [absent]
        · simp [same]
      · next record found =>
        split
        · next unaffected =>
          rw [ih]
          by_cases same : id = first
          · subst same
            have kept : record.surrendered leaseId clientId now = record := if_pos unaffected
            simp [found, kept]
          · simp [same]
        · next affected =>
          rw [ih, FiniteMap.lookup_modify]
          by_cases same : id = first
          · subst same
            simp [found, CommandRecord.surrendered, CommandRequest.Unaffected, affected]
          · simp [same]

theorem releaseLocked_stopRequested_iff :
    (impl.releaseLocked leaseId clientId now).stopRequested = true ↔
      impl.stopRequested = true ∨
        (impl.running = true ∧ (impl.activeMotionId.isSome ∨ impl.jogActive = true)) := by
  unfold releaseLocked cancelQueuedCommandsForLeaseLocked
  dsimp only
  split
  · next requests => simp [requests]
  · next quiet => simp [quiet]

/-- Cancelled or not, the queued records of the lease's client are the only ones to change. -/
theorem lookup_releaseLocked {id : ℕ} {record : CommandRecord}
    (found : impl.commands.lookup id = some record) :
    (impl.releaseLocked leaseId clientId now).commands.lookup id =
      some (if id ∈ impl.queue then record.surrendered leaseId clientId now else record) := by
  have cancelled : (impl.cancelQueuedCommandsForLeaseLocked leaseId clientId now).commands.lookup
      id = some (if id ∈ impl.queue then record.surrendered leaseId clientId now else record) := by
    unfold cancelQueuedCommandsForLeaseLocked
    dsimp only
    rw [lookup_cancelQueued, found]
    split <;> rfl
  rcases impl.releaseLocked_cases leaseId clientId now with same | same <;> rw [same]
  · exact cancelled
  · exact lookup_requestInternalStopLocked cancelled

/-- What is left of the queue keeps its order, behind a stop if one has been requested. -/
theorem releaseLocked_queue (leaseId clientId : String) (now : TimePoint) (impl : Impl) :
    ∃ kept, kept.Sublist impl.queue ∧
      ((impl.releaseLocked leaseId clientId now).queue = kept ∨
        (impl.releaseLocked leaseId clientId now).queue = impl.nextCommandId :: kept) := by
  refine ⟨_, InOrder.cancelQueued_sublist leaseId clientId now impl.queue impl.commands, ?_⟩
  rcases impl.releaseLocked_cases leaseId clientId now with same | same <;> rw [same]
  · exact .inl rfl
  · unfold requestInternalStopLocked
    split
    · exact .inl rfl
    · exact .inr rfl

end Impl

/-- Whether the client thread is between the two sections of the release. -/
def ClientPc.givesUp (leaseId clientId : String) : ClientPc → Bool
  | .releasing givenId givenClient => givenId == leaseId && givenClient == clientId
  | _ => false

namespace System

open TransitionSystem

/-- The step gives up the lease or is the section of the same operation that follows. -/
def Releases (system : System) (action : Action) (leaseId clientId : String) : Prop :=
  ∃ thread, action = .client thread (.release leaseId clientId) ∨
    (action = .client thread .releaseCommit ∧
      system.clients thread = .releasing leaseId clientId)

/-- A motion or a jog is active whose own lease is valid. -/
def LeasedWork (system : System) : Prop :=
  (∃ active record, system.impl.activeMotionId = some active ∧
    system.impl.commands.lookup active = some record ∧
    system.leases.isValid record.request.leaseId record.request.clientId system.now = true) ∨
  (system.impl.jogActive = true ∧
    system.leases.isValid system.impl.activeJogLeaseId system.impl.activeJogClientId system.now =
      true)

/-- A step of a release touches only the work of its lease. -/
structure TouchesOwn (system : System) (action : Action) (leaseId clientId : String)
    (after : System) : Prop where
  others : ∀ id record, system.impl.commands.lookup id = some record →
    record.request.leaseId ≠ leaseId ∨ record.request.clientId ≠ clientId →
    after.impl.commands.lookup id = some record ∧
      (id ∈ after.impl.queue ↔ id ∈ system.impl.queue)
  order : ∃ kept, kept.Sublist system.impl.queue ∧
    (after.impl.queue = kept ∨ after.impl.queue = system.impl.nextCommandId :: kept)
  cancels : ∀ thread, action = .client thread .releaseCommit → ∀ id ∈ system.impl.queue,
    ∀ record, system.impl.commands.lookup id = some record → record.request.type ≠ .stop →
    record.request.leaseId = leaseId → record.request.clientId = clientId →
    id ∉ after.impl.queue ∧ after.impl.commands.lookup id = some { record with
      state := .cancelled
      result := ⟨.permissionDenied, "control lease released", 0⟩
      updatedAt := system.now }
  spares : system.impl.stopRequested = false → after.impl.stopRequested = true →
    ¬system.LeasedWork

variable {setup : Setup} {system after : System} {leaseId clientId : String}

/-- Giving up the lease touches nothing. -/
theorem touchesOwn_of_release {thread : ℕ}
    (taken : step setup system (.client thread (.release leaseId clientId)) = some after) :
    system.TouchesOwn (.client thread (.release leaseId clientId)) leaseId clientId after := by
  have same : after.impl = system.impl := clientStep_impl (by simp) (by simp) taken
  constructor
  · intro id record found _
    rw [same]
    exact ⟨found, Iff.rfl⟩
  · rw [same]
    exact ⟨_, .refl _, .inl rfl⟩
  · intro other isCommit
    cases isCommit
  · intro unrequested requested
    rw [same, unrequested] at requested
    cases requested

theorem impl_of_releaseCommit {thread : ℕ}
    (position : system.clients thread = .releasing leaseId clientId)
    (taken : step setup system (.client thread .releaseCommit) = some after) :
    after.impl = system.impl.releaseLocked leaseId clientId system.now := by
  rcases releaseCommit_cases taken with ⟨givenId, givenClient, given, released⟩
  cases position.symm.trans given
  exact released

/-- The section that follows touches only the work of the lease if and only if it finds nothing to
stop that runs under a valid lease. -/
theorem touchesOwn_of_releaseCommit_iff (reached : Reachable setup system) {thread : ℕ}
    (position : system.clients thread = .releasing leaseId clientId)
    (taken : step setup system (.client thread .releaseCommit) = some after) :
    system.TouchesOwn (.client thread .releaseCommit) leaseId clientId after ↔
      (system.impl.running = true → system.impl.stopRequested = false → ¬system.LeasedWork) := by
  have released : after.impl = system.impl.releaseLocked leaseId clientId system.now :=
    impl_of_releaseCommit position taken
  have owned := reached.owned
  have afterOwned := (Reachable.followed reached taken).owned
  constructor
  · rintro touches running unrequested work
    apply touches.spares unrequested _ work
    rw [released, Impl.releaseLocked_stopRequested_iff]
    refine .inr ⟨running, ?_⟩
    rcases work with ⟨active, _, isActive, _⟩ | ⟨jogActive, _⟩
    · exact .inl (by simp [isActive])
    · exact .inr jogActive
  · intro idle
    constructor
    · intro id record found other
      have unaffected : record.request.Unaffected leaseId clientId := .inr other
      have kept : after.impl.commands.lookup id = some record := by
        rw [released, Impl.lookup_releaseLocked found, CommandRecord.surrendered,
          if_pos unaffected, ite_self]
      refine ⟨kept, ?_⟩
      rw [afterOwned.wellFormed.mem_queue_iff kept, owned.wellFormed.mem_queue_iff found]
    · rw [released]
      exact Impl.releaseLocked_queue leaseId clientId system.now system.impl
    · intro _ _ id mem record found notStop sameLease sameClient
      have affected : ¬record.request.Unaffected leaseId clientId := by
        rintro (stop | otherLease | otherClient)
        · exact notStop stop
        · exact otherLease sameLease
        · exact otherClient sameClient
      have cancelled : after.impl.commands.lookup id = some { record with
          state := .cancelled
          result := ⟨.permissionDenied, "control lease released", 0⟩
          updatedAt := system.now } := by
        rw [released, Impl.lookup_releaseLocked found, if_pos mem, CommandRecord.surrendered,
          if_neg affected]
      refine ⟨?_, cancelled⟩
      rw [afterOwned.wellFormed.mem_queue_iff cancelled]
      simp
    · intro unrequested requested
      rw [released, Impl.releaseLocked_stopRequested_iff, unrequested] at requested
      rcases requested with absurdity | ⟨running, _⟩
      · cases absurdity
      · exact idle running unrequested

/-- In every run, the steps of a release touch only the work of its lease, except for the section
that finds, with no stop pending, a motion or a jog that runs under a valid lease. -/
theorem releases_touch_own_iff {past : List (System × Action)}
    (run : Run (step setup) (Init setup) past system) {before : System} {action : Action}
    (mem : (before, action) ∈ past) (releases : before.Releases action leaseId clientId) :
    (∀ after, step setup before action = some after →
      before.TouchesOwn action leaseId clientId after) ↔
      ∀ thread, action = .client thread .releaseCommit → before.impl.running = true →
        before.impl.stopRequested = false → ¬before.LeasedWork := by
  rcases run.step_of_mem mem with ⟨reached, after, taken⟩
  rcases releases with ⟨thread, rfl | ⟨rfl, position⟩⟩
  · simp [taken, touchesOwn_of_release taken]
  · have touches := touchesOwn_of_releaseCommit_iff reached position taken
    constructor
    · rintro touchesOwn _ _
      exact touches.mp (touchesOwn after taken)
    · intro idle other otherTaken
      cases taken.symm.trans otherTaken
      exact touches.mpr (idle thread rfl)

/-! ### Releases in between -/

/-- A run to the second section of a release, as far as it has been executed. -/
theorem exists_releasing (actions : List Action) (goal : System → Bool)
    (attained : (uninterrupted .moving actions ready).any (fun system =>
      (system.clients 0).givesUp (firstLease 1000) "client" && goal system) = true) :
    ∃ past system after, Run (step .moving) (Init .moving) past system ∧
      system.clients 0 = .releasing (firstLease 1000) "client" ∧
      step .moving system (.client 0 .releaseCommit) = some after ∧ goal system = true := by
  rcases exists_reachable_of_execute ready_reachable actions _ attained with
    ⟨system, reached, holds⟩
  rcases reached.exists_run with ⟨past, run⟩
  rw [Bool.and_eq_true] at holds
  have position : system.clients 0 = .releasing (firstLease 1000) "client" := by
    cases client : system.clients 0 with
    | releasing givenId givenClient =>
        simp only [client, ClientPc.givesUp, Bool.and_eq_true, beq_iff_eq] at holds
        rw [holds.1.1, holds.1.2]
    | _ => simp [client, ClientPc.givesUp] at holds
  have stepped : ∃ after, step .moving system (.client 0 .releaseCommit) = some after := by
    simp [step, clientStep, position]
  rcases stepped with ⟨after, taken⟩
  exact ⟨past, system, after, run, position, taken, holds.2⟩

/-- A motion waits in the queue when its client gives up the lease; the release cancels it. -/
theorem release_cancels_waiting_motion : ∃ past system before after,
    Run (step .moving) (Init .moving) past system ∧
    (before, Action.client 0 .releaseCommit) ∈ past ∧ before.impl.queue = [1] ∧
    before.TouchesOwn (.client 0 .releaseCommit) (firstLease 1000) "client" after := by
  rcases exists_releasing
      (Schedule.acquire 0 "client" ++
        Schedule.submit 0 (.move (firstLease 1000) "client" "motion") ++
        [.client 0 (.release (firstLease 1000) "client")])
      (fun system => system.impl.queue == [1] && system.impl.activeMotionId.isNone &&
        !system.impl.jogActive) (by decide +kernel) with
    ⟨past, before, after, run, position, taken, holds⟩
  simp only [Bool.and_eq_true, beq_iff_eq, Option.isNone_iff_eq_none, Bool.not_eq_true'] at holds
  rcases holds with ⟨⟨waits, noMotion⟩, noJog⟩
  have touches := (releases_touch_own_iff (run.next taken) List.mem_cons_self
    ⟨0, .inr ⟨rfl, position⟩⟩).mpr (by simp [LeasedWork, noMotion, noJog]) after taken
  exact ⟨_, after, before, after, run.next taken, List.mem_cons_self, waits, touches⟩

/-- Between the two sections of a release another client acquires the next lease and starts a
motion; the release requests a stop for that motion. -/
theorem release_stops_motion_of_next_lease : ∃ past system after,
    Run (step .moving) (Init .moving) past system ∧
    system.Releases (.client 0 .releaseCommit) (firstLease 1000) "client" ∧
    step .moving system (.client 0 .releaseCommit) = some after ∧
    ¬system.TouchesOwn (.client 0 .releaseCommit) (firstLease 1000) "client" after := by
  rcases exists_releasing
      (Schedule.acquire 0 "client" ++ [.client 0 (.release (firstLease 1000) "client")] ++
        Schedule.acquire 1 "other" ++
        Schedule.submit 1 (.move (ControlLeaseManager.leaseId 1000 2) "other" "motion") ++
        Schedule.work (.returned Status.Ok))
      (fun system => system.impl.running && !system.impl.stopRequested &&
        system.impl.activeMotionId == some 1 && (system.impl.commands.lookup 1).any fun record =>
          system.leases.isValid record.request.leaseId record.request.clientId system.now)
      (by decide +kernel) with
    ⟨past, system, after, run, position, taken, holds⟩
  simp only [Bool.and_eq_true, beq_iff_eq, Bool.not_eq_true', Option.any_eq_true] at holds
  rcases holds with ⟨⟨⟨running, unrequested⟩, isActive⟩, record, found, valid⟩
  refine ⟨past, system, after, run, ⟨0, .inr ⟨rfl, position⟩⟩, taken, ?_⟩
  intro touches
  apply touches.spares unrequested _ (.inl ⟨1, record, isActive, found, valid⟩)
  rw [impl_of_releaseCommit position taken, Impl.releaseLocked_stopRequested_iff]
  exact .inr ⟨running, .inl (by simp [isActive])⟩

end System

end RobotManager
