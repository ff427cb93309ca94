import RobotManager.Control.Admission

/-!
# Timeouts

The three places that compare an elapsed time with a timeout convert the timeout's
milliseconds to nanoseconds, which wraps for large timeouts.
-/

namespace RobotManager

/-! ### The comparison -/

/-- The wrapped count stands for the count at every elapsed time up to the horizon. -/
def FitsUpTo (horizon : ℕ) (count : ℤ) : Prop :=
  0 < wrapInt64 count ∧
    (horizon < wrapInt64 count ∨ (wrapInt64 count = count ∧ horizon < 2 ^ 63))

theorem compares_exactly_iff {count : ℤ} (positive : 0 < count) (horizon : ℕ) :
    (∀ elapsed : ℕ, elapsed ≤ horizon →
      (wrapInt64 count ≤ wrapInt64 elapsed ↔ count ≤ elapsed)) ↔ FitsUpTo horizon count := by
  have bounds := wrapInt64_bounds count
  have measured : ∀ elapsed : ℕ, elapsed < 2 ^ 63 → wrapInt64 elapsed = elapsed :=
    fun elapsed short => wrapInt64_eq_self (by omega) (by omega)
  have converted : count < 2 ^ 63 → wrapInt64 count = count :=
    fun short => wrapInt64_eq_self (by omega) short
  constructor
  · intro compares
    have starts := compares 0 (Nat.zero_le horizon)
    rw [measured 0 (by decide)] at starts
    have wrapsPositive : 0 < wrapInt64 count := by omega
    refine ⟨wrapsPositive, ?_⟩
    by_cases long : horizon < wrapInt64 count
    · exact Or.inl long
    -- at the wrapped count itself the command is already treated as expired
    have ends := compares (wrapInt64 count).toNat (by omega)
    rw [measured _ (by omega)] at ends
    have same := converted (by omega)
    refine Or.inr ⟨same, ?_⟩
    by_contra beyond
    have wrapsBack : wrapInt64 ((2 ^ 63 : ℕ) : ℤ) = -2 ^ 63 := by decide
    have late := compares (2 ^ 63) (by omega)
    rw [wrapsBack] at late
    omega
  · rintro ⟨wrapsPositive, long | ⟨same, short⟩⟩ elapsed within
    · rw [measured elapsed (by omega)]
      by_cases small : count < 2 ^ 63
      · rw [converted small]
      · omega
    · rw [same, measured elapsed (by omega)]

/-- A timeout fits up to the longest elapsed time that the clock can measure exactly if its
nanoseconds fit into 63 bits. -/
theorem fitsUpTo_clock_iff {timeout : ℤ} (positive : 0 < timeout) :
    FitsUpTo (2 ^ 63 - 1) (timeout * 1000000) ↔ timeout ≤ 9223372036854 := by
  have bounds := wrapInt64_bounds (timeout * 1000000)
  constructor
  · rintro ⟨_, long | ⟨same, _⟩⟩ <;> omega
  · intro short
    have same : wrapInt64 (timeout * 1000000) = timeout * 1000000 :=
      wrapInt64_eq_self (by omega) (by omega)
    exact ⟨by omega, Or.inr ⟨same, by omega⟩⟩

/-! ### The three places -/

theorem CommandRecord.expired_iff {record : CommandRecord} {now : TimePoint} {elapsed : ℕ}
    (time : now = record.createdAt + elapsed) :
    record.expired now = true ↔
      wrapInt64 (record.request.timeout * 1000000) ≤ wrapInt64 elapsed := by
  have difference : now - record.createdAt = elapsed := by
    rw [time]
    exact add_sub_cancel_left _ _
  simp only [expired, elapsedAtLeast, TimePoint.sub, Milliseconds.toNanoseconds, difference,
    decide_eq_true_eq]

namespace Impl

/-- The record of the command has the state `timedOut`. -/
def TimedOut (id : ℕ) (impl : Impl) : Prop :=
  ∃ record, impl.commands.lookup id = some record ∧ record.state = .timedOut

variable {impl : Impl} {id : ℕ} {record : CommandRecord} {now : TimePoint}

theorem hasExpired_iff (found : impl.commands.lookup id = some record) :
    hasExpiredQueuedCommandLocked now { impl with queue := [id] } = true ↔
      record.expired now = true := by
  simp [hasExpiredQueuedCommandLocked, found]

theorem dequeueLocked_timedOut_iff (executable : impl.findExecutableCommandLocked = some id)
    (found : impl.commands.lookup id = some record) :
    (impl.dequeueLocked now).1.TimedOut id ↔ record.expired now = true := by
  unfold TimedOut
  simp only [dequeueLocked, executable, found]
  cases expired : record.expired now with
  | true => simp [found]
  | false => simp [found]

theorem updateActiveMotionLocked_timedOut_iff (options : ExecutorOptions)
    (isActive : impl.activeMotionId = some id) (found : impl.commands.lookup id = some record)
    (running : record.state = .running) :
    (impl.updateActiveMotionLocked options now).TimedOut id ↔ record.expired now = true := by
  have live : isTerminal record.state = false := by simp [running, isTerminal]
  have settles : ∀ state result,
      (impl.commands.modify id (CommandRecord.settle state result now)).lookup id =
        some { record with state := state, result := result, updatedAt := now } := by
    intro state result
    simp [found, settle_unfinished live]
  constructor
  · rintro ⟨settled, lookup, timedOut⟩
    have update := impl.updateActiveMotionLocked_cases options now
    generalize impl.updateActiveMotionLocked options now = after at update lookup
    cases update with
    | unchanged | seen =>
        obtain rfl := Option.some.inj (found.symm.trans lookup)
        simp [running] at timedOut
    | vanished otherActive absent =>
        obtain rfl := Option.some.inj (isActive.symm.trans otherActive)
        cases found.symm.trans absent
    | timedOut otherActive otherFound expired =>
        obtain rfl := Option.some.inj (isActive.symm.trans otherActive)
        rwa [Option.some.inj (found.symm.trans otherFound)]
    | failed otherActive otherFound =>
        obtain rfl := Option.some.inj (isActive.symm.trans otherActive)
        rcases lookup_of_requestInternalStopLocked _ _ _ lookup with failed | ⟨_, rfl⟩
        · cases (settles .failed _).symm.trans failed
          cases timedOut
        · cases timedOut
    | finished otherActive =>
        obtain rfl := Option.some.inj (isActive.symm.trans otherActive)
        cases (settles .succeeded Status.Ok).symm.trans lookup
        cases timedOut
  · intro expired
    have update : impl.updateActiveMotionLocked options now =
        requestInternalStopLocked "motion command timed out" now
          { impl with
            commands := impl.commands.modify id (CommandRecord.settle .timedOut
              ⟨.deadlineExceeded, "motion command timed out", 0⟩ now) } := by
      simp [updateActiveMotionLocked, isActive, found, expired]
    rw [update]
    exact ⟨_, lookup_requestInternalStopLocked (settles .timedOut _), rfl⟩

end Impl

namespace System

open TransitionSystem

/-- Every place that compares the elapsed time of the command with its timeout takes it for expired
exactly if its timeout has elapsed. -/
structure ExpiresAsAsked (setup : Setup) (system : System) (id : ℕ) (record : CommandRecord)
    (elapsed : ℕ) : Prop where
  waiting : id ∈ system.impl.queue →
    (Impl.hasExpiredQueuedCommandLocked system.now { system.impl with queue := [id] } = true ↔
      record.request.timeout * 1000000 ≤ (elapsed : ℤ))
  dequeued : system.impl.findExecutableCommandLocked = some id →
    ((system.impl.dequeueLocked system.now).1.TimedOut id ↔
      record.request.timeout * 1000000 ≤ (elapsed : ℤ))
  active : system.impl.activeMotionId = some id → record.state = .running →
    ((system.impl.updateActiveMotionLocked setup.options system.now).TimedOut id ↔
      record.request.timeout * 1000000 ≤ (elapsed : ℤ))

/-- Commands with the timeout expire as asked in every run, up to the elapsed time `horizon`, given
in nanoseconds. -/
def TimeoutKept (setup : Setup) (timeout : Milliseconds) (horizon : ℕ) : Prop :=
  ∀ system id record (elapsed : ℕ), Reachable setup system →
    system.impl.commands.lookup id = some record → record.request.timeout = timeout →
    system.now = record.createdAt + elapsed → elapsed ≤ horizon →
    ExpiresAsAsked setup system id record elapsed

def stopWithin (timeout : Milliseconds) : CommandRequest :=
  { CommandRequest.plain .stop "" "client" "stop" with timeout := timeout }

/-- A timeout is kept up to an elapsed time exactly if its wrapped nanoseconds fit up to there; it
is kept for all that the clock can measure exactly if it is at most 9223372036854 milliseconds. -/
theorem timeout_kept_iff {setup : Setup} (accepted : setup.options.accepted = true)
    {timeout : Milliseconds} (positive : 0 < timeout) :
    (∀ horizon, TimeoutKept setup timeout horizon ↔ FitsUpTo horizon (timeout * 1000000)) ∧
      (TimeoutKept setup timeout (2 ^ 63 - 1) ↔ timeout ≤ 9223372036854) := by
  have kept : ∀ horizon, TimeoutKept setup timeout horizon ↔
      FitsUpTo horizon (timeout * 1000000) := by
    intro horizon
    rw [← compares_exactly_iff (Int.mul_pos positive (by decide))]
    constructor
    · intro keeps elapsed within
      -- the timeout of a first Stop that has waited for the elapsed time
      have checked : Impl.checkRequest (stopWithin timeout) = none := by
        simp [stopWithin, Impl.checkRequest, CommandRequest.plain, not_le.mpr positive]
      have taken : step setup (withFirst setup (stopWithin timeout)) (.advance elapsed) =
          some { withFirst setup (stopWithin timeout) with
            now := (withFirst setup (stopWithin timeout)).now + elapsed } := rfl
      have reached := (withFirst_reachable accepted rfl rfl checked).followed taken
      have found := withFirst_lookup setup (stopWithin timeout)
      have expires := (keeps _ 1 _ elapsed reached found rfl rfl within).waiting
        List.mem_cons_self
      exact ((CommandRecord.expired_iff rfl).symm.trans (Impl.hasExpired_iff found).symm).trans
        expires
    · intro compares system id record elapsed reached found same time within
      have expired : record.expired system.now = true ↔
          record.request.timeout * 1000000 ≤ (elapsed : ℤ) := by
        rw [CommandRecord.expired_iff time, same]
        exact compares elapsed within
      refine ⟨fun _ => ?_, fun executable => ?_, fun isActive running => ?_⟩
      · exact (Impl.hasExpired_iff found).trans expired
      · exact (Impl.dequeueLocked_timedOut_iff executable found).trans expired
      · exact (Impl.updateActiveMotionLocked_timedOut_iff setup.options isActive found
          running).trans expired
  exact ⟨kept, (kept _).trans (fitsUpTo_clock_iff positive)⟩

/-- The default timeout is kept. -/
theorem timeout_kept_default : TimeoutKept .moving 30000 (2 ^ 63 - 1) :=
  (timeout_kept_iff (by decide) (by decide)).2.mpr (by decide)

/-- A Stop that may wait for 292 years is taken for expired in the moment it is recorded. -/
theorem timeout_expires_at_once : ∃ system record, Reachable .moving system ∧
    system.impl.commands.lookup 1 = some record ∧ record.request.timeout = 9223372036855 ∧
    system.now = record.createdAt ∧ system.impl.queue = [1] ∧
    system.impl.hasExpiredQueuedCommandLocked system.now = true ∧
    (system.impl.dequeueLocked system.now).1.TimedOut 1 := by
  refine ⟨withFirst .moving (stopWithin 9223372036855), _,
    withFirst_reachable (by decide) rfl rfl (by decide), withFirst_lookup _ _, rfl, rfl, rfl,
    by decide, ?_⟩
  exact (Impl.dequeueLocked_timedOut_iff (by decide) (withFirst_lookup _ _)).mpr (by decide)

end System

end RobotManager
