import RobotManager.Control.LeaseRuns

/-!
# Promises of leases

A granted lease promises its client that nobody else gets one, and that its checks succeed,
up to its expiry or its release.  A section that uses a sample of the clock which others
have overtaken can move the expiry back or look at a lease that was replaced after the
sample, and the promise is broken.
-/

namespace RobotManager

/-- Whether the answer of an operation denies a lease at a time before its expiry. -/
def LeaseEvent.breaks (event : LeaseEvent) (lease : ControlLease) : Bool :=
  match event with
  | .acquired _ sampled (.ok _) => decide (sampled < lease.expiresAt)
  | .checked leaseId clientId sampled false =>
      leaseId == lease.id && clientId == lease.clientId && decide (sampled < lease.expiresAt)
  | _ => false

/-- No answer has denied a lease that was promised when it was given. -/
def Kept : List LeaseEvent → Prop
  | [] => True
  | event :: earlier => (∀ lease ∈ promised earlier, event.breaks lease = false) ∧ Kept earlier

/-- The lease that is held expires no earlier than what has been promised. -/
def Covers (leases : ControlLeaseManager) (history : List LeaseEvent) : Prop :=
  leases.hasActive = true → ∀ lease ∈ promised history, lease.expiresAt ≤ leases.active.expiresAt

/-- Whether the critical section of an operation grants a lease. -/
def LeaseOperation.grants (operation : LeaseOperation) (sampled : TimePoint)
    (leases : ControlLeaseManager) : Bool :=
  match operation with
  | .acquire _ => !leases.isActiveLocked sampled
  | .renew leaseId clientId => leases.isValid leaseId clientId sampled
  | .release _ _ | .isValid _ _ => false

/-- The sections that come too late for the time they sampled: the expiry they grant is before
that of a promised lease; they acquire a lease that nobody holds although a promised one has not
expired at their time; they check a promised lease before its expiry that has been replaced. -/
inductive Overtaken (sampled : TimePoint) (leases : ControlLeaseManager)
    (history : List LeaseEvent) : LeaseOperation → Prop where
  | shrinks {operation : LeaseOperation} {lease : ControlLease}
      (grants : operation.grants sampled leases = true) (mem : lease ∈ promised history)
      (shorter : sampled.addMs leases.leaseTtl < lease.expiresAt) :
      Overtaken sampled leases history operation
  | regrants {clientId : String} {lease : ControlLease} (free : leases.hasActive = false)
      (mem : lease ∈ promised history) (early : sampled < lease.expiresAt) :
      Overtaken sampled leases history (.acquire clientId)
  | denies {lease : ControlLease} (mem : lease ∈ promised history)
      (replaced : leases.hasActive = true → leases.active.id ≠ lease.id)
      (early : sampled < lease.expiresAt) :
      Overtaken sampled leases history (.isValid lease.id lease.clientId)

section Sections

variable {sampled : TimePoint} {leases after : ControlLeaseManager} {operation : LeaseOperation}
  {event : LeaseEvent} {history : List LeaseEvent}

/-- A section that has not been overtaken denies no promised lease. -/
theorem LeaseSection.breaks_eq_false (outcome : LeaseSection sampled leases operation event after)
    (recorded : Recorded leases history) (covers : Covers leases history)
    (inOrder : ¬Overtaken sampled leases history operation) {lease : ControlLease}
    (mem : lease ∈ promised history) : event.breaks lease = false := by
  cases outcome with
  | acquireRefused | renewRefused | renews | releaseRefused | releases => rfl
  | acquires inactive =>
      refine decide_eq_false fun early => ?_
      by_cases hasActive : leases.hasActive = true
      · have covered := covers hasActive lease mem
        have expired : leases.active.expiresAt ≤ sampled := by
          simpa [ControlLeaseManager.isActiveLocked, hasActive] using inactive
        exact absurd early (Int.not_lt.mpr (Int.le_trans covered expired))
      · exact inOrder (.regrants (by simpa using hasActive) mem early)
  | checks leaseId clientId =>
      by_contra denied
      cases valid : leases.isValid leaseId clientId sampled with
      | true => simp [LeaseEvent.breaks, valid] at denied
      | false =>
        simp only [LeaseEvent.breaks, valid, Bool.not_eq_false, Bool.and_eq_true, beq_iff_eq,
          decide_eq_true_eq] at denied
        rcases denied with ⟨⟨rfl, rfl⟩, early⟩
        refine inOrder (.denies mem (fun hasActive same => ?_) early)
        have covered := covers hasActive lease mem
        have sameClient := recorded.sameClient hasActive (mem_granted_of_mem_promised mem) same.symm
        have isValid := ControlLeaseManager.isValid_iff.mpr
          ⟨hasActive, Int.lt_of_lt_of_le early covered, same, sameClient.symm⟩
        cases valid.symm.trans isValid

/-- A section that has not been overtaken leaves a lease that covers the promises. -/
theorem LeaseSection.covers (outcome : LeaseSection sampled leases operation event after)
    (covers : Covers leases history) (inOrder : ¬Overtaken sampled leases history operation) :
    Covers after (event :: history) := by
  have extended : operation.grants sampled leases = true → ∀ {granted : ControlLease},
      granted.expiresAt = sampled.addMs leases.leaseTtl → ∀ lease ∈ granted :: promised history,
      lease.expiresAt ≤ granted.expiresAt := by
    intro grants granted expiresAt lease mem
    rcases List.mem_cons.mp mem with rfl | before
    · exact Int.le_refl _
    · by_contra shorter
      exact inOrder (.shrinks grants before (expiresAt ▸ Int.not_le.mp shorter))
  cases outcome with
  | acquireRefused | renewRefused | checks => exact covers
  | releaseRefused notOk => simpa [Covers, promised, notOk] using covers
  | acquires inactive lease isLease =>
      exact fun _ => extended (by simp [LeaseOperation.grants, inactive]) (by rw [isLease])
  | renews valid lease isLease => exact fun _ => extended valid (by rw [isLease])
  | releases => exact fun hasActive => absurd hasActive (by simp)

/-- A section that has been overtaken denies a promised lease, or leaves one that expires before
a promise. -/
theorem LeaseSection.breaks_of_overtaken
    (outcome : LeaseSection sampled leases operation event after)
    (overtaken : Overtaken sampled leases history operation) :
    (∃ lease ∈ promised history, event.breaks lease = true) ∨ ¬Covers after (event :: history) := by
  cases overtaken with
  | shrinks grants mem shorter =>
      refine Or.inr fun covers => ?_
      cases outcome with
      | acquireRefused isActive => simp [LeaseOperation.grants, isActive] at grants
      | renewRefused invalid => cases invalid.symm.trans grants
      | releaseRefused | releases | checks => cases grants
      | acquires _ lease isLease =>
          have covered := covers rfl _ (List.mem_cons_of_mem _ mem)
          rw [isLease] at covered
          exact absurd shorter (Int.not_lt.mpr covered)
      | renews valid lease isLease =>
          have hasActive := (ControlLeaseManager.isValid_iff.mp valid).1
          have covered := covers hasActive _ (List.mem_cons_of_mem _ mem)
          rw [isLease] at covered
          exact absurd shorter (Int.not_lt.mpr covered)
  | regrants free mem early =>
      cases outcome with
      | acquireRefused isActive => simp [ControlLeaseManager.isActiveLocked, free] at isActive
      | acquires => exact Or.inl ⟨_, mem, decide_eq_true early⟩
  | @denies lease mem replaced early =>
      cases outcome
      refine Or.inl ⟨_, mem, ?_⟩
      have invalid : leases.isValid lease.id lease.clientId sampled = false := by
        by_contra valid
        rcases ControlLeaseManager.isValid_iff.mp (by simpa using valid) with
          ⟨hasActive, _, same, _⟩
        exact replaced hasActive same
      simp [LeaseEvent.breaks, invalid, early]

end Sections

namespace LeaseSystem

/-- A thread is about to enter a section that has been overtaken. -/
def Overtakes (system : LeaseSystem) (action : LeaseAction) : Prop :=
  ∃ thread operation sampled, action = .enters thread ∧
    system.threads thread = .sampled operation sampled ∧
    Overtaken sampled system.leases system.history operation

theorem kept_iff_of_step {leaseTtl : Milliseconds} {allowed : LeaseSystem → LeaseAction → Prop}
    {system after : LeaseSystem} {action : LeaseAction}
    (reached : ReachableUnder leaseTtl allowed system) (kept : Kept system.history)
    (covers : Covers system.leases system.history) (taken : system.step action = some after) :
    Kept after.history ∧ Covers after.leases after.history ↔ ¬Overtakes system action := by
  cases step_cases taken with
  | advances | samples => exact ⟨fun _ => by simp [Overtakes], fun _ => ⟨kept, covers⟩⟩
  | rejects => exact ⟨fun _ => by simp [Overtakes], fun _ => ⟨⟨fun _ _ => rfl, kept⟩, covers⟩⟩
  | @enters thread operation sampled event leases position outcome =>
      constructor
      · rintro ⟨⟨answers, _⟩, covered⟩ ⟨_, _, _, same, stands, overtaken⟩
        cases same
        cases position.symm.trans stands
        rcases outcome.breaks_of_overtaken overtaken with ⟨lease, mem, broken⟩ | uncovered
        · cases (answers lease mem).symm.trans broken
        · exact uncovered covered
      · intro inOrder
        have inOrder : ¬Overtaken sampled system.leases system.history operation :=
          fun overtaken => inOrder ⟨thread, operation, sampled, rfl, position, overtaken⟩
        exact ⟨⟨fun _ mem => outcome.breaks_eq_false reached.recorded covers inOrder mem, kept⟩,
          outcome.covers covers inOrder⟩

/-- In a run in which no section is overtaken every promise is kept, and the first section that is
denies a promised lease or leaves one that expires before a promise. -/
theorem granted_lease_keeps_promise {leaseTtl : Milliseconds} {system : LeaseSystem}
    (reached : ReachableUnder leaseTtl (fun system action => ¬Overtakes system action) system) :
    Kept system.history ∧ ∀ {action after}, system.step action = some after →
      (Kept after.history ∧ Covers after.leases after.history ↔ ¬Overtakes system action) := by
  have invariant : Kept system.history ∧ Covers system.leases system.history := by
    refine reached.invariant
      (fun system => Kept system.history ∧ Covers system.leases system.history) ?_ ?_
    · rintro system ⟨now, rfl⟩
      exact ⟨trivial, fun hasActive => absurd hasActive (by simp)⟩
    · intro system action after reached kept inOrder taken
      exact (kept_iff_of_step reached kept.1 kept.2 taken).mpr inOrder
  exact ⟨invariant.1, fun taken => kept_iff_of_step reached invariant.1 invariant.2 taken⟩

/-- A manager with a lease time of three seconds. -/
def unused : LeaseSystem := ⟨{ leaseTtl := 3000 }, 0, fun _ => .idle, []⟩

theorem unused_reachable {allowed : LeaseSystem → LeaseAction → Prop} :
    ReachableUnder 3000 allowed unused := .init ⟨0, rfl⟩

/-- An operation that no other thread interrupts. -/
def whole (thread : ℕ) (operation : LeaseOperation) : List LeaseAction :=
  [.begins thread operation, .enters thread]

/-- Whether the latest event has the given property. -/
def latestMeets (check : LeaseEvent → List LeaseEvent → Bool) : List LeaseEvent → Bool
  | event :: earlier => check event earlier
  | [] => false

theorem exists_of_latestMeets {check : LeaseEvent → List LeaseEvent → Bool}
    {history : List LeaseEvent} (meets : latestMeets check history = true) :
    ∃ event earlier, history = event :: earlier ∧ check event earlier = true := by
  cases history with
  | nil => cases meets
  | cons event earlier => exact ⟨event, earlier, rfl, meets⟩

/-- Two renewals enter their sections in the reverse order of their samples. -/
def overtakenRenewal : List LeaseAction :=
  whole 0 (.acquire "client") ++ [.begins 1 (.renew "lease-0-1" "client"), .advance 1000000000] ++
    whole 2 (.renew "lease-0-1" "client") ++ [.enters 1, .advance 2500000000] ++
    whole 0 (.isValid "lease-0-1" "client")

/-- A renewed lease is denied half a second before the expiry that was returned. -/
theorem granted_lease_denied : ∃ system event earlier lease, Reachable 3000 system ∧
    system.history = event :: earlier ∧ lease ∈ promised earlier ∧
    event.breaks lease = true := by
  rcases TransitionSystem.exists_reachable_of_execute unused_reachable overtakenRenewal
    (fun system => latestMeets (fun event earlier => (promised earlier).any event.breaks)
      system.history)
    (by decide) with ⟨system, reached, checked⟩
  rcases exists_of_latestMeets checked with ⟨event, earlier, history, breaks⟩
  rcases List.any_eq_true.mp breaks with ⟨lease, mem, broken⟩
  exact ⟨system, event, earlier, lease, reached, history, mem, broken⟩

/-- Sections that leave no promise behind: the promised leases are those of the lease that is
held, and none of them expires after the time that would be granted now. -/
def entersInOrder (system : LeaseSystem) (action : LeaseAction) : Bool :=
  match action with
  | .enters thread =>
      match system.threads thread with
      | .sampled _ sampled => (promised system.history).all fun lease =>
          system.leases.hasActive && system.leases.active.id == lease.id &&
            decide (lease.expiresAt ≤ sampled.addMs system.leases.leaseTtl)
      | .idle => true
  | _ => true

theorem not_overtakes_of_entersInOrder {system : LeaseSystem} {action : LeaseAction}
    (inOrder : entersInOrder system action = true) : ¬Overtakes system action := by
  rintro ⟨thread, operation, sampled, rfl, position, overtaken⟩
  simp only [entersInOrder, position, List.all_eq_true, Bool.and_eq_true, beq_iff_eq,
    decide_eq_true_eq] at inOrder
  cases overtaken with
  | shrinks _ mem shorter => exact absurd shorter (Int.not_lt.mpr (inOrder _ mem).2)
  | regrants free mem _ => cases free.symm.trans (inOrder _ mem).1.1
  | denies mem replaced _ => exact replaced (inOrder _ mem).1.1 (inOrder _ mem).1.2

/-- A client renews its lease and checks it. -/
theorem granted_lease_keeps_promise_renewed : ∃ system,
    ReachableUnder 3000 (fun system action => ¬Overtakes system action) system ∧
    (promised system.history).length = 2 ∧ Kept system.history := by
  have start : ReachableUnder 3000 (fun system action => ¬Overtakes system action) unused :=
    unused_reachable
  rcases TransitionSystem.exists_reachableUnder_of_execute start entersInOrder
    (fun _ _ => not_overtakes_of_entersInOrder)
    (whole 0 (.acquire "client") ++ [.advance 1000000000] ++
      whole 0 (.renew "lease-0-1" "client") ++ [.advance 2500000000] ++
      whole 0 (.isValid "lease-0-1" "client"))
    (fun system => (promised system.history).length == 2) (by decide) with
    ⟨system, reached, checked⟩
  exact ⟨system, reached, by simpa using checked, (granted_lease_keeps_promise reached).1⟩

end LeaseSystem

end RobotManager
