import RobotManager.Control.LeasePromises

/-!
# Dead leases

A lease that has been released or replaced is never reported valid again.  A lease that
has been reported invalid because it had expired stays with the manager, and a section
whose sample is from before the expiry still finds it valid.
-/

namespace RobotManager

/-- Whether an event releases or replaces a lease granted before. -/
def LeaseEvent.ends (event : LeaseEvent) (earlier : List LeaseEvent) (id : String) : Bool :=
  match event with
  | .released leaseId _ status => leaseId == id && status.ok
  | .acquired _ _ (.ok lease) => lease.id != id && (grantedLeases earlier).any (·.id == id)
  | _ => false

/-- Whether an event reports a lease granted before as invalid to its own client. -/
def LeaseEvent.reportsInvalid (event : LeaseEvent) (earlier : List LeaseEvent) (id : String) :
    Bool :=
  match event with
  | .checked leaseId clientId _ false | .renewed leaseId clientId _ (.error _) =>
      leaseId == id && (grantedLeases earlier).any fun lease =>
        lease.id == id && lease.clientId == clientId
  | _ => false

/-- The lease that an event reports as valid. -/
def LeaseEvent.reportsValid : LeaseEvent → Option String
  | .checked leaseId _ _ true | .renewed leaseId _ _ (.ok _) => some leaseId
  | _ => none

/-- Whether a lease has been released or replaced. -/
def ended (id : String) : List LeaseEvent → Bool
  | [] => false
  | event :: earlier => event.ends earlier id || ended id earlier

/-- Whether a lease has been reported invalid. -/
def reported (id : String) : List LeaseEvent → Bool
  | [] => false
  | event :: earlier => event.reportsInvalid earlier id || reported id earlier

/-- No lease has been reported valid after its end or after it was reported invalid. -/
def StaysDead : List LeaseEvent → Prop
  | [] => True
  | event :: earlier =>
      (∀ id, event.reportsValid = some id → ended id earlier = false ∧
        reported id earlier = false) ∧ StaysDead earlier

/-- The sections that ask about a lease which has been reported invalid, but sampled the clock
before its expiry. -/
inductive Revives (sampled : TimePoint) (history : List LeaseEvent) : LeaseOperation → Prop where
  | checks {lease : ControlLease} (isHeld : held history = some lease)
      (isReported : reported lease.id history = true) (early : sampled < lease.expiresAt) :
      Revives sampled history (.isValid lease.id lease.clientId)
  | renews {lease : ControlLease} (isHeld : held history = some lease)
      (isReported : reported lease.id history = true) (early : sampled < lease.expiresAt) :
      Revives sampled history (.renew lease.id lease.clientId)

theorem ControlLeaseManager.held_eq_some_iff {leases : ControlLeaseManager}
    {lease : ControlLease} :
    leases.held = some lease ↔ leases.hasActive = true ∧ leases.active = lease := by
  simp [held]

section Sections

variable {sampled : TimePoint} {leases after : ControlLeaseManager} {operation : LeaseOperation}
  {event : LeaseEvent} {history : List LeaseEvent}

theorem LeaseSection.change (outcome : LeaseSection sampled leases operation event after) :
    ControlLeaseManager.Change leases after := by
  cases outcome with
  | acquireRefused | renewRefused | releaseRefused | checks => exact .unchanged
  | acquires _ lease isLease => exact isLease ▸ .granted _ _ _
  | renews _ lease isLease => exact isLease ▸ .renewed _
  | releases => exact .ended

/-- A lease that has been released or replaced is retired. -/
theorem LeaseSection.retires (outcome : LeaseSection sampled leases operation event after)
    (recorded : Recorded leases history) {id : String} (ends : event.ends history id = true) :
    after.Retired id := by
  cases outcome with
  | acquireRefused | renewRefused | renews | checks => cases ends
  | releaseRefused notOk => simp [LeaseEvent.ends, notOk] at ends
  | releases hasActive isId =>
      have isId : leases.active.id = id := by
        simp only [LeaseEvent.ends, Bool.and_eq_true, beq_iff_eq] at ends
        exact isId.trans ends.1
      exact ⟨isId ▸ recorded.activeIssued hasActive, fun hasActive => absurd hasActive (by simp)⟩
  | acquires _ lease _ =>
      simp only [LeaseEvent.ends, Bool.and_eq_true, bne_iff_ne, List.any_eq_true,
        beq_iff_eq] at ends
      rcases ends with ⟨other, earlier, mem, rfl⟩
      exact ⟨(recorded.issued mem).mono (Nat.le_succ _), fun _ => other⟩

/-- What a section reports as valid is the lease that is held, at a time before its expiry. -/
theorem LeaseSection.valid_of_reportsValid
    (outcome : LeaseSection sampled leases operation event after) {id : String}
    (valid : event.reportsValid = some id) : ∃ clientId,
    leases.isValid id clientId sampled = true ∧
      (operation = .isValid id clientId ∨ operation = .renew id clientId) := by
  cases outcome with
  | acquireRefused | acquires | renewRefused | releaseRefused | releases => cases valid
  | renews isValid =>
      cases valid
      exact ⟨_, isValid, Or.inr rfl⟩
  | checks leaseId clientId =>
      cases isValid : leases.isValid leaseId clientId sampled with
      | false => simp [isValid, LeaseEvent.reportsValid] at valid
      | true =>
        obtain rfl : leaseId = id := by simpa [isValid, LeaseEvent.reportsValid] using valid
        exact ⟨clientId, isValid, Or.inl rfl⟩

theorem LeaseSection.reportsValid_of_valid {leaseId clientId : String}
    (outcome : LeaseSection sampled leases operation event after)
    (asks : operation = .isValid leaseId clientId ∨ operation = .renew leaseId clientId)
    (valid : leases.isValid leaseId clientId sampled = true) :
    event.reportsValid = some leaseId := by
  rcases asks with rfl | rfl
  · cases outcome
    simp [valid, LeaseEvent.reportsValid]
  · cases outcome with
    | renewRefused invalid => cases invalid.symm.trans valid
    | renews => rfl

/-- A section reports a dead lease as valid exactly if it revives a lease. -/
theorem LeaseSection.staysDead_iff (outcome : LeaseSection sampled leases operation event after)
    (recorded : Recorded leases history)
    (retired : ∀ {id}, ended id history = true → leases.Retired id) :
    (∀ id, event.reportsValid = some id → ended id history = false ∧
      reported id history = false) ↔ ¬Revives sampled history operation := by
  constructor
  · -- a lease that is held is valid at the time before its expiry
    have answers : ∀ {lease : ControlLease}, held history = some lease →
        sampled < lease.expiresAt →
        operation = .isValid lease.id lease.clientId ∨ operation = .renew lease.id lease.clientId →
        event.reportsValid = some lease.id := by
      intro lease isHeld early asks
      rcases ControlLeaseManager.held_eq_some_iff.mp (recorded.held.trans isHeld) with
        ⟨hasActive, rfl⟩
      exact outcome.reportsValid_of_valid asks
        (ControlLeaseManager.isValid_iff.mpr ⟨hasActive, early, rfl, rfl⟩)
    intro dead revives
    cases revives with
    | checks isHeld isReported early =>
        cases (dead _ (answers isHeld early (Or.inl rfl))).2.symm.trans isReported
    | renews isHeld isReported early =>
        cases (dead _ (answers isHeld early (Or.inr rfl))).2.symm.trans isReported
  · intro inOrder id valid
    rcases outcome.valid_of_reportsValid valid with ⟨clientId, isValid, asks⟩
    constructor
    · by_contra isEnded
      have invalid := (retired (by simpa using isEnded)).isValid_eq_false clientId sampled
      cases invalid.symm.trans isValid
    · by_contra isReported
      have isReported : reported id history = true := by simpa using isReported
      rcases ControlLeaseManager.isValid_iff.mp isValid with ⟨hasActive, early, rfl, rfl⟩
      have isHeld : held history = some leases.active :=
        recorded.held.symm.trans (ControlLeaseManager.held_eq_some_iff.mpr ⟨hasActive, rfl⟩)
      rcases asks with rfl | rfl
      · exact inOrder (.checks isHeld isReported early)
      · exact inOrder (.renews isHeld isReported early)

end Sections

/-- The identifier that an `Acquire` has issued. -/
def LeaseEvent.acquiredId : LeaseEvent → Option String
  | .acquired _ _ (.ok lease) => some lease.id
  | _ => none

def issuedIds (history : List LeaseEvent) : List String := history.filterMap LeaseEvent.acquiredId

theorem exists_granted_of_mem_issuedIds {history : List LeaseEvent} {id : String}
    (mem : id ∈ issuedIds history) : ∃ lease ∈ grantedLeases history, lease.id = id := by
  rcases List.mem_filterMap.mp mem with ⟨event, mem, acquires⟩
  unfold LeaseEvent.acquiredId at acquires
  split at acquires
  · next clientId sampled lease =>
    have isGranted : (LeaseEvent.acquired clientId sampled (.ok lease)).granted = some lease := rfl
    exact ⟨lease, List.mem_filterMap.mpr ⟨_, mem, isGranted⟩, Option.some.inj acquires⟩
  · cases acquires

theorem LeaseSection.nodup {sampled : TimePoint} {leases after : ControlLeaseManager}
    {operation : LeaseOperation} {event : LeaseEvent} {history : List LeaseEvent}
    (outcome : LeaseSection sampled leases operation event after)
    (recorded : Recorded leases history) (distinct : (issuedIds history).Nodup) :
    (issuedIds (event :: history)).Nodup := by
  cases outcome with
  | acquireRefused | renewRefused | renews | releaseRefused | releases | checks => exact distinct
  | acquires inactive lease isLease =>
      refine List.nodup_cons.mpr ⟨fun mem => ?_, distinct⟩
      rcases exists_granted_of_mem_issuedIds mem with ⟨earlier, mem, same⟩
      exact (recorded.issued mem).ne_next sampled (by rw [same, isLease])

namespace LeaseSystem

/-- A thread is about to enter a section that revives a lease. -/
def Resurrects (system : LeaseSystem) (action : LeaseAction) : Prop :=
  ∃ thread operation sampled, action = .enters thread ∧
    system.threads thread = .sampled operation sampled ∧ Revives sampled system.history operation

theorem ReachableUnder.retired {leaseTtl : Milliseconds}
    {allowed : LeaseSystem → LeaseAction → Prop} {system : LeaseSystem}
    (reached : ReachableUnder leaseTtl allowed system) {id : String}
    (isEnded : ended id system.history = true) : system.leases.Retired id := by
  refine reached.invariant
    (fun system => ended id system.history = true → system.leases.Retired id) ?_ ?_ isEnded
  · rintro system ⟨now, rfl⟩ isEnded
    cases isEnded
  · intro system action after reached retired _ taken isEnded
    cases step_cases taken with
    | advances | samples => exact retired isEnded
    | rejects =>
        simp only [ended, LeaseEvent.ends, Bool.false_or] at isEnded
        exact retired isEnded
    | enters _ outcome =>
        rcases (Bool.or_eq_true _ _).mp isEnded with now | before
        · exact outcome.retires (ReachableUnder.recorded reached) now
        · exact outcome.change.retired (retired before)

theorem ReachableUnder.issuedIds_nodup {leaseTtl : Milliseconds}
    {allowed : LeaseSystem → LeaseAction → Prop} {system : LeaseSystem}
    (reached : ReachableUnder leaseTtl allowed system) : (issuedIds system.history).Nodup := by
  refine reached.invariant (fun system => (issuedIds system.history).Nodup) ?_ ?_
  · rintro system ⟨now, rfl⟩
    exact List.nodup_nil
  · intro system action after reached distinct _ taken
    cases step_cases taken with
    | advances | rejects | samples => exact distinct
    | enters _ outcome => exact outcome.nodup (ReachableUnder.recorded reached) distinct

theorem staysDead_iff_of_step {leaseTtl : Milliseconds}
    {allowed : LeaseSystem → LeaseAction → Prop} {system after : LeaseSystem}
    {action : LeaseAction} (reached : ReachableUnder leaseTtl allowed system)
    (dead : StaysDead system.history) (taken : system.step action = some after) :
    StaysDead after.history ↔ ¬Resurrects system action := by
  cases step_cases taken with
  | advances | samples => exact ⟨fun _ => by simp [Resurrects], fun _ => dead⟩
  | rejects =>
      exact ⟨fun _ => by simp [Resurrects], fun _ => ⟨fun _ valid => (by cases valid), dead⟩⟩
  | @enters thread operation sampled event leases position outcome =>
      have answer := outcome.staysDead_iff reached.recorded reached.retired
      constructor
      · rintro ⟨answers, _⟩ ⟨_, _, _, same, stands, revives⟩
        cases same
        cases position.symm.trans stands
        exact answer.mp answers revives
      · intro inOrder
        exact ⟨answer.mpr fun revives =>
          inOrder ⟨thread, operation, sampled, rfl, position, revives⟩, dead⟩

/-- Identifiers are never issued twice; and in a run in which no section asks about a lease that
has been reported invalid with a sample from before its expiry, dead leases stay dead.  The first
section that does revives one. -/
theorem dead_lease_stays_dead (leaseTtl : Milliseconds) :
    (∀ {system}, Reachable leaseTtl system → (issuedIds system.history).Nodup) ∧
    ∀ {system}, ReachableUnder leaseTtl (fun system action => ¬Resurrects system action) system →
      StaysDead system.history ∧ ∀ {action after}, system.step action = some after →
        (StaysDead after.history ↔ ¬Resurrects system action) := by
  refine ⟨fun reached => ReachableUnder.issuedIds_nodup reached, fun {system} reached => ?_⟩
  have dead : StaysDead system.history := by
    refine reached.invariant (fun system => StaysDead system.history) ?_ ?_
    · rintro system ⟨now, rfl⟩
      exact trivial
    · intro system action after reached dead inOrder taken
      exact (staysDead_iff_of_step reached dead taken).mpr inOrder
  exact ⟨dead, fun taken => staysDead_iff_of_step reached dead taken⟩

/-- A check finds the lease expired while a renewal that sampled the clock in time has not yet
entered its section. -/
def overtakenCheck : List LeaseAction :=
  whole 0 (.acquire "client") ++ [.begins 1 (.renew "lease-0-1" "client"), .advance 4000000000] ++
    whole 2 (.isValid "lease-0-1" "client") ++ [.enters 1]

/-- A lease that has been reported invalid is renewed. -/
theorem dead_lease_renewed : ∃ system event earlier id, Reachable 3000 system ∧
    system.history = event :: earlier ∧ reported id earlier = true ∧
    event.reportsValid = some id := by
  rcases TransitionSystem.exists_reachable_of_execute unused_reachable overtakenCheck
    (fun system => latestMeets (fun event earlier => event.reportsValid.any fun id =>
      reported id earlier) system.history)
    (by decide) with ⟨system, reached, checked⟩
  rcases exists_of_latestMeets checked with ⟨event, earlier, history, revives⟩
  rcases (Option.any_eq_true _ _).mp revives with ⟨id, valid, isReported⟩
  exact ⟨system, event, earlier, id, reached, history, isReported, valid⟩

/-- Sections that sampled the clock after the expiry of the lease. -/
def entersExpired (system : LeaseSystem) (action : LeaseAction) : Bool :=
  match action with
  | .enters thread =>
      match system.threads thread with
      | .sampled _ sampled =>
          (held system.history).all fun lease => !reported lease.id system.history ||
            decide (lease.expiresAt ≤ sampled)
      | .idle => true
  | _ => true

theorem not_resurrects_of_entersExpired {system : LeaseSystem} {action : LeaseAction}
    (expired : entersExpired system action = true) : ¬Resurrects system action := by
  rintro ⟨thread, operation, sampled, rfl, position, revives⟩
  simp only [entersExpired, position] at expired
  cases revives with
  | checks isHeld isReported early | renews isHeld isReported early =>
      simp only [isHeld, isReported, Option.all_some, Bool.not_true, Bool.false_or,
        decide_eq_true_eq] at expired
      exact absurd early (Int.not_lt.mpr expired)

/-- A lease expires, and another client replaces it. -/
theorem dead_lease_stays_dead_replaced : ∃ system,
    ReachableUnder 3000 (fun system action => ¬Resurrects system action) system ∧
    reported "lease-0-1" system.history = true ∧ ended "lease-0-1" system.history = true ∧
    StaysDead system.history ∧ (issuedIds system.history).Nodup := by
  have start : ReachableUnder 3000 (fun system action => ¬Resurrects system action) unused :=
    unused_reachable
  rcases TransitionSystem.exists_reachableUnder_of_execute start entersExpired
    (fun _ _ => not_resurrects_of_entersExpired)
    (whole 0 (.acquire "client") ++ [.advance 4000000000] ++
      whole 0 (.renew "lease-0-1" "client") ++ whole 1 (.acquire "other") ++
      whole 0 (.isValid "lease-0-1" "client"))
    (fun system => reported "lease-0-1" system.history && ended "lease-0-1" system.history)
    (by decide) with ⟨system, reached, checked⟩
  rcases (Bool.and_eq_true _ _).mp checked with ⟨isReported, isEnded⟩
  exact ⟨system, reached, isReported, isEnded, ((dead_lease_stays_dead 3000).2 reached).1,
    (dead_lease_stays_dead 3000).1 reached.reachable⟩

end LeaseSystem

end RobotManager
