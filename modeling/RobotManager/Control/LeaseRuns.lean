import RobotManager.Control.LeaseCases
import RobotManager.Library.TransitionSystem

/-!
# Concurrent use of the lease manager

Threads call the operations of one `ControlLeaseManager`.  An operation first samples the
clock and later enters its critical section, and the sections of other threads may come
in between, so sections do not run in the order of their samples.
-/

namespace RobotManager

inductive LeaseOperation where
  | acquire (clientId : String)
  | renew (leaseId clientId : String)
  | release (leaseId clientId : String)
  | isValid (leaseId clientId : String)
deriving DecidableEq, Repr

/-- The return of an operation, with the time it sampled. -/
inductive LeaseEvent where
  | acquired (clientId : String) (sampled : TimePoint) (result : StatusOr ControlLease)
  | renewed (leaseId clientId : String) (sampled : TimePoint) (result : StatusOr ControlLease)
  | released (leaseId clientId : String) (status : Status)
  | checked (leaseId clientId : String) (sampled : TimePoint) (valid : Bool)

/-- The critical section of an operation. -/
def LeaseOperation.critical (operation : LeaseOperation) (sampled : TimePoint)
    (leases : ControlLeaseManager) : LeaseEvent × ControlLeaseManager :=
  match operation with
  | .acquire clientId =>
      let (result, leases) := leases.acquireLocked clientId sampled
      (.acquired clientId sampled result, leases)
  | .renew leaseId clientId =>
      let (result, leases) := leases.renewLocked leaseId clientId sampled
      (.renewed leaseId clientId sampled result, leases)
  | .release leaseId clientId =>
      let (status, leases) := leases.release leaseId clientId
      (.released leaseId clientId status, leases)
  | .isValid leaseId clientId =>
      (.checked leaseId clientId sampled (leases.isValid leaseId clientId sampled), leases)

/-- The outcomes of a critical section. -/
inductive LeaseSection (sampled : TimePoint) (leases : ControlLeaseManager) :
    LeaseOperation → LeaseEvent → ControlLeaseManager → Prop where
  | acquireRefused {clientId : String} {status : Status}
      (isActive : leases.isActiveLocked sampled = true) :
      LeaseSection sampled leases (.acquire clientId)
        (.acquired clientId sampled (.error status)) leases
  | acquires {clientId : String} (inactive : leases.isActiveLocked sampled = false)
      (lease : ControlLease) (isLease : lease = ⟨ControlLeaseManager.leaseId sampled leases.nextId,
        clientId, sampled.addMs leases.leaseTtl⟩) :
      LeaseSection sampled leases (.acquire clientId) (.acquired clientId sampled (.ok lease))
        { leases with active := lease, hasActive := true, nextId := leases.nextId + 1 }
  | renewRefused {leaseId clientId : String} {status : Status}
      (invalid : leases.isValid leaseId clientId sampled = false) :
      LeaseSection sampled leases (.renew leaseId clientId)
        (.renewed leaseId clientId sampled (.error status)) leases
  | renews {leaseId clientId : String} (valid : leases.isValid leaseId clientId sampled = true)
      (lease : ControlLease) (isLease : lease = ⟨leases.active.id, leases.active.clientId,
        sampled.addMs leases.leaseTtl⟩) :
      LeaseSection sampled leases (.renew leaseId clientId)
        (.renewed leaseId clientId sampled (.ok lease)) { leases with active := lease }
  | releaseRefused {leaseId clientId : String} {status : Status} (notOk : status.ok = false) :
      LeaseSection sampled leases (.release leaseId clientId) (.released leaseId clientId status)
        leases
  | releases {leaseId clientId : String} (hasActive : leases.hasActive = true)
      (isId : leases.active.id = leaseId) (isClient : leases.active.clientId = clientId) :
      LeaseSection sampled leases (.release leaseId clientId)
        (.released leaseId clientId Status.Ok) { leases with hasActive := false, active := {} }
  | checks (leaseId clientId : String) :
      LeaseSection sampled leases (.isValid leaseId clientId)
        (.checked leaseId clientId sampled (leases.isValid leaseId clientId sampled)) leases

theorem LeaseOperation.critical_cases (operation : LeaseOperation) (sampled : TimePoint)
    (leases : ControlLeaseManager) :
    LeaseSection sampled leases operation (operation.critical sampled leases).1
      (operation.critical sampled leases).2 := by
  cases operation with
  | acquire clientId =>
      have acquisition := leases.acquireLocked_cases clientId sampled
      simp only [critical]
      generalize (leases.acquireLocked clientId sampled).1 = result at acquisition ⊢
      generalize (leases.acquireLocked clientId sampled).2 = after at acquisition ⊢
      cases acquisition with
      | refused isActive => exact .acquireRefused isActive
      | granted inactive => exact .acquires inactive _ rfl
  | renew leaseId clientId =>
      have renewal := leases.renewLocked_cases leaseId clientId sampled
      simp only [critical]
      generalize (leases.renewLocked leaseId clientId sampled).1 = result at renewal ⊢
      generalize (leases.renewLocked leaseId clientId sampled).2 = after at renewal ⊢
      cases renewal with
      | refused invalid => exact .renewRefused invalid
      | renewed valid => exact .renews valid _ rfl
  | release leaseId clientId =>
      have surrender := leases.release_cases leaseId clientId
      simp only [critical]
      generalize (leases.release leaseId clientId).1 = status at surrender ⊢
      generalize (leases.release leaseId clientId).2 = after at surrender ⊢
      cases surrender with
      | refused notOk => exact .releaseRefused notOk
      | released hasActive isId isClient => exact .releases hasActive isId isClient
  | isValid leaseId clientId => exact .checks leaseId clientId

/-- Where a thread stands. -/
inductive LeasePc where
  | idle
  | sampled (operation : LeaseOperation) (time : TimePoint)
deriving DecidableEq, Repr

/-- The manager, the clock, the threads, and what has been returned, the latest first. -/
structure LeaseSystem where
  leases : ControlLeaseManager
  now : TimePoint
  threads : ℕ → LeasePc
  history : List LeaseEvent

inductive LeaseAction where
  | advance (nanoseconds : ℕ)
  | begins (thread : ℕ) (operation : LeaseOperation)
  | enters (thread : ℕ)

namespace LeaseSystem

def setThread (system : LeaseSystem) (thread : ℕ) (pc : LeasePc) : LeaseSystem :=
  { system with threads := Function.update system.threads thread pc }

/-- A thread calls an operation, up to the sample of the clock.  `Acquire` turns an empty client
id away before that. -/
def begin (thread : ℕ) (operation : LeaseOperation) (system : LeaseSystem) : LeaseSystem :=
  if operation = .acquire "" then
    let refused : LeaseEvent :=
      .acquired "" system.now (.error ⟨.invalidArgument, "client_id is required", 0⟩)
    { system with history := refused :: system.history }
  else system.setThread thread (.sampled operation system.now)

def step (system : LeaseSystem) (action : LeaseAction) : Option LeaseSystem :=
  match action with
  | .advance nanoseconds => some { system with now := system.now + nanoseconds }
  | .begins thread operation =>
      match system.threads thread with
      | .idle => some (system.begin thread operation)
      | .sampled _ _ => none
  | .enters thread =>
      match system.threads thread with
      | .idle => none
      | .sampled operation time =>
          let (event, leases) := operation.critical time system.leases
          some { system.setThread thread .idle with
            leases := leases
            history := event :: system.history }

/-- A manager that has granted nothing yet. -/
def Init (leaseTtl : Milliseconds) (system : LeaseSystem) : Prop :=
  ∃ now, system = ⟨{ leaseTtl := leaseTtl }, now, fun _ => .idle, []⟩

abbrev Reachable (leaseTtl : Milliseconds) : LeaseSystem → Prop :=
  TransitionSystem.Reachable step (Init leaseTtl)

abbrev ReachableUnder (leaseTtl : Milliseconds)
    (allowed : LeaseSystem → LeaseAction → Prop) : LeaseSystem → Prop :=
  TransitionSystem.ReachableUnder step (Init leaseTtl) allowed

/-- The transitions of the system. -/
inductive Transition (system : LeaseSystem) : LeaseAction → LeaseSystem → Prop where
  | advances (nanoseconds : ℕ) :
      Transition system (.advance nanoseconds) { system with now := system.now + nanoseconds }
  | rejects {thread : ℕ} (sampled : TimePoint) (status : Status) :
      Transition system (.begins thread (.acquire ""))
        { system with history := .acquired "" sampled (.error status) :: system.history }
  | samples {thread : ℕ} {operation : LeaseOperation} :
      Transition system (.begins thread operation)
        (system.setThread thread (.sampled operation system.now))
  | enters {thread : ℕ} {operation : LeaseOperation} {sampled : TimePoint} {event : LeaseEvent}
      {leases : ControlLeaseManager} (position : system.threads thread = .sampled operation sampled)
      (outcome : LeaseSection sampled system.leases operation event leases) :
      Transition system (.enters thread)
        { system.setThread thread .idle with
          leases := leases
          history := event :: system.history }

theorem step_cases {system after : LeaseSystem} {action : LeaseAction}
    (taken : system.step action = some after) : Transition system action after := by
  unfold step at taken
  split at taken
  · cases taken
    exact .advances _
  · split at taken
    · cases taken
      unfold begin
      split
      · next isEmpty =>
        subst isEmpty
        exact .rejects _ _
      · exact .samples
    · cases taken
  · split at taken
    · cases taken
    · next position =>
      cases taken
      exact .enters position (LeaseOperation.critical_cases _ _ _)

end LeaseSystem

/-! ### What a history tells -/

/-- The lease that an operation has granted. -/
def LeaseEvent.granted : LeaseEvent → Option ControlLease
  | .acquired _ _ (.ok lease) | .renewed _ _ _ (.ok lease) => some lease
  | _ => none

/-- Every lease that has been granted, in each of its renewals. -/
def grantedLeases (history : List LeaseEvent) : List ControlLease :=
  history.filterMap LeaseEvent.granted

/-- The lease that was granted last, if it has not been released. -/
def held : List LeaseEvent → Option ControlLease
  | [] => none
  | .acquired _ _ (.ok lease) :: _ | .renewed _ _ _ (.ok lease) :: _ => some lease
  | .released _ _ status :: earlier => if status.ok then none else held earlier
  | _ :: earlier => held earlier

/-- The leases that have been granted and not released since, in each of their renewals. -/
def promised : List LeaseEvent → List ControlLease
  | [] => []
  | .acquired _ _ (.ok lease) :: earlier | .renewed _ _ _ (.ok lease) :: earlier =>
      lease :: promised earlier
  | .released leaseId clientId status :: earlier =>
      if status.ok then
        (promised earlier).filter fun lease => !(lease.id == leaseId && lease.clientId == clientId)
      else promised earlier
  | _ :: earlier => promised earlier

theorem mem_granted_of_mem_promised {history : List LeaseEvent} {lease : ControlLease}
    (mem : lease ∈ promised history) : lease ∈ grantedLeases history := by
  fun_induction promised history with
  | case1 => cases mem
  | case2 | case3 =>
      rcases List.mem_cons.mp mem with rfl | mem
      · simp [grantedLeases, LeaseEvent.granted]
      · simp_all [grantedLeases, LeaseEvent.granted]
  | case4 | case5 | case6 => simp_all [grantedLeases, LeaseEvent.granted]

/-- The lease that a manager holds. -/
def ControlLeaseManager.held (leases : ControlLeaseManager) : Option ControlLease :=
  if leases.hasActive then some leases.active else none

/-- What a history tells about the manager. -/
structure Recorded (leases : ControlLeaseManager) (history : List LeaseEvent) : Prop where
  held : leases.held = held history
  activeIssued : leases.ActiveIssued
  issued : ∀ {lease}, lease ∈ grantedLeases history → leases.HasIssued lease.id
  sameClient : leases.hasActive = true → ∀ {lease}, lease ∈ grantedLeases history →
    lease.id = leases.active.id → lease.clientId = leases.active.clientId

/-- An event that grants nothing and leaves the manager alone. -/
theorem Recorded.ignore {leases : ControlLeaseManager} {history : List LeaseEvent}
    {event : LeaseEvent} (recorded : Recorded leases history) (grants : event.granted = none)
    (keeps : RobotManager.held (event :: history) = RobotManager.held history) :
    Recorded leases (event :: history) := by
  have same : grantedLeases (event :: history) = grantedLeases history := by
    simp [grantedLeases, grants]
  exact ⟨recorded.held.trans keeps.symm, recorded.activeIssued, same ▸ recorded.issued,
    fun hasActive => same ▸ recorded.sameClient hasActive⟩

theorem LeaseSection.recorded {sampled : TimePoint} {leases after : ControlLeaseManager}
    {operation : LeaseOperation} {event : LeaseEvent} {history : List LeaseEvent}
    (outcome : LeaseSection sampled leases operation event after)
    (recorded : Recorded leases history) : Recorded after (event :: history) := by
  cases outcome with
  | acquireRefused | renewRefused | checks => exact recorded.ignore rfl rfl
  | releaseRefused notOk => exact recorded.ignore rfl (by simp [held, notOk])
  | acquires inactive lease isLease =>
      have grown : ∀ {id}, leases.HasIssued id → ControlLeaseManager.HasIssued
          { leases with active := lease, hasActive := true, nextId := leases.nextId + 1 } id :=
        fun issued => issued.mono (Nat.le_succ _)
      have newest : ControlLeaseManager.HasIssued
          { leases with active := lease, hasActive := true, nextId := leases.nextId + 1 }
          lease.id := ⟨sampled, leases.nextId, by rw [isLease], Nat.lt_succ_self _⟩
      refine ⟨rfl, fun _ => newest, fun mem => ?_, fun _ other mem same => ?_⟩
      · rcases List.mem_cons.mp mem with rfl | before
        · exact newest
        · exact grown (recorded.issued before)
      · rcases List.mem_cons.mp mem with rfl | before
        · rfl
        · have fresh := (recorded.issued before).ne_next sampled
          exact absurd (same.trans (by rw [isLease])).symm fresh
  | renews valid lease isLease =>
      rcases ControlLeaseManager.isValid_iff.mp valid with ⟨hasActive, _, _, _⟩
      have sameId : lease.id = leases.active.id := by rw [isLease]
      have sameClient : lease.clientId = leases.active.clientId := by rw [isLease]
      refine ⟨by simp [ControlLeaseManager.held, hasActive, held], fun _ => ?_, fun mem => ?_,
        fun _ other mem same => ?_⟩
      · exact sameId ▸ recorded.activeIssued hasActive
      · rcases List.mem_cons.mp mem with rfl | before
        · exact sameId ▸ recorded.activeIssued hasActive
        · exact recorded.issued before
      · rcases List.mem_cons.mp mem with rfl | before
        · rfl
        · exact (recorded.sameClient hasActive before (same.trans sameId)).trans sameClient.symm
  | releases =>
      refine ⟨rfl, fun hasActive => ?_, fun mem => ?_, fun hasActive => ?_⟩
      · cases hasActive
      · exact recorded.issued mem
      · cases hasActive

theorem LeaseSystem.ReachableUnder.recorded {leaseTtl : Milliseconds}
    {allowed : LeaseSystem → LeaseAction → Prop} {system : LeaseSystem}
    (reached : ReachableUnder leaseTtl allowed system) :
    Recorded system.leases system.history := by
  refine reached.invariant (fun system => Recorded system.leases system.history) ?_ ?_
  · rintro system ⟨now, rfl⟩
    exact ⟨rfl, fun hasActive => absurd hasActive (by simp),
      fun mem => absurd mem (by simp [grantedLeases]), fun hasActive => absurd hasActive (by simp)⟩
  · intro system action after _ recorded _ taken
    cases step_cases taken with
    | advances | samples => exact recorded
    | rejects => exact recorded.ignore rfl rfl
    | enters _ outcome => exact outcome.recorded recorded

end RobotManager
