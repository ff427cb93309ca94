import RobotManager.Control.LeaseCases
import RobotManager.Control.SafeDispatch

/-!
# Released leases

A lease that has been released never becomes valid again, so the worker's check of the
lease refuses every command of that lease from then on.  A command that has passed this
check before the release is the exception: it is still sent to the driver.
-/

namespace RobotManager

/-- Only a Stop passes the guard without a valid lease. -/
theorem Evidence.Passes.lease {policy : SafetyPolicy} {request : CommandRequest}
    {evidence : Evidence} (passes : evidence.Passes policy request)
    (ordinary : request.type ≠ .stop) : evidence.leaseValid = true := by
  by_contra noLease
  have noLease : evidence.leaseValid = false := by simpa using noLease
  have refused : requireLease false = ⟨.permissionDenied, "a valid control lease is required", 0⟩ :=
    rfl
  have motion : (validateCommonMotion policy evidence.snapshot false).ok = false := by
    simp [validateCommonMotion, refused]
  have parameters : (validateParameters policy request false).ok = false := by
    simp [validateParameters, refused]
  unfold Passes validate at passes
  rw [noLease] at passes
  split at passes
  · next rejected => simp [passes] at rejected
  cases type : request.type with
  | stop => exact ordinary type
  | moveJ | moveL | moveC | startProgram => simp [type, motion] at passes
  | releaseControl => simp [type, refused] at passes
  | acquireControl | clearFault | powerOn | hold | resume =>
      simp only [type] at passes
      split at passes <;> simp [refused] at passes
  | powerOff | stopProgram | setGlobalSpeed | writeDigitalOutput | loadProgram =>
      simp only [type] at passes
      split at passes
      · cases passes
      · simp [parameters] at passes
  | jog =>
      simp only [type] at passes
      split at passes
      · unfold validateJog at passes
        split at passes
        · cases passes
        · simp [refused] at passes
      · cases passes

/-- The command that the worker is going to send to the driver without another look at its
lease. -/
def WorkerPc.cleared (impl : Impl) : WorkerPc → Option CommandRecord
  | .validated record _ result =>
      if (System.programCheck impl record.request result).ok then some record else none
  | .ready record _ result => if result.ok then some record else none
  | _ => none

theorem WorkerPc.cleared_congr {impl other : Impl}
    (loaded : other.loadedApprovedProgram = impl.loadedApprovedProgram) (worker : WorkerPc) :
    worker.cleared other = worker.cleared impl := by
  cases worker with
  | validated =>
      unfold WorkerPc.cleared System.programCheck
      rw [loaded]
  | waiting | dequeued | copied | leaseSampled | ready | executing | finished | exited => rfl

/-- A command that a release of the given lease leaves alone. -/
def CommandRequest.Unaffected (request : CommandRequest) (leaseId clientId : String) : Prop :=
  request.type = .stop ∨ request.leaseId ≠ leaseId ∨ request.clientId ≠ clientId

namespace System

open TransitionSystem

/-- The transitions of a client thread that concern leases. -/
inductive LeaseTransition (thread : ℕ) (system : System) : ClientAction → System → Prop where
  | acquires {clientId : String} {sampled : TimePoint}
      (position : system.clients thread = .acquireSampled clientId sampled) :
      LeaseTransition thread system .acquireCommit
        { system.clientReturns thread
            (.acquireReturned clientId (system.leases.acquireLocked clientId sampled).1) with
          leases := (system.leases.acquireLocked clientId sampled).2 }
  | renews {leaseId clientId : String} {sampled : TimePoint}
      (position : system.clients thread = .renewSampled leaseId clientId sampled) :
      LeaseTransition thread system .renewCommit
        { system.clientReturns thread (.renewReturned leaseId clientId
            (system.leases.renewLocked leaseId clientId sampled).1) with
          leases := (system.leases.renewLocked leaseId clientId sampled).2 }
  | surrenders {leaseId clientId : String} (position : system.clients thread = .idle)
      (ok : (system.leases.release leaseId clientId).1.ok = true) :
      LeaseTransition thread system (.release leaseId clientId)
        { system.setClient thread (.releasing leaseId clientId) with
          leases := (system.leases.release leaseId clientId).2 }
  | returns {leaseId clientId : String}
      (position : system.clients thread = .releasing leaseId clientId) :
      LeaseTransition thread system .releaseCommit
        { system.clientReturns thread (.releaseReturned leaseId clientId Status.Ok) with
          impl := system.impl.releaseLocked leaseId clientId system.now }
  | other {action : ClientAction} {after : System} (leases : after.leases = system.leases)
      (clients : ∀ {other leaseId clientId}, after.clients other = .releasing leaseId clientId →
        system.clients other = .releasing leaseId clientId)
      (events : ∀ {leaseId clientId status},
        .releaseReturned leaseId clientId status ∈ after.events → status.ok = true →
        .releaseReturned leaseId clientId status ∈ system.events) :
      LeaseTransition thread system action after

/-- A thread that moves on to a place outside a release leaves the releases of the others. -/
theorem releasing_of_setClient {system after : System} {thread other : ℕ} {pc : ClientPc}
    {leaseId clientId : String} (outside : ∀ leaseId clientId, pc ≠ .releasing leaseId clientId)
    (clients : after.clients = (system.setClient thread pc).clients)
    (releasing : after.clients other = .releasing leaseId clientId) :
    system.clients other = .releasing leaseId clientId := by
  rw [clients, clients_setClient] at releasing
  split at releasing
  · exact absurd releasing (outside _ _)
  · exact releasing

section

variable {system after : System} {thread : ℕ} {action : ClientAction}

theorem LeaseTransition.moves {pc : ClientPc}
    (outside : ∀ leaseId clientId, pc ≠ .releasing leaseId clientId)
    (leases : after.leases = system.leases)
    (clients : after.clients = (system.setClient thread pc).clients)
    (events : after.events = system.events) : LeaseTransition thread system action after :=
  .other leases (releasing_of_setClient outside clients) fun mem _ => events ▸ mem

/-- An operation returns without having released a lease. -/
theorem LeaseTransition.answers {event : Event} (kept : ∀ leaseId clientId status,
      event = .releaseReturned leaseId clientId status → status.ok = false)
    (leases : after.leases = system.leases)
    (clients : after.clients = (system.setClient thread .idle).clients)
    (events : after.events = event :: system.events) :
    LeaseTransition thread system action after := by
  refine .other leases (releasing_of_setClient (by simp) clients) fun mem ok => ?_
  rw [events] at mem
  rcases List.mem_cons.mp mem with same | older
  · cases (kept _ _ _ same.symm).symm.trans ok
  · exact older

theorem clientStep_lease {setup : Setup}
    (taken : clientStep setup thread action system = some after) :
    LeaseTransition thread system action after := by
  unfold clientStep at taken
  split at taken
  · split at taken <;> cases taken
    · exact .answers (by simp) rfl rfl rfl
    · exact .moves (by simp) rfl rfl rfl
  · split at taken <;> cases taken
    · exact .answers (by simp) rfl rfl rfl
    · exact .moves (by simp) rfl rfl rfl
  · next position =>
    cases taken
    exact .acquires position
  · split at taken <;> cases taken
    · exact .answers (by simp) rfl rfl rfl
    · exact .moves (by simp) rfl rfl rfl
  · cases taken
    exact .moves (by simp) rfl rfl rfl
  · next position =>
    cases taken
    exact .renews position
  · next position =>
    dsimp only at taken
    split at taken <;> cases taken
    · next refused =>
      refine .answers (fun id client status same => ?_) rfl rfl rfl
      cases same
      simpa using refused
    · next ok => exact .surrenders position (by simpa using ok)
  · next position =>
    cases taken
    exact .returns position
  · split at taken
    · cases taken
      exact .answers (by simp) rfl rfl rfl
    · split at taken <;> cases taken
      · exact .answers (by simp) rfl rfl rfl
      · exact .moves (by simp) rfl rfl rfl
  · cases taken
    exact .moves (by simp) rfl rfl rfl
  · dsimp only at taken
    split at taken <;> cases taken
    · exact .answers (by simp) rfl rfl rfl
    · exact .moves (by simp) rfl rfl rfl
  · cases taken
    exact .answers (by simp) rfl rfl rfl
  · cases taken
    exact .answers (by simp) rfl rfl rfl
  · split at taken <;> cases taken
    · exact .other rfl id fun mem _ => mem
    · exact .moves (by simp) rfl rfl rfl
  · split at taken
    · cases taken
    cases taken
    exact .moves (by simp) rfl rfl rfl
  · cases taken
    exact .moves (by simp) rfl rfl rfl
  · cases taken

end

/-- A release is about to return while the worker is going to send a command of its lease to the
driver. -/
def ReleasesCleared (system : System) (action : Action) : Prop :=
  ∃ thread leaseId clientId record, action = .client thread .releaseCommit ∧
    system.clients thread = .releasing leaseId clientId ∧
    system.worker.cleared system.impl = some record ∧
    ¬record.request.Unaffected leaseId clientId

/-- The leases that have been released are retired, and the worker has cleared no command of
theirs. -/
structure Surrendered (system : System) : Prop where
  activeIssued : system.leases.ActiveIssued
  releasing : ∀ {thread leaseId clientId}, system.clients thread = .releasing leaseId clientId →
    system.leases.Retired leaseId
  released : ∀ {leaseId clientId status},
    .releaseReturned leaseId clientId status ∈ system.events → status.ok = true →
    system.leases.Retired leaseId
  spared : ∀ {leaseId clientId status record},
    .releaseReturned leaseId clientId status ∈ system.events → status.ok = true →
    system.worker.cleared system.impl = some record → record.request.Unaffected leaseId clientId

theorem Surrendered.keep {system after : System} (surrendered : Surrendered system)
    (change : ControlLeaseManager.Change system.leases after.leases)
    (releasing : ∀ {thread leaseId clientId}, after.clients thread = .releasing leaseId clientId →
      system.clients thread = .releasing leaseId clientId ∨ after.leases.Retired leaseId)
    (released : ∀ {leaseId clientId status},
      .releaseReturned leaseId clientId status ∈ after.events → status.ok = true →
      .releaseReturned leaseId clientId status ∈ system.events ∨
        (after.leases.Retired leaseId ∧ ∀ record, after.worker.cleared after.impl = some record →
          record.request.Unaffected leaseId clientId))
    (cleared : ∀ {record}, after.worker.cleared after.impl = some record →
      system.worker.cleared system.impl = some record ∨ ∀ leaseId clientId,
        after.leases.Retired leaseId → record.request.Unaffected leaseId clientId) :
    Surrendered after := by
  have retired : ∀ {leaseId clientId status},
      .releaseReturned leaseId clientId status ∈ after.events → status.ok = true →
      after.leases.Retired leaseId := by
    intro leaseId clientId status mem ok
    rcases released mem ok with before | ⟨retired, _⟩
    · exact change.retired (surrendered.released before ok)
    · exact retired
  refine ⟨change.activeIssued surrendered.activeIssued, fun position => ?_, retired,
    fun mem ok clear => ?_⟩
  · rcases releasing position with before | retired
    · exact change.retired (surrendered.releasing before)
    · exact retired
  · rcases released mem ok with before | ⟨_, unaffected⟩
    · rcases cleared clear with cleared | unaffected
      · exact surrendered.spared before ok cleared
      · exact unaffected _ _ (retired mem ok)
    · exact unaffected _ clear

/-- A step that leaves the worker where it is clears nothing. -/
theorem cleared_of_step {setup : Setup} {system after : System} {action : Action}
    (taken : step setup system action = some after) (other : action ≠ .worker .complete)
    (worker : after.worker = system.worker) :
    after.worker.cleared after.impl = system.worker.cleared system.impl := by
  rw [worker, WorkerPc.cleared_congr (loadedApprovedProgram_of_step taken other)]

/-- Steps of the worker. -/
theorem Surrendered.workerStep {setup : Setup} {system after : System} {action : WorkerAction}
    (surrendered : Surrendered system)
    (taken : step setup system (.worker action) = some after) : Surrendered after := by
  have leases : after.leases = system.leases := by cases workerStep_cases taken <;> rfl
  have clients : after.clients = system.clients := by cases workerStep_cases taken <;> rfl
  have released : ∀ {leaseId clientId status},
      .releaseReturned leaseId clientId status ∈ after.events →
      .releaseReturned leaseId clientId status ∈ system.events := by
    intro leaseId clientId status mem
    cases workerStep_cases taken <;> simpa using mem
  refine surrendered.keep (leases ▸ .unchanged) (fun position => .inl (clients ▸ position))
    (fun mem _ => .inl (released mem)) ?_
  cases workerStep_cases taken with
  | exits | copies | samples | refuses | lacksPayload | calls | returns | completes =>
      exact fun cleared => absurd cleared (by simp [WorkerPc.cleared])
  | dequeues =>
      intro record cleared
      dsimp only at cleared
      cases handed : (system.impl.dequeueLocked system.now).2 <;>
        simp [handed, WorkerPc.afterDequeue, WorkerPc.cleared] at cleared
  | checksProgram position =>
      intro record cleared
      rw [position]
      exact Or.inl cleared
  | @validates stored snapshot jogActive sampled evidence position seen =>
      intro record cleared
      simp only [WorkerPc.cleared] at cleared
      split at cleared
      · next checked =>
        obtain rfl : stored = record := Option.some.inj cleared
        refine Or.inr fun leaseId clientId retired => ?_
        by_cases stop : stored.request.type = .stop
        · exact Or.inl stop
        have passes : evidence.Passes setup.policy stored.request := by
          unfold programCheck at checked
          split at checked
          · cases checked
          · exact checked
        have valid := passes.lease stop
        subst seen
        refine Or.inr (Or.inl ?_)
        rintro rfl
        cases (retired.isValid_eq_false _ _).symm.trans valid
      · cases cleared

/-- Steps of a client. -/
theorem Surrendered.clientStep {setup : Setup} {system after : System} {thread : ℕ}
    {action : ClientAction} (surrendered : Surrendered system)
    (spared : ¬ReleasesCleared system (.client thread action))
    (taken : step setup system (.client thread action) = some after) : Surrendered after := by
  have worker : after.worker = system.worker := by cases clientStep_cases taken <;> rfl
  have cleared := cleared_of_step taken (by simp) worker
  have clear : ∀ {record}, after.worker.cleared after.impl = some record →
      system.worker.cleared system.impl = some record ∨ ∀ leaseId clientId,
        after.leases.Retired leaseId → record.request.Unaffected leaseId clientId :=
    fun same => Or.inl (cleared ▸ same)
  have releasing : after.clients = (system.setClient thread .idle).clients →
      ∀ {other leaseId clientId}, after.clients other = .releasing leaseId clientId →
        system.clients other = .releasing leaseId clientId ∨ after.leases.Retired leaseId :=
    fun clients _ _ _ position => Or.inl (releasing_of_setClient (by simp) clients position)
  cases clientStep_lease taken with
  | acquires =>
      exact surrendered.keep (ControlLeaseManager.acquireLocked_change _ _ _)
        (releasing rfl) (fun mem _ => .inl (by simpa [clientReturns] using mem)) clear
  | renews =>
      exact surrendered.keep (ControlLeaseManager.renewLocked_change _ _ _ _)
        (releasing rfl) (fun mem _ => .inl (by simpa [clientReturns] using mem)) clear
  | @surrenders leaseId clientId position ok =>
      refine surrendered.keep (ControlLeaseManager.release_change _ _ _) ?_
        (fun mem _ => .inl mem) clear
      intro other id client position
      have position : (system.setClient thread (.releasing leaseId clientId)).clients other =
          .releasing id client := position
      rw [clients_setClient] at position
      split at position
      · cases position
        exact Or.inr (ControlLeaseManager.release_retires surrendered.activeIssued ok)
      · exact Or.inl position
  | @returns leaseId clientId position =>
      refine surrendered.keep .unchanged (releasing rfl) ?_ clear
      intro id client status mem ok
      rcases List.mem_cons.mp mem with same | before
      · cases same
        refine Or.inr ⟨surrendered.releasing position, fun record cleared' => ?_⟩
        by_contra affected
        exact spared ⟨thread, leaseId, clientId, record, rfl, position, cleared ▸ cleared',
          affected⟩
      · exact Or.inl before
  | other leases clients events =>
      exact surrendered.keep (leases ▸ .unchanged) (fun position => .inl (clients position))
        (fun mem ok => .inl (events mem ok)) clear

theorem ReachableUnder.surrendered {setup : Setup} {system : System}
    (reached : ReachableUnder setup (fun system action => ¬ReleasesCleared system action) system) :
    Surrendered system := by
  refine reached.invariant Surrendered ?_ ?_
  · intro system initial
    rcases init_cases initial with ⟨_, snapshot, now, rfl⟩
    refine ⟨fun hasActive => ?_, ?_, ?_, ?_⟩ <;> simp [started] at *
  intro system action after reached surrendered spared taken
  have elsewhere : (∀ workerAction, action ≠ .worker workerAction) →
      after.worker = system.worker → after.leases = system.leases →
      after.clients = system.clients →
      (∀ {leaseId clientId status}, .releaseReturned leaseId clientId status ∈ after.events →
        .releaseReturned leaseId clientId status ∈ system.events) → Surrendered after := by
    intro other worker leases clients events
    refine surrendered.keep (leases ▸ .unchanged) (fun position => .inl (clients ▸ position))
      (fun mem _ => .inl (events mem)) fun cleared => .inl ?_
    rwa [cleared_of_step taken (other .complete) worker] at cleared
  cases action with
  | worker action => exact surrendered.workerStep taken
  | client thread action => exact surrendered.clientStep spared taken
  | advance nanoseconds =>
      cases taken
      exact elsewhere (by simp) rfl rfl rfl id
  | poll action =>
      cases pollStep_cases taken with
      | checks | skips | readReturns | exits | wakes => exact elsewhere (by simp) rfl rfl rfl id
      | readBegins =>
          refine elsewhere (by simp) rfl rfl rfl fun mem => ?_
          simpa using mem
      | publishes =>
          refine elsewhere (by simp) rfl rfl rfl fun mem => ?_
          dsimp only at mem
          rcases seenEvents_cases system.impl _ with none | ⟨active, seen⟩
          · rwa [none] at mem
          · rw [seen] at mem
            simpa using mem
  | shutdown action =>
      cases shutdownStep_cases taken with
      | begins | joinsWorker | joinsPoll | finishes => exact elsewhere (by simp) rfl rfl rfl id
      | stopBegins | stopReturns | disconnects =>
          refine elsewhere (by simp) rfl rfl rfl fun mem => ?_
          simpa using mem

/-- In every run in which no release returns while the worker is going to send a command of that
lease to the driver, no driver call begins for a command of a lease that has been released, except
for a Stop. -/
theorem released_lease_drives_nothing {setup : Setup} {system after : System}
    {leaseId clientId : String} {status : Status} {record : CommandRecord} {evidence : Evidence}
    {call : DriverCall}
    (reached : ReachableUnder setup (fun system action => ¬ReleasesCleared system action) system)
    (released : .releaseReturned leaseId clientId status ∈ system.events) (ok : status.ok = true)
    (taken : step setup system (.worker .callBegins) = some after)
    (began : after.worker = .executing record evidence call) :
    record.request.type = .stop ∨ record.request.leaseId ≠ leaseId ∨
      record.request.clientId ≠ clientId := by
  have surrendered := ReachableUnder.surrendered reached
  cases workerStep_cases taken with
  | refuses | lacksPayload => cases began
  | calls position passed =>
      cases began
      refine surrendered.spared released ok ?_
      rw [position]
      simp [WorkerPc.cleared, passed]

/-- Whether a release of the given lease has returned OK. -/
def hasReleased (leaseId clientId : String) (system : System) : Bool :=
  system.events.any fun event => match event with
    | .releaseReturned id client status => id == leaseId && client == clientId && status.ok
    | _ => false

theorem exists_of_hasReleased {leaseId clientId : String} {system : System}
    (released : system.hasReleased leaseId clientId = true) : ∃ status,
    .releaseReturned leaseId clientId status ∈ system.events ∧ status.ok = true := by
  rcases List.any_eq_true.mp released with ⟨event, mem, own⟩
  split at own
  · next id client status =>
    simp only [Bool.and_eq_true, beq_iff_eq] at own
    rcases own with ⟨⟨rfl, rfl⟩, ok⟩
    exact ⟨status, mem, ok⟩
  · cases own

/-- The worker has validated a joint motion when the client releases the lease. -/
def releaseBehindCheck : List Action :=
  Schedule.acquire 0 "client" ++
    Schedule.submit 0 (.move (firstLease 1000) "client" "motion") ++ Schedule.prepare ++
    Schedule.release 0 (firstLease 1000) "client"

/-- A motion of a released lease is sent to the driver. -/
theorem released_lease_drives_motion : ∃ system after status record evidence call,
    Reachable .moving system ∧
    .releaseReturned (firstLease 1000) "client" status ∈ system.events ∧ status.ok = true ∧
    step .moving system (.worker .callBegins) = some after ∧
    after.worker = .executing record evidence call ∧ record.request.type = .moveJ ∧
    record.request.leaseId = firstLease 1000 ∧ record.request.clientId = "client" := by
  rcases exists_reachable_of_execute ready_reachable releaseBehindCheck
    (fun system => system.hasReleased (firstLease 1000) "client" &&
      (step .moving system (.worker .callBegins)).any fun after =>
        after.worker.executes fun record _ _ => record.request.type == .moveJ &&
          record.request.leaseId == firstLease 1000 && record.request.clientId == "client")
    (by decide) with ⟨system, reached, checked⟩
  rcases (Bool.and_eq_true _ _).mp checked with ⟨released, begins⟩
  rcases exists_of_hasReleased released with ⟨status, mem, ok⟩
  rcases (Option.any_eq_true _ _).mp begins with ⟨after, taken, executing⟩
  rcases WorkerPc.exists_of_executes executing with ⟨record, evidence, call, position, own⟩
  simp only [Bool.and_eq_true, beq_iff_eq] at own
  exact ⟨system, after, status, record, evidence, call, reached, mem, ok, taken, position,
    own.1.1, own.1.2, own.2⟩

/-- A client returns its lease and then stops the robot. -/
def stopAfterRelease : List Action :=
  Schedule.acquire 0 "client" ++ Schedule.release 0 (firstLease 1000) "client" ++
    Schedule.submit 0 (.plain .stop (firstLease 1000) "client" "stop") ++ Schedule.prepare

/-- Releases return only while the worker has cleared nothing. -/
def releasesBetweenChecks (system : System) (action : Action) : Bool :=
  match action, system.worker with
  | .client _ .releaseCommit, .waiting => true
  | .client _ .releaseCommit, _ => false
  | _, _ => true

theorem not_releasesCleared_of_between {system : System} {action : Action}
    (between : releasesBetweenChecks system action = true) : ¬ReleasesCleared system action := by
  rintro ⟨thread, leaseId, clientId, record, rfl, _, cleared, _⟩
  unfold releasesBetweenChecks at between
  split at between
  · next waiting => simp [waiting, WorkerPc.cleared] at cleared
  · cases between
  · next other _ => exact other _ rfl

/-- The only command that a released lease still drives here is a Stop. -/
theorem released_lease_drives_nothing_stop : ∃ system after status record evidence call,
    ReachableUnder .moving (fun system action => ¬ReleasesCleared system action) system ∧
    .releaseReturned (firstLease 1000) "client" status ∈ system.events ∧ status.ok = true ∧
    step .moving system (.worker .callBegins) = some after ∧
    after.worker = .executing record evidence call ∧
    record.request.leaseId = firstLease 1000 ∧ record.request.clientId = "client" ∧
    record.request.type = .stop := by
  have start : ReachableUnder .moving (fun system action => ¬ReleasesCleared system action)
      ready := ready_reachable
  rcases exists_reachableUnder_of_execute start releasesBetweenChecks
    (fun _ _ => not_releasesCleared_of_between) stopAfterRelease
    (fun system => system.hasReleased (firstLease 1000) "client" &&
      (step .moving system (.worker .callBegins)).any fun after =>
        after.worker.executes fun record _ _ =>
          record.request.leaseId == firstLease 1000 && record.request.clientId == "client")
    (by decide) with ⟨system, reached, checked⟩
  rcases (Bool.and_eq_true _ _).mp checked with ⟨released, begins⟩
  rcases exists_of_hasReleased released with ⟨status, mem, ok⟩
  rcases (Option.any_eq_true _ _).mp begins with ⟨after, taken, executing⟩
  rcases WorkerPc.exists_of_executes executing with ⟨record, evidence, call, position, own⟩
  simp only [Bool.and_eq_true, beq_iff_eq] at own
  refine ⟨system, after, status, record, evidence, call, reached, mem, ok, taken, position,
    own.1, own.2, ?_⟩
  rcases released_lease_drives_nothing reached mem ok taken position with
    stop | otherLease | otherClient
  · exact stop
  · exact absurd own.1 otherLease
  · exact absurd own.2 otherClient

end System

end RobotManager
