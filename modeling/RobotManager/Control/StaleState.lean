import RobotManager.Control.Threads
import RobotManager.Control.Validated

/-!
# Stale snapshots

The published snapshot is handed to the worker, to `Submit` and to the readers of the
state.  Only a poll whose reading fails makes its lifecycle unknown, so a snapshot that
has grown old is handed on as if it were live until such a poll has been published.  The
guard looks at the copy later, when the clock may have passed the limit.
-/

namespace RobotManager

theorem deriveLifecycleState_known (snapshot : RobotSnapshot) :
    deriveLifecycleState snapshot ≠ .unknown := by
  unfold deriveLifecycleState
  split_ifs <;> simp

/-- The test of the poll thread for a snapshot that is no longer fresh. -/
def Impl.foundStale (options : ExecutorOptions) (now : TimePoint) (impl : Impl) : Prop :=
  impl.latestState.observedAt = 0 ∨ now < impl.latestState.observedAt ∨
    elapsedAtLeast now impl.latestState.observedAt options.stateStaleAfter = true

theorem Impl.publishState_unknown_iff (options : ExecutorOptions) (state : StatusOr RobotSnapshot)
    (now : TimePoint) (impl : Impl) :
    (impl.publishState options state now).1.latestState.lifecycle = .unknown ↔
      match state with
      | .ok _ => False
      | .error _ => impl.foundStale options now ∨ impl.latestState.lifecycle = .unknown := by
  unfold publishState
  cases state with
  | ok snapshot => simpa using deriveLifecycleState_known _
  | error status =>
      dsimp only
      split
      · next found => exact iff_of_true rfl (Or.inl found)
      · next fresh => exact ⟨Or.inr, fun unknown => unknown.resolve_left fresh⟩

/-- No motion and no jog passes the guard on an unknown state. -/
theorem validate_unknown {policy : SafetyPolicy} {request : CommandRequest}
    {snapshot : RobotSnapshot} (unknown : snapshot.lifecycle = .unknown)
    (moves : isMotionCommand request.type = true ∨ request.type = .jog)
    (leaseValid jogActive : Bool) :
    (validate policy request snapshot leaseValid jogActive).ok = false := by
  by_contra accepted
  have passes : Evidence.Passes policy request ⟨snapshot, jogActive, leaseValid⟩ := by
    simpa [Evidence.Passes] using accepted
  rcases moves with motion | jog
  · have safe := validateCommonMotion_ok (passes.commonMotion motion)
    simpa [unknown] using safe.lifecycle
  · have payload := passes.payload
    rw [jog] at payload
    cases content : request.payload with
    | jog command =>
        have ok := passes.jog jog content
        unfold validateJog at ok
        simp only [unknown] at ok
        split at ok
        · cases ok
        split at ok
        · next noLease => simp [ok] at noLease
        · simp at ok
    | _ => simp [content, payloadTypeMatches] at payload

/-- The action with which the consumer that takes a guard step has copied its snapshot. -/
def Action.copiesFor : Action → Action → Bool
  | .worker .checkLease, .worker .copySnapshot => true
  | .client thread .submitValidate, .client other (.submit _) => thread == other
  | _, _ => false

theorem Action.copiesFor_worker {action : Action} :
    (Action.worker .checkLease).copiesFor action = true ↔ action = .worker .copySnapshot := by
  unfold copiesFor
  split <;> simp_all

theorem Action.copiesFor_client {thread : ℕ} {action : Action} :
    (Action.client thread .submitValidate).copiesFor action = true ↔
      ∃ request, action = .client thread (.submit request) := by
  constructor
  · intro copies
    unfold copiesFor at copies
    split at copies
    · next same => cases same
    · next guarding request same =>
      cases same
      exact ⟨request, by rw [eq_of_beq copies]⟩
    · cases copies
  · rintro ⟨request, rfl⟩
    simp [copiesFor]

namespace System

open TransitionSystem

/-- A snapshot that the executor has handed to a consumer with the given step. -/
inductive Handed (after : System) : Action → RobotSnapshot → Prop where
  | toWorker {record : CommandRecord} {snapshot : RobotSnapshot} {jogActive : Bool}
      (position : after.worker = .copied record snapshot jogActive) :
      Handed after (.worker .copySnapshot) snapshot
  | toSubmit {thread : ℕ} {request : CommandRequest} {snapshot : RobotSnapshot}
      {jogActive : Bool}
      (position : after.clients thread = .submitChecked request snapshot jogActive) :
      Handed after (.client thread (.submit request)) snapshot
  | toReader {thread : ℕ} {snapshot : RobotSnapshot} {older : List Event}
      (returned : after.events = .stateReturned snapshot :: older) :
      Handed after (.client thread .getState) snapshot

/-- `Submit` and `GetState` begin on a thread that is idle. -/
theorem idle_of_begins {setup : Setup} {system after : System} {thread : ℕ} {call : ClientAction}
    (begins : call = .getState ∨ ∃ request, call = .submit request)
    (taken : step setup system (.client thread call) = some after) :
    system.clients thread = .idle := by
  cases position : system.clients thread with
  | idle => rfl
  | _ => rcases begins with rfl | ⟨_, rfl⟩ <;> simp [step, clientStep, position] at taken

/-- A submission that goes on holds the published snapshot. -/
theorem submit_snapshot {setup : Setup} {system after : System} {thread : ℕ}
    {request : CommandRequest} {snapshot : RobotSnapshot}
    (taken : step setup system (.client thread (.submit request)) = some after)
    (held : (after.clients thread).snapshot = some snapshot) :
    snapshot = system.impl.latestState := by
  have idle := idle_of_begins (Or.inr ⟨request, rfl⟩) taken
  simp only [step, clientStep, idle] at taken
  split at taken
  · cases taken
    simp [clientReturns, setClient, ClientPc.snapshot] at held
  · split at taken <;> cases taken <;>
      simp [clientReturns, setClient, ClientPc.snapshot] at held
    exact held.symm

/-- What is handed on is the published snapshot. -/
theorem Handed.latest {setup : Setup} {system after : System} {action : Action}
    {snapshot : RobotSnapshot} (handed : Handed after action snapshot)
    (taken : step setup system action = some after) : snapshot = system.impl.latestState := by
  cases handed with
  | toWorker position =>
      cases workerStep_cases taken with
      | copies =>
          cases position
          rfl
  | toSubmit position => exact submit_snapshot taken (by rw [position]; rfl)
  | @toReader thread _ _ returned =>
      have idle := idle_of_begins (Or.inl rfl) taken
      simp only [step, clientStep, idle, Option.some.injEq] at taken
      subst taken
      simp [clientReturns] at returned
      exact returned.1.symm

theorem publish_latestState {setup : Setup} {system after : System}
    (taken : step setup system (.poll .publish) = some after) :
    ∃ state, system.poll = .read state ∧ after.impl.latestState =
      (system.impl.publishState setup.options state system.now).1.latestState := by
  cases pollStep_cases taken with
  | @publishes state position =>
      exact ⟨state, position, (Impl.publishLocked_frame _ _ _ _ _).latestState⟩

/-- Only the publish section of the poll thread changes the published snapshot. -/
theorem step_latestState {setup : Setup} {system after : System} {action : Action}
    (taken : step setup system action = some after) (other : action ≠ .poll .publish) :
    after.impl.latestState = system.impl.latestState := by
  have effect := step_effect taken
  generalize after.impl = afterImpl at effect ⊢
  generalize after.worker.inFlight = next at effect
  cases effect with
  | unchanged | flagged => rfl
  | published => exact absurd rfl other
  | dequeued => exact (Impl.dequeueLocked_frame _ _).latestState
  | completed =>
      rcases Impl.completeLocked_frame _ _ _ _ _ _ with frame | ⟨_, _, frame⟩ <;>
        exact frame.latestState
  | @submitted _ _ request evidence traversal position =>
      rcases Impl.submitLocked_eq setup.options traversal request system.now system.impl with
        ⟨_, _, _, _, eq⟩
      rw [eq]
  | released => exact (Impl.releaseLocked_frame _ _ _ _).latestState
  | settled => exact (Impl.shutdownLocked_frame _ _ _).latestState

/-- The snapshot is as old as the configured limit. -/
def StaleAt (setup : Setup) (now : TimePoint) (snapshot : RobotSnapshot) : Prop :=
  setup.options.stateStaleAfter * 1000000 ≤ now - snapshot.observedAt

instance (setup : Setup) (now : TimePoint) (snapshot : RobotSnapshot) :
    Decidable (StaleAt setup now snapshot) :=
  inferInstanceAs (Decidable (_ ≤ _))

/-- Since the last successful reading was published, the poll thread has published a failed one
when it found the snapshot no longer fresh. -/
def staleFound (setup : Setup) : List (System × Action) → Prop
  | [] => False
  | (state, .poll .publish) :: older =>
      match state.poll with
      | .read (.ok _) => False
      | .read (.error _) => state.impl.foundStale setup.options state.now ∨ staleFound setup older
      | _ => staleFound setup older
  | _ :: older => staleFound setup older

theorem staleFound_cons {setup : Setup} {state : System} {action : Action}
    (older : List (System × Action)) (other : action ≠ .poll .publish) :
    staleFound setup ((state, action) :: older) ↔ staleFound setup older := by
  cases action with
  | poll action =>
      cases action with
      | publish => exact absurd rfl other
      | check | readBegins | readReturns | wake => rfl
  | advance | worker | client | shutdown => rfl

/-- The published lifecycle is unknown exactly if the poll thread has found the snapshot stale. -/
theorem lifecycle_unknown_iff {setup : Setup} {past : List (System × Action)} {system : System}
    (run : Run (step setup) (Init setup) past system) :
    system.impl.latestState.lifecycle = .unknown ↔ staleFound setup past := by
  induction run with
  | init initial =>
      rcases init_cases initial with ⟨_, snapshot, now, rfl⟩
      exact iff_of_false (deriveLifecycleState_known _) id
  | @next past state action after run taken ih =>
      by_cases publish : action = .poll .publish
      · subst publish
        rcases publish_latestState taken with ⟨reading, position, latest⟩
        rw [latest, Impl.publishState_unknown_iff]
        simp only [staleFound, position]
        cases reading with
        | ok snapshot => rfl
        | error status => exact or_congr_right ih
      · rw [step_latestState taken publish, staleFound_cons past publish]
        exact ih

/-! ### The copy that the guard looks at -/

/-- The guard is run with the given step, on the request and with the evidence. -/
inductive Guarded (system : System) : Action → CommandRequest → Evidence → Prop where
  | byWorker {record : CommandRecord} {snapshot : RobotSnapshot} {jogActive : Bool}
      {sampled : TimePoint}
      (position : system.worker = .leaseSampled record snapshot jogActive sampled) :
      Guarded system (.worker .checkLease) record.request ⟨snapshot, jogActive,
        system.leases.isValid record.request.leaseId record.request.clientId sampled⟩
  | bySubmit {thread : ℕ} {request : CommandRequest} {snapshot : RobotSnapshot}
      {jogActive : Bool} {sampled : TimePoint}
      (position : system.clients thread = .submitSampled request snapshot jogActive sampled) :
      Guarded system (.client thread .submitValidate) request ⟨snapshot, jogActive,
        system.leases.isValid request.leaseId request.clientId sampled⟩

/-- The run up to the latest copy for the given guard step. -/
def beforeCopy (guard : Action) (past : List (System × Action)) : List (System × Action) :=
  (past.dropWhile fun entry => !guard.copiesFor entry.2).tail

theorem beforeCopy_copy {guard action : Action} (state : System) (past : List (System × Action))
    (copies : guard.copiesFor action = true) :
    beforeCopy guard ((state, action) :: past) = past := by
  simp [beforeCopy, copies]

theorem beforeCopy_cons {guard action : Action} (state : System) (past : List (System × Action))
    (other : guard.copiesFor action = false) :
    beforeCopy guard ((state, action) :: past) = beforeCopy guard past := by
  simp [beforeCopy, other]

/-- Only the worker's copy section gives the worker a snapshot. -/
theorem workerStep_snapshot {setup : Setup} {system after : System} {action : WorkerAction}
    {snapshot : RobotSnapshot} (taken : step setup system (.worker action) = some after)
    (other : action ≠ .copySnapshot) (held : after.worker.snapshot = some snapshot) :
    system.worker.snapshot = some snapshot := by
  cases workerStep_cases taken with
  | exits | refuses | lacksPayload | returns | completes => cases held
  | dequeues =>
      dsimp only at held
      generalize (system.impl.dequeueLocked system.now).2 = handed at held
      cases handed <;> cases held
  | copies => exact absurd rfl other
  | samples position | checksProgram position | calls position =>
      rw [position]
      exact held
  | validates position seen =>
      subst seen
      rw [position]
      exact held

/-- A client step concerns its own thread only. -/
theorem clientStep_elsewhere {setup : Setup} {system after : System} {thread other : ℕ}
    {action : ClientAction} (taken : step setup system (.client thread action) = some after)
    (elsewhere : other ≠ thread) : after.clients other = system.clients other := by
  cases clientStep_cases taken with
  | idles => rfl
  | moves | returns | cancels | submits | readBegins | readReturns =>
      exact (clients_setClient system thread other _).trans (if_neg elsewhere)

/-- Only the first section of `Submit` gives a client thread a snapshot. -/
theorem clientStep_snapshot {setup : Setup} {system after : System} {thread : ℕ}
    {action : ClientAction} {snapshot : RobotSnapshot}
    (taken : step setup system (.client thread action) = some after)
    (other : ∀ request, action ≠ .submit request)
    (held : (after.clients thread).snapshot = some snapshot) :
    (system.clients thread).snapshot = some snapshot := by
  have moved : ∀ pc : ClientPc, after.clients = (system.setClient thread pc).clients →
      pc.snapshot = some snapshot := by
    intro pc same
    rw [same, clients_setClient, if_pos rfl] at held
    exact held
  cases action with
  | submit request => exact absurd rfl (other request)
  | submitSample =>
      cases position : system.clients thread <;> simp only [step, clientStep, position] at taken <;>
        cases taken
      have copied := moved _ rfl
      exact copied
  | submitValidate =>
      cases position : system.clients thread <;> simp only [step, clientStep, position] at taken <;>
        try cases taken
      split at taken <;> cases taken
      · cases moved _ rfl
      · have copied := moved _ rfl
        exact copied
  | read =>
      cases position : system.clients thread <;> simp only [step, clientStep, position] at taken <;>
        try cases taken
      split at taken <;> cases taken
      · rwa [position] at held
      · cases moved _ rfl
  | acquireCommit | renewSample | renewCommit | releaseCommit | submitCommit | getState
  | readReturns =>
      cases position : system.clients thread <;> simp only [step, clientStep, position] at taken <;>
        cases taken
      cases moved _ rfl
  | acquire | acquireSample | renew | release | readBegins =>
      cases position : system.clients thread <;> simp only [step, clientStep, position] at taken <;>
        try cases taken
      all_goals split at taken <;> cases taken <;> cases moved _ rfl

/-- What the worker and the clients hold is unknown exactly if the poll thread had found the
snapshot stale when they copied it. -/
structure CopiesTraced (setup : Setup) (past : List (System × Action)) (system : System) :
    Prop where
  worker : ∀ {snapshot}, system.worker.snapshot = some snapshot →
    (snapshot.lifecycle = .unknown ↔ staleFound setup (beforeCopy (.worker .checkLease) past))
  client : ∀ {thread snapshot}, (system.clients thread).snapshot = some snapshot →
    (snapshot.lifecycle = .unknown ↔
      staleFound setup (beforeCopy (.client thread .submitValidate) past))

theorem copies_traced {setup : Setup} {past : List (System × Action)} {system : System}
    (run : Run (step setup) (Init setup) past system) : CopiesTraced setup past system := by
  induction run with
  | init initial =>
      rcases init_cases initial with ⟨_, snapshot, now, rfl⟩
      constructor <;> intros <;> contradiction
  | @next past state action after run taken ih =>
      have unknown := lifecycle_unknown_iff run
      constructor
      · intro snapshot held
        by_cases copies : Action.copiesFor (.worker .checkLease) action = true
        · rw [beforeCopy_copy state past copies]
          obtain rfl := Action.copiesFor_worker.mp copies
          cases workerStep_cases taken with
          | copies =>
              cases held
              exact unknown
        · rw [beforeCopy_cons state past (by simpa using copies)]
          apply ih.worker
          cases action with
          | worker action =>
              refine workerStep_snapshot taken ?_ held
              rintro rfl
              exact copies rfl
          | advance =>
              cases taken
              exact held
          | poll => cases pollStep_cases taken <;> exact held
          | client => cases clientStep_cases taken <;> exact held
          | shutdown => cases shutdownStep_cases taken <;> exact held
      · intro thread snapshot held
        by_cases copies : Action.copiesFor (.client thread .submitValidate) action = true
        · rw [beforeCopy_copy state past copies]
          rcases Action.copiesFor_client.mp copies with ⟨request, rfl⟩
          rcases submit_snapshot taken held with rfl
          exact unknown
        · rw [beforeCopy_cons state past (by simpa using copies)]
          apply ih.client
          cases action with
          | client other action =>
              by_cases same : thread = other
              · subst same
                refine clientStep_snapshot taken ?_ held
                rintro request rfl
                exact copies (Action.copiesFor_client.mpr ⟨request, rfl⟩)
              · rwa [clientStep_elsewhere taken same] at held
          | advance =>
              cases taken
              exact held
          | worker => cases workerStep_cases taken <;> exact held
          | poll => cases pollStep_cases taken <;> exact held
          | shutdown => cases shutdownStep_cases taken <;> exact held

/-- A snapshot handed to the worker, to `Submit` or to a reader when it has grown stale is unknown
exactly if the poll thread has found it stale by then.  The copy that a guard step looks at, when
it has grown stale by that step, is unknown exactly if the poll thread had found it stale before it
was copied, and in that case no motion and no jog is validated as OK on it. -/
theorem stale_state_handed_as_unknown_iff {setup : Setup} {past : List (System × Action)}
    {system after : System} {action : Action}
    (run : Run (step setup) (Init setup) past system)
    (taken : step setup system action = some after) :
    (∀ snapshot, Handed after action snapshot →
      ((StaleAt setup system.now snapshot → snapshot.lifecycle = .unknown) ↔
        (StaleAt setup system.now system.impl.latestState → staleFound setup past))) ∧
    ∀ request evidence, Guarded system action request evidence →
      ((StaleAt setup system.now evidence.snapshot → evidence.snapshot.lifecycle = .unknown) ↔
        (StaleAt setup system.now evidence.snapshot →
          staleFound setup (beforeCopy action past))) ∧
      ((StaleAt setup system.now evidence.snapshot → staleFound setup (beforeCopy action past)) →
        isMotionCommand request.type = true ∨ request.type = .jog →
        evidence.Passes setup.policy request → ¬StaleAt setup system.now evidence.snapshot) := by
  constructor
  · intro snapshot handed
    obtain rfl := handed.latest taken
    exact imp_congr_right fun _ => lifecycle_unknown_iff run
  · intro request evidence guarded
    have unknown : evidence.snapshot.lifecycle = .unknown ↔
        staleFound setup (beforeCopy action past) := by
      cases guarded with
      | byWorker position => exact (copies_traced run).worker (by rw [position]; rfl)
      | bySubmit position => exact (copies_traced run).client (by rw [position]; rfl)
    refine ⟨imp_congr_right fun _ => unknown, ?_⟩
    intro found moves passes stale
    have refused : (validate setup.policy request evidence.snapshot evidence.leaseValid
        evidence.jogActive).ok = false := validate_unknown (unknown.mpr (found stale)) moves _ _
    cases refused.symm.trans passes

/-- The poll thread is inside a reading while the clock passes the limit for the snapshot. -/
def pollBlocked : List Action := [.poll .check, .poll .readBegins, .advance 600000000]

/-- A reading takes longer than the limit, and the worker validates a motion as OK on the snapshot
that has grown stale meanwhile. -/
theorem stale_state_handed_as_ready : ∃ system after record snapshot jogActive,
    Reachable .moving system ∧ step .moving system (.worker .copySnapshot) = some after ∧
    after.worker = .copied record snapshot jogActive ∧
    Handed after (.worker .copySnapshot) snapshot ∧ StaleAt .moving system.now snapshot ∧
    snapshot.lifecycle = .ready ∧ isMotionCommand record.request.type = true ∧
    (validate Setup.moving.policy record.request snapshot true jogActive).ok = true := by
  rcases exists_reachable_of_execute ready_reachable
    (Schedule.acquire 0 "client" ++
      Schedule.submit 0 (.move (firstLease 1000) "client" "motion") ++ pollBlocked ++
      [.worker .dequeue])
    (fun system => StaleAt .moving system.now system.impl.latestState &&
      (step .moving system (.worker .copySnapshot)).any fun after =>
        after.worker.copies fun record snapshot jogActive => snapshot.lifecycle == .ready &&
          isMotionCommand record.request.type &&
          (validate Setup.moving.policy record.request snapshot true jogActive).ok)
    (by decide) with ⟨system, reached, checked⟩
  rcases (Bool.and_eq_true _ _).mp checked with ⟨stale, copies⟩
  rcases (Option.any_eq_true _ _).mp copies with ⟨after, taken, copied⟩
  rcases WorkerPc.exists_of_copies copied with ⟨record, snapshot, jogActive, position, passes⟩
  simp only [Bool.and_eq_true, beq_iff_eq] at passes
  have handed : Handed after (.worker .copySnapshot) snapshot := .toWorker position
  have handedOn : StaleAt .moving system.now snapshot := by
    rw [handed.latest taken]
    exact of_decide_eq_true stale
  exact ⟨system, after, record, snapshot, jogActive, reached, taken, position, handed,
    handedOn, passes.1.1, passes.1.2, passes.2⟩

/-- Whether the latest event is the return of an unknown state. -/
def lastReturnedUnknown : List Event → Bool
  | .stateReturned snapshot :: _ => snapshot.lifecycle == .unknown
  | _ => false

theorem exists_of_lastReturnedUnknown {events : List Event}
    (returned : lastReturnedUnknown events = true) : ∃ snapshot older,
    events = .stateReturned snapshot :: older ∧ snapshot.lifecycle = .unknown := by
  unfold lastReturnedUnknown at returned
  split at returned
  · next snapshot older => exact ⟨snapshot, older, rfl, eq_of_beq returned⟩
  · cases returned

/-- The reading fails after the limit has passed, and the next reader gets an unknown state. -/
theorem stale_state_handed_as_unknown_iff_failed : ∃ past system after snapshot,
    Run (step .moving) (Init .moving) past system ∧
    step .moving system (.client 0 .getState) = some after ∧
    Handed after (.client 0 .getState) snapshot ∧
    StaleAt .moving system.now system.impl.latestState ∧ staleFound .moving past := by
  rcases exists_reachable_of_execute ready_reachable
    (pollBlocked ++ [.poll (.readReturns (.error ⟨.unavailable, "connection lost", 0⟩)),
      .poll .publish])
    (fun system => StaleAt .moving system.now system.impl.latestState ∧
      system.impl.latestState.lifecycle = .unknown ∧
      (step .moving system (.client 0 .getState)).any fun after =>
        lastReturnedUnknown after.events)
    (by decide) with ⟨system, reached, checked⟩
  rcases of_decide_eq_true checked with ⟨stale, unknown, reads⟩
  rcases (Option.any_eq_true _ _).mp reads with ⟨after, taken, returned⟩
  rcases reached.exists_run with ⟨past, run⟩
  rcases exists_of_lastReturnedUnknown returned with ⟨snapshot, older, events, unknownAgain⟩
  have handed : Handed after (.client 0 .getState) snapshot := .toReader events
  have found := ((stale_state_handed_as_unknown_iff run taken).1 snapshot handed).mp
    fun _ => unknownAgain
  exact ⟨past, system, after, snapshot, run, taken, handed, stale, found stale⟩

end System

end RobotManager
