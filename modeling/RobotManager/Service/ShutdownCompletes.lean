import Mathlib
import RobotManager.Control.ShutdownProgress
import RobotManager.Library.Ranking
import RobotManager.Service.CommandOrigins

/-!
# Stopping the service

The calls in progress can always be finished, so the server can always return; from then on every
step of the executor's threads brings `Shutdown` closer to its end, whatever the driver answers.
That a call of the driver returns at some time is assumed here: its return is a step like another.
-/

namespace RobotManager

/-- The steps a client thread has left in the operation it is in. -/
def ClientPc.left : ClientPc → ℕ
  | .submitChecked _ _ _ => 3
  | .acquiring _ | .renewing _ _ | .submitSampled _ _ _ _ | .readChecked => 2
  | .acquireSampled _ _ | .renewSampled _ _ _ | .releasing _ _ | .submitValidated _ _
  | .reading => 1
  | .idle => 0

namespace System

/-- `Shutdown` never goes back to its start. -/
theorem closing_of_step {setup : Setup} {system after : System} {action : Action}
    (taken : step setup system action = some after) (closing : system.shutdown ≠ .idle) :
    after.shutdown ≠ .idle := by
  cases other : action.isShutdown with
  | false =>
      rw [shutdown_kept taken other]
      exact closing
  | true =>
      cases action with
      | shutdown action => cases shutdownStep_cases taken <;> simp
      | advance | worker | poll | client => cases other

end System

namespace Station

variable {plant : Plant} {station after : Station}

/-! ### The executor's threads at the service -/

/-- Whether the step is one of the executor's own threads. -/
def Step.ofExecutor : Step → Bool
  | .proceed action => action.ofExecutor
  | _ => false

theorem answered_ofExecutor (sdk : EfortSdk) (action : Action) :
    (station.answered sdk action).ofExecutor = action.ofExecutor := by
  unfold answered
  split
  · split <;> rfl
  · rfl
  · rfl
  · rfl

/-- What the driver answers does not decide whether its call can return. -/
theorem answered_enabled {setup : Setup} {sdk : EfortSdk} {action : Action}
    (enabled : (System.step setup station.system action).isSome = true) :
    (System.step setup station.system (station.answered sdk action)).isSome = true := by
  unfold answered
  split
  · split
    · next position => simp [System.step, System.workerStep, position]
    · exact enabled
  · cases position : station.system.poll with
    | reading => simp [System.step, System.pollStep, position]
    | _ => simp [System.step, System.pollStep, position] at enabled
  · cases position : station.system.shutdown with
    | stopping => simp [System.step, System.shutdownStep, position]
    | _ => simp [System.step, System.shutdownStep, position] at enabled
  · exact enabled

theorem proceed_enabled {action : Action} (goes : begins action = false)
    (closed : closes action = true → station.busy = false)
    (enabled : (System.step plant.setup station.system action).isSome = true) :
    (step plant station (.proceed action)).isSome = true := by
  have passes : ¬(begins action || (closes action && station.busy)) = true := by
    rw [Bool.or_eq_true, Bool.and_eq_true, not_or, not_and]
    exact ⟨by simp [goes], fun closing => by simp [closed closing]⟩
  rw [step, proceed, if_neg passes, Option.isSome_map]
  exact answered_enabled enabled

theorem begins_ofExecutor {action : Action} (own : action.ofExecutor = true) :
    begins action = false := by
  cases action with
  | worker | poll | shutdown => rfl
  | advance | client => cases own

theorem closing_of_step {label : Step} (taken : step plant station label = some after)
    (closing : station.system.shutdown ≠ .idle) : after.system.shutdown ≠ .idle := by
  cases step_cases taken with
  | waits system => exact system ▸ closing
  | enters _ _ _ inner => exact System.closing_of_step inner closing
  | proceeds _ _ inner => exact System.closing_of_step inner closing

theorem Reachable.flagged (reached : Reachable plant station)
    (closing : station.system.shutdown ≠ .idle) :
    station.system.impl.shuttingDown = true :=
  reached.system.consistent.flagged closing

/-- Steps of the clients do not move the executor's threads. -/
theorem left_of_step {label : Step} (taken : step plant station label = some after)
    (flagged : station.system.impl.shuttingDown = true) :
    after.system.left ≤ station.system.left := by
  cases step_cases taken with
  | waits system => rw [system]
  | enters _ _ _ inner => exact (System.left_of_other inner rfl).le
  | @proceeds action _ _ inner =>
      cases own : (station.answered plant.sdk action).ofExecutor with
      | true => exact (System.left_of_step flagged own inner).le
      | false => exact (System.left_of_other inner own).le

theorem left_of_ofExecutor {label : Step} (taken : step plant station label = some after)
    (flagged : station.system.impl.shuttingDown = true) (own : label.ofExecutor = true) :
    after.system.left < station.system.left := by
  cases label with
  | proceed action =>
      rcases proceed_cases taken with ⟨_, _, inner, _⟩
      exact System.left_of_step flagged ((answered_ofExecutor _ _).trans own) inner
  | rpc | streamRound | streamEnds | stopRequested => cases own

theorem Reachable.progress (reached : Reachable plant station)
    (closing : station.system.shutdown ≠ .idle) : station.system.shutdown = .done ∨
      ∃ label : Step, label.ofExecutor = true ∧ (step plant station label).isSome = true := by
  have returned := reached.tended.closed closing
  rcases reached.system.progress closing (reached.tended.clients_idle returned) with
    done | ⟨action, own, enabled⟩
  · exact Or.inl done
  · exact Or.inr ⟨.proceed action, own,
      proceed_enabled (begins_ofExecutor own) (fun _ => returned) enabled⟩

/-- The steps left to the executor's threads rank the states of a shutdown. -/
def shutdownRanking (plant : Plant) : TransitionSystem.Ranking (step plant)
    (fun station => Reachable plant station ∧ station.system.shutdown ≠ .idle)
    (fun station => station.system.shutdown = .done) Step.ofExecutor where
  rank := fun station => station.system.left
  kept := fun holds taken => ⟨.next holds.1 trivial taken, closing_of_step taken holds.2⟩
  notRaised := fun holds taken => left_of_step taken (Reachable.flagged holds.1 holds.2)
  lowered := fun holds own taken =>
    left_of_ofExecutor taken (Reachable.flagged holds.1 holds.2) own
  progress := fun holds => Reachable.progress holds.1 holds.2

/-- Once `Shutdown` has begun, it can run to its end. -/
theorem exists_completion (reached : Reachable plant station)
    (closing : station.system.shutdown ≠ .idle) :
    ∃ labels final, (∀ label ∈ labels, Step.ofExecutor label = true) ∧
      TransitionSystem.execute (step plant) (fun _ _ => true) labels station = some final ∧
      final.system.shutdown = .done := by
  rcases (shutdownRanking plant).descent.exists_execute_goal ⟨reached, closing⟩ with
    ⟨labels, final, own, executed, _, done⟩
  exact ⟨labels, final, own, executed, done⟩

/-- In every run of the service that goes on after `Shutdown` has begun, the executor's threads take
at most 18 further steps, however the steps interleave and whatever the driver answers.  Wherever
the run has come, these threads alone can bring `Shutdown` to its end. -/
theorem shutdown_completes (reached : Reachable plant station)
    (closing : station.system.shutdown ≠ .idle) {labels : List Step}
    (executed : TransitionSystem.execute (step plant) (fun _ _ => true) labels station =
      some after) :
    labels.countP Step.ofExecutor ≤ 18 ∧
    ∃ rest final, (∀ label ∈ rest, label.ofExecutor = true) ∧
      TransitionSystem.execute (step plant) (fun _ _ => true) rest after = some final ∧
      final.system.shutdown = .done := by
  constructor
  · have taken := (shutdownRanking plant).countP_add_rank_le ⟨reached, closing⟩ executed
    have start : (shutdownRanking plant).rank station ≤ 18 := System.left_le closing
    omega
  · have holds := (shutdownRanking plant).invariant_of_execute ⟨reached, closing⟩ executed
    exact exists_completion holds.1 holds.2

/-- A shutdown that begins during a motion's driver call goes on by six steps, five of them of the
executor's threads, and comes to its end. -/
theorem shutdown_completes_flagged : ∃ station labels after rest final,
    Reachable Plant.standing station ∧ station.system.shutdown = .flagged ∧ labels.length = 6 ∧
    TransitionSystem.execute (step Plant.standing) (fun _ _ => true) labels station = some after ∧
    labels.countP Step.ofExecutor = 5 ∧ labels.countP Step.ofExecutor ≤ 18 ∧
    (∀ label ∈ rest, Step.ofExecutor label = true) ∧
    TransitionSystem.execute (step Plant.standing) (fun _ _ => true) rest after = some final ∧
    final.system.shutdown = .done := by
  let begins : List Step := [.stopRequested, .proceed (.shutdown .begins)]
  let further : List Step := [.proceed (.worker (.callReturns (.returned Status.Ok))),
    .proceed (.advance 1000), .proceed (.worker .complete), .proceed (.shutdown .stopBegins),
    .proceed (.shutdown (.stopReturns Status.Ok)), .proceed (.poll .check)]
  let goesOn : Station → Option Station :=
    TransitionSystem.execute (step Plant.standing) (fun _ _ => true) further
  rcases TransitionSystem.exists_reachable_of_execute standing_reachable (moves.dropLast ++ begins)
    (fun station => station.system.shutdown == .flagged && (goesOn station).isSome)
    (by decide) with ⟨station, reached, shown⟩
  rcases Bool.and_eq_true_iff.mp shown with ⟨flagged, taken⟩
  have flagged : station.system.shutdown = .flagged := by simpa using flagged
  rcases Option.isSome_iff_exists.mp taken with ⟨after, executed⟩
  rcases shutdown_completes reached (by simp [flagged]) executed with
    ⟨few, rest, final, own, completed, done⟩
  exact ⟨station, further, after, rest, final, reached, flagged, rfl, executed, rfl, few, own,
    completed, done⟩

/-! ### The calls in progress -/

/-- Only a thread that is idle begins an operation. -/
theorem idle_of_begins {setup : Setup} {system next : System} {thread : ℕ} {action : ClientAction}
    (begun : begins (.client thread action) = true)
    (taken : System.step setup system (.client thread action) = some next) :
    system.clients thread = .idle := by
  cases action with
  | acquire | renew | release | submit | getState | read =>
      cases position : system.clients thread with
      | idle => rfl
      | _ => simp [System.step, System.clientStep, position] at taken
  | _ => simp [begins] at begun

/-- Only threads inside the executor have a handler. -/
theorem Reachable.inside (reached : Reachable plant station) :
    ∀ thread ∈ station.handlers, (station.system.clients thread).isIdle = false := by
  refine reached.invariant (fun station => ∀ thread ∈ station.handlers,
    (station.system.clients thread).isIdle = false) (fun station initial => ?_)
    fun station label after _ inside _ taken => ?_
  · rcases initial with ⟨_, now, impl, _, rfl⟩
    simp
  cases step_cases taken with
  | waits system _ handlers =>
      rw [handlers, system]
      exact inside
  | @enters thread action begun _ _ inner _ handlers =>
      have others : ∀ other ∈ station.handlers,
          (after.system.clients other).isIdle = false := by
        intro other mem
        by_cases changed : after.system.clients other = station.system.clients other
        · rw [changed]
          exact inside other mem
        rcases System.clients_of_step inner changed with ⟨_, same⟩
        cases same
        have busy := inside thread mem
        rw [idle_of_begins begun inner] at busy
        cases busy
      rw [handlers]
      split
      · exact others
      · next busy => exact List.forall_mem_cons.mpr ⟨by simpa using busy, others⟩
  | proceeds _ _ _ _ handlers =>
      rw [handlers]
      intro thread mem
      simpa using (List.mem_filter.mp mem).2

end Station

namespace System

/-- What is left of a client's operation, where getting back the mutex counts too. -/
def clientLeft (system : System) (thread : ℕ) : ℕ :=
  2 * (system.clients thread).left + system.driverMutex.toList.length

/-- A step of a client inside the executor brings the end of its operation closer. -/
theorem clientLeft_of_step {setup : Setup} {system after : System} {thread : ℕ}
    {action : ClientAction} (inside : (system.clients thread).isIdle = false)
    (taken : step setup system (.client thread action) = some after) :
    after.clientLeft thread < system.clientLeft thread := by
  have entered : ∀ pc, system.clients thread = pc → pc.isIdle = false :=
    fun _ position => position ▸ inside
  simp only [step, clientStep] at taken
  split at taken
  case h_17 => cases taken
  all_goals next position => (
    -- the operations that begin do so on an idle thread
    try cases entered _ position
    try split at taken
    all_goals cases taken
    all_goals
      simp only [clientLeft, clientReturns, setClient, Function.update_self, position,
        ClientPc.left, Option.toList_some, Option.toList_none, List.length_singleton,
        List.length_nil]
      omega)

/-- With the mutex free, a client inside the executor can take a step. -/
theorem exists_clientStep (setup : Setup) {system : System} {thread : ℕ}
    (free : system.driverMutex = none) (inside : (system.clients thread).isIdle = false) :
    ∃ action, Station.begins (.client thread action) = false ∧
      (clientStep setup thread action system).isSome = true := by
  cases position : system.clients thread with
  | idle => simp [position, ClientPc.isIdle] at inside
  | acquiring clientId =>
      refine ⟨.acquireSample, rfl, ?_⟩
      simp only [clientStep, position]
      split <;> rfl
  | acquireSampled => exact ⟨.acquireCommit, rfl, by simp [clientStep, position]⟩
  | renewing => exact ⟨.renewSample, rfl, by simp [clientStep, position]⟩
  | renewSampled => exact ⟨.renewCommit, rfl, by simp [clientStep, position]⟩
  | releasing => exact ⟨.releaseCommit, rfl, by simp [clientStep, position]⟩
  | submitChecked => exact ⟨.submitSample, rfl, by simp [clientStep, position]⟩
  | submitSampled =>
      refine ⟨.submitValidate, rfl, ?_⟩
      simp only [clientStep, position]
      split <;> rfl
  | submitValidated => exact ⟨.submitCommit .stored, rfl, by simp [clientStep, position]⟩
  | readChecked => exact ⟨.readBegins, rfl, by simp [clientStep, position, free]⟩
  | reading => exact ⟨.readReturns, rfl, by simp [clientStep, position]⟩

end System

namespace Station

variable {plant : Plant} {station after : Station}

/-- The steps that end the streams and the operations in progress, and the returns of the driver
that these wait for. -/
def Step.drains : Step → Bool
  | .streamEnds _ | .proceed (.client _ _) | .proceed (.worker (.callReturns _))
  | .proceed (.poll (.readReturns _)) => true
  | _ => false

/-- What is left of the calls in progress. -/
def callsLeft (station : Station) : ℕ :=
  station.streams.length +
    2 * (station.handlers.map fun thread => (station.system.clients thread).left).sum +
    station.system.driverMutex.toList.length

/-- A sum in which no term goes up goes down by what one of its terms goes down. -/
theorem sum_map_add_le {before now : ℕ → ℕ} (notRaised : ∀ thread, now thread ≤ before thread)
    {thread : ℕ} {threads : List ℕ} (mem : thread ∈ threads) :
    (threads.map now).sum + before thread ≤ (threads.map before).sum + now thread := by
  induction mem with
  | head rest =>
      have others := List.sum_le_sum fun other (_ : other ∈ rest) => notRaised other
      simp only [List.map_cons, List.sum_cons]
      omega
  | tail other _ ih =>
      have first := notRaised other
      simp only [List.map_cons, List.sum_cons]
      omega

/-- Handlers that have returned leave nothing behind. -/
theorem sum_map_filter_le (left : ℕ → ℕ) (keep : ℕ → Bool) (threads : List ℕ) :
    ((threads.filter keep).map left).sum ≤ (threads.map left).sum :=
  (List.filter_sublist.map left).sum_le_sum fun _ _ => Nat.zero_le _

theorem callsLeft_of_clientStep {thread : ℕ} {action : ClientAction}
    (mem : thread ∈ station.handlers)
    (inside : (station.system.clients thread).isIdle = false)
    (taken : step plant station (.proceed (.client thread action)) = some after) :
    after.callsLeft < station.callsLeft := by
  rcases proceed_cases taken with ⟨_, _, inner, same⟩
  have handlers := congrArg handlers same
  have streams := congrArg streams same
  have lower := System.clientLeft_of_step inside inner
  have oneHolder : station.system.driverMutex.toList.length ≤ 1 := Option.length_toList_le
  simp only [System.clientLeft] at lower
  have notRaised : ∀ other,
      (after.system.clients other).left ≤ (station.system.clients other).left := by
    intro other
    by_cases changed : after.system.clients other = station.system.clients other
    · rw [changed]
    rcases System.clients_of_step inner changed with ⟨_, client⟩
    cases client
    omega
  have sum := sum_map_add_le notRaised mem
  have filtered := sum_map_filter_le (fun thread => (after.system.clients thread).left)
    (fun thread => !(after.system.clients thread).isIdle) station.handlers
  rw [callsLeft, callsLeft, handlers, streams]
  simp only at *
  omega

/-- A driver call that returns gives the mutex back to the clients. -/
theorem callsLeft_of_return {action : Action} {holder : Thread}
    (held : station.system.driverMutex = some holder)
    (taken : step plant station (.proceed action) = some after)
    (clients : after.system.clients = station.system.clients)
    (free : after.system.driverMutex = none) : after.callsLeft < station.callsLeft := by
  rcases proceed_cases taken with ⟨_, _, _, same⟩
  have handlers := congrArg handlers same
  have streams := congrArg streams same
  have filtered := sum_map_filter_le (fun thread => (station.system.clients thread).left)
    (fun thread => !(station.system.clients thread).isIdle) station.handlers
  rw [callsLeft, callsLeft, handlers, streams, clients, held, free]
  simp only [Option.toList_some, Option.toList_none, List.length_singleton, List.length_nil]
  omega

/-- The server has been told to stop. -/
def Draining (plant : Plant) (station : Station) : Prop :=
  Reachable plant station ∧ station.serving = false

theorem Draining.next {label : Step} (draining : Draining plant station)
    (taken : step plant station label = some after) : Draining plant after := by
  refine ⟨.next draining.1 trivial taken, ?_⟩
  cases label with
  | rpc => simp [step, beginRpc, draining.2] at taken
  | streamRound thread =>
      simp only [step] at taken
      split at taken
      · rw [(enter_cases taken).2]
        exact draining.2
      · cases taken
  | streamEnds =>
      cases taken
      exact draining.2
  | stopRequested =>
      cases taken
      rfl
  | proceed action =>
      rw [(proceed_cases taken).2.2.2]
      exact draining.2

/-- An open stream can end. -/
theorem exists_streamEnds (plant : Plant) {thread : ℕ} {rest : List ℕ}
    (streams : station.streams = thread :: rest) :
    ∃ label after, Step.drains label = true ∧ step plant station label = some after ∧
      after.callsLeft < station.callsLeft := by
  refine ⟨.streamEnds thread, _, rfl, rfl, ?_⟩
  have shorter : (station.streams.filter (· != thread)).length ≤ rest.length := by
    rw [streams, List.filter_cons_of_neg (by simp)]
    exact List.length_filter_le _ _
  have one : station.streams.length = rest.length + 1 := by rw [streams, List.length_cons]
  simp only [callsLeft]
  omega

/-- While a call of the driver is under way outside the shutdown, it can return. -/
theorem exists_return {holder : Thread} (tended : Tended station)
    (held : station.system.driverMutex = some holder) (inside : station.system.inDriver holder)
    (unclosed : station.system.shutdown = .idle) :
    ∃ label after, Step.drains label = true ∧ step plant station label = some after ∧
      after.callsLeft < station.callsLeft := by
  cases holder with
  | worker =>
      rcases inside with ⟨record, evidence, call, position⟩
      have enabled : (step plant station (.proceed (.worker (.callReturns
          (.returned Status.Ok))))).isSome = true :=
        proceed_enabled rfl (by simp [closes]) (by simp [System.step, System.workerStep, position])
      rcases Option.isSome_iff_exists.mp enabled with ⟨after, taken⟩
      have inner := (proceed_cases taken).2.2.1
      simp only [answered, position, System.step, System.workerStep, Option.some.injEq] at inner
      refine ⟨_, after, rfl, taken, callsLeft_of_return held taken ?_ ?_⟩ <;> rw [← inner]
  | poll =>
      have position : station.system.poll = .reading := inside
      have enabled :
          (step plant station (.proceed (.poll (.readReturns (.ok {}))))).isSome = true :=
        proceed_enabled rfl (by simp [closes]) (by simp [System.step, System.pollStep, position])
      rcases Option.isSome_iff_exists.mp enabled with ⟨after, taken⟩
      have inner := (proceed_cases taken).2.2.1
      simp only [answered, System.step, System.pollStep, position, Option.some.injEq] at inner
      refine ⟨_, after, rfl, taken, callsLeft_of_return held taken ?_ ?_⟩ <;> rw [← inner]
  | client thread =>
      have position : station.system.clients thread = .reading := inside
      have busy : (station.system.clients thread).isIdle = false := by
        simp [position, ClientPc.isIdle]
      have enabled : (step plant station (.proceed (.client thread .readReturns))).isSome = true :=
        proceed_enabled rfl (by simp [closes]) (by simp [System.step, System.clientStep, position])
      rcases Option.isSome_iff_exists.mp enabled with ⟨after, taken⟩
      exact ⟨_, after, rfl, taken, callsLeft_of_clientStep (tended.handled busy) busy taken⟩
  | shutdown =>
      have position : station.system.shutdown = .stopping := inside
      cases unclosed.symm.trans position

/-- A call in progress can go on, or the driver call it waits for can return. -/
theorem Draining.progress (draining : Draining plant station) : station.busy = false ∨
    ∃ label after, Step.drains label = true ∧ step plant station label = some after ∧
      after.callsLeft < station.callsLeft := by
  rcases draining with ⟨reached, stopping⟩
  have tended := reached.tended
  cases busy : station.busy with
  | false => exact Or.inl rfl
  | true =>
  right
  have unclosed : station.system.shutdown = .idle := by
    by_contra closing
    cases busy.symm.trans (tended.closed closing)
  cases streams : station.streams with
  | cons thread rest => exact exists_streamEnds plant streams
  | nil =>
  have handled : station.handlers ≠ [] := by
    rintro none
    simp [Station.busy, stopping, streams, none] at busy
  rcases List.exists_mem_of_ne_nil _ handled with ⟨thread, mem⟩
  have inside := reached.inside thread mem
  cases held : station.system.driverMutex with
  | some holder => exact exists_return tended held (reached.system.inDriver held) unclosed
  | none =>
      rcases System.exists_clientStep plant.setup held inside with ⟨action, goes, enabled⟩
      have enabled : (step plant station (.proceed (.client thread action))).isSome = true :=
        proceed_enabled goes (by simp [closes]) enabled
      rcases Option.isSome_iff_exists.mp enabled with ⟨after, taken⟩
      exact ⟨_, after, rfl, taken, callsLeft_of_clientStep mem inside taken⟩

def drain (plant : Plant) : TransitionSystem.Descent (step plant) (Draining plant)
    (fun station => station.busy = false) Step.drains where
  rank := callsLeft
  kept := Draining.next
  progress := Draining.progress

/-- Whether the step needs neither a new call nor the passing of time. -/
def Step.ends : Step → Bool
  | .rpc _ _ _ | .streamRound _ | .proceed (.advance _) => false
  | _ => true

theorem Step.ends_of_ofExecutor {label : Step} (own : label.ofExecutor = true) :
    label.ends = true := by
  cases label with
  | proceed action =>
      cases action with
      | advance | client => cases own
      | worker | poll | shutdown => rfl
  | rpc | streamRound | streamEnds | stopRequested => cases own

theorem Step.ends_of_drains {label : Step} (drains : label.drains = true) : label.ends = true := by
  cases label with
  | proceed action =>
      cases action with
      | advance => cases drains
      | client | worker | poll | shutdown => rfl
  | rpc | streamRound => cases drains
  | streamEnds | stopRequested => rfl

/-- Once the server has returned, `Shutdown` can begin and run to its end. -/
theorem exists_shutdown (reached : Reachable plant station) (returned : station.busy = false) :
    ∃ labels final, (∀ label ∈ labels, Step.ends label = true) ∧
      TransitionSystem.execute (step plant) (fun _ _ => true) labels station = some final ∧
      final.system.shutdown = .done := by
  by_cases idle : station.system.shutdown = .idle
  · have enabled : (step plant station (.proceed (.shutdown .begins))).isSome = true :=
      proceed_enabled rfl (fun _ => returned) (by simp [System.step, System.shutdownStep, idle])
    rcases Option.isSome_iff_exists.mp enabled with ⟨begun, taken⟩
    have closing : begun.system.shutdown ≠ .idle := by
      have inner := (proceed_cases taken).2.2.1
      simp only [answered, System.step, System.shutdownStep, idle, Option.some.injEq] at inner
      simp [← inner]
    rcases exists_completion (.next reached trivial taken) closing with
      ⟨labels, final, own, executed, done⟩
    refine ⟨.proceed (.shutdown .begins) :: labels, final, ?_, ?_, done⟩
    · exact List.forall_mem_cons.mpr ⟨rfl, fun label mem => Step.ends_of_ofExecutor (own label mem)⟩
    · simp [TransitionSystem.execute, taken, executed]
  · rcases exists_completion reached idle with ⟨labels, final, own, executed, done⟩
    exact ⟨labels, final, fun label mem => Step.ends_of_ofExecutor (own label mem), executed, done⟩

theorem Reachable.stoppable (reached : Reachable plant station) :
    ∃ labels final, (∀ label ∈ labels, Step.ends label = true) ∧
      TransitionSystem.execute (step plant) (fun _ _ => true) labels station = some final ∧
      final.system.shutdown = .done := by
  have told : step plant station .stopRequested = some { station with serving := false } := rfl
  have draining : Draining plant { station with serving := false } :=
    ⟨.next reached trivial told, rfl⟩
  rcases (drain plant).exists_execute_goal draining with
    ⟨drains, drained, drainSteps, emptied, stillDraining, returned⟩
  rcases exists_shutdown stillDraining.1 returned with ⟨closes, final, closeSteps, closed, done⟩
  refine ⟨.stopRequested :: (drains ++ closes), final, ?_, ?_, done⟩
  · refine List.forall_mem_cons.mpr ⟨rfl, fun label mem => ?_⟩
    rcases List.mem_append.mp mem with mem | mem
    · exact Step.ends_of_drains (drainSteps label mem)
    · exact closeSteps label mem
  · simp only [TransitionSystem.execute, told, if_true, Option.bind_some,
      TransitionSystem.execute_append, emptied, closed]

/-- Every reachable state of the service can be brought to a complete shutdown, whatever calls,
commands and driver calls are in progress and whatever the SDK answers, without another call and
without time passing. -/
theorem always_stoppable (reached : Reachable plant station) :
    ∃ labels final, (∀ label ∈ labels, Step.ends label = true) ∧
      TransitionSystem.execute (step plant) (fun _ _ => true) labels station = some final ∧
      final.system.shutdown = .done :=
  reached.stoppable

/-- The service can be stopped while the worker is inside the driver with a motion, a call that
reads the alarms waits for the driver, and a stream is open. -/
theorem always_stoppable_standing : ∃ station labels final, Reachable Plant.standing station ∧
    (∃ record evidence call, station.system.worker = .executing record evidence call) ∧
    station.handlers = [1] ∧ station.streams = [2] ∧
    (∀ label ∈ labels, Step.ends label = true) ∧
    TransitionSystem.execute (step Plant.standing) (fun _ _ => true) labels station =
      some final ∧ final.system.shutdown = .done := by
  let operator : GrpcServer.ServerContext := ⟨some ["operator"]⟩
  let calls : List Step := [.rpc 1 operator (.readAlarms ⟨"cell"⟩),
    .rpc 2 operator (.streamState ⟨"cell"⟩)]
  rcases TransitionSystem.exists_reachable_of_execute standing_reachable (moves.dropLast ++ calls)
    (fun station => station.system.worker.executes (fun _ _ _ => true) &&
      (station.handlers == [1] && station.streams == [2])) (by decide) with
    ⟨station, reached, shown⟩
  simp only [Bool.and_eq_true, beq_iff_eq] at shown
  rcases shown with ⟨executing, handlers, streams⟩
  rcases WorkerPc.exists_of_executes executing with ⟨record, evidence, call, position, _⟩
  rcases always_stoppable reached with ⟨labels, final, ends, executed, done⟩
  exact ⟨station, labels, final, reached, ⟨record, evidence, call, position⟩, handlers, streams,
    ends, executed, done⟩

end Station

end RobotManager
