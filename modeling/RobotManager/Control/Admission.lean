import RobotManager.Control.Pruning
import RobotManager.Control.RecordOrigins
import RobotManager.Control.Schedules

/-!
# Admission to the queue and the history

The final section of `Submit` checks the queue and then the history.  The history has room
for one more record exactly if the records that have not ended, without the one a Stop may
displace, are fewer than its limit.  Since the command in flight and the active motion have
left the queue, this does not follow from the limits that `Start` checks.
-/

namespace RobotManager

namespace Impl

/-- The final section of `Submit` gets to its capacity checks. -/
def PassesChecks (request : CommandRequest) (impl : Impl) : Prop :=
  impl.running = true ∧ impl.shuttingDown = false ∧ impl.findExisting request = none ∧
    (isMotionCommand request.type = true → impl.motionPending = false) ∧
    (request.type = .startProgram → impl.loadedApprovedProgram ≠ "")

/-- The queue has room for the request, or a Stop can displace a command. -/
def FindsRoom (options : ExecutorOptions) (request : CommandRequest) (impl : Impl) : Prop :=
  impl.queue.length < options.maximumQueueSize ∨
    (request.type = .stop ∧ ∃ id ∈ impl.queue, impl.isDisplaceable id = true)

/-- The number of commands that have to make way for another one. -/
def displacedCount (options : ExecutorOptions) (impl : Impl) : ℕ :=
  if impl.queue.length < options.maximumQueueSize then 0 else 1

/-! ### The queue -/

theorem displaceNewestLocked_isSome_iff (now : TimePoint) (impl : Impl) :
    (∃ displaced, impl.displaceNewestLocked now = some displaced) ↔
      ∃ id ∈ impl.queue, impl.isDisplaceable id = true := by
  unfold displaceNewestLocked
  split
  · next none =>
    have stops : ∀ id ∈ impl.queue, ¬impl.isDisplaceable id = true := by
      simpa using List.find?_eq_none.mp none
    refine iff_of_false (by simp) ?_
    rintro ⟨id, mem, displaceable⟩
    exact stops id mem displaceable
  · next id found =>
    refine iff_of_true ⟨_, rfl⟩ ⟨id, ?_, List.find?_some found⟩
    simpa using List.mem_of_find?_eq_some found

theorem makeRoomLocked_isOk_iff {options : ExecutorOptions} {request : CommandRequest}
    {now : TimePoint} {impl : Impl} :
    (∃ roomy, impl.makeRoomLocked options request now = .ok roomy) ↔
      impl.FindsRoom options request := by
  unfold makeRoomLocked FindsRoom
  split
  · next room => exact iff_of_true ⟨impl, rfl⟩ (Or.inl room)
  next full =>
  split
  · next ordinary => exact iff_of_false (by simp) (by simp [full, ordinary])
  next stop =>
  have stop : request.type = .stop := not_not.mp stop
  rw [← displaceNewestLocked_isSome_iff now]
  cases impl.displaceNewestLocked now with
  | none => simp [full]
  | some displaced => simp [stop]

/-- Making room takes at most one command out of the queue and ends its record. -/
theorem makeRoomLocked_counts {options : ExecutorOptions} {request : CommandRequest}
    {now : TimePoint} {impl roomy : Impl} (wellFormed : impl.WellFormed)
    (room : impl.makeRoomLocked options request now = .ok roomy) :
    roomy.queue.length + impl.displacedCount options = impl.queue.length ∧
      roomy.unfinished + impl.displacedCount options = impl.unfinished ∧
      roomy.commands.size = impl.commands.size := by
  by_cases free : impl.queue.length < options.maximumQueueSize
  · have same : roomy = impl := by
      unfold makeRoomLocked at room
      rw [if_pos free] at room
      exact (Except.ok.inj room).symm
    simp [same, displacedCount, free]
  · rw [displacedCount, if_neg free]
    unfold makeRoomLocked at room
    rw [if_neg free] at room
    split at room
    · cases room
    split at room
    · cases room
    next displaced displacement =>
    obtain rfl := Except.ok.inj room
    unfold displaceNewestLocked at displacement
    split at displacement
    · cases displacement
    next id chosen =>
    obtain rfl := Option.some.inj displacement
    rcases find?_eraseP chosen with ⟨front, back, reversed, erased⟩
    have queue : impl.queue = back.reverse ++ id :: front.reverse := by
      simpa using congrArg List.reverse reversed
    have mem : id ∈ impl.queue := by
      rw [queue]
      simp
    rcases wellFormed.queued mem with ⟨record, found, queued⟩
    have counted : FiniteMap.count (fun record => !isTerminal record.state)
          (impl.commands.modify id fun record =>
            { record with
              state := .cancelled
              result := ⟨.resourceExhausted, "command was displaced by a safety stop", 0⟩
              updatedAt := now }) + (if !isTerminal record.state then 1 else 0) =
        impl.unfinished + if !isTerminal CommandState.cancelled then 1 else 0 :=
      FiniteMap.count_modify _ found
    have live : isTerminal record.state = false := by simp [queued, isTerminal]
    have ended : isTerminal .cancelled = true := rfl
    simp only [live, ended, Bool.not_false, Bool.not_true, if_true, if_false, Nat.add_zero,
      Bool.false_eq_true] at counted
    refine ⟨?_, counted, by simp⟩
    rw [erased, queue]
    simp
    omega

/-! ### The history -/

/-- Pruning leaves no room exactly if the unfinished records alone fill the history. -/
theorem pruned_full_iff {options : ExecutorOptions} (positive : 0 < options.maximumCommandHistory)
    (traversal : Traversal) {request : CommandRequest} {now : TimePoint} {impl roomy : Impl}
    (wellFormed : impl.WellFormed)
    (room : impl.makeRoomLocked options request now = .ok roomy) :
    options.maximumCommandHistory ≤
        (roomy.pruneCommandHistoryLocked options traversal).commands.size ↔
      options.maximumCommandHistory + impl.displacedCount options ≤ impl.unfinished := by
  have counts := makeRoomLocked_counts wellFormed room
  have within := roomy.unfinished_le_size
  rw [pruneCommandHistoryLocked_size]
  omega

/-- Without a terminal record there is nothing to prune. -/
theorem pruneCommandHistoryLocked_of_live {impl : Impl} (options : ExecutorOptions)
    (traversal : Traversal) (live : impl.unfinished = impl.commands.size) :
    impl.pruneCommandHistoryLocked options traversal = impl := by
  have nothing : oldestTerminal (traversal.order impl.commands.entries) none = none := by
    refine oldestTerminal_none_iff.mpr ⟨rfl, fun record mem => ?_⟩
    exact unfinished_eq_size_iff.mp live record.1 record.2
      (FiniteMap.mem_entries_iff.mp ((traversal.perm _).mem_iff.mp mem))
  unfold pruneCommandHistoryLocked
  cases impl.commands.size with
  | zero => rfl
  | succ rounds => simp [pruneLoop, nothing]

/-! ### The outcome -/

/-- A request that does not get past the checks and the queue changes nothing. -/
theorem submitLocked_unchanged {options : ExecutorOptions} {traversal : Traversal}
    {request : CommandRequest} {now : TimePoint} {impl : Impl}
    (stopped : ¬(impl.PassesChecks request ∧ impl.FindsRoom options request)) :
    (impl.submitLocked options traversal request now).2 = impl := by
  unfold submitLocked
  split
  · rfl
  next serving =>
  have serving : impl.running = true ∧ impl.shuttingDown = false := by simpa using serving
  split
  · rfl
  next fresh =>
  split
  · rfl
  next exclusive =>
  split
  · rfl
  next loaded =>
  split
  · rfl
  next roomy room =>
  refine absurd ⟨⟨serving.1, serving.2, fresh, by simpa using exclusive, ?_⟩,
    makeRoomLocked_isOk_iff.mp ⟨roomy, room⟩⟩ stopped
  exact fun type empty => loaded ⟨type, empty⟩

/-- A request that has got as far as the history is refused with the pruned history or recorded. -/
theorem submitLocked_of_room {options : ExecutorOptions} (traversal : Traversal)
    {request : CommandRequest} {now : TimePoint} {impl roomy : Impl}
    (passes : impl.PassesChecks request)
    (room : impl.makeRoomLocked options request now = .ok roomy) :
    impl.submitLocked options traversal request now =
      if options.maximumCommandHistory ≤
          (roomy.pruneCommandHistoryLocked options traversal).commands.size then
        (.refused ⟨.resourceExhausted, "command history is full of active records", 0⟩,
          roomy.pruneCommandHistoryLocked options traversal)
      else
        (.accepted (roomy.pruneCommandHistoryLocked options traversal).nextCommandId,
          (roomy.pruneCommandHistoryLocked options traversal).enqueueLocked request now) := by
  rcases passes with ⟨running, accepting, fresh, exclusive, loaded⟩
  have notPending : (isMotionCommand request.type && impl.motionPending) = false := by
    simpa using exclusive
  have program : ¬(request.type = .startProgram ∧ impl.loadedApprovedProgram = "") :=
    fun missing => loaded missing.1 missing.2
  simp [submitLocked, running, accepting, fresh, notPending, program, room]

/-- A refusal by a full history loses a displaced command or the terminal records. -/
theorem submitLocked_eq_self_iff {options : ExecutorOptions}
    (positive : 0 < options.maximumCommandHistory) (traversal : Traversal)
    {request : CommandRequest} {now : TimePoint} {impl : Impl} (wellFormed : impl.WellFormed)
    (passes : impl.PassesChecks request) (finds : impl.FindsRoom options request)
    (full : options.maximumCommandHistory + impl.displacedCount options ≤ impl.unfinished) :
    (impl.submitLocked options traversal request now).2 = impl ↔
      impl.queue.length < options.maximumQueueSize ∧ impl.unfinished = impl.commands.size := by
  rcases makeRoomLocked_isOk_iff.mpr finds with ⟨roomy, room⟩
  have counts := makeRoomLocked_counts wellFormed room
  have noSlot := (pruned_full_iff positive traversal wellFormed room).mpr full
  rw [submitLocked_of_room traversal passes room, if_pos noSlot]
  constructor
  · intro same
    have size := pruneCommandHistoryLocked_size options traversal roomy
    have sameSize : (roomy.pruneCommandHistoryLocked options traversal).commands.size =
        impl.commands.size := congrArg (fun impl => impl.commands.size) same
    have within := impl.unfinished_le_size
    unfold displacedCount at full counts
    split at full
    · next free =>
      rw [if_pos free] at counts
      exact ⟨free, by omega⟩
    · next crowded =>
      rw [if_neg crowded] at counts
      omega
  · rintro ⟨free, live⟩
    have same : impl = roomy := by
      unfold makeRoomLocked at room
      rw [if_pos free] at room
      exact Except.ok.inj room
    rw [← same]
    exact pruneCommandHistoryLocked_of_live options traversal live

/-! ### Safety stops -/

/-- Every queued command is a Stop. -/
def OnlyStopsQueued (impl : Impl) : Prop :=
  ∀ id ∈ impl.queue, ∀ record, impl.commands.lookup id = some record → record.request.type = .stop

theorem not_onlyStopsQueued_iff {impl : Impl} :
    ¬impl.OnlyStopsQueued ↔ ∃ id ∈ impl.queue, impl.isDisplaceable id = true := by
  unfold OnlyStopsQueued
  push Not
  refine exists_congr fun id => and_congr_right fun _ => ?_
  constructor
  · rintro ⟨record, found, ordinary⟩
    simpa [isDisplaceable, found] using ordinary
  · intro displaceable
    unfold isDisplaceable at displaceable
    split at displaceable
    · cases displaceable
    next record found =>
    exact ⟨record, found, by simpa using displaceable⟩

/-- A Stop with a new key is recorded exactly if the queue and the history have room for it. -/
theorem submitLocked_stop_accepted_iff {options : ExecutorOptions}
    (positive : 0 < options.maximumCommandHistory) (traversal : Traversal)
    {request : CommandRequest} (now : TimePoint) {impl : Impl} (wellFormed : impl.WellFormed)
    (running : impl.running = true) (accepting : impl.shuttingDown = false)
    (fresh : impl.findExisting request = none) (stop : request.type = .stop) :
    (∃ id, (impl.submitLocked options traversal request now).1 = .accepted id) ↔
      impl.FindsRoom options request ∧
        impl.unfinished < options.maximumCommandHistory + impl.displacedCount options := by
  have passes : impl.PassesChecks request :=
    ⟨running, accepting, fresh, by simp [stop, isMotionCommand], by simp [stop]⟩
  by_cases finds : impl.FindsRoom options request
  · rcases makeRoomLocked_isOk_iff.mpr finds with ⟨roomy, room⟩
    have full := pruned_full_iff positive traversal wellFormed room
    rw [submitLocked_of_room traversal passes room]
    split
    · next isFull =>
      refine iff_of_false (by simp) ?_
      simpa [finds] using full.mp isFull
    · next notFull =>
      refine iff_of_true ⟨_, rfl⟩ ⟨finds, ?_⟩
      exact not_le.mp fun isFull => notFull (full.mpr isFull)
  · refine iff_of_false ?_ fun admitted => finds admitted.1
    rintro ⟨id, accepted⟩
    have submission := impl.submitLocked_cases options traversal request now
    generalize (impl.submitLocked options traversal request now).2 = after at submission
    rw [accepted] at submission
    cases submission with
    | known existing => cases fresh.symm.trans existing
    | accepted _ _ _ _ _ room => exact finds (makeRoomLocked_isOk_iff.mp ⟨_, room⟩)

end Impl

theorem validate_stop_ok_iff (policy : SafetyPolicy) {request : CommandRequest}
    (stop : request.type = .stop) (snapshot : RobotSnapshot) (leaseValid jogActive : Bool) :
    (validate policy request snapshot leaseValid jogActive).ok = true ↔
      payloadTypeMatches .stop request.payload = true ∧ snapshot.connected = true := by
  unfold validate validatePayloadType
  rw [stop]
  cases payloadTypeMatches .stop request.payload <;> cases snapshot.connected <;> simp

namespace System

open TransitionSystem

/-- A Stop for which a queued command can make way is answered with an id, when it is submitted
without interruption and when it gets to its final section in any other way, exactly if it carries
a Stop's payload and the unfinished records, without one that is displaced, do not fill the
history. -/
theorem stop_admitted_iff {setup : Setup} {system : System} {request : CommandRequest}
    (reached : Reachable setup system) (running : system.impl.running = true)
    (accepting : system.impl.shuttingDown = false)
    (connected : system.impl.latestState.connected = true) (stop : request.type = .stop)
    (checked : Impl.checkRequest request = none)
    (unused : system.impl.idempotency.lookup (idempotencyMapKey request) = none)
    (thread : ℕ) (traversal : Traversal) :
    (system.clients thread = .idle →
      ((¬system.impl.OnlyStopsQueued → ∃ after id,
          uninterrupted setup
            (Schedule.validate thread request ++ [.client thread (.submitCommit traversal)])
            system = some after ∧
          after.events = .submitReturned request (.accepted id) :: system.events) ↔
        system.impl.OnlyStopsQueued ∨
          (payloadTypeMatches .stop request.payload = true ∧
            system.impl.unfinished < setup.options.maximumCommandHistory +
              system.impl.displacedCount setup.options))) ∧
    ∀ evidence, system.clients thread = .submitValidated request evidence →
      ((¬system.impl.OnlyStopsQueued → ∃ after id,
          step setup system (.client thread (.submitCommit traversal)) = some after ∧
          after.events = .submitReturned request (.accepted id) :: system.events) ↔
        system.impl.OnlyStopsQueued ∨
          system.impl.unfinished < setup.options.maximumCommandHistory +
            system.impl.displacedCount setup.options) := by
  have positive : 0 < setup.options.maximumCommandHistory := by
    have accepted := ExecutorOptions.accepted_iff.mp reached.optionsAccepted
    exact lt_trans accepted.2.1 accepted.2.2
  have fresh : system.impl.findExisting request = none := by
    simp [Impl.findExisting, unused]
  have lookup : system.impl.submitLookup request = none := by
    simp [Impl.submitLookup, running, accepting, fresh]
  have recorded := Impl.submitLocked_stop_accepted_iff positive traversal system.now
    reached.owned.wellFormed running accepting fresh stop
  by_cases only : system.impl.OnlyStopsQueued
  · simp [only]
  have admitted := recorded.trans
    (and_iff_right (Or.inr ⟨stop, Impl.not_onlyStopsQueued_iff.mp only⟩))
  refine ⟨fun idle => ?_, fun evidence position => ?_⟩
  · simp only [only, not_false_eq_true, true_imp_iff, false_or]
    have valid := validate_stop_ok_iff setup.policy stop system.impl.latestState
      (system.leases.isValid request.leaseId request.clientId system.now) system.impl.jogActive
    by_cases passes : payloadTypeMatches .stop request.payload = true
    · rw [execute_submit idle checked lookup (valid.mpr ⟨passes, connected⟩), ← admitted]
      simp [passes, clientReturns]
    · have refused := Bool.eq_false_of_not_eq_true (mt valid.mp fun ok => passes ok.1)
      rw [execute_validate_refused idle checked lookup refused]
      simp [passes]
  · simp only [only, not_false_eq_true, true_imp_iff, false_or]
    rw [← admitted]
    simp [step, clientStep, position, clientReturns]

/-! ### The first command -/

/-- A freshly started executor with a standing robot that has recorded a first command. -/
def withFirst (setup : Setup) (request : CommandRequest) : System :=
  { (started setup .standing 1000).clientReturns 0 (.submitReturned request (.accepted 1)) with
    impl := (started setup .standing 1000).impl.enqueueLocked request 1000 }

/-- Under every accepted configuration a Stop can be the first command. -/
theorem withFirst_reachable {setup : Setup} (accepted : setup.options.accepted = true)
    {request : CommandRequest} (stop : request.type = .stop)
    (payload : payloadTypeMatches .stop request.payload = true)
    (checked : Impl.checkRequest request = none) : Reachable setup (withFirst setup request) := by
  have limits := (ExecutorOptions.accepted_iff.mp accepted).2
  have empty : (started setup .standing 1000).impl.commands.size = 0 := rfl
  have lookup : (started setup .standing 1000).impl.submitLookup request = none := rfl
  have passes : (started setup .standing 1000).impl.PassesChecks request :=
    ⟨rfl, rfl, rfl, by simp [stop, isMotionCommand], by simp [stop]⟩
  have room : (started setup .standing 1000).impl.makeRoomLocked setup.options request
      (started setup .standing 1000).now = .ok (started setup .standing 1000).impl :=
    if_pos limits.1
  have pruned : (started setup .standing 1000).impl.pruneCommandHistoryLocked setup.options
      .stored = (started setup .standing 1000).impl := rfl
  have slot : ¬setup.options.maximumCommandHistory ≤
      (started setup .standing 1000).impl.commands.size := by omega
  have recorded : (started setup .standing 1000).impl.submitLocked setup.options .stored request
      (started setup .standing 1000).now =
        (.accepted 1, (started setup .standing 1000).impl.enqueueLocked request 1000) := by
    rw [Impl.submitLocked_of_room .stored passes room, pruned, if_neg slot]
    rfl
  have valid := (validate_stop_ok_iff setup.policy stop
    (started setup .standing 1000).impl.latestState
    ((started setup .standing 1000).leases.isValid request.leaseId request.clientId 1000)
    (started setup .standing 1000).impl.jogActive).mpr ⟨payload, rfl⟩
  have idle : (started setup .standing 1000).clients 0 = .idle := rfl
  have submitted := execute_submit idle checked lookup valid .stored
  rw [recorded] at submitted
  exact Reachable.uninterrupted (.init (init_started accepted .standing 1000)) submitted

/-- The record of the first command. -/
theorem withFirst_lookup (setup : Setup) (request : CommandRequest) :
    (withFirst setup request).impl.commands.lookup 1 = some (Impl.newRecord request 1 1000) :=
  Impl.enqueueLocked_lookup request 1000 rfl

/-- Fill the three records of the crowded executor: an active motion, a command in flight and a
queued command. -/
def fillHistory : List Action :=
  Schedule.startMotion ++ Schedule.submit 0 (.plain .powerOff (firstLease 1000) "client" "off") ++
    [.worker .dequeue] ++
    Schedule.submit 0 (.plain .releaseControl (firstLease 1000) "client" "later")

def stopOfOther : CommandRequest := .plain .stop "" "other" "stop"

def historyFull : Impl.SubmitResult :=
  .refused ⟨.resourceExhausted, "command history is full of active records", 0⟩

theorem crowded_reachable : Reachable crowded (started crowded .standing 1000) :=
  .init (init_started (by decide) _ _)

/-- A Stop is admitted beside a queued command. -/
theorem stop_admitted_beside_ordinary : ∃ system, Reachable crowded system ∧
    ¬system.impl.OnlyStopsQueued ∧ ∃ after id,
      uninterrupted crowded (Schedule.submit 1 stopOfOther) system = some after ∧
      after.events = .submitReturned stopOfOther (.accepted id) :: system.events := by
  rcases exists_reachable_of_execute crowded_reachable
    (Schedule.acquire 0 "client" ++
      Schedule.submit 0 (.plain .releaseControl (firstLease 1000) "client" "later"))
    (fun system => system.impl.running && !system.impl.shuttingDown &&
      system.impl.latestState.connected && (system.clients 1).isIdle &&
      (system.impl.idempotency.lookup (idempotencyMapKey stopOfOther)).isNone &&
      system.impl.queue.any system.impl.isDisplaceable && decide (system.impl.unfinished < 3))
    (by decide) with ⟨system, reached, checked⟩
  simp only [Bool.and_eq_true, Bool.not_eq_true', Option.isNone_iff_eq_none,
    decide_eq_true_eq] at checked
  rcases checked with ⟨⟨⟨⟨⟨⟨running, accepting⟩, connected⟩, idles⟩, unused⟩, ordinary⟩, few⟩
  have notOnly : ¬system.impl.OnlyStopsQueued :=
    Impl.not_onlyStopsQueued_iff.mpr (by simpa using ordinary)
  have admitted := (stop_admitted_iff reached running accepting connected
    rfl rfl unused 1 .stored).1 (ClientPc.eq_idle_of_isIdle idles)
  exact ⟨system, reached, notOnly,
    admitted.mpr (Or.inr ⟨rfl, Nat.lt_of_lt_of_le few (Nat.le_add_right _ _)⟩) notOnly⟩

/-- A Stop is refused although an ordinary command is queued. -/
theorem stop_refused_beside_ordinary : ∃ system, Reachable crowded system ∧
    system.impl.running = true ∧ system.impl.shuttingDown = false ∧
    system.impl.latestState.connected = true ∧ system.clients 1 = .idle ∧
    system.impl.idempotency.lookup (idempotencyMapKey stopOfOther) = none ∧
    ¬system.impl.OnlyStopsQueued ∧
    ((uninterrupted crowded (Schedule.submit 1 stopOfOther) system).bind lastAnswer) =
      some (stopOfOther, historyFull) := by
  rcases exists_reachable_of_execute crowded_reachable fillHistory
    (fun system => system.impl.running && !system.impl.shuttingDown &&
      system.impl.latestState.connected && (system.clients 1).isIdle &&
      (system.impl.idempotency.lookup (idempotencyMapKey stopOfOther)).isNone &&
      system.impl.queue.any system.impl.isDisplaceable &&
      decide (((uninterrupted crowded (Schedule.submit 1 stopOfOther) system).bind lastAnswer) =
        some (stopOfOther, historyFull)))
    (by decide) with ⟨system, reached, checked⟩
  simp only [Bool.and_eq_true, Bool.not_eq_true', Option.isNone_iff_eq_none,
    decide_eq_true_eq] at checked
  rcases checked with ⟨⟨⟨⟨⟨⟨running, accepting⟩, connected⟩, idles⟩, unused⟩, ordinary⟩, refused⟩
  exact ⟨system, reached, running, accepting, connected, ClientPc.eq_idle_of_isIdle idles, unused,
    Impl.not_onlyStopsQueued_iff.mpr (by simpa using ordinary), refused⟩

/-! ### Refused submissions -/

/-- A final section that ends with an error leaves everything as it was unless it has got past the
checks and the queue, the history has no room, and a command has been displaced or a record has
ended; an error returned before the final section leaves everything as it was. -/
theorem refused_submission_unchanged_iff {setup : Setup} {system : System}
    (reached : Reachable setup system) (request : CommandRequest) (traversal : Traversal) :
    ((∀ status, (system.impl.submitLocked setup.options traversal request system.now).1 =
          .refused status →
        (system.impl.submitLocked setup.options traversal request system.now).2 = system.impl) ↔
      ¬(system.impl.PassesChecks request ∧ system.impl.FindsRoom setup.options request ∧
        setup.options.maximumCommandHistory + system.impl.displacedCount setup.options ≤
          system.impl.unfinished ∧
        (setup.options.maximumQueueSize ≤ system.impl.queue.length ∨
          ∃ id record, system.impl.commands.lookup id = some record ∧
            isTerminal record.state = true))) ∧
    ∀ {thread action after status}, (∀ traversal, action ≠ .submitCommit traversal) →
      step setup system (.client thread action) = some after →
      after.events = .submitReturned request (.refused status) :: system.events →
      after.impl = system.impl := by
  have positive : 0 < setup.options.maximumCommandHistory := by
    have accepted := ExecutorOptions.accepted_iff.mp reached.optionsAccepted
    exact lt_trans accepted.2.1 accepted.2.2
  have wellFormed := reached.owned.wellFormed
  constructor
  · by_cases gets : system.impl.PassesChecks request ∧
        system.impl.FindsRoom setup.options request
    swap
    · exact iff_of_true (fun _ _ => Impl.submitLocked_unchanged gets)
        fun wrong => gets ⟨wrong.1, wrong.2.1⟩
    rcases gets with ⟨passes, finds⟩
    rcases Impl.makeRoomLocked_isOk_iff.mpr finds with ⟨roomy, room⟩
    have full := Impl.pruned_full_iff positive traversal wellFormed room
    by_cases noSlot : setup.options.maximumCommandHistory +
        system.impl.displacedCount setup.options ≤ system.impl.unfinished
    · have refused : (system.impl.submitLocked setup.options traversal request system.now).1 =
          historyFull := by
        rw [Impl.submitLocked_of_room traversal passes room, if_pos (full.mpr noSlot)]
        rfl
      have unchanged : (system.impl.submitLocked setup.options traversal request system.now).2 =
          system.impl ↔ _ :=
        Impl.submitLocked_eq_self_iff positive traversal wellFormed passes finds noSlot
      rw [Impl.unfinished_eq_size_iff] at unchanged
      have meets : (∀ status, (system.impl.submitLocked setup.options traversal request
          system.now).1 = .refused status →
            (system.impl.submitLocked setup.options traversal request system.now).2 =
              system.impl) ↔
          (system.impl.submitLocked setup.options traversal request system.now).2 =
            system.impl :=
        ⟨fun kept => kept _ refused, fun same _ _ => same⟩
      rw [meets, unchanged]
      simp [passes, finds, noSlot]
    · refine iff_of_true ?_ fun wrong => noSlot wrong.2.2.1
      intro status refused
      rw [Impl.submitLocked_of_room traversal passes room,
        if_neg (mt full.mp noSlot)] at refused
      cases refused
  · intro thread action after status other taken returned
    cases clientStep_cases taken with
    | idles => rfl
    | moves | returns | readBegins | readReturns => rfl
    | cancels => simp [clientReturns, setClient] at returned
    | submits _ position =>
      cases action with
      | submitCommit traversal => exact absurd rfl (other traversal)
      | _ => simp [step, clientStep, position] at taken

/-- The refusal of a Stop by unfinished records alone changes nothing. -/
theorem refused_stop_unchanged : ∃ system, Reachable crowded system ∧
    (system.impl.submitLocked crowded.options .stored stopOfOther system.now).1 = historyFull ∧
    (system.impl.submitLocked crowded.options .stored stopOfOther system.now).2 =
      system.impl := by
  rcases exists_reachable_of_execute crowded_reachable fillHistory
    (fun system => decide (system.impl.queue.length < 2) &&
      decide (system.impl.unfinished = system.impl.commands.size) &&
      decide ((system.impl.submitLocked crowded.options .stored stopOfOther system.now).1 =
        historyFull))
    (by decide) with ⟨system, reached, checked⟩
  simp only [Bool.and_eq_true, decide_eq_true_eq] at checked
  rcases checked with ⟨⟨short, live⟩, refused⟩
  refine ⟨system, reached, refused,
    (refused_submission_unchanged_iff reached stopOfOther .stored).1.mpr ?_ _ refused⟩
  rintro ⟨_, _, _, long | ⟨id, record, found, terminal⟩⟩
  · exact absurd short (Nat.not_lt.mpr long)
  · simp [Impl.unfinished_eq_size_iff.mp live id record found] at terminal

/-- A Stop is refused after it has displaced a queued command and erased its record. -/
theorem refused_stop_displaces : ∃ system, Reachable crowded system ∧
    3 ∈ system.impl.queue ∧ (system.impl.commands.lookup 3).isSome = true ∧
    (system.impl.submitLocked crowded.options .stored stopOfOther system.now).1 = historyFull ∧
    3 ∉ (system.impl.submitLocked crowded.options .stored stopOfOther system.now).2.queue ∧
    (system.impl.submitLocked crowded.options .stored stopOfOther system.now).2.commands.lookup 3 =
      none := by
  rcases exists_reachable_of_execute crowded_reachable
    (fillHistory ++ [.advance 3000000000] ++
      Schedule.poll (.ok { RobotSnapshot.standing with moving := true }))
    (fun system => decide (3 ∈ system.impl.queue ∧
      (system.impl.commands.lookup 3).isSome = true ∧
      (system.impl.submitLocked crowded.options .stored stopOfOther system.now).1 = historyFull ∧
      3 ∉ (system.impl.submitLocked crowded.options .stored stopOfOther system.now).2.queue ∧
      (system.impl.submitLocked crowded.options .stored stopOfOther
        system.now).2.commands.lookup 3 = none))
    (by decide) with ⟨system, reached, checked⟩
  exact ⟨system, reached, of_decide_eq_true checked⟩

end System

end RobotManager
