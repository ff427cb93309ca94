import RobotManager.Control.Schedules
import RobotManager.Control.Threads

/-!
# Motion and the Stop of the shutdown

`Shutdown` calls the driver's Stop before it joins the worker.  A motion command that
the worker has already taken from the queue can still pass its validation and reach the
driver after that Stop.  Along runs without this no motion begins after the Stop, and
the motion that the shutdown records as stopped was dispatched before it.
-/

namespace RobotManager

/-- Whether the driver call of a request can set the robot in motion. -/
def CommandRequest.startsMotion (request : CommandRequest) : Bool :=
  match execute request with
  | .ok call => call.startsMotion
  | .error _ => false

/-- Whether the worker holds a validated motion-starting command whose call is still to come. -/
def WorkerPc.committed : WorkerPc → Bool
  | .validated record _ result | .ready record _ result =>
      result.ok && record.request.startsMotion
  | _ => false

namespace Event

/-- The Stop of the shutdown has returned OK. -/
def acknowledgesStop : Event → Bool
  | .shutdownStopReturned result => result.ok
  | _ => false

def isDisconnect : Event → Bool
  | .disconnected => true
  | _ => false

/-- The worker begins a call that can set the robot in motion. -/
def beginsMotion : Event → Bool
  | .callBegan _ call => call.startsMotion
  | _ => false

def beginsCall (id : ℕ) : Event → Bool
  | .callBegan other _ => other == id
  | _ => false

def beginsShutdownStop : Event → Bool
  | .shutdownStopBegan => true
  | _ => false

end Event

/-- Some motion-starting call began after the Stop of the shutdown had returned OK and before the
driver was disconnected. -/
def motionAfterStop : List Event → Bool
  | [] => false
  | event :: older =>
      event.beginsMotion && older.any Event.acknowledgesStop && !older.any Event.isDisconnect ||
        motionAfterStop older

/-- Some motion-starting call is newer than the beginning of the Stop of the shutdown. -/
def motionSinceStop : List Event → Bool
  | [] => false
  | event :: older =>
      !event.beginsShutdownStop && (event.beginsMotion || motionSinceStop older)

/-- The driver call of the command began before the Stop of the shutdown did. -/
def dispatchedBeforeStop (id : ℕ) : List Event → Bool
  | [] => false
  | event :: older =>
      if event.beginsShutdownStop then older.any (Event.beginsCall id)
      else dispatchedBeforeStop id older

theorem motionAfterStop_cons {event : Event} {older : List Event}
    (quiet : motionAfterStop older = false)
    (unacknowledged : event.beginsMotion = true → older.any Event.acknowledgesStop = false) :
    motionAfterStop (event :: older) = false := by
  cases begins : event.beginsMotion with
  | false => simp [motionAfterStop, begins, quiet]
  | true => simp [motionAfterStop, unacknowledged begins, quiet]

theorem motionSinceStop_cons {event : Event} {older : List Event}
    (calm : motionSinceStop older = false) (still : event.beginsMotion = false) :
    motionSinceStop (event :: older) = false := by
  simp [motionSinceStop, still, calm]

/-- A motion that is not newer than the Stop of the shutdown was dispatched before it. -/
theorem dispatchedBeforeStop_of_mem {id : ℕ} {call : DriverCall} {events : List Event}
    (began : events.any Event.beginsShutdownStop = true) (mem : .callBegan id call ∈ events)
    (starts : call.startsMotion = true) (calm : motionSinceStop events = false) :
    dispatchedBeforeStop id events = true := by
  induction events with
  | nil => cases mem
  | cons event older ih =>
      cases stop : event.beginsShutdownStop with
      | true =>
          simp only [dispatchedBeforeStop, stop, if_true, List.any_eq_true]
          rcases List.mem_cons.mp mem with rfl | mem
          · cases stop
          · exact ⟨_, mem, by simp [Event.beginsCall]⟩
      | false =>
          simp only [motionSinceStop, stop, Bool.not_false, Bool.true_and,
            Bool.or_eq_false_iff] at calm
          simp only [dispatchedBeforeStop, stop, Bool.false_eq_true, if_false]
          apply ih
          · simpa [stop] using began
          · rcases List.mem_cons.mp mem with rfl | mem
            · simp [Event.beginsMotion, starts] at calm
            · exact mem
          · exact calm.2

namespace Impl

/-- The last section of the shutdown stops a motion only after a Stop that returned OK. -/
theorem shutdownLocked_stopped {stopStatus : Status} {now : TimePoint} {impl : Impl} {id : ℕ}
    {old record : CommandRecord} (before : impl.commands.lookup id = some old)
    (unfinished : isTerminal old.state = false)
    (found : (impl.shutdownLocked stopStatus now).commands.lookup id = some record)
    (stopped : record.state = .stopped) :
    impl.activeMotionId = some id ∧ stopStatus.ok = true := by
  rcases shutdownLocked_lookup found with same | cancelled | ⟨isActive, state⟩
  · obtain rfl := Option.some.inj (same.symm.trans before)
    simp [stopped, isTerminal] at unfinished
  · cases stopped.symm.trans cancelled
  · refine ⟨isActive, ?_⟩
    by_contra notOk
    simp [stopped, notOk] at state

end Impl

namespace System

open TransitionSystem

/-- A step after which a motion-starting command has passed its validation and Shutdown's Stop
has returned OK, while the driver call of the command is still to come. -/
inductive CommitsAfterStop (setup : Setup) (system : System) : Action → Prop where
  | returns {result : Status} (position : system.shutdown = .stopping) (ok : result.ok = true)
      (committed : system.worker.committed = true) :
      CommitsAfterStop setup system (.shutdown (.stopReturns result))
  | validates {record : CommandRecord} {snapshot : RobotSnapshot} {jogActive : Bool}
      {sampled : TimePoint} {stage : ShutdownStage} {result : Status} {active : Option ℕ}
      (position : system.worker = .leaseSampled record snapshot jogActive sampled)
      (stopped : system.shutdown = .stopped stage result active) (ok : result.ok = true)
      (motion : record.request.startsMotion = true)
      (passes : (validate setup.policy record.request snapshot
        (system.leases.isValid record.request.leaseId record.request.clientId sampled)
        jogActive).ok = true) :
      CommitsAfterStop setup system (.worker .checkLease)

/-- No motion begins after the Stop of the shutdown has returned OK, and none is about to. -/
structure Halted (system : System) : Prop where
  unreturned : (∀ stage result active, system.shutdown ≠ .stopped stage result active) →
    system.shutdown ≠ .done → system.events.any Event.acknowledgesStop = false
  stopping : system.shutdown = .stopping →
    system.events.any Event.beginsShutdownStop = true ∧ motionSinceStop system.events = false
  refused : ∀ {stage result active}, system.shutdown = .stopped stage result active →
    result.ok = false → system.events.any Event.acknowledgesStop = false
  began : ∀ {stage result active}, system.shutdown = .stopped stage result active →
    system.events.any Event.beginsShutdownStop = true
  stopped : ∀ {stage result active}, system.shutdown = .stopped stage result active →
    result.ok = true → system.worker.committed = false ∧ motionSinceStop system.events = false
  quiet : motionAfterStop system.events = false

/-- Steps outside the shutdown that begin no motion and commit to none. -/
theorem Halted.keep {system after : System} (halted : Halted system)
    (shutdown : after.shutdown = system.shutdown)
    (events : after.events = system.events ∨ ∃ event, after.events = event :: system.events ∧
      event.beginsMotion = false ∧ event.acknowledgesStop = false)
    (committed : ∀ {stage result active}, system.shutdown = .stopped stage result active →
      result.ok = true → after.worker.committed = true → system.worker.committed = true) :
    Halted after := by
  have acknowledged : after.events.any Event.acknowledgesStop =
      system.events.any Event.acknowledgesStop := by
    rcases events with same | ⟨event, same, _, silent⟩ <;> simp [same]
    simp [silent]
  have began : system.events.any Event.beginsShutdownStop = true →
      after.events.any Event.beginsShutdownStop = true := by
    intro began
    rcases events with same | ⟨event, same, _⟩ <;> simp [same, began]
  have since : motionSinceStop system.events = false → motionSinceStop after.events = false := by
    intro calm
    rcases events with same | ⟨event, same, still, _⟩ <;> rw [same]
    · exact calm
    · exact motionSinceStop_cons calm still
  refine ⟨?_, ?_, ?_, ?_, ?_, ?_⟩
  · rw [shutdown, acknowledged]
    exact halted.unreturned
  · rw [shutdown]
    exact fun stopping => ⟨began (halted.stopping stopping).1, since (halted.stopping stopping).2⟩
  · rw [shutdown, acknowledged]
    exact halted.refused
  · rw [shutdown]
    exact fun stopped => began (halted.began stopped)
  · rw [shutdown]
    intro stage result active stopped ok
    rcases halted.stopped stopped ok with ⟨uncommitted, calm⟩
    refine ⟨?_, since calm⟩
    by_contra commits
    simp [committed stopped ok (by simpa using commits)] at uncommitted
  · rcases events with same | ⟨event, same, still, _⟩ <;> rw [same]
    · exact halted.quiet
    · exact motionAfterStop_cons halted.quiet (by simp [still])

theorem committed_programCheck {impl : Impl} {record : CommandRecord} {evidence : Evidence}
    {result : Status}
    (commits : (WorkerPc.ready record evidence (programCheck impl record.request result)).committed
      = true) : (WorkerPc.validated record evidence result).committed = true := by
  simp only [WorkerPc.committed, Bool.and_eq_true, programCheck] at commits ⊢
  refine ⟨?_, commits.2⟩
  have ok := commits.1
  split at ok
  · cases ok
  · exact ok

theorem startsMotion_eq {request : CommandRequest} {call : DriverCall}
    (executed : execute request = .ok call) : request.startsMotion = call.startsMotion := by
  simp [CommandRequest.startsMotion, executed]

theorem Halted.workerStep {setup : Setup} {system after : System} {action : WorkerAction}
    (halted : Halted system) (consistent : Consistent system)
    (spared : ¬CommitsAfterStop setup system (.worker action))
    (taken : step setup system (.worker action) = some after) : Halted after := by
  cases workerStep_cases taken with
  | exits => exact halted.keep rfl (.inl rfl) (by simp [WorkerPc.committed])
  | dequeues =>
      refine halted.keep rfl (.inl rfl) ?_
      intro _ _ _ _ _ commits
      generalize (system.impl.dequeueLocked system.now).2 = handed at commits
      cases handed <;> simp [WorkerPc.afterDequeue, WorkerPc.committed] at commits
  | copies | samples | refuses | lacksPayload | completes =>
      exact halted.keep rfl (.inl rfl) (by simp [WorkerPc.committed])
  | returns => exact halted.keep rfl (.inr ⟨_, rfl, rfl, rfl⟩) (by simp [WorkerPc.committed])
  | validates position seen =>
      refine halted.keep rfl (.inl rfl) ?_
      intro stage result active stopped ok commits
      simp only [WorkerPc.committed, Bool.and_eq_true] at commits
      subst seen
      exact absurd (.validates position stopped ok commits.2 commits.1) spared
  | checksProgram position =>
      refine halted.keep rfl (.inl rfl) ?_
      intro _ _ _ _ _ commits
      rw [position]
      exact committed_programCheck commits
  | @calls record evidence result call position ok free executed =>
      cases starts : call.startsMotion with
      | false => exact halted.keep rfl (.inr ⟨_, rfl, starts, rfl⟩) (by simp [WorkerPc.committed])
      | true =>
          have commits : system.worker.committed = true := by
            simp [position, WorkerPc.committed, ok, startsMotion_eq executed, starts]
          have unstopped : ∀ {stage result active},
              system.shutdown = .stopped stage result active → result.ok = false := by
            intro stage result active stopped
            by_contra acknowledged
            have uncommitted := (halted.stopped stopped (by simpa using acknowledged)).1
            simp [commits] at uncommitted
          have unfinished : system.shutdown ≠ .done := fun done => by
            cases position.symm.trans (consistent.done done)
          have unacknowledged : system.events.any Event.acknowledgesStop = false := by
            by_cases stopped : ∃ stage result active,
                system.shutdown = .stopped stage result active
            · rcases stopped with ⟨stage, result, active, stopped⟩
              exact halted.refused stopped (unstopped stopped)
            · push Not at stopped
              exact halted.unreturned stopped unfinished
          refine ⟨?_, ?_, ?_, ?_, ?_, ?_⟩
          · exact fun _ _ => by simpa [Event.acknowledgesStop] using unacknowledged
          · intro stopping
            cases free.symm.trans (consistent.shutdownHolds stopping)
          · exact fun _ _ => by simpa [Event.acknowledgesStop] using unacknowledged
          · exact fun stopped => by simp [halted.began stopped]
          · intro stage result active stopped acknowledged
            cases (unstopped stopped).symm.trans acknowledged
          · exact motionAfterStop_cons halted.quiet fun _ => unacknowledged

theorem Halted.shutdownStep {setup : Setup} {system after : System} {action : ShutdownAction}
    (halted : Halted system) (spared : ¬CommitsAfterStop setup system (.shutdown action))
    (taken : step setup system (.shutdown action) = some after) : Halted after := by
  cases shutdownStep_cases taken with
  | begins position =>
      refine ⟨?_, by simp, by simp, by simp, by simp, halted.quiet⟩
      exact fun _ _ => halted.unreturned (by simp [position]) (by simp [position])
  | stopBegins position =>
      have unreturned := halted.unreturned (by simp [position]) (by simp [position])
      refine ⟨?_, ?_, by simp, by simp, by simp, ?_⟩
      · exact fun _ _ => by simpa [Event.acknowledgesStop] using unreturned
      · exact fun _ => by simp [motionSinceStop, Event.beginsShutdownStop]
      · exact motionAfterStop_cons halted.quiet (by simp [Event.beginsMotion])
  | stopReturns position result =>
      have unreturned := halted.unreturned (by simp [position]) (by simp [position])
      refine ⟨?_, by simp, ?_, ?_, ?_, ?_⟩
      · exact fun unstopped _ => absurd rfl (unstopped _ _ _)
      · rintro stage result active ⟨⟩ notOk
        simpa [Event.acknowledgesStop, notOk] using unreturned
      · exact fun _ => by simp [(halted.stopping position).1]
      · rintro stage result active ⟨⟩ ok
        refine ⟨?_, motionSinceStop_cons (halted.stopping position).2 rfl⟩
        by_contra commits
        exact spared (.returns position ok (by simpa using commits))
      · exact motionAfterStop_cons halted.quiet (by simp [Event.beginsMotion])
  | joinsWorker position | joinsPoll position =>
      refine ⟨?_, by simp, ?_, ?_, ?_, halted.quiet⟩
      · exact fun unstopped _ => absurd rfl (unstopped _ _ _)
      all_goals
        rintro stage result active ⟨⟩
      · exact halted.refused position
      · exact halted.began position
      · exact halted.stopped position
  | disconnects position =>
      refine ⟨?_, by simp, ?_, ?_, ?_,
        motionAfterStop_cons halted.quiet (by simp [Event.beginsMotion])⟩
      · exact fun unstopped _ => absurd rfl (unstopped _ _ _)
      all_goals
        rintro stage result active ⟨⟩
      · exact fun notOk => by simpa [Event.acknowledgesStop] using halted.refused position notOk
      · simp [halted.began position]
      · exact fun ok => ⟨(halted.stopped position ok).1,
          motionSinceStop_cons (halted.stopped position ok).2 rfl⟩
  | finishes position =>
      exact ⟨fun _ unfinished => absurd rfl unfinished, by simp, by simp, by simp, by simp,
        halted.quiet⟩

theorem Halted.clientStep {setup : Setup} {system after : System} {thread : ℕ}
    {action : ClientAction} (halted : Halted system)
    (taken : step setup system (.client thread action) = some after) : Halted after := by
  cases clientStep_cases taken with
  | idles | moves | readBegins | readReturns => exact halted.keep rfl (.inl rfl) (fun _ _ => id)
  | returns event leases quiet =>
      refine halted.keep rfl (.inr ⟨_, rfl, ?_, ?_⟩) (fun _ _ => id) <;>
        cases event <;> first | rfl | cases quiet
  | cancels | submits => exact halted.keep rfl (.inr ⟨_, rfl, rfl, rfl⟩) (fun _ _ => id)

theorem ReachableUnder.halted {setup : Setup} {system : System}
    (reached : ReachableUnder setup (fun system action => ¬CommitsAfterStop setup system action)
      system) : Halted system := by
  refine reached.invariant Halted ?_ ?_
  · intro system initial
    rcases init_cases initial with ⟨_, snapshot, now, rfl⟩
    refine ⟨?_, ?_, ?_, ?_, ?_, ?_⟩ <;> simp [started, motionAfterStop]
  intro system action after reached halted spared taken
  cases action with
  | advance nanoseconds =>
      cases taken
      exact halted.keep rfl (.inl rfl) (fun _ _ => id)
  | worker action =>
      exact halted.workerStep (Reachable.consistent reached.reachable) spared taken
  | poll action =>
      cases pollStep_cases taken with
      | checks | skips | readReturns | exits | wakes =>
          exact halted.keep rfl (.inl rfl) (fun _ _ => id)
      | readBegins => exact halted.keep rfl (.inr ⟨_, rfl, rfl, rfl⟩) (fun _ _ => id)
      | publishes =>
          refine halted.keep rfl ?_ (fun _ _ => id)
          rcases seenEvents_cases system.impl _ with none | ⟨active, seen⟩
          · exact .inl (by rw [none, List.nil_append])
          · exact .inr ⟨_, by rw [seen]; rfl, rfl, rfl⟩
  | client thread action => exact halted.clientStep taken
  | shutdown action => exact halted.shutdownStep spared taken

/-- Along every run in which no motion-starting command is validated and still to be called when
the Stop of the shutdown has returned OK, no motion begins between that return and the
disconnection, and the motion the shutdown records as stopped was dispatched before that Stop. -/
theorem no_motion_after_shutdown_stop {setup : Setup} {system : System}
    (reached : ReachableUnder setup (fun system action => ¬CommitsAfterStop setup system action)
      system) :
    motionAfterStop system.events = false ∧
    ∀ after id old record, step setup system (.shutdown .finish) = some after →
      system.impl.commands.lookup id = some old → isTerminal old.state = false →
      after.impl.commands.lookup id = some record → record.state = .stopped →
      dispatchedBeforeStop id system.events = true := by
  have halted := reached.halted
  have consistent := Reachable.consistent reached.reachable
  refine ⟨halted.quiet, ?_⟩
  intro after id old record taken before unfinished found stopped
  cases shutdownStep_cases taken with
  | finishes position =>
      rcases Impl.shutdownLocked_stopped before unfinished found stopped with ⟨isActive, ok⟩
      rcases consistent.dispatched isActive with ⟨call, _, began, _, starts⟩
      exact dispatchedBeforeStop_of_mem (halted.began position) began starts
        (halted.stopped position ok).2

/-- The worker has validated a motion when the shutdown's Stop returns OK: the driver call begins
afterwards, and the shutdown still records the motion as stopped. -/
theorem motion_begins_after_shutdown_stop : ∃ system, Reachable .moving system ∧
    motionAfterStop system.events = true ∧
    (system.impl.commands.lookup 1).map CommandRecord.state = some .stopped ∧
    dispatchedBeforeStop 1 system.events = false := by
  rcases exists_reachable_of_execute ready_reachable
    (Schedule.acquire 0 "client" ++
      Schedule.submit 0 (.move (firstLease 1000) "client" "motion") ++ Schedule.prepare ++
      Schedule.stopForShutdown Status.Ok ++ Schedule.call (.returned Status.Ok) ++
      [.worker .complete] ++ Schedule.disconnect ++ [.shutdown .finish])
    (fun system => motionAfterStop system.events = true ∧
      (system.impl.commands.lookup 1).map CommandRecord.state = some .stopped ∧
      dispatchedBeforeStop 1 system.events = false)
    (by decide) with ⟨system, reached, checked⟩
  exact ⟨system, reached, of_decide_eq_true checked⟩

/-- A shutdown that finds a motion active. -/
theorem no_motion_after_shutdown_stop_active : ∃ system after,
    ReachableUnder .moving (fun system action => ¬CommitsAfterStop .moving system action) system ∧
    step .moving system (.shutdown .finish) = some after ∧
    (after.impl.commands.lookup 1).map CommandRecord.state = some .stopped ∧
    motionAfterStop system.events = false ∧ dispatchedBeforeStop 1 system.events = true := by
  have start : ReachableUnder .moving
      (fun system action => ¬CommitsAfterStop .moving system action) ready := ready_reachable
  -- The worker handles no command while the shutdown is underway.
  have sound : ∀ (system : System) (action : Action),
      (decide (system.shutdown = .idle) || system.worker.inFlight.isNone) = true →
      ¬CommitsAfterStop .moving system action := by
    rintro system action checked (⟨stopping, _, committed⟩ | ⟨position, stopped⟩)
    · generalize system.worker = worker at checked committed
      cases worker <;> simp [stopping, WorkerPc.inFlight, WorkerPc.committed] at checked committed
    · simp [position, stopped, WorkerPc.inFlight] at checked
  rcases exists_reachableUnder_of_execute start _ sound
    (Schedule.startMotion ++ Schedule.stopForShutdown Status.Ok ++ Schedule.disconnect)
    (fun system => (system.impl.commands.lookup 1).map CommandRecord.state = some .running ∧
      (step .moving system (.shutdown .finish)).any fun after =>
        (after.impl.commands.lookup 1).map CommandRecord.state = some .stopped)
    (by decide) with ⟨system, reached, checked⟩
  rcases of_decide_eq_true checked with ⟨running, finishes⟩
  rcases (Option.any_eq_true _ _).mp finishes with ⟨after, taken, holds⟩
  have stopped := of_decide_eq_true holds
  rcases Option.map_eq_some_iff.mp running with ⟨old, before, oldRunning⟩
  rcases Option.map_eq_some_iff.mp stopped with ⟨record, found, recordStopped⟩
  rcases no_motion_after_shutdown_stop reached with ⟨quiet, dispatched⟩
  exact ⟨system, after, reached, taken, stopped, quiet, dispatched after 1 old record taken before
    (by simp [oldRunning, isTerminal]) found recordStopped⟩

end System

end RobotManager
