import RobotManager.Control.MotionOutcome

/-!
# The readings a success rests on

The poll thread reads the robot under `driver_mutex_` and publishes the reading later
under `mutex_`.  The history tells whether a reading began after the active motion's
own driver call had returned; a run in which only such readings are counted decides
every success on them.
-/

namespace RobotManager

/-! ### Readings in the history -/

/-- Whether an event is the return of the command's own driver call. -/
def Event.returnsCall (id : ℕ) : Event → Bool
  | .callReturned other _ _ => other == id
  | _ => false

/-- Whether the latest reading of the poll thread began after the command's driver call had
returned. -/
def readAfterReturn (id : ℕ) : List Event → Bool
  | [] => false
  | .readBegan :: older => older.any (Event.returnsCall id)
  | _ :: older => readAfterReturn id older

/-- Whether the reading that set `active_motion_seen_` for the command began after its driver call
had returned. -/
def seenAfterReturn (id : ℕ) : List Event → Bool
  | [] => false
  | .motionSeen other :: older =>
      if other = id then readAfterReturn id older else seenAfterReturn id older
  | _ :: older => seenAfterReturn id older

theorem seenAfterReturn_cons {id : ℕ} {event : Event} (events : List Event)
    (other : ∀ active, event ≠ .motionSeen active) :
    seenAfterReturn id (event :: events) = seenAfterReturn id events := by
  cases event with
  | motionSeen active => exact absurd rfl (other active)
  | _ => rfl

theorem returned_of_readAfterReturn {id : ℕ} {events : List Event}
    (fresh : readAfterReturn id events = true) : events.any (Event.returnsCall id) = true := by
  induction events with
  | nil => cases fresh
  | cons event older ih =>
      rw [List.any_cons, Bool.or_eq_true]
      right
      cases event with
      | readBegan => exact fresh
      | _ => exact ih fresh

/-- Once a reading has begun after the call's return, so has every later one. -/
theorem readAfterReturn_cons {id : ℕ} (event : Event) {events : List Event}
    (fresh : readAfterReturn id events = true) : readAfterReturn id (event :: events) = true := by
  cases event with
  | readBegan => exact returned_of_readAfterReturn fresh
  | _ => exact fresh

theorem readAfterReturn_of_seen {id : ℕ} {events : List Event}
    (seen : seenAfterReturn id events = true) : readAfterReturn id events = true := by
  induction events with
  | nil => cases seen
  | cons event older ih =>
      refine readAfterReturn_cons event ?_
      cases event with
      | motionSeen other =>
          simp only [seenAfterReturn] at seen
          split at seen
          · exact seen
          · exact ih seen
      | _ => exact ih seen

namespace Impl

/-! ### Which sections set `active_motion_seen_` -/

/-- Whether `UpdateActiveMotionLocked` would set `active_motion_seen_`. -/
def marksMotionSeen (now : TimePoint) (impl : Impl) : Bool :=
  match impl.activeMotionId.bind impl.commands.lookup with
  | none => false
  | some command =>
      !command.expired now && !unsafeLifecycle impl.latestState.lifecycle &&
        !impl.latestState.paused && showsMotion command.request.type impl.latestState &&
        !impl.activeMotionSeen

/-- Whether publishing a poll's result sets `active_motion_seen_`. -/
def readingMarksSeen (options : ExecutorOptions) (state : StatusOr RobotSnapshot)
    (now : TimePoint) (impl : Impl) : Bool :=
  (impl.publishState options state now).2 &&
    (impl.publishState options state now).1.marksMotionSeen now

theorem updateActiveMotionLocked_of_marks {options : ExecutorOptions} {now : TimePoint}
    {impl : Impl} (marks : impl.marksMotionSeen now = true) :
    impl.updateActiveMotionLocked options now = { impl with activeMotionSeen := true } := by
  unfold marksMotionSeen at marks
  split at marks
  · cases marks
  next command tracked =>
  rcases Option.bind_eq_some_iff.mp tracked with ⟨active, isActive, found⟩
  simp only [Bool.and_eq_true, Bool.not_eq_true', showsMotion] at marks
  rcases marks with ⟨⟨⟨⟨live, safe⟩, unpaused⟩, shown⟩, _⟩
  simp only [updateActiveMotionLocked, isActive, found, live, safe, unpaused, Bool.false_eq_true,
    if_false]
  split
  · next program =>
    rw [if_pos program] at shown
    simp [shown]
  · next program =>
    rw [if_neg program] at shown
    simp [shown]

@[simp]
theorem publishState_activeMotionSeen (options : ExecutorOptions) (state : StatusOr RobotSnapshot)
    (now : TimePoint) (impl : Impl) :
    (impl.publishState options state now).1.activeMotionSeen = impl.activeMotionSeen := by
  unfold publishState
  split
  · rfl
  · split <;> rfl

@[simp]
theorem dequeueLocked_activeMotionSeen (now : TimePoint) (impl : Impl) :
    (impl.dequeueLocked now).1.activeMotionSeen = impl.activeMotionSeen := by
  have dequeue := impl.dequeueLocked_cases now
  generalize (impl.dequeueLocked now).1 = after at dequeue ⊢
  generalize (impl.dequeueLocked now).2 = handed at dequeue
  cases dequeue <;> rfl

theorem releaseLocked_activeMotionSeen (leaseId clientId : String) (now : TimePoint)
    (impl : Impl) :
    (impl.releaseLocked leaseId clientId now).activeMotionSeen = impl.activeMotionSeen := by
  rcases impl.releaseLocked_cases leaseId clientId now with same | same <;> rw [same]
  · rfl
  · simp [cancelQueuedCommandsForLeaseLocked]

theorem MotionUpdate.activeMotionSeen {options : ExecutorOptions} {now : TimePoint}
    {impl after : Impl} (update : MotionUpdate options now impl after)
    (seen : after.activeMotionSeen = true) :
    impl.activeMotionSeen = true ∨ impl.marksMotionSeen now = true := by
  cases update with
  | unchanged | vanished => exact Or.inl seen
  | timedOut => exact Or.inl (by simpa using seen)
  | failed | finished => cases seen
  | seen isActive found live safe unpaused shown =>
      cases already : impl.activeMotionSeen with
      | true => exact Or.inl rfl
      | false =>
          right
          simp [marksMotionSeen, isActive, found, live, safe, unpaused, shown, already]

theorem publishLocked_activeMotionSeen {options : ExecutorOptions} {leases : ControlLeaseManager}
    {state : StatusOr RobotSnapshot} {now : TimePoint} {impl : Impl}
    (seen : (impl.publishLocked options leases state now).activeMotionSeen = true) :
    impl.activeMotionSeen = true ∨ impl.readingMarksSeen options state now = true := by
  rcases impl.publishLocked_cases options leases state now with ⟨updated, update, skipped, same⟩
  have updatedSeen : updated.activeMotionSeen = true := by
    rw [same] at seen
    rcases updated.checkLeasesLocked_cases leases now with ⟨_, same⟩ | ⟨reason, same⟩
    · rwa [same] at seen
    · simpa [same] using seen
  cases updates : (impl.publishState options state now).2 with
  | false =>
      left
      rw [skipped updates, publishState_activeMotionSeen] at updatedSeen
      exact updatedSeen
  | true =>
      rcases update.activeMotionSeen updatedSeen with already | marks
      · exact Or.inl (by simpa using already)
      · exact Or.inr (by simp [readingMarksSeen, updates, marks])

/-- A reading that shows the active motion for the first time sets the flag. -/
theorem publishLocked_of_marks {options : ExecutorOptions} (leases : ControlLeaseManager)
    {state : StatusOr RobotSnapshot} {now : TimePoint} {impl : Impl}
    (marks : impl.readingMarksSeen options state now = true) :
    (impl.publishLocked options leases state now).activeMotionId = impl.activeMotionId ∧
      (impl.publishLocked options leases state now).activeMotionSeen = true := by
  simp only [readingMarksSeen, Bool.and_eq_true] at marks
  unfold publishLocked
  simp only [marks.1, if_true]
  rw [updateActiveMotionLocked_of_marks marks.2]
  rcases checkLeasesLocked_cases leases now
    { (impl.publishState options state now).1 with activeMotionSeen := true } with
    ⟨_, same⟩ | ⟨reason, same⟩ <;> rw [same]
  · exact ⟨publishState_activeMotionId options state now impl, rfl⟩
  · simp

/-- A poll that failed publishes an unknown state or nothing. -/
theorem publishState_ok_of_safe {options : ExecutorOptions} {state : StatusOr RobotSnapshot}
    {now : TimePoint} {impl : Impl} (updates : (impl.publishState options state now).2 = true)
    (safe : unsafeLifecycle (impl.publishState options state now).1.latestState.lifecycle = false) :
    ∃ snapshot, state = .ok snapshot := by
  cases state with
  | ok snapshot => exact ⟨snapshot, rfl⟩
  | error status =>
      exfalso
      simp only [publishState] at updates safe
      by_cases stale : impl.latestState.observedAt = 0 ∨ now < impl.latestState.observedAt ∨
          elapsedAtLeast now impl.latestState.observedAt options.stateStaleAfter = true
      · rw [if_pos stale] at safe
        cases safe
      · rw [if_neg stale] at updates
        cases updates

/-- Only a reading of the robot can end the active motion: after the start grace, or once the motion
has been seen. -/
theorem readingFinishes_due {options : ExecutorOptions} {state : StatusOr RobotSnapshot}
    {now : TimePoint} {impl : Impl} (finishes : impl.readingFinishes options state now = true) :
    ∃ snapshot, state = .ok snapshot ∧ (impl.activeMotionSeen = true ∨
      elapsedAtLeast now impl.activeMotionStartedAt options.motionStartGrace = true) := by
  simp only [readingFinishes, Bool.and_eq_true] at finishes
  rcases finishes with ⟨updates, finishes⟩
  unfold finishesMotion at finishes
  split at finishes
  · cases finishes
  simp only [Bool.and_eq_true, Bool.or_eq_true, Bool.not_eq_true'] at finishes
  rcases finishes with ⟨⟨⟨⟨_, safe⟩, _⟩, _⟩, due⟩
  rcases publishState_ok_of_safe updates safe with ⟨snapshot, rfl⟩
  exact ⟨snapshot, rfl, due⟩

theorem readingMarksSeen_shows {options : ExecutorOptions} {state : StatusOr RobotSnapshot}
    {now : TimePoint} {impl : Impl} {id : ℕ} (isActive : impl.activeMotionId = some id)
    (marks : impl.readingMarksSeen options state now = true) :
    ∃ snapshot record, state = .ok snapshot ∧ impl.commands.lookup id = some record ∧
      showsMotion record.request.type snapshot = true := by
  simp only [readingMarksSeen, Bool.and_eq_true] at marks
  rcases marks with ⟨updates, marks⟩
  unfold marksMotionSeen at marks
  split at marks
  · cases marks
  next command tracked =>
  simp only [Bool.and_eq_true, Bool.not_eq_true'] at marks
  rcases marks with ⟨⟨⟨⟨_, safe⟩, _⟩, shows⟩, _⟩
  rcases publishState_ok_of_safe updates safe with ⟨snapshot, rfl⟩
  simp only [publishState, isActive, Option.bind_some] at tracked
  exact ⟨snapshot, command, rfl, tracked, shows⟩

section Readings

variable {options : ExecutorOptions} {snapshot : RobotSnapshot} {now : TimePoint} {impl : Impl}
  {id : ℕ} {record : CommandRecord} (isActive : impl.activeMotionId = some id)
  (found : impl.commands.lookup id = some record) (live : record.expired now = false)
  (safe : unsafeLifecycle (deriveLifecycleState snapshot) = false)
  (unpaused : snapshot.paused = false)
include isActive found live safe unpaused

/-- A robot standing still ends the motion once the start grace is over. -/
theorem readingFinishes_of_over (idle : showsMotion record.request.type snapshot = false)
    (elapsed : elapsedAtLeast now impl.activeMotionStartedAt options.motionStartGrace = true) :
    impl.readingFinishes options (.ok snapshot) now = true := by
  simp only [readingFinishes, publishState, finishesMotion, isActive, Option.bind_some, found,
    Bool.and_eq_true, Bool.not_eq_true', Bool.or_eq_true, true_and]
  exact ⟨⟨⟨⟨live, safe⟩, unpaused⟩, idle⟩, Or.inr elapsed⟩

/-- A robot in motion sets the flag. -/
theorem readingMarksSeen_of_shows (shows : showsMotion record.request.type snapshot = true)
    (unseen : impl.activeMotionSeen = false) :
    impl.readingMarksSeen options (.ok snapshot) now = true := by
  simp only [readingMarksSeen, publishState, marksMotionSeen, isActive, Option.bind_some, found,
    Bool.and_eq_true, Bool.not_eq_true', true_and]
  exact ⟨⟨⟨⟨live, safe⟩, unpaused⟩, shows⟩, unseen⟩

end Readings

/-- The flag and the active motion survive a completion together or not at all. -/
theorem OrdinaryCompletion.activeMotionSeen {options : ExecutorOptions} {now : TimePoint}
    {flight : CommandRecord} {impl after : Impl}
    (completion : OrdinaryCompletion options now flight impl after)
    (seen : after.activeMotionSeen = true) : impl.activeMotionSeen = true := by
  cases completion with
  | plain | loaded | jogStarted | jogEnded => exact seen
  | jogStartedWithoutLease => simpa using seen
  | stopped =>
      have seen : (impl.completeActiveMotionLocked .stopped now).activeMotionSeen = true := seen
      unfold completeActiveMotionLocked at seen
      split at seen
      · exact seen
      · cases seen
  | programStopped =>
      have seen : (impl.completeActiveProgramLocked now).activeMotionSeen = true := seen
      unfold completeActiveProgramLocked completeActiveMotionLocked at seen
      split at seen
      · exact seen
      split at seen
      · exact seen
      split at seen
      · exact seen
      · cases seen

theorem Completion.activeMotionSeen {options : ExecutorOptions} {leases : ControlLeaseManager}
    {now : TimePoint} {flight : CommandRecord} {result : Status} {impl after : Impl}
    (completion : Completion options leases now flight result impl after) {id : ℕ}
    (isActive : after.activeMotionId = some id) (seen : after.activeMotionSeen = true) :
    impl.activeMotionId = some id ∧ impl.activeMotionSeen = true := by
  cases completion with
  | missing | failed => exact ⟨isActive, seen⟩
  | superseded => exact ⟨by simpa [finished] using isActive, by simpa [finished] using seen⟩
  | activated => cases seen
  | activatedWithoutLease => simp [Impl.activated] at seen
  | ordinary =>
      have ordinary := completeOrdinaryLocked_cases options leases now flight
        (impl.finished flight .succeeded result now)
      exact ⟨ordinary.activeMotionId isActive, ordinary.activeMotionSeen seen⟩

end Impl

namespace System

open TransitionSystem

/-- The flag is set for the motion that is active after a step only if it was before, or if the
poll thread has just published a reading that shows the motion. -/
theorem Effect.activeMotionSeen {setup : Setup} {system : System} {action : Action}
    {impl : Impl} {next : Option CommandRecord} (effect : Effect setup system action impl next)
    {id : ℕ} (isActive : impl.activeMotionId = some id) (seen : impl.activeMotionSeen = true) :
    system.impl.activeMotionId = some id ∧ (system.impl.activeMotionSeen = true ∨
      (action = .poll .publish ∧ ∃ state, system.poll = .read state ∧
        system.impl.readingMarksSeen setup.options state system.now = true)) := by
  cases effect with
  | unchanged | flagged => exact ⟨isActive, Or.inl seen⟩
  | dequeued => exact ⟨by simpa using isActive, Or.inl (by simpa using seen)⟩
  | completed =>
      rcases (Impl.completeLocked_cases _ _ _ _ _ _).activeMotionSeen isActive seen with
        ⟨before, seenBefore⟩
      exact ⟨before, Or.inl seenBefore⟩
  | @published state position =>
      refine ⟨Impl.publishLocked_activeMotionId isActive, ?_⟩
      refine (Impl.publishLocked_activeMotionSeen seen).imp_right fun marks => ?_
      exact ⟨rfl, state, position, marks⟩
  | submitted traversal =>
      rcases Impl.submitLocked_eq setup.options traversal _ system.now system.impl with
        ⟨_, _, _, _, eq⟩
      rw [eq] at isActive seen
      exact ⟨isActive, Or.inl seen⟩
  | released =>
      rw [Impl.releaseLocked_activeMotionId] at isActive
      rw [Impl.releaseLocked_activeMotionSeen] at seen
      exact ⟨isActive, Or.inl seen⟩
  | settled => cases (Impl.shutdownLocked_activeMotionId _ _ _).symm.trans isActive

theorem seenEvents_of_set {before after : Impl} {id : ℕ} (isActive : after.activeMotionId = some id)
    (seen : after.activeMotionSeen = true) (unseen : before.activeMotionSeen = false) :
    seenEvents before after = [.motionSeen id] := by
  simp [seenEvents, isActive, seen, unseen]

theorem seenEvents_of_already {before after : Impl} (already : before.activeMotionSeen = true) :
    seenEvents before after = [] := by
  unfold seenEvents
  split <;> simp [already]

/-- The history's account of the flag changes only when the flag is set. -/
theorem step_seenAfterReturn {setup : Setup} {system after : System} {action : Action} {id : ℕ}
    (taken : step setup system action = some after)
    (already : action = .poll .publish → system.impl.activeMotionSeen = true) :
    seenAfterReturn id after.events = seenAfterReturn id system.events := by
  have other : ∀ {event}, (∀ active, event ≠ .motionSeen active) →
      seenAfterReturn id (event :: system.events) = seenAfterReturn id system.events :=
    fun other => seenAfterReturn_cons system.events other
  cases action with
  | advance =>
      cases taken
      rfl
  | worker action => cases workerStep_cases taken <;> rfl
  | poll action =>
      cases pollStep_cases taken with
      | publishes =>
          dsimp only
          rw [seenEvents_of_already (already rfl), List.nil_append]
      | checks | skips | readBegins | readReturns | exits | wakes => rfl
  | client thread action =>
      cases clientStep_cases taken with
      | idles | moves | readBegins | readReturns => rfl
      | cancels | submits => exact other (by simp)
      | returns event leases quiet =>
          apply other
          rintro active rfl
          cases quiet
  | shutdown action => cases shutdownStep_cases taken <;> rfl

/-- The poll thread publishes a reading that it began before the active motion's own driver call had
returned, and the start grace of the motion is over or the reading shows the motion. -/
inductive PublishesEarlyReading (setup : Setup) (system : System) : Action → Prop where
  | publish {snapshot : RobotSnapshot} {id : ℕ} {record : CommandRecord}
      (position : system.poll = .read (.ok snapshot))
      (isActive : system.impl.activeMotionId = some id)
      (found : system.impl.commands.lookup id = some record)
      (early : readAfterReturn id system.events = false)
      (counts : elapsedAtLeast system.now system.impl.activeMotionStartedAt
          setup.options.motionStartGrace = true ∨
        Impl.showsMotion record.request.type snapshot = true) :
      PublishesEarlyReading setup system (.poll .publish)

/-- If the flag is set, the reading that set it began after the active motion's call returned. -/
def SeenFresh (system : System) : Prop :=
  ∀ id, system.impl.activeMotionId = some id → system.impl.activeMotionSeen = true →
    seenAfterReturn id system.events = true

theorem SeenFresh.keep {setup : Setup} {system after : System} {action : Action}
    (fresh : SeenFresh system) (spared : ¬PublishesEarlyReading setup system action)
    (taken : step setup system action = some after) : SeenFresh after := by
  intro id isActive seen
  rcases (step_effect taken).activeMotionSeen isActive seen with ⟨before, already | marked⟩
  · rw [step_seenAfterReturn taken fun _ => already]
    exact fresh id before already
  rcases marked with ⟨rfl, state, position, marks⟩
  cases unseen : system.impl.activeMotionSeen with
  | true =>
      rw [step_seenAfterReturn taken fun _ => unseen]
      exact fresh id before unseen
  | false =>
      have readFresh : readAfterReturn id system.events = true := by
        rcases Impl.readingMarksSeen_shows before marks with ⟨snapshot, record, rfl, found, shows⟩
        by_contra early
        exact spared (.publish position before found (by simpa using early) (Or.inr shows))
      cases pollStep_cases taken with
      | publishes =>
          dsimp only at isActive seen ⊢
          rw [seenEvents_of_set isActive seen unseen]
          simpa [seenAfterReturn] using readFresh

theorem ReachableUnder.seenFresh {setup : Setup} {system : System}
    (reached : ReachableUnder setup
      (fun system action => ¬PublishesEarlyReading setup system action) system) :
    SeenFresh system := by
  refine reached.invariant SeenFresh ?_ ?_
  · intro system initial
    rcases init_cases initial with ⟨_, snapshot, now, rfl⟩
    intro id isActive
    cases isActive
  · intro system action after _ fresh spared taken
    exact fresh.keep spared taken

/-- A reading that ends the active motion began after the motion's own driver call had returned. -/
theorem readAfterReturn_of_finishes {setup : Setup} {system : System} {id : ℕ}
    {record : CommandRecord} {state : StatusOr RobotSnapshot} (fresh : SeenFresh system)
    (spared : ¬PublishesEarlyReading setup system (.poll .publish))
    (position : system.poll = .read state) (isActive : system.impl.activeMotionId = some id)
    (found : system.impl.commands.lookup id = some record)
    (finishes : system.impl.readingFinishes setup.options state system.now = true) :
    readAfterReturn id system.events = true := by
  rcases Impl.readingFinishes_due finishes with ⟨snapshot, rfl, seen | elapsed⟩
  · -- the poll thread publishes one reading before it begins the next
    exact readAfterReturn_of_seen (fresh id isActive seen)
  · by_contra early
    exact spared (.publish position isActive found (by simpa using early) (Or.inl elapsed))

/-- Along every run in which the poll thread publishes no reading that it began before the active
motion's own driver call had returned, except within the start grace and without the motion
showing, a motion that the poll thread marks as succeeded was seen idle, and seen moving if that
was needed, by readings that began after its call had returned.  An early reading that is
published otherwise, while the robot is neither paused nor in an unsafe state, marks the
unfinished motion as succeeded or sets the flag. -/
theorem success_rests_on_fresh_readings {setup : Setup} {system : System}
    (reached : ReachableUnder setup
      (fun system action => ¬PublishesEarlyReading setup system action) system) :
    (∀ after id old record, ¬PublishesEarlyReading setup system (.poll .publish) →
      step setup system (.poll .publish) = some after →
      system.impl.commands.lookup id = some old → isTerminal old.state = false →
      after.impl.commands.lookup id = some record → record.state = .succeeded →
      readAfterReturn id system.events = true ∧
        (system.impl.activeMotionSeen = true → seenAfterReturn id system.events = true)) ∧
    ∀ after snapshot id record, PublishesEarlyReading setup system (.poll .publish) →
      step setup system (.poll .publish) = some after →
      system.poll = .read (.ok snapshot) → snapshot.paused = false →
      Impl.unsafeLifecycle (deriveLifecycleState snapshot) = false →
      system.impl.activeMotionId = some id → system.impl.commands.lookup id = some record →
      isTerminal record.state = false → record.expired system.now = false →
      readAfterReturn id system.events = false ∧
        ((∃ ended, after.impl.commands.lookup id = some ended ∧ ended.state = .succeeded) ∨
          (after.impl.activeMotionId = some id ∧ after.impl.activeMotionSeen = true ∧
            seenAfterReturn id after.events = false)) := by
  have whole : Reachable setup system := reached.reachable
  constructor
  · intro after id old record spared taken before unfinished found succeeded
    rcases (step_effect taken).succeeded whole.owned before unfinished found succeeded with
      ⟨flight, flying, same⟩ | ⟨_, state, position, isActive, finishes⟩
    · -- the publish section leaves the command in flight alone
      exfalso
      have owned := whole.owned
      cases pollStep_cases taken with
      | publishes =>
          have isActive := (Impl.publishLocked_succeeded before unfinished found succeeded).1
          rw [flying] at owned
          exact owned.active_ne_flight (same ▸ isActive)
    · exact ⟨readAfterReturn_of_finishes reached.seenFresh spared position isActive before finishes,
        reached.seenFresh id isActive⟩
  · intro after snapshot id record publishes taken position unpaused safe isActive found unfinished
      live
    cases publishes with
    | publish held active stored early counts =>
        cases position.symm.trans held
        cases isActive.symm.trans active
        cases found.symm.trans stored
        have unseen : system.impl.activeMotionSeen = false := by
          by_contra seen
          have fresh := reached.seenFresh id isActive (by simpa using seen)
          rw [readAfterReturn_of_seen fresh] at early
          cases early
        refine ⟨early, ?_⟩
        cases pollStep_cases taken with
        | publishes other =>
        cases position.symm.trans other
        cases shows : Impl.showsMotion record.request.type snapshot with
        | false =>
            left
            have elapsed := counts.resolve_right (by simp [shows])
            exact Impl.publishLocked_of_finishes system.leases isActive found unfinished
              (Impl.readingFinishes_of_over isActive found live safe unpaused shows elapsed)
        | true =>
            right
            have marks : system.impl.readingMarksSeen setup.options (.ok snapshot) system.now =
                true :=
              Impl.readingMarksSeen_of_shows isActive found live safe unpaused shows unseen
            rcases Impl.publishLocked_of_marks system.leases marks with ⟨same, seen⟩
            have stillActive := same.trans isActive
            refine ⟨stillActive, seen, ?_⟩
            dsimp only
            rw [seenEvents_of_set stillActive seen unseen]
            simpa [seenAfterReturn] using early

/-- The poll thread reads an idle robot before a motion is dispatched and publishes the reading when
the grace period of the motion is over: the motion is reported as succeeded. -/
theorem success_on_stale_reading : ∃ system after, Reachable .moving system ∧
    step .moving system (.poll .publish) = some after ∧
    (system.impl.commands.lookup 1).map CommandRecord.state = some .running ∧
    (after.impl.commands.lookup 1).map CommandRecord.state = some .succeeded ∧
    readAfterReturn 1 system.events = false := by
  rcases exists_reachable_of_execute ready_reachable
    (Schedule.acquire 0 "client" ++
      Schedule.submit 0 (.move (firstLease 1000) "client" "motion") ++ Schedule.prepare ++
      Schedule.read (.ok .standing) ++ Schedule.call (.returned Status.Ok) ++
      [.worker .complete, .advance 500000000])
    (fun system => (system.impl.commands.lookup 1).map CommandRecord.state = some .running ∧
      readAfterReturn 1 system.events = false ∧
      (step .moving system (.poll .publish)).any fun after =>
        (after.impl.commands.lookup 1).map CommandRecord.state = some .succeeded)
    (by decide) with ⟨system, reached, checked⟩
  rcases of_decide_eq_true checked with ⟨running, stale, publishes⟩
  rcases (Option.any_eq_true _ _).mp publishes with ⟨after, taken, succeeded⟩
  exact ⟨system, after, reached, taken, running, of_decide_eq_true succeeded, stale⟩

/-- A motion that is seen moving and then idle succeeds. -/
theorem success_rests_on_fresh_readings_seen : ∃ system after,
    ReachableUnder .moving (fun system action => ¬PublishesEarlyReading .moving system action)
      system ∧
    step .moving system (.poll .publish) = some after ∧
    (after.impl.commands.lookup 1).map CommandRecord.state = some .succeeded ∧
    readAfterReturn 1 system.events = true ∧ seenAfterReturn 1 system.events = true := by
  let moving : RobotSnapshot := { RobotSnapshot.standing with moving := true }
  have start : ReachableUnder .moving
      (fun system action => ¬PublishesEarlyReading .moving system action) ready := ready_reachable
  have sound : ∀ (system : System) (action : Action), (!action.publishes ||
      system.impl.activeMotionId.all fun id => readAfterReturn id system.events) = true →
      ¬PublishesEarlyReading .moving system action := by
    rintro system action checked ⟨_, isActive, _, early, _⟩
    simp [Action.publishes, isActive, early] at checked
  rcases exists_reachableUnder_of_execute start _ sound
    (Schedule.startMotion ++ Schedule.poll (.ok moving) ++ [.advance 50000000, .poll .wake] ++
      Schedule.read (.ok .standing))
    (fun system => system.impl.activeMotionSeen = true ∧
      (system.impl.activeMotionId.all fun id => readAfterReturn id system.events) = true ∧
      ((system.impl.commands.lookup 1).any fun record => isTerminal record.state = false) = true ∧
      (step .moving system (.poll .publish)).any fun after =>
        (after.impl.commands.lookup 1).map CommandRecord.state = some .succeeded)
    (by decide) with ⟨system, reached, checked⟩
  rcases of_decide_eq_true checked with ⟨seen, fresh, running, publishes⟩
  rcases (Option.any_eq_true _ _).mp running with ⟨old, before, unfinished⟩
  rcases (Option.any_eq_true _ _).mp publishes with ⟨after, taken, holds⟩
  have succeeded := of_decide_eq_true holds
  rcases Option.map_eq_some_iff.mp succeeded with ⟨record, found, state⟩
  rcases (success_rests_on_fresh_readings reached).1 after 1 old record
    (sound system (.poll .publish) fresh) taken before (of_decide_eq_true unfinished) found
    state with ⟨readFresh, seenFresh⟩
  exact ⟨system, after, reached, taken, succeeded, readFresh, seenFresh seen⟩

end System

end RobotManager
