import RobotManager.Control.Schedules
import RobotManager.Control.StaleState

/-!
# Sequence numbers

Clients tell snapshots apart by their sequence number.  A poll that changes the published
snapshot also raises its number, so two snapshots with one number are the same snapshot.
-/

namespace RobotManager

/-- The numbers are in order, and an equal number means an equal snapshot. -/
def RobotSnapshot.Precedes (earlier later : RobotSnapshot) : Prop :=
  earlier.sequence ≤ later.sequence ∧ (earlier.sequence = later.sequence → earlier = later)

namespace RobotSnapshot.Precedes

theorem refl (snapshot : RobotSnapshot) : snapshot.Precedes snapshot := ⟨le_rfl, fun _ => rfl⟩

theorem of_lt {earlier later : RobotSnapshot} (lower : earlier.sequence < later.sequence) :
    earlier.Precedes later :=
  ⟨lower.le, fun same => absurd same lower.ne⟩

theorem trans {first second third : RobotSnapshot} (former : first.Precedes second)
    (latter : second.Precedes third) : first.Precedes third := by
  refine ⟨former.1.trans latter.1, fun same => ?_⟩
  have firstSame : first.sequence = second.sequence := le_antisymm former.1 (same ▸ latter.1)
  have secondSame : second.sequence = third.sequence := firstSame ▸ same
  exact (former.2 firstSame).trans (latter.2 secondSame)

end RobotSnapshot.Precedes

/-- A poll publishes the same snapshot again or one with the next number. -/
theorem Impl.publishState_sequence (options : ExecutorOptions) (state : StatusOr RobotSnapshot)
    (now : TimePoint) (impl : Impl) :
    (impl.publishState options state now).1.latestState = impl.latestState ∨
      (impl.publishState options state now).1.latestState.sequence =
        impl.latestState.sequence + 1 := by
  unfold publishState
  cases state with
  | ok snapshot => exact Or.inr rfl
  | error status =>
      dsimp only
      split
      · by_cases known : impl.latestState.lifecycle ≠ .unknown
        · exact Or.inr (if_pos known)
        · -- the snapshot that is unknown already stays as it is
          have unknown : impl.latestState.lifecycle = .unknown := not_not.mp known
          left
          dsimp only
          rw [if_neg known, ← unknown]
      · exact Or.inl rfl

/-! ### The history of readings -/

/-- The snapshot that `GetState` has returned, if the event is its return. -/
def Event.returnedState : Event → Option RobotSnapshot
  | .stateReturned snapshot => some snapshot
  | _ => none

def Event.isRead : Event → Bool
  | .readBegan => true
  | _ => false

/-- Whether a reading has begun that is not published yet. -/
def PollPc.unpublished : PollPc → ℕ
  | .reading | .read _ => 1
  | _ => 0

namespace System

open TransitionSystem

/-- The snapshots that `GetState` has returned, the latest first. -/
def statesReturned (system : System) : List RobotSnapshot :=
  system.events.filterMap Event.returnedState

/-- The number of `ReadState` calls, with the one that `Start` has made. -/
def reads (system : System) : ℕ := system.events.countP Event.isRead + 1

/-- No operation of a client but `GetState` returns a snapshot. -/
theorem clientStep_statesReturned {setup : Setup} {thread : ℕ} {action : ClientAction}
    {system after : System} (other : action ≠ .getState)
    (taken : clientStep setup thread action system = some after) :
    after.statesReturned = system.statesReturned := by
  cases action with
  | getState => exact absurd rfl other
  | submit request =>
      cases position : system.clients thread <;> simp only [clientStep, position] at taken <;>
        try cases taken
      split at taken
      · cases taken
        rfl
      split at taken <;> cases taken <;> rfl
  | acquireCommit | renewSample | renewCommit | submitSample | releaseCommit | submitCommit
  | readReturns =>
      cases position : system.clients thread <;> simp only [clientStep, position] at taken <;>
        cases taken
      all_goals rfl
  | acquire | acquireSample | renew | release | submitValidate | read | readBegins =>
      cases position : system.clients thread <;> simp only [clientStep, position] at taken <;>
        try cases taken
      split at taken <;> cases taken <;> rfl

/-- `GetState` returns the published snapshot, and no other step returns one. -/
theorem step_statesReturned {setup : Setup} {system after : System} {action : Action}
    (taken : step setup system action = some after) :
    after.statesReturned = system.statesReturned ∨
      (after.statesReturned = system.impl.latestState :: system.statesReturned ∧
        after.impl.latestState = system.impl.latestState) := by
  cases action with
  | advance nanoseconds =>
      cases taken
      exact Or.inl rfl
  | worker action => cases workerStep_cases taken <;> exact Or.inl rfl
  | poll action =>
      cases pollStep_cases taken with
      | @publishes state =>
          left
          rcases seenEvents_cases system.impl
            (system.impl.publishLocked setup.options system.leases state system.now) with
              none | ⟨active, seen⟩
          · simp [statesReturned, none]
          · rw [statesReturned, seen]
            rfl
      | checks | skips | readBegins | readReturns | exits | wakes => exact Or.inl rfl
  | client thread action =>
      by_cases reading : action = .getState
      · subst reading
        have idle := idle_of_begins (Or.inl rfl) taken
        simp only [step, clientStep, idle, Option.some.injEq] at taken
        subst taken
        exact Or.inr ⟨rfl, rfl⟩
      · exact Or.inl (clientStep_statesReturned reading taken)
  | shutdown action => cases shutdownStep_cases taken <;> exact Or.inl rfl

/-- Publishing a reading raises the number at most by one. -/
theorem step_reads {setup : Setup} {system after : System} {action : Action}
    (taken : step setup system action = some after) :
    after.impl.latestState.sequence + after.poll.unpublished + system.reads ≤
      system.impl.latestState.sequence + system.poll.unpublished + after.reads := by
  have grows : system.reads ≤ after.reads := by
    rcases step_events taken with ⟨newer, events⟩
    simp [reads, events]
  by_cases publishes : action = .poll .publish
  · subst publishes
    rcases publish_latestState taken with ⟨state, position, latest⟩
    have sleeping : after.poll.unpublished = 0 := by
      cases pollStep_cases taken
      rfl
    rw [latest, sleeping, position]
    rcases system.impl.publishState_sequence setup.options state system.now with same | raised
    · rw [same]
      omega
    · rw [raised]
      simp only [PollPc.unpublished]
      omega
  have latest := step_latestState taken publishes
  have poll : after.poll.unpublished + system.reads ≤ system.poll.unpublished + after.reads := by
    cases action with
    | advance nanoseconds =>
        cases taken
        exact le_rfl
    | worker action => cases workerStep_cases taken <;> exact Nat.add_le_add_left grows _
    | client thread action => cases clientStep_cases taken <;> exact Nat.add_le_add_left grows _
    | shutdown action => cases shutdownStep_cases taken <;> exact Nat.add_le_add_left grows _
    | poll action =>
        cases pollStep_cases taken with
        | checks position | skips position | readReturns position | exits position
        | wakes position => simp [position, PollPc.unpublished, reads]
        | readBegins position =>
            have read : (Event.readBegan :: system.events).countP Event.isRead =
                system.events.countP Event.isRead + 1 := List.countP_cons_of_pos rfl
            simp only [position, PollPc.unpublished, reads, read]
            omega
        | publishes => exact absurd rfl publishes
  rw [latest]
  omega

/-- Every returned snapshot precedes the published one and those returned after it. -/
structure ReadInOrder (system : System) : Prop where
  latest : ∀ snapshot ∈ system.statesReturned, snapshot.Precedes system.impl.latestState
  returned : system.statesReturned.Pairwise fun later earlier => earlier.Precedes later
  counted : system.impl.latestState.sequence + system.poll.unpublished ≤ system.reads

theorem Reachable.readInOrder {setup : Setup} {system : System} (reached : Reachable setup system) :
    ReadInOrder system := by
  refine reached.rule ReadInOrder (fun snapshot now => ⟨by simp [statesReturned, started], ?_, ?_⟩)
    fun {system after action} _ inOrder taken => ?_
  · exact List.Pairwise.nil
  · exact le_rfl
  have counted := step_reads taken
  have before := inOrder.counted
  have follows : system.impl.latestState.Precedes after.impl.latestState := by
    by_cases publishes : action = .poll .publish
    · subst publishes
      rcases publish_latestState taken with ⟨state, _, latest⟩
      rw [latest]
      rcases system.impl.publishState_sequence setup.options state system.now with same | raised
      · rw [same]
        exact .refl _
      · exact .of_lt (by omega)
    · rw [step_latestState taken publishes]
      exact .refl _
  rcases step_statesReturned taken with same | ⟨returned, latest⟩
  · refine ⟨fun snapshot mem => ?_, same ▸ inOrder.returned, by omega⟩
    exact (inOrder.latest snapshot (same ▸ mem)).trans follows
  · refine ⟨fun snapshot mem => ?_, ?_, by omega⟩
    · rw [returned] at mem
      rw [latest]
      rcases List.mem_cons.mp mem with rfl | mem
      · exact .refl _
      · exact inOrder.latest snapshot mem
    · rw [returned]
      exact .cons inOrder.latest inOrder.returned

/-- Of two snapshots that `GetState` has returned, the later one has no lower number, and if the
numbers are equal the snapshots are.  With fewer than `2 ^ 64` polls the numbers fit
into 64 bits. -/
theorem sequence_identifies_snapshot {setup : Setup} {system : System}
    (reached : Reachable setup system) :
    (system.statesReturned.Pairwise fun later earlier =>
      earlier.sequence ≤ later.sequence ∧
        (earlier.sequence = later.sequence → earlier = later)) ∧
    (system.reads < 2 ^ 64 → ∀ snapshot ∈ system.statesReturned, snapshot.sequence < 2 ^ 64) := by
  have inOrder := reached.readInOrder
  refine ⟨inOrder.returned, fun few snapshot mem => ?_⟩
  have lower := (inOrder.latest snapshot mem).1
  have counted := inOrder.counted
  omega

/-- Three readings, between which a poll has succeeded and one has found the state stale. -/
theorem sequence_identifies_snapshot_stale : ∃ system, Reachable .moving system ∧
    system.statesReturned.map RobotSnapshot.sequence = [3, 3, 2, 1] ∧
    system.statesReturned.Pairwise fun later earlier =>
      earlier.sequence ≤ later.sequence ∧
        (earlier.sequence = later.sequence → earlier = later) := by
  rcases exists_reachable_of_execute ready_reachable
    ([.client 0 .getState] ++ Schedule.poll (.ok .standing) ++
      [.client 0 .getState, .advance 600000000, .poll .wake] ++
      Schedule.poll (.error ⟨.unavailable, "", 0⟩) ++
      [.client 0 .getState, .advance 600000000, .poll .wake] ++
      Schedule.poll (.error ⟨.unavailable, "", 0⟩) ++ [.client 0 .getState])
    (fun system => decide (system.statesReturned.map RobotSnapshot.sequence = [3, 3, 2, 1]))
    (by decide) with ⟨system, reached, checked⟩
  exact ⟨system, reached, of_decide_eq_true checked, (sequence_identifies_snapshot reached).1⟩

end System

end RobotManager
