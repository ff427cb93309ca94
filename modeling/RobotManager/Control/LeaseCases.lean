import RobotManager.Control.ControlLease
import Mathlib.Data.List.Basic
import Mathlib.Tactic.Cases

/-!
# What each lease operation can do

The inversion lemmas of the operations of `ControlLeaseManager`, and what they say about
lease identifiers: an identifier determines the number it was issued under, so no lease
gets the identifier of an earlier one, and an identifier that is no longer the active
one never becomes active again.
-/

namespace RobotManager

/-- What follows the last separator of a list does not depend on how the list is split. -/
theorem eq_of_separator {Element : Type*} [DecidableEq Element] {separator : Element}
    {front back otherFront otherBack : List Element}
    (same : front ++ separator :: back = otherFront ++ separator :: otherBack)
    (unused : separator ∉ back) (otherUnused : separator ∉ otherBack) : back = otherBack := by
  have last : ∀ {front back : List Element}, separator ∉ back →
      (front ++ separator :: back).reverse.takeWhile (· ≠ separator) = back.reverse := by
    intro front back unused
    have apart : ∀ element ∈ back.reverse, decide (element ≠ separator) = true := by
      intro element mem
      have mem : element ∈ back := List.mem_reverse.mp mem
      exact decide_eq_true fun equal => unused (equal ▸ mem)
    rw [List.reverse_append, List.reverse_cons, List.append_assoc,
      List.takeWhile_append_of_pos apart]
    simp
  apply List.reverse_injective
  rw [← last unused, ← last otherUnused, same]

namespace ControlLeaseManager

/-- The number at the end of an identifier is the one it was issued under. -/
theorem number_eq_of_leaseId_eq {time later : TimePoint} {number other : ℕ}
    (same : leaseId time number = leaseId later other) : number = other := by
  have digits : ∀ number : ℕ, '-' ∉ Nat.toDigits 10 number := by
    intro number mem
    simpa using Nat.isDigit_of_mem_toDigits (by decide) (by decide) mem
  have lists := congrArg String.toList same
  have parts : ∀ (time : TimePoint) (number : ℕ), (leaseId time number).toList =
      ("lease-" ++ toString time).toList ++ '-' :: Nat.toDigits 10 number := by
    intro time number
    show ("lease-" ++ toString time ++ "-" ++ Nat.repr number).toList = _
    simp [String.toList_append, Nat.toList_repr]
  rw [parts, parts] at lists
  have numerals := eq_of_separator lists (digits number) (digits other)
  simpa using congrArg (fun digits => Nat.ofDigitChars 10 digits 0) numerals

variable {manager after : ControlLeaseManager} {id clientId : String} {now : TimePoint}

theorem isValid_iff : manager.isValid id clientId now = true ↔
    manager.hasActive = true ∧ now < manager.active.expiresAt ∧ manager.active.id = id ∧
      manager.active.clientId = clientId := by
  simp [isValid, isActiveLocked, and_assoc]

/-- The outcomes of `Acquire`. -/
inductive Acquisition (manager : ControlLeaseManager) (clientId : String) (now : TimePoint) :
    StatusOr ControlLease → ControlLeaseManager → Prop where
  | refused {status : Status} (isActive : manager.isActiveLocked now = true) :
      Acquisition manager clientId now (.error status) manager
  | granted (inactive : manager.isActiveLocked now = false) :
      Acquisition manager clientId now
        (.ok ⟨leaseId now manager.nextId, clientId, now.addMs manager.leaseTtl⟩)
        { manager with
          active := ⟨leaseId now manager.nextId, clientId, now.addMs manager.leaseTtl⟩
          hasActive := true
          nextId := manager.nextId + 1 }

theorem acquireLocked_cases (manager : ControlLeaseManager) (clientId : String)
    (now : TimePoint) :
    Acquisition manager clientId now (manager.acquireLocked clientId now).1
      (manager.acquireLocked clientId now).2 := by
  unfold acquireLocked
  split
  · next isActive => exact .refused isActive
  · next inactive => exact .granted (by simpa using inactive)

/-- The outcomes of `Renew`. -/
inductive Renewal (manager : ControlLeaseManager) (id clientId : String) (now : TimePoint) :
    StatusOr ControlLease → ControlLeaseManager → Prop where
  | refused {status : Status} (invalid : manager.isValid id clientId now = false) :
      Renewal manager id clientId now (.error status) manager
  | renewed (valid : manager.isValid id clientId now = true) :
      Renewal manager id clientId now
        (.ok { manager.active with expiresAt := now.addMs manager.leaseTtl })
        { manager with active :=
          { manager.active with expiresAt := now.addMs manager.leaseTtl } }

theorem renewLocked_cases (manager : ControlLeaseManager) (id clientId : String)
    (now : TimePoint) :
    Renewal manager id clientId now (manager.renewLocked id clientId now).1
      (manager.renewLocked id clientId now).2 := by
  have invalid_iff : (!manager.isActiveLocked now || manager.active.id != id ||
      manager.active.clientId != clientId) = !manager.isValid id clientId now := by
    simp [isValid, bne]
  unfold renewLocked
  rw [invalid_iff]
  split
  · next invalid => exact .refused (by simpa using invalid)
  · next valid => exact .renewed (by simpa using valid)

/-- The outcomes of `Release`. -/
inductive Surrender (manager : ControlLeaseManager) (id clientId : String) :
    Status → ControlLeaseManager → Prop where
  | refused {status : Status} (notOk : status.ok = false)
      (other : ¬(manager.hasActive = true ∧ manager.active.id = id ∧
        manager.active.clientId = clientId)) :
      Surrender manager id clientId status manager
  | released (hasActive : manager.hasActive = true) (isId : manager.active.id = id)
      (isClient : manager.active.clientId = clientId) :
      Surrender manager id clientId Status.Ok { manager with hasActive := false, active := {} }

theorem release_cases (manager : ControlLeaseManager) (id clientId : String) :
    Surrender manager id clientId (manager.release id clientId).1
      (manager.release id clientId).2 := by
  unfold release
  split
  · next other =>
    refine .refused rfl ?_
    rintro ⟨hasActive, rfl, rfl⟩
    simp [hasActive] at other
  · next own =>
    simp only [Bool.or_eq_true, Bool.not_eq_true', bne_iff_ne, not_or, ne_eq, not_not,
      Bool.not_eq_false] at own
    exact .released own.1.1 own.1.2 own.2

/-! ### Identifiers -/

/-- An identifier that has been issued. -/
def HasIssued (manager : ControlLeaseManager) (id : String) : Prop :=
  ∃ time number, id = leaseId time number ∧ number < manager.nextId

/-- The active lease has an issued identifier. -/
def ActiveIssued (manager : ControlLeaseManager) : Prop :=
  manager.hasActive = true → manager.HasIssued manager.active.id

/-- An issued identifier that is not the active one. -/
def Retired (manager : ControlLeaseManager) (id : String) : Prop :=
  manager.HasIssued id ∧ (manager.hasActive = true → manager.active.id ≠ id)

theorem HasIssued.mono {other : ControlLeaseManager} (issued : manager.HasIssued id)
    (grows : manager.nextId ≤ other.nextId) : other.HasIssued id := by
  rcases issued with ⟨time, number, same, before⟩
  exact ⟨time, number, same, Nat.lt_of_lt_of_le before grows⟩

/-- The next identifier has not been issued. -/
theorem HasIssued.ne_next (issued : manager.HasIssued id) (time : TimePoint) :
    leaseId time manager.nextId ≠ id := by
  rcases issued with ⟨earlier, number, rfl, before⟩
  intro same
  have equal := number_eq_of_leaseId_eq same
  omega

theorem Retired.isValid_eq_false (retired : manager.Retired id) (clientId : String)
    (now : TimePoint) : manager.isValid id clientId now = false := by
  by_contra valid
  rcases isValid_iff.mp (by simpa using valid) with ⟨hasActive, _, same, _⟩
  exact retired.2 hasActive same

/-- A change of the manager by one of its operations: nothing, a new lease, another expiry of
the active lease, or its end. -/
inductive Change (manager : ControlLeaseManager) : ControlLeaseManager → Prop where
  | unchanged : Change manager manager
  | granted (clientId : String) (time : TimePoint) (expiresAt : TimePoint) :
      Change manager { manager with
        active := ⟨leaseId time manager.nextId, clientId, expiresAt⟩
        hasActive := true
        nextId := manager.nextId + 1 }
  | renewed (expiresAt : TimePoint) :
      Change manager { manager with active := { manager.active with expiresAt := expiresAt } }
  | ended : Change manager { manager with hasActive := false, active := {} }

theorem acquireLocked_change (manager : ControlLeaseManager) (clientId : String)
    (now : TimePoint) : Change manager (manager.acquireLocked clientId now).2 := by
  have acquisition := manager.acquireLocked_cases clientId now
  generalize (manager.acquireLocked clientId now).1 = result at acquisition
  generalize (manager.acquireLocked clientId now).2 = after at acquisition ⊢
  cases acquisition with
  | refused => exact .unchanged
  | granted => exact .granted _ _ _

theorem renewLocked_change (manager : ControlLeaseManager) (id clientId : String)
    (now : TimePoint) : Change manager (manager.renewLocked id clientId now).2 := by
  have renewal := manager.renewLocked_cases id clientId now
  generalize (manager.renewLocked id clientId now).1 = result at renewal
  generalize (manager.renewLocked id clientId now).2 = after at renewal ⊢
  cases renewal with
  | refused => exact .unchanged
  | renewed => exact .renewed _

theorem release_change (manager : ControlLeaseManager) (id clientId : String) :
    Change manager (manager.release id clientId).2 := by
  have surrender := manager.release_cases id clientId
  generalize (manager.release id clientId).1 = result at surrender
  generalize (manager.release id clientId).2 = after at surrender ⊢
  cases surrender with
  | refused => exact .unchanged
  | released => exact .ended

namespace Change

theorem nextId_le (change : Change manager after) : manager.nextId ≤ after.nextId := by
  cases change with
  | unchanged | renewed | ended => exact Nat.le_refl _
  | granted => exact Nat.le_succ _

theorem activeIssued (change : Change manager after) (issued : manager.ActiveIssued) :
    after.ActiveIssued := by
  cases change with
  | unchanged | renewed => exact issued
  | granted _ time _ => exact fun _ => ⟨time, manager.nextId, rfl, Nat.lt_succ_self _⟩
  | ended => exact fun hasActive => absurd hasActive (by simp)

/-- A retired identifier stays retired. -/
theorem retired (change : Change manager after) (retired : manager.Retired id) :
    after.Retired id := by
  refine ⟨retired.1.mono change.nextId_le, ?_⟩
  cases change with
  | unchanged | renewed => exact retired.2
  | granted _ time _ => exact fun _ => retired.1.ne_next time
  | ended => exact fun hasActive => absurd hasActive (by simp)

end Change

/-- A lease that has been released is retired. -/
theorem release_retires (issued : manager.ActiveIssued)
    (ok : (manager.release id clientId).1.ok = true) :
    (manager.release id clientId).2.Retired id := by
  have surrender := manager.release_cases id clientId
  generalize (manager.release id clientId).1 = result at surrender ok
  generalize (manager.release id clientId).2 = after at surrender ⊢
  cases surrender with
  | refused notOk => cases notOk.symm.trans ok
  | released hasActive isId =>
      exact ⟨isId ▸ issued hasActive, fun stillActive => absurd stillActive (by simp)⟩

end ControlLeaseManager

end RobotManager
