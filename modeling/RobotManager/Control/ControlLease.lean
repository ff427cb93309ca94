import RobotManager.Types.Chrono
import RobotManager.Types.Status

/-!
# Control leases

`ControlLeaseManager` of `control_lease.cc`.  Each operation that depends on time
samples the clock before it takes the manager's mutex, so the critical sections
below receive the sampled time as an argument.
-/

namespace RobotManager

structure ControlLease where
  id : String := ""
  clientId : String := ""
  expiresAt : TimePoint := 0
deriving DecidableEq, Repr

structure ControlLeaseManager where
  leaseTtl : Milliseconds
  active : ControlLease := {}
  hasActive : Bool := false
  nextId : ℕ := 1
deriving DecidableEq, Repr

namespace ControlLeaseManager

def isActiveLocked (manager : ControlLeaseManager) (now : TimePoint) : Bool :=
  manager.hasActive && decide (now < manager.active.expiresAt)

/-- The identifier of the lease granted at `now` as the manager's next one. -/
def leaseId (now : TimePoint) (number : ℕ) : String :=
  "lease-" ++ toString now ++ "-" ++ toString number

/-- The critical section of `Acquire`. -/
def acquireLocked (manager : ControlLeaseManager) (clientId : String) (now : TimePoint) :
    StatusOr ControlLease × ControlLeaseManager :=
  if manager.isActiveLocked now then
    (.error ⟨.alreadyExists, "another client holds the control lease", 0⟩, manager)
  else
    let lease : ControlLease :=
      { id := leaseId now manager.nextId
        clientId := clientId
        expiresAt := now.addMs manager.leaseTtl }
    (.ok lease, { manager with
      active := lease
      hasActive := true
      nextId := manager.nextId + 1 })

/-- The critical section of `Renew`. -/
def renewLocked (manager : ControlLeaseManager) (leaseId clientId : String) (now : TimePoint) :
    StatusOr ControlLease × ControlLeaseManager :=
  if !manager.isActiveLocked now || manager.active.id != leaseId ||
      manager.active.clientId != clientId then
    (.error ⟨.permissionDenied, "control lease is invalid or expired", 0⟩, manager)
  else
    let lease := { manager.active with expiresAt := now.addMs manager.leaseTtl }
    (.ok lease, { manager with active := lease })

/-- `Release`, which does not read the clock. -/
def release (manager : ControlLeaseManager) (leaseId clientId : String) :
    Status × ControlLeaseManager :=
  if !manager.hasActive || manager.active.id != leaseId ||
      manager.active.clientId != clientId then
    (⟨.permissionDenied, "control lease does not belong to this client", 0⟩, manager)
  else
    (Status.Ok, { manager with hasActive := false, active := {} })

/-- The critical section of `IsValid`. -/
def isValid (manager : ControlLeaseManager) (leaseId clientId : String) (now : TimePoint) : Bool :=
  manager.isActiveLocked now && manager.active.id == leaseId &&
    manager.active.clientId == clientId

end ControlLeaseManager

end RobotManager
