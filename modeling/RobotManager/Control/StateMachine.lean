import RobotManager.Types.Robot

/-!
# Lifecycle derivation

`DeriveLifecycleState` of `state_machine.cc`, with the facts about its priorities
that the guard and the executor rely on.
-/

namespace RobotManager

/-- Most dangerous condition first: ordinary flags never hide an emergency stop, a lost
connection or a fault. -/
def deriveLifecycleState (snapshot : RobotSnapshot) : RobotLifecycleState :=
  if snapshot.emergencyStop then .emergencyStop
  else if !snapshot.connected then .disconnected
  else if snapshot.alarmActive then .fault
  else if snapshot.paused then .paused
  else if snapshot.moving || snapshot.programRunning then .executing
  else if snapshot.apiControl && snapshot.servoOn && snapshot.controllerMode == .automatic then
    .ready
  else .standby

/-- What the executor can publish: the derived lifecycle, or `unknown` once it is stale. -/
def RobotSnapshot.Published (snapshot : RobotSnapshot) : Prop :=
  snapshot.lifecycle = deriveLifecycleState snapshot ∨ snapshot.lifecycle = .unknown

theorem deriveLifecycleState_healthy {snapshot : RobotSnapshot}
    (connected : snapshot.connected = true) (noStop : snapshot.emergencyStop = false)
    (noAlarm : snapshot.alarmActive = false) :
    deriveLifecycleState snapshot ≠ .emergencyStop ∧
      deriveLifecycleState snapshot ≠ .disconnected ∧
      deriveLifecycleState snapshot ≠ .fault ∧ deriveLifecycleState snapshot ≠ .unknown := by
  simp only [deriveLifecycleState, connected, noStop, noAlarm]
  split_ifs <;> simp_all

/-- A paused snapshot derives `paused` exactly when nothing more dangerous holds. -/
theorem deriveLifecycleState_paused {snapshot : RobotSnapshot} (paused : snapshot.paused = true) :
    deriveLifecycleState snapshot = .paused ↔
      snapshot.connected = true ∧ snapshot.emergencyStop = false ∧
        snapshot.alarmActive = false := by
  unfold deriveLifecycleState
  cases snapshot.emergencyStop <;> cases snapshot.connected <;>
    cases snapshot.alarmActive <;> simp [paused]

end RobotManager
