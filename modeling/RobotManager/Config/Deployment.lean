import RobotManager.Config.FailClosed
import RobotManager.Control.ExecutorSections

/-!
# What a deployment file means for the service

A configuration that loads is handed to the executor, which validates its options on its own, and to
the guard, which trusts the verified flag of the joint limits.  The executor accepts the options
exactly if the history exceeds the queue, and the limits cover the six axes exactly if the document
says so itself: the loader checks neither.
-/

namespace RobotManager

open Checked

/-! ### Starting the executor -/

/-- The history has room for a record besides those of a full queue. -/
def ConfigDocument.HistoryExceedsQueue (document : ConfigDocument) : Prop :=
  ∃ queueSize historySize,
    parseInt document "service.command_queue_capacity" = .ok queueSize ∧
      parseInt document "service.command_history_capacity" = .ok historySize ∧
      queueSize < historySize

/-- `Start` gets past its option validation, on a fresh executor whose driver connects. -/
def ExecutorOptions.StartsUp (options : ExecutorOptions) : Prop :=
  ∀ initial now, Impl.start options true Status.Ok (.ok initial) now {} ≠
    .error ⟨.invalidArgument, "executor timing and queue options are invalid", 0⟩

theorem ExecutorOptions.startsUp_iff {options : ExecutorOptions} :
    options.StartsUp ↔ options.accepted = true := by
  constructor
  · intro starts
    by_contra refused
    exact starts {} 0 (by simp [Impl.start, refused])
  · intro accepted initial now
    simp [Impl.start, accepted]

theorem ConfigDocument.Accepted.historyExceedsQueue_iff {document : ConfigDocument}
    {settings : RequiredSettings} {optional : OptionalSettings}
    (accepted : document.Accepted settings optional) :
    document.HistoryExceedsQueue ↔ settings.queueSize < settings.historySize := by
  constructor
  · rintro ⟨queueSize, historySize, queueParsed, historyParsed, exceeds⟩
    rw [accepted.required.queueSize, Except.ok.injEq] at queueParsed
    rw [accepted.required.historySize, Except.ok.injEq] at historyParsed
    omega
  · intro exceeds
    exact ⟨_, _, accepted.required.queueSize, accepted.required.historySize, exceeds⟩

/-- The range check of the loader leaves one condition of the executor's open. -/
theorem accepted_executorOptions_iff {settings : RequiredSettings}
    (inRange : settings.outOfRange = false) :
    settings.executorOptions.accepted = true ↔ settings.queueSize < settings.historySize := by
  rcases outOfRange_eq_false_iff.mp inRange with ⟨statePoll, stateStale, queueSize, historySize,
    leaseTtl, jogTimeout, _⟩
  rw [ExecutorOptions.accepted_iff]
  constructor
  · rintro ⟨_, _, exceeds⟩
    change settings.queueSize.toNat < settings.historySize.toNat at exceeds
    omega
  · intro exceeds
    have polled : (0 : ℤ) < settings.statePoll := by omega
    have stale : (0 : ℤ) < settings.stateStale := by omega
    have leased : (0 : ℤ) < settings.leaseTtl := by omega
    have jogged : (0 : ℤ) < settings.jogTimeout := by omega
    refine ⟨⟨polled, stale, ?_, leased, jogged, stateStale, jogTimeout⟩, ?_, ?_⟩
    · change (0 : ℤ) ≤ 500
      omega
    · change 0 < settings.queueSize.toNat
      omega
    · change settings.queueSize.toNat < settings.historySize.toNat
      omega

/-- A document that loads starts up exactly if its history exceeds its queue. -/
theorem loadServiceConfig_startsUp_iff {document : ConfigDocument} {config : ServiceConfig}
    (loaded : loadServiceConfig document = .ok config) :
    (config.executorOptions.accepted = true ∧ config.executorOptions.StartsUp) ↔
      document.HistoryExceedsQueue := by
  rcases loadServiceConfig_eq_ok_iff.mp loaded with ⟨settings, optional, accepted, rfl⟩
  rw [ExecutorOptions.startsUp_iff, and_self, accepted.historyExceedsQueue_iff]
  exact accepted_executorOptions_iff accepted.inRange

theorem er150Document_startsUp :
    ∃ config, loadServiceConfig er150Document = .ok config ∧
      ((config.executorOptions.accepted = true ∧ config.executorOptions.StartsUp) ↔
        er150Document.HistoryExceedsQueue) := by
  have loads : (loadServiceConfig er150Document).toOption.any (fun _ => true) = true := by
    decide +kernel
  rcases exists_of_any loads with ⟨config, loaded, _⟩
  exact ⟨config, loaded, loadServiceConfig_startsUp_iff loaded⟩

/-- With a history as large as the queue the document loads and the executor does not start. -/
theorem equal_capacities_fail :
    ∃ config,
      loadServiceConfig (er150Document.withScalar "service.command_history_capacity" "16") =
        .ok config ∧
      config.executorOptions.accepted = false ∧ ¬config.executorOptions.StartsUp := by
  have loads : (loadServiceConfig
      (er150Document.withScalar "service.command_history_capacity" "16")).toOption.any
        (fun config => !config.executorOptions.accepted) = true := by
    decide +kernel
  rcases exists_of_any loads with ⟨config, loaded, refused⟩
  rw [Bool.not_eq_true'] at refused
  refine ⟨config, loaded, refused, ?_⟩
  rw [ExecutorOptions.startsUp_iff, refused]
  decide

/-! ### Limits for six axes -/

def ConfigDocument.limitCount (document : ConfigDocument) : ℕ :=
  ((document.lists.lookup "limits.joint_limits_deg").getD []).length

/-- The document asks for six axes, or leaves the count open and lists six limits. -/
def ConfigDocument.DescribesSixAxes (document : ConfigDocument) : Prop :=
  parseInt document "robot.axis_count" = .ok 6 ∨
    (document.scalars.lookup "robot.axis_count" = none ∧ document.limitCount = 6)

/-- Each of six axes has a verified limit. -/
def SafetyPolicy.CoversSixAxes (policy : SafetyPolicy) : Prop :=
  policy.jointLimitsVerified = true ∧ 6 ≤ policy.jointLimits.length

/-- The guard accepts no motion that can involve every axis unless each has a verified limit. -/
def SafetyPolicy.GuardsSixAxes (policy : SafetyPolicy) : Prop :=
  ∀ request snapshot leaseValid jogActive,
    request.type ∈ [CommandType.moveL, .moveC, .startProgram, .jog] →
      (validate policy request snapshot leaseValid jogActive).ok = true → policy.CoversSixAxes

section Limits

variable {document : ConfigDocument} {settings : RequiredSettings} {optional : OptionalSettings}

theorem ConfigDocument.Accepted.length_jointLimits
    (accepted : document.Accepted settings optional) :
    optional.jointLimits.length = document.limitCount := by
  rcases jointLimits_eq_ok_iff.mp accepted.limits with ⟨values, read, parsed⟩
  rw [← parsed.length_eq, ConfigDocument.limitCount]
  rcases optionalList_eq_ok_iff.mp read with ⟨found, _⟩ | ⟨empty, absent, _⟩
  · rw [found, Option.getD_some]
  · rw [absent, empty, Option.getD_none]

theorem ConfigDocument.Accepted.limitCount_eq_six_iff
    (accepted : document.Accepted settings optional) (given : optional.jointLimits ≠ []) :
    document.limitCount = 6 ↔ document.DescribesSixAxes := by
  have verified : (settings.serviceConfig optional).safetyPolicy.jointLimitsVerified = true :=
    jointLimitsVerified_iff.mpr given
  have counted : document.Present "robot.axis_count" →
      parseInt document "robot.axis_count" = .ok (document.limitCount : ℤ) := by
    intro present
    rcases accepted.axisCount_parsed present with ⟨parsed, positive⟩
    have matched := accepted.consistent.axes verified (by omega)
    rw [parsed, ← matched, ← accepted.length_jointLimits]
    rfl
  constructor
  · intro six
    cases found : document.scalars.lookup "robot.axis_count" with
    | none => exact .inr ⟨found, six⟩
    | some value =>
        left
        have present : document.Present "robot.axis_count" :=
          .inl (FiniteMap.mem_of_lookup found)
        rw [counted present, six]
        rfl
  · rintro (parsed | ⟨_, six⟩)
    · rw [counted (.inl (mem_scalars_of_parseInt parsed)), Except.ok.injEq] at parsed
      omega
    · exact six

end Limits

/-- A jog along an axis of the robot's frame, which all joints take part in. -/
def cartesianJog : CommandRequest where
  type := .jog
  payload := .jog { frame := .robot }

def manualSnapshot : RobotSnapshot where
  lifecycle := .standby
  controllerMode := .manual
  connected := true
  apiControl := true
  servoOn := true
  speedRatio := 1

/-- With motion enabled and any limits verified, the guard lets a jog move all joints. -/
theorem ok_validate_cartesianJog {policy : SafetyPolicy} (enabled : policy.motionEnabled = true)
    (verified : policy.jointLimitsVerified = true) (speed : 1 ≤ policy.maximumJointSpeedPercent) :
    (validate policy cartesianJog manualSnapshot true false).ok = true := by
  have inPolicy : ¬policy.maximumJointSpeedPercent < 1 := by omega
  simp [validate, validatePayloadType, payloadTypeMatches, validateJog, requireLease, cartesianJog,
    manualSnapshot, enabled, verified, inPolicy]

/-- With motion enabled, the limits are those of six axes exactly if the document describes six
axes, and the guard keeps motion to covered axes exactly if it lists at least six limits. -/
theorem loadServiceConfig_six_axes_iff {document : ConfigDocument} {config : ServiceConfig}
    (loaded : loadServiceConfig document = .ok config)
    (enabled : parseBool document "limits.motion_enabled" = .ok true) :
    ((config.safetyPolicy.jointLimits.length = 6 ∧ config.safetyPolicy.GuardsSixAxes) ↔
      document.DescribesSixAxes) ∧
    (config.safetyPolicy.GuardsSixAxes ↔ 6 ≤ document.limitCount) := by
  rcases loadServiceConfig_eq_ok_iff.mp loaded with ⟨settings, optional, accepted, rfl⟩
  rw [accepted.required.motionEnabled, Except.ok.injEq] at enabled
  have given : optional.jointLimits ≠ [] := fun empty => accepted.motion ⟨enabled, empty⟩
  have verified := accepted.consistent.motion enabled
  have length : (settings.serviceConfig optional).safetyPolicy.jointLimits.length =
      document.limitCount := accepted.length_jointLimits
  have guards : (settings.serviceConfig optional).safetyPolicy.GuardsSixAxes ↔
      6 ≤ document.limitCount := by
    constructor
    · intro guards
      have jogs := ok_validate_cartesianJog enabled verified accepted.consistent.speed.1
      have covers := guards cartesianJog manualSnapshot true false (by decide) jogs
      exact length ▸ covers.2
    · intro six _ _ _ _ _ _
      exact ⟨verified, length ▸ six⟩
  refine ⟨?_, guards⟩
  rw [guards, length, ← accepted.limitCount_eq_six_iff given]
  omega

theorem enabledDocument_six_axes :
    ∃ config, loadServiceConfig enabledDocument = .ok config ∧
      ((config.safetyPolicy.jointLimits.length = 6 ∧ config.safetyPolicy.GuardsSixAxes) ↔
        enabledDocument.DescribesSixAxes) ∧
      (config.safetyPolicy.GuardsSixAxes ↔ 6 ≤ enabledDocument.limitCount) := by
  rcases enabledDocument_loads with ⟨config, loaded⟩
  exact ⟨config, loaded, loadServiceConfig_six_axes_iff loaded (parseBool_eq_ok_iff.mpr rfl)⟩

/-- The document enables motion with a single limit and does not give the axis count. -/
def oneLimitDocument : ConfigDocument :=
  { er150Document with
    scalars := (er150Document.scalars.erase "robot.axis_count").insert "limits.motion_enabled"
      "true"
    lists := List.toAList [⟨"limits.joint_limits_deg", ["-170:170"]⟩] }

theorem one_limit_enables_motion :
    ∃ config, loadServiceConfig oneLimitDocument = .ok config ∧
      config.safetyPolicy.motionEnabled = true ∧ config.safetyPolicy.jointLimits.length = 1 ∧
      (validate config.safetyPolicy cartesianJog manualSnapshot true false).ok = true := by
  have loads : (loadServiceConfig oneLimitDocument).toOption.any (fun config =>
      config.safetyPolicy.motionEnabled && config.safetyPolicy.jointLimits.length == 1 &&
        (validate config.safetyPolicy cartesianJog manualSnapshot true false).ok) = true := by
    decide +kernel
  rcases exists_of_any loads with ⟨config, loaded, facts⟩
  simp only [Bool.and_eq_true, beq_iff_eq] at facts
  exact ⟨config, loaded, facts.1.1, facts.1.2, facts.2⟩

end RobotManager
