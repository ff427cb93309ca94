import RobotManager.Config.LoadedConfig

/-!
# Loading fails closed

A document that loads has entries of known keys and the right kinds only and gives every required
setting, well typed.  Each optional setting it gives is the one in effect, with one exception: a
workspace section that holds none of its settings is dropped.  Nothing is enabled or verified in the
resulting configuration without the settings that this takes.
-/

namespace RobotManager

open Checked

/-! ### Documents -/

/-- No key has entries of two kinds. -/
def ConfigDocument.DisjointKeys (document : ConfigDocument) : Prop :=
  (∀ key ∈ document.scalars.keys, key ∉ document.lists ∧ key ∉ document.mappings) ∧
    ∀ key ∈ document.lists.keys, key ∉ document.mappings

instance (document : ConfigDocument) : Decidable document.DisjointKeys :=
  inferInstanceAs (Decidable (_ ∧ _))

inductive SettingKind where
  | text
  | flag
  | number
deriving DecidableEq

def requiredKinds : List (String × SettingKind) := [
  ("schema_version", .number),
  ("service.instance_id", .text),
  ("robot.id", .text),
  ("robot.driver", .text),
  ("robot.address", .text),
  ("robot.model", .text),
  ("robot.verify_sdk_version", .flag),
  ("robot.sdk_debug_logging", .flag),
  ("service.state_poll_ms", .number),
  ("service.state_stale_after_ms", .number),
  ("service.command_queue_capacity", .number),
  ("service.command_history_capacity", .number),
  ("control_lease.ttl_ms", .number),
  ("control_lease.jog_heartbeat_timeout_ms", .number),
  ("limits.motion_enabled", .flag),
  ("limits.program_execution_enabled", .flag),
  ("limits.maximum_joint_speed_percent", .number),
  ("limits.maximum_linear_speed_mm_per_second", .number)]

/-- The setting is present and reads as a value of its kind. -/
def ConfigDocument.WellTyped (document : ConfigDocument) (key : String) : SettingKind → Prop
  | .text => ∃ value, requiredScalar document key = .ok value
  | .flag => ∃ value, parseBool document key = .ok value
  | .number => ∃ value, parseInt document key = .ok value

structure ConfigDocument.WellFormed (document : ConfigDocument) : Prop where
  version : parseInt document "schema_version" = .ok 1
  scalars : ∀ key ∈ document.scalars, isTransportExtension key = false → key ∈ knownScalars
  lists : ∀ key ∈ document.lists, isTransportExtension key = false → key ∈ knownLists
  mappings : ∀ key ∈ document.mappings, isTransportExtension key = false → key ∈ knownMappings
  required : ∀ setting ∈ requiredKinds, document.WellTyped setting.1 setting.2

/-- A section in the place of a list is refused when the list is read. -/
theorem not_mem_mappings_of_optionalList {document : ConfigDocument} {key : String}
    {values : List String} (disjoint : document.DisjointKeys)
    (read : optionalList document key = .ok values) : key ∉ document.mappings := by
  rcases optionalList_eq_ok_iff.mp read with ⟨found, _⟩ | ⟨_, _, notOther⟩
  · apply disjoint.2 key
    exact FiniteMap.mem_of_lookup found
  · exact fun mapping => notOther (.inl mapping)

theorem ConfigDocument.Accepted.wellFormed {document : ConfigDocument}
    {settings : RequiredSettings} {optional : OptionalSettings} (disjoint : document.DisjointKeys)
    (accepted : document.Accepted settings optional) : document.WellFormed where
  version := accepted.version
  scalars := accepted.known.scalars
  lists := accepted.known.lists
  mappings := by
    intro key mapping notExtension
    rcases accepted.known.mappings key mapping notExtension with isMapping | isList
    · exact isMapping
    · rcases jointLimits_eq_ok_iff.mp accepted.limits with ⟨_, limits, _⟩
      rcases writableDigitalOutputs_eq_ok_iff.mp accepted.outputs with ⟨_, outputs, _⟩
      simp only [knownLists, List.mem_cons, List.not_mem_nil, or_false] at isList
      rcases isList with rfl | rfl | rfl
      · exact absurd mapping (not_mem_mappings_of_optionalList disjoint limits)
      · exact absurd mapping (not_mem_mappings_of_optionalList disjoint outputs)
      · exact absurd mapping (not_mem_mappings_of_optionalList disjoint accepted.programs)
  required := by
    have required := accepted.required
    simp only [requiredKinds, List.forall_mem_cons, ConfigDocument.WellTyped]
    exact ⟨⟨_, accepted.version⟩, ⟨_, required.instanceId⟩, ⟨_, required.robotId⟩,
      ⟨_, required.driverName⟩, ⟨_, required.address⟩, ⟨_, required.modelName⟩,
      ⟨_, required.verifySdk⟩, ⟨_, required.sdkDebug⟩, ⟨_, required.statePoll⟩,
      ⟨_, required.stateStale⟩, ⟨_, required.queueSize⟩, ⟨_, required.historySize⟩,
      ⟨_, required.leaseTtl⟩, ⟨_, required.jogTimeout⟩, ⟨_, required.motionEnabled⟩,
      ⟨_, required.programsEnabled⟩, ⟨_, required.maximumJointSpeed⟩,
      ⟨_, required.maximumLinearSpeed⟩, by simp⟩

/-! ### Optional settings -/

/-- The document has an entry for a setting of the workspace. -/
def ConfigDocument.SetsWorkspace (document : ConfigDocument) : Prop :=
  ∃ key ∈ workspaceKeys, document.Present key

/-- The document has the workspace section or an entry for one of its settings. -/
def ConfigDocument.GivesWorkspace (document : ConfigDocument) : Prop :=
  document.Present "limits.cartesian_workspace" ∨ document.SetsWorkspace

/-- A workspace section is not empty. -/
def ConfigDocument.FillsWorkspace (document : ConfigDocument) : Prop :=
  document.Present "limits.cartesian_workspace" → document.SetsWorkspace

/-- The optional settings that a document gives, in any kind, are well formed and in effect; limits
and a workspace count as verified exactly if it gives them. -/
structure ConfigDocument.CarriedBy (document : ConfigDocument) (config : ServiceConfig) : Prop where
  axisCount : document.Present "robot.axis_count" →
    parseInt document "robot.axis_count" = .ok (config.connection.expectedAxisCount : ℤ) ∧
      1 ≤ config.connection.expectedAxisCount
  limitsVerified : config.safetyPolicy.jointLimitsVerified = true ↔
    document.Present "limits.joint_limits_deg"
  limits : document.Present "limits.joint_limits_deg" →
    ∃ values, document.lists.lookup "limits.joint_limits_deg" = some values ∧
      List.Forall₂ (fun value limit => parseRange value "limits.joint_limits_deg" = .ok limit)
        values config.safetyPolicy.jointLimits
  workspaceVerified : config.safetyPolicy.cartesianWorkspaceVerified = true ↔
    document.GivesWorkspace
  workspace : document.GivesWorkspace →
    WorkspaceSettings.ReadFrom ⟨config.safetyPolicy.cartesianWorkspaceFrame,
      config.safetyPolicy.cartesianWorkspace⟩ document
  outputs : document.Present "limits.writable_digital_outputs" →
    ∃ values, document.lists.lookup "limits.writable_digital_outputs" = some values ∧
      List.Forall₂ (fun value (output : ℕ) =>
        parseIntScalar value "writable output" = .ok (output : ℤ)) values
          config.safetyPolicy.writableDigitalOutputs
  programs : document.Present "limits.approved_programs" →
    document.lists.lookup "limits.approved_programs" = some config.safetyPolicy.approvedPrograms

section Accepted

variable {document : ConfigDocument} {settings : RequiredSettings} {optional : OptionalSettings}

theorem jointLimitsVerified_iff :
    (settings.serviceConfig optional).safetyPolicy.jointLimitsVerified = true ↔
      optional.jointLimits ≠ [] := by
  simp [RequiredSettings.serviceConfig, RequiredSettings.safetyPolicy]

theorem ConfigDocument.Accepted.jointLimits_ne_nil_iff
    (accepted : document.Accepted settings optional) :
    optional.jointLimits ≠ [] ↔ document.Present "limits.joint_limits_deg" := by
  rcases jointLimits_eq_ok_iff.mp accepted.limits with ⟨values, read, parsed⟩
  have sameLength : values.length = optional.jointLimits.length := parsed.length_eq
  constructor
  · intro nonempty
    apply present_of_optionalList _ read
    rintro rfl
    exact nonempty (List.eq_nil_of_length_eq_zero sameLength.symm)
  · intro present empty
    rw [empty] at sameLength
    exact (lookup_of_optionalList present read).2 (List.eq_nil_of_length_eq_zero sameLength)

theorem ConfigDocument.Accepted.workspace_isSome_iff
    (accepted : document.Accepted settings optional) :
    optional.workspace.isSome = true ↔ document.SetsWorkspace := by
  rw [isSome_of_optionalWorkspace accepted.workspace, hasWorkspace_iff]
  constructor
  · rintro ⟨key, listed, scalar⟩
    exact ⟨key, listed, .inl scalar⟩
  · rintro ⟨key, listed, present⟩
    have single : ∀ key ∈ workspaceKeys,
        isTransportExtension key = false ∧ key ∉ knownLists ∧ key ∉ knownMappings := by decide
    rcases single key listed with ⟨notExtension, notList, notMapping⟩
    exact ⟨key, listed, accepted.known.mem_scalars present notExtension notList notMapping⟩

/-- The workspace settings that are read are in effect. -/
theorem ConfigDocument.Accepted.readFrom (accepted : document.Accepted settings optional)
    (sets : document.SetsWorkspace) :
    WorkspaceSettings.ReadFrom
      ⟨(settings.serviceConfig optional).safetyPolicy.cartesianWorkspaceFrame,
        (settings.serviceConfig optional).safetyPolicy.cartesianWorkspace⟩ document := by
  rcases Option.isSome_iff_exists.mp (accepted.workspace_isSome_iff.mpr sets) with
    ⟨workspace, found⟩
  have read : optionalWorkspace document = .ok (some workspace) := found ▸ accepted.workspace
  simpa [RequiredSettings.serviceConfig, RequiredSettings.safetyPolicy, found] using
    readFrom_of_optionalWorkspace read

theorem ConfigDocument.Accepted.axisCount_parsed (accepted : document.Accepted settings optional)
    (present : document.Present "robot.axis_count") :
    parseInt document "robot.axis_count" =
        .ok ((settings.serviceConfig optional).connection.expectedAxisCount : ℤ) ∧
      1 ≤ (settings.serviceConfig optional).connection.expectedAxisCount := by
  have scalar : "robot.axis_count" ∈ document.scalars :=
    accepted.known.mem_scalars present (by decide) (by decide) (by decide)
  rcases FiniteMap.exists_lookup_of_mem scalar with ⟨value, found⟩
  have read := accepted.axisCount
  rw [expectedAxisCount, found] at read
  rw [← parseIntScalar_of_lookup found]
  exact parseAtLeast_eq_ok_iff.mp read

theorem ConfigDocument.Accepted.limitsVerified_iff
    (accepted : document.Accepted settings optional) :
    (settings.serviceConfig optional).safetyPolicy.jointLimitsVerified = true ↔
      document.Present "limits.joint_limits_deg" :=
  jointLimitsVerified_iff.trans accepted.jointLimits_ne_nil_iff

theorem ConfigDocument.Accepted.limits_parsed (accepted : document.Accepted settings optional)
    (present : document.Present "limits.joint_limits_deg") :
    ∃ values, document.lists.lookup "limits.joint_limits_deg" = some values ∧
      List.Forall₂ (fun value limit => parseRange value "limits.joint_limits_deg" = .ok limit)
        values (settings.serviceConfig optional).safetyPolicy.jointLimits := by
  rcases jointLimits_eq_ok_iff.mp accepted.limits with ⟨values, read, parsed⟩
  exact ⟨values, (lookup_of_optionalList present read).1, parsed⟩

theorem ConfigDocument.Accepted.carriedBy (accepted : document.Accepted settings optional)
    (fills : document.FillsWorkspace) : document.CarriedBy (settings.serviceConfig optional) where
  axisCount := accepted.axisCount_parsed
  limitsVerified := accepted.limitsVerified_iff
  limits := accepted.limits_parsed
  workspaceVerified := by
    refine accepted.workspace_isSome_iff.trans ⟨.inr, ?_⟩
    rintro (present | sets)
    · exact fills present
    · exact sets
  workspace := by
    rintro (present | sets)
    · exact accepted.readFrom (fills present)
    · exact accepted.readFrom sets
  outputs := by
    intro present
    rcases writableDigitalOutputs_eq_ok_iff.mp accepted.outputs with ⟨values, read, parsed⟩
    exact ⟨values, (lookup_of_optionalList present read).1, parsed⟩
  programs := by
    intro present
    exact (lookup_of_optionalList present accepted.programs).1

/-! ### Configurations -/

/-- What is enabled or verified is backed by settings. -/
structure ServiceConfig.Consistent (config : ServiceConfig) : Prop where
  motion : config.safetyPolicy.motionEnabled = true →
    config.safetyPolicy.jointLimitsVerified = true
  limits : config.safetyPolicy.jointLimitsVerified = true →
    config.safetyPolicy.jointLimits ≠ [] ∧
      ∀ limit ∈ config.safetyPolicy.jointLimits, limit.minimumDeg < limit.maximumDeg
  axes : config.safetyPolicy.jointLimitsVerified = true →
    config.connection.expectedAxisCount ≠ 0 →
      config.safetyPolicy.jointLimits.length = config.connection.expectedAxisCount
  workspace : config.safetyPolicy.cartesianWorkspaceVerified = true →
    config.safetyPolicy.cartesianWorkspaceFrame ≠ "" ∧
      config.safetyPolicy.cartesianWorkspace.minimumXMm <
        config.safetyPolicy.cartesianWorkspace.maximumXMm ∧
      config.safetyPolicy.cartesianWorkspace.minimumYMm <
        config.safetyPolicy.cartesianWorkspace.maximumYMm ∧
      config.safetyPolicy.cartesianWorkspace.minimumZMm <
        config.safetyPolicy.cartesianWorkspace.maximumZMm
  programs : config.safetyPolicy.programExecutionEnabled = true →
    config.safetyPolicy.approvedPrograms ≠ []
  speed : 1 ≤ config.safetyPolicy.maximumJointSpeedPercent ∧
    config.safetyPolicy.maximumJointSpeedPercent ≤ 100

theorem WorkspaceSettings.ReadFrom.ordered {workspace : WorkspaceSettings}
    (read : workspace.ReadFrom document) :
    workspace.frame ≠ "" ∧ workspace.workspace.minimumXMm < workspace.workspace.maximumXMm ∧
      workspace.workspace.minimumYMm < workspace.workspace.maximumYMm ∧
      workspace.workspace.minimumZMm < workspace.workspace.maximumZMm := by
  rcases read.x with ⟨_, _, x⟩
  rcases read.y with ⟨_, _, y⟩
  rcases read.z with ⟨_, _, z⟩
  exact ⟨(requiredScalar_eq_ok_iff.mp read.frame).2, lt_of_parseRange x, lt_of_parseRange y,
    lt_of_parseRange z⟩

theorem outOfRange_eq_false_iff :
    settings.outOfRange = false ↔
      1 ≤ settings.statePoll ∧ settings.statePoll ≤ settings.stateStale ∧
        1 ≤ settings.queueSize ∧ 1 ≤ settings.historySize ∧ 1 ≤ settings.leaseTtl ∧
        settings.statePoll ≤ settings.jogTimeout ∧ 1 ≤ settings.maximumJointSpeed ∧
        settings.maximumJointSpeed ≤ 100 ∧ 1 ≤ settings.maximumLinearSpeed := by
  simp only [RequiredSettings.outOfRange, Bool.or_eq_false_iff, decide_eq_false_iff_not, not_lt,
    and_assoc]

theorem ConfigDocument.Accepted.consistent (accepted : document.Accepted settings optional) :
    (settings.serviceConfig optional).Consistent where
  motion := by
    intro enabled
    apply jointLimitsVerified_iff.mpr
    intro empty
    exact accepted.motion ⟨enabled, empty⟩
  limits := by
    intro verified
    rcases jointLimits_eq_ok_iff.mp accepted.limits with ⟨values, _, parsed⟩
    refine ⟨jointLimitsVerified_iff.mp verified, ?_⟩
    exact forall_mem_of_forall₂ parsed fun _ _ range => lt_of_parseRange range
  axes := by
    intro verified given
    by_contra different
    exact accepted.counted ⟨given, jointLimitsVerified_iff.mp verified, different⟩
  workspace := by
    intro verified
    exact (accepted.readFrom (accepted.workspace_isSome_iff.mp verified)).ordered
  programs := by
    intro enabled empty
    exact accepted.execution ⟨enabled, empty⟩
  speed := by
    have inRange := outOfRange_eq_false_iff.mp accepted.inRange
    exact ⟨inRange.2.2.2.2.2.2.1, inRange.2.2.2.2.2.2.2.1⟩

end Accepted

/-- A document loads only if it is well formed, and then into a consistent configuration; the
configuration carries every optional setting that the document gives exactly if a workspace section
is not empty. -/
theorem loadServiceConfig_fails_closed_iff {document : ConfigDocument} {config : ServiceConfig}
    (disjoint : document.DisjointKeys) (loaded : loadServiceConfig document = .ok config) :
    document.WellFormed ∧ config.Consistent ∧
      (document.CarriedBy config ↔ document.FillsWorkspace) := by
  rcases loadServiceConfig_eq_ok_iff.mp loaded with ⟨settings, optional, accepted, rfl⟩
  refine ⟨accepted.wellFormed disjoint, accepted.consistent, ?_, accepted.carriedBy⟩
  intro carried present
  exact accepted.workspace_isSome_iff.mp (carried.workspaceVerified.mpr (.inl present))

/-! ### A site's document -/

/-- The document of `er150_2700.yaml`. -/
def er150Document : ConfigDocument where
  scalars := List.toAList [
    ⟨"schema_version", "1"⟩,
    ⟨"service.instance_id", "er150-2700-01-edge"⟩,
    ⟨"service.state_poll_ms", "50"⟩,
    ⟨"service.state_stale_after_ms", "500"⟩,
    ⟨"service.command_queue_capacity", "16"⟩,
    ⟨"service.command_history_capacity", "4096"⟩,
    ⟨"robot.id", "er150-2700-01"⟩,
    ⟨"robot.driver", "efort"⟩,
    ⟨"robot.address", "192.168.1.12"⟩,
    ⟨"robot.model", "ER150-2700"⟩,
    ⟨"robot.axis_count", "6"⟩,
    ⟨"robot.verify_sdk_version", "true"⟩,
    ⟨"robot.sdk_debug_logging", "false"⟩,
    ⟨"control_lease.ttl_ms", "3000"⟩,
    ⟨"control_lease.jog_heartbeat_timeout_ms", "300"⟩,
    ⟨"limits.motion_enabled", "false"⟩,
    ⟨"limits.program_execution_enabled", "false"⟩,
    ⟨"limits.maximum_joint_speed_percent", "20"⟩,
    ⟨"limits.maximum_linear_speed_mm_per_second", "500"⟩,
    ⟨"transport.grpc.listen", "127.0.0.1:50051"⟩,
    ⟨"transport.grpc.allow_insecure_loopback", "true"⟩]
  mappings := ["service", "robot", "control_lease", "limits", "transport", "transport.grpc"]

/-- A document with one setting changed or added. -/
def ConfigDocument.withScalar (document : ConfigDocument) (key value : String) : ConfigDocument :=
  { document with scalars := document.scalars.insert key value }

/-- The same document with the settings in force that the file leaves in comments. -/
def enabledDocument : ConfigDocument :=
  { er150Document with
    scalars := List.toAList [
      ⟨"limits.motion_enabled", "true"⟩,
      ⟨"limits.program_execution_enabled", "true"⟩,
      ⟨"limits.cartesian_workspace.frame", "wobj0"⟩,
      ⟨"limits.cartesian_workspace.x_mm", "-1500:1500"⟩,
      ⟨"limits.cartesian_workspace.y_mm", "-1500:1500"⟩,
      ⟨"limits.cartesian_workspace.z_mm", "0:2000"⟩] ∪ er150Document.scalars
    lists := List.toAList [
      ⟨"limits.joint_limits_deg", List.replicate 6 "-170:170"⟩,
      ⟨"limits.writable_digital_outputs", ["0"]⟩,
      ⟨"limits.approved_programs", ["approved-program"]⟩]
    mappings := "limits.cartesian_workspace" :: er150Document.mappings }

theorem enabledDocument_loads : ∃ config, loadServiceConfig enabledDocument = .ok config := by
  have loads : (loadServiceConfig enabledDocument).toOption.any (fun _ => true) = true := by
    decide +kernel
  rcases exists_of_any loads with ⟨config, loaded, _⟩
  exact ⟨config, loaded⟩

/-- A document that gives the workspace in full. -/
theorem loadServiceConfig_enabledDocument :
    ∃ config, loadServiceConfig enabledDocument = .ok config ∧
      enabledDocument.WellFormed ∧ enabledDocument.CarriedBy config ∧ config.Consistent := by
  rcases enabledDocument_loads with ⟨config, loaded⟩
  have fills : enabledDocument.FillsWorkspace := fun _ =>
    ⟨"limits.cartesian_workspace.frame", by decide, .inl (by decide +kernel)⟩
  rcases loadServiceConfig_fails_closed_iff (by decide +kernel) loaded with
    ⟨wellFormed, consistent, carried⟩
  exact ⟨config, loaded, wellFormed, carried.mpr fills, consistent⟩

/-- The site's document with a workspace section that is left empty. -/
def emptyWorkspaceDocument : ConfigDocument :=
  { er150Document with mappings := "limits.cartesian_workspace" :: er150Document.mappings }

/-- The empty section is dropped, and the workspace stays unverified at its default. -/
theorem empty_workspace_dropped : ∃ config,
    emptyWorkspaceDocument.DisjointKeys ∧
    loadServiceConfig emptyWorkspaceDocument = .ok config ∧
    emptyWorkspaceDocument.Present "limits.cartesian_workspace" ∧
    config.safetyPolicy.cartesianWorkspaceVerified = false ∧
    config.safetyPolicy.cartesianWorkspace = {} ∧
    ¬emptyWorkspaceDocument.CarriedBy config := by
  have loads : (loadServiceConfig emptyWorkspaceDocument).toOption.any (fun config =>
      !config.safetyPolicy.cartesianWorkspaceVerified &&
        config.safetyPolicy.cartesianWorkspace == {}) = true := by
    decide +kernel
  rcases exists_of_any loads with ⟨config, loaded, dropped⟩
  simp only [Bool.and_eq_true, Bool.not_eq_true', beq_iff_eq] at dropped
  have present : emptyWorkspaceDocument.Present "limits.cartesian_workspace" :=
    .inr (.inr (by decide))
  refine ⟨config, by decide +kernel, loaded, present, dropped.1, dropped.2, ?_⟩
  intro carried
  cases dropped.1.symm.trans (carried.workspaceVerified.mpr (.inl present))

end RobotManager
