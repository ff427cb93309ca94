import RobotManager.Config.ConfigLoader

/-!
# What a loaded configuration is made of

A document loads exactly if it passes every check of `LoadServiceConfig`.  From this it follows
that loading fails closed: a document that loads is well formed, the settings it gives are the ones
in effect, and what is enabled or verified in the configuration is backed by such settings.
-/

namespace RobotManager

open Checked

/-! ### Documents that pass the checks -/

theorem firstUnknown_eq_none_iff {known keys : List String} :
    firstUnknown known keys = none ↔
      ∀ key ∈ keys, isTransportExtension key = false → key ∈ known := by
  simp only [firstUnknown, List.min?_eq_none_iff, List.filter_eq_nil_iff, Bool.and_eq_true,
    Bool.not_eq_true', List.contains_eq_mem, decide_eq_false_iff_not, not_and]
  grind

/-- Every key is one of the loader's for an entry of its kind, or an extension. -/
structure ConfigDocument.Known (document : ConfigDocument) : Prop where
  scalars : ∀ key ∈ document.scalars, isTransportExtension key = false → key ∈ knownScalars
  lists : ∀ key ∈ document.lists, isTransportExtension key = false → key ∈ knownLists
  mappings : ∀ key ∈ document.mappings, isTransportExtension key = false →
    key ∈ knownMappings ∨ key ∈ knownLists

theorem ok_checkKnownKeys_iff {document : ConfigDocument} :
    (checkKnownKeys document).ok = true ↔ document.Known := by
  constructor
  · intro passed
    unfold checkKnownKeys at passed
    split at passed
    · cases passed
    · next scalars =>
      split at passed
      · cases passed
      · next lists =>
        split at passed
        · cases passed
        · next mappings =>
          rw [firstUnknown_eq_none_iff] at scalars lists mappings
          refine ⟨scalars, lists, ?_⟩
          intro key present notExtension
          exact List.mem_append.mp (mappings key present notExtension)
  · intro known
    have scalars : firstUnknown knownScalars document.scalars.keys = none :=
      firstUnknown_eq_none_iff.mpr known.scalars
    have lists : firstUnknown knownLists document.lists.keys = none :=
      firstUnknown_eq_none_iff.mpr known.lists
    have mappings : firstUnknown (knownMappings ++ knownLists) document.mappings = none := by
      rw [firstUnknown_eq_none_iff]
      intro key present notExtension
      exact List.mem_append.mpr (known.mappings key present notExtension)
    simp [checkKnownKeys, scalars, lists, mappings]

/-- The required settings as they stand in a document. -/
structure RequiredSettings.ReadFrom (settings : RequiredSettings) (document : ConfigDocument) :
    Prop where
  instanceId : requiredScalar document "service.instance_id" = .ok settings.instanceId
  robotId : requiredScalar document "robot.id" = .ok settings.robotId
  driverName : requiredScalar document "robot.driver" = .ok settings.driverName
  address : requiredScalar document "robot.address" = .ok settings.address
  modelName : requiredScalar document "robot.model" = .ok settings.modelName
  verifySdk : parseBool document "robot.verify_sdk_version" = .ok settings.verifySdk
  sdkDebug : parseBool document "robot.sdk_debug_logging" = .ok settings.sdkDebug
  statePoll : parseInt document "service.state_poll_ms" = .ok settings.statePoll
  stateStale : parseInt document "service.state_stale_after_ms" = .ok settings.stateStale
  queueSize : parseInt document "service.command_queue_capacity" = .ok settings.queueSize
  historySize : parseInt document "service.command_history_capacity" = .ok settings.historySize
  leaseTtl : parseInt document "control_lease.ttl_ms" = .ok settings.leaseTtl
  jogTimeout :
    parseInt document "control_lease.jog_heartbeat_timeout_ms" = .ok settings.jogTimeout
  motionEnabled : parseBool document "limits.motion_enabled" = .ok settings.motionEnabled
  programsEnabled :
    parseBool document "limits.program_execution_enabled" = .ok settings.programsEnabled
  maximumJointSpeed :
    parseInt document "limits.maximum_joint_speed_percent" = .ok settings.maximumJointSpeed
  maximumLinearSpeed :
    parseInt document "limits.maximum_linear_speed_mm_per_second" =
      .ok settings.maximumLinearSpeed

theorem requiredSettings_eq_ok_iff {document : ConfigDocument} {settings : RequiredSettings} :
    requiredSettings document = .ok settings ↔ settings.ReadFrom document := by
  constructor
  · intro read
    simp only [requiredSettings, bind_eq_ok_iff, Except.ok.injEq] at read
    rcases read with ⟨_, instanceId, _, robotId, _, driverName, _, address, _, modelName, _,
      verifySdk, _, sdkDebug, _, statePoll, _, stateStale, _, queueSize, _, historySize, _,
      leaseTtl, _, jogTimeout, _, motionEnabled, _, programsEnabled, _, maximumJointSpeed, _,
      maximumLinearSpeed, rfl⟩
    constructor <;> assumption
  · intro read
    cases settings
    cases read
    simp_all [requiredSettings, bind_eq_ok_iff]

/-- The settings with which a document passes every check. -/
structure ConfigDocument.Accepted (document : ConfigDocument) (settings : RequiredSettings)
    (optional : OptionalSettings) : Prop where
  known : document.Known
  version : parseInt document "schema_version" = .ok 1
  required : settings.ReadFrom document
  inRange : settings.outOfRange = false
  axisCount : expectedAxisCount document = .ok optional.axisCount
  limits : jointLimits document = .ok optional.jointLimits
  counted : ¬(optional.axisCount ≠ 0 ∧ optional.jointLimits ≠ [] ∧
    optional.jointLimits.length ≠ optional.axisCount)
  motion : ¬(settings.motionEnabled = true ∧ optional.jointLimits = [])
  workspace : optionalWorkspace document = .ok optional.workspace
  outputs : writableDigitalOutputs document = .ok optional.outputs
  programs : optionalList document "limits.approved_programs" = .ok optional.programs
  execution : ¬(settings.programsEnabled = true ∧ optional.programs = [])

theorem loadServiceConfig_eq_ok_iff {document : ConfigDocument} {config : ServiceConfig} :
    loadServiceConfig document = .ok config ↔
      ∃ settings optional, document.Accepted settings optional ∧
        settings.serviceConfig optional = config := by
  simp only [loadServiceConfig, bind_eq_ok_iff, reject_eq_ok_iff, exists_const, Except.ok.injEq,
    requiredSettings_eq_ok_iff, Bool.not_eq_false, ok_checkKnownKeys_iff, not_not,
    Bool.not_eq_true]
  constructor
  · rintro ⟨known, _, version, rfl, settings, required, inRange, _, axisCount, _, limits, counted,
      motion, _, workspace, _, outputs, _, programs, execution, rfl⟩
    exact ⟨settings, ⟨_, _, _, _, _⟩, ⟨known, version, required, inRange, axisCount, limits,
      counted, motion, workspace, outputs, programs, execution⟩, rfl⟩
  · rintro ⟨settings, optional, accepted, rfl⟩
    exact ⟨accepted.known, 1, accepted.version, rfl, settings, accepted.required,
      accepted.inRange, _, accepted.axisCount, _, accepted.limits, accepted.counted,
      accepted.motion, _, accepted.workspace, _, accepted.outputs, _, accepted.programs,
      accepted.execution, rfl⟩

/-! ### Settings that are given -/

/-- The document has an entry of some kind under the key. -/
def ConfigDocument.Present (document : ConfigDocument) (key : String) : Prop :=
  key ∈ document.scalars ∨ key ∈ document.lists ∨ key ∈ document.mappings

/-- An entry under the key of a single setting is that setting. -/
theorem ConfigDocument.Known.mem_scalars {document : ConfigDocument} {key : String}
    (known : document.Known) (present : document.Present key)
    (notExtension : isTransportExtension key = false) (notList : key ∉ knownLists)
    (notMapping : key ∉ knownMappings) : key ∈ document.scalars := by
  rcases present with scalar | list | mapping
  · exact scalar
  · exact absurd (known.lists key list notExtension) notList
  · rcases known.mappings key mapping notExtension with isMapping | isList
    · exact absurd isMapping notMapping
    · exact absurd isList notList

theorem lookup_of_optionalList {document : ConfigDocument} {key : String} {values : List String}
    (present : document.Present key) (read : optionalList document key = .ok values) :
    document.lists.lookup key = some values ∧ values ≠ [] := by
  rcases optionalList_eq_ok_iff.mp read with given | ⟨_, absent, notOther⟩
  · exact given
  · rcases present with scalar | list | mapping
    · exact absurd (.inr scalar) notOther
    · exact absurd list (AList.lookup_eq_none.mp absent)
    · exact absurd (.inl mapping) notOther

theorem present_of_optionalList {document : ConfigDocument} {key : String} {values : List String}
    (nonempty : values ≠ []) (read : optionalList document key = .ok values) :
    document.Present key := by
  rcases optionalList_eq_ok_iff.mp read with ⟨found, _⟩ | ⟨empty, _, _⟩
  · exact .inr (.inl (FiniteMap.mem_of_lookup found))
  · exact absurd empty nonempty

theorem parseAtLeast_eq_ok_iff {least number : ℕ} {value key message : String} :
    parseAtLeast least value key message = .ok number ↔
      parseIntScalar value key = .ok (number : ℤ) ∧ least ≤ number := by
  unfold parseAtLeast
  cases parsed : parseIntScalar value key with
  | error status => simp
  | ok stored =>
      dsimp only
      split
      · next below =>
        simp only [reduceCtorEq, Except.ok.injEq, false_iff, not_and]
        omega
      · next reached =>
        simp only [Except.ok.injEq]
        omega

theorem jointLimits_eq_ok_iff {document : ConfigDocument} {limits : List JointLimit} :
    jointLimits document = .ok limits ↔
      ∃ values, optionalList document "limits.joint_limits_deg" = .ok values ∧
        List.Forall₂ (fun value limit => parseRange value "limits.joint_limits_deg" = .ok limit)
          values limits := by
  simp only [jointLimits, bind_eq_ok_iff, mapM_eq_ok_iff]

theorem writableDigitalOutputs_eq_ok_iff {document : ConfigDocument} {outputs : List ℕ} :
    writableDigitalOutputs document = .ok outputs ↔
      ∃ values, optionalList document "limits.writable_digital_outputs" = .ok values ∧
        List.Forall₂ (fun value (output : ℕ) =>
          parseIntScalar value "writable output" = .ok (output : ℤ)) values outputs := by
  simp only [writableDigitalOutputs, bind_eq_ok_iff, mapM_eq_ok_iff, parseAtLeast_eq_ok_iff,
    Nat.zero_le, and_true]

/-- A setting of the document is a range with the given bounds. -/
def ConfigDocument.HasRange (document : ConfigDocument) (key : String) (limit : JointLimit) :
    Prop :=
  ∃ value, document.scalars.lookup key = some value ∧ parseRange value key = .ok limit

structure WorkspaceSettings.ReadFrom (settings : WorkspaceSettings) (document : ConfigDocument) :
    Prop where
  frame : requiredScalar document "limits.cartesian_workspace.frame" = .ok settings.frame
  x : document.HasRange "limits.cartesian_workspace.x_mm"
    ⟨settings.workspace.minimumXMm, settings.workspace.maximumXMm⟩
  y : document.HasRange "limits.cartesian_workspace.y_mm"
    ⟨settings.workspace.minimumYMm, settings.workspace.maximumYMm⟩
  z : document.HasRange "limits.cartesian_workspace.z_mm"
    ⟨settings.workspace.minimumZMm, settings.workspace.maximumZMm⟩

theorem readFrom_of_cartesianWorkspace {document : ConfigDocument} {settings : WorkspaceSettings}
    (read : cartesianWorkspace document = .ok settings) : settings.ReadFrom document := by
  unfold cartesianWorkspace at read
  split at read
  · next frame xRange yRange zRange frameFound xFound yFound zFound =>
    simp only [bind_eq_ok_iff, reject_eq_ok_iff, exists_const, Except.ok.injEq] at read
    rcases read with ⟨nonempty, x, xParsed, y, yParsed, z, zParsed, rfl⟩
    exact ⟨requiredScalar_eq_ok_iff.mpr ⟨frameFound, nonempty⟩, ⟨_, xFound, xParsed⟩,
      ⟨_, yFound, yParsed⟩, ⟨_, zFound, zParsed⟩⟩
  · cases read

def workspaceKeys : List String := [
  "limits.cartesian_workspace.frame",
  "limits.cartesian_workspace.x_mm",
  "limits.cartesian_workspace.y_mm",
  "limits.cartesian_workspace.z_mm"]

theorem hasWorkspace_iff {document : ConfigDocument} :
    hasWorkspace document = true ↔ ∃ key ∈ workspaceKeys, key ∈ document.scalars := by
  simp [hasWorkspace, workspaceKeys, AList.lookup_isSome, or_assoc]

theorem readFrom_of_optionalWorkspace {document : ConfigDocument} {settings : WorkspaceSettings}
    (read : optionalWorkspace document = .ok (some settings)) : settings.ReadFrom document := by
  unfold optionalWorkspace at read
  split at read
  · cases workspace : cartesianWorkspace document with
    | error status => simp [workspace, Except.map] at read
    | ok stored =>
        simp only [workspace, Except.map, Except.ok.injEq, Option.some.injEq] at read
        subst read
        exact readFrom_of_cartesianWorkspace workspace
  · cases read

theorem isSome_of_optionalWorkspace {document : ConfigDocument}
    {workspace : Option WorkspaceSettings} (read : optionalWorkspace document = .ok workspace) :
    workspace.isSome = hasWorkspace document := by
  unfold optionalWorkspace at read
  split at read
  · next given =>
    cases stored : cartesianWorkspace document with
    | error status => simp [stored, Except.map] at read
    | ok settings =>
        simp only [stored, Except.map, Except.ok.injEq] at read
        simp [← read, given]
  · next missing =>
    cases read
    simp [missing]

end RobotManager
