import RobotManager.Control.Executor

/-!
# What the guard guarantees

The conditions under which the robot may be set in motion and the limits the site policy
puts on driver calls, in terms of their own, and how far a request that passes the guard
satisfies them.
-/

namespace RobotManager

/-- A request passes the guard on the given evidence. -/
def Evidence.Passes (policy : SafetyPolicy) (request : CommandRequest) (evidence : Evidence) :
    Prop :=
  (validate policy request evidence.snapshot evidence.leaseValid evidence.jogActive).ok = true

/-! ### Safe states for motion -/

/-- The robot may be set in motion. -/
structure MotionSafe (policy : SafetyPolicy) (evidence : Evidence) : Prop where
  leaseValid : evidence.leaseValid = true
  motionEnabled : policy.motionEnabled = true
  jointLimitsVerified : policy.jointLimitsVerified = true
  connected : evidence.snapshot.connected = true
  apiControl : evidence.snapshot.apiControl = true
  servoOn : evidence.snapshot.servoOn = true
  noEmergencyStop : evidence.snapshot.emergencyStop = false
  noAlarm : evidence.snapshot.alarmActive = false
  lifecycle : evidence.snapshot.lifecycle ∉
    [.unknown, .disconnected, .fault, .emergencyStop]

/-- The robot is held in a state from which motion may go on. -/
structure ResumeReady (policy : SafetyPolicy) (snapshot : RobotSnapshot) : Prop where
  lifecycle : snapshot.lifecycle = .paused
  apiControl : snapshot.apiControl = true
  servoOn : snapshot.servoOn = true
  motionEnabled : policy.motionEnabled = true
  jointLimitsVerified : policy.jointLimitsVerified = true

theorem requireLease_ok {leaseValid : Bool} (ok : (requireLease leaseValid).ok = true) :
    leaseValid = true := by
  cases leaseValid with
  | true => rfl
  | false => cases ok

theorem validatePayloadType_ok {request : CommandRequest}
    (ok : (validatePayloadType request).ok = true) :
    payloadTypeMatches request.type request.payload = true := by
  unfold validatePayloadType at ok
  split at ok
  · assumption
  · cases ok

theorem Evidence.Passes.payload {policy : SafetyPolicy} {request : CommandRequest}
    {evidence : Evidence} (passes : evidence.Passes policy request) :
    payloadTypeMatches request.type request.payload = true := by
  apply validatePayloadType_ok
  unfold Passes validate at passes
  split at passes
  · next rejected =>
    simp [passes] at rejected
  · next accepted => simpa using accepted

/-- The request behind a driver call. -/
theorem execute_origin {request : CommandRequest} {call : DriverCall}
    (executed : execute request = .ok call) :
    match call with
    | .moveJ target profile =>
        request.type = .moveJ ∧ request.payload = .moveJ ⟨target, profile⟩
    | .moveL target profile =>
        request.type = .moveL ∧ request.payload = .moveL ⟨target, profile⟩
    | .moveC target profile =>
        request.type = .moveC ∧ request.payload = .moveC ⟨target, profile⟩
    | .setGlobalSpeed ratio =>
        request.type = .setGlobalSpeed ∧ request.payload = .speed ⟨ratio⟩
    | .writeDigitalOutput index value =>
        request.type = .writeDigitalOutput ∧ request.payload = .digitalOutput ⟨index, value⟩
    | .loadProgram name => request.type = .loadProgram ∧ request.payload = .program ⟨name⟩
    | .jog command => request.type = .jog ∧ request.payload = .jog command
    | .startProgram => request.type = .startProgram
    | .resume => request.type = .resume
    | _ => True := by
  unfold execute at executed
  split at executed <;> cases executed <;> simp_all

theorem Evidence.Passes.commonMotion {policy : SafetyPolicy} {request : CommandRequest}
    {evidence : Evidence} (passes : evidence.Passes policy request)
    (motion : isMotionCommand request.type = true) :
    (validateCommonMotion policy evidence.snapshot evidence.leaseValid).ok = true := by
  unfold Passes validate at passes
  split at passes
  · next rejected =>
    simp [passes] at rejected
  cases type : request.type with
  | moveJ | moveL | moveC | startProgram =>
      simp only [type] at passes
      split at passes
      · next rejected =>
        simp [passes] at rejected
      · next accepted => simpa using accepted
  | _ => simp [type, isMotionCommand] at motion

theorem Evidence.Passes.jog {policy : SafetyPolicy} {request : CommandRequest}
    {evidence : Evidence} (passes : evidence.Passes policy request) {jog : JogCommand}
    (type : request.type = .jog) (payload : request.payload = .jog jog) :
    (validateJog policy jog evidence.snapshot evidence.leaseValid evidence.jogActive).ok =
      true := by
  unfold Passes validate at passes
  split at passes
  · next rejected =>
    simp [passes] at rejected
  · simpa only [type, payload] using passes

/-- What the shared preconditions of the motion commands establish. -/
theorem validateCommonMotion_ok {policy : SafetyPolicy} {evidence : Evidence}
    (ok : (validateCommonMotion policy evidence.snapshot evidence.leaseValid).ok = true) :
    MotionSafe policy evidence := by
  unfold validateCommonMotion at ok
  split at ok
  · next noLease =>
    simp [ok] at noLease
  next lease =>
  split at ok
  · cases ok
  next enabled =>
  split at ok
  · cases ok
  next ready =>
  have lease : evidence.leaseValid = true := requireLease_ok (by simpa using lease)
  simp only [Bool.or_eq_true, Bool.not_eq_true', not_or, Bool.not_eq_false] at enabled
  simp only [Bool.or_eq_true, bne_iff_ne, Bool.not_eq_true', not_or, ne_eq, not_not,
    Bool.not_eq_false, Bool.not_eq_true] at ready
  rcases ready with ⟨⟨⟨⟨⟨⟨⟨⟨⟨lifecycle, _⟩, connected⟩, apiControl⟩, servoOn⟩, noStop⟩, noAlarm⟩,
    _⟩, _⟩, _⟩
  exact ⟨lease, enabled.1, enabled.2, connected, apiControl, servoOn, noStop, noAlarm,
    by simp [lifecycle]⟩

/-- What the guard establishes for a jog that starts. -/
theorem validateJog_ok {policy : SafetyPolicy} {jog : JogCommand} {evidence : Evidence}
    (published : evidence.snapshot.Published) (starts : jog.start = true)
    (ok : (validateJog policy jog evidence.snapshot evidence.leaseValid evidence.jogActive).ok =
      true) : MotionSafe policy evidence := by
  unfold validateJog at ok
  split at ok
  · cases ok
  split at ok
  · next noLease =>
    simp [ok] at noLease
  next lease =>
  split at ok
  · cases ok
  next healthy =>
  split at ok
  · next ends =>
    simp [starts] at ends
  split at ok
  · cases ok
  split at ok
  · cases ok
  next enabled =>
  have lease : evidence.leaseValid = true := requireLease_ok (by simpa using lease)
  simp only [Bool.or_eq_true, bne_iff_ne, beq_iff_eq, Bool.not_eq_true', not_or, ne_eq, not_not,
    Bool.not_eq_false, Bool.not_eq_true] at healthy enabled
  rcases healthy with ⟨⟨⟨⟨⟨⟨connected, apiControl⟩, noStop⟩, noAlarm⟩, known⟩, _⟩, _⟩
  rcases enabled with ⟨⟨⟨motionEnabled, limitsVerified⟩, servoOn⟩, _⟩
  have derived := published.resolve_right known
  rcases deriveLifecycleState_healthy connected noStop noAlarm with ⟨stop, gone, fault, _⟩
  rw [← derived] at stop gone fault
  exact ⟨lease, motionEnabled, limitsVerified, connected, apiControl, servoOn, noStop, noAlarm,
    by simp [known, gone, fault, stop]⟩

/-- A resume passes the guard on a paused snapshot and a lease alone. -/
theorem Evidence.Passes.resume {policy : SafetyPolicy} {request : CommandRequest}
    {evidence : Evidence} (passes : evidence.Passes policy request)
    (type : request.type = .resume) :
    evidence.snapshot.paused = true ∧ evidence.leaseValid = true := by
  unfold Passes validate at passes
  split at passes
  · next rejected =>
    simp [passes] at rejected
  simp only [type] at passes
  split at passes
  · cases passes
  · next paused => exact ⟨by simpa using paused, requireLease_ok passes⟩

/-- A paused robot is safe to move exactly if it is ready to resume. -/
theorem motionSafe_iff_of_paused {policy : SafetyPolicy} {evidence : Evidence}
    (published : evidence.snapshot.Published) (paused : evidence.snapshot.paused = true)
    (lease : evidence.leaseValid = true) :
    MotionSafe policy evidence ↔ ResumeReady policy evidence.snapshot := by
  constructor
  · intro safe
    have known : evidence.snapshot.lifecycle ≠ .unknown := by
      intro unknown
      simpa [unknown] using safe.lifecycle
    have healthy := (deriveLifecycleState_paused paused).mpr
      ⟨safe.connected, safe.noEmergencyStop, safe.noAlarm⟩
    exact ⟨(published.resolve_right known).trans healthy, safe.apiControl, safe.servoOn,
      safe.motionEnabled, safe.jointLimitsVerified⟩
  · intro ready
    have known : evidence.snapshot.lifecycle ≠ .unknown := by simp [ready.lifecycle]
    have derived := (published.resolve_right known).symm.trans ready.lifecycle
    rcases (deriveLifecycleState_paused paused).mp derived with ⟨connected, noStop, noAlarm⟩
    exact ⟨lease, ready.motionEnabled, ready.jointLimitsVerified, connected, ready.apiControl,
      ready.servoOn, noStop, noAlarm, by simp [ready.lifecycle]⟩

/-- A request that starts motion and passes the guard finds the robot safe to move, except that a
resume also needs the robot to be ready for it. -/
theorem Evidence.Passes.motionSafe_iff {policy : SafetyPolicy} {request : CommandRequest}
    {evidence : Evidence} {call : DriverCall} (passes : evidence.Passes policy request)
    (published : evidence.snapshot.Published) (executed : execute request = .ok call)
    (starts : call.startsMotion = true) :
    MotionSafe policy evidence ↔
      (request.type = .resume → ResumeReady policy evidence.snapshot) := by
  by_cases resume : request.type = .resume
  · rcases passes.resume resume with ⟨paused, lease⟩
    rw [motionSafe_iff_of_paused published paused lease]
    exact ⟨fun ready _ => ready, fun ready => ready resume⟩
  · refine iff_of_true ?_ fun type => absurd type resume
    have origin := execute_origin executed
    cases call with
    | moveJ target profile | moveL target profile | moveC target profile =>
        exact validateCommonMotion_ok (passes.commonMotion (by simp [origin.1, isMotionCommand]))
    | startProgram =>
        exact validateCommonMotion_ok (passes.commonMotion (by simp [origin, isMotionCommand]))
    | jog command => exact validateJog_ok published starts (passes.jog origin.1 origin.2)
    | resume => exact absurd origin resume
    | _ => cases starts

/-! ### Limits on driver calls -/

/-- A joint target within its limit. -/
def JointLimit.Admits (limit : JointLimit) (value : Double) : Prop :=
  value.isFinite = true ∧ limit.minimumDeg ≤ value ∧ value ≤ limit.maximumDeg

/-- A pose with finite coordinates inside the workspace. -/
def CartesianWorkspace.Admits (workspace : CartesianWorkspace) (pose : CartesianPose) : Prop :=
  (pose.xMm.isFinite = true ∧ pose.yMm.isFinite = true ∧ pose.zMm.isFinite = true ∧
    pose.aDeg.isFinite = true ∧ pose.bDeg.isFinite = true ∧ pose.cDeg.isFinite = true) ∧
  (workspace.minimumXMm ≤ pose.xMm ∧ pose.xMm ≤ workspace.maximumXMm) ∧
  (workspace.minimumYMm ≤ pose.yMm ∧ pose.yMm ≤ workspace.maximumYMm) ∧
  (workspace.minimumZMm ≤ pose.zMm ∧ pose.zMm ≤ workspace.maximumZMm)

/-- A driver call that stays inside the site policy; `loaded` is the program of the last LoadProgram
call that succeeded. -/
def DriverCall.WithinPolicy (policy : SafetyPolicy) (loaded : Option String) : DriverCall → Prop
  | .moveJ target profile =>
      List.Forall₂ JointLimit.Admits policy.jointLimits target.position.degrees ∧
        1 ≤ profile.speedPercent ∧ profile.speedPercent ≤ policy.maximumJointSpeedPercent
  | .moveL target profile =>
      policy.cartesianWorkspaceVerified = true ∧
        policy.cartesianWorkspace.Admits target.pose ∧
        target.workObjectName = policy.cartesianWorkspaceFrame ∧
        1 ≤ profile.speedMmPerSecond ∧
        profile.speedMmPerSecond ≤ policy.maximumLinearSpeedMmPerSecond
  | .moveC target profile =>
      policy.cartesianWorkspaceVerified = true ∧
        policy.cartesianWorkspace.Admits target.via ∧
        policy.cartesianWorkspace.Admits target.target ∧
        target.workObjectName = policy.cartesianWorkspaceFrame ∧
        1 ≤ profile.speedMmPerSecond ∧
        profile.speedMmPerSecond ≤ policy.maximumLinearSpeedMmPerSecond
  | .setGlobalSpeed ratio => 1 ≤ ratio ∧ ratio ≤ policy.maximumJointSpeedPercent
  | .writeDigitalOutput index _ => index ∈ policy.writableDigitalOutputs
  | .loadProgram name => policy.programExecutionEnabled = true ∧ name ∈ policy.approvedPrograms
  | .startProgram => ∃ name, loaded = some name ∧ name ∈ policy.approvedPrograms
  | _ => True

/-- No bound of the joint limits is NaN. -/
def SafetyPolicy.JointLimitsComparable (policy : SafetyPolicy) : Prop :=
  ∀ limit ∈ policy.jointLimits, limit.minimumDeg.isNaN = false ∧ limit.maximumDeg.isNaN = false

/-- Joint targets that are not rejected are admitted exactly if no bound is NaN. -/
theorem jointTargets_admitted_iff {values : List Double} {limits : List JointLimit}
    (accepted : jointTargetsRejected values limits = false)
    (length : values.length = limits.length) :
    List.Forall₂ JointLimit.Admits limits values ↔
      ∀ limit ∈ limits, limit.minimumDeg.isNaN = false ∧ limit.maximumDeg.isNaN = false := by
  induction values generalizing limits with
  | nil =>
      cases limits with
      | nil => simp
      | cons limit limits => cases length
  | cons value values ih =>
      cases limits with
      | nil => cases length
      | cons limit limits =>
          simp only [jointTargetsRejected] at accepted
          split at accepted
          · cases accepted
          next within =>
          simp only [Bool.or_eq_true, Bool.not_eq_true', decide_eq_true_eq, not_or,
            Bool.not_eq_false] at within
          rcases within with ⟨⟨finite, above⟩, below⟩
          rw [List.forall₂_cons, List.forall_mem_cons, ih accepted (Nat.succ.inj length)]
          refine and_congr_left fun _ => ⟨?_, ?_⟩
          · rintro ⟨_, lower, upper⟩
            constructor <;> by_contra nan
            · exact (Double.not_le_of_isNaN (by simpa using nan)).1 lower
            · exact (Double.not_le_of_isNaN (by simpa using nan)).2 upper
          · rintro ⟨lowerComparable, upperComparable⟩
            refine ⟨finite, ?_, ?_⟩
            · exact ((Double.not_lt_iff_of_isFinite finite).mp above).resolve_right
                (by simp [lowerComparable])
            · exact ((Double.not_gt_iff_of_isFinite finite).mp below).resolve_right
                (by simp [upperComparable])

theorem jointTargets_finite {values : List Double} {limits : List JointLimit}
    (accepted : jointTargetsRejected values limits = false)
    (length : values.length = limits.length) : ∀ value ∈ values, value.isFinite = true := by
  induction values generalizing limits with
  | nil => simp
  | cons value values ih =>
      cases limits with
      | nil => cases length
      | cons limit limits =>
          simp only [jointTargetsRejected] at accepted
          split at accepted
          · cases accepted
          next within =>
          rw [List.forall_mem_cons]
          refine ⟨?_, ih accepted (Nat.succ.inj length)⟩
          by_contra infinite
          simp [infinite] at within

theorem validateMoveJ_ok {policy : SafetyPolicy} {motion : MoveJPayload}
    (ok : (validateMoveJ policy motion).ok = true) :
    motion.target.position.degrees.length = policy.jointLimits.length ∧
      jointTargetsRejected motion.target.position.degrees policy.jointLimits = false ∧
      1 ≤ motion.profile.speedPercent ∧
      motion.profile.speedPercent ≤ policy.maximumJointSpeedPercent ∧
      motion.profile.blend.isFinite = true := by
  unfold validateMoveJ at ok
  split at ok
  · cases ok
  split at ok
  · cases ok
  next profile =>
  split at ok
  · cases ok
  next length =>
  split at ok
  · cases ok
  next accepted =>
  simp only [Bool.or_eq_true, Bool.not_eq_true', decide_eq_true_eq, not_or, not_lt,
    Bool.not_eq_false] at profile
  rcases profile with ⟨⟨⟨⟨_, slow⟩, fast⟩, blend⟩, _⟩
  exact ⟨by simpa using length, by simpa using accepted, slow, fast, blend⟩

theorem workspace_admits {pose : CartesianPose} {workspace : CartesianWorkspace}
    (finite : isFinitePose pose = true) (inside : isInsideWorkspace pose workspace = true) :
    workspace.Admits pose := by
  simp only [isFinitePose, isInsideWorkspace, Bool.and_eq_true, decide_eq_true_eq] at finite inside
  rcases finite with ⟨⟨⟨⟨⟨⟨x, y⟩, z⟩, a⟩, b⟩, c⟩, _⟩
  rcases inside with ⟨⟨⟨⟨⟨minimumX, maximumX⟩, minimumY⟩, maximumY⟩, minimumZ⟩, maximumZ⟩
  exact ⟨⟨x, y, z, a, b, c⟩, ⟨minimumX, maximumX⟩, ⟨minimumY, maximumY⟩, ⟨minimumZ, maximumZ⟩⟩

theorem validateMoveL_ok {policy : SafetyPolicy} {motion : MoveLPayload}
    (ok : (validateMoveL policy motion).ok = true) (loaded : Option String) :
    (DriverCall.moveL motion.target motion.profile).WithinPolicy policy loaded ∧
      motion.profile.blendMm.isFinite = true := by
  unfold validateMoveL at ok
  split at ok
  · cases ok
  next verified =>
  split at ok
  · cases ok
  next within =>
  simp only [Bool.or_eq_true, bne_iff_ne, Bool.not_eq_true', decide_eq_true_eq, not_or, not_lt,
    ne_eq, not_not, Bool.not_eq_false] at within verified
  rcases within with ⟨⟨⟨⟨⟨⟨⟨⟨_, _⟩, frame⟩, finite⟩, inside⟩, slow⟩, fast⟩, blend⟩, _⟩
  exact ⟨⟨verified, workspace_admits finite inside, frame, slow, fast⟩, blend⟩

theorem validateMoveC_ok {policy : SafetyPolicy} {motion : MoveCPayload}
    (ok : (validateMoveC policy motion).ok = true) (loaded : Option String) :
    (DriverCall.moveC motion.target motion.profile).WithinPolicy policy loaded ∧
      motion.profile.blendMm.isFinite = true := by
  unfold validateMoveC at ok
  split at ok
  · cases ok
  next verified =>
  split at ok
  · cases ok
  next within =>
  simp only [Bool.or_eq_true, bne_iff_ne, Bool.not_eq_true', decide_eq_true_eq, not_or, not_lt,
    ne_eq, not_not, Bool.not_eq_false] at within verified
  rcases within with ⟨⟨⟨⟨⟨⟨⟨⟨⟨⟨_, _⟩, frame⟩, viaFinite⟩, finite⟩, viaInside⟩, inside⟩, slow⟩,
    fast⟩, blend⟩, _⟩
  exact ⟨⟨verified, workspace_admits viaFinite viaInside, workspace_admits finite inside, frame,
    slow, fast⟩, blend⟩

/-- The payload of a motion passes the check for its own type. -/
theorem Evidence.Passes.motionPayload {policy : SafetyPolicy} {request : CommandRequest}
    {evidence : Evidence} (passes : evidence.Passes policy request)
    (motion : isMotionCommand request.type = true) :
    (∀ motion, request.type = .moveJ → request.payload = .moveJ motion →
      (validateMoveJ policy motion).ok = true) ∧
    (∀ motion, request.type = .moveL → request.payload = .moveL motion →
      (validateMoveL policy motion).ok = true) ∧
    ∀ motion, request.type = .moveC → request.payload = .moveC motion →
      (validateMoveC policy motion).ok = true := by
  have ready := passes.commonMotion motion
  unfold Passes validate at passes
  split at passes
  · next rejected =>
    simp [passes] at rejected
  refine ⟨?_, ?_, ?_⟩ <;> intro motion type payload <;>
    simpa [type, payload, ready] using passes

theorem Evidence.Passes.parameters {policy : SafetyPolicy} {request : CommandRequest}
    {evidence : Evidence} (passes : evidence.Passes policy request)
    (bounded : request.type ∈ [.setGlobalSpeed, .writeDigitalOutput, .loadProgram]) :
    (validateParameters policy request evidence.leaseValid).ok = true := by
  unfold Passes validate at passes
  split at passes
  · next rejected =>
    simp [passes] at rejected
  cases type : request.type with
  | setGlobalSpeed | writeDigitalOutput | loadProgram =>
      simp only [type] at passes
      split at passes
      · cases passes
      · exact passes
  | _ => simp [type] at bounded

/-- The bounds that the parameters of an accepted request keep. -/
theorem validateParameters_ok {policy : SafetyPolicy} {request : CommandRequest}
    {leaseValid : Bool} (ok : (validateParameters policy request leaseValid).ok = true) :
    (∀ speed, request.type = .setGlobalSpeed → request.payload = .speed speed →
      1 ≤ speed.ratio ∧ speed.ratio ≤ policy.maximumJointSpeedPercent) ∧
    (∀ output, request.type = .writeDigitalOutput → request.payload = .digitalOutput output →
      output.index ∈ policy.writableDigitalOutputs) ∧
    ∀ program, request.type = .loadProgram → request.payload = .program program →
      policy.programExecutionEnabled = true ∧ program.name ∈ policy.approvedPrograms := by
  unfold validateParameters at ok
  split at ok
  · next noLease =>
    simp [ok] at noLease
  refine ⟨?_, ?_, ?_⟩
  · intro speed type payload
    simp only [type, payload] at ok
    split at ok
    · cases ok
    next within =>
    simp only [Bool.or_eq_true, beq_iff_eq, decide_eq_true_eq, not_or, not_lt] at within
    exact ⟨Nat.one_le_iff_ne_zero.mpr within.1.1, within.2⟩
  · intro output type payload
    simp only [type, payload] at ok
    split at ok
    · next listed => simpa using listed
    · cases ok
  · intro program type payload
    simp only [type, payload] at ok
    split at ok
    · cases ok
    split at ok
    · cases ok
    · next approved => simpa using approved

/-- A call whose request passes the guard stays inside the site policy, except that a MoveJ also
needs joint limits without NaN. -/
theorem Evidence.Passes.withinPolicy_iff {policy : SafetyPolicy} {request : CommandRequest}
    {evidence : Evidence} {call : DriverCall} {loaded : Option String}
    (passes : evidence.Passes policy request) (executed : execute request = .ok call)
    (program : call = .startProgram →
      ∃ name, loaded = some name ∧ name ∈ policy.approvedPrograms) :
    call.WithinPolicy policy loaded ↔
      (request.type = .moveJ → policy.JointLimitsComparable) := by
  have origin := execute_origin executed
  by_cases moveJ : request.type = .moveJ
  · cases call with
    | moveJ target profile =>
        have checked := (passes.motionPayload (by simp [moveJ, isMotionCommand])).1 _ moveJ origin.2
        rcases validateMoveJ_ok checked with ⟨length, accepted, slow, fast, _⟩
        have admitted := jointTargets_admitted_iff accepted length
        constructor
        · intro within _
          exact admitted.mp within.1
        · intro comparable
          exact ⟨admitted.mpr (comparable moveJ), slow, fast⟩
    | moveL | moveC | setGlobalSpeed | writeDigitalOutput | loadProgram | jog =>
        cases moveJ.symm.trans origin.1
    | startProgram | resume => cases moveJ.symm.trans origin
    | _ =>
        unfold execute at executed
        split at executed <;> cases executed <;> simp_all
  · refine iff_of_true ?_ fun type => absurd type moveJ
    cases call with
    | moveJ => exact absurd origin.1 moveJ
    | moveL target profile =>
        have motion : isMotionCommand request.type = true := by simp [origin.1, isMotionCommand]
        have checked := (passes.motionPayload motion).2.1 _ origin.1 origin.2
        exact (validateMoveL_ok checked loaded).1
    | moveC target profile =>
        have motion : isMotionCommand request.type = true := by simp [origin.1, isMotionCommand]
        have checked := (passes.motionPayload motion).2.2 _ origin.1 origin.2
        exact (validateMoveC_ok checked loaded).1
    | setGlobalSpeed ratio =>
        have bounds := validateParameters_ok (passes.parameters (by simp [origin.1]))
        exact bounds.1 _ origin.1 origin.2
    | writeDigitalOutput index value =>
        have bounds := validateParameters_ok (passes.parameters (by simp [origin.1]))
        exact bounds.2.1 _ origin.1 origin.2
    | loadProgram name =>
        have bounds := validateParameters_ok (passes.parameters (by simp [origin.1]))
        exact bounds.2.2 _ origin.1 origin.2
    | startProgram => exact program rfl
    | _ => trivial

end RobotManager
