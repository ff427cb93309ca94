import RobotManager.Control.SitePolicy

/-!
# Comparing requests

`PayloadsEqual` compares doubles with `==` and reads payloads by their command type.  On
a request that has passed the guard, whose payload has the right type and no NaN, it
decides whether another request asks for the same thing.
-/

namespace RobotManager

def CartesianPose.NaNFree (pose : CartesianPose) : Prop :=
  pose.xMm.isNaN = false ∧ pose.yMm.isNaN = false ∧ pose.zMm.isNaN = false ∧
    pose.aDeg.isNaN = false ∧ pose.bDeg.isNaN = false ∧ pose.cDeg.isNaN = false

/-- No number in the payload is NaN. -/
def CommandPayload.NaNFree : CommandPayload → Prop
  | .moveJ motion =>
      (∀ degree ∈ motion.target.position.degrees, degree.isNaN = false) ∧
        motion.profile.blend.isNaN = false
  | .moveL motion => motion.target.pose.NaNFree ∧ motion.profile.blendMm.isNaN = false
  | .moveC motion =>
      motion.target.via.NaNFree ∧ motion.target.target.NaNFree ∧
        motion.profile.blendMm.isNaN = false
  | _ => True

/-- The payload belongs to the command type and holds no NaN. -/
def CommandRequest.Comparable (request : CommandRequest) : Prop :=
  payloadTypeMatches request.type request.payload = true ∧ request.payload.NaNFree

/-- Two requests ask for the same thing under the same lease. -/
def CommandRequest.SameCommand (left right : CommandRequest) : Prop :=
  left.type = right.type ∧ left.leaseId = right.leaseId ∧ left.timeout = right.timeout ∧
    left.payload = right.payload

instance (left right : CommandRequest) : Decidable (left.SameCommand right) :=
  inferInstanceAs (Decidable (_ ∧ _ ∧ _ ∧ _))

theorem CommandRequest.SameCommand.congr_left {first second third : CommandRequest}
    (same : first.SameCommand second) : first.SameCommand third ↔ second.SameCommand third := by
  rcases same with ⟨type, lease, timeout, payload⟩
  simp only [SameCommand, type, lease, timeout, payload]

theorem posesEqual_iff {left : CartesianPose} (nanFree : left.NaNFree) (right : CartesianPose) :
    posesEqual left right = true ↔ left = right := by
  rcases nanFree with ⟨x, y, z, a, b, c⟩
  cases left
  cases right
  simp only [posesEqual, Bool.and_eq_true, decide_eq_true_eq, beq_iff_eq, CartesianPose.mk.injEq,
    Double.eq_iff_equal_of_not_nan x, Double.eq_iff_equal_of_not_nan y,
    Double.eq_iff_equal_of_not_nan z, Double.eq_iff_equal_of_not_nan a,
    Double.eq_iff_equal_of_not_nan b, Double.eq_iff_equal_of_not_nan c, and_assoc]

theorem degreesEqual_iff {left : List Double} (nanFree : ∀ degree ∈ left, degree.isNaN = false)
    (right : List Double) : degreesEqual left right = true ↔ left = right := by
  induction left generalizing right with
  | nil => cases right <;> simp [degreesEqual]
  | cons degree degrees ih =>
      rw [List.forall_mem_cons] at nanFree
      cases right with
      | nil => simp [degreesEqual]
      | cons other others =>
          simp only [degreesEqual, Bool.and_eq_true, decide_eq_true_eq, List.cons.injEq,
            Double.eq_iff_equal_of_not_nan nanFree.1, ih nanFree.2]

/-- The payloads of the three motions belong to their own command types only. -/
theorem motionType_of_matches {type : CommandType} {payload : CommandPayload}
    (typed : payloadTypeMatches type payload = true) :
    (∀ motion, payload = .moveJ motion → type = .moveJ) ∧
      (∀ motion, payload = .moveL motion → type = .moveL) ∧
      ∀ motion, payload = .moveC motion → type = .moveC := by
  cases type <;> cases payload <;> simp [payloadTypeMatches] at typed ⊢

/-- Two payloads of one alternative, which for MoveJ, MoveL and MoveC is compared by value. -/
theorem payloadsEqual_of_header {left right : CommandRequest} (comparable : left.Comparable)
    (type : left.type = right.type) (lease : left.leaseId = right.leaseId)
    (timeout : left.timeout = right.timeout)
    (index : left.payload.index = right.payload.index) :
    payloadsEqual left right = some (decide (left.payload = right.payload)) := by
  rcases comparable with ⟨typed, nanFree⟩
  unfold payloadsEqual
  rw [if_neg (by simp [type, lease, timeout, index])]
  cases payload : left.payload with
  | empty =>
      cases other : right.payload <;> simp [payload, other, CommandPayload.index] at index ⊢
  | moveJ motion =>
      have own : left.type = .moveJ := (motionType_of_matches typed).1 motion payload
      rw [payload] at nanFree index
      cases other : right.payload <;> simp [other, CommandPayload.index] at index
      next compared =>
      rw [own]
      rcases motion with ⟨⟨⟨degrees⟩, tool, workObject⟩, ⟨speed, blend⟩⟩
      rcases compared with ⟨⟨⟨_⟩, _, _⟩, ⟨_, _⟩⟩
      refine congrArg some (Bool.eq_iff_iff.mpr ?_)
      simp [degreesEqual_iff nanFree.1, Double.eq_iff_equal_of_not_nan nanFree.2,
        and_assoc]
  | moveL motion =>
      have own : left.type = .moveL := (motionType_of_matches typed).2.1 motion payload
      rw [payload] at nanFree index
      cases other : right.payload <;> simp [other, CommandPayload.index] at index
      next compared =>
      rw [own]
      rcases motion with ⟨⟨pose, tool, workObject⟩, ⟨speed, blend⟩⟩
      rcases compared with ⟨⟨_, _, _⟩, ⟨_, _⟩⟩
      refine congrArg some (Bool.eq_iff_iff.mpr ?_)
      simp [posesEqual_iff nanFree.1, Double.eq_iff_equal_of_not_nan nanFree.2,
        and_assoc]
  | moveC motion =>
      have own : left.type = .moveC := (motionType_of_matches typed).2.2 motion payload
      rw [payload] at nanFree index
      cases other : right.payload <;> simp [other, CommandPayload.index] at index
      next compared =>
      rw [own]
      rcases motion with ⟨⟨via, target, tool, workObject⟩, ⟨speed, blend⟩⟩
      rcases compared with ⟨⟨_, _, _, _⟩, ⟨_, _⟩⟩
      refine congrArg some (Bool.eq_iff_iff.mpr ?_)
      simp [posesEqual_iff nanFree.1, posesEqual_iff nanFree.2.1,
        Double.eq_iff_equal_of_not_nan nanFree.2.2, and_assoc]
  | stop | speed | jog | digitalOutput | program =>
      rw [payload] at typed index
      cases own : left.type <;> simp [own, payloadTypeMatches] at typed
      cases other : right.payload <;> simp [other, CommandPayload.index] at index
      next first compared =>
      cases first
      cases compared
      refine congrArg some (Bool.eq_iff_iff.mpr ?_)
      simp [and_assoc]

/-- On a comparable request the comparison is exact and never throws. -/
theorem payloadsEqual_exact {left : CommandRequest} (comparable : left.Comparable)
    (right : CommandRequest) :
    payloadsEqual left right = some (decide (left.SameCommand right)) := by
  by_cases header : left.type = right.type ∧ left.leaseId = right.leaseId ∧
      left.timeout = right.timeout ∧ left.payload.index = right.payload.index
  · rcases header with ⟨type, lease, timeout, index⟩
    rw [payloadsEqual_of_header comparable type lease timeout index]
    simp [CommandRequest.SameCommand, type, lease, timeout]
  · have different : ¬left.SameCommand right := by
      rintro ⟨type, lease, timeout, payload⟩
      exact header ⟨type, lease, timeout, congrArg CommandPayload.index payload⟩
    unfold payloadsEqual
    rw [if_pos (by simpa only [not_and_or] using header), decide_eq_false different]

theorem CartesianWorkspace.Admits.nanFree {workspace : CartesianWorkspace} {pose : CartesianPose}
    (admits : workspace.Admits pose) : pose.NaNFree := by
  rcases admits.1 with ⟨x, y, z, a, b, c⟩
  exact ⟨Double.isNaN_of_isFinite x, Double.isNaN_of_isFinite y, Double.isNaN_of_isFinite z,
    Double.isNaN_of_isFinite a, Double.isNaN_of_isFinite b, Double.isNaN_of_isFinite c⟩

/-- A request that passes the guard is comparable. -/
theorem Evidence.Passes.comparable {policy : SafetyPolicy} {request : CommandRequest}
    {evidence : Evidence} (passes : evidence.Passes policy request) : request.Comparable := by
  have typed := passes.payload
  refine ⟨typed, ?_⟩
  cases payload : request.payload with
  | moveJ motion =>
      have type : request.type = .moveJ := (motionType_of_matches typed).1 motion payload
      have checked := (passes.motionPayload (by simp [type, isMotionCommand])).1 _ type payload
      rcases validateMoveJ_ok checked with ⟨length, accepted, _, _, blend⟩
      refine ⟨fun degree mem => ?_, Double.isNaN_of_isFinite blend⟩
      exact Double.isNaN_of_isFinite (jointTargets_finite accepted length degree mem)
  | moveL motion =>
      have type : request.type = .moveL := (motionType_of_matches typed).2.1 motion payload
      have checked := (passes.motionPayload (by simp [type, isMotionCommand])).2.1 _ type payload
      rcases validateMoveL_ok checked none with ⟨⟨_, admits, _⟩, blend⟩
      exact ⟨admits.nanFree, Double.isNaN_of_isFinite blend⟩
  | moveC motion =>
      have type : request.type = .moveC := (motionType_of_matches typed).2.2 motion payload
      have checked := (passes.motionPayload (by simp [type, isMotionCommand])).2.2 _ type payload
      rcases validateMoveC_ok checked none with ⟨⟨_, via, target, _⟩, blend⟩
      exact ⟨via.nanFree, target.nanFree, Double.isNaN_of_isFinite blend⟩
  | _ => trivial

/-! ### Field by field -/

/-- The poses agree in every field; doubles are compared as IEEE numbers. -/
def CartesianPose.SameFields (left right : CartesianPose) : Prop :=
  left.xMm.Equal right.xMm ∧ left.yMm.Equal right.yMm ∧ left.zMm.Equal right.zMm ∧
    left.aDeg.Equal right.aDeg ∧ left.bDeg.Equal right.bDeg ∧ left.cDeg.Equal right.cDeg ∧
    left.configuration = right.configuration ∧ left.joint1Turn = right.joint1Turn ∧
    left.joint4Turn = right.joint4Turn ∧ left.joint6Turn = right.joint6Turn

def CartesianMotionProfile.SameFields (left right : CartesianMotionProfile) : Prop :=
  left.speedMmPerSecond = right.speedMmPerSecond ∧ left.blendMm.Equal right.blendMm

/-- The payloads hold the same alternative and agree in every field of it. -/
def CommandPayload.SameFields : CommandPayload → CommandPayload → Prop
  | .empty, .empty => True
  | .moveJ left, .moveJ right =>
      List.Forall₂ Double.Equal left.target.position.degrees right.target.position.degrees ∧
        left.target.toolName = right.target.toolName ∧
        left.target.workObjectName = right.target.workObjectName ∧
        left.profile.speedPercent = right.profile.speedPercent ∧
        left.profile.blend.Equal right.profile.blend
  | .moveL left, .moveL right =>
      left.target.pose.SameFields right.target.pose ∧
        left.target.toolName = right.target.toolName ∧
        left.target.workObjectName = right.target.workObjectName ∧
        left.profile.SameFields right.profile
  | .moveC left, .moveC right =>
      left.target.via.SameFields right.target.via ∧
        left.target.target.SameFields right.target.target ∧
        left.target.toolName = right.target.toolName ∧
        left.target.workObjectName = right.target.workObjectName ∧
        left.profile.SameFields right.profile
  | .stop left, .stop right => left.mode = right.mode
  | .speed left, .speed right => left.ratio = right.ratio
  | .jog left, .jog right =>
      left.frame = right.frame ∧ left.axis = right.axis ∧ left.direction = right.direction ∧
        left.start = right.start
  | .digitalOutput left, .digitalOutput right =>
      left.index = right.index ∧ left.value = right.value
  | .program left, .program right => left.name = right.name
  | _, _ => False

/-- The requests agree in type, lease, timeout and every field of their payloads. -/
def CommandRequest.SameFields (left right : CommandRequest) : Prop :=
  left.type = right.type ∧ left.leaseId = right.leaseId ∧ left.timeout = right.timeout ∧
    left.payload.SameFields right.payload

theorem CommandPayload.SameFields.index_eq {left right : CommandPayload}
    (same : left.SameFields right) : left.index = right.index := by
  cases left <;> cases right <;> first | rfl | exact same.elim

theorem posesEqual_iff_sameFields (left right : CartesianPose) :
    posesEqual left right = true ↔ left.SameFields right := by
  simp only [posesEqual, CartesianPose.SameFields, Bool.and_eq_true, decide_eq_true_eq,
    beq_iff_eq, and_assoc]

theorem degreesEqual_iff_forall₂ (left right : List Double) :
    degreesEqual left right = true ↔ List.Forall₂ Double.Equal left right := by
  induction left generalizing right with
  | nil => cases right <;> simp [degreesEqual]
  | cons degree degrees ih =>
      cases right with
      | nil => simp [degreesEqual]
      | cons other others => simp [degreesEqual, ih]

/-- Two payloads of one alternative, compared under a type that the first belongs to. -/
theorem payloadsEqual_fields {left right : CommandRequest}
    (typed : payloadTypeMatches left.type left.payload = true)
    (type : left.type = right.type) (lease : left.leaseId = right.leaseId)
    (timeout : left.timeout = right.timeout)
    (index : left.payload.index = right.payload.index) :
    ∃ same, payloadsEqual left right = some same ∧
      (same = true ↔ left.payload.SameFields right.payload) := by
  unfold payloadsEqual
  rw [if_neg (by simp [type, lease, timeout, index])]
  generalize left.payload = payload at typed index ⊢
  generalize right.payload = other at index ⊢
  -- the first payload fixes the type, and the index fixes the second one's alternative
  cases payload <;> cases own : left.type <;> simp [own, payloadTypeMatches] at typed <;>
    cases other <;> simp [CommandPayload.index] at index <;>
    refine ⟨_, rfl, ?_⟩ <;>
    simp [CommandPayload.SameFields, CartesianMotionProfile.SameFields, posesEqual_iff_sameFields,
      degreesEqual_iff_forall₂, and_assoc]

/-- A payload of the right type is compared field by field, with whatever request. -/
theorem payloadsEqual_iff_sameFields {left : CommandRequest}
    (typed : payloadTypeMatches left.type left.payload = true) (right : CommandRequest) :
    ∃ same, payloadsEqual left right = some same ∧ (same = true ↔ left.SameFields right) := by
  by_cases header : left.type = right.type ∧ left.leaseId = right.leaseId ∧
      left.timeout = right.timeout ∧ left.payload.index = right.payload.index
  · rcases header with ⟨type, lease, timeout, index⟩
    rcases payloadsEqual_fields typed type lease timeout index with ⟨same, compared, exact⟩
    refine ⟨same, compared, exact.trans ?_⟩
    simp [CommandRequest.SameFields, type, lease, timeout]
  · refine ⟨false, ?_, iff_of_false Bool.false_ne_true ?_⟩
    · unfold payloadsEqual
      rw [if_pos (by simpa only [not_and_or] using header)]
    · rintro ⟨type, lease, timeout, payload⟩
      exact header ⟨type, lease, timeout, payload.index_eq⟩

/-- A comparable request equals itself. -/
theorem payloadsEqual_self {request : CommandRequest} (comparable : request.Comparable) :
    payloadsEqual request request = some true := by
  rw [payloadsEqual_exact comparable]
  simp [CommandRequest.SameCommand]

/-- A request whose payload has the right type leads to a driver call. -/
theorem execute_of_payload {request : CommandRequest}
    (typed : payloadTypeMatches request.type request.payload = true) :
    ∃ call, execute request = .ok call := by
  unfold execute
  generalize request.type = type at typed ⊢
  generalize request.payload = payload at typed ⊢
  cases type <;> cases payload <;> simp [payloadTypeMatches] at typed ⊢

end RobotManager
