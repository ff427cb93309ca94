import RobotManager.Adapters.EfortOrders
import RobotManager.Control.SafeDispatch
import RobotManager.Service.CommandOrigins

/-!
# The site policy at the controller

The limits of the site as they arrive at the SDK: what the controller is told to do keeps them
with the arguments that the adapter has converted, a linear or circular motion starts in the frame
in which its workspace was verified, and a program starts only if the program that the controller
has loaded last is approved.  The continuation of a held motion has no arguments, and the guard does
not ask whether motion is enabled when it lets one through.
-/

namespace RobotManager

open Fallible

/-! ### The policy of a call -/

/-- A finite joint value that keeps every bound of its limit which is a number. -/
def JointLimit.Keeps (limit : JointLimit) (value : Double) : Prop :=
  value.isFinite = true ∧ (limit.minimumDeg.isNaN = false → limit.minimumDeg ≤ value) ∧
    (limit.maximumDeg.isNaN = false → value ≤ limit.maximumDeg)

/-- The program that the controller has loaded last. -/
def programLoaded (errorOk : ℤ) : List SdkExchange → Option String
  | [] => none
  | exchange :: earlier =>
      match exchange.call with
      | .loadProgram name =>
          if exchange.answer.code = errorOk then some name else programLoaded errorOk earlier
      | _ => programLoaded errorOk earlier

/-- The user frame that the controller has selected last. -/
def frameSelected (errorOk : ℤ) : List SdkExchange → Option String
  | [] => none
  | exchange :: earlier =>
      match exchange.call with
      | .setCurrentUframeByName name =>
          if exchange.answer.code = errorOk then some name else frameSelected errorOk earlier
      | _ => frameSelected errorOk earlier

/-- The calls that set the robot in motion, other than the continuation of a held motion. -/
def SdkCall.moves : SdkCall → Bool
  | .mjoint _ _ _ | .mlin _ _ _ | .mcirc _ _ _ _ _ _ | .startProgram | .jog _ _ true => true
  | _ => false

/-- The bounds that the site policy puts on the arguments of a call. -/
def SdkCall.Bounded (policy : SafetyPolicy) : SdkCall → Prop
  | .mjoint position speedPercent _ =>
      List.Forall₂ JointLimit.Keeps policy.jointLimits position ∧
        1 ≤ speedPercent ∧ speedPercent ≤ policy.maximumJointSpeedPercent
  | .mlin position speed _ =>
      policy.cartesianWorkspaceVerified = true ∧
        (∃ pose, position = toEfortPose pose ∧ policy.cartesianWorkspace.Admits pose) ∧
        1 ≤ speed ∧ speed ≤ policy.maximumLinearSpeedMmPerSecond
  | .mcirc via target speed _ _ workObjectName =>
      policy.cartesianWorkspaceVerified = true ∧
        (∃ pose, via = toPointC pose ∧ policy.cartesianWorkspace.Admits pose) ∧
        (∃ pose, target = toPointC pose ∧ policy.cartesianWorkspace.Admits pose) ∧
        workObjectName = policy.cartesianWorkspaceFrame ∧
        1 ≤ speed ∧ speed ≤ policy.maximumLinearSpeedMmPerSecond
  | .setCurrentUframeByName name => name = policy.cartesianWorkspaceFrame
  | .setGlobalSpeed ratio => 1 ≤ ratio ∧ ratio ≤ policy.maximumJointSpeedPercent
  | .writeDOut index _ => index ∈ policy.writableDigitalOutputs
  | .loadProgram name =>
      policy.programExecutionEnabled = true ∧ name ∈ policy.approvedPrograms
  | _ => True

/-- The motions whose coordinates refer to the selected frame. -/
def SdkCall.refersToFrame : SdkCall → Bool
  | .mlin _ _ _ | .mcirc _ _ _ _ _ _ => true
  | _ => false

/-- An exchange that stays inside the site policy, given the exchanges before it. -/
structure SdkExchange.WithinPolicy (policy : SafetyPolicy) (errorOk : ℤ) (exchange : SdkExchange)
    (earlier : List SdkExchange) : Prop where
  bounded : exchange.call.Bounded policy
  enabled : exchange.call.moves = true →
    policy.motionEnabled = true ∧ policy.jointLimitsVerified = true
  framed : exchange.call.refersToFrame = true →
    frameSelected errorOk earlier = some policy.cartesianWorkspaceFrame
  loaded : exchange.call = .startProgram →
    ∃ name, programLoaded errorOk earlier = some name ∧ name ∈ policy.approvedPrograms

/-! ### What the guard lets through -/

theorem jointTargets_kept {values : List Double} {limits : List JointLimit}
    (accepted : jointTargetsRejected values limits = false)
    (length : values.length = limits.length) : List.Forall₂ JointLimit.Keeps limits values := by
  induction values generalizing limits with
  | nil =>
      cases limits with
      | nil => exact .nil
      | cons limit limits => cases length
  | cons value values ih =>
      cases limits with
      | nil => cases length
      | cons limit limits =>
          simp only [jointTargetsRejected] at accepted
          split at accepted
          · cases accepted
          next within =>
          simp only [Bool.or_eq_true, Bool.not_eq_true', decide_eq_true_eq, not_or,
            Bool.not_eq_false] at within
          rcases within with ⟨⟨finite, above⟩, below⟩
          refine .cons ⟨finite, fun lower => ?_, fun upper => ?_⟩
            (ih accepted (Nat.succ.inj length))
          · exact ((Double.not_lt_iff_of_isFinite finite).mp above).resolve_right (by simp [lower])
          · exact ((Double.not_gt_iff_of_isFinite finite).mp below).resolve_right (by simp [upper])

/-- The SDK calls of a driver call whose request has passed the guard. -/
theorem Evidence.Passes.bounded {policy : SafetyPolicy} {request : CommandRequest}
    {evidence : Evidence} {call : DriverCall} {sdkCall : SdkCall}
    (passes : evidence.Passes policy request) (executed : execute request = .ok call)
    (made : call.operation.MayCall sdkCall) : sdkCall.Bounded policy := by
  have origin := execute_origin executed
  have within : call ≠ .startProgram → request.type ≠ .moveJ → call.WithinPolicy policy none :=
    fun other type => (passes.withinPolicy_iff executed fun same => absurd same other).mpr
      fun same => absurd same type
  rcases made with mem | ⟨_, axis, direction, rfl⟩
  swap
  · trivial
  cases call with
  | moveJ target profile =>
      have checked := (passes.motionPayload (by simp [origin.1, isMotionCommand])).1 _ origin.1
        origin.2
      rcases validateMoveJ_ok checked with ⟨length, accepted, slow, fast, _⟩
      simp only [DriverCall.operation, EfortOperation.calls, List.mem_cons, List.not_mem_nil,
        or_false] at mem
      rcases mem with rfl | rfl
      · trivial
      · exact ⟨jointTargets_kept accepted length, slow, fast⟩
  | moveL target profile =>
      rcases within (by simp) (by simp [origin.1]) with ⟨verified, admits, frame, slow, fast⟩
      simp only [DriverCall.operation, EfortOperation.calls, List.mem_cons, List.not_mem_nil,
        or_false] at mem
      rcases mem with rfl | rfl | rfl | rfl
      · trivial
      · exact frame
      · trivial
      · exact ⟨verified, ⟨_, rfl, admits⟩, slow, fast⟩
  | moveC target profile =>
      rcases within (by simp) (by simp [origin.1]) with
        ⟨verified, viaAdmits, admits, frame, slow, fast⟩
      simp only [DriverCall.operation, EfortOperation.calls, List.mem_cons, List.not_mem_nil,
        or_false] at mem
      rcases mem with rfl | rfl | rfl | rfl | rfl
      · trivial
      · exact frame
      · trivial
      · trivial
      · exact ⟨verified, ⟨_, rfl, viaAdmits⟩, ⟨_, rfl, admits⟩, frame, slow, fast⟩
  | setGlobalSpeed | writeDigitalOutput | loadProgram =>
      have bounds := within (by simp) (by simp [origin.1])
      obtain rfl := List.mem_singleton.mp mem
      exact bounds
  | stop mode =>
      cases mode <;>
        simp only [DriverCall.operation, EfortOperation.calls, List.mem_cons, List.not_mem_nil,
          or_false] at mem
      · rcases mem with rfl | rfl | rfl | rfl | rfl <;> trivial
      · obtain rfl := mem
        trivial
  | jog command =>
      cases starts : command.start <;>
        simp only [DriverCall.operation, EfortOperation.calls, starts, if_true, Bool.false_eq_true,
          if_false, List.mem_cons, List.not_mem_nil, or_false] at mem
      rcases mem with rfl | rfl <;> trivial
  | acquireControl | releaseControl | powerOn | powerOff | clearFault | hold | resume
  | startProgram | stopProgram =>
      simp only [DriverCall.operation, EfortOperation.calls, List.mem_cons, List.not_mem_nil,
        or_false] at mem
      first
        | (obtain rfl := mem; trivial)
        | (rcases mem with rfl | rfl <;> trivial)

/-- Only motion-starting driver calls lead to calls that move the robot. -/
theorem DriverCall.startsMotion_of_moves {call : DriverCall} {sdkCall : SdkCall}
    (made : call.operation.MayCall sdkCall) (moves : sdkCall.moves = true) :
    call.startsMotion = true ∧ call ≠ .resume := by
  rcases made with mem | ⟨_, axis, direction, rfl⟩
  swap
  · cases moves
  cases call with
  | moveJ | moveL | moveC | startProgram => exact ⟨rfl, by simp⟩
  | jog command =>
      cases starts : command.start with
      | true => exact ⟨starts, by simp⟩
      | false => simp [DriverCall.operation, EfortOperation.calls, starts] at mem
  | stop mode => cases mode <;> simp [DriverCall.operation, EfortOperation.calls] at mem <;>
      rcases mem with rfl | rfl | rfl | rfl | rfl <;> cases moves
  | _ =>
      simp only [DriverCall.operation, EfortOperation.calls, List.mem_cons, List.not_mem_nil,
        or_false] at mem
      first
        | (obtain rfl := mem; cases moves)
        | (rcases mem with rfl | rfl <;> cases moves)

theorem Evidence.Passes.enabled {policy : SafetyPolicy} {request : CommandRequest}
    {evidence : Evidence} {call : DriverCall} {sdkCall : SdkCall}
    (passes : evidence.Passes policy request) (published : evidence.snapshot.Published)
    (executed : execute request = .ok call) (made : call.operation.MayCall sdkCall)
    (moves : sdkCall.moves = true) :
    policy.motionEnabled = true ∧ policy.jointLimitsVerified = true := by
  rcases DriverCall.startsMotion_of_moves made moves with ⟨starts, other⟩
  have safe := (passes.motionSafe_iff published executed starts).mpr fun type => by
    unfold execute at executed
    split at executed <;> cases executed <;> simp_all [DriverCall.startsMotion]
  exact ⟨safe.motionEnabled, safe.jointLimitsVerified⟩

/-! ### The log -/

section Log

variable {errorOk : ℤ} {exchange : SdkExchange} {earlier newer : List SdkExchange}

/-- What has been loaded is never unloaded. -/
theorem programLoaded_isSome_append (newer : List SdkExchange)
    (loaded : (programLoaded errorOk earlier).isSome = true) :
    (programLoaded errorOk (newer ++ earlier)).isSome = true := by
  induction newer with
  | nil => exact loaded
  | cons exchange newer ih =>
      rw [List.cons_append, programLoaded]
      split
      · split
        · rfl
        · exact ih
      · exact ih

/-- The program loaded last was asked for. -/
theorem mem_of_programLoaded {name : String} (loaded : programLoaded errorOk earlier = some name) :
    ∃ exchange ∈ earlier, exchange.call = .loadProgram name := by
  induction earlier with
  | nil => cases loaded
  | cons exchange earlier ih =>
      rw [programLoaded] at loaded
      have older : programLoaded errorOk earlier = some name →
          ∃ found ∈ exchange :: earlier, found.call = .loadProgram name := by
        intro before
        rcases ih before with ⟨found, mem, call⟩
        exact ⟨found, List.mem_cons_of_mem _ mem, call⟩
      split at loaded
      · next call =>
        split at loaded
        · cases loaded
          exact ⟨exchange, List.mem_cons_self, call⟩
        · exact older loaded
      · exact older loaded

/-- The frame selected last was asked for. -/
theorem frameSelected_confirmed {device : ℕ} {name toolName : String}
    (confirmed : Confirmed errorOk device
      [.setCurrentUframeByName name, .setCurrentToolByName toolName] earlier) :
    frameSelected errorOk earlier = some name ∧
      ∃ exchange ∈ earlier, exchange.call = .setCurrentUframeByName name := by
  cases earlier with
  | nil => cases confirmed
  | cons exchange earlier =>
      rcases confirmed with ⟨_, call, isOk, _⟩
      exact ⟨by simp [frameSelected, call, isOk], exchange, List.mem_cons_self, call⟩

/-- A check of a target leaves the frame selected. -/
theorem frameSelected_checkTarget {device : ℕ} {target : CheckedTarget} {tool frame : String}
    {calls : List SdkCall}
    (confirmed : Confirmed errorOk device (.checkTarget target tool frame :: calls) earlier) :
    ∃ rest, Confirmed errorOk device calls rest ∧
      frameSelected errorOk earlier = frameSelected errorOk rest ∧
      ∀ exchange ∈ rest, exchange ∈ earlier := by
  cases earlier with
  | nil => cases confirmed
  | cons exchange earlier =>
      rcases confirmed with ⟨_, call, _, rest⟩
      exact ⟨earlier, rest, by simp [frameSelected, call], fun _ => List.mem_cons_of_mem _⟩

/-- Only `MoveL` orders a linear motion, and only `MoveC` a circular one. -/
theorem EfortOperation.selectsFrame_of_mayCall {operation : EfortOperation} {call : SdkCall}
    (made : operation.MayCall call) (refers : call.refersToFrame = true) :
    (∃ target profile, operation = .moveL target profile) ∨
      ∃ target profile, operation = .moveC target profile := by
  rcases made with mem | ⟨_, axis, direction, rfl⟩
  swap
  · cases refers
  have spared : ∀ {other : EfortOperation}, other.calls.all (!·.refersToFrame) = true →
      call ∉ other.calls := by
    intro other none mem
    have plain := List.all_eq_true.mp none call mem
    simp [refers] at plain
  cases operation with
  | moveL target profile => exact Or.inl ⟨target, profile, rfl⟩
  | moveC target profile => exact Or.inr ⟨target, profile, rfl⟩
  | stop mode => exact absurd mem (spared (by cases mode <;> rfl))
  | jog command =>
      refine absurd mem (spared ?_)
      cases starts : command.start <;> simp [calls, starts, SdkCall.refersToFrame]
  | _ => exact absurd mem (spared rfl)

/-- A motion that refers to a frame finds the one of the policy selected. -/
theorem framed_of_checked {policy : SafetyPolicy} {operation : EfortOperation}
    (made : operation.MayCall exchange.call)
    (checked : exchange.Checked errorOk operation earlier)
    (bounded : ∀ exchange ∈ earlier, exchange.call.Bounded policy)
    (refers : exchange.call.refersToFrame = true) :
    frameSelected errorOk earlier = some policy.cartesianWorkspaceFrame := by
  have selected : ∀ {rest device name toolName},
      Confirmed errorOk device [.setCurrentUframeByName name, .setCurrentToolByName toolName] rest →
      (∀ exchange ∈ rest, exchange ∈ earlier) →
      frameSelected errorOk rest = some policy.cartesianWorkspaceFrame := by
    intro rest device name toolName confirmed inside
    rcases frameSelected_confirmed confirmed with ⟨same, found, mem, call⟩
    have named := bounded found (inside found mem)
    rw [call] at named
    exact same.trans (congrArg some named)
  have confirmed : Confirmed errorOk exchange.device operation.checks earlier := by
    cases call : exchange.call with
    | mlin | mcirc => simpa only [SdkExchange.Checked, call] using checked
    | _ =>
        rw [call] at refers
        cases refers
  rcases EfortOperation.selectsFrame_of_mayCall made refers with
    ⟨target, profile, rfl⟩ | ⟨target, profile, rfl⟩
  · rcases frameSelected_checkTarget confirmed with ⟨rest, confirmed, same, inside⟩
    exact same.trans (selected confirmed inside)
  · rcases frameSelected_checkTarget confirmed with ⟨middle, confirmed, same, middleInside⟩
    rcases frameSelected_checkTarget confirmed with ⟨rest, confirmed, sameAgain, inside⟩
    exact (same.trans sameAgain).trans
      (selected confirmed fun exchange mem => middleInside exchange (inside exchange mem))

end Log

/-! ### Runs of the service -/

/-- A call that is not made on request has no bounds to keep. -/
theorem SdkCall.bounded_of_not_commands {policy : SafetyPolicy} {call : SdkCall}
    (own : call.commands = false) : call.Bounded policy ∧ call.moves = false := by
  cases call with
  | jog axis direction start => cases start <;> first | exact ⟨trivial, rfl⟩ | cases own
  | _ => first | exact ⟨trivial, rfl⟩ | cases own

theorem EfortOperation.startProgram_of_mayCall {operation : EfortOperation}
    (made : operation.MayCall .startProgram) : operation = .startProgram := by
  rcases made with mem | ⟨_, axis, direction, same⟩
  swap
  · cases same
  cases operation with
  | startProgram => rfl
  | stop mode => cases mode <;> simp [calls] at mem
  | jog command => cases starts : command.start <;> simp [calls, starts] at mem
  | _ => simp [calls] at mem

namespace Station

open EfortSession

variable {plant : Plant} {station after : Station}

/-- What the executor takes for loaded changes only when the adapter has loaded a program. -/
theorem loaded_of_step {label : Step} (taken : step plant station label = some after) :
    lastLoaded after.system.events = lastLoaded station.system.events ∨
      ∃ name, after.session = station.session.after plant.sdk (.loadProgram name) ∧
        (station.session.status plant.sdk (.loadProgram name)).ok = true := by
  cases step_cases taken with
  | waits system => exact Or.inl (by rw [system])
  | enters _ _ _ inner => exact Or.inl (System.step_lastLoaded inner (by simp))
  | @proceeds action _ _ inner session =>
      generalize after.system = system at inner ⊢
      by_cases returns : ∃ outcome, action = .worker (.callReturns outcome)
      · rcases returns with ⟨outcome, rfl⟩
        cases position : station.system.worker with
        | executing record evidence call =>
            simp only [answered, position] at inner
            simp only [operations, position] at session
            cases System.workerStep_cases inner with
            | returns again =>
                cases position.symm.trans again
                rcases lastLoaded_callReturned record.id call
                  (station.session.status plant.sdk call.operation) station.system.events with
                  ⟨name, rfl, same⟩ | same
                · cases ok : (station.session.status plant.sdk (.loadProgram name)).ok with
                  | true => exact Or.inr ⟨name, session, ok⟩
                  | false =>
                      left
                      simp [CallOutcome.status, lastLoaded, DriverCall.operation, ok]
                · exact Or.inl same
        | _ =>
            simp [answered, System.step, System.workerStep, position] at inner
      · refine Or.inl (System.step_lastLoaded inner fun outcome same => returns ?_)
        unfold answered at same
        split at same
        · exact ⟨_, rfl⟩
        · cases same
        · cases same
        · exact ⟨outcome, same⟩

/-- A `LoadProgram` that is reported as done is in the log. -/
theorem programLoaded_of_status {sdk : EfortSdk} {session : EfortSession} {name : String}
    (ok : (session.status sdk (.loadProgram name)).ok = true) :
    (programLoaded sdk.constants.errorOk
      (session.after sdk (.loadProgram name)).exchanges).isSome = true := by
  have loads : Triple (fun _ => True) (EfortDriver.perform sdk (.loadProgram name))
      (fun _ after => (programLoaded sdk.constants.errorOk after.exchanges).isSome = true)
      fun status _ => status.ok = false := by
    apply EfortDriver.triple_reply
    apply Triple.ite
    · exact fun _ => Triple.throw fun _ _ => rfl
    intro _
    apply Triple.bind (EfortDriver.triple_answered (fun _ _ _ isOk => ?_) fun _ _ _ notOk => ?_)
    · exact fun _ => Triple.pure fun _ => id
    · simp [EfortDriver.answered, programLoaded, isOk]
    · simp [notOk]
  have reached := loads session trivial
  cases run : (EfortDriver.perform sdk (.loadProgram name)).run session with
  | ok reply later =>
      rw [run] at reached
      rwa [EfortSession.after, finalState_of_ok run]
  | error status later =>
      rw [run] at reached
      simp [EfortSession.status, outcome, run, reached] at ok

end Station

/-- A call that the site policy permits, whatever came before it. -/
def SdkCall.Permitted (policy : SafetyPolicy) (call : SdkCall) : Prop :=
  call.Bounded policy ∧
    (call.moves = true → policy.motionEnabled = true ∧ policy.jointLimitsVerified = true)

/-- The exchanges keep to the policy, as far as each one shows it. -/
structure EfortSession.Governed (sdk : EfortSdk) (policy : SafetyPolicy) (session : EfortSession) :
    Prop where
  checked : session.Vetted sdk
  permitted : ∀ exchange ∈ session.exchanges, exchange.call.Permitted policy
  starts : Backed (fun exchange earlier => exchange.call = .startProgram →
    (programLoaded sdk.constants.errorOk earlier).isSome = true) session.exchanges

theorem EfortSession.Governed.after {sdk : EfortSdk} {policy : SafetyPolicy}
    {session : EfortSession} {operation : EfortOperation} (governed : session.Governed sdk policy)
    (calls : ∀ call, operation.MayCall call → call.Permitted policy)
    (program : operation = .startProgram →
      (programLoaded sdk.constants.errorOk session.exchanges).isSome = true) :
    (session.after sdk operation).Governed sdk policy := by
  let kept : List SdkExchange → Prop := fun exchanges =>
    (∀ exchange ∈ exchanges, exchange.call.Permitted policy) ∧
    Backed (fun exchange earlier => exchange.call = .startProgram →
      (programLoaded sdk.constants.errorOk earlier).isSome = true) exchanges ∧
    (operation = .startProgram → (programLoaded sdk.constants.errorOk exchanges).isSome = true)
  have keeps : EfortDriver.Maintains (fun session => kept session.exchanges)
      (EfortDriver.perform sdk operation) := by
    apply Upheld.perform_exchanges
    rintro exchange earlier made ⟨permitted, starts, loaded⟩
    refine ⟨List.forall_mem_cons.mpr ⟨calls _ made, permitted⟩,
      Backed.cons_iff.mpr ⟨fun start => ?_, starts⟩,
      fun starting => programLoaded_isSome_append [exchange] (loaded starting)⟩
    rw [start] at made
    exact loaded (EfortOperation.startProgram_of_mayCall made)
  rcases keeps.finalState ⟨governed.permitted, governed.starts, program⟩ with
    ⟨permitted, starts, _⟩
  exact ⟨governed.checked.after operation, permitted, starts⟩

namespace Station

open EfortSession

variable {plant : Plant} {station after : Station}

/-- An operation that makes no call on request changes nothing about the policy. -/
theorem permitted_of_spared {policy : SafetyPolicy} {operation : EfortOperation}
    (spared : operation.calls.all (!·.commands) = true) (call : SdkCall)
    (made : operation.MayCall call) : call.Permitted policy := by
  have own : call.Bounded policy ∧ call.moves = false :=
    SdkCall.bounded_of_not_commands (EfortOperation.not_commands spared made)
  refine ⟨own.1, fun moves => ?_⟩
  cases own.2.symm.trans moves

theorem Performs.permitted {operation : EfortOperation} (performed : Performs station operation)
    (reached : Reachable plant station) (call : SdkCall) (made : operation.MayCall call) :
    call.Permitted plant.setup.policy := by
  cases performed with
  | polls | stops => exact permitted_of_spared rfl call made
  | reads =>
      exact permitted_of_spared (EfortOperation.observes_spared (reached.observes _)) call made
  | @commands record evidence driverCall position =>
      have vetted := reached.system.vetted
      have passes : evidence.Passes plant.setup.policy record.request :=
        vetted.passed (by rw [position]; rfl)
      have published : evidence.snapshot.Published := vetted.copied (by rw [position]; rfl)
      have executed := (reached.system.consistent.executing position).1
      exact ⟨passes.bounded executed made, passes.enabled published executed made⟩

/-- A program is started only after one was loaded. -/
theorem Performs.program {operation : EfortOperation} (performed : Performs station operation)
    (reached : Reachable plant station) (starts : operation = .startProgram) :
    (lastLoaded station.system.events).isSome = true := by
  cases performed with
  | polls | stops => cases starts
  | @reads thread =>
      have observes := reached.observes thread
      rw [starts] at observes
      cases observes
  | @commands record evidence driverCall position =>
      have isStart : driverCall = .startProgram := by
        cases driverCall <;> first | rfl | cases starts
      subst isStart
      have known := reached.system.programKnown
      have starting : station.system.worker.startsProgram = true := by
        have origin := execute_origin (reached.system.consistent.executing position).1
        rw [position]
        simpa [WorkerPc.startsProgram] using origin
      exact known.tracked (known.starting starting)

/-- The controller keeps to the policy, and has a program loaded if the executor takes one for
loaded. -/
structure Governed (plant : Plant) (station : Station) : Prop where
  session : station.session.Governed plant.sdk plant.setup.policy
  known : (lastLoaded station.system.events).isSome = true →
    (programLoaded plant.sdk.constants.errorOk station.session.exchanges).isSome = true

theorem Init.governed (initial : Init plant station) : Governed plant station := by
  rcases initial with ⟨readAt, now, impl, _, rfl⟩
  have fresh : ({} : EfortSession).Governed plant.sdk plant.setup.policy :=
    ⟨Backed.nil, by simp, Backed.nil⟩
  have connected : (({} : EfortSession).after plant.sdk (.connect plant.connection)).Governed
      plant.sdk plant.setup.policy := fresh.after (permitted_of_spared rfl) (by simp)
  exact ⟨connected.after (permitted_of_spared rfl) (by simp), by simp [lastLoaded]⟩

theorem Governed.known_of_step {label : Step} (governed : Governed plant station)
    (taken : step plant station label = some after)
    (loaded : (lastLoaded after.system.events).isSome = true) :
    (programLoaded plant.sdk.constants.errorOk after.session.exchanges).isSome = true := by
  rcases loaded_of_step taken with same | ⟨name, session, ok⟩
  · rcases exchanges_of_step taken with ⟨newer, added⟩
    rw [added]
    exact programLoaded_isSome_append newer (governed.known (same ▸ loaded))
  · rw [session]
    exact programLoaded_of_status ok

theorem Reachable.governed (reached : Reachable plant station) : Governed plant station := by
  refine reached.invariant (Governed plant) (fun _ => Init.governed)
    fun station label after reached governed _ taken => ⟨?_, governed.known_of_step taken⟩
  have reached : Reachable plant station := reached
  cases sessionStep_cases taken with
  | quiet session =>
      rw [session]
      exact governed.session
  | performs performed session =>
      rw [session]
      exact governed.session.after (performed.permitted reached)
        fun starts => governed.known (performed.program reached starts)
  | disconnects _ session =>
      rw [session]
      have released : (station.session.after plant.sdk .releaseControl).Governed plant.sdk
          plant.setup.policy := governed.session.after (permitted_of_spared rfl) (by simp)
      exact released.after (permitted_of_spared rfl) (by simp)

/-- Over every run of the service every SDK call other than MOVERESUME stays inside the site policy:
the arguments that arrive at the controller keep the limits, motion is enabled, a Cartesian motion
finds the frame of its workspace selected, and a program starts only behind an approved one that was
loaded. -/
theorem policy_kept_at_controller (reached : Reachable plant station) :
    Backed (SdkExchange.WithinPolicy plant.setup.policy plant.sdk.constants.errorOk)
      station.session.exchanges := by
  intro exchange earlier suffix
  have governed := reached.governed.session
  have mem : ∀ {other}, other ∈ exchange :: earlier → other ∈ station.session.exchanges :=
    fun inside => suffix.subset inside
  have permitted := governed.permitted exchange (mem List.mem_cons_self)
  have before : ∀ other ∈ earlier, other.call.Bounded plant.setup.policy :=
    fun other inside => (governed.permitted other (mem (List.mem_cons_of_mem _ inside))).1
  rcases governed.checked exchange earlier suffix with ⟨operation, made, checked⟩
  refine ⟨permitted.1, permitted.2, framed_of_checked made checked before, fun starts => ?_⟩
  rcases Option.isSome_iff_exists.mp (governed.starts exchange earlier suffix starts) with
    ⟨name, loaded⟩
  rcases mem_of_programLoaded loaded with ⟨load, inside, call⟩
  have approved := before load inside
  rw [call] at approved
  exact ⟨name, loaded, approved.2⟩

/-- The motion that the operator asks for is inside the policy of the cell. -/
theorem policy_kept_at_controller_move : ∃ station exchange earlier,
    Reachable Plant.standing station ∧ exchange :: earlier <:+ station.session.exchanges ∧
    exchange.call = .mjoint (List.replicate 6 (.finite 5)) 10 (.finite 0) ∧
    exchange.WithinPolicy Plant.standing.setup.policy 0 earlier := by
  rcases TransitionSystem.exists_reachable_of_execute standing_reachable moves
    (fun station => station.session.exchanges.head?.any fun exchange =>
      exchange.call = .mjoint (List.replicate 6 (.finite 5)) 10 (.finite 0)) (by decide) with
    ⟨station, reached, sent⟩
  cases same : station.session.exchanges with
  | nil => simp [same] at sent
  | cons exchange earlier =>
      simp only [same, List.head?_cons, Option.any_some, decide_eq_true_eq] at sent
      have suffix : exchange :: earlier <:+ station.session.exchanges := same ▸ List.suffix_refl _
      exact ⟨station, exchange, earlier, reached, suffix, sent,
        policy_kept_at_controller reached exchange earlier suffix⟩

end Station

end RobotManager
