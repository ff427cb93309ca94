import RobotManager.Service.ControllerPolicy
import RobotManager.Transport.GrpcOptions

/-!
# From the configuration file to the controller

`Run` of `main.cc` assembles the service from one document.  Except for the continuation of a held
motion, which no setting restricts, the controller is called only as the document allows.  Nobody
commands the robot whom the document does not trust; the service itself only stops it.
-/

namespace RobotManager

open Checked

/-- The service that `Run` assembles in a build whose driver is EFORT, or the text with which it
exits.  The SDK is what stands at the other end. -/
def Plant.ofDocument (document : ConfigDocument) (sdk : EfortSdk) : Except String Plant :=
  match loadServiceConfig document with
  | .error status => .error status.message
  | .ok config =>
      match GrpcConfigLoader.loadGrpcServerOptions document with
      | .error status => .error status.message
      | .ok grpc =>
          if config.driverName = "efort" then
            .ok
              { setup := ⟨config.safetyPolicy, config.executorOptions⟩
                endpoint := ⟨config.connection.robotId, grpc.allowedClientCommonNames⟩
                connection := config.connection.toConnectionOptions
                sdk := sdk }
          else .error ("driver '" ++ config.driverName ++ "' is unavailable in this build")

namespace ConfigDocument

variable (document : ConfigDocument)

/-! ### What a document allows -/

/-- Motion is enabled and there are limits for the joints. -/
def EnablesMotion : Prop :=
  document.scalars.lookup "limits.motion_enabled" = some "true" ∧
    document.Present "limits.joint_limits_deg"

/-- Every joint value lies in the range that is listed for it. -/
def AllowsJoints (position : List Double) : Prop :=
  ∃ ranges, document.lists.lookup "limits.joint_limits_deg" = some ranges ∧
    List.Forall₂ (fun range value => ∃ limit : JointLimit,
      parseRange range "limits.joint_limits_deg" = .ok limit ∧ limit.Admits value) ranges position

/-- A speed between one and the setting. -/
def AllowsSpeed (key : String) (speed : ℤ) : Prop :=
  ∃ maximum, parseInt document key = .ok maximum ∧ 1 ≤ speed ∧ speed ≤ maximum

/-- The target of a call, as the adapter converts it, lies in the workspace. -/
def AllowsTarget {Target : Type} (convert : CartesianPose → Target) (target : Target) : Prop :=
  ∃ settings : WorkspaceSettings, settings.ReadFrom document ∧
    ∃ pose, target = convert pose ∧ settings.workspace.Admits pose

/-- The calls to the SDK that the settings of the document allow; none of them restricts the calls
that are not listed, among them the continuation of a held motion. -/
def Allows : SdkCall → Prop
  | .connectRobot address debug verify =>
      document.scalars.lookup "robot.address" = some address ∧
        parseBool document "robot.sdk_debug_logging" = .ok debug ∧
        parseBool document "robot.verify_sdk_version" = .ok verify
  | .mjoint position speedPercent _ =>
      document.EnablesMotion ∧ document.AllowsJoints position ∧
        document.AllowsSpeed "limits.maximum_joint_speed_percent" speedPercent
  | .mlin position speed _ =>
      document.EnablesMotion ∧ document.AllowsTarget toEfortPose position ∧
        document.AllowsSpeed "limits.maximum_linear_speed_mm_per_second" speed
  | .mcirc via target speed _ _ workObjectName =>
      document.EnablesMotion ∧ document.AllowsTarget toPointC via ∧
        document.AllowsTarget toPointC target ∧
        document.scalars.lookup "limits.cartesian_workspace.frame" = some workObjectName ∧
        document.AllowsSpeed "limits.maximum_linear_speed_mm_per_second" speed
  | .jog _ _ true | .startProgram => document.EnablesMotion
  | .setGlobalSpeed ratio =>
      document.AllowsSpeed "limits.maximum_joint_speed_percent" ratio
  | .writeDOut index _ => ∃ outputs output,
      document.lists.lookup "limits.writable_digital_outputs" = some outputs ∧
        output ∈ outputs ∧ parseIntScalar output "writable output" = .ok (index : ℤ)
  | .loadProgram name =>
      document.scalars.lookup "limits.program_execution_enabled" = some "true" ∧
        ∃ names, document.lists.lookup "limits.approved_programs" = some names ∧ name ∈ names
  | _ => True

/-- A peer whose certificate the document lists, or any peer if it allows plaintext. -/
def Trusts (context : GrpcServer.ServerContext) : Prop :=
  document.scalars.lookup "transport.grpc.allow_insecure_loopback" = some "true" ∨
    ∃ names identities name, document.lists.lookup GrpcConfigLoader.commonNamesKey = some names ∧
      context.peerIdentity = some identities ∧ name ∈ identities ∧ name ∈ names

end ConfigDocument

/-- A process that runs has loaded both parts of its configuration. -/
theorem Plant.of_ofDocument {document : ConfigDocument} {sdk : EfortSdk} {plant : Plant}
    (made : Plant.ofDocument document sdk = .ok plant) : ∃ config grpc,
      loadServiceConfig document = .ok config ∧
      GrpcConfigLoader.loadGrpcServerOptions document = .ok grpc ∧
      config.driverName = "efort" ∧
      plant =
        { setup := ⟨config.safetyPolicy, config.executorOptions⟩
          endpoint := ⟨config.connection.robotId, grpc.allowedClientCommonNames⟩
          connection := config.connection.toConnectionOptions
          sdk := sdk } := by
  unfold ofDocument at made
  split at made
  · cases made
  next config loaded =>
  split at made
  · cases made
  next grpc options =>
  split at made
  · next efort =>
    cases made
    exact ⟨config, grpc, loaded, options, efort, rfl⟩
  · cases made

/-! ### Settings behind a permitted call -/

section Accepted

variable {document : ConfigDocument} {settings : RequiredSettings} {optional : OptionalSettings}

theorem ConfigDocument.Accepted.enablesMotion (accepted : document.Accepted settings optional)
    (enabled : (settings.serviceConfig optional).safetyPolicy.motionEnabled = true)
    (verified : (settings.serviceConfig optional).safetyPolicy.jointLimitsVerified = true) :
    document.EnablesMotion := by
  have flag : settings.motionEnabled = true := enabled
  refine ⟨?_, accepted.limitsVerified_iff.mp verified⟩
  simpa [flag] using parseBool_eq_ok_iff.mp accepted.required.motionEnabled

/-- A value that keeps the bounds of a range which was parsed lies in it. -/
theorem JointLimit.Keeps.admits {range key : String} {limit : JointLimit} {value : Double}
    (kept : limit.Keeps value) (parsed : parseRange range key = .ok limit) :
    limit.Admits value := by
  rcases exists_of_parseRange parsed with ⟨lower, upper, lowerParsed, upperParsed, _⟩
  have number : ∀ {bound : Double}, bound.isFinite = true → bound.isNaN = false := by
    intro bound finite
    cases bound <;> first | rfl | cases finite
  exact ⟨kept.1, kept.2.1 (number (isFinite_of_parseDouble lowerParsed)),
    kept.2.2 (number (isFinite_of_parseDouble upperParsed))⟩

theorem ConfigDocument.Accepted.allowsJoints (accepted : document.Accepted settings optional)
    (present : document.Present "limits.joint_limits_deg") {position : List Double}
    (kept : List.Forall₂ JointLimit.Keeps
      (settings.serviceConfig optional).safetyPolicy.jointLimits position) :
    document.AllowsJoints position := by
  rcases accepted.limits_parsed present with ⟨ranges, found, parsed⟩
  refine ⟨ranges, found, ?_⟩
  clear found
  generalize (settings.serviceConfig optional).safetyPolicy.jointLimits = limits at kept parsed
  induction parsed generalizing position with
  | nil =>
      cases kept
      exact .nil
  | cons range _ ih =>
      cases kept with
      | cons first rest => exact .cons ⟨_, range, first.admits range⟩ (ih rest)

theorem ConfigDocument.Accepted.workspace_readFrom (accepted : document.Accepted settings optional)
    (verified : (settings.serviceConfig optional).safetyPolicy.cartesianWorkspaceVerified = true) :
    WorkspaceSettings.ReadFrom
      ⟨(settings.serviceConfig optional).safetyPolicy.cartesianWorkspaceFrame,
        (settings.serviceConfig optional).safetyPolicy.cartesianWorkspace⟩ document :=
  accepted.readFrom (accepted.workspace_isSome_iff.mp verified)

theorem ConfigDocument.Accepted.allowsTarget {Target : Type} {convert : CartesianPose → Target}
    {target : Target} (accepted : document.Accepted settings optional)
    (verified : (settings.serviceConfig optional).safetyPolicy.cartesianWorkspaceVerified = true)
    (inside : ∃ pose, target = convert pose ∧
      (settings.serviceConfig optional).safetyPolicy.cartesianWorkspace.Admits pose) :
    document.AllowsTarget convert target :=
  ⟨_, accepted.workspace_readFrom verified, inside⟩

theorem ConfigDocument.Accepted.output_listed (accepted : document.Accepted settings optional)
    {index : ℕ} (writable :
      index ∈ (settings.serviceConfig optional).safetyPolicy.writableDigitalOutputs) :
    ∃ outputs output, document.lists.lookup "limits.writable_digital_outputs" = some outputs ∧
      output ∈ outputs ∧ parseIntScalar output "writable output" = .ok (index : ℤ) := by
  rcases writableDigitalOutputs_eq_ok_iff.mp accepted.outputs with ⟨values, read, parsed⟩
  have writable : index ∈ optional.outputs := writable
  have nonempty : values ≠ [] := by
    rintro rfl
    rw [List.forall₂_nil_left_iff.mp parsed] at writable
    cases writable
  rcases exists_mem_of_forall₂ parsed writable with ⟨output, listed, number⟩
  exact ⟨values, output, (lookup_of_optionalList (present_of_optionalList nonempty read) read).1,
    listed, number⟩

theorem ConfigDocument.Accepted.program_listed (accepted : document.Accepted settings optional)
    {name : String} (approved :
      name ∈ (settings.serviceConfig optional).safetyPolicy.approvedPrograms) :
    ∃ names, document.lists.lookup "limits.approved_programs" = some names ∧ name ∈ names := by
  have approved : name ∈ optional.programs := approved
  have nonempty : optional.programs ≠ [] := List.ne_nil_of_mem approved
  have present := present_of_optionalList nonempty accepted.programs
  exact ⟨_, (lookup_of_optionalList present accepted.programs).1, approved⟩

/-- What the site policy of the document permits, the document allows. -/
theorem ConfigDocument.Accepted.allows (accepted : document.Accepted settings optional)
    {call : SdkCall} (permitted : call.Permitted (settings.serviceConfig optional).safetyPolicy)
    (connected : call.connects = false) : document.Allows call := by
  rcases permitted with ⟨bounded, enabled⟩
  have jointSpeed : ∀ speed, 1 ≤ speed ∧
      speed ≤ (settings.serviceConfig optional).safetyPolicy.maximumJointSpeedPercent →
      document.AllowsSpeed "limits.maximum_joint_speed_percent" speed :=
    fun _ range => ⟨_, accepted.required.maximumJointSpeed, range⟩
  have linearSpeed : ∀ speed, 1 ≤ speed ∧
      speed ≤ (settings.serviceConfig optional).safetyPolicy.maximumLinearSpeedMmPerSecond →
      document.AllowsSpeed "limits.maximum_linear_speed_mm_per_second" speed :=
    fun _ range => ⟨_, accepted.required.maximumLinearSpeed, range⟩
  have motion : call.moves = true → document.EnablesMotion :=
    fun moves => accepted.enablesMotion (enabled moves).1 (enabled moves).2
  cases call with
  | connectRobot => cases connected
  | mjoint position speedPercent blend =>
      have enables := motion rfl
      exact ⟨enables, accepted.allowsJoints enables.2 bounded.1, jointSpeed _ bounded.2⟩
  | mlin position speed blend =>
      rcases bounded with ⟨verified, inside, range⟩
      exact ⟨motion rfl, accepted.allowsTarget verified inside, linearSpeed _ range⟩
  | mcirc via target speed blend tool frame =>
      rcases bounded with ⟨verified, viaInside, targetInside, same, range⟩
      have read := accepted.workspace_readFrom verified
      exact ⟨motion rfl, accepted.allowsTarget verified viaInside,
        accepted.allowsTarget verified targetInside,
        same ▸ (requiredScalar_eq_ok_iff.mp read.frame).1, linearSpeed _ range⟩
  | jog axis direction start =>
      cases start with
      | true => exact motion rfl
      | false => trivial
  | startProgram => exact motion rfl
  | setGlobalSpeed ratio => exact jointSpeed _ (by exact_mod_cast bounded)
  | writeDOut index value => exact accepted.output_listed bounded
  | loadProgram name =>
      have flag : settings.programsEnabled = true := bounded.1
      refine ⟨?_, accepted.program_listed bounded.2⟩
      simpa [flag] using parseBool_eq_ok_iff.mp accepted.required.programsEnabled
  | _ => trivial

end Accepted

/-! ### The connection -/

/-- The only connection that a log shows is the one it begins with. -/
theorem Served.connection {errorOk : ℤ} {options : ConnectionOptions} {device : ℕ}
    {exchanges : List SdkExchange} (served : Served errorOk options device exchanges)
    {exchange : SdkExchange} (mem : exchange ∈ exchanges)
    (connects : exchange.call.connects = true) :
    exchange.call =
      .connectRobot options.address options.sdkDebugLogging options.verifySdkVersion := by
  induction served with
  | opened call =>
      obtain rfl := List.mem_singleton.mp mem
      exact call
  | goesOn _ other _ ih =>
      rcases List.mem_cons.mp mem with rfl | before
      · cases connects.symm.trans other
      · exact ih before

theorem Station.Reachable.connection {plant : Plant} {station : Station}
    (reached : Reachable plant station) {exchange : SdkExchange}
    (mem : exchange ∈ station.session.exchanges) (connects : exchange.call.connects = true) :
    exchange.call = .connectRobot plant.connection.address plant.connection.sdkDebugLogging
      plant.connection.verifySdkVersion ∨ exchange.call = .disconnectRobot := by
  have attached := reached.attached
  cases phase : station.system.shutdown.disconnected with
  | false => exact Or.inl ((attached.serving phase).served.connection mem connects)
  | true =>
      rcases attached.closed phase with ⟨closing, earlier, same, call, served⟩
      rw [same] at mem
      rcases List.mem_cons.mp mem with rfl | before
      · exact Or.inr call
      · exact Or.inl (served.connection before connects)

/-! ### Who commands -/

theorem GrpcConfigLoader.allowedClientCommonNames_of_loaded {document : ConfigDocument}
    {options : GrpcServerOptions} (loaded : loadGrpcServerOptions document = .ok options) :
    options.allowedClientCommonNames = (document.lists.lookup commonNamesKey).getD [] := by
  unfold loadGrpcServerOptions at loaded
  simp only [bind_eq_ok_iff, reject_eq_ok_iff, exists_const] at loaded
  rcases loaded with ⟨_, listen, _, insecure, _, _, made⟩
  split at made <;> rcases bind_eq_ok_iff.mp made with ⟨_, _, made⟩ <;> cases made <;> rfl

/-- A peer that the endpoint authorises has a name that is listed, if any is. -/
theorem GrpcServer.RobotControlEndpoint.listed_of_authorize {endpoint : RobotControlEndpoint}
    {context : ServerContext} (authorized : (endpoint.authorize context).ok = true)
    (lists : endpoint.allowedClientCommonNames ≠ []) : ∃ identities name,
      context.peerIdentity = some identities ∧ name ∈ identities ∧
        name ∈ endpoint.allowedClientCommonNames := by
  unfold authorize at authorized
  split at authorized
  · next empty => exact absurd (List.isEmpty_iff.mp empty) lists
  split at authorized
  · cases authorized
  next identities peer =>
  split at authorized
  · next listed =>
    rcases List.any_eq_true.mp listed with ⟨name, inside, allowed⟩
    exact ⟨identities, name, peer, inside, by simpa using allowed⟩
  · cases authorized

theorem ConfigDocument.trusts_of_authorize {document : ConfigDocument}
    {options : GrpcServerOptions} {robotId : String} {context : GrpcServer.ServerContext}
    (loaded : GrpcConfigLoader.loadGrpcServerOptions document = .ok options)
    (authorized : (GrpcServer.RobotControlEndpoint.authorize
      ⟨robotId, options.allowedClientCommonNames⟩ context).ok = true) :
    document.Trusts context := by
  rcases GrpcConfigLoader.of_loadGrpcServerOptions loaded with ⟨_, _, plaintext | secure⟩
  · exact Or.inl plaintext.2.1
  have complete := GrpcServerOptions.lacksCredentials_eq_false_iff.mp secure.2.2
  rcases GrpcServer.RobotControlEndpoint.listed_of_authorize authorized complete.2.2.2 with
    ⟨identities, name, peer, inside, listed⟩
  have listed : name ∈ options.allowedClientCommonNames := listed
  rw [GrpcConfigLoader.allowedClientCommonNames_of_loaded loaded] at listed
  cases found : document.lists.lookup GrpcConfigLoader.commonNamesKey with
  | none => simp [found] at listed
  | some names =>
      rw [found] at listed
      exact Or.inr ⟨names, identities, name, found, peer, inside, listed⟩

theorem GrpcServer.RobotControlEndpoint.of_validateRequest {endpoint : RobotControlEndpoint}
    {context : ServerContext} {robotId : String}
    (validated : (endpoint.validateRequest context robotId).ok = true) :
    (endpoint.authorize context).ok = true ∧ robotId = endpoint.robotId := by
  unfold validateRequest at validated
  dsimp only at validated
  split at validated
  · next authorized =>
    refine ⟨authorized, ?_⟩
    by_contra other
    simp [validateRobotId, other, GrpcStatus.ok] at validated
  · next refused => exact absurd validated refused

/-! ### The process -/

/-- A `SubmitCommand` call of a trusted peer to the robot of the document asks for the SDK call. -/
def ConfigDocument.Orders (document : ConfigDocument) (station : Station) (call : SdkCall) :
    Prop :=
  ∃ context message request driverCall,
    (context, Rpc.submitCommand message) ∈ station.accepted ∧ document.Trusts context ∧
    document.scalars.lookup "robot.id" = some message.robotId ∧
    GrpcServer.fromProtoCommand message = .ok request ∧ execute request = .ok driverCall ∧
    driverCall.operation.MayCall call

/-- Over every run of a process that is configured by a document, whatever its clients send and
however the SDK answers: every SDK call other than MOVERESUME is one that the settings of the
document allow, and every call that does more than observing, stopping the robot, giving up the
control or opening and closing the connection was asked for by a peer that the document trusts. -/
theorem document_bounds_controller {document : ConfigDocument} {sdk : EfortSdk} {plant : Plant}
    {station : Station} (made : Plant.ofDocument document sdk = .ok plant)
    (reached : Station.Reachable plant station) :
    ∀ exchange ∈ station.session.exchanges, document.Allows exchange.call ∧
      (exchange.call.commands = true → document.Orders station exchange.call) := by
  intro exchange mem
  rcases Plant.of_ofDocument made with ⟨config, grpc, loaded, options, _, rfl⟩
  rcases loadServiceConfig_eq_ok_iff.mp loaded with ⟨settings, optional, accepted, rfl⟩
  constructor
  · cases connects : exchange.call.connects with
    | false => exact accepted.allows (reached.governed.session.permitted exchange mem) connects
    | true =>
        rcases reached.connection mem connects with opens | ends
        · rw [opens]
          exact ⟨(requiredScalar_eq_ok_iff.mp accepted.required.address).1,
            accepted.required.sdkDebug, accepted.required.verifySdk⟩
        · rw [ends]
          trivial
  · intro commands
    rcases reached.ordered exchange mem commands with
      ⟨context, message, request, driverCall, sent, validated, converted, executed, call⟩
    have checked := GrpcServer.RobotControlEndpoint.of_validateRequest validated
    refine ⟨context, message, request, driverCall, sent, ?_, ?_, converted, executed, call⟩
    · exact ConfigDocument.trusts_of_authorize options checked.1
    · rw [checked.2]
      exact (requiredScalar_eq_ok_iff.mp accepted.required.robotId).1

/-- `Start` of the executor, which connects and reads the first state. -/
def Station.start (plant : Plant) (readAt now : TimePoint) : StatusOr Station :=
  let connected := ({} : EfortSession).after plant.sdk (.connect plant.connection)
  (Impl.start plant.setup.options true (({} : EfortSession).status plant.sdk
    (.connect plant.connection)) (connected.outcome (EfortDriver.readState plant.sdk readAt)) now
    {}).map fun impl =>
      { system :=
          { impl := impl
            leases := { leaseTtl := plant.setup.options.controlLeaseTtl }
            now := now }
        session := connected.after plant.sdk (.readState readAt) }

theorem Station.init_of_start {plant : Plant} {station : Station} {readAt now : TimePoint}
    (started : Station.start plant readAt now = .ok station) : Init plant station := by
  unfold start at started
  dsimp only at started
  cases made : Impl.start plant.setup.options true (({} : EfortSession).status plant.sdk
      (.connect plant.connection)) ((({} : EfortSession).after plant.sdk
        (.connect plant.connection)).outcome (EfortDriver.readState plant.sdk readAt)) now {} with
  | error status =>
      rw [made] at started
      cases started
  | ok impl =>
      rw [made] at started
      cases started
      exact ⟨readAt, now, impl, made, rfl⟩

/-- The SDK of a robot that stands ready and names its model. -/
def sdkOfModel (model : String) : EfortSdk :=
  { sdkStanding with answer := fun exchanges device call =>
      { sdkStanding.answer exchanges device call with model := model } }

/-- A client of the robot in the document takes the lease and has its motion sent. -/
def configuredMoves : List Station.Step :=
  [.rpc 0 {} (.acquireControlLease ⟨"er150-2700-01", "client"⟩),
    .proceed (.client 0 .acquireSample), .proceed (.client 0 .acquireCommit),
    .rpc 0 {} (.submitCommand { Station.moveMessage with robotId := "er150-2700-01" }),
    .proceed (.client 0 .submitSample), .proceed (.client 0 .submitValidate),
    .proceed (.client 0 (.submitCommit .stored))] ++
  (Schedule.prepare ++ Schedule.call (.returned Status.Ok)).map .proceed

/-- The process that the document with motion enabled describes moves the robot. -/
theorem document_bounds_controller_enabled : ∃ plant station exchange,
    Plant.ofDocument enabledDocument (sdkOfModel "ER150-2700") = .ok plant ∧
    Station.Reachable plant station ∧ exchange ∈ station.session.exchanges ∧
    exchange.call = .mjoint (List.replicate 6 (.finite 5)) 10 (.finite 0) ∧
    enabledDocument.Allows exchange.call ∧ enabledDocument.Orders station exchange.call := by
  have runs : (Plant.ofDocument enabledDocument (sdkOfModel "ER150-2700")).toOption.any
      (fun plant => (Station.start plant 0 1000).toOption.any fun station =>
        (TransitionSystem.execute (Station.step plant) (fun _ _ => true) configuredMoves
          station).any fun station => station.session.exchanges.any fun exchange =>
            exchange.call = .mjoint (List.replicate 6 (.finite 5)) 10 (.finite 0)) = true := by
    decide +kernel
  rcases exists_of_any runs with ⟨plant, made, runs⟩
  rcases exists_of_any runs with ⟨start, started, runs⟩
  rcases TransitionSystem.exists_reachable_of_execute (.init (Station.init_of_start started))
    configuredMoves _ runs with ⟨station, reached, sent⟩
  rcases List.any_eq_true.mp sent with ⟨exchange, mem, isMove⟩
  have isMove := of_decide_eq_true isMove
  have bounds := document_bounds_controller made reached exchange mem
  exact ⟨plant, station, exchange, made, reached, mem, isMove, bounds.1,
    bounds.2 (by rw [isMove]; rfl)⟩

end RobotManager
