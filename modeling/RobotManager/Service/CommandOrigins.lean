import RobotManager.Control.Idempotency
import RobotManager.Service.OneConnection

/-!
# Where the commands to the robot come from

Every SDK call that powers the robot, moves it, sets an output or loads a program goes back to a
`SubmitCommand` call that was authorised and addressed to this robot, and has the arguments of its
message.  What the service does by itself only stops the robot and gives the control away.
-/

namespace RobotManager

namespace System

/-- What the executor has been asked for, and what it has recorded, is of a kind. -/
structure Requested (allowed : CommandRequest → Prop) (system : System) : Prop where
  records : ∀ {id record}, system.impl.commands.lookup id = some record → allowed record.request
  submitted : ∀ {thread request}, (system.clients thread).submitted = some request →
    allowed request

/-- A client thread submits what its operation has begun with. -/
theorem submitted_of_clientStep {setup : Setup} {system after : System} {thread : ℕ}
    {action : ClientAction} (taken : clientStep setup thread action system = some after)
    {request : CommandRequest} (submitted : (after.clients thread).submitted = some request) :
    (system.clients thread).submitted = some request ∨ action = .submit request := by
  cases action with
  | submit asked =>
      cases position : system.clients thread <;> simp only [clientStep, position] at taken <;>
        try cases taken
      split at taken
      · cases taken
        simp [clientReturns, setClient, ClientPc.submitted] at submitted
      split at taken
      · cases taken
        simp [clientReturns, setClient, ClientPc.submitted] at submitted
      · cases taken
        simp only [clients_setClient, if_true, ClientPc.submitted, Option.some.injEq] at submitted
        exact Or.inr (submitted ▸ rfl)
  | submitSample =>
      cases position : system.clients thread <;> simp only [clientStep, position] at taken <;>
        cases taken
      simp only [clients_setClient, if_true, ClientPc.submitted] at submitted
      exact Or.inl submitted
  | submitValidate =>
      cases position : system.clients thread <;> simp only [clientStep, position] at taken <;>
        try cases taken
      split at taken
      · cases taken
        simp [clientReturns, setClient, ClientPc.submitted] at submitted
      · cases taken
        simp only [clients_setClient, if_true, ClientPc.submitted] at submitted
        exact Or.inl submitted
  | acquireCommit | renewSample | renewCommit | submitCommit | getState | readReturns
  | releaseCommit =>
      cases position : system.clients thread <;> simp only [clientStep, position] at taken <;>
        cases taken
      all_goals simp [clientReturns, setClient, ClientPc.submitted] at submitted
  | acquire | acquireSample | renew | release | read | readBegins =>
      cases position : system.clients thread <;> simp only [clientStep, position] at taken <;>
        try cases taken
      split at taken <;> cases taken <;>
        simp_all [clientReturns, setClient, ClientPc.submitted]

theorem Requested.step {allowed : CommandRequest → Prop} {setup : Setup} {system after : System}
    {action : Action} (requested : Requested allowed system) (reached : Reachable setup system)
    (taken : step setup system action = some after)
    (stops : ∀ id, allowed (Impl.internalStopRequest id))
    (submits : ∀ thread request, action = .client thread (.submit request) → allowed request) :
    Requested allowed after := by
  constructor
  · intro id record found
    cases step_submitEffect taken with
    | outside carries =>
        rcases carries.origin found with ⟨old, before, same⟩ | stop
        · exact same ▸ requested.records before
        · exact stop ▸ stops id
    | repeats _ _ impl => exact requested.records (impl ▸ found)
    | @commits thread request evidence traversal position impl =>
        rcases Impl.submitLocked_records setup.options traversal request system.now
          reached.catalogued.lead reached.owned.wellFormed.lookup_nextCommandId with
          ⟨_, records, _⟩
        rw [← impl] at records
        rcases records found with ⟨old, before, same⟩ | ⟨_, same⟩
        · exact same ▸ requested.records before
        · exact same ▸ requested.submitted (by rw [position]; rfl)
  · intro thread request submitted
    by_cases changed : after.clients thread = system.clients thread
    · exact requested.submitted (changed ▸ submitted)
    · rcases clients_of_step taken changed with ⟨clientAction, rfl⟩
      rcases submitted_of_clientStep taken submitted with before | rfl
      · exact requested.submitted before
      · exact submits thread request rfl

end System

/-! ### Calls on request -/

/-- The SDK calls that the service makes only for a client's command. -/
def SdkCall.commands : SdkCall → Bool
  | .enableApiControl true | .powerOn | .powerOff | .clearAlarm | .setGlobalSpeed _
  | .checkTarget _ _ _ | .setCurrentToolByName _ | .setCurrentUframeByName _ | .mjoint _ _ _
  | .mlin _ _ _ | .mcirc _ _ _ _ _ _ | .moveResume | .setJogMode _ | .jog _ _ true
  | .loadProgram _ | .startProgram | .writeDOut _ _ => true
  | _ => false

theorem EfortOperation.not_commands {operation : EfortOperation} {call : SdkCall}
    (spared : operation.calls.all (!·.commands) = true) (made : operation.MayCall call) :
    call.commands = false := by
  rcases made with mem | ⟨_, axis, direction, rfl⟩
  · simpa using List.all_eq_true.mp spared call mem
  · rfl

theorem EfortOperation.observes_spared {operation : EfortOperation}
    (observes : operation.observes = true) : operation.calls.all (!·.commands) = true := by
  cases operation <;> first | rfl | cases observes

/-- The call that a request for an internal stop leads to. -/
theorem execute_internalStop {id : ℕ} {call : DriverCall}
    (executed : execute (Impl.internalStopRequest id) = .ok call) : call = .stop .controlled := by
  simpa [execute, Impl.internalStopRequest, Impl.internalStop] using executed.symm

namespace Station

variable {plant : Plant} {station after : Station}

/-- An accepted and authorised `SubmitCommand` call asks for the request. -/
def Demanded (plant : Plant) (station : Station) (request : CommandRequest) : Prop :=
  ∃ context message, (context, Rpc.submitCommand message) ∈ station.accepted ∧
    (plant.endpoint.validateRequest context message.robotId).ok = true ∧
    GrpcServer.fromProtoCommand message = .ok request

/-- A call that is accepted has passed `ValidateRequest`. -/
theorem accepted_of_step {label : Step} (taken : step plant station label = some after) :
    after.accepted = station.accepted ∨ ∃ context rpc,
      after.accepted = (context, rpc) :: station.accepted ∧
        (plant.endpoint.validateRequest context rpc.robotId).ok = true := by
  cases label with
  | rpc thread context rpc =>
      simp only [step, beginRpc] at taken
      split at taken
      · cases taken
      split at taken
      · cases taken
        exact Or.inl rfl
      next validated =>
      refine Or.inr ⟨context, rpc, ?_, by simpa using validated⟩
      cases rpc with
      | acquireControlLease | renewControlLease | releaseControlLease | getState | readAlarms
      | readDigitalInput | readDigitalOutput => exact congrArg accepted (enter_cases taken).2
      | submitCommand request =>
          simp only [handle] at taken
          split at taken
          · cases taken
            rfl
          · exact congrArg accepted (enter_cases taken).2
      | getCommand | streamState =>
          cases taken
          rfl
  | streamRound thread =>
      simp only [step] at taken
      split at taken
      · have same := congrArg accepted (enter_cases taken).2
        exact Or.inl same
      · cases taken
  | streamEnds | stopRequested =>
      cases taken
      exact Or.inl rfl
  | proceed action =>
      have same := congrArg accepted (proceed_cases taken).2.2.2
      exact Or.inl same

theorem mem_accepted_of_step {label : Step} (taken : step plant station label = some after)
    {call : GrpcServer.ServerContext × Rpc} (mem : call ∈ station.accepted) :
    call ∈ after.accepted := by
  rcases accepted_of_step taken with same | ⟨context, rpc, same, _⟩
  · exact same ▸ mem
  · exact same ▸ List.mem_cons_of_mem _ mem

theorem Reachable.validated (reached : Reachable plant station) {context : GrpcServer.ServerContext}
    {rpc : Rpc} (mem : (context, rpc) ∈ station.accepted) :
    (plant.endpoint.validateRequest context rpc.robotId).ok = true := by
  refine reached.invariant (fun station => ∀ context rpc, (context, rpc) ∈ station.accepted →
    (plant.endpoint.validateRequest context rpc.robotId).ok = true) (fun station initial => ?_)
    (fun station label after _ validated _ taken => ?_) context rpc mem
  · rcases initial with ⟨_, _, _, _, rfl⟩
    simp
  · intro context rpc mem
    rcases accepted_of_step taken with same | ⟨_, _, same, passed⟩
    · exact validated context rpc (same ▸ mem)
    · rw [same] at mem
      rcases List.mem_cons.mp mem with newest | before
      · cases newest
        exact passed
      · exact validated context rpc before

theorem Demanded.of_step {label : Step} {request : CommandRequest}
    (demanded : Demanded plant station request) (taken : step plant station label = some after) :
    Demanded plant after request := by
  rcases demanded with ⟨context, message, mem, authorized, converted⟩
  exact ⟨context, message, mem_accepted_of_step taken mem, authorized, converted⟩

/-- Whatever the executor is to do, an accepted call asks for, unless it is an internal stop. -/
theorem Reachable.requested (reached : Reachable plant station) :
    System.Requested (fun request => (∃ id, request = Impl.internalStopRequest id) ∨
      Demanded plant station request) station.system := by
  refine reached.invariant (fun station => System.Requested (fun request =>
      (∃ id, request = Impl.internalStopRequest id) ∨ Demanded plant station request)
      station.system) (fun station initial => ?_)
    fun station label after reached requested _ taken => ?_
  · rcases System.init_cases initial.system with ⟨_, snapshot, now, same⟩
    rw [same]
    exact ⟨by simp [System.started], by simp [System.started, ClientPc.submitted]⟩
  have reached : Reachable plant station := reached
  have older : System.Requested (fun request => (∃ id, request = Impl.internalStopRequest id) ∨
      Demanded plant after request) station.system :=
    ⟨fun found => (requested.records found).imp_right (·.of_step taken),
      fun submitted => (requested.submitted submitted).imp_right (·.of_step taken)⟩
  cases step_cases taken with
  | waits system => exact system ▸ older
  | @enters thread action _ _ asked inner =>
      refine older.step reached.system inner (fun id => Or.inl ⟨id, rfl⟩) ?_
      rintro other request ⟨⟩
      rcases asked.submits request rfl with ⟨context, message, mem, converted⟩
      have later : Reachable plant after := .next reached trivial taken
      exact Or.inr ⟨context, message, mem, later.validated mem, converted⟩
  | @proceeds action goes _ inner =>
      refine older.step reached.system inner (fun id => Or.inl ⟨id, rfl⟩) ?_
      intro thread request submits
      rw [answered_client submits] at goes
      cases goes

/-- An accepted and authorised `SubmitCommand` call asks for the SDK call. -/
def Ordered (plant : Plant) (station : Station) (call : SdkCall) : Prop :=
  ∃ context message request driverCall,
    (context, Rpc.submitCommand message) ∈ station.accepted ∧
    (plant.endpoint.validateRequest context message.robotId).ok = true ∧
    GrpcServer.fromProtoCommand message = .ok request ∧ execute request = .ok driverCall ∧
    driverCall.operation.MayCall call

/-- The calls of an operation that a step completes. -/
theorem Performs.ordered {operation : EfortOperation} {call : SdkCall}
    (performed : Performs station operation) (reached : Reachable plant station)
    (made : operation.MayCall call) (commands : call.commands = true) :
    Ordered plant station call := by
  have spared : operation.calls.all (!·.commands) = true → Ordered plant station call := by
    intro spared
    cases commands.symm.trans (EfortOperation.not_commands spared made)
  cases performed with
  | polls => exact spared rfl
  | reads => exact spared (EfortOperation.observes_spared (reached.observes _))
  | stops => exact spared rfl
  | @commands record evidence driverCall position =>
      have executed := (reached.system.consistent.executing position).1
      have inFlight : station.system.worker.inFlight = some record := by
        rw [position]
        rfl
      rcases reached.system.owned.flying inFlight with ⟨stored, found, _, same⟩
      rcases reached.requested.records found with ⟨id, stop⟩ | demanded
      · rw [← same, stop] at executed
        rw [execute_internalStop executed] at spared
        exact spared rfl
      · rcases demanded with ⟨context, message, mem, authorized, converted⟩
        exact ⟨context, message, record.request, driverCall, mem, authorized, same ▸ converted,
          executed, made⟩

theorem Ordered.of_step {label : Step} {call : SdkCall} (ordered : Ordered plant station call)
    (taken : step plant station label = some after) : Ordered plant after call := by
  rcases ordered with ⟨context, message, request, driverCall, mem, rest⟩
  exact ⟨context, message, request, driverCall, mem_accepted_of_step taken mem, rest⟩

/-- An operation that makes no call on request adds none. -/
theorem commands_after {session : EfortSession} {operation : EfortOperation}
    (spared : operation.calls.all (!·.commands) = true) {exchange : SdkExchange}
    (sent : exchange ∈ (session.after plant.sdk operation).exchanges)
    (commands : exchange.call.commands = true) : exchange ∈ session.exchanges := by
  rcases EfortSession.exchanges_after plant.sdk session operation with ⟨newer, same, made⟩
  rw [same] at sent
  rcases List.mem_append.mp sent with new | old
  · cases commands.symm.trans (EfortOperation.not_commands spared (made exchange new))
  · exact old

theorem Reachable.ordered (reached : Reachable plant station) :
    ∀ exchange ∈ station.session.exchanges, exchange.call.commands = true →
      Ordered plant station exchange.call := by
  refine reached.invariant (fun station => ∀ exchange ∈ station.session.exchanges,
    exchange.call.commands = true → Ordered plant station exchange.call)
    (fun station initial => ?_) fun station label after reached ordered _ taken => ?_
  · rcases initial with ⟨readAt, _, _, _, rfl⟩
    intro exchange sent commands
    have connecting := commands_after rfl sent commands
    cases commands_after rfl connecting commands
  have reached : Reachable plant station := reached
  intro exchange sent commands
  cases sessionStep_cases taken with
  | quiet session => exact (ordered exchange (session ▸ sent) commands).of_step taken
  | performs performed session =>
      rw [session] at sent
      rcases EfortSession.exchanges_after plant.sdk station.session _ with ⟨newer, same, made⟩
      rw [same] at sent
      rcases List.mem_append.mp sent with new | old
      · exact (performed.ordered reached (made exchange new) commands).of_step taken
      · exact (ordered exchange old commands).of_step taken
  | disconnects _ session =>
      rw [session] at sent
      have releasing := commands_after rfl sent commands
      exact (ordered exchange (commands_after rfl releasing commands) commands).of_step taken

/-- Over every run of the service: an SDK call that does more than observing, stopping, giving the
control away or ending the connection was asked for by a `SubmitCommand` call of an authorised
client to this robot, and has the arguments that the message gives. -/
theorem commands_authorized (reached : Reachable plant station) :
    ∀ exchange ∈ station.session.exchanges, exchange.call.commands = true →
      Ordered plant station exchange.call :=
  reached.ordered

/-- A joint motion that the operator of the cell asks for. -/
def moveMessage : V1.CommandRequest where
  robotId := "cell"
  clientId := "client"
  leaseId := firstLease 1000
  idempotencyKey := "motion"
  command := .moveJ
    { target := ⟨List.replicate 6 (.finite 5)⟩
      speedPercent := 10
      toolName := "tool"
      workObjectName := "table" }

/-- The operator takes the lease, and the motion is sent to the controller. -/
def moves : List Step :=
  let operator : GrpcServer.ServerContext := ⟨some ["operator"]⟩
  [.rpc 0 operator (.acquireControlLease ⟨"cell", "client"⟩),
    .proceed (.client 0 .acquireSample), .proceed (.client 0 .acquireCommit),
    .rpc 0 operator (.submitCommand moveMessage), .proceed (.client 0 .submitSample),
    .proceed (.client 0 .submitValidate), .proceed (.client 0 (.submitCommit .stored))] ++
  (Schedule.prepare ++ Schedule.call (.returned Status.Ok)).map .proceed

/-- The motion that is sent goes back to the operator's message. -/
theorem commands_authorized_move : ∃ station exchange, Reachable Plant.standing station ∧
    exchange ∈ station.session.exchanges ∧
    exchange.call = .mjoint (List.replicate 6 (.finite 5)) 10 (.finite 0) ∧
    Ordered Plant.standing station exchange.call := by
  rcases TransitionSystem.exists_reachable_of_execute standing_reachable moves
    (fun station => station.session.exchanges.any fun exchange =>
      exchange.call = .mjoint (List.replicate 6 (.finite 5)) 10 (.finite 0)) (by decide) with
    ⟨station, reached, sent⟩
  rcases List.any_eq_true.mp sent with ⟨exchange, mem, isMove⟩
  have isMove := of_decide_eq_true isMove
  exact ⟨station, exchange, reached, mem, isMove,
    commands_authorized reached exchange mem (by rw [isMove]; rfl)⟩

end Station

end RobotManager
