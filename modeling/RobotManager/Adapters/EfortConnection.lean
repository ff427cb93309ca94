import RobotManager.Adapters.EfortCalls
import RobotManager.Adapters.EfortHold

/-!
# The connection to the controller

The SDK gives out a device for every connection, and the adapter passes it on with every
later call.  It keeps at most one connection, closes what it has opened when the model check
fails, and reports itself connected exactly while its device is open.
-/

namespace RobotManager

open Fallible

/-- The device of the connection that is open: the last one made, unless it was closed. -/
def openDevice (errorOk : ℤ) : List SdkExchange → Option ℕ
  | [] => none
  | exchange :: earlier =>
      match exchange.call with
      | .connectRobot _ _ _ =>
          if exchange.answer.code = errorOk then some exchange.answer.deviceId
          else openDevice errorOk earlier
      | .disconnectRobot => none
      | _ => openDevice errorOk earlier

/-- A connection is made only when none is open, only the open one is closed, and all other calls
go to the open device, or to device 0 when there is none. -/
def SdkExchange.Addressed (errorOk : ℤ) (exchange : SdkExchange) (earlier : List SdkExchange) :
    Prop :=
  match exchange.call with
  | .connectRobot _ _ _ => openDevice errorOk earlier = none
  | .disconnectRobot => openDevice errorOk earlier = some exchange.device
  | _ => exchange.device = (openDevice errorOk earlier).getD 0

def SdkCall.connects : SdkCall → Bool
  | .connectRobot _ _ _ | .disconnectRobot => true
  | _ => false

theorem openDevice_cons_of_not_connects {errorOk : ℤ} {exchange : SdkExchange}
    (other : exchange.call.connects = false) (earlier : List SdkExchange) :
    openDevice errorOk (exchange :: earlier) = openDevice errorOk earlier := by
  rw [openDevice]
  split <;> first | rfl | (next call => rw [call] at other; cases other)

theorem SdkExchange.addressed_of_not_connects {errorOk : ℤ} {exchange : SdkExchange}
    {earlier : List SdkExchange} (other : exchange.call.connects = false)
    (device : exchange.device = (openDevice errorOk earlier).getD 0) :
    exchange.Addressed errorOk earlier := by
  unfold Addressed
  split <;> first | exact device | (next call => rw [call] at other; cases other)

namespace EfortSession

variable (sdk : EfortSdk)

def device (session : EfortSession) : Option ℕ :=
  openDevice sdk.constants.errorOk session.exchanges

def Addressed (session : EfortSession) : Prop :=
  Backed (SdkExchange.Addressed sdk.constants.errorOk) session.exchanges

/-- The driver knows whether a device is open, and which. -/
structure Linked (connected : Bool) (session : EfortSession) : Prop where
  addressed : session.Addressed sdk
  reported : session.driver.connected = connected
  isOpen : (session.device sdk).isSome = connected
  deviceId : session.driver.deviceId = (session.device sdk).getD 0

end EfortSession

namespace EfortDriver

open EfortSession

variable (sdk : EfortSdk)

/-- All calls other than those that open or close a connection go to the driver's device. -/
theorem upheld_linked (connected : Bool) :
    Upheld (Linked sdk connected) (·.connects = false) := by
  constructor
  · intro session call answer other linked
    have same : (answered session call answer).device sdk = session.device sdk :=
      openDevice_cons_of_not_connects other _
    refine ⟨Backed.cons_iff.mpr ⟨SdkExchange.addressed_of_not_connects other linked.deviceId,
      linked.addressed⟩, linked.reported, same ▸ linked.isOpen, same ▸ linked.deviceId⟩
  · intro session driver sameConnected sameDevice _ linked
    exact ⟨linked.addressed, sameConnected.trans linked.reported, linked.isOpen,
      sameDevice.trans linked.deviceId⟩

/-- What has just been closed is not open, whatever the driver still says. -/
theorem disconnectRobot_closes {failed : Status → EfortSession → Prop} :
    Triple (Linked sdk true) (invoke sdk .disconnectRobot)
      (fun _ session => session.Addressed sdk ∧ session.device sdk = none) failed := by
  intro session linked
  rw [run_invoke]
  refine ⟨Backed.cons_iff.mpr ⟨?_, linked.addressed⟩, rfl⟩
  rcases Option.isSome_iff_exists.mp linked.isOpen with ⟨device, isOpen⟩
  have deviceId := linked.deviceId
  rw [isOpen, Option.getD_some] at deviceId
  exact isOpen.trans (congrArg some deviceId.symm)

/-- A closed connection is forgotten. -/
theorem forgets_connection {update : EfortDriver → EfortDriver}
    {failed : Status → EfortSession → Prop}
    (connected : ∀ driver, (update driver).connected = false)
    (deviceId : ∀ driver, (update driver).deviceId = 0) :
    Triple (fun session => session.Addressed sdk ∧ session.device sdk = none) (change update)
      (fun _ => Linked sdk false) failed := by
  rintro session ⟨addressed, closed⟩
  refine ⟨addressed, connected _, ?_, (deviceId _).trans ?_⟩
  · exact (congrArg Option.isSome closed).trans rfl
  · exact (congrArg (Option.getD · 0) closed).symm

theorem current_linked (connected : Bool) {failed : Status → EfortSession → Prop} :
    Triple (Linked sdk connected) current
      (fun driver session => session.Linked sdk connected ∧ driver.connected = connected) failed :=
  fun _ linked => ⟨linked, linked.reported⟩

theorem disconnect_unlinks (connected : Bool) :
    Triple (Linked sdk connected) (disconnect sdk) (fun _ => Linked sdk false)
      fun _ => Linked sdk false := by
  apply Triple.bind (current_linked sdk connected)
  intro driver
  apply Triple.ite
  · intro idle
    refine Triple.pure fun session held => ?_
    have idle : driver.connected = false := by simpa using idle
    exact (held.2.symm.trans idle) ▸ held.1
  intro active
  have active : driver.connected = true := by simpa using active
  have upheld := upheld_linked sdk true
  have stops : Triple (Linked sdk true) (attempt (stopActiveJog sdk)) (fun _ => Linked sdk true)
      fun _ => Linked sdk false := Triple.attempt (upheld.stopActiveJog sdk fun _ _ => rfl)
  refine Triple.bind (stops.strengthen fun session held => ?_) fun _ => ?_
  · exact (held.2.symm.trans active) ▸ held.1
  apply Triple.bind (upheld.invoke sdk rfl)
  intro control
  have releases : Triple (Linked sdk true)
      (onlyIf control.flag do
        let _ ← invoke sdk (.enableApiControl false)
        pure ()) (fun _ => Linked sdk true) fun _ => Linked sdk false := by
    apply Triple.ite
    · intro _
      apply Triple.bind (upheld.invoke sdk rfl)
      intro _
      exact Triple.pure fun _ => id
    · exact fun _ => Triple.pure fun _ => id
  apply Triple.bind releases
  intro _
  apply Triple.bind (disconnectRobot_closes sdk)
  intro _
  exact forgets_connection sdk (fun _ => rfl) fun _ => rfl

/-- A connection that is made is open exactly if `Connect` succeeds. -/
theorem connect_links (options : ConnectionOptions) :
    Triple (Linked sdk false) (connect sdk options) (fun _ => Linked sdk true)
      fun _ => Linked sdk false := by
  -- a device that has just been made is open before the driver knows it
  let made : SdkAnswer → EfortSession → Prop := fun answer session =>
    session.Addressed sdk ∧ session.device sdk = some answer.deviceId
  have asks : Triple (Linked sdk false) (query sdk "ConnectRobot"
        (.connectRobot options.address options.sdkDebugLogging options.verifySdkVersion))
      made fun _ => Linked sdk false := by
    have addressed : ∀ session answer, Linked sdk false session →
        (answered session (.connectRobot options.address options.sdkDebugLogging
          options.verifySdkVersion) answer).Addressed sdk := by
      intro session answer linked
      have closed : openDevice sdk.constants.errorOk session.exchanges = none := by
        simpa [device] using linked.isOpen
      exact Backed.cons_iff.mpr ⟨closed, linked.addressed⟩
    apply triple_answered
    · exact fun session answer linked isOk => ⟨addressed session answer linked, if_pos isOk⟩
    · intro session answer linked notOk
      have same : (answered session (.connectRobot options.address options.sdkDebugLogging
          options.verifySdkVersion) answer).device sdk = session.device sdk := if_neg notOk
      exact ⟨addressed session answer linked, linked.reported, same ▸ linked.isOpen,
        same ▸ linked.deviceId⟩
  have learns : ∀ answer, Triple (made answer)
      (change fun driver => { driver with
        deviceId := answer.deviceId
        expectedModel := options.expectedModel
        connected := true })
      (fun _ => Linked sdk true) fun _ => Linked sdk false := by
    rintro answer session ⟨addressed, isOpen⟩
    exact ⟨addressed, rfl, (congrArg Option.isSome isOpen).trans rfl,
      (congrArg (Option.getD · 0) isOpen).symm⟩
  have closes : ∀ status, Triple (Linked sdk true)
      (do disconnect sdk; throw status : EfortProgram Unit)
      (fun _ => Linked sdk true) fun _ => Linked sdk false := by
    intro status
    apply Triple.bind (disconnect_unlinks sdk true)
    intro _
    exact Triple.throw fun _ => id
  refine triple_connect (fun _ _ _ _ => id) asks learns ?_
  refine triple_checkModel ((upheld_linked sdk true).invoke sdk rfl) (fun _ _ => closes _)
    (fun _ _ _ => closes _) fun _ _ _ linked => ?_
  exact ⟨linked.addressed, linked.reported, linked.isOpen, linked.deviceId⟩

/-- A second connection is refused. -/
theorem connect_stays (options : ConnectionOptions) :
    Triple (Linked sdk true) (connect sdk options) (fun _ => Linked sdk true)
      fun _ => Linked sdk true := by
  apply Triple.bind (current_linked sdk true)
  intro driver
  apply Triple.ite
  · exact fun _ => Triple.throw fun _ => And.left
  · intro free
    rintro session ⟨_, reported⟩
    exact absurd reported free

end EfortDriver

namespace EfortOperation

theorem not_connects_of_mayCall {operation : EfortOperation} {call : SdkCall}
    (others : operation.connects = false) (made : operation.MayCall call) :
    call.connects = false := by
  have spared : ∀ call ∈ operation.calls, call.connects = false := by
    cases operation with
    | connect | disconnect => cases others
    | stop mode => cases mode <;> decide
    | jog command =>
        cases starts : command.start <;> simp [calls, starts, SdkCall.connects]
    | _ => simp [calls, SdkCall.connects]
  rcases made with mem | ⟨_, axis, direction, rfl⟩
  · exact spared call mem
  · rfl

end EfortOperation

namespace EfortSession

open EfortDriver

variable (sdk : EfortSdk)

/-- Whether a connection is open after a list of operations, the latest first: the latest
`Connect` that succeeded was not followed by a `Disconnect`. -/
def connectedAfter : List EfortOperation → Bool
  | [] => false
  | .connect options :: earlier =>
      connectedAfter earlier || (ofNew sdk earlier).succeeds sdk (.connect options)
  | .disconnect :: _ => false
  | _ :: earlier => connectedAfter earlier

theorem connectedAfter_of_not_connects {operation : EfortOperation}
    (others : operation.connects = false) (earlier : List EfortOperation) :
    connectedAfter sdk (operation :: earlier) = connectedAfter sdk earlier := by
  cases operation with
  | connect | disconnect => cases others
  | _ => rfl

theorem linked_ofNew (operations : List EfortOperation) :
    (ofNew sdk operations).Linked sdk (connectedAfter sdk operations) := by
  induction operations with
  | nil => exact ⟨Backed.nil, rfl, rfl, rfl⟩
  | cons operation earlier ih =>
      have next : ofNew sdk (operation :: earlier) = (ofNew sdk earlier).after sdk operation := rfl
      rw [next]
      cases others : operation.connects with
      | false =>
          rw [connectedAfter_of_not_connects sdk others]
          have upheld := (upheld_linked sdk (connectedAfter sdk earlier)).mono
            fun _ => EfortOperation.not_connects_of_mayCall others
          exact (upheld.perform sdk others).finalState ih
      | true =>
          cases operation with
          | disconnect =>
              have unlinks := disconnect_unlinks sdk (connectedAfter sdk earlier)
              exact (triple_reply unlinks).finalState ih
          | connect options =>
              rw [connectedAfter]
              cases connected : connectedAfter sdk earlier with
              | true =>
                  rw [connected] at ih
                  exact (triple_reply (connect_stays sdk options)).finalState ih
              | false =>
                  rw [connected] at ih
                  have links : Triple (Linked sdk false) (perform sdk (.connect options))
                      (fun _ => Linked sdk true) fun _ => Linked sdk false :=
                    triple_reply (connect_links sdk options)
                  have outcome := links.outcome ih
                  rw [Bool.false_or, succeeds]
                  split at outcome
                  · next made =>
                    rw [made]
                    exact outcome
                  · next failed =>
                    rw [Bool.eq_false_iff.mpr failed]
                    exact outcome
          | _ => cases others

/-- The connection to the controller, over every sequence of operations and every behaviour of the
SDK: a device is open exactly after a successful `Connect` that no `Disconnect` has followed, every
call goes to the device that was open then, and no connection is made while one is open or closed
twice. -/
theorem connection_discipline (operations : List EfortOperation) :
    Backed (SdkExchange.Addressed sdk.constants.errorOk) (ofNew sdk operations).exchanges ∧
      openDevice sdk.constants.errorOk (ofNew sdk operations).exchanges =
        (if connectedAfter sdk operations then some (ofNew sdk operations).driver.deviceId
          else none) ∧
      (ofNew sdk operations).driver.connected = connectedAfter sdk operations := by
  have linked := linked_ofNew sdk operations
  refine ⟨linked.addressed, ?_, linked.reported⟩
  rw [linked.deviceId]
  have isOpen := linked.isOpen
  unfold device at isOpen ⊢
  cases opened : openDevice sdk.constants.errorOk (ofNew sdk operations).exchanges with
  | none => simp [← isOpen, opened]
  | some device => simp [← isOpen, opened]

end EfortSession

end RobotManager
