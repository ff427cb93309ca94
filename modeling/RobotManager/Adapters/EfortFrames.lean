import RobotManager.Adapters.EfortDriver

/-!
# What the operations of the adapter leave alone

Every operation only adds exchanges with the SDK.  Except for connecting and disconnecting,
only a jog, a stop and a power-off make jog calls or write the jog fields, and the
operations that are about neither jogs nor pauses write no field at all.
-/

namespace RobotManager

open Fallible

def SdkCall.isJog : SdkCall → Bool
  | .jog _ _ _ => true
  | _ => false

/-- A later session whose driver looks the same and whose added calls are all of one kind. -/
structure Stays {View : Type} (kind : SdkCall → Bool) (view : EfortDriver → View)
    (before after : EfortSession) : Prop where
  view : view after.driver = view before.driver
  exchanges : ∃ added, after.exchanges = added ++ before.exchanges ∧
    ∀ exchange ∈ added, kind exchange.call = true

instance {View : Type} (kind : SdkCall → Bool) (view : EfortDriver → View) :
    IsPreorder EfortSession (Stays kind view) where
  refl session := ⟨rfl, [], rfl, by simp⟩
  trans := by
    rintro first second third ⟨same, added, adds, kinds⟩ ⟨sameLater, later, addsLater, kindsLater⟩
    refine ⟨sameLater.trans same, later ++ added, by rw [addsLater, adds, List.append_assoc], ?_⟩
    intro exchange mem
    rcases List.mem_append.mp mem with mem | mem
    · exact kindsLater exchange mem
    · exact kinds exchange mem

namespace EfortDriver

section Steps

variable {View Value : Type} {kind : SdkCall → Bool} {view : EfortDriver → View}
  (sdk : EfortSdk)

theorem keeps_current : Keeps (Stays kind view) current :=
  fun _ => ⟨rfl, [], rfl, by simp⟩

theorem keeps_change {update : EfortDriver → EfortDriver}
    (same : ∀ driver, view (update driver) = view driver) :
    Keeps (Stays kind view) (change update) :=
  fun session => ⟨same session.driver, [], rfl, by simp⟩

theorem keeps_invoke {call : SdkCall} (isKind : kind call = true) :
    Keeps (Stays kind view) (invoke sdk call) :=
  fun session => ⟨rfl, [_], rfl, fun _ mem => by rw [List.mem_singleton.mp mem, isKind]⟩

theorem keeps_settle (code : ℤ) (operation : String) :
    Keeps (Stays kind view) (settle sdk code operation) := by
  apply Keeps.ite
  · apply Keeps.pure
  · apply Keeps.throw

theorem keeps_query (operation : String) {call : SdkCall} (isKind : kind call = true) :
    Keeps (Stays kind view) (query sdk operation call) := by
  apply Keeps.bind (keeps_invoke sdk isKind)
  intro answer
  apply Keeps.bind (keeps_settle sdk answer.code operation)
  intro _
  apply Keeps.pure

theorem keeps_order (operation : String) {call : SdkCall} (isKind : kind call = true) :
    Keeps (Stays kind view) (order sdk operation call) := by
  apply Keeps.bind (keeps_query sdk operation isKind)
  intro _
  apply Keeps.pure

theorem keeps_onlyIf (condition : Bool) {program : EfortProgram Unit}
    (keeps : Keeps (Stays kind view) program) :
    Keeps (Stays kind view) (onlyIf condition program) := by
  apply Keeps.ite keeps
  apply Keeps.pure

theorem keeps_reply {program : EfortProgram Value} {make : Value → EfortReply}
    (keeps : Keeps (Stays kind view) program) : Keeps (Stays kind view) (reply program make) := by
  apply Keeps.bind keeps
  intro value
  apply Keeps.pure

theorem keeps_any {program : EfortProgram Value} (keeps : Keeps (Stays kind view) program) :
    Keeps (Stays (fun _ => true) view) program := by
  intro session
  rcases keeps session with ⟨same, added, adds, _⟩
  exact ⟨same, added, adds, fun _ _ => rfl⟩

theorem keeps_selectFrames (toolName workObjectName : String)
    (tool : kind (.setCurrentToolByName toolName) = true)
    (workObject : kind (.setCurrentUframeByName workObjectName) = true) :
    Keeps (Stays kind view) (selectFrames sdk toolName workObjectName) := by
  apply Keeps.bind (keeps_order sdk _ tool)
  intro _
  exact keeps_order sdk _ workObject

end Steps

/-! ### Operations that write no field -/

section Quiet

variable {View : Type} {view : EfortDriver → View} (sdk : EfortSdk)

theorem keeps_readConnected (now : TimePoint) :
    Keeps (Stays (!·.isJog) view) (readConnected sdk now) := by
  apply Keeps.bind (keeps_query sdk _ rfl)
  intro run
  apply Keeps.bind (keeps_invoke sdk rfl)
  intro control
  apply Keeps.bind keeps_current
  intro driver
  apply Keeps.bind (keeps_query sdk _ rfl)
  intro servo
  apply Keeps.bind (keeps_query sdk _ rfl)
  intro emergency
  apply Keeps.bind (keeps_query sdk _ rfl)
  intro alarm
  apply Keeps.bind (keeps_query sdk _ rfl)
  intro move
  apply Keeps.bind (keeps_query sdk _ rfl)
  intro joints
  apply Keeps.bind (keeps_query sdk _ rfl)
  intro pose
  apply Keeps.pure

theorem keeps_isConnected : Keeps (Stays (!·.isJog) view) (isConnected sdk) := by
  apply Keeps.bind keeps_current
  intro driver
  apply Keeps.ite
  · apply Keeps.bind (keeps_invoke sdk rfl)
    intro answer
    apply Keeps.pure
  · apply Keeps.pure

theorem keeps_accessDigital (kind : String) (index : ℕ) (operation : String) {call : SdkCall}
    (isKind : (!call.isJog) = true) :
    Keeps (Stays (!·.isJog) view) (accessDigital sdk kind index operation call) := by
  apply Keeps.ite
  · apply Keeps.throw
  · exact keeps_query sdk operation isKind

end Quiet

end EfortDriver

/-- The operations that are about neither connections, jogs nor pauses. -/
def EfortOperation.isQuiet : EfortOperation → Bool
  | .acquireControl | .releaseControl | .powerOn | .clearFault | .setGlobalSpeed _
  | .loadProgram _ | .readState _ | .readAlarms | .readDigitalInput _ | .readDigitalOutput _
  | .writeDigitalOutput _ _ => true
  | .connect _ | .disconnect | .powerOff | .moveJ _ _ | .moveL _ _ | .moveC _ _ | .hold | .resume
  | .stop _ | .jog _ | .startProgram | .stopProgram => false

namespace EfortDriver

variable {View : Type} {view : EfortDriver → View} (sdk : EfortSdk)

theorem keeps_perform_of_isQuiet {operation : EfortOperation}
    (isQuiet : operation.isQuiet = true) :
    Keeps (Stays (!·.isJog) view) (perform sdk operation) := by
  cases operation with
  | connect | disconnect | powerOff | moveJ | moveL | moveC | hold | resume | stop | jog
  | startProgram | stopProgram => cases isQuiet
  | acquireControl | releaseControl | powerOn => exact keeps_reply (keeps_order sdk _ rfl)
  | clearFault =>
      apply keeps_reply
      apply Keeps.bind (keeps_query sdk _ rfl)
      intro answer
      apply Keeps.ite
      · apply Keeps.throw
      · exact keeps_order sdk _ rfl
  | setGlobalSpeed | loadProgram =>
      apply keeps_reply
      apply Keeps.ite
      · apply Keeps.throw
      · exact keeps_order sdk _ rfl
  | readState now =>
      apply keeps_reply
      apply Keeps.bind (keeps_isConnected sdk)
      intro connected
      apply Keeps.ite
      · exact keeps_readConnected sdk now
      · apply Keeps.pure
  | readAlarms =>
      apply keeps_reply
      apply Keeps.bind (keeps_query sdk _ rfl)
      intro answer
      apply Keeps.pure
  | readDigitalInput | readDigitalOutput | writeDigitalOutput =>
      apply keeps_reply
      apply Keeps.bind (keeps_accessDigital sdk _ _ _ rfl)
      intro answer
      apply Keeps.pure

/-! ### Operations that write only the pause -/

theorem keeps_forgetPause {kind : SdkCall → Bool}
    (ignores : ∀ driver paused, view { driver with pausedByService := paused } = view driver) :
    Keeps (Stays kind view) forgetPause :=
  keeps_change fun driver => ignores driver false

theorem keeps_stopMotion : Keeps (Stays (!·.isJog) view) (stopMotion sdk) := by
  apply Keeps.bind (keeps_query sdk _ rfl)
  intro program
  apply Keeps.bind (keeps_onlyIf _ (keeps_order sdk _ rfl))
  intro _
  apply Keeps.bind (keeps_query sdk _ rfl)
  intro move
  apply Keeps.bind (keeps_onlyIf _ (keeps_order sdk _ rfl))
  intro _
  exact keeps_order sdk _ rfl

/-- The operations that neither connect nor touch a jog. -/
theorem keeps_perform_of_plain {operation : EfortOperation}
    (ignores : ∀ driver paused, view { driver with pausedByService := paused } = view driver)
    (connect : ∀ options, operation ≠ .connect options) (disconnect : operation ≠ .disconnect)
    (powerOff : operation ≠ .powerOff) (stop : ∀ mode, operation ≠ .stop mode)
    (jog : ∀ command, operation ≠ .jog command) :
    Keeps (Stays (!·.isJog) view) (perform sdk operation) := by
  cases operation with
  | connect options => exact absurd rfl (connect options)
  | disconnect => exact absurd rfl disconnect
  | powerOff => exact absurd rfl powerOff
  | stop mode => exact absurd rfl (stop mode)
  | jog command => exact absurd rfl (jog command)
  | acquireControl | releaseControl | powerOn | clearFault | setGlobalSpeed | loadProgram
  | readState | readAlarms | readDigitalInput | readDigitalOutput | writeDigitalOutput =>
      exact keeps_perform_of_isQuiet sdk rfl
  | moveJ =>
      apply keeps_reply
      apply Keeps.ite
      · apply Keeps.throw
      · apply Keeps.bind (keeps_order sdk _ rfl)
        intro _
        apply Keeps.bind (keeps_forgetPause ignores)
        intro _
        exact keeps_order sdk _ rfl
  | moveL =>
      apply keeps_reply
      apply Keeps.bind (keeps_selectFrames sdk _ _ rfl rfl)
      intro _
      apply Keeps.bind (keeps_order sdk _ rfl)
      intro _
      apply Keeps.bind (keeps_forgetPause ignores)
      intro _
      exact keeps_order sdk _ rfl
  | moveC =>
      apply keeps_reply
      apply Keeps.bind (keeps_selectFrames sdk _ _ rfl rfl)
      intro _
      apply Keeps.bind (keeps_order sdk _ rfl)
      intro _
      apply Keeps.bind (keeps_order sdk _ rfl)
      intro _
      apply Keeps.bind (keeps_forgetPause ignores)
      intro _
      exact keeps_order sdk _ rfl
  | hold =>
      apply keeps_reply
      apply Keeps.bind (keeps_order sdk _ rfl)
      intro _
      exact keeps_change fun driver => ignores driver true
  | resume | stopProgram =>
      apply keeps_reply
      apply Keeps.bind (keeps_order sdk _ rfl)
      intro _
      exact keeps_forgetPause ignores
  | startProgram =>
      apply keeps_reply
      apply Keeps.bind (keeps_forgetPause ignores)
      intro _
      exact keeps_order sdk _ rfl

/-! ### Operations that touch a jog or the connection -/

section Jogs

variable {kind : SdkCall → Bool}

theorem keeps_callJog (command : JogCommand) (start : Bool)
    (ignores : ∀ driver active, view { driver with hasActiveJog := active } = view driver)
    (jogs : ∀ axis direction, kind (.jog axis direction start) = true) :
    Keeps (Stays kind view) (callJog sdk command start) := by
  have invoked : Keeps (Stays kind view) (invokeJog sdk command start) := by
    apply Keeps.ite
    · apply Keeps.bind (keeps_invoke sdk (jogs _ _))
      intro answer
      apply Keeps.pure
    · apply Keeps.pure
  apply Keeps.bind invoked
  intro code
  have changed : ∀ driver : EfortDriver, view (if !start && driver.hasActiveJog &&
      driver.activeJog.axis == command.axis && driver.activeJog.direction == command.direction
      then { driver with hasActiveJog := false } else driver) = view driver := by
    intro driver
    split
    · exact ignores driver false
    · rfl
  apply Keeps.bind (keeps_change changed)
  intro _
  exact keeps_settle sdk code _

theorem keeps_stopActiveJog
    (ignores : ∀ driver active, view { driver with hasActiveJog := active } = view driver)
    (jogs : ∀ axis direction, kind (.jog axis direction false) = true) :
    Keeps (Stays kind view) (stopActiveJog sdk) := by
  apply Keeps.bind keeps_current
  intro driver
  apply Keeps.ite
  · apply Keeps.pure
  · apply Keeps.bind (keeps_callJog sdk _ false ignores jogs)
    intro _
    exact keeps_change fun driver => ignores driver false

/-- A jog writes only the jog fields. -/
theorem keeps_jog (command : JogCommand)
    (ignores : ∀ driver active jog,
      view { driver with hasActiveJog := active, activeJog := jog } = view driver) :
    Keeps (Stays (fun _ => true) view) (jog sdk command) := by
  have ignoresActive : ∀ driver active,
      view { driver with hasActiveJog := active } = view driver :=
    fun driver active => ignores driver active driver.activeJog
  have stops : Keeps (Stays (fun _ => true) view) (stopActiveJog sdk) :=
    keeps_stopActiveJog sdk ignoresActive fun _ _ => rfl
  apply Keeps.bind keeps_current
  intro driver
  apply Keeps.ite
  · apply Keeps.throw
  apply Keeps.ite
  · exact stops
  apply Keeps.ite
  · apply Keeps.pure
  apply Keeps.bind stops
  intro _
  apply Keeps.bind (keeps_order sdk _ rfl)
  intro _
  apply Keeps.bind (keeps_callJog sdk command true ignoresActive fun _ _ => rfl)
  intro _
  exact keeps_change fun driver => ignores driver true command

theorem keeps_powerOff : Keeps (Stays (fun _ => true) fun _ => ()) (powerOff sdk) := by
  apply Keeps.bind (keeps_stopActiveJog sdk (fun _ _ => rfl) fun _ _ => rfl)
  intro _
  apply Keeps.bind (keeps_forgetPause fun _ _ => rfl)
  intro _
  exact keeps_order sdk _ rfl

/-- What `Stop` does after it has stopped a jog. -/
theorem keeps_stopRest (mode : StopMode) : Keeps (Stays (fun _ => true) fun _ => ())
    (do forgetPause; if mode = .powerOffRequest then powerOff sdk else stopMotion sdk) := by
  apply Keeps.bind (keeps_forgetPause fun _ _ => rfl)
  intro _
  exact Keeps.ite (keeps_powerOff sdk) (keeps_any (keeps_stopMotion sdk))

theorem keeps_disconnect : Keeps (Stays (fun _ => true) fun _ => ()) (disconnect sdk) := by
  apply Keeps.bind keeps_current
  intro driver
  apply Keeps.ite
  · apply Keeps.pure
  apply Keeps.bind (Keeps.attempt (keeps_stopActiveJog sdk (fun _ _ => rfl) fun _ _ => rfl))
  intro _
  apply Keeps.bind (keeps_invoke sdk rfl)
  intro control
  apply Keeps.bind
  · apply keeps_onlyIf
    apply Keeps.bind (keeps_invoke sdk rfl)
    intro _
    apply Keeps.pure
  intro _
  apply Keeps.bind (keeps_invoke sdk rfl)
  intro _
  exact keeps_change fun _ => rfl

end Jogs

/-- Every operation only adds exchanges. -/
theorem keeps_perform (operation : EfortOperation) :
    Keeps (Stays (fun _ => true) fun _ => ()) (perform sdk operation) := by
  cases operation with
  | connect options =>
      apply keeps_reply
      apply Keeps.bind keeps_current
      intro driver
      apply Keeps.ite
      · apply Keeps.throw
      apply Keeps.ite
      · apply Keeps.throw
      apply Keeps.ite
      · apply Keeps.throw
      apply Keeps.ite
      · apply Keeps.throw
      apply Keeps.bind (keeps_query sdk _ rfl)
      intro answer
      apply Keeps.bind
      · exact keeps_change fun _ => rfl
      intro _
      apply Keeps.bind (keeps_invoke sdk rfl)
      intro model
      apply Keeps.ite
      · apply Keeps.bind (keeps_disconnect sdk)
        intro _
        apply Keeps.throw
      apply Keeps.ite
      · apply Keeps.bind (keeps_disconnect sdk)
        intro _
        apply Keeps.throw
      exact keeps_change fun _ => rfl
  | disconnect => exact keeps_reply (keeps_disconnect sdk)
  | powerOff => exact keeps_reply (keeps_powerOff sdk)
  | stop mode =>
      apply keeps_reply
      apply Keeps.ite
      · apply Keeps.throw
      apply Keeps.bind (keeps_stopActiveJog sdk (fun _ _ => rfl) fun _ _ => rfl)
      intro _
      exact keeps_stopRest sdk mode
  | jog command => exact keeps_reply (keeps_jog sdk command fun _ _ _ => rfl)
  | acquireControl | releaseControl | powerOn | clearFault | setGlobalSpeed | moveJ | moveL
  | moveC | hold | resume | loadProgram | startProgram | stopProgram | readState | readAlarms
  | readDigitalInput | readDigitalOutput | writeDigitalOutput =>
      apply keeps_any
      apply keeps_perform_of_plain sdk (fun _ _ => rfl) <;> simp

end EfortDriver

end RobotManager
