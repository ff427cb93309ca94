import RobotManager.Control.Admission
import RobotManager.Control.Idempotency
import RobotManager.Library.SeparatedPair

/-!
# Idempotency keys of different clients

The key of the idempotency map joins the client and the key of a request with a newline.
A client and a key that contain newlines can also be the client and key of somebody else.
-/

namespace RobotManager

/-- The client and the key can be read back from their joined form. -/
def Delimited (clientId idempotencyKey : String) : Prop :=
  SeparatedPair.Apart '\n' clientId.toList idempotencyKey.toList

theorem toList_ne_nil {string : String} (nonempty : string ≠ "") : string.toList ≠ [] := by
  simpa using nonempty

theorem idempotencyMapKey_toList (request : CommandRequest) :
    (idempotencyMapKey request).toList =
      request.clientId.toList ++ '\n' :: request.idempotencyKey.toList := by
  simp [idempotencyMapKey]

/-! ### What the guard answers -/

section GuardCodes

variable (policy : SafetyPolicy) (snapshot : RobotSnapshot) (leaseValid : Bool)

theorem requireLease_code : (requireLease leaseValid).code ≠ .alreadyExists := by
  unfold requireLease
  split <;> nofun

theorem validatePayloadType_code (request : CommandRequest) :
    (validatePayloadType request).code ≠ .alreadyExists := by
  unfold validatePayloadType
  split <;> nofun

theorem validateCommonMotion_code :
    (validateCommonMotion policy snapshot leaseValid).code ≠ .alreadyExists := by
  unfold validateCommonMotion
  split
  · exact requireLease_code leaseValid
  · repeat' split
    all_goals nofun

theorem validateMoveJ_code (payload : MoveJPayload) :
    (validateMoveJ policy payload).code ≠ .alreadyExists := by
  unfold validateMoveJ
  repeat' split
  all_goals nofun

theorem validateMoveL_code (payload : MoveLPayload) :
    (validateMoveL policy payload).code ≠ .alreadyExists := by
  unfold validateMoveL
  repeat' split
  all_goals nofun

theorem validateMoveC_code (payload : MoveCPayload) :
    (validateMoveC policy payload).code ≠ .alreadyExists := by
  unfold validateMoveC
  repeat' split
  all_goals nofun

theorem validateJog_code (jog : JogCommand) (jogActive : Bool) :
    (validateJog policy jog snapshot leaseValid jogActive).code ≠ .alreadyExists := by
  unfold validateJog
  split
  · nofun
  split
  · exact requireLease_code leaseValid
  · repeat' split
    all_goals nofun

theorem validateParameters_code (request : CommandRequest) :
    (validateParameters policy request leaseValid).code ≠ .alreadyExists := by
  unfold validateParameters
  split
  · exact requireLease_code leaseValid
  · repeat' split
    all_goals nofun

/-- The guard never claims that a command exists. -/
theorem validate_code (request : CommandRequest) (jogActive : Bool) :
    (validate policy request snapshot leaseValid jogActive).code ≠ .alreadyExists := by
  unfold validate
  split
  · exact validatePayloadType_code request
  have lease := requireLease_code leaseValid
  have common := validateCommonMotion_code policy snapshot leaseValid
  have parameters := validateParameters_code policy leaseValid request
  cases request.type with
  | stop | acquireControl | releaseControl | clearFault | powerOn | powerOff | stopProgram
  | setGlobalSpeed | writeDigitalOutput | loadProgram | startProgram | hold | resume =>
      dsimp only
      repeat' split
      all_goals first | assumption | nofun
  | moveJ =>
      dsimp only
      split
      · exact common
      split
      · exact validateMoveJ_code policy _
      · nofun
  | moveL =>
      dsimp only
      split
      · exact common
      split
      · exact validateMoveL_code policy _
      · nofun
  | moveC =>
      dsimp only
      split
      · exact common
      split
      · exact validateMoveC_code policy _
      · nofun
  | jog =>
      dsimp only
      split
      · exact validateJog_code policy snapshot leaseValid _ jogActive
      · nofun

end GuardCodes

namespace Impl

/-- The final section answers with an existing id, or with the claim that the key is taken, only
from the record that the key leads to. -/
theorem submitLocked_answer {impl : Impl} (options : ExecutorOptions) (traversal : Traversal)
    (request : CommandRequest) (now : TimePoint)
    (absent : impl.commands.lookup impl.nextCommandId = none) :
    (∀ id record, (impl.submitLocked options traversal request now).1 = .accepted id →
      impl.commands.lookup id = some record → impl.findExisting request = some (.accepted id)) ∧
    ∀ status, (impl.submitLocked options traversal request now).1 = .refused status →
      status.code = .alreadyExists → impl.findExisting request = some (.refused status) := by
  constructor
  · intro id record accepted found
    have submission := impl.submitLocked_cases options traversal request now
    generalize (impl.submitLocked options traversal request now).2 = after at submission
    rw [accepted] at submission
    cases submission with
    | known existing => exact existing
    | accepted _ _ _ _ _ room =>
        have cleared := (makeRoomLocked_cleared room).trans
          (pruneCommandHistoryLocked_cleared options traversal _)
        rw [cleared.nextCommandId] at found
        cases absent.symm.trans found
  · intro status refused taken
    unfold submitLocked at refused
    split at refused
    · cases refused
      cases taken
    split at refused
    · next existing =>
      rw [existing]
      exact congrArg some refused
    split at refused
    · cases refused
      cases taken
    split at refused
    · cases refused
      cases taken
    split at refused
    · next full =>
      cases refused
      unfold makeRoomLocked at full
      split at full
      · cases full
      split at full
      · cases full
        cases taken
      split at full
      · cases full
        cases taken
      · cases full
    · dsimp only at refused
      split at refused
      · cases refused
        cases taken
      · cases refused

theorem checkRequest_named {request : CommandRequest} (checked : checkRequest request = none) :
    request.clientId ≠ "" ∧ request.idempotencyKey ≠ "" := by
  unfold checkRequest at checked
  split at checked
  · cases checked
  next named =>
  split at checked
  · cases checked
  next keyed => exact ⟨named, keyed⟩

theorem checkRequest_code {request : CommandRequest} {status : Status}
    (checked : checkRequest request = some status) : status.code = .invalidArgument := by
  unfold checkRequest at checked
  split at checked
  · exact Option.some.inj checked ▸ rfl
  split at checked
  · exact Option.some.inj checked ▸ rfl
  split at checked
  · exact Option.some.inj checked ▸ rfl
  · cases checked

/-- What a key leads to has been submitted with the same joined client and key. -/
theorem EntriesLead.findExisting {impl : Impl} (lead : impl.EntriesLead)
    {request : CommandRequest} {result : SubmitResult}
    (existing : impl.findExisting request = some result) :
    ∃ id record, impl.idempotency.lookup (idempotencyMapKey request) = some id ∧
      impl.commands.lookup id = some record ∧
      idempotencyMapKey record.request = idempotencyMapKey request ∧
      ∀ other, result = .accepted other → other = id := by
  cases entry : impl.idempotency.lookup (idempotencyMapKey request) with
  | none => simp [Impl.findExisting, entry] at existing
  | some id =>
      rcases lead entry with ⟨record, found, sameKey⟩
      refine ⟨id, record, rfl, found, sameKey, ?_⟩
      rintro other rfl
      have known := (findExisting_accepted existing).1
      exact Option.some.inj (known.symm.trans entry)

end Impl

namespace System

open TransitionSystem

/-- How a step can answer a submission. -/
inductive Answer (setup : Setup) (system : System) (request : CommandRequest) :
    Impl.SubmitResult → Prop where
  | unchecked {status : Status} (checked : Impl.checkRequest request = some status) :
      Answer setup system request (.refused status)
  | stopped : Answer setup system request (.refused Impl.notRunning)
  | repeats {result : Impl.SubmitResult} (checked : Impl.checkRequest request = none)
      (existing : system.impl.findExisting request = some result) :
      Answer setup system request result
  | invalid (snapshot : RobotSnapshot) (leaseValid jogActive : Bool) :
      Answer setup system request
        (.refused (validate setup.policy request snapshot leaseValid jogActive))
  | commits {thread : ℕ} {evidence : Evidence} (traversal : Traversal)
      (position : system.clients thread = .submitValidated request evidence) :
      Answer setup system request
        (system.impl.submitLocked setup.options traversal request system.now).1

theorem step_answer {setup : Setup} {system after : System} {thread : ℕ} {action : ClientAction}
    {request : CommandRequest} {result : Impl.SubmitResult}
    (taken : step setup system (.client thread action) = some after)
    (returned : after.events = .submitReturned request result :: system.events) :
    Answer setup system request result := by
  have taken : clientStep setup thread action system = some after := taken
  cases action with
  | submit submitted =>
      cases position : system.clients thread <;> simp only [clientStep, position] at taken <;>
        try cases taken
      split at taken
      · next status checked =>
        cases taken
        rcases Event.submitReturned.inj (List.cons.inj returned).1 with ⟨rfl, rfl⟩
        exact .unchecked checked
      next passed =>
      split at taken
      · next answer looked =>
        cases taken
        rcases Event.submitReturned.inj (List.cons.inj returned).1 with ⟨rfl, rfl⟩
        unfold Impl.submitLookup at looked
        split at looked
        · cases looked
          exact .stopped
        · exact .repeats passed looked
      · cases taken
        simp [setClient] at returned
  | submitValidate =>
      cases position : system.clients thread <;> simp only [clientStep, position] at taken <;>
        try cases taken
      split at taken
      · cases taken
        rcases Event.submitReturned.inj (List.cons.inj returned).1 with ⟨rfl, rfl⟩
        exact .invalid _ _ _
      · cases taken
        simp [setClient] at returned
  | submitCommit traversal =>
      rcases submitCommit_cases taken with ⟨submitted, evidence, position, rfl⟩
      rcases Event.submitReturned.inj (List.cons.inj returned).1 with ⟨rfl, rfl⟩
      exact .commits traversal position
  | acquireCommit | renewSample | renewCommit | submitSample | getState | readReturns
  | releaseCommit =>
      cases position : system.clients thread <;> simp only [clientStep, position] at taken <;>
        cases taken
      all_goals simp [clientReturns, setClient] at returned
  | acquire | acquireSample | renew | release | read | readBegins =>
      cases position : system.clients thread <;> simp only [clientStep, position] at taken <;>
        try cases taken
      split at taken <;> cases taken <;> simp [clientReturns, setClient] at returned

/-- An answer with an existing id, or with the claim that the key is taken, comes from the record
that the joined client and key lead to. -/
theorem Answer.existing {setup : Setup} {system : System} {request : CommandRequest}
    {result : Impl.SubmitResult} (answer : Answer setup system request result)
    (reached : Reachable setup system)
    (existing : (∃ id record, result = .accepted id ∧
        system.impl.commands.lookup id = some record) ∨
      ∃ status, result = .refused status ∧ status.code = .alreadyExists) :
    Impl.checkRequest request = none ∧ system.impl.findExisting request = some result := by
  cases answer with
  | unchecked checked =>
      rcases existing with ⟨id, record, accepted, _⟩ | ⟨status, refused, taken⟩
      · cases accepted
      · rw [← Impl.SubmitResult.refused.inj refused, Impl.checkRequest_code checked] at taken
        cases taken
  | stopped =>
      rcases existing with ⟨id, record, accepted, _⟩ | ⟨status, refused, taken⟩
      · cases accepted
      · rw [← Impl.SubmitResult.refused.inj refused] at taken
        simp [Impl.notRunning] at taken
  | repeats checked existing => exact ⟨checked, existing⟩
  | invalid snapshot leaseValid jogActive =>
      rcases existing with ⟨id, record, accepted, _⟩ | ⟨status, refused, taken⟩
      · cases accepted
      · rw [← Impl.SubmitResult.refused.inj refused] at taken
        exact absurd taken (validate_code _ _ _ _ _)
  | commits traversal position =>
      refine ⟨reached.vetted.checked (by rw [position]; rfl), ?_⟩
      rcases Impl.submitLocked_answer setup.options traversal request system.now
        reached.owned.wellFormed.lookup_nextCommandId with ⟨accepts, refuses⟩
      rcases existing with ⟨id, record, accepted, found⟩ | ⟨status, refused, taken⟩
      · rw [accepted]
        exact accepts id record accepted found
      · rw [refused]
        exact refuses status refused taken

/-! ### Clients and keys -/

/-- Every record has a client and a key. -/
theorem Reachable.recordsChecked {setup : Setup} {system : System}
    (reached : Reachable setup system) {id : ℕ} {record : CommandRecord}
    (found : system.impl.commands.lookup id = some record) :
    Impl.checkRequest record.request = none := by
  refine reached.rule (fun system => ∀ id record, system.impl.commands.lookup id = some record →
    Impl.checkRequest record.request = none) (fun snapshot now => ?_)
    (fun {system after action} reached checked taken => ?_) id record found
  · simp [started]
  cases step_submitEffect taken with
  | outside carries =>
      intro id record found
      rcases carries.origin found with ⟨old, before, same⟩ | stop
      · exact same ▸ checked id old before
      · rw [stop]
        simp [Impl.checkRequest, Impl.internalStopRequest, Impl.internalStop]
  | repeats _ _ impl =>
      rw [impl]
      exact checked
  | @commits thread request evidence traversal position impl =>
      have valid : Impl.checkRequest request = none :=
        reached.vetted.checked (by rw [position]; rfl)
      rcases Impl.submitLocked_records setup.options traversal request system.now
        reached.catalogued.lead reached.owned.wellFormed.lookup_nextCommandId with ⟨_, records, _⟩
      rw [← impl] at records
      intro id record found
      rcases records found with ⟨old, before, same⟩ | ⟨_, same⟩
      · exact same ▸ checked id old before
      · exact same ▸ valid

/-- A submission with this client and key is answered with an existing id, or with the claim that
the key is taken, only from a record that was submitted with exactly this client and key. -/
def KeysPrivate (setup : Setup) (clientId idempotencyKey : String) : Prop :=
  ∀ system thread action after request result, Reachable setup system →
    request.clientId = clientId → request.idempotencyKey = idempotencyKey →
    step setup system (.client thread action) = some after →
    after.events = .submitReturned request result :: system.events →
    (∀ id record, result = .accepted id → system.impl.commands.lookup id = some record →
      record.request.clientId = clientId ∧ record.request.idempotencyKey = idempotencyKey) ∧
    ∀ status, result = .refused status → status.code = .alreadyExists → ∃ id record,
      system.impl.idempotency.lookup (idempotencyMapKey request) = some id ∧
      system.impl.commands.lookup id = some record ∧
      record.request.clientId = clientId ∧ record.request.idempotencyKey = idempotencyKey

/-- A request like the first one is answered with the first one's id if their joined clients and
keys agree. -/
theorem withFirst_repeats (setup : Setup) (first : CommandRequest) {later : CommandRequest}
    (checked : Impl.checkRequest later = none)
    (sameKey : idempotencyMapKey later = idempotencyMapKey first)
    (comparable : first.Comparable) (same : first.SameCommand later) :
    step setup (withFirst setup first) (.client 0 (.submit later)) =
      some ((withFirst setup first).clientReturns 0 (.submitReturned later (.accepted 1))) := by
  have entry : (withFirst setup first).impl.idempotency.lookup (idempotencyMapKey later) =
      some 1 := by
    rw [sameKey]
    exact (Impl.enqueueLocked_entry first 1000).trans (if_pos rfl)
  have existing := Impl.findExisting_known entry (withFirst_lookup setup first) comparable
  have answer : Impl.repeatedAnswer first 1 later = .accepted 1 := if_pos same
  have looked : (withFirst setup first).impl.submitLookup later = some (.accepted 1) :=
    existing.trans (congrArg some answer)
  have idle : (withFirst setup first).clients 0 = .idle := rfl
  simp [step, clientStep, idle, checked, looked]

/-- A client and a key are private exactly if a submission with them is invalid anyway or they can
be read back from their joined form. -/
theorem keys_private_iff {setup : Setup} (accepted : setup.options.accepted = true)
    (clientId idempotencyKey : String) :
    KeysPrivate setup clientId idempotencyKey ↔
      clientId = "" ∨ idempotencyKey = "" ∨ Delimited clientId idempotencyKey := by
  constructor
  · intro kept
    by_contra ambiguous
    push Not at ambiguous
    rcases ambiguous with ⟨named, keyed, joined⟩
    have shared :=
      mt (SeparatedPair.unique_iff (toList_ne_nil named) (toList_ne_nil keyed)).mp joined
    unfold SeparatedPair.Unique at shared
    push Not at shared
    rcases shared with ⟨front, back, frontNonempty, backNonempty, sameKey, different⟩
    -- the other client has submitted the first Stop, which a Stop of this client finds
    have otherChecked : Impl.checkRequest (.plain .stop "" (String.ofList front)
        (String.ofList back)) = none := by
      simp [Impl.checkRequest, CommandRequest.plain, frontNonempty, backNonempty]
    have checked : Impl.checkRequest (.plain .stop "" clientId idempotencyKey) = none := by
      simp [Impl.checkRequest, CommandRequest.plain, named, keyed]
    have reached := withFirst_reachable accepted rfl rfl otherChecked
    have captured := withFirst_repeats setup
      (.plain .stop "" (String.ofList front) (String.ofList back)) checked ?_ ⟨rfl, trivial⟩
      ⟨rfl, rfl, rfl, rfl⟩
    · have own := (kept _ 0 _ _ _ _ reached rfl rfl captured rfl).1 1 _ rfl
        (withFirst_lookup setup _)
      have sameFront : String.ofList front = clientId := own.1
      have sameBack : String.ofList back = idempotencyKey := own.2
      exact different (by simp [← sameFront]) (by simp [← sameBack])
    · rw [← String.toList_inj, idempotencyMapKey_toList, idempotencyMapKey_toList]
      simpa [CommandRequest.plain] using sameKey.symm
  · intro readable system thread action after request result reached client key taken returned
    have answer := step_answer taken returned
    have own : ((∃ id record, result = .accepted id ∧
          system.impl.commands.lookup id = some record) ∨
        ∃ status, result = .refused status ∧ status.code = .alreadyExists) → ∃ id record,
        system.impl.idempotency.lookup (idempotencyMapKey request) = some id ∧
        system.impl.commands.lookup id = some record ∧
        (record.request.clientId = clientId ∧ record.request.idempotencyKey = idempotencyKey) ∧
        ∀ other, result = .accepted other → other = id := by
      intro existing
      rcases answer.existing reached existing with ⟨checked, known⟩
      rcases Impl.EntriesLead.findExisting reached.catalogued.lead known with
        ⟨id, record, entry, found, sameKey, led⟩
      rcases Impl.checkRequest_named checked with ⟨named, keyed⟩
      rcases Impl.checkRequest_named (reached.recordsChecked found) with
        ⟨recordNamed, recordKeyed⟩
      have joined := congrArg String.toList sameKey
      rw [idempotencyMapKey_toList, idempotencyMapKey_toList, client, key] at joined
      rcases readable with empty | empty | delimited
      · exact absurd (client.trans empty) named
      · exact absurd (key.trans empty) keyed
      · have same := delimited.unique _ _ (toList_ne_nil recordNamed) (toList_ne_nil recordKeyed)
          joined
        exact ⟨id, record, entry, found,
          ⟨String.toList_inj.mp same.1, String.toList_inj.mp same.2⟩, led⟩
    constructor
    · intro id record accepted found
      rcases own (Or.inl ⟨id, record, accepted, found⟩) with ⟨other, stored, _, lookup, same, led⟩
      obtain rfl := led id accepted
      rwa [Option.some.inj (found.symm.trans lookup)]
    · intro status refused taken
      rcases own (Or.inr ⟨status, refused, taken⟩) with ⟨id, record, entry, found, same, _⟩
      exact ⟨id, record, entry, found, same.1, same.2⟩

theorem keys_private_plain : KeysPrivate .moving "client" "motion" :=
  (keys_private_iff (by decide) "client" "motion").mpr
    (Or.inr (Or.inr ⟨by decide, by decide⟩))

/-- A record of one client answers for the Stop of another client and blocks its other commands. -/
theorem keys_captured : ∃ system, Reachable .moving system ∧
    (∃ record, system.impl.commands.lookup 1 = some record ∧
      record.request.clientId = "a\nb" ∧ record.request.idempotencyKey = "c") ∧
    (uninterrupted .moving [.client 0 (.submit (.plain .stop "" "a" "b\nc"))] system).bind
      lastAnswer = some (.plain .stop "" "a" "b\nc", .accepted 1) ∧
    (uninterrupted .moving [.client 0 (.submit (.plain .clearFault "" "a" "b\nc"))] system).bind
      lastAnswer = some (.plain .clearFault "" "a" "b\nc", .refused
        ⟨.alreadyExists, "idempotency key was used by a different command", 0⟩) := by
  rcases exists_reachable_of_execute ready_reachable
    (Schedule.submit 0 (.plain .stop "" "a\nb" "c"))
    (fun system => (system.impl.commands.lookup 1).any (fun record =>
        decide (record.request.clientId = "a\nb" ∧ record.request.idempotencyKey = "c")) &&
      decide ((uninterrupted .moving [.client 0 (.submit (.plain .stop "" "a" "b\nc"))]
        system).bind lastAnswer = some (.plain .stop "" "a" "b\nc", .accepted 1)) &&
      decide ((uninterrupted .moving [.client 0 (.submit (.plain .clearFault "" "a" "b\nc"))]
        system).bind lastAnswer = some (.plain .clearFault "" "a" "b\nc", .refused
          ⟨.alreadyExists, "idempotency key was used by a different command", 0⟩)))
    (by decide) with ⟨system, reached, checked⟩
  simp only [Bool.and_eq_true, decide_eq_true_eq, Option.any_eq_true] at checked
  rcases checked with ⟨⟨⟨record, found, submitted⟩, captured⟩, blocked⟩
  exact ⟨system, reached, ⟨record, found, submitted⟩, captured, blocked⟩

end System

end RobotManager
