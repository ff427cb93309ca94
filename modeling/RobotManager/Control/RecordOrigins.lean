import RobotManager.Control.SectionFrames

/-!
# Where records and map entries come from

Apart from `Submit`, the critical sections keep every record with its request and add
internal stops only.  Pruning drops records together with the entries of the idempotency
map that carry their keys.
-/

namespace RobotManager

namespace Impl

/-- The request of the internal stop with the given id. -/
def internalStopRequest (id : ℕ) : CommandRequest := (internalStop id "" 0).request

/-- All records keep their requests, and only internal stops are added. -/
structure Carries (before after : FiniteMap ℕ CommandRecord) : Prop where
  kept : ∀ {id old}, before.lookup id = some old →
    ∃ record, after.lookup id = some record ∧ record.request = old.request
  origin : ∀ {id record}, after.lookup id = some record →
    (∃ old, before.lookup id = some old ∧ record.request = old.request) ∨
      record.request = internalStopRequest id

namespace Carries

variable {first second third : FiniteMap ℕ CommandRecord}

theorem refl (commands : FiniteMap ℕ CommandRecord) : Carries commands commands :=
  ⟨fun found => ⟨_, found, rfl⟩, fun found => Or.inl ⟨_, found, rfl⟩⟩

theorem trans (former : Carries first second) (latter : Carries second third) :
    Carries first third := by
  constructor
  · intro id old found
    rcases former.kept found with ⟨middle, lookup, same⟩
    rcases latter.kept lookup with ⟨record, later, sameAgain⟩
    exact ⟨record, later, sameAgain.trans same⟩
  · intro id record found
    rcases latter.origin found with ⟨middle, lookup, same⟩ | stop
    · rcases former.origin lookup with ⟨old, before, sameAgain⟩ | stop
      · exact Or.inl ⟨old, before, same.trans sameAgain⟩
      · exact Or.inr (same.trans stop)
    · exact Or.inr stop

/-- Changing a record in place, except for its request. -/
theorem modify (commands : FiniteMap ℕ CommandRecord) (id : ℕ)
    {change : CommandRecord → CommandRecord}
    (request : ∀ record, commands.lookup id = some record →
      (change record).request = record.request) :
    Carries commands (commands.modify id change) := by
  constructor
  · intro other old found
    rw [FiniteMap.lookup_modify]
    split
    · next same =>
      subst same
      exact ⟨change old, by simp [found], request old found⟩
    · exact ⟨old, found, rfl⟩
  · intro other record found
    rw [FiniteMap.lookup_modify] at found
    split at found
    · next same =>
      subst same
      rcases Option.map_eq_some_iff.mp found with ⟨old, before, rfl⟩
      exact Or.inl ⟨old, before, request old before⟩
    · exact Or.inl ⟨record, found, rfl⟩

theorem settle (commands : FiniteMap ℕ CommandRecord) (id : ℕ) (state : CommandState)
    (result : Status) (now : TimePoint) :
    Carries commands (commands.modify id (CommandRecord.settle state result now)) := by
  apply modify
  intro record _
  unfold CommandRecord.settle
  split <;> rfl

end Carries

theorem requestInternalStopLocked_carries (reason : String) (now : TimePoint) (impl : Impl) :
    Carries impl.commands (impl.requestInternalStopLocked reason now).commands := by
  constructor
  · intro id old found
    exact ⟨old, lookup_requestInternalStopLocked found, rfl⟩
  · intro id record found
    rcases impl.lookup_of_requestInternalStopLocked reason now found with old | ⟨rfl, rfl⟩
    · exact Or.inl ⟨record, old, rfl⟩
    · exact Or.inr rfl

theorem checkLeasesLocked_carries (leases : ControlLeaseManager) (now : TimePoint) (impl : Impl) :
    Carries impl.commands (impl.checkLeasesLocked leases now).commands := by
  rcases impl.checkLeasesLocked_cases leases now with ⟨_, same⟩ | ⟨reason, same⟩ <;> rw [same]
  · exact .refl _
  · exact requestInternalStopLocked_carries reason now impl

theorem MotionUpdate.carries {options : ExecutorOptions} {now : TimePoint} {impl after : Impl}
    (update : MotionUpdate options now impl after) : Carries impl.commands after.commands := by
  cases update with
  | unchanged | vanished | seen => exact .refl _
  | timedOut | failed =>
      refine .trans ?_ (requestInternalStopLocked_carries _ _ _)
      exact .settle _ _ _ _ _
  | finished => exact .settle _ _ _ _ _

theorem publishLocked_carries (options : ExecutorOptions) (leases : ControlLeaseManager)
    (state : StatusOr RobotSnapshot) (now : TimePoint) (impl : Impl) :
    Carries impl.commands (impl.publishLocked options leases state now).commands := by
  have published : (impl.publishState options state now).1.commands = impl.commands := by
    unfold publishState
    split
    · rfl
    · split <;> rfl
  rcases impl.publishLocked_cases options leases state now with ⟨updated, update, _, same⟩
  rw [same, ← published]
  exact update.carries.trans (checkLeasesLocked_carries _ _ _)

theorem dequeueLocked_carries (now : TimePoint) (impl : Impl) :
    Carries impl.commands (impl.dequeueLocked now).1.commands := by
  have dequeue := impl.dequeueLocked_cases now
  generalize (impl.dequeueLocked now).1 = after at dequeue ⊢
  generalize (impl.dequeueLocked now).2 = handed at dequeue
  cases dequeue with
  | nothing | vanished => exact .refl _
  | expired => exact .modify _ _ fun _ _ => rfl
  | @started id front back command executable queue found =>
      apply Carries.modify
      intro record lookup
      rw [Option.some.inj (found.symm.trans lookup)]

theorem completeActiveMotionLocked_carries (state : CommandState) (now : TimePoint)
    (impl : Impl) : Carries impl.commands (impl.completeActiveMotionLocked state now).commands := by
  unfold completeActiveMotionLocked
  split
  · exact .refl _
  · apply Carries.modify
    intro record _
    split <;> rfl

theorem completeActiveProgramLocked_carries (now : TimePoint) (impl : Impl) :
    Carries impl.commands (impl.completeActiveProgramLocked now).commands := by
  unfold completeActiveProgramLocked
  split
  · exact .refl _
  split
  · exact .refl _
  · exact completeActiveMotionLocked_carries .stopped now impl

theorem OrdinaryCompletion.carries {options : ExecutorOptions} {now : TimePoint}
    {record : CommandRecord} {impl after : Impl}
    (completion : OrdinaryCompletion options now record impl after) :
    Carries impl.commands after.commands := by
  cases completion with
  | plain | loaded | jogStarted | jogEnded => exact .refl _
  | jogStartedWithoutLease =>
      refine .trans ?_ (requestInternalStopLocked_carries _ _ _)
      exact .refl _
  | stopped => exact completeActiveMotionLocked_carries .stopped now impl
  | programStopped => exact completeActiveProgramLocked_carries now impl

theorem completeLocked_carries (options : ExecutorOptions) (leases : ControlLeaseManager)
    (now : TimePoint) (record : CommandRecord) (result : Status) (impl : Impl) :
    Carries impl.commands (impl.completeLocked options leases now record result).commands := by
  have completion := impl.completeLocked_cases options leases now record result
  generalize impl.completeLocked options leases now record result = after at completion ⊢
  have finishes : ∀ state status,
      Carries impl.commands (impl.finished record state status now).commands :=
    fun _ _ => .modify _ _ fun _ _ => rfl
  have activates : Carries impl.commands (impl.activated record result now).commands :=
    .modify _ _ fun _ _ => rfl
  cases completion with
  | missing => exact .refl _
  | failed => exact finishes _ _
  | superseded => exact (finishes _ _).trans (requestInternalStopLocked_carries _ _ _)
  | activated => exact activates
  | activatedWithoutLease => exact activates.trans (requestInternalStopLocked_carries _ _ _)
  | ordinary =>
      exact (finishes _ _).trans (completeOrdinaryLocked_cases options leases now record _).carries

theorem cancelQueued_carries (leaseId clientId : String) (now : TimePoint) (rest : List ℕ)
    (commands : FiniteMap ℕ CommandRecord) :
    Carries commands (cancelQueued leaseId clientId now rest commands).2 := by
  induction rest generalizing commands with
  | nil => exact .refl _
  | cons id rest ih =>
      simp only [cancelQueued]
      split
      · exact ih commands
      split
      · exact ih commands
      · refine .trans ?_ (ih _)
        exact .modify commands id fun _ _ => rfl

theorem releaseLocked_carries (leaseId clientId : String) (now : TimePoint) (impl : Impl) :
    Carries impl.commands (impl.releaseLocked leaseId clientId now).commands := by
  have cancelled : Carries impl.commands
      (impl.cancelQueuedCommandsForLeaseLocked leaseId clientId now).commands :=
    cancelQueued_carries leaseId clientId now impl.queue impl.commands
  rcases impl.releaseLocked_cases leaseId clientId now with same | same <;> rw [same]
  · exact cancelled
  · exact cancelled.trans (requestInternalStopLocked_carries _ _ _)

theorem shutdownLocked_carries (stopStatus : Status) (now : TimePoint) (impl : Impl) :
    Carries impl.commands (impl.shutdownLocked stopStatus now).commands := by
  have cancelled : Carries impl.commands (impl.cancelCommandsForShutdownLocked now).commands := by
    simp only [cancelCommandsForShutdownLocked]
    generalize impl.commands = commands
    induction impl.queue generalizing commands with
    | nil => exact .refl _
    | cons id rest ih => exact Carries.trans (.settle _ _ _ _ _) (ih _)
  unfold shutdownLocked
  dsimp only
  split
  · exact cancelled
  · exact cancelled.trans (.settle _ _ _ _ _)

/-! ### The idempotency map -/

/-- Every entry of the map leads to a retained record with its key. -/
def EntriesLead (impl : Impl) : Prop :=
  ∀ {key id}, impl.idempotency.lookup key = some id →
    ∃ record, impl.commands.lookup id = some record ∧ idempotencyMapKey record.request = key

theorem EntriesLead.carries {before after : Impl} (lead : before.EntriesLead)
    (carries : Carries before.commands after.commands)
    (index : after.idempotency = before.idempotency) : after.EntriesLead := by
  intro key id entry
  rw [index] at entry
  rcases lead entry with ⟨old, found, sameKey⟩
  rcases carries.kept found with ⟨record, lookup, request⟩
  exact ⟨record, lookup, request ▸ sameKey⟩

/-- Making room and pruning drop records and entries; a dropped entry has the key of a dropped
record. -/
structure Cleared (before after : Impl) : Prop where
  records : ∀ {id record}, after.commands.lookup id = some record →
    ∃ old, before.commands.lookup id = some old ∧ record.request = old.request
  entries : ∀ {key id}, after.idempotency.lookup key = some id →
    before.idempotency.lookup key = some id
  dropped : ∀ {key id}, before.idempotency.lookup key = some id →
    after.idempotency.lookup key = some id ∨ ∃ other record,
      before.commands.lookup other = some record ∧ after.commands.lookup other = none ∧
        idempotencyMapKey record.request = key
  lead : before.EntriesLead → after.EntriesLead
  nextCommandId : after.nextCommandId = before.nextCommandId

theorem Cleared.refl (impl : Impl) : Cleared impl impl :=
  ⟨fun found => ⟨_, found, rfl⟩, id, Or.inl, id, rfl⟩

theorem Cleared.trans {first second third : Impl} (former : Cleared first second)
    (latter : Cleared second third) : Cleared first third := by
  refine ⟨fun {id record} found => ?_, fun entry => former.entries (latter.entries entry),
    fun {key id} entry => ?_, fun lead => latter.lead (former.lead lead),
    latter.nextCommandId.trans former.nextCommandId⟩
  · rcases latter.records found with ⟨middle, lookup, request⟩
    rcases former.records lookup with ⟨old, before, sameRequest⟩
    exact ⟨old, before, request.trans sameRequest⟩
  · rcases former.dropped entry with kept | ⟨other, record, found, gone, sameKey⟩
    · rcases latter.dropped kept with kept | ⟨other, record, found, gone, sameKey⟩
      · exact Or.inl kept
      · rcases former.records found with ⟨old, before, request⟩
        exact Or.inr ⟨other, old, before, gone, request ▸ sameKey⟩
    · refine Or.inr ⟨other, record, found, ?_, sameKey⟩
      cases lookup : third.commands.lookup other with
      | none => rfl
      | some stored =>
          rcases latter.records lookup with ⟨middle, present, _⟩
          cases gone.symm.trans present

theorem Cleared.lookup_nextCommandId {before after : Impl} (cleared : Cleared before after)
    (absent : before.commands.lookup before.nextCommandId = none) :
    after.commands.lookup after.nextCommandId = none := by
  cases lookup : after.commands.lookup after.nextCommandId with
  | none => rfl
  | some stored =>
      rcases cleared.records lookup with ⟨old, present, _⟩
      rw [cleared.nextCommandId] at present
      cases absent.symm.trans present

theorem makeRoomLocked_cleared {options : ExecutorOptions} {request : CommandRequest}
    {now : TimePoint} {impl roomy : Impl}
    (room : impl.makeRoomLocked options request now = .ok roomy) : Cleared impl roomy := by
  rcases makeRoomLocked_cases room with rfl | ⟨id, _, _, _, _, rfl⟩
  · exact .refl _
  refine ⟨?_, fun entry => entry, Or.inl, fun lead => ?_, rfl⟩
  · intro other record found
    rw [FiniteMap.lookup_modify] at found
    split at found
    · next same =>
      subst same
      rcases Option.map_eq_some_iff.mp found with ⟨old, before, rfl⟩
      exact ⟨old, before, rfl⟩
    · exact ⟨record, found, rfl⟩
  · apply EntriesLead.carries lead
    · exact .modify _ _ fun _ _ => rfl
    · rfl

/-- One round of the pruning loop. -/
theorem cleared_erase {impl : Impl} {id : ℕ} {record : CommandRecord}
    (found : impl.commands.lookup id = some record) :
    Cleared impl { impl with
      idempotency := impl.idempotency.erase (idempotencyMapKey record.request)
      commands := impl.commands.erase id } := by
  refine ⟨?_, ?_, ?_, ?_, rfl⟩
  · intro other stored lookup
    rw [FiniteMap.lookup_erase_eq] at lookup
    split at lookup
    · cases lookup
    · exact ⟨stored, lookup, rfl⟩
  · intro key entry lookup
    rw [FiniteMap.lookup_erase_eq] at lookup
    split at lookup
    · cases lookup
    · exact lookup
  · intro key entry lookup
    by_cases same : key = idempotencyMapKey record.request
    · exact Or.inr ⟨id, record, found, by simp, same.symm⟩
    · left
      rw [FiniteMap.lookup_erase_eq, if_neg same]
      exact lookup
  · intro lead key entry lookup
    rw [FiniteMap.lookup_erase_eq] at lookup
    split at lookup
    · cases lookup
    next different =>
    rcases lead lookup with ⟨stored, kept, sameKey⟩
    refine ⟨stored, ?_, sameKey⟩
    rw [FiniteMap.lookup_erase_eq, if_neg ?_]
    · exact kept
    · rintro rfl
      rw [Option.some.inj (found.symm.trans kept)] at different
      exact different sameKey.symm

theorem pruneLoop_cleared (options : ExecutorOptions) (traversal : Traversal) (rounds : ℕ)
    (impl : Impl) : Cleared impl (pruneLoop options traversal rounds impl) := by
  induction rounds generalizing impl with
  | zero => exact .refl impl
  | succ rounds ih =>
      simp only [pruneLoop]
      split
      · exact .refl impl
      split
      · exact .refl impl
      next oldest chosen =>
      have found := (oldestTerminal_lookup traversal chosen).1
      exact (cleared_erase found).trans (ih _)

theorem pruneCommandHistoryLocked_cleared (options : ExecutorOptions) (traversal : Traversal)
    (impl : Impl) : Cleared impl (impl.pruneCommandHistoryLocked options traversal) :=
  pruneLoop_cleared options traversal impl.commands.size impl

/-- Recording a request under a fresh id. -/
theorem enqueueLocked_lookup {impl : Impl} (request : CommandRequest) (now : TimePoint)
    (absent : impl.commands.lookup impl.nextCommandId = none) {id : ℕ} :
    (impl.enqueueLocked request now).commands.lookup id =
      if id = impl.nextCommandId then some (newRecord request impl.nextCommandId now)
      else impl.commands.lookup id := by
  simp only [enqueueLocked]
  rw [FiniteMap.emplace_of_lookup_none _ absent, FiniteMap.lookup_insert_eq]

theorem enqueueLocked_entry {impl : Impl} (request : CommandRequest) (now : TimePoint)
    {key : String} :
    (impl.enqueueLocked request now).idempotency.lookup key =
      if key = idempotencyMapKey request then some impl.nextCommandId
      else impl.idempotency.lookup key :=
  FiniteMap.lookup_insert_eq _ _ _ _

theorem EntriesLead.enqueueLocked {impl : Impl} (lead : impl.EntriesLead)
    (request : CommandRequest) (now : TimePoint)
    (absent : impl.commands.lookup impl.nextCommandId = none) :
    (impl.enqueueLocked request now).EntriesLead := by
  intro key id entry
  rw [enqueueLocked_entry] at entry
  rw [enqueueLocked_lookup request now absent]
  split at entry
  · next same =>
    obtain rfl := Option.some.inj entry
    exact ⟨_, if_pos rfl, same.symm⟩
  · rcases lead entry with ⟨record, found, sameKey⟩
    have different : id ≠ impl.nextCommandId := by
      rintro rfl
      cases absent.symm.trans found
    exact ⟨record, by rw [if_neg different]; exact found, sameKey⟩

end Impl

end RobotManager
