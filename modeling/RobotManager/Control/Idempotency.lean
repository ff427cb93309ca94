import RobotManager.Control.Lifecycle
import RobotManager.Control.RecordOrigins
import RobotManager.Control.RequestEquality
import RobotManager.Control.Validated

/-!
# Idempotent submission

`Submit` keeps a map from the client and key of a request to the id it answered with.
The map agrees with the records as long as pruning does not remove, with the record of an
internal stop, an entry that leads to another record.  As long as it agrees, a repeated
request finds its record again.
-/

namespace RobotManager

namespace Impl

theorem findExisting_accepted {impl : Impl} {request : CommandRequest} {id : ℕ}
    (existing : impl.findExisting request = some (.accepted id)) :
    impl.idempotency.lookup (idempotencyMapKey request) = some id ∧
      ∃ record, impl.commands.lookup id = some record ∧
        payloadsEqual record.request request = some true := by
  unfold findExisting at existing
  split at existing
  · cases existing
  next entry known =>
  split at existing
  · cases existing
  next record found =>
  split at existing <;> cases existing
  next same => exact ⟨known, record, found, same⟩

theorem findExisting_none {impl : Impl} {request : CommandRequest}
    (fresh : impl.findExisting request = none) :
    impl.idempotency.lookup (idempotencyMapKey request) = none := by
  unfold findExisting at fresh
  split at fresh
  · assumption
  split at fresh
  · cases fresh
  split at fresh <;> cases fresh

/-- The answer to a request whose key leads to the record with the given id and request. -/
def repeatedAnswer (known : CommandRequest) (id : ℕ) (request : CommandRequest) : SubmitResult :=
  if known.SameCommand request then .accepted id
  else .refused ⟨.alreadyExists, "idempotency key was used by a different command", 0⟩

/-- The answer to a further request: a timeout that is not positive is refused before the key is
looked up. -/
def retriedAnswer (known : CommandRequest) (id : ℕ) (request : CommandRequest) : SubmitResult :=
  if request.timeout ≤ 0 then .refused ⟨.invalidArgument, "command timeout must be positive", 0⟩
  else repeatedAnswer known id request

/-- A request with the client and key of an admissible one can only have a bad timeout. -/
theorem checkRequest_retried {request later : CommandRequest}
    (checked : checkRequest request = none) (client : later.clientId = request.clientId)
    (key : later.idempotencyKey = request.idempotencyKey) :
    (later.timeout ≤ 0 ∧ checkRequest later =
        some ⟨.invalidArgument, "command timeout must be positive", 0⟩) ∨
      (0 < later.timeout ∧ checkRequest later = none) := by
  unfold checkRequest at checked ⊢
  rw [client, key]
  split at checked
  · cases checked
  next named =>
  split at checked
  · cases checked
  next keyed =>
  rw [if_neg named, if_neg keyed]
  by_cases late : later.timeout ≤ 0
  · exact Or.inl ⟨late, if_pos late⟩
  · exact Or.inr ⟨not_le.mp late, if_neg late⟩

theorem findExisting_known {impl : Impl} {request : CommandRequest} {id : ℕ}
    {record : CommandRecord} (known : impl.idempotency.lookup (idempotencyMapKey request) = some id)
    (found : impl.commands.lookup id = some record) (comparable : record.request.Comparable) :
    impl.findExisting request = some (repeatedAnswer record.request id request) := by
  simp only [findExisting, known, found, payloadsEqual_exact comparable, repeatedAnswer]
  by_cases same : record.request.SameCommand request <;> simp [same]

/-- What the final section of `Submit` does to the records and the map. -/
theorem submitLocked_records {impl : Impl} (options : ExecutorOptions) (traversal : Traversal)
    (request : CommandRequest) (now : TimePoint) (lead : impl.EntriesLead)
    (absent : impl.commands.lookup impl.nextCommandId = none) :
    (impl.submitLocked options traversal request now).2.EntriesLead ∧
    (∀ {id record},
      (impl.submitLocked options traversal request now).2.commands.lookup id = some record →
      (∃ old, impl.commands.lookup id = some old ∧ record.request = old.request) ∨
        ((impl.submitLocked options traversal request now).1 = .accepted id ∧
          record.request = request)) ∧
    ∀ {id}, (impl.submitLocked options traversal request now).1 = .accepted id →
      impl.findExisting request = some (.accepted id) ∨
        (id < (impl.submitLocked options traversal request now).2.nextCommandId ∧
          ∀ record,
            (impl.submitLocked options traversal request now).2.commands.lookup id = some record →
              record.request = request) := by
  have submission := impl.submitLocked_cases options traversal request now
  generalize (impl.submitLocked options traversal request now).1 = result at submission ⊢
  generalize (impl.submitLocked options traversal request now).2 = after at submission ⊢
  cases submission with
  | refused => exact ⟨lead, fun found => Or.inl ⟨_, found, rfl⟩, by simp⟩
  | known existing =>
      refine ⟨lead, fun found => Or.inl ⟨_, found, rfl⟩, ?_⟩
      rintro id rfl
      exact Or.inl existing
  | @full roomy fresh room =>
      have cleared := (makeRoomLocked_cleared room).trans
        (roomy.pruneCommandHistoryLocked_cleared options traversal)
      exact ⟨cleared.lead lead, fun found => Or.inl (cleared.records found), by simp⟩
  | @accepted roomy _ _ fresh _ _ room =>
      have cleared := (makeRoomLocked_cleared room).trans
        (roomy.pruneCommandHistoryLocked_cleared options traversal)
      generalize roomy.pruneCommandHistoryLocked options traversal = pruned at cleared ⊢
      have unused := cleared.lookup_nextCommandId absent
      refine ⟨EntriesLead.enqueueLocked (cleared.lead lead) request now unused, ?_, ?_⟩
      · intro id record found
        rw [enqueueLocked_lookup request now unused] at found
        split at found
        · next same =>
          cases found
          exact Or.inr ⟨by rw [same], rfl⟩
        · exact Or.inl (cleared.records found)
      · rintro id ⟨⟩
        refine Or.inr ⟨Nat.lt_succ_self _, fun record found => ?_⟩
        rw [enqueueLocked_lookup request now unused, if_pos rfl] at found
        cases found
        rfl

/-- What the final section of `Submit` does to the map. -/
theorem submitLocked_entries {impl : Impl} (options : ExecutorOptions) (traversal : Traversal)
    (request : CommandRequest) (now : TimePoint)
    (absent : impl.commands.lookup impl.nextCommandId = none) :
    (∀ {key id}, impl.idempotency.lookup key = some id →
      (impl.submitLocked options traversal request now).2.idempotency.lookup key = some id ∨
        ∃ other record, impl.commands.lookup other = some record ∧
          (impl.submitLocked options traversal request now).2.commands.lookup other = none ∧
          idempotencyMapKey record.request = key) ∧
    ∀ {id}, (impl.submitLocked options traversal request now).1 = .accepted id →
      (impl.submitLocked options traversal request now).2.idempotency.lookup
        (idempotencyMapKey request) = some id := by
  have submission := impl.submitLocked_cases options traversal request now
  generalize (impl.submitLocked options traversal request now).1 = result at submission ⊢
  generalize (impl.submitLocked options traversal request now).2 = after at submission ⊢
  cases submission with
  | refused => exact ⟨Or.inl, by simp⟩
  | known existing =>
      refine ⟨Or.inl, ?_⟩
      rintro id rfl
      exact (findExisting_accepted existing).1
  | @full roomy fresh room =>
      have cleared := (makeRoomLocked_cleared room).trans
        (roomy.pruneCommandHistoryLocked_cleared options traversal)
      exact ⟨cleared.dropped, by simp⟩
  | @accepted roomy _ _ fresh _ _ room =>
      have cleared := (makeRoomLocked_cleared room).trans
        (roomy.pruneCommandHistoryLocked_cleared options traversal)
      generalize roomy.pruneCommandHistoryLocked options traversal = pruned at cleared ⊢
      have unused := cleared.lookup_nextCommandId absent
      refine ⟨fun {key id} entry => ?_, ?_⟩
      · have different : key ≠ idempotencyMapKey request := by
          rintro rfl
          cases (findExisting_none fresh).symm.trans entry
        rw [enqueueLocked_entry, if_neg different]
        refine (cleared.dropped entry).imp_right ?_
        rintro ⟨other, record, found, gone, sameKey⟩
        refine ⟨other, record, found, ?_, sameKey⟩
        rw [enqueueLocked_lookup request now unused, if_neg ?_]
        · exact gone
        · rintro rfl
          rw [cleared.nextCommandId] at found
          cases absent.symm.trans found
      · rintro id ⟨⟩
        rw [enqueueLocked_entry, if_pos rfl]

end Impl

namespace System

open TransitionSystem

/-- `Submit` has answered a request with the id. -/
def Answered (system : System) (id : ℕ) : Prop :=
  ∃ request, .submitReturned request (.accepted id) ∈ system.events

/-- What a step does to the records, to the idempotency map and to the answers of `Submit`. -/
inductive SubmitEffect (setup : Setup) (system after : System) : Prop where
  | outside (carries : Impl.Carries system.impl.commands after.impl.commands)
      (index : after.impl.idempotency = system.impl.idempotency)
      (answers : ∀ {request id}, .submitReturned request (.accepted id) ∈ after.events →
        .submitReturned request (.accepted id) ∈ system.events)
  | repeats {request : CommandRequest} {result : Impl.SubmitResult}
      (checked : Impl.checkRequest request = none)
      (known : system.impl.findExisting request = some result)
      (impl : after.impl = system.impl)
      (events : after.events = .submitReturned request result :: system.events)
  | commits {thread : ℕ} {request : CommandRequest} {evidence : Evidence} (traversal : Traversal)
      (position : system.clients thread = .submitValidated request evidence)
      (impl : after.impl =
        (system.impl.submitLocked setup.options traversal request system.now).2)
      (events : after.events = .submitReturned request
        (system.impl.submitLocked setup.options traversal request system.now).1 :: system.events)

theorem step_submitEffect {setup : Setup} {system after : System} {action : Action}
    (taken : step setup system action = some after) : SubmitEffect setup system after := by
  cases action with
  | advance nanoseconds =>
      cases taken
      exact .outside (.refl _) rfl id
  | worker action =>
      cases workerStep_cases taken with
      | exits | copies | samples | validates | checksProgram | refuses | lacksPayload =>
          exact .outside (.refl _) rfl id
      | calls | returns => exact .outside (.refl _) rfl (by simp)
      | dequeues =>
          exact .outside (Impl.dequeueLocked_carries _ _) (Impl.dequeueLocked_frame _ _).idempotency
            id
      | @completes record result =>
          refine .outside (Impl.completeLocked_carries _ _ _ _ _ _) ?_ id
          rcases Impl.completeLocked_frame setup.options system.leases system.now record result
            system.impl with frame | ⟨_, _, frame⟩ <;> exact frame.idempotency
  | poll action =>
      cases pollStep_cases taken with
      | checks | skips | readReturns | exits | wakes => exact .outside (.refl _) rfl id
      | readBegins => exact .outside (.refl _) rfl (by simp)
      | @publishes state =>
          refine .outside (Impl.publishLocked_carries _ _ _ _ _)
            (Impl.publishLocked_frame _ _ _ _ _).idempotency ?_
          rcases seenEvents_cases system.impl
            (system.impl.publishLocked setup.options system.leases state system.now) with
              none | ⟨active, seen⟩
          · simp [none]
          · simp [seen]
  | client thread action =>
      cases clientStep_cases taken with
      | idles | moves | readBegins | readReturns => exact .outside (.refl _) rfl id
      | cancels =>
          exact .outside (Impl.releaseLocked_carries _ _ _ _)
            (Impl.releaseLocked_frame _ _ _ _).idempotency (by simp [clientReturns, setClient])
      | returns event leases quiet known =>
          by_cases repeated : ∃ request result, event = .submitReturned request result ∧
              Impl.checkRequest request = none ∧ system.impl.findExisting request = some result
          · rcases repeated with ⟨request, result, rfl, checked, existing⟩
            exact .repeats checked existing rfl rfl
          · refine .outside (.refl _) rfl fun {request id} mem => ?_
            rcases List.mem_cons.mp mem with newest | mem
            · rcases known request _ newest.symm with ⟨status, refused⟩ | existing
              · cases refused
              · exact absurd ⟨request, _, newest.symm, existing⟩ repeated
            · exact mem
      | submits traversal position => exact .commits traversal position rfl rfl
  | shutdown action =>
      cases shutdownStep_cases taken with
      | begins | joinsWorker | joinsPoll => exact .outside (.refl _) rfl id
      | stopBegins | stopReturns | disconnects => exact .outside (.refl _) rfl (by simp)
      | finishes =>
          exact .outside (Impl.shutdownLocked_carries _ _ _)
            (Impl.shutdownLocked_frame _ _ _).idempotency id

/-- How the idempotency map, the records and the answers of `Submit` fit together in every run. -/
structure Catalogued (system : System) : Prop where
  lead : system.impl.EntriesLead
  comparable : ∀ {id record}, system.impl.commands.lookup id = some record →
    record.request.Comparable
  origin : ∀ {id record}, system.impl.commands.lookup id = some record →
    system.Answered id ∨ record.request = Impl.internalStopRequest id
  answered : ∀ {request id}, .submitReturned request (.accepted id) ∈ system.events →
    Impl.checkRequest request = none ∧ id < system.impl.nextCommandId ∧
      ∀ record, system.impl.commands.lookup id = some record →
        idempotencyMapKey record.request = idempotencyMapKey request ∧
          record.request.SameCommand request

/-- Ids grow, and a record that was issued before the step keeps its request. -/
theorem Reachable.step_issued {setup : Setup} {system after : System} {action : Action}
    (reached : Reachable setup system) (taken : step setup system action = some after) :
    system.impl.nextCommandId ≤ after.impl.nextCommandId ∧
      ∀ {id record}, id < system.impl.nextCommandId →
        after.impl.commands.lookup id = some record →
        ∃ old, system.impl.commands.lookup id = some old ∧ record.request = old.request := by
  rcases reached.step_moves taken with ⟨targets, _, moves⟩
  refine ⟨moves.nextId_le, fun {id record} before found => ?_⟩
  rcases moves.retained before found with same | ⟨_, old, lookup, rewrite⟩
  · exact ⟨record, same, rfl⟩
  · exact ⟨old, lookup, rewrite.request_eq⟩

/-- A step keeps the catalogue if what it adds to the records and to the answers fits. -/
theorem Catalogued.keep {setup : Setup} {system after : System} {action : Action}
    (catalogued : Catalogued system) (reached : Reachable setup system)
    (taken : step setup system action = some after) (lead : after.impl.EntriesLead)
    (records : ∀ {id record}, after.impl.commands.lookup id = some record →
      (∃ old, system.impl.commands.lookup id = some old ∧ record.request = old.request) ∨
        record.request = Impl.internalStopRequest id ∨
        (record.request.Comparable ∧ after.Answered id))
    (answers : ∀ {request id}, .submitReturned request (.accepted id) ∈ after.events →
      .submitReturned request (.accepted id) ∈ system.events ∨
        (Impl.checkRequest request = none ∧
          (system.impl.findExisting request = some (.accepted id) ∨
            (id < after.impl.nextCommandId ∧
              ∀ record, after.impl.commands.lookup id = some record →
                record.request = request)))) : Catalogued after := by
  rcases reached.step_issued taken with ⟨nextId_le, issued⟩
  have answeredKept : ∀ {id}, system.Answered id → after.Answered id := by
    rintro id ⟨request, mem⟩
    exact ⟨request, mem_events_of_step taken mem⟩
  refine ⟨lead, fun {id record} found => ?_, fun {id record} found => ?_,
    fun {request id} mem => ?_⟩
  · rcases records found with ⟨old, before, request⟩ | stop | ⟨comparable, _⟩
    · exact request ▸ catalogued.comparable before
    · exact stop ▸ ⟨rfl, trivial⟩
    · exact comparable
  · rcases records found with ⟨old, before, request⟩ | stop | ⟨_, answered⟩
    · rw [request]
      exact (catalogued.origin before).imp_left answeredKept
    · exact Or.inr stop
    · exact Or.inl answered
  · rcases answers mem with before | ⟨checked, existing | ⟨new, created⟩⟩
    · rcases catalogued.answered before with ⟨checked, old, agrees⟩
      refine ⟨checked, Nat.lt_of_lt_of_le old nextId_le, fun record found => ?_⟩
      rcases issued old found with ⟨stored, lookup, request⟩
      rw [CommandRequest.SameCommand, request]
      exact agrees stored lookup
    · rcases Impl.findExisting_accepted existing with ⟨entry, stored, lookup, equal⟩
      have old := reached.owned.wellFormed.issued lookup
      refine ⟨checked, Nat.lt_of_lt_of_le old nextId_le, fun record found => ?_⟩
      rcases issued old found with ⟨other, otherLookup, request⟩
      obtain rfl := Option.some.inj (otherLookup.symm.trans lookup)
      rcases catalogued.lead entry with ⟨led, ledLookup, sameKey⟩
      obtain rfl := Option.some.inj (ledLookup.symm.trans lookup)
      rw [CommandRequest.SameCommand, request]
      refine ⟨sameKey, ?_⟩
      rw [payloadsEqual_exact (catalogued.comparable lookup)] at equal
      exact of_decide_eq_true (Option.some.inj equal)
    · refine ⟨checked, new, fun record found => ?_⟩
      rw [created record found]
      exact ⟨rfl, rfl, rfl, rfl, rfl⟩

theorem Reachable.catalogued {setup : Setup} {system : System}
    (reached : Reachable setup system) : Catalogued system := by
  refine reached.rule Catalogued (fun snapshot now => ?_)
    fun {system after action} reached catalogued taken => ?_
  · refine ⟨fun entry => ?_, ?_, ?_, ?_⟩ <;> simp_all [started]
  cases step_submitEffect taken with
  | outside carries index answers =>
      refine catalogued.keep reached taken (Impl.EntriesLead.carries catalogued.lead carries index)
        ?_ ?_
      · intro id record found
        exact (carries.origin found).imp_right Or.inl
      · intro request id mem
        exact Or.inl (answers mem)
  | repeats checked known impl events =>
      refine catalogued.keep reached taken (impl ▸ catalogued.lead) ?_ ?_
      · intro id record found
        exact Or.inl ⟨record, impl ▸ found, rfl⟩
      · intro request id mem
        rw [events] at mem
        rcases List.mem_cons.mp mem with newest | mem
        · rcases Event.submitReturned.inj newest with ⟨rfl, rfl⟩
          exact Or.inr ⟨checked, Or.inl known⟩
        · exact Or.inl mem
  | @commits thread request evidence traversal position impl events =>
      have vetted := reached.vetted
      have checked : Impl.checkRequest request = none := vetted.checked (by rw [position]; rfl)
      rcases Impl.submitLocked_records setup.options traversal request system.now catalogued.lead
        reached.owned.wellFormed.lookup_nextCommandId with ⟨lead, records, answers⟩
      rw [← impl] at lead records answers
      refine catalogued.keep reached taken lead ?_ ?_
      · intro id record found
        rcases records found with old | ⟨accepted, created⟩
        · exact Or.inl old
        · refine Or.inr (Or.inr ⟨created ▸ (vetted.validated position).comparable, request, ?_⟩)
          rw [events, accepted]
          exact List.mem_cons_self
      · intro other id mem
        rw [events] at mem
        rcases List.mem_cons.mp mem with newest | mem
        · rcases Event.submitReturned.inj newest with ⟨rfl, accepted⟩
          exact Or.inr ⟨checked, answers accepted.symm⟩
        · exact Or.inl mem

/-- The step prunes the record of an internal stop whose client and key lead to another retained
record. -/
def PrunesStopOf (setup : Setup) (key : String) (system : System) (action : Action) : Prop :=
  ∃ after, step setup system action = some after ∧
    (∃ known, system.impl.idempotency.lookup key = some known ∧
      (after.impl.commands.lookup known).isSome) ∧
    ∃ id record, system.impl.commands.lookup id = some record ∧
      record.request = Impl.internalStopRequest id ∧ idempotencyMapKey record.request = key ∧
      after.impl.commands.lookup id = none

/-- A retained record of `Submit` with the given key is the one the key leads to. -/
def Indexed (key : String) (system : System) : Prop :=
  ∀ id record, system.Answered id → system.impl.commands.lookup id = some record →
    idempotencyMapKey record.request = key → system.impl.idempotency.lookup key = some id

/-- A step keeps the index of a key if it drops an entry with a record of its key only and gives
answers that the index contains. -/
theorem Indexed.keep {setup : Setup} {system after : System} {action : Action} {key : String}
    (indexed : Indexed key system) (reached : Reachable setup system)
    (taken : step setup system action = some after)
    (spared : ¬PrunesStopOf setup key system action)
    (entries : ∀ {id}, system.impl.idempotency.lookup key = some id →
      after.impl.idempotency.lookup key = some id ∨ ∃ other record,
        system.impl.commands.lookup other = some record ∧
          after.impl.commands.lookup other = none ∧ idempotencyMapKey record.request = key)
    (answers : ∀ {request id}, .submitReturned request (.accepted id) ∈ after.events →
      .submitReturned request (.accepted id) ∈ system.events ∨
        after.impl.idempotency.lookup (idempotencyMapKey request) = some id) :
    Indexed key after := by
  intro id record answered found sameKey
  rcases answered with ⟨request, mem⟩
  rcases answers mem with before | new
  · have old := (reached.catalogued.answered before).2.1
    rcases (reached.step_issued taken).2 old found with ⟨stored, lookup, same⟩
    have entry := indexed id stored ⟨request, before⟩ lookup (same ▸ sameKey)
    rcases entries entry with kept | ⟨other, pruned, present, gone, prunedKey⟩
    · exact kept
    · -- the pruned record is not the one the key leads to, so it is an internal stop
      have stop : pruned.request = Impl.internalStopRequest other := by
        rcases reached.catalogued.origin present with answered | stop
        · obtain rfl := Option.some.inj
            (entry.symm.trans (indexed other pruned answered present prunedKey))
          cases gone.symm.trans found
        · exact stop
      refine absurd ⟨after, taken, ⟨id, entry, ?_⟩, other, pruned, present, stop, prunedKey, gone⟩
        spared
      rw [found]
      rfl
  · have agrees := ((reached.followed taken).catalogued.answered mem).2.2 record found
    rw [← sameKey, agrees.1]
    exact new

/-- As long as no internal stop with the key is pruned from beside another record, the map leads
from the key to the record that `Submit` has answered with. -/
theorem indexed_of_spared {setup : Setup} {system : System} {key : String}
    (reached : ReachableUnder setup (fun system action => ¬PrunesStopOf setup key system action)
      system) : Indexed key system := by
  refine reached.invariant (Indexed key) (fun system initial => ?_)
    fun system action after reached indexed spared taken => ?_
  · rcases init_cases initial with ⟨_, snapshot, now, rfl⟩
    intro id record answered found
    simp [started] at found
  cases step_submitEffect taken with
  | outside carries index answers =>
      refine indexed.keep reached.reachable taken spared ?_ ?_
      · intro id entry
        exact Or.inl (index ▸ entry)
      · intro request id mem
        exact Or.inl (answers mem)
  | repeats checked known impl events =>
      refine indexed.keep reached.reachable taken spared ?_ ?_
      · intro id entry
        exact Or.inl (impl ▸ entry)
      · intro request id mem
        rw [events] at mem
        rcases List.mem_cons.mp mem with newest | mem
        · rcases Event.submitReturned.inj newest with ⟨rfl, rfl⟩
          exact Or.inr (impl ▸ (Impl.findExisting_accepted known).1)
        · exact Or.inl mem
  | @commits thread request evidence traversal position impl events =>
      have owned := Reachable.owned reached.reachable
      rcases Impl.submitLocked_entries setup.options traversal request system.now
        owned.wellFormed.lookup_nextCommandId with ⟨entries, answers⟩
      rw [← impl] at entries answers
      refine indexed.keep reached.reachable taken spared entries ?_
      intro other id mem
      rw [events] at mem
      rcases List.mem_cons.mp mem with newest | mem
      · rcases Event.submitReturned.inj newest with ⟨rfl, accepted⟩
        exact Or.inr (answers accepted.symm)
      · exact Or.inl mem

/-- A request with the client and key of an answered one finds its record. -/
theorem Indexed.findExisting {setup : Setup} {system : System} {request later : CommandRequest}
    {id : ℕ} {record : CommandRecord} (indexed : Indexed (idempotencyMapKey request) system)
    (reached : Reachable setup system)
    (returned : .submitReturned request (.accepted id) ∈ system.events)
    (retained : system.impl.commands.lookup id = some record)
    (client : later.clientId = request.clientId)
    (key : later.idempotencyKey = request.idempotencyKey) :
    system.impl.findExisting later = some (Impl.repeatedAnswer request id later) := by
  rcases reached.catalogued.answered returned with ⟨_, _, agrees⟩
  rcases agrees record retained with ⟨sameKey, same⟩
  have entry := indexed id record ⟨request, returned⟩ retained sameKey
  have laterKey : idempotencyMapKey later = idempotencyMapKey request := by
    simp only [idempotencyMapKey, client, key]
  rw [Impl.findExisting_known (laterKey ▸ entry) retained (reached.catalogued.comparable retained)]
  simp only [Impl.repeatedAnswer, same.congr_left]

/-- Once `Submit` has answered a request with an id, and as long as its record is retained on the
running executor, every further `Submit` with the same client and key answers from that record
and changes nothing, also where it has already passed its first check, and no other retained
record answers for the same client and key. -/
theorem idempotent_submission {setup : Setup} {system : System} {request : CommandRequest}
    {id : ℕ} {record : CommandRecord}
    (reached : ReachableUnder setup
      (fun system action => ¬PrunesStopOf setup (idempotencyMapKey request) system action) system)
    (returned : .submitReturned request (.accepted id) ∈ system.events)
    (retained : system.impl.commands.lookup id = some record)
    (running : system.impl.running = true) (accepting : system.impl.shuttingDown = false) :
    (∀ thread later, system.clients thread = .idle →
      later.clientId = request.clientId → later.idempotencyKey = request.idempotencyKey →
      step setup system (.client thread (.submit later)) =
        some (system.clientReturns thread
          (.submitReturned later (Impl.retriedAnswer request id later)))) ∧
    (∀ thread later evidence traversal,
      system.clients thread = .submitValidated later evidence →
      later.clientId = request.clientId → later.idempotencyKey = request.idempotencyKey →
      step setup system (.client thread (.submitCommit traversal)) =
        some (system.clientReturns thread
          (.submitReturned later (Impl.repeatedAnswer request id later)))) ∧
    ∀ other stored, system.Answered other → system.impl.commands.lookup other = some stored →
      stored.request.clientId = request.clientId →
      stored.request.idempotencyKey = request.idempotencyKey → other = id := by
  have indexed := indexed_of_spared reached
  have catalogued : Catalogued system := Reachable.catalogued reached.reachable
  rcases catalogued.answered returned with ⟨checked, _, agrees⟩
  refine ⟨?_, ?_, ?_⟩
  · intro thread later idle client key
    have existing := indexed.findExisting reached.reachable returned retained client key
    have lookup : system.impl.submitLookup later =
        some (Impl.repeatedAnswer request id later) := by
      simp [Impl.submitLookup, running, accepting, existing]
    rcases Impl.checkRequest_retried checked client key with ⟨late, refused⟩ | ⟨late, passed⟩
    · simp [step, clientStep, idle, refused, Impl.retriedAnswer, late]
    · simp [step, clientStep, idle, passed, lookup, Impl.retriedAnswer, not_le.mpr late]
  · intro thread later evidence traversal position client key
    have existing := indexed.findExisting reached.reachable returned retained client key
    have answer : system.impl.submitLocked setup.options traversal later system.now =
        (Impl.repeatedAnswer request id later, system.impl) := by
      simp [Impl.submitLocked, running, accepting, existing]
    simp only [step, clientStep, position, answer]
    rfl
  · intro other stored answered found client key
    have sameKey : idempotencyMapKey stored.request = idempotencyMapKey request := by
      simp only [idempotencyMapKey, client, key]
    have entry := indexed id record ⟨request, returned⟩ retained (agrees record retained).1
    exact Option.some.inj ((indexed other stored answered found sameKey).symm.trans entry)

/-- Whether `Submit` has answered the request with the id, whose record is retained, on the
running executor. -/
def answersFrom (system : System) (request : CommandRequest) (id : ℕ) : Bool :=
  system.impl.running && !system.impl.shuttingDown && (system.impl.commands.lookup id).isSome &&
    system.events.any fun
      | .submitReturned submitted result => submitted = request ∧ result = .accepted id
      | _ => false

theorem answersFrom_iff {system : System} {request : CommandRequest} {id : ℕ} :
    system.answersFrom request id = true ↔
      system.impl.running = true ∧ system.impl.shuttingDown = false ∧
        (∃ record, system.impl.commands.lookup id = some record) ∧
        .submitReturned request (.accepted id) ∈ system.events := by
  simp only [answersFrom, Bool.and_eq_true, Bool.not_eq_true', List.any_eq_true,
    Option.isSome_iff_exists, and_assoc, and_congr_right_iff]
  intro _ _ _
  constructor
  · rintro ⟨event, mem, answer⟩
    split at answer
    · rcases of_decide_eq_true answer with ⟨rfl, rfl⟩
      exact mem
    · cases answer
  · intro mem
    exact ⟨_, mem, by simp⟩

def motionRequest : CommandRequest := .move (firstLease 1000) "client" "motion"

/-- The motion is answered before any internal stop has been requested. -/
theorem motion_answered : ∃ system, ReachableUnder .moving (fun system action =>
      ¬PrunesStopOf .moving (idempotencyMapKey motionRequest) system action) system ∧
    system.answersFrom motionRequest 1 = true ∧ system.clients 0 = .idle := by
  have sound : ∀ (system : System) (action : Action),
      (system.impl.commands.entries.all fun command =>
        command.2.request ≠ Impl.internalStopRequest command.1) = true →
      ¬PrunesStopOf .moving (idempotencyMapKey motionRequest) system action := by
    rintro system action checked ⟨_, _, _, id, record, found, stop, _⟩
    have mem := FiniteMap.mem_entries_iff.mpr found
    exact of_decide_eq_true (List.all_eq_true.mp checked _ mem) stop
  rcases exists_reachableUnder_of_execute ready_reachable _ sound
    (Schedule.acquire 0 "client" ++ Schedule.submit 0 motionRequest)
    (fun system => system.answersFrom motionRequest 1 && (system.clients 0).isIdle)
    (by decide) with ⟨system, reached, checked⟩
  rcases Bool.and_eq_true_iff.mp checked with ⟨answers, idles⟩
  exact ⟨system, reached, answers, ClientPc.eq_idle_of_isIdle idles⟩

/-- The same motion is submitted twice. -/
theorem idempotent_submission_move : ∃ system, Reachable .moving system ∧
    step .moving system (.client 0 (.submit motionRequest)) =
      some (system.clientReturns 0 (.submitReturned motionRequest (.accepted 1))) := by
  rcases motion_answered with ⟨system, reached, answers, idle⟩
  rcases answersFrom_iff.mp answers with ⟨running, accepting, ⟨record, retained⟩, returned⟩
  exact ⟨system, reached.reachable,
    (idempotent_submission reached returned retained running accepting).1 0 motionRequest idle rfl
      rfl⟩

/-- The Stop that the executor with this client and key would request as its third command. -/
def stopLikeInternal : CommandRequest := .plain .stop "" "robot-manager" "internal-stop-3"

/-- A retry without a timeout is refused as invalid, and a Stop with the client and key of an
internal stop is recorded twice when the internal stop has been pruned in between. -/
theorem repeated_submission_differs :
    (∃ system, Reachable .moving system ∧ system.answersFrom motionRequest 1 = true ∧
      step .moving system (.client 0 (.submit { motionRequest with timeout := 0 })) =
        some (system.clientReturns 0 (.submitReturned { motionRequest with timeout := 0 }
          (.refused ⟨.invalidArgument, "command timeout must be positive", 0⟩)))) ∧
    ∃ system, Reachable crowded system ∧ system.answersFrom stopLikeInternal 2 = true ∧
      system.answersFrom stopLikeInternal 5 = true := by
  constructor
  · rcases motion_answered with ⟨system, reached, answers, idle⟩
    have refused : Impl.checkRequest { motionRequest with timeout := 0 } =
        some ⟨.invalidArgument, "command timeout must be positive", 0⟩ := by decide
    exact ⟨system, reached.reachable, answers, by simp [step, clientStep, idle, refused]⟩
  · have start : Reachable crowded (started crowded .standing 1000) :=
      .init (init_started (by decide) _ _)
    rcases exists_reachable_of_execute start
      (Schedule.startMotion ++ Schedule.submit 0 stopLikeInternal ++
        Schedule.release 0 (firstLease 1000) "client" ++ Schedule.work (.returned Status.Ok) ++
        Schedule.validate 0 (.plain .stop "" "other" "stop") ++
        [.client 0 (.submitCommit ⟨List.reverse, List.reverse_perm⟩)] ++
        Schedule.work (.returned Status.Ok) ++ Schedule.submit 0 stopLikeInternal)
      (fun system => system.answersFrom stopLikeInternal 2 &&
        system.answersFrom stopLikeInternal 5)
      (by decide) with ⟨system, reached, checked⟩
    exact ⟨system, reached, Bool.and_eq_true_iff.mp checked⟩

/-- Every stored request is compared with any other request exactly, equals itself, and leads to
a driver call; so does every request whose validation has succeeded. -/
theorem Reachable.payloads_compared_exactly {setup : Setup} {system : System}
    (reached : Reachable setup system) :
    (∀ id record, system.impl.commands.lookup id = some record →
      (∀ request, ∃ same, payloadsEqual record.request request = some same ∧
        (same = true ↔ record.request.SameFields request)) ∧
      record.request.payload.NaNFree ∧
      payloadsEqual record.request record.request = some true ∧
      ∃ call, execute record.request = .ok call) ∧
    ∀ record evidence result, system.worker = .ready record evidence result →
      result.ok = true → ∃ call, execute record.request = .ok call := by
  constructor
  · intro id record found
    have comparable := reached.catalogued.comparable found
    exact ⟨payloadsEqual_iff_sameFields comparable.1, comparable.2,
      payloadsEqual_self comparable, execute_of_payload comparable.1⟩
  · intro record evidence result position passes
    apply execute_of_payload
    have passed : system.worker.passed = some (record.request, evidence) := by
      simp [position, WorkerPc.passed, passes]
    exact (reached.vetted.passed passed).payload

/-- A stored motion is compared with a Stop. -/
theorem motion_compared_with_stop : ∃ system, Reachable .moving system ∧
    ∃ record, system.impl.commands.lookup 1 = some record ∧
      ∃ same, payloadsEqual record.request stopLikeInternal = some same ∧
        (same = true ↔ record.request.SameFields stopLikeInternal) := by
  rcases motion_answered with ⟨system, reached, answers, _⟩
  rcases answersFrom_iff.mp answers with ⟨_, _, ⟨record, retained⟩, _⟩
  exact ⟨system, reached.reachable, record, retained,
    (Reachable.payloads_compared_exactly reached.reachable).1 1 record retained |>.1
      stopLikeInternal⟩

end System

end RobotManager
