import Mathlib
import RobotManager.Service.CommandOrigins

/-!
# What clients are told about a command

Over a run of the service the answers of `GetCommand` about one id tell one story: they are about
one command, which goes along its lifecycle, an outcome is final, and a command that is gone stays
gone.  It is the command with which the id was given to a client by `SubmitCommand`.
-/

namespace RobotManager

/-- How a record may look later: the same command, farther in its lifecycle, and unchanged once it
is terminal. -/
structure CommandRecord.Continues (before after : CommandRecord) : Prop where
  id : after.id = before.id
  request : after.request = before.request
  createdAt : after.createdAt = before.createdAt
  states : Relation.ReflTransGen CommandState.Follows before.state after.state
  final : isTerminal before.state = true → after = before

namespace CommandRecord.Continues

theorem refl (record : CommandRecord) : record.Continues record :=
  ⟨rfl, rfl, rfl, .refl, fun _ => rfl⟩

theorem trans {first second third : CommandRecord} (earlier : first.Continues second)
    (later : second.Continues third) : first.Continues third where
  id := later.id.trans earlier.id
  request := later.request.trans earlier.request
  createdAt := later.createdAt.trans earlier.createdAt
  states := earlier.states.trans later.states
  final := by
    intro terminal
    have same := earlier.final terminal
    rw [later.final (same ▸ terminal), same]

theorem ofRewrite {before after : CommandRecord} (rewrite : CommandRecord.Rewrite before after) :
    before.Continues after where
  id := rewrite.id_eq
  request := rewrite.request_eq
  createdAt := rewrite.createdAt_eq
  states := by
    rcases rewrite.state with follows | ⟨running, stillRunning⟩
    · exact .single follows
    · rw [running, stillRunning]
  final := by
    intro terminal
    cases rewrite.unfinished.symm.trans terminal

end CommandRecord.Continues

namespace System

/-- A record that was issued before a step continues after it, as long as it is retained. -/
theorem Reachable.step_continues {setup : Setup} {system after : System} {action : Action}
    (reached : Reachable setup system) (taken : step setup system action = some after) {id : ℕ}
    (issued : id < system.impl.nextCommandId) {record : CommandRecord}
    (found : after.impl.commands.lookup id = some record) :
    ∃ before, system.impl.commands.lookup id = some before ∧ before.Continues record := by
  rcases reached.step_moves taken with ⟨_, _, moves⟩
  rcases moves.retained issued found with same | ⟨_, before, lookup, rewrite⟩
  · exact ⟨record, same, .refl record⟩
  · exact ⟨before, lookup, .ofRewrite rewrite⟩

/-- An id that `Submit` answers is that of a retained record of the same command, or a new one. -/
theorem Reachable.answer_of_step {setup : Setup} {system after : System} {action : Action}
    (reached : Reachable setup system) (taken : step setup system action = some after)
    {request : CommandRequest} {id : ℕ}
    (returned : .submitReturned request (.accepted id) ∈ after.events) :
    .submitReturned request (.accepted id) ∈ system.events ∨
      (∃ record, system.impl.commands.lookup id = some record ∧
        record.request.SameCommand request) ∨ system.impl.nextCommandId ≤ id := by
  have repeated : ∀ {other}, system.impl.findExisting other = some (.accepted id) →
      ∃ record, system.impl.commands.lookup id = some record ∧
        record.request.SameCommand other := by
    intro other existing
    rcases (Impl.findExisting_accepted existing).2 with ⟨record, found, equal⟩
    rw [payloadsEqual_exact (reached.catalogued.comparable found)] at equal
    exact ⟨record, found, by simpa using equal⟩
  cases step_submitEffect taken with
  | outside _ _ answers => exact Or.inl (answers returned)
  | repeats _ known _ events =>
      rw [events] at returned
      rcases List.mem_cons.mp returned with newest | before
      · rcases Event.submitReturned.inj newest with ⟨rfl, rfl⟩
        exact Or.inr (Or.inl (repeated known))
      · exact Or.inl before
  | @commits thread other evidence traversal position impl events =>
      rw [events] at returned
      rcases List.mem_cons.mp returned with newest | before
      · rcases Event.submitReturned.inj newest with ⟨rfl, accepted⟩
        right
        have submission := system.impl.submitLocked_cases setup.options traversal request system.now
        rw [← accepted] at submission
        generalize (system.impl.submitLocked setup.options traversal request system.now).2 = next
          at submission
        cases submission with
        | known existing => exact Or.inl (repeated existing)
        | @accepted roomy _ _ _ _ _ room =>
            have cleared := (Impl.makeRoomLocked_cleared room).trans
              (roomy.pruneCommandHistoryLocked_cleared setup.options traversal)
            exact Or.inr cleared.nextCommandId.ge
      · exact Or.inl before

end System

namespace Station

variable {plant : Plant} {station after : Station}

/-- One entry of the history of answers: it fits the answers before it. -/
def Story (report : ℕ × StatusOr CommandRecord) (earlier : List (ℕ × StatusOr CommandRecord)) :
    Prop :=
  match report.2 with
  | .error status => status = ⟨.notFound, "command was not found", 0⟩
  | .ok record => record.id = report.1 ∧ record.ResultAgrees ∧
      (∀ before, (report.1, .ok before) ∈ earlier → before.Continues record) ∧
      ∀ status older, (report.1, .error status) :: older <:+ earlier →
        ∀ before, (report.1, .ok before) ∉ older

/-- What a step of the service does to the executor and to the history of answers. -/
theorem reports_of_step {label : Step} (taken : step plant station label = some after) :
    (after.reports = station.reports ∧ (after.system = station.system ∨
      ∃ action, System.step plant.setup station.system action = some after.system)) ∨
    ∃ id, after.system = station.system ∧
      after.reports = (id, station.system.impl.getCommand id) :: station.reports := by
  have entered : ∀ {start : Station} {thread action},
      start.enter plant thread action = some after → start.system = station.system →
      start.reports = station.reports →
      after.reports = station.reports ∧ (after.system = station.system ∨
        ∃ action, System.step plant.setup station.system action = some after.system) := by
    intro start thread action enters system reports
    rcases enter_cases enters with ⟨inner, same⟩
    have kept := congrArg Station.reports same
    exact ⟨kept.trans reports, Or.inr ⟨_, system ▸ inner⟩⟩
  cases label with
  | rpc thread context rpc =>
      simp only [step, beginRpc] at taken
      split at taken
      · cases taken
      split at taken
      · cases taken
        exact Or.inl ⟨rfl, Or.inl rfl⟩
      cases rpc with
      | acquireControlLease | renewControlLease | releaseControlLease | getState | readAlarms
      | readDigitalInput | readDigitalOutput => exact Or.inl (entered taken rfl rfl)
      | submitCommand request =>
          simp only [handle] at taken
          split at taken
          · cases taken
            exact Or.inl ⟨rfl, Or.inl rfl⟩
          · exact Or.inl (entered taken rfl rfl)
      | getCommand request =>
          cases taken
          exact Or.inr ⟨request.commandId, rfl, rfl⟩
      | streamState =>
          cases taken
          exact Or.inl ⟨rfl, Or.inl rfl⟩
  | streamRound thread =>
      simp only [step] at taken
      split at taken
      · exact Or.inl (entered taken rfl rfl)
      · cases taken
  | streamEnds | stopRequested =>
      cases taken
      exact Or.inl ⟨rfl, Or.inl rfl⟩
  | proceed action =>
      rcases proceed_cases taken with ⟨_, _, inner, same⟩
      have kept := congrArg Station.reports same
      exact Or.inl ⟨kept, Or.inr ⟨_, inner⟩⟩

/-- How the answers that were given fit what the executor holds. -/
structure Told (station : Station) : Prop where
  story : Backed Story station.reports
  issued : ∀ {id record}, (id, .ok record) ∈ station.reports →
    id < station.system.impl.nextCommandId
  current : ∀ {id before record}, (id, .ok before) ∈ station.reports →
    station.system.impl.commands.lookup id = some record → before.Continues record
  gone : ∀ {id status older before}, (id, .error status) :: older <:+ station.reports →
    (id, .ok before) ∈ older → station.system.impl.commands.lookup id = none
  known : ∀ {id record request}, (id, .ok record) ∈ station.reports →
    .submitReturned request (.accepted id) ∈ station.system.events →
      record.request.SameCommand request

/-- A step of the executor keeps what clients were told true. -/
theorem Told.systemStep {action : Action} (told : Told station)
    (reached : Reachable plant station)
    (taken : System.step plant.setup station.system action = some after.system)
    (reports : after.reports = station.reports) : Told after := by
  have continues : ∀ {id record}, id < station.system.impl.nextCommandId →
      after.system.impl.commands.lookup id = some record → ∃ before,
        station.system.impl.commands.lookup id = some before ∧ before.Continues record :=
    fun issued found => reached.system.step_continues taken issued found
  refine ⟨reports ▸ told.story, ?_, ?_, ?_, ?_⟩ <;> rw [reports]
  · intro id record mem
    exact (told.issued mem).trans_le (reached.system.step_issued taken).1
  · intro id before record mem found
    rcases continues (told.issued mem) found with ⟨middle, stored, later⟩
    exact (told.current mem stored).trans later
  · intro id status older before suffix mem
    have issued := told.issued (suffix.subset (List.mem_cons_of_mem _ mem))
    cases found : after.system.impl.commands.lookup id with
    | none => rfl
    | some record =>
        rcases continues issued found with ⟨middle, stored, _⟩
        cases (told.gone suffix mem).symm.trans stored
  · intro id record request mem returned
    rcases reached.system.answer_of_step taken returned with old | ⟨stored, found, same⟩ | new
    · exact told.known mem old
    · exact (told.current mem found).request ▸ same
    · exact absurd (told.issued mem) (Nat.not_lt.mpr new)

/-- Being told that a command is not found. -/
theorem Told.notFound {id : ℕ} (told : Told station) (system : after.system = station.system)
    (absent : station.system.impl.commands.lookup id = none)
    (reports : after.reports =
      (id, .error ⟨.notFound, "command was not found", 0⟩) :: station.reports) : Told after := by
  have old : ∀ {other record}, (other, .ok record) ∈ after.reports →
      (other, .ok record) ∈ station.reports := by
    intro other record mem
    simpa [reports] using mem
  constructor
  · rw [reports]
    exact Backed.cons_iff.mpr ⟨rfl, told.story⟩
  · exact fun mem => system ▸ told.issued (old mem)
  · exact fun mem found => told.current (old mem) (system ▸ found)
  · intro other status older before suffix mem
    rw [reports] at suffix
    rw [system]
    rcases List.suffix_cons_iff.mp suffix with newest | suffix
    · cases newest
      exact absent
    · exact told.gone suffix mem
  · exact fun mem returned => told.known (old mem) (system ▸ returned)

/-- Being told about a command that is retained. -/
theorem Told.found {id : ℕ} {record : CommandRecord} (told : Told station)
    (reached : Reachable plant station) (system : after.system = station.system)
    (found : station.system.impl.commands.lookup id = some record)
    (reports : after.reports = (id, .ok record) :: station.reports) : Told after := by
  have owned := reached.system.owned
  have split : ∀ {other answer}, (other, .ok answer) ∈ after.reports →
      (other = id ∧ answer = record) ∨ (other, .ok answer) ∈ station.reports := by
    intro other answer mem
    simpa [reports] using mem
  constructor
  · rw [reports]
    refine Backed.cons_iff.mpr ⟨⟨owned.wellFormed.ident_eq found, owned.agrees found,
      fun before mem => told.current mem found, ?_⟩, told.story⟩
    intro status older suffix before mem
    cases (told.gone suffix mem).symm.trans found
  · intro other answer mem
    rw [system]
    rcases split mem with ⟨rfl, rfl⟩ | old
    · exact owned.wellFormed.issued found
    · exact told.issued old
  · intro other answer current mem stored
    rw [system] at stored
    rcases split mem with ⟨rfl, rfl⟩ | old
    · cases found.symm.trans stored
      exact .refl _
    · exact told.current old stored
  · intro other status older before suffix mem
    rw [reports] at suffix
    rw [system]
    rcases List.suffix_cons_iff.mp suffix with newest | suffix
    · cases newest
    · exact told.gone suffix mem
  · intro other answer request mem returned
    rw [system] at returned
    rcases split mem with ⟨rfl, rfl⟩ | old
    · exact ((reached.system.catalogued.answered returned).2.2 _ found).2
    · exact told.known old returned

theorem Told.step {label : Step} (told : Told station) (reached : Reachable plant station)
    (taken : step plant station label = some after) : Told after := by
  rcases reports_of_step taken with ⟨reports, same | ⟨action, inner⟩⟩ | ⟨id, system, reports⟩
  · exact ⟨reports ▸ told.story, fun mem => same ▸ told.issued (reports ▸ mem),
      fun mem found => told.current (reports ▸ mem) (same ▸ found),
      fun suffix mem => same ▸ told.gone (reports ▸ suffix) mem,
      fun mem returned => told.known (reports ▸ mem) (same ▸ returned)⟩
  · exact told.systemStep reached inner reports
  · unfold Impl.getCommand at reports
    split at reports
    · next absent => exact told.notFound system absent reports
    · next record found => exact told.found reached system found reports

theorem Reachable.told (reached : Reachable plant station) : Told station := by
  refine reached.invariant Told (fun station initial => ?_)
    fun station label after reached told _ taken => told.step reached taken
  rcases initial with ⟨_, _, _, _, rfl⟩
  exact ⟨Backed.nil, by simp, by simp, by simp, by simp⟩

/-- Over every run of the service, the answers of `GetCommand` about an id tell one story: every
answer continues each earlier one about the same command, which is never found again once it has
been reported and then not found; and it is the command that was submitted by each client to whom
`SubmitCommand` answered the id. -/
theorem reports_tell_one_story (reached : Reachable plant station) :
    Backed Story station.reports ∧
    ∀ id record request, (id, .ok record) ∈ station.reports →
      .submitReturned request (.accepted id) ∈ station.system.events →
        record.request.SameCommand request :=
  ⟨reached.told.story, fun _ _ _ => reached.told.known⟩

/-- A motion that is asked after twice has gone on in between. -/
theorem reports_tell_one_story_move : ∃ station before record,
    Reachable Plant.standing station ∧ station.reports = [(1, .ok record), (1, .ok before)] ∧
    before.state = .queued ∧ record.state = .running ∧ before.Continues record := by
  let asks : Step := .rpc 1 ⟨some ["operator"]⟩ (.getCommand ⟨"cell", 1⟩)
  rcases TransitionSystem.exists_reachable_of_execute standing_reachable
    (moves.take 7 ++ [asks] ++ moves.drop 7 ++ [asks])
    (fun station => (station.reports.map fun report =>
        (report.1, report.2.toOption.map CommandRecord.state)) =
      [(1, some .running), (1, some .queued)]) (by decide) with ⟨station, reached, checked⟩
  rcases List.map_eq_cons_iff.1 (of_decide_eq_true checked) with
    ⟨⟨_, second⟩, _, reports, secondShows, rest⟩
  rcases List.map_eq_cons_iff.1 rest with ⟨⟨_, first⟩, _, rfl, firstShows, rest⟩
  obtain rfl := List.map_eq_nil_iff.1 rest
  simp only [Prod.mk.injEq] at secondShows firstShows
  rcases secondShows with ⟨rfl, secondShows⟩
  rcases firstShows with ⟨rfl, firstShows⟩
  cases second with
  | error _ => cases secondShows
  | ok record =>
    cases first with
    | error _ => cases firstShows
    | ok before =>
      have told := (reports_tell_one_story reached).1 (1, .ok record) [(1, .ok before)]
        (reports ▸ List.suffix_refl _)
      exact ⟨station, before, record, reached, reports, Option.some.inj firstShows,
        Option.some.inj secondShows, told.2.2.1 before List.mem_cons_self⟩

end Station

end RobotManager
