import Mathlib.Data.List.Nodup
import Mathlib.Order.Nat
import Mathlib.Tactic.Tauto
import Mathlib.Data.Set.Lattice
import Mathlib.Order.CompletePartialOrder

/-!
# Tables of queued jobs

A job table holds numbered job records and a queue of the jobs that wait to be
started.  A record carries a phase which only advances: waiting, running, finished.
`Move` lists the four updates that respect this discipline and `Moves` composes
them, recording which jobs were written.  The results below say what survives any
such composition: well-formedness of the table, the records that were not written,
the records of finished jobs, and that a written job made one permitted rewrite.
-/

/-- Where a job is in its life. -/
inductive JobPhase where
  | waiting
  | running
  | finished
deriving DecidableEq, Repr

/-- How the records of a job table may be rewritten. -/
structure JobDiscipline (Job : Type*) where
  ident : Job → ℕ
  phase : Job → JobPhase
  Rewrite : Job → Job → Prop
  rewrite_ident : ∀ {before after}, Rewrite before after → ident after = ident before
  rewrite_unfinished : ∀ {before after}, Rewrite before after → phase before ≠ .finished
  rewrite_started : ∀ {before after}, Rewrite before after → phase after ≠ .waiting

structure JobTable (Job : Type*) where
  jobs : ℕ → Option Job
  queue : List ℕ
  nextId : ℕ

namespace JobTable

variable {Job : Type*} (discipline : JobDiscipline Job)

/-- The queue holds exactly the waiting jobs, each once, and every job has an issued number. -/
structure WellFormed (table : JobTable Job) : Prop where
  queueNodup : table.queue.Nodup
  memQueue_iff : ∀ id, id ∈ table.queue ↔
    ∃ job, table.jobs id = some job ∧ discipline.phase job = .waiting
  issued : ∀ {id job}, table.jobs id = some job → id < table.nextId
  ident_eq : ∀ {id job}, table.jobs id = some job → discipline.ident job = id

/-- One update of a job table, labelled with the job it writes, if it writes an existing one. -/
inductive Move (table : JobTable Job) : Option ℕ → JobTable Job → Prop where
  /-- Issue the next number to a new waiting job, anywhere in the queue. -/
  | enqueue {job : Job} (front back : List ℕ) (waiting : discipline.phase job = .waiting)
      (ident : discipline.ident job = table.nextId) (queue : table.queue = front ++ back) :
      Move table none ⟨Function.update table.jobs table.nextId (some job),
        front ++ table.nextId :: back, table.nextId + 1⟩
  /-- Take a waiting job out of the queue and rewrite it. -/
  | take {id : ℕ} {job after : Job} {front back : List ℕ} (found : table.jobs id = some job)
      (queue : table.queue = front ++ id :: back) (rewrite : discipline.Rewrite job after) :
      Move table (some id) ⟨Function.update table.jobs id (some after), front ++ back,
        table.nextId⟩
  /-- Rewrite a running job. -/
  | rewrite {id : ℕ} {job after : Job} (found : table.jobs id = some job)
      (running : discipline.phase job = .running) (rewrite : discipline.Rewrite job after) :
      Move table (some id) ⟨Function.update table.jobs id (some after), table.queue,
        table.nextId⟩
  /-- Drop a finished job. -/
  | forget {id : ℕ} {job : Job} (found : table.jobs id = some job)
      (finished : discipline.phase job = .finished) :
      Move table none ⟨Function.update table.jobs id none, table.queue, table.nextId⟩

/-- Finitely many updates, with the jobs they write; no job is written twice. -/
inductive Moves (table : JobTable Job) : List ℕ → JobTable Job → Prop where
  | refl : Moves table [] table
  | pass {written : List ℕ} {middle after : JobTable Job} (moves : Moves table written middle)
      (move : Move discipline middle none after) : Moves table written after
  | write {written : List ℕ} {id : ℕ} {middle after : JobTable Job}
      (moves : Moves table written middle) (move : Move discipline middle (some id) after)
      (once : id ∉ written) : Moves table (id :: written) after

variable {discipline}

theorem WellFormed.unqueued {table : JobTable Job} (wellFormed : table.WellFormed discipline)
    {id : ℕ} (unissued : table.nextId ≤ id) : id ∉ table.queue ∧ table.jobs id = none := by
  have absent : table.jobs id = none := by
    cases found : table.jobs id with
    | none => rfl
    | some job => exact absurd (wellFormed.issued found) (by omega)
  refine ⟨?_, absent⟩
  rw [wellFormed.memQueue_iff, absent]
  simp

/-! ### Well-formedness -/

theorem WellFormed.enqueue {table : JobTable Job} (wellFormed : table.WellFormed discipline)
    {job : Job} {front back : List ℕ} (waiting : discipline.phase job = .waiting)
    (ident : discipline.ident job = table.nextId) (queue : table.queue = front ++ back) :
    WellFormed discipline ⟨Function.update table.jobs table.nextId (some job),
      front ++ table.nextId :: back, table.nextId + 1⟩ := by
  have unqueued : table.nextId ∉ front ++ back := queue ▸ (wellFormed.unqueued le_rfl).1
  have nodup : (front ++ back).Nodup := queue ▸ wellFormed.queueNodup
  refine ⟨List.nodup_middle.mpr (List.nodup_cons.mpr ⟨unqueued, nodup⟩), fun id => ?_,
    fun {id result} found => ?_, fun {id result} found => ?_⟩
  · have mem : id ∈ front ++ table.nextId :: back ↔ id = table.nextId ∨ id ∈ table.queue := by
      rw [queue]
      simp only [List.mem_append, List.mem_cons]
      tauto
    simp only [mem, Function.update_apply]
    by_cases same : id = table.nextId
    · simp [same, waiting]
    · simp [same, wellFormed.memQueue_iff]
  · simp only [Function.update_apply] at found
    split at found
    · next same => exact same ▸ Nat.lt_succ_self _
    · exact Nat.lt_succ_of_lt (wellFormed.issued found)
  · simp only [Function.update_apply] at found
    split at found
    · next same =>
        obtain rfl : job = result := by simpa using found
        exact same ▸ ident
    · exact wellFormed.ident_eq found

/-- Rewriting a record keeps the numbering, whatever becomes of the queue. -/
theorem WellFormed.rewrite_numbers {table : JobTable Job}
    (wellFormed : table.WellFormed discipline) {id other : ℕ} {job after result : Job}
    (found : table.jobs id = some job) (rewrite : discipline.Rewrite job after)
    (result_found : Function.update table.jobs id (some after) other = some result) :
    other < table.nextId ∧ discipline.ident result = other := by
  rw [Function.update_apply] at result_found
  split at result_found
  · next same =>
      obtain rfl : after = result := by simpa using result_found
      rw [same, discipline.rewrite_ident rewrite]
      exact ⟨wellFormed.issued found, wellFormed.ident_eq found⟩
  · exact ⟨wellFormed.issued result_found, wellFormed.ident_eq result_found⟩

theorem Move.wellFormed {table after : JobTable Job} {written : Option ℕ}
    (move : Move discipline table written after) (wellFormed : table.WellFormed discipline) :
    after.WellFormed discipline := by
  cases move with
  | enqueue front back waiting ident queue => exact wellFormed.enqueue waiting ident queue
  | @take id job next front back found queue rewrite =>
      have nodup : (front ++ id :: back).Nodup := queue ▸ wellFormed.queueNodup
      have parts := List.nodup_cons.mp (List.nodup_middle.mp nodup)
      refine ⟨parts.2, fun other => ?_,
        fun result_found => (wellFormed.rewrite_numbers found rewrite result_found).1,
        fun result_found => (wellFormed.rewrite_numbers found rewrite result_found).2⟩
      simp only [Function.update_apply]
      by_cases same : other = id
      · subst same
        simpa [discipline.rewrite_started rewrite] using parts.1
      · simp only [same, if_false]
        rw [← wellFormed.memQueue_iff, queue]
        simp [same]
  | @rewrite id job next found running rewrite =>
      refine ⟨wellFormed.queueNodup, fun other => ?_,
        fun result_found => (wellFormed.rewrite_numbers found rewrite result_found).1,
        fun result_found => (wellFormed.rewrite_numbers found rewrite result_found).2⟩
      rw [wellFormed.memQueue_iff]
      simp only [Function.update_apply]
      by_cases same : other = id
      · subst same
        simp [found, running, discipline.rewrite_started rewrite]
      · simp [same]
  | @forget id job found finished =>
      have retained : ∀ {other result}, Function.update table.jobs id none other = some result →
          table.jobs other = some result := by
        intro other result result_found
        rw [Function.update_apply] at result_found
        split at result_found
        · exact absurd result_found (by simp)
        · exact result_found
      refine ⟨wellFormed.queueNodup, fun other => ?_,
        fun result_found => wellFormed.issued (retained result_found),
        fun result_found => wellFormed.ident_eq (retained result_found)⟩
      rw [wellFormed.memQueue_iff]
      simp only [Function.update_apply]
      by_cases same : other = id
      · subst same
        simp [found, finished]
      · simp [same]

theorem Moves.wellFormed {table after : JobTable Job} {written : List ℕ}
    (moves : Moves discipline table written after) (wellFormed : table.WellFormed discipline) :
    after.WellFormed discipline := by
  induction moves with
  | refl => exact wellFormed
  | pass _ move ih => exact move.wellFormed ih
  | write _ move _ ih => exact move.wellFormed ih

theorem Move.nextId_le {table after : JobTable Job} {written : Option ℕ}
    (move : Move discipline table written after) : table.nextId ≤ after.nextId := by
  cases move <;> simp

theorem Moves.nextId_le {table after : JobTable Job} {written : List ℕ}
    (moves : Moves discipline table written after) : table.nextId ≤ after.nextId := by
  induction moves with
  | refl => exact le_rfl
  | pass _ move ih => exact le_trans ih move.nextId_le
  | write _ move _ ih => exact le_trans ih move.nextId_le

/-! ### What an update keeps -/

/-- An update leaves the records it does not write as they are, if it retains them. -/
theorem Move.jobs_of_ne {table after : JobTable Job} {written : Option ℕ} {id : ℕ} {job : Job}
    (move : Move discipline table written after) (issued : id < table.nextId)
    (unwritten : written ≠ some id) (found : after.jobs id = some job) :
    table.jobs id = some job := by
  cases move with
  | enqueue => simpa [Function.update_apply, Nat.ne_of_lt issued] using found
  | take | rewrite =>
      have different : ¬id = _ := fun same => unwritten (congrArg some same.symm)
      simpa [Function.update_apply, different] using found
  | forget =>
      simp only [Function.update_apply] at found
      split at found
      · exact absurd found (by simp)
      · exact found

/-- An update that writes a job makes one permitted rewrite of it. -/
theorem Move.rewrite_of_written {table after : JobTable Job} {id : ℕ} {job : Job}
    (move : Move discipline table (some id) after) (found : after.jobs id = some job) :
    ∃ before, table.jobs id = some before ∧ discipline.Rewrite before job := by
  cases move with
  | @take _ _ next _ _ lookup queue rewrite =>
      obtain rfl : next = job := by simpa using found
      exact ⟨_, lookup, rewrite⟩
  | @rewrite _ _ next lookup running rewrite =>
      obtain rfl : next = job := by simpa using found
      exact ⟨_, lookup, rewrite⟩

/-- Only finished jobs are dropped. -/
theorem Move.unfinished_kept {table after : JobTable Job} {written : Option ℕ} {id : ℕ} {job : Job}
    (move : Move discipline table written after) (issued : id < table.nextId)
    (unwritten : written ≠ some id) (found : table.jobs id = some job)
    (unfinished : discipline.phase job ≠ .finished) : after.jobs id = some job := by
  cases move with
  | enqueue => simpa [Function.update_apply, Nat.ne_of_lt issued] using found
  | take | rewrite =>
      have different : ¬id = _ := fun same => unwritten (congrArg some same.symm)
      simpa [Function.update_apply, different] using found
  | @forget other dropped lookup finished =>
      have different : id ≠ other := by
        rintro rfl
        obtain rfl : job = dropped := Option.some.inj (found.symm.trans lookup)
        exact unfinished finished
      simpa [Function.update_apply, different] using found

/-- Across a composition of updates a retained job is unchanged or, if it is among the
written ones, rewritten exactly once. -/
theorem Moves.retained {table after : JobTable Job} {written : List ℕ} {id : ℕ} {job : Job}
    (moves : Moves discipline table written after) (issued : id < table.nextId)
    (found : after.jobs id = some job) :
    (id ∉ written ∧ table.jobs id = some job) ∨
      (id ∈ written ∧ ∃ before, table.jobs id = some before ∧ discipline.Rewrite before job) := by
  induction moves generalizing job with
  | refl => exact Or.inl ⟨by simp, found⟩
  | pass moves move ih =>
      exact ih (move.jobs_of_ne (lt_of_lt_of_le issued moves.nextId_le) (by simp) found)
  | @write written other middle after moves move once ih =>
      by_cases same : id = other
      · subst same
        rcases move.rewrite_of_written found with ⟨before, lookup, rewrite⟩
        rcases ih lookup with ⟨_, unchanged⟩ | ⟨mem, _⟩
        · exact Or.inr ⟨by simp, before, unchanged, rewrite⟩
        · exact absurd mem once
      · have different : some other ≠ some id := fun eq => same (Option.some.inj eq).symm
        have kept := move.jobs_of_ne (lt_of_lt_of_le issued moves.nextId_le) different found
        simpa [same] using ih kept

theorem Moves.unfinished_kept {table after : JobTable Job} {written : List ℕ} {id : ℕ} {job : Job}
    (moves : Moves discipline table written after) (issued : id < table.nextId)
    (unwritten : id ∉ written) (found : table.jobs id = some job)
    (unfinished : discipline.phase job ≠ .finished) : after.jobs id = some job := by
  induction moves with
  | refl => exact found
  | pass moves move ih =>
      exact move.unfinished_kept (lt_of_lt_of_le issued moves.nextId_le) (by simp)
        (ih unwritten) unfinished
  | write moves move _ ih =>
      simp only [List.mem_cons, not_or] at unwritten
      exact move.unfinished_kept (lt_of_lt_of_le issued moves.nextId_le)
        (by simpa using Ne.symm unwritten.1) (ih unwritten.2) unfinished

/-- A job that was issued a number on the way and not written since is still waiting. -/
theorem Moves.new_waiting {table after : JobTable Job} {written : List ℕ} {id : ℕ} {job : Job}
    (moves : Moves discipline table written after) (wellFormed : table.WellFormed discipline)
    (unissued : table.nextId ≤ id) (unwritten : id ∉ written) (found : after.jobs id = some job) :
    discipline.phase job = .waiting := by
  induction moves generalizing job with
  | refl => exact absurd found (by simp [(wellFormed.unqueued unissued).2])
  | @pass written middle after moves move ih =>
      cases move with
      | @enqueue new front back waiting =>
          simp only [Function.update_apply] at found
          split at found
          · obtain rfl : new = job := by simpa using found
            exact waiting
          · exact ih unwritten found
      | forget =>
          simp only [Function.update_apply] at found
          split at found
          · exact absurd found (by simp)
          · exact ih unwritten found
  | @write written other middle after moves move once ih =>
      simp only [List.mem_cons, not_or] at unwritten
      by_cases issued : id < middle.nextId
      · exact ih unwritten.2 (move.jobs_of_ne issued (by simpa using Ne.symm unwritten.1) found)
      · have absent := ((moves.wellFormed wellFormed).unqueued (Nat.le_of_not_lt issued)).2
        cases move with
        | take | rewrite => simp [unwritten.1, absent] at found

/-- A finished job keeps its record for as long as it is retained. -/
theorem Moves.finished_unchanged {table after : JobTable Job} {written : List ℕ} {id : ℕ}
    {job result : Job} (moves : Moves discipline table written after)
    (wellFormed : table.WellFormed discipline) (before : table.jobs id = some job)
    (finished : discipline.phase job = .finished) (found : after.jobs id = some result) :
    result = job := by
  rcases moves.retained (wellFormed.issued before) found with ⟨_, kept⟩ | ⟨_, old, lookup, rewrite⟩
  · exact (Option.some.inj (before.symm.trans kept)).symm
  · obtain rfl : job = old := Option.some.inj (before.symm.trans lookup)
    exact absurd finished (discipline.rewrite_unfinished rewrite)

theorem Moves.trans {table middle after : JobTable Job} {first second : List ℕ}
    (moves : Moves discipline table first middle) (more : Moves discipline middle second after)
    (disjoint : List.Disjoint second first) : Moves discipline table (second ++ first) after := by
  induction more with
  | refl => exact moves
  | pass _ move ih => exact .pass (ih disjoint) move
  | @write written id _ _ _ move once ih =>
      rw [List.disjoint_cons_left] at disjoint
      refine .write (ih disjoint.2) move ?_
      simpa using ⟨once, disjoint.1⟩

/-! ### Moves that write a given set of jobs at most -/

variable (discipline) in
/-- Finitely many updates which write each job of a set at most once and no other job. -/
def MovesWithin (table : JobTable Job) (targets : Set ℕ) (after : JobTable Job) : Prop :=
  ∃ written, (∀ id ∈ written, id ∈ targets) ∧ Moves discipline table written after

namespace MovesWithin

variable {table middle after : JobTable Job} {targets first second : Set ℕ}

theorem refl (table : JobTable Job) (targets : Set ℕ) :
    MovesWithin discipline table targets table :=
  ⟨[], by simp, .refl⟩

theorem mono (moves : MovesWithin discipline table first after) (subset : first ⊆ second) :
    MovesWithin discipline table second after := by
  rcases moves with ⟨written, within, moves⟩
  exact ⟨written, fun id mem => subset (within id mem), moves⟩

theorem trans (moves : MovesWithin discipline table first middle)
    (more : MovesWithin discipline middle second after) (disjoint : Disjoint first second) :
    MovesWithin discipline table (first ∪ second) after := by
  rcases moves with ⟨written, within, moves⟩
  rcases more with ⟨rewritten, rewrittenWithin, more⟩
  refine ⟨rewritten ++ written, fun id mem => ?_, moves.trans more fun id again already => ?_⟩
  · rcases List.mem_append.mp mem with again | already
    · exact Or.inr (rewrittenWithin id again)
    · exact Or.inl (within id already)
  · exact Set.disjoint_left.mp disjoint (within id already) (rewrittenWithin id again)

/-- Updates that write no existing job may follow any others. -/
theorem andThen (moves : MovesWithin discipline table targets middle)
    (more : MovesWithin discipline middle ∅ after) :
    MovesWithin discipline table targets after := by
  simpa using moves.trans more (Set.disjoint_empty targets)

theorem wellFormed (moves : MovesWithin discipline table targets after)
    (wellFormed : table.WellFormed discipline) : after.WellFormed discipline := by
  rcases moves with ⟨_, _, moves⟩
  exact moves.wellFormed wellFormed

theorem nextId_le (moves : MovesWithin discipline table targets after) :
    table.nextId ≤ after.nextId := by
  rcases moves with ⟨_, _, moves⟩
  exact moves.nextId_le

theorem retained {id : ℕ} {job : Job} (moves : MovesWithin discipline table targets after)
    (issued : id < table.nextId) (found : after.jobs id = some job) :
    table.jobs id = some job ∨
      (id ∈ targets ∧ ∃ before, table.jobs id = some before ∧ discipline.Rewrite before job) := by
  rcases moves with ⟨written, within, moves⟩
  rcases moves.retained issued found with ⟨_, same⟩ | ⟨mem, before⟩
  · exact Or.inl same
  · exact Or.inr ⟨within id mem, before⟩

theorem unfinished_kept {id : ℕ} {job : Job}
    (moves : MovesWithin discipline table targets after)
    (wellFormed : table.WellFormed discipline) (untouched : id ∉ targets)
    (found : table.jobs id = some job) (unfinished : discipline.phase job ≠ .finished) :
    after.jobs id = some job := by
  rcases moves with ⟨written, within, moves⟩
  exact moves.unfinished_kept (wellFormed.issued found) (fun mem => untouched (within id mem))
    found unfinished

theorem new_waiting {id : ℕ} {job : Job} (moves : MovesWithin discipline table targets after)
    (wellFormed : table.WellFormed discipline) (issuedTargets : ∀ id ∈ targets, id < table.nextId)
    (unissued : table.nextId ≤ id) (found : after.jobs id = some job) :
    discipline.phase job = .waiting := by
  rcases moves with ⟨written, within, moves⟩
  refine moves.new_waiting wellFormed unissued (fun mem => ?_) found
  exact absurd (issuedTargets id (within id mem)) (Nat.not_lt.mpr unissued)

theorem finished_unchanged {id : ℕ} {job result : Job}
    (moves : MovesWithin discipline table targets after)
    (wellFormed : table.WellFormed discipline) (before : table.jobs id = some job)
    (finished : discipline.phase job = .finished) (found : after.jobs id = some result) :
    result = job := by
  rcases moves with ⟨_, _, moves⟩
  exact moves.finished_unchanged wellFormed before finished found

end MovesWithin

end JobTable
