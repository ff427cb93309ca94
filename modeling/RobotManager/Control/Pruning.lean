import RobotManager.Control.CommandLedger

/-!
# Pruning the command history

`PruneCommandHistoryLocked` erases the oldest terminal records until the history is below
its limit or only unfinished records are left.  The number of unfinished records decides
which of the two it is.
-/

namespace RobotManager

namespace Impl

/-- The number of records that have not ended. -/
def unfinished (impl : Impl) : ℕ := impl.commands.count fun record => !isTerminal record.state

/-- The number of terminal records that were last updated before the given time. -/
def olderTerminals (time : TimePoint) (impl : Impl) : ℕ :=
  impl.commands.count fun record => isTerminal record.state && decide (record.updatedAt < time)

theorem unfinished_le_size (impl : Impl) : impl.unfinished ≤ impl.commands.size :=
  FiniteMap.count_le_size _ _

/-- The history consists of unfinished records alone exactly if no record is terminal. -/
theorem unfinished_eq_size_iff {impl : Impl} :
    impl.unfinished = impl.commands.size ↔ ∀ id record,
      impl.commands.lookup id = some record → isTerminal record.state = false := by
  unfold unfinished FiniteMap.count FiniteMap.size
  rw [List.countP_eq_length]
  constructor
  · intro live id record found
    simpa using live ⟨id, record⟩ (FiniteMap.mem_entries_iff.mpr found)
  · rintro live ⟨id, record⟩ mem
    simpa using live id record (FiniteMap.mem_entries_iff.mp mem)

theorem unfinished_erase {impl : Impl} {id : ℕ} {record : CommandRecord}
    (found : impl.commands.lookup id = some record) (terminal : isTerminal record.state = true)
    (idempotency : FiniteMap String ℕ) :
    unfinished { impl with idempotency := idempotency, commands := impl.commands.erase id } =
      impl.unfinished := by
  have counted : impl.unfinished =
      FiniteMap.count (fun record => !isTerminal record.state) (impl.commands.erase id) +
        if !isTerminal record.state then 1 else 0 := FiniteMap.count_erase found
  simpa [unfinished, terminal] using counted.symm

/-! ### The oldest terminal record -/

theorem oldestTerminal_none_iff {records : List (Sigma fun _ : ℕ => CommandRecord)}
    {best : Option (Sigma fun _ : ℕ => CommandRecord)} :
    oldestTerminal records best = none ↔
      best = none ∧ ∀ record ∈ records, isTerminal record.2.state = false := by
  induction records generalizing best with
  | nil => simp [oldestTerminal]
  | cons record records ih =>
      simp only [oldestTerminal]
      cases terminal : isTerminal record.2.state with
      | false => simp [ih, terminal]
      | true =>
          cases best with
          | none => simp [ih, terminal]
          | some best =>
              simp only [Bool.not_true, Option.any_some, Bool.false_or]
              split <;> simp [ih]

/-- The chosen record is no younger than any terminal record that was looked at. -/
theorem oldestTerminal_le {records : List (Sigma fun _ : ℕ => CommandRecord)}
    {best : Option (Sigma fun _ : ℕ => CommandRecord)} {oldest : Sigma fun _ : ℕ => CommandRecord}
    (chosen : oldestTerminal records best = some oldest) :
    (∀ first, best = some first → oldest.2.updatedAt ≤ first.2.updatedAt) ∧
      ∀ record ∈ records, isTerminal record.2.state = true →
        oldest.2.updatedAt ≤ record.2.updatedAt := by
  induction records generalizing best with
  | nil =>
      simp only [oldestTerminal] at chosen
      subst chosen
      exact ⟨fun first same => by rw [Option.some.inj same], by simp⟩
  | cons record records ih =>
      simp only [oldestTerminal] at chosen
      split at chosen
      · next passed =>
        rcases ih chosen with ⟨beforeBest, beforeRest⟩
        refine ⟨beforeBest, fun other mem terminal => ?_⟩
        rcases List.mem_cons.mp mem with rfl | mem
        · simp only [terminal, Bool.not_true, Bool.false_or, Option.any_eq_true] at passed
          rcases passed with ⟨first, same, earlier⟩
          exact le_trans (beforeBest first same) (of_decide_eq_true earlier)
        · exact beforeRest other mem terminal
      · next considered =>
        rcases ih chosen with ⟨beforeBest, beforeRest⟩
        refine ⟨fun first same => ?_, fun other mem terminal => ?_⟩
        · simp only [same, Option.any_some, Bool.or_eq_true, not_or, decide_eq_true_eq,
            not_le] at considered
          exact le_trans (beforeBest record rfl) (le_of_lt considered.2)
        · rcases List.mem_cons.mp mem with rfl | mem
          · exact beforeBest other rfl
          · exact beforeRest other mem terminal

/-- In whichever order the map is traversed, nothing is chosen only if no record is terminal. -/
theorem oldestTerminal_traversal_none {impl : Impl} {traversal : Traversal}
    (nothing : oldestTerminal (traversal.order impl.commands.entries) none = none) :
    impl.unfinished = impl.commands.size := by
  refine unfinished_eq_size_iff.mpr fun id record found => ?_
  exact (oldestTerminal_none_iff.mp nothing).2 ⟨id, record⟩
    ((traversal.perm _).mem_iff.mpr (FiniteMap.mem_entries_iff.mpr found))

theorem oldestTerminal_traversal_le {impl : Impl} {traversal : Traversal}
    {oldest : Sigma fun _ : ℕ => CommandRecord}
    (chosen : oldestTerminal (traversal.order impl.commands.entries) none = some oldest) {id : ℕ}
    {record : CommandRecord} (found : impl.commands.lookup id = some record)
    (terminal : isTerminal record.state = true) : oldest.2.updatedAt ≤ record.updatedAt :=
  (oldestTerminal_le chosen).2 ⟨id, record⟩
    ((traversal.perm _).mem_iff.mpr (FiniteMap.mem_entries_iff.mpr found)) terminal

/-! ### The loop -/

theorem pruneLoop_unfinished (options : ExecutorOptions) (traversal : Traversal) (rounds : ℕ)
    (impl : Impl) : (pruneLoop options traversal rounds impl).unfinished = impl.unfinished := by
  induction rounds generalizing impl with
  | zero => rfl
  | succ rounds ih =>
      simp only [pruneLoop]
      split
      · rfl
      split
      · rfl
      next oldest chosen =>
      rcases oldestTerminal_lookup traversal chosen with ⟨found, terminal⟩
      rw [ih, unfinished_erase found terminal]

/-- With enough rounds the history shrinks below its limit, as far as the unfinished records let
it. -/
theorem pruneLoop_size {options : ExecutorOptions} (traversal : Traversal) {rounds : ℕ}
    {impl : Impl} (enough : impl.commands.size ≤ rounds) :
    (pruneLoop options traversal rounds impl).commands.size =
      min impl.commands.size (max impl.unfinished (options.maximumCommandHistory - 1)) := by
  induction rounds generalizing impl with
  | zero =>
      have empty : impl.commands.size = 0 := Nat.le_zero.mp enough
      simp [pruneLoop, empty]
  | succ rounds ih =>
      have within := impl.unfinished_le_size
      simp only [pruneLoop]
      split
      · omega
      split
      · next nothing =>
        have all := oldestTerminal_traversal_none nothing
        omega
      · next oldest chosen =>
        rcases oldestTerminal_lookup traversal chosen with ⟨found, terminal⟩
        have shrinks := FiniteMap.size_erase found
        have live := unfinished_erase found terminal
          (impl.idempotency.erase (idempotencyMapKey oldest.2.request))
        have rest := unfinished_le_size { impl with
          idempotency := impl.idempotency.erase (idempotencyMapKey oldest.2.request)
          commands := impl.commands.erase oldest.1 }
        rw [ih (by dsimp only; omega), live]
        dsimp only at rest ⊢
        omega

/-- A terminal record survives if enough of the older ones can go in its place. -/
theorem pruneLoop_keeps {options : ExecutorOptions} (traversal : Traversal) (rounds : ℕ)
    {impl : Impl} {id : ℕ} {record : CommandRecord}
    (found : impl.commands.lookup id = some record)
    (spare : impl.commands.size <
      options.maximumCommandHistory + impl.olderTerminals record.updatedAt) :
    (pruneLoop options traversal rounds impl).commands.lookup id = some record := by
  induction rounds generalizing impl with
  | zero => exact found
  | succ rounds ih =>
      simp only [pruneLoop]
      split
      · exact found
      next full =>
      split
      · exact found
      next oldest chosen =>
      rcases oldestTerminal_lookup traversal chosen with ⟨oldestFound, terminal⟩
      have older : oldest.2.updatedAt < record.updatedAt := by
        have some : 0 < impl.olderTerminals record.updatedAt := by omega
        rcases List.countP_pos_iff.mp some with ⟨⟨other, early⟩, mem, checked⟩
        rcases Bool.and_eq_true_iff.mp checked with ⟨ended, before⟩
        exact lt_of_le_of_lt (oldestTerminal_traversal_le chosen
          (FiniteMap.mem_entries_iff.mp mem) ended) (of_decide_eq_true before)
      have different : id ≠ oldest.1 := by
        rintro rfl
        rw [Option.some.inj (found.symm.trans oldestFound)] at older
        exact lt_irrefl _ older
      apply ih
      · rw [FiniteMap.lookup_erase_eq, if_neg different]
        exact found
      · have shrinks := FiniteMap.size_erase oldestFound
        have fewer : impl.olderTerminals record.updatedAt =
            olderTerminals record.updatedAt { impl with
              idempotency := impl.idempotency.erase (idempotencyMapKey oldest.2.request)
              commands := impl.commands.erase oldest.1 } +
              if isTerminal oldest.2.state && decide (oldest.2.updatedAt < record.updatedAt)
              then 1 else 0 := FiniteMap.count_erase oldestFound
        simp only [terminal, older, decide_true, Bool.and_true, if_true] at fewer
        dsimp only
        omega

theorem pruneCommandHistoryLocked_unfinished (options : ExecutorOptions) (traversal : Traversal)
    (impl : Impl) :
    (impl.pruneCommandHistoryLocked options traversal).unfinished = impl.unfinished :=
  pruneLoop_unfinished options traversal _ impl

theorem pruneCommandHistoryLocked_size (options : ExecutorOptions) (traversal : Traversal)
    (impl : Impl) :
    (impl.pruneCommandHistoryLocked options traversal).commands.size =
      min impl.commands.size (max impl.unfinished (options.maximumCommandHistory - 1)) :=
  pruneLoop_size traversal le_rfl

/-! ### What the loop removes -/

/-- Every terminal record that is still there was last updated no earlier than the given time. -/
def NoTerminalBefore (time : TimePoint) (impl : Impl) : Prop :=
  ∀ id record, impl.commands.lookup id = some record → isTerminal record.state = true →
    time ≤ record.updatedAt

/-- The loop adds and changes no record. -/
theorem pruneLoop_lookup (options : ExecutorOptions) (traversal : Traversal) (rounds : ℕ)
    {impl : Impl} {id : ℕ} {record : CommandRecord}
    (survives : (pruneLoop options traversal rounds impl).commands.lookup id = some record) :
    impl.commands.lookup id = some record := by
  induction rounds generalizing impl with
  | zero => exact survives
  | succ rounds ih =>
      simp only [pruneLoop] at survives
      split at survives
      · exact survives
      split at survives
      · exact survives
      next oldest chosen =>
      have kept := ih survives
      rw [FiniteMap.lookup_erase_eq] at kept
      split at kept
      · cases kept
      · exact kept

/-- A record that the loop removes is terminal and no younger than the terminal ones it leaves. -/
theorem pruneLoop_removed (options : ExecutorOptions) (traversal : Traversal) (rounds : ℕ)
    {impl : Impl} {id : ℕ} {record : CommandRecord}
    (found : impl.commands.lookup id = some record)
    (removed : (pruneLoop options traversal rounds impl).commands.lookup id = none) :
    isTerminal record.state = true ∧
      (pruneLoop options traversal rounds impl).NoTerminalBefore record.updatedAt := by
  induction rounds generalizing impl with
  | zero =>
      simp only [pruneLoop] at removed
      rw [found] at removed
      cases removed
  | succ rounds ih =>
      simp only [pruneLoop] at removed ⊢
      split at removed
      · rw [found] at removed
        cases removed
      next full =>
      split at removed
      · rw [found] at removed
        cases removed
      next oldest chosen =>
      rcases oldestTerminal_lookup traversal chosen with ⟨oldestFound, terminal⟩
      rw [if_neg full]
      by_cases first : id = oldest.1
      · subst first
        -- this round removes the record: whatever is left at the end is there now
        rw [Option.some.inj (found.symm.trans oldestFound)]
        refine ⟨terminal, fun other survivor survives ended => ?_⟩
        have kept := pruneLoop_lookup options traversal rounds survives
        rw [FiniteMap.lookup_erase_eq] at kept
        split at kept
        · cases kept
        · exact oldestTerminal_traversal_le chosen kept ended
      · apply ih _ removed
        rw [FiniteMap.lookup_erase_eq, if_neg first]
        exact found

/-- One more round changes nothing once there were as many rounds as records. -/
theorem pruneLoop_succ {options : ExecutorOptions} {traversal : Traversal} {rounds : ℕ}
    {impl : Impl} (enough : impl.commands.size ≤ rounds) :
    pruneLoop options traversal (rounds + 1) impl = pruneLoop options traversal rounds impl := by
  induction rounds generalizing impl with
  | zero =>
      conv_lhs => rw [pruneLoop]
      split
      · rfl
      split
      · rfl
      next oldest chosen =>
      have shrinks := FiniteMap.size_erase (oldestTerminal_lookup traversal chosen).1
      omega
  | succ rounds ih =>
      rw [pruneLoop]
      conv_rhs => rw [pruneLoop]
      split
      · rfl
      split
      · rfl
      next oldest chosen =>
      have shrinks := FiniteMap.size_erase (oldestTerminal_lookup traversal chosen).1
      apply ih
      dsimp only
      omega

/-- The loop has ended after as many rounds as there are records. -/
theorem pruneLoop_of_le {options : ExecutorOptions} {traversal : Traversal} {rounds : ℕ}
    {impl : Impl} (enough : impl.commands.size ≤ rounds) :
    pruneLoop options traversal rounds impl =
      impl.pruneCommandHistoryLocked options traversal := by
  induction rounds, enough using Nat.le_induction with
  | base => rfl
  | succ rounds enough ih => rw [pruneLoop_succ enough, ih]

theorem unfinished_eq_size_of_full {options : ExecutorOptions} {traversal : Traversal}
    {impl : Impl}
    (full : options.maximumCommandHistory ≤
      (impl.pruneCommandHistoryLocked options traversal).commands.size) :
    (impl.pruneCommandHistoryLocked options traversal).unfinished =
      (impl.pruneCommandHistoryLocked options traversal).commands.size := by
  have live := impl.unfinished_le_size
  have size := pruneCommandHistoryLocked_size options traversal impl
  have same := pruneCommandHistoryLocked_unfinished options traversal impl
  have stays := unfinished_le_size (impl.pruneCommandHistoryLocked options traversal)
  omega

/-- Pruning ends, removes the oldest terminal records only, and no more of them than it takes to
get below the limit. -/
theorem pruning_removes_oldest_terminals (options : ExecutorOptions) (traversal : Traversal)
    (impl : Impl) :
    let pruned := impl.pruneCommandHistoryLocked options traversal
    (∀ rounds, impl.commands.size ≤ rounds →
      pruneLoop options traversal rounds impl = pruned) ∧
    (∀ id record, pruned.commands.lookup id = some record →
      impl.commands.lookup id = some record) ∧
    (∀ id record, impl.commands.lookup id = some record → pruned.commands.lookup id = none →
      isTerminal record.state = true ∧ pruned.NoTerminalBefore record.updatedAt) ∧
    (pruned.commands.size < options.maximumCommandHistory ∨
      ∀ id record, pruned.commands.lookup id = some record → isTerminal record.state = false) ∧
    (pruned.commands.size = impl.commands.size ∨
      options.maximumCommandHistory ≤ pruned.commands.size + 1) := by
  intro pruned
  refine ⟨fun rounds enough => pruneLoop_of_le enough,
    fun id record survives => pruneLoop_lookup options traversal _ survives,
    fun id record found removed => pruneLoop_removed options traversal _ found removed, ?_, ?_⟩
  · rcases Nat.lt_or_ge pruned.commands.size options.maximumCommandHistory with below | full
    · exact Or.inl below
    · exact Or.inr (unfinished_eq_size_iff.mp (unfinished_eq_size_of_full full))
  · have size : pruned.commands.size = _ := pruneCommandHistoryLocked_size options traversal impl
    have live := impl.unfinished_le_size
    omega

end Impl

end RobotManager
