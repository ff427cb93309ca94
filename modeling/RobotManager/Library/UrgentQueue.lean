import Mathlib.Data.List.Basic
import Mathlib.Order.Nat

/-!
# Queues with urgent entries

A queue of numbered entries, each of which enters with the next number: an urgent
entry in front, any other at the back.  Entries may leave from anywhere.  Such a queue
lists its urgent entries from the newest to the oldest and then the other entries from
the oldest to the newest.
-/

namespace UrgentQueue

variable {urgent : ℕ → Prop}

/-- The order in which two entries of a queue stand. -/
def Precedes (urgent : ℕ → Prop) (first second : ℕ) : Prop :=
  (urgent first ∧ (urgent second → second < first)) ∨
    (¬urgent first ∧ ¬urgent second ∧ first < second)

/-- Every entry precedes those behind it. -/
abbrev Ordered (urgent : ℕ → Prop) (queue : List ℕ) : Prop :=
  queue.Pairwise (Precedes urgent)

namespace Ordered

variable {queue : List ℕ}

/-- The order depends on the urgency of the entries in the queue only. -/
theorem congr {urgentNow : ℕ → Prop} (ordered : Ordered urgent queue)
    (same : ∀ id ∈ queue, urgentNow id ↔ urgent id) : Ordered urgentNow queue := by
  refine List.Pairwise.imp_of_mem ?_ ordered
  intro first second firstMem secondMem precedes
  unfold Precedes
  rw [same first firstMem, same second secondMem]
  exact precedes

/-- A new urgent entry in front. -/
theorem push {id : ℕ} (ordered : Ordered urgent queue) (isUrgent : urgent id)
    (newest : ∀ other ∈ queue, other < id) : Ordered urgent (id :: queue) := by
  refine List.pairwise_cons.mpr ⟨?_, ordered⟩
  intro other mem
  exact Or.inl ⟨isUrgent, fun _ => newest other mem⟩

/-- A new entry that is not urgent at the back. -/
theorem append {id : ℕ} (ordered : Ordered urgent queue) (ordinary : ¬urgent id)
    (newest : ∀ other ∈ queue, other < id) : Ordered urgent (queue ++ [id]) := by
  refine List.pairwise_append.mpr ⟨ordered, List.pairwise_singleton _ _, ?_⟩
  intro other mem last lastMem
  obtain rfl := List.mem_singleton.mp lastMem
  by_cases isUrgent : urgent other
  · exact Or.inl ⟨isUrgent, fun lastUrgent => absurd lastUrgent ordinary⟩
  · exact Or.inr ⟨isUrgent, ordinary, newest other mem⟩

/-- Behind an entry that is not urgent stand only newer ones of its kind. -/
theorem newer_behind {id other : ℕ} {rest : List ℕ} (ordered : Ordered urgent (id :: rest))
    (ordinary : ¬urgent id) (mem : other ∈ rest) : ¬urgent other ∧ id < other := by
  rcases List.rel_of_pairwise_cons ordered mem with ⟨isUrgent, _⟩ | ⟨_, otherOrdinary, older⟩
  · exact absurd isUrgent ordinary
  · exact ⟨otherOrdinary, older⟩

/-- While an urgent entry waits, the first entry is urgent. -/
theorem head_urgent {id other : ℕ} {rest : List ℕ} (ordered : Ordered urgent (id :: rest))
    (mem : other ∈ id :: rest) (isUrgent : urgent other) : urgent id := by
  by_contra ordinary
  rcases List.mem_cons.mp mem with rfl | behind
  · exact ordinary isUrgent
  · exact (ordered.newer_behind ordinary behind).1 isUrgent

/-- The urgent entries stand in front, the newest first; the others follow, the oldest first. -/
theorem split (ordered : Ordered urgent queue) :
    ∃ urgents others, queue = urgents ++ others ∧ (∀ id ∈ urgents, urgent id) ∧
      (∀ id ∈ others, ¬urgent id) ∧ urgents.Pairwise (· > ·) ∧ others.Pairwise (· < ·) := by
  induction queue with
  | nil => exact ⟨[], [], rfl, by simp, by simp, .nil, .nil⟩
  | cons id rest ih =>
      have restOrdered : Ordered urgent rest := ordered.tail
      by_cases isUrgent : urgent id
      · rcases ih restOrdered with ⟨urgents, others, rfl, areUrgent, areOrdinary, falling, rising⟩
        refine ⟨id :: urgents, others, rfl, ?_, areOrdinary, ?_, rising⟩
        · simpa [isUrgent] using areUrgent
        · refine List.pairwise_cons.mpr ⟨?_, falling⟩
          intro other mem
          have behind : other ∈ urgents ++ others := List.mem_append_left others mem
          rcases List.rel_of_pairwise_cons ordered behind with ⟨_, newer⟩ | ⟨ordinary, _⟩
          · exact newer (areUrgent other mem)
          · exact absurd isUrgent ordinary
      · have behind : ∀ other ∈ rest, ¬urgent other ∧ id < other :=
          fun other mem => ordered.newer_behind isUrgent mem
        refine ⟨[], id :: rest, rfl, by simp, ?_, .nil, ?_⟩
        · intro other mem
          rcases List.mem_cons.mp mem with rfl | mem
          · exact isUrgent
          · exact (behind other mem).1
        · refine List.pairwise_cons.mpr ⟨fun other mem => (behind other mem).2, ?_⟩
          refine List.Pairwise.imp_of_mem ?_ restOrdered
          intro first second firstMem _ precedes
          rcases precedes with ⟨firstUrgent, _⟩ | ⟨_, _, older⟩
          · exact absurd firstUrgent (behind first firstMem).1
          · exact older

end Ordered

end UrgentQueue
