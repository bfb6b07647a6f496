import Mathlib.Data.List.Iterate
import Mathlib.Data.List.Perm.Subperm
import Mathlib.Data.List.Nodup
import Mathlib.Logic.Function.Iterate

namespace FreshSearch

variable {α : Type} [DecidableEq α]

/-- Walk `next` from `candidate` until a value outside `used` is met. -/
def firstFree (next : α → α) (used : List α) : Nat → α → Option α
  | 0, _ => none
  | attempts + 1, candidate =>
    if candidate ∈ used then firstFree next used attempts (next candidate) else some candidate

theorem firstFree_of_not_mem (next : α → α) {used : List α} {candidate : α} (attempts : Nat)
    (free : candidate ∉ used) : firstFree next used (attempts + 1) candidate = some candidate := by
  rw [firstFree, if_neg free]

theorem firstFree_cases (next : α → α) (used : List α) (attempts : Nat) (candidate : α) :
    (firstFree next used attempts candidate = none ∧ ∀ step < attempts, next^[step] candidate ∈ used) ∨
    ∃ step < attempts, firstFree next used attempts candidate = some (next^[step] candidate) ∧
      next^[step] candidate ∉ used ∧ ∀ earlier < step, next^[earlier] candidate ∈ used := by
  induction attempts generalizing candidate with
  | zero => exact Or.inl ⟨rfl, by simp⟩
  | succ attempts ih =>
    by_cases taken : candidate ∈ used
    · rw [firstFree, if_pos taken]
      rcases ih (next candidate) with ⟨exhausted, all⟩ | ⟨step, inside, found, free, before⟩
      · refine Or.inl ⟨exhausted, ?_⟩
        intro step inside
        cases step with
        | zero => exact taken
        | succ step => exact all step (by omega)
      · refine Or.inr ⟨step + 1, by omega, found, free, ?_⟩
        intro earlier inside
        cases earlier with
        | zero => exact taken
        | succ earlier => exact before earlier (by omega)
    · exact Or.inr ⟨0, by omega, firstFree_of_not_mem next attempts taken, taken, by simp⟩

theorem firstFree_of_distinct {next : α → α} {used : List α} {attempts : Nat} {candidate : α}
    (distinct : (List.iterate next candidate attempts).Nodup) (more : used.length < attempts) :
    ∃ step < attempts, firstFree next used attempts candidate = some (next^[step] candidate) ∧
      next^[step] candidate ∉ used ∧ ∀ earlier < step, next^[earlier] candidate ∈ used := by
  rcases firstFree_cases next used attempts candidate with ⟨_, all⟩ | found
  · have inside : List.iterate next candidate attempts ⊆ used := by
      intro value member
      obtain ⟨step, bound, rfl⟩ := List.mem_iterate.mp member
      exact all step bound
    have smaller := (List.subperm_of_subset distinct inside).length_le
    rw [List.length_iterate] at smaller
    omega
  · exact found

end FreshSearch
