import SigurdOS.MessageStore.Recovery

namespace SigurdOS.MessageStore

open FreshSearch

theorem nextAfter_ne_zero (id : UInt32) : nextAfter id ≠ 0 := by
  unfold nextAfter
  split
  · decide
  · rename_i notMax
    intro wrapped
    apply notMax
    have value := congrArg UInt32.toNat wrapped
    rw [UInt32.toNat_add] at value
    have bound := id.toNat_lt
    apply UInt32.toNat_inj.mp
    change (id.toNat + 1) % 2 ^ 32 = 0 at value
    change id.toNat = 2 ^ 32 - 1
    omega

theorem nextAfter_toNat {id : UInt32} (notMax : id ≠ 0xFFFFFFFF) : (nextAfter id).toNat = id.toNat + 1 := by
  have bound := id.toNat_lt
  have below : id.toNat ≠ 2 ^ 32 - 1 := fun equal => notMax (UInt32.toNat_inj.mp equal)
  rw [nextAfter, if_neg notMax, UInt32.toNat_add]
  change (id.toNat + 1) % 2 ^ 32 = id.toNat + 1
  omega

theorem nextAfter_cycle {id : UInt32} (nonzero : id ≠ 0) :
    (nextAfter id).toNat - 1 = (id.toNat - 1 + 1) % (2 ^ 32 - 1) := by
  have bound := id.toNat_lt
  have positive : id.toNat ≠ 0 := fun equal => nonzero (UInt32.toNat_inj.mp equal)
  by_cases last : id = 0xFFFFFFFF
  · subst last
    decide
  · have below : id.toNat ≠ 2 ^ 32 - 1 := fun equal => last (UInt32.toNat_inj.mp equal)
    rw [nextAfter_toNat last]
    omega

theorem iterate_nextAfter_ne_zero {id : UInt32} (nonzero : id ≠ 0) (steps : Nat) : nextAfter^[steps] id ≠ 0 := by
  cases steps with
  | zero => exact nonzero
  | succ steps =>
    rw [Function.iterate_succ_apply']
    exact nextAfter_ne_zero _

theorem iterate_nextAfter_toNat {id : UInt32} (nonzero : id ≠ 0) (steps : Nat) :
    (nextAfter^[steps] id).toNat - 1 = (id.toNat - 1 + steps) % (2 ^ 32 - 1) := by
  induction steps with
  | zero =>
    have bound := id.toNat_lt
    change id.toNat - 1 = (id.toNat - 1 + 0) % (2 ^ 32 - 1)
    have positive : id.toNat ≠ 0 := fun equal => nonzero (UInt32.toNat_inj.mp equal)
    omega
  | succ steps ih =>
    rw [Function.iterate_succ_apply', nextAfter_cycle (iterate_nextAfter_ne_zero nonzero steps), ih]
    omega

theorem iterate_nextAfter_nodup {id : UInt32} (nonzero : id ≠ 0) {attempts : Nat} (short : attempts < 2 ^ 32) :
    (List.iterate nextAfter id attempts).Nodup := by
  apply List.pairwise_iff_getElem.mpr
  intro i j first second before
  rw [List.length_iterate] at first second
  rw [List.getElem_iterate, List.getElem_iterate]
  intro equal
  have left := iterate_nextAfter_toNat nonzero i
  have right := iterate_nextAfter_toNat nonzero j
  rw [equal, right] at left
  have bound := id.toNat_lt
  have positive : id.toNat ≠ 0 := fun same => nonzero (UInt32.toNat_inj.mp same)
  omega

theorem firstUnused_fresh {used : List UInt32} {attempts : Nat} {candidate : UInt32} (nonzero : candidate ≠ 0)
    (more : used.length < attempts) (short : attempts < 2 ^ 32) :
    firstUnused used attempts candidate ≠ 0 ∧ firstUnused used attempts candidate ∉ used := by
  obtain ⟨step, _, found, free, _⟩ := firstFree_of_distinct (iterate_nextAfter_nodup nonzero short) more
  rw [firstUnused, found, Option.getD_some]
  exact ⟨iterate_nextAfter_ne_zero nonzero step, free⟩

theorem firstUnused_of_not_mem {used : List UInt32} {candidate : UInt32} (attempts : Nat) (free : candidate ∉ used) :
    firstUnused used (attempts + 1) candidate = candidate := by
  rw [firstUnused, firstFree_of_not_mem nextAfter attempts free, Option.getD_some]

theorem deriveNextId_fresh {messages : List StoredMessage} (short : messages.length + 1 < 2 ^ 32) :
    deriveNextId messages ≠ 0 ∧ deriveNextId messages ∉ messages.map (·.storeId) :=
  firstUnused_fresh (nextAfter_ne_zero _) (by rw [List.length_map]; omega) short

theorem deriveNextId_nil : deriveNextId [] = 1 := rfl

theorem highest_fold {ids : List UInt32} {start newest : UInt32} (bound : ∀ id ∈ ids, id ≤ newest)
    (startBound : start ≤ newest) (reached : newest = start ∨ newest ∈ ids) :
    ids.foldl (fun highest id => if id > highest then id else highest) start = newest := by
  induction ids generalizing start with
  | nil => simpa [eq_comm] using reached
  | cons id rest ih =>
    have here := bound id (by simp)
    apply ih (fun other member => bound other (List.mem_cons_of_mem _ member))
    · dsimp only
      split
      · exact here
      · exact startBound
    · rcases reached with same | member
      · left
        subst same
        exact (if_neg (UInt32.not_lt.mpr here)).symm
      · rcases List.mem_cons.mp member with same | later
        · left
          subst same
          dsimp only
          split
          · rfl
          · rename_i notLarger
            exact UInt32.le_antisymm (UInt32.not_lt.mp notLarger) startBound
        · exact Or.inr later

theorem deriveNextId_of_newest {messages : List StoredMessage} {newest : UInt32}
    (bound : ∀ id ∈ messages.map (·.storeId), id ≤ newest) (stored : newest ∈ messages.map (·.storeId))
    (notMax : newest ≠ 0xFFFFFFFF) : deriveNextId messages = nextAfter newest := by
  have highest := highest_fold bound (UInt32.zero_le) (Or.inr stored)
  unfold deriveNextId
  simp only [highest]
  apply firstUnused_of_not_mem
  intro member
  have above := UInt32.le_iff_toNat_le.mp (bound _ member)
  rw [nextAfter_toNat notMax] at above
  omega

end SigurdOS.MessageStore
