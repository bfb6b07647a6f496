import Mathlib.Data.List.FinRange
import Mathlib.Data.List.Nodup
import Mathlib.Logic.Function.Basic

namespace SlotTable

variable {ε : Type} {size : Nat} {question : ε → Bool} {table : Fin size → ε}

section First

def firstSlot (question : ε → Bool) (table : Fin size → ε) : Option (Fin size) :=
  (List.finRange size).find? fun slot => question (table slot)

theorem firstSlot_some {slot : Fin size} (found : firstSlot question table = some slot) :
    question (table slot) = true := by
  simpa using List.find?_some found

theorem firstSlot_none (absent : firstSlot question table = none) (slot : Fin size) :
    question (table slot) = false := by
  simpa using List.find?_eq_none.mp absent slot (List.mem_finRange slot)

theorem firstSlot_below {slot lower : Fin size} (found : firstSlot question table = some slot) (below : lower < slot) :
    question (table lower) = false := by
  obtain ⟨-, before, after, whole, unanswered⟩ := List.find?_eq_some_iff_append.mp found
  have sorted := List.pairwise_lt_finRange size
  rw [whole, List.pairwise_append, List.pairwise_cons] at sorted
  have listed := List.mem_finRange lower
  rw [whole, List.mem_append, List.mem_cons] at listed
  rcases listed with early | here | late
  · simpa using unanswered lower early
  · exact absurd here (ne_of_lt below)
  · exact absurd (sorted.2.1.1 lower late) (lt_asymm below)

theorem firstSlot_eq_some_iff {slot : Fin size} : firstSlot question table = some slot ↔
    question (table slot) = true ∧ ∀ lower < slot, question (table lower) = false := by
  refine ⟨fun found => ⟨firstSlot_some found, fun _ below => firstSlot_below found below⟩, ?_⟩
  rintro ⟨answers, lowest⟩
  cases found : firstSlot question table with
  | none =>
    rw [firstSlot_none found slot] at answers
    cases answers
  | some first =>
    rcases lt_trichotomy first slot with below | same | above
    · have refused := lowest first below
      rw [firstSlot_some found] at refused
      cases refused
    · rw [same]
    · rw [firstSlot_below found above] at answers
      cases answers

end First

section Tally

def tally (question : ε → Bool) (table : Fin size → ε) : Nat :=
  (List.finRange size).countP fun slot => question (table slot)

theorem countP_cons_toNat {α : Type} (said : α → Bool) (head : α) (rest : List α) :
    (head :: rest).countP said = rest.countP said + (said head).toNat := by
  rw [List.countP_cons]
  cases said head <;> rfl

theorem countP_update {slots : List (Fin size)} (nodup : slots.Nodup) {slot : Fin size} (entry : ε)
    (member : slot ∈ slots) :
    slots.countP (fun other => question (Function.update table slot entry other)) + (question (table slot)).toNat =
      slots.countP (fun other => question (table other)) + (question entry).toNat := by
  induction slots with
  | nil => cases member
  | cons head rest ih =>
    obtain ⟨fresh, nodup⟩ := List.nodup_cons.mp nodup
    by_cases here : slot = head
    · subst here
      have unchanged : rest.countP (fun other => question (Function.update table slot entry other)) =
          rest.countP (fun other => question (table other)) := by
        apply List.countP_congr
        intro other inside
        have different : other ≠ slot := fun same => fresh (same ▸ inside)
        rw [Function.update_of_ne different]
      simp only [countP_cons_toNat, unchanged, Function.update_self]
      omega
    · have inside : slot ∈ rest := (List.mem_cons.mp member).resolve_left here
      have counted := ih nodup inside
      simp only [countP_cons_toNat, Function.update_of_ne (Ne.symm here)]
      omega

theorem tally_update (question : ε → Bool) (table : Fin size → ε) (slot : Fin size) (entry : ε) :
    tally question (Function.update table slot entry) + (question (table slot)).toNat =
      tally question table + (question entry).toNat :=
  countP_update (List.nodup_finRange size) entry (List.mem_finRange slot)

theorem tally_congr {other : ε → Bool} {changed : Fin size → ε}
    (same : ∀ slot, question (table slot) = other (changed slot)) : tally question table = tally other changed := by
  apply List.countP_congr
  intro slot _
  rw [same slot]

theorem tally_pos_iff : 0 < tally question table ↔ ∃ slot, question (table slot) = true := by
  simp [tally, List.countP_pos_iff]

theorem tally_eq_zero_iff : tally question table = 0 ↔ ∀ slot, question (table slot) = false := by
  simp [tally, List.countP_eq_zero]

theorem tally_le_one
    (unique : ∀ one other, question (table one) = true → question (table other) = true → one = other) :
    tally question table ≤ 1 := by
  have nodup := List.nodup_finRange size
  unfold tally
  revert nodup
  generalize List.finRange size = slots
  intro nodup
  induction slots with
  | nil => exact Nat.zero_le _
  | cons slot rest ih =>
    obtain ⟨fresh, nodup⟩ := List.nodup_cons.mp nodup
    have later := ih nodup
    rw [countP_cons_toNat]
    cases here : question (table slot) with
    | false => simpa using later
    | true =>
      have none_later : rest.countP (fun slot => question (table slot)) = 0 := by
        rw [List.countP_eq_zero]
        intro other member answers
        exact fresh (unique slot other here answers ▸ member)
      rw [none_later]
      rfl

theorem tally_reported {ρ : Type} {changed : Fin size → ε} {report : Fin size → Option ρ} {about : ρ → Bool}
    (moved : ∀ slot,
      (question (changed slot)).toNat + ((report slot).any about).toNat = (question (table slot)).toNat) :
    tally question changed + ((List.finRange size).filterMap report).countP about = tally question table := by
  unfold tally
  induction List.finRange size with
  | nil => rfl
  | cons slot rest ih =>
    have here := moved slot
    simp only [countP_cons_toNat, List.filterMap_cons]
    cases said : report slot with
    | none =>
      simp only [said, Option.any_none, Bool.toNat_false] at here
      dsimp only
      omega
    | some entry =>
      simp only [said, Option.any_some] at here
      simp only [countP_cons_toNat]
      omega

end Tally

section Distinct

variable {κ : Type} {used : ε → Bool} {key : ε → κ} {slot : Fin size} {entry : ε}

def Distinct (used : ε → Bool) (key : ε → κ) (table : Fin size → ε) : Prop :=
  ∀ one other, used (table one) = true → used (table other) = true →
    key (table one) = key (table other) → one = other

theorem Distinct.mono {changed : Fin size → ε} (distinct : Distinct used key table)
    (kept : ∀ slot, used (changed slot) = true →
      used (table slot) = true ∧ key (table slot) = key (changed slot)) :
    Distinct used key changed := by
  intro one other inUse inUse' same
  obtain ⟨before, owner⟩ := kept one inUse
  obtain ⟨before', owner'⟩ := kept other inUse'
  exact distinct one other before before' (by rw [owner, owner', same])

theorem Distinct.update (distinct : Distinct used key table)
    (foreign : ∀ other, other ≠ slot → used (table other) = true → key (table other) ≠ key entry) :
    Distinct used key (Function.update table slot entry) := by
  intro one other inUse inUse' same
  by_cases here : one = slot <;> by_cases here' : other = slot
  · exact here.trans here'.symm
  · subst here
    rw [Function.update_self, Function.update_of_ne here'] at same
    rw [Function.update_of_ne here'] at inUse'
    exact absurd same.symm (foreign other here' inUse')
  · subst here'
    rw [Function.update_self, Function.update_of_ne here] at same
    rw [Function.update_of_ne here] at inUse
    exact absurd same (foreign one here inUse)
  · rw [Function.update_of_ne here] at inUse same
    rw [Function.update_of_ne here'] at inUse' same
    exact distinct one other inUse inUse' same

end Distinct

end SlotTable
