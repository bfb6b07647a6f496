import Mathlib.Data.List.Nodup
import Mathlib.Data.List.Perm.Subperm
import Mathlib.Data.Nat.Find
import Mathlib.Logic.Relation

namespace BoundedWalk

variable {α : Type} {next : α → Option α} {root : α}

def Leads (next : α → Option α) (child parent : α) : Prop := next child = some parent

theorem acyclic_of_reaches {cursor : α} (terminal : next root = none)
    (reaches : Relation.ReflTransGen (Leads next) cursor root) : ¬ Relation.TransGen (Leads next) cursor cursor := by
  induction reaches using Relation.ReflTransGen.head_induction_on with
  | refl =>
    intro cycle
    obtain ⟨parent, leads, -⟩ := Relation.TransGen.head'_iff.mp cycle
    rw [Leads, terminal] at leads
    cases leads
  | @head child parent leads _ ih =>
    intro cycle
    obtain ⟨other, first, back⟩ := Relation.TransGen.head'_iff.mp cycle
    obtain rfl : parent = other := Option.some.inj (leads.symm.trans first)
    exact ih (Relation.TransGen.tail' back leads)

variable [DecidableEq α]

def reachesWithin (next : α → Option α) (root : α) : Nat → α → Bool
  | 0, cursor => cursor == root
  | steps + 1, cursor =>
    if cursor = root then true
    else
      match next cursor with
      | none => false
      | some parent => reachesWithin next root steps parent

theorem reachesWithin_root (steps : Nat) : reachesWithin next root steps root = true := by
  cases steps with
  | zero => exact beq_self_eq_true root
  | succ steps => exact if_pos rfl

theorem reachesWithin_succ {child parent : α} (leads : next child = some parent) (away : child ≠ root) (steps : Nat) :
    reachesWithin next root (steps + 1) child = reachesWithin next root steps parent := by
  rw [reachesWithin, if_neg away, leads]

theorem reachesWithin_away {cursor : α} {steps : Nat} (reached : reachesWithin next root steps cursor = true)
    (away : cursor ≠ root) :
    ∃ fewer parent, steps = fewer + 1 ∧ next cursor = some parent ∧ reachesWithin next root fewer parent = true := by
  cases steps with
  | zero => exact absurd (eq_of_beq reached) away
  | succ fewer =>
    rw [reachesWithin, if_neg away] at reached
    cases leads : next cursor with
    | none =>
      rw [leads] at reached
      cases reached
    | some parent =>
      rw [leads] at reached
      exact ⟨fewer, parent, rfl, rfl, reached⟩

theorem reachesWithin_mono {cursor : α} {steps more : Nat} (reached : reachesWithin next root steps cursor = true)
    (le : steps ≤ more) : reachesWithin next root more cursor = true := by
  induction steps generalizing cursor more with
  | zero =>
    obtain rfl : cursor = root := eq_of_beq reached
    exact reachesWithin_root more
  | succ steps ih =>
    by_cases home : cursor = root
    · subst home
      exact reachesWithin_root more
    · obtain ⟨fewer, parent, same, leads, rest⟩ := reachesWithin_away reached home
      obtain rfl : steps = fewer := by omega
      obtain ⟨more, rfl⟩ : ∃ fewer, more = fewer + 1 := ⟨more - 1, by omega⟩
      rw [reachesWithin_succ leads home]
      exact ih rest (by omega)

theorem reaches_of_reachesWithin {cursor : α} {steps : Nat} (reached : reachesWithin next root steps cursor = true) :
    Relation.ReflTransGen (Leads next) cursor root := by
  induction steps generalizing cursor with
  | zero => rw [eq_of_beq reached]
  | succ steps ih =>
    by_cases home : cursor = root
    · rw [home]
    · obtain ⟨fewer, parent, same, leads, rest⟩ := reachesWithin_away reached home
      obtain rfl : steps = fewer := by omega
      exact Relation.ReflTransGen.head leads (ih rest)

theorem reachesWithin_of_reaches {cursor : α} (terminal : next root = none)
    (reaches : Relation.ReflTransGen (Leads next) cursor root) :
    ∃ steps, reachesWithin next root steps cursor = true := by
  induction reaches using Relation.ReflTransGen.head_induction_on with
  | refl => exact ⟨0, reachesWithin_root 0⟩
  | head leads _ ih =>
    obtain ⟨steps, rest⟩ := ih
    refine ⟨steps + 1, ?_⟩
    rw [reachesWithin_succ leads]
    · exact rest
    · rintro rfl
      rw [Leads, terminal] at leads
      cases leads

theorem exists_path {cursor : α} {steps : Nat} (reached : reachesWithin next root steps cursor = true)
    (shortest : ∀ fewer < steps, reachesWithin next root fewer cursor = false) :
    ∃ path : List α, path.Nodup ∧ path.length = steps ∧
      ∀ node ∈ path, (next node).isSome ∧ reachesWithin next root steps node = true := by
  induction steps generalizing cursor with
  | zero => exact ⟨[], List.nodup_nil, rfl, nofun⟩
  | succ steps ih =>
    have away : cursor ≠ root := by
      rintro rfl
      exact absurd (reachesWithin_root 0) (by rw [shortest 0 (by omega)]; nofun)
    obtain ⟨fewer, parent, same, leads, rest⟩ := reachesWithin_away reached away
    obtain rfl : steps = fewer := by omega
    have shortestRest : ∀ fewer < steps, reachesWithin next root fewer parent = false := by
      intro fewer less
      have later := shortest (fewer + 1) (by omega)
      rwa [reachesWithin_succ leads away] at later
    obtain ⟨path, distinct, length, onPath⟩ := ih rest shortestRest
    refine ⟨cursor :: path, ?_, by rw [List.length_cons, length], ?_⟩
    · refine List.nodup_cons.mpr ⟨fun member => ?_, distinct⟩
      have sooner := (onPath cursor member).2
      rw [shortest steps (by omega)] at sooner
      cases sooner
    · intro node member
      rcases List.mem_cons.mp member with rfl | member
      · exact ⟨by rw [leads]; rfl, reached⟩
      · exact ⟨(onPath node member).1, reachesWithin_mono (onPath node member).2 (by omega)⟩

theorem reachesWithin_length_iff {nodes : List α} (terminal : next root = none)
    (inside : ∀ node, (next node).isSome → node ∈ nodes) (cursor : α) :
    reachesWithin next root nodes.length cursor = true ↔ Relation.ReflTransGen (Leads next) cursor root := by
  refine ⟨reaches_of_reachesWithin, fun reaches => ?_⟩
  have some_walk := reachesWithin_of_reaches terminal reaches
  have shortest : ∀ fewer < Nat.find some_walk, reachesWithin next root fewer cursor = false := by
    intro fewer less
    exact Bool.eq_false_iff.mpr (Nat.find_min some_walk less)
  obtain ⟨path, distinct, length, onPath⟩ := exists_path (Nat.find_spec some_walk) shortest
  have within : path ⊆ nodes := fun node member => inside node (onPath node member).1
  have bound := (List.subperm_of_subset distinct within).length_le
  rw [length] at bound
  exact reachesWithin_mono (Nat.find_spec some_walk) bound

end BoundedWalk
