import Mathlib.Algebra.GroupWithZero.Nat
import SigurdOS.Library.KeyValue

namespace StagedCommit

open KeyValue

inductive Stop
  | failed
  | cut
  deriving DecidableEq

/-- The one fault of a run, with the number of operations done before it. -/
structure Fault where
  stop : Stop
  after : Nat
  deriving DecidableEq

def operation : Option Fault → Option Stop × Option Fault
  | none => (none, none)
  | some ⟨stop, 0⟩ => (some stop, none)
  | some ⟨stop, after + 1⟩ => (none, some ⟨stop, after⟩)

def close : Option Fault → Option Stop × Option Fault
  | some ⟨.cut, 0⟩ => (some .cut, none)
  | fault => (none, fault)

variable {κ ν : Type} [DecidableEq κ]

@[grind =] def stage (fault : Option Fault) :
    List (κ × ν) → (κ → Option ν) → Option Stop × Option Fault × (κ → Option ν)
  | [], staged => (none, fault, staged)
  | (key, value) :: rest, staged =>
    match operation fault with
    | (none, fault) => stage fault rest (Function.update staged key (some value))
    | (stop, fault) => (stop, fault, staged)

def opened (entries : Option (κ → Option ν)) : κ → Option ν := entries.getD fun _ => none

/-- One handle: open (which creates what is absent), the sets, the commit that makes them current, close. -/
def transact (fault : Option Fault) (writes : List (κ × ν)) (entries : Option (κ → Option ν)) :
    Option Stop × Option Fault × Option (κ → Option ν) :=
  match operation fault with
  | (some stop, fault) => (some stop, fault, entries)
  | (none, fault) =>
    match stage fault writes (opened entries) with
    | (some stop, fault, _) => (some stop, fault, some (opened entries))
    | (none, fault, staged) =>
      match operation fault with
      | (some stop, fault) => (some stop, fault, some (opened entries))
      | (none, fault) =>
        match close fault with
        | (stop, fault) => (stop, fault, some staged)

@[grind =] def transactAll (fault : Option Fault) : List (List (κ × ν)) → Option (κ → Option ν) →
    Option Stop × Option Fault × Option (κ → Option ν)
  | [], entries => (none, fault, entries)
  | writes :: rest, entries =>
    match transact fault writes entries with
    | (none, fault, entries) => transactAll fault rest entries
    | stopped => stopped

def operations (writes : List (κ × ν)) : Nat := writes.length + 2

/-- What is current when so many operations of the handles are done. -/
@[grind =] def reached (count : Nat) : List (List (κ × ν)) → Option (κ → Option ν) → Option (κ → Option ν)
  | [], entries => entries
  | writes :: rest, entries =>
    if operations writes ≤ count then reached (count - operations writes) rest (some (written (opened entries) writes))
    else if count = 0 then entries
    else some (opened entries)

/-- The handles committed when so many operations are done. -/
@[grind =] def committed (count : Nat) : List (List (κ × ν)) → Nat
  | [] => 0
  | writes :: rest => if operations writes ≤ count then committed (count - operations writes) rest + 1 else 0

def Fault.Strikes (fault : Fault) (total : Nat) : Prop :=
  match fault.stop with
  | .failed => fault.after < total
  | .cut => fault.after ≤ total

instance (fault : Fault) (total : Nat) : Decidable (fault.Strikes total) := by
  unfold Fault.Strikes
  split <;> infer_instance

theorem stage_none (writes : List (κ × ν)) (staged : κ → Option ν) :
    stage none writes staged = (none, none, written staged writes) := by
  induction writes generalizing staged with
  | nil => rfl
  | cons write rest ih => exact ih _

theorem stage_struck {writes : List (κ × ν)} {after : Nat} (inside : after < writes.length) (stop : Stop)
    (staged : κ → Option ν) : ∃ partly, stage (some ⟨stop, after⟩) writes staged = (some stop, none, partly) := by
  induction writes generalizing staged after with
  | nil => cases inside
  | cons write rest ih =>
    cases after with
    | zero => exact ⟨staged, rfl⟩
    | succ after => exact ih (Nat.lt_of_succ_lt_succ inside) _

theorem stage_spared {writes : List (κ × ν)} {after : Nat} (beyond : writes.length ≤ after) (stop : Stop)
    (staged : κ → Option ν) :
    stage (some ⟨stop, after⟩) writes staged =
      (none, some ⟨stop, after - writes.length⟩, written staged writes) := by
  induction writes generalizing staged after with
  | nil => rfl
  | cons write rest ih =>
    cases after with
    | zero => cases beyond
    | succ after =>
      rw [List.length_cons, Nat.add_sub_add_right]
      exact ih (Nat.le_of_succ_le_succ beyond) _

theorem transact_none (writes : List (κ × ν)) (entries : Option (κ → Option ν)) :
    transact none writes entries = (none, none, some (written (opened entries) writes)) := by
  simp [transact, operation, stage_none, close]

theorem transact_struck {writes : List (κ × ν)} {after : Nat} (inside : after < operations writes) (stop : Stop)
    (entries : Option (κ → Option ν)) :
    transact (some ⟨stop, after⟩) writes entries =
      (some stop, none, if after = 0 then entries else some (opened entries)) := by
  cases after with
  | zero => rfl
  | succ after =>
    by_cases staging : after < writes.length
    · obtain ⟨partly, struck⟩ := stage_struck staging stop (opened entries)
      simp [transact, operation, struck]
    · have last : after = writes.length := by
        unfold operations at inside
        omega
      simp [transact, operation, last, stage_spared (Nat.le_refl _)]

theorem transact_beyond {writes : List (κ × ν)} {after : Nat} (beyond : operations writes ≤ after) (stop : Stop)
    (entries : Option (κ → Option ν)) :
    transact (some ⟨stop, after⟩) writes entries =
      ((close (some ⟨stop, after - operations writes⟩)).1, (close (some ⟨stop, after - operations writes⟩)).2,
        some (written (opened entries) writes)) := by
  unfold operations at beyond ⊢
  obtain ⟨more, rfl⟩ := Nat.exists_eq_add_of_le beyond
  have rest : writes.length + 2 + more = writes.length + (more + 1) + 1 := by omega
  rw [Nat.add_sub_cancel_left, rest]
  simp [transact, operation, stage_spared (Nat.le_add_right _ _)]

theorem transact_entries (fault : Option Fault) (writes : List (κ × ν)) (entries : Option (κ → Option ν)) :
    (transact fault writes entries).2.2 = entries ∨ (transact fault writes entries).2.2 = some (opened entries) ∨
      (transact fault writes entries).2.2 = some (written (opened entries) writes) := by
  rcases fault with _ | ⟨stop, after⟩
  · rw [transact_none]
    exact .inr (.inr rfl)
  · by_cases beyond : operations writes ≤ after
    · rw [transact_beyond beyond]
      exact .inr (.inr rfl)
    · rw [transact_struck (Nat.lt_of_not_le beyond)]
      dsimp only
      split
      · exact .inl rfl
      · exact .inr (.inl rfl)

theorem transactAll_single (fault : Option Fault) (writes : List (κ × ν)) (entries : Option (κ → Option ν)) :
    transactAll fault [writes] entries = transact fault writes entries := by
  rw [transactAll]
  rcases transact fault writes entries with ⟨_ | stop, fault, entries⟩ <;> rfl

@[simp] theorem reached_zero (handles : List (List (κ × ν))) (entries : Option (κ → Option ν)) :
    reached 0 handles entries = entries := by
  cases handles with
  | nil => rfl
  | cons writes rest => simp [reached, operations]

theorem reached_isSome {handles : List (List (κ × ν))} (handled : handles ≠ []) {count : Nat} (begun : count ≠ 0)
    (entries : Option (κ → Option ν)) : (reached count handles entries).isSome := by
  have created : ∀ (handles : List (List (κ × ν))) (count : Nat) (current : κ → Option ν),
      (reached count handles (some current)).isSome := by
    intro handles
    induction handles with
    | nil => exact fun _ _ => rfl
    | cons writes rest ih =>
      intro count current
      rw [reached]
      split
      · exact ih _ _
      · split <;> rfl
  cases handles with
  | nil => exact absurd rfl handled
  | cons writes rest =>
    rw [reached, if_neg begun]
    split
    · exact created _ _ _
    · rfl

theorem opened_reached (count : Nat) (handles : List (List (κ × ν))) (entries : Option (κ → Option ν)) :
    opened (reached count handles entries) =
      (handles.take (committed count handles)).foldl written (opened entries) := by
  induction handles generalizing count entries with
  | nil => rfl
  | cons writes rest ih =>
    rw [reached, committed]
    by_cases whole : operations writes ≤ count
    · rw [if_pos whole, if_pos whole, List.take_succ_cons, List.foldl_cons]
      exact ih _ _
    · rw [if_neg whole, if_neg whole]
      split <;> rfl

omit [DecidableEq κ] in
theorem committed_le (count : Nat) (handles : List (List (κ × ν))) : committed count handles ≤ handles.length := by
  induction handles generalizing count with
  | nil => exact Nat.le_refl 0
  | cons writes rest ih =>
    rw [committed]
    split
    · exact Nat.succ_le_succ (ih _)
    · exact Nat.zero_le _

omit [DecidableEq κ] in
theorem committed_all (handles : List (List (κ × ν))) :
    committed (handles.map operations).sum handles = handles.length := by
  induction handles with
  | nil => rfl
  | cons writes rest ih =>
    rw [List.map_cons, List.sum_cons, committed, if_pos (Nat.le_add_right _ _), Nat.add_sub_cancel_left, ih]
    rfl

theorem transactAll_none (handles : List (List (κ × ν))) (entries : Option (κ → Option ν)) :
    transactAll none handles entries = (none, none, reached (handles.map operations).sum handles entries) := by
  induction handles generalizing entries with
  | nil => rfl
  | cons writes rest ih =>
    rw [transactAll, transact_none, List.map_cons, List.sum_cons, reached, if_pos (Nat.le_add_right _ _),
      Nat.add_sub_cancel_left]
    exact ih _

theorem transactAll_struck {handles : List (List (κ × ν))} (handled : handles ≠ []) {fault : Fault}
    (strikes : fault.Strikes (handles.map operations).sum) (entries : Option (κ → Option ν)) :
    (transactAll (some fault) handles entries).1 = some fault.stop ∧
      (transactAll (some fault) handles entries).2.2 = reached fault.after handles entries := by
  induction handles generalizing fault entries with
  | nil => exact absurd rfl handled
  | cons writes rest ih =>
    obtain ⟨stop, after⟩ := fault
    rw [transactAll, reached]
    rw [List.map_cons, List.sum_cons] at strikes
    by_cases beyond : operations writes ≤ after
    · rw [transact_beyond beyond, if_pos beyond]
      obtain ⟨more, rfl⟩ := Nat.exists_eq_add_of_le beyond
      rw [Nat.add_sub_cancel_left]
      by_cases closing : stop = .cut ∧ more = 0
      · obtain ⟨rfl, rfl⟩ := closing
        exact ⟨rfl, by cases rest <;> simp [reached, close, operations]⟩
      · have spared : close (some ⟨stop, more⟩) = (none, some ⟨stop, more⟩) := by
          cases stop <;> cases more <;> simp_all [close]
        have inside : (Fault.mk stop more).Strikes (rest.map operations).sum := by
          cases stop <;> simp only [Fault.Strikes] at strikes ⊢ <;> omega
        have further : rest ≠ [] := by
          intro last
          rw [last] at inside
          cases stop with
          | failed => exact Nat.not_lt_zero more inside
          | cut => exact closing ⟨rfl, Nat.le_zero.mp inside⟩
        rw [spared]
        exact ih further inside _
    · rw [transact_struck (Nat.lt_of_not_le beyond), if_neg beyond]
      exact ⟨rfl, rfl⟩

theorem transactAll_spared {handles : List (List (κ × ν))} {fault : Fault}
    (spared : ¬fault.Strikes (handles.map operations).sum) (entries : Option (κ → Option ν)) :
    (transactAll (some fault) handles entries).1 = none ∧
      (transactAll (some fault) handles entries).2.2 = reached (handles.map operations).sum handles entries := by
  induction handles generalizing fault entries with
  | nil => exact ⟨rfl, rfl⟩
  | cons writes rest ih =>
    obtain ⟨stop, after⟩ := fault
    rw [List.map_cons, List.sum_cons] at spared ⊢
    have beyond : operations writes ≤ after := by
      cases stop <;> simp [Fault.Strikes] at spared <;> omega
    rw [transactAll, transact_beyond beyond, reached, if_pos (Nat.le_add_right _ _), Nat.add_sub_cancel_left]
    obtain ⟨more, rfl⟩ := Nat.exists_eq_add_of_le beyond
    have unstruck : close (some ⟨stop, more⟩) = (none, some ⟨stop, more⟩) := by
      cases stop <;> cases more <;> simp_all [close, Fault.Strikes]
    have later : ¬(Fault.mk stop more).Strikes (rest.map operations).sum := by
      cases stop <;> simp_all [Fault.Strikes]
    rw [Nat.add_sub_cancel_left, unstruck]
    exact ih later _

end StagedCommit
