import Mathlib.Logic.Function.Basic
import Mathlib.Data.List.Nodup

namespace KeyValue

/-- A key-value medium with the number of puts that still take effect (`none`: no put fails). -/
structure Store (κ ν : Type) where
  entries : κ → Option ν
  puts : Option Nat

variable {κ ν : Type} [DecidableEq κ]

def Store.put (store : Store κ ν) (key : κ) (value : ν) : Bool × Store κ ν :=
  match store.puts with
  | some 0 => (false, store)
  | puts => (true, ⟨Function.update store.entries key (some value), puts.map (· - 1)⟩)

@[grind =] def Store.putAll (store : Store κ ν) : List (κ × ν) → Bool × Store κ ν
  | [] => (true, store)
  | (key, value) :: rest =>
    match store.put key value with
    | (true, store) => store.putAll rest
    | failed => failed

def written (entries : κ → Option ν) (writes : List (κ × ν)) : κ → Option ν :=
  writes.foldl (fun entries write => Function.update entries write.1 (some write.2)) entries

theorem put_done {store after : Store κ ν} {key : κ} {value : ν} (done : store.put key value = (true, after)) :
    after.entries = Function.update store.entries key (some value) := by
  unfold Store.put at done
  split at done
  · cases done
  · rw [← (Prod.mk.inj done).2]

theorem put_failed {store after : Store κ ν} {key : κ} {value : ν} (failed : store.put key value = (false, after)) :
    after = store := by
  unfold Store.put at failed
  split at failed
  · exact (Prod.mk.inj failed).2.symm
  · cases failed

@[simp] theorem putAll_nil (store : Store κ ν) : store.putAll [] = (true, store) := rfl

theorem putAll_append (store : Store κ ν) (before after : List (κ × ν)) :
    store.putAll (before ++ after) =
      match store.putAll before with
      | (true, store) => store.putAll after
      | failed => failed := by
  induction before generalizing store with
  | nil => rfl
  | cons write rest ih =>
    obtain ⟨key, value⟩ := write
    rw [List.cons_append, Store.putAll, Store.putAll]
    cases outcome : store.put key value with
    | mk done next =>
      cases done with
      | true => exact ih next
      | false => rfl

theorem putAll_done {store after : Store κ ν} {writes : List (κ × ν)} (done : store.putAll writes = (true, after)) :
    after.entries = written store.entries writes := by
  induction writes generalizing store with
  | nil => rw [← (Prod.mk.inj done).2, written, List.foldl_nil]
  | cons write rest ih =>
    obtain ⟨key, value⟩ := write
    rw [Store.putAll] at done
    cases outcome : store.put key value with
    | mk took next =>
      rw [outcome] at done
      cases took with
      | true => rw [ih done, put_done outcome, written, written, List.foldl_cons]
      | false => cases done

theorem putAll_frame {store : Store κ ν} {writes : List (κ × ν)} {key : κ} (other : ∀ write ∈ writes, write.1 ≠ key) :
    (store.putAll writes).2.entries key = store.entries key := by
  induction writes generalizing store with
  | nil => rfl
  | cons write rest ih =>
    obtain ⟨first, value⟩ := write
    have apart : key ≠ first := fun same => other (first, value) List.mem_cons_self same.symm
    rw [Store.putAll]
    cases outcome : store.put first value with
    | mk took next =>
      cases took with
      | true =>
        change (next.putAll rest).2.entries key = store.entries key
        rw [ih fun write member => other write (List.mem_cons_of_mem _ member), put_done outcome,
          Function.update_of_ne apart]
      | false =>
        change next.entries key = store.entries key
        rw [put_failed outcome]

theorem putAll_concat_failed {store after : Store κ ν} {writes : List (κ × ν)} {last : κ × ν}
    (failed : store.putAll (writes ++ [last]) = (false, after)) : after = (store.putAll writes).2 := by
  rw [putAll_append] at failed
  cases outcome : store.putAll writes with
  | mk done next =>
    rw [outcome] at failed
    cases done with
    | false => exact (Prod.mk.inj failed).2.symm
    | true =>
      change next.putAll [last] = (false, after) at failed
      rw [Store.putAll] at failed
      cases took : next.put last.1 last.2 with
      | mk done final =>
        rw [took] at failed
        cases done with
        | true => cases failed
        | false => exact (Prod.mk.inj failed).2.symm.trans (put_failed took)

theorem written_frame {entries : κ → Option ν} {writes : List (κ × ν)} {key : κ}
    (other : ∀ write ∈ writes, write.1 ≠ key) : written entries writes key = entries key := by
  induction writes generalizing entries with
  | nil => rfl
  | cons write rest ih =>
    have apart : key ≠ write.1 := fun same => other write List.mem_cons_self same.symm
    rw [written, List.foldl_cons]
    exact (ih fun write member => other write (List.mem_cons_of_mem _ member)).trans
      (Function.update_of_ne apart _ _)

theorem written_eq {entries : κ → Option ν} {writes : List (κ × ν)} {key : κ} {value : ν}
    (member : (key, value) ∈ writes) (agree : ∀ write ∈ writes, write.1 = key → write.2 = value) :
    written entries writes key = some value := by
  induction writes generalizing entries with
  | nil => cases member
  | cons write rest ih =>
    rw [written, List.foldl_cons]
    by_cases later : (key, value) ∈ rest
    · exact ih later fun write member => agree write (List.mem_cons_of_mem _ member)
    · have first : write = (key, value) := ((List.mem_cons.mp member).resolve_right later).symm
      have absent : ∀ other ∈ rest, other.1 ≠ key := by
        intro other inside same
        have value_eq := agree other (List.mem_cons_of_mem _ inside) same
        exact later (same ▸ value_eq ▸ inside)
      exact (written_frame absent).trans (by rw [first, Function.update_self])

theorem written_absent {writes : List (κ × ν)} {key : κ} (absent : key ∉ writes.map Prod.fst) (entries : κ → Option ν) :
    written entries writes key = entries key := by
  apply written_frame
  intro write member same
  exact absent (same ▸ List.mem_map_of_mem member)

theorem written_reads {writes : List (κ × ν)} (distinct : (writes.map Prod.fst).Nodup) (entries : κ → Option ν) :
    ∀ write ∈ writes, written entries writes write.1 = some write.2 := by
  intro write member
  apply written_eq member
  intro other inside same
  exact congrArg Prod.snd (List.inj_on_of_nodup_map distinct inside member same)

theorem written_concat (entries : κ → Option ν) (writes : List (κ × ν)) (key : κ) (value : ν) :
    written entries (writes ++ [(key, value)]) = Function.update (written entries writes) key (some value) :=
  List.foldl_append

end KeyValue
