import Mathlib.Data.List.Basic

namespace Interrupted

/-- A medium with the number of writes that still take effect (`none`: no write fails). -/
structure Medium (σ : Type) where
  state : σ
  left : Option Nat

variable {σ ω : Type} (apply : ω → σ → σ)

def Medium.write (medium : Medium σ) (step : ω) : Bool × Medium σ :=
  match medium.left with
  | some 0 => (false, medium)
  | left => (true, ⟨apply step medium.state, left.map (· - 1)⟩)

def Medium.writeAll (medium : Medium σ) : List ω → Bool × Medium σ
  | [] => (true, medium)
  | step :: rest =>
    match medium.write apply step with
    | (true, medium) => medium.writeAll rest
    | failed => failed

def applied (steps : List ω) (state : σ) : σ := steps.foldl (fun state step => apply step state) state

variable {apply}

theorem write_done {medium after : Medium σ} {step : ω} (done : medium.write apply step = (true, after)) :
    after.state = apply step medium.state := by
  unfold Medium.write at done
  split at done
  · cases done
  · rw [← (Prod.mk.inj done).2]

theorem writeAll_unlimited {medium : Medium σ} (unlimited : medium.left = none) (steps : List ω) :
    medium.writeAll apply steps = (true, ⟨applied apply steps medium.state, none⟩) := by
  obtain ⟨state, left⟩ := medium
  obtain rfl : left = none := unlimited
  induction steps generalizing state with
  | nil => rfl
  | cons step rest ih =>
    simp only [Medium.writeAll, Medium.write]
    exact ih _

theorem writeAll_limited {medium : Medium σ} {count : Nat} (limited : medium.left = some count) (steps : List ω) :
    medium.writeAll apply steps =
      (decide (steps.length ≤ count), ⟨applied apply (steps.take count) medium.state,
      some (count - steps.length)⟩) := by
  obtain ⟨state, left⟩ := medium
  obtain rfl : left = some count := limited
  induction steps generalizing state count with
  | nil => simp [Medium.writeAll, applied]
  | cons step rest ih =>
    cases count with
    | zero => simp [Medium.writeAll, Medium.write, applied]
    | succ count =>
      simp only [Medium.writeAll, Medium.write, Option.map_some, Nat.add_sub_cancel, ih]
      simp [applied]

theorem writeAll_reached (medium : Medium σ) (steps : List ω) :
    (medium.writeAll apply steps).1 = decide (steps.length ≤ medium.left.getD steps.length) ∧
      (medium.writeAll apply steps).2.state = applied apply (steps.take (medium.left.getD steps.length))
      medium.state := by
  cases limit : medium.left with
  | none =>
    rw [writeAll_unlimited limit]
    simp
  | some count =>
    rw [writeAll_limited limit]
    exact ⟨rfl, rfl⟩

end Interrupted
