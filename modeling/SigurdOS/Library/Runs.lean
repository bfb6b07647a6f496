import Mathlib.Data.List.Basic
import Mathlib.Data.List.Induction

namespace Runs

variable {σ ι : Type} (step : σ → ι → σ)

def run (start : σ) (inputs : List ι) : σ := inputs.foldl step start

/-- Every step of the run meets a condition on its input and on the state before it. -/
@[grind =] def Along (condition : σ → ι → Prop) : σ → List ι → Prop
  | _, [] => True
  | state, input :: rest => condition state input ∧ Along condition (step state input) rest

variable {step}

@[simp] theorem run_nil (start : σ) : run step start [] = start := rfl

@[simp] theorem run_cons (start : σ) (input : ι) (rest : List ι) :
    run step start (input :: rest) = run step (step start input) rest := rfl

theorem run_append (start : σ) (before after : List ι) :
    run step start (before ++ after) = run step (run step start before) after := List.foldl_append

theorem run_concat (start : σ) (before : List ι) (input : ι) :
    run step start (before ++ [input]) = step (run step start before) input := by
  rw [run_append]
  rfl

theorem along_append {condition : σ → ι → Prop} {start : σ} {before after : List ι} :
    Along step condition start (before ++ after) ↔
      Along step condition start before ∧ Along step condition (run step start before) after := by
  induction before generalizing start with
  | nil => simp [Along]
  | cons input rest ih => simp only [List.cons_append, Along, run_cons, ih, and_assoc]

theorem along_of_forall {condition : σ → ι → Prop} {inputs : List ι}
    (always : ∀ state, ∀ input ∈ inputs, condition state input) (start : σ) : Along step condition start inputs := by
  induction inputs generalizing start with
  | nil => trivial
  | cons input rest ih =>
    have first : condition start input := always start input List.mem_cons_self
    exact ⟨first, ih (fun state later inside => always state later (List.mem_cons_of_mem _ inside)) _⟩

theorem run_invariant_along {condition : σ → ι → Prop} (inv : σ → Prop) {start : σ} {inputs : List ι}
    (initial : inv start) (preserved : ∀ state input, inv state → condition state input → inv (step state input))
    (meets : Along step condition start inputs) : inv (run step start inputs) := by
  induction inputs generalizing start with
  | nil => exact initial
  | cons input rest ih => exact ih (preserved start input initial meets.1) meets.2

theorem run_invariant (inv : σ → Prop) {start : σ} (initial : inv start)
    (preserved : ∀ state input, inv state → inv (step state input)) (inputs : List ι) :
    inv (run step start inputs) := by
  induction inputs generalizing start with
  | nil => exact initial
  | cons input rest ih => exact ih (preserved start input initial)

theorem run_history {condition : σ → ι → Prop} (inv : List ι → σ → Prop) {start : σ} {inputs : List ι}
    (initial : inv [] start)
    (preserved : ∀ before input state, inv before state → condition state input →
      inv (before ++ [input]) (step state input))
    (meets : Along step condition start inputs) : inv inputs (run step start inputs) := by
  induction inputs using List.reverseRecOn with
  | nil => exact initial
  | append_singleton before input ih =>
    obtain ⟨early, late, -⟩ := along_append.mp meets
    rw [run_concat]
    exact preserved before input _ (ih early) late

theorem run_invariant_iff {condition : σ → ι → Prop} (inv : σ → Prop) {start : σ} (initial : inv start)
    (exact_step : ∀ state input, inv state → (inv (step state input) ↔ condition state input)) (inputs : List ι) :
    (∀ before, before <+: inputs → inv (run step start before)) ↔ Along step condition start inputs := by
  constructor
  · intro throughout
    induction inputs generalizing start with
    | nil => trivial
    | cons input rest ih =>
      have first : inv (step start input) := throughout [input] ⟨rest, rfl⟩
      refine ⟨(exact_step start input initial).mp first, ih first ?_⟩
      intro before early
      exact throughout (input :: before) (List.cons_prefix_cons.mpr ⟨rfl, early⟩)
  · rintro meets before ⟨after, rfl⟩
    apply run_invariant_along inv initial _ (along_append.mp meets).1
    intro state input holds allowed
    exact (exact_step state input holds).mpr allowed

theorem along_project {τ : Type} {other : τ → ι → τ} {condition : σ → ι → Prop} {expected : τ → ι → Prop}
    (project : σ → τ) (follows : ∀ state input, condition state input →
      expected (project state) input ∧ project (step state input) = other (project state) input)
    {start : σ} {inputs : List ι} (meets : Along step condition start inputs) :
    Along other expected (project start) inputs := by
  induction inputs generalizing start with
  | nil => trivial
  | cons input rest ih =>
    obtain ⟨here, next⟩ := follows start input meets.1
    exact ⟨here, next ▸ ih meets.2⟩

theorem along_of_invariant {condition : σ → ι → Prop} (inv : σ → Prop) {start : σ} {inputs : List ι}
    (initial : inv start) (given : ∀ state, inv state → ∀ input, condition state input)
    (preserved : ∀ state, ∀ input ∈ inputs, inv state → inv (step state input)) :
    Along step condition start inputs ∧ inv (run step start inputs) := by
  induction inputs generalizing start with
  | nil => exact ⟨trivial, initial⟩
  | cons input rest ih =>
    have next := ih (preserved start input List.mem_cons_self initial)
      (fun state later inside => preserved state later (List.mem_cons_of_mem _ inside))
    exact ⟨⟨given start initial input, next.1⟩, next.2⟩

theorem run_idle {start : σ} {inputs : List ι} (idle : ∀ input ∈ inputs, step start input = start) :
    run step start inputs = start := by
  induction inputs with
  | nil => rfl
  | cons input rest ih =>
    rw [run_cons, idle input List.mem_cons_self]
    exact ih (fun later inside => idle later (List.mem_cons_of_mem _ inside))

theorem run_take_resumed {start : σ} {inputs : List ι} {taken count : Nat}
    (idle : ∀ input ∈ (inputs.take count).take taken, step (run step start (inputs.take taken)) input =
      run step start (inputs.take taken)) :
    run step (run step start (inputs.take taken)) (inputs.take count) =
      run step start (inputs.take (max taken count)) := by
  rw [List.take_take] at idle
  rcases Nat.le_total count taken with covered | further
  · rw [Nat.min_eq_right covered] at idle
    rw [Nat.max_eq_left covered]
    exact run_idle idle
  · have joined : inputs.take count = inputs.take taken ++ (inputs.drop taken).take (count - taken) := by
      rw [← List.take_add, Nat.add_sub_cancel' further]
    rw [Nat.min_eq_left further] at idle
    rw [Nat.max_eq_right further]
    conv_lhs => rw [joined, run_append, run_idle idle]
    rw [joined, run_append]

theorem along_congr {condition other : σ → ι → Prop} (inv : σ → Prop) {start : σ} (initial : inv start)
    (preserved : ∀ state input, inv state → inv (step state input))
    (agree : ∀ state input, inv state → (condition state input ↔ other state input)) (inputs : List ι) :
    Along step condition start inputs ↔ Along step other start inputs := by
  induction inputs generalizing start with
  | nil => rfl
  | cons input rest ih => exact and_congr (agree start input initial) (ih (preserved start input initial))

end Runs
