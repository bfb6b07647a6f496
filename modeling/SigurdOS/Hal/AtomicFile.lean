import Mathlib.Data.List.Basic

namespace SigurdOS.Hal

/-- A path of the file system together with its `.tmp` companion; `none` is a missing file. -/
@[ext] structure AtomicFile where
  live : Option (List UInt8)
  temp : Option (List UInt8)
  deriving DecidableEq

/-- The step of a replacement that fails. `cleaned` tells whether the removal of the temp that
    follows a failed write or validation goes through. -/
inductive ReplaceFault where
  | removeTemp
  | openTemp
  | write (written : Nat) (cleaned : Bool)
  | validate (cleaned : Bool)
  | removeLive
  | rename
  deriving DecidableEq

inductive RecoverFault where
  | validate (cleaned : Bool)
  | removeLive
  | rename
  deriving DecidableEq

/-- `content` is what the write callback streams, `none` when it refuses to write. -/
@[grind =] def atomicFileReplace (file : AtomicFile) (content : Option (List UInt8)) (validate : List UInt8 → Bool)
    (fault : Option ReplaceFault) : Bool × AtomicFile :=
  match fault with
  | some .removeTemp => (false, file)
  | some .openTemp => (false, { file with temp := none })
  | some (.write written cleaned) =>
    (false, { file with temp := if cleaned then none else some ((content.getD []).take written) })
  | some (.validate cleaned) =>
    (false, { file with temp := if cleaned then none else some (content.getD []) })
  | _ =>
    match content with
    | none => (false, { file with temp := none })
    | some data =>
      if validate data then
        match fault with
        | some .removeLive => (false, { file with temp := some data })
        | some .rename => (false, { live := none, temp := some data })
        | _ => (true, { live := some data, temp := none })
      else (false, { file with temp := none })

def atomicFileRecover (file : AtomicFile) (validate : List UInt8 → Bool) (fault : Option RecoverFault) :
    Bool × AtomicFile :=
  match file.temp with
  | none => (true, file)
  | some data =>
    match fault with
    | some (.validate cleaned) =>
      (file.live.any validate, { file with temp := if cleaned then none else some data })
    | _ =>
      if validate data then
        match fault with
        | some .removeLive => (false, file)
        | some .rename => (false, { live := none, temp := some data })
        | _ => (true, { live := some data, temp := none })
      else (file.live.any validate, { file with temp := none })

theorem atomicFileReplace_success {file : AtomicFile} {data : List UInt8} {validate : List UInt8 → Bool}
    (valid : validate data = true) :
    atomicFileReplace file (some data) validate none = (true, ⟨some data, none⟩) := by
  simp only [atomicFileReplace, valid, ite_true]

theorem atomicFileReplace_invalid {file : AtomicFile} {data : List UInt8} {validate : List UInt8 → Bool}
    (invalid : validate data = false) :
    atomicFileReplace file (some data) validate none = (false, { file with temp := none }) := by
  simp only [atomicFileReplace, invalid, Bool.false_eq_true, ite_false]

/-- Everything a replacement can do. The live file is gone only when the final rename fails, and
    then the validated copy is in the temp. -/
theorem atomicFileReplace_cases {file after : AtomicFile} {content : Option (List UInt8)}
    {validate : List UInt8 → Bool} {fault : Option ReplaceFault} {ok : Bool}
    (replaced : atomicFileReplace file content validate fault = (ok, after)) :
    (ok = true ∧ ∃ data, content = some data ∧ validate data = true ∧ after = ⟨some data, none⟩) ∨
    (ok = false ∧ after.live = file.live ∧
      (after.temp = file.temp ∨ after.temp = none ∨ ∃ written, after.temp = some ((content.getD []).take written))) ∨
    (ok = false ∧ fault = some .rename ∧ ∃ data, content = some data ∧ validate data = true ∧
      after = ⟨none, some data⟩) := by
  unfold atomicFileReplace at replaced
  split at replaced
  · obtain ⟨rfl, rfl⟩ := Prod.mk.inj replaced
    exact Or.inr (Or.inl ⟨rfl, rfl, Or.inl rfl⟩)
  · obtain ⟨rfl, rfl⟩ := Prod.mk.inj replaced
    exact Or.inr (Or.inl ⟨rfl, rfl, Or.inr (Or.inl rfl)⟩)
  · rename_i written cleaned
    obtain ⟨rfl, rfl⟩ := Prod.mk.inj replaced
    refine Or.inr (Or.inl ⟨rfl, rfl, ?_⟩)
    cases cleaned
    · exact Or.inr (Or.inr ⟨written, rfl⟩)
    · exact Or.inr (Or.inl rfl)
  · rename_i cleaned
    obtain ⟨rfl, rfl⟩ := Prod.mk.inj replaced
    refine Or.inr (Or.inl ⟨rfl, rfl, ?_⟩)
    cases cleaned
    · exact Or.inr (Or.inr ⟨(content.getD []).length, by rw [List.take_length]; rfl⟩)
    · exact Or.inr (Or.inl rfl)
  · split at replaced
    · obtain ⟨rfl, rfl⟩ := Prod.mk.inj replaced
      exact Or.inr (Or.inl ⟨rfl, rfl, Or.inr (Or.inl rfl)⟩)
    · rename_i data
      split at replaced
      · rename_i valid
        split at replaced
        · obtain ⟨rfl, rfl⟩ := Prod.mk.inj replaced
          exact Or.inr (Or.inl ⟨rfl, rfl, Or.inr (Or.inr ⟨data.length, by rw [Option.getD_some, List.take_length]⟩)⟩)
        · obtain ⟨rfl, rfl⟩ := Prod.mk.inj replaced
          exact Or.inr (Or.inr ⟨rfl, rfl, data, rfl, valid, rfl⟩)
        · obtain ⟨rfl, rfl⟩ := Prod.mk.inj replaced
          exact Or.inl ⟨rfl, data, rfl, valid, rfl⟩
      · obtain ⟨rfl, rfl⟩ := Prod.mk.inj replaced
        exact Or.inr (Or.inl ⟨rfl, rfl, Or.inr (Or.inl rfl)⟩)

theorem atomicFileRecover_without_temp {file : AtomicFile} (validate : List UInt8 → Bool)
    (fault : Option RecoverFault) (absent : file.temp = none) :
    atomicFileRecover file validate fault = (true, file) := by
  simp only [atomicFileRecover, absent]

theorem atomicFileRecover_promotes {file : AtomicFile} {data : List UInt8} {validate : List UInt8 → Bool}
    (pending : file.temp = some data) (valid : validate data = true) :
    atomicFileRecover file validate none = (true, ⟨some data, none⟩) := by
  simp only [atomicFileRecover, pending, valid, ite_true]

theorem atomicFileRecover_discards {file : AtomicFile} {data : List UInt8} {validate : List UInt8 → Bool}
    (pending : file.temp = some data) (invalid : validate data = false) :
    atomicFileRecover file validate none = (file.live.any validate, { file with temp := none }) := by
  simp only [atomicFileRecover, pending, invalid, Bool.false_eq_true, ite_false]

end SigurdOS.Hal
