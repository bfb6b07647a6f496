import SigurdOS.Hal.AtomicFile
import SigurdOS.Library.Runs

namespace SigurdOS.Hal

/-- The last step of a replacement that takes effect before the power is lost. -/
inductive ReplaceCut where
  | removedTemp
  | opened
  | wrote (written : Nat)
  | validated
  | removedLive
  | renamed
  deriving DecidableEq

def atomicFileReplaceCut (file : AtomicFile) (content : Option (List UInt8)) (validate : List UInt8 → Bool) :
    ReplaceCut → AtomicFile
  | .removedTemp => { file with temp := none }
  | .opened => { file with temp := some [] }
  | .wrote written => { file with temp := some ((content.getD []).take written) }
  | cut =>
    match content with
    -- A refused write ends the attempt before these steps, and so does a failed validation before the last two.
    | none => { file with temp := none }
    | some data =>
      match cut with
      | .removedLive => if validate data then { live := none, temp := some data } else { file with temp := none }
      | .renamed => if validate data then { live := some data, temp := none } else { file with temp := none }
      | _ => { file with temp := some data }

/-- How an attempt goes on: to its return, with a step that fails or without, or into a power loss. -/
inductive Ending where
  | returns (fault : Option ReplaceFault)
  | cut (cut : ReplaceCut)
  deriving DecidableEq

inductive FileAction where
  | attempt (content : Option (List UInt8)) (ending : Ending)
  | recover (fault : Option RecoverFault)
  deriving DecidableEq

section Custody

variable (validate : List UInt8 → Bool)

def attempt (file : AtomicFile) (content : Option (List UInt8)) : Ending → Bool × AtomicFile
  | .returns fault => atomicFileReplace file content validate fault
  | .cut cut => (false, atomicFileReplaceCut file content validate cut)

/-- The temp that an attempt has brought onto the medium; `none` when it did not come to open it. -/
def writtenTemp (content : Option (List UInt8)) : Ending → Option (List UInt8)
  | .returns (some .removeTemp) | .returns (some .openTemp) | .cut .removedTemp => none
  | .returns (some (.write written _)) | .cut (.wrote written) => some ((content.getD []).take written)
  | .returns (some (.validate _)) => some (content.getD [])
  | .cut .opened => some []
  | _ => content

def Completes (content : Option (List UInt8)) (ending : Ending) : Prop :=
  writtenTemp content ending = content ∧ content.any validate = true

instance (content : Option (List UInt8)) (ending : Ending) : Decidable (Completes validate content ending) :=
  inferInstanceAs (Decidable (_ ∧ _))

/-- The files with what a recovery may bring back, once an attempt has returned true: the content of
    the most recent such attempt, and of the later ones that completed their temp. -/
structure Custody where
  file : AtomicFile
  candidates : Option (List (List UInt8))
  deriving DecidableEq

def custodyStep (custody : Custody) : FileAction → Custody
  | .attempt content ending =>
    match attempt validate custody.file content ending with
    | (true, file) => ⟨file, some content.toList⟩
    | (false, file) => ⟨file, if Completes validate content ending then
        custody.candidates.map (· ++ content.toList) else custody.candidates⟩
  | .recover fault => ⟨(atomicFileRecover custody.file validate fault).2, custody.candidates⟩

/-- No part of what an attempt writes passes for a whole file. -/
def Whole : FileAction → Prop
  | .attempt content _ => ∀ written, validate ((content.getD []).take written) = true →
      content = some ((content.getD []).take written)
  | .recover _ => True

/-- While the live file is missing the temp is its only copy. An attempt then fails at once, or
    completes a temp of its own and leaves it; a recovery reads the temp. -/
def Careful (custody : Custody) (action : FileAction) : Prop :=
  custody.file.live = none →
    match action with
    | .attempt content ending => ending = .returns (some .removeTemp) ∨ (Completes validate content ending ∧
        ∀ written, ending ≠ .returns (some (.write written true)) ∧ ending ≠ .returns (some (.validate true)))
    | .recover fault => ∀ cleaned, fault ≠ some (.validate cleaned)

structure Kept (custody : Custody) (contents : List (List UInt8)) : Prop where
  live : ∀ data, custody.file.live = some data → data ∈ contents
  temp : ∀ data, custody.file.temp = some data → validate data = true → data ∈ contents
  copy : custody.file.live = none → ∃ data, custody.file.temp = some data ∧ validate data = true

variable {validate} {custody : Custody}

theorem Kept.recovers {contents : List (List UInt8)} (kept : Kept validate custody contents) :
    ∃ data ∈ contents, (atomicFileRecover custody.file validate none).2.live = some data := by
  cases pending : custody.file.temp with
  | none =>
    rw [atomicFileRecover_without_temp validate none pending]
    cases present : custody.file.live with
    | none =>
      obtain ⟨data, held, -⟩ := kept.copy present
      rw [pending] at held
      cases held
    | some data => exact ⟨data, kept.live data present, rfl⟩
  | some data =>
    cases valid : validate data with
    | true =>
      rw [atomicFileRecover_promotes pending valid]
      exact ⟨data, kept.temp data pending valid, rfl⟩
    | false =>
      rw [atomicFileRecover_discards pending valid]
      cases present : custody.file.live with
      | none =>
        obtain ⟨copy, held, sound⟩ := kept.copy present
        rw [pending] at held
        obtain rfl := Option.some.inj held
        exact absurd (valid.symm.trans sound) nofun
      | some live => exact ⟨live, kept.live live present, rfl⟩

variable (validate) in
def Stays (file after : AtomicFile) (content : Option (List UInt8)) (ending : Ending) : Prop :=
  after.live = file.live ∧ (after.temp = none ∨ after.temp = writtenTemp content ending) ∧
    (Completes validate content ending → (∀ written, ending ≠ .returns (some (.write written true)) ∧
      ending ≠ .returns (some (.validate true))) → after.temp = content)

theorem attempt_outcomes {file after : AtomicFile} {content : Option (List UInt8)} {ending : Ending}
    (failed : attempt validate file content ending = (false, after)) :
    (ending = .returns (some .removeTemp) ∧ after = file) ∨
    Stays validate file after content ending ∨
    ∃ data, content = some data ∧ Completes validate content ending ∧
      (after = ⟨none, some data⟩ ∨ after = ⟨some data, none⟩) := by
  have dropped (kept : after = { file with temp := none }) (invalid : ¬ Completes validate content ending) :
      Stays validate file after content ending := by
    subst kept
    exact ⟨rfl, Or.inl rfl, fun complete => absurd complete invalid⟩
  have written (kept : after = { file with temp := writtenTemp content ending }) :
      Stays validate file after content ending := by
    subst kept
    exact ⟨rfl, Or.inr rfl, fun complete _ => complete.1⟩
  have refused {ending : Ending} : ¬ Completes validate none ending := fun complete => absurd complete.2 (by simp)
  cases ending with
  | returns fault =>
    unfold attempt atomicFileReplace at failed
    cases fault with
    | none =>
      cases content with
      | none => exact Or.inr (Or.inl (dropped (Prod.mk.inj failed).2.symm refused))
      | some data =>
        dsimp only at failed
        split at failed
        · cases failed
        · rename_i invalid
          exact Or.inr (Or.inl (dropped (Prod.mk.inj failed).2.symm fun complete => invalid complete.2))
    | some fault =>
      cases fault with
      | removeTemp => exact Or.inl ⟨rfl, (Prod.mk.inj failed).2.symm⟩
      | openTemp => exact Or.inr (Or.inl (written (Prod.mk.inj failed).2.symm))
      | write count cleaned =>
        obtain rfl := (Prod.mk.inj failed).2
        cases cleaned with
        | false => exact Or.inr (Or.inl (written rfl))
        | true =>
          exact Or.inr (Or.inl ⟨rfl, Or.inl rfl, fun _ uncleaned => absurd rfl (uncleaned count).1⟩)
      | validate cleaned =>
        obtain rfl := (Prod.mk.inj failed).2
        cases cleaned with
        | false => exact Or.inr (Or.inl (written rfl))
        | true => exact Or.inr (Or.inl ⟨rfl, Or.inl rfl, fun _ uncleaned => absurd rfl (uncleaned 0).2⟩)
      | removeLive =>
        cases content with
        | none => exact Or.inr (Or.inl (dropped (Prod.mk.inj failed).2.symm refused))
        | some data =>
          dsimp only at failed
          split at failed
          · exact Or.inr (Or.inl (written (Prod.mk.inj failed).2.symm))
          · rename_i invalid
            exact Or.inr (Or.inl (dropped (Prod.mk.inj failed).2.symm fun complete => invalid complete.2))
      | rename =>
        cases content with
        | none => exact Or.inr (Or.inl (dropped (Prod.mk.inj failed).2.symm refused))
        | some data =>
          dsimp only at failed
          split at failed
          · rename_i valid
            exact Or.inr (Or.inr ⟨data, rfl, ⟨rfl, valid⟩, Or.inl (Prod.mk.inj failed).2.symm⟩)
          · rename_i invalid
            exact Or.inr (Or.inl (dropped (Prod.mk.inj failed).2.symm fun complete => invalid complete.2))
  | cut cut =>
    unfold attempt atomicFileReplaceCut at failed
    cases cut with
    | removedTemp => exact Or.inr (Or.inl (written (Prod.mk.inj failed).2.symm))
    | opened => exact Or.inr (Or.inl (written (Prod.mk.inj failed).2.symm))
    | wrote count => exact Or.inr (Or.inl (written (Prod.mk.inj failed).2.symm))
    | validated =>
      cases content with
      | none => exact Or.inr (Or.inl (dropped (Prod.mk.inj failed).2.symm refused))
      | some data => exact Or.inr (Or.inl (written (Prod.mk.inj failed).2.symm))
    | removedLive =>
      cases content with
      | none => exact Or.inr (Or.inl (dropped (Prod.mk.inj failed).2.symm refused))
      | some data =>
        dsimp only at failed
        split at failed
        · rename_i valid
          exact Or.inr (Or.inr ⟨data, rfl, ⟨rfl, valid⟩, Or.inl (Prod.mk.inj failed).2.symm⟩)
        · rename_i invalid
          exact Or.inr (Or.inl (dropped (Prod.mk.inj failed).2.symm fun complete => invalid complete.2))
    | renamed =>
      cases content with
      | none => exact Or.inr (Or.inl (dropped (Prod.mk.inj failed).2.symm refused))
      | some data =>
        dsimp only at failed
        split at failed
        · rename_i valid
          exact Or.inr (Or.inr ⟨data, rfl, ⟨rfl, valid⟩, Or.inr (Prod.mk.inj failed).2.symm⟩)
        · rename_i invalid
          exact Or.inr (Or.inl (dropped (Prod.mk.inj failed).2.symm fun complete => invalid complete.2))

theorem completes_of_valid {content : Option (List UInt8)} {ending : Ending} {data : List UInt8}
    (whole : Whole validate (.attempt content ending)) (written : writtenTemp content ending = some data)
    (valid : validate data = true) : content = some data ∧ Completes validate content ending := by
  have complete (count : Nat) (part : data = (content.getD []).take count) : content = some data := by
    rw [part] at valid ⊢
    exact whole count valid
  have same : content = some data := by
    cases ending with
    | returns fault =>
      cases fault with
      | none => exact written
      | some fault =>
        cases fault with
        | removeTemp => cases written
        | openTemp => cases written
        | write count cleaned => exact complete count (Option.some.inj written).symm
        | validate cleaned =>
          exact complete (content.getD []).length (by rw [List.take_length]; exact (Option.some.inj written).symm)
        | removeLive => exact written
        | rename => exact written
    | cut cut =>
      cases cut with
      | removedTemp => cases written
      | opened => exact complete 0 (Option.some.inj written).symm
      | wrote count => exact complete count (Option.some.inj written).symm
      | validated => exact written
      | removedLive => exact written
      | renamed => exact written
  refine ⟨same, written.trans same.symm, ?_⟩
  rw [same]
  exact valid

theorem attempt_kept {content : Option (List UInt8)} {ending : Ending} {contents : List (List UInt8)}
    {after : AtomicFile}
    (kept : Kept validate custody contents) (whole : Whole validate (.attempt content ending))
    (careful : Careful validate custody (.attempt content ending))
    (failed : attempt validate custody.file content ending = (false, after)) (candidates : Option (List (List UInt8))) :
    Kept validate ⟨after, candidates⟩
      (if Completes validate content ending then contents ++ content.toList else contents) := by
  have grown {data : List UInt8} (member : data ∈ contents) :
      data ∈ if Completes validate content ending then contents ++ content.toList else contents := by
    split
    · exact List.mem_append_left _ member
    · exact member
  have own {data : List UInt8} (same : content = some data) (complete : Completes validate content ending) :
      data ∈ if Completes validate content ending then contents ++ content.toList else contents := by
    rw [if_pos complete, same]
    exact List.mem_append_right _ (List.mem_singleton_self data)
  rcases attempt_outcomes failed with ⟨-, rfl⟩ | ⟨live, temp, complete⟩ | ⟨data, same, complete, rfl | rfl⟩
  · exact ⟨fun data present => grown (kept.live data present),
      fun data pending valid => grown (kept.temp data pending valid), kept.copy⟩
  · refine ⟨fun data present => grown (kept.live data (live.symm.trans present)), fun data pending valid => ?_,
      fun missing => ?_⟩
    · rcases temp with gone | written
      · exact absurd (gone.symm.trans pending) nofun
      · obtain ⟨same, whole⟩ := completes_of_valid whole (written.symm.trans pending) valid
        exact own same whole
    · rcases careful (live.symm.trans missing) with refused | ⟨completed, uncleaned⟩
      · rw [refused] at failed
        obtain rfl := (Prod.mk.inj failed).2
        exact kept.copy missing
      · have left := complete completed uncleaned
        cases content with
        | none => exact absurd completed.2 (by simp)
        | some data => exact ⟨data, left, completed.2⟩
  · refine ⟨nofun, fun other pending valid => ?_, fun _ => ?_⟩
    · obtain rfl := Option.some.inj pending
      exact own same complete
    · rw [same] at complete
      exact ⟨data, rfl, complete.2⟩
  · refine ⟨fun other present => ?_, nofun, nofun⟩
    obtain rfl := Option.some.inj present
    exact own same complete

theorem atomicFileRecover_cases {file after : AtomicFile} {fault : Option RecoverFault} {ok : Bool}
    (recovered : atomicFileRecover file validate fault = (ok, after)) :
    (file.temp = none ∧ ok = true ∧ after = file) ∨
    ∃ data, file.temp = some data ∧
      ((∃ cleaned, fault = some (.validate cleaned) ∧ ok = file.live.any validate ∧
          after = if cleaned then { file with temp := none } else file) ∨
        (validate data = false ∧ ok = file.live.any validate ∧ after = { file with temp := none }) ∨
        (validate data = true ∧ (ok = false ∧ (after = file ∨ after = ⟨none, some data⟩) ∨
          ok = true ∧ after = ⟨some data, none⟩))) := by
  cases pending : file.temp with
  | none =>
    rw [atomicFileRecover_without_temp validate fault pending] at recovered
    obtain ⟨rfl, rfl⟩ := Prod.mk.inj recovered
    exact Or.inl ⟨rfl, rfl, rfl⟩
  | some data =>
    refine Or.inr ⟨data, rfl, ?_⟩
    unfold atomicFileRecover at recovered
    rw [pending] at recovered
    dsimp only at recovered
    split at recovered
    · rename_i cleaned
      obtain ⟨rfl, rfl⟩ := Prod.mk.inj recovered
      refine Or.inl ⟨cleaned, rfl, rfl, ?_⟩
      cases cleaned with
      | false =>
        rw [← pending]
        rfl
      | true => rfl
    · split at recovered
      · rename_i valid
        refine Or.inr (Or.inr ⟨valid, ?_⟩)
        split at recovered
        · obtain ⟨rfl, rfl⟩ := Prod.mk.inj recovered
          exact Or.inl ⟨rfl, Or.inl rfl⟩
        · obtain ⟨rfl, rfl⟩ := Prod.mk.inj recovered
          exact Or.inl ⟨rfl, Or.inr rfl⟩
        · obtain ⟨rfl, rfl⟩ := Prod.mk.inj recovered
          exact Or.inr ⟨rfl, rfl⟩
      · rename_i invalid
        obtain ⟨rfl, rfl⟩ := Prod.mk.inj recovered
        exact Or.inr (Or.inl ⟨Bool.eq_false_iff.mpr invalid, rfl, rfl⟩)

theorem recover_outcomes {file : AtomicFile} {data : List UInt8} (pending : file.temp = some data)
    (fault : Option RecoverFault) :
    (atomicFileRecover file validate fault).2 = file ∨
    ((atomicFileRecover file validate fault).2 = { file with temp := none } ∧
      (validate data = false ∨ ∃ cleaned, fault = some (.validate cleaned))) ∨
    (validate data = true ∧ ((atomicFileRecover file validate fault).2 = ⟨none, some data⟩ ∨
      (atomicFileRecover file validate fault).2 = ⟨some data, none⟩)) := by
  generalize done : atomicFileRecover file validate fault = outcome
  obtain ⟨ok, after⟩ := outcome
  rcases atomicFileRecover_cases done with ⟨none, -⟩ | ⟨other, here, outcome⟩
  · rw [pending] at none
    cases none
  obtain rfl := Option.some.inj (here.symm.trans pending)
  rcases outcome with ⟨cleaned, unread, -, left⟩ | ⟨invalid, -, left⟩ | ⟨valid, ⟨-, left | left⟩ | ⟨-, left⟩⟩
  · cases cleaned with
    | false => exact Or.inl left
    | true => exact Or.inr (Or.inl ⟨left, Or.inr ⟨true, unread⟩⟩)
  · exact Or.inr (Or.inl ⟨left, Or.inl invalid⟩)
  · exact Or.inl left
  · exact Or.inr (Or.inr ⟨valid, Or.inl left⟩)
  · exact Or.inr (Or.inr ⟨valid, Or.inr left⟩)

theorem recover_kept {fault : Option RecoverFault} {contents : List (List UInt8)}
    (kept : Kept validate custody contents)
    (careful : Careful validate custody (.recover fault)) (candidates : Option (List (List UInt8))) :
    Kept validate ⟨(atomicFileRecover custody.file validate fault).2, candidates⟩ contents := by
  cases pending : custody.file.temp with
  | none =>
    rw [atomicFileRecover_without_temp validate fault pending]
    exact ⟨kept.live, kept.temp, kept.copy⟩
  | some data =>
    rcases recover_outcomes pending fault with same | ⟨same, reason⟩ | ⟨valid, same | same⟩
    · rw [same]
      exact ⟨kept.live, kept.temp, kept.copy⟩
    · rw [same]
      refine ⟨kept.live, nofun, fun missing => ?_⟩
      obtain ⟨copy, held, sound⟩ := kept.copy missing
      rw [pending] at held
      obtain rfl := Option.some.inj held
      rcases reason with invalid | ⟨cleaned, unread⟩
      · exact absurd (invalid.symm.trans sound) nofun
      · exact absurd unread (careful missing cleaned)
    · rw [same]
      refine ⟨nofun, fun other held _ => ?_, fun _ => ⟨data, rfl, valid⟩⟩
      obtain rfl := Option.some.inj held
      exact kept.temp data pending valid
    · rw [same]
      refine ⟨fun other held => ?_, nofun, nofun⟩
      obtain rfl := Option.some.inj held
      exact kept.temp data pending valid

variable (validate) in
def Sound (custody : Custody) : Prop :=
  ∀ contents, custody.candidates = some contents → Kept validate custody contents

theorem custodyStep_sound (sound : Sound validate custody) (action : FileAction) (whole : Whole validate action)
    (careful : Careful validate custody action) : Sound validate (custodyStep validate custody action) := by
  cases action with
  | recover fault =>
    intro contents known
    exact recover_kept (sound contents known) careful _
  | attempt content ending =>
    cases outcome : attempt validate custody.file content ending with
    | mk done after =>
      cases done with
      | false =>
        have stepped : custodyStep validate custody (.attempt content ending) = ⟨after,
            if Completes validate content ending then custody.candidates.map (· ++ content.toList)
            else custody.candidates⟩ := by
          simp only [custodyStep, outcome]
        rw [stepped]
        intro contents known
        have before : ∃ earlier, custody.candidates = some earlier ∧ contents =
            if Completes validate content ending then earlier ++ content.toList else earlier := by
          dsimp only at known
          split at known
          · rename_i complete
            obtain ⟨earlier, before, rfl⟩ := Option.map_eq_some_iff.mp known
            exact ⟨earlier, before, (if_pos complete).symm⟩
          · rename_i incomplete
            exact ⟨contents, known, (if_neg incomplete).symm⟩
        obtain ⟨earlier, known', rfl⟩ := before
        exact attempt_kept (sound earlier known') whole careful outcome _
      | true =>
        have stepped : custodyStep validate custody (.attempt content ending) = ⟨after, some content.toList⟩ := by
          simp only [custodyStep, outcome]
        rw [stepped]
        intro contents known
        obtain rfl := Option.some.inj known
        cases ending with
        | cut cut => cases outcome
        | returns fault =>
          rcases atomicFileReplace_cases outcome with ⟨-, data, rfl, -, rfl⟩ | ⟨failed, -⟩ | ⟨failed, -⟩
          · refine ⟨fun other present => ?_, nofun, nofun⟩
            obtain rfl := Option.some.inj present
            exact List.mem_singleton_self data
          · cases failed
          · cases failed

/-- Over a whole run of attempts and recoveries: once an attempt has returned true, the next recovery
    leaves its content, or that of a later attempt that completed its temp, at the path. -/
theorem replacement_runs_keep_content (file : AtomicFile) (actions : List FileAction)
    (meets : Runs.Along (custodyStep validate) (fun custody action => Whole validate action ∧
      Careful validate custody action) ⟨file, none⟩ actions) {contents : List (List UInt8)}
    (committed : (Runs.run (custodyStep validate) ⟨file, none⟩ actions).candidates = some contents) :
    ∃ data ∈ contents, (atomicFileRecover (Runs.run (custodyStep validate) ⟨file, none⟩ actions).file validate
      none).2.live =
      some data := by
  have start : Sound validate ⟨file, none⟩ := nofun
  have sound := Runs.run_invariant_along (Sound validate) start
    (fun custody action sound meets => custodyStep_sound sound action meets.1 meets.2) meets
  exact (sound contents committed).recovers

/-- A file of one byte that says it is complete. -/
def oneByte (data : List UInt8) : Bool := data.length == 1

/-- The second rename fails and the recovery comes in time. -/
def recoveredInTime : List FileAction :=
  [.attempt (some [1]) (.returns none), .attempt (some [2]) (.returns (some .rename)), .recover none,
    .attempt (some [3]) (.returns (some .openTemp))]

theorem recoveredInTime_kept : ∃ data ∈ [[1], [2]],
    (atomicFileRecover (Runs.run (custodyStep oneByte) ⟨⟨none, none⟩, none⟩ recoveredInTime).file oneByte none).2.live =
      some data := by
  have prefixes (byte : UInt8) (written : Nat) :
      oneByte ([byte].take written) = true → some [byte] = some ([byte].take written) := by
    intro valid
    cases written with
    | zero => cases valid
    | succ written => simp
  refine replacement_runs_keep_content ⟨none, none⟩ recoveredInTime ?_ (by decide +kernel)
  exact ⟨⟨prefixes 1, fun _ => Or.inr ⟨by decide, fun written => ⟨nofun, nofun⟩⟩⟩, ⟨prefixes 2, nofun⟩,
    ⟨trivial, fun _ => nofun⟩, ⟨prefixes 3, nofun⟩, trivial⟩

/-- The second rename fails and the third attempt, which begins by removing the temp, cannot open it. -/
def retriedAtOnce : List FileAction :=
  [.attempt (some [1]) (.returns none), .attempt (some [2]) (.returns (some .rename)),
    .attempt (some [3]) (.returns (some .openTemp))]

/-- The first attempt returned true, and the path is missing. -/
theorem retriedAtOnce_lost :
    (Runs.run (custodyStep oneByte) ⟨⟨none, none⟩, none⟩ retriedAtOnce).candidates = some [[1], [2]] ∧
    (atomicFileRecover (Runs.run (custodyStep oneByte) ⟨⟨none, none⟩, none⟩ retriedAtOnce).file oneByte none).2.live =
      none := by
  decide +kernel

end Custody

end SigurdOS.Hal
