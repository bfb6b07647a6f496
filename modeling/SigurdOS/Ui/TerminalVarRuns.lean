import SigurdOS.Ui.TerminalVars

/-! Sequences of variable commands and power losses, against a finite map. -/

namespace SigurdOS.Ui.TerminalVars

open SigurdOS.Hal Runs

section Claims

inductive VarOp where
  | getvar (key : Key)
  | setvar (key : Key) (value : Value) (attempt : Attempt)
  | delvar (key : Key) (attempt : Attempt)
  | reboot

def undisturbed : Attempt := ⟨true, true, true, .returns none⟩

/-- The command as it is typed; a reboot runs no code on the file. -/
def perform (file : AtomicFile) : VarOp → Option (Reply × AtomicFile)
  | .getvar key => terminalCommand file undisturbed (bytes "getvar " ++ key.val)
  | .setvar key value attempt => terminalCommand file attempt (bytes "setvar " ++ (key.val ++ space :: value.val))
  | .delvar key attempt => terminalCommand file attempt (bytes "delvar " ++ key.val)
  | .reboot => none

def varStep (file : AtomicFile) (op : VarOp) : AtomicFile := ((perform file op).map Prod.snd).getD file

def noFile : AtomicFile := ⟨none, none⟩

def VarOp.update : VarOp → Option (Key × Option Value × Attempt)
  | .setvar key value attempt => some (key, some value, attempt)
  | .delvar key attempt => some (key, none, attempt)
  | _ => none

def Reply.ok : Reply → Bool
  | .stored _ _ | .deleted _ => true
  | _ => false

def effect (file : AtomicFile) (op : VarOp) : Option (Key × Option Value) :=
  match op.update with
  | none => none
  | some (key, value, attempt) =>
    if (perform file op).any (fun result => result.1.ok) ∨ (attempt.ending = .cut .renamed ∧
        (varOutput file attempt key.val (value.map Subtype.val)).isOk) then some (key, value)
    else none

def effects : AtomicFile → List VarOp → List (Key × Option Value)
  | _, [] => []
  | file, op :: rest => (effect file op).toList ++ effects (varStep file op) rest

def lastSet (updates : List (Key × Option Value)) (key : Key) : Option Value :=
  (updates.reverse.find? fun update => update.1 = key).bind Prod.snd

def answer (key : Key) : Option (List UInt8) → Reply
  | some value => .found key.val value
  | none => .missing key.val

/-- The variables as `getvar` shows them. -/
def stored (file : AtomicFile) (key : Key) : Option (List UInt8) :=
  match getvar file key.val with
  | .found _ value => some value
  | _ => none

/-- The text of the file is that of the entries, one for each key. -/
def Lists (file : AtomicFile) (entries : List Entry) : Prop :=
  file.live.getD [] = varsText entries ∧ (entries.map Entry.key).Nodup

/-- An update of a store that holds something opens it, and does not stop between the removal and the rename. -/
def Careful (file : AtomicFile) (op : VarOp) : Prop :=
  ∀ key value attempt, op.update = some (key, value, attempt) → file.live.getD [] ≠ [] →
    attempt.opens = true ∧ attempt.ending ≠ .returns (some .rename) ∧ attempt.ending ≠ .cut .removedLive

structure StepHolds (file : AtomicFile) (op : VarOp) : Prop where
  took : ∀ key value, effect file op = some (key, value) →
    stored (varStep file op) = Function.update (stored file) key (value.map Subtype.val)
  untouched : effect file op = none → stored (varStep file op) = stored file
  full : ∀ key value attempt after, op = .setvar key value attempt → perform file op = some (.full, after) →
    ∃ entries, Lists file entries ∧ terminalVarStoreMax < (varsText (updated entries key (some value))).length

structure VarsHold (ops : List VarOp) (file : AtomicFile) : Prop where
  read : ∀ key, perform file (.getvar key) =
    some (answer key ((lastSet (effects noFile ops) key).map Subtype.val), file)
  steps : ∀ op, Careful file op → StepHolds file op

end Claims

section Reading

variable {file : AtomicFile} {entries : List Entry} {key : Key}

theorem getvar_loop (file : AtomicFile) (key : Key) :
    getvar file key.val = answer key (getvarLoop key.val (file.live.getD []).length (file.live.getD [])) := by
  unfold getvar
  rw [if_neg (key_ne_nil key)]
  change (match getvarLoop key.val _ _ with | some value => Reply.found key.val value | none => .missing key.val) = _
  cases getvarLoop key.val (file.live.getD []).length (file.live.getD []) with
  | none => rfl
  | some value => rfl

theorem stored_loop (file : AtomicFile) (key : Key) :
    stored file key = getvarLoop key.val (file.live.getD []).length (file.live.getD []) := by
  unfold stored
  rw [getvar_loop]
  cases getvarLoop key.val (file.live.getD []).length (file.live.getD []) with
  | none => rfl
  | some value => rfl

theorem getvar_answer (file : AtomicFile) (key : Key) : getvar file key.val = answer key (stored file key) := by
  rw [getvar_loop, stored_loop]

theorem stored_congr {after : AtomicFile} (same : after.live.getD [] = file.live.getD []) :
    stored after = stored file := by
  funext key
  rw [stored_loop, stored_loop, same]

theorem Lists.stored (lists : Lists file entries) :
    stored file key = (entries.find? fun entry => entry.key = key).map fun entry => entry.value.val := by
  rw [stored_loop, lists.1, getvarLoop_text entries (Nat.le_refl _)]

theorem updated_find (entries : List Entry) (key other : Key) (value : Option Value) :
    ((updated entries key value).find? fun entry => entry.key = other).map (fun entry => entry.value.val) =
      if other = key then value.map Subtype.val
      else (entries.find? fun entry => entry.key = other).map fun entry => entry.value.val := by
  unfold updated
  rw [List.find?_append, List.find?_filter]
  split
  · rename_i same
    subst same
    have gone : entries.find?
        (fun entry => decide (decide (entry.key ≠ other) = true ∧ decide (entry.key = other) = true)) = none := by
      rw [List.find?_eq_none]
      intro entry _
      simp
    rw [gone, Option.none_or]
    cases value with
    | none => rfl
    | some value => simp
  · rename_i apart
    have kept :
        entries.find? (fun entry => decide (decide (entry.key ≠ key) = true ∧ decide (entry.key = other) = true)) =
        entries.find? fun entry => entry.key = other := by
      congr 1
      funext entry
      by_cases own : entry.key = other
      · simp [own, apart]
      · simp [own]
    rw [kept]
    cases value with
    | none => simp
    | some value => simp [Ne.symm apart]

theorem updated_nodup (unique : (entries.map Entry.key).Nodup) (key : Key) (value : Option Value) :
    ((updated entries key value).map Entry.key).Nodup := by
  have fewer : ((entries.filter fun entry => entry.key ≠ key).map Entry.key).Nodup :=
    unique.sublist (List.filter_sublist.map _)
  unfold updated
  cases value with
  | none => simpa using fewer
  | some value =>
    rw [List.map_append, List.nodup_append]
    refine ⟨fewer, by simp, ?_⟩
    intro one inside other last
    obtain ⟨entry, member, rfl⟩ := List.mem_map.mp inside
    obtain rfl : other = key := by simpa using last
    simpa using (List.mem_filter.mp member).2

end Reading

section Updating

variable {file : AtomicFile} {entries : List Entry} {key : Key} {value : Option Value} {attempt : Attempt}
  {output : List UInt8}

theorem varInput_text (lists : Lists file entries) (opened : file.live.getD [] ≠ [] → attempt.opens = true) :
    varInput file attempt = varsText entries := by
  rw [← lists.1, varInput]
  split
  · rfl
  · rename_i closed
    by_contra differs
    exact closed (opened (Ne.symm differs))

theorem varOutput_cases (key : Key) (value : Option Value) (lists : Lists file entries)
    (small : (varsText entries).length ≤ terminalVarStoreMax)
    (opened : file.live.getD [] ≠ [] → attempt.opens = true) :
    (varOutput file attempt key.val (value.map Subtype.val) = .ok (varsText (updated entries key value)) ∧
      (varsText (updated entries key value)).length ≤ terminalVarStoreMax) ∨
    ∃ status, varOutput file attempt key.val (value.map Subtype.val) = .error status ∧ status ≠ .ok ∧
      (status = .tooLarge → terminalVarStoreMax < (varsText (updated entries key value)).length) := by
  unfold varOutput
  simp only [varInput_text lists opened, terminalVarRewrite_text entries key value small]
  rw [if_neg (Nat.not_lt.mpr small)]
  split
  · exact Or.inr ⟨_, rfl, nofun, nofun⟩
  · split
    · exact Or.inr ⟨_, rfl, nofun, nofun⟩
    · by_cases fits : (varsText (updated entries key value)).length ≤ terminalVarStoreMax
      · rw [if_pos fits]
        by_cases absent : value.map Subtype.val = none ∧ (entries.any fun entry => entry.key = key) = false
        · exact Or.inr ⟨.notFound, if_pos absent, nofun, nofun⟩
        · exact Or.inl ⟨if_neg absent, fits⟩
      · rw [if_neg fits]
        exact Or.inr ⟨_, rfl, nofun, fun _ => Nat.lt_of_not_le fits⟩

theorem attempt_live (file : AtomicFile) (output : List UInt8) (ending : Ending) :
    ((Hal.attempt (fun data => data == output) file (some output) ending).1 = true ∨ ending = .cut .renamed) ∧
      (Hal.attempt (fun data => data == output) file (some output) ending).2.live = some output ∨
    ((Hal.attempt (fun data => data == output) file (some output) ending).1 = false ∧ ending ≠ .cut .renamed) ∧
      ((Hal.attempt (fun data => data == output) file (some output) ending).2.live = file.live ∨
        (ending = .returns (some .rename) ∨ ending = .cut .removedLive) ∧
          (Hal.attempt (fun data => data == output) file (some output) ending).2.live = none) := by
  cases ending with
  | returns fault =>
    cases fault with
    | none => simp [Hal.attempt, atomicFileReplace]
    | some fault => cases fault <;> simp [Hal.attempt, atomicFileReplace]
  | cut cut => cases cut <;> simp [Hal.attempt, atomicFileReplaceCut]

def Took (file : AtomicFile) (attempt : Attempt) (key : Key) (value : Option Value) : Prop :=
  (terminalVarUpdate file attempt key.val (value.map Subtype.val)).1 = .ok ∨
    (attempt.ending = .cut .renamed ∧ (varOutput file attempt key.val (value.map Subtype.val)).isOk)

instance : Decidable (Took file attempt key value) := inferInstanceAs (Decidable (_ ∨ _))

theorem update_tooLarge (lists : Lists file entries) (small : (varsText entries).length ≤ terminalVarStoreMax)
    (opened : file.live.getD [] ≠ [] → attempt.opens = true)
    (full : (terminalVarUpdate file attempt key.val (value.map Subtype.val)).1 = .tooLarge) :
    terminalVarStoreMax < (varsText (updated entries key value)).length := by
  unfold terminalVarUpdate at full
  rcases varOutput_cases key value lists small opened with ⟨built, _⟩ | ⟨status, failed, _, excess⟩
  · simp only [built] at full
    split at full <;> cases full
  · simp only [failed] at full
    exact excess full

theorem update_lists (key : Key) (value : Option Value) (lists : Lists file entries)
    (small : (varsText entries).length ≤ terminalVarStoreMax)
    (careful : file.live.getD [] ≠ [] → attempt.opens = true ∧ attempt.ending ≠ .returns (some .rename) ∧
      attempt.ending ≠ .cut .removedLive) :
    (Took file attempt key value ∧ (varsText (updated entries key value)).length ≤ terminalVarStoreMax ∧
      (terminalVarUpdate file attempt key.val (value.map Subtype.val)).2.live =
        some (varsText (updated entries key value))) ∨
    (¬Took file attempt key value ∧
      (terminalVarUpdate file attempt key.val (value.map Subtype.val)).2.live.getD [] = file.live.getD []) := by
  unfold Took terminalVarUpdate
  rcases varOutput_cases key value lists small fun present => (careful present).1 with
    ⟨built, fits⟩ | ⟨status, failed, other, _⟩
  · simp only [built]
    have outcome := attempt_live file (varsText (updated entries key value)) attempt.ending
    revert outcome
    generalize Hal.attempt _ file (some (varsText (updated entries key value))) attempt.ending = result
    obtain ⟨done, after⟩ := result
    rintro (⟨effective, written⟩ | ⟨⟨rfl, whole⟩, left⟩)
    · refine Or.inl ⟨?_, fits, ?_⟩
      · rcases effective with rfl | cut
        · exact Or.inl rfl
        · exact Or.inr ⟨cut, rfl⟩
      · cases done <;> exact written
    · refine Or.inr ⟨?_, ?_⟩
      · rintro (told | ⟨cut, _⟩)
        · cases told
        · exact whole cut
      · rcases left with same | ⟨stopped, gone⟩
        · exact congrArg (fun live => live.getD []) same
        · have empty : file.live.getD [] = [] := by
            by_contra present
            rcases stopped with rename | removed
            · exact (careful present).2.1 rename
            · exact (careful present).2.2 removed
          rw [empty]
          exact congrArg (fun live => live.getD []) gone
  · simp only [failed]
    refine Or.inr ⟨?_, trivial⟩
    rintro (told | ⟨_, built⟩)
    · exact other told
    · cases built

end Updating

section Commands

variable {file : AtomicFile} {op : VarOp} {key : Key} {value : Option Value} {attempt : Attempt}

theorem perform_getvar (file : AtomicFile) (key : Key) :
    perform file (.getvar key) = some (answer key (stored file key), file) := by
  rw [← getvar_answer]
  rfl

theorem perform_update (file : AtomicFile) (asked : op.update = some (key, value, attempt)) :
    ∃ reply, perform file op = some (reply, (terminalVarUpdate file attempt key.val (value.map Subtype.val)).2) ∧
      (reply.ok = true ↔ (terminalVarUpdate file attempt key.val (value.map Subtype.val)).1 = .ok) ∧
      (reply = .full → (terminalVarUpdate file attempt key.val (value.map Subtype.val)).1 = .tooLarge) := by
  cases op with
  | getvar _ => cases asked
  | reboot => cases asked
  | setvar key value attempt =>
    obtain ⟨rfl, rfl, rfl⟩ : _ ∧ _ ∧ _ := by simpa [VarOp.update] using asked
    have line : perform file (.setvar key value attempt) = some _ := congrArg some (setvar_line file attempt key value)
    rw [line, Option.map_some]
    generalize terminalVarUpdate file attempt key.val (some value.val) = result
    obtain ⟨status, after⟩ := result
    cases status with
    | tooLarge => exact ⟨_, rfl, by simp [Reply.ok], fun _ => rfl⟩
    | _ => exact ⟨_, rfl, by simp [Reply.ok], nofun⟩
  | delvar key attempt =>
    obtain ⟨rfl, rfl, rfl⟩ : _ ∧ _ ∧ _ := by simpa [VarOp.update] using asked
    have line : perform file (.delvar key attempt) = some _ := congrArg some (delvar_line file attempt key)
    rw [line, Option.map_none]
    generalize terminalVarUpdate file attempt key.val none = result
    obtain ⟨status, after⟩ := result
    cases status <;> exact ⟨_, rfl, by simp [Reply.ok], nofun⟩

end Commands

section Runs

variable {file : AtomicFile} {op : VarOp}

def Stores (file : AtomicFile) : Prop := ∃ entries, Lists file entries ∧ (varsText entries).length ≤ terminalVarStoreMax

theorem effect_update {key : Key} {value : Option Value} {attempt : Attempt}
    (asked : op.update = some (key, value, attempt)) :
    effect file op = if Took file attempt key value then some (key, value) else none := by
  obtain ⟨reply, result, told, _⟩ := perform_update file asked
  unfold effect
  rw [asked]
  simp only [result, Option.any_some, told]
  rfl

theorem varStep_update {key : Key} {value : Option Value} {attempt : Attempt}
    (asked : op.update = some (key, value, attempt)) :
    varStep file op = (terminalVarUpdate file attempt key.val (value.map Subtype.val)).2 := by
  obtain ⟨reply, result, _⟩ := perform_update file asked
  rw [varStep, result]
  rfl

theorem varStep_other (file : AtomicFile) (asked : op.update = none) :
    varStep file op = file ∧ effect file op = none := by
  cases op with
  | getvar key => exact ⟨by rw [varStep, perform_getvar]; rfl, rfl⟩
  | reboot => exact ⟨rfl, rfl⟩
  | setvar _ _ _ => cases asked
  | delvar _ _ => cases asked

theorem varStep_holds (stores : Stores file) (careful : Careful file op) :
    Stores (varStep file op) ∧ StepHolds file op := by
  cases asked : op.update with
  | none =>
    obtain ⟨same, unasked⟩ := varStep_other file asked
    rw [same]
    refine ⟨stores, ⟨?_, fun _ => by rw [same], ?_⟩⟩
    · intro key value took
      rw [unasked] at took
      cases took
    · rintro key value attempt after rfl
      cases asked
  | some update =>
    obtain ⟨key, value, attempt⟩ := update
    obtain ⟨entries, lists, small⟩ := stores
    obtain ⟨reply, result, told, excess⟩ := perform_update file asked
    have opened (present : file.live.getD [] ≠ []) := (careful key value attempt asked present).1
    have full : ∀ key' value' attempt' after, op = .setvar key' value' attempt' → perform file op =
        some (.full, after) →
        ∃ entries, Lists file entries ∧ terminalVarStoreMax <
        (varsText (updated entries key' (some value'))).length := by
      rintro key' value' attempt' after rfl replied
      rw [result] at replied
      obtain ⟨rfl, -⟩ := Prod.mk.inj (Option.some.inj replied)
      obtain ⟨rfl, rfl, rfl⟩ : key' = key ∧ some value' = value ∧ attempt' = attempt := by
        simpa [VarOp.update] using asked
      exact ⟨entries, lists, update_tooLarge lists small opened (excess rfl)⟩
    rcases update_lists key value lists small (careful key value attempt asked) with
      ⟨took, fits, written⟩ | ⟨missed, same⟩
    · have lists' : Lists (varStep file op) (updated entries key value) := by
        rw [varStep_update asked]
        exact ⟨congrArg (fun live => live.getD []) written, updated_nodup lists.2 key value⟩
      refine ⟨⟨_, lists', fits⟩, ⟨?_, ?_, full⟩⟩
      · intro key' value' effective
        rw [effect_update asked, if_pos took] at effective
        obtain ⟨rfl, rfl⟩ := Prod.mk.inj (Option.some.inj effective)
        funext other
        rw [lists'.stored, updated_find, Function.update_apply, lists.stored]
      · intro ineffective
        rw [effect_update asked, if_pos took] at ineffective
        cases ineffective
    · have same' : (varStep file op).live.getD [] = file.live.getD [] := by
        rw [varStep_update asked]
        exact same
      refine ⟨⟨entries, ⟨same'.trans lists.1, lists.2⟩, small⟩, ⟨?_, fun _ => stored_congr same', full⟩⟩
      intro key' value' effective
      rw [effect_update asked, if_neg missed] at effective
      cases effective

def applied (vars : Key → Option (List UInt8)) (updates : List (Key × Option Value)) : Key → Option (List UInt8) :=
  updates.foldl (fun vars update => Function.update vars update.1 (update.2.map Subtype.val)) vars

theorem applied_last (updates : List (Key × Option Value)) (key : Key) :
    applied (fun _ => none) updates key = (lastSet updates key).map Subtype.val := by
  induction updates using List.reverseRecOn with
  | nil => rfl
  | append_singleton before last ih =>
    unfold applied lastSet at ih ⊢
    rw [List.foldl_append, List.reverse_append, List.reverse_singleton, List.singleton_append, List.foldl_cons,
      List.foldl_nil, Function.update_apply, List.find?_cons]
    by_cases own : key = last.1
    · rw [if_pos own, decide_eq_true own.symm]
      rfl
    · rw [if_neg own, decide_eq_false (Ne.symm own)]
      exact ih

theorem stored_run (file : AtomicFile) (ops : List VarOp) (stores : Stores file)
    (careful : Along varStep Careful file ops) : Stores (run varStep file ops) ∧
      stored (run varStep file ops) = applied (stored file) (effects file ops) := by
  induction ops generalizing file with
  | nil => exact ⟨stores, rfl⟩
  | cons op rest ih =>
    obtain ⟨stores', took, untouched, _⟩ := varStep_holds stores careful.1
    obtain ⟨storesAfter, same⟩ := ih _ stores' careful.2
    refine ⟨storesAfter, ?_⟩
    rw [run_cons, same, effects, applied, applied, List.foldl_append]
    congr 1
    cases effective : effect file op with
    | none => exact untouched effective
    | some update => exact took update.1 update.2 effective

theorem noFile_stores : Stores noFile := ⟨[], ⟨rfl, List.nodup_nil⟩, Nat.zero_le _⟩

theorem vars_hold (ops : List VarOp) (careful : Along varStep Careful noFile ops) :
    VarsHold ops (run varStep noFile ops) := by
  obtain ⟨stores, same⟩ := stored_run noFile ops noFile_stores careful
  refine ⟨fun key => ?_, fun op careful => (varStep_holds stores careful).2⟩
  have nothing : stored noFile = fun _ => none := by
    funext other
    rw [stored_loop]
    rfl
  rw [perform_getvar, same, nothing, applied_last]

def keyA : Key := ⟨bytes "a", by decide⟩
def keyB : Key := ⟨bytes "b.c", by decide⟩
def valueOne : Value := ⟨bytes "1 = 2", by decide⟩

/-- The power is lost with the new text in the temp, once before and once after the rename. -/
theorem vars_hold_cut : VarsHold
    [.setvar keyA valueOne undisturbed, .setvar keyB valueOne { undisturbed with ending := .cut .validated }, .reboot,
      .delvar keyA { undisturbed with ending := .cut .renamed }]
    (run varStep noFile
      [.setvar keyA valueOne undisturbed, .setvar keyB valueOne { undisturbed with ending := .cut .validated }, .reboot,
        .delvar keyA { undisturbed with ending := .cut .renamed }]) := by
  apply vars_hold
  apply along_of_forall
  intro state op member key value attempt asked _
  simp only [List.mem_cons, List.not_mem_nil, or_false] at member
  rcases member with rfl | rfl | rfl | rfl
  · obtain ⟨_, _, rfl⟩ : _ ∧ _ ∧ undisturbed = attempt := by simpa [VarOp.update] using asked
    decide
  · obtain ⟨_, _, rfl⟩ : _ ∧ _ ∧ { undisturbed with ending := .cut .validated } = attempt := by
      simpa [VarOp.update] using asked
    decide
  · cases asked
  · obtain ⟨_, _, rfl⟩ : _ ∧ _ ∧ { undisturbed with ending := .cut .renamed } = attempt := by
      simpa [VarOp.update] using asked
    decide

def lostOps : List VarOp :=
  [.setvar keyA valueOne undisturbed, .setvar keyB valueOne { undisturbed with ending := .cut .removedLive }, .reboot]

/-- The cut leaves everything in the temp, which no reader looks at and the next update removes. -/
theorem vars_lost : perform (run varStep noFile lostOps) (.getvar keyA) =
      some (.missing keyA.val, run varStep noFile lostOps) ∧
    lastSet (effects noFile lostOps) keyA = some valueOne ∧
    run varStep noFile (lostOps ++ [.setvar keyB valueOne undisturbed]) = ⟨some (bytes "b.c=1 = 2\n"), none⟩ := by
  refine ⟨?_, ?_, ?_⟩ <;> decide +kernel

end Runs

end SigurdOS.Ui.TerminalVars
