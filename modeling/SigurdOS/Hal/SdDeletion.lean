import SigurdOS.Hal.SdReplace

namespace SigurdOS.Hal.SdCard

/-- `fread` on the open file: what it gets before an error. -/
def Card.load (card : Card) (content : List UInt8) (maxLen : Nat) : List UInt8 × Card :=
  match card.next with
  | (.fails read, card) => ((content.take maxLen).take read, card)
  | (_, card) => (content.take maxLen, card)

def Card.openAppend (card : Card) : Bool × Card :=
  if card.next.1.succeeds then (true, card.next.2.withFile .live (some (card.next.2.live.getD [])))
  else (false, card.next.2)

def Card.extend (card : Card) (data : List UInt8) : Nat × Card :=
  match card.next with
  | (.fails written, card) =>
    (min written data.length, card.withFile .live (some (card.live.getD [] ++ data.take written)))
  | (_, card) => (data.length, card.withFile .live (some (card.live.getD [] ++ data)))

def Card.takeBus (card : Card) : Bool × Card := card.attempt

def sdcardExists (card : Card) : Bool × Card :=
  match card.takeBus with
  | (false, card) => (false, card)
  | (true, card) =>
    match recoverPending card with
    | (false, card) => (false, card)
    | (true, card) => card.exist .live

def sdcardRead (card : Card) (maxLen : Nat) : List UInt8 × Card :=
  if maxLen = 0 then ([], card)
  else
    match card.takeBus with
    | (false, card) => ([], card)
    | (true, card) =>
      match recoverPending card with
      | (false, card) => ([], card)
      | (true, card) =>
        match card.exist .live with
        | (false, card) => ([], card)
        | (true, card) =>
          let (data, card) := card.load (card.live.getD []) maxLen
          (data, card.attempt.2)

/-- `remove` takes a missing file for removed, but the file was seen by `stat` before. -/
def sdcardDeleteFile (card : Card) : Bool × Card :=
  match card.takeBus with
  | (false, card) => (false, card)
  | (true, card) =>
    match card.exist .live with
    | (false, card) => (false, card)
    | (true, card) => card.remove .live

def sdcardRemovePath (card : Card) : Bool × Card :=
  match card.takeBus with
  | (false, card) => (false, card)
  | (true, card) => card.remove .live

def sdcardWrite (card : Card) (data : List UInt8) : Bool × Card :=
  match card.takeBus with
  | (false, card) => (false, card)
  | (true, card) =>
    match card.attempt with
    | (false, card) => (false, card)
    | (true, card) => replaceFile card data

/-- The tail of an append with the file open: what was written is flushed and synced, and the file is closed. -/
def finishAppend (card : Card) (data : List UInt8) : Bool × Card :=
  let (written, card) := card.extend data
  let (flushed, card) := if written = data.length then card.attempt else (false, card)
  let (synced, card) := if flushed then card.attempt else (false, card)
  let (closed, card) := card.attempt
  (synced && closed, card)

def sdcardAppend (card : Card) (data : List UInt8) : Bool × Card :=
  if data.isEmpty then (true, card)
  else
    match card.takeBus with
    | (false, card) => (false, card)
    | (true, card) =>
      match card.attempt with
      | (false, card) => (false, card)
      | (true, card) =>
        match recoverPending card with
        | (false, card) => (false, card)
        | (true, card) =>
          match card.openAppend with
          | (false, card) => (false, card)
          | (true, card) => finishAppend card data

inductive FileRequest where
  | write (data : List UInt8)
  | append (data : List UInt8)
  | deleteFile
  | removePath
  | exists_
  | read (maxLen : Nat)
  deriving DecidableEq

/-- A request with the outcomes of its operations; a power cut makes the rest of a write fail. -/
structure FileCall where
  request : FileRequest
  script : List Outcome
  deriving DecidableEq

namespace FileCall

variable (call : FileCall) (card : Card)

def stores : Bool :=
  match call.request with
  | .write _ | .append _ => true
  | _ => false

def step : Card :=
  match call.request with
  | .write data => (sdcardWrite (card.under call.script) data).2
  | .append data => (sdcardAppend (card.under call.script) data).2
  | .deleteFile => (sdcardDeleteFile (card.under call.script)).2
  | .removePath => (sdcardRemovePath (card.under call.script)).2
  | .exists_ => (sdcardExists (card.under call.script)).2
  | .read maxLen => (sdcardRead (card.under call.script) maxLen).2

def deletes : Bool :=
  match call.request with
  | .deleteFile => (sdcardDeleteFile (card.under call.script)).1
  | .removePath => (sdcardRemovePath (card.under call.script)).1
  | _ => false

def finds : Bool :=
  match call.request with
  | .exists_ => (sdcardExists (card.under call.script)).1
  | .read maxLen => !(sdcardRead (card.under call.script) maxLen).1.isEmpty
  | _ => false

end FileCall

def cardAfter (card : Card) (calls : List FileCall) : Card :=
  Runs.run (fun card call => FileCall.step call card) card calls

/-- When the deletion returned true, nothing is found any more, whatever is called, until something is stored. -/
def DeletionFinal (card : Card) (deletion : FileCall) : Prop :=
  deletion.deletes card = true → ∀ later : List FileCall, (∀ call ∈ later, call.stores = false) →
    ∀ query : FileCall, query.finds (cardAfter (deletion.step card) later) = false

section Deletion

variable {card : Card}

def Vacant (card : Card) : Prop := card.live = none ∧ card.ready = none

theorem Vacant.apart {after : Card} (vacant : Vacant card) (apart : Apart card after) : Vacant after :=
  ⟨apart.1.trans vacant.1, apart.2.trans vacant.2⟩

theorem Vacant.recover (vacant : Vacant card) : Vacant (recoverPending card).2 := by
  have promoted := recoverPending_promoted card
  generalize recoverPending card = outcome at promoted
  obtain ⟨ok, after⟩ := outcome
  rcases promoted with apart | promoted
  · exact vacant.apart apart
  · cases promoted with
    | stuck _ apart => exact vacant.apart apart
    | cleared _ data ready _ _ => exact absurd (vacant.2.symm.trans ready) nofun
    | done _ _ data ready _ _ => exact absurd (vacant.2.symm.trans ready) nofun

theorem Card.attempt_apart (card : Card) : Apart card card.attempt.2 := ⟨rfl, rfl⟩

theorem Card.exist_vacant (vacant : Vacant card) : (card.exist .live).1 = false := by
  have gone : card.next.2.file .live = none := vacant.1
  simp [Card.exist, gone]

theorem Card.exist_apart (card : Card) (path : Path) : Apart card (card.exist path).2 := ⟨rfl, rfl⟩

theorem Card.remove_live (card : Card) :
    (card.remove .live).2.ready = card.ready ∧
      ((card.remove .live).2.live = card.live ∨ (card.remove .live).2.live = none) ∧
      ((card.remove .live).1 = true → (card.remove .live).2.live = none) := by
  unfold Card.remove
  split
  · exact ⟨rfl, Or.inr rfl, fun _ => rfl⟩
  · exact ⟨rfl, Or.inl rfl, nofun⟩

theorem Vacant.remove (vacant : Vacant card) : Vacant (card.remove .live).2 := by
  obtain ⟨ready, kept | gone, -⟩ := card.remove_live
  · exact ⟨kept.trans vacant.1, ready.trans vacant.2⟩
  · exact ⟨gone, ready.trans vacant.2⟩

theorem sdcardExists_vacant (vacant : Vacant card) :
    (sdcardExists card).1 = false ∧ Vacant (sdcardExists card).2 := by
  have taken := vacant.apart card.attempt_apart
  unfold sdcardExists Card.takeBus
  generalize card.attempt = outcome at taken
  obtain ⟨ok, card⟩ := outcome
  cases ok with
  | false => exact ⟨rfl, taken⟩
  | true =>
    have recovered := taken.recover
    dsimp only at recovered ⊢
    generalize recoverPending card = outcome at recovered
    obtain ⟨ok, card⟩ := outcome
    cases ok with
    | false => exact ⟨rfl, recovered⟩
    | true =>
      have seen := recovered.apart (card.exist_apart .live)
      exact ⟨Card.exist_vacant recovered, seen⟩

theorem sdcardRead_vacant (vacant : Vacant card) (maxLen : Nat) :
    (sdcardRead card maxLen).1 = [] ∧ Vacant (sdcardRead card maxLen).2 := by
  have taken := vacant.apart card.attempt_apart
  unfold sdcardRead Card.takeBus
  split
  · exact ⟨rfl, vacant⟩
  · generalize card.attempt = outcome at taken
    obtain ⟨ok, card⟩ := outcome
    cases ok with
    | false => exact ⟨rfl, taken⟩
    | true =>
      have recovered := taken.recover
      dsimp only at recovered ⊢
      generalize recoverPending card = outcome at recovered
      obtain ⟨ok, card⟩ := outcome
      cases ok with
      | false => exact ⟨rfl, recovered⟩
      | true =>
        dsimp only
        have absent := Card.exist_vacant recovered
        have apart := recovered.apart (card.exist_apart .live)
        generalize card.exist .live = outcome at absent apart
        obtain ⟨ok, card⟩ := outcome
        obtain rfl : ok = false := absent
        exact ⟨rfl, apart⟩

theorem sdcardDeleteFile_vacant (vacant : Vacant card) : Vacant (sdcardDeleteFile card).2 := by
  have taken := vacant.apart card.attempt_apart
  unfold sdcardDeleteFile Card.takeBus
  generalize card.attempt = outcome at taken
  obtain ⟨ok, card⟩ := outcome
  cases ok with
  | false => exact taken
  | true =>
    dsimp only
    have seen := taken.apart (card.exist_apart .live)
    generalize card.exist .live = outcome at seen
    obtain ⟨ok, card⟩ := outcome
    cases ok with
    | false => exact seen
    | true => exact seen.remove

theorem sdcardRemovePath_vacant (vacant : Vacant card) : Vacant (sdcardRemovePath card).2 := by
  have taken := vacant.apart card.attempt_apart
  unfold sdcardRemovePath Card.takeBus
  generalize card.attempt = outcome at taken
  obtain ⟨ok, card⟩ := outcome
  cases ok with
  | false => exact taken
  | true => exact taken.remove

theorem Vacant.under (vacant : Vacant card) (script : List Outcome) : Vacant (card.under script) := vacant

theorem finds_vacant (vacant : Vacant card) (call : FileCall) : call.finds card = false := by
  obtain ⟨request, script⟩ := call
  cases request with
  | exists_ => exact (sdcardExists_vacant (vacant.under script)).1
  | read maxLen =>
    have nothing := (sdcardRead_vacant (vacant.under script) maxLen).1
    simp [FileCall.finds, nothing]
  | write _ | append _ | deleteFile | removePath => rfl

theorem step_vacant (vacant : Vacant card) {call : FileCall} (quiet : call.stores = false) :
    Vacant (call.step card) := by
  obtain ⟨request, script⟩ := call
  cases request with
  | exists_ => exact (sdcardExists_vacant (vacant.under script)).2
  | read maxLen => exact (sdcardRead_vacant (vacant.under script) maxLen).2
  | deleteFile => exact sdcardDeleteFile_vacant (vacant.under script)
  | removePath => exact sdcardRemovePath_vacant (vacant.under script)
  | write _ | append _ => cases quiet

theorem deletes_live {deletion : FileCall} (deleted : deletion.deletes card = true) :
    (deletion.step card).live = none ∧ (deletion.step card).ready = card.ready := by
  obtain ⟨request, script⟩ := deletion
  have taken : Apart card (card.under script).attempt.2 := ⟨rfl, rfl⟩
  cases request with
  | deleteFile =>
    simp only [FileCall.deletes, FileCall.step, sdcardDeleteFile, Card.takeBus] at deleted ⊢
    generalize (card.under script).attempt = outcome at deleted taken
    obtain ⟨ok, middle⟩ := outcome
    cases ok with
    | false => cases deleted
    | true =>
      dsimp only at deleted taken ⊢
      have seen := taken.trans (middle.exist_apart .live)
      generalize middle.exist .live = outcome at deleted seen
      obtain ⟨ok, last⟩ := outcome
      cases ok with
      | false => cases deleted
      | true =>
        obtain ⟨ready, -, gone⟩ := last.remove_live
        exact ⟨gone deleted, ready.trans seen.2⟩
  | removePath =>
    simp only [FileCall.deletes, FileCall.step, sdcardRemovePath, Card.takeBus] at deleted ⊢
    generalize (card.under script).attempt = outcome at deleted taken
    obtain ⟨ok, middle⟩ := outcome
    cases ok with
    | false => cases deleted
    | true =>
      obtain ⟨ready, -, gone⟩ := middle.remove_live
      exact ⟨gone deleted, ready.trans taken.2⟩
  | write _ | append _ | exists_ | read _ => cases deleted

theorem sdcardExists_ready {data : List UInt8} (ready : card.ready = some data) :
    (sdcardExists (card.under [])).1 = true := by
  obtain ⟨live, temp, _, script⟩ := card
  obtain rfl := ready
  cases live <;> cases temp <;> rfl

theorem deletion_final_iff (start : Card) (earlier : List FileCall) (deletion : FileCall) :
    DeletionFinal (cardAfter start earlier) deletion ↔
      (deletion.deletes (cardAfter start earlier) = true → (cardAfter start earlier).ready = none) := by
  generalize cardAfter start earlier = card
  constructor
  · intro final deleted
    by_contra pending
    obtain ⟨data, ready⟩ := Option.ne_none_iff_exists'.mp pending
    have kept : (deletion.step card).ready = some data := (deletes_live deleted).2.trans ready
    have found := sdcardExists_ready kept
    have hidden := final deleted [] nofun ⟨.exists_, []⟩
    exact Bool.false_ne_true (hidden.symm.trans found)
  · intro condition deleted later quiet query
    have vacant : Vacant (deletion.step card) :=
      ⟨(deletes_live deleted).1, (deletes_live deleted).2.trans (condition deleted)⟩
    apply finds_vacant
    apply Runs.run_invariant_along Vacant vacant
    · intro card call vacant (quiet : call.stores = false)
      exact step_vacant vacant quiet
    · exact Runs.along_of_forall (fun _ => quiet) _

end Deletion

/-- The second write is cut off once its data is complete in the ready file. -/
def cutWrite : List FileCall :=
  [⟨.write [1], []⟩, ⟨.write [2], List.replicate 14 .works ++ [.fails 0]⟩]

/-- The file is deleted, and the next look brings the content of the cut write to its path. -/
theorem cutWrite_reappears : ¬ DeletionFinal (cardAfter ⟨none, none, none, []⟩ cutWrite) ⟨.deleteFile, []⟩ := by
  intro final
  have hidden := final (by decide) [] nofun ⟨.read 8, []⟩
  revert hidden
  decide

end SigurdOS.Hal.SdCard
