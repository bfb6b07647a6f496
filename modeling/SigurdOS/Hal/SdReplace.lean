import SigurdOS.Library.Runs

namespace SigurdOS.Hal.SdCard

/-- How the next operation goes. A failing one has no effect, but a failing write keeps its first
    bytes. `conflicts` is a rename on a file system that does not overwrite its destination. -/
inductive Outcome where
  | works
  | conflicts
  | fails (written : Nat)
  deriving DecidableEq

def Outcome.succeeds : Outcome → Bool
  | .fails _ => false
  | _ => true

inductive Path where
  | live
  | temp
  | ready
  deriving DecidableEq

inductive RenameResult where
  | success
  | destinationExists
  | failure
  deriving DecidableEq

/-- The files of one path. Every operation takes the next entry of the script; an empty script works. -/
structure Card where
  live : Option (List UInt8)
  temp : Option (List UInt8)
  ready : Option (List UInt8)
  script : List Outcome
  deriving DecidableEq

namespace Card

def file (card : Card) : Path → Option (List UInt8)
  | .live => card.live
  | .temp => card.temp
  | .ready => card.ready

def withFile (card : Card) (path : Path) (content : Option (List UInt8)) : Card :=
  match path with
  | .live => { card with live := content }
  | .temp => { card with temp := content }
  | .ready => { card with ready := content }

def next (card : Card) : Outcome × Card := (card.script.headD .works, { card with script := card.script.tail })

/-- An operation that tells only whether it succeeded: `sync`, `close`, and a checkpoint that the power survives. -/
def attempt (card : Card) : Bool × Card := (card.next.1.succeeds, card.next.2)

def exist (card : Card) (path : Path) : Bool × Card :=
  (card.next.1.succeeds && (card.next.2.file path).isSome, card.next.2)

def remove (card : Card) (path : Path) : Bool × Card :=
  if card.next.1.succeeds then (true, card.next.2.withFile path none) else (false, card.next.2)

def openTemp (card : Card) : Bool × Card :=
  if card.next.1.succeeds then (true, card.next.2.withFile .temp (some [])) else (false, card.next.2)

def write (card : Card) (data : List UInt8) : Nat × Card :=
  match card.next with
  | (.fails written, card) => (min written data.length, card.withFile .temp (some (data.take written)))
  | (_, card) => (data.length, card.withFile .temp (some data))

/-- The size of the open temp, when it can be told. -/
def size (card : Card) : Option Nat × Card :=
  (if card.next.1.succeeds then card.next.2.temp.map List.length else none, card.next.2)

def rename (card : Card) (source target : Path) : RenameResult × Card :=
  match card.next with
  | (.fails _, card) => (.failure, card)
  | (outcome, card) =>
    match card.file source with
    | none => (.failure, card)
    | some data =>
      if outcome = .conflicts ∧ (card.file target).isSome then (.destinationExists, card)
      else (.success, (card.withFile target (some data)).withFile source none)

end Card

def promoteValidated (card : Card) : Bool × Card :=
  match card.rename .ready .live with
  | (.success, card) => card.attempt
  | (.failure, card) => (false, card)
  | (.destinationExists, card) =>
    match card.remove .live with
    | (false, card) => (false, card)
    | (true, card) =>
      match card.attempt with
      | (false, card) => (false, card)
      | (true, card) =>
        match card.rename .ready .live with
        | (.success, card) => card.attempt
        | (_, card) => (false, card)

def removeLeftover (card : Card) : Bool × Card :=
  match card.exist .temp with
  | (false, card) => (true, card)
  | (true, card) => card.remove .temp

/-- Raw temps are removed; only a file that was renamed to `.ready` is promoted. -/
def recoverPending (card : Card) : Bool × Card :=
  match card.exist .ready with
  | (false, card) => removeLeftover card
  | (true, card) =>
    match promoteValidated card with
    | (false, card) => (false, card)
    | (true, card) => removeLeftover card

/-- The tail of `stageTemp` once the data is written: it is synced, its size is checked, and it is
    closed and renamed. -/
def finishTemp (card : Card) (length : Nat) : Bool × Card :=
  let (synced, card) := card.attempt
  match card.attempt with
  | (false, card) => (false, card)
  | (true, card) =>
    let (actual, card) := if synced then card.size else (none, card)
    let sized := decide (actual = some length)
    let (closed, card) := card.attempt
    match card.attempt with
    | (false, card) => (false, card)
    | (true, card) =>
      if !sized || !closed then (false, (card.remove .temp).2)
      else
        match card.rename .temp .ready with
        | (.success, card) => (true, card)
        | (_, card) => (false, card)

def stageTemp (card : Card) (data : List UInt8) : Bool × Card :=
  match card.openTemp with
  | (false, card) => (false, card)
  | (true, card) =>
    match card.attempt with
    | (false, card) => (false, card)
    | (true, card) =>
      let (written, card) := if data.isEmpty then (0, card) else card.write data
      match card.attempt with
      | (false, card) => (false, card)
      | (true, card) =>
        if written ≠ data.length then
          let (_, card) := card.attempt
          (false, (card.remove .temp).2)
        else finishTemp card data.length

def replaceFile (card : Card) (data : List UInt8) : Bool × Card :=
  match recoverPending card with
  | (false, card) => (false, card)
  | (true, card) =>
    match stageTemp card data with
    | (false, card) => (false, card)
    | (true, card) =>
      match card.attempt with
      | (false, card) => (false, card)
      | (true, card) => promoteValidated card

section Operations

variable {card : Card}

def Apart (card after : Card) : Prop := after.live = card.live ∧ after.ready = card.ready

theorem Apart.trans {card middle after : Card} (first : Apart card middle) (second : Apart middle after) :
    Apart card after :=
  ⟨second.1.trans first.1, second.2.trans first.2⟩

theorem Card.next_apart (card : Card) : Apart card card.next.2 := ⟨rfl, rfl⟩

theorem Card.removeTemp_apart (card : Card) : Apart card (card.remove .temp).2 := by
  unfold Card.remove
  split
  · exact ⟨rfl, rfl⟩
  · exact ⟨rfl, rfl⟩

inductive Renamed (card : Card) (source target : Path) : RenameResult → Card → Prop
  | failed (script : List Outcome) : Renamed card source target .failure { card with script := script }
  | refused (script : List Outcome) (data : List UInt8) (present : card.file source = some data)
      (taken : (card.file target).isSome = true) :
      Renamed card source target .destinationExists { card with script := script }
  | done (script : List Outcome) (data : List UInt8) (present : card.file source = some data) :
      Renamed card source target .success
        (({ card with script := script }.withFile target (some data)).withFile source none)

theorem Card.rename_renamed (card : Card) (source target : Path) :
    Renamed card source target (card.rename source target).1 (card.rename source target).2 := by
  have same (path : Path) : card.next.2.file path = card.file path := by cases path <;> rfl
  unfold Card.rename
  split
  · rename_i written after taken
    obtain rfl : after = card.next.2 := (congrArg Prod.snd taken).symm
    exact .failed _
  · rename_i outcome after other taken
    obtain rfl : after = card.next.2 := (congrArg Prod.snd taken).symm
    split
    · exact .failed _
    · rename_i data present
      rw [same] at present
      split
      · rename_i conflict
        rw [same] at conflict
        exact .refused _ data present conflict.2
      · exact .done _ data present

/-- What a promotion does: the ready file stays, with the live file or without it, or takes its place. -/
inductive Promoted (card : Card) : Bool → Card → Prop
  | stuck (after : Card) (apart : Apart card after) : Promoted card false after
  | cleared (after : Card) (data : List UInt8) (ready : card.ready = some data) (gone : after.live = none)
      (kept : after.ready = some data) : Promoted card false after
  | done (ok : Bool) (after : Card) (data : List UInt8) (ready : card.ready = some data)
      (promoted : after.live = some data) (taken : after.ready = none) : Promoted card ok after

theorem promoteValidated_promoted (card : Card) :
    Promoted card (promoteValidated card).1 (promoteValidated card).2 := by
  unfold promoteValidated
  have first := card.rename_renamed .ready .live
  generalize card.rename .ready .live = outcome at first
  obtain ⟨result, middle⟩ := outcome
  dsimp only at first
  cases first with
  | failed script => exact .stuck _ ⟨rfl, rfl⟩
  | done script data present => exact .done _ _ data present rfl rfl
  | refused script data present taken =>
    dsimp only
    have ready : card.ready = some data := present
    have gone : ({ card with script := script } : Card).remove .live =
        (false, { card with script := script.tail }) ∨
        ({ card with script := script } : Card).remove .live =
        (true, { card with live := none, script := script.tail }) := by
      unfold Card.remove
      split
      · exact Or.inr rfl
      · exact Or.inl rfl
    rcases gone with same | same
    · rw [same]
      exact .stuck _ ⟨rfl, rfl⟩
    · rw [same]
      dsimp only
      unfold Card.attempt
      dsimp only [Card.next]
      cases (script.tail.headD .works).succeeds with
      | false => exact .cleared _ data ready rfl ready
      | true =>
        dsimp only
        have second := ({ card with live := none, script := script.tail.tail } : Card).rename_renamed .ready .live
        generalize ({ card with live := none, script := script.tail.tail } : Card).rename .ready .live =
          outcome at second
        obtain ⟨result, last⟩ := outcome
        dsimp only at second
        cases second with
        | failed script => exact .cleared _ data ready rfl ready
        | refused script data present taken => cases taken
        | done script other present =>
          have same : card.ready = some other := present
          exact .done _ _ other same rfl rfl

theorem removeLeftover_apart (card : Card) : Apart card (removeLeftover card).2 := by
  unfold removeLeftover Card.exist
  cases card.next.1.succeeds && (card.next.2.file .temp).isSome with
  | false => exact ⟨rfl, rfl⟩
  | true => exact card.next_apart.trans (Card.removeTemp_apart _)

theorem recoverPending_promoted (card : Card) :
    Apart card (recoverPending card).2 ∨ Promoted card (recoverPending card).1 (recoverPending card).2 := by
  unfold recoverPending Card.exist
  cases card.next.1.succeeds && (card.next.2.file .ready).isSome with
  | false => exact Or.inl (card.next_apart.trans (removeLeftover_apart _))
  | true =>
    dsimp only
    have promoted := promoteValidated_promoted card.next.2
    generalize promoteValidated card.next.2 = outcome at promoted
    obtain ⟨ok, middle⟩ := outcome
    dsimp only at promoted
    cases promoted with
    | stuck _ apart => exact Or.inl apart
    | cleared _ data ready gone kept => exact Or.inr (.cleared _ data ready gone kept)
    | done _ _ data ready promoted taken =>
      cases ok with
      | false => exact Or.inr (.done _ _ data ready promoted taken)
      | true =>
        have apart := removeLeftover_apart middle
        exact Or.inr (.done _ _ data ready (apart.1.trans promoted) (apart.2.trans taken))

/-- What staging does: nothing to the live and the ready file, or the ready file is the complete data. -/
inductive Staged (card : Card) (data : List UInt8) : Bool → Card → Prop
  | failed (after : Card) (apart : Apart card after) : Staged card data false after
  | done (after : Card) (live : after.live = card.live) (ready : after.ready = some data) : Staged card data true after

theorem Staged.of_apart {card middle after : Card} {data : List UInt8} {ok : Bool} (same : Apart card middle)
    (staged : Staged middle data ok after) : Staged card data ok after := by
  cases staged with
  | failed _ apart => exact .failed _ (same.trans apart)
  | done _ live ready => exact .done _ (live.trans same.1) ready

theorem Card.attempt_eq (card : Card) : card.attempt =
    ((card.script.headD .works).succeeds, { card with script := card.script.tail }) := rfl

theorem renameTemp_staged (card : Card) {data : List UInt8} (whole : card.temp = some data) :
    Staged card data (match card.rename .temp .ready with
      | (.success, card) => (true, card)
      | (_, card) => (false, card)).1 (match card.rename .temp .ready with
      | (.success, card) => (true, card)
      | (_, card) => (false, card)).2 := by
  have renamed := card.rename_renamed .temp .ready
  generalize card.rename .temp .ready = outcome at renamed
  obtain ⟨result, after⟩ := outcome
  dsimp only at renamed
  cases renamed with
  | failed script => exact .failed _ ⟨rfl, rfl⟩
  | refused script other present taken => exact .failed _ ⟨rfl, rfl⟩
  | done script other present =>
    obtain rfl : data = other := Option.some.inj (whole.symm.trans present)
    exact .done _ rfl rfl

theorem finishTemp_staged (card : Card) {data : List UInt8} (whole : card.temp = some data) :
    Staged card data (finishTemp card data.length).1 (finishTemp card data.length).2 := by
  unfold finishTemp
  rw [Card.attempt_eq card]
  dsimp only
  rw [Card.attempt_eq]
  dsimp only
  cases (card.script.tail.headD .works).succeeds with
  | false => exact .failed _ ⟨rfl, rfl⟩
  | true =>
    dsimp only
    obtain ⟨actual, script, measured⟩ : ∃ actual script,
        (if (card.script.headD .works).succeeds = true then
          ({ card with script := card.script.tail.tail } : Card).size
        else (none, { card with script := card.script.tail.tail })) = (actual, { card with script := script }) := by
      split
      · exact ⟨_, _, rfl⟩
      · exact ⟨_, _, rfl⟩
    rw [measured, Card.attempt_eq]
    dsimp only
    rw [Card.attempt_eq]
    dsimp only
    cases (script.tail.headD .works).succeeds with
    | false => exact .failed _ ⟨rfl, rfl⟩
    | true =>
      dsimp only
      split
      · refine .failed _ (Apart.trans ?_ (Card.removeTemp_apart _))
        exact ⟨rfl, rfl⟩
      · have apart : Apart card { card with script := script.tail.tail } := ⟨rfl, rfl⟩
        exact (renameTemp_staged { card with script := script.tail.tail } whole).of_apart apart

theorem writtenTemp_staged (card : Card) (written : Nat) (data : List UInt8)
    (whole : written = data.length → card.temp = some data) :
    Staged card data (match card.attempt with
      | (false, card) => (false, card)
      | (true, card) =>
        if written ≠ data.length then (false, (card.attempt.2.remove .temp).2)
        else finishTemp card data.length).1 (match card.attempt with
      | (false, card) => (false, card)
      | (true, card) =>
        if written ≠ data.length then (false, (card.attempt.2.remove .temp).2)
        else finishTemp card data.length).2 := by
  rw [Card.attempt_eq]
  cases (card.script.headD .works).succeeds with
  | false => exact .failed _ ⟨rfl, rfl⟩
  | true =>
    dsimp only
    split
    · refine .failed _ (Apart.trans ?_ (Card.removeTemp_apart _))
      exact ⟨rfl, rfl⟩
    · rename_i complete
      have apart : Apart card { card with script := card.script.tail } := ⟨rfl, rfl⟩
      exact (finishTemp_staged { card with script := card.script.tail } (whole (not_not.mp complete))).of_apart apart

theorem Card.write_apart (card : Card) (data : List UInt8) : Apart card (card.write data).2 ∧
    ((card.write data).1 = data.length → (card.write data).2.temp = some data) := by
  unfold Card.write
  split
  · rename_i written after taken
    obtain rfl : after = card.next.2 := (congrArg Prod.snd taken).symm
    refine ⟨⟨rfl, rfl⟩, fun complete => ?_⟩
    have long : data.length ≤ written := by
      dsimp only at complete
      omega
    change some (data.take written) = some data
    rw [List.take_of_length_le long]
  · rename_i outcome after other taken
    obtain rfl : after = card.next.2 := (congrArg Prod.snd taken).symm
    exact ⟨⟨rfl, rfl⟩, fun _ => rfl⟩

theorem stageTemp_staged (card : Card) (data : List UInt8) :
    Staged card data (stageTemp card data).1 (stageTemp card data).2 := by
  unfold stageTemp Card.openTemp
  cases card.next.1.succeeds with
  | false => exact .failed _ ⟨rfl, rfl⟩
  | true =>
    rw [if_pos rfl]
    dsimp only
    rw [Card.attempt_eq]
    generalize opened : ({ card.next.2.withFile .temp (some []) with
      script := (card.next.2.withFile .temp (some [])).script.tail } : Card) = middle
    have apart : Apart card middle := by
      subst opened
      exact ⟨rfl, rfl⟩
    have empty : middle.temp = some [] := by
      subst opened
      rfl
    cases ((card.next.2.withFile .temp (some [])).script.headD .works).succeeds with
    | false => exact .failed _ apart
    | true =>
      dsimp only
      cases nothing : data.isEmpty with
      | true =>
        obtain rfl := List.isEmpty_iff.mp nothing
        exact (writtenTemp_staged middle 0 [] fun _ => empty).of_apart apart
      | false =>
        obtain ⟨untouched, whole⟩ := middle.write_apart data
        exact (writtenTemp_staged _ _ data whole).of_apart (apart.trans untouched)

end Operations

section Runs

/-- A call with the outcomes of its operations. -/
inductive Call where
  | replace (data : List UInt8) (script : List Outcome)
  | recover (script : List Outcome)
  deriving DecidableEq

def Card.under (card : Card) (script : List Outcome) : Card := { card with script := script }

def stages (card : Card) (data : List UInt8) : Bool :=
  (recoverPending card).1 && (stageTemp (recoverPending card).2 data).1

/-- The files with what a recovery may leave at the path: what was there at the start or the data of
    the last call that returned true, and of the later ones that came to `.ready`. -/
structure Custody where
  card : Card
  candidates : List (Option (List UInt8))
  deriving DecidableEq

def custodyStep (custody : Custody) : Call → Custody
  | .replace data script =>
    match replaceFile (custody.card.under script) data with
    | (true, card) => ⟨card, [some data]⟩
    | (false, card) => ⟨card, if stages (custody.card.under script) data then custody.candidates ++ [some data]
        else custody.candidates⟩
  | .recover script => ⟨(recoverPending (custody.card.under script)).2, custody.candidates⟩

/-- The ready file is a candidate, and so is the live file unless the ready one stands for it. -/
structure Kept (card : Card) (candidates : List (Option (List UInt8))) : Prop where
  ready : ∀ data, card.ready = some data → some data ∈ candidates
  live : card.live ∈ candidates ∨ (card.live = none ∧ card.ready.isSome = true)

variable {card after : Card} {candidates : List (Option (List UInt8))}

theorem Kept.apart (kept : Kept card candidates) (apart : Apart card after) : Kept after candidates := by
  refine ⟨fun data ready => kept.ready data (apart.2.symm.trans ready), ?_⟩
  rw [apart.1, apart.2]
  exact kept.live

theorem Kept.promoted {ok : Bool} (kept : Kept card candidates) (promoted : Promoted card ok after) :
    Kept after candidates := by
  cases promoted with
  | stuck _ apart => exact kept.apart apart
  | cleared _ data ready gone stays =>
    refine ⟨fun other present => ?_, Or.inr ⟨gone, by rw [stays]; rfl⟩⟩
    obtain rfl := Option.some.inj (stays.symm.trans present)
    exact kept.ready data ready
  | done _ _ data ready promoted taken =>
    refine ⟨fun other present => absurd (taken.symm.trans present) nofun, Or.inl ?_⟩
    rw [promoted]
    exact kept.ready data ready

theorem Kept.recover (kept : Kept card candidates) : Kept (recoverPending card).2 candidates := by
  rcases recoverPending_promoted card with apart | promoted
  · exact kept.apart apart
  · exact kept.promoted promoted

theorem Kept.mono {more : List (Option (List UInt8))} (kept : Kept card candidates) (grown : candidates ⊆ more) :
    Kept card more :=
  ⟨fun data ready => grown (kept.ready data ready), kept.live.imp_left fun present => grown present⟩

theorem Kept.staged {data : List UInt8} (kept : Kept card candidates) (live : after.live = card.live)
    (ready : after.ready = some data) : Kept after (candidates ++ [some data]) := by
  refine ⟨fun other present => ?_, ?_⟩
  · obtain rfl := Option.some.inj (ready.symm.trans present)
    exact List.mem_append_right _ (List.mem_singleton_self _)
  · rcases kept.live with present | ⟨gone, -⟩
    · exact Or.inl (List.mem_append_left _ (live ▸ present))
    · exact Or.inr ⟨live.trans gone, by rw [ready]; rfl⟩

theorem replaceFile_cases (card : Card) (data : List UInt8) (kept : Kept card candidates) :
    ((replaceFile card data).1 = true ∧ (replaceFile card data).2.live = some data ∧
      (replaceFile card data).2.ready = none) ∨
    ((replaceFile card data).1 = false ∧ Kept (replaceFile card data).2
      (if stages card data then candidates ++ [some data] else candidates)) := by
  have recovered := kept.recover
  unfold replaceFile stages
  generalize recoverPending card = outcome at recovered
  obtain ⟨ok, first⟩ := outcome
  cases ok with
  | false => exact Or.inr ⟨rfl, recovered⟩
  | true =>
    dsimp only at recovered ⊢
    have staged := stageTemp_staged first data
    generalize stageTemp first data = outcome at staged
    obtain ⟨done, second⟩ := outcome
    dsimp only at staged
    cases staged with
    | failed _ apart => exact Or.inr ⟨rfl, recovered.apart apart⟩
    | done _ live ready =>
      have held := recovered.staged live ready
      dsimp only
      rw [Card.attempt_eq]
      cases (second.script.headD .works).succeeds with
      | false => exact Or.inr ⟨rfl, held.apart ⟨rfl, rfl⟩⟩
      | true =>
        dsimp only
        have promoted := promoteValidated_promoted { second with script := second.script.tail }
        generalize promoteValidated { second with script := second.script.tail } = outcome at promoted
        obtain ⟨returned, last⟩ := outcome
        have scripted : Kept { second with script := second.script.tail } (candidates ++ [some data]) :=
          held.apart ⟨rfl, rfl⟩
        dsimp only at promoted
        cases promoted with
        | stuck _ apart => exact Or.inr ⟨rfl, scripted.apart apart⟩
        | cleared _ other present gone stays =>
          exact Or.inr ⟨rfl, scripted.promoted (.cleared _ other present gone stays)⟩
        | done _ _ other present promoted taken =>
          cases returned with
          | false => exact Or.inr ⟨rfl, scripted.promoted (.done false _ other present promoted taken)⟩
          | true =>
            obtain rfl : data = other := Option.some.inj (ready.symm.trans present)
            exact Or.inl ⟨rfl, promoted, taken⟩

theorem custodyStep_kept (custody : Custody) (call : Call) (kept : Kept custody.card custody.candidates) :
    Kept (custodyStep custody call).card (custodyStep custody call).candidates := by
  cases call with
  | recover script =>
    have scripted : Kept (custody.card.under script) custody.candidates := kept.apart ⟨rfl, rfl⟩
    exact scripted.recover
  | replace data script =>
    have scripted : Kept (custody.card.under script) custody.candidates := kept.apart ⟨rfl, rfl⟩
    have cases := replaceFile_cases (custody.card.under script) data scripted
    unfold custodyStep
    dsimp only
    generalize replaceFile (custody.card.under script) data = outcome at cases
    obtain ⟨ok, last⟩ := outcome
    rcases cases with ⟨rfl, live, ready⟩ | ⟨rfl, held⟩
    · refine ⟨fun other present => absurd (ready.symm.trans present) nofun, Or.inl ?_⟩
      rw [show (Custody.mk last [some data]).card.live = some data from live]
      exact List.mem_singleton_self _
    · exact held

def Faultless (card : Card) : Prop := ∀ outcome ∈ card.script, outcome.succeeds = true

theorem Faultless.next (faultless : Faultless card) : card.next.1.succeeds = true ∧ Faultless card.next.2 := by
  unfold Faultless Card.next at *
  cases script : card.script with
  | nil => exact ⟨rfl, nofun⟩
  | cons outcome rest =>
    rw [script] at faultless
    exact ⟨faultless outcome List.mem_cons_self, fun other member => faultless other (List.mem_cons_of_mem _ member)⟩

theorem Faultless.rename {data : List UInt8} (faultless : Faultless card) (ready : card.ready = some data) :
    (card.rename .ready .live = (.destinationExists, card.next.2) ∧ card.live.isSome = true) ∨
    card.rename .ready .live = (.success, { card.next.2 with live := some data, ready := none }) := by
  have works := faultless.next.1
  unfold Card.rename
  split
  · rename_i written after taken
    rw [taken] at works
    cases works
  · rename_i outcome after other taken
    obtain rfl : after = card.next.2 := (congrArg Prod.snd taken).symm
    rw [show card.next.2.file .ready = some data from ready]
    dsimp only
    split
    · rename_i conflict
      exact Or.inl ⟨rfl, conflict.2⟩
    · exact Or.inr rfl

theorem Faultless.attempt (faultless : Faultless card) : card.attempt = (true, card.next.2) := by
  rw [Card.attempt, faultless.next.1]

theorem promoteValidated_faultless {data : List UInt8} (faultless : Faultless card) (ready : card.ready = some data) :
    ∃ script, Faultless { card with live := some data, ready := none, script := script } ∧
      promoteValidated card = (true, { card with live := some data, ready := none, script := script }) := by
  unfold promoteValidated
  rcases faultless.rename ready with ⟨same, taken⟩ | same
  · rw [same]
    dsimp only
    have second : Faultless card.next.2 := faultless.next.2
    rw [Card.remove, second.next.1, if_pos rfl]
    dsimp only
    have third : Faultless (card.next.2.next.2.withFile .live none) := second.next.2
    rw [third.attempt]
    dsimp only
    have fourth : Faultless (card.next.2.next.2.withFile .live none).next.2 := third.next.2
    rcases fourth.rename ready with ⟨-, taken⟩ | same
    · cases taken
    · rw [same]
      dsimp only
      have last : Faultless { (card.next.2.next.2.withFile .live none).next.2.next.2 with
        live := some data, ready := none } := fourth.next.2
      rw [last.attempt]
      exact ⟨_, last.next.2, rfl⟩
  · rw [same]
    dsimp only
    have last : Faultless { card.next.2 with live := some data, ready := none } := faultless.next.2
    rw [last.attempt]
    exact ⟨_, last.next.2, rfl⟩

theorem removeLeftover_faultless (faultless : Faultless card) :
    (removeLeftover card).1 = true ∧ (removeLeftover card).2.live = card.live ∧
      (removeLeftover card).2.temp = none ∧ (removeLeftover card).2.ready = card.ready := by
  unfold removeLeftover Card.exist
  rw [faultless.next.1]
  cases left : card.temp with
  | none =>
    rw [show card.next.2.file .temp = none from left]
    exact ⟨rfl, rfl, left, rfl⟩
  | some data =>
    rw [show card.next.2.file .temp = some data from left]
    have second := faultless.next.2
    rw [Option.isSome_some, Bool.and_true]
    dsimp only
    rw [Card.remove, second.next.1, if_pos rfl]
    exact ⟨rfl, rfl, rfl, rfl⟩

theorem recoverPending_faultless (faultless : Faultless card) :
    (recoverPending card).1 = true ∧ (recoverPending card).2.live = card.ready.or card.live ∧
      (recoverPending card).2.temp = none ∧ (recoverPending card).2.ready = none := by
  unfold recoverPending Card.exist
  rw [faultless.next.1]
  have second := faultless.next.2
  cases pending : card.ready with
  | none =>
    rw [show card.next.2.file .ready = none from pending]
    obtain ⟨done, live, temp, ready⟩ := removeLeftover_faultless second
    exact ⟨done, live, temp, ready.trans pending⟩
  | some data =>
    rw [show card.next.2.file .ready = some data from pending]
    obtain ⟨script, third, same⟩ := promoteValidated_faultless second pending
    rw [Option.isSome_some, Bool.and_true]
    dsimp only
    rw [same]
    exact removeLeftover_faultless third

/-- Over a whole run of replacements and recoveries, with any operation failing and any power cut: a
    recovery without faults leaves at the path the data of the last call that returned true, or of a
    later one that came to `.ready`; at no time is anything else live or ready. -/
theorem sd_replacement_runs_keep_content (live : Option (List UInt8)) (calls : List Call) (script : List Outcome)
    (works : ∀ outcome ∈ script, outcome.succeeds = true) :
    let custody := Runs.run custodyStep ⟨⟨live, none, none, []⟩, [live]⟩ calls
    (recoverPending (custody.card.under script)).1 = true ∧
    (recoverPending (custody.card.under script)).2.live ∈ custody.candidates ∧
    (∀ data, custody.card.live = some data → some data ∈ custody.candidates) ∧
    ∀ data, custody.card.ready = some data → some data ∈ custody.candidates := by
  intro custody
  have start : Kept (Custody.mk ⟨live, none, none, []⟩ [live]).card [live] :=
    ⟨nofun, Or.inl (List.mem_singleton_self _)⟩
  have kept : Kept custody.card custody.candidates :=
    Runs.run_invariant (fun custody : Custody => Kept custody.card custody.candidates) start custodyStep_kept calls
  have faultless : Faultless (custody.card.under script) := works
  obtain ⟨done, left, -, -⟩ := recoverPending_faultless faultless
  refine ⟨done, ?_, fun data present => ?_, kept.ready⟩
  · rw [left]
    change custody.card.ready.or custody.card.live ∈ custody.candidates
    cases pending : custody.card.ready with
    | none =>
      rcases kept.live with present | ⟨-, ready⟩
      · exact present
      · rw [pending] at ready
        cases ready
    | some data => exact kept.ready data pending
  · rcases kept.live with member | ⟨gone, -⟩
    · rw [← present]
      exact member
    · exact absurd (gone.symm.trans present) nofun

/-- The power is lost after the live file has been removed for a file system that does not overwrite. -/
def cutPromotion : List Call :=
  [.replace [2] (List.replicate 13 .works ++ [.conflicts, .works, .fails 0])]

theorem cutPromotion_recovered :
    (recoverPending ((Runs.run custodyStep ⟨⟨some [1], none, none, []⟩, [some [1]]⟩ cutPromotion).card.under
      [.works, .conflicts])).2.live ∈
      (Runs.run custodyStep ⟨⟨some [1], none, none, []⟩, [some [1]]⟩ cutPromotion).candidates :=
  (sd_replacement_runs_keep_content (some [1]) cutPromotion [.works, .conflicts] (by decide)).2.1

end Runs

end SigurdOS.Hal.SdCard
