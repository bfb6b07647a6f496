import Mathlib.Data.List.Infix
import Mathlib.Logic.Function.Basic
import SigurdOS.Diagnostics.NonBlockingWriter
import SigurdOS.Library.Runs

namespace SigurdOS.Diagnostics

open Runs

variable {τ : Type}

section Statement

inductive Entry (τ : Type) where
  | record (task : τ) (text : List UInt8)
  | report (dropped : UInt32)

namespace Entry

def text : Entry τ → List UInt8
  | .record _ text => text
  | .report dropped => dropReport dropped

def closed : Entry τ → Option (τ × List UInt8)
  | .record task text => some (task, text)
  | .report _ => none

end Entry

/-- The output, what each task has given to the record it has open, and the records closed in order; no code keeps
    the last two. -/
structure Ledger (τ : Type) where
  output : DiagnosticOutput
  opened : τ → Option (List UInt8)
  closed : List (τ × List UInt8)

/-- The stream is made of whole records, in the order they were closed in, and of reports; each other record is
    counted. -/
def Accounted (stream : List UInt8) (dropped : Nat) (closed : List (τ × List UInt8)) : Prop :=
  ∃ kept : List (Entry τ), stream = (kept.map Entry.text).flatten ∧ (kept.filterMap Entry.closed).Sublist closed ∧
    dropped + (kept.filterMap Entry.closed).length = closed.length

namespace Ledger

def boot : Ledger τ := ⟨.init, fun _ => none, []⟩

variable (ledger : Ledger τ)

def Whole : Prop :=
  Accounted (ledger.output.serial ++ ledger.output.writer.queue) ledger.output.writer.droppedRecords.toNat ledger.closed

def textOf (task : τ) : List UInt8 := (ledger.opened task).getD []

def Alone (task : τ) : Prop := ∀ other, other ≠ task → ledger.opened other = none

structure Closes (writer : NonBlockingWriter) (call : WriterCall) : Prop where
  reached : ∀ text, call = .printf (some text) → writer.recordOverflow = false ∧ text.length < recordCapacity
  countable : (call.assembled writer).loses = true → writer.droppedRecords ≠ 4294967295

/-- The calls of a record are not interleaved with those of another task, its last call commits it, and no drain
    reports losses while a record that has overflowed is open. -/
def Orderly : DiagnosticStep τ → Prop
  | .call task call =>
    call.idle = false → ledger.Alone task ∧ (call.closes = true → Closes ledger.output.writer call)
  | .drain _ | .flush =>
    ledger.output.writer.phase = .idle → ledger.output.writer.lossDue = true →
      ledger.output.writer.recordOverflow = false
  | .available _ => True
  | .written count =>
    ∀ budget drainBuf, ledger.output.writer.phase = .writing budget drainBuf →
      { ledger.output.writer with
        queue := ledger.output.writer.queue.drop (min count drainBuf.length) }.lossDue = true →
      ledger.output.writer.recordOverflow = false

def call [DecidableEq τ] (ledger : Ledger τ) (task : τ) (call : WriterCall) : Ledger τ :=
  let output := ledger.output.step (.call task call)
  if call.closes then
    ⟨output, Function.update ledger.opened task none, ledger.closed ++ [(task, ledger.textOf task ++ call.text)]⟩
  else if call.idle then ⟨output, ledger.opened, ledger.closed⟩
  else ⟨output, Function.update ledger.opened task (some (ledger.textOf task ++ call.text)), ledger.closed⟩

def step [DecidableEq τ] (ledger : Ledger τ) : DiagnosticStep τ → Ledger τ
  | .call task call => ledger.call task call
  | step => { ledger with output := ledger.output.step step }

end Ledger

end Statement

section Accounts

variable {stream : List UInt8} {dropped : Nat} {closed : List (τ × List UInt8)}

theorem Accounted.keep (accounted : Accounted stream dropped closed) (task : τ) (text : List UInt8) :
    Accounted (stream ++ text) dropped (closed ++ [(task, text)]) := by
  obtain ⟨kept, rfl, order, count⟩ := accounted
  refine ⟨kept ++ [.record task text], ?_, ?_, ?_⟩
  · simp [Entry.text]
  · rw [List.filterMap_append]
    exact order.append (List.Sublist.refl [(task, text)])
  · simp only [List.filterMap_append, List.length_append, ← count]
    simp [Entry.closed, Nat.add_assoc]

theorem Accounted.lose (accounted : Accounted stream dropped closed) (record : τ × List UInt8) :
    Accounted stream (dropped + 1) (closed ++ [record]) := by
  obtain ⟨kept, rfl, order, count⟩ := accounted
  refine ⟨kept, rfl, order.trans (List.sublist_append_left closed [record]), ?_⟩
  rw [List.length_append, ← count, List.length_singleton]
  omega

theorem Accounted.report (accounted : Accounted stream dropped closed) (reported : UInt32) :
    Accounted (stream ++ dropReport reported) dropped closed := by
  obtain ⟨kept, rfl, order, count⟩ := accounted
  have same : (kept ++ [Entry.report reported]).filterMap Entry.closed = kept.filterMap Entry.closed := by
    rw [List.filterMap_append]
    exact List.append_nil _
  refine ⟨kept ++ [.report reported], ?_, same ▸ order, same ▸ count⟩
  simp [Entry.text]

end Accounts

section Writer

variable {writer : NonBlockingWriter} {data : List UInt8}

namespace NonBlockingWriter

theorem append_spec (writer : NonBlockingWriter) (data : List UInt8) :
    ∃ record overflow, writer.append data = { writer with record := record, recordOverflow := overflow } ∧
      (overflow = false → writer.recordOverflow = false ∧ record = writer.record ++ data) := by
  unfold append
  split_ifs with idle long
  · rcases idle with rfl | overflowed
    · exact ⟨_, _, rfl, fun whole => ⟨whole, (List.append_nil _).symm⟩⟩
    · exact ⟨_, _, rfl, fun whole => absurd overflowed (by simp [whole])⟩
  · exact ⟨_, _, rfl, nofun⟩
  · refine ⟨_, _, rfl, fun whole => ⟨whole, rfl⟩⟩

theorem commit_spec (writer : NonBlockingWriter) : writer.commit =
    { writer with
      droppedRecords := if writer.loses = true ∧ writer.droppedRecords < 4294967295 then writer.droppedRecords + 1
        else writer.droppedRecords
      queue := if writer.loses = true then writer.queue else writer.queue ++ writer.record
      record := []
      recordOverflow := false } := by
  unfold commit
  by_cases loses : writer.loses = true
  · simp [loses]
  · simp [loses]

theorem append_fresh (whole : writer.recordOverflow = false) (empty : writer.record = [])
    (short : data.length ≤ recordCapacity) : writer.append data = { writer with record := data } := by
  unfold append
  by_cases nothing : data = []
  · rw [if_pos (Or.inl nothing), nothing, ← empty]
  · rw [if_neg (by simp [nothing, whole]), if_neg (by simp [empty, short]), empty, List.nil_append]

theorem reportLosses_spec (clear : writer.lossDue = true → writer.recordOverflow = false) :
    writer.reportLosses = writer ∨ writer.reportLosses =
      { writer with
        queue := writer.queue ++ dropReport writer.droppedRecords
        reportedDrops := writer.droppedRecords } := by
  unfold reportLosses
  split_ifs with due
  · right
    simp only [Bool.and_eq_true, decide_eq_true_eq] at due
    have whole := clear due.1
    simp only [lossDue, Bool.and_eq_true, List.isEmpty_iff] at due
    obtain ⟨⟨⟨free, empty⟩, -⟩, short⟩ := due
    have fits : recordCapacity = 384 ∧ queueCapacity = 2048 := ⟨rfl, rfl⟩
    rw [append_fresh whole empty (by omega), commit_spec]
    have kept : ({ writer with record := dropReport writer.droppedRecords } : NonBlockingWriter).loses = false := by
      simp only [loses, whole, free, List.length_nil, Bool.false_or, decide_eq_false_iff_not]
      omega
    simp only [kept, Bool.false_eq_true, false_and, if_false]
    simp only [empty, whole]
  · left
    rfl

theorem turn_spec (budget : Nat) (clear : writer.lossDue = true → writer.recordOverflow = false) :
    ∃ reported drops phase, writer.turn budget =
      { writer with queue := writer.queue ++ reported, reportedDrops := drops, phase := phase } ∧
      (reported = [] ∨ reported = dropReport writer.droppedRecords) ∧ ∀ budget drainBuf,
      phase ≠ .writing budget drainBuf := by
  unfold turn
  split_ifs
  · exact ⟨[], writer.reportedDrops, .asking budget, by simp, Or.inl rfl, nofun⟩
  · rcases reportLosses_spec clear with same | reported
    · exact ⟨[], writer.reportedDrops, .idle, by simp [same], Or.inl rfl, nofun⟩
    · exact ⟨_, writer.droppedRecords, .idle, by rw [reported], Or.inr rfl, nofun⟩

end NonBlockingWriter

end Writer

section Steps

variable {writer : NonBlockingWriter} {serial : List UInt8} {opened : τ → Option (List UInt8)}
  {closed : List (τ × List UInt8)} {task : τ} {text data : List UInt8} {budget : Nat}

structure Kept (writer : NonBlockingWriter) (serial : List UInt8) (opened : τ → Option (List UInt8))
    (closed : List (τ × List UInt8)) : Prop where
  whole : Accounted (serial ++ writer.queue) writer.droppedRecords.toNat closed
  single : ∀ one other, opened one ≠ none → opened other ≠ none → one = other
  rest : (∀ task, opened task = none) → writer.record = [] ∧ writer.recordOverflow = false
  current : ∀ task text, opened task = some text → writer.recordOverflow = false → writer.record = text

structure Holds (writer : NonBlockingWriter) (serial : List UInt8) (opened : τ → Option (List UInt8))
    (closed : List (τ × List UInt8)) : Prop extends Kept writer serial opened closed where
  copied : ∀ budget drainBuf, writer.phase = .writing budget drainBuf → drainBuf <+: writer.queue

theorem Kept.turn (kept : Kept writer serial opened closed)
    (clear : writer.lossDue = true → writer.recordOverflow = false) :
    Holds (writer.turn budget) serial opened closed := by
  obtain ⟨reported, drops, phase, same, report, other⟩ := NonBlockingWriter.turn_spec budget clear
  rw [same]
  refine ⟨⟨?_, kept.single, kept.rest, kept.current⟩, fun budget drainBuf writes => absurd writes (other _ _)⟩
  rw [← List.append_assoc]
  rcases report with rfl | rfl
  · rw [List.append_nil]
    exact kept.whole
  · exact kept.whole.report _

namespace Holds

theorem drainLocked (holds : Holds writer serial opened closed)
    (clear : writer.phase = .idle → writer.lossDue = true → writer.recordOverflow = false) :
    Holds (writer.drainLocked budget) serial opened closed := by
  unfold NonBlockingWriter.drainLocked
  split
  · rename_i idle
    exact holds.turn (clear idle)
  · exact holds

theorem available (holds : Holds writer serial opened closed) (room : Int) :
    Holds (writer.available room) serial opened closed := by
  unfold NonBlockingWriter.available
  split
  · dsimp only
    split
    · exact ⟨⟨holds.whole, holds.single, holds.rest, holds.current⟩, nofun⟩
    · refine ⟨⟨holds.whole, holds.single, holds.rest, holds.current⟩, ?_⟩
      rintro _ _ ⟨⟩
      exact List.take_prefix _ _
  · exact holds

theorem written (holds : Holds writer serial opened closed) {drainBuf : List UInt8} {count : Nat}
    (writes : writer.phase = .writing budget drainBuf)
    (clear : { writer with queue := writer.queue.drop (min count drainBuf.length) }.lossDue = true →
      writer.recordOverflow = false) :
    Holds (writer.written count) (serial ++ drainBuf.take count) opened closed := by
  obtain ⟨left, split⟩ := holds.copied budget drainBuf writes
  have taken : min (min count drainBuf.length) writer.queue.length = min count drainBuf.length := by
    rw [← split, List.length_append]
    omega
  have rest : writer.queue.drop (min count drainBuf.length) = drainBuf.drop count ++ left := by
    rw [← split, List.drop_append_of_le_length (Nat.min_le_right _ _)]
    rcases Nat.le_total count drainBuf.length with short | long
    · rw [Nat.min_eq_left short]
    · rw [Nat.min_eq_right long, List.drop_length, List.drop_eq_nil_of_le long]
  have stream : serial ++ drainBuf.take count ++ writer.queue.drop (min count drainBuf.length) = serial ++
      writer.queue := by
    rw [rest, ← split, List.append_assoc, ← List.append_assoc (drainBuf.take count), List.take_append_drop]
  have kept : Kept { writer with queue := writer.queue.drop (min count drainBuf.length) }
      (serial ++ drainBuf.take count)
      opened closed := ⟨stream ▸ holds.whole, holds.single, holds.rest, holds.current⟩
  unfold NonBlockingWriter.written
  rw [writes]
  dsimp only
  rw [taken]
  split
  · rename_i none
    rw [none, List.drop_zero] at kept
    exact ⟨⟨kept.whole, kept.single, kept.rest, kept.current⟩, nofun⟩
  · exact writes ▸ kept.turn clear

variable [DecidableEq τ]

theorem update_alone {record : Option (List UInt8)} (alone : ∀ other, other ≠ task → opened other = none) (other : τ)
    (open_ : Function.update opened task record other ≠ none) : other = task := by
  by_contra apart
  rw [Function.update_of_ne apart] at open_
  exact open_ (alone other apart)

theorem append (holds : Holds writer serial opened closed) (alone : ∀ other, other ≠ task → opened other = none)
    (data : List UInt8) :
    Holds (writer.append data) serial (Function.update opened task (some ((opened task).getD [] ++ data))) closed := by
  obtain ⟨record, overflow, same, fits⟩ := NonBlockingWriter.append_spec writer data
  rw [same]
  refine ⟨⟨holds.whole, ?_, ?_, ?_⟩, holds.copied⟩
  · intro one other first second
    exact (update_alone alone one first).trans (update_alone alone other second).symm
  · intro none
    exact absurd (none task) (by simp)
  · intro other text given whole
    have open_ : Function.update opened task (some ((opened task).getD [] ++ data)) other ≠ none := by
      rw [given]
      exact Option.some_ne_none text
    obtain rfl : other = task := update_alone alone other open_
    obtain ⟨before, joined⟩ := fits whole
    rw [Function.update_self] at given
    have start : writer.record = (opened other).getD [] := by
      cases was : opened other with
      | none =>
        apply (holds.rest _).1
        intro task
        by_cases here : task = other
        · rw [here, was]
        · exact alone task here
      | some text => exact holds.current other text was before
    show record = text
    rw [joined, start]
    exact Option.some.inj given

theorem spoil (holds : Holds writer serial opened closed) (alone : ∀ other, other ≠ task → opened other = none)
    (text : List UInt8) :
    Holds { writer with recordOverflow := true } serial (Function.update opened task (some text)) closed := by
  refine ⟨⟨holds.whole, ?_, ?_, ?_⟩, holds.copied⟩
  · intro one other first second
    exact (update_alone alone one first).trans (update_alone alone other second).symm
  · intro none
    exact absurd (none task) (by simp)
  · exact fun _ _ _ whole => absurd whole (by simp)

theorem commit (holds : Holds writer serial opened closed) (given : opened task = some text)
    (countable : writer.loses = true → writer.droppedRecords ≠ 4294967295) :
    Holds writer.commit serial (Function.update opened task none) (closed ++ [(task, text)]) := by
  have closes (other : τ) : Function.update opened task none other = none := by
    by_cases here : other = task
    · rw [here, Function.update_self]
    · rw [Function.update_of_ne here]
      by_contra open_
      exact here (holds.single other task open_ (by simp [given]))
  rw [NonBlockingWriter.commit_spec]
  refine ⟨⟨?_, fun one other first => absurd (closes one) first, fun _ => ⟨rfl, rfl⟩,
    fun other text given => absurd given (by simp [closes])⟩, ?_⟩
  · by_cases loses : writer.loses = true
    · have most := countable loses
      have fewer : writer.droppedRecords < 4294967295 := by
        have bound := writer.droppedRecords.toNat_lt
        rw [ne_eq, ← UInt32.toNat_inj] at most
        rw [UInt32.lt_iff_toNat_lt]
        simp only [UInt32.reduceToNat] at most ⊢
        omega
      have counted : (writer.droppedRecords + 1).toNat = writer.droppedRecords.toNat + 1 := by
        rw [UInt32.lt_iff_toNat_lt] at fewer
        simp only [UInt32.reduceToNat] at fewer
        simp only [UInt32.toNat_add, UInt32.reduceToNat]
        omega
      simp only [loses, fewer, true_and, if_true, counted]
      exact holds.whole.lose _
    · have whole : writer.recordOverflow = false := by
        simp only [NonBlockingWriter.loses, Bool.or_eq_true, not_or, Bool.not_eq_true] at loses
        exact loses.1
      simp only [loses, false_and, if_false, Bool.false_eq_true]
      rw [← List.append_assoc, holds.current task text given whole]
      exact holds.whole.keep task text
  · intro budget drainBuf writes
    have copied := holds.copied budget drainBuf writes
    dsimp only
    split
    · exact copied
    · exact copied.trans (List.prefix_append _ _)

theorem closing (holds : Holds writer serial opened closed) (given : opened task = some text)
    (countable : writer.loses = true → writer.droppedRecords ≠ 4294967295) :
    Holds (writer.commit.drainLocked budget) serial (Function.update opened task none) (closed ++ [(task, text)]) := by
  apply (holds.commit given countable).drainLocked
  intro _ _
  rw [NonBlockingWriter.commit_spec]

theorem println (holds : Holds writer serial opened closed) (alone : ∀ other, other ≠ task → opened other = none)
    (value : List UInt8)
    (countable : ((writer.append value).append [newline]).loses = true → writer.droppedRecords ≠ 4294967295) :
    Holds (writer.println value) serial (Function.update opened task none)
      (closed ++ [(task, (opened task).getD [] ++ (value ++ [newline]))]) := by
  have second := (holds.append alone value).append
    (fun other apart => by rw [Function.update_of_ne apart, alone other apart]) [newline]
  rw [Function.update_idem, Function.update_self, Option.getD_some, List.append_assoc] at second
  have same : ((writer.append value).append [newline]).droppedRecords = writer.droppedRecords := by
    obtain ⟨record, overflow, first, -⟩ := NonBlockingWriter.append_spec writer value
    obtain ⟨other, spoiled, then_, -⟩ := NonBlockingWriter.append_spec (writer.append value) [newline]
    rw [then_, first]
  have final : Function.update opened task none =
      Function.update (Function.update opened task (some ((opened task).getD [] ++ (value ++ [newline])))) task none :=
    (Function.update_idem _ _ _).symm
  rw [final]
  exact second.closing (Function.update_self _ _ _) (same ▸ countable)

end Holds

theorem run_idle {call : WriterCall} (idle : call.idle = true) : call.run writer = writer := by
  simp only [WriterCall.idle, Bool.and_eq_true, List.isEmpty_iff, decide_eq_true_eq] at idle
  obtain ⟨nothing, given⟩ := idle
  cases call with
  | print value =>
    have empty : value = [] := nothing
    simp [WriterCall.run, NonBlockingWriter.print, NonBlockingWriter.append, empty]
  | write value => cases nothing
  | println value => exact absurd nothing (by simp [WriterCall.text])
  | printf formatted =>
    cases formatted with
    | none => exact absurd rfl given
    | some text =>
      have empty : text = [] := nothing
      simp [WriterCall.run, NonBlockingWriter.printf, NonBlockingWriter.append, empty, recordCapacity]

theorem run_piece {call : WriterCall} (goes_on : call.closes = false) :
    call.run writer = writer.append call.text ∨ call.run writer = { writer with recordOverflow := true } := by
  cases call with
  | print value => exact Or.inl rfl
  | write value => exact Or.inl rfl
  | println value => cases goes_on
  | printf formatted =>
    unfold WriterCall.run NonBlockingWriter.printf
    split_ifs with overflowed
    · right
      rw [← overflowed]
    · cases formatted with
      | none => exact Or.inr rfl
      | some text =>
        have open_ : text.getLast? ≠ some newline := by simpa [WriterCall.closes] using goes_on
        dsimp only
        split_ifs
        · exact Or.inr rfl
        · exact Or.inl rfl

theorem Holds.call {ledger : Ledger τ} {call : WriterCall} [DecidableEq τ]
    (holds : Holds ledger.output.writer ledger.output.serial ledger.opened ledger.closed)
    (orderly : ledger.Orderly (.call task call)) :
    Holds (call.run ledger.output.writer) ledger.output.serial (ledger.call task call).opened
      (ledger.call task call).closed := by
  unfold Ledger.call
  by_cases closes : call.closes = true
  · rw [if_pos closes]
    have busy : call.idle = false := by
      cases call with
      | print value => cases closes
      | write value => cases closes
      | println value => simp [WriterCall.idle, WriterCall.text]
      | printf formatted =>
        cases formatted with
        | none => cases closes
        | some text =>
          cases text with
          | nil => cases closes
          | cons first rest => rfl
    obtain ⟨alone, ends⟩ := orderly busy
    obtain ⟨reached, countable⟩ := ends closes
    cases call with
    | print value => cases closes
    | write value => cases closes
    | println value => exact holds.println alone value countable
    | printf formatted =>
      cases formatted with
      | none => cases closes
      | some text =>
        obtain ⟨whole, short⟩ := reached text rfl
        have ended : text.getLast? = some newline := by simpa [WriterCall.closes] using closes
        have run : (WriterCall.printf (some text)).run ledger.output.writer =
            (ledger.output.writer.append text).commit.drainLocked recordCapacity := by
          simp [WriterCall.run, NonBlockingWriter.printf, whole, Nat.not_le.mpr short, ended]
        have same : (ledger.output.writer.append text).droppedRecords = ledger.output.writer.droppedRecords := by
          obtain ⟨record, overflow, first, -⟩ := NonBlockingWriter.append_spec ledger.output.writer text
          rw [first]
        have final : Function.update ledger.opened task none =
            Function.update (Function.update ledger.opened task (some (ledger.textOf task ++ text))) task none :=
          (Function.update_idem _ _ _).symm
        rw [run, final]
        exact (holds.append alone text).closing (Function.update_self _ _ _) (same ▸ countable)
  · rw [if_neg closes]
    by_cases idle : call.idle = true
    · rw [if_pos idle, run_idle idle]
      exact holds
    · rw [if_neg idle]
      have alone := (orderly (Bool.eq_false_iff.mpr idle)).1
      rcases run_piece (Bool.eq_false_iff.mpr closes) with appended | spoiled
      · rw [appended]
        exact holds.append alone call.text
      · rw [spoiled]
        exact holds.spoil alone _

variable [DecidableEq τ]

def Ledger.Kept (ledger : Ledger τ) : Prop :=
  Holds ledger.output.writer ledger.output.serial ledger.opened ledger.closed

theorem Ledger.Kept.step {ledger : Ledger τ} {step : DiagnosticStep τ} (kept : ledger.Kept)
    (orderly : ledger.Orderly step) :
    (ledger.step step).Kept := by
  cases step with
  | call task call =>
    have output : (ledger.step (.call task call)).output = ledger.output.step (.call task call) := by
      simp only [Ledger.step, Ledger.call]
      split_ifs <;> rfl
    unfold Ledger.Kept
    rw [output]
    exact Holds.call kept orderly
  | drain byteBudget => exact Holds.drainLocked kept orderly
  | flush => exact Holds.drainLocked kept orderly
  | available room => exact Holds.available kept room
  | written count =>
    unfold Ledger.Kept Ledger.step DiagnosticOutput.step
    dsimp only
    split
    · rename_i budget drainBuf writes
      exact Holds.written kept writes (orderly budget drainBuf writes)
    · exact kept

/-- In an orderly run the driver gets whole records, and every other one is counted. -/
theorem records_whole {steps : List (DiagnosticStep τ)} (orderly : Along Ledger.step Ledger.Orderly .boot steps) :
    (run Ledger.step .boot steps).Whole := by
  have booted : (Ledger.boot : Ledger τ).Kept :=
    ⟨⟨⟨[], rfl, List.Sublist.refl _, rfl⟩, fun _ _ first => absurd rfl first, fun _ => ⟨rfl, rfl⟩, nofun⟩, nofun⟩
  exact (run_invariant_along Ledger.Kept booted (fun ledger step kept meets => kept.step meets) orderly).whole

end Steps

section Defects

/-- A record of one task in two pieces, with a drain between them, and one of another task in two pieces, between
    which the driver takes the most of the first. -/
def twoTasks : List (DiagnosticStep Bool) :=
  [.call false (.print [97]), .drain 16, .call false (.println [98]), .call true (.write 99), .drain 16,
    .available 10, .written 2, .call true (.printf (some [100, newline])), .available 10, .written 4]

theorem alone_of_two {ledger : Ledger Bool} (task : Bool) (none : ledger.opened (!task) = none) :
    ledger.Alone task := by
  intro other differs
  rwa [Bool.eq_not.mpr differs]

theorem twoTasks_whole : (run Ledger.step .boot twoTasks).Whole ∧
    (run Ledger.step .boot twoTasks).closed = [(false, [97, 98, newline]), (true, [99, 100, newline])] := by
  have orderly : Along Ledger.step Ledger.Orderly .boot twoTasks := by
    refine ⟨fun _ => ⟨alone_of_two false rfl, nofun⟩, fun _ _ => rfl,
      fun _ => ⟨alone_of_two false rfl, fun _ => ⟨nofun, fun _ => by decide⟩⟩,
      fun _ => ⟨alone_of_two true rfl, nofun⟩, fun _ _ => rfl, trivial, fun _ _ _ _ => rfl,
      fun _ => ⟨alone_of_two true rfl, fun _ => ⟨?_, fun _ => by decide⟩⟩, trivial, fun _ _ _ _ => rfl, trivial⟩
    intro text given
    cases given
    exact ⟨rfl, by decide⟩
  exact ⟨records_whole orderly, rfl⟩

theorem Accounted.none_kept {dropped : Nat} {closed : List (τ × List UInt8)} (accounted : Accounted [] dropped closed)
    (filled : ∀ record ∈ closed, record.2 ≠ []) : dropped = closed.length := by
  obtain ⟨kept, nothing, order, count⟩ := accounted
  have texts := List.flatten_eq_nil_iff.mp nothing.symm
  have none : kept.filterMap Entry.closed = [] := by
    rw [List.filterMap_eq_nil_iff]
    intro entry inside
    cases entry with
    | record task text =>
      have member : (task, text) ∈ closed := order.subset (List.mem_filterMap.mpr ⟨_, inside, rfl⟩)
      exact absurd (texts text (List.mem_map.mpr ⟨_, inside, rfl⟩)) (filled _ member)
    | report dropped => rfl
  rw [none] at count
  exact count

/-- A `printf` that is too long, with the newline that should close its record. -/
def longLine : List UInt8 := List.replicate 400 120 ++ [newline]

theorem longLine_uncounted : ¬ ∀ steps : List (DiagnosticStep Unit), (run Ledger.step .boot steps).Whole := by
  intro whole
  have lost := whole [.call () (.printf (some longLine))]
  have ends : longLine.getLast? = some newline := List.getLast?_concat
  have long : recordCapacity ≤ longLine.length := by
    rw [longLine, List.length_append, List.length_replicate]
    decide
  have filled : longLine ≠ [] := List.ne_nil_of_length_pos (Nat.lt_of_lt_of_le (by decide) long)
  have closes : (WriterCall.printf (some longLine)).closes = true := by simp [WriterCall.closes, ends]
  have stopped : (DiagnosticOutput.init.step (.call () (.printf (some longLine)))) =
      ⟨{ NonBlockingWriter.init with recordOverflow := true }, []⟩ := by
    simp [DiagnosticOutput.step, DiagnosticOutput.init, WriterCall.run, NonBlockingWriter.printf,
      NonBlockingWriter.init, long]
  simp only [run_cons, run_nil, Ledger.step, Ledger.call, closes, if_true, Ledger.boot, stopped, Ledger.Whole] at lost
  have missed : 0 = 1 := Accounted.none_kept lost fun record listed => by
    rw [List.mem_singleton.mp listed]
    exact filled
  cases missed

theorem pieces_merge : ¬ ∀ steps : List (DiagnosticStep Bool), (run Ledger.step .boot steps).Whole := by
  intro whole
  obtain ⟨kept, stream, order, -⟩ := whole [.call true (.print [97]), .call false (.println [98])]
  cases kept with
  | nil => cases stream
  | cons entry rest =>
    cases entry with
    | record task text =>
      have member : (task, text) ∈ [(false, [98, newline])] := order.subset List.mem_cons_self
      obtain ⟨rfl, rfl⟩ := Prod.mk.inj (List.mem_singleton.mp member)
      exact absurd (List.cons.inj stream).1 (by decide)
    | report dropped => exact absurd (List.cons.inj stream).1 (by decide)

end Defects

end SigurdOS.Diagnostics
