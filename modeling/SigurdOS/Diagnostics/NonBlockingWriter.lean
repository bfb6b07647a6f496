import SigurdOS.Mesh.Base64

namespace SigurdOS.Diagnostics

open Mesh (ascii)

def recordCapacity : Nat := 384
def queueCapacity : Nat := 2048

/-- Where the drain stands while the lock is open: it asks the driver for room, or hands it what it has copied. -/
inductive DrainPhase where
  | idle
  | asking (budget : Nat)
  | writing (budget : Nat) (drainBuf : List UInt8)
  deriving DecidableEq

/-- The queue begins at its tail; `drain_active_` is a phase other than `idle`. -/
structure NonBlockingWriter where
  record : List UInt8
  queue : List UInt8
  droppedRecords : UInt32
  reportedDrops : UInt32
  recordOverflow : Bool
  phase : DrainPhase

def newline : UInt8 := ascii '\n'

def dropReport (dropped : UInt32) : List UInt8 :=
  ("@alert|desc=diagnostic_output_dropped|n=".toList ++ Nat.toDigits 10 dropped.toNat).map ascii ++ [newline]

namespace NonBlockingWriter

def init : NonBlockingWriter := ⟨[], [], 0, 0, false, .idle⟩

variable (writer : NonBlockingWriter)

def append (data : List UInt8) : NonBlockingWriter :=
  if data = [] ∨ writer.recordOverflow = true then writer
  else if data.length > recordCapacity - writer.record.length then { writer with recordOverflow := true }
  else { writer with record := writer.record ++ data }

def loses : Bool :=
  writer.recordOverflow || decide (writer.record.length > queueCapacity - writer.queue.length)

def commit : NonBlockingWriter :=
  if writer.loses then
    { writer with
      droppedRecords :=
        if writer.droppedRecords < 4294967295 then writer.droppedRecords + 1 else writer.droppedRecords
      record := []
      recordOverflow := false }
  else { writer with queue := writer.queue ++ writer.record, record := [], recordOverflow := false }

def lossDue : Bool :=
  writer.queue.isEmpty && writer.record.isEmpty && writer.droppedRecords != writer.reportedDrops

def reportLosses : NonBlockingWriter :=
  if writer.lossDue && decide ((dropReport writer.droppedRecords).length < 96) then
    let reported := (writer.append (dropReport writer.droppedRecords)).commit
    { reported with reportedDrops := reported.droppedRecords }
  else writer

/-- The head of the loop, which opens the lock, and what is behind the loop. -/
def turn (budget : Nat) : NonBlockingWriter :=
  if writer.queue ≠ [] ∧ budget > 0 then { writer with phase := .asking budget }
  else { writer.reportLosses with phase := .idle }

def drainLocked (byteBudget : Nat) : NonBlockingWriter :=
  match writer.phase with
  | .idle => writer.turn byteBudget
  | _ => writer

def available (room : Int) : NonBlockingWriter :=
  match writer.phase with
  | .asking budget =>
    let toWrite := min (min writer.queue.length budget) room.toNat
    if room ≤ 0 ∨ toWrite = 0 then { writer with phase := .idle }
    else { writer with phase := .writing budget (writer.queue.take (min toWrite 256)) }
  | _ => writer

/-- The driver has taken that many of the copied bytes. -/
def written (count : Nat) : NonBlockingWriter :=
  match writer.phase with
  | .writing budget drainBuf =>
    let consumed := min (min count drainBuf.length) writer.queue.length
    if consumed = 0 then { writer with phase := .idle }
    else { writer with queue := writer.queue.drop consumed }.turn (budget - consumed)
  | _ => writer

def print (value : List UInt8) : NonBlockingWriter := writer.append value

def write (value : UInt8) : NonBlockingWriter := writer.append [value]

def println (value : List UInt8) : NonBlockingWriter :=
  ((writer.append value).append [newline]).commit.drainLocked recordCapacity

/-- `formatted` is the text of `vsnprintf`, `none` its failure. -/
def printf (formatted : Option (List UInt8)) : NonBlockingWriter :=
  if writer.recordOverflow = true then writer
  else
    match formatted with
    | none => { writer with recordOverflow := true }
    | some text =>
      if text.length ≥ recordCapacity then { writer with recordOverflow := true }
      else if text.getLast? = some newline then (writer.append text).commit.drainLocked recordCapacity
      else writer.append text

end NonBlockingWriter

/-- A null text is an empty one; the numbers go through `printf`. -/
inductive WriterCall where
  | print (value : List UInt8)
  | write (value : UInt8)
  | println (value : List UInt8)
  | printf (formatted : Option (List UInt8))
  deriving DecidableEq

namespace WriterCall

def run (writer : NonBlockingWriter) : WriterCall → NonBlockingWriter
  | .print value => writer.print value
  | .write value => writer.write value
  | .println value => writer.println value
  | .printf formatted => writer.printf formatted

/-- The text that the call gives to the record of its task. -/
def text : WriterCall → List UInt8
  | .print value => value
  | .write value => [value]
  | .println value => value ++ [newline]
  | .printf formatted => formatted.getD []

def assembled (writer : NonBlockingWriter) : WriterCall → NonBlockingWriter
  | .println value => (writer.append value).append [newline]
  | call => writer.append call.text

def closes : WriterCall → Bool
  | .println _ => true
  | .printf (some text) => text.getLast? == some newline
  | _ => false

def idle (call : WriterCall) : Bool := call.text.isEmpty && decide (call ≠ .printf none)

end WriterCall

structure DiagnosticOutput where
  writer : NonBlockingWriter
  serial : List UInt8

/-- A call of a task, or what a drain does between two openings of the lock. -/
inductive DiagnosticStep (τ : Type) where
  | call (task : τ) (call : WriterCall)
  | drain (byteBudget : Nat)
  | flush
  | available (room : Int)
  | written (count : Nat)

def DiagnosticOutput.init : DiagnosticOutput := ⟨.init, []⟩

def DiagnosticOutput.step {τ : Type} (output : DiagnosticOutput) : DiagnosticStep τ → DiagnosticOutput
  | .call _ call => { output with writer := call.run output.writer }
  | .drain byteBudget => { output with writer := output.writer.drainLocked byteBudget }
  | .flush => { output with writer := output.writer.drainLocked queueCapacity }
  | .available room => { output with writer := output.writer.available room }
  | .written count =>
    match output.writer.phase with
    | .writing _ drainBuf => ⟨output.writer.written count, output.serial ++ drainBuf.take count⟩
    | _ => output

end SigurdOS.Diagnostics
