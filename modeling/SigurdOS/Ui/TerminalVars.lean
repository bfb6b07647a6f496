import Mathlib.Data.List.Flatten
import SigurdOS.Hal.AtomicRuns
import SigurdOS.Mesh.ChannelValidation

/-! The custom variables of the terminal: one `key=value` line each in a text file. -/

namespace SigurdOS.Ui.TerminalVars

open SigurdOS.Hal SigurdOS.Mesh

def bytes (text : String) : List UInt8 := text.toList.map ascii

def terminalVarStoreMax : Nat := 4096
def maxTermVarKeyLength : Nat := 31
def maxTermVarValueLength : Nat := 127
def resultSize : Nat := 256

def newline : UInt8 := ascii '\n'
def carriageReturn : UInt8 := ascii '\r'
def equals : UInt8 := ascii '='
def space : UInt8 := ascii ' '

section Rewrite

def stripReturn (line : List UInt8) : List UInt8 :=
  if line.getLast? = some carriageReturn then line.dropLast else line

def lineMatches (key text : List UInt8) : Bool :=
  text.length > key.length && text[key.length]? == some equals && text.take key.length == key

/-- The loop over the lines with the output so far; every turn consumes a byte, so the length of the input is fuel. -/
def rewriteLoop (key : List UInt8) (outputCapacity : Nat) :
    Nat → List UInt8 → List UInt8 → Bool → Option (List UInt8 × Bool)
  | 0, _, output, found => some (output, found)
  | fuel + 1, input, output, found =>
    if input = [] then some (output, found)
    else
      let line := stripReturn (input.takeWhile (· != newline))
      let rest := (input.dropWhile (· != newline)).drop 1
      if lineMatches key line then rewriteLoop key outputCapacity fuel rest output true
      else if line = [] then rewriteLoop key outputCapacity fuel rest output found
      else if output.length + line.length + 1 ≥ outputCapacity then none
      else rewriteLoop key outputCapacity fuel rest (output ++ line ++ [newline]) found

/-- The rewritten text and whether the key was found; `none` is the result `false`. -/
def terminalVarRewrite (input key : List UInt8) (value : Option (List UInt8)) (outputCapacity : Nat) :
    Option (List UInt8 × Bool) :=
  if key = [] ∨ outputCapacity = 0 then none
  else
    match rewriteLoop key outputCapacity input.length input [] false with
    | none => none
    | some (output, found) =>
      match value with
      | none => some (output, found)
      | some value =>
        if output.length + key.length + value.length + 2 ≥ outputCapacity then none
        else some (output ++ key ++ [equals] ++ value ++ [newline], found)

end Rewrite

section Update

/-- How an update gets on: whether an existing file opens and reads whole, the buffers are there, the file
    is replaced. -/
structure Attempt where
  opens : Bool
  allocates : Bool
  reads : Bool
  ending : Ending
  deriving DecidableEq

inductive TerminalVarUpdate where
  | ok | notFound | tooLarge | noMemory | ioError
  deriving DecidableEq

def varInput (file : AtomicFile) (attempt : Attempt) : List UInt8 := if attempt.opens then file.live.getD [] else []

def varOutput (file : AtomicFile) (attempt : Attempt) (key : List UInt8) (value : Option (List UInt8)) :
    Except TerminalVarUpdate (List UInt8) :=
  let input := varInput file attempt
  if input.length > terminalVarStoreMax then .error .tooLarge
  else if attempt.allocates = false then .error .noMemory
  else if input.length > 0 ∧ attempt.reads = false then .error .ioError
  else
    match terminalVarRewrite input key value (terminalVarStoreMax + 1) with
    | none => .error .tooLarge
    | some (output, found) => if value = none ∧ found = false then .error .notFound else .ok output

def terminalVarUpdate (file : AtomicFile) (attempt : Attempt) (key : List UInt8) (value : Option (List UInt8)) :
    TerminalVarUpdate × AtomicFile :=
  match varOutput file attempt key value with
  | .error status => (status, file)
  | .ok output =>
    match Hal.attempt (fun data => data == output) file (some output) attempt.ending with
    | (true, file) => (.ok, file)
    | (false, file) => (.ioError, file)

end Update

section Commands

def terminalVarKeyValid (key : List UInt8) : Bool :=
  key ≠ [] && key.length ≤ maxTermVarKeyLength && key.all fun c =>
    (c ≥ ascii 'a' && c ≤ ascii 'z') || (c ≥ ascii 'A' && c ≤ ascii 'Z') || (c ≥ ascii '0' && c ≤ ascii '9') ||
      c = ascii '_' || c = ascii '-' || c = ascii '.'

inductive Reply where
  | usageGet | usageSet | usageDelete | invalidKey | valueLength
  | found (key value : List UInt8)
  | missing (key : List UInt8)
  | stored (key value : List UInt8)
  | full | setMemory | setStorage
  | deleted (key : List UInt8)
  | deleteRefused | deleteMemory | deleteStorage
  deriving DecidableEq

/-- The text as `snprintf` leaves it in `result`. -/
def Reply.text (reply : Reply) : List UInt8 :=
  List.take (resultSize - 1) <|
    match reply with
    | .usageGet => bytes "Usage: getvar <key>"
    | .usageSet => bytes "Usage: setvar <key> <value>"
    | .usageDelete => bytes "Usage: delvar <key>"
    | .invalidKey => bytes "Invalid key (max 31; use letters, digits, _, -, .)"
    | .valueLength => bytes "Value must be 1-127 characters"
    | .found key value => key ++ bytes " = " ++ value
    | .missing key => bytes "Key '" ++ key ++ bytes "' not found"
    | .stored key value => bytes "Set: " ++ key ++ bytes " = " ++ value
    | .full => bytes "Variable store full (max 4096 bytes)"
    | .setMemory => bytes "Set failed: not enough memory"
    | .setStorage => bytes "Set failed: storage write error"
    | .deleted key => bytes "Deleted: " ++ key
    | .deleteRefused => bytes "Delete refused: variable store exceeds 4096 bytes"
    | .deleteMemory => bytes "Delete failed: not enough memory"
    | .deleteStorage => bytes "Delete failed: storage write error"

def getvarLoop (key : List UInt8) : Nat → List UInt8 → Option (List UInt8)
  | 0, _ => none
  | fuel + 1, available =>
    if available = [] then none
    else
      let line := trimmed (available.takeWhile (· != newline))
      let rest := (available.dropWhile (· != newline)).drop 1
      if key.isPrefixOf line && line.getD key.length 0 == equals then some (line.drop (key.length + 1))
      else getvarLoop key fuel rest

def getvar (file : AtomicFile) (key : List UInt8) : Reply :=
  if key = [] then .usageGet
  else
    let text := file.live.getD []
    match getvarLoop key text.length text with
    | some value => .found key value
    | none => .missing key

def setvar (file : AtomicFile) (attempt : Attempt) (arg : List UInt8) : Reply × AtomicFile :=
  let key := arg.takeWhile (· != space)
  if arg.contains space = false ∨ key = [] then (.usageSet, file)
  else
    let value := arg.drop (key.length + 1)
    if terminalVarKeyValid key = false then (.invalidKey, file)
    else if value.length = 0 ∨ value.length > maxTermVarValueLength then (.valueLength, file)
    else
      match terminalVarUpdate file attempt key (some value) with
      | (.ok, file) => (.stored key value, file)
      | (.tooLarge, file) => (.full, file)
      | (.noMemory, file) => (.setMemory, file)
      | (_, file) => (.setStorage, file)

def delvar (file : AtomicFile) (attempt : Attempt) (key : List UInt8) : Reply × AtomicFile :=
  if key = [] then (.usageDelete, file)
  else if terminalVarKeyValid key = false then (.invalidKey, file)
  else
    match terminalVarUpdate file attempt key none with
    | (.ok, file) => (.deleted key, file)
    | (.notFound, file) => (.missing key, file)
    | (.tooLarge, file) => (.deleteRefused, file)
    | (.noMemory, file) => (.deleteMemory, file)
    | (.ioError, file) => (.deleteStorage, file)

def terminalCommand (file : AtomicFile) (attempt : Attempt) (cmd : List UInt8) : Option (Reply × AtomicFile) :=
  if (bytes "getvar ").isPrefixOf cmd then some (getvar file (cmd.drop 7), file)
  else if (bytes "setvar ").isPrefixOf cmd then some (setvar file attempt (cmd.drop 7))
  else if (bytes "delvar ").isPrefixOf cmd then some (delvar file attempt (cmd.drop 7))
  else none

end Commands

section Entries

abbrev Key := { key : List UInt8 // terminalVarKeyValid key = true }

def ValueValid (value : List UInt8) : Prop :=
  value ≠ [] ∧ value.length ≤ 127 ∧ (∀ byte ∈ value, 32 ≤ byte ∧ byte ≠ 127) ∧ value.getLast? ≠ some space

instance (value : List UInt8) : Decidable (ValueValid value) := inferInstanceAs (Decidable (_ ∧ _))

abbrev Value := { value : List UInt8 // ValueValid value }

structure Entry where
  key : Key
  value : Value

def Entry.line (entry : Entry) : List UInt8 := entry.key.val ++ equals :: entry.value.val

def varsText (entries : List Entry) : List UInt8 := entries.flatMap fun entry => entry.line ++ [newline]

def updated (entries : List Entry) (key : Key) (value : Option Value) : List Entry :=
  entries.filter (fun entry => entry.key ≠ key) ++ (value.map fun value => ⟨key, value⟩).toList

theorem key_char {key : Key} {c : UInt8} (member : c ∈ key.val) :
    c ≠ equals ∧ c ≠ newline ∧ c ≠ space ∧ isSpace c = false := by
  have every : ∀ i : Fin 256,
      ((UInt8.ofFin i ≥ ascii 'a' && UInt8.ofFin i ≤ ascii 'z') ||
        (UInt8.ofFin i ≥ ascii 'A' && UInt8.ofFin i ≤ ascii 'Z') ||
        (UInt8.ofFin i ≥ ascii '0' && UInt8.ofFin i ≤ ascii '9') || UInt8.ofFin i = ascii '_' ||
          UInt8.ofFin i = ascii '-' || UInt8.ofFin i = ascii '.') = true →
        UInt8.ofFin i ≠ equals ∧ UInt8.ofFin i ≠ newline ∧ UInt8.ofFin i ≠ space ∧ isSpace (UInt8.ofFin i) = false := by
    decide +kernel
  have valid := key.property
  simp only [terminalVarKeyValid, Bool.and_eq_true, List.all_eq_true] at valid
  exact every c.toFin (valid.2 c member)

theorem key_ne_nil (key : Key) : key.val ≠ [] := by
  have valid := key.property
  simp only [terminalVarKeyValid, Bool.and_eq_true, decide_eq_true_eq] at valid
  exact valid.1.1

theorem printable_char {c : UInt8} (printable : 32 ≤ c ∧ c ≠ 127) :
    c ≠ newline ∧ c ≠ carriageReturn ∧ (isSpace c = true → c = space) := by
  have every : ∀ i : Fin 256, 32 ≤ UInt8.ofFin i ∧ UInt8.ofFin i ≠ 127 →
      UInt8.ofFin i ≠ newline ∧ UInt8.ofFin i ≠ carriageReturn ∧
        (isSpace (UInt8.ofFin i) = true → UInt8.ofFin i = space) := by
    decide +kernel
  exact every c.toFin printable

variable {entry : Entry} {entries : List Entry} {key : Key}

theorem line_plain : ∀ c ∈ entry.line, (c != newline) = true := by
  intro c member
  apply bne_iff_ne.mpr
  rcases List.mem_append.mp member with inKey | inValue
  · exact (key_char inKey).2.1
  · rcases List.mem_cons.mp inValue with rfl | inValue
    · decide
    · exact (printable_char (entry.value.property.2.2.1 c inValue)).1

theorem line_last (entry : Entry) :
    ∃ last, entry.line.getLast? = some last ∧ last ≠ carriageReturn ∧ isSpace last = false := by
  obtain ⟨present, _, printable, ending⟩ := entry.value.property
  have member := List.getLast_mem present
  obtain ⟨_, other, blank⟩ := printable_char (printable _ member)
  refine ⟨entry.value.val.getLast present, ?_, other, ?_⟩
  · rw [Entry.line, List.getLast?_append_of_ne_nil _ (List.cons_ne_nil _ _), List.getLast?_cons,
      List.getLast?_eq_some_getLast present, Option.getD_some]
  · rw [← Bool.not_eq_true]
    intro trailing
    rw [List.getLast?_eq_some_getLast present, blank trailing] at ending
    exact ending rfl

theorem line_ne_nil : entry.line ≠ [] := by
  intro empty
  exact key_ne_nil entry.key (List.append_eq_nil_iff.mp empty).1

theorem line_stripped : stripReturn entry.line = entry.line := by
  obtain ⟨last, ending, other, _⟩ := line_last entry
  rw [stripReturn, ending, if_neg fun same => other (Option.some.inj same)]

theorem line_trimmed : trimmed entry.line = entry.line := by
  obtain ⟨last, ending, _, trailing⟩ := line_last entry
  cases chars : entry.key.val with
  | nil => exact absurd chars (key_ne_nil entry.key)
  | cons first rest =>
    have head : entry.line.head? = some first := by rw [Entry.line, chars]; rfl
    exact trimmed_of_ends head ending (key_char (chars ▸ List.mem_cons_self)).2.2.2 trailing

theorem takeWhile_line (rest : List UInt8) :
    (entry.line ++ [newline] ++ rest).takeWhile (· != newline) = entry.line := by
  rw [List.append_assoc, List.takeWhile_append_of_pos line_plain, List.singleton_append, List.takeWhile_cons]
  simp

theorem dropWhile_line (rest : List UInt8) :
    ((entry.line ++ [newline] ++ rest).dropWhile (· != newline)).drop 1 = rest := by
  rw [List.append_assoc, List.dropWhile_append_of_pos line_plain, List.singleton_append, List.dropWhile_cons]
  simp

theorem line_key : (entry.line[key.val.length]? = some equals ∧ entry.line.take key.val.length = key.val) ↔
    entry.key = key := by
  constructor
  · rintro ⟨mark, start⟩
    rcases lt_trichotomy key.val.length entry.key.val.length with shorter | same | longer
    · rw [Entry.line, List.getElem?_append_left shorter] at mark
      exact absurd rfl (key_char (List.mem_of_getElem? mark)).1
    · rw [same, Entry.line, List.take_left] at start
      exact Subtype.ext start
    · have inside : key.val[entry.key.val.length]? = some equals := by
        rw [← start, List.getElem?_take_of_lt longer, Entry.line, List.getElem?_append_right (Nat.le_refl _)]
        simp
      exact absurd rfl (key_char (List.mem_of_getElem? inside)).1
  · rintro rfl
    rw [Entry.line, List.getElem?_append_right (Nat.le_refl _), List.take_left]
    simp

theorem lineMatches_iff : lineMatches key.val entry.line = true ↔ entry.key = key := by
  rw [← line_key, lineMatches]
  simp only [Bool.and_eq_true, beq_iff_eq, decide_eq_true_eq]
  constructor
  · rintro ⟨⟨_, mark⟩, start⟩
    exact ⟨mark, start⟩
  · rintro ⟨mark, start⟩
    exact ⟨⟨(List.getElem?_eq_some_iff.mp mark).1, mark⟩, start⟩

theorem startsWith_iff :
    (key.val.isPrefixOf entry.line && entry.line.getD key.val.length 0 == equals) = true ↔ entry.key = key := by
  rw [← line_key, Bool.and_eq_true, List.isPrefixOf_iff_prefix, List.prefix_iff_eq_take, beq_iff_eq,
    List.getD_eq_getElem?_getD]
  constructor
  · rintro ⟨start, mark⟩
    cases at' : entry.line[key.val.length]? with
    | none =>
      rw [at'] at mark
      exact absurd mark (by decide)
    | some c =>
      rw [at'] at mark
      exact ⟨congrArg some mark, start.symm⟩
  · rintro ⟨mark, start⟩
    exact ⟨start.symm, by rw [mark]; rfl⟩

end Entries

section Loops

variable {entries : List Entry} {key : Key}

theorem varsText_cons (entry : Entry) (rest : List Entry) :
    varsText (entry :: rest) = entry.line ++ [newline] ++ varsText rest := rfl

theorem varsText_eq_nil : varsText entries = [] ↔ entries = [] := by
  cases entries with
  | nil => exact iff_of_true rfl rfl
  | cons entry rest =>
    refine iff_of_false (fun empty => ?_) (List.cons_ne_nil _ _)
    rw [varsText_cons, List.append_assoc] at empty
    exact line_ne_nil (List.append_eq_nil_iff.mp empty).1

theorem line_turn {entry : Entry} {rest : List Entry} {fuel : Nat} (enough : (varsText (entry :: rest)).length ≤ fuel) :
    ∃ more, fuel = more + 1 ∧ (varsText rest).length ≤ more ∧ varsText (entry :: rest) ≠ [] := by
  have whole := congrArg List.length (varsText_cons entry rest)
  simp only [List.length_append, List.length_singleton] at whole
  refine ⟨fuel - 1, by omega, by omega, ?_⟩
  intro empty
  rw [varsText_eq_nil] at empty
  cases empty

theorem getvarLoop_text (entries : List Entry) {fuel : Nat} (enough : (varsText entries).length ≤ fuel) :
    getvarLoop key.val fuel (varsText entries) =
      (entries.find? fun entry => entry.key = key).map fun entry => entry.value.val := by
  induction entries generalizing fuel with
  | nil =>
    cases fuel with
    | zero => rfl
    | succ more => rfl
  | cons entry rest ih =>
    obtain ⟨more, rfl, fuelled, present⟩ := line_turn enough
    rw [getvarLoop, if_neg present, varsText_cons]
    simp only [takeWhile_line, dropWhile_line, line_trimmed]
    by_cases own : entry.key = key
    · rw [if_pos (startsWith_iff.mpr own), List.find?_cons]
      simp only [own, decide_true, Option.map_some]
      rw [← own, Entry.line, List.drop_append]
      simp
    · rw [if_neg (mt startsWith_iff.mp own), ih fuelled, List.find?_cons_of_neg (by simpa using own)]

theorem rewriteLoop_text {capacity : Nat} (entries : List Entry) {fuel : Nat} {output : List UInt8} {found : Bool}
    (enough : (varsText entries).length ≤ fuel) (room : output.length + (varsText entries).length < capacity) :
    rewriteLoop key.val capacity fuel (varsText entries) output found =
      some (output ++ varsText (updated entries key none), found || entries.any fun entry => entry.key = key) := by
  induction entries generalizing fuel output found with
  | nil =>
    cases fuel with
    | zero => simp [rewriteLoop, updated, varsText]
    | succ more => simp [rewriteLoop, updated, varsText]
  | cons entry rest ih =>
    obtain ⟨more, rfl, fuelled, present⟩ := line_turn enough
    rw [varsText_cons, List.length_append, List.length_append, List.length_singleton] at room
    rw [rewriteLoop, if_neg present, varsText_cons]
    simp only [takeWhile_line, dropWhile_line, line_stripped]
    by_cases own : entry.key = key
    · rw [if_pos (lineMatches_iff.mpr own), ih fuelled (by omega)]
      simp [updated, own]
    · have fits : ¬output.length + entry.line.length + 1 ≥ capacity := by omega
      have longer : (output ++ entry.line ++ [newline]).length + (varsText rest).length < capacity := by
        simp only [List.length_append, List.length_singleton]
        omega
      rw [if_neg (mt lineMatches_iff.mp own), if_neg line_ne_nil, if_neg fits, ih fuelled longer]
      simp [updated, own, varsText]

theorem updated_some (entries : List Entry) (key : Key) (value : Value) :
    varsText (updated entries key (some value)) =
      varsText (updated entries key none) ++ key.val ++ [equals] ++ value.val ++ [newline] := by
  simp [updated, varsText, Entry.line]

theorem terminalVarRewrite_text (entries : List Entry) (key : Key) (value : Option Value)
    (small : (varsText entries).length ≤ terminalVarStoreMax) :
    terminalVarRewrite (varsText entries) key.val (value.map Subtype.val) (terminalVarStoreMax + 1) =
      if (varsText (updated entries key value)).length ≤ terminalVarStoreMax then
        some (varsText (updated entries key value), entries.any fun entry => entry.key = key)
      else none := by
  have given : ¬(key.val = [] ∨ terminalVarStoreMax + 1 = 0) := by
    rintro (empty | zero)
    · exact key_ne_nil key empty
    · cases zero
  have room : ([] : List UInt8).length + (varsText entries).length < terminalVarStoreMax + 1 := by
    rw [List.length_nil]
    omega
  rw [terminalVarRewrite, if_neg given, rewriteLoop_text entries (Nat.le_refl _) room]
  cases value with
  | none =>
    have fewer : (varsText (updated entries key none)).length ≤ terminalVarStoreMax := by
      refine Nat.le_trans ?_ small
      rw [updated, Option.map_none, Option.toList_none, List.append_nil]
      exact ((List.filter_sublist (l := entries)).flatMap _).length_le
    rw [if_pos fewer]
    rfl
  | some value =>
    have whole := congrArg List.length (updated_some entries key value)
    simp only [List.length_append, List.length_singleton] at whole
    change (if _ then none else some _) = _
    rw [updated_some]
    split <;> split
    · rename_i excess fits
      simp only [List.nil_append, List.length_append, List.length_singleton] at excess fits
      omega
    · rfl
    · rfl
    · rename_i fits excess
      simp only [List.nil_append, List.length_append, List.length_singleton] at excess fits
      omega

end Loops

section Typed

variable {key : Key}

theorem setvar_line (file : AtomicFile) (attempt : Attempt) (key : Key) (value : Value) :
    setvar file attempt (key.val ++ space :: value.val) =
      match terminalVarUpdate file attempt key.val (some value.val) with
      | (.ok, file) => (.stored key.val value.val, file)
      | (.tooLarge, file) => (.full, file)
      | (.noMemory, file) => (.setMemory, file)
      | (_, file) => (.setStorage, file) := by
  have front : (key.val ++ space :: value.val).takeWhile (· != space) = key.val := by
    rw [List.takeWhile_append_of_pos fun c member => bne_iff_ne.mpr (key_char member).2.2.1, List.takeWhile_cons]
    simp
  have back : (key.val ++ space :: value.val).drop (key.val.length + 1) = value.val := by
    rw [List.drop_append]
    simp
  have given : ¬((key.val ++ space :: value.val).contains space = false ∨ key.val = []) := by
    rintro (without | empty)
    · simp at without
    · exact key_ne_nil key empty
  have sized : ¬(value.val.length = 0 ∨ value.val.length > maxTermVarValueLength) := by
    rintro (zero | long)
    · exact value.property.1 (List.length_eq_zero_iff.mp zero)
    · exact absurd value.property.2.1 (Nat.not_le.mpr long)
  unfold setvar
  simp only [front]
  rw [if_neg given, back, if_neg (by rw [key.property]; decide)]
  exact if_neg sized

theorem delvar_line (file : AtomicFile) (attempt : Attempt) (key : Key) :
    delvar file attempt key.val =
      match terminalVarUpdate file attempt key.val none with
      | (.ok, file) => (.deleted key.val, file)
      | (.notFound, file) => (.missing key.val, file)
      | (.tooLarge, file) => (.deleteRefused, file)
      | (.noMemory, file) => (.deleteMemory, file)
      | (.ioError, file) => (.deleteStorage, file) := by
  unfold delvar
  rw [if_neg (key_ne_nil key)]
  exact if_neg (by rw [key.property]; decide)

end Typed

end SigurdOS.Ui.TerminalVars
