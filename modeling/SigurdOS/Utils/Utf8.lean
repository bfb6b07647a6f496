import SigurdOS.Bytes.Fields
import SigurdOS.Library.Utf8Text

namespace SigurdOS.Utils

open Bytes

def utf8IsContinuation (byte : UInt8) : Bool := byte &&& 0xC0 == 0x80

def utf8SequenceLength (lead : UInt8) : Nat :=
  if lead &&& 0x80 == 0 then 1
  else if 0xC2 ≤ lead ∧ lead ≤ 0xDF then 2
  else if lead &&& 0xF0 == 0xE0 then 3
  else if 0xF0 ≤ lead ∧ lead ≤ 0xF4 then 4
  else 0

def utf8SequenceIsValid (bytes : List UInt8) : Bool :=
  match bytes with
  | [] => false
  | [byte] => byte < 0x80
  | first :: second :: rest =>
    (second :: rest).all utf8IsContinuation &&
      !(bytes.length == 3 && first == 0xE0 && second < 0xA0) &&
      !(bytes.length == 3 && first == 0xED && second > 0x9F) &&
      !(bytes.length == 4 && first == 0xF0 && second < 0x90) &&
      !(bytes.length == 4 && first == 0xF4 && second > 0x8F)

/-- The scanning loop over the terminated string. Every accepted sequence has at least one byte,
    so `fuel` bounds the number of rounds. -/
def utf8Scan : Nat → List UInt8 → Nat
  | 0, _ => 0
  | fuel + 1, bytes =>
    match bytes with
    | [] => 0
    | lead :: _ =>
      let sequenceLen := utf8SequenceLength lead
      if sequenceLen = 0 ∨ bytes.length < sequenceLen then 0
      else if utf8SequenceIsValid (bytes.take sequenceLen) then
        sequenceLen + utf8Scan fuel (bytes.drop sequenceLen)
      else 0

def utf8TruncateBytes (str : List UInt8) (maxBytes : Nat) : Nat :=
  let string := terminated (str.take maxBytes)
  utf8Scan string.length string

def utf8CopyTruncateN (destSize : Nat) (src : List UInt8) (srcSize : Nat) : List UInt8 :=
  src.take (utf8TruncateBytes src (min srcSize (destSize - 1)))

/-- `utf8_copy_truncate_n` on the destination buffer, which has no bytes to change when it is empty. -/
def utf8CopyTruncateBuffer (dest src : List UInt8) (srcSize : Nat) : List UInt8 × Nat :=
  if dest.length = 0 then (dest, 0)
  else
    let keep := utf8TruncateBytes src (min srcSize (dest.length - 1))
    ((src.take keep ++ dest.drop keep).set keep 0, keep)

theorem utf8Scan_le (fuel : Nat) (bytes : List UInt8) : utf8Scan fuel bytes ≤ bytes.length := by
  induction fuel generalizing bytes with
  | zero => exact Nat.zero_le _
  | succ fuel ih =>
    cases bytes with
    | nil => exact Nat.le_refl 0
    | cons lead rest =>
      simp only [utf8Scan]
      split
      · exact Nat.zero_le _
      · rename_i accepted
        split
        · have tail := ih ((lead :: rest).drop (utf8SequenceLength lead))
          rw [List.length_drop] at tail
          omega
        · exact Nat.zero_le _

theorem utf8Scan_take (fuel more : Nat) (bytes : List UInt8) (enough : utf8Scan fuel bytes ≤ more) :
    utf8Scan more (bytes.take (utf8Scan fuel bytes)) = utf8Scan fuel bytes := by
  induction fuel generalizing bytes more with
  | zero => cases more <;> rfl
  | succ fuel ih =>
    cases bytes with
    | nil => cases more <;> rfl
    | cons lead rest =>
      by_cases rejected : utf8SequenceLength lead = 0 ∨ (lead :: rest).length < utf8SequenceLength lead
      · have zero : utf8Scan (fuel + 1) (lead :: rest) = 0 := by simp only [utf8Scan, rejected, ite_true]
        rw [zero]
        cases more <;> rfl
      · by_cases valid : utf8SequenceIsValid ((lead :: rest).take (utf8SequenceLength lead)) = true
        · have step : utf8Scan (fuel + 1) (lead :: rest) =
              utf8SequenceLength lead + utf8Scan fuel ((lead :: rest).drop (utf8SequenceLength lead)) := by
            simp only [utf8Scan, rejected, valid, ite_true, ite_false]
          rw [step] at enough ⊢
          have bound := utf8Scan_le fuel ((lead :: rest).drop (utf8SequenceLength lead))
          rw [List.length_drop] at bound
          obtain ⟨more, rfl⟩ : ∃ smaller, more = smaller + 1 := ⟨more - 1, by omega⟩
          have tail := ih more ((lead :: rest).drop (utf8SequenceLength lead)) (by omega)
          generalize utf8Scan fuel ((lead :: rest).drop (utf8SequenceLength lead)) = kept at *
          generalize shape : (lead :: rest).take (utf8SequenceLength lead + kept) = string
          have head : string.head? = some lead := by
            rw [← shape, List.head?_take, if_neg (by omega)]
            rfl
          have length : string.length = utf8SequenceLength lead + kept := by
            rw [← shape, List.length_take]
            omega
          have front : string.take (utf8SequenceLength lead) = (lead :: rest).take (utf8SequenceLength lead) := by
            rw [← shape, List.take_take, Nat.min_eq_left (by omega)]
          have back : string.drop (utf8SequenceLength lead) =
              ((lead :: rest).drop (utf8SequenceLength lead)).take kept := by
            rw [← shape, List.drop_take, Nat.add_sub_cancel_left]
          cases string with
          | nil => cases head
          | cons other tailBytes =>
            obtain rfl : other = lead := Option.some.inj head
            have stays : ¬ (utf8SequenceLength other = 0 ∨ (other :: tailBytes).length < utf8SequenceLength other) := by
              omega
            simp only [utf8Scan, stays, front, valid, back, tail, ite_true, ite_false]
        · have zero : utf8Scan (fuel + 1) (lead :: rest) = 0 := by
            simp only [utf8Scan, rejected, valid, ite_false, Bool.false_eq_true]
          rw [zero]
          cases more <;> rfl

theorem utf8TruncateBytes_le (str : List UInt8) (maxBytes : Nat) :
    utf8TruncateBytes str maxBytes ≤ (terminated (str.take maxBytes)).length := utf8Scan_le _ _

theorem utf8TruncateBytes_le_max (str : List UInt8) (maxBytes : Nat) :
    utf8TruncateBytes str maxBytes ≤ maxBytes :=
  (utf8TruncateBytes_le str maxBytes).trans ((length_terminated_le _).trans (List.length_take_le _ _))

theorem take_utf8TruncateBytes (str : List UInt8) (maxBytes : Nat) :
    str.take (utf8TruncateBytes str maxBytes) =
      (terminated (str.take maxBytes)).take (utf8TruncateBytes str maxBytes) := by
  have kept := utf8TruncateBytes_le str maxBytes
  obtain ⟨rest, split⟩ := List.takeWhile_prefix (fun byte : UInt8 => byte != 0) (l := str.take maxBytes)
  have extended : (terminated (str.take maxBytes) ++ rest).take (utf8TruncateBytes str maxBytes) =
      (terminated (str.take maxBytes)).take (utf8TruncateBytes str maxBytes) := List.take_append_of_le_length kept
  rw [← extended, terminated, split, List.take_take, Nat.min_eq_left (utf8TruncateBytes_le_max _ _)]

theorem utf8TruncateBytes_nonzero (str : List UInt8) (maxBytes : Nat) :
    ∀ byte ∈ str.take (utf8TruncateBytes str maxBytes), byte ≠ 0 := by
  intro byte member
  rw [take_utf8TruncateBytes] at member
  exact terminated_nonzero byte (List.mem_of_mem_take member)

theorem utf8TruncateBytes_take (str : List UInt8) (maxBytes : Nat) :
    utf8TruncateBytes (str.take (utf8TruncateBytes str maxBytes)) maxBytes = utf8TruncateBytes str maxBytes := by
  have short : (str.take (utf8TruncateBytes str maxBytes)).length ≤ maxBytes :=
    (List.length_take_le _ _).trans (utf8TruncateBytes_le_max _ _)
  have string : terminated ((str.take (utf8TruncateBytes str maxBytes)).take maxBytes) =
      (terminated (str.take maxBytes)).take (utf8TruncateBytes str maxBytes) := by
    rw [List.take_of_length_le short, terminated_of_nonzero (utf8TruncateBytes_nonzero str maxBytes),
      take_utf8TruncateBytes]
  have bound := utf8TruncateBytes_le str maxBytes
  change utf8Scan _ _ = utf8Scan _ _
  rw [string]
  apply utf8Scan_take
  rw [List.length_take]
  change utf8TruncateBytes str maxBytes ≤ _
  omega

theorem utf8TruncateBytes_padded {chars : List UInt8} (padding : Nat) (maxBytes : Nat)
    (nonzero : ∀ byte ∈ chars, byte ≠ 0) :
    utf8TruncateBytes (chars ++ List.replicate padding 0) maxBytes = utf8TruncateBytes chars maxBytes := by
  have same : terminated ((chars ++ List.replicate padding 0).take maxBytes) = terminated (chars.take maxBytes) := by
    have kept : ∀ byte ∈ chars.take maxBytes, byte ≠ 0 := fun byte member => nonzero byte (List.mem_of_mem_take member)
    rw [List.take_append, List.take_replicate, terminated_of_nonzero kept]
    cases min (maxBytes - chars.length) padding with
    | zero => simpa using terminated_of_nonzero kept
    | succ count => rw [List.replicate_succ, terminated_append_zero kept]
  unfold utf8TruncateBytes
  rw [same]

section Encoding

open Utf8Text

theorem utf8IsContinuation_iff (byte : UInt8) : utf8IsContinuation byte = true ↔ Continues byte := by
  have every : ∀ i : Fin 256, utf8IsContinuation (UInt8.ofFin i) = decide (0x80 ≤ i.val ∧ i.val < 0xC0) := by
    decide +kernel
  have here := every byte.toFin
  rw [UInt8.ofFin_toFin] at here
  rw [here, decide_eq_true_eq]
  rfl

theorem utf8SequenceLength_eq (lead : UInt8) : utf8SequenceLength lead =
    if lead.toNat < 0x80 then 1
    else if lead.toNat < 0xC2 then 0
    else if lead.toNat ≤ 0xDF then 2
    else if lead.toNat ≤ 0xEF then 3
    else if lead.toNat ≤ 0xF4 then 4
    else 0 := by
  have every : ∀ i : Fin 256, utf8SequenceLength (UInt8.ofFin i) =
      if i.val < 0x80 then 1
      else if i.val < 0xC2 then 0
      else if i.val ≤ 0xDF then 2
      else if i.val ≤ 0xEF then 3
      else if i.val ≤ 0xF4 then 4
      else 0 := by decide +kernel
  have here := every lead.toFin
  rwa [UInt8.ofFin_toFin] at here

theorem utf8SequenceLength_cases (lead : UInt8) : utf8SequenceLength lead = 0 ∨
    (utf8SequenceLength lead = 1 ∧ lead.toNat < 0x80) ∨
    (utf8SequenceLength lead = 2 ∧ 0xC2 ≤ lead.toNat ∧ lead.toNat ≤ 0xDF) ∨
    (utf8SequenceLength lead = 3 ∧ 0xE0 ≤ lead.toNat ∧ lead.toNat ≤ 0xEF) ∨
    (utf8SequenceLength lead = 4 ∧ 0xF0 ≤ lead.toNat ∧ lead.toNat ≤ 0xF4) := by
  rw [utf8SequenceLength_eq]
  repeat' split
  all_goals omega

theorem utf8SequenceIsValid_encodes {lead : UInt8} {rest : List UInt8}
    (length : (lead :: rest).length = utf8SequenceLength lead) (valid : utf8SequenceIsValid (lead :: rest) = true) :
    ∃ char, lead :: rest = String.utf8EncodeChar char := by
  rcases utf8SequenceLength_cases lead
    with none | ⟨one, low⟩ | ⟨two, low, high⟩ | ⟨three, low, high⟩ | ⟨four, low, high⟩
  · simp [none] at length
  · match rest, length with
    | [], _ => exact exists_encode_one low
    | _ :: _, length => simp [one] at length
  · match rest, length, valid with
    | [second], _, valid =>
      simp only [utf8SequenceIsValid, List.all_cons, List.all_nil, Bool.and_true, Bool.and_eq_true,
        utf8IsContinuation_iff] at valid
      exact exists_encode_two low high valid.1.1.1.1
    | [], length, _ => simp [two] at length
    | _ :: _ :: _, length, _ => simp [two] at length
  · match rest, length, valid with
    | [second, third], _, valid =>
      simp only [utf8SequenceIsValid, List.all_cons, List.all_nil, Bool.and_true, Bool.and_eq_true,
        utf8IsContinuation_iff, Bool.not_eq_true', Bool.and_eq_false_imp, beq_iff_eq, decide_eq_false_iff_not] at valid
      obtain ⟨⟨⟨⟨continues, long⟩, scalar⟩, -⟩, -⟩ := valid
      refine exists_encode_three low high continues.1 continues.2 (fun first => ?_) (fun first => ?_)
      · have bound := long ⟨rfl, UInt8.toNat.inj first⟩
        simpa [UInt8.lt_iff_toNat_lt] using bound
      · have bound := scalar ⟨rfl, UInt8.toNat.inj first⟩
        simpa [UInt8.lt_iff_toNat_lt] using bound
    | [], length, _ => simp [three] at length
    | [_], length, _ => simp [three] at length
    | _ :: _ :: _ :: _, length, _ => simp [three] at length
  · match rest, length, valid with
    | [second, third, fourth], _, valid =>
      simp only [utf8SequenceIsValid, List.all_cons, List.all_nil, Bool.and_true, Bool.and_eq_true,
        utf8IsContinuation_iff, Bool.not_eq_true', Bool.and_eq_false_imp, beq_iff_eq, decide_eq_false_iff_not] at valid
      obtain ⟨⟨⟨⟨continues, -⟩, -⟩, long⟩, scalar⟩ := valid
      refine exists_encode_four low high continues.1 continues.2.1 continues.2.2 (fun first => ?_) (fun first => ?_)
      · have bound := long ⟨rfl, UInt8.toNat.inj first⟩
        simpa [UInt8.lt_iff_toNat_lt] using bound
      · have bound := scalar ⟨rfl, UInt8.toNat.inj first⟩
        simpa [UInt8.lt_iff_toNat_lt] using bound
    | [], length, _ => simp [four] at length
    | [_], length, _ => simp [four] at length
    | [_, _], length, _ => simp [four] at length
    | _ :: _ :: _ :: _ :: _, length, _ => simp [four] at length

theorem utf8Scan_isUtf8 (fuel : Nat) (bytes : List UInt8) : IsUtf8 (bytes.take (utf8Scan fuel bytes)) := by
  induction fuel generalizing bytes with
  | zero => simpa [utf8Scan] using isUtf8_nil
  | succ fuel ih =>
    cases bytes with
    | nil => simpa [utf8Scan] using isUtf8_nil
    | cons lead rest =>
      simp only [utf8Scan]
      split
      · simpa using isUtf8_nil
      · rename_i inside
        rw [not_or, Nat.not_lt] at inside
        split
        · rename_i valid
          rw [List.take_add]
          obtain ⟨char, encoded⟩ : ∃ char, (lead :: rest).take (utf8SequenceLength lead) =
              String.utf8EncodeChar char := by
            obtain ⟨count, starts⟩ := Nat.exists_eq_succ_of_ne_zero inside.1
            rw [starts, List.take_succ_cons] at valid ⊢
            apply utf8SequenceIsValid_encodes _ valid
            rw [starts, ← List.take_succ_cons, List.length_take]
            omega
          exact isUtf8_append char encoded (ih _)
        · simpa using isUtf8_nil

theorem utf8TruncateBytes_isUtf8 (str : List UInt8) (maxBytes : Nat) :
    IsUtf8 (str.take (utf8TruncateBytes str maxBytes)) := by
  rw [take_utf8TruncateBytes]
  exact utf8Scan_isUtf8 _ _

theorem utf8SequenceIsValid_encode (char : Char) : ∃ lead tail, String.utf8EncodeChar char = lead :: tail ∧
    utf8SequenceLength lead = (lead :: tail).length ∧ utf8SequenceIsValid (lead :: tail) = true := by
  rcases encode_cases char with ⟨a, encoded, low⟩ | ⟨a, b, encoded, range, second⟩ |
    ⟨a, b, c, encoded, range, second, third, long, scalar⟩ |
    ⟨a, b, c, d, encoded, range, second, third, fourth, long, scalar⟩
  · refine ⟨a, [], encoded, ?_, ?_⟩
    · simp [utf8SequenceLength_eq, low]
    · simpa [utf8SequenceIsValid, UInt8.lt_iff_toNat_lt] using low
  · refine ⟨a, [b], encoded, ?_, ?_⟩
    · rw [utf8SequenceLength_eq, if_neg (by omega), if_neg (by omega), if_pos range.2]
      rfl
    · simp [utf8SequenceIsValid, utf8IsContinuation_iff, second]
  · refine ⟨a, [b, c], encoded, ?_, ?_⟩
    · rw [utf8SequenceLength_eq, if_neg (by omega), if_neg (by omega), if_neg (by omega), if_pos range.2]
      rfl
    · simp only [utf8SequenceIsValid, List.all_cons, List.all_nil, Bool.and_true, Bool.and_eq_true,
        utf8IsContinuation_iff, Bool.not_eq_true', Bool.and_eq_false_imp, beq_iff_eq, decide_eq_false_iff_not]
      refine ⟨⟨⟨⟨⟨second, third⟩, fun first => ?_⟩, fun first => ?_⟩, by simp⟩, by simp⟩
      · have bound := long (congrArg UInt8.toNat first.2)
        simpa [UInt8.lt_iff_toNat_lt] using bound
      · have bound := scalar (congrArg UInt8.toNat first.2)
        simpa [UInt8.lt_iff_toNat_lt] using bound
  · refine ⟨a, [b, c, d], encoded, ?_, ?_⟩
    · rw [utf8SequenceLength_eq, if_neg (by omega), if_neg (by omega), if_neg (by omega), if_neg (by omega),
        if_pos range.2]
      rfl
    · simp only [utf8SequenceIsValid, List.all_cons, List.all_nil, Bool.and_true, Bool.and_eq_true,
        utf8IsContinuation_iff, Bool.not_eq_true', Bool.and_eq_false_imp, beq_iff_eq, decide_eq_false_iff_not]
      refine ⟨⟨⟨⟨⟨second, third, fourth⟩, by simp⟩, by simp⟩, fun first => ?_⟩, fun first => ?_⟩
      · have bound := long (congrArg UInt8.toNat first.2)
        simpa [UInt8.lt_iff_toNat_lt] using bound
      · have bound := scalar (congrArg UInt8.toNat first.2)
        simpa [UInt8.lt_iff_toNat_lt] using bound

theorem utf8Scan_chars (chars : List Char) (fuel : Nat) (rest : List UInt8)
    (enough : (chars.flatMap String.utf8EncodeChar ++ rest).length ≤ fuel) :
    (chars.flatMap String.utf8EncodeChar).length ≤ utf8Scan fuel (chars.flatMap String.utf8EncodeChar ++ rest) := by
  induction chars generalizing fuel with
  | nil => exact Nat.zero_le _
  | cons char chars ih =>
    obtain ⟨lead, tail, encoded, length, valid⟩ := utf8SequenceIsValid_encode char
    rw [List.flatMap_cons, encoded, List.append_assoc] at enough ⊢
    generalize later : chars.flatMap String.utf8EncodeChar ++ rest = bytes at *
    simp only [List.length_append, List.length_cons] at enough
    obtain ⟨fuel, rfl⟩ : ∃ fewer, fuel = fewer + 1 := ⟨fuel - 1, by omega⟩
    have goes := ih fuel (by omega)
    have accepted : ¬ (utf8SequenceLength lead = 0 ∨ (lead :: tail ++ bytes).length < utf8SequenceLength lead) := by
      simp only [length, List.length_append, List.length_cons]
      omega
    simp only [List.cons_append] at accepted ⊢
    simp only [utf8Scan, accepted, if_false]
    have front : (lead :: (tail ++ bytes)).take (lead :: tail).length = lead :: tail := by
      rw [← List.cons_append, List.take_left]
    have back : (lead :: (tail ++ bytes)).drop (lead :: tail).length = bytes := by
      rw [← List.cons_append, List.drop_left]
    rw [length, front, back, if_pos valid, ← List.cons_append, List.length_append]
    exact Nat.add_le_add_left goes _

theorem utf8TruncateBytes_longest (str : List UInt8) {maxBytes count : Nat} (limit : count ≤ maxBytes)
    (inside : count ≤ (terminated str).length) (text : IsUtf8 ((terminated str).take count)) :
    count ≤ utf8TruncateBytes str maxBytes := by
  obtain ⟨chars, encoded⟩ := text
  have split : terminated (str.take maxBytes) =
      chars.flatMap String.utf8EncodeChar ++ (terminated (str.take maxBytes)).drop count := by
    rw [← encoded, terminated_take]
    conv => lhs; rw [← List.take_append_drop count ((terminated str).take maxBytes)]
    rw [List.take_take, Nat.min_eq_left limit]
  have kept := utf8Scan_chars chars (terminated (str.take maxBytes)).length
    ((terminated (str.take maxBytes)).drop count) (by rw [← split])
  rw [← split, ← encoded, List.length_take, Nat.min_eq_left inside] at kept
  exact kept

theorem length_take_utf8TruncateBytes (str : List UInt8) (maxBytes : Nat) :
    (str.take (utf8TruncateBytes str maxBytes)).length = utf8TruncateBytes str maxBytes := by
  have kept := utf8TruncateBytes_le str maxBytes
  have string := length_terminated_le (str.take maxBytes)
  rw [List.length_take] at string ⊢
  omega

theorem utf8CopyTruncateBuffer_eq {dest : List UInt8} (room : dest.length ≠ 0) (src : List UInt8) (srcSize : Nat) :
    utf8CopyTruncateBuffer dest src srcSize =
      (utf8CopyTruncateN dest.length src srcSize ++
          0 :: dest.drop (utf8TruncateBytes src (min srcSize (dest.length - 1)) + 1),
        utf8TruncateBytes src (min srcSize (dest.length - 1))) := by
  have kept := utf8TruncateBytes_le_max src (min srcSize (dest.length - 1))
  have copied := length_take_utf8TruncateBytes src (min srcSize (dest.length - 1))
  unfold utf8CopyTruncateBuffer utf8CopyTruncateN
  rw [if_neg room]
  generalize utf8TruncateBytes src (min srcSize (dest.length - 1)) = keep at *
  have next : keep < dest.length := by omega
  dsimp only
  rw [List.set_append_right _ _ (by omega), copied, Nat.sub_self, List.drop_eq_getElem_cons next, List.set_cons_zero]

/-- Truncation keeps the longest well-formed prefix, and a copy leaves it terminated inside its destination. -/
theorem utf8_truncation :
    (∀ str maxBytes, utf8TruncateBytes str maxBytes ≤ maxBytes ∧
      utf8TruncateBytes str maxBytes ≤ (terminated str).length ∧
      IsUtf8 ((terminated str).take (utf8TruncateBytes str maxBytes)) ∧
      ∀ count ≤ maxBytes, count ≤ (terminated str).length → IsUtf8 ((terminated str).take count) →
        count ≤ utf8TruncateBytes str maxBytes) ∧
    (∀ str maxBytes, utf8TruncateBytes (str.take (utf8TruncateBytes str maxBytes)) maxBytes =
      utf8TruncateBytes str maxBytes) ∧
    (∀ str limit larger, limit ≤ larger → utf8TruncateBytes str limit ≤ utf8TruncateBytes str larger) ∧
    ∀ dest src srcSize, dest.length ≠ 0 →
      let (copy, keep) := utf8CopyTruncateBuffer dest src srcSize
      copy.length = dest.length ∧ keep < dest.length ∧ keep ≤ srcSize ∧ copy[keep]? = some 0 ∧
        terminated copy = src.take keep ∧ IsUtf8 (terminated copy) ∧ copy.drop (keep + 1) = dest.drop (keep + 1) := by
  have inside (str : List UInt8) (maxBytes : Nat) : utf8TruncateBytes str maxBytes ≤ (terminated str).length := by
    have kept := utf8TruncateBytes_le str maxBytes
    rw [terminated_take, List.length_take] at kept
    omega
  have text (str : List UInt8) (maxBytes : Nat) :
      IsUtf8 ((terminated str).take (utf8TruncateBytes str maxBytes)) := by
    have encoded := utf8TruncateBytes_isUtf8 str maxBytes
    rwa [take_utf8TruncateBytes, terminated_take, List.take_take,
      Nat.min_eq_left (utf8TruncateBytes_le_max str maxBytes)] at encoded
  refine ⟨?_, utf8TruncateBytes_take, ?_, ?_⟩
  · intro str maxBytes
    exact ⟨utf8TruncateBytes_le_max str maxBytes, inside str maxBytes, text str maxBytes,
      fun count limit fits => utf8TruncateBytes_longest str limit fits⟩
  · intro str limit larger more
    exact utf8TruncateBytes_longest str ((utf8TruncateBytes_le_max str limit).trans more) (inside str limit)
      (text str limit)
  · intro dest src srcSize room
    have kept := utf8TruncateBytes_le_max src (min srcSize (dest.length - 1))
    have copied := length_take_utf8TruncateBytes src (min srcSize (dest.length - 1))
    have nonzero := utf8TruncateBytes_nonzero src (min srcSize (dest.length - 1))
    have encoded := utf8TruncateBytes_isUtf8 src (min srcSize (dest.length - 1))
    rw [utf8CopyTruncateBuffer_eq room, utf8CopyTruncateN]
    generalize utf8TruncateBytes src (min srcSize (dest.length - 1)) = keep at *
    have string := terminated_append_zero nonzero (dest.drop (keep + 1))
    refine ⟨?_, by omega, by omega, ?_, string, ?_, ?_⟩
    · rw [List.length_append, List.length_cons, List.length_drop]
      omega
    · rw [List.getElem?_append_right (by omega), copied, Nat.sub_self]
      rfl
    · rw [string]
      exact encoded
    · rw [← Nat.add_zero 1, ← Nat.add_assoc, List.drop_append, copied]
      simp [copied]

end Encoding

end SigurdOS.Utils
