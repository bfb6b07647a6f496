import Mathlib.Data.List.DropRight
import SigurdOS.Mesh.Base64

namespace SigurdOS.Mesh

open Bytes

def maxChanName : Nat := 31

def isSpace (c : UInt8) : Bool := c = ascii ' ' || (9 ≤ c && c ≤ 13)

def isValidChar (c : UInt8) : Bool :=
  (ascii 'a' ≤ c && c ≤ ascii 'z') || (ascii 'A' ≤ c && c ≤ ascii 'Z') || (ascii '0' ≤ c && c ≤ ascii '9') ||
    c = ascii '-'

def validateChars : Option UInt8 → List UInt8 → Option String
  | _, [] => none
  | previous, c :: rest =>
    if isValidChar c = false then some "Invalid character in name"
    else if c = ascii '-' ∧ previous = some (ascii '-') then some "Consecutive dashes not allowed"
    else validateChars (some c) rest

def validateBody (body : List UInt8) : Option String :=
  if body.length = 0 then some "Name is just '#'"
  else if body.head? = some (ascii '-') then some "Leading dash not allowed"
  else if body.getLast? = some (ascii '-') then some "Trailing dash not allowed"
  else validateChars none body

/-- The text between the first and the last character that is no space. -/
def trimmed (text : List UInt8) : List UInt8 := (text.dropWhile isSpace).rdropWhile isSpace

/-- Why `channel_name_valid` refuses a name, `none` when it accepts. -/
def channelNameReason (name : List UInt8) : Option String :=
  if name = [] then some "Name is empty"
  else
    let body := trimmed name
    if body.length = 0 then some "Name is empty after trimming"
    else if body.length > maxChanName then
      some (if body.head? = some (ascii '#') then "Name too long (max 31 chars including '#')"
        else "Name too long (max 31 chars)")
    else validateBody (if body.head? = some (ascii '#') then body.tail else body)

def channelNameValid (name : List UInt8) : Bool := (channelNameReason name).isNone

def hashtagChannelNameNormalise (name : List UInt8) (outSize : Nat) : Except String (List UInt8) :=
  if name = [] ∨ outSize = 0 then .error "Name is empty"
  else
    let text := trimmed name
    let body := if text.head? = some (ascii '#') then text.tail else text
    let storedLen := body.length + 1
    if storedLen > maxChanName ∨ storedLen + 1 > outSize then .error "Name too long (max '#' plus 30 chars)"
    else
      match validateBody body with
      | some reason => .error reason
      | none => .ok (ascii '#' :: body)

/-- The same on the caller's buffer: the reason, if any, and what the buffer then holds. -/
def hashtagChannelNameBuffer (name out : List UInt8) : Option String × List UInt8 :=
  match hashtagChannelNameNormalise name out.length with
  | .error reason => (some reason, out)
  | .ok stored => (none, stored ++ 0 :: out.drop (stored.length + 1))

def toLower (c : UInt8) : UInt8 := if ascii 'A' ≤ c ∧ c ≤ ascii 'Z' then c + 32 else c

/-- The buffer after the call, and the length of the name in it. -/
def channelNameSanitise (name : List UInt8) (maxLen : Nat) : List UInt8 × Nat :=
  if maxLen = 0 then (name, 0)
  else
    let leading := ((terminated name).takeWhile isSpace).length
    let text := trimmed (terminated name)
    let ended := name.set (leading + text.length) 0
    if text.length = 0 then (ended, 0)
    else
      let start := if text.head? = some (ascii '#') then leading + 1 else leading
      let bodyLen := if text.head? = some (ascii '#') then text.length - 1 else text.length
      let moved := if start = 0 then ended else (ended.drop start).take (bodyLen + 1) ++ ended.drop (bodyLen + 1)
      let len := min bodyLen (min (maxLen - 1) maxChanName)
      (((moved.take len).map toLower ++ moved.drop len).set len 0, len)

section Grammar

def isAlnum (c : UInt8) : Bool :=
  (ascii 'a' ≤ c && c ≤ ascii 'z') || (ascii 'A' ≤ c && c ≤ ascii 'Z') || (ascii '0' ≤ c && c ≤ ascii '9')

/-- Letters and digits with single dashes between them. -/
inductive ChannelWord : List UInt8 → Prop
  | last {c : UInt8} (letter : isAlnum c = true) : ChannelWord [c]
  | letter {c : UInt8} {rest : List UInt8} (letter : isAlnum c = true) (word : ChannelWord rest) :
      ChannelWord (c :: rest)
  | dash {c : UInt8} {rest : List UInt8} (letter : isAlnum c = true) (word : ChannelWord rest) :
      ChannelWord (c :: ascii '-' :: rest)

variable {c : UInt8} {body text : List UInt8}

theorem isValidChar_iff : isValidChar c = true ↔ isAlnum c = true ∨ c = ascii '-' := by
  simp [isValidChar, isAlnum]

theorem isAlnum_facts (letter : isAlnum c = true) : c ≠ ascii '-' ∧ c ≠ ascii '#' ∧ isSpace c = false ∧ c ≠ 0 ∧
    isAlnum (toLower c) = true ∧ toLower (toLower c) = toLower c := by
  have every : ∀ i : Fin 256, isAlnum (UInt8.ofFin i) = true → UInt8.ofFin i ≠ ascii '-' ∧
      UInt8.ofFin i ≠ ascii '#' ∧ isSpace (UInt8.ofFin i) = false ∧ UInt8.ofFin i ≠ 0 ∧
      isAlnum (toLower (UInt8.ofFin i)) = true ∧
      toLower (toLower (UInt8.ofFin i)) = toLower (UInt8.ofFin i) := by decide +kernel
  have here := every c.toFin
  rw [UInt8.ofFin_toFin] at here
  exact here letter

theorem validateChars_cons (previous : Option UInt8) (c : UInt8) (rest : List UInt8) :
    validateChars previous (c :: rest) = none ↔
      (isAlnum c = true ∨ c = ascii '-' ∧ previous ≠ some (ascii '-')) ∧ validateChars (some c) rest = none := by
  by_cases letter : isAlnum c = true
  · have valid : isValidChar c = true := isValidChar_iff.2 (Or.inl letter)
    have other := (isAlnum_facts letter).1
    simp only [validateChars, valid, Bool.true_eq_false, other, false_and, if_false, letter, true_or, true_and]
  · by_cases dash : c = ascii '-'
    · have valid : isValidChar c = true := isValidChar_iff.2 (Or.inr dash)
      subst dash
      by_cases consecutive : previous = some (ascii '-')
      · simp only [validateChars, valid, Bool.true_eq_false, consecutive, and_self, if_false, if_true, letter, ne_eq,
          not_true_eq_false, and_false, or_self, false_and, reduceCtorEq]
      · simp only [validateChars, valid, Bool.true_eq_false, consecutive, and_false, if_false, letter, ne_eq,
          not_false_eq_true, and_true, or_true, true_and]
    · have invalid : isValidChar c = false := by
        rw [Bool.eq_false_iff, ne_eq, isValidChar_iff]
        exact not_or.2 ⟨letter, dash⟩
      simp only [validateChars, invalid, if_true, letter, dash, false_and, or_self, reduceCtorEq]

theorem channelWord_of_chars {c : UInt8} (letter : isAlnum c = true) :
    ∀ rest, validateChars (some c) rest = none → rest.getLast? ≠ some (ascii '-') → ChannelWord (c :: rest)
  | [], _, _ => .last letter
  | [next], valid, ending => by
    have kind := ((validateChars_cons _ _ _).1 valid).1
    rcases kind with nextLetter | ⟨rfl, -⟩
    · exact .letter letter (.last nextLetter)
    · exact absurd rfl ending
  | next :: later :: rest, valid, ending => by
    obtain ⟨kind, valid⟩ := (validateChars_cons _ _ _).1 valid
    rw [List.getLast?_cons_cons] at ending
    rcases kind with nextLetter | ⟨rfl, -⟩
    · exact .letter letter (channelWord_of_chars nextLetter (later :: rest) valid ending)
    · obtain ⟨laterKind, valid⟩ := (validateChars_cons _ _ _).1 valid
      rcases laterKind with laterLetter | ⟨-, same⟩
      · refine .dash letter (channelWord_of_chars laterLetter rest valid ?_)
        intro dashed
        cases rest with
        | nil => cases dashed
        | cons last rest => exact ending (by rw [List.getLast?_cons_cons]; exact dashed)
      · exact absurd rfl same

theorem ChannelWord.chars (word : ChannelWord body) (previous : Option UInt8) : validateChars previous body = none := by
  induction word generalizing previous with
  | last letter => exact (validateChars_cons _ _ _).2 ⟨Or.inl letter, rfl⟩
  | letter letter word ih => exact (validateChars_cons _ _ _).2 ⟨Or.inl letter, ih _⟩
  | @dash c rest letter word ih =>
    have before : some c ≠ some (ascii '-') := fun same => (isAlnum_facts letter).1 (Option.some.inj same)
    have dashed := (validateChars_cons (some c) (ascii '-') rest).2 ⟨Or.inr ⟨rfl, before⟩, ih _⟩
    exact (validateChars_cons _ _ _).2 ⟨Or.inl letter, dashed⟩

theorem ChannelWord.ends (word : ChannelWord body) :
    (∃ c, body.head? = some c ∧ isAlnum c = true) ∧ ∃ c, body.getLast? = some c ∧ isAlnum c = true := by
  induction word with
  | @last c letter => exact ⟨⟨c, rfl, letter⟩, c, rfl, letter⟩
  | @letter c rest letter word ih =>
    obtain ⟨-, last, ending, lastLetter⟩ := ih
    refine ⟨⟨c, rfl, letter⟩, last, ?_, lastLetter⟩
    rw [List.getLast?_cons, ending]
    rfl
  | @dash c rest letter word ih =>
    obtain ⟨-, last, ending, lastLetter⟩ := ih
    refine ⟨⟨c, rfl, letter⟩, last, ?_, lastLetter⟩
    rw [List.getLast?_cons, List.getLast?_cons, ending]
    rfl

theorem ChannelWord.ne_nil (word : ChannelWord body) : body ≠ [] := by
  intro nothing
  rw [nothing] at word
  cases word

theorem validateBody_iff : validateBody body = none ↔ ChannelWord body := by
  constructor
  · intro valid
    unfold validateBody at valid
    split at valid
    · cases valid
    split at valid
    · cases valid
    split at valid
    · cases valid
    rename_i nonempty leading trailing
    cases body with
    | nil => exact absurd rfl nonempty
    | cons first rest =>
      obtain ⟨kind, valid⟩ := (validateChars_cons _ _ _).1 valid
      rcases kind with letter | ⟨rfl, -⟩
      · refine channelWord_of_chars letter rest valid ?_
        intro dashed
        apply trailing
        rw [List.getLast?_cons, dashed]
        rfl
      · exact absurd rfl leading
  · intro word
    obtain ⟨⟨first, head, letter⟩, last, ending, lastLetter⟩ := word.ends
    have nonempty : ¬ body.length = 0 := fun empty => word.ne_nil (List.length_eq_zero_iff.1 empty)
    have leading : ¬ body.head? = some (ascii '-') := by
      rw [head]
      exact fun same => (isAlnum_facts letter).1 (Option.some.inj same)
    have trailing : ¬ body.getLast? = some (ascii '-') := by
      rw [ending]
      exact fun same => (isAlnum_facts lastLetter).1 (Option.some.inj same)
    simp only [validateBody, nonempty, leading, trailing, if_false, word.chars]

theorem trimmed_of_ends {first last : UInt8} (head : text.head? = some first) (ending : text.getLast? = some last)
    (leading : isSpace first = false) (trailing : isSpace last = false) : trimmed text = text := by
  have front : text.dropWhile isSpace = text := by
    cases text with
    | nil => rfl
    | cons c rest =>
      obtain rfl : c = first := Option.some.inj head
      simp [leading]
  rw [trimmed, front, List.rdropWhile_eq_self_iff]
  intro nonempty
  rw [List.getLast?_eq_some_getLast nonempty] at ending
  rw [Option.some.inj ending, trailing]
  exact Bool.false_ne_true

theorem ChannelWord.trimmed_eq (word : ChannelWord body) : trimmed body = body := by
  obtain ⟨⟨first, head, letter⟩, last, ending, lastLetter⟩ := word.ends
  exact trimmed_of_ends head ending (isAlnum_facts letter).2.2.1 (isAlnum_facts lastLetter).2.2.1

theorem ChannelWord.trimmed_hash (word : ChannelWord body) : trimmed (ascii '#' :: body) = ascii '#' :: body := by
  obtain ⟨-, last, ending, lastLetter⟩ := word.ends
  refine trimmed_of_ends rfl ?_ (by decide) (isAlnum_facts lastLetter).2.2.1
  rw [List.getLast?_cons, ending]
  rfl

theorem ChannelWord.not_hash (word : ChannelWord body) : body.head? ≠ some (ascii '#') := by
  obtain ⟨⟨first, head, letter⟩, -⟩ := word.ends
  rw [head]
  exact fun same => (isAlnum_facts letter).2.1 (Option.some.inj same)

theorem ChannelWord.nonzero (word : ChannelWord body) : ∀ c ∈ body, c ≠ 0 := by
  induction word with
  | last letter => simpa using (isAlnum_facts letter).2.2.2.1
  | letter letter word ih => simpa [(isAlnum_facts letter).2.2.2.1] using ih
  | dash letter word ih =>
    have dash : ascii '-' ≠ 0 := by decide
    intro c member
    rcases List.mem_cons.1 member with rfl | member
    · exact (isAlnum_facts letter).2.2.2.1
    · rcases List.mem_cons.1 member with rfl | member
      · exact dash
      · exact ih c member

theorem ChannelWord.lower (word : ChannelWord body) :
    ChannelWord (body.map toLower) ∧ (body.map toLower).map toLower = body.map toLower := by
  have dash : toLower (ascii '-') = ascii '-' := by decide
  induction word with
  | last letter =>
    obtain ⟨-, -, -, -, lower, again⟩ := isAlnum_facts letter
    exact ⟨.last lower, by simp [again]⟩
  | letter letter word ih =>
    obtain ⟨-, -, -, -, lower, again⟩ := isAlnum_facts letter
    refine ⟨.letter lower ih.1, ?_⟩
    rw [List.map_cons, List.map_cons, again, ih.2]
  | dash letter word ih =>
    obtain ⟨-, -, -, -, lower, again⟩ := isAlnum_facts letter
    rw [List.map_cons, List.map_cons, dash]
    refine ⟨.dash lower ih.1, ?_⟩
    rw [List.map_cons, List.map_cons, again, dash, ih.2]

end Grammar

/-- The trimmed name without its leading `#`. -/
def hashBody (name : List UInt8) : List UInt8 :=
  if (trimmed name).head? = some (ascii '#') then (trimmed name).tail else trimmed name

section Rules

variable {name body stored : List UInt8}

theorem trimmed_cases (name : List UInt8) :
    trimmed name = ascii '#' :: hashBody name ∨ trimmed name = hashBody name := by
  unfold hashBody
  cases trimmed name with
  | nil => exact Or.inr rfl
  | cons first rest =>
    by_cases hash : first = ascii '#'
    · exact Or.inl (by simp [hash])
    · exact Or.inr (if_neg fun same => hash (Option.some.inj same)).symm

theorem hashBody_of_hash (same : trimmed name = ascii '#' :: body) : hashBody name = body := by
  simp [hashBody, same]

theorem hashBody_of_word (word : ChannelWord body) (same : trimmed name = body) : hashBody name = body := by
  rw [hashBody, same, if_neg word.not_hash]

theorem hashBody_word_iff : ChannelWord (hashBody name) ↔
    ∃ body, ChannelWord body ∧ (trimmed name = body ∨ trimmed name = ascii '#' :: body) := by
  constructor
  · exact fun word => ⟨_, word, (trimmed_cases name).symm⟩
  · rintro ⟨body, word, same | same⟩
    · rwa [hashBody_of_word word same]
    · rwa [hashBody_of_hash same]

theorem channelNameValid_iff : channelNameValid name = true ↔
    1 ≤ (trimmed name).length ∧ (trimmed name).length ≤ maxChanName ∧ ChannelWord (hashBody name) := by
  unfold channelNameValid channelNameReason
  by_cases nothing : name = []
  · subst nothing
    simp [trimmed]
  simp only [nothing, if_false]
  by_cases blank : (trimmed name).length = 0
  · simp [blank]
  by_cases long : (trimmed name).length > maxChanName
  · simp only [blank, long, if_false, if_true, Option.isNone_some, Bool.false_eq_true, false_iff]
    omega
  · simp only [blank, long, if_false, Option.isNone_iff_eq_none]
    rw [show (if (trimmed name).head? = some (ascii '#') then (trimmed name).tail else trimmed name) = hashBody name
      from rfl, validateBody_iff]
    constructor
    · exact fun word => ⟨by omega, by omega, word⟩
    · exact fun valid => valid.2.2

theorem hashtagChannelNameNormalise_iff {outSize : Nat} : hashtagChannelNameNormalise name outSize = .ok stored ↔
    stored = ascii '#' :: hashBody name ∧ ChannelWord (hashBody name) ∧ (hashBody name).length ≤ 30 ∧
      (hashBody name).length + 2 ≤ outSize := by
  unfold hashtagChannelNameNormalise
  by_cases nothing : name = [] ∨ outSize = 0
  · simp only [nothing, if_true, reduceCtorEq, false_iff]
    rintro ⟨-, word, -, room⟩
    rcases nothing with rfl | rfl
    · exact word.ne_nil rfl
    · omega
  · simp only [nothing, if_false]
    rw [show (if (trimmed name).head? = some (ascii '#') then (trimmed name).tail else trimmed name) = hashBody name
      from rfl]
    by_cases long : (hashBody name).length + 1 > maxChanName ∨ (hashBody name).length + 1 + 1 > outSize
    · simp only [long, if_true, reduceCtorEq, false_iff]
      unfold maxChanName at long
      omega
    · simp only [long, if_false]
      unfold maxChanName at long
      cases reason : validateBody (hashBody name) with
      | some reason =>
        simp only [reduceCtorEq, false_iff]
        rintro ⟨-, word, -⟩
        rw [validateBody_iff.2 word] at reason
        cases reason
      | none =>
        have word := validateBody_iff.1 reason
        simp only [Except.ok.injEq]
        constructor
        · rintro rfl
          exact ⟨rfl, word, by omega, by omega⟩
        · exact fun accepted => accepted.1.symm

theorem hashtagChannelNameNormalise_again {outSize again : Nat}
    (accepted : hashtagChannelNameNormalise name outSize = .ok stored) (room : stored.length + 1 ≤ again) :
    channelNameValid stored = true ∧ hashtagChannelNameNormalise stored again = .ok stored := by
  obtain ⟨rfl, word, short, -⟩ := hashtagChannelNameNormalise_iff.1 accepted
  have trim := word.trimmed_hash
  have same := hashBody_of_hash trim
  rw [List.length_cons] at room
  constructor
  · rw [channelNameValid_iff, same, trim, List.length_cons, maxChanName]
    exact ⟨by omega, by omega, word⟩
  · rw [hashtagChannelNameNormalise_iff, same]
    exact ⟨rfl, word, short, by omega⟩

theorem rtrimmed_split (text : List UInt8) : ∃ trailing, text = text.rdropWhile isSpace ++ trailing :=
  ⟨_, List.rdropWhile_append_rtakeWhile.symm⟩

theorem ended_name (name rest : List UInt8) : ∃ after,
    (name ++ 0 :: rest).set ((name.takeWhile isSpace).length + (trimmed name).length) 0 =
      name.takeWhile isSpace ++ (trimmed name ++ 0 :: after) := by
  obtain ⟨trailing, split⟩ := rtrimmed_split (name.dropWhile isSpace)
  have whole : name ++ 0 :: rest = name.takeWhile isSpace ++ (trimmed name ++ (trailing ++ 0 :: rest)) := by
    conv => lhs; rw [← List.takeWhile_append_dropWhile (p := isSpace) (l := name), split]
    simp only [trimmed, List.append_assoc]
  rw [whole, ← List.append_assoc, List.set_append_right _ _ (by rw [List.length_append]), List.length_append,
    Nat.sub_self, List.append_assoc]
  cases trailing with
  | nil => exact ⟨rest, rfl⟩
  | cons first trailing => exact ⟨trailing ++ 0 :: rest, rfl⟩

theorem channelNameSanitise_word (nonzero : ∀ c ∈ name, c ≠ 0) (word : ChannelWord (hashBody name))
    (short : (hashBody name).length ≤ maxChanName) (rest : List UInt8) {maxLen : Nat} (room : 32 ≤ maxLen) :
    ∃ after, channelNameSanitise (name ++ 0 :: rest) maxLen =
      ((hashBody name).map toLower ++ 0 :: after, (hashBody name).length) := by
  obtain ⟨after, ended⟩ := ended_name name rest
  unfold channelNameSanitise
  rw [terminated_append_zero nonzero, if_neg (by omega)]
  dsimp only
  rw [ended]
  generalize name.takeWhile isSpace = leading
  have fits : min (hashBody name).length (min (maxLen - 1) maxChanName) = (hashBody name).length := by
    unfold maxChanName at *
    omega
  -- Whatever was moved, the buffer begins with the body and a terminator.
  have finish (moved tail : List UInt8) (begins : moved = hashBody name ++ 0 :: tail) : ∃ after,
      (((moved.take (hashBody name).length).map toLower ++ moved.drop (hashBody name).length).set
        (hashBody name).length 0, (hashBody name).length) =
      ((hashBody name).map toLower ++ 0 :: after, (hashBody name).length) := by
    refine ⟨tail, Prod.ext ?_ rfl⟩
    dsimp only
    rw [begins, List.take_left, List.drop_left, List.set_append_right _ _ (by rw [List.length_map]), List.length_map,
      Nat.sub_self, List.set_cons_zero]
  have copied (front tail : List UInt8) : ((front ++ (hashBody name ++ 0 :: tail)).drop front.length).take
      ((hashBody name).length + 1) = hashBody name ++ [0] := by
    rw [List.drop_left, List.take_length_add_append]
    rfl
  have positive : (hashBody name).length ≠ 0 := fun empty => word.ne_nil (List.length_eq_zero_iff.1 empty)
  rcases trimmed_cases name with hash | plain
  · have shape : leading ++ (ascii '#' :: hashBody name ++ 0 :: after) =
        (leading ++ [ascii '#']) ++ (hashBody name ++ 0 :: after) := by simp
    have length : leading.length + 1 = (leading ++ [ascii '#']).length := by simp
    have moves : ¬ (leading ++ [ascii '#']).length = 0 := by simp
    have some_text : ¬ (hashBody name).length + 1 = 0 := by omega
    rw [hash, shape]
    simp only [List.head?_cons, if_true, List.length_cons, Nat.add_sub_cancel, some_text, if_false, length, moves,
      copied, fits]
    exact finish _ _ (List.append_assoc _ _ _)
  · rw [plain]
    simp only [word.not_hash, if_false, positive, fits]
    by_cases moves : leading.length = 0
    · simp only [List.length_eq_zero_iff.1 moves, List.length_nil, if_true, List.nil_append]
      exact finish _ _ rfl
    · simp only [moves, if_false, copied]
      exact finish _ _ (List.append_assoc _ _ _)

theorem channelNameSanitise_again (word : ChannelWord body) (lower : body.map toLower = body)
    (short : body.length ≤ maxChanName) (rest : List UInt8) {maxLen : Nat} (room : 32 ≤ maxLen) :
    channelNameSanitise (body ++ 0 :: rest) maxLen = (body ++ 0 :: rest, body.length) := by
  obtain ⟨⟨first, head, letter⟩, -⟩ := word.ends
  have front : body.takeWhile isSpace = [] := by
    cases body with
    | nil => rfl
    | cons c rest =>
      obtain rfl : c = first := Option.some.inj head
      simp [(isAlnum_facts letter).2.2.1]
  have positive : body.length ≠ 0 := fun empty => word.ne_nil (List.length_eq_zero_iff.1 empty)
  have stays : (body ++ 0 :: rest).set body.length 0 = body ++ 0 :: rest := by
    rw [List.set_append_right _ _ (Nat.le_refl _), Nat.sub_self, List.set_cons_zero]
  have fits : min body.length (min (maxLen - 1) maxChanName) = body.length := by
    unfold maxChanName at *
    omega
  unfold channelNameSanitise
  rw [terminated_append_zero word.nonzero, if_neg (by omega), word.trimmed_eq, front]
  simp only [List.length_nil, Nat.zero_add, stays, positive, if_false, word.not_hash, if_true, fits, List.take_left,
    List.drop_left, lower]

/-- The three functions agree on the names of channels. -/
theorem channel_name_rules :
    (∀ name, channelNameValid name = true ↔ 1 ≤ (trimmed name).length ∧ (trimmed name).length ≤ 31 ∧
      ∃ body, ChannelWord body ∧ (trimmed name = body ∨ trimmed name = ascii '#' :: body)) ∧
    (∀ name out, let (reason, written) := hashtagChannelNameBuffer name out
      (reason = none ↔ ChannelWord (hashBody name) ∧ (hashBody name).length ≤ 30 ∧
        (hashBody name).length + 2 ≤ out.length) ∧
      (reason = none → written.length = out.length ∧ terminated written = ascii '#' :: hashBody name ∧
        channelNameValid (terminated written) = true ∧
        hashtagChannelNameBuffer (terminated written) written = (none, written)) ∧
      (reason ≠ none → written = out)) ∧
    ∀ name rest maxLen, (∀ c ∈ name, c ≠ 0) → channelNameValid name = true → 32 ≤ maxLen →
      let (buffer, len) := channelNameSanitise (name ++ 0 :: rest) maxLen
      channelNameValid (terminated buffer) = true ∧ channelNameSanitise buffer maxLen = (buffer, len) := by
  refine ⟨?_, ?_, ?_⟩
  · intro name
    rw [channelNameValid_iff, hashBody_word_iff, maxChanName]
  · intro name out
    unfold hashtagChannelNameBuffer
    cases normalised : hashtagChannelNameNormalise name out.length with
    | error reason =>
      refine ⟨?_, by simp, fun _ => rfl⟩
      simp only [reduceCtorEq, false_iff]
      rintro ⟨word, short, room⟩
      rw [hashtagChannelNameNormalise_iff.2 ⟨rfl, word, short, room⟩] at normalised
      cases normalised
    | ok stored =>
      obtain ⟨rfl, word, short, room⟩ := hashtagChannelNameNormalise_iff.1 normalised
      have hash : ascii '#' ≠ 0 := by decide
      have string := terminated_append_zero (List.forall_mem_cons.2 ⟨hash, word.nonzero⟩)
        (out.drop ((ascii '#' :: hashBody name).length + 1))
      have length : (ascii '#' :: hashBody name ++ 0 :: out.drop ((ascii '#' :: hashBody name).length + 1)).length =
          out.length := by
        simp only [List.length_append, List.length_cons, List.length_drop]
        omega
      obtain ⟨valid, again⟩ := hashtagChannelNameNormalise_again normalised (show
        (ascii '#' :: hashBody name).length + 1 ≤ out.length by rw [List.length_cons]; omega)
      refine ⟨iff_of_true rfl ⟨word, short, room⟩, fun _ => ⟨length, string, ?_, ?_⟩, fun refused => absurd rfl refused⟩
      · rw [string]
        exact valid
      · rw [string, length, again]
        dsimp only
        rw [List.drop_append]
        simp
  · intro name rest maxLen nonzero valid room
    obtain ⟨-, short, word⟩ := channelNameValid_iff.1 valid
    have shorter : (hashBody name).length ≤ maxChanName := by
      rcases trimmed_cases name with same | same
      · rw [same, List.length_cons] at short
        omega
      · rwa [same] at short
    obtain ⟨after, sanitised⟩ := channelNameSanitise_word nonzero word shorter rest room
    obtain ⟨lower, fixed⟩ := word.lower
    have again := channelNameSanitise_again lower fixed (by rwa [List.length_map]) after room
    rw [sanitised]
    dsimp only
    rw [terminated_append_zero lower.nonzero, again, List.length_map]
    refine ⟨?_, rfl⟩
    rw [channelNameValid_iff, lower.trimmed_eq, hashBody_of_word lower lower.trimmed_eq, List.length_map]
    exact ⟨List.length_pos_iff.2 word.ne_nil, shorter, lower⟩

/-- The name `#Ab-c` between two spaces, in a buffer that holds other bytes behind it. -/
theorem channel_name_rules_spaced :
    channelNameSanitise ([32, 35, 65, 98, 45, 99, 32] ++ 0 :: List.replicate 24 7) 32 =
        ([97, 98, 45, 99, 0, 99, 0, 0] ++ List.replicate 24 7, 4) ∧
      channelNameValid (terminated ([97, 98, 45, 99, 0, 99, 0, 0] ++ List.replicate 24 7)) = true ∧
      channelNameSanitise ([97, 98, 45, 99, 0, 99, 0, 0] ++ List.replicate 24 7) 32 =
        ([97, 98, 45, 99, 0, 99, 0, 0] ++ List.replicate 24 7, 4) := by
  have sanitised : channelNameSanitise ([32, 35, 65, 98, 45, 99, 32] ++ 0 :: List.replicate 24 7) 32 =
      ([97, 98, 45, 99, 0, 99, 0, 0] ++ List.replicate 24 7, 4) := by decide
  have rules := channel_name_rules.2.2 [32, 35, 65, 98, 45, 99, 32] (List.replicate 24 7) 32 (by decide) (by decide)
    (by decide)
  rw [sanitised] at rules
  exact ⟨sanitised, rules⟩

end Rules

end SigurdOS.Mesh
