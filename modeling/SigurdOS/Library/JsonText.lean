import Mathlib.Data.List.TakeWhile

/-! The texts of JSON, as bytes: what a reader has to pass over, and where a value ends. -/

namespace JsonText

def quote : UInt8 := 34
def comma : UInt8 := 44
def colon : UInt8 := 58
def openBracket : UInt8 := 91
def backslash : UInt8 := 92
def closeBracket : UInt8 := 93
def openBrace : UInt8 := 123
def closeBrace : UInt8 := 125

def isSpace (c : UInt8) : Bool := c == 32 || c == 9 || c == 10 || c == 13

def isStop (c : UInt8) : Bool := c == comma || c == closeBrace || c == closeBracket || isSpace c

abbrev Spaces := { text : List UInt8 // ∀ c ∈ text, isSpace c = true }

/-- A character of a string: one that stands for itself, or one behind a backslash. -/
inductive Piece where
  | plain (c : UInt8) (ordinary : c ≠ 0 ∧ c ≠ quote ∧ c ≠ backslash)
  | escape (c : UInt8) (present : c ≠ 0)

def Piece.text : Piece → List UInt8
  | .plain c _ => [c]
  | .escape c _ => [backslash, c]

def bodyText (pieces : List Piece) : List UInt8 := pieces.flatMap Piece.text

def stringText (pieces : List Piece) : List UInt8 := quote :: bodyText pieces ++ [quote]

structure BareText (text : List UInt8) : Prop where
  filled : text ≠ []
  inside : ∀ c ∈ text, c ≠ 0 ∧ isStop c = false
  start : ∀ c ∈ text.head?, c ≠ quote ∧ c ≠ openBrace ∧ c ≠ openBracket

inductive JsonKind where
  | value
  | items
  | members

inductive Json : JsonKind → List UInt8 → Prop where
  | string (pieces : List Piece) : Json .value (stringText pieces)
  | bare {text : List UInt8} (bare : BareText text) : Json .value text
  | emptyArray (space : Spaces) : Json .value (openBracket :: space.val ++ [closeBracket])
  | array {text : List UInt8} (items : Json .items text) : Json .value (openBracket :: text ++ [closeBracket])
  | emptyObject (space : Spaces) : Json .value (openBrace :: space.val ++ [closeBrace])
  | object {text : List UInt8} (members : Json .members text) : Json .value (openBrace :: text ++ [closeBrace])
  | lastItem (before after : Spaces) {text : List UInt8} (value : Json .value text) :
      Json .items (before.val ++ text ++ after.val)
  | item (before after : Spaces) {text rest : List UInt8} (value : Json .value text) (items : Json .items rest) :
      Json .items (before.val ++ text ++ after.val ++ comma :: rest)
  | lastMember (before beforeColon afterColon after : Spaces) (key : List Piece) {text : List UInt8}
      (value : Json .value text) :
      Json .members (before.val ++ stringText key ++ beforeColon.val ++ colon :: (afterColon.val ++ text ++ after.val))
  | member (before beforeColon afterColon after : Spaces) (key : List Piece) {text rest : List UInt8}
      (value : Json .value text) (members : Json .members rest) :
      Json .members (before.val ++ stringText key ++ beforeColon.val ++
        colon :: (afterColon.val ++ text ++ after.val ++ comma :: rest))

section Space

def Settled (text : List UInt8) : Prop := ∀ c ∈ text.head?, isSpace c = false

def skipSpace (text : List UInt8) : List UInt8 := text.dropWhile isSpace

theorem skipSpace_settled {text : List UInt8} (settled : Settled text) : skipSpace text = text := by
  unfold skipSpace
  cases text with
  | nil => rfl
  | cons c rest => rw [List.dropWhile_cons_of_neg (by simp [settled c rfl])]

theorem settled_skipSpace (text : List UInt8) : Settled (skipSpace text) := by
  intro c head
  have stops := List.head?_dropWhile_not isSpace text
  unfold skipSpace at head
  rw [Option.mem_def] at head
  rw [head] at stops
  simpa using stops

theorem skipSpace_length (text : List UInt8) : (skipSpace text).length ≤ text.length :=
  (List.dropWhile_suffix isSpace).length_le

theorem skipSpace_append {text : List UInt8} (filled : skipSpace text ≠ []) (more : List UInt8) :
    skipSpace (text ++ more) = skipSpace text ++ more := by
  unfold skipSpace at filled ⊢
  induction text with
  | nil => exact absurd rfl filled
  | cons c rest ih =>
    by_cases space : isSpace c = true
    · rw [List.dropWhile_cons_of_pos space] at filled
      rw [List.cons_append, List.dropWhile_cons_of_pos space, List.dropWhile_cons_of_pos space]
      exact ih filled
    · rw [List.cons_append, List.dropWhile_cons_of_neg space, List.dropWhile_cons_of_neg space, List.cons_append]

end Space

end JsonText
