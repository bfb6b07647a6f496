import SigurdOS.Hal.GithubOtaPlan

/-! The readers on the text of JSON: a string is decoded into its buffer, and a value passed over as a whole. -/

namespace SigurdOS.Hal.GithubOta

open JsonText
open Mesh (ascii)

section Tokens

theorem skipWs_spaces (space : Spaces) (p : List UInt8) : skipWs (space.val ++ p) = skipWs p := by
  change List.dropWhile isSpace (space.val ++ p) = _
  rw [List.dropWhile_append_of_pos space.property]
  rfl

theorem skipWs_cons {c : UInt8} (filled : isSpace c = false) (rest : List UInt8) : skipWs (c :: rest) = c :: rest :=
  skipSpace_settled (by rintro _ ⟨⟩; exact filled)

theorem skipWs_skipWs (p : List UInt8) : skipWs (skipWs p) = skipWs p := skipSpace_settled (settled_skipSpace p)

theorem expect_spaces (space : Spaces) {c : UInt8} (filled : isSpace c = false) (rest : List UInt8) :
    expect c (space.val ++ c :: rest) = .ok rest := by
  unfold expect
  simp only [skipWs_spaces, skipWs_cons filled, if_true]

structure Closing (close : UInt8) : Prop where
  filled : isSpace close = false
  apart : close ≠ comma
  stops : isStop close = true

theorem closing_bracket : Closing closeBracket := ⟨by decide, by decide, by decide⟩

theorem closing_brace : Closing closeBrace := ⟨by decide, by decide, by decide⟩

theorem following_closed (space : Spaces) {close : UInt8} (closing : Closing close) (rest : List UInt8) :
    following close (space.val ++ close :: rest) = .ok (.closed rest) := by
  unfold following
  simp only [skipWs_spaces, skipWs_cons closing.filled, if_neg closing.apart, if_true]

theorem following_another (space : Spaces) {close : UInt8} {rest : List UInt8}
    (begun : (skipWs rest).head? ≠ some close) :
    following close (space.val ++ comma :: rest) = .ok (.another (skipWs rest)) := by
  unfold following
  simp only [skipWs_spaces, skipWs_cons (show isSpace comma = false by decide), if_true, if_neg begun]

end Tokens

section Strings

/-- What a piece of a string means; a `u` begins an escape of six characters, which this leaves alone. -/
def meaning : Piece → UInt8
  | .plain c _ => c
  | .escape c _ =>
    if c = ascii 'n' then 10 else if c = ascii 'r' then 13 else if c = ascii 't' then 9
    else if c = ascii 'b' then 8 else if c = ascii 'f' then 12 else c

def decode (pieces : List Piece) : List UInt8 := pieces.map meaning

def Simple : Piece → Prop
  | .plain _ _ => True
  | .escape c _ => c ≠ ascii 'u' ∧ c ≠ ascii 'b' ∧ c ≠ ascii 'f'

def character : Piece → UInt8
  | .plain c _ => c
  | .escape c _ => unescape c

theorem character_simple {piece : Piece} (simple : Simple piece) : character piece = meaning piece := by
  cases piece with
  | plain c ordinary => rfl
  | escape c present => simp only [character, unescape, meaning, if_neg simple.2.1, if_neg simple.2.2]

def store (outSize : Nat) (out : List UInt8) (pieces : List Piece) : List UInt8 :=
  pieces.foldl (fun out piece => put outSize out (character piece)) out

theorem readBody_text (outSize : Nat) (out tail : List UInt8) (pieces : List Piece) :
    readBody outSize false out (bodyText pieces ++ quote :: tail) = .ok (store outSize out pieces, tail) := by
  induction pieces generalizing out with
  | nil =>
    change readBody outSize false out (quote :: tail) = _
    rw [readBody, if_neg (by decide), if_pos rfl]
    rfl
  | cons piece pieces ih =>
    cases piece with
    | plain c ordinary =>
      change readBody outSize false out (c :: (bodyText pieces ++ quote :: tail)) = _
      rw [readBody, if_neg ordinary.2.2, if_neg ordinary.2.1, ih]
      rfl
    | escape c present =>
      change readBody outSize false out (backslash :: c :: (bodyText pieces ++ quote :: tail)) = _
      rw [readBody, if_pos rfl, readBody, ih]
      rfl

theorem store_simple {outSize : Nat} {out : List UInt8} (room : out.length ≤ outSize - 1) {pieces : List Piece}
    (simple : ∀ piece ∈ pieces, Simple piece) :
    store outSize out pieces = (out ++ decode pieces).take (outSize - 1) := by
  induction pieces generalizing out with
  | nil =>
    simp only [decode, List.map_nil, List.append_nil]
    exact (List.take_of_length_le room).symm
  | cons piece pieces ih =>
    have known := character_simple (simple piece List.mem_cons_self)
    have later := fun piece member => simple piece (List.mem_cons_of_mem _ member)
    unfold store
    rw [List.foldl_cons, known]
    change store outSize (put outSize out (meaning piece)) pieces = _
    unfold put
    by_cases free : out.length < outSize - 1
    · rw [if_pos free, ih (by rw [List.length_append]; exact free) later, List.append_assoc]
      rfl
    · have full : out.length = outSize - 1 := by omega
      rw [if_neg free, ih room later, ← full]
      simp only [List.take_left]

theorem readJsonString_text (space : Spaces) (outSize : Nat) (pieces : List Piece) (tail : List UInt8) :
    readJsonString (space.val ++ (stringText pieces ++ tail)) outSize = .ok (store outSize [] pieces, tail) := by
  have text : stringText pieces ++ tail = quote :: (bodyText pieces ++ quote :: tail) := by simp [stringText]
  unfold readJsonString
  rw [skipWs_spaces, text, skipWs_cons (by decide)]
  exact readBody_text outSize [] tail pieces

theorem skipString_text (pieces : List Piece) (tail : List UInt8) :
    skipString (stringText pieces ++ tail) = .ok tail := by
  unfold skipString
  have read := readJsonString_text ⟨[], nofun⟩ 1 pieces tail
  rw [List.nil_append] at read
  rw [read]
  rfl

end Strings

section Values

variable {text : List UInt8}

theorem filled_of_going {c : UInt8} (going : isStop c = false) : isSpace c = false := by
  simp only [isStop, Bool.or_eq_false_iff] at going
  exact going.2

def Begun (p : List UInt8) : Prop := ∃ c rest, skipWs p = c :: rest ∧ isStop c = false

theorem begun_apart {close : UInt8} (closing : Closing close) {p : List UInt8} (begun : Begun p) :
    (skipWs p).head? ≠ some close := by
  obtain ⟨c, rest, next, going⟩ := begun
  rw [next]
  rintro ⟨⟩
  exact absurd closing.stops (by simp [going])

theorem json_begins {kind : JsonKind} (json : Json kind text) (tail : List UInt8) : Begun (text ++ tail) := by
  induction json generalizing tail with
  | string pieces => exact ⟨quote, _, skipWs_cons (by decide) _, by decide⟩
  | bare bare =>
    rename_i text
    cases text with
    | nil => exact absurd rfl bare.filled
    | cons c rest =>
      have inside := (bare.inside c List.mem_cons_self).2
      exact ⟨c, _, skipWs_cons (filled_of_going inside) _, inside⟩
  | emptyArray => exact ⟨openBracket, _, skipWs_cons (by decide) _, by decide⟩
  | array => exact ⟨openBracket, _, skipWs_cons (by decide) _, by decide⟩
  | emptyObject => exact ⟨openBrace, _, skipWs_cons (by decide) _, by decide⟩
  | object => exact ⟨openBrace, _, skipWs_cons (by decide) _, by decide⟩
  | lastItem before after value ih =>
    simp only [Begun, List.append_assoc, skipWs_spaces]
    exact ih _
  | item before after value items ih _ =>
    simp only [Begun, List.append_assoc, skipWs_spaces]
    exact ih _
  | lastMember before beforeColon afterColon after key value ih =>
    simp only [Begun, List.append_assoc, skipWs_spaces]
    exact ⟨quote, _, skipWs_cons (by decide) _, by decide⟩
  | member before beforeColon afterColon after key value members ih _ =>
    simp only [Begun, List.append_assoc, skipWs_spaces]
    exact ⟨quote, _, skipWs_cons (by decide) _, by decide⟩

theorem skipJsonValue_spaces (fuel : Nat) (space : Spaces) (p : List UInt8) :
    skipJsonValue fuel (space.val ++ p) = skipJsonValue fuel p := by
  cases fuel with
  | zero => rfl
  | succ fuel => rw [skipJsonValue, skipJsonValue, skipWs_spaces]

theorem skipJsonValue_skipWs (fuel : Nat) (p : List UInt8) : skipJsonValue fuel (skipWs p) = skipJsonValue fuel p := by
  cases fuel with
  | zero => rfl
  | succ fuel => rw [skipJsonValue, skipJsonValue, skipWs_skipWs]

theorem skipCompound_skipWs (fuel : Nat) (opening close : UInt8) (p : List UInt8) :
    skipCompound fuel opening close (skipWs p) = skipCompound fuel opening close p := by
  cases fuel with
  | zero => rfl
  | succ fuel => rw [skipCompound, skipCompound, skipWs_skipWs]

section Turn

variable {fuel : Nat} {opening close : UInt8} {p value behind rest : List UInt8}
variable (closing : Closing close) (begun : Begun p) (key : skipKey opening (skipWs p) = .ok value)
  (skipped : skipJsonValue fuel value = .ok behind)
include closing begun key skipped

theorem skipCompound_last (follows : following close behind = .ok (.closed rest)) :
    skipCompound (fuel + 1) opening close p = .ok rest := by
  obtain ⟨c, tail, next, going⟩ := begun
  have inside : c ≠ close := by
    rintro rfl
    exact absurd closing.stops (by simp [going])
  rw [next] at key
  rw [skipCompound, next]
  simp only [if_neg inside, key, skipped, follows, Bind.bind, Except.bind]
  rfl

theorem skipCompound_next (follows : following close behind = .ok (.another rest)) :
    skipCompound (fuel + 1) opening close p = skipCompound fuel opening close rest := by
  obtain ⟨c, tail, next, going⟩ := begun
  have inside : c ≠ close := by
    rintro rfl
    exact absurd closing.stops (by simp [going])
  rw [next] at key
  rw [skipCompound, next]
  simp only [if_neg inside, key, skipped, follows, Bind.bind, Except.bind]

end Turn

/-- The fuel for one step of the recursion for every two characters is enough; a bare value needs its end marked. -/
def Skipped : JsonKind → List UInt8 → Prop
  | .value, text => ∀ fuel tail, (∀ c ∈ tail.head?, isStop c = true) → 2 * text.length ≤ fuel + 1 →
      skipJsonValue fuel (text ++ tail) = .ok tail
  | .items, text => ∀ fuel tail, 2 * text.length + 1 ≤ fuel →
      skipCompound fuel openBracket closeBracket (text ++ closeBracket :: tail) = .ok tail
  | .members, text => ∀ fuel tail, 2 * text.length + 1 ≤ fuel →
      skipCompound fuel openBrace closeBrace (text ++ closeBrace :: tail) = .ok tail

theorem stop_behind (after : Spaces) {c : UInt8} (stop : isStop c = true) (tail : List UInt8) :
    ∀ d ∈ (after.val ++ c :: tail).head?, isStop d = true := by
  intro d head
  obtain ⟨space, blank⟩ := after
  cases space with
  | nil =>
    cases head
    exact stop
  | cons first space =>
    cases head
    have blank := blank d List.mem_cons_self
    simp [isStop, blank]

theorem bare_skipped (bare : BareText text) : Skipped .value text := by
  intro fuel tail bounded enough
  cases text with
  | nil => exact absurd rfl bare.filled
  | cons c rest =>
    obtain ⟨fuel, rfl⟩ : ∃ n, fuel = n + 1 := ⟨fuel - 1, by rw [List.length_cons] at enough; omega⟩
    have inside := fun d member => (bare.inside d member).2
    have filled := filled_of_going (inside c List.mem_cons_self)
    obtain ⟨notString, notObject, notArray⟩ := bare.start c rfl
    have whole : ((c :: rest) ++ tail).dropWhile (fun c => !isStop c) = tail := by
      rw [List.dropWhile_append_of_pos (by simpa using inside)]
      cases tail with
      | nil => rfl
      | cons d tail => exact List.dropWhile_cons_of_neg (by simp [bounded d rfl])
    rw [List.cons_append] at whole ⊢
    rw [skipJsonValue, skipWs_cons filled]
    simp only [if_neg notString, if_neg notObject, if_neg notArray]
    unfold skipBareToken
    dsimp only
    rw [skipWs_cons filled, whole, if_neg]
    rw [List.length_cons, List.length_append]
    omega

theorem string_skipped (pieces : List Piece) : Skipped .value (stringText pieces) := by
  intro fuel tail _ enough
  obtain ⟨fuel, rfl⟩ : ∃ n, fuel = n + 1 := ⟨fuel - 1, by simp [stringText] at enough; omega⟩
  have first : skipWs (stringText pieces ++ tail) = stringText pieces ++ tail := skipWs_cons (by decide) _
  rw [skipJsonValue, first]
  exact skipString_text pieces tail

theorem empty_skipped (space : Spaces) {fuel : Nat} {opening close : UInt8} (closing : Closing close)
    (tail : List UInt8) : skipCompound (fuel + 1) opening close (space.val ++ close :: tail) = .ok tail := by
  rw [skipCompound, skipWs_spaces, skipWs_cons closing.filled]
  simp only [if_true]

theorem skipJsonValue_array (fuel : Nat) (text tail : List UInt8) :
    skipJsonValue (fuel + 1) (openBracket :: text ++ [closeBracket] ++ tail) =
      skipCompound fuel openBracket closeBracket (text ++ closeBracket :: tail) := by
  have same : openBracket :: text ++ [closeBracket] ++ tail = openBracket :: (text ++ closeBracket :: tail) := by simp
  rw [same, skipJsonValue, skipWs_cons (by decide)]
  rfl

theorem skipJsonValue_object (fuel : Nat) (text tail : List UInt8) :
    skipJsonValue (fuel + 1) (openBrace :: text ++ [closeBrace] ++ tail) =
      skipCompound fuel openBrace closeBrace (text ++ closeBrace :: tail) := by
  have same : openBrace :: text ++ [closeBrace] ++ tail = openBrace :: (text ++ closeBrace :: tail) := by simp
  rw [same, skipJsonValue, skipWs_cons (by decide)]
  rfl

theorem skipKey_text (before beforeColon : Spaces) (key : List Piece) (rest : List UInt8) :
    skipKey openBrace (skipWs (before.val ++ (stringText key ++ (beforeColon.val ++ colon :: rest)))) = .ok rest := by
  have first : skipWs (stringText key ++ (beforeColon.val ++ colon :: rest)) =
      stringText key ++ (beforeColon.val ++ colon :: rest) := skipWs_cons (by decide) _
  rw [skipWs_spaces, first, skipKey, if_pos rfl, skipString_text]
  exact expect_spaces beforeColon (by decide) rest

theorem json_skipped {kind : JsonKind} (json : Json kind text) : Skipped kind text := by
  induction json with
  | string pieces => exact string_skipped pieces
  | bare bare => exact bare_skipped bare
  | emptyArray space =>
    intro fuel tail _ enough
    obtain ⟨fuel, rfl⟩ : ∃ n, fuel = n + 2 := ⟨fuel - 2, by simp at enough; omega⟩
    rw [skipJsonValue_array]
    exact empty_skipped space closing_bracket tail
  | array items ih =>
    intro fuel tail _ enough
    obtain ⟨fuel, rfl⟩ : ∃ n, fuel = n + 1 := ⟨fuel - 1, by simp at enough; omega⟩
    rw [skipJsonValue_array]
    exact ih fuel tail (by simp at enough; omega)
  | emptyObject space =>
    intro fuel tail _ enough
    obtain ⟨fuel, rfl⟩ : ∃ n, fuel = n + 2 := ⟨fuel - 2, by simp at enough; omega⟩
    rw [skipJsonValue_object]
    exact empty_skipped space closing_brace tail
  | object members ih =>
    intro fuel tail _ enough
    obtain ⟨fuel, rfl⟩ : ∃ n, fuel = n + 1 := ⟨fuel - 1, by simp at enough; omega⟩
    rw [skipJsonValue_object]
    exact ih fuel tail (by simp at enough; omega)
  | lastItem before after value ih =>
    intro fuel tail enough
    obtain ⟨fuel, rfl⟩ : ∃ n, fuel = n + 1 := ⟨fuel - 1, by omega⟩
    have begun := json_begins (.lastItem before after value) (closeBracket :: tail)
    have skipped := ih fuel (after.val ++ closeBracket :: tail) (stop_behind after (by decide) tail)
      (by simp at enough; omega)
    rw [← skipJsonValue_spaces fuel before, ← skipJsonValue_skipWs] at skipped
    simp only [List.append_assoc] at begun ⊢
    exact skipCompound_last closing_bracket begun rfl skipped (following_closed after closing_bracket tail)
  | @item before after _ rest value items ih ihItems =>
    intro fuel tail enough
    obtain ⟨fuel, rfl⟩ : ∃ n, fuel = n + 1 := ⟨fuel - 1, by omega⟩
    have begun := json_begins (.item before after value items) (closeBracket :: tail)
    have skipped := ih fuel (after.val ++ comma :: (rest ++ closeBracket :: tail)) (stop_behind after (by decide) _)
      (by simp at enough; omega)
    rw [← skipJsonValue_spaces fuel before, ← skipJsonValue_skipWs] at skipped
    have another := following_another after (begun_apart closing_bracket (json_begins items (closeBracket :: tail)))
    simp only [List.append_assoc, List.cons_append] at begun ⊢
    rw [skipCompound_next closing_bracket begun rfl skipped another, skipCompound_skipWs]
    exact ihItems fuel tail (by simp at enough; omega)
  | lastMember before beforeColon afterColon after key value ih =>
    intro fuel tail enough
    obtain ⟨fuel, rfl⟩ : ∃ n, fuel = n + 1 := ⟨fuel - 1, by omega⟩
    have begun := json_begins (.lastMember before beforeColon afterColon after key value) (closeBrace :: tail)
    have skipped := ih fuel (after.val ++ closeBrace :: tail) (stop_behind after (by decide) tail)
      (by simp at enough; omega)
    rw [← skipJsonValue_spaces fuel afterColon] at skipped
    simp only [List.append_assoc, List.cons_append] at begun ⊢
    exact skipCompound_last closing_brace begun (skipKey_text before beforeColon key _) skipped
      (following_closed after closing_brace tail)
  | @member before beforeColon afterColon after key _ rest value members ih ihMembers =>
    intro fuel tail enough
    obtain ⟨fuel, rfl⟩ : ∃ n, fuel = n + 1 := ⟨fuel - 1, by omega⟩
    have begun := json_begins (.member before beforeColon afterColon after key value members) (closeBrace :: tail)
    have skipped := ih fuel (after.val ++ comma :: (rest ++ closeBrace :: tail)) (stop_behind after (by decide) _)
      (by simp at enough; omega)
    rw [← skipJsonValue_spaces fuel afterColon] at skipped
    have another := following_another after (begun_apart closing_brace (json_begins members (closeBrace :: tail)))
    simp only [List.append_assoc, List.cons_append] at begun ⊢
    rw [skipCompound_next closing_brace begun (skipKey_text before beforeColon key _) skipped another,
      skipCompound_skipWs]
    exact ihMembers fuel tail (by simp at enough; omega)

end Values

end SigurdOS.Hal.GithubOta
