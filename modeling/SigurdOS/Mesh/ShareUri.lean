import Mathlib.Data.List.Permutation
import SigurdOS.Mesh.ChannelValidation

namespace SigurdOS.Mesh

open Bytes

section Escapes

def uriHex (c : UInt8) : Bool :=
  (c ≥ ascii '0' && c ≤ ascii '9') || (c ≥ ascii 'a' && c ≤ ascii 'f') || (c ≥ ascii 'A' && c ≤ ascii 'F')

def uriHexValue (c : UInt8) : UInt8 :=
  if c ≥ ascii '0' ∧ c ≤ ascii '9' then c - ascii '0'
  else if c ≥ ascii 'a' ∧ c ≤ ascii 'f' then c - ascii 'a' + 10
  else c - ascii 'A' + 10

def decodeUri (outSize : Nat) : List UInt8 → List UInt8 → Option (List UInt8)
  | [], out => some out
  | c :: rest, out =>
    if c = ascii '%' then
      match rest with
      | high :: low :: rest =>
        if uriHex high = false ∨ uriHex low = false then none
        else
          let decoded := uriHexValue high <<< 4 ||| uriHexValue low
          if decoded = 0 ∨ out.length + 1 ≥ outSize then none else decodeUri outSize rest (out ++ [decoded])
      | _ => none
    else
      let decoded := if c = ascii '+' then ascii ' ' else c
      if decoded = 0 ∨ out.length + 1 ≥ outSize then none else decodeUri outSize rest (out ++ [decoded])

def decodeUriComponent (src : List UInt8) (outSize : Nat) : Option (List UInt8) :=
  if outSize = 0 then none else decodeUri outSize src []

def encHex : List UInt8 :=
  ['0', '1', '2', '3', '4', '5', '6', '7', '8', '9', 'A', 'B', 'C', 'D', 'E', 'F'].map ascii

def unreserved (c : UInt8) : Bool :=
  (c ≥ ascii 'A' && c ≤ ascii 'Z') || (c ≥ ascii 'a' && c ≤ ascii 'z') || (c ≥ ascii '0' && c ≤ ascii '9') ||
    c = ascii '-' || c = ascii '_' || c = ascii '.' || c = ascii '~'

/-- The loop over the input, `none` for the overflow that returns 0. -/
def encodeUri (outSize : Nat) : List UInt8 → List UInt8 → Option (List UInt8)
  | [], out => some out
  | c :: rest, out =>
    if unreserved c then
      if out.length + 1 ≥ outSize then none else encodeUri outSize rest (out ++ [c])
    else if out.length + 3 ≥ outSize then none
    else encodeUri outSize rest
      (out ++ [ascii '%', encHex.getD (c >>> 4).toNat 0, encHex.getD (c &&& 0x0F).toNat 0])

/-- The encoded text; the call returns its length, 0 on overflow. -/
def urlEncodeQueryValue (input : List UInt8) (outSize : Nat) : Option (List UInt8) :=
  if outSize = 0 then none else encodeUri outSize (terminated input) []

end Escapes

section Parameters

def isKeyEnd (c : UInt8) : Bool := c = ascii '=' || c = ascii '&'

def isValueEnd (c : UInt8) : Bool := c = ascii '&'

def nextParam (cursor : List UInt8) : Option (List UInt8 × List UInt8 × List UInt8) :=
  let key := cursor.takeWhile fun c => !isKeyEnd c
  match cursor.drop key.length with
  | [] => none
  | c :: afterKey =>
    if c ≠ ascii '=' then none
    else
      let value := afterKey.takeWhile fun c => !isValueEnd c
      some (key, value, afterKey.drop value.length)

theorem nextParam_shorter {cursor key value rest : List UInt8} (found : nextParam cursor = some (key, value, rest)) :
    rest.length < cursor.length := by
  unfold nextParam at found
  generalize cursor.takeWhile _ = taken at found
  cases dropped : cursor.drop taken.length with
  | nil => simp [dropped] at found
  | cons c afterKey =>
    have size := congrArg List.length dropped
    rw [List.length_drop, List.length_cons] at size
    simp only [dropped] at found
    split at found
    · cases found
    · simp only [Option.some.injEq, Prod.mk.injEq] at found
      rw [← found.2.2, List.length_drop]
      omega

end Parameters

def textOf (chars : List Char) : List UInt8 := chars.map ascii

section Contact

structure ContactUriFields where
  name : List UInt8
  pubkeyHex : List UInt8
  type : UInt8
  deriving DecidableEq

structure ContactUriState where
  parsed : ContactUriFields := ⟨[], [], 1⟩
  haveName : Bool := false
  haveKey : Bool := false
  haveType : Bool := false

def contactPrefix : List UInt8 :=
  textOf ['m', 'e', 's', 'h', 'c', 'o', 'r', 'e', ':', '/', '/', 'c', 'o', 'n', 't', 'a', 'c', 't', '/', 'a',
    'd', 'd', '?']

def nameKey : List UInt8 := textOf ['n', 'a', 'm', 'e']

def publicKeyKey : List UInt8 := textOf ['p', 'u', 'b', 'l', 'i', 'c', '_', 'k', 'e', 'y']

def typeKey : List UInt8 := textOf ['t', 'y', 'p', 'e']

def contactParam (key value : List UInt8) (state : ContactUriState) : Option ContactUriState :=
  if key = nameKey then
    if state.haveName then none
    else
      match decodeUriComponent value 32 with
      | none => none
      | some name => some { state with parsed := { state.parsed with name }, haveName := true }
  else if key = publicKeyKey then
    if state.haveKey ∨ value.length ≠ 64 then none
    else if value.all uriHex = false then none
    else some { state with parsed := { state.parsed with pubkeyHex := value }, haveKey := true }
  else if key = typeKey then
    match value with
    | [digit] =>
      if state.haveType ∨ digit < ascii '1' ∨ digit > ascii '4' then none
      else some { state with parsed := { state.parsed with type := digit - ascii '0' }, haveType := true }
    | _ => none
  else some state

def contactParams (cursor : List UInt8) (state : ContactUriState) : Option ContactUriState :=
  if cursor = [] then some state
  else
    match _found : nextParam cursor with
    | none => none
    | some (key, value, rest) =>
      match contactParam key value state with
      | none => none
      | some state => contactParams (rest.drop 1) state
  termination_by cursor.length
  decreasing_by
    have shorter := nextParam_shorter _found
    rw [List.length_drop]
    omega

def parseContactAddUri (uri : List UInt8) (out : ContactUriFields) : Bool × ContactUriFields :=
  let text := terminated uri
  if contactPrefix.isPrefixOf text = false then (false, out)
  else
    match contactParams (text.drop contactPrefix.length) {} with
    | none => (false, out)
    | some state =>
      if state.haveName = false ∨ state.haveKey = false ∨ state.parsed.name = [] then (false, out)
      else (true, state.parsed)

end Contact

section Channel

structure ChannelUriFields where
  name : List UInt8
  secretHex : List UInt8
  deriving DecidableEq

structure ChannelUriState where
  parsed : ChannelUriFields := ⟨[], []⟩
  haveName : Bool := false
  haveSecret : Bool := false

def channelPrefix : List UInt8 :=
  textOf ['m', 'e', 's', 'h', 'c', 'o', 'r', 'e', ':', '/', '/', 'c', 'h', 'a', 'n', 'n', 'e', 'l', '/', 'a',
    'd', 'd', '?']

def secretKey : List UInt8 := textOf ['s', 'e', 'c', 'r', 'e', 't']

def channelParam (key value : List UInt8) (state : ChannelUriState) : Option ChannelUriState :=
  if key = nameKey then
    if state.haveName then none
    else
      match decodeUriComponent value 32 with
      | none => none
      | some name =>
        if channelNameValid name = false then none
        else some { state with parsed := { state.parsed with name }, haveName := true }
  else if key = secretKey then
    if state.haveSecret ∨ value.length ≠ 32 then none
    else if value.all uriHex = false then none
    else some { state with parsed := { state.parsed with secretHex := value }, haveSecret := true }
  else none

def channelParams (cursor : List UInt8) (state : ChannelUriState) : Option ChannelUriState :=
  if cursor = [] then some state
  else
    match _found : nextParam cursor with
    | none => none
    | some (key, value, rest) =>
      if value.length = 0 then none
      else
        match channelParam key value state with
        | none => none
        | some state =>
          if rest.length = 1 then none else channelParams (rest.drop 1) state
  termination_by cursor.length
  decreasing_by
    have shorter := nextParam_shorter _found
    rw [List.length_drop]
    omega

def parseChannelAddUri (uri : List UInt8) (out : ChannelUriFields) : Bool × ChannelUriFields :=
  let text := terminated uri
  if channelPrefix.isPrefixOf text = false then (false, out)
  else
    let cursor := text.drop channelPrefix.length
    if cursor = [] then (false, out)
    else
      match channelParams cursor {} with
      | none => (false, out)
      | some state =>
        if state.haveName = false ∨ state.haveSecret = false then (false, out) else (true, state.parsed)

end Channel

section EscapedText

def escaped (c : UInt8) : List UInt8 :=
  if unreserved c then [c] else [ascii '%', encHex.getD (c >>> 4).toNat 0, encHex.getD (c &&& 0x0F).toNat 0]

theorem unreserved_plain (c : UInt8) (plain : unreserved c = true) : c ≠ 0 ∧ c ≠ ascii '%' ∧ c ≠ ascii '+' := by
  refine ⟨?_, ?_, ?_⟩
  all_goals
    rintro rfl
    revert plain
    decide

theorem escape_digits : ∀ c : UInt8,
    uriHex (encHex.getD (c >>> 4).toNat 0) = true ∧ uriHex (encHex.getD (c &&& 0x0F).toNat 0) = true ∧
      uriHexValue (encHex.getD (c >>> 4).toNat 0) <<< 4 ||| uriHexValue (encHex.getD (c &&& 0x0F).toNat 0) = c := by
  apply forall_bytes
  decide +kernel

theorem isKeyEnd_iff {c : UInt8} : isKeyEnd c = true ↔ c = ascii '=' ∨ c = ascii '&' := by
  simp [isKeyEnd]

theorem uriHex_clean (c : UInt8) (hex : uriHex c = true) : c ≠ 0 ∧ isKeyEnd c = false := by
  constructor
  · rintro rfl
    revert hex
    decide
  · rw [← Bool.not_eq_true, isKeyEnd_iff]
    rintro (rfl | rfl)
    · revert hex
      decide
    · revert hex
      decide

theorem escaped_clean (c : UInt8) : ∀ char ∈ escaped c, char ≠ 0 ∧ isKeyEnd char = false := by
  intro char member
  obtain ⟨high, low, -⟩ := escape_digits c
  unfold escaped at member
  split at member
  · next plain =>
    obtain rfl := List.mem_singleton.mp member
    refine ⟨(unreserved_plain char plain).1, ?_⟩
    rw [← Bool.not_eq_true, isKeyEnd_iff]
    rintro (rfl | rfl)
    · revert plain
      decide
    · revert plain
      decide
  · simp only [List.mem_cons, List.not_mem_nil, or_false] at member
    rcases member with rfl | rfl | rfl
    · decide
    · exact uriHex_clean _ high
    · exact uriHex_clean _ low


theorem decodeUri_escaped {outSize : Nat} {c : UInt8} {out : List UInt8} (nonzero : c ≠ 0)
    (room : out.length + 1 < outSize) (rest : List UInt8) :
    decodeUri outSize (escaped c ++ rest) out = decodeUri outSize rest (out ++ [c]) := by
  unfold escaped
  split
  · next plain =>
    obtain ⟨-, noEscape, noPlus⟩ := unreserved_plain c plain
    rw [List.singleton_append, decodeUri.eq_def]
    simp only [if_neg noEscape, if_neg noPlus]
    rw [if_neg (by rintro (zero | full) <;> [exact nonzero zero; omega])]
  · obtain ⟨high, low, value⟩ := escape_digits c
    simp only [List.cons_append, List.nil_append]
    rw [decodeUri.eq_def]
    simp only [↓reduceIte, high, low, value, Bool.true_eq_false, or_self]
    rw [if_neg (by rintro (zero | full) <;> [exact nonzero zero; omega])]

theorem decodeUri_flatMap {outSize : Nat} {text out : List UInt8} (nonzero : ∀ c ∈ text, c ≠ 0)
    (room : out.length + text.length < outSize) :
    decodeUri outSize (text.flatMap escaped) out = some (out ++ text) := by
  induction text generalizing out with
  | nil => simp [decodeUri]
  | cons c rest ih =>
    rw [List.length_cons] at room
    rw [List.flatMap_cons, decodeUri_escaped (nonzero c (List.mem_cons_self ..)) (by omega),
      ih (fun byte listed => nonzero byte (List.mem_cons_of_mem _ listed))
        (by simp only [List.length_append, List.length_cons, List.length_nil]; omega)]
    simp

theorem encodeUri_eq {outSize : Nat} {text out : List UInt8} (room : out.length + 3 * text.length < outSize) :
    encodeUri outSize text out = some (out ++ text.flatMap escaped) := by
  induction text generalizing out with
  | nil => simp [encodeUri]
  | cons c rest ih =>
    rw [List.length_cons] at room
    rw [encodeUri, List.flatMap_cons, escaped]
    split
    · rw [if_neg (by omega), ih (by simp only [List.length_append, List.length_cons, List.length_nil]; omega)]
      simp
    · rw [if_neg (by omega), ih (by simp only [List.length_append, List.length_cons, List.length_nil]; omega)]
      simp

theorem urlEncodeQueryValue_eq {outSize : Nat} {text : List UInt8} (nonzero : ∀ c ∈ text, c ≠ 0)
    (room : 3 * text.length < outSize) : urlEncodeQueryValue text outSize = some (text.flatMap escaped) := by
  rw [urlEncodeQueryValue, if_neg (by omega), terminated_of_nonzero nonzero, encodeUri_eq (by simpa using room),
    List.nil_append]

theorem decodeUriComponent_escaped {outSize : Nat} {text : List UInt8} (nonzero : ∀ c ∈ text, c ≠ 0)
    (room : text.length < outSize) : decodeUriComponent (text.flatMap escaped) outSize = some text := by
  rw [decodeUriComponent, if_neg (by omega), decodeUri_flatMap nonzero (by simpa using room), List.nil_append]

end EscapedText

section ParameterText

structure CleanParam (param : List UInt8 × List UInt8) : Prop where
  key : ∀ c ∈ param.1, isKeyEnd c = false
  value : ∀ c ∈ param.2, isValueEnd c = false

def paramText (param : List UInt8 × List UInt8) : List UInt8 := param.1 ++ ascii '=' :: param.2

def joinParams : List (List UInt8 × List UInt8) → List UInt8
  | [] => []
  | [param] => paramText param
  | param :: next :: rest => paramText param ++ ascii '&' :: joinParams (next :: rest)

theorem takeWhile_stop {p : UInt8 → Bool} {front tail : List UInt8} (kept : ∀ c ∈ front, p c = true)
    (stops : ∀ c rest, tail = c :: rest → p c = false) : (front ++ tail).takeWhile p = front := by
  rw [List.takeWhile_append_of_pos kept]
  cases tail with
  | nil => simp
  | cons c rest => rw [List.takeWhile_cons_of_neg (by simp [stops c rest rfl]), List.append_nil]

theorem nextParam_eq {param : List UInt8 × List UInt8} {tail : List UInt8} (clean : CleanParam param)
    (separated : ∀ c rest, tail = c :: rest → c = ascii '&') :
    nextParam (paramText param ++ tail) = some (param.1, param.2, tail) := by
  obtain ⟨key, value⟩ := param
  have whole : paramText (key, value) ++ tail = key ++ ascii '=' :: (value ++ tail) := by simp [paramText]
  have keyTaken : (key ++ ascii '=' :: (value ++ tail)).takeWhile (fun c => !isKeyEnd c) = key := by
    apply takeWhile_stop
    · intro c listed
      simp [clean.key c listed]
    · rintro c rest ⟨⟩
      rfl
  have valueTaken : (value ++ tail).takeWhile (fun c => !isValueEnd c) = value := by
    apply takeWhile_stop
    · intro c listed
      simp [clean.value c listed]
    · intro c rest starts
      rw [separated c rest starts]
      rfl
  rw [whole, nextParam]
  simp only [keyTaken, List.drop_left, valueTaken, ne_eq, not_true_eq_false, ↓reduceIte]

theorem takeWhile_split (p : UInt8 → Bool) (text : List UInt8) :
    text = text.takeWhile p ++ text.drop (text.takeWhile p).length ∧
      ∀ c rest, text.drop (text.takeWhile p).length = c :: rest → p c = false := by
  induction text with
  | nil => simp
  | cons c rest ih =>
    by_cases kept : p c = true
    · rw [List.takeWhile_cons_of_pos kept]
      exact ⟨congrArg (c :: ·) ih.1, ih.2⟩
    · rw [List.takeWhile_cons_of_neg kept]
      refine ⟨rfl, ?_⟩
      rintro first later ⟨⟩
      exact Bool.eq_false_of_not_eq_true kept

theorem nextParam_some {cursor key value tail : List UInt8} (found : nextParam cursor = some (key, value, tail)) :
    CleanParam (key, value) ∧ cursor = paramText (key, value) ++ tail ∧ ∀ c rest, tail = c :: rest → c = ascii '&' := by
  unfold nextParam at found
  obtain ⟨keySplit, -⟩ := takeWhile_split (fun c => !isKeyEnd c) cursor
  cases dropped : cursor.drop (cursor.takeWhile fun c => !isKeyEnd c).length with
  | nil => simp [dropped] at found
  | cons c afterKey =>
    simp only [dropped] at found
    split at found
    · cases found
    · next equals =>
      obtain ⟨valueSplit, stop⟩ := takeWhile_split (fun c => !isValueEnd c) afterKey
      simp only [Option.some.injEq, Prod.mk.injEq] at found
      obtain ⟨rfl, rfl, rfl⟩ := found
      refine ⟨⟨?_, ?_⟩, ?_, ?_⟩
      · intro c listed
        simpa using List.mem_takeWhile_imp listed
      · intro c listed
        simpa using List.mem_takeWhile_imp listed
      · rw [dropped, not_not.mp equals] at keySplit
        rw [paramText, List.append_assoc, List.cons_append, ← valueSplit]
        exact keySplit
      · intro c rest starts
        simpa [isValueEnd] using stop c rest starts

end ParameterText

section Folds

theorem contactParams_step {cursor : List UInt8} (filled : cursor ≠ []) (state : ContactUriState) :
    contactParams cursor state =
      (nextParam cursor).bind fun found =>
        (contactParam found.1 found.2.1 state).bind (contactParams (found.2.2.drop 1)) := by
  rw [contactParams, if_neg filled]
  split
  · next none => rw [none, Option.bind_none]
  · next key value rest found =>
    rw [found, Option.bind_some]
    cases contactParam key value state <;> rfl

theorem channelParams_step {cursor : List UInt8} (filled : cursor ≠ []) (state : ChannelUriState) :
    channelParams cursor state =
      (nextParam cursor).bind fun found =>
        if found.2.1.length = 0 then none
        else (channelParam found.1 found.2.1 state).bind fun state =>
          if found.2.2.length = 1 then none else channelParams (found.2.2.drop 1) state := by
  rw [channelParams, if_neg filled]
  split
  · next none => rw [none, Option.bind_none]
  · next key value rest found =>
    rw [found, Option.bind_some]
    cases channelParam key value state <;> rfl

theorem joinParams_cons (param : List UInt8 × List UInt8) (rest : List (List UInt8 × List UInt8)) :
    ∃ tail, joinParams (param :: rest) = paramText param ++ tail ∧
      (∀ c later, tail = c :: later → c = ascii '&') ∧ tail.drop 1 = joinParams rest ∧ tail.length ≠ 1 := by
  cases rest with
  | nil => exact ⟨[], by simp [joinParams], nofun, rfl, by decide⟩
  | cons next rest =>
    refine ⟨ascii '&' :: joinParams (next :: rest), rfl, ?_, rfl, ?_⟩
    · rintro c later ⟨⟩
      rfl
    · cases rest <;> simp [joinParams, paramText]

theorem paramText_ne_nil {param : List UInt8 × List UInt8} {tail : List UInt8} : paramText param ++ tail ≠ [] := by
  simp [paramText]

variable {params : List (List UInt8 × List UInt8)}

theorem contactParams_join (clean : ∀ param ∈ params, CleanParam param) (state : ContactUriState) :
    contactParams (joinParams params) state =
      params.foldlM (fun state param => contactParam param.1 param.2 state) state := by
  induction params generalizing state with
  | nil => simp [joinParams, contactParams]
  | cons param rest ih =>
    obtain ⟨tail, joined, separated, dropped, -⟩ := joinParams_cons param rest
    rw [joined, contactParams_step paramText_ne_nil, nextParam_eq (clean param (List.mem_cons_self ..)) separated,
      List.foldlM_cons, Option.bind_some, dropped]
    congr 1
    funext next
    exact ih (fun other listed => clean other (List.mem_cons_of_mem _ listed)) next

theorem channelParams_join (clean : ∀ param ∈ params, CleanParam param) (valued : ∀ param ∈ params, param.2 ≠ [])
    (state : ChannelUriState) :
    channelParams (joinParams params) state =
      params.foldlM (fun state param => channelParam param.1 param.2 state) state := by
  induction params generalizing state with
  | nil => simp [joinParams, channelParams]
  | cons param rest ih =>
    obtain ⟨tail, joined, separated, dropped, longer⟩ := joinParams_cons param rest
    have filled : param.2.length ≠ 0 := by simpa using valued param (List.mem_cons_self ..)
    rw [joined, channelParams_step paramText_ne_nil, nextParam_eq (clean param (List.mem_cons_self ..)) separated,
      List.foldlM_cons, Option.bind_some, dropped, if_neg filled]
    simp only [if_neg longer]
    congr 1
    funext next
    exact ih (fun other listed => clean other (List.mem_cons_of_mem _ listed))
      (fun other listed => valued other (List.mem_cons_of_mem _ listed)) next

theorem channelParams_some {cursor : List UInt8} {state final : ChannelUriState} (filled : cursor ≠ [])
    (parsed : channelParams cursor state = some final) :
    ∃ params, params ≠ [] ∧ cursor = joinParams params ∧ (∀ param ∈ params, CleanParam param) ∧
      params.foldlM (fun state param => channelParam param.1 param.2 state) state = some final := by
  induction size : cursor.length using Nat.strong_induction_on generalizing cursor state with
  | _ size ih =>
    rw [channelParams_step filled] at parsed
    obtain ⟨⟨key, value, tail⟩, found, parsed⟩ := Option.bind_eq_some_iff.mp parsed
    split at parsed
    · cases parsed
    · obtain ⟨next, accepted, parsed⟩ := Option.bind_eq_some_iff.mp parsed
      split at parsed
      · cases parsed
      · next longer =>
        have shorter := nextParam_shorter found
        obtain ⟨clean, whole, separated⟩ := nextParam_some found
        cases tail with
        | nil =>
          rw [List.drop_nil, channelParams, if_pos rfl] at parsed
          refine ⟨[(key, value)], by simp, by simpa [joinParams] using whole, by simpa using clean, ?_⟩
          simpa [accepted] using parsed
        | cons c later =>
          obtain rfl := separated c later rfl
          have remaining : later ≠ [] := by
            rintro rfl
            exact longer rfl
          simp only [List.drop_succ_cons, List.drop_zero] at parsed
          rw [List.length_cons] at shorter
          obtain ⟨params, nonempty, joined, cleans, folded⟩ := ih later.length (by omega) remaining parsed rfl
          refine ⟨(key, value) :: params, by simp, ?_, ?_, ?_⟩
          · obtain ⟨param, rest, rfl⟩ := List.exists_cons_of_ne_nil nonempty
            rw [whole, joined]
            rfl
          · intro param listed
            rcases List.mem_cons.mp listed with rfl | listed
            · exact clean
            · exact cleans param listed
          · rw [List.foldlM_cons]
            simpa [accepted] using folded

end Folds

section RoundTrips

theorem contactParam_name {value name : List UInt8} {state : ContactUriState}
    (decoded : decodeUriComponent value 32 = some name) (unseen : state.haveName = false) :
    contactParam nameKey value state = some { state with parsed := { state.parsed with name }, haveName := true } := by
  simp [contactParam, decoded, unseen]

theorem contactParam_publicKey {value : List UInt8} {state : ContactUriState} (size : value.length = 64)
    (digits : value.all uriHex = true) (unseen : state.haveKey = false) :
    contactParam publicKeyKey value state =
      some { state with parsed := { state.parsed with pubkeyHex := value }, haveKey := true } := by
  have other : publicKeyKey ≠ nameKey := by decide
  simp only [contactParam, if_neg other, ↓reduceIte, unseen, size, digits, Bool.false_eq_true, ne_eq,
    not_true_eq_false, or_self, Bool.true_eq_false]

theorem typeDigit : ∀ type : UInt8, 1 ≤ type → type ≤ 4 →
    ¬ (ascii '0' + type < ascii '1' ∨ ascii '0' + type > ascii '4') ∧ ascii '0' + type - ascii '0' = type ∧
      ascii '0' + type ≠ 0 ∧ isValueEnd (ascii '0' + type) = false := by
  apply forall_bytes
  decide +kernel

theorem contactParam_type {type : UInt8} {state : ContactUriState} (low : 1 ≤ type) (high : type ≤ 4)
    (unseen : state.haveType = false) :
    contactParam typeKey [ascii '0' + type] state =
      some { state with parsed := { state.parsed with type }, haveType := true } := by
  obtain ⟨inside, value, -⟩ := typeDigit type low high
  have notName : typeKey ≠ nameKey := by decide
  have notKey : typeKey ≠ publicKeyKey := by decide
  simp only [contactParam, if_neg notName, if_neg notKey, ↓reduceIte, unseen, Bool.false_eq_true, false_or,
    if_neg inside, value]

theorem channelParam_name {value name : List UInt8} {state : ChannelUriState}
    (decoded : decodeUriComponent value 32 = some name) (valid : channelNameValid name = true)
    (unseen : state.haveName = false) :
    channelParam nameKey value state = some { state with parsed := { state.parsed with name }, haveName := true } := by
  simp [channelParam, decoded, valid, unseen]

theorem channelParam_secret {value : List UInt8} {state : ChannelUriState} (size : value.length = 32)
    (digits : value.all uriHex = true) (unseen : state.haveSecret = false) :
    channelParam secretKey value state =
      some { state with parsed := { state.parsed with secretHex := value }, haveSecret := true } := by
  have other : secretKey ≠ nameKey := by decide
  simp only [channelParam, if_neg other, ↓reduceIte, unseen, size, digits, Bool.false_eq_true, ne_eq,
    not_true_eq_false, or_self, Bool.true_eq_false]

theorem perm_three {α : Type} {a b c : α} {values : List α} (order : values.Perm [a, b, c]) :
    values = [a, b, c] ∨ values = [b, a, c] ∨ values = [b, c, a] ∨ values = [a, c, b] ∨ values = [c, a, b] ∨
      values = [c, b, a] := by
  have listed := List.mem_permutations'.mpr order
  simpa [List.permutations', List.permutations'Aux, or_assoc] using listed

theorem perm_two {α : Type} {a b : α} {values : List α} (order : values.Perm [a, b]) :
    values = [a, b] ∨ values = [b, a] := by
  have listed := List.mem_permutations'.mpr order
  simpa [List.permutations', List.permutations'Aux] using listed

theorem isValueEnd_of_isKeyEnd {c : UInt8} (clean : isKeyEnd c = false) : isValueEnd c = false := by
  simp only [isKeyEnd, Bool.or_eq_false_iff] at clean
  exact clean.2

theorem cleanParam_hex {key value : List UInt8} (keyClean : ∀ c ∈ key, isKeyEnd c = false)
    (digits : value.all uriHex = true) : CleanParam (key, value) where
  key := keyClean
  value c listed := isValueEnd_of_isKeyEnd (uriHex_clean c (List.all_eq_true.mp digits c listed)).2

theorem cleanParam_escaped {key text : List UInt8} (keyClean : ∀ c ∈ key, isKeyEnd c = false) :
    CleanParam (key, text.flatMap escaped) where
  key := keyClean
  value c listed := by
    obtain ⟨byte, -, inside⟩ := List.mem_flatMap.mp listed
    exact isValueEnd_of_isKeyEnd (escaped_clean byte c inside).2

theorem paramText_nonzero {key value : List UInt8} (keyNonzero : ∀ c ∈ key, c ≠ 0) (valueNonzero : ∀ c ∈ value, c ≠ 0) :
    ∀ c ∈ paramText (key, value), c ≠ 0 := by
  intro c listed
  simp only [paramText, List.mem_append, List.mem_cons] at listed
  rcases listed with listed | rfl | listed
  · exact keyNonzero c listed
  · decide
  · exact valueNonzero c listed

theorem joinParams_nonzero {params : List (List UInt8 × List UInt8)}
    (nonzero : ∀ param ∈ params, ∀ c ∈ paramText param, c ≠ 0) : ∀ c ∈ joinParams params, c ≠ 0 := by
  induction params with
  | nil => nofun
  | cons param rest ih =>
    intro c listed
    have later := ih fun other member => nonzero other (List.mem_cons_of_mem _ member)
    cases rest with
    | nil => exact nonzero param (List.mem_cons_self ..) c listed
    | cons next rest =>
      simp only [joinParams, List.mem_append, List.mem_cons] at listed
      rcases listed with listed | rfl | listed
      · exact nonzero param (List.mem_cons_self ..) c listed
      · decide
      · exact later c listed

theorem parseContactAddUri_of_params {params : List (List UInt8 × List UInt8)} {fields : ContactUriFields}
    {seenType : Bool} {out : ContactUriFields} (clean : ∀ param ∈ params, CleanParam param)
    (nonzero : ∀ param ∈ params, ∀ c ∈ paramText param, c ≠ 0) (named : fields.name ≠ [])
    (folded : params.foldlM (fun state param => contactParam param.1 param.2 state) {} =
      some ⟨fields, true, true, seenType⟩) :
    parseContactAddUri (contactPrefix ++ joinParams params) out = (true, fields) := by
  have text : terminated (contactPrefix ++ joinParams params) = contactPrefix ++ joinParams params := by
    apply terminated_of_nonzero
    have prefixNonzero : ∀ c ∈ contactPrefix, c ≠ 0 := by decide
    intro c listed
    rcases List.mem_append.mp listed with listed | listed
    · exact prefixNonzero c listed
    · exact joinParams_nonzero nonzero c listed
  have starts : contactPrefix.isPrefixOf (contactPrefix ++ joinParams params) = true :=
    List.isPrefixOf_iff_prefix.mpr (List.prefix_append _ _)
  simp only [parseContactAddUri, text, starts, List.drop_left, contactParams_join clean, folded, named,
    Bool.true_eq_false, or_self, ↓reduceIte]

theorem contact_uri_parsed {name keyHex encoded : List UInt8} {type : UInt8} {outSize : Nat}
    {params : List (List UInt8 × List UInt8)} (out : ContactUriFields) (named : name ≠ []) (short : name.length ≤ 31)
    (nonzero : ∀ c ∈ name, c ≠ 0) (size : keyHex.length = 64) (digits : keyHex.all uriHex = true) (low : 1 ≤ type)
    (high : type ≤ 4) (room : 3 * 31 < outSize) (encodes : urlEncodeQueryValue name outSize = some encoded)
    (order : params.Perm [(nameKey, encoded), (publicKeyKey, keyHex), (typeKey, [ascii '0' + type])]) :
    parseContactAddUri (contactPrefix ++ joinParams params) out = (true, ⟨name, keyHex, type⟩) := by
  rw [urlEncodeQueryValue_eq nonzero (by omega), Option.some.injEq] at encodes
  subst encodes
  have decoded : decodeUriComponent (name.flatMap escaped) 32 = some name :=
    decodeUriComponent_escaped nonzero (by omega)
  obtain ⟨-, -, digit, digitClean⟩ := typeDigit type low high
  have folded : params.foldlM (fun state param => contactParam param.1 param.2 state) {} =
      some ⟨⟨name, keyHex, type⟩, true, true, true⟩ := by
    rcases perm_three order with rfl | rfl | rfl | rfl | rfl | rfl <;>
      simp only [List.foldlM_cons, List.foldlM_nil, Option.bind_eq_bind, Option.bind_some, Option.pure_def,
        contactParam_name decoded, contactParam_publicKey size digits, contactParam_type low high]
  refine parseContactAddUri_of_params ?_ ?_ named folded
  · intro param listed
    have known := order.mem_iff.mp listed
    simp only [List.mem_cons, List.not_mem_nil, or_false] at known
    rcases known with rfl | rfl | rfl
    · exact cleanParam_escaped (by decide)
    · exact cleanParam_hex (by decide) digits
    · exact ⟨show ∀ c ∈ typeKey, isKeyEnd c = false by decide, by simpa using digitClean⟩
  · intro param listed
    have known := order.mem_iff.mp listed
    simp only [List.mem_cons, List.not_mem_nil, or_false] at known
    rcases known with rfl | rfl | rfl
    · refine paramText_nonzero (by decide) fun c inside => ?_
      obtain ⟨byte, -, inside⟩ := List.mem_flatMap.mp inside
      exact (escaped_clean byte c inside).1
    · exact paramText_nonzero (by decide) fun c inside => (uriHex_clean c (List.all_eq_true.mp digits c inside)).1
    · exact paramText_nonzero (by decide) (by simpa using digit)

end RoundTrips

section ChannelGrammar

theorem channelParam_cases {key value : List UInt8} {state next : ChannelUriState}
    (accepted : channelParam key value state = some next) :
    (key = nameKey ∧ state.haveName = false ∧ ∃ name, decodeUriComponent value 32 = some name ∧
      channelNameValid name = true ∧
      next = { state with parsed := { state.parsed with name }, haveName := true }) ∨
    (key = secretKey ∧ state.haveSecret = false ∧ value.length = 32 ∧ value.all uriHex = true ∧
      next = { state with parsed := { state.parsed with secretHex := value }, haveSecret := true }) := by
  unfold channelParam at accepted
  split at accepted
  · next isName =>
    left
    split at accepted
    · cases accepted
    · next unseen =>
      split at accepted
      · cases accepted
      · next name decoded =>
        split at accepted
        · cases accepted
        · next valid =>
          cases accepted
          exact ⟨isName, by simpa using unseen, name, decoded, by simpa using valid, rfl⟩
  · split at accepted
    · next isSecret =>
      right
      split at accepted
      · cases accepted
      · next fits =>
        split at accepted
        · cases accepted
        · next digits =>
          cases accepted
          push Not at fits
          exact ⟨isSecret, by simpa using fits.1, fits.2, by simpa using digits, rfl⟩
    · cases accepted

/-- A channel text: a name that decodes to a valid one and a secret of 32 digits, in either order. -/
structure ChannelText (text : List UInt8) (fields : ChannelUriFields) : Prop where
  shape : ∃ value params, params.Perm [(nameKey, value), (secretKey, fields.secretHex)] ∧
    text = channelPrefix ++ joinParams params ∧ (∀ c ∈ value, isValueEnd c = false) ∧
    decodeUriComponent value 32 = some fields.name
  valid : channelNameValid fields.name = true
  size : fields.secretHex.length = 32
  digits : fields.secretHex.all uriHex = true

theorem channelParams_both {params : List (List UInt8 × List UInt8)} {final : ChannelUriState}
    (folded : params.foldlM (fun state param => channelParam param.1 param.2 state) {} = some final)
    (haveName : final.haveName = true) (haveSecret : final.haveSecret = true) :
    ∃ value, params.Perm [(nameKey, value), (secretKey, final.parsed.secretHex)] ∧
      decodeUriComponent value 32 = some final.parsed.name ∧ channelNameValid final.parsed.name = true ∧
      final.parsed.secretHex.length = 32 ∧ final.parsed.secretHex.all uriHex = true := by
  match params, folded with
  | [], folded =>
    cases folded
    cases haveName
  | [(key, value)], folded =>
    rw [List.foldlM_cons] at folded
    obtain ⟨middle, first, folded⟩ := Option.bind_eq_some_iff.mp folded
    cases folded
    rcases channelParam_cases first with ⟨-, -, name, -, -, rfl⟩ | ⟨-, -, -, -, rfl⟩
    · cases haveSecret
    · cases haveName
  | (key, value) :: (other, second) :: rest, folded =>
    rw [List.foldlM_cons] at folded
    obtain ⟨middle, first, folded⟩ := Option.bind_eq_some_iff.mp folded
    rw [List.foldlM_cons] at folded
    obtain ⟨both, next, folded⟩ := Option.bind_eq_some_iff.mp folded
    have last : rest = [] ∧ both = final ∨ both.haveName = false ∨ both.haveSecret = false := by
      cases rest with
      | nil =>
        cases folded
        exact .inl ⟨rfl, rfl⟩
      | cons param rest =>
        right
        rw [List.foldlM_cons] at folded
        obtain ⟨after, third, -⟩ := Option.bind_eq_some_iff.mp folded
        rcases channelParam_cases third with ⟨-, unseen, -⟩ | ⟨-, unseen, -⟩
        · exact .inl unseen
        · exact .inr unseen
    rcases channelParam_cases first with ⟨rfl, -, name, decoded, valid, rfl⟩ | ⟨rfl, -, size, digits, rfl⟩ <;>
      rcases channelParam_cases next with ⟨rfl, unseen, name, decoded, valid, rfl⟩ | ⟨rfl, unseen, size, digits, rfl⟩
    · cases unseen
    · rcases last with ⟨rfl, rfl⟩ | missing | missing
      · exact ⟨value, .refl _, decoded, valid, size, digits⟩
      · cases missing
      · cases missing
    · rcases last with ⟨rfl, rfl⟩ | missing | missing
      · exact ⟨second, .swap _ _ _, decoded, valid, size, digits⟩
      · cases missing
      · cases missing
    · cases unseen

theorem channelPrefix_nonzero : ∀ c ∈ channelPrefix, c ≠ 0 := by decide

theorem channelNameValid_nil : channelNameValid [] = false := by decide

theorem parseChannelAddUri_true_iff {uri : List UInt8} {out fields : ChannelUriFields} :
    parseChannelAddUri uri out = (true, fields) ↔ ChannelText (terminated uri) fields := by
  unfold parseChannelAddUri
  constructor
  · intro accepted
    simp only at accepted
    split at accepted
    · cases accepted
    · next starts =>
      split at accepted
      · cases accepted
      · next filled =>
        split at accepted
        · cases accepted
        · next state parsed =>
          split at accepted
          · cases accepted
          · next both =>
            cases accepted
            push Not at both
            obtain ⟨params, -, joined, clean, folded⟩ := channelParams_some filled parsed
            obtain ⟨value, order, decoded, valid, size, digits⟩ :=
              channelParams_both folded (by simpa using both.1) (by simpa using both.2)
            have inside : (nameKey, value) ∈ params := order.mem_iff.mpr (List.mem_cons_self ..)
            obtain ⟨rest, whole⟩ := List.isPrefixOf_iff_prefix.mp (Bool.eq_true_of_not_eq_false starts)
            rw [← whole, List.drop_left] at joined
            refine ⟨⟨value, params, order, ?_, (clean _ inside).value, decoded⟩, valid, size, digits⟩
            rw [← whole, joined]
  · rintro ⟨⟨value, params, order, whole, ends, decoded⟩, valid, size, digits⟩
    have valued : value ≠ [] := by
      rintro rfl
      have unnamed : fields.name = [] := by simpa [decodeUriComponent, decodeUri] using decoded.symm
      rw [unnamed, channelNameValid_nil] at valid
      cases valid
    have secret : fields.secretHex ≠ [] := List.ne_nil_of_length_pos (by omega)
    have either {p : List UInt8 × List UInt8 → Prop} (name : p (nameKey, value))
        (digits : p (secretKey, fields.secretHex)) : ∀ param ∈ params, p param := by
      intro param listed
      have known := order.mem_iff.mp listed
      simp only [List.mem_cons, List.not_mem_nil, or_false] at known
      rcases known with rfl | rfl
      · exact name
      · exact digits
    have clean : ∀ param ∈ params, CleanParam param :=
      either ⟨show ∀ c ∈ nameKey, isKeyEnd c = false by decide, ends⟩ (cleanParam_hex (by decide) digits)
    have folded : params.foldlM (fun state param => channelParam param.1 param.2 state) {} =
        some ⟨fields, true, true⟩ := by
      rcases perm_two order with rfl | rfl <;>
        simp only [List.foldlM_cons, List.foldlM_nil, Option.bind_eq_bind, Option.bind_some, Option.pure_def,
          channelParam_name decoded valid, channelParam_secret size digits]
    have filled : joinParams params ≠ [] := by
      rcases perm_two order with rfl | rfl <;> exact paramText_ne_nil
    have starts : channelPrefix.isPrefixOf (channelPrefix ++ joinParams params) = true :=
      List.isPrefixOf_iff_prefix.mpr (List.prefix_append _ _)
    simp only [whole, starts, List.drop_left, filled, channelParams_join clean (either valued secret), folded,
      Bool.true_eq_false, or_self, ↓reduceIte]

theorem channel_uri_parsed {name secretHex encoded : List UInt8} {outSize : Nat}
    {params : List (List UInt8 × List UInt8)} (out : ChannelUriFields) (valid : channelNameValid name = true)
    (short : name.length ≤ 31) (nonzero : ∀ c ∈ name, c ≠ 0) (size : secretHex.length = 32)
    (digits : secretHex.all uriHex = true) (room : 3 * 31 < outSize)
    (encodes : urlEncodeQueryValue name outSize = some encoded)
    (order : params.Perm [(nameKey, encoded), (secretKey, secretHex)]) :
    parseChannelAddUri (channelPrefix ++ joinParams params) out = (true, ⟨name, secretHex⟩) := by
  rw [urlEncodeQueryValue_eq nonzero (by omega), Option.some.injEq] at encodes
  subst encodes
  have text : terminated (channelPrefix ++ joinParams params) = channelPrefix ++ joinParams params := by
    apply terminated_of_nonzero
    intro c listed
    rcases List.mem_append.mp listed with listed | listed
    · exact channelPrefix_nonzero c listed
    · refine joinParams_nonzero ?_ c listed
      intro param member
      have known := order.mem_iff.mp member
      simp only [List.mem_cons, List.not_mem_nil, or_false] at known
      rcases known with rfl | rfl
      · refine paramText_nonzero (by decide) fun c inside => ?_
        obtain ⟨byte, -, inside⟩ := List.mem_flatMap.mp inside
        exact (escaped_clean byte c inside).1
      · exact paramText_nonzero (by decide) fun c inside => (uriHex_clean c (List.all_eq_true.mp digits c inside)).1
  rw [parseChannelAddUri_true_iff, text]
  refine ⟨⟨name.flatMap escaped, params, order, rfl, ?_, ?_⟩, valid, size, digits⟩
  · exact (cleanParam_escaped (show ∀ c ∈ nameKey, isKeyEnd c = false by decide)).value
  · exact decodeUriComponent_escaped nonzero (by omega)

theorem parseContactAddUri_unchanged {uri : List UInt8} {out : ContactUriFields}
    (refused : (parseContactAddUri uri out).1 = false) : (parseContactAddUri uri out).2 = out := by
  revert refused
  unfold parseContactAddUri
  dsimp only
  split
  · exact fun _ => rfl
  · split
    · exact fun _ => rfl
    · split
      · exact fun _ => rfl
      · nofun

theorem parseChannelAddUri_unchanged {uri : List UInt8} {out : ChannelUriFields}
    (refused : (parseChannelAddUri uri out).1 = false) : (parseChannelAddUri uri out).2 = out := by
  revert refused
  unfold parseChannelAddUri
  dsimp only
  split
  · exact fun _ => rfl
  · split
    · exact fun _ => rfl
    · split
      · exact fun _ => rfl
      · split
        · exact fun _ => rfl
        · nofun

end ChannelGrammar

/-- Both kinds of share text come back as they were built, the channel texts accepted are exactly the channel texts,
and a refused text changes nothing. -/
theorem share_uris_exact :
    (∀ (name keyHex encoded : List UInt8) (type : UInt8) (outSize : Nat) (params : List (List UInt8 × List UInt8))
      (out : ContactUriFields), 1 ≤ name.length → name.length ≤ 31 → (∀ c ∈ name, c ≠ 0) → keyHex.length = 64 →
      keyHex.all uriHex = true → 1 ≤ type → type ≤ 4 → 3 * 31 < outSize →
      urlEncodeQueryValue name outSize = some encoded →
      params.Perm [(nameKey, encoded), (publicKeyKey, keyHex), (typeKey, [ascii '0' + type])] →
        parseContactAddUri (contactPrefix ++ joinParams params) out = (true, ⟨name, keyHex, type⟩)) ∧
    (∀ (name secretHex encoded : List UInt8) (outSize : Nat) (params : List (List UInt8 × List UInt8))
      (out : ChannelUriFields), channelNameValid name = true → name.length ≤ 31 → (∀ c ∈ name, c ≠ 0) →
      secretHex.length = 32 → secretHex.all uriHex = true → 3 * 31 < outSize →
      urlEncodeQueryValue name outSize = some encoded →
      params.Perm [(nameKey, encoded), (secretKey, secretHex)] →
        parseChannelAddUri (channelPrefix ++ joinParams params) out = (true, ⟨name, secretHex⟩)) ∧
    (∀ (uri : List UInt8) (out fields : ChannelUriFields),
      parseChannelAddUri uri out = (true, fields) ↔ ChannelText (terminated uri) fields) ∧
    (∀ (name : List UInt8) (outSize : Nat), name.length ≤ 31 → 3 * 31 < outSize →
      (urlEncodeQueryValue name outSize).isSome) ∧
    (∀ uri out, (parseContactAddUri uri out).1 = false → (parseContactAddUri uri out).2 = out) ∧
    (∀ uri out, (parseChannelAddUri uri out).1 = false → (parseChannelAddUri uri out).2 = out) := by
  refine ⟨?_, ?_, ?_, ?_, ?_, ?_⟩
  · intro name keyHex encoded type outSize params out named short nonzero size digits low high room encodes order
    exact contact_uri_parsed out (List.ne_nil_of_length_pos named) short nonzero size digits low high room encodes order
  · intro name secretHex encoded outSize params out valid short nonzero size digits room encodes order
    exact channel_uri_parsed out valid short nonzero size digits room encodes order
  · intro uri out fields
    exact parseChannelAddUri_true_iff
  · intro name outSize short room
    have size := length_terminated_le name
    rw [urlEncodeQueryValue, if_neg (by omega), encodeUri_eq (by simp only [List.length_nil]; omega)]
    rfl
  · intro uri out refused
    exact parseContactAddUri_unchanged refused
  · intro uri out refused
    exact parseChannelAddUri_unchanged refused

end SigurdOS.Mesh
