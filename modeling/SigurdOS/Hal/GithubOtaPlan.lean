import SigurdOS.Library.JsonText
import SigurdOS.Mesh.Base64

namespace SigurdOS.Hal.GithubOta

open JsonText
open Mesh (ascii)

/-- Why a reader gives up: the text, the fuel of a loop or of the recursion, or a pointer behind the terminator. -/
inductive Stop where
  | invalid
  | outOfFuel
  | overrun
  deriving DecidableEq

section Reading

/-- A C string is the text in front of its terminator, and a pointer into it is the text that is left. -/
def skipWs (p : List UInt8) : List UInt8 := skipSpace p

def advance (count : Nat) (p : List UInt8) : Except Stop (List UInt8) :=
  if count ≤ p.length then .ok (p.drop count) else .error .overrun

/-- The next character is put into a buffer of that size, as long as there is room in front of the terminator. -/
def put (outSize : Nat) (out : List UInt8) (c : UInt8) : List UInt8 :=
  if out.length < outSize - 1 then out ++ [c] else out

def unescape (c : UInt8) : UInt8 :=
  if c = ascii 'n' then 10 else if c = ascii 'r' then 13 else if c = ascii 't' then 9 else c

def readBody (outSize : Nat) : Bool → List UInt8 → List UInt8 → Except Stop (List UInt8 × List UInt8)
  | _, _, [] => .error .invalid
  | true, out, c :: p => readBody outSize false (put outSize out (unescape c)) p
  | false, out, c :: p =>
    if c = backslash then readBody outSize true out p
    else if c = quote then .ok (out, p)
    else readBody outSize false (put outSize out c) p

def readJsonString (p : List UInt8) (outSize : Nat) : Except Stop (List UInt8 × List UInt8) :=
  match skipWs p with
  | [] => .error .invalid
  | c :: p => if c = quote then readBody outSize false [] p else .error .invalid

def skipString (p : List UInt8) : Except Stop (List UInt8) := (readJsonString p 1).map Prod.snd

def skipBareToken (p : List UInt8) : Except Stop (List UInt8) :=
  let start := skipWs p
  let rest := start.dropWhile fun c => !isStop c
  if rest.length = start.length then .error .invalid else .ok rest

def expect (c : UInt8) (p : List UInt8) : Except Stop (List UInt8) :=
  match skipWs p with
  | [] => .error .invalid
  | d :: rest => if d = c then .ok rest else .error .invalid

inductive Following where
  | another (p : List UInt8)
  | closed (p : List UInt8)

def following (close : UInt8) (p : List UInt8) : Except Stop Following :=
  match skipWs p with
  | [] => .error .invalid
  | c :: rest =>
    if c = comma then
      if (skipWs rest).head? = some close then .error .invalid else .ok (.another (skipWs rest))
    else if c = close then .ok (.closed rest)
    else .error .invalid

def skipKey (opening : UInt8) (p : List UInt8) : Except Stop (List UInt8) :=
  if opening = openBrace then do expect colon (← skipString p) else .ok p

mutual

def skipJsonValue : Nat → List UInt8 → Except Stop (List UInt8)
  | 0, _ => .error .outOfFuel
  | fuel + 1, p =>
    match skipWs p with
    | [] => .error .invalid
    | c :: rest =>
      if c = quote then skipString (c :: rest)
      else if c = openBrace then skipCompound fuel openBrace closeBrace rest
      else if c = openBracket then skipCompound fuel openBracket closeBracket rest
      else skipBareToken (c :: rest)

def skipCompound : Nat → UInt8 → UInt8 → List UInt8 → Except Stop (List UInt8)
  | 0, _, _, _ => .error .outOfFuel
  | fuel + 1, opening, close, p =>
    match skipWs p with
    | [] => .error .invalid
    | c :: rest =>
      if c = close then .ok rest
      else do
        let p ← skipKey opening (c :: rest)
        let p ← skipJsonValue fuel p
        match ← following close p with
        | .another p => skipCompound fuel opening close p
        | .closed p => return p

end

def trueText : List UInt8 := "true".toList.map ascii
def falseText : List UInt8 := "false".toList.map ascii

def readBool (p : List UInt8) : Except Stop (Bool × List UInt8) :=
  let p := skipWs p
  if trueText.isPrefixOf p then do return (true, ← advance 4 p)
  else if falseText.isPrefixOf p then do return (false, ← advance 5 p)
  else .error .invalid

end Reading

section Selection

def tagName : List UInt8 := "tag_name".toList.map ascii
def targetCommitish : List UInt8 := "target_commitish".toList.map ascii
def prereleaseKey : List UInt8 := "prerelease".toList.map ascii

structure ReleaseFields where
  tag : List UInt8
  target : List UInt8
  prerelease : Bool
  deriving DecidableEq

def readMember (fuel : Nat) (key : List UInt8) (fields : ReleaseFields) (p : List UInt8) :
    Except Stop (ReleaseFields × List UInt8) :=
  if key = tagName then do
    let (tag, p) ← readJsonString p 96
    return ({ fields with tag := tag }, p)
  else if key = targetCommitish then do
    let (target, p) ← readJsonString p 32
    return ({ fields with target := target }, p)
  else if key = prereleaseKey then do
    let (prerelease, p) ← readBool p
    return ({ fields with prerelease := prerelease }, p)
  else do
    let p ← skipJsonValue fuel p
    return (fields, p)

/-- The loop of `parseReleaseObject`, behind the opening brace; `fuel` is for its turns, `depth` for the values. -/
def releaseMembers (depth : Nat) : Nat → ReleaseFields → List UInt8 → Except Stop (ReleaseFields × List UInt8)
  | 0, _, _ => .error .outOfFuel
  | fuel + 1, fields, p =>
    match skipWs p with
    | [] => .error .invalid
    | c :: rest =>
      if c = closeBrace then .ok (fields, rest)
      else do
        let (key, p) ← readJsonString (c :: rest) 32
        let p ← expect colon p
        let (fields, p) ← readMember depth key fields p
        match ← following closeBrace p with
        | .another p => releaseMembers depth fuel fields p
        | .closed p => return (fields, p)

def parseReleaseObject (fuel : Nat) (p : List UInt8) : Except Stop (ReleaseFields × List UInt8) :=
  match skipWs p with
  | [] => .error .invalid
  | c :: rest => if c = openBrace then releaseMembers fuel fuel ⟨[], [], false⟩ rest else .error .invalid

def latest : List UInt8 := "latest".toList.map ascii
def main : List UInt8 := "main".toList.map ascii
def dev : List UInt8 := "dev".toList.map ascii

def isSupportedReleaseChannel (branch : List UInt8) : Bool := branch == latest || branch == main || branch == dev

def branchNeedsReleaseApi (branch : List UInt8) (allowPrerelease : Bool) : Bool :=
  isSupportedReleaseChannel branch && (branch != latest || allowPrerelease)

def eligible (branch : List UInt8) (allowPrerelease : Bool) (fields : ReleaseFields) : Bool :=
  !fields.tag.isEmpty && (branch == latest || fields.target == branch) && (allowPrerelease || !fields.prerelease)

inductive ReleaseSelectionResult where
  | invalidJson
  | noMatch
  | matched
  deriving DecidableEq

/-- The array loop: the first release that is eligible, at the end of a text that is whole. -/
def releases (branch : List UInt8) (allowPrerelease : Bool) (depth : Nat) :
    Nat → Option ReleaseFields → List UInt8 → Except Stop (Option ReleaseFields)
  | 0, _, _ => .error .outOfFuel
  | fuel + 1, found, p =>
    match skipWs p with
    | [] => .error .invalid
    | c :: rest =>
      if c = closeBracket then if skipWs rest = [] then .ok found else .error .invalid
      else if c = openBrace then do
        let (fields, p) ← parseReleaseObject depth (c :: rest)
        let found := if found.isNone && eligible branch allowPrerelease fields then some fields else found
        match ← following closeBracket p with
        | .another p => releases branch allowPrerelease depth fuel found p
        | .closed p => if skipWs p = [] then return found else .error .invalid
      else .error .invalid

structure Selection where
  result : ReleaseSelectionResult
  tagOut : List UInt8
  targetOut : List UInt8
  deriving DecidableEq

def Selection.invalid : Selection := ⟨.invalidJson, [], []⟩

def copyBounded (outSize : Nat) (text : List UInt8) : List UInt8 := text.take (outSize - 1)

/-- `none` is an exhausted fuel or an overrun. A null pointer is `none`, or a buffer of no size. -/
def selectReleaseTagResultFromJson (json : Option (List UInt8)) (branch : List UInt8) (allowPrerelease : Bool)
    (tagMax targetMax : Nat) : Option Selection :=
  match json with
  | none => some .invalid
  | some text =>
    if branchNeedsReleaseApi branch allowPrerelease = false ∨ tagMax = 0 then some .invalid
    else
      match skipWs text with
      | [] => some .invalid
      | c :: rest =>
        if c ≠ openBracket then some .invalid
        else
          let fuel := 2 * text.length + 2
          match releases branch allowPrerelease fuel fuel none rest with
          | .error .invalid => some .invalid
          | .error _ => none
          | .ok none => some ⟨.noMatch, [], []⟩
          | .ok (some found) => some ⟨.matched, copyBounded tagMax found.tag, copyBounded targetMax found.target⟩

end Selection

end SigurdOS.Hal.GithubOta
