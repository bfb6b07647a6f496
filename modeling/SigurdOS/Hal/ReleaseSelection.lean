import SigurdOS.Hal.GithubOtaReading
import SigurdOS.Hal.GithubOtaSkipping

/-! Which release is chosen from a list of them, and what becomes of a list that is cut or followed by more. -/

namespace SigurdOS.Hal.GithubOta

open JsonText

section Texts

inductive ReleaseValue where
  | tag (pieces : List Piece) (simple : ∀ piece ∈ pieces, Simple piece) (short : (decode pieces).length ≤ 95)
  | target (pieces : List Piece) (simple : ∀ piece ∈ pieces, Simple piece)
  | prerelease (flag : Bool)
  | other (text : List UInt8) (value : Json .value text)

def ReleaseValue.text : ReleaseValue → List UInt8
  | .tag pieces _ _ => stringText pieces
  | .target pieces _ => stringText pieces
  | .prerelease flag => if flag then trueText else falseText
  | .other text _ => text

def ReleaseValue.Named (key : List UInt8) : ReleaseValue → Prop
  | .tag _ _ _ => key = tagName
  | .target _ _ => key = targetCommitish
  | .prerelease _ => key = prereleaseKey
  | .other _ _ => key ≠ tagName ∧ key ≠ targetCommitish ∧ key ≠ prereleaseKey

def ReleaseValue.tag? : ReleaseValue → Option (List UInt8)
  | .tag pieces _ _ => some (decode pieces)
  | _ => none

def ReleaseValue.target? : ReleaseValue → Option (List UInt8)
  | .target pieces _ => some (decode pieces)
  | _ => none

def ReleaseValue.prerelease? : ReleaseValue → Option Bool
  | .prerelease flag => some flag
  | _ => none

structure ReleaseMember where
  before : Spaces
  key : List Piece
  simple : ∀ piece ∈ key, Simple piece
  beforeColon : Spaces
  afterColon : Spaces
  value : ReleaseValue
  named : value.Named (decode key)
  after : Spaces

def ReleaseMember.text (member : ReleaseMember) : List UInt8 :=
  member.before.val ++ stringText member.key ++ member.beforeColon.val ++
    colon :: (member.afterColon.val ++ member.value.text ++ member.after.val)

def commaSeparated : List (List UInt8) → List UInt8
  | [] => []
  | [text] => text
  | text :: rest => text ++ comma :: commaSeparated rest

structure Release where
  before : Spaces
  space : Spaces
  members : List ReleaseMember
  distinct : (members.map fun member => decode member.key).Nodup
  after : Spaces

def Release.text (release : Release) : List UInt8 :=
  release.before.val ++ openBrace :: (release.space.val ++
    commaSeparated (release.members.map ReleaseMember.text) ++ closeBrace :: release.after.val)

def Release.tag (release : Release) : List UInt8 :=
  (release.members.findSome? fun member => member.value.tag?).getD []

def Release.target (release : Release) : List UInt8 :=
  (release.members.findSome? fun member => member.value.target?).getD []

def Release.prerelease (release : Release) : Bool :=
  (release.members.findSome? fun member => member.value.prerelease?).getD false

structure ReleaseList where
  lead : Spaces
  space : Spaces
  releases : List Release
  trail : Spaces

def ReleaseList.front (list : ReleaseList) : List UInt8 :=
  list.lead.val ++ openBracket :: (list.space.val ++ commaSeparated (list.releases.map Release.text))

def ReleaseList.text (list : ReleaseList) : List UInt8 := list.front ++ closeBracket :: list.trail.val

end Texts

section Choice

variable (branch : List UInt8) (allowPrerelease : Bool)

def Release.wanted (release : Release) : Bool :=
  release.tag ≠ [] ∧ (branch = latest ∨ release.target = branch) ∧ (allowPrerelease = true ∨ release.prerelease = false)

def ReleaseList.selection (list : ReleaseList) (targetMax : Nat) : Selection :=
  match list.releases.find? fun release => release.wanted branch allowPrerelease with
  | none => ⟨.noMatch, [], []⟩
  | some release => ⟨.matched, release.tag, copyBounded targetMax (release.target.take 31)⟩

structure SelectionHolds : Prop where
  selects : branchNeedsReleaseApi branch allowPrerelease = true → ∀ (list : ReleaseList) (targetMax : Nat),
    selectReleaseTagResultFromJson (some list.text) branch allowPrerelease 96 targetMax =
      some (list.selection branch allowPrerelease targetMax)
  ends : ∀ (json : Option (List UInt8)) (tagMax targetMax : Nat), ∃ selection : Selection,
    selectReleaseTagResultFromJson json branch allowPrerelease tagMax targetMax = some selection ∧
      (selection.result ≠ .matched → selection.tagOut = [] ∧ selection.targetOut = [])
  cut : ∀ (list : ReleaseList) (kept lost : List UInt8), kept ++ lost = list.front → ∀ tagMax targetMax : Nat,
    selectReleaseTagResultFromJson (some kept) branch allowPrerelease tagMax targetMax = some .invalid
  appended : ∀ (list : ReleaseList) (more : List UInt8), (∃ c ∈ more, isSpace c = false) → ∀ tagMax targetMax : Nat,
    selectReleaseTagResultFromJson (some (list.text ++ more)) branch allowPrerelease tagMax targetMax = some .invalid

end Choice

section Members

def ReleaseValue.apply (value : ReleaseValue) (fields : ReleaseFields) : ReleaseFields :=
  ⟨value.tag?.getD fields.tag, (value.target?.map (List.take 31)).getD fields.target,
    value.prerelease?.getD fields.prerelease⟩

theorem cut_key (key : List UInt8) {word : List UInt8} (short : word.length < 31) :
    key.take 31 = word ↔ key = word := by
  constructor
  · intro same
    have length := congrArg List.length same
    rw [List.length_take] at length
    rw [← same, List.take_of_length_le (by omega)]
  · rintro rfl
    exact List.take_of_length_le (by omega)

theorem advance_word (word tail : List UInt8) : advance word.length (word ++ tail) = .ok tail := by
  unfold advance
  rw [if_pos (by rw [List.length_append]; exact Nat.le_add_right _ _), List.drop_left]

theorem readBool_text (space : Spaces) (flag : Bool) (tail : List UInt8) :
    readBool (space.val ++ ((if flag then trueText else falseText) ++ tail)) = .ok (flag, tail) := by
  have begins : ∀ word : List UInt8, word.isPrefixOf (word ++ tail) = true := by
    intro word
    exact List.isPrefixOf_iff_prefix.mpr (List.prefix_append word tail)
  cases flag with
  | true =>
    have first : skipWs (space.val ++ (trueText ++ tail)) = trueText ++ tail := by
      rw [skipWs_spaces]
      exact skipWs_cons (by decide) _
    change readBool (space.val ++ (trueText ++ tail)) = _
    unfold readBool
    rw [first, if_pos (begins trueText), show 4 = trueText.length from rfl, advance_word]
    rfl
  | false =>
    have first : skipWs (space.val ++ (falseText ++ tail)) = falseText ++ tail := by
      rw [skipWs_spaces]
      exact skipWs_cons (by decide) _
    have other : ¬trueText.isPrefixOf (falseText ++ tail) = true := nofun
    change readBool (space.val ++ (falseText ++ tail)) = _
    unfold readBool
    rw [first, if_neg other, if_pos (begins falseText), show 5 = falseText.length from rfl, advance_word]
    rfl

theorem readMember_text (member : ReleaseMember) {depth : Nat} (fields : ReleaseFields) {c : UInt8}
    (stop : isStop c = true) (tail : List UInt8) (deep : 2 * member.text.length ≤ depth + 1) :
    readMember depth (store 32 [] member.key) fields
      (member.afterColon.val ++ (member.value.text ++ (member.after.val ++ c :: tail))) =
        .ok (member.value.apply fields, member.after.val ++ c :: tail) := by
  have key : store 32 [] member.key = (decode member.key).take 31 := store_simple (Nat.zero_le _) member.simple
  have named := member.named
  have isTag := cut_key (decode member.key) (show tagName.length < 31 by decide)
  have isTarget := cut_key (decode member.key) (show targetCommitish.length < 31 by decide)
  have isPrerelease := cut_key (decode member.key) (show prereleaseKey.length < 31 by decide)
  unfold readMember
  simp only [key, isTag, isTarget, isPrerelease]
  have length : member.value.text.length ≤ member.text.length := by
    simp [ReleaseMember.text]
    omega
  cases value : member.value with
  | tag pieces simple short =>
    rw [value] at named
    change decode member.key = tagName at named
    have whole : store 96 [] pieces = decode pieces := by
      rw [store_simple (Nat.zero_le _) simple]
      exact List.take_of_length_le short
    rw [if_pos named]
    simp only [ReleaseValue.text, readJsonString_text, whole, Bind.bind, Except.bind]
    rfl
  | target pieces simple =>
    rw [value] at named
    change decode member.key = targetCommitish at named
    have whole : store 32 [] pieces = (decode pieces).take 31 := store_simple (Nat.zero_le _) simple
    rw [if_neg (by rw [named]; decide), if_pos named]
    simp only [ReleaseValue.text, readJsonString_text, whole, Bind.bind, Except.bind]
    rfl
  | prerelease flag =>
    rw [value] at named
    change decode member.key = prereleaseKey at named
    rw [if_neg (by rw [named]; decide), if_neg (by rw [named]; decide), if_pos named]
    simp only [ReleaseValue.text, readBool_text, Bind.bind, Except.bind]
    rfl
  | other text json =>
    rw [value] at named length
    obtain ⟨noTag, noTarget, noPrerelease⟩ := named
    have skipped := json_skipped json depth (member.after.val ++ c :: tail) (stop_behind member.after stop tail)
      (by simp only [ReleaseValue.text] at length; omega)
    rw [if_neg noTag, if_neg noTarget, if_neg noPrerelease]
    simp only [ReleaseValue.text, skipJsonValue_spaces, skipped, Bind.bind, Except.bind]
    rfl

theorem ReleaseMember.text_append (member : ReleaseMember) (tail : List UInt8) :
    member.text ++ tail = member.before.val ++ (stringText member.key ++ (member.beforeColon.val ++
      colon :: (member.afterColon.val ++ (member.value.text ++ (member.after.val ++ tail))))) := by
  simp only [ReleaseMember.text, List.append_assoc, List.cons_append]

theorem ReleaseMember.text_begun (member : ReleaseMember) (tail : List UInt8) : Begun (member.text ++ tail) := by
  rw [member.text_append]
  unfold Begun
  rw [skipWs_spaces]
  exact ⟨quote, _, skipWs_cons (by decide) _, by decide⟩

def goOn (depth fuel : Nat) (fields : ReleaseFields) : Following → Except Stop (ReleaseFields × List UInt8)
  | .another p => releaseMembers depth fuel fields p
  | .closed p => .ok (fields, p)

theorem releaseMembers_member (member : ReleaseMember) {depth fuel : Nat} (fields : ReleaseFields) {c : UInt8}
    (stop : isStop c = true) {tail : List UInt8} (deep : 2 * member.text.length ≤ depth + 1) {step : Following}
    (follows : following closeBrace (member.after.val ++ c :: tail) = .ok step) :
    releaseMembers depth (fuel + 1) fields (member.text ++ c :: tail) =
      goOn depth fuel (member.value.apply fields) step := by
  have stored := readMember_text member fields stop tail deep
  have colon := expect_spaces member.beforeColon (show isSpace colon = false by decide)
    (member.afterColon.val ++ (member.value.text ++ (member.after.val ++ c :: tail)))
  have key := readJsonString_text ⟨[], nofun⟩ 32 member.key (member.beforeColon.val ++
    JsonText.colon :: (member.afterColon.val ++ (member.value.text ++ (member.after.val ++ c :: tail))))
  rw [List.nil_append] at key
  have first : ∀ p, skipWs (stringText member.key ++ p) = quote :: (bodyText member.key ++ [quote] ++ p) :=
    fun p => skipWs_cons (by decide) _
  rw [member.text_append, releaseMembers, skipWs_spaces, first]
  simp only [if_neg (show quote ≠ closeBrace by decide)]
  change (readJsonString (stringText member.key ++ _) 32 >>= _) = _
  simp only [key, colon, stored, follows, Bind.bind, Except.bind]
  cases step <;> rfl

theorem releaseMembers_skipWs (depth fuel : Nat) (fields : ReleaseFields) (p : List UInt8) :
    releaseMembers depth fuel fields (skipWs p) = releaseMembers depth fuel fields p := by
  cases fuel with
  | zero => rfl
  | succ fuel => rw [releaseMembers, releaseMembers, skipWs_skipWs]

theorem commaSeparated_cons (text : List UInt8) {rest : List (List UInt8)} (more : rest ≠ []) :
    commaSeparated (text :: rest) = text ++ comma :: commaSeparated rest := by
  cases rest with
  | nil => exact absurd rfl more
  | cons next rest => rfl

theorem commaSeparated_head (text : List UInt8) (rest : List (List UInt8)) :
    ∃ more, commaSeparated (text :: rest) = text ++ more := by
  cases rest with
  | nil => exact ⟨[], (List.append_nil text).symm⟩
  | cons next rest => exact ⟨_, rfl⟩

theorem releaseMembers_text (members : List ReleaseMember) (filled : members ≠ []) {depth fuel : Nat}
    (fields : ReleaseFields) (tail : List UInt8)
    (deep : 2 * (commaSeparated (members.map ReleaseMember.text)).length ≤ depth + 1)
    (enough : (commaSeparated (members.map ReleaseMember.text)).length ≤ fuel) :
    releaseMembers depth fuel fields (commaSeparated (members.map ReleaseMember.text) ++ closeBrace :: tail) =
      .ok (members.foldl (fun fields member => member.value.apply fields) fields, tail) := by
  induction members generalizing fuel fields with
  | nil => exact absurd rfl filled
  | cons member rest ih =>
    have positive : 0 < member.text.length := by
      simp [ReleaseMember.text]
    by_cases last : rest = []
    · subst last
      change 2 * member.text.length ≤ depth + 1 at deep
      change member.text.length ≤ fuel at enough
      obtain ⟨fuel, rfl⟩ : ∃ n, fuel = n + 1 := ⟨fuel - 1, by omega⟩
      exact releaseMembers_member member fields (by decide) deep (following_closed member.after closing_brace tail)
    · rw [List.map_cons, commaSeparated_cons _ (by simpa using last), List.length_append, List.length_cons]
        at deep enough
      obtain ⟨fuel, rfl⟩ : ∃ n, fuel = n + 1 := ⟨fuel - 1, by omega⟩
      have begun : Begun (commaSeparated (rest.map ReleaseMember.text) ++ closeBrace :: tail) := by
        cases rest with
        | nil => exact absurd rfl last
        | cons next rest =>
          obtain ⟨more, text⟩ := commaSeparated_head next.text (rest.map ReleaseMember.text)
          rw [List.map_cons, text, List.append_assoc]
          exact next.text_begun _
      have another := following_another member.after (begun_apart closing_brace begun)
      rw [List.map_cons, commaSeparated_cons _ (by simpa using last), List.append_assoc, List.cons_append,
        releaseMembers_member member fields (by decide) (by omega) another]
      change releaseMembers depth fuel _ (skipWs _) = _
      rw [releaseMembers_skipWs, ih last _ (by omega) (by omega), List.foldl_cons]

theorem foldl_once {α β : Type} {get : α → Option β} {list : List α}
    (once : list.Pairwise fun a b => get a = none ∨ get b = none) (start : β) :
    list.foldl (fun value a => (get a).getD value) start = (list.findSome? get).getD start := by
  induction list generalizing start with
  | nil => rfl
  | cons a rest ih =>
    obtain ⟨apart, once⟩ := List.pairwise_cons.mp once
    rw [List.foldl_cons, ih once, List.findSome?_cons]
    cases set : get a with
    | none => rfl
    | some value =>
      have unset : rest.findSome? get = none := by
        rw [List.findSome?_eq_none_iff]
        intro b member
        exact (apart b member).resolve_left (by simp [set])
      rw [unset]
      rfl

/-- The buffers of `parseReleaseObject` when it returns. -/
def Release.fields (release : Release) : ReleaseFields := ⟨release.tag, release.target.take 31, release.prerelease⟩

theorem Release.apply_members (release : Release) :
    release.members.foldl (fun fields member => member.value.apply fields) ⟨[], [], false⟩ = release.fields := by
  have distinct := List.pairwise_map.mp release.distinct
  have split : ∀ (members : List ReleaseMember) (fields : ReleaseFields),
      members.foldl (fun fields member => member.value.apply fields) fields =
        ⟨members.foldl (fun tag member => member.value.tag?.getD tag) fields.tag,
          members.foldl (fun target member => (member.value.target?.map (List.take 31)).getD target) fields.target,
          members.foldl (fun flag member => member.value.prerelease?.getD flag) fields.prerelease⟩ := by
    intro members
    induction members with
    | nil => exact fun _ => rfl
    | cons member members ih => exact fun fields => ih (member.value.apply fields)
  have once : ∀ {β : Type} (get : ReleaseValue → Option β) (word : List UInt8),
      (∀ key value, value.Named key → get value ≠ none → key = word) →
      release.members.Pairwise fun m n => get m.value = none ∨ get n.value = none := by
    intro β get word named
    refine distinct.imp fun {m n} apart => ?_
    by_contra both
    rw [not_or] at both
    exact apart ((named _ _ m.named both.1).trans (named _ _ n.named both.2).symm)
  have tag := once ReleaseValue.tag? tagName fun key value named set => by
    cases value <;> first | exact named | exact absurd rfl set
  have target := once (fun value => value.target?.map (List.take 31)) targetCommitish fun key value named set => by
    cases value <;> first | exact named | exact absurd rfl set
  have prerelease := once ReleaseValue.prerelease? prereleaseKey fun key value named set => by
    cases value <;> first | exact named | exact absurd rfl set
  rw [split, foldl_once tag, foldl_once target, foldl_once prerelease]
  have cut : (release.members.findSome? fun member => member.value.target?.map (List.take 31)).getD [] =
      release.target.take 31 := by
    have moved : (release.members.findSome? fun member => member.value.target?).map (List.take 31) =
        release.members.findSome? fun member => member.value.target?.map (List.take 31) := List.map_findSome?
    unfold Release.target
    rw [← moved]
    cases release.members.findSome? fun member => member.value.target? <;> rfl
  rw [cut]
  rfl

end Members

section Lists

theorem Release.text_append (release : Release) (tail : List UInt8) :
    release.text ++ tail = release.before.val ++ (openBrace :: (release.space.val ++
      (commaSeparated (release.members.map ReleaseMember.text) ++ closeBrace :: (release.after.val ++ tail)))) := by
  simp only [Release.text, List.append_assoc, List.cons_append]

theorem Release.text_begun (release : Release) (tail : List UInt8) : Begun (release.text ++ tail) := by
  rw [release.text_append]
  unfold Begun
  rw [skipWs_spaces]
  exact ⟨openBrace, _, skipWs_cons (by decide) _, by decide⟩

theorem releaseMembers_spaces (depth fuel : Nat) (fields : ReleaseFields) (space : Spaces) (p : List UInt8) :
    releaseMembers depth fuel fields (space.val ++ p) = releaseMembers depth fuel fields p := by
  rw [← releaseMembers_skipWs, skipWs_spaces, releaseMembers_skipWs]

theorem parseReleaseObject_text (release : Release) {fuel : Nat} (enough : 2 * release.text.length ≤ fuel)
    (tail : List UInt8) :
    parseReleaseObject fuel (skipWs (release.text ++ tail)) = .ok (release.fields, release.after.val ++ tail) := by
  have length : (commaSeparated (release.members.map ReleaseMember.text)).length + 2 ≤ release.text.length := by
    simp only [Release.text, List.length_append, List.length_cons]
    omega
  unfold parseReleaseObject
  rw [skipWs_skipWs, release.text_append, skipWs_spaces, skipWs_cons (by decide)]
  simp only [if_true, releaseMembers_spaces]
  rw [← release.apply_members]
  by_cases empty : release.members = []
  · obtain ⟨fuel, rfl⟩ : ∃ n, fuel = n + 1 := ⟨fuel - 1, by omega⟩
    rw [empty]
    change releaseMembers _ _ _ (closeBrace :: (release.after.val ++ tail)) = _
    rw [releaseMembers, skipWs_cons (by decide)]
    rfl
  · exact releaseMembers_text release.members empty _ _ (by omega) (by omega)

variable {branch : List UInt8} {allowPrerelease : Bool}

def choose (branch : List UInt8) (allowPrerelease : Bool) (found : Option ReleaseFields) (release : Release) :
    Option ReleaseFields :=
  if found.isNone && eligible branch allowPrerelease release.fields then some release.fields else found

def endArray (branch : List UInt8) (allowPrerelease : Bool) (depth fuel : Nat) (found : Option ReleaseFields) :
    Following → Except Stop (Option ReleaseFields)
  | .another p => releases branch allowPrerelease depth fuel found p
  | .closed p => if skipWs p = [] then .ok found else .error .invalid

theorem releases_release (release : Release) {depth fuel : Nat} (found : Option ReleaseFields) {tail : List UInt8}
    (deep : 2 * release.text.length ≤ depth) {step : Following}
    (follows : following closeBracket (release.after.val ++ tail) = .ok step) :
    releases branch allowPrerelease depth (fuel + 1) found (release.text ++ tail) =
      endArray branch allowPrerelease depth fuel (choose branch allowPrerelease found release) step := by
  have parsed := parseReleaseObject_text release deep tail
  have first : skipWs (release.text ++ tail) = openBrace :: (release.space.val ++
      (commaSeparated (release.members.map ReleaseMember.text) ++ closeBrace :: (release.after.val ++ tail))) := by
    rw [release.text_append, skipWs_spaces, skipWs_cons (by decide)]
  rw [releases]
  rw [first] at parsed ⊢
  simp only [if_neg (show openBrace ≠ closeBracket by decide), if_true, parsed, follows, Bind.bind, Except.bind]
  cases step <;> rfl

theorem releases_skipWs (depth fuel : Nat) (found : Option ReleaseFields) (p : List UInt8) :
    releases branch allowPrerelease depth fuel found (skipWs p) =
      releases branch allowPrerelease depth fuel found p := by
  cases fuel with
  | zero => rfl
  | succ fuel => rw [releases, releases, skipWs_skipWs]

theorem skipWs_all (space : Spaces) : skipWs space.val = [] := List.dropWhile_eq_nil_iff.mpr space.property

theorem releases_text (list : List Release) (filled : list ≠ []) {depth fuel : Nat} (found : Option ReleaseFields)
    (trail : Spaces) (deep : 2 * (commaSeparated (list.map Release.text)).length ≤ depth)
    (enough : (commaSeparated (list.map Release.text)).length ≤ fuel) :
    releases branch allowPrerelease depth fuel found
      (commaSeparated (list.map Release.text) ++ closeBracket :: trail.val) =
        .ok (list.foldl (choose branch allowPrerelease) found) := by
  induction list generalizing fuel found with
  | nil => exact absurd rfl filled
  | cons release rest ih =>
    have positive : 0 < release.text.length := by simp [Release.text]
    by_cases last : rest = []
    · subst last
      change 2 * release.text.length ≤ depth at deep
      change release.text.length ≤ fuel at enough
      obtain ⟨fuel, rfl⟩ : ∃ n, fuel = n + 1 := ⟨fuel - 1, by omega⟩
      change releases _ _ _ _ _ (release.text ++ closeBracket :: trail.val) = _
      rw [releases_release release found deep (following_closed release.after closing_bracket trail.val)]
      exact if_pos (skipWs_all trail)
    · have more : rest.map Release.text ≠ [] := by simpa using last
      rw [List.map_cons, commaSeparated_cons _ more, List.length_append, List.length_cons] at deep enough
      obtain ⟨fuel, rfl⟩ : ∃ n, fuel = n + 1 := ⟨fuel - 1, by omega⟩
      have begun : Begun (commaSeparated (rest.map Release.text) ++ closeBracket :: trail.val) := by
        cases rest with
        | nil => exact absurd rfl last
        | cons next rest =>
          obtain ⟨more, text⟩ := commaSeparated_head next.text (rest.map Release.text)
          rw [List.map_cons, text, List.append_assoc]
          exact next.text_begun _
      have another := following_another release.after (begun_apart closing_bracket begun)
      rw [List.map_cons, commaSeparated_cons _ more, List.append_assoc, List.cons_append,
        releases_release release found (by omega) another]
      change releases _ _ depth fuel _ (skipWs _) = _
      rw [releases_skipWs, ih last _ (by omega) (by omega), List.foldl_cons]

theorem eligible_fields (supported : isSupportedReleaseChannel branch = true) (release : Release) :
    eligible branch allowPrerelease release.fields = release.wanted branch allowPrerelease := by
  have short : branch.length < 31 := by
    simp only [isSupportedReleaseChannel, Bool.or_eq_true, beq_iff_eq] at supported
    obtain (rfl | rfl) | rfl := supported <;> decide
  have target := cut_key release.target short
  apply Bool.eq_iff_iff.mpr
  simp only [eligible, Release.wanted, Release.fields, Bool.and_eq_true, Bool.or_eq_true,
    Bool.not_eq_true', List.isEmpty_eq_false_iff, beq_iff_eq, decide_eq_true_eq, target, and_assoc]

theorem choose_list (supported : isSupportedReleaseChannel branch = true) (list : List Release) :
    list.foldl (choose branch allowPrerelease) none =
      (list.find? fun release => release.wanted branch allowPrerelease).map Release.fields := by
  have kept : ∀ (list : List Release) (fields : ReleaseFields),
      list.foldl (choose branch allowPrerelease) (some fields) = some fields := by
    intro list fields
    induction list with
    | nil => rfl
    | cons release rest ih => exact ih
  induction list with
  | nil => rfl
  | cons release rest ih =>
    rw [List.foldl_cons, List.find?_cons]
    unfold choose
    rw [eligible_fields supported]
    cases wanted : release.wanted branch allowPrerelease with
    | true => exact kept rest release.fields
    | false => exact ih

end Lists

section Selection

variable {branch : List UInt8} {allowPrerelease : Bool}

def Accepts (branch : List UInt8) (allowPrerelease : Bool) (text : List UInt8) (result : Option ReleaseFields) : Prop :=
  ∃ rest, skipWs text = openBracket :: rest ∧
    releases branch allowPrerelease (2 * text.length + 2) (2 * text.length + 2) none rest = .ok result

def outcome (tagMax targetMax : Nat) : Option ReleaseFields → Selection
  | none => ⟨.noMatch, [], []⟩
  | some found => ⟨.matched, copyBounded tagMax found.tag, copyBounded targetMax found.target⟩

theorem select_cases (text : List UInt8) (tagMax targetMax : Nat) :
    selectReleaseTagResultFromJson (some text) branch allowPrerelease tagMax targetMax = some .invalid ∨
    ∃ result, Accepts branch allowPrerelease text result ∧
      selectReleaseTagResultFromJson (some text) branch allowPrerelease tagMax targetMax =
          some (outcome tagMax targetMax result) := by
  unfold selectReleaseTagResultFromJson
  dsimp only
  split
  · exact .inl rfl
  · cases next : skipWs text with
    | nil => exact .inl rfl
    | cons c rest =>
      dsimp only
      split
      · exact .inl rfl
      · rename_i opening
        have opening := not_not.mp opening
        subst opening
        have shorter := skipWs_cons_length next
        have stops := releases_stop branch allowPrerelease (2 * text.length + 2) (2 * text.length + 2) none rest
          (by omega) (by omega)
        cases read : releases branch allowPrerelease (2 * text.length + 2) (2 * text.length + 2) none rest with
        | error stop =>
          rw [read] at stops
          cases stops
          exact .inl rfl
        | ok result =>
          refine .inr ⟨result, ⟨rest, next, read⟩, ?_⟩
          cases result <;> rfl

theorem select_accepted {text : List UInt8} {result : Option ReleaseFields}
    (accepts : Accepts branch allowPrerelease text result)
    (needed : branchNeedsReleaseApi branch allowPrerelease = true)
    {tagMax : Nat} (room : tagMax ≠ 0) (targetMax : Nat) :
    selectReleaseTagResultFromJson (some text) branch allowPrerelease tagMax targetMax =
        some (outcome tagMax targetMax result) := by
  obtain ⟨rest, next, read⟩ := accepts
  have asked : ¬(branchNeedsReleaseApi branch allowPrerelease = false ∨ tagMax = 0) := by simp [needed, room]
  unfold selectReleaseTagResultFromJson
  dsimp only
  rw [if_neg asked, next]
  simp only [ne_eq, not_true, if_false, read]
  cases result <;> rfl

theorem accepts_append {text more : List UInt8} {result : Option ReleaseFields}
    (accepts : Accepts branch allowPrerelease text result) (trailing : ∃ c ∈ more, isSpace c = false)
    (tagMax targetMax : Nat) :
    selectReleaseTagResultFromJson (some (text ++ more)) branch allowPrerelease tagMax targetMax = some .invalid := by
  obtain ⟨rest, next, read⟩ := accepts
  have left : skipWs more ≠ [] := by
    obtain ⟨c, member, filled⟩ := trailing
    intro all
    exact absurd (List.dropWhile_eq_nil_iff.mp all c member) (by simp [filled])
  have cases := @select_cases branch allowPrerelease (text ++ more) tagMax targetMax
  rcases cases with invalid | ⟨result', ⟨rest', next', read'⟩, _⟩
  · exact invalid
  · rw [skipWs_append more next] at next'
    cases next'
    have length : 2 * text.length + 2 ≤ 2 * (text ++ more).length + 2 := by
      rw [List.length_append]
      omega
    rw [releases_append more read length length left] at read'
    cases read'

theorem list_accepts (supported : isSupportedReleaseChannel branch = true) (list : ReleaseList) :
    Accepts branch allowPrerelease list.text
      ((list.releases.find? fun release => release.wanted branch allowPrerelease).map Release.fields) := by
  have text : list.text = list.lead.val ++ (openBracket :: (list.space.val ++
      (commaSeparated (list.releases.map Release.text) ++ closeBracket :: list.trail.val))) := by
    simp only [ReleaseList.text, ReleaseList.front, List.append_assoc, List.cons_append]
  have length : (commaSeparated (list.releases.map Release.text)).length ≤ list.text.length := by
    rw [text]
    simp only [List.length_append, List.length_cons]
    omega
  refine ⟨_, by rw [text, skipWs_spaces, skipWs_cons (by decide)], ?_⟩
  rw [← releases_skipWs, skipWs_spaces, releases_skipWs, ← choose_list supported]
  by_cases empty : list.releases = []
  · rw [empty]
    change releases _ _ _ _ _ (closeBracket :: list.trail.val) = _
    rw [releases, skipWs_cons (by decide)]
    exact if_pos (skipWs_all list.trail)
  · exact releases_text list.releases empty none list.trail (by omega) (by omega)

theorem supported_of_needed (needed : branchNeedsReleaseApi branch allowPrerelease = true) :
    isSupportedReleaseChannel branch = true := (Bool.and_eq_true _ _ ▸ needed).1

theorem Release.tag_short (release : Release) : release.tag.length ≤ 95 := by
  unfold Release.tag
  cases found : release.members.findSome? fun member => member.value.tag? with
  | none => exact Nat.zero_le _
  | some tag =>
    obtain ⟨member, _, set⟩ := List.exists_of_findSome?_eq_some found
    cases value : member.value with
    | tag pieces simple short =>
      rw [value] at set
      cases set
      exact short
    | target => rw [value] at set; cases set
    | prerelease => rw [value] at set; cases set
    | other => rw [value] at set; cases set

theorem select_list (needed : branchNeedsReleaseApi branch allowPrerelease = true) (list : ReleaseList)
    (targetMax : Nat) :
    selectReleaseTagResultFromJson (some list.text) branch allowPrerelease 96 targetMax =
      some (list.selection branch allowPrerelease targetMax) := by
  rw [select_accepted (list_accepts (supported_of_needed needed) list) needed (by decide)]
  unfold ReleaseList.selection
  generalize list.releases.find? _ = first
  cases first with
  | none => rfl
  | some release =>
    have whole : copyBounded 96 release.tag = release.tag := List.take_of_length_le release.tag_short
    simp only [Option.map_some, outcome, Release.fields, whole]

theorem select_ends (json : Option (List UInt8)) (tagMax targetMax : Nat) : ∃ selection : Selection,
    selectReleaseTagResultFromJson json branch allowPrerelease tagMax targetMax = some selection ∧
      (selection.result ≠ .matched → selection.tagOut = [] ∧ selection.targetOut = []) := by
  cases json with
  | none => exact ⟨.invalid, rfl, fun _ => ⟨rfl, rfl⟩⟩
  | some text =>
    rcases select_cases text tagMax targetMax with invalid | ⟨result, _, selected⟩
    · exact ⟨.invalid, invalid, fun _ => ⟨rfl, rfl⟩⟩
    · refine ⟨_, selected, fun unmatched => ?_⟩
      cases result with
      | none => exact ⟨rfl, rfl⟩
      | some found => exact absurd rfl unmatched

theorem select_unneeded (unneeded : branchNeedsReleaseApi branch allowPrerelease = false) (text : List UInt8)
    (tagMax targetMax : Nat) :
    selectReleaseTagResultFromJson (some text) branch allowPrerelease tagMax targetMax = some .invalid :=
  if_pos (.inl unneeded)

theorem select_cut (list : ReleaseList) (kept lost : List UInt8) (whole : kept ++ lost = list.front)
    (tagMax targetMax : Nat) :
    selectReleaseTagResultFromJson (some kept) branch allowPrerelease tagMax targetMax = some .invalid := by
  by_cases needed : branchNeedsReleaseApi branch allowPrerelease = true
  · rcases select_cases kept tagMax targetMax with invalid | ⟨result, accepts, _⟩
    · exact invalid
    · have trailing : ∃ c ∈ lost ++ closeBracket :: list.trail.val, isSpace c = false :=
        ⟨closeBracket, List.mem_append_right _ List.mem_cons_self, by decide⟩
      have invalid := accepts_append accepts trailing 96 0
      have text : kept ++ (lost ++ closeBracket :: list.trail.val) = list.text := by
        rw [← List.append_assoc, whole]
        rfl
      rw [text, select_list needed] at invalid
      unfold ReleaseList.selection at invalid
      generalize list.releases.find? _ = first at invalid
      cases first <;> cases invalid
  · exact select_unneeded (Bool.eq_false_iff.mpr needed) kept tagMax targetMax

theorem select_appended (list : ReleaseList) (more : List UInt8) (trailing : ∃ c ∈ more, isSpace c = false)
    (tagMax targetMax : Nat) :
    selectReleaseTagResultFromJson (some (list.text ++ more)) branch allowPrerelease tagMax targetMax =
      some .invalid := by
  by_cases needed : branchNeedsReleaseApi branch allowPrerelease = true
  · exact accepts_append (list_accepts (supported_of_needed needed) list) trailing tagMax targetMax
  · exact select_unneeded (Bool.eq_false_iff.mpr needed) _ tagMax targetMax

theorem release_selection (branch : List UInt8) (allowPrerelease : Bool) : SelectionHolds branch allowPrerelease where
  selects := select_list
  ends := select_ends
  cut := select_cut
  appended := select_appended

end Selection

end SigurdOS.Hal.GithubOta
