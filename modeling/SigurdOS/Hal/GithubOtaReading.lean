import SigurdOS.Hal.GithubOtaPlan

/-! The readers come to an end, are not misled by what follows, and pass over a whole value. -/

namespace SigurdOS.Hal.GithubOta

open JsonText

def Following.behind : Following → List UInt8
  | .another p => p
  | .closed p => p

section Ending

variable {α β : Type} {left : α → List UInt8} {limit : Nat}

def Leaves (left : α → List UInt8) (limit : Nat) : Except Stop α → Prop
  | .ok read => (left read).length < limit
  | .error stop => stop = .invalid

theorem Leaves.within {read : Except Stop α} {shorter : Nat} (leaves : Leaves left shorter read)
    (within : shorter ≤ limit) : Leaves left limit read := by
  cases read with
  | ok read => exact Nat.lt_of_lt_of_le leaves within
  | error stop => exact leaves

theorem Leaves.bind {left' : β → List UInt8} {limit' : Nat} {read : Except Stop α} {next : α → Except Stop β}
    (first : Leaves left limit read) (second : ∀ a, (left a).length < limit → Leaves left' limit' (next a)) :
    Leaves left' limit' (read >>= next) := by
  cases read with
  | ok a => exact second a first
  | error stop => exact first

theorem skipWs_length (p : List UInt8) : (skipWs p).length ≤ p.length := skipSpace_length p

theorem skipWs_cons_length {p rest : List UInt8} {c : UInt8} (next : skipWs p = c :: rest) :
    rest.length < p.length := by
  have length := skipWs_length p
  rw [next, List.length_cons] at length
  exact length

theorem readBody_leaves (outSize : Nat) (escaped : Bool) (out p : List UInt8) :
    Leaves Prod.snd p.length (readBody outSize escaped out p) := by
  induction p generalizing escaped out with
  | nil => cases escaped <;> rfl
  | cons c p ih =>
    have shorter : p.length ≤ (c :: p).length := Nat.le_succ _
    cases escaped with
    | true => exact (ih false _).within shorter
    | false =>
      unfold readBody
      split
      · exact (ih true _).within shorter
      · split
        · exact Nat.lt_succ_self _
        · exact (ih false _).within shorter

theorem readJsonString_leaves (p : List UInt8) (outSize : Nat) :
    Leaves Prod.snd p.length (readJsonString p outSize) := by
  unfold readJsonString
  cases next : skipWs p with
  | nil => rfl
  | cons c rest =>
    have shorter := skipWs_cons_length next
    dsimp only
    split
    · exact (readBody_leaves outSize false [] rest).within (Nat.le_of_lt shorter)
    · rfl

theorem skipString_leaves (p : List UInt8) : Leaves id p.length (skipString p) := by
  have leaves := readJsonString_leaves p 1
  unfold skipString
  cases read : readJsonString p 1 <;> rw [read] at leaves <;> exact leaves

theorem skipBareToken_leaves (p : List UInt8) : Leaves id p.length (skipBareToken p) := by
  unfold skipBareToken
  have start := skipWs_length p
  have suffix := (List.dropWhile_suffix (fun c => !isStop c) (l := skipWs p)).length_le
  dsimp only
  split
  · rfl
  · change _ < _
    dsimp only [id]
    omega

theorem expect_leaves (c : UInt8) (p : List UInt8) : Leaves id p.length (expect c p) := by
  unfold expect
  cases next : skipWs p with
  | nil => rfl
  | cons d rest =>
    dsimp only
    split
    · exact skipWs_cons_length next
    · rfl

theorem following_leaves (close : UInt8) (p : List UInt8) : Leaves Following.behind p.length (following close p) := by
  unfold following
  cases next : skipWs p with
  | nil => rfl
  | cons c rest =>
    have shorter := skipWs_cons_length next
    dsimp only
    split
    · split
      · rfl
      · exact Nat.lt_of_le_of_lt (skipWs_length rest) shorter
    · split
      · exact shorter
      · rfl

theorem skipKey_leaves (opening : UInt8) (p : List UInt8) : Leaves id (p.length + 1) (skipKey opening p) := by
  unfold skipKey
  split
  · refine (skipString_leaves p).bind fun rest shorter => (expect_leaves colon rest).within ?_
    exact Nat.le_succ_of_le (Nat.le_of_lt shorter)
  · exact Nat.lt_succ_self _

theorem skip_leaves (fuel : Nat) :
    (∀ p, 2 * p.length + 1 ≤ fuel → Leaves id p.length (skipJsonValue fuel p)) ∧
    (∀ opening close p, 2 * p.length + 2 ≤ fuel → Leaves id p.length (skipCompound fuel opening close p)) := by
  induction fuel with
  | zero => exact ⟨fun p enough => absurd enough (by omega), fun _ _ p enough => absurd enough (by omega)⟩
  | succ fuel ih =>
    constructor
    · intro p enough
      unfold skipJsonValue
      cases next : skipWs p with
      | nil => rfl
      | cons c rest =>
        have shorter := skipWs_cons_length next
        have whole : (c :: rest).length ≤ p.length := shorter
        dsimp only
        split
        · exact (skipString_leaves _).within whole
        · split
          · exact (ih.2 _ _ rest (by omega)).within (Nat.le_of_lt shorter)
          · split
            · exact (ih.2 _ _ rest (by omega)).within (Nat.le_of_lt shorter)
            · exact (skipBareToken_leaves _).within whole
    · intro opening close p enough
      unfold skipCompound
      cases next : skipWs p with
      | nil => rfl
      | cons c rest =>
        have shorter := skipWs_cons_length next
        dsimp only
        split
        · exact shorter
        · refine (skipKey_leaves opening (c :: rest)).bind fun value beforeValue => ?_
          have room : value.length ≤ p.length := by
            simp only [id, List.length_cons] at beforeValue
            omega
          refine (ih.1 value (by omega)).bind fun behind beforeBehind => ?_
          refine (following_leaves close behind).bind fun step beforeStep => ?_
          dsimp only [id] at beforeBehind
          cases step with
          | another next =>
            dsimp only [Following.behind] at beforeStep
            exact (ih.2 _ _ next (by omega)).within (by omega)
          | closed rest =>
            dsimp only [Following.behind] at beforeStep
            change rest.length < p.length
            omega

theorem readBool_leaves (p : List UInt8) : Leaves Prod.snd p.length (readBool p) := by
  have start := skipWs_length p
  have taken : ∀ (word : List UInt8) (flag : Bool), 0 < word.length → word.isPrefixOf (skipWs p) = true →
      Leaves Prod.snd p.length (do return (flag, ← advance word.length (skipWs p))) := by
    intro word flag filled same
    have length := (List.isPrefixOf_iff_prefix.mp same).length_le
    unfold advance
    rw [if_pos length]
    change ((skipWs p).drop word.length).length < p.length
    rw [List.length_drop]
    omega
  unfold readBool
  dsimp only
  split
  · rename_i same
    exact taken trueText true (by decide) same
  · split
    · rename_i same
      exact taken falseText false (by decide) same
    · rfl

theorem readMember_leaves (fuel : Nat) (key : List UInt8) (fields : ReleaseFields) (p : List UInt8)
    (enough : 2 * p.length + 1 ≤ fuel) : Leaves Prod.snd p.length (readMember fuel key fields p) := by
  unfold readMember
  split
  · exact (readJsonString_leaves p 96).bind fun read shorter => shorter
  · split
    · exact (readJsonString_leaves p 32).bind fun read shorter => shorter
    · split
      · exact (readBool_leaves p).bind fun read shorter => shorter
      · exact ((skip_leaves fuel).1 p enough).bind fun rest shorter => shorter

theorem releaseMembers_leaves (depth fuel : Nat) (fields : ReleaseFields) (p : List UInt8)
    (deep : 2 * p.length + 1 ≤ depth) (enough : p.length < fuel) :
    Leaves Prod.snd p.length (releaseMembers depth fuel fields p) := by
  induction fuel generalizing fields p with
  | zero => exact absurd enough (Nat.not_lt_zero _)
  | succ fuel ih =>
    unfold releaseMembers
    cases next : skipWs p with
    | nil => rfl
    | cons c rest =>
      have shorter := skipWs_cons_length next
      dsimp only
      split
      · exact shorter
      · refine (readJsonString_leaves (c :: rest) 32).bind fun key behindKey => ?_
        rw [List.length_cons] at behindKey
        refine (expect_leaves colon key.2).bind fun value behindColon => ?_
        dsimp only [id] at behindColon
        refine (readMember_leaves depth key.1 fields value (by omega)).bind fun member behindValue => ?_
        refine (following_leaves closeBrace member.2).bind fun step behindStep => ?_
        cases step with
        | another next =>
          dsimp only [Following.behind] at behindStep
          exact (ih member.1 next (by omega) (by omega)).within (by omega)
        | closed rest =>
          dsimp only [Following.behind] at behindStep
          change rest.length < p.length
          omega

theorem parseReleaseObject_leaves (fuel : Nat) (p : List UInt8) (enough : 2 * p.length + 1 ≤ fuel) :
    Leaves Prod.snd p.length (parseReleaseObject fuel p) := by
  unfold parseReleaseObject
  cases next : skipWs p with
  | nil => rfl
  | cons c rest =>
    have shorter := skipWs_cons_length next
    dsimp only
    split
    · exact (releaseMembers_leaves fuel fuel _ rest (by omega) (by omega)).within (Nat.le_of_lt shorter)
    · rfl

theorem releases_stop (branch : List UInt8) (allow : Bool) (depth fuel : Nat) (found : Option ReleaseFields)
    (p : List UInt8) (deep : 2 * p.length + 1 ≤ depth) (enough : p.length < fuel) :
    Leaves (fun _ => []) 1 (releases branch allow depth fuel found p) := by
  induction fuel generalizing found p with
  | zero => exact absurd enough (Nat.not_lt_zero _)
  | succ fuel ih =>
    unfold releases
    cases next : skipWs p with
    | nil => rfl
    | cons c rest =>
      have shorter := skipWs_cons_length next
      dsimp only
      split
      · split
        · exact Nat.one_pos
        · rfl
      · split
        · have room : 2 * (c :: rest).length + 1 ≤ depth := by
            rw [List.length_cons]
            omega
          refine (parseReleaseObject_leaves depth (c :: rest) room).bind fun release behindRelease => ?_
          rw [List.length_cons] at behindRelease
          refine (following_leaves closeBracket release.2).bind fun step behindStep => ?_
          cases step with
          | another next =>
            dsimp only [Following.behind] at behindStep
            exact ih _ next (by omega) (by omega)
          | closed rest =>
            dsimp only
            split
            · exact Nat.one_pos
            · rfl
        · rfl

end Ending

section More

-- what follows the text, and was not there before
variable (more : List UInt8)

theorem bind_ok {α β : Type} {read : Except Stop α} {next : α → Except Stop β} {b : β}
    (ok : (read >>= next) = .ok b) : ∃ a, read = .ok a ∧ next a = .ok b := by
  cases read with
  | ok a => exact ⟨a, rfl, ok⟩
  | error stop => cases ok

theorem skipWs_append {p rest : List UInt8} {c : UInt8} (next : skipWs p = c :: rest) :
    skipWs (p ++ more) = c :: (rest ++ more) := by
  have filled : skipSpace p ≠ [] := by
    change skipWs p ≠ []
    rw [next]
    exact List.cons_ne_nil c rest
  change skipSpace (p ++ more) = _
  rw [skipSpace_append filled]
  change skipWs p ++ more = _
  rw [next, List.cons_append]

theorem readBody_append (outSize : Nat) (escaped : Bool) (out p : List UInt8) {read : List UInt8 × List UInt8}
    (ok : readBody outSize escaped out p = .ok read) :
    readBody outSize escaped out (p ++ more) = .ok (read.1, read.2 ++ more) := by
  induction p generalizing escaped out with
  | nil => cases escaped <;> cases ok
  | cons c p ih =>
    rw [List.cons_append]
    cases escaped with
    | true => exact ih false _ ok
    | false =>
      unfold readBody at ok ⊢
      by_cases behind : c = backslash
      · rw [if_pos behind] at ok ⊢
        exact ih true _ ok
      · rw [if_neg behind] at ok ⊢
        by_cases closing : c = quote
        · rw [if_pos closing] at ok ⊢
          cases ok
          rfl
        · rw [if_neg closing] at ok ⊢
          exact ih false _ ok

theorem readJsonString_append {outSize : Nat} {p : List UInt8} {read : List UInt8 × List UInt8}
    (ok : readJsonString p outSize = .ok read) :
    readJsonString (p ++ more) outSize = .ok (read.1, read.2 ++ more) := by
  unfold readJsonString at ok ⊢
  cases next : skipWs p with
  | nil => simp [next] at ok
  | cons c rest =>
    rw [skipWs_append more next]
    simp only [next] at ok ⊢
    by_cases opening : c = quote
    · rw [if_pos opening] at ok ⊢
      exact readBody_append more outSize false [] rest ok
    · rw [if_neg opening] at ok
      cases ok

theorem skipString_append {p rest : List UInt8} (ok : skipString p = .ok rest) :
    skipString (p ++ more) = .ok (rest ++ more) := by
  unfold skipString at ok ⊢
  cases read : readJsonString p 1 with
  | error stop =>
    rw [read] at ok
    cases ok
  | ok read' =>
    rw [read] at ok
    cases ok
    rw [readJsonString_append more read]
    rfl

theorem skipBareToken_append {p rest : List UInt8} (ok : skipBareToken p = .ok rest) (stopped : rest ≠ []) :
    skipBareToken (p ++ more) = .ok (rest ++ more) := by
  unfold skipBareToken at ok ⊢
  dsimp only at ok ⊢
  cases next : skipWs p with
  | nil => simp [next] at ok
  | cons c tail =>
    rw [skipWs_append more next]
    simp only [next] at ok
    split at ok
    · cases ok
    · rename_i moved
      cases ok
      have same : ((c :: (tail ++ more)).dropWhile fun c => !isStop c) =
          ((c :: tail).dropWhile fun c => !isStop c) ++ more := by
        rw [← List.cons_append, List.dropWhile_append]
        simp [stopped]
      rw [same, if_neg]
      rw [List.length_append, List.length_cons, List.length_append]
      rw [List.length_cons] at moved
      omega

theorem expect_append {c : UInt8} {p rest : List UInt8} (ok : expect c p = .ok rest) :
    expect c (p ++ more) = .ok (rest ++ more) := by
  unfold expect at ok ⊢
  cases next : skipWs p with
  | nil => simp [next] at ok
  | cons d tail =>
    rw [skipWs_append more next]
    simp only [next] at ok ⊢
    by_cases same : d = c
    · rw [if_pos same] at ok ⊢
      cases ok
      rfl
    · rw [if_neg same] at ok
      cases ok

def Following.append : Following → Following
  | .another p => .another (p ++ more)
  | .closed p => .closed (p ++ more)

theorem following_append {close : UInt8} {p : List UInt8} {step : Following} (ok : following close p = .ok step)
    (begun : ∀ next, step = .another next → next ≠ []) :
    following close (p ++ more) = .ok (step.append more) := by
  unfold following at ok ⊢
  cases next : skipWs p with
  | nil => simp [next] at ok
  | cons c rest =>
    rw [skipWs_append more next]
    simp only [next] at ok ⊢
    by_cases goesOn : c = comma
    · rw [if_pos goesOn] at ok ⊢
      by_cases dangling : (skipWs rest).head? = some close
      · rw [if_pos dangling] at ok
        cases ok
      · rw [if_neg dangling] at ok
        cases ok
        cases behind : skipWs rest with
        | nil => exact absurd behind (begun _ rfl)
        | cons d tail =>
          rw [behind, List.head?_cons] at dangling
          rw [skipWs_append more behind, List.head?_cons, if_neg dangling]
          rfl
    · rw [if_neg goesOn] at ok ⊢
      by_cases ends : c = close
      · rw [if_pos ends] at ok ⊢
        cases ok
        rfl
      · rw [if_neg ends] at ok
        cases ok

theorem skipKey_append {opening : UInt8} {p rest : List UInt8} (ok : skipKey opening p = .ok rest) :
    skipKey opening (p ++ more) = .ok (rest ++ more) := by
  unfold skipKey at ok ⊢
  by_cases keyed : opening = openBrace
  · rw [if_pos keyed] at ok ⊢
    obtain ⟨behind, skipped, colon⟩ := bind_ok ok
    rw [skipString_append more skipped]
    exact expect_append more colon
  · rw [if_neg keyed] at ok ⊢
    cases ok
    rfl

theorem following_filled {close : UInt8} {p : List UInt8} {step : Following} (ok : following close p = .ok step) :
    p ≠ [] := by
  intro empty
  rw [empty] at ok
  cases ok

theorem skip_append (fuel : Nat) :
    (∀ p rest fuel', skipJsonValue fuel p = .ok rest → rest ≠ [] → fuel ≤ fuel' →
      skipJsonValue fuel' (p ++ more) = .ok (rest ++ more)) ∧
    (∀ opening close p rest fuel', skipCompound fuel opening close p = .ok rest → fuel ≤ fuel' →
      skipCompound fuel' opening close (p ++ more) = .ok (rest ++ more)) := by
  induction fuel with
  | zero =>
    constructor
    · intro p rest fuel' ok
      cases ok
    · intro opening close p rest fuel' ok
      cases ok
  | succ fuel ih =>
    constructor
    · intro p rest fuel' ok filled enough
      obtain ⟨fuel', rfl⟩ := Nat.exists_eq_add_of_le' (Nat.le_trans (Nat.le_add_left 1 fuel) enough)
      have enough := Nat.le_of_succ_le_succ enough
      unfold skipJsonValue at ok ⊢
      cases next : skipWs p with
      | nil => simp [next] at ok
      | cons c tail =>
        rw [skipWs_append more next]
        simp only [next] at ok ⊢
        by_cases string : c = quote
        · rw [if_pos string] at ok ⊢
          exact skipString_append more ok
        · rw [if_neg string] at ok ⊢
          by_cases object : c = openBrace
          · rw [if_pos object] at ok ⊢
            exact ih.2 _ _ _ _ _ ok enough
          · rw [if_neg object] at ok ⊢
            by_cases array : c = openBracket
            · rw [if_pos array] at ok ⊢
              exact ih.2 _ _ _ _ _ ok enough
            · rw [if_neg array] at ok ⊢
              exact skipBareToken_append more ok filled
    · intro opening close p rest fuel' ok enough
      obtain ⟨fuel', rfl⟩ := Nat.exists_eq_add_of_le' (Nat.le_trans (Nat.le_add_left 1 fuel) enough)
      have enough := Nat.le_of_succ_le_succ enough
      unfold skipCompound at ok ⊢
      cases next : skipWs p with
      | nil => simp [next] at ok
      | cons c tail =>
        rw [skipWs_append more next]
        simp only [next] at ok ⊢
        by_cases ends : c = close
        · rw [if_pos ends] at ok ⊢
          cases ok
          rfl
        · rw [if_neg ends] at ok ⊢
          obtain ⟨value, key, ok⟩ := bind_ok ok
          obtain ⟨behind, skipped, ok⟩ := bind_ok ok
          obtain ⟨step, follows, ok⟩ := bind_ok ok
          have key := skipKey_append more key
          rw [List.cons_append] at key
          have skipped := ih.1 _ _ _ skipped (following_filled follows) enough
          cases step with
          | another element =>
            have begun : element ≠ [] := by
              rintro rfl
              cases fuel <;> cases ok
            have follows := following_append more follows (by rintro _ ⟨⟩; exact begun)
            have rest := ih.2 _ _ _ _ _ ok enough
            simp only [key, skipped, follows, Bind.bind, Except.bind]
            exact rest
          | closed tail =>
            have follows := following_append more follows nofun
            cases ok
            simp only [key, skipped, follows, Bind.bind, Except.bind]
            rfl

theorem isPrefixOf_append {word p : List UInt8} (same : word.isPrefixOf p = true) :
    word.isPrefixOf (p ++ more) = true :=
  List.isPrefixOf_iff_prefix.mpr ((List.isPrefixOf_iff_prefix.mp same).trans (List.prefix_append p more))

theorem advance_append {count : Nat} {p rest : List UInt8} (ok : advance count p = .ok rest) :
    advance count (p ++ more) = .ok (rest ++ more) := by
  unfold advance at ok ⊢
  split at ok
  · rename_i within
    cases ok
    rw [if_pos (by rw [List.length_append]; omega), List.drop_append_of_le_length within]
  · cases ok

theorem readBool_append {p : List UInt8} {read : Bool × List UInt8} (ok : readBool p = .ok read) :
    readBool (p ++ more) = .ok (read.1, read.2 ++ more) := by
  unfold readBool at ok ⊢
  dsimp only at ok ⊢
  cases next : skipWs p with
  | nil =>
    rw [next] at ok
    cases ok
  | cons c tail =>
    rw [skipWs_append more next]
    rw [next] at ok
    by_cases isTrue : trueText.isPrefixOf (c :: tail) = true
    · rw [if_pos isTrue] at ok
      obtain ⟨rest, moved, ok⟩ := bind_ok ok
      cases ok
      rw [← List.cons_append, if_pos (isPrefixOf_append more isTrue), advance_append more moved]
      rfl
    · rw [if_neg isTrue] at ok
      split at ok
      · rename_i isFalse
        obtain ⟨rest, moved, ok⟩ := bind_ok ok
        cases ok
        -- the first letter tells the two words apart
        have other : ¬trueText.isPrefixOf (c :: (tail ++ more)) = true := by
          intro isTrue
          have first := (List.cons_prefix_cons.mp (List.isPrefixOf_iff_prefix.mp isFalse)).1
          have second := (List.cons_prefix_cons.mp (List.isPrefixOf_iff_prefix.mp isTrue)).1
          exact absurd (first.trans second.symm) (by decide)
        rw [if_neg other, ← List.cons_append, if_pos (isPrefixOf_append more isFalse), advance_append more moved]
        rfl
      · cases ok

theorem readMember_append {fuel fuel' : Nat} {key : List UInt8} {fields : ReleaseFields} {p : List UInt8}
    {read : ReleaseFields × List UInt8} (ok : readMember fuel key fields p = .ok read) (filled : read.2 ≠ [])
    (enough : fuel ≤ fuel') : readMember fuel' key fields (p ++ more) = .ok (read.1, read.2 ++ more) := by
  unfold readMember at ok ⊢
  by_cases tag : key = tagName
  · rw [if_pos tag] at ok ⊢
    obtain ⟨text, value, ok⟩ := bind_ok ok
    cases ok
    rw [readJsonString_append more value]
    rfl
  · rw [if_neg tag] at ok ⊢
    by_cases target : key = targetCommitish
    · rw [if_pos target] at ok ⊢
      obtain ⟨text, value, ok⟩ := bind_ok ok
      cases ok
      rw [readJsonString_append more value]
      rfl
    · rw [if_neg target] at ok ⊢
      by_cases prerelease : key = prereleaseKey
      · rw [if_pos prerelease] at ok ⊢
        obtain ⟨flag, value, ok⟩ := bind_ok ok
        cases ok
        rw [readBool_append more value]
        rfl
      · rw [if_neg prerelease] at ok ⊢
        obtain ⟨rest, value, ok⟩ := bind_ok ok
        cases ok
        rw [(skip_append more fuel).1 _ _ _ value filled enough]
        rfl

theorem releaseMembers_append {depth depth' fuel : Nat} {fields : ReleaseFields} {p : List UInt8}
    {read : ReleaseFields × List UInt8} (ok : releaseMembers depth fuel fields p = .ok read) {fuel' : Nat}
    (deep : depth ≤ depth') (enough : fuel ≤ fuel') :
    releaseMembers depth' fuel' fields (p ++ more) = .ok (read.1, read.2 ++ more) := by
  induction fuel generalizing fields p fuel' with
  | zero => cases ok
  | succ fuel ih =>
    obtain ⟨fuel', rfl⟩ := Nat.exists_eq_add_of_le' (Nat.le_trans (Nat.le_add_left 1 fuel) enough)
    have enough := Nat.le_of_succ_le_succ enough
    unfold releaseMembers at ok ⊢
    cases next : skipWs p with
    | nil => simp [next] at ok
    | cons c tail =>
      rw [skipWs_append more next]
      simp only [next] at ok ⊢
      by_cases ends : c = closeBrace
      · rw [if_pos ends] at ok ⊢
        cases ok
        rfl
      · rw [if_neg ends] at ok ⊢
        obtain ⟨key, named, ok⟩ := bind_ok ok
        obtain ⟨value, colon, ok⟩ := bind_ok ok
        obtain ⟨member, stored, ok⟩ := bind_ok ok
        obtain ⟨step, follows, ok⟩ := bind_ok ok
        have named := readJsonString_append more named
        rw [List.cons_append] at named
        have colon := expect_append more colon
        have stored := readMember_append more stored (following_filled follows) deep
        cases step with
        | another element =>
          have begun : element ≠ [] := by
            rintro rfl
            cases fuel <;> cases ok
          have follows := following_append more follows (by rintro _ ⟨⟩; exact begun)
          have rest := ih ok enough
          simp only [named, colon, stored, follows, Bind.bind, Except.bind]
          exact rest
        | closed rest =>
          have follows := following_append more follows nofun
          cases ok
          simp only [named, colon, stored, follows, Bind.bind, Except.bind]
          rfl

theorem parseReleaseObject_append {fuel fuel' : Nat} {p : List UInt8} {read : ReleaseFields × List UInt8}
    (ok : parseReleaseObject fuel p = .ok read) (enough : fuel ≤ fuel') :
    parseReleaseObject fuel' (p ++ more) = .ok (read.1, read.2 ++ more) := by
  unfold parseReleaseObject at ok ⊢
  cases next : skipWs p with
  | nil => simp [next] at ok
  | cons c tail =>
    rw [skipWs_append more next]
    simp only [next] at ok ⊢
    by_cases opening : c = openBrace
    · rw [if_pos opening] at ok ⊢
      exact releaseMembers_append more ok enough enough
    · rw [if_neg opening] at ok
      cases ok

theorem releases_append {branch : List UInt8} {allow : Bool} {depth depth' fuel : Nat}
    {found result : Option ReleaseFields} {p : List UInt8}
    (ok : releases branch allow depth fuel found p = .ok result) {fuel' : Nat} (deep : depth ≤ depth')
    (enough : fuel ≤ fuel') (trailing : skipWs more ≠ []) :
    releases branch allow depth' fuel' found (p ++ more) = .error .invalid := by
  have behind : ∀ rest, skipWs (rest ++ more) ≠ [] := by
    intro rest
    cases next : skipWs rest with
    | nil =>
      have space := List.dropWhile_eq_nil_iff.mp next
      change List.dropWhile isSpace (rest ++ more) ≠ []
      rw [List.dropWhile_append_of_pos space]
      exact trailing
    | cons c tail =>
      rw [skipWs_append more next]
      exact List.cons_ne_nil _ _
  induction fuel generalizing found p fuel' with
  | zero => cases ok
  | succ fuel ih =>
    obtain ⟨fuel', rfl⟩ := Nat.exists_eq_add_of_le' (Nat.le_trans (Nat.le_add_left 1 fuel) enough)
    have enough := Nat.le_of_succ_le_succ enough
    unfold releases at ok ⊢
    cases next : skipWs p with
    | nil => simp [next] at ok
    | cons c tail =>
      rw [skipWs_append more next]
      simp only [next] at ok ⊢
      by_cases ends : c = closeBracket
      · rw [if_pos ends, if_neg (behind tail)]
      · rw [if_neg ends] at ok ⊢
        by_cases opening : c = openBrace
        · rw [if_pos opening] at ok ⊢
          obtain ⟨release, parsed, ok⟩ := bind_ok ok
          obtain ⟨step, follows, ok⟩ := bind_ok ok
          have parsed := parseReleaseObject_append more parsed deep
          rw [List.cons_append] at parsed
          cases step with
          | another element =>
            have begun : element ≠ [] := by
              rintro rfl
              cases fuel <;> cases ok
            have follows := following_append more follows (by rintro _ ⟨⟩; exact begun)
            have rest := ih ok enough
            simp only [parsed, follows, Bind.bind, Except.bind]
            exact rest
          | closed rest =>
            have follows := following_append more follows nofun
            simp only [parsed, follows, Bind.bind, Except.bind, Following.append]
            rw [if_neg (behind rest)]
        · rw [if_neg opening] at ok
          cases ok

end More

end SigurdOS.Hal.GithubOta
