import SigurdOS.App.DiscoveryTurns

/-! The coverage of a card's tiles, which a discovery finds however its calls cut it up. -/

namespace SigurdOS.App.TileDiscovery

open Mesh (ascii)

section Coverage

variable {card : Card} {zoom : Nat} {coverage : TileCoverage}

def columnsBetween (zoom : Nat) (low high : Int) : Int := (high - low) % tilesPerAxis zoom + 1

/-- The coverage of a zoom says which tiles there are, in as few columns as go around them. -/
structure Charted (card : Card) (zoom : Nat) (coverage : TileCoverage) : Prop where
  valid : coverage.valid = true ↔ ∃ x y, card.Tile zoom x y
  lowest : coverage.valid = true →
    (∃ x, card.Tile zoom x coverage.minY) ∧ ∀ x y, card.Tile zoom x y → coverage.minY ≤ y
  highest : coverage.valid = true →
    (∃ x, card.Tile zoom x coverage.maxY) ∧ ∀ x y, card.Tile zoom x y → y ≤ coverage.maxY
  wraps : coverage.valid = true → coverage.wrapsX = decide (coverage.minX > coverage.maxX)
  within : ∀ x y, card.Tile zoom x y → tileXInCoverage x coverage.minX coverage.maxX coverage.wrapsX = true
  ends : coverage.valid = true → (∃ y, card.Tile zoom coverage.minX y) ∧ ∃ y, card.Tile zoom coverage.maxX y
  shortest : coverage.valid = true → ∀ low high, tileValid zoom low 0 = true → tileValid zoom high 0 = true →
    (∀ x y, card.Tile zoom x y → tileXInCoverage x low high (decide (low > high)) = true) →
      columnsBetween zoom coverage.minX coverage.maxX ≤ columnsBetween zoom low high
  sample : coverage.valid = true → card.Tile zoom coverage.sampleX coverage.sampleY

theorem tileXInCoverage_iff {low high x : Int} (lowIn : 0 ≤ low ∧ low < tilesPerAxis zoom)
    (highIn : 0 ≤ high ∧ high < tilesPerAxis zoom) (inside : 0 ≤ x ∧ x < tilesPerAxis zoom) :
    tileXInCoverage x low high (decide (low > high)) = true ↔
      CircleGap.Within (tilesPerAxis zoom) low (columnsBetween zoom low high) x := by
  have offset (y : Int) (range : 0 ≤ y ∧ y < tilesPerAxis zoom) :
      (y - low) % tilesPerAxis zoom = if low ≤ y then y - low else y - low + tilesPerAxis zoom := by
    split
    · exact CircleGap.offset_eq (y - low) 0 (by omega) (by omega) (by ring)
    · exact CircleGap.offset_eq (y - low + tilesPerAxis zoom) (-1) (by omega) (by omega) (by ring)
  unfold tileXInCoverage CircleGap.Within columnsBetween
  rw [offset x inside, offset high highIn]
  by_cases wraps : low > high
  · have behind : ¬low ≤ high := by omega
    simp only [wraps, decide_true, if_true, decide_eq_true_eq, if_neg behind]
    split
    · omega
    · omega
  · have before : low ≤ high := by omega
    simp only [wraps, decide_false, Bool.false_eq_true, if_false, decide_eq_true_eq, if_pos before]
    split
    · omega
    · omega

theorem columns_filled (scanned : Scanned card zoom (card.columns zoom)) :
    card.columns zoom ≠ [] ↔ ∃ x y, card.Tile zoom x y := by
  constructor
  · intro filled
    obtain ⟨column, member⟩ := List.exists_mem_of_ne_nil _ filled
    exact ⟨_, _, scanned.minY column member⟩
  · rintro ⟨x, y, tile⟩
    obtain ⟨column, member, _⟩ := scanned.all x y tile
    exact List.ne_nil_of_mem member

theorem opposite_ends {n : Int} {c : Nat → Int} {count found : Nat} (points : CircleGap.Points n c count)
    (inside : found < count) : (∃ j < count, CircleGap.next n c count found % n = c j) ∧
      (c found - CircleGap.next n c count found % n) % n + 1 = n - CircleGap.gap n c count found := by
  have range := points.gap_range inside
  constructor
  · obtain ⟨j, point, turns, follows⟩ := points.next_point found
    refine ⟨j, point, ?_⟩
    rw [follows, Int.add_mul_emod_self_left]
    exact Int.emod_eq_of_lt (points.nonneg j point) (points.less j point)
  · rw [Int.sub_emod, Int.emod_emod_of_dvd _ (dvd_refl n), ← Int.sub_emod]
    unfold CircleGap.gap at range ⊢
    rw [CircleGap.offset_eq (n - (CircleGap.next n c count found - c found - 1) - 1) (-1)
      (by omega) (by omega) (by ring)]
    omega

theorem Outcome.charted (scanned : Scanned card zoom (card.columns zoom))
    (outcome : Outcome card zoom .none coverage) : Charted card zoom coverage := by
  have filled := columns_filled scanned
  rcases outcome with ⟨empty, rfl⟩ | ⟨columns, shaped⟩
  · have none : ¬∃ x y, card.Tile zoom x y := by rwa [← filled, not_not]
    have invalid {P : Prop} (valid : TileCoverage.none.valid = true) : P := absurd valid (by decide)
    exact ⟨⟨invalid, fun some => absurd some none⟩, invalid, invalid, invalid,
      fun x y tile => absurd ⟨x, y, tile⟩ none, invalid, invalid, invalid⟩
  · obtain ⟨heights, ⟨c, count, found, points, places, largest, minX, maxX⟩, wraps, column, member, sampleX, sampleY⟩ :=
      shaped
    have place (x y : Int) (tile : card.Tile zoom x y) : ∃ i < count, c i = x := by
      obtain ⟨column, member, here⟩ := scanned.all x y tile
      exact (places x).mpr (List.mem_map.mpr ⟨column, member, here⟩)
    have tile (i : Nat) (inside : i < count) : ∃ y, card.Tile zoom (c i) y := by
      obtain ⟨column, member, here⟩ := List.mem_map.mp ((places (c i)).mp ⟨i, inside, rfl⟩)
      exact ⟨column.minY, here ▸ scanned.minY column member⟩
    obtain ⟨⟨first, firstIn, firstAt⟩, size⟩ := opposite_ends points largest.inside
    have ends : coverage.minX = c first := by rw [minX, firstAt]
    have arc : columnsBetween zoom coverage.minX coverage.maxX =
        tilesPerAxis zoom - CircleGap.gap (tilesPerAxis zoom) c count found := by
      rw [columnsBetween, minX, maxX, size]
    have lowIn : 0 ≤ coverage.minX ∧ coverage.minX < tilesPerAxis zoom := by
      rw [ends]
      exact ⟨points.nonneg first firstIn, points.less first firstIn⟩
    have highIn : 0 ≤ coverage.maxX ∧ coverage.maxX < tilesPerAxis zoom := by
      rw [maxX]
      exact ⟨points.nonneg found largest.inside, points.less found largest.inside⟩
    constructor
    · exact ⟨fun _ => filled.mp columns, fun _ => heights.valid⟩
    · intro _
      obtain ⟨low, lowMember, lowest⟩ := heights.minY
      refine ⟨⟨low.x, lowest ▸ scanned.minY low lowMember⟩, fun x y tile => ?_⟩
      obtain ⟨column, member, rfl⟩ := scanned.all x y tile
      exact (heights.within column member).1.trans (scanned.within column member y tile).1
    · intro _
      obtain ⟨high, highMember, highest⟩ := heights.maxY
      refine ⟨⟨high.x, highest ▸ scanned.maxY high highMember⟩, fun x y tile => ?_⟩
      obtain ⟨column, member, rfl⟩ := scanned.all x y tile
      exact (scanned.within column member y tile).2.trans (heights.within column member).2
    · exact fun _ => wraps
    · intro x y tile
      obtain ⟨i, inside, rfl⟩ := place x y tile
      rw [wraps, tileXInCoverage_iff lowIn highIn ⟨points.nonneg i inside, points.less i inside⟩, arc, minX,
        CircleGap.within_start]
      exact points.around largest.inside inside
    · exact fun _ => ⟨by rw [ends]; exact tile first firstIn, by rw [maxX]; exact tile found largest.inside⟩
    · intro _ low high lowValid highValid holds
      rw [tileValid_iff] at lowValid highValid
      rw [arc]
      have held : ∀ i < count, CircleGap.Within (tilesPerAxis zoom) low (columnsBetween zoom low high) (c i) := by
        intro i inside
        obtain ⟨y, here⟩ := tile i inside
        rw [← tileXInCoverage_iff lowValid.1 highValid.1 ⟨points.nonneg i inside, points.less i inside⟩]
        exact holds (c i) y here
      exact points.shortest largest held
    · intro _
      rw [sampleX, sampleY]
      exact scanned.sampleY column member

end Coverage

section Turns

variable {card : Card} {s t : MapState}

theorem idle_turns (idle : s.phase = .idle) (turns : Nat) : (perform card)^[turns] s = s := by
  apply Function.iterate_fixed
  simp only [perform, idle]

structure Onward (s t : MapState) : Prop where
  processed : s.entriesProcessed ≤ t.entriesProcessed
  pending : t.pendingScan = s.pendingScan

theorem Onward.refl (s : MapState) : Onward s s := ⟨Nat.le_refl _, rfl⟩

theorem perform_onward (card : Card) (s : MapState) : Onward s (perform card s) := by
  have one (rest : MapState) (read : rest.entriesProcessed = s.entriesProcessed + 1)
      (pending : rest.pendingScan = s.pendingScan) : Onward s rest := ⟨read ▸ Nat.le_succ _, pending⟩
  unfold perform
  cases s.phase with
  | idle | checkStorage | sortColumns | prepareSample | finishAll => exact ⟨Nat.le_refl _, rfl⟩
  | tryIndex =>
    dsimp only [tryIndex]
    split
    · exact ⟨Nat.le_add_right _ _, rfl⟩
    · exact ⟨Nat.le_refl _, rfl⟩
  | openZoom =>
    dsimp only [openZoom]
    split_ifs
    · exact ⟨Nat.le_refl _, rfl⟩
    · split <;> exact ⟨Nat.le_refl _, rfl⟩
  | scanX =>
    dsimp only [scanX]
    split
    · exact ⟨Nat.le_refl _, rfl⟩
    · split_ifs
      · exact one _ rfl rfl
      · split <;> exact one _ rfl rfl
  | openY =>
    dsimp only [openY]
    split <;> exact ⟨Nat.le_refl _, rfl⟩
  | scanY =>
    dsimp only [scanY]
    split
    · exact ⟨Nat.le_refl _, rfl⟩
    · split
      · exact one _ rfl rfl
      · split_ifs <;> exact one _ rfl rfl
  | recordColumn =>
    dsimp only [recordColumn, recordDiscoveryColumn]
    split_ifs <;> exact ⟨Nat.le_refl _, rfl⟩
  | deduplicateColumns =>
    dsimp only [deduplicateColumns]
    split_ifs <;> exact ⟨Nat.le_refl _, rfl⟩
  | findLargestGap =>
    dsimp only [findLargestGap]
    split_ifs <;> exact ⟨Nat.le_refl _, rfl⟩
  | selectSample =>
    dsimp only [selectSample]
    split_ifs <;> exact ⟨Nat.le_refl _, rfl⟩
  | finishZoom =>
    dsimp only [finishZoom, commitDiscoveryZoom]
    split_ifs <;> exact ⟨Nat.le_refl _, rfl⟩

theorem turns_onward (card : Card) (s : MapState) (turns : Nat) : Onward s ((perform card)^[turns] s) := by
  induction turns with
  | zero => exact Onward.refl s
  | succ turns ih =>
    rw [Function.iterate_succ_apply']
    have step := perform_onward card ((perform card)^[turns] s)
    exact ⟨ih.processed.trans step.processed, step.pending.trans ih.pending⟩

theorem turns_processed {turns : Nat} (ends : ((perform card)^[turns] s).phase = .idle) (before : Nat) :
    ((perform card)^[before] s).entriesProcessed ≤ ((perform card)^[turns] s).entriesProcessed := by
  rcases Nat.le_total before turns with earlier | later
  · have rest := (turns_onward card ((perform card)^[before] s) (turns - before)).processed
    rwa [← Function.iterate_add_apply, Nat.sub_add_cancel earlier] at rest
  · rw [← Nat.sub_add_cancel later, Function.iterate_add_apply, idle_turns ends]

end Turns

section Cuts

variable {card : Card} {call : StepCall} {s : MapState} {turns fuel : Nat}

/-- Not too much is on the card, so that the check at the head of the loop does nothing. -/
def Calm (card : Card) (s : MapState) : Prop := ∀ turns, ((perform card)^[turns] s).entriesProcessed < maxEntries

theorem Calm.later (calm : Calm card s) (turns : Nat) : Calm card ((perform card)^[turns] s) := by
  intro more
  rw [← Function.iterate_add_apply]
  exact calm (more + turns)

theorem Calm.checkLimit (calm : Calm card s) : checkLimit s = s := by
  have few := calm 0
  unfold TileDiscovery.checkLimit
  rw [if_neg]
  rintro ⟨many, _⟩
  rw [Function.iterate_zero_apply] at few
  omega

theorem discoveryLoop_turns (calm : Calm card s) (ends : ((perform card)^[turns] s).phase = .idle)
    (enough : turns < fuel) (budget : Budget) :
    ∃ taken running, discoveryLoop card call fuel budget s = some (running, (perform card)^[taken] s) := by
  induction turns generalizing s fuel budget with
  | zero =>
    obtain ⟨fuel, rfl⟩ : ∃ more, fuel = more + 1 := ⟨fuel - 1, by omega⟩
    have idle : s.phase = .idle := ends
    exact ⟨0, false, by rw [discoveryLoop, if_pos idle, Function.iterate_zero_apply]⟩
  | succ turns ih =>
    obtain ⟨fuel, rfl⟩ : ∃ more, fuel = more + 1 := ⟨fuel - 1, by omega⟩
    have next (budget : Budget) := ih (s := perform card s) (calm.later 1) ends (Nat.lt_of_succ_lt_succ enough) budget
    unfold discoveryLoop
    by_cases idle : s.phase = .idle
    · exact ⟨0, false, by rw [if_pos idle, Function.iterate_zero_apply]⟩
    · rw [if_neg idle, calm.checkLimit]
      dsimp only
      split
      · cases consumeOperation call budget with
        | none => exact ⟨0, true, rfl⟩
        | some budget =>
          obtain ⟨taken, running, result⟩ := next budget
          exact ⟨taken + 1, running, result⟩
      · split
        · exact ⟨1, false, rfl⟩
        · obtain ⟨taken, running, result⟩ := next budget
          exact ⟨taken + 1, running, result⟩

theorem discoveryLoop_some (calm : Calm card s) (ends : ((perform card)^[turns] s).phase = .idle)
    (working : s.phase ≠ .idle) (enough : turns < fuel) {remaining : Nat} (items : 0 < remaining) :
    ∃ taken running, 0 < taken ∧
      discoveryLoop card call fuel ⟨remaining, 0⟩ s = some (running, (perform card)^[taken] s) := by
  obtain ⟨fuel, rfl⟩ : ∃ more, fuel = more + 1 := ⟨fuel - 1, by omega⟩
  obtain ⟨turns, rfl⟩ : ∃ fewer, turns = fewer + 1 := by
    rcases Nat.eq_zero_or_pos turns with zero | positive
    · rw [zero] at ends
      exact absurd ends working
    · exact ⟨turns - 1, by omega⟩
  have granted : consumeOperation call ⟨remaining, 0⟩ = some ⟨remaining - 1, 1⟩ := by
    unfold consumeOperation
    rw [if_neg (by simp), if_neg (by dsimp only; omega)]
  have next (budget : Budget) : ∃ taken running, 0 < taken ∧
      discoveryLoop card call fuel budget (perform card s) = some (running, (perform card)^[taken] s) := by
    have rest : ∃ taken running, discoveryLoop card call fuel budget (perform card s) =
        some (running, (perform card)^[taken] (perform card s)) :=
      discoveryLoop_turns (calm.later 1) ends (Nat.lt_of_succ_lt_succ enough) budget
    obtain ⟨taken, running, result⟩ := rest
    exact ⟨taken + 1, running, Nat.succ_pos taken, result⟩
  unfold discoveryLoop
  rw [if_neg working, calm.checkLimit, granted]
  dsimp only
  split
  · exact next _
  · split
    · exact ⟨1, false, Nat.one_pos, rfl⟩
    · exact next _

end Cuts

section Sessions

variable {card : Card} {call : StepCall} {s t : MapState} {turns fuel : Nat}

/-- One call after the other; `none` where the fuel of one is exhausted. -/
def session (card : Card) (fuel : Nat) : List StepCall → MapState → Option MapState
  | [], s => some s
  | call :: rest, s => (discoveryStep card call fuel s).bind fun result => session card fuel rest result.2

structure StepCall.Works (call : StepCall) : Prop where
  items : 0 < call.maxItems
  time : call.maxMs ≠ 0

theorem step_turns (pending : s.pendingScan = false) (calm : Calm card s)
    (ends : ((perform card)^[turns] s).phase = .idle) (working : s.phase ≠ .idle) (enough : turns < fuel)
    (works : call.Works) : ∃ taken running, 0 < taken ∧
      discoveryStep card call fuel s = some (running, (perform card)^[taken] s) := by
  have items : 0 < call.maxItems.toNat := by
    have positive := works.items
    omega
  have allowed : ¬(call.maxItems ≤ 0 ∨ call.maxMs = 0) := by
    rintro (few | none)
    · exact absurd works.items (Int.not_lt.mpr few)
    · exact works.time none
  have step : discoveryStep card call fuel s = discoveryLoop card call fuel ⟨call.maxItems.toNat, 0⟩ s := by
    simp [discoveryStep, pending, working, allowed]
  rw [step]
  exact discoveryLoop_some calm ends working enough items

theorem session_idle (calls : List StepCall) (pending : s.pendingScan = false) (idle : s.phase = .idle) :
    ∃ t, session card fuel calls s = some t ∧ t.phase = .idle ∧ t.tileCoverage = s.tileCoverage := by
  induction calls generalizing s with
  | nil => exact ⟨s, rfl, idle, rfl⟩
  | cons call rest ih =>
    have step : discoveryStep card call fuel s = some (false, cleanIdle s) := by
      simp [discoveryStep, pending, idle]
    have clean : (cleanIdle s).pendingScan = false ∧ (cleanIdle s).phase = .idle ∧
        (cleanIdle s).tileCoverage = s.tileCoverage := by
      unfold cleanIdle
      dsimp only
      split_ifs <;> exact ⟨pending, idle, rfl⟩
    obtain ⟨t, result, idle', kept⟩ := ih clean.1 clean.2.1
    exact ⟨t, by rw [session, step]; exact result, idle', kept.trans clean.2.2⟩

theorem session_turns (calls : List StepCall) (works : ∀ call ∈ calls, call.Works) (pending : s.pendingScan = false)
    (calm : Calm card s) (ends : ((perform card)^[turns] s).phase = .idle) (enough : turns < fuel)
    (many : turns ≤ calls.length) : ∃ t, session card fuel calls s = some t ∧ t.phase = .idle ∧
      t.tileCoverage = ((perform card)^[turns] s).tileCoverage := by
  induction calls generalizing s turns with
  | nil =>
    obtain rfl : turns = 0 := Nat.le_zero.mp many
    exact ⟨s, rfl, ends, rfl⟩
  | cons call rest ih =>
    by_cases idle : s.phase = .idle
    · rw [idle_turns idle]
      exact session_idle (call :: rest) pending idle
    · obtain ⟨taken, running, some, step⟩ :=
        step_turns pending calm ends idle enough (works call List.mem_cons_self)
      have positive : turns ≠ 0 := by
        rintro rfl
        exact idle ends
      -- the turns of this call and those that are left make all of them, or more
      have after : (perform card)^[turns - 1] ((perform card)^[taken] s) = (perform card)^[turns] s := by
        rw [← Function.iterate_add_apply, show turns - 1 + taken = (taken - 1) + turns by omega,
          Function.iterate_add_apply, idle_turns ends]
      have idleThere : ((perform card)^[turns - 1] ((perform card)^[taken] s)).phase = .idle := by rwa [after]
      have left : turns - 1 ≤ rest.length := by
        rw [List.length_cons] at many
        omega
      obtain ⟨t, result, idle', kept⟩ := ih (fun call member => works call (List.mem_cons_of_mem _ member))
        ((turns_onward card s taken).pending.trans pending) (calm.later taken) idleThere (by omega) left
      refine ⟨t, ?_, idle', by rw [kept, after]⟩
      rw [session, step]
      exact result

end Sessions

section Samples

/-- The module's variables as they are first, with the columns of the cache as it happens. -/
def MapState.initial : MapState where
  tileCoverage := fun _ => .none
  haveTileCoverage := false
  minAvailableZoom := 0
  maxAvailableZoom := maxZoom
  xcache := fun _ => ⟨0, 0, 0, 0⟩
  xcacheAllocated := false
  xcacheReleaseRequested := false

/-- A card with tiles at zoom 3, where an axis has eight tiles. -/
def Card.sample (entries : List ColumnEntry) : Card where
  mounted := true
  index := none
  cacheFits := true
  zoomDirectory := fun zoom => if zoom = 3 then some entries else none

/-- A name that is a number is so without leading zeros. -/
def Plain (name : Name) : Prop := name ≠ [] → name.all isDigit = true → name = decimal (valueOf 0 name)

instance (name : Name) : Decidable (Plain name) := inferInstanceAs (Decidable (_ → _))

theorem sample_listed {entries listed : List ColumnEntry} {zoom : Nat}
    (directory : (Card.sample entries).zoomDirectory zoom = some listed) : listed = entries := by
  change (if zoom = 3 then some entries else none) = some listed at directory
  split at directory
  · exact (Option.some.inj directory).symm
  · cases directory

theorem ncard_columns_le (card : Card) (zoom : Nat) :
    {x | ∃ y, card.Tile zoom x y}.ncard ≤ ((card.zoomDirectory zoom).getD []).length := by
  let names := (((card.zoomDirectory zoom).getD []).map ColumnEntry.name).toFinset
  have named : ∀ x ∈ {x | ∃ y, card.Tile zoom x y}, formatInt x ∈ (names : Set Name) := by
    rintro x ⟨y, -, entries, files, listed, member, -⟩
    rw [Finset.mem_coe, List.mem_toFinset, listed, Option.getD_some]
    exact List.mem_map_of_mem member
  have apart : Set.InjOn formatInt {x | ∃ y, card.Tile zoom x y} := by
    rintro x ⟨y, tile, -⟩ x' ⟨y', tile', -⟩ same
    exact formatInt_injective (tileValid_iff.mp tile).1.1 (tileValid_iff.mp tile').1.1 same
  calc Set.ncard {x | ∃ y, card.Tile zoom x y} ≤ Set.ncard (names : Set Name) :=
        Set.ncard_le_ncard_of_injOn formatInt named apart names.finite_toSet
    _ = names.card := Set.ncard_coe_finset names
    _ ≤ (((card.zoomDirectory zoom).getD []).map ColumnEntry.name).length := List.toFinset_card_le _
    _ = ((card.zoomDirectory zoom).getD []).length := List.length_map _

theorem sample_admissible {entries : List ColumnEntry} (distinct : (entries.map ColumnEntry.name).Nodup)
    (columns : ∀ entry ∈ entries, Plain entry.name)
    (rows : ∀ entry ∈ entries, ∀ file ∈ entry.files.getD [], ∀ parts ∈ splitExtension file, Plain parts.1)
    (few : directoryCount entries < maxEntries) (narrow : entries.length ≤ maxXcols) :
    (Card.sample entries).Admissible where
  mounted := rfl
  noIndex := rfl
  cacheFits := rfl
  distinct := by
    intro zoom _ listed directory
    rw [sample_listed directory]
    exact distinct
  columnNames := by
    intro zoom _ listed directory entry member filled digits
    exact ⟨_, columns entry (sample_listed directory ▸ member) filled digits⟩
  fileNames := by
    intro zoom _ listed directory entry member files given stem extension inside png filled digits
    obtain ⟨rest, rfl, plain⟩ := isPng_split png
    refine ⟨_, rows entry (sample_listed directory ▸ member) (stem ++ dot :: rest) ?_ (stem, dot :: rest) ?_ filled
      digits⟩
    · rw [given]
      exact inside
    · exact splitExtension_append stem plain
  fewEntries := by
    have total : (Card.sample entries).entriesFrom 0 (18 + 1) = directoryCount entries := by
      simp [Card.entriesFrom, Card.sample, directoryCount]
    rw [maxZoom, total]
    exact few
  fewColumns := by
    intro zoom _
    apply Nat.le_trans (ncard_columns_le _ zoom)
    cases directory : (Card.sample entries).zoomDirectory zoom with
    | none => exact Nat.zero_le _
    | some listed =>
      rw [Option.getD_some, sample_listed directory]
      exact narrow

def png (stem : Char) : Name := [stem, '.', 'p', 'n', 'g'].map ascii

/-- Columns on both sides of the date line, with a directory and a file that are no tiles. -/
def westFirst : List ColumnEntry :=
  [⟨['7'].map ascii, some [png '3', ['t', '.', 't', 'x', 't'].map ascii, png '2']⟩,
    ⟨['0'].map ascii, some [png '2', png '4']⟩, ⟨['m', 'a', 'p', 's'].map ascii, some [png '1']⟩,
    ⟨['1'].map ascii, some [png '3']⟩]

/-- The same tiles in another order, beside a file in place of a column, a column that zoom 3 does not
    have, a row that it does not have and a hidden name. -/
def eastFirst : List ColumnEntry :=
  [⟨['1'].map ascii, some [png '3']⟩, ⟨['5'].map ascii, none⟩,
    ⟨['0'].map ascii, some [['4', '.', 'P', 'N', 'G'].map ascii, ['.', 'p', 'n', 'g'].map ascii, png '2']⟩,
    ⟨['9'].map ascii, some [png '0']⟩, ⟨['7'].map ascii, some [png '2', png '3', png '8']⟩]

theorem westFirst_admissible : (Card.sample westFirst).Admissible :=
  sample_admissible (by decide) (by decide) (by decide) (by decide) (by decide)

theorem eastFirst_admissible : (Card.sample eastFirst).Admissible :=
  sample_admissible (by decide) (by decide) (by decide) (by decide) (by decide)

theorem sameTiles (zoom : Nat) (x y : Int) :
    (Card.sample westFirst).Tile zoom x y ↔ (Card.sample eastFirst).Tile zoom x y := by
  by_cases here : zoom = 3
  · subst here
    have west : (Card.sample westFirst).tilesAt 3 = [(7, 3), (7, 2), (0, 2), (0, 4), (1, 3)] := by decide
    have east : (Card.sample eastFirst).tilesAt 3 = [(1, 3), (0, 4), (0, 2), (7, 2), (7, 3)] := by decide
    have order : [((7 : Int), (3 : Int)), (7, 2), (0, 2), (0, 4), (1, 3)].Perm
        [(1, 3), (0, 4), (0, 2), (7, 2), (7, 3)] := by
      decide
    rw [westFirst_admissible.tile_iff (by decide), eastFirst_admissible.tile_iff (by decide), west, east, order.mem_iff]
  · have none (entries : List ColumnEntry) : ¬(Card.sample entries).Tile zoom x y := by
      rintro ⟨-, listed, files, directory, -⟩
      change (if zoom = 3 then some entries else none) = some listed at directory
      rw [if_neg here] at directory
      cases directory
    exact iff_of_false (none _) (none _)

end Samples

section Discovery

variable {card : Card}

theorem zooms_reach (admissible : card.Admissible) {limit : Nat} {table : Nat → TileCoverage} {s : MapState}
    (start : AtZoom card 0 table limit s) {zoom : Nat} (bound : zoom ≤ maxZoom + 1) : ∃ after t, Reaches card s t ∧
      AtZoom card zoom after limit t ∧ (∀ level < zoom, Outcome card level (table level) (after level)) ∧
        ∀ level, zoom ≤ level → after level = table level := by
  induction zoom with
  | zero =>
    exact ⟨table, s, Reaches.refl s, start, fun level below => absurd below (Nat.not_lt_zero level), fun _ _ => rfl⟩
  | succ zoom ih =>
    obtain ⟨before, t, reaches, at', done, rest⟩ := ih (by omega)
    obtain ⟨coverage, u, onward, next, outcome⟩ := at'.reaches admissible (by omega)
    refine ⟨Function.update before zoom coverage, u, reaches.trans onward, next, fun level below => ?_,
      fun level above => ?_⟩
    · by_cases here : level = zoom
      · subst here
        rw [Function.update_self, ← rest level (Nat.le_refl _)]
        exact outcome
      · rw [Function.update_of_ne here]
        exact done level (by omega)
    · rw [Function.update_of_ne (by omega)]
      exact rest level (by omega)

theorem discovery_turns (admissible : card.Admissible) (s : MapState) : ∃ turns,
    ((perform card)^[turns] (beginScan (discoverTiles s))).phase = .idle ∧
    ((perform card)^[turns] (beginScan (discoverTiles s))).entriesProcessed < maxEntries ∧
    ∀ zoom ≤ maxZoom,
      Outcome card zoom .none (((perform card)^[turns] (beginScan (discoverTiles s))).tileCoverage zoom) := by
  let start := beginScan (discoverTiles s)
  have checked : perform card start = { start with phase := .tryIndex } := by
    change checkStorage card start = _
    rw [checkStorage, admissible.mounted, if_pos rfl]
  have indexed : perform card { start with phase := .tryIndex } =
      { start with xcacheAllocated := true, phase := .openZoom } := by
    change tryIndex card { start with phase := .tryIndex } = _
    simp only [tryIndex, admissible.noIndex, admissible.cacheFits, Bool.or_true, if_true]
  have begun : AtZoom card 0 start.tileCoverage (card.entriesFrom 0 (maxZoom + 1))
      { start with xcacheAllocated := true, phase := .openZoom } :=
    ⟨rfl, rfl, rfl, rfl, Nat.le_of_eq (Nat.zero_add _)⟩
  obtain ⟨table, t, zooms, done, outcomes, _⟩ := zooms_reach admissible begun (Nat.le_refl _)
  have last : perform card t = { t with phase := .finishAll } := by
    simp only [perform, done.phase, openZoom, done.level, gt_iff_lt, Nat.lt_succ_self, true_or, if_true]
  have ending : perform card { t with phase := .finishAll } = finishDiscovery { t with phase := .finishAll } := rfl
  obtain ⟨turns, reached⟩ := (((Reaches.turn checked).trans (Reaches.turn indexed)).trans zooms).trans
    ((Reaches.turn last).trans (Reaches.turn ending))
  refine ⟨turns, ?_⟩
  change _ ∧ _ ∧ ∀ zoom ≤ maxZoom, Outcome card zoom .none (((perform card)^[turns] start).tileCoverage zoom)
  rw [reached]
  refine ⟨rfl, ?_, fun zoom bound => ?_⟩
  · have processed := done.processed
    have few := admissible.fewEntries
    change t.entriesProcessed < maxEntries
    omega
  · have outcome := outcomes zoom (Nat.lt_succ_of_le bound)
    have none : start.tileCoverage zoom = .none := by
      dsimp only [start, beginScan]
      split_ifs <;> exact if_pos bound
    rw [none, ← done.kept] at outcome
    exact outcome

theorem discovery_outcomes (admissible : card.Admissible) (s : MapState) : ∃ enough, ∀ calls : List StepCall,
    (∀ call ∈ calls, call.Works) → enough ≤ calls.length → ∀ fuel, enough ≤ fuel →
      ∃ t, session card fuel calls (discoverTiles s) = some t ∧ t.phase = .idle ∧
        ∀ zoom ≤ maxZoom, Outcome card zoom .none (t.tileCoverage zoom) := by
  obtain ⟨turns, ends, few, outcomes⟩ := discovery_turns admissible s
  refine ⟨turns + 1, fun calls works many fuel enough => ?_⟩
  have calm : Calm card (beginScan (discoverTiles s)) := fun before =>
    Nat.lt_of_le_of_lt (turns_processed ends before) few
  obtain ⟨t, result, idle, kept⟩ := session_turns calls works rfl calm ends enough (Nat.le_of_succ_le many)
  have first : session card fuel calls (discoverTiles s) = session card fuel calls (beginScan (discoverTiles s)) := by
    cases calls with
    | nil => exact absurd many (Nat.not_succ_le_zero turns)
    | cons call rest => rfl
  exact ⟨t, first.trans result, idle, fun zoom bound => kept ▸ outcomes zoom bound⟩

/-- Any calls that work at all, if there are enough of them, find the coverage of every zoom. -/
theorem discovery_charts (admissible : card.Admissible) (s : MapState) : ∃ enough, ∀ calls : List StepCall,
    (∀ call ∈ calls, call.Works) → enough ≤ calls.length → ∀ fuel, enough ≤ fuel →
      ∃ t, session card fuel calls (discoverTiles s) = some t ∧ t.phase = .idle ∧
        ∀ zoom ≤ maxZoom, Charted card zoom (t.tileCoverage zoom) := by
  obtain ⟨enough, holds⟩ := discovery_outcomes admissible s
  refine ⟨enough, fun calls works many fuel less => ?_⟩
  obtain ⟨t, result, idle, outcomes⟩ := holds calls works many fuel less
  exact ⟨t, result, idle, fun zoom bound => (outcomes zoom bound).charted (admissible.scanned_columns bound)⟩

theorem discovery_charts_westFirst : ∃ enough, ∀ calls : List StepCall, (∀ call ∈ calls, call.Works) →
    enough ≤ calls.length → ∀ fuel, enough ≤ fuel →
      ∃ t, session (.sample westFirst) fuel calls (discoverTiles .initial) = some t ∧ t.phase = .idle ∧
        ∀ zoom ≤ maxZoom, Charted (.sample westFirst) zoom (t.tileCoverage zoom) :=
  discovery_charts westFirst_admissible .initial

end Discovery

section Agreement

variable {card card' : Card} {zoom : Nat}

def TileCoverage.unsampled (coverage : TileCoverage) : TileCoverage := { coverage with sampleX := 0, sampleY := 0 }

theorem Outcome.agree {coverage coverage' : TileCoverage} (admissible : card.Admissible)
    (admissible' : card'.Admissible) (bound : zoom ≤ maxZoom)
    (same : ∀ x y, card.Tile zoom x y ↔ card'.Tile zoom x y) (outcome : Outcome card zoom .none coverage)
    (outcome' : Outcome card' zoom .none coverage') : coverage.unsampled = coverage'.unsampled := by
  have scanned := admissible.scanned_columns bound
  have scanned' := admissible'.scanned_columns bound
  have charted := outcome.charted scanned
  have charted' := outcome'.charted scanned'
  have filled : card.columns zoom ≠ [] ↔ card'.columns zoom ≠ [] := by
    rw [columns_filled scanned, columns_filled scanned']
    simp only [same]
  rcases outcome with ⟨empty, rfl⟩ | ⟨columns, shaped⟩
  · rcases outcome' with ⟨_, rfl⟩ | ⟨columns', _⟩
    · rfl
    · exact absurd empty (filled.mpr columns')
  · rcases outcome' with ⟨empty', rfl⟩ | ⟨_, shaped'⟩
    · exact absurd empty' (filled.mp columns)
    · have valid := shaped.heights.valid
      have valid' := shaped'.heights.valid
      obtain ⟨c, count, found, points, places, largest, minX, maxX⟩ := shaped.opposed
      obtain ⟨c', count', found', points', places', largest', minX', maxX'⟩ := shaped'.opposed
      have member (x : Int) :
          x ∈ (card.columns zoom).map XColCache.x ↔ x ∈ (card'.columns zoom).map XColCache.x := by
        simp only [List.mem_map]
        constructor
        · rintro ⟨column, inside, rfl⟩
          obtain ⟨column', inside', here⟩ := scanned'.all _ _ ((same _ _).mp (scanned.minY column inside))
          exact ⟨column', inside', here⟩
        · rintro ⟨column, inside, rfl⟩
          obtain ⟨column', inside', here⟩ := scanned.all _ _ ((same _ _).mpr (scanned'.minY column inside))
          exact ⟨column', inside', here⟩
      obtain ⟨rfl, equal⟩ := points.agree points' fun x => by rw [places, places', member]
      obtain rfl := (largest.congr points equal).unique largest'
      have sameMinX : coverage.minX = coverage'.minX := by rw [minX, minX', CircleGap.next_congr points equal]
      have sameMaxX : coverage.maxX = coverage'.maxX := by rw [maxX, maxX', equal found largest.inside]
      have sameMinY : coverage.minY = coverage'.minY := by
        obtain ⟨⟨x, tile⟩, least⟩ := charted.lowest valid
        obtain ⟨⟨x', tile'⟩, least'⟩ := charted'.lowest valid'
        exact Int.le_antisymm (least x' _ ((same _ _).mpr tile')) (least' x _ ((same _ _).mp tile))
      have sameMaxY : coverage.maxY = coverage'.maxY := by
        obtain ⟨⟨x, tile⟩, greatest⟩ := charted.highest valid
        obtain ⟨⟨x', tile'⟩, greatest'⟩ := charted'.highest valid'
        exact Int.le_antisymm (greatest' x _ ((same _ _).mp tile)) (greatest x' _ ((same _ _).mpr tile'))
      simp only [TileCoverage.unsampled, valid, valid', shaped.wraps, shaped'.wraps, sameMinX, sameMaxX,
        sameMinY, sameMaxY]

/-- Neither the order of the listings nor the cutting into calls nor the state before says what is found. -/
theorem discovery_agrees (admissible : card.Admissible) (admissible' : card'.Admissible)
    (same : ∀ zoom x y, card.Tile zoom x y ↔ card'.Tile zoom x y) (s s' : MapState) : ∃ enough,
    ∀ calls calls' : List StepCall, (∀ call ∈ calls, call.Works) → (∀ call ∈ calls', call.Works) →
      enough ≤ calls.length → enough ≤ calls'.length → ∀ fuel, enough ≤ fuel →
        ∃ t t', session card fuel calls (discoverTiles s) = some t ∧
          session card' fuel calls' (discoverTiles s') = some t' ∧
          ∀ zoom ≤ maxZoom, (t.tileCoverage zoom).unsampled = (t'.tileCoverage zoom).unsampled := by
  obtain ⟨enough, holds⟩ := discovery_outcomes admissible s
  obtain ⟨enough', holds'⟩ := discovery_outcomes admissible' s'
  refine ⟨max enough enough', fun calls calls' works works' many many' fuel less => ?_⟩
  obtain ⟨t, result, _, outcomes⟩ := holds calls works (by omega) fuel (by omega)
  obtain ⟨t', result', _, outcomes'⟩ := holds' calls' works' (by omega) fuel (by omega)
  exact ⟨t, t', result, result', fun zoom bound =>
    (outcomes zoom bound).agree admissible admissible' bound (same zoom) (outcomes' zoom bound)⟩

/-- The second session begins while the scan of a higher zoom is under way. -/
theorem discovery_agrees_listings : ∃ enough, ∀ calls calls' : List StepCall, (∀ call ∈ calls, call.Works) →
    (∀ call ∈ calls', call.Works) → enough ≤ calls.length → enough ≤ calls'.length → ∀ fuel, enough ≤ fuel →
      ∃ t t', session (.sample westFirst) fuel calls (discoverTiles .initial) = some t ∧
        session (.sample eastFirst) fuel calls'
          (discoverTiles { MapState.initial with phase := .scanX, zoom := 9, currentX := 4 }) = some t' ∧
        ∀ zoom ≤ maxZoom, (t.tileCoverage zoom).unsampled = (t'.tileCoverage zoom).unsampled :=
  discovery_agrees westFirst_admissible eastFirst_admissible sameTiles _ _

end Agreement

end SigurdOS.App.TileDiscovery
