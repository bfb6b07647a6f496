import SigurdOS.App.TileListing
import SigurdOS.Library.CircleGap

/-! The turns of the discovery, one loop after the other, from the opening of a zoom to its end. -/

namespace SigurdOS.App.TileDiscovery

section Reaching

variable {card : Card} {s t u : MapState}

def Reaches (card : Card) (s t : MapState) : Prop := ∃ turns, (perform card)^[turns] s = t

theorem Reaches.refl (s : MapState) : Reaches card s s := ⟨0, rfl⟩

theorem Reaches.turn (turned : perform card s = t) : Reaches card s t := ⟨1, turned⟩

theorem Reaches.trans (first : Reaches card s t) (second : Reaches card t u) : Reaches card s u := by
  obtain ⟨before, rfl⟩ := first
  obtain ⟨after, rfl⟩ := second
  exact ⟨after + before, Function.iterate_add_apply _ after before s⟩

theorem Reaches.to (reaches : Reaches card s t) (same : t = u) : Reaches card s u := same ▸ reaches

end Reaching

section Column

variable {card : Card} {s : MapState}

def MapState.rowsAfter (s : MapState) (files : List Name) : Rows :=
  (files.filterMap (tileRow s.zoom)).foldl Rows.add ⟨s.minY, s.maxY, s.sampleY⟩

def MapState.readColumn (s : MapState) (files : List Name) : MapState :=
  { s with
    yDir := none
    minY := (s.rowsAfter files).minY, maxY := (s.rowsAfter files).maxY, sampleY := (s.rowsAfter files).sampleY
    entriesProcessed := s.entriesProcessed + files.length
    phase := if (s.rowsAfter files).sampleY ≥ 0 then .recordColumn else .scanX }

theorem scanY_reaches (card : Card) (files : List Name) (s : MapState) (phase : s.phase = .scanY)
    (listed : s.yDir = some files) : Reaches card s (s.readColumn files) := by
  induction files generalizing s with
  | nil =>
    apply Reaches.turn
    simp only [perform, phase, scanY, listed, Option.getD_some]
    rfl
  | cons name rest ih =>
    have count : s.entriesProcessed + 1 + rest.length = s.entriesProcessed + (name :: rest).length := by
      rw [List.length_cons]
      omega
    cases row : tileRow s.zoom name with
    | none =>
      have turn : perform card s = { s with yDir := some rest, entriesProcessed := s.entriesProcessed + 1 } := by
        simp only [perform, phase, scanY, listed, Option.getD_some, row]
      have later := ih { s with yDir := some rest, entriesProcessed := s.entriesProcessed + 1 } phase rfl
      refine ((Reaches.turn turn).trans later).to ?_
      simp only [MapState.readColumn, MapState.rowsAfter, count, List.filterMap_cons, row]
    | some y =>
      by_cases first : s.sampleY < 0
      · have turn : perform card s = { s with
            yDir := some rest, entriesProcessed := s.entriesProcessed + 1, minY := y, maxY := y, sampleY := y } := by
          simp only [perform, phase, scanY, listed, Option.getD_some, row, if_pos first]
        have later := ih { s with
          yDir := some rest, entriesProcessed := s.entriesProcessed + 1, minY := y, maxY := y, sampleY := y } phase rfl
        refine ((Reaches.turn turn).trans later).to ?_
        simp only [MapState.readColumn, MapState.rowsAfter, count, List.filterMap_cons, row, List.foldl_cons, Rows.add,
          if_pos first]
      · have turn : perform card s = { s with
            yDir := some rest, entriesProcessed := s.entriesProcessed + 1
            minY := min s.minY y, maxY := max s.maxY y } := by
          simp only [perform, phase, scanY, listed, Option.getD_some, row, if_neg first]
        have later := ih { s with
          yDir := some rest, entriesProcessed := s.entriesProcessed + 1
          minY := min s.minY y, maxY := max s.maxY y } phase rfl
        refine ((Reaches.turn turn).trans later).to ?_
        simp only [MapState.readColumn, MapState.rowsAfter, count, List.filterMap_cons, row, List.foldl_cons, Rows.add,
          if_neg first]

end Column

section Scan

def recordInto (coverage : TileCoverage) (column : XColCache) : TileCoverage :=
  if coverage.valid = false then
    ⟨true, false, column.x, column.x, column.minY, column.maxY, column.x, column.sampleY⟩
  else { coverage with
    minX := min coverage.minX column.x, maxX := max coverage.maxX column.x
    minY := min coverage.minY column.minY, maxY := max coverage.maxY column.maxY }

/-- The state between two entries of a zoom's directory, with those that are left and the columns so far. -/
structure Scanning (zoom : Nat) (table : Nat → TileCoverage) (limit : Nat) (rest : List ColumnEntry)
    (columns : List XColCache) (s : MapState) : Prop where
  phase : s.phase = .scanX
  listed : s.zoomDir = some rest
  level : s.zoom = zoom
  continues : s.stopAfterZoom = false
  kept : s.tileCoverage = table
  cached : s.columns = columns
  whole : s.cacheOverflow = false
  covered : s.coverage = columns.foldl recordInto .none
  processed : s.entriesProcessed + directoryCount rest ≤ limit

variable {card : Card} {zoom limit : Nat} {table : Nat → TileCoverage} {entry : ColumnEntry} {rest : List ColumnEntry}
  {columns : List XColCache} {s : MapState}

theorem columns_length (s : MapState) : s.columns.length = s.xcacheCount := by
  rw [MapState.columns, List.length_map, List.length_range]

theorem columns_record (s : MapState) (column : XColCache) :
    (List.range (s.xcacheCount + 1)).map (Function.update s.xcache s.xcacheCount column) = s.columns ++ [column] := by
  rw [List.range_succ, List.map_append, MapState.columns]
  congr 1
  · apply List.map_congr_left
    intro i member
    exact Function.update_of_ne (Nat.ne_of_lt (List.mem_range.mp member)) _ _
  · simp

theorem directoryCount_cons (entry : ColumnEntry) (rest : List ColumnEntry) :
    directoryCount (entry :: rest) = entry.count + directoryCount rest := rfl

theorem recordColumn_eq (room : s.xcacheCount < maxXcols) :
    recordColumn s = { s with
      coverage := recordInto s.coverage ⟨s.currentX, s.minY, s.maxY, s.sampleY⟩
      xcache := Function.update s.xcache s.xcacheCount ⟨s.currentX, s.minY, s.maxY, s.sampleY⟩
      xcacheCount := s.xcacheCount + 1, phase := .scanX } := by
  unfold recordColumn recordDiscoveryColumn
  rw [if_pos room]
  rfl

def MapState.inColumn (s : MapState) (rest : List ColumnEntry) (x : Int) (yDir : Option (List Name))
    (phase : DiscoveryPhase) : MapState :=
  { s with
    zoomDir := some rest, entriesProcessed := s.entriesProcessed + 1
    currentX := x, minY := -1, maxY := -1, sampleY := -1, yDir, phase }

theorem Scanning.readEntry (scanning : Scanning zoom table limit (entry :: rest) columns s)
    (opens : ∀ x, parseTileIndex entry.name zoom = some x → card.openColumn zoom x = entry.files)
    (room : (columns ++ (columnOf card zoom entry).toList).length ≤ maxXcols) :
    ∃ t, Reaches card s t ∧ Scanning zoom table limit rest (columns ++ (columnOf card zoom entry).toList) t := by
  obtain ⟨phase, zoomDir, rfl, continues, rfl, rfl, whole, coverage, processed⟩ := scanning
  rw [directoryCount_cons, ColumnEntry.count] at processed
  by_cases hidden : entry.name.head? = some dot
  · have turn : perform card s = { s with zoomDir := some rest, entriesProcessed := s.entriesProcessed + 1 } := by
      simp only [perform, phase, scanX, zoomDir, Option.getD_some, if_pos hidden]
    refine ⟨_, Reaches.turn turn, ?_⟩
    have none : columnOf card s.zoom entry = none := if_pos hidden
    rw [none, Option.toList_none, List.append_nil]
    exact ⟨phase, rfl, rfl, continues, rfl, rfl, whole, coverage, by dsimp only; omega⟩
  · cases parsed : parseTileIndex entry.name s.zoom with
    | none =>
      have turn : perform card s = { s with zoomDir := some rest, entriesProcessed := s.entriesProcessed + 1 } := by
        simp only [perform, phase, scanX, zoomDir, Option.getD_some, if_neg hidden, parsed]
      refine ⟨_, Reaches.turn turn, ?_⟩
      have none : columnOf card s.zoom entry = none := by simp only [columnOf, if_neg hidden, parsed]
      rw [none, Option.toList_none, List.append_nil]
      exact ⟨phase, rfl, rfl, continues, rfl, rfl, whole, coverage, by dsimp only; omega⟩
    | some x =>
      have turn : perform card s = s.inColumn rest x s.yDir .openY := by
        simp only [perform, phase, scanX, zoomDir, Option.getD_some, if_neg hidden, parsed]
        rfl
      have opened := opens x parsed
      cases files : entry.files with
      | none =>
        rw [files] at opened
        have next : perform card (s.inColumn rest x s.yDir .openY) = s.inColumn rest x none .scanX := by
          simp only [perform, MapState.inColumn, openY, opened]
        refine ⟨s.inColumn rest x none .scanX, (Reaches.turn turn).trans (Reaches.turn next), ?_⟩
        have none : columnOf card s.zoom entry = none := by simp only [columnOf, if_neg hidden, parsed, opened]
        rw [none, Option.toList_none, List.append_nil]
        refine ⟨rfl, rfl, rfl, continues, rfl, rfl, whole, coverage, ?_⟩
        dsimp only [MapState.inColumn]
        omega
      | some files' =>
        rw [files] at opened processed
        rw [Option.getD_some] at processed
        have next : perform card (s.inColumn rest x s.yDir .openY) = s.inColumn rest x (some files') .scanY := by
          simp only [perform, MapState.inColumn, openY, opened]
        have read := scanY_reaches card files' (s.inColumn rest x (some files') .scanY) rfl rfl
        have there := ((Reaches.turn turn).trans (Reaches.turn next)).trans read
        have count : s.entriesProcessed + 1 + files'.length + directoryCount rest ≤ limit := by omega
        by_cases sampled : (rowsOf s.zoom files').sampleY ≥ 0
        · have column : columnOf card s.zoom entry = some ⟨x, (rowsOf s.zoom files').minY, (rowsOf s.zoom files').maxY,
              (rowsOf s.zoom files').sampleY⟩ := by
            simp only [columnOf, if_neg hidden, parsed, opened]
            exact if_pos sampled
          rw [column, Option.toList_some, List.length_append, columns_length, List.length_singleton] at room
          rw [column, Option.toList_some]
          have records : perform card ((s.inColumn rest x (some files') .scanY).readColumn files') =
              recordColumn ((s.inColumn rest x (some files') .scanY).readColumn files') := by
            have phase' : ((s.inColumn rest x (some files') .scanY).readColumn files').phase = .recordColumn :=
              if_pos sampled
            simp only [perform, phase']
          refine ⟨_, there.trans (Reaches.turn records), ?_⟩
          have free : ((s.inColumn rest x (some files') .scanY).readColumn files').xcacheCount < maxXcols := room
          rw [recordColumn_eq free]
          refine ⟨rfl, rfl, rfl, continues, rfl, columns_record s _, whole, ?_, count⟩
          rw [List.foldl_append, List.foldl_cons, List.foldl_nil, ← coverage]
          rfl
        · have none : columnOf card s.zoom entry = none := by
            simp only [columnOf, if_neg hidden, parsed, opened]
            exact if_neg sampled
          rw [none, Option.toList_none, List.append_nil]
          exact ⟨_, there, if_neg sampled, rfl, rfl, continues, rfl, rfl, whole, coverage, count⟩

theorem Scanning.readEntries (scanning : Scanning zoom table limit rest columns s)
    (opens : ∀ entry ∈ rest, ∀ x, parseTileIndex entry.name zoom = some x → card.openColumn zoom x = entry.files)
    (room : (columns ++ rest.filterMap (columnOf card zoom)).length ≤ maxXcols) :
    ∃ t, Reaches card s t ∧ Scanning zoom table limit [] (columns ++ rest.filterMap (columnOf card zoom)) t := by
  induction rest generalizing columns s with
  | nil => exact ⟨s, Reaches.refl s, by rw [List.filterMap_nil, List.append_nil]; exact scanning⟩
  | cons entry rest ih =>
    have split : (entry :: rest).filterMap (columnOf card zoom) =
        (columnOf card zoom entry).toList ++ rest.filterMap (columnOf card zoom) := by
      rw [List.filterMap_cons]
      cases columnOf card zoom entry with
      | none => rfl
      | some column => rfl
    rw [split, ← List.append_assoc] at room ⊢
    have fewer : (columns ++ (columnOf card zoom entry).toList).length ≤ maxXcols := by
      rw [List.length_append] at room
      omega
    obtain ⟨t, reaches, scanning'⟩ := scanning.readEntry (opens entry List.mem_cons_self) fewer
    obtain ⟨u, reaches', done⟩ := ih scanning' (fun entry member => opens entry (List.mem_cons_of_mem _ member)) room
    exact ⟨u, reaches.trans reaches', done⟩

end Scan

section Heights

/-- The coverage is valid and reaches from the lowest to the highest row of the columns. -/
structure Heights (coverage : TileCoverage) (columns : List XColCache) : Prop where
  valid : coverage.valid = true
  minY : ∃ column ∈ columns, coverage.minY = column.minY
  maxY : ∃ column ∈ columns, coverage.maxY = column.maxY
  within : ∀ column ∈ columns, coverage.minY ≤ column.minY ∧ column.maxY ≤ coverage.maxY

theorem recordInto_heights {columns : List XColCache} (filled : columns ≠ []) :
    Heights (columns.foldl recordInto .none) columns := by
  induction columns using List.reverseRecOn with
  | nil => exact absurd rfl filled
  | append_singleton before column ih =>
    rw [List.foldl_append, List.foldl_cons, List.foldl_nil]
    have last : column ∈ before ++ [column] := List.mem_append_right _ (List.mem_singleton_self column)
    by_cases first : before = []
    · subst first
      refine ⟨rfl, ⟨column, last, rfl⟩, ⟨column, last, rfl⟩, fun other member => ?_⟩
      obtain rfl : other = column := by simpa using member
      exact ⟨Int.le_refl _, Int.le_refl _⟩
    · obtain ⟨valid, ⟨low, lowMember, lowest⟩, ⟨high, highMember, highest⟩, within⟩ := ih first
      have earlier {other : XColCache} (member : other ∈ before) : other ∈ before ++ [column] :=
        List.mem_append_left _ member
      generalize before.foldl recordInto .none = coverage at valid lowest highest within ⊢
      unfold recordInto
      rw [if_neg (by rw [valid]; decide)]
      refine ⟨valid, ?_, ?_, fun other member => ?_⟩
      · rcases min_choice coverage.minY column.minY with old | new
        · exact ⟨low, earlier lowMember, old.trans lowest⟩
        · exact ⟨column, last, new⟩
      · rcases max_choice coverage.maxY column.maxY with old | new
        · exact ⟨high, earlier highMember, old.trans highest⟩
        · exact ⟨column, last, new⟩
      · dsimp only
        rcases List.mem_append.mp member with inside | here
        · have bounds := within other inside
          omega
        · obtain rfl : other = column := by simpa using here
          omega

end Heights

section Circle

variable {card : Card} {s : MapState}

def MapState.place (s : MapState) (i : Nat) : Int := (s.xcache i).x

def MapState.deduplicated (s : MapState) (i : Nat) : MapState := { s with index := i, uniqueCount := i }

theorem dedup_turns (card : Card) (phase : s.phase = .deduplicateColumns)
    (apart : ∀ i, i + 1 < s.xcacheCount → s.place (i + 1) ≠ s.place i) {i : Nat} (inside : i ≤ s.xcacheCount) :
    Reaches card (s.deduplicated 0) (s.deduplicated i) := by
  induction i with
  | zero => exact Reaches.refl _
  | succ i ih =>
    refine (ih (by omega)).trans (Reaches.turn ?_)
    have more : ¬i ≥ s.xcacheCount := by omega
    have differs : i = 0 ∨ (s.xcache i).x ≠ (s.xcache (i - 1)).x := by
      rcases Nat.eq_zero_or_pos i with zero | positive
      · exact Or.inl zero
      · have other := apart (i - 1) (by omega)
        rw [Nat.sub_add_cancel positive] at other
        exact Or.inr other
    simp only [perform, MapState.deduplicated, phase, deduplicateColumns, if_neg more, if_pos differs,
      Function.update_eq_self]

theorem dedup_reaches (card : Card) (phase : s.phase = .deduplicateColumns) (start : s = s.deduplicated 0)
    (whole : s.cacheOverflow = false) (apart : ∀ i, i + 1 < s.xcacheCount → s.place (i + 1) ≠ s.place i) :
    Reaches card s { s with
      index := 0, uniqueCount := s.xcacheCount, largestGap := -1, phase := .findLargestGap } := by
  have turns := dedup_turns card phase apart (Nat.le_refl s.xcacheCount)
  rw [← start] at turns
  refine turns.trans (Reaches.turn ?_)
  simp [perform, MapState.deduplicated, phase, deduplicateColumns, whole]

def TileCoverage.around (coverage : TileCoverage) (minX maxX : Int) : TileCoverage := { coverage with minX, maxX }

def MapState.gapped (s : MapState) (i : Nat) (gap minX maxX : Int) : MapState :=
  { s with index := i, largestGap := gap, coverage := s.coverage.around minX maxX }

def GapFound (s : MapState) (i : Nat) (gap minX maxX : Int) : Prop :=
  ∃ found < i, gap = CircleGap.gap (tilesPerAxis s.zoom) s.place s.xcacheCount found ∧
    minX = CircleGap.next (tilesPerAxis s.zoom) s.place s.xcacheCount found % tilesPerAxis s.zoom ∧
    maxX = s.place found ∧
    (∀ j < i, CircleGap.gap (tilesPerAxis s.zoom) s.place s.xcacheCount j ≤ gap) ∧
    ∀ j < found, CircleGap.gap (tilesPerAxis s.zoom) s.place s.xcacheCount j < gap

theorem gap_turn (card : Card) (phase : s.phase = .findLargestGap) {i : Nat} (inside : i < s.xcacheCount)
    (gap minX maxX : Int) : perform card (s.gapped i gap minX maxX) =
      if CircleGap.gap (tilesPerAxis s.zoom) s.place s.xcacheCount i > gap then
        s.gapped (i + 1) (CircleGap.gap (tilesPerAxis s.zoom) s.place s.xcacheCount i)
          (CircleGap.next (tilesPerAxis s.zoom) s.place s.xcacheCount i % tilesPerAxis s.zoom) (s.place i)
      else s.gapped (i + 1) gap minX maxX := by
  have more : ¬i ≥ s.xcacheCount := by omega
  have here : (if i + 1 < s.xcacheCount then (s.xcache (i + 1)).x else (s.xcache 0).x + tilesPerAxis s.zoom) =
      CircleGap.next (tilesPerAxis s.zoom) s.place s.xcacheCount i := rfl
  have this : CircleGap.next (tilesPerAxis s.zoom) s.place s.xcacheCount i - (s.xcache i).x - 1 =
      CircleGap.gap (tilesPerAxis s.zoom) s.place s.xcacheCount i := rfl
  simp only [perform, MapState.gapped, phase, findLargestGap, if_neg more, here, this]
  split
  · rfl
  · rfl

theorem gap_turns (card : Card) (phase : s.phase = .findLargestGap)
    (points : CircleGap.Points (tilesPerAxis s.zoom) s.place s.xcacheCount) (minX maxX : Int) {i : Nat}
    (inside : i ≤ s.xcacheCount) (begun : 0 < i) :
    ∃ gap low high, Reaches card (s.gapped 0 (-1) minX maxX) (s.gapped i gap low high) ∧ GapFound s i gap low high := by
  induction i, begun using Nat.le_induction with
  | base =>
    have range := points.gap_range (i := 0) (by omega)
    have turn := gap_turn card phase (i := 0) (by omega) (-1) minX maxX
    rw [if_pos (by omega)] at turn
    refine ⟨_, _, _, Reaches.turn turn, 0, Nat.one_pos, rfl, rfl, rfl, fun j before => ?_, fun j before => ?_⟩
    · obtain rfl : j = 0 := by omega
      exact Int.le_refl _
    · omega
  | succ i begun ih =>
    obtain ⟨gap, low, high, reaches, found, before, same, least, last, most, first⟩ := ih (by omega)
    have turn := gap_turn card phase (i := i) (by omega) gap low high
    by_cases larger : CircleGap.gap (tilesPerAxis s.zoom) s.place s.xcacheCount i > gap
    · rw [if_pos larger] at turn
      refine ⟨_, _, _, reaches.trans (Reaches.turn turn), i, Nat.lt_succ_self i, rfl, rfl, rfl, ?_, ?_⟩
      · intro j earlier
        rcases Nat.eq_or_lt_of_le (Nat.le_of_lt_succ earlier) with rfl | less
        · exact Int.le_refl _
        · have bound := most j less
          omega
      · intro j less
        have bound := most j less
        omega
    · rw [if_neg larger] at turn
      refine ⟨gap, low, high, reaches.trans (Reaches.turn turn), found, by omega, same, least, last, ?_, first⟩
      intro j earlier
      rcases Nat.eq_or_lt_of_le (Nat.le_of_lt_succ earlier) with rfl | less
      · omega
      · exact most j less

def TileCoverage.opposite (coverage : TileCoverage) (n : Int) (c : Nat → Int) (count found : Nat) : TileCoverage :=
  { coverage with
    minX := CircleGap.next n c count found % n, maxX := c found
    wrapsX := decide (CircleGap.next n c count found % n > c found) }

theorem gap_reaches (card : Card) (phase : s.phase = .findLargestGap)
    (start : s = s.gapped 0 (-1) s.coverage.minX s.coverage.maxX)
    (points : CircleGap.Points (tilesPerAxis s.zoom) s.place s.xcacheCount) :
    ∃ found gap, CircleGap.Largest (tilesPerAxis s.zoom) s.place s.xcacheCount found ∧
      Reaches card s { s with
        index := s.xcacheCount, largestGap := gap, phase := .prepareSample
        coverage := s.coverage.opposite (tilesPerAxis s.zoom) s.place s.xcacheCount found } := by
  obtain ⟨gap, low, high, reaches, found, inside, rfl, rfl, rfl, most, first⟩ :=
    gap_turns card phase points s.coverage.minX s.coverage.maxX (Nat.le_refl _) points.filled
  rw [← start] at reaches
  refine ⟨found, CircleGap.gap (tilesPerAxis s.zoom) s.place s.xcacheCount found, ⟨inside, most, first⟩,
    reaches.trans (Reaches.turn ?_)⟩
  simp only [perform, MapState.gapped, phase, findLargestGap, ge_iff_le, Nat.le_refl, if_true]
  rfl

end Circle

section Sample

variable {card : Card} {s : MapState}

def TileCoverage.sampled (coverage : TileCoverage) (column : XColCache) : TileCoverage :=
  { coverage with sampleX := column.x, sampleY := column.sampleY }

def MapState.sampling (s : MapState) (i : Nat) (distance : Int) (column : XColCache) : MapState :=
  { s with index := i, bestDistance := distance, haveSample := true, coverage := s.coverage.sampled column }

def MapState.distance (s : MapState) (column : XColCache) : Int :=
  let dx := shortestTileXDelta s.midX (2 * column.x) s.zoom
  let dy := 2 * column.sampleY - s.midY
  dx * dx + dy * dy

theorem sample_first (card : Card) (phase : s.phase = .selectSample) (start : s.index = 0)
    (none : s.haveSample = false) (filled : 0 < s.xcacheCount) :
    perform card s = s.sampling 1 (s.distance (s.xcache 0)) (s.xcache 0) := by
  have more : ¬0 ≥ s.xcacheCount := by omega
  simp only [perform, MapState.sampling, phase, selectSample, start, none, if_neg more, true_or, if_true]
  rfl

theorem sample_turn (card : Card) (phase : s.phase = .selectSample) {i : Nat} (inside : i < s.xcacheCount)
    (distance : Int) (column : XColCache) : perform card (s.sampling i distance column) =
      if s.distance (s.xcache i) < distance then s.sampling (i + 1) (s.distance (s.xcache i)) (s.xcache i)
      else s.sampling (i + 1) distance column := by
  have more : ¬i ≥ s.xcacheCount := by omega
  have away : shortestTileXDelta s.midX (2 * (s.xcache i).x) s.zoom * shortestTileXDelta s.midX
      (2 * (s.xcache i).x) s.zoom +
      (2 * (s.xcache i).sampleY - s.midY) * (2 * (s.xcache i).sampleY - s.midY) = s.distance (s.xcache i) := rfl
  simp only [perform, MapState.sampling, phase, selectSample, if_neg more, away, Bool.true_eq_false, false_or]
  split
  · rfl
  · rfl

theorem sample_turns (card : Card) (phase : s.phase = .selectSample) (start : s.index = 0) (none : s.haveSample = false)
    {i : Nat} (inside : i ≤ s.xcacheCount) (begun : 0 < i) :
    ∃ distance, ∃ j < s.xcacheCount, Reaches card s (s.sampling i distance (s.xcache j)) := by
  induction i, begun using Nat.le_induction with
  | base => exact ⟨s.distance (s.xcache 0), 0, inside, Reaches.turn (sample_first card phase start none inside)⟩
  | succ i begun ih =>
    obtain ⟨distance, j, column, reaches⟩ := ih (by omega)
    have turn := sample_turn card phase (i := i) (by omega) distance (s.xcache j)
    by_cases nearer : s.distance (s.xcache i) < distance
    · rw [if_pos nearer] at turn
      exact ⟨s.distance (s.xcache i), i, by omega, reaches.trans (Reaches.turn turn)⟩
    · rw [if_neg nearer] at turn
      exact ⟨distance, j, column, reaches.trans (Reaches.turn turn)⟩

theorem sample_reaches (card : Card) (phase : s.phase = .selectSample) (start : s.index = 0)
    (none : s.haveSample = false) (filled : 0 < s.xcacheCount) :
    ∃ distance, ∃ j < s.xcacheCount, Reaches card s { s with
      index := s.xcacheCount, bestDistance := distance, haveSample := true, phase := .finishZoom
      coverage := s.coverage.sampled (s.xcache j) } := by
  obtain ⟨distance, j, column, reaches⟩ := sample_turns card phase start none (Nat.le_refl _) filled
  refine ⟨distance, j, column, reaches.trans (Reaches.turn ?_)⟩
  simp only [perform, MapState.sampling, phase, selectSample, ge_iff_le, Nat.le_refl, if_true]

end Sample

section Shape

variable {zoom : Nat} {columns : List XColCache} {s : MapState}

structure Shaped (zoom : Nat) (columns : List XColCache) (coverage : TileCoverage) : Prop where
  heights : Heights coverage columns
  opposed : ∃ c count found, CircleGap.Points (tilesPerAxis zoom) c count ∧
    (∀ x, (∃ i < count, c i = x) ↔ x ∈ columns.map XColCache.x) ∧
    CircleGap.Largest (tilesPerAxis zoom) c count found ∧
    coverage.minX = CircleGap.next (tilesPerAxis zoom) c count found % tilesPerAxis zoom ∧ coverage.maxX = c found
  wraps : coverage.wrapsX = decide (coverage.minX > coverage.maxX)
  sample : ∃ column ∈ columns, coverage.sampleX = column.x ∧ coverage.sampleY = column.sampleY

def sorted (columns : List XColCache) : List XColCache :=
  columns.mergeSort fun left right => decide (left.x ≤ right.x)

theorem sorted_perm (columns : List XColCache) : (sorted columns).Perm columns := List.mergeSort_perm _ _

theorem sorted_strict (distinct : (columns.map XColCache.x).Nodup) :
    (sorted columns).Pairwise fun left right => left.x < right.x := by
  have ordered : (sorted columns).Pairwise fun left right => decide (left.x ≤ right.x) = true := by
    apply List.pairwise_mergeSort
    · intro a b c first second
      rw [decide_eq_true_eq] at first second ⊢
      omega
    · intro a b
      rw [Bool.or_eq_true, decide_eq_true_eq, decide_eq_true_eq]
      omega
  have apart : ((sorted columns).map XColCache.x).Nodup := ((sorted_perm columns).map _).nodup_iff.mpr distinct
  rw [List.nodup_iff_pairwise_ne, List.pairwise_map] at apart
  refine (ordered.and apart).imp fun {a b} both => ?_
  rw [decide_eq_true_eq] at both
  omega

theorem sorted_points {n : Int} (other : Nat → XColCache) (filled : columns ≠ [])
    (distinct : (columns.map XColCache.x).Nodup) (range : ∀ column ∈ columns, 0 ≤ column.x ∧ column.x < n) :
    CircleGap.Points n (fun i => ((sorted columns).getD i (other i)).x) columns.length := by
  have length := (sorted_perm columns).length_eq
  have inside : ∀ i < columns.length, 0 ≤ ((sorted columns).getD i (other i)).x ∧
      ((sorted columns).getD i (other i)).x < n := by
    intro i less
    rw [← length] at less
    rw [List.getD_eq_getElem _ _ less]
    exact range _ ((sorted_perm columns).mem_iff.mp (List.getElem_mem less))
  refine ⟨List.length_pos_iff.mpr filled, fun i less => (inside i less).1, fun i less => (inside i less).2, ?_⟩
  intro i j before less
  rw [← length] at less
  rw [List.getD_eq_getElem _ _ less, List.getD_eq_getElem _ _ (before.trans less)]
  exact List.pairwise_iff_getElem.mp (sorted_strict distinct) i j (before.trans less) less before

theorem sorted_places (other : Nat → XColCache) (column : XColCache) :
    (∃ i < columns.length, (sorted columns).getD i (other i) = column) ↔ column ∈ columns := by
  have length := (sorted_perm columns).length_eq
  rw [← (sorted_perm columns).mem_iff, List.mem_iff_getElem]
  constructor
  · rintro ⟨i, less, rfl⟩
    rw [← length] at less
    exact ⟨i, less, (List.getD_eq_getElem _ _ less).symm⟩
  · rintro ⟨i, less, rfl⟩
    exact ⟨i, length ▸ less, List.getD_eq_getElem _ _ less⟩

theorem shape_reaches (card : Card) (phase : s.phase = .sortColumns) (level : s.zoom = zoom)
    (cached : s.columns = columns) (whole : s.cacheOverflow = false)
    (covered : s.coverage = columns.foldl recordInto .none) (filled : columns ≠ [])
    (distinct : (columns.map XColCache.x).Nodup)
    (range : ∀ column ∈ columns, 0 ≤ column.x ∧ column.x < tilesPerAxis zoom) :
    ∃ t, Reaches card s t ∧ t.phase = .finishZoom ∧ t.zoom = zoom ∧ t.stopAfterZoom = s.stopAfterZoom ∧
      t.tileCoverage = s.tileCoverage ∧ t.entriesProcessed = s.entriesProcessed ∧ t.haveSample = true ∧
      Shaped zoom columns t.coverage := by
  subst level
  have count : s.xcacheCount = columns.length := by rw [← cached, columns_length]
  let a : MapState := { s with
    xcache := fun i => (sorted columns).getD i (s.xcache i), index := 0, uniqueCount := 0,
      phase := .deduplicateColumns }
  have sort : perform card s = a := by
    simp only [perform, phase, sortColumns, cached]
    rfl
  have points : CircleGap.Points (tilesPerAxis a.zoom) a.place a.xcacheCount := by
    change CircleGap.Points (tilesPerAxis s.zoom) _ s.xcacheCount
    rw [count]
    exact sorted_points s.xcache filled distinct range
  have apart : ∀ i, i + 1 < a.xcacheCount → a.place (i + 1) ≠ a.place i := fun i inside =>
    (Int.ne_of_lt (points.sorted i (i + 1) (Nat.lt_succ_self i) inside)).symm
  let b : MapState := { a with index := 0, uniqueCount := a.xcacheCount, largestGap := -1, phase := .findLargestGap }
  have unique : Reaches card a b := dedup_reaches card rfl rfl whole apart
  obtain ⟨found, gap, largest, around⟩ := gap_reaches (s := b) card rfl rfl points
  let c : MapState := { b with
    index := b.xcacheCount, largestGap := gap, phase := .prepareSample
    coverage := b.coverage.opposite (tilesPerAxis b.zoom) b.place b.xcacheCount found }
  have prepared : perform card c = prepareSample c := rfl
  obtain ⟨distance, j, inside, sampled⟩ := sample_reaches (s := prepareSample c) card rfl rfl rfl points.filled
  have heights := recordInto_heights filled
  rw [← covered] at heights
  refine ⟨_, (Reaches.turn sort).trans (unique.trans (around.trans ((Reaches.turn prepared).trans sampled))),
    rfl, rfl, rfl, rfl, rfl, rfl, ?_⟩
  refine ⟨⟨heights.valid, heights.minY, heights.maxY, heights.within⟩, ?_, rfl, ?_⟩
  · refine ⟨a.place, a.xcacheCount, found, points, fun x => ?_, largest, rfl, rfl⟩
    rw [List.mem_map]
    constructor
    · rintro ⟨i, less, rfl⟩
      exact ⟨_, (sorted_places s.xcache _).mp ⟨i, count ▸ less, rfl⟩, rfl⟩
    · rintro ⟨column, member, rfl⟩
      obtain ⟨i, less, here⟩ := (sorted_places s.xcache column).mpr member
      exact ⟨i, count.symm ▸ less, congrArg XColCache.x here⟩
  · exact ⟨_, (sorted_places s.xcache _).mp ⟨j, count ▸ inside, rfl⟩, rfl, rfl⟩

end Shape

section Zoom

variable {card : Card} {zoom limit : Nat} {table : Nat → TileCoverage} {s : MapState}

structure AtZoom (card : Card) (zoom : Nat) (table : Nat → TileCoverage) (limit : Nat) (s : MapState) : Prop where
  phase : s.phase = .openZoom
  level : s.zoom = zoom
  continues : s.stopAfterZoom = false
  kept : s.tileCoverage = table
  processed : s.entriesProcessed + card.entriesFrom zoom (maxZoom + 1 - zoom) ≤ limit

def Card.columns (card : Card) (zoom : Nat) : List XColCache :=
  ((card.zoomDirectory zoom).getD []).filterMap (columnOf card zoom)

theorem Card.Admissible.scanned_columns (admissible : card.Admissible) (bound : zoom ≤ maxZoom) :
    Scanned card zoom (card.columns zoom) := by
  cases listed : card.zoomDirectory zoom with
  | none =>
    have none : card.columns zoom = [] := by rw [Card.columns, listed, Option.getD_none, List.filterMap_nil]
    rw [none]
    exact scanned_nil listed
  | some entries =>
    have these : card.columns zoom = entries.filterMap (columnOf card zoom) := by
      rw [Card.columns, listed, Option.getD_some]
    rw [these]
    exact admissible.scanned bound listed

theorem Card.Admissible.opens (admissible : card.Admissible) (bound : zoom ≤ maxZoom) {entries : List ColumnEntry}
    (listed : card.zoomDirectory zoom = some entries) {entry : ColumnEntry} (member : entry ∈ entries) {x : Int}
    (parsed : parseTileIndex entry.name zoom = some x) : card.openColumn zoom x = entry.files := by
  obtain ⟨name, _⟩ := (admissible.column_name bound listed member x).mp parsed
  cases opened : card.openColumn zoom x with
  | some files =>
    have inside := (admissible.openColumn_iff bound listed).mp opened
    rw [List.inj_on_of_nodup_map (admissible.distinct zoom bound entries listed) member inside name]
  | none =>
    cases files : entry.files with
    | none => rfl
    | some names =>
      have inside : (⟨formatInt x, some names⟩ : ColumnEntry) ∈ entries := by
        rw [← name, ← files]
        exact member
      rw [(admissible.openColumn_iff bound listed).mpr inside] at opened
      cases opened

def Outcome (card : Card) (zoom : Nat) (before after : TileCoverage) : Prop :=
  (card.columns zoom = [] ∧ after = before) ∨ (card.columns zoom ≠ [] ∧ Shaped zoom (card.columns zoom) after)

theorem finishZoom_commit (card : Card) (phase : s.phase = .finishZoom) (valid : s.coverage.valid = true)
    (sampled : s.haveSample = true) (continues : s.stopAfterZoom = false) :
    (perform card s).phase = .openZoom ∧ (perform card s).zoom = s.zoom + 1 ∧
      (perform card s).stopAfterZoom = false ∧ (perform card s).entriesProcessed = s.entriesProcessed ∧
      (perform card s).tileCoverage = Function.update s.tileCoverage s.zoom s.coverage := by
  simp only [perform, phase, finishZoom, commitDiscoveryZoom, valid, sampled]
  by_cases first : s.haveTileCoverage = false
  · simp [first, continues]
  · simp [first, continues]

theorem AtZoom.reaches (admissible : card.Admissible) (bound : zoom ≤ maxZoom)
    (start : AtZoom card zoom table limit s) : ∃ coverage t, Reaches card s t ∧
      AtZoom card (zoom + 1) (Function.update table zoom coverage) limit t ∧
      Outcome card zoom (table zoom) coverage := by
  obtain ⟨phase, rfl, continues, rfl, processed⟩ := start
  have more : ¬(s.zoom > maxZoom ∨ s.stopAfterZoom = true) := by
    rw [continues]
    rintro (beyond | stop)
    · omega
    · cases stop
  have left : maxZoom + 1 - s.zoom = maxZoom + 1 - (s.zoom + 1) + 1 := by omega
  rw [left, Card.entriesFrom] at processed
  have scanned := admissible.scanned_columns bound
  cases listed : card.zoomDirectory s.zoom with
  | none =>
    have none : card.columns s.zoom = [] := by rw [Card.columns, listed, Option.getD_none, List.filterMap_nil]
    have turn : perform card s = { s with
        coverage := .none, xcacheCount := 0, cacheOverflow := false, haveSample := false
        zoomDir := Option.none, zoom := s.zoom + 1 } := by
      simp only [perform, phase, openZoom, if_neg more, listed]
    refine ⟨s.tileCoverage s.zoom, _, Reaches.turn turn, ?_, Or.inl ⟨none, rfl⟩⟩
    rw [Function.update_eq_self]
    refine ⟨phase, rfl, continues, rfl, ?_⟩
    rw [listed] at processed
    dsimp only
    omega
  | some entries =>
    have turn : perform card s = { s with
        coverage := .none, xcacheCount := 0, cacheOverflow := false, haveSample := false
        zoomDir := some entries, phase := .scanX } := by
      simp only [perform, phase, openZoom, if_neg more, listed]
    rw [listed, Option.getD_some] at processed
    have these : card.columns s.zoom = entries.filterMap (columnOf card s.zoom) := by
      rw [Card.columns, listed, Option.getD_some]
    have few := scanned.few (admissible.fewColumns s.zoom bound)
    rw [these] at few
    have begun : Scanning s.zoom s.tileCoverage (s.entriesProcessed + directoryCount entries) entries []
        { s with
          coverage := .none, xcacheCount := 0, cacheOverflow := false, haveSample := false
          zoomDir := some entries, phase := .scanX } :=
      ⟨rfl, rfl, rfl, continues, rfl, rfl, rfl, rfl, Nat.le_refl _⟩
    obtain ⟨t, reads, done⟩ := begun.readEntries
      (fun entry member x parsed => admissible.opens bound listed member parsed) few
    rw [List.nil_append, ← these] at done
    have there := (Reaches.turn turn).trans reads
    have count := done.processed
    rw [directoryCount, List.map_nil, List.sum_nil] at count
    by_cases empty : card.columns s.zoom = []
    · have invalid : t.coverage.valid = false := by
        rw [done.covered, empty]
        rfl
      have finish : perform card t = { t with zoomDir := none, phase := .finishZoom } := by
        simp only [perform, done.phase, scanX, done.listed, Option.getD_some, invalid, Bool.false_eq_true, if_false]
      have next : perform card { t with zoomDir := none, phase := .finishZoom } =
          { t with zoomDir := none, zoom := t.zoom + 1, phase := .openZoom } := by
        simp [perform, finishZoom, commitDiscoveryZoom, invalid, done.continues]
      refine ⟨s.tileCoverage s.zoom, _, (there.trans (Reaches.turn finish)).trans (Reaches.turn next), ?_,
        Or.inl ⟨empty, rfl⟩⟩
      rw [Function.update_eq_self]
      refine ⟨rfl, congrArg (· + 1) done.level, done.continues, done.kept, ?_⟩
      dsimp only
      omega
    · have valid : t.coverage.valid = true := by
        rw [done.covered]
        exact (recordInto_heights empty).valid
      have sort : perform card t = { t with zoomDir := none, phase := .sortColumns } := by
        simp only [perform, done.phase, scanX, done.listed, Option.getD_some, valid, if_true]
      obtain ⟨u, shapes, phase', level, continues', kept, processed', sampled, shaped⟩ :=
        shape_reaches (s := { t with zoomDir := none, phase := .sortColumns }) card rfl done.level done.cached
          done.whole done.covered empty scanned.distinct fun column member =>
            (tileValid_iff.mp (scanned.minY column member).1).1
      obtain ⟨opens, next, continues'', processed'', commits⟩ := finishZoom_commit card phase'
        shaped.heights.valid sampled (continues'.trans done.continues)
      refine ⟨u.coverage, _, (there.trans (Reaches.turn sort)).trans (shapes.trans (Reaches.turn rfl)), ?_,
        Or.inr ⟨empty, shaped⟩⟩
      refine ⟨opens, by rw [next, level], continues'', ?_, ?_⟩
      · rw [commits, kept, level, ← done.kept]
      · rw [processed'', processed']
        dsimp only
        omega

end Zoom

end SigurdOS.App.TileDiscovery
