import SigurdOS.Mesh.Base64
import Mathlib.Data.Nat.Digits.Defs

namespace SigurdOS.App.TileDiscovery

open Mesh (ascii)

section Names

abbrev Name := List UInt8

def dot : UInt8 := ascii '.'

def isDigit (c : UInt8) : Bool := decide (ascii '0' ≤ c ∧ c ≤ ascii '9')

def digit (c : UInt8) : Nat := c.toNat - 48

def decimal (number : Nat) : Name :=
  if number = 0 then [ascii '0'] else (Nat.digits 10 number).reverse.map fun d => UInt8.ofNat (48 + d)

def formatInt : Int → Name
  | .ofNat number => decimal number
  | .negSucc number => ascii '-' :: decimal (number + 1)

def tilesPerAxis (zoom : Nat) : Int := if zoom ≤ 18 then 2 ^ zoom else 0

def tileValid (zoom : Nat) (x y : Int) : Bool :=
  let n := tilesPerAxis zoom
  decide (n > 0 ∧ x ≥ 0 ∧ x < n ∧ y ≥ 0 ∧ y < n)

def parseDigits : Nat → Name → Option Nat
  | value, [] => some value
  | value, c :: rest =>
    if isDigit c = false then none
    else if value > (2147483647 - digit c) / 10 then none
    else parseDigits (value * 10 + digit c) rest

def parseTileIndex (text : Name) (zoom : Nat) : Option Int :=
  if text = [] ∨ 18 < zoom then none
  else
    match parseDigits 0 text with
    | none => none
    | some parsed => if tileValid zoom 0 parsed then some parsed else none

def lower (c : UInt8) : UInt8 := if ascii 'A' ≤ c ∧ c ≤ ascii 'Z' then c + 32 else c

def isPng (extension : Name) : Bool := extension.map lower == ['.', 'p', 'n', 'g'].map ascii

def splitExtension (name : Name) : Option (Name × Name) :=
  if dot ∈ name then
    let extension := (name.reverse.takeWhile (· ≠ dot)).length + 1
    some (name.take (name.length - extension), name.drop (name.length - extension))
  else none

def entryIsPngTile (name : Name) : Bool :=
  if name.head? = some dot then false
  else
    match splitExtension name with
    | none => false
    | some (stem, extension) => isPng extension && !stem.isEmpty && stem.all isDigit

def tileXInCoverage (tileX minX maxX : Int) (wrapsX : Bool) : Bool :=
  if wrapsX then decide (tileX ≥ minX ∨ tileX ≤ maxX) else decide (tileX ≥ minX ∧ tileX ≤ maxX)

end Names

section Card

/-- An entry of a zoom's directory; one that is itself a directory has its names, as `readdir` lists them. -/
structure ColumnEntry where
  name : Name
  files : Option (List Name)
  deriving DecidableEq

structure TileCoverage where
  valid : Bool
  wrapsX : Bool
  minX : Int
  maxX : Int
  minY : Int
  maxY : Int
  sampleX : Int
  sampleY : Int
  deriving DecidableEq

def TileCoverage.none : TileCoverage := ⟨false, false, 0, 0, 0, 0, 0, 0⟩

/-- What `load_tile_index` makes of an `index.json` that it takes; a card without the file has none. -/
structure TileIndex where
  coverage : Nat → TileCoverage
  minZoom : Nat
  maxZoom : Nat
  zooms : Nat

/-- The card and the memory, as far as a discovery sees them. -/
structure Card where
  mounted : Bool
  index : Option TileIndex
  cacheFits : Bool
  zoomDirectory : Nat → Option (List ColumnEntry)

def Card.openColumn (card : Card) (zoom : Nat) (x : Int) : Option (List Name) :=
  match card.zoomDirectory zoom with
  | none => none
  | some entries => (entries.find? fun entry => entry.name = formatInt x).bind ColumnEntry.files

end Card

section State

inductive DiscoveryPhase where
  | idle
  | checkStorage
  | tryIndex
  | openZoom
  | scanX
  | openY
  | scanY
  | recordColumn
  | sortColumns
  | deduplicateColumns
  | findLargestGap
  | prepareSample
  | selectSample
  | finishZoom
  | finishAll
  deriving DecidableEq

inductive DiscoveryResult where
  | idle
  | inProgress
  | indexLoaded
  | scanned
  | noTiles
  | cancelled
  | limitReached
  deriving DecidableEq

structure XColCache where
  x : Int
  minY : Int
  maxY : Int
  sampleY : Int
  deriving DecidableEq

def maxXcols : Nat := 2048
def maxZoom : Nat := 18
def maxEntries : Nat := 32768

/-- The coverage table, the column cache, and the `DiscoveryState`, whose fields have their defaults here.
An open directory is what is left of its listing; places and distances are in halves and quarters of a tile. -/
structure MapState where
  tileCoverage : Nat → TileCoverage
  haveTileCoverage : Bool
  minAvailableZoom : Nat
  maxAvailableZoom : Nat
  xcache : Nat → XColCache
  xcacheAllocated : Bool
  xcacheReleaseRequested : Bool
  phase : DiscoveryPhase := .idle
  result : DiscoveryResult := .idle
  zoom : Nat := 0
  zoomDir : Option (List ColumnEntry) := none
  yDir : Option (List Name) := none
  currentX : Int := -1
  minY : Int := -1
  maxY : Int := -1
  sampleY : Int := -1
  coverage : TileCoverage := .none
  xcacheCount : Nat := 0
  cacheOverflow : Bool := false
  index : Nat := 0
  uniqueCount : Nat := 0
  largestGap : Int := -1
  midX : Int := 0
  midY : Int := 0
  bestDistance : Int := 0
  haveSample : Bool := false
  stopAfterZoom : Bool := false
  entriesProcessed : Nat := 0
  usedIndex : Bool := false
  pendingScan : Bool := false

def MapState.resetDiscovery (s : MapState) : MapState :=
  { tileCoverage := s.tileCoverage
    haveTileCoverage := s.haveTileCoverage
    minAvailableZoom := s.minAvailableZoom
    maxAvailableZoom := s.maxAvailableZoom
    xcache := s.xcache
    xcacheAllocated := s.xcacheAllocated
    xcacheReleaseRequested := s.xcacheReleaseRequested }

end State

section Phases

def closeDiscoveryDirectories (s : MapState) : MapState := { s with yDir := none, zoomDir := none }

def recordDiscoveryColumn (s : MapState) : MapState :=
  let x := s.currentX
  let coverage :=
    if s.coverage.valid = false then ⟨true, false, x, x, s.minY, s.maxY, x, s.sampleY⟩
    else { s.coverage with
      minX := min s.coverage.minX x, maxX := max s.coverage.maxX x
      minY := min s.coverage.minY s.minY, maxY := max s.coverage.maxY s.maxY }
  if s.xcacheCount < maxXcols then
    { s with
      coverage
      xcache := Function.update s.xcache s.xcacheCount ⟨x, s.minY, s.maxY, s.sampleY⟩
      xcacheCount := s.xcacheCount + 1 }
  else { s with coverage, cacheOverflow := true }

def commitDiscoveryZoom (s : MapState) : MapState :=
  if s.coverage.valid = false ∨ s.haveSample = false then s
  else
    let s := { s with tileCoverage := Function.update s.tileCoverage s.zoom s.coverage }
    if s.haveTileCoverage = false then
      { s with minAvailableZoom := s.zoom, maxAvailableZoom := s.zoom, haveTileCoverage := true }
    else { s with minAvailableZoom := min s.minAvailableZoom s.zoom, maxAvailableZoom := max s.maxAvailableZoom s.zoom }

def finishDiscovery (s : MapState) : MapState :=
  let s := closeDiscoveryDirectories s
  let result :=
    if s.result ≠ .inProgress then s.result
    else if s.haveTileCoverage = false then .noTiles
    else if s.usedIndex then .indexLoaded
    else .scanned
  { s with result, phase := .idle }

def stopAtEntryLimit (s : MapState) : MapState :=
  let s := closeDiscoveryDirectories { s with result := .limitReached, stopAfterZoom := true }
  { s with phase := if s.coverage.valid then .sortColumns else .finishAll }

def checkStorage (card : Card) (s : MapState) : MapState :=
  { s with phase := if card.mounted then .tryIndex else .finishAll }

def tryIndex (card : Card) (s : MapState) : MapState :=
  match card.index with
  | some index =>
    { s with
      tileCoverage := index.coverage, minAvailableZoom := index.minZoom, maxAvailableZoom := index.maxZoom
      haveTileCoverage := true, usedIndex := true, entriesProcessed := s.entriesProcessed + index.zooms
      zoom := index.maxZoom, phase := .finishAll }
  | none =>
    let s := { s with xcacheAllocated := s.xcacheAllocated || card.cacheFits }
    { s with phase := if s.xcacheAllocated then .openZoom else .finishAll }

def openZoom (card : Card) (s : MapState) : MapState :=
  if s.zoom > maxZoom ∨ s.stopAfterZoom = true then { s with phase := .finishAll }
  else
    let s := { s with coverage := .none, xcacheCount := 0, cacheOverflow := false, haveSample := false }
    match card.zoomDirectory s.zoom with
    | some entries => { s with zoomDir := some entries, phase := .scanX }
    | none => { s with zoomDir := none, zoom := s.zoom + 1 }

def scanX (s : MapState) : MapState :=
  match s.zoomDir.getD [] with
  | [] => { s with zoomDir := none, phase := if s.coverage.valid then .sortColumns else .finishZoom }
  | entry :: rest =>
    let s := { s with zoomDir := some rest, entriesProcessed := s.entriesProcessed + 1 }
    if entry.name.head? = some dot then s
    else
      match parseTileIndex entry.name s.zoom with
      | none => s
      | some x => { s with currentX := x, minY := -1, maxY := -1, sampleY := -1, phase := .openY }

def openY (card : Card) (s : MapState) : MapState :=
  match card.openColumn s.zoom s.currentX with
  | some files => { s with yDir := some files, phase := .scanY }
  | none => { s with yDir := none, phase := .scanX }

def tileRow (zoom : Nat) (name : Name) : Option Int :=
  if entryIsPngTile name = false then none
  else
    match splitExtension name with
    | none => none
    | some (stem, _) => parseTileIndex stem zoom

def scanY (s : MapState) : MapState :=
  match s.yDir.getD [] with
  | [] => { s with yDir := none, phase := if s.sampleY ≥ 0 then .recordColumn else .scanX }
  | name :: rest =>
    let s := { s with yDir := some rest, entriesProcessed := s.entriesProcessed + 1 }
    match tileRow s.zoom name with
    | none => s
    | some y =>
      if s.sampleY < 0 then { s with minY := y, maxY := y, sampleY := y }
      else { s with minY := min s.minY y, maxY := max s.maxY y }

def recordColumn (s : MapState) : MapState := { recordDiscoveryColumn s with phase := .scanX }

def MapState.columns (s : MapState) : List XColCache := (List.range s.xcacheCount).map s.xcache

def sortColumns (s : MapState) : MapState :=
  let sorted := s.columns.mergeSort fun left right => decide (left.x ≤ right.x)
  { s with
    xcache := fun i => sorted.getD i (s.xcache i)
    index := 0, uniqueCount := 0, phase := .deduplicateColumns }

def deduplicateColumns (s : MapState) : MapState :=
  if s.index ≥ s.xcacheCount then
    { s with
      xcacheCount := s.uniqueCount, index := 0, largestGap := -1
      phase := if s.cacheOverflow then .prepareSample else .findLargestGap }
  else
    let column := s.xcache s.index
    let s :=
      if s.uniqueCount = 0 ∨ column.x ≠ (s.xcache (s.uniqueCount - 1)).x then
        { s with xcache := Function.update s.xcache s.uniqueCount column, uniqueCount := s.uniqueCount + 1 }
      else s
    { s with index := s.index + 1 }

def findLargestGap (s : MapState) : MapState :=
  if s.index ≥ s.xcacheCount then
    { s with
      coverage := { s.coverage with wrapsX := decide (s.coverage.minX > s.coverage.maxX) }
      phase := .prepareSample }
  else
    let n := tilesPerAxis s.zoom
    let nextX := if s.index + 1 < s.xcacheCount then (s.xcache (s.index + 1)).x else (s.xcache 0).x + n
    let gap := nextX - (s.xcache s.index).x - 1
    let s :=
      if gap > s.largestGap then
        { s with
          largestGap := gap
          coverage := { s.coverage with minX := nextX % n, maxX := (s.xcache s.index).x } }
      else s
    { s with index := s.index + 1 }

/-- `fmod` and all that follows is exact on halves, which a double holds. -/
def prepareSample (s : MapState) : MapState :=
  let n := tilesPerAxis s.zoom
  let span := (s.coverage.maxX - s.coverage.minX) % n
  { s with
    midX := (2 * s.coverage.minX + span) % (2 * n)
    midY := s.coverage.minY + s.coverage.maxY
    index := 0, haveSample := false, phase := .selectSample }

def shortestTileXDelta (fromX toX : Int) (zoom : Nat) : Int :=
  let n := 2 * tilesPerAxis zoom
  let delta := (toX - fromX).tmod n
  let delta := if 2 * delta < -n then delta + n else delta
  if 2 * delta ≥ n then delta - n else delta

def selectSample (s : MapState) : MapState :=
  if s.index ≥ s.xcacheCount then { s with phase := .finishZoom }
  else
    let column := s.xcache s.index
    let s := { s with index := s.index + 1 }
    let dx := shortestTileXDelta s.midX (2 * column.x) s.zoom
    let dy := 2 * column.sampleY - s.midY
    let distance := dx * dx + dy * dy
    if s.haveSample = false ∨ distance < s.bestDistance then
      { s with
        coverage := { s.coverage with sampleX := column.x, sampleY := column.sampleY }
        bestDistance := distance, haveSample := true }
    else s

def finishZoom (s : MapState) : MapState :=
  let s := commitDiscoveryZoom s
  { s with zoom := s.zoom + 1, phase := if s.stopAfterZoom then .finishAll else .openZoom }

/-- One turn of the switch, once its operation is granted. -/
def perform (card : Card) (s : MapState) : MapState :=
  match s.phase with
  | .idle => s
  | .checkStorage => checkStorage card s
  | .tryIndex => tryIndex card s
  | .openZoom => openZoom card s
  | .scanX => scanX s
  | .openY => openY card s
  | .scanY => scanY s
  | .recordColumn => recordColumn s
  | .sortColumns => sortColumns s
  | .deduplicateColumns => deduplicateColumns s
  | .findLargestGap => findLargestGap s
  | .prepareSample => prepareSample s
  | .selectSample => selectSample s
  | .finishZoom => finishZoom s
  | .finishAll => finishDiscovery s

/-- Whether the turn calls `consume_operation` before it does anything. -/
def operates (s : MapState) : Bool :=
  match s.phase with
  | .checkStorage | .tryIndex | .scanX | .openY | .scanY | .sortColumns => true
  | .openZoom => !(decide (s.zoom > maxZoom) || s.stopAfterZoom)
  | .deduplicateColumns | .findLargestGap | .selectSample => decide (s.index < s.xcacheCount)
  | .idle | .recordColumn | .prepareSample | .finishZoom | .finishAll => false

def checkLimit (s : MapState) : MapState :=
  if s.entriesProcessed ≥ maxEntries ∧ (s.phase = .scanX ∨ s.phase = .scanY ∨ s.phase = .openY) then
    stopAtEntryLimit s
  else s

end Phases

section Calls

/-- What a call is made with, and what `millis` answers one after the other. -/
structure StepCall where
  maxItems : Int
  maxMs : UInt32
  clock : Nat → UInt32

structure Budget where
  remaining : Nat
  used : Nat

def discoveryDeadlineReached (startedAt now maxMs : UInt32) : Bool :=
  maxMs == 0 || decide (now - startedAt ≥ maxMs)

/-- The clock is read only once something was used; `clock 0` is `started_at`. -/
def consumeOperation (call : StepCall) (budget : Budget) : Option Budget :=
  if budget.used > 0 ∧ discoveryDeadlineReached (call.clock 0) (call.clock budget.used) call.maxMs then
    none
  else if budget.remaining = 0 then none
  else some ⟨budget.remaining - 1, budget.used + 1⟩

/-- The loop of a call; `none` is an exhausted fuel. The generation stays the same without a new discovery. -/
def discoveryLoop (card : Card) (call : StepCall) : Nat → Budget → MapState → Option (Bool × MapState)
  | 0, _, _ => none
  | fuel + 1, budget, s =>
    if s.phase = .idle then some (false, s)
    else
      let s := checkLimit s
      if operates s then
        match consumeOperation call budget with
        | none => some (true, s)
        | some budget => discoveryLoop card call fuel budget (perform card s)
      else if s.phase = .finishAll then some (false, perform card s)
      else discoveryLoop card call fuel budget (perform card s)

def beginScan (s : MapState) : MapState :=
  let s := if s.xcacheReleaseRequested then { s with xcacheAllocated := false } else s
  let s := closeDiscoveryDirectories { s with xcacheReleaseRequested := false }
  { s.resetDiscovery with result := .inProgress, phase := .checkStorage }

def cleanIdle (s : MapState) : MapState :=
  let s := closeDiscoveryDirectories s
  if s.xcacheReleaseRequested then { s with xcacheReleaseRequested := false, xcacheAllocated := false } else s

def discoveryStep (card : Card) (call : StepCall) (fuel : Nat) (s : MapState) :
    Option (Bool × MapState) :=
  let s := if s.pendingScan then beginScan s else s
  if s.phase = .idle then some (false, cleanIdle s)
  else if call.maxItems ≤ 0 ∨ call.maxMs = 0 then some (true, s)
  else discoveryLoop card call fuel ⟨call.maxItems.toNat, 0⟩ s

def resetTileCoverage (s : MapState) : MapState :=
  { s with
    tileCoverage := fun zoom => if zoom ≤ maxZoom then .none else s.tileCoverage zoom
    minAvailableZoom := 0, maxAvailableZoom := maxZoom, haveTileCoverage := false }

def discoverTiles (s : MapState) : MapState :=
  { resetTileCoverage { s with pendingScan := true } with result := .inProgress }

end Calls

end SigurdOS.App.TileDiscovery
