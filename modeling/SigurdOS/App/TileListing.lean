import SigurdOS.App.TileDiscovery
import Mathlib.Data.Nat.Digits.Lemmas
import Mathlib.Data.Set.Card

/-! The tiles of a card by the names of its entries, and what the directories of one zoom list of them. -/

namespace SigurdOS.App.TileDiscovery

open Mesh (ascii)

section Cards

variable (card : Card)

/-- A tile in range: a file by the name of its row, in the directory of its column. -/
def Card.Tile (zoom : Nat) (x y : Int) : Prop :=
  tileValid zoom x y = true ∧ ∃ entries files, card.zoomDirectory zoom = some entries ∧
    (⟨formatInt x, some files⟩ : ColumnEntry) ∈ entries ∧
      ∃ extension, isPng extension = true ∧ formatInt y ++ extension ∈ files

def ColumnEntry.count (entry : ColumnEntry) : Nat := (entry.files.getD []).length + 1

def directoryCount (entries : List ColumnEntry) : Nat := (entries.map ColumnEntry.count).sum

def Card.entriesFrom (zoom : Nat) : Nat → Nat
  | 0 => 0
  | zooms + 1 => directoryCount ((card.zoomDirectory zoom).getD []) + Card.entriesFrom (zoom + 1) zooms

/-- A card that has no index, a numeric name nowhere with leading zeros, and not too much on it. -/
structure Card.Admissible : Prop where
  mounted : card.mounted = true
  noIndex : card.index = none
  cacheFits : card.cacheFits = true
  distinct : ∀ zoom ≤ maxZoom, ∀ entries, card.zoomDirectory zoom = some entries → (entries.map ColumnEntry.name).Nodup
  columnNames : ∀ zoom ≤ maxZoom, ∀ entries, card.zoomDirectory zoom = some entries → ∀ entry ∈ entries,
    entry.name ≠ [] → entry.name.all isDigit = true → ∃ x, entry.name = decimal x
  fileNames : ∀ zoom ≤ maxZoom, ∀ entries, card.zoomDirectory zoom = some entries → ∀ entry ∈ entries, ∀ files,
    entry.files = some files → ∀ stem extension, stem ++ extension ∈ files → isPng extension = true →
      stem ≠ [] → stem.all isDigit = true → ∃ y, stem = decimal y
  fewEntries : card.entriesFrom 0 (maxZoom + 1) < maxEntries
  fewColumns : ∀ zoom ≤ maxZoom, {x | ∃ y, card.Tile zoom x y}.ncard ≤ maxXcols

end Cards

section Numbers

theorem tilesPerAxis_range (zoom : Nat) : 0 ≤ tilesPerAxis zoom ∧ tilesPerAxis zoom ≤ 262144 := by
  unfold tilesPerAxis
  split
  · rename_i small
    have positive : (0 : Int) ≤ 2 ^ zoom := Int.le_of_lt (Int.pow_pos (by decide))
    have bound : (2 : Int) ^ zoom ≤ 2 ^ 18 := by exact_mod_cast Nat.pow_le_pow_right (by decide) small
    exact ⟨positive, bound⟩
  · decide

theorem tileValid_iff {zoom : Nat} {x y : Int} : tileValid zoom x y = true ↔
    (0 ≤ x ∧ x < tilesPerAxis zoom) ∧ 0 ≤ y ∧ y < tilesPerAxis zoom := by
  simp only [tileValid, decide_eq_true_eq]
  omega

def valueOf (value : Nat) (text : Name) : Nat := text.foldl (fun value c => value * 10 + digit c) value

theorem valueOf_le (value : Nat) (text : Name) : value ≤ valueOf value text := by
  induction text generalizing value with
  | nil => exact Nat.le_refl _
  | cons c rest ih =>
    have later := ih (value * 10 + digit c)
    change value ≤ valueOf (value * 10 + digit c) rest
    omega

theorem parseDigits_some {value number : Nat} {text : Name} (parsed : parseDigits value text = some number) :
    text.all isDigit = true ∧ number = valueOf value text := by
  induction text generalizing value with
  | nil =>
    cases parsed
    exact ⟨rfl, rfl⟩
  | cons c rest ih =>
    unfold parseDigits at parsed
    split at parsed
    · cases parsed
    · rename_i isDigit
      split at parsed
      · cases parsed
      · obtain ⟨digits, number⟩ := ih parsed
        rw [List.all_cons, digits, Bool.and_true]
        exact ⟨Bool.not_eq_false _ ▸ isDigit, number⟩

theorem parseDigits_fits {value : Nat} {text : Name} (digits : text.all isDigit = true)
    (fits : valueOf value text ≤ 2147483647) : parseDigits value text = some (valueOf value text) := by
  induction text generalizing value with
  | nil => rfl
  | cons c rest ih =>
    rw [List.all_cons, Bool.and_eq_true] at digits
    have next := valueOf_le (value * 10 + digit c) rest
    change valueOf (value * 10 + digit c) rest ≤ _ at fits
    have room : ¬value > (2147483647 - digit c) / 10 := by omega
    rw [parseDigits, if_neg (by rw [digits.1]; decide), if_neg room]
    exact ih digits.2 fits

theorem digit_ofNat {d : Nat} (small : d < 10) :
    isDigit (UInt8.ofNat (48 + d)) = true ∧ digit (UInt8.ofNat (48 + d)) = d := by
  have value : (UInt8.ofNat (48 + d)).toNat = 48 + d := by
    rw [UInt8.toNat_ofNat']
    omega
  constructor
  · simp only [isDigit, decide_eq_true_eq, UInt8.le_iff_toNat_le, value]
    exact ⟨Nat.le_add_right 48 d, show 48 + d ≤ 57 by omega⟩
  · unfold digit
    rw [value]
    omega

theorem decimal_digits (number : Nat) : (decimal number).all isDigit = true := by
  unfold decimal
  split
  · decide
  · rw [List.all_eq_true]
    intro c member
    obtain ⟨d, digit, rfl⟩ := List.mem_map.mp member
    exact (digit_ofNat (Nat.digits_lt_base (by decide) (List.mem_reverse.mp digit))).1

theorem decimal_filled (number : Nat) : decimal number ≠ [] := by
  unfold decimal
  split
  · exact List.cons_ne_nil _ _
  · rename_i positive
    have digits : Nat.digits 10 number ≠ [] := Nat.digits_ne_nil_iff_ne_zero.mpr positive
    simpa [List.map_eq_nil_iff, List.reverse_eq_nil_iff] using digits

theorem valueOf_decimal (number : Nat) : valueOf 0 (decimal number) = number := by
  have reads : ∀ digits : List Nat, (∀ d ∈ digits, d < 10) → ∀ value : Nat,
      valueOf value ((digits.map fun d => UInt8.ofNat (48 + d))) =
          digits.foldl (fun value d => value * 10 + d) value := by
    intro digits small
    induction digits with
    | nil => exact fun _ => rfl
    | cons d rest ih =>
      intro value
      have here := (digit_ofNat (small d List.mem_cons_self)).2
      have later := ih (fun d member => small d (List.mem_cons_of_mem _ member)) (value * 10 + d)
      change valueOf (value * 10 + digit (UInt8.ofNat (48 + d))) _ = _
      rw [here]
      exact later
  unfold decimal
  split
  · rename_i zero
    rw [zero]
    rfl
  · rw [reads _ fun d member => Nat.digits_lt_base (by decide) (List.mem_reverse.mp member), List.foldl_reverse]
    have same : (fun (d : Nat) value => value * 10 + d) = fun d value => d + 10 * value := by
      funext d value
      omega
    have whole := Nat.ofDigits_digits 10 number
    rw [Nat.ofDigits_eq_foldr] at whole
    rw [same]
    exact whole

theorem parseTileIndex_decimal (zoom number : Nat) (y : Int) :
    parseTileIndex (decimal number) zoom = some y ↔ y = number ∧ tileValid zoom 0 y = true := by
  have bound := (tilesPerAxis_range zoom).2
  constructor
  · intro parsed
    unfold parseTileIndex at parsed
    split at parsed
    · cases parsed
    · cases read : parseDigits 0 (decimal number) with
      | none => simp [read] at parsed
      | some value =>
        simp only [read] at parsed
        split at parsed
        · rename_i valid
          cases parsed
          have same := (parseDigits_some read).2
          rw [valueOf_decimal] at same
          rw [same] at valid
          exact ⟨by rw [same], by rw [same]; exact valid⟩
        · cases parsed
  · rintro ⟨rfl, valid⟩
    have range := (tileValid_iff.mp valid).2
    have fits : valueOf 0 (decimal number) ≤ 2147483647 := by
      rw [valueOf_decimal]
      omega
    have small : ¬(decimal number = [] ∨ 18 < zoom) := by
      rintro (empty | large)
      · exact decimal_filled number empty
      · unfold tilesPerAxis at range
        rw [if_neg (by omega)] at range
        omega
    unfold parseTileIndex
    rw [if_neg small, parseDigits_fits (decimal_digits number) fits, valueOf_decimal]
    exact if_pos valid

end Numbers

section Files

theorem lower_plain {c d : UInt8} (lowered : lower c = d) (plain : d < ascii 'a') : c = d := by
  unfold lower at lowered
  split at lowered
  · rename_i upper
    exfalso
    simp only [UInt8.le_iff_toNat_le] at upper
    have low : (ascii 'A').toNat = 65 := rfl
    have high : (ascii 'Z').toNat = 90 := rfl
    have bound : (ascii 'a').toNat = 97 := rfl
    rw [UInt8.lt_iff_toNat_lt, ← lowered, UInt8.toNat_add, bound] at plain
    have step : (32 : UInt8).toNat = 32 := rfl
    omega
  · exact lowered

theorem isPng_split {extension : Name} (png : isPng extension = true) :
    ∃ rest, extension = dot :: rest ∧ dot ∉ rest := by
  unfold isPng at png
  rw [beq_iff_eq] at png
  cases extension with
  | nil => cases png
  | cons c rest =>
    rw [List.map_cons, List.map_cons, List.cons.injEq] at png
    have first : c = dot := lower_plain png.1 (by decide)
    refine ⟨rest, by rw [first], fun member => ?_⟩
    have lowered : lower dot ∈ rest.map lower := List.mem_map_of_mem member
    rw [png.2] at lowered
    revert lowered
    decide

theorem splitExtension_append (stem : Name) {rest : Name} (plain : dot ∉ rest) :
    splitExtension (stem ++ dot :: rest) = some (stem, dot :: rest) := by
  have member : dot ∈ stem ++ dot :: rest := List.mem_append_right _ List.mem_cons_self
  have last : ((stem ++ dot :: rest).reverse.takeWhile (· ≠ dot)).length = rest.length := by
    have ordinary : ∀ c ∈ rest.reverse, decide (c ≠ dot) = true := by
      intro c inside
      have apart : c ≠ dot := fun same => plain (same ▸ List.mem_reverse.mp inside)
      exact decide_eq_true apart
    rw [List.reverse_append, List.reverse_cons, List.append_assoc, List.takeWhile_append_of_pos ordinary]
    simp
  have cut : (stem ++ dot :: rest).length - (rest.length + 1) = stem.length := by
    rw [List.length_append, List.length_cons]
    omega
  unfold splitExtension
  rw [if_pos member]
  simp only [last, cut, List.take_left, List.drop_left]

theorem splitExtension_some {name stem extension : Name} (split : splitExtension name = some (stem, extension)) :
    name = stem ++ extension := by
  unfold splitExtension at split
  split at split
  · cases split
    exact (List.take_append_drop _ _).symm
  · cases split

theorem tileRow_some {zoom : Nat} {name : Name} {y : Int} (row : tileRow zoom name = some y) :
    ∃ stem extension, name = stem ++ extension ∧ isPng extension = true ∧ stem ≠ [] ∧ stem.all isDigit = true ∧
      parseTileIndex stem zoom = some y := by
  unfold tileRow at row
  split at row
  · cases row
  · rename_i png
    rw [Bool.not_eq_false] at png
    unfold entryIsPngTile at png
    split at png
    · cases png
    · cases split : splitExtension name with
      | none => simp [split] at row
      | some parts =>
        obtain ⟨stem, extension⟩ := parts
        simp only [split] at row png
        rw [Bool.and_eq_true, Bool.and_eq_true, Bool.not_eq_true', List.isEmpty_eq_false_iff] at png
        exact ⟨stem, extension, splitExtension_some split, png.1.1, png.1.2, png.2, row⟩

theorem tileRow_append {zoom : Nat} {stem extension : Name} (png : isPng extension = true) (filled : stem ≠ [])
    (digits : stem.all isDigit = true) : tileRow zoom (stem ++ extension) = parseTileIndex stem zoom := by
  obtain ⟨rest, rfl, plain⟩ := isPng_split png
  have split := splitExtension_append stem plain
  have first : (stem ++ dot :: rest).head? ≠ some dot := by
    cases stem with
    | nil => exact absurd rfl filled
    | cons c stem =>
      rintro ⟨⟩
      cases digits
  have tile : entryIsPngTile (stem ++ dot :: rest) = true := by
    unfold entryIsPngTile
    rw [if_neg first, split]
    simp [png, filled, digits]
  unfold tileRow
  rw [if_neg (by rw [tile]; decide), split]

theorem tileRow_iff {zoom : Nat} {name : Name} {y : Int}
    (named : ∀ stem extension, stem ++ extension = name → isPng extension = true → stem ≠ [] →
      stem.all isDigit = true → ∃ row, stem = decimal row) :
    tileRow zoom name = some y ↔
      tileValid zoom 0 y = true ∧ ∃ extension, isPng extension = true ∧ name = formatInt y ++ extension := by
  constructor
  · intro row
    obtain ⟨stem, extension, whole, png, filled, digits, parsed⟩ := tileRow_some row
    obtain ⟨number, rfl⟩ := named stem extension whole.symm png filled digits
    obtain ⟨rfl, valid⟩ := (parseTileIndex_decimal zoom number y).mp parsed
    exact ⟨valid, extension, png, whole⟩
  · rintro ⟨valid, extension, png, rfl⟩
    obtain ⟨number, rfl⟩ := Int.eq_ofNat_of_zero_le (tileValid_iff.mp valid).2.1
    change tileRow zoom (decimal number ++ extension) = _
    rw [tileRow_append png (decimal_filled number) (decimal_digits number), parseTileIndex_decimal]
    exact ⟨rfl, valid⟩

end Files

section Rows

structure Rows where
  minY : Int
  maxY : Int
  sampleY : Int

def Rows.none : Rows := ⟨-1, -1, -1⟩

def Rows.add (rows : Rows) (y : Int) : Rows :=
  if rows.sampleY < 0 then ⟨y, y, y⟩ else ⟨min rows.minY y, max rows.maxY y, rows.sampleY⟩

structure Rows.Span (rows : Rows) (ys : List Int) : Prop where
  minY : rows.minY ∈ ys
  maxY : rows.maxY ∈ ys
  sampleY : rows.sampleY ∈ ys
  within : ∀ y ∈ ys, rows.minY ≤ y ∧ y ≤ rows.maxY

theorem rows_span {ys : List Int} (nonneg : ∀ y ∈ ys, 0 ≤ y) (filled : ys ≠ []) :
    (ys.foldl Rows.add Rows.none).Span ys := by
  induction ys using List.reverseRecOn with
  | nil => exact absurd rfl filled
  | append_singleton ys y ih =>
    rw [List.foldl_append, List.foldl_cons, List.foldl_nil]
    by_cases first : ys = []
    · subst first
      have here : y ∈ [] ++ [y] := List.mem_singleton_self y
      refine ⟨here, here, here, fun other member => ?_⟩
      rw [List.nil_append, List.mem_singleton] at member
      rw [member]
      exact ⟨Int.le_refl y, Int.le_refl y⟩
    · have span := ih (fun y member => nonneg y (List.mem_append_left _ member)) first
      have sampled := nonneg _ (List.mem_append_left [y] span.sampleY)
      have here : y ∈ ys ++ [y] := List.mem_append_right _ (List.mem_singleton_self y)
      generalize ys.foldl Rows.add Rows.none = rows at span sampled ⊢
      unfold Rows.add
      rw [if_neg (Int.not_lt.mpr sampled)]
      refine ⟨?_, ?_, List.mem_append_left _ span.sampleY, fun other member => ?_⟩
      · rcases min_choice rows.minY y with old | new
        · dsimp only
          rw [old]
          exact List.mem_append_left _ span.minY
        · dsimp only
          rw [new]
          exact here
      · rcases max_choice rows.maxY y with old | new
        · dsimp only
          rw [old]
          exact List.mem_append_left _ span.maxY
        · dsimp only
          rw [new]
          exact here
      · dsimp only
        rcases List.mem_append.mp member with before | last
        · have within := span.within other before
          omega
        · rw [List.mem_singleton] at last
          omega

def rowsOf (zoom : Nat) (files : List Name) : Rows := (files.filterMap (tileRow zoom)).foldl Rows.add Rows.none

end Rows

section Columns

variable {card : Card} {zoom : Nat} {entries : List ColumnEntry}

def columnOf (card : Card) (zoom : Nat) (entry : ColumnEntry) : Option XColCache :=
  if entry.name.head? = some dot then none
  else
    match parseTileIndex entry.name zoom with
    | none => none
    | some x =>
      match card.openColumn zoom x with
      | none => none
      | some files =>
        let rows := rowsOf zoom files
        if rows.sampleY ≥ 0 then some ⟨x, rows.minY, rows.maxY, rows.sampleY⟩ else none

theorem formatInt_decimal {x : Int} (nonneg : 0 ≤ x) : formatInt x = decimal x.toNat := by
  obtain ⟨number, rfl⟩ := Int.eq_ofNat_of_zero_le nonneg
  rfl

theorem Card.Admissible.column_name (admissible : card.Admissible) (bound : zoom ≤ maxZoom)
    (listed : card.zoomDirectory zoom = some entries) {entry : ColumnEntry} (member : entry ∈ entries) (x : Int) :
    parseTileIndex entry.name zoom = some x ↔ entry.name = formatInt x ∧ tileValid zoom x 0 = true := by
  have sides : ∀ x, tileValid zoom 0 x = true ↔ tileValid zoom x 0 = true := by
    intro x
    rw [tileValid_iff, tileValid_iff]
    omega
  constructor
  · intro parsed
    have numeric : entry.name ≠ [] ∧ entry.name.all isDigit = true := by
      unfold parseTileIndex at parsed
      split at parsed
      · cases parsed
      · rename_i given
        rw [not_or] at given
        cases read : parseDigits 0 entry.name with
        | none => simp [read] at parsed
        | some value => exact ⟨given.1, (parseDigits_some read).1⟩
    obtain ⟨number, name⟩ := admissible.columnNames zoom bound entries listed entry member numeric.1 numeric.2
    rw [name, parseTileIndex_decimal] at parsed
    obtain ⟨rfl, valid⟩ := parsed
    exact ⟨name, (sides _).mp valid⟩
  · rintro ⟨name, valid⟩
    obtain ⟨number, rfl⟩ := Int.eq_ofNat_of_zero_le (tileValid_iff.mp valid).1.1
    rw [name]
    exact (parseTileIndex_decimal zoom number _).mpr ⟨rfl, (sides _).mpr valid⟩

theorem Card.Admissible.openColumn_iff (admissible : card.Admissible) (bound : zoom ≤ maxZoom)
    (listed : card.zoomDirectory zoom = some entries) {x : Int} {files : List Name} :
    card.openColumn zoom x = some files ↔ (⟨formatInt x, some files⟩ : ColumnEntry) ∈ entries := by
  have distinct := admissible.distinct zoom bound entries listed
  unfold Card.openColumn
  rw [listed]
  dsimp only
  constructor
  · intro opened
    obtain ⟨entry, found, files'⟩ := Option.bind_eq_some_iff.mp opened
    have name := List.find?_some found
    rw [decide_eq_true_eq] at name
    have member := List.mem_of_find?_eq_some found
    rwa [← name, ← files']
  · intro member
    cases found : entries.find? fun entry => entry.name = formatInt x with
    | none => exact absurd (decide_eq_true rfl) (List.find?_eq_none.mp found _ member)
    | some entry =>
      have name := List.find?_some found
      rw [decide_eq_true_eq] at name
      have same := List.inj_on_of_nodup_map distinct (List.mem_of_find?_eq_some found) member name
      rw [same]
      rfl

structure Scanned (card : Card) (zoom : Nat) (columns : List XColCache) : Prop where
  distinct : (columns.map XColCache.x).Nodup
  minY : ∀ column ∈ columns, card.Tile zoom column.x column.minY
  maxY : ∀ column ∈ columns, card.Tile zoom column.x column.maxY
  sampleY : ∀ column ∈ columns, card.Tile zoom column.x column.sampleY
  within : ∀ column ∈ columns, ∀ y, card.Tile zoom column.x y → column.minY ≤ y ∧ y ≤ column.maxY
  all : ∀ x y, card.Tile zoom x y → ∃ column ∈ columns, column.x = x

theorem Card.Admissible.rows_iff (admissible : card.Admissible) (bound : zoom ≤ maxZoom)
    (listed : card.zoomDirectory zoom = some entries) {x : Int} {files : List Name} (valid : tileValid zoom x 0 = true)
    (member : (⟨formatInt x, some files⟩ : ColumnEntry) ∈ entries) (y : Int) :
    y ∈ files.filterMap (tileRow zoom) ↔ card.Tile zoom x y := by
  have range := tileValid_iff.mp valid
  have rows : ∀ name ∈ files, (tileRow zoom name = some y ↔ tileValid zoom 0 y = true ∧
      ∃ extension, isPng extension = true ∧ name = formatInt y ++ extension) := by
    intro name inside
    refine tileRow_iff fun stem extension whole png => ?_
    exact admissible.fileNames zoom bound entries listed _ member files rfl stem extension (whole ▸ inside) png
  rw [List.mem_filterMap]
  constructor
  · rintro ⟨name, inside, row⟩
    obtain ⟨validRow, extension, png, rfl⟩ := (rows name inside).mp row
    refine ⟨?_, entries, files, listed, member, extension, png, inside⟩
    rw [tileValid_iff] at validRow ⊢
    omega
  · rintro ⟨validTile, entries', files', listed', member', extension, png, inside⟩
    rw [listed, Option.some.injEq] at listed'
    subst listed'
    have opened := (admissible.openColumn_iff bound listed).mpr member
    have opened' := (admissible.openColumn_iff bound listed).mpr member'
    rw [opened, Option.some.injEq] at opened'
    subst opened'
    refine ⟨_, inside, (rows _ inside).mpr ⟨?_, extension, png, rfl⟩⟩
    rw [tileValid_iff] at validTile ⊢
    omega

/-- The tiles of a column, by its directory's names that are read as tiles. -/
def tilesOf (zoom : Nat) (entry : ColumnEntry) : List (Int × Int) :=
  match parseTileIndex entry.name zoom with
  | none => []
  | some x => ((entry.files.getD []).filterMap (tileRow zoom)).map (x, ·)

def Card.tilesAt (card : Card) (zoom : Nat) : List (Int × Int) :=
  ((card.zoomDirectory zoom).getD []).flatMap (tilesOf zoom)

theorem Card.Admissible.tile_iff (admissible : card.Admissible) (bound : zoom ≤ maxZoom) {x y : Int} :
    card.Tile zoom x y ↔ (x, y) ∈ card.tilesAt zoom := by
  unfold Card.tilesAt
  rw [List.mem_flatMap]
  constructor
  · intro tile
    have tile' := tile
    obtain ⟨valid, entries, files, listed, member, -⟩ := tile'
    have valid : tileValid zoom x 0 = true := by
      rw [tileValid_iff] at valid ⊢
      omega
    have column := (admissible.column_name bound listed member x).mpr ⟨rfl, valid⟩
    have row := (admissible.rows_iff bound listed valid member y).mpr tile
    rw [listed]
    exact ⟨_, member, by simpa [tilesOf, column] using row⟩
  · rintro ⟨⟨name, files⟩, member, inside⟩
    cases listed : card.zoomDirectory zoom with
    | none => simp [listed] at member
    | some entries =>
      rw [listed, Option.getD_some] at member
      unfold tilesOf at inside
      cases parsed : parseTileIndex name zoom with
      | none => simp [parsed] at inside
      | some column =>
        obtain ⟨rfl, valid⟩ := (admissible.column_name bound listed member column).mp parsed
        cases files with
        | none => simp [parsed] at inside
        | some files =>
          simp only [parsed, List.mem_map, Prod.mk.injEq, Option.getD_some] at inside
          obtain ⟨row, read, rfl, rfl⟩ := inside
          exact (admissible.rows_iff bound listed valid member row).mp read

theorem Card.Admissible.columnOf_some (admissible : card.Admissible) (bound : zoom ≤ maxZoom)
    (listed : card.zoomDirectory zoom = some entries) {entry : ColumnEntry} (member : entry ∈ entries)
    {column : XColCache} (read : columnOf card zoom entry = some column) :
    entry.name = formatInt column.x ∧ tileValid zoom column.x 0 = true ∧ ∃ files, entry.files = some files ∧
      (⟨column.minY, column.maxY, column.sampleY⟩ : Rows).Span (files.filterMap (tileRow zoom)) := by
  unfold columnOf at read
  split at read
  · cases read
  · cases parsed : parseTileIndex entry.name zoom with
    | none => simp [parsed] at read
    | some x =>
      obtain ⟨name, valid⟩ := (admissible.column_name bound listed member x).mp parsed
      cases opened : card.openColumn zoom x with
      | none => simp [parsed, opened] at read
      | some files =>
        simp only [parsed, opened] at read
        have inside := (admissible.openColumn_iff bound listed).mp opened
        have same := List.inj_on_of_nodup_map (admissible.distinct zoom bound entries listed) member inside name
        split at read
        · rename_i sampled
          cases read
          refine ⟨name, valid, files, by rw [same], rows_span ?_ ?_⟩
          · intro y row
            have tile := (admissible.rows_iff bound listed valid inside y).mp row
            exact (tileValid_iff.mp tile.1).2.1
          · intro none
            unfold rowsOf at sampled
            rw [none] at sampled
            exact absurd sampled (by decide)
        · cases read

theorem decimal_head (number : Nat) : (decimal number).head? ≠ some dot := by
  have digits := decimal_digits number
  cases text : decimal number with
  | nil => nofun
  | cons c rest =>
    rintro ⟨⟩
    rw [text] at digits
    cases digits

theorem Card.Admissible.columnOf_tile (admissible : card.Admissible) (bound : zoom ≤ maxZoom)
    (listed : card.zoomDirectory zoom = some entries) {x y : Int} (tile : card.Tile zoom x y) :
    ∃ entry ∈ entries, ∃ column, columnOf card zoom entry = some column ∧ column.x = x := by
  obtain ⟨validTile, entries', files, listed', member, _⟩ := id tile
  rw [listed, Option.some.injEq] at listed'
  subst listed'
  have range := tileValid_iff.mp validTile
  have valid : tileValid zoom x 0 = true := by
    rw [tileValid_iff]
    omega
  have parsed := (admissible.column_name bound listed member x).mpr ⟨rfl, valid⟩
  have opened := (admissible.openColumn_iff bound listed).mpr member
  have head : (formatInt x).head? ≠ some dot := by
    rw [formatInt_decimal range.1.1]
    exact decimal_head _
  have row := (admissible.rows_iff bound listed valid member y).mpr tile
  have span : (rowsOf zoom files).Span (files.filterMap (tileRow zoom)) := by
    refine rows_span (fun y row => ?_) (List.ne_nil_of_mem row)
    exact (tileValid_iff.mp ((admissible.rows_iff bound listed valid member y).mp row).1).2.1
  have sampled := (tileValid_iff.mp ((admissible.rows_iff bound listed valid member _).mp span.sampleY).1).2.1
  refine ⟨_, member, ⟨x, (rowsOf zoom files).minY, (rowsOf zoom files).maxY, (rowsOf zoom files).sampleY⟩, ?_, rfl⟩
  unfold columnOf
  simp only [if_neg head, parsed, opened]
  exact if_pos sampled

theorem formatInt_injective {x y : Int} (nonnegX : 0 ≤ x) (nonnegY : 0 ≤ y) (same : formatInt x = formatInt y) :
    x = y := by
  rw [formatInt_decimal nonnegX, formatInt_decimal nonnegY] at same
  have values := congrArg (valueOf 0) same
  rw [valueOf_decimal, valueOf_decimal] at values
  omega

theorem Card.Admissible.scanned (admissible : card.Admissible) (bound : zoom ≤ maxZoom)
    (listed : card.zoomDirectory zoom = some entries) :
    Scanned card zoom (entries.filterMap (columnOf card zoom)) := by
  have found : ∀ column ∈ entries.filterMap (columnOf card zoom), ∃ files,
      (⟨formatInt column.x, some files⟩ : ColumnEntry) ∈ entries ∧ tileValid zoom column.x 0 = true ∧
        (⟨column.minY, column.maxY, column.sampleY⟩ : Rows).Span (files.filterMap (tileRow zoom)) := by
    intro column member
    obtain ⟨entry, inside, read⟩ := List.mem_filterMap.mp member
    obtain ⟨name, valid, files, listing, span⟩ := admissible.columnOf_some bound listed inside read
    exact ⟨files, by rw [← name, ← listing]; exact inside, valid, span⟩
  have tiles : ∀ column ∈ entries.filterMap (columnOf card zoom), ∃ ys : List Int,
      (⟨column.minY, column.maxY, column.sampleY⟩ : Rows).Span ys ∧ ∀ y, y ∈ ys ↔ card.Tile zoom column.x y := by
    intro column member
    obtain ⟨files, inside, valid, span⟩ := found column member
    exact ⟨_, span, admissible.rows_iff bound listed valid inside⟩
  constructor
  · rw [List.nodup_iff_pairwise_ne, List.pairwise_map, List.pairwise_filterMap]
    have names := List.pairwise_map.mp (List.nodup_iff_pairwise_ne.mp (admissible.distinct zoom bound entries listed))
    refine names.imp_of_mem fun {a b} memberA memberB apart column readA column' readB same => ?_
    have nameA := (admissible.columnOf_some bound listed memberA readA).1
    have nameB := (admissible.columnOf_some bound listed memberB readB).1
    exact apart (by rw [nameA, nameB, same])
  · intro column member
    obtain ⟨ys, span, rows⟩ := tiles column member
    exact (rows _).mp span.minY
  · intro column member
    obtain ⟨ys, span, rows⟩ := tiles column member
    exact (rows _).mp span.maxY
  · intro column member
    obtain ⟨ys, span, rows⟩ := tiles column member
    exact (rows _).mp span.sampleY
  · intro column member y tile
    obtain ⟨ys, span, rows⟩ := tiles column member
    exact span.within y ((rows y).mpr tile)
  · intro x y tile
    obtain ⟨entry, inside, column, read, same⟩ := admissible.columnOf_tile bound listed tile
    exact ⟨column, List.mem_filterMap.mpr ⟨entry, inside, read⟩, same⟩

theorem scanned_nil (unlisted : card.zoomDirectory zoom = none) : Scanned card zoom [] := by
  constructor
  · exact List.nodup_nil
  · intro column member
    exact absurd member List.not_mem_nil
  · intro column member
    exact absurd member List.not_mem_nil
  · intro column member
    exact absurd member List.not_mem_nil
  · intro column member
    exact absurd member List.not_mem_nil
  · rintro x y ⟨_, entries, _, listed, _⟩
    rw [unlisted] at listed
    cases listed

theorem Scanned.few {columns : List XColCache} (scanned : Scanned card zoom columns)
    (fewColumns : {x | ∃ y, card.Tile zoom x y}.ncard ≤ maxXcols) : columns.length ≤ maxXcols := by
  have same : {x | ∃ y, card.Tile zoom x y} = ((columns.map XColCache.x).toFinset : Set Int) := by
    ext x
    simp only [Set.mem_ofPred_eq, List.coe_toFinset, List.mem_map]
    constructor
    · rintro ⟨y, tile⟩
      exact scanned.all x y tile
    · rintro ⟨column, member, rfl⟩
      exact ⟨_, scanned.minY column member⟩
  rw [same, Set.ncard_coe_finset, List.toFinset_card_of_nodup scanned.distinct, List.length_map] at fewColumns
  exact fewColumns

end Columns

end SigurdOS.App.TileDiscovery
