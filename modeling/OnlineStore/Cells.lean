/-
This file is the array library of the development: C arrays of records in which a zeroed cell
marks the end. An array is the list of its cells up to the point from which every cell is
zeroed, and the zeroed value of the cell type is its `default`. Reading past the list therefore
finds zeroed cells, and writing past it extends the list.

A scan `while (!stop(table[row])) row++` sees the `records` of the array, the cells before the
first one that stops it.
-/

import Mathlib.Data.List.Basic
import Mathlib.Data.List.TakeWhile
import Mathlib.Tactic.Common

namespace Cells

variable {Cell : Type}

/-- `table[row]`. -/
def cell [Inhabited Cell] (table : List Cell) (row : Nat) : Cell :=
  table.getD row default

/-- The array after `table[row] = value`. -/
def put [Inhabited Cell] (table : List Cell) (row : Nat) (value : Cell) : List Cell :=
  (table ++ List.replicate (row + 1 - table.length) default).set row value

/-- The array after the values are stored in consecutive cells. -/
def putAll [Inhabited Cell] (table : List Cell) (row : Nat) : List Cell → List Cell
  | [] => table
  | value :: values => putAll (put table row value) (row + 1) values

/-- The cells before the first one at which `stop` holds. -/
def records (stop : Cell → Bool) (table : List Cell) : List Cell :=
  table.takeWhile fun value => !stop value

/-- The array after a scan that ends at `stop` has updated every cell it passed. -/
def mapRecords (stop : Cell → Bool) (update : Cell → Cell) (table : List Cell) : List Cell :=
  (records stop table).map update ++ table.dropWhile fun value => !stop value

/-- The array after a search has updated the first cell that it looks for. -/
def updateFirst (found : Cell → Bool) (update : Cell → Cell) : List Cell → List Cell
  | [] => []
  | value :: values =>
    if found value then update value :: values else value :: updateFirst found update values

/-- The row at which `while (!found(table[row])) row++` ends. Past the list every cell is
zeroed, so the loop ends there or leaves the array. -/
def search [Inhabited Cell] (found : Cell → Bool) (table : List Cell) : Option Nat :=
  match table.findIdx? found with
  | some row => some row
  | none => if found default then some table.length else none

/-! ### Reading and writing cells -/

theorem cell_of_lt [Inhabited Cell] {table : List Cell} {row : Nat} (bound : row < table.length) :
    cell table row = table[row] := by
  simp [cell, bound]

theorem cell_of_le [Inhabited Cell] {table : List Cell} {row : Nat} (past : table.length ≤ row) :
    cell table row = default := by
  simp [cell, past]

/-- A cell is in the list or zeroed. -/
theorem cell_mem_or_default [Inhabited Cell] (table : List Cell) (row : Nat) :
    cell table row ∈ table ∨ cell table row = default := by
  by_cases bound : row < table.length
  · exact .inl (cell_of_lt bound ▸ List.getElem_mem bound)
  · exact .inr (cell_of_le (Nat.le_of_not_lt bound))

theorem put_of_lt [Inhabited Cell] {table : List Cell} {row : Nat} (value : Cell)
    (bound : row < table.length) : put table row value = table.set row value := by
  simp [put, Nat.sub_eq_zero_of_le (Nat.succ_le_of_lt bound)]

/-- Storing a value in the first zeroed cell appends it. -/
theorem put_length [Inhabited Cell] (table : List Cell) (value : Cell) :
    put table table.length value = table ++ [value] := by
  simp [put]

/-- Storing a value one cell further leaves a zeroed cell before it. -/
theorem put_length_succ [Inhabited Cell] (table : List Cell) (value : Cell) :
    put table (table.length + 1) value = table ++ [default, value] := by
  have extra : table.length + 1 + 1 - table.length = 2 := by omega
  rw [put, extra, List.set_append_right _ _ (by omega)]
  simp [List.replicate_succ]

theorem putAll_length [Inhabited Cell] (table values : List Cell) :
    putAll table table.length values = table ++ values := by
  induction values generalizing table with
  | nil => simp [putAll]
  | cons value values inductionHypothesis =>
    have next := inductionHypothesis (table ++ [value])
    rw [List.length_append, List.length_singleton] at next
    rw [putAll, put_length, next, List.append_assoc, List.singleton_append]

theorem length_put [Inhabited Cell] {table : List Cell} {row : Nat} (value : Cell)
    (bound : row ≤ table.length) : (put table row value).length = max table.length (row + 1) := by
  simp [put]
  omega

theorem mem_put [Inhabited Cell] {table : List Cell} {row : Nat} {value other : Cell}
    (bound : row ≤ table.length) (member : other ∈ put table row value) :
    other ∈ table ∨ other = value := by
  rcases List.mem_or_eq_of_mem_set member with old | new
  · rcases List.mem_append.mp old with kept | padded
    · exact .inl kept
    · rcases Nat.eq_or_lt_of_le bound with same | less
      · subst same
        rw [put_length] at member
        rcases List.mem_append.mp member with kept | added
        · exact .inl kept
        · exact .inr (List.mem_singleton.mp added)
      · rw [Nat.sub_eq_zero_of_le (Nat.succ_le_of_lt less)] at padded
        cases padded
  · exact .inr new

theorem length_putAll [Inhabited Cell] {table : List Cell} {row : Nat} (values : List Cell)
    (bound : row ≤ table.length) :
    (putAll table row values).length = max table.length (row + values.length) := by
  induction values generalizing table row with
  | nil => simp [putAll, bound]
  | cons value values inductionHypothesis =>
    have extent := length_put value bound
    rw [putAll, inductionHypothesis (by omega), extent, List.length_cons]
    omega

theorem mem_putAll [Inhabited Cell] {table values : List Cell} {row : Nat} {other : Cell}
    (bound : row ≤ table.length) (member : other ∈ putAll table row values) :
    other ∈ table ∨ other ∈ values := by
  induction values generalizing table row with
  | nil => exact .inl member
  | cons value values inductionHypothesis =>
    have extent := length_put value bound
    rcases inductionHypothesis (by omega) member with stored | later
    · rcases mem_put bound stored with old | rfl
      · exact .inl old
      · exact .inr List.mem_cons_self
    · exact .inr (List.mem_cons_of_mem _ later)

/-! ### Scans -/

theorem length_records_le (stop : Cell → Bool) (table : List Cell) :
    (records stop table).length ≤ table.length :=
  (List.takeWhile_sublist _).length_le

theorem records_eq_self {stop : Cell → Bool} {table : List Cell}
    (goesOn : ∀ value ∈ table, stop value = false) : records stop table = table :=
  List.takeWhile_eq_self_iff.mpr fun value member => by simp [goesOn value member]

theorem stop_of_mem_records {stop : Cell → Bool} {table : List Cell} {value : Cell}
    (member : value ∈ records stop table) : stop value = false := by
  simpa using List.mem_takeWhile_imp member

theorem mem_of_mem_records {stop : Cell → Bool} {table : List Cell} {value : Cell}
    (member : value ∈ records stop table) : value ∈ table :=
  List.takeWhile_subset _ member

/-- A scan passes a record at a row before its end. -/
theorem exists_cell_of_mem_records [Inhabited Cell] {stop : Cell → Bool} {table : List Cell}
    {value : Cell} (member : value ∈ records stop table) :
    ∃ row < (records stop table).length, cell table row = value := by
  obtain ⟨row, bound, rfl⟩ := List.getElem_of_mem member
  have inside : row < table.length := Nat.lt_of_lt_of_le bound (length_records_le stop table)
  refine ⟨row, bound, ?_⟩
  rw [cell_of_lt inside]
  exact (List.IsPrefix.getElem (List.takeWhile_prefix _) bound).symm

/-- A loop through the row at which a scan ends. -/
theorem map_cell_range_records [Inhabited Cell] (stop : Cell → Bool) (table : List Cell) :
    (List.range ((records stop table).length + 1)).map (cell table) =
      records stop table ++ [cell table (records stop table).length] := by
  have scanned : (List.range (records stop table).length).map (cell table) =
      records stop table := by
    refine List.ext_getElem (by simp) fun row bound bound' => ?_
    have inside : row < table.length := Nat.lt_of_lt_of_le bound' (length_records_le stop table)
    rw [List.getElem_map, List.getElem_range, cell_of_lt inside]
    exact (List.IsPrefix.getElem (List.takeWhile_prefix _) bound').symm
  rw [List.range_succ, List.map_append, scanned, List.map_singleton]

/-- An update that keeps the end marks keeps the extent of the scan. -/
theorem records_mapRecords {stop : Cell → Bool} {update : Cell → Cell} (table : List Cell)
    (keeps : ∀ value, stop (update value) = stop value) :
    records stop (mapRecords stop update table) = (records stop table).map update := by
  induction table with
  | nil => rfl
  | cons value table inductionHypothesis =>
    by_cases ends : stop value = true
    · simp [mapRecords, records, ends]
    · have goesOn : (!stop (update value)) = true := by simpa [keeps value] using ends
      simp only [mapRecords, records] at inductionHypothesis ⊢
      simp [ends, keeps value, inductionHypothesis]

theorem mapRecords_eq_map {stop : Cell → Bool} {table : List Cell} (update : Cell → Cell)
    (goesOn : ∀ value ∈ table, stop value = false) :
    mapRecords stop update table = table.map update := by
  have rest : (table.dropWhile fun value => !stop value) = [] :=
    List.dropWhile_eq_nil_iff.mpr fun value member => by simp [goesOn value member]
  rw [mapRecords, records_eq_self goesOn, rest, List.append_nil]

theorem put_cons [Inhabited Cell] (first : Cell) (table : List Cell) (row : Nat) (value : Cell) :
    put (first :: table) (row + 1) value = first :: put table row value := by
  simp [put]

/-- A value stored one cell past the end of a scan is not seen by it. -/
theorem records_put_succ [Inhabited Cell] {stop : Cell → Bool} (blank : stop default = true)
    (table : List Cell) (value : Cell) :
    records stop (put table ((records stop table).length + 1) value) = records stop table := by
  induction table with
  | nil => simp [records, put, List.replicate_succ, blank]
  | cons first table inductionHypothesis =>
    by_cases ends : stop first = true
    · simp [records, ends, put_cons]
    · have passed (rest : List Cell) : records stop (first :: rest) = first :: records stop rest :=
        List.takeWhile_cons_of_pos (by simp [ends])
      rw [passed, List.length_cons, put_cons, passed, inductionHypothesis]

/-- A search for something present ends at its first occurrence. -/
theorem search_of_mem [Inhabited Cell] {found : Cell → Bool} {table : List Cell}
    (present : ∃ value ∈ table, found value = true) :
    ∃ row, ∃ bound : row < table.length, search found table = some row ∧
      found table[row] = true ∧ ∀ earlier, ∀ less : earlier < row,
        found (table.get ⟨earlier, Nat.lt_trans less bound⟩) = false := by
  obtain ⟨value, member, hit⟩ := present
  have bound : table.findIdx found < table.length :=
    List.findIdx_lt_length_of_exists ⟨value, member, hit⟩
  have located : table.findIdx? found = some (table.findIdx found) :=
    List.findIdx?_eq_some_of_exists ⟨value, member, hit⟩
  refine ⟨table.findIdx found, bound, ?_, List.findIdx_getElem, ?_⟩
  · rw [search, located]
  · intro earlier less
    simpa using List.not_of_lt_findIdx less

/-- Updating the cell at which a search ends, when what is searched for is there. -/
theorem put_of_search [Inhabited Cell] (found : Cell → Bool) (update : Cell → Cell)
    {table : List Cell} (present : ∃ value ∈ table, found value = true) :
    ∃ row, row < table.length ∧ search found table = some row ∧
      cell table row ∈ table ∧ found (cell table row) = true ∧
      put table row (update (cell table row)) = updateFirst found update table := by
  obtain ⟨row, bound, located, hit, earlier⟩ := search_of_mem present
  refine ⟨row, bound, located, ?_⟩
  rw [cell_of_lt bound, put_of_lt _ bound]
  refine ⟨List.getElem_mem bound, hit, ?_⟩
  clear located present
  induction table generalizing row with
  | nil => cases bound
  | cons value values inductionHypothesis =>
    cases row with
    | zero => simp_all [updateFirst]
    | succ row =>
      have goesOn : found value = false := earlier 0 (Nat.succ_pos row)
      have rest := inductionHypothesis row (Nat.lt_of_succ_lt_succ bound) hit
        fun before less => earlier (before + 1) (Nat.succ_lt_succ less)
      simpa [updateFirst, goesOn] using rest

/-- The search for something present ends at the first cell that is found. -/
theorem search_of_find? [Inhabited Cell] {found : Cell → Bool} {table : List Cell} {value : Cell}
    (first : table.find? found = some value) :
    ∃ row, row < table.length ∧ search found table = some row ∧ cell table row = value := by
  have hit := List.find?_some first
  have bound : table.findIdx found < table.length :=
    List.findIdx_lt_length_of_exists ⟨value, List.mem_of_find?_eq_some first, hit⟩
  have located : table.findIdx? found = some (table.findIdx found) :=
    List.findIdx?_eq_some_of_exists ⟨value, List.mem_of_find?_eq_some first, hit⟩
  refine ⟨table.findIdx found, bound, by rw [search, located], ?_⟩
  rw [List.find?_eq_getElem?_findIdx, List.getElem?_eq_getElem bound] at first
  rw [cell_of_lt bound]
  exact Option.some.inj first

/-- A search for a record ends at a record. -/
theorem search_of_mem_records [Inhabited Cell] (found : Cell → Bool) {stop : Cell → Bool}
    {table : List Cell} (present : ∃ value ∈ records stop table, found value = true) :
    ∃ row value, search found table = some row ∧ cell table row = value ∧
      value ∈ records stop table ∧ found value = true := by
  obtain ⟨value, member, hit⟩ := present
  obtain ⟨first, located⟩ : ∃ first, (records stop table).find? found = some first :=
    Option.isSome_iff_exists.mp (List.find?_isSome.mpr ⟨value, member, hit⟩)
  have whole : table.find? found = some first := by
    have joined : records stop table ++ table.dropWhile (fun value => !stop value) = table :=
      List.takeWhile_append_dropWhile
    rw [← joined, List.find?_append, located]
    rfl
  obtain ⟨row, -, ends, same⟩ := search_of_find? whole
  exact ⟨row, first, ends, same, List.mem_of_find?_eq_some located, List.find?_some located⟩

/-- A scan of the records that counts the rows before the first one found ends at that row. -/
theorem cell_length_takeWhile [Inhabited Cell] {stop found : Cell → Bool} {table : List Cell}
    {value : Cell} (first : (records stop table).find? found = some value) :
    cell table ((records stop table).takeWhile fun value => !found value).length = value := by
  induction table with
  | nil => simp [records] at first
  | cons head rest inductionHypothesis =>
    simp only [records] at first inductionHypothesis ⊢
    by_cases ends : stop head = true
    · simp [ends] at first
    · by_cases hit : found head = true
      · simp only [ends, Bool.not_false, List.takeWhile_cons_of_pos, List.find?_cons, hit,
          Option.some.injEq] at first
        rw [← first]
        simp [ends, hit, cell]
      · simp only [ends, Bool.not_false, List.takeWhile_cons_of_pos, List.find?_cons, hit] at first
        simpa [ends, hit, cell] using inductionHypothesis first

/-- A search for something present counts the cells before it. -/
theorem search_eq_length_takeWhile [Inhabited Cell] {found : Cell → Bool} {table : List Cell}
    (present : ∃ value ∈ table, found value = true) :
    search found table = some (table.takeWhile fun value => !found value).length := by
  have counted : (table.takeWhile fun value => !found value).length = table.findIdx found := by
    simp only [List.takeWhile_eq_take_findIdx_not, Bool.not_not, List.length_take]
    exact Nat.min_eq_left List.findIdx_le_length
  rw [search, List.findIdx?_eq_some_of_exists present, counted]

/-- Nothing before the end of the array changes when a value is stored behind it. -/
theorem take_put [Inhabited Cell] {table : List Cell} {row count : Nat} (value : Cell)
    (past : table.length ≤ row) (covered : count ≤ table.length) :
    (put table row value).take count = table.take count := by
  rw [put, List.take_set_of_le (Nat.le_trans covered past),
    List.take_append_of_le_length covered]

theorem mem_updateFirst {found : Cell → Bool} {update : Cell → Cell} {table : List Cell}
    {value : Cell} (member : value ∈ updateFirst found update table) :
    value ∈ table ∨ ∃ before ∈ table, value = update before := by
  induction table with
  | nil => cases member
  | cons first values inductionHypothesis =>
    by_cases hit : found first = true
    · rw [updateFirst, if_pos hit] at member
      rcases List.mem_cons.mp member with rfl | rest
      · exact .inr ⟨first, List.mem_cons_self, rfl⟩
      · exact .inl (List.mem_cons_of_mem _ rest)
    · rw [updateFirst, if_neg hit] at member
      rcases List.mem_cons.mp member with rfl | rest
      · exact .inl List.mem_cons_self
      · rcases inductionHypothesis rest with kept | ⟨before, inside, same⟩
        · exact .inl (List.mem_cons_of_mem _ kept)
        · exact .inr ⟨before, List.mem_cons_of_mem _ inside, same⟩

theorem length_updateFirst (found : Cell → Bool) (update : Cell → Cell) (table : List Cell) :
    (updateFirst found update table).length = table.length := by
  induction table with
  | nil => rfl
  | cons value values inductionHypothesis =>
    by_cases hit : found value = true <;> simp [updateFirst, hit, inductionHypothesis]

/-- An update that keeps a column keeps it in the whole array. -/
theorem map_updateFirst {Column : Type} (column : Cell → Column) {found : Cell → Bool}
    {update : Cell → Cell} (keeps : ∀ value, column (update value) = column value)
    (table : List Cell) : (updateFirst found update table).map column = table.map column := by
  induction table with
  | nil => rfl
  | cons value values inductionHypothesis =>
    by_cases hit : found value = true <;>
      simp [updateFirst, hit, inductionHypothesis, keeps value]

/-- An update that keeps the end marks commutes with the scan. -/
theorem records_updateFirst {stop found : Cell → Bool} {update : Cell → Cell}
    (keeps : ∀ value, stop (update value) = stop value) (table : List Cell) :
    records stop (updateFirst found update table) =
      updateFirst found update (records stop table) := by
  induction table with
  | nil => rfl
  | cons value values inductionHypothesis =>
    simp only [records] at inductionHypothesis ⊢
    by_cases ends : stop value = true <;> by_cases hit : found value = true <;>
      simp [updateFirst, ends, hit, keeps value, inductionHypothesis]

/-- Where at most one cell is looked for, updating the first one updates all of them. -/
theorem updateFirst_eq_map {Key : Type} [DecidableEq Key] {key : Cell → Key}
    {update : Cell → Cell} {table : List Cell} (distinct : (table.map key).Nodup) (sought : Key) :
    updateFirst (fun value => key value == sought) update table =
      table.map fun value => if key value = sought then update value else value := by
  induction table with
  | nil => rfl
  | cons value values inductionHypothesis =>
    obtain ⟨fresh, others⟩ := List.nodup_cons.mp distinct
    by_cases hit : key value = sought
    · have untouched : (values.map fun value => if key value = sought then update value else value)
          = values := by
        refine (List.map_congr_left fun other member => ?_).trans (List.map_id values)
        refine if_neg fun same => fresh ?_
        exact List.mem_map.mpr ⟨other, member, same.trans hit.symm⟩
      simp [updateFirst, hit, untouched]
    · simp [updateFirst, hit, inductionHypothesis others]

/-! ### Updates one after the other -/

theorem mapRecords_cons (stop : Cell → Bool) (update : Cell → Cell) (value : Cell)
    (table : List Cell) :
    mapRecords stop update (value :: table) =
      if stop value then value :: table else update value :: mapRecords stop update table := by
  by_cases ends : stop value = true <;> simp [mapRecords, records, ends]

/-- An update that changes nothing. -/
theorem mapRecords_eq_self {stop : Cell → Bool} {update : Cell → Cell} {table : List Cell}
    (keeps : ∀ value ∈ records stop table, update value = value) :
    mapRecords stop update table = table := by
  have same : (records stop table).map update = records stop table :=
    (List.map_congr_left keeps).trans (List.map_id _)
  rw [mapRecords, same]
  exact List.takeWhile_append_dropWhile

theorem mapRecords_congr {stop : Cell → Bool} {update update' : Cell → Cell} {table : List Cell}
    (same : ∀ value ∈ records stop table, update value = update' value) :
    mapRecords stop update table = mapRecords stop update' table := by
  rw [mapRecords, mapRecords, List.map_congr_left same]

/-- Two scans do what one does that makes both updates. -/
theorem mapRecords_mapRecords {stop : Cell → Bool} {first second : Cell → Cell}
    (keeps : ∀ value, stop (first value) = stop value) (table : List Cell) :
    mapRecords stop second (mapRecords stop first table) =
      mapRecords stop (fun value => second (first value)) table := by
  induction table with
  | nil => rfl
  | cons value table inductionHypothesis =>
    rw [mapRecords_cons, mapRecords_cons]
    by_cases ends : stop value = true
    · rw [if_pos ends, if_pos ends, mapRecords_cons, if_pos ends]
    · rw [if_neg ends, if_neg ends, mapRecords_cons, keeps, if_neg ends, inductionHypothesis]

/-- Updates that commute on the cells commute on the array. -/
theorem mapRecords_comm {stop : Cell → Bool} {first second : Cell → Cell} {table : List Cell}
    (keepsFirst : ∀ value, stop (first value) = stop value)
    (keepsSecond : ∀ value, stop (second value) = stop value)
    (commute : ∀ value ∈ records stop table, second (first value) = first (second value)) :
    mapRecords stop second (mapRecords stop first table) =
      mapRecords stop first (mapRecords stop second table) := by
  rw [mapRecords_mapRecords keepsFirst, mapRecords_mapRecords keepsSecond]
  exact mapRecords_congr commute

/-- Updates of the first cells found commute if neither changes what the other one looks for, and
they commute on a cell that both look for. -/
theorem updateFirst_comm {found found' : Cell → Bool} {update update' : Cell → Cell}
    (keeps : ∀ value, found' (update value) = found' value)
    (keeps' : ∀ value, found (update' value) = found value)
    (commute : ∀ value, found value = true → found' value = true →
      update' (update value) = update (update' value)) (table : List Cell) :
    updateFirst found' update' (updateFirst found update table) =
      updateFirst found update (updateFirst found' update' table) := by
  induction table with
  | nil => rfl
  | cons value table inductionHypothesis =>
    by_cases hit : found value = true <;> by_cases hit' : found' value = true
    · simp [updateFirst, hit, hit', keeps, keeps', commute]
    · simp [updateFirst, hit, hit', keeps]
    · simp [updateFirst, hit, hit', keeps']
    · simp [updateFirst, hit, hit', inductionHypothesis]

end Cells
