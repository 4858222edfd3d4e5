/-
This file settles what the loaders make of a file. On well-formed rows they are the inverses of
the write-back functions.

A loader and the order decoder fill an array from its first cell on and write nothing behind the
last record, so what the array held before is still there. The scans end at a zero id, and leave
the array where there is none. What they see depends on the leftovers, unless the file has a
record with a zero id.
-/

import OnlineStore.Loadability

namespace OnlineStore

open CString Cells Prog

/-! ### The round trip -/

/-- The numbers of the row are positive, and its texts are non-empty and free of separators. That
they have at most 19 characters is in their type. -/
structure DbFile.WellFormed (file : DbFile) (row : file.Row) : Prop where
  positive : ∀ number ∈ file.numbers row, 0 < number
  nonempty : ∀ chars ∈ file.columns row, chars.val ≠ []
  unseparated : file.Unseparated row

section RoundTrip

variable {file : DbFile} {row : file.Row}

theorem DbFile.WellFormed.filled (wellFormed : file.WellFormed row) : file.Filled row :=
  (filled_iff fun chars member => ⟨⟨wellFormed.nonempty chars member,
    (wellFormed.unseparated chars member).1⟩, (wellFormed.unseparated chars member).2⟩).mpr
      fun number member => ((printed_iff number).mpr (wellFormed.positive number member)).1

/-- Positive numbers are read as they are. -/
theorem DbFile.WellFormed.reread_eq (wellFormed : file.WellFormed row) :
    file.reread row = row := by
  have same : ∀ number ∈ file.numbers row, atoi (intToCharArray number) = number :=
    fun number member => ((printed_iff number).mpr (wellFormed.positive number member)).2
  cases file <;> simp only [DbFile.numbers, List.forall_mem_cons] at same <;>
    simp only [DbFile.reread, same]

/-- Loading what the write-back loop prints for well-formed rows gives these rows back, and no
row is split over two buffers. -/
theorem load_putBack_wellFormed (file : DbFile) (rows : List file.Row)
    (wellFormed : ∀ row ∈ rows, file.WellFormed row) :
    file.load (file.layout.putBack rows.length rows) = some rows ∧
      fgets 200 (file.layout.putBack rows.length rows) = rows.map file.layout.line := by
  have plain : ∀ row ∈ rows, file.layout.Plain 200 row := fun row member =>
    plain_of_unseparated (wellFormed row member).unseparated
  rw [Layout.putBack_of_le (Nat.le_refl _), List.take_length]
  refine ⟨?_, Layout.fgets_text plain⟩
  rw [DbFile.load, Layout.load_text_iff plain, List.forall₂_same]
  intro row member
  rw [readBack_of_filled (wellFormed row member).filled, (wellFormed row member).reread_eq]

end RoundTrip

theorem load_putBack_wellFormed_shipped :
    DbFile.load .ProductInfo (productLayout.putBack 8 (shippedTables .ProductInfo)) =
        some (shippedTables .ProductInfo) ∧
      fgets 200 (productLayout.putBack 8 (shippedTables .ProductInfo)) =
        (shippedTables .ProductInfo).map productLayout.line := by
  have positive : ∀ row ∈ shippedTables .ProductInfo,
      (DbFile.numbers .ProductInfo row).all (0 < ·) = true := by
    decide
  have texts : ∀ row ∈ shippedTables .ProductInfo, (DbFile.columns .ProductInfo row).all
      (fun chars => chars.val ≠ [] ∧ ',' ∉ chars.val ∧ '\n' ∉ chars.val) = true := by
    decide
  refine load_putBack_wellFormed .ProductInfo (shippedTables .ProductInfo) fun row member => ?_
  have own : ∀ chars ∈ DbFile.columns .ProductInfo row,
      chars.val ≠ [] ∧ ',' ∉ chars.val ∧ '\n' ∉ chars.val := fun chars inRow =>
    of_decide_eq_true (List.all_eq_true.mp (texts row member) chars inRow)
  exact ⟨fun number inRow => of_decide_eq_true
    (List.all_eq_true.mp (positive row member) number inRow),
    fun chars inRow => (own chars inRow).1, fun chars inRow => (own chars inRow).2⟩

/-! ### Leftovers -/

/-- The cells of a table array. -/
def maxRowsInDB : Nat := 3000

/-- The cells of the order list. -/
def maxOrderLines : Nat := 100

/-- `table[row] = record`, which has no result outside the array. -/
def storeAt {Record : Type} (table : List Record) (row : Nat) (record : Record) :
    Option (List Record) :=
  if row < table.length then some (table.set row record) else none

/-- The loop of a loader on an array that holds something already. Every field of a row is
assigned, so the row is replaced. -/
def fillLines {Record : Type} (layout : Layout Record) :
    List Text → Nat → List Record → Option (List Record)
  | [], _, table => some table
  | line :: lines, rowCount, table =>
    match tokens line with
    | [] => fillLines layout lines rowCount table
    | token :: rest => do
      let record ← layout.read (token :: rest)
      let table ← storeAt table rowCount record
      fillLines layout lines (rowCount + 1) table

/-- The array after a loader has run. -/
def DbFile.loadInto (file : DbFile) (text : Text) (table : Vector file.Row maxRowsInDB) :
    Option (List file.Row) :=
  fillLines file.layout (fgets 200 text) 0 table.toList

/-- The loop of `extractBuyerOrder` on an order list that holds something already. -/
def fillOrder : List Text → Nat → List ItemOrder → Option (List ItemOrder)
  | [], _, _ => none
  | productID :: rest, rowOrder, orderList =>
    if atoi productID = 0 then some orderList else
    match rest with
    | quantity :: itemCostPerUnit :: rest => do
      let orderList ← storeAt orderList rowOrder
        ⟨atoi productID, atoi quantity, atoi itemCostPerUnit⟩
      fillOrder rest (rowOrder + 1) orderList
    | _ => none

/-- The order list after `extractBuyerOrder` has run. -/
def extractBuyerOrderInto (buffer : Text) (orderList : Vector ItemOrder maxOrderLines) :
    Option (List ItemOrder) :=
  fillOrder (tokens buffer) 0 orderList.toList

/-- What a scan sees: the records before the first one that ends it. There is no result where none
does, as the scan leaves the array. -/
def scan {Record : Type} (stop : Record → Bool) (table : List Record) : Option (List Record) :=
  if ∃ row ∈ table, stop row = true then some (records stop table) else none

/-- The rows that are seen after loading a file. -/
def DbFile.seen (file : DbFile) (text : Text) (table : Vector file.Row maxRowsInDB) :
    Option (List file.Row) :=
  (file.loadInto text table).bind (scan file.isEnd)

/-- The lines that are seen after decoding an order. -/
def orderSeen (buffer : Text) (orderList : Vector ItemOrder maxOrderLines) :
    Option (List ItemOrder) :=
  (extractBuyerOrderInto buffer orderList).bind (scan fun item => item.productID == 0)

/-- Both have a result, and it is the same. -/
def Agree {Result : Type} (first second : Option Result) : Prop :=
  ∃ result, first = some result ∧ second = some result

/-- An array whose cells from a row on are overwritten by some records, if they fit. -/
def overwrite {Record : Type} (row : Nat) (table records : List Record) : Option (List Record) :=
  if row + records.length ≤ table.length then
    some (table.take row ++ records ++ table.drop (row + records.length))
  else none

section Leftovers

variable {Record : Type} {table : List Record}

theorem overwrite_nil {row : Nat} (inside : row ≤ table.length) :
    overwrite row table [] = some table := by
  rw [overwrite, List.length_nil, Nat.add_zero, if_pos inside, List.append_nil,
    List.take_append_drop]

/-- Storing one record and then the others. -/
theorem storeAt_bind_overwrite {row : Nat} (record : Record) (records : List Record)
    (inside : row ≤ table.length) :
    ((storeAt table row record).bind fun table => overwrite (row + 1) table records) =
      overwrite row table (record :: records) := by
  rw [storeAt]
  by_cases room : row < table.length
  · have stored : (table.set row record).take (row + 1) = table.take row ++ [record] := by
      rw [List.take_set, List.take_succ_eq_append_getElem room, List.set_append]
      simp [Nat.min_eq_left inside]
    have later : (table.set row record).drop (row + 1 + records.length) =
        table.drop (row + (record :: records).length) := by
      rw [List.drop_set_of_lt (by omega), List.length_cons]
      congr 1
      omega
    rw [if_pos room, Option.bind_some, overwrite, overwrite, List.length_set, stored, later,
      List.length_cons]
    have count : row + 1 + records.length = row + (records.length + 1) := by omega
    rw [count, List.append_assoc, List.append_assoc, List.append_assoc, List.singleton_append]
    rfl
  · rw [if_neg room, Option.bind_none, overwrite, if_neg]
    rw [List.length_cons]
    omega

theorem length_of_storeAt {row : Nat} {record : Record} {stored : List Record}
    (stores : storeAt table row record = some stored) :
    row < table.length ∧ stored.length = table.length := by
  rw [storeAt] at stores
  split at stores
  · rename_i room
    obtain rfl := Option.some.inj stores
    exact ⟨room, List.length_set⟩
  · cases stores

/-- What a loader leaves in the array: the records of the file, and behind them what was there. -/
theorem fillLines_eq (layout : Layout Record) (lines : List Text) {row : Nat}
    (inside : row ≤ table.length) :
    fillLines layout lines row table = (layout.readLines lines).bind (overwrite row table) := by
  induction lines generalizing row table with
  | nil => exact (overwrite_nil inside).symm
  | cons line lines inductionHypothesis =>
    rw [fillLines, Layout.readLines]
    cases tokens line with
    | nil => exact inductionHypothesis inside
    | cons token rest =>
      dsimp only
      cases layout.read (token :: rest) with
      | none => rfl
      | some record =>
        -- The first record is stored before the others are read, which may fail.
        have step : ((storeAt table row record).bind fun table =>
            fillLines layout lines (row + 1) table) =
            (storeAt table row record).bind fun table =>
              (layout.readLines lines).bind (overwrite (row + 1) table) := by
          refine Option.bind_congr fun stored stores => ?_
          obtain ⟨room, extent⟩ := length_of_storeAt stores
          exact inductionHypothesis (by omega)
        refine step.trans ?_
        cases later : layout.readLines lines with
        | none => cases storeAt table row record <;> rfl
        | some records =>
          have stored := storeAt_bind_overwrite record records inside
          simpa [later] using stored

/-- What the order decoder leaves in the order list. -/
theorem fillOrder_eq (texts : List Text) {row : Nat} {orderList : List ItemOrder}
    (inside : row ≤ orderList.length) :
    fillOrder texts row orderList = (extractOrderLines texts).bind (overwrite row orderList) := by
  fun_induction extractOrderLines texts generalizing row orderList with
  | case1 => rfl
  | case2 productID rest zero =>
    rw [fillOrder.eq_def]
    simp only [if_pos zero, Option.bind_some, overwrite_nil inside]
  | case3 productID nonzero quantity itemCostPerUnit rest inductionHypothesis =>
    rw [fillOrder, if_neg nonzero]
    have step : ((storeAt orderList row ⟨atoi productID, atoi quantity, atoi itemCostPerUnit⟩).bind
        fun orderList => fillOrder rest (row + 1) orderList) =
        (storeAt orderList row ⟨atoi productID, atoi quantity, atoi itemCostPerUnit⟩).bind
          fun orderList => (extractOrderLines rest).bind (overwrite (row + 1) orderList) := by
      refine Option.bind_congr fun stored stores => ?_
      obtain ⟨room, extent⟩ := length_of_storeAt stores
      exact inductionHypothesis (by omega)
    refine step.trans ?_
    cases later : extractOrderLines rest with
    | none => cases storeAt orderList row _ <;> rfl
    | some items =>
      have stored := storeAt_bind_overwrite
        ⟨atoi productID, atoi quantity, atoi itemCostPerUnit⟩ items inside
      simpa [later] using stored
  | case4 productID rest nonzero short =>
    rw [fillOrder, if_neg nonzero]
    · rfl
    · exact short

/-- A scan goes on behind the records of the file only if none of them ends it. -/
theorem scan_append (stop : Record → Bool) (rows rest : List Record) :
    scan stop (rows ++ rest) =
      if ∃ row ∈ rows, stop row = true then some (records stop rows)
      else (scan stop rest).map (rows ++ ·) := by
  induction rows with
  | nil => simp
  | cons row rows inductionHypothesis =>
    cases first : stop row with
    | true => simp [scan, records, first]
    | false =>
      have step (values : List Record) :
          scan stop (row :: values) = (scan stop values).map (row :: ·) := by
        by_cases ends : ∃ value ∈ values, stop value = true <;> simp [scan, records, first, ends]
      rw [List.cons_append, step, inductionHypothesis]
      by_cases ends : ∃ value ∈ rows, stop value = true
      · simp [ends, records, first]
      · simp [ends, first, Function.comp_def]

/-- What a scan sees after the records were stored. -/
theorem scan_overwrite (stop : Record → Bool) (rows : List Record) {size : Nat}
    (table : Vector Record size) :
    (overwrite 0 table.toList rows).bind (scan stop) =
      if rows.length ≤ size then scan stop (rows ++ table.toList.drop rows.length) else none := by
  rw [overwrite, Vector.length_toList, Nat.zero_add, List.take_zero, List.nil_append]
  split <;> rfl

/-- The scans over two arrays in which the records were stored end and see the same if and only if
there are records, they fit, and one of them ends the scan or the scans behind them end and see
the same. -/
theorem agree_scan_iff (stop : Record → Bool) (read : Option (List Record)) {size : Nat}
    (first second : Vector Record size) :
    Agree ((read.bind (overwrite 0 first.toList)).bind (scan stop))
        ((read.bind (overwrite 0 second.toList)).bind (scan stop)) ↔
      ∃ rows, read = some rows ∧ rows.length ≤ size ∧ ((∃ row ∈ rows, stop row = true) ∨
        Agree (scan stop (first.toList.drop rows.length))
          (scan stop (second.toList.drop rows.length))) := by
  cases read with
  | none => simp [Agree]
  | some rows =>
    rw [Option.bind_some, Option.bind_some, scan_overwrite, scan_overwrite]
    simp only [Option.some.injEq, exists_eq_left']
    by_cases fits : rows.length ≤ size
    · rw [if_pos fits, if_pos fits, and_iff_right fits, scan_append, scan_append]
      by_cases ends : ∃ row ∈ rows, stop row = true
      · rw [if_pos ends, if_pos ends]
        exact iff_of_true ⟨_, rfl, rfl⟩ (.inl ends)
      · rw [if_neg ends, if_neg ends, or_iff_right ends]
        constructor
        · rintro ⟨result, one, other⟩
          obtain ⟨behind, seen, rfl⟩ := Option.map_eq_some_iff.mp one
          obtain ⟨others, shown, same⟩ := Option.map_eq_some_iff.mp other
          exact ⟨behind, seen, List.append_cancel_left same ▸ shown⟩
        · rintro ⟨behind, one, other⟩
          exact ⟨rows ++ behind, by rw [one, Option.map_some], by rw [other, Option.map_some]⟩
    · rw [if_neg fits, if_neg fits]
      refine iff_of_false ?_ fun both => fits both.1
      rintro ⟨result, one, -⟩
      cases one

end Leftovers

/-- Loading a file over two arrays ends and shows the same rows if and only if the file loads and
fits, and has a row with a zero id or the leftovers behind its last row end and are the same up to
the first zero id. Likewise for the lines of an order. -/
theorem visible_eq_iff (file : DbFile) (text : Text) (first second : Vector file.Row maxRowsInDB)
    (buffer : Text) (firstLines secondLines : Vector ItemOrder maxOrderLines) :
    (Agree (file.seen text first) (file.seen text second) ↔
      ∃ rows, file.load text = some rows ∧ rows.length ≤ maxRowsInDB ∧
        ((∃ row ∈ rows, file.isEnd row = true) ∨
          Agree (scan file.isEnd (first.toList.drop rows.length))
            (scan file.isEnd (second.toList.drop rows.length)))) ∧
    (Agree (orderSeen buffer firstLines) (orderSeen buffer secondLines) ↔
      ∃ lines, extractBuyerOrder buffer = some lines ∧ lines.length ≤ maxOrderLines ∧
        Agree (scan (fun item => item.productID == 0) (firstLines.toList.drop lines.length))
          (scan (fun item => item.productID == 0) (secondLines.toList.drop lines.length))) := by
  constructor
  · rw [DbFile.seen, DbFile.seen, DbFile.loadInto, DbFile.loadInto,
      fillLines_eq _ _ (Nat.zero_le _), fillLines_eq _ _ (Nat.zero_le _)]
    exact agree_scan_iff file.isEnd (file.load text) first second
  · rw [orderSeen, orderSeen, extractBuyerOrderInto, extractBuyerOrderInto,
      fillOrder_eq _ (Nat.zero_le _), fillOrder_eq _ (Nat.zero_le _)]
    refine (agree_scan_iff (fun item => item.productID == 0) (extractBuyerOrder buffer)
      firstLines secondLines).trans ?_
    refine exists_congr fun lines => and_congr_right fun decoded =>
      and_congr_right fun _ => or_iff_right ?_
    rintro ⟨line, member, zero⟩
    exact productID_ne_zero_of_extractOrderLines decoded line member (by simpa using zero)

/-- A product that an earlier request left in the array. -/
def stale : CsvProductInfo := { (default : CsvProductInfo) with productId := 4000, quantity := 6 }

/-- An array of zeroed cells. -/
def zeroed : Vector CsvProductInfo maxRowsInDB := Vector.replicate _ default

/-- An array in which nine products were loaded before one of them was deleted. -/
def leftover : Vector CsvProductInfo maxRowsInDB := zeroed.set 8 stale (by decide)

theorem scan_zeroes (count : Nat) (room : 0 < count) :
    scan (DbFile.isEnd .ProductInfo) (List.replicate count default) = some [] := by
  obtain ⟨others, rfl⟩ := Nat.exists_eq_succ_of_ne_zero (Nat.ne_of_gt room)
  have blank : DbFile.isEnd .ProductInfo default = true := by decide
  simp [scan, records, List.replicate_succ, blank]

theorem seen_shippedProducts (table : Vector CsvProductInfo maxRowsInDB) :
    DbFile.seen .ProductInfo (shippedFile .ProductInfo) table =
      (scan (DbFile.isEnd .ProductInfo) (table.toList.drop 8)).map
        (shippedTables .ProductInfo ++ ·) := by
  have loaded : productLayout.readLines (fgets 200 (shippedFile .ProductInfo)) =
      some (shippedTables .ProductInfo) := load_shippedFile .ProductInfo
  have unended : ¬∃ row ∈ shippedTables .ProductInfo, DbFile.isEnd .ProductInfo row = true := by
    decide
  have layout : DbFile.layout .ProductInfo = productLayout := rfl
  rw [DbFile.seen, DbFile.loadInto, fillLines_eq _ _ (Nat.zero_le _), layout, loaded,
    Option.bind_some, scan_overwrite, if_pos (by decide), scan_append, if_neg unended]
  rfl

/-- After loading the eight shipped products, a leftover shows up as a ninth. -/
theorem staleProduct_visible :
    DbFile.seen .ProductInfo (shippedFile .ProductInfo) zeroed =
        some (shippedTables .ProductInfo) ∧
      DbFile.seen .ProductInfo (shippedFile .ProductInfo) leftover =
        some (shippedTables .ProductInfo ++ [stale]) ∧
      ¬Agree (DbFile.seen .ProductInfo (shippedFile .ProductInfo) zeroed)
        (DbFile.seen .ProductInfo (shippedFile .ProductInfo) leftover) := by
  have eight : DbFile.seen .ProductInfo (shippedFile .ProductInfo) zeroed =
      some (shippedTables .ProductInfo) := by
    rw [seen_shippedProducts, zeroed, Vector.toList_replicate, List.drop_replicate,
      scan_zeroes _ (by decide), Option.map_some, List.append_nil]
  have nine : DbFile.seen .ProductInfo (shippedFile .ProductInfo) leftover =
      some (shippedTables .ProductInfo ++ [stale]) := by
    have behind : leftover.toList.drop 8 = [stale] ++ List.replicate 2991 default := by
      rw [leftover, Vector.toList_set, zeroed, Vector.toList_replicate, List.drop_set]
      rfl
    have shown : ¬∃ row ∈ [stale], DbFile.isEnd .ProductInfo row = true := by decide
    rw [seen_shippedProducts, behind, scan_append, if_neg shown, scan_zeroes _ (by decide)]
    rfl
  refine ⟨eight, nine, ?_⟩
  rintro ⟨result, one, other⟩
  have same := Option.some.inj (nine.symm.trans (other.trans (one.symm.trans eight)))
  exact List.cons_ne_nil stale [] (List.append_right_eq_self.mp same)

end OnlineStore
