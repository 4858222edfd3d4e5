/-
This file settles when appended records are durable. A write-back prints one row more than the
old file has newlines, whatever the table holds. The shipped files do not end in a newline, and
there the count is the number of rows; every file that the server has written does, and there it
is one more. So an operation that keeps the number of rows needs a file of the first kind, and
one that appends a single row needs one of the second kind.

The count decides how many rows are printed, and `DbFile.Savable` which of them are read back.
The two conditions together are exact, for every text that loads.
-/

import OnlineStore.Rows
import OnlineStore.OrderAccounting
import OnlineStore.Requests

namespace OnlineStore

open CString Cells Prog

/-! ### Printing a table and reading it again -/

/-- The tables whose rows end in a number. -/
def DbFile.Numbered (file : DbFile) : Prop := file ≠ .CustomerInfo ∧ file ≠ .SellerInfo

section Numbered

variable {file : DbFile} (numbered : file.Numbered)

include numbered

theorem unseparated_of_inline {row : file.Row} (texts : file.Inline row) :
    file.Unseparated row := by
  intro chars member
  have inTexts : chars ∈ file.texts row := by
    cases file
    · exact absurd rfl numbered.1
    · exact absurd rfl numbered.2
    all_goals exact member
  exact ⟨(texts chars inTexts).1.commaFree, (texts chars inTexts).2⟩

theorem readBack_iff {row : file.Row} (texts : file.Inline row) :
    file.layout.readBack row = some row ↔ file.Savable row := by
  cases file
  · exact absurd rfl numbered.1
  · exact absurd rfl numbered.2
  · exact readBack_product_iff texts
  · exact readBack_billing_iff texts
  · exact readBack_customerOrder_iff texts

theorem key_ne_zero_of_savable {row : file.Row} (savable : file.Savable row) :
    file.key row ≠ 0 := by
  have positive : 0 < file.key row := by
    cases file
    · exact absurd rfl numbered.1
    · exact absurd rfl numbered.2
    all_goals exact savable.1
  exact fun zero => absurd (zero ▸ positive) (by decide)

/-- A table is read back as it is exactly if all its rows are printed and nothing else is. -/
theorem load_putBack_table_iff (old : Text) {table : List file.Row}
    (texts : ∀ row ∈ table, file.Inline row) :
    file.load (file.putBack old table) = some table ↔
      newlines old + 1 = table.length ∧ ∀ row ∈ table, file.Savable row := by
  rw [DbFile.load, DbFile.putBack, Layout.load_putBack_self_iff
    (fun row member => plain_of_unseparated (unseparated_of_inline numbered (texts row member)))
    (plain_default file) (readBack_default file)]
  exact and_congr_right fun _ => forall₂_congr fun row member =>
    readBack_iff numbered (texts row member)

/-- Rows stored after the last one are read back after the others exactly if the count is the
number of all rows and every row is printed as it is. -/
theorem load_putBack_putAll_iff (old : Text) (table new : List file.Row)
    (texts : ∀ row ∈ table ++ new, file.Inline row) :
    file.load (file.putBack old (putAll table (file.rows table).length new)) =
        some (table ++ new) ↔
      newlines old + 1 = table.length + new.length ∧ ∀ row ∈ table ++ new, file.Savable row := by
  have bound : (file.rows table).length ≤ table.length := length_records_le _ table
  by_cases whole : (file.rows table).length = table.length
  · rw [whole, putAll_length, load_putBack_table_iff numbered old texts, List.length_append]
  by_cases none : new = []
  · subst none
    rw [List.append_nil] at texts ⊢
    exact load_putBack_table_iff numbered old texts
  -- A zero id in the table has the new rows stored over old ones, and too few are printed.
  constructor
  · intro loaded
    have plain : ∀ row ∈ putAll table (file.rows table).length new, file.layout.Plain 200 row :=
      fun row member => plain_of_unseparated (unseparated_of_inline numbered
        (texts row (List.mem_append.mpr (mem_putAll bound member))))
    rw [DbFile.load, DbFile.putBack, Layout.load_putBack_iff plain (plain_default file)
      (readBack_default file)] at loaded
    obtain ⟨covered, each⟩ := loaded
    have lengths := each.length_eq
    have extent := length_putAll new bound
    have some := List.length_pos_of_ne_nil none
    rw [List.length_take, Nat.min_eq_left covered, List.length_append] at lengths
    omega
  · rintro ⟨-, savable⟩
    have same : file.rows table = table := rows_eq_self fun row member =>
      key_ne_zero_of_savable numbered (savable row (List.mem_append_left _ member))
    exact absurd (congrArg List.length same) whole

end Numbered

theorem numbered_product : DbFile.Numbered .ProductInfo := ⟨by decide, by decide⟩

theorem numbered_billing : DbFile.Numbered .BillingInfo := ⟨by decide, by decide⟩

theorem numbered_customerOrder : DbFile.Numbered .CustomerOrder := ⟨by decide, by decide⟩

/-! ### New products -/

/-- The row of a new product. -/
def newProductOf (rand : Rand) (now : Nat) (sellerID productName quantity price : Token 20) :
    CsvProductInfo where
  productId := uidAt rand now
  productName := productName.chars
  sellerId := sellerID.number
  quantity := quantity.number
  price := price.number

theorem uidAt_pos (rand : Rand) (now : Nat) : 0 < uidAt rand now := by
  rw [Int32.lt_iff_toInt_lt, uidAt, Int32.toInt_ofNat_of_lt (by omega), Int32.toInt_zero]
  omega

theorem Token.inline {size : Nat} (token : Token size) : Inline token.val :=
  ⟨token.isField, token.unbroken⟩

/-- A product that is added is read back with all the others exactly if the file has as many
newlines as rows and every row in it can be printed. -/
theorem newProduct_durable_iff {world : World Files} {products : List CsvProductInfo}
    (loaded : DbFile.load .ProductInfo (world.store .ProductInfo) = some products) (rand : Rand)
    (now : Nat) {sellerID productName quantity price : Token 20} (seller : 0 < sellerID.number)
    (amount : 0 < quantity.number) (cost : 0 < price.number) :
    (∃ final, serve diskBacking rand now
        (Request.newProduct sellerID productName quantity price).message world = some final ∧
      DbFile.load .ProductInfo (final.store .ProductInfo) =
        some (products ++ [newProductOf rand now sellerID productName quantity price])) ↔
      newlines (world.store .ProductInfo) = products.length ∧
        ∀ row ∈ products, DbFile.Savable .ProductInfo row := by
  have texts : ∀ row ∈ products ++ [newProductOf rand now sellerID productName quantity price],
      DbFile.Inline .ProductInfo row := by
    intro row member
    rcases List.mem_append.mp member with old | new
    · exact inline_of_mem_load loaded old
    · rw [List.mem_singleton.mp new]
      exact List.forall_mem_singleton.mpr productName.inline
  have savable : DbFile.Savable .ProductInfo
      (newProductOf rand now sellerID productName quantity price) :=
    ⟨uidAt_pos rand now, seller, amount, Int32.le_of_lt cost⟩
  have stored : stockedTable (uidAt rand now) sellerID.number productName.chars quantity.number
      price.number products = putAll products (DbFile.rows .ProductInfo products).length
        [newProductOf rand now sellerID productName quantity price] := rfl
  have printed := load_putBack_putAll_iff numbered_product (world.store .ProductInfo) _ _ texts
  rw [List.length_singleton, Nat.add_right_cancel_iff] at printed
  let tables : Tables := Function.update (fun _ => []) .ProductInfo products
  have same : tables .ProductInfo = products := Function.update_self ..
  rw [serve_of_run rand now (run_newProduct rand now tables (same ▸ loaded) _ _ _ _),
    Request.effect, same, stored]
  simp only [Option.some.injEq, exists_eq_left', World.reply_store, World.hand_store,
    diskBacking_store_self]
  rw [printed]
  refine and_congr_right fun _ => ⟨fun all row member => all row (List.mem_append_left _ member),
    fun old row member => ?_⟩
  rcases List.mem_append.mp member with before | new
  · exact old row before
  · rw [List.mem_singleton.mp new]
    exact savable

/-! ### Orders -/

/-- When an accepted order is durable: every file has as many newlines as its new table needs,
every row of the new tables can be printed, and the buyer's row ends within its line. -/
structure OrderPrintable (files : Files) (tables : Tables) (items : List ItemOrder)
    (buyerData : CsvClientInfo) : Prop where
  productCount : newlines (files .ProductInfo) + 1 = (tables .ProductInfo).length
  products : ∀ row ∈ sellAll items (tables .ProductInfo), DbFile.Savable .ProductInfo row
  billingCount : newlines (files .BillingInfo) = (tables .BillingInfo).length
  billing : ∀ row ∈ tables .BillingInfo, DbFile.Savable .BillingInfo row
  total : 0 ≤ orderCost items
  orderCount : newlines (files .CustomerOrder) + 1 = (tables .CustomerOrder).length + items.length
  orders : ∀ row ∈ tables .CustomerOrder, DbFile.Savable .CustomerOrder row
  prices : ∀ item ∈ items, 0 ≤ item.quantity * item.itemCostPerUnit
  zipCode : '\n' ∉ buyerData.zipCode.val

theorem inline_sellAll (items : List ItemOrder) {products : List CsvProductInfo}
    (texts : ∀ row ∈ products, DbFile.Inline .ProductInfo row) :
    ∀ row ∈ sellAll items products, DbFile.Inline .ProductInfo row := by
  intro row member
  obtain ⟨before, inTable, same⟩ := mem_sellAll member
  rw [same]
  exact texts before inTable

/-- The files after an accepted order. -/
theorem handOrder_store (world : World Files) (products : List CsvProductInfo)
    (billing : List CsvBillingInfo) (orders : List CsvCustomerOrderInfo) :
    (world.handOrder diskBacking products billing orders).store .ProductInfo =
        DbFile.putBack .ProductInfo (world.store .ProductInfo) products ∧
      (world.handOrder diskBacking products billing orders).store .BillingInfo =
        DbFile.putBack .BillingInfo (world.store .BillingInfo) billing ∧
      (world.handOrder diskBacking products billing orders).store .CustomerOrder =
        DbFile.putBack .CustomerOrder (world.store .CustomerOrder) orders := by
  refine ⟨?_, ?_, ?_⟩
  · rw [World.handOrder, World.reply_store, World.hand_store,
      diskBacking_store_of_ne _ _ (by decide), World.hand_store,
      diskBacking_store_of_ne _ _ (by decide), World.hand_store, diskBacking_store_self]
  · rw [World.handOrder, World.reply_store, World.hand_store,
      diskBacking_store_of_ne _ _ (by decide), World.hand_store, diskBacking_store_self,
      World.hand_store, diskBacking_store_of_ne _ _ (by decide)]
  · rw [World.handOrder, World.reply_store, World.hand_store, diskBacking_store_self,
      World.hand_store, diskBacking_store_of_ne _ _ (by decide), World.hand_store,
      diskBacking_store_of_ne _ _ (by decide)]

section Order

variable {world : World Files} {tables : Tables} {buyerData : CsvClientInfo}
variable {items : List ItemOrder} {uid : Int32}

theorem inline_billingRow (texts : DbFile.Inline .CustomerInfo buyerData)
    (zipCode : Inline buyerData.zipCode.val) :
    DbFile.Inline .BillingInfo (billingRow uid buyerData (orderCost items)) := by
  simp only [DbFile.Inline, DbFile.texts, List.forall_mem_cons] at texts ⊢
  simp [billingRow, texts, zipCode]

theorem inline_customerOrderRow (texts : DbFile.Inline .CustomerInfo buyerData)
    (zipCode : Inline buyerData.zipCode.val) (item : ItemOrder) :
    DbFile.Inline .CustomerOrder (customerOrderRow uid buyerData item) := by
  simp only [DbFile.Inline, DbFile.texts, List.forall_mem_cons] at texts ⊢
  simp [customerOrderRow, texts, zipCode]

/-- The three tables of an order are read back as a whole exactly if they can be printed. -/
theorem tables_durable_iff (loads : ∀ file, file ≠ .SellerInfo →
      file.load (world.store file) = some (tables file)) (uidPositive : 0 < uid)
    (buyer : buyerData ∈ tables .CustomerInfo) (buyerPositive : 0 < buyerData.uuid)
    (positive : ∀ item ∈ items, 0 < item.productID ∧ 0 < item.quantity) :
    (DbFile.load .ProductInfo (DbFile.putBack .ProductInfo (world.store .ProductInfo)
          (sellAll items (tables .ProductInfo))) = some (sellAll items (tables .ProductInfo)) ∧
        DbFile.load .BillingInfo (DbFile.putBack .BillingInfo (world.store .BillingInfo)
          (putAll (tables .BillingInfo) (DbFile.rows .BillingInfo (tables .BillingInfo)).length
            [billingRow uid buyerData (orderCost items)])) =
              some (tables .BillingInfo ++ [billingRow uid buyerData (orderCost items)]) ∧
        DbFile.load .CustomerOrder (DbFile.putBack .CustomerOrder (world.store .CustomerOrder)
          (putAll (tables .CustomerOrder)
            (DbFile.rows .CustomerOrder (tables .CustomerOrder)).length
              (items.map (customerOrderRow uid buyerData)))) =
                some (tables .CustomerOrder ++ items.map (customerOrderRow uid buyerData))) ↔
      OrderPrintable world.store tables items buyerData := by
  have products := load_putBack_table_iff numbered_product (world.store .ProductInfo)
    (inline_sellAll items fun row => inline_of_mem_load (loads .ProductInfo (by decide)))
  have extent : (sellAll items (tables .ProductInfo)).length = (tables .ProductInfo).length := by
    simpa using congrArg List.length (map_productId_sellAll items (tables .ProductInfo))
  rw [extent] at products
  by_cases unbroken : '\n' ∈ buyerData.zipCode.val
  · -- The newline in the buyer's last column would stand in the middle of the new bill.
    refine ⟨fun durable => ?_, fun printable => absurd unbroken printable.zipCode⟩
    have texts := inline_of_mem_load durable.2.1
      (List.mem_append_right _ (List.mem_singleton.mpr rfl))
    exact absurd unbroken (texts buyerData.zipCode (by simp [DbFile.texts, billingRow])).2
  · have own := inline_of_mem_load (loads .CustomerInfo (by decide)) buyer
    have zipCode : Inline buyerData.zipCode.val :=
      ⟨isField_zipCode_of_mem_load (loads .CustomerInfo (by decide)) buyer, unbroken⟩
    have bills := load_putBack_putAll_iff numbered_billing (world.store .BillingInfo)
      (tables .BillingInfo) [billingRow uid buyerData (orderCost items)]
      fun row member => (List.mem_append.mp member).elim
        (inline_of_mem_load (loads .BillingInfo (by decide))) fun new =>
          List.mem_singleton.mp new ▸ inline_billingRow own zipCode
    have orders := load_putBack_putAll_iff numbered_customerOrder (world.store .CustomerOrder)
      (tables .CustomerOrder) (items.map (customerOrderRow uid buyerData))
      fun row member => (List.mem_append.mp member).elim
        (inline_of_mem_load (loads .CustomerOrder (by decide))) fun new => by
          obtain ⟨item, -, rfl⟩ := List.mem_map.mp new
          exact inline_customerOrderRow own zipCode item
    rw [products, bills, orders, List.length_singleton, List.length_map, Nat.add_right_cancel_iff]
    constructor
    · rintro ⟨⟨productCount, sold⟩, ⟨billingCount, billed⟩, orderCount, ordered⟩
      refine ⟨productCount, sold, billingCount, fun row member => billed row
        (List.mem_append_left _ member), ?_, orderCount, fun row member => ordered row
          (List.mem_append_left _ member), fun item member => ?_, unbroken⟩
      · exact (billed _ (List.mem_append_right _ (List.mem_singleton.mpr rfl))).2.2
      · exact (ordered _ (List.mem_append_right _ (List.mem_map_of_mem member))).2.2.2
    · rintro ⟨productCount, sold, billingCount, billed, total, orderCount, ordered, prices, -⟩
      refine ⟨⟨productCount, sold⟩, ⟨billingCount, fun row member => ?_⟩, orderCount,
        fun row member => ?_⟩
      · rcases List.mem_append.mp member with old | new
        · exact billed row old
        · rw [List.mem_singleton.mp new]
          exact ⟨uidPositive, buyerPositive, total⟩
      · rcases List.mem_append.mp member with old | new
        · exact ordered row old
        · obtain ⟨item, inItems, rfl⟩ := List.mem_map.mp new
          exact ⟨uidPositive, (positive item inItems).1, (positive item inItems).2,
            prices item inItems⟩

end Order

/-- What an accepted order hands over. -/
theorem serve_accepted {world : World Files} {tables : Tables}
    (loads : ∀ file, file ≠ .SellerInfo → file.load (world.store file) = some (tables file))
    (rand : Rand) (now : Nat) {buyerID : Token 20} {lines : List OrderLine}
    {buyerData : CsvClientInfo}
    (existing : (tables .CustomerInfo).find? (fun row => row.uuid == buyerID.number) =
      some buyerData)
    (accepted : validateBuyerOrder (orderItems lines) (tables .ProductInfo) = true) :
    serve diskBacking rand now (Request.completeOrder buyerID lines).message world =
      some (world.handOrder diskBacking (sellAll (orderItems lines) (tables .ProductInfo))
        (billedTable (uidAt rand now) buyerData (orderItems lines) (tables .BillingInfo))
        (orderedTable (uidAt rand now) buyerData (orderItems lines) (tables .CustomerOrder))) := by
  obtain ⟨row, located, data⟩ := findBuyerInClientInfo_of_find? existing
  have listed := allListed_of_accepted
    (fun line inLines => productID_ne_zero_of_mem_orderItems inLines) accepted
  rw [serve_of_run rand now (run_completeOrder rand now loads buyerID lines), Request.effect,
    World.order, accepted, if_pos rfl, located, deductOrder_of_allListed listed,
    Option.bind_some, Option.map_some, data]

/-- An accepted order is durable exactly if its tables can be printed. -/
theorem completeOrder_durable_iff {world : World Files} {tables : Tables}
    (loads : ∀ file, file ≠ .SellerInfo → file.load (world.store file) = some (tables file))
    (rand : Rand) (now : Nat) {buyerID : Token 20}
    {lines : List OrderLine} {buyerData : CsvClientInfo} (buyerPositive : 0 < buyerID.number)
    (positive : ∀ line ∈ lines, 0 < line.productID.number ∧ 0 < line.quantity.number)
    (existing : (tables .CustomerInfo).find? (fun row => row.uuid == buyerID.number) =
      some buyerData)
    (accepted : validateBuyerOrder (orderItems lines) (tables .ProductInfo) = true) :
    (∃ final, serve diskBacking rand now (Request.completeOrder buyerID lines).message world =
        some final ∧
      DbFile.load .ProductInfo (final.store .ProductInfo) =
        some (sellAll (orderItems lines) (tables .ProductInfo)) ∧
      DbFile.load .BillingInfo (final.store .BillingInfo) = some (tables .BillingInfo ++
        [billingRow (uidAt rand now) buyerData (orderCost (orderItems lines))]) ∧
      DbFile.load .CustomerOrder (final.store .CustomerOrder) = some (tables .CustomerOrder ++
        (orderItems lines).map (customerOrderRow (uidAt rand now) buyerData))) ↔
      OrderPrintable world.store tables (orderItems lines) buyerData := by
  have uuid : buyerData.uuid = buyerID.number := by simpa using List.find?_some existing
  have items : ∀ item ∈ orderItems lines, 0 < item.productID ∧ 0 < item.quantity := by
    intro item member
    obtain ⟨line, inLines, rfl⟩ := List.mem_map.mp (mem_of_mem_records member)
    exact positive line inLines
  rw [← tables_durable_iff loads (uidAt_pos rand now) (List.mem_of_find?_eq_some existing)
    (uuid ▸ buyerPositive) items]
  have stored := handOrder_store world (sellAll (orderItems lines) (tables .ProductInfo))
    (billedTable (uidAt rand now) buyerData (orderItems lines) (tables .BillingInfo))
    (orderedTable (uidAt rand now) buyerData (orderItems lines) (tables .CustomerOrder))
  rw [serve_accepted loads rand now existing accepted]
  simp only [Option.some.injEq, exists_eq_left', stored]
  rw [orderedTable, orderRows_orderItems]
  rfl

/-! ### The exact condition -/

/-- Appended records are durable exactly if the files are printed as a whole: a new product in
a file with as many newlines as rows, an accepted order in files that fit it. -/
theorem appended_durable_iff (world : World Files) (rand : Rand) (now : Nat) :
    (∀ products, DbFile.load .ProductInfo (world.store .ProductInfo) = some products →
      ∀ sellerID productName quantity price : Token 20,
      0 < sellerID.number → 0 < quantity.number → 0 < price.number →
      ((∃ final, serve diskBacking rand now
          (Request.newProduct sellerID productName quantity price).message world = some final ∧
        DbFile.load .ProductInfo (final.store .ProductInfo) =
          some (products ++ [newProductOf rand now sellerID productName quantity price])) ↔
        newlines (world.store .ProductInfo) = products.length ∧
          ∀ row ∈ products, DbFile.Savable .ProductInfo row)) ∧
    ∀ tables : Tables,
      (∀ file, file ≠ .SellerInfo → file.load (world.store file) = some (tables file)) →
      ∀ (buyerID : Token 20) (lines : List OrderLine) (buyerData : CsvClientInfo),
      0 < buyerID.number →
      (∀ line ∈ lines, 0 < line.productID.number ∧ 0 < line.quantity.number) →
      (tables .CustomerInfo).find? (fun row => row.uuid == buyerID.number) = some buyerData →
      validateBuyerOrder (orderItems lines) (tables .ProductInfo) = true →
      ((∃ final, serve diskBacking rand now (Request.completeOrder buyerID lines).message world =
          some final ∧
        DbFile.load .ProductInfo (final.store .ProductInfo) =
          some (sellAll (orderItems lines) (tables .ProductInfo)) ∧
        DbFile.load .BillingInfo (final.store .BillingInfo) = some (tables .BillingInfo ++
          [billingRow (uidAt rand now) buyerData (orderCost (orderItems lines))]) ∧
        DbFile.load .CustomerOrder (final.store .CustomerOrder) = some (tables .CustomerOrder ++
          (orderItems lines).map (customerOrderRow (uidAt rand now) buyerData))) ↔
        OrderPrintable world.store tables (orderItems lines) buyerData) := by
  constructor
  · intro products loaded sellerID productName quantity price seller amount cost
    exact newProduct_durable_iff loaded rand now seller amount cost
  · intro tables loads buyerID lines buyerData buyerPositive positive existing accepted
    exact completeOrder_durable_iff loads rand now buyerPositive positive existing accepted

/-- The shipped files after the rows of some of them have been written back. -/
def rewritten (files : List DbFile) : World Files :=
  ⟨fun file => if file ∈ files then shippedFile file ++ ['\n'] else shippedFile file, [], [], []⟩

theorem rewritten_store_of_mem {files : List DbFile} {file : DbFile} (written : file ∈ files) :
    (rewritten files).store file = shippedFile file ++ ['\n'] :=
  if_pos written

theorem rewritten_store_of_not_mem {files : List DbFile} {file : DbFile}
    (unwritten : file ∉ files) : (rewritten files).store file = shippedFile file :=
  if_neg unwritten

theorem newlines_rewritten_of_mem {files : List DbFile} {file : DbFile} (written : file ∈ files) :
    newlines ((rewritten files).store file) = (shippedTables file).length := by
  rw [rewritten_store_of_mem written, newlines, List.count_append, List.count_singleton_self]
  exact newlines_shippedFile file

theorem loads_rewritten (files : List DbFile) :
    Loads diskBacking (rewritten files) shippedTables := by
  intro file
  change file.load ((rewritten files).store file) = some (shippedTables file)
  by_cases written : file ∈ files
  · rw [rewritten_store_of_mem written]
    cases file <;>
      simp only [shippedFile, shippedLines, shippedTables, field, List.map_cons, List.map_nil] <;>
      repeat rw [String.toList_ofList]
    all_goals decide
  · rw [rewritten_store_of_not_mem written]
    exact load_shippedFile file

/-- Five pens that Bob Boberson offers. -/
def offeredPens : Request :=
  .newProduct ⟨"1000".toList, by decide⟩ ⟨"pen".toList, by decide⟩ ⟨"5".toList, by decide⟩
    ⟨"3".toList, by decide⟩

/-- Twenty pens that Peter Parker orders. -/
def orderedPens : OrderLine :=
  ⟨⟨"2004".toList, by decide⟩, ⟨"20".toList, by decide⟩, ⟨"3".toList, by decide⟩⟩

/-- A new product is durable once ProductInfo has been written back, and an order of one line
once the two other files have been and ProductInfo has not. -/
theorem appended_durable_iff_rewritten :
    (∃ final, serve diskBacking (fun _ => 0) 0 offeredPens.message (rewritten [.ProductInfo]) =
        some final ∧
      DbFile.load .ProductInfo (final.store .ProductInfo) =
        some (shippedTables .ProductInfo ++ [newProductOf (fun _ => 0) 0
          ⟨"1000".toList, by decide⟩ ⟨"pen".toList, by decide⟩ ⟨"5".toList, by decide⟩
          ⟨"3".toList, by decide⟩])) ∧
    ∃ final, serve diskBacking (fun _ => 0) 0
          (Request.completeOrder ⟨"1002".toList, by decide⟩ [orderedPens]).message
          (rewritten [.BillingInfo, .CustomerOrder]) = some final ∧
      DbFile.load .ProductInfo (final.store .ProductInfo) =
        some (sellAll (orderItems [orderedPens]) (shippedTables .ProductInfo)) ∧
      DbFile.load .BillingInfo (final.store .BillingInfo) = some (shippedTables .BillingInfo ++
        [billingRow (uidAt (fun _ => 0) 0) (cell (shippedTables .CustomerInfo) 2)
          (orderCost (orderItems [orderedPens]))]) ∧
      DbFile.load .CustomerOrder (final.store .CustomerOrder) = some
        (shippedTables .CustomerOrder ++ (orderItems [orderedPens]).map
          (customerOrderRow (uidAt (fun _ => 0) 0) (cell (shippedTables .CustomerInfo) 2))) := by
  constructor
  · refine ((appended_durable_iff (rewritten [.ProductInfo]) (fun _ => 0) 0).1 _
      (loads_rewritten [.ProductInfo] .ProductInfo) _ _ _ _ ?_ ?_ ?_).mpr
      ⟨newlines_rewritten_of_mem (by decide), ?_⟩ <;> decide
  · refine ((appended_durable_iff (rewritten [.BillingInfo, .CustomerOrder]) (fun _ => 0) 0).2
      shippedTables (fun file _ => loads_rewritten [.BillingInfo, .CustomerOrder] file)
      ⟨"1002".toList, by decide⟩ [orderedPens] _ ?_ ?_ ?_ ?_).mpr
      ⟨?_, ?_, newlines_rewritten_of_mem (by decide), ?_, ?_, ?_, ?_, ?_, ?_⟩
    case refine_5 =>
      rw [rewritten_store_of_not_mem (by decide)]
      exact newlines_shippedFile .ProductInfo
    case refine_9 =>
      rw [newlines_rewritten_of_mem (by decide)]
      decide
    all_goals decide

/-- On the shipped files the new product is lost. -/
theorem offeredPens_not_durable :
    ¬∃ final, serve diskBacking (fun _ => 0) 0 offeredPens.message shippedWorld = some final ∧
      DbFile.load .ProductInfo (final.store .ProductInfo) =
        some (shippedTables .ProductInfo ++ [newProductOf (fun _ => 0) 0
          ⟨"1000".toList, by decide⟩ ⟨"pen".toList, by decide⟩ ⟨"5".toList, by decide⟩
          ⟨"3".toList, by decide⟩]) := by
  intro durable
  have printed := (newProduct_durable_iff (loads_shippedWorld .ProductInfo) (fun _ => 0) 0
    (by decide) (by decide) (by decide)).mp durable
  have ended : newlines (shippedFile .ProductInfo) = (shippedTables .ProductInfo).length := printed.1
  have unended := newlines_shippedFile .ProductInfo
  omega

end OnlineStore
