/-
This file runs the server within its arrays.

The handlers are modelled with arrays that are as long as needed. In the source a table has room
for 3000 rows, an order list for 100 lines and the details of an order for 200 rows, the new
content of a file is collected in 1000 characters and a reply in 10240. None of these sizes is
tested, so here a call that overruns an array has no answer, and neither has a request that makes
it. `serveWithin_eq_some_iff` says which requests are served all the same: those that `Fits` says
the arrays hold, read off the request and the tables that it loads.
-/

import OnlineStore.Capacity
import OnlineStore.Replies

namespace OnlineStore

open CString Cells Prog

/-! ### Arrays -/

/-- What can be printed into a file: the array that the new content is collected in holds it. -/
structure Printer {Store : Type} (backing : Backing Store) where
  prints : Store → (file : DbFile) → List file.Row → Bool
  prints_store_of_ne : ∀ state (file other : DbFile) table table', other ≠ file →
    prints (backing.store state file table) other table' = prints state other table'

def diskPrinter : Printer diskBacking where
  prints files file table := (Collector.writeBack file (files file) table).collect.isSome
  prints_store_of_ne files file other table table' different := by
    rw [diskBacking_store_of_ne files table different]

/-- The rows that a write-back prints are narrow enough for its array. -/
def narrow (files : Files) (file : DbFile) (table : List file.Row) : Bool :=
  (Collector.writeBack file (files file) table).widths.sum < 1000

/-- Tables that are stored as they are handed over need no room. -/
def tablePrinter : Printer tableBacking where
  prints _ _ _ := true
  prints_store_of_ne _ _ _ _ _ _ := rfl

/-- The cells of `itemsInOrder`. -/
def maxItemsInOrder : Nat := 200

/-- Values that are stored in an array from its first cell on; there is no result when they
overflow it. -/
def storeAll {Value : Type} (size : Nat) (values : List Value) : Option (List Value) :=
  if values.length ≤ size then some values else none

section Calls

variable {Store : Type} {backing : Backing Store}

/-- The arrays hold what a call puts into them. A table leaves a zeroed cell behind its rows, at
which the scans end. -/
def permits (printer : Printer backing) (world : World Store) : TableOp → Bool
  | .sys (.writeSocket text) => text.length < MSG_BUFFER_SIZE
  | .sys (.delete _) => world.deleted.length < maxRowsInDB
  | .sys _ => true
  | .load file => (backing.load world.store file).all fun table => table.length < maxRowsInDB
  | .writeBack file table =>
    decide (table.length ≤ maxRowsInDB) && printer.prints world.store file table

end Calls

/-! ### The handlers with their own arrays -/

/-- The scans of the order list need a zeroed row behind the lines. -/
def completeAnOrderWithin (rand : Rand) (buffer : Text) : Handler Unit := do
  let (buyerID, buffer) ← orCrash (extractBuyer buffer)
  let orderList ← orCrash (extractBuyerOrder buffer)
  let orderList ← orCrash (storeAll (maxOrderLines - 1) orderList)
  completeOrder rand buyerID orderList

/-- The rows of an order. -/
def rowsOfOrder (orderID : Int32) (orders : List CsvCustomerOrderInfo) :
    List CsvCustomerOrderInfo :=
  (DbFile.rows .CustomerOrder orders).filter fun row => row.orderId == orderID

def readOrderDetailsWithin (buffer : Text) : Handler Unit := do
  let orderID ← orCrash (numberAt buffer 0)
  readerEntry .CustomerOrder
  let customerOrderInfo ← loadTable .CustomerOrder
  readerExit .CustomerOrder
  let itemsInOrder ← orCrash (storeAll maxItemsInOrder (rowsOfOrder orderID customerOrderInfo))
  readerEntry .ProductInfo
  let pList ← loadTable .ProductInfo
  readerExit .ProductInfo
  writeSocket (itemsInOrder.flatMap fun item =>
    ((DbFile.rows .ProductInfo pList).filter fun row => item.productId == row.productId).flatMap
      fun row => joinFields [decimal item.productId, row.productName.val,
        decimal item.quantityPurchased, decimal item.totalPrice])

def Command.executeWithin (rand : Rand) (buffer : Text) (command : Command) : Handler Unit :=
  match command with
  | .completeOrder => completeAnOrderWithin rand buffer
  | .orderDetails => readOrderDetailsWithin buffer
  | command => command.execute rand buffer

def executeTaskWithin (rand : Rand) (message : Text) : Handler Unit := do
  let (command, buffer) ← orCrash (extractCommand message)
  match commandOf command with
  | some command => command.executeWithin rand buffer
  | none => return ()

/-- The effect of a request that stays within the arrays. -/
def serveWithin {Store : Type} {backing : Backing Store} (printer : Printer backing) (rand : Rand)
    (now : Nat) (message : Text) (world : World Store) : Option (World Store) :=
  ((executeTaskWithin rand message).run (guarded (permits printer) (exec backing now)) world).map
    Prod.snd

/-! ### What a request puts into the arrays -/

/-- The width of a row of a buyer's data. -/
def clientWidth (row : CsvClientInfo) : Nat :=
  decimalWidth row.uuid + row.firstName.val.length + row.lastName.val.length +
    row.phoneNumber.val.length + row.streetAddress.val.length + row.city.val.length +
      row.state.val.length + row.zipCode.val.length + 9

/-- The width of what the details of an order say of a row: a part for each product with its id. -/
def detailWidth (products : List CsvProductInfo) (row : CsvCustomerOrderInfo) : Nat :=
  (((DbFile.rows .ProductInfo products).filter fun product =>
    row.productId == product.productId).map fun product =>
      decimalWidth row.productId + product.productName.val.length +
        decimalWidth row.quantityPurchased + decimalWidth row.totalPrice + 4).sum

/-- The width of the reply to a view. All other replies are short. -/
def Request.replyWidth (tables : Tables) : Request → Nat
  | .viewProducts none =>
    ((viewedProducts ClientType.buyer.tag (tables .ProductInfo)).map productWidth).sum
  | .viewProducts (some _) =>
    ((viewedProducts ClientType.seller.tag (tables .ProductInfo)).map productWidth).sum
  | .viewBuyerOrders buyerID =>
    (((DbFile.rows .BillingInfo (tables .BillingInfo)).filter fun row =>
      row.customerId == buyerID.number).map orderWidth).sum
  | .orderDetails orderID =>
    ((rowsOfOrder orderID.number (tables .CustomerOrder)).map
      (detailWidth (tables .ProductInfo))).sum
  | .viewBilling buyerID =>
    (((clientRows (tables .CustomerInfo)).filter fun row => row.uuid == buyerID.number).map
      clientWidth).sum
  | .sellerOrders sellerID =>
    ((Joins.grouped CsvCustomerOrderInfo.productId
      (ownedProductIDs sellerID.number (tables .ProductInfo))
      (DbFile.rows .CustomerOrder (tables .CustomerOrder))).map customerOrderWidth).sum
  | _ => 0

section Fits

variable (prints : (file : DbFile) → List file.Row → Bool) (rand : Rand) (now : Nat)
variable (tables : Tables) (deleted : List Int32)

/-- A table of the database leaves a zeroed cell behind its rows. -/
def Tables.Held (file : DbFile) : Prop :=
  (tables file).length < maxRowsInDB

/-- A table that is handed over has room in its array, and so has what is printed of it. -/
def Printed (file : DbFile) (table : List file.Row) : Prop :=
  table.length ≤ maxRowsInDB ∧ prints file table = true

/-- The table of the clients of one type is handed over. -/
def PrintedClients : ClientType → List CsvClientInfo → Prop
  | .buyer, table => Printed prints .CustomerInfo table
  | .seller, table => Printed prints .SellerInfo table

/-- An edit of one client row. -/
def EditWithin (clientType : ClientType) (edit : CsvClientInfo → CsvClientInfo) (id : Int32) :
    Prop :=
  tables.Held clientType.file ∧
    ∀ rowInDB ∈ search (fun row => row.uuid == id) (tables.clients clientType),
      PrintedClients prints clientType
        (put (tables.clients clientType) rowInDB (edit (cell (tables.clients clientType) rowInDB)))

/-- An edit of a buyer's data in three tables. -/
def BuyerEditWithin (editClientRow : CsvClientInfo → CsvClientInfo)
    (editBillingRow : CsvBillingInfo → CsvBillingInfo)
    (editOrderRow : CsvCustomerOrderInfo → CsvCustomerOrderInfo) (id : Int32) : Prop :=
  EditWithin prints tables .buyer editClientRow id ∧
    ((search (fun row => row.uuid == id) (tables .CustomerInfo)).isSome = true →
      (tables.Held .BillingInfo ∧
        Printed prints .BillingInfo (editBilling editBillingRow id (tables .BillingInfo))) ∧
      tables.Held .CustomerOrder ∧
        Printed prints .CustomerOrder (editOrders editOrderRow
          (buyerOrderNums id (tables .BillingInfo)) (tables .CustomerOrder)))

/-- An order: its lines, and where it is accepted the three tables that it changes. -/
def OrderWithin (buyerID : Int32) (lines : List ItemOrder) : Prop :=
  lines.length < maxOrderLines ∧ tables.Held .ProductInfo ∧
    (validateBuyerOrder lines (tables .ProductInfo) = true →
      (tables.Held .CustomerInfo ∧ tables.Held .BillingInfo ∧ tables.Held .CustomerOrder) ∧
      ∀ buyerRecordRow ∈ findBuyerInClientInfo buyerID (tables .CustomerInfo),
        Printed prints .ProductInfo (sellAll lines (tables .ProductInfo)) ∧
        Printed prints .BillingInfo (billedTable (uidAt rand now)
          (cell (tables .CustomerInfo) buyerRecordRow) lines (tables .BillingInfo)) ∧
        Printed prints .CustomerOrder (orderedTable (uidAt rand now)
          (cell (tables .CustomerInfo) buyerRecordRow) lines (tables .CustomerOrder)))

/-- A change of a product: what becomes of the table. -/
def ModifyWithin (modify : CsvProductInfo → CsvProductInfo) (sellerID productID : Int32) : Prop :=
  tables.Held .ProductInfo ∧
    match ownership sellerID productID (tables .ProductInfo) with
    | .absent => True
    | .foreign => Printed prints .ProductInfo (tables .ProductInfo)
    | .own => Printed prints .ProductInfo
        (put (tables .ProductInfo) (productRowNum productID (tables .ProductInfo))
          (modify (cell (tables .ProductInfo) (productRowNum productID (tables .ProductInfo)))))

/-- A deletion of a product: the table without it, and a cell of `deletedProducts`. -/
def DeleteWithin (sellerID productID : Int32) : Prop :=
  tables.Held .ProductInfo ∧
    match ownership sellerID productID (tables .ProductInfo) with
    | .absent => True
    | .foreign => Printed prints .ProductInfo []
    | .own => deleted.length < maxRowsInDB ∧ Printed prints .ProductInfo
        ((DbFile.rows .ProductInfo (tables .ProductInfo)).filter fun row =>
          row.productId != productID)

/-- The arrays hold what the request puts into them: the tables that it loads, the lines of an
order, the rows of an order that is looked at, the tables that it writes back and the reply to a
view. -/
def Request.Fits : Request → Prop
  | .newClient clientType firstName lastName _ streetAddress city state zipCode =>
    tables.Held clientType.file ∧ PrintedClients prints clientType
      (registeredTable (uidAt rand now) clientType firstName.chars lastName.chars
        streetAddress.chars city.chars state.chars zipCode.chars (tables.clients clientType))
  | .validateID _ database => tables.Held database
  | .viewProducts sellerID =>
    tables.Held .ProductInfo ∧
      (Request.viewProducts sellerID).replyWidth tables < MSG_BUFFER_SIZE
  | .completeOrder buyerID lines =>
    OrderWithin prints rand now tables buyerID.number (orderItems lines)
  | .viewBuyerOrders buyerID =>
    tables.Held .BillingInfo ∧
      (Request.viewBuyerOrders buyerID).replyWidth tables < MSG_BUFFER_SIZE
  | .checkBuyer _ _ => tables.Held .BillingInfo
  | .orderDetails orderID =>
    (tables.Held .CustomerOrder ∧ tables.Held .ProductInfo) ∧
      (rowsOfOrder orderID.number (tables .CustomerOrder)).length ≤ maxItemsInOrder ∧
      (Request.orderDetails orderID).replyWidth tables < MSG_BUFFER_SIZE
  | .modOrder orderID productIDtoReturn =>
    (tables.Held .CustomerOrder ∧ tables.Held .BillingInfo) ∧
      ∀ orderRow ∈ search (fun row => row.orderId == orderID.number) (tables .CustomerOrder),
        Printed prints .CustomerOrder
          (removeProduct productIDtoReturn.number (tables .CustomerOrder)) ∧
        ∀ billRow ∈ search (fun row => row.orderId == orderID.number) (tables .BillingInfo),
          Printed prints .BillingInfo (refundedTable (tables .BillingInfo) billRow
            (cell (tables .CustomerOrder) orderRow).totalPrice)
  | .viewBilling buyerID =>
    tables.Held .CustomerInfo ∧
      (Request.viewBilling buyerID).replyWidth tables < MSG_BUFFER_SIZE
  | .editInfo .buyer clientID (.name firstName lastName) =>
    BuyerEditWithin prints tables (CsvClientInfo.setName (firstName.chars, lastName.chars))
      (CsvBillingInfo.setName (firstName.chars, lastName.chars))
      (CsvCustomerOrderInfo.setName (firstName.chars, lastName.chars)) clientID.number
  | .editInfo .buyer clientID (.address streetAddress city state zipCode) =>
    let address : Address := ⟨streetAddress.chars, city.chars, state.chars, zipCode.chars⟩
    BuyerEditWithin prints tables (CsvClientInfo.setAddress address)
      (CsvBillingInfo.setAddress address) (CsvCustomerOrderInfo.setAddress address) clientID.number
  | .editInfo clientType clientID edit =>
    EditWithin prints tables clientType edit.apply clientID.number
  | .newProduct sellerID productName quantity price =>
    tables.Held .ProductInfo ∧ Printed prints .ProductInfo (stockedTable (uidAt rand now)
      sellerID.number productName.chars quantity.number price.number (tables .ProductInfo))
  | .deleteProd sellerID productID =>
    DeleteWithin prints tables deleted sellerID.number productID.number
  | .modQuant sellerID productID quantity =>
    ModifyWithin prints tables (fun row => { row with quantity := quantity.number })
      sellerID.number productID.number
  | .modPrice sellerID productID price =>
    ModifyWithin prints tables (fun row => { row with price := price.number })
      sellerID.number productID.number
  | .sellerOrders sellerID =>
    (tables.Held .ProductInfo ∧ tables.Held .CustomerOrder) ∧
      (Request.sellerOrders sellerID).replyWidth tables < MSG_BUFFER_SIZE

end Fits

/-! ### Widths of replies -/

theorem length_flatMap_map {Row : Type} {part : Row → Text} {width : Row → Nat}
    (each : ∀ row, (part row).length = width row) (rows : List Row) :
    (rows.flatMap part).length = (rows.map width).sum := by
  rw [List.length_flatMap]
  exact congrArg List.sum (List.map_congr_left fun row _ => each row)

theorem length_productReply (row : CsvProductInfo) :
    (productReply row).length = productWidth row := by
  rw [← flatten_productPieces, length_productPieces]

theorem length_customerOrderReply (row : CsvCustomerOrderInfo) :
    (customerOrderReply row).length = customerOrderWidth row := by
  rw [← flatten_customerOrderPieces, length_customerOrderPieces]

theorem length_buyerOrdersReply (userID : Int32) (billing : List CsvBillingInfo) :
    (buyerOrdersReply userID billing).length =
      (((DbFile.rows .BillingInfo billing).filter fun row => row.customerId == userID).map
        orderWidth).sum :=
  length_flatMap_map (fun row => by rw [← flatten_orderPieces, length_orderPieces]) _

theorem length_buyerInfoReply (userID : Int32) (clients : List CsvClientInfo) :
    (buyerInfoReply userID clients).length =
      (((clientRows clients).filter fun row => row.uuid == userID).map clientWidth).sum := by
  refine length_flatMap_map (fun row => ?_) _
  rw [List.length_append, length_joinFields, clientWidth]
  simp only [List.map_cons, List.map_nil, List.sum_cons, List.sum_nil, length_decimal,
    List.length_cons, List.length_nil]
  omega

theorem length_sellerOrdersReply (sellerID : Int32) (products : List CsvProductInfo)
    (orders : List CsvCustomerOrderInfo) :
    (sellerOrdersReply sellerID products orders).length =
      ((Joins.grouped CsvCustomerOrderInfo.productId (ownedProductIDs sellerID products)
        (DbFile.rows .CustomerOrder orders)).map customerOrderWidth).sum := by
  rw [sellerOrdersReply_eq]
  exact length_flatMap_map length_customerOrderReply _

theorem length_orderDetailsReply (orderID : Int32) (products : List CsvProductInfo)
    (orders : List CsvCustomerOrderInfo) :
    (orderDetailsReply orderID products orders).length =
      ((rowsOfOrder orderID orders).map (detailWidth products)).sum := by
  refine length_flatMap_map (fun item => length_flatMap_map (fun product => ?_) _) _
  rw [length_joinFields]
  simp only [List.map_cons, List.map_nil, List.sum_cons, List.sum_nil, length_decimal,
    List.length_cons, List.length_nil]
  omega

/-! ### The calls of a handler -/

section Permits

variable {Store : Type} {backing : Backing Store} (printer : Printer backing) (now : Nat)
variable (world : World Store)

@[simp] theorem permitted_sys (op : SysOp) :
    (sys op).Permitted (permits printer) (exec backing now) world ↔
      permits printer world (.sys op) = true :=
  permitted_perform _ _

@[simp] theorem permitted_semWait (semaphore : Semaphore) :
    (semWait semaphore).Permitted (permits printer) (exec backing now) world ↔ True :=
  (permitted_sys printer now world _).trans (iff_true_intro rfl)

@[simp] theorem permitted_semPost (semaphore : Semaphore) :
    (semPost semaphore).Permitted (permits printer) (exec backing now) world ↔ True :=
  (permitted_sys printer now world _).trans (iff_true_intro rfl)

@[simp] theorem permitted_writeSocket (text : Text) :
    (writeSocket text).Permitted (permits printer) (exec backing now) world ↔
      text.length < MSG_BUFFER_SIZE :=
  (permitted_sys printer now world _).trans decide_eq_true_iff

@[simp] theorem permitted_delete (productID : Int32) :
    (sys (.delete productID)).Permitted (permits printer) (exec backing now) world ↔
      world.deleted.length < maxRowsInDB :=
  (permitted_sys printer now world _).trans decide_eq_true_iff

@[simp] theorem permitted_orCrash {Result : Type} (value : Option Result) :
    (orCrash value).Permitted (permits printer) (exec backing now) world ↔ True := by
  cases value with
  | none => exact iff_true_intro ⟨rfl, fun outcome ended => by cases ended⟩
  | some value => exact Iff.rfl

/-- Entering and leaving a section of readers, and drawing an id, touch no array. -/
@[simp] theorem permitted_readerEntry (file : DbFile) :
    (readerEntry file).Permitted (permits printer) (exec backing now) world ↔ True :=
  iff_true_intro (permitted_call_of_exec rfl rfl (permitted_call_of_exec rfl rfl
    (permitted_call_of_exec rfl rfl (permitted_call_of_exec rfl rfl trivial))))

@[simp] theorem permitted_readerExit (file : DbFile) :
    (readerExit file).Permitted (permits printer) (exec backing now) world ↔ True :=
  iff_true_intro (permitted_call_of_exec rfl rfl (permitted_call_of_exec rfl rfl
    (permitted_call_of_exec rfl rfl (permitted_call_of_exec rfl rfl
      (permitted_call_of_exec rfl rfl trivial)))))

@[simp] theorem permitted_generateUID (rand : Rand) :
    (generateUID rand).Permitted (permits printer) (exec backing now) world ↔ True :=
  iff_true_intro (permitted_call_of_exec rfl rfl trivial)

theorem permitted_load {file : DbFile} {table : List file.Row}
    (loaded : backing.load world.store file = some table) :
    (load file).Permitted (permits printer) (exec backing now) world ↔
      table.length < maxRowsInDB := by
  rw [load, permitted_perform, permits, loaded]
  exact decide_eq_true_iff

theorem permitted_loadTable {file : DbFile} {table : List file.Row}
    (loaded : backing.load world.store file = some table) :
    (loadTable file).Permitted (permits printer) (exec backing now) world ↔
      table.length < maxRowsInDB := by
  rw [loadTable, permitted_bind, permitted_load printer now world loaded]
  exact and_iff_left fun _ _ => trivial

@[simp] theorem permitted_writeBack (file : DbFile) (table : List file.Row) :
    (writeBack file table).Permitted (permits printer) (exec backing now) world ↔
      Printed (printer.prints world.store) file table := by
  rw [writeBack, permitted_perform, permits, Bool.and_eq_true, decide_eq_true_iff]
  rfl

/-! ### The handlers -/

theorem permitted_validateID {buffer : Text} {file : DbFile} {idToValidate : Int32}
    {table : List file.Row} (decoded : validateIDTarget buffer = some (some file, idToValidate))
    (loaded : backing.load world.store file = some table) :
    (validateID buffer).Permitted (permits printer) (exec backing now) world ↔
      table.length < maxRowsInDB := by
  simp only [validateID, decoded, orCrash, pure_bind, validateIDIn, permitted_bind, run_readerEntry,
    permitted_readerEntry, permitted_load printer now world loaded, run_load, loaded,
    Option.map_some, Option.mem_def, Option.some.injEq, forall_eq', true_and]
  refine and_iff_left ?_
  cases file.holdsID idToValidate table <;> simp [permitted_bind]

theorem permitted_viewProducts {buffer ptr : Text} {clientType : CharArray 25}
    {table : List CsvProductInfo} (first : (tokens buffer).head? = some ptr)
    (copied : strcpy 25 ptr = some clientType)
    (loaded : backing.load world.store .ProductInfo = some table) :
    (viewProducts buffer).Permitted (permits printer) (exec backing now) world ↔
      table.length < maxRowsInDB ∧
        ((viewedProducts clientType.val table).map productWidth).sum < MSG_BUFFER_SIZE := by
  rw [← length_flatMap_map length_productReply]
  simp only [viewProducts, first, copied, orCrash, pure_bind, permitted_bind, run_readerEntry,
    permitted_readerEntry, permitted_load printer now world loaded, run_load _ _ _ .ProductInfo,
    loaded, Option.map_some, Option.mem_def, Option.some.injEq, forall_eq', true_and,
    permitted_readerExit, run_readerExit, permitted_writeSocket]

theorem permitted_buyerViewsOrder {buffer : Text} {userID : Int32} {table : List CsvBillingInfo}
    (decoded : numberAt buffer 0 = some userID)
    (loaded : backing.load world.store .BillingInfo = some table) :
    (buyerViewsOrder buffer).Permitted (permits printer) (exec backing now) world ↔
      table.length < maxRowsInDB ∧
        (((DbFile.rows .BillingInfo table).filter fun row => row.customerId == userID).map
          orderWidth).sum < MSG_BUFFER_SIZE := by
  rw [← length_buyerOrdersReply]
  simp only [buyerViewsOrder, decoded, orCrash, pure_bind, permitted_bind, run_readerEntry,
    permitted_readerEntry, permitted_loadTable printer now world loaded,
    run_loadTable _ _ _ .BillingInfo, loaded, Option.map_some, Option.mem_def, Option.some.injEq,
    forall_eq', true_and, permitted_readerExit, run_readerExit, permitted_writeSocket]
  rfl

theorem permitted_buyerViewsInfo {buffer : Text} {userID : Int32} {table : List CsvClientInfo}
    (decoded : numberAt buffer 0 = some userID)
    (loaded : backing.load world.store .CustomerInfo = some table) :
    (buyerViewsInfo buffer).Permitted (permits printer) (exec backing now) world ↔
      table.length < maxRowsInDB ∧
        (((clientRows table).filter fun row => row.uuid == userID).map clientWidth).sum <
          MSG_BUFFER_SIZE := by
  rw [← length_buyerInfoReply]
  simp only [buyerViewsInfo, decoded, orCrash, pure_bind, permitted_bind, run_readerEntry,
    permitted_readerEntry, permitted_loadTable printer now world loaded,
    run_loadTable _ _ _ .CustomerInfo, loaded, Option.map_some, Option.mem_def, Option.some.injEq,
    forall_eq', true_and, permitted_readerExit, run_readerExit, permitted_writeSocket]
  rfl

theorem permitted_sellerViewsOrders {buffer : Text} {sellerID : Int32}
    {products : List CsvProductInfo} {orders : List CsvCustomerOrderInfo}
    (decoded : numberAt buffer 0 = some sellerID)
    (loadedProducts : backing.load world.store .ProductInfo = some products)
    (loadedOrders : backing.load world.store .CustomerOrder = some orders) :
    (sellerViewsOrders buffer).Permitted (permits printer) (exec backing now) world ↔
      (products.length < maxRowsInDB ∧ orders.length < maxRowsInDB) ∧
        ((Joins.grouped CsvCustomerOrderInfo.productId (ownedProductIDs sellerID products)
          (DbFile.rows .CustomerOrder orders)).map customerOrderWidth).sum < MSG_BUFFER_SIZE := by
  rw [← length_sellerOrdersReply]
  simp only [sellerViewsOrders, decoded, orCrash, pure_bind, permitted_bind, run_readerEntry,
    permitted_readerEntry, permitted_loadTable printer now world loadedProducts,
    permitted_loadTable printer now world loadedOrders, run_loadTable _ _ _ .ProductInfo,
    run_loadTable _ _ _ .CustomerOrder, loadedProducts, loadedOrders, Option.map_some,
    Option.mem_def, Option.some.injEq, forall_eq', true_and, permitted_readerExit, run_readerExit,
    permitted_writeSocket, and_assoc]
  rfl

section OrderDetails

variable {buffer : Text} {orderID : Int32} {products : List CsvProductInfo}
variable {orders : List CsvCustomerOrderInfo}

/-- The rows of the order are copied before their products are looked up. -/
theorem run_readOrderDetailsWithin (decoded : numberAt buffer 0 = some orderID)
    (loadedProducts : backing.load world.store .ProductInfo = some products)
    (loadedOrders : backing.load world.store .CustomerOrder = some orders) :
    (readOrderDetailsWithin buffer).run (exec backing now) world =
      if (rowsOfOrder orderID orders).length ≤ maxItemsInOrder then
        some ((), world.reply (orderDetailsReply orderID products orders)) else none := by
  simp only [readOrderDetailsWithin, decoded, orCrash, Prog.pure_bind, run_bind, run_readerEntry,
    run_loadTable _ _ _ .CustomerOrder, loadedOrders, Option.bind_some, Option.map_some,
    run_readerExit, storeAll]
  by_cases room : (rowsOfOrder orderID orders).length ≤ maxItemsInOrder
  · simp only [if_pos room, run_pure, Option.bind_some, run_loadTable _ _ _ .ProductInfo,
      loadedProducts, Option.map_some, run_writeSocket]
    rfl
  · simp only [if_neg room, run_crash, Option.bind_none]

theorem permitted_readOrderDetailsWithin (decoded : numberAt buffer 0 = some orderID)
    (loadedProducts : backing.load world.store .ProductInfo = some products)
    (loadedOrders : backing.load world.store .CustomerOrder = some orders)
    (room : (rowsOfOrder orderID orders).length ≤ maxItemsInOrder) :
    (readOrderDetailsWithin buffer).Permitted (permits printer) (exec backing now) world ↔
      (orders.length < maxRowsInDB ∧ products.length < maxRowsInDB) ∧
        ((rowsOfOrder orderID orders).map (detailWidth products)).sum < MSG_BUFFER_SIZE := by
  rw [← length_orderDetailsReply]
  simp only [readOrderDetailsWithin, decoded, orCrash, Prog.pure_bind, permitted_bind,
    run_readerEntry, permitted_readerEntry, permitted_loadTable printer now world loadedProducts,
    permitted_loadTable printer now world loadedOrders, run_loadTable _ _ _ .ProductInfo,
    run_loadTable _ _ _ .CustomerOrder, loadedProducts, loadedOrders, Option.map_some,
    Option.mem_def, Option.some.injEq, forall_eq', true_and, permitted_readerExit, run_readerExit,
    permitted_writeSocket, and_assoc, storeAll, if_pos room, permitted_pure, run_pure]
  rfl

end OrderDetails

theorem permitted_validateOrderIsBuyers {buffer : Text} {buyerID orderID : Int32}
    {table : List CsvBillingInfo} (decodedBuyer : numberAt buffer 0 = some buyerID)
    (decodedOrder : numberAt buffer 1 = some orderID)
    (loaded : backing.load world.store .BillingInfo = some table) :
    (validateOrderIsBuyers buffer).Permitted (permits printer) (exec backing now) world ↔
      table.length < maxRowsInDB := by
  simp only [validateOrderIsBuyers, decodedBuyer, decodedOrder, orCrash, pure_bind, permitted_bind,
    run_readerEntry, permitted_readerEntry, permitted_loadTable printer now world loaded,
    run_loadTable _ _ _ .BillingInfo, loaded, Option.map_some, Option.mem_def, Option.some.injEq,
    forall_eq', true_and, permitted_readerExit, run_readerExit]
  refine and_iff_left ?_
  split
  · trivial
  · split
    · trivial
    · exact ⟨rfl, fun outcome ended => by cases ended⟩

theorem permitted_loadClientInfo {clientType : ClientType} {table : List CsvClientInfo}
    (loaded : backing.loadClients world.store clientType = some table) :
    (loadClientInfo clientType).Permitted (permits printer) (exec backing now) world ↔
      table.length < maxRowsInDB := by
  cases clientType <;> exact permitted_loadTable printer now world loaded

theorem permitted_writeBackClientStruct (clientType : ClientType) (table : List CsvClientInfo) :
    (writeBackClientStruct clientType table).Permitted (permits printer) (exec backing now) world ↔
      PrintedClients (printer.prints world.store) clientType table := by
  cases clientType
  · exact permitted_writeBack printer now world .CustomerInfo table
  · exact permitted_writeBack printer now world .SellerInfo table

theorem permitted_writeNewClientData (rand : Rand) {buffer : Text} {clientType : ClientType}
    {data : Registration} {table : List CsvClientInfo} {row : CsvClientInfo}
    (decoded : extractRegistration buffer = some (clientType, data))
    (loaded : backing.loadClients world.store clientType = some table)
    (copied : registrationRow (cell table (newClientRow clientType table)) (uidAt rand now) data =
      some row) :
    (writeNewClientData rand buffer).Permitted (permits printer) (exec backing now) world ↔
      table.length < maxRowsInDB ∧ PrintedClients (printer.prints world.store) clientType
        (put table (newClientRow clientType table) row) := by
  have short : (decimal (uidAt rand now)).length < MSG_BUFFER_SIZE :=
    Nat.lt_of_le_of_lt (length_decimal_le _) (by decide)
  rw [newClientRow] at copied
  simp only [writeNewClientData, decoded, orCrash, pure_bind, permitted_bind, permitted_pure,
    run_pure, run_generateUID, permitted_generateUID, run_semWait, permitted_semWait,
    run_loadClientInfo, permitted_loadClientInfo printer now world loaded, loaded, copied,
    Option.map_some, Option.mem_def, Option.some.injEq, forall_eq', true_and, and_true,
    permitted_writeSocket, short, run_writeSocket, permitted_writeBackClientStruct,
    World.reply_store, run_writeBackClientStruct, permitted_semPost, newClientRow]

theorem permitted_editClient {clientType : ClientType} {edit : CsvClientInfo → Option CsvClientInfo}
    {apply : CsvClientInfo → CsvClientInfo} (edits : ∀ row, edit row = some (apply row))
    (id : Int32) {table : List CsvClientInfo}
    (loaded : backing.loadClients world.store clientType = some table) :
    (editClient clientType edit id).Permitted (permits printer) (exec backing now) world ↔
      table.length < maxRowsInDB ∧ ∀ rowInDB ∈ search (fun row => row.uuid == id) table,
        PrintedClients (printer.prints world.store) clientType
          (put table rowInDB (apply (cell table rowInDB))) := by
  simp only [editClient, permitted_bind, run_semWait, permitted_semWait, run_loadClientInfo, loaded,
    permitted_loadClientInfo printer now world loaded, Option.map_some, Option.mem_def,
    Option.some.injEq, forall_eq', true_and, permitted_orCrash, run_orCrash]
  refine and_congr_right fun _ => ?_
  cases search (fun row => row.uuid == id) table with
  | none => simp
  | some rowInDB =>
    simp only [edits, Option.map_some, Option.some.injEq, forall_eq', run_writeBackClientStruct,
      permitted_writeBackClientStruct, permitted_semPost, and_true]

theorem printed_hand {file other : DbFile} (table : List file.Row) (table' : List other.Row)
    (different : other ≠ file) :
    Printed (printer.prints (world.hand backing file table).store) other table' ↔
      Printed (printer.prints world.store) other table' := by
  rw [Printed, Printed, World.hand_store,
    printer.prints_store_of_ne world.store file other table table' different]

theorem permitted_editBuyer {Data : Type} {extract : Option Data} {data : Data}
    (extracted : extract = some data)
    (editClientRow : Data → CsvClientInfo → CsvClientInfo)
    (editBillingRow : Data → CsvBillingInfo → CsvBillingInfo)
    (editOrderRow : Data → CsvCustomerOrderInfo → CsvCustomerOrderInfo) (id : Int32)
    {tables : Tables} (loads : Loads backing world tables) :
    (editBuyer extract editClientRow editBillingRow editOrderRow id).Permitted (permits printer)
        (exec backing now) world ↔
      BuyerEditWithin (printer.prints world.store) tables (editClientRow data)
        (editBillingRow data) (editOrderRow data) id := by
  have billing (table : List CsvClientInfo) :
      backing.load (world.hand backing .CustomerInfo table).store .BillingInfo =
        some (tables .BillingInfo) :=
    (backing.load_store_of_ne _ _ _ _ (by decide)).trans (loads .BillingInfo)
  have orders (table : List CsvClientInfo) (table' : List CsvBillingInfo) :
      backing.load ((world.hand backing .CustomerInfo table).hand backing .BillingInfo table').store
        .CustomerOrder = some (tables .CustomerOrder) :=
    ((backing.load_store_of_ne _ _ _ _ (by decide)).trans
      (backing.load_store_of_ne _ _ _ _ (by decide))).trans (loads .CustomerOrder)
  simp only [editBuyer, permitted_bind, run_semWait, permitted_semWait,
    run_loadTable _ _ _ .CustomerInfo, loads .CustomerInfo,
    permitted_loadTable printer now world (loads .CustomerInfo), Option.map_some, Option.mem_def,
    Option.some.injEq, forall_eq', true_and, permitted_orCrash, run_orCrash, extracted]
  rw [BuyerEditWithin, EditWithin, and_assoc]
  refine and_congr Iff.rfl ?_
  have found : tables.clients .buyer = tables .CustomerInfo := rfl
  rw [found]
  cases search (fun row => row.uuid == id) (tables .CustomerInfo) with
  | none => simp
  | some rowInDB =>
    simp only [Option.map_some, Option.some.injEq, forall_eq', run_writeBack, permitted_writeBack,
      Option.mem_def, run_loadTable _ _ _ .BillingInfo, billing, run_loadTable _ _ _ .CustomerOrder,
      orders, permitted_loadTable printer now _ (billing _),
      permitted_loadTable printer now _ (orders _ _), permitted_semPost, run_semPost, and_true,
      Option.isSome_some, forall_const]
    rw [printed_hand printer world _ _ (by decide), printed_hand printer _ _ _ (by decide),
      printed_hand printer world _ _ (by decide), and_assoc]
    exact Iff.rfl

theorem permitted_completeOrder_rejected (rand : Rand) (buyerID : Int32)
    {orderList : List ItemOrder} {products : List CsvProductInfo}
    (loaded : backing.load world.store .ProductInfo = some products)
    (rejected : validateBuyerOrder orderList products = false) :
    (completeOrder rand buyerID orderList).Permitted (permits printer) (exec backing now) world ↔
      products.length < maxRowsInDB := by
  have short : "[INVALID]".toList.length < MSG_BUFFER_SIZE := by decide
  simp only [completeOrder, permitted_bind, run_semWait, permitted_semWait,
    run_loadTable _ _ _ .ProductInfo, permitted_loadTable printer now world loaded, loaded,
    Option.map_some, Option.mem_def, Option.some.injEq, forall_eq', true_and, rejected,
    Bool.false_eq_true, if_false, permitted_writeSocket, short, run_writeSocket, permitted_semPost,
    run_semPost, and_true]

theorem permitted_completeOrder_accepted (rand : Rand) (buyerID : Int32)
    {orderList : List ItemOrder} {tables : Tables}
    (loads : ∀ file, file ≠ .SellerInfo → backing.load world.store file = some (tables file))
    (named : orderRows orderList = orderList)
    (accepted : validateBuyerOrder orderList (tables .ProductInfo) = true) :
    (completeOrder rand buyerID orderList).Permitted (permits printer) (exec backing now) world ↔
      tables.Held .ProductInfo ∧
        (tables.Held .CustomerInfo ∧ tables.Held .BillingInfo ∧ tables.Held .CustomerOrder) ∧
        ∀ buyerRecordRow ∈ findBuyerInClientInfo buyerID (tables .CustomerInfo),
          Printed (printer.prints world.store) .ProductInfo
            (sellAll orderList (tables .ProductInfo)) ∧
          Printed (printer.prints world.store) .BillingInfo (billedTable (uidAt rand now)
            (cell (tables .CustomerInfo) buyerRecordRow) orderList (tables .BillingInfo)) ∧
          Printed (printer.prints world.store) .CustomerOrder (orderedTable (uidAt rand now)
            (cell (tables .CustomerInfo) buyerRecordRow) orderList (tables .CustomerOrder)) := by
  have short : "[CONFIRMATION]".toList.length < MSG_BUFFER_SIZE := by decide
  have products := loads .ProductInfo (by decide)
  have clients := loads .CustomerInfo (by decide)
  have billing := loads .BillingInfo (by decide)
  have orders := loads .CustomerOrder (by decide)
  have listed := allListed_orderRows accepted
  simp only [completeOrder, permitted_bind, run_semWait, permitted_semWait,
    run_loadTable _ _ _ .ProductInfo, permitted_loadTable printer now world products, products,
    run_loadTable _ _ _ .CustomerInfo, permitted_loadTable printer now world clients, clients,
    run_loadTable _ _ _ .BillingInfo, permitted_loadTable printer now world billing, billing,
    run_loadTable _ _ _ .CustomerOrder, permitted_loadTable printer now world orders, orders,
    Option.map_some, Option.mem_def, Option.some.injEq, forall_eq', true_and, accepted, if_true,
    permitted_orCrash, run_orCrash, and_assoc]
  refine and_congr Iff.rfl (and_congr Iff.rfl (and_congr Iff.rfl (and_congr Iff.rfl ?_)))
  cases findBuyerInClientInfo buyerID (tables .CustomerInfo) with
  | none => simp
  | some buyerRecordRow =>
    simp only [Option.map_some, Option.some.injEq, forall_eq', writeNewProductQuantityFromOrder,
      deductOrder_of_allListed listed, permitted_bind, permitted_orCrash, run_orCrash, run_bind,
      Option.mem_def, true_and, run_writeBack, permitted_writeBack, Option.bind_some,
      Option.some.injEq, writeOrderToBillingInfo, permitted_generateUID, run_generateUID,
      writeOrderToCustomerOrder, pure_eq, permitted_pure, run_pure, and_true, permitted_writeSocket,
      short, run_writeSocket, permitted_semPost, run_semPost]
    rw [printed_hand printer world _ _ (by decide), printed_hand printer _ _ _ (by decide),
      printed_hand printer world _ _ (by decide), named]
    simp only [billedTable, orderedTable, named]

theorem permitted_addNewProduct (rand : Rand) {buffer : Text} {products : List CsvProductInfo}
    {row : CsvProductInfo} (loaded : backing.load world.store .ProductInfo = some products)
    (built : newProductRow (uidAt rand now) (tokens buffer) = some row) :
    (addNewProduct rand buffer).Permitted (permits printer) (exec backing now) world ↔
      products.length < maxRowsInDB ∧ Printed (printer.prints world.store) .ProductInfo
        (put products (DbFile.rows .ProductInfo products).length row) := by
  have short : "[CONFIRMATION]".toList.length < MSG_BUFFER_SIZE := by decide
  simp only [addNewProduct, permitted_bind, run_semWait, permitted_semWait,
    run_loadTable _ _ _ .ProductInfo, permitted_loadTable printer now world loaded, loaded,
    Option.map_some, Option.mem_def, Option.some.injEq, forall_eq', true_and,
    permitted_generateUID, run_generateUID, built, permitted_orCrash, run_orCrash,
    permitted_writeBack, run_writeBack, permitted_semPost, run_semPost, permitted_writeSocket,
    short, and_true]

theorem permitted_deleteProduct {buffer : Text} {sellerID productID : Int32} {tables : Tables}
    (request : SellerRequest buffer sellerID productID)
    (loaded : backing.load world.store .ProductInfo = some (tables .ProductInfo)) :
    (deleteProduct buffer).Permitted (permits printer) (exec backing now) world ↔
      DeleteWithin (printer.prints world.store) tables world.deleted sellerID productID := by
  have confirmed : "[CONFIRMATION]".toList.length < MSG_BUFFER_SIZE := by decide
  have refused : "[INVALID]".toList.length < MSG_BUFFER_SIZE := by decide
  obtain ⟨ptr, toValidate, second, rfl, copied, target⟩ := request.product
  have looked := run_validateID backing now world target loaded
  simp only [deleteProduct, request.seller, second, copied, orCrash, Prog.pure_bind, permitted_bind,
    looked, permitted_validateID printer now world target loaded, Option.mem_def,
    Option.some.injEq, forall_eq', DeleteWithin, Tables.Held, ownership]
  refine and_congr_right fun held => ?_
  by_cases present : DbFile.holdsID .ProductInfo (atoi ptr) (tables .ProductInfo) = true
  · simp only [present, if_true, permitted_bind, run_semWait, permitted_semWait,
      run_loadTable _ _ _ .ProductInfo, permitted_loadTable printer now world loaded, loaded,
      Option.map_some, Option.mem_def, Option.some.injEq, forall_eq', true_and, held]
    by_cases owner : (cell (tables .ProductInfo)
        (productRowNum (atoi ptr) (tables .ProductInfo))).sellerId = sellerID
    · simp only [owner, ne_eq, not_true_eq_false, if_false, if_true, permitted_bind,
        permitted_writeBack, run_writeBack, Option.mem_def, Option.some.injEq, forall_eq',
        permitted_semPost, run_semPost, permitted_writeSocket, confirmed, and_true]
      refine and_congr (permitted_delete printer now world _) ⟨fun each => each _ rfl, ?_⟩
      rintro printed outcome ⟨⟩
      exact printed
    · simp only [owner, ne_eq, not_false_eq_true, if_false, if_true, permitted_bind,
        permitted_writeBack, run_writeBack, Option.mem_def, Option.some.injEq, run_writeSocket,
        forall_eq', permitted_semPost, run_semPost, permitted_writeSocket, confirmed, refused,
        and_true, true_and, World.reply_store]
  · simp only [present, if_false, permitted_writeSocket, refused, Bool.false_eq_true]

theorem permitted_modifyProduct {modify : Int32 → CsvProductInfo → CsvProductInfo} {buffer : Text}
    {sellerID productID value : Int32} {tables : Tables}
    (request : SellerRequest buffer sellerID productID)
    (decoded : numberAt buffer 2 = some value)
    (loaded : backing.load world.store .ProductInfo = some (tables .ProductInfo)) :
    (modifyProduct modify buffer).Permitted (permits printer) (exec backing now) world ↔
      ModifyWithin (printer.prints world.store) tables (modify value) sellerID productID := by
  have confirmed : "[CONFIRMATION]".toList.length < MSG_BUFFER_SIZE := by decide
  have refused : "[INVALID]".toList.length < MSG_BUFFER_SIZE := by decide
  obtain ⟨ptr, toValidate, second, rfl, copied, target⟩ := request.product
  have looked := run_validateID backing now world target loaded
  simp only [modifyProduct, request.seller, second, copied, decoded, orCrash, Prog.pure_bind,
    permitted_bind, looked, permitted_validateID printer now world target loaded, Option.mem_def,
    Option.some.injEq, forall_eq', ModifyWithin, Tables.Held, ownership]
  refine and_congr_right fun held => ?_
  by_cases present : DbFile.holdsID .ProductInfo (atoi ptr) (tables .ProductInfo) = true
  · simp only [present, if_true, permitted_bind, run_semWait, permitted_semWait,
      run_loadTable _ _ _ .ProductInfo, permitted_loadTable printer now world loaded, loaded,
      Option.map_some, Option.mem_def, Option.some.injEq, forall_eq', true_and, held]
    by_cases owner : (cell (tables .ProductInfo)
        (productRowNum (atoi ptr) (tables .ProductInfo))).sellerId = sellerID
    · simp only [owner, ne_eq, not_true_eq_false, if_false, if_true, permitted_bind,
        permitted_writeBack, run_writeBack, Option.mem_def, Option.some.injEq, forall_eq',
        permitted_semPost, run_semPost, permitted_writeSocket, confirmed, and_true]
    · simp only [owner, ne_eq, not_false_eq_true, if_false, if_true, permitted_bind,
        permitted_writeBack, run_writeBack, Option.mem_def, Option.some.injEq, run_writeSocket,
        forall_eq', permitted_semPost, run_semPost, permitted_writeSocket, confirmed, refused,
        and_true, true_and, World.reply_store]
  · simp only [present, if_false, permitted_writeSocket, refused, Bool.false_eq_true]

theorem permitted_buyerModifiesOrder {buffer : Text} {orderID productID : Int32}
    {orders : List CsvCustomerOrderInfo} {billing : List CsvBillingInfo}
    (decodedOrder : numberAt buffer 0 = some orderID)
    (decodedProduct : numberAt buffer 1 = some productID)
    (loadedOrders : backing.load world.store .CustomerOrder = some orders)
    (loadedBilling : backing.load world.store .BillingInfo = some billing) :
    (buyerModifiesOrder buffer).Permitted (permits printer) (exec backing now) world ↔
      (orders.length < maxRowsInDB ∧ billing.length < maxRowsInDB) ∧
        ∀ orderRow ∈ search (fun row => row.orderId == orderID) orders,
          Printed (printer.prints world.store) .CustomerOrder (removeProduct productID orders) ∧
          ∀ billRow ∈ search (fun row => row.orderId == orderID) billing,
            Printed (printer.prints world.store) .BillingInfo
              (refundedTable billing billRow (cell orders orderRow).totalPrice) := by
  simp only [buyerModifiesOrder, decodedOrder, decodedProduct, permitted_bind, permitted_orCrash,
    run_orCrash, run_semWait, permitted_semWait, run_loadTable _ _ _ .CustomerOrder,
    run_loadTable _ _ _ .BillingInfo, permitted_loadTable printer now world loadedOrders,
    permitted_loadTable printer now world loadedBilling, loadedOrders, loadedBilling,
    Option.map_some, Option.mem_def, Option.some.injEq, forall_eq', true_and, and_assoc]
  refine and_congr_right fun _ => and_congr_right fun _ => ?_
  cases search (fun row => row.orderId == orderID) orders with
  | none => simp
  | some orderRow =>
    simp only [Option.map_some, Option.some.injEq, forall_eq', permitted_writeBack, run_writeBack]
    refine and_congr_right fun _ => ?_
    cases search (fun row => row.orderId == orderID) billing with
    | none => simp
    | some billRow =>
      simp only [Option.map_some, Option.some.injEq, forall_eq', permitted_semPost, run_semPost,
        and_true]
      exact printed_hand printer world _ _ (by decide)

theorem permitted_editBranch (rand : Rand) {tables : Tables} (loads : Loads backing world tables)
    (clientType : ClientType) (id : Token 20) (edit : InfoEdit) :
    (editBranch clientType edit.tag (edit.fields ++ [['\n']]) id.number).Permitted (permits printer)
        (exec backing now) world ↔
      (Request.editInfo clientType id edit).Fits (printer.prints world.store) rand now tables
        world.deleted := by
  cases edit with
  | name firstName lastName =>
    rw [InfoEdit.tag_name, editBranch_name]
    cases clientType with
    | buyer =>
      rw [buyerEditsName]
      exact permitted_editBuyer printer now world (extractName_fields firstName lastName [['\n']])
        _ _ _ id.number loads
    | seller =>
      rw [sellerEditsName, extractName_fields]
      exact permitted_editClient printer now world (fun row => rfl) id.number
        (loads.clients .seller)
  | number phoneNumber =>
    rw [InfoEdit.tag_number, editBranch_number]
    cases clientType with
    | buyer =>
      rw [buyerEditsNumber, extractNumber_fields]
      exact permitted_editClient printer now world (fun row => rfl) id.number
        (loads.clients .buyer)
    | seller =>
      rw [sellerEditsNumber, extractNumber_fields]
      exact permitted_editClient printer now world (fun row => rfl) id.number
        (loads.clients .seller)
  | address streetAddress city state zipCode =>
    rw [InfoEdit.tag_address, editBranch_address]
    cases clientType with
    | buyer =>
      rw [buyerEditsAddress]
      exact permitted_editBuyer printer now world
        (extractAddress_fields streetAddress city state zipCode [['\n']]) _ _ _ id.number loads
    | seller =>
      rw [sellerEditsAddress, extractAddress_fields]
      exact permitted_editClient printer now world (fun row => rfl) id.number
        (loads.clients .seller)

end Permits

/-! ### Requests -/

section Requests

variable {Store : Type} {backing : Backing Store} (printer : Printer backing) (rand : Rand)
variable (now : Nat) {tables : Tables} {world final : World Store}

/-- What the request puts into the arrays. -/
abbrev Request.FitsIn (tables : Tables) (world : World Store) (request : Request) : Prop :=
  request.Fits (printer.prints world.store) rand now tables world.deleted

theorem executeTaskWithin_message (request : Request) :
    executeTaskWithin rand request.message =
      request.command.executeWithin rand request.buffer := by
  rw [executeTaskWithin, Request.extractCommand_message]
  simp only [orCrash, Prog.pure_bind, Command.commandOf_tag]

/-- A program runs as a request does, and its calls are permitted exactly if the request fits. -/
theorem map_run_eq_some_iff {program : Handler Unit} {request : Request}
    (ran : program.run (exec backing now) world =
      (request.effect backing rand now tables world).map fun final => ((), final))
    (permitted : program.Permitted (permits printer) (exec backing now) world ↔
      request.FitsIn printer rand now tables world) :
    (program.run (guarded (permits printer) (exec backing now)) world).map Prod.snd = some final ↔
      request.effect backing rand now tables world = some final ∧
        request.FitsIn printer rand now tables world := by
  rw [Option.map_eq_some_iff]
  constructor
  · rintro ⟨⟨⟨⟩, last⟩, ends, rfl⟩
    rw [run_guarded_eq_some_iff, ran, permitted] at ends
    obtain ⟨other, effect, same⟩ := Option.map_eq_some_iff.mp ends.1
    exact ⟨(Prod.mk.inj same).2 ▸ effect, ends.2⟩
  · rintro ⟨effect, fits⟩
    refine ⟨((), final), ?_, rfl⟩
    rw [run_guarded_eq_some_iff, ran, permitted, effect]
    exact ⟨rfl, fits⟩

/-- A request of one of the handlers without arrays of their own. -/
theorem serveWithin_iff_of_permitted (loads : Loads backing world tables) {request : Request}
    (same : request.command.executeWithin rand request.buffer =
      request.command.execute rand request.buffer)
    (permitted : (request.command.execute rand request.buffer).Permitted (permits printer)
      (exec backing now) world ↔ request.FitsIn printer rand now tables world) :
    serveWithin printer rand now request.message world = some final ↔
      request.effect backing rand now tables world = some final ∧
        request.FitsIn printer rand now tables world := by
  have ran := run_message rand now loads request
  rw [Request.executeTaskOnServer_message] at ran
  rw [serveWithin, executeTaskWithin_message, same]
  exact map_run_eq_some_iff printer rand now ran permitted

theorem serveWithin_completeOrder_iff (loads : ∀ file, file ≠ .SellerInfo →
      backing.load world.store file = some (tables file)) (buyerID : Token 20)
    (lines : List OrderLine) :
    serveWithin printer rand now (Request.completeOrder buyerID lines).message world = some final ↔
      (Request.completeOrder buyerID lines).effect backing rand now tables world = some final ∧
        (Request.completeOrder buyerID lines).FitsIn printer rand now tables world := by
  have decoded : completeAnOrderWithin rand (Request.completeOrder buyerID lines).buffer =
      orCrash (storeAll (maxOrderLines - 1) (orderItems lines)) >>=
        completeOrder rand buyerID.number := by
    simp only [completeAnOrderWithin, extractBuyer_buffer, extractBuyerOrder_orderText, orCrash,
      Prog.pure_bind]
  have ran := run_completeOrder rand now loads buyerID lines
  rw [Request.executeTaskOnServer_message, Request.command, Command.execute,
    completeAnOrder_buffer] at ran
  rw [serveWithin, executeTaskWithin_message, Request.command, Command.executeWithin, decoded]
  by_cases room : (orderItems lines).length ≤ maxOrderLines - 1
  · have stored : storeAll (maxOrderLines - 1) (orderItems lines) = some (orderItems lines) :=
      if_pos room
    have few : (orderItems lines).length < maxOrderLines := Nat.lt_of_le_sub_one (by decide) room
    rw [stored, orCrash, Prog.pure_bind]
    refine map_run_eq_some_iff printer rand now ran ?_
    rw [Request.FitsIn, Request.Fits, OrderWithin, and_iff_right few]
    cases accepted : validateBuyerOrder (orderItems lines) (tables .ProductInfo) with
    | false =>
      rw [permitted_completeOrder_rejected printer now world rand buyerID.number
        (loads .ProductInfo (by decide)) accepted]
      exact (and_iff_left fun wrong => by cases wrong).symm
    | true =>
      rw [permitted_completeOrder_accepted printer now world rand buyerID.number loads
        (orderRows_orderItems lines) accepted]
      exact and_congr_right fun _ => ⟨fun rest _ => rest, fun rest => rest rfl⟩
  · have overrun : storeAll (maxOrderLines - 1) (orderItems lines) = none := if_neg room
    have many : ¬(orderItems lines).length < maxOrderLines :=
      fun few => room (Nat.le_sub_one_of_lt few)
    rw [overrun]
    refine iff_of_false (fun ends => ?_) fun both => many both.2.1
    cases ends

theorem serveWithin_orderDetails_iff (loads : Loads backing world tables) (orderID : Token 20) :
    serveWithin printer rand now (Request.orderDetails orderID).message world = some final ↔
      (Request.orderDetails orderID).effect backing rand now tables world = some final ∧
        (Request.orderDetails orderID).FitsIn printer rand now tables world := by
  have decoded : numberAt (Request.orderDetails orderID).buffer 0 = some orderID.number := by
    rw [numberAt, Request.tokens_buffer]
    rfl
  have ran := run_readOrderDetailsWithin now world decoded (loads .ProductInfo)
    (loads .CustomerOrder)
  rw [serveWithin, executeTaskWithin_message, Request.command, Command.executeWithin]
  by_cases room : (rowsOfOrder orderID.number (tables .CustomerOrder)).length ≤ maxItemsInOrder
  · rw [if_pos room] at ran
    refine map_run_eq_some_iff printer rand now ran ?_
    rw [permitted_readOrderDetailsWithin printer now world decoded (loads .ProductInfo)
      (loads .CustomerOrder) room]
    exact and_congr_right fun _ => (and_iff_right room).symm
  · refine iff_of_false (fun ends => ?_) fun both => room both.2.2.1
    obtain ⟨outcome, ends, -⟩ := Option.map_eq_some_iff.mp ends
    rw [run_guarded_eq_some_iff, ran, if_neg room] at ends
    cases ends.1

/-- A request is served within the arrays exactly if it has an effect and the arrays hold what it
puts into them. -/
theorem serveWithin_eq_some_iff (loads : Loads backing world tables) (request : Request) :
    serveWithin printer rand now request.message world = some final ↔
      request.effect backing rand now tables world = some final ∧
        request.FitsIn printer rand now tables world := by
  have tokenized := request.tokens_buffer
  have numbers (position : Nat) : numberAt request.buffer position =
      (request.fields ++ [['\n']])[position]?.map atoi := by rw [numberAt, tokenized]
  have short (granted : Bool) : (verdict granted).length < MSG_BUFFER_SIZE := by
    cases granted <;> decide
  cases request with
  | completeOrder buyerID lines =>
    exact serveWithin_completeOrder_iff printer rand now (fun file _ => loads file) buyerID lines
  | orderDetails orderID => exact serveWithin_orderDetails_iff printer rand now loads orderID
  | newClient clientType firstName lastName phoneNumber streetAddress city state zipCode =>
    refine serveWithin_iff_of_permitted printer rand now loads rfl ?_
    have held : tables.Held clientType.file ↔ (tables.clients clientType).length < maxRowsInDB := by
      cases clientType <;> exact Iff.rfl
    rw [Request.command, Command.execute, Request.FitsIn, Request.Fits, held]
    refine permitted_writeNewClientData printer now world rand (extractRegistration_newClient ..)
      (loads.clients clientType) ?_
    simp only [registrationRow, Token.strcpy, Option.bind_eq_bind, Option.bind_some]
    rfl
  | validateID id database =>
    have target := validateIDTarget_fields id database ['\n']
    refine serveWithin_iff_of_permitted printer rand now loads rfl ?_
    rw [Request.command, Command.execute, permitted_bind, Request.buffer, Request.fields,
      permitted_validateID printer now world target (loads database),
      run_validateID backing now world target (loads database)]
    exact and_iff_left fun outcome ended => (permitted_writeSocket ..).mpr (short outcome.1)
  | viewProducts sellerID =>
    refine serveWithin_iff_of_permitted printer rand now loads rfl ?_
    cases sellerID with
    | none =>
      exact permitted_viewProducts printer now world (by rw [tokenized]; rfl)
        (strcpy_of_lt (Nat.lt_trans ClientType.buyer.length_tag (by decide))) (loads .ProductInfo)
    | some sellerID =>
      exact permitted_viewProducts printer now world (by rw [tokenized]; rfl)
        (strcpy_of_lt (Nat.lt_trans ClientType.seller.length_tag (by decide)))
        (loads .ProductInfo)
  | viewBuyerOrders buyerID =>
    refine serveWithin_iff_of_permitted printer rand now loads rfl ?_
    exact permitted_buyerViewsOrder printer now world (numbers 0) (loads .BillingInfo)
  | checkBuyer buyerID orderID =>
    refine serveWithin_iff_of_permitted printer rand now loads rfl ?_
    rw [Request.command, Command.execute, permitted_bind,
      permitted_validateOrderIsBuyers printer now world (numbers 0) (numbers 1)
        (loads .BillingInfo)]
    exact and_iff_left fun outcome ended => (permitted_writeSocket ..).mpr (short outcome.1)
  | modOrder orderID productIDtoReturn =>
    refine serveWithin_iff_of_permitted printer rand now loads rfl ?_
    exact permitted_buyerModifiesOrder printer now world (numbers 0) (numbers 1)
      (loads .CustomerOrder) (loads .BillingInfo)
  | viewBilling buyerID =>
    refine serveWithin_iff_of_permitted printer rand now loads rfl ?_
    exact permitted_buyerViewsInfo printer now world (numbers 0) (loads .CustomerInfo)
  | editInfo clientType clientID edit =>
    refine serveWithin_iff_of_permitted printer rand now loads rfl ?_
    rw [Request.command, Command.execute, clientEditsInfo, tokenized]
    simp only [Request.fields, List.cons_append, strcpy_of_lt clientType.length_tag,
      strcpy_of_lt edit.length_tag, orCrash, Prog.pure_bind, clientType.clientTypeOf_tag]
    rw [permitted_bind, ← Token.number, permitted_editBranch printer now world rand loads]
    exact and_iff_left fun outcome ended => (permitted_writeSocket ..).mpr (short true)
  | newProduct sellerID productName quantity price =>
    refine serveWithin_iff_of_permitted printer rand now loads rfl ?_
    refine permitted_addNewProduct printer now world rand (loads .ProductInfo) ?_
    rw [tokenized]
    simp only [newProductRow, Request.fields, List.cons_append, Token.strcpy,
      Option.bind_eq_bind, Option.bind_some]
    rfl
  | deleteProd sellerID productID =>
    refine serveWithin_iff_of_permitted printer rand now loads rfl ?_
    rw [Request.command, Command.execute]
    exact permitted_deleteProduct printer now world (sellerRequest_buffer rfl) (loads .ProductInfo)
  | modQuant sellerID productID quantity =>
    refine serveWithin_iff_of_permitted printer rand now loads rfl ?_
    rw [Request.command, Command.execute, modifyQuantity]
    exact permitted_modifyProduct printer now world (sellerRequest_buffer rfl) (numbers 2)
      (loads .ProductInfo)
  | modPrice sellerID productID price =>
    refine serveWithin_iff_of_permitted printer rand now loads rfl ?_
    rw [Request.command, Command.execute, modifyPrice]
    exact permitted_modifyProduct printer now world (sellerRequest_buffer rfl) (numbers 2)
      (loads .ProductInfo)
  | sellerOrders sellerID =>
    refine serveWithin_iff_of_permitted printer rand now loads rfl ?_
    exact permitted_sellerViewsOrders printer now world (numbers 0) (loads .ProductInfo)
      (loads .CustomerOrder)

/-- Requests served one after the other within the arrays. -/
def serveAllWithin : List (Nat × Request) → World Store → Option (World Store)
  | [], world => some world
  | (now, request) :: requests, world =>
    (serveWithin printer rand now request.message world).bind (serveAllWithin requests)

end Requests

end OnlineStore
