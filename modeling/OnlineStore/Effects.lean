/-
This file computes the effect of each handler, run alone over any backing: the replies it sends
and the tables it hands to the write-backs, given the tables it loads. These are the rules by
which the results about requests are proved; nothing later unfolds a handler.
-/

import OnlineStore.Sequential

namespace OnlineStore

open CString Cells Prog

section Effects

variable {Store : Type} (backing : Backing Store) (rand : Rand) (now : Nat) (world : World Store)

/-! ### Lookups and views -/

theorem run_validateID {buffer : Text} {file : DbFile} {idToValidate : Int32}
    {table : List file.Row} (decoded : validateIDTarget buffer = some (some file, idToValidate))
    (loaded : backing.load world.store file = some table) :
    (validateID buffer).run (exec backing now) world =
      some (file.holdsID idToValidate table, world) := by
  simp only [validateID, decoded, orCrash, pure_bind, validateIDIn, run_bind, run_readerEntry,
    run_load, loaded, Option.bind_some, Option.map_some, run_readerExit]
  cases file.holdsID idToValidate table <;> simp [run_bind]

theorem run_viewProducts {buffer ptr : Text} {clientType : CharArray 25}
    {table : List CsvProductInfo} (first : (tokens buffer).head? = some ptr)
    (copied : strcpy 25 ptr = some clientType)
    (loaded : backing.load world.store .ProductInfo = some table) :
    (viewProducts buffer).run (exec backing now) world =
      some ((), world.reply ((viewedProducts clientType.val table).flatMap productReply)) := by
  simp only [viewProducts, first, copied, orCrash, pure_bind, run_bind, run_readerEntry, run_load
    _ _ _ .ProductInfo, loaded, Option.bind_some, Option.map_some, run_readerExit,
    run_writeSocket]

/-- The orders of a buyer with their totals. -/
def buyerOrdersReply (userID : Int32) (billingInfo : List CsvBillingInfo) : Text :=
  ((DbFile.rows .BillingInfo billingInfo).filter fun row => row.customerId == userID).flatMap
    fun row => joinFields [decimal row.orderId, decimal row.totalOrderCost] ++ ['\n']

theorem run_buyerViewsOrder {buffer : Text} {userID : Int32} {table : List CsvBillingInfo}
    (decoded : numberAt buffer 0 = some userID)
    (loaded : backing.load world.store .BillingInfo = some table) :
    (buyerViewsOrder buffer).run (exec backing now) world =
      some ((), world.reply (buyerOrdersReply userID table)) := by
  simp only [buyerViewsOrder, decoded, orCrash, pure_bind, run_bind, run_readerEntry,
    run_loadTable _ _ _ .BillingInfo, loaded, Option.bind_some, Option.map_some, run_readerExit,
    run_writeSocket]
  rfl

/-- The data of a buyer. -/
def buyerInfoReply (userID : Int32) (clientInfo : List CsvClientInfo) : Text :=
  ((clientRows clientInfo).filter fun row => row.uuid == userID).flatMap fun row =>
    joinFields [decimal row.uuid, row.firstName.val, row.lastName.val, row.phoneNumber.val,
      row.streetAddress.val, row.city.val, row.state.val, row.zipCode.val] ++ ['\n']

theorem run_buyerViewsInfo {buffer : Text} {userID : Int32} {table : List CsvClientInfo}
    (decoded : numberAt buffer 0 = some userID)
    (loaded : backing.load world.store .CustomerInfo = some table) :
    (buyerViewsInfo buffer).run (exec backing now) world =
      some ((), world.reply (buyerInfoReply userID table)) := by
  simp only [buyerViewsInfo, decoded, orCrash, pure_bind, run_bind, run_readerEntry, run_loadTable
    _ _ _ .CustomerInfo, loaded, Option.bind_some, Option.map_some, run_readerExit,
    run_writeSocket]
  rfl

/-- The orders of a seller's products, product by product. -/
def sellerOrdersReply (sellerID : Int32) (pList : List CsvProductInfo)
    (customerOrderInfo : List CsvCustomerOrderInfo) : Text :=
  (((DbFile.rows .ProductInfo pList).filter fun row => row.sellerId == sellerID).map
    CsvProductInfo.productId).flatMap fun productID =>
      ((DbFile.rows .CustomerOrder customerOrderInfo).filter fun row =>
        row.productId == productID).flatMap customerOrderReply

theorem run_sellerViewsOrders {buffer : Text} {sellerID : Int32}
    {products : List CsvProductInfo} {orders : List CsvCustomerOrderInfo}
    (decoded : numberAt buffer 0 = some sellerID)
    (loadedProducts : backing.load world.store .ProductInfo = some products)
    (loadedOrders : backing.load world.store .CustomerOrder = some orders) :
    (sellerViewsOrders buffer).run (exec backing now) world =
      some ((), world.reply (sellerOrdersReply sellerID products orders)) := by
  simp only [sellerViewsOrders, decoded, orCrash, pure_bind, run_bind, run_readerEntry,
    run_loadTable _ _ _ .ProductInfo, run_loadTable _ _ _ .CustomerOrder, loadedProducts,
    loadedOrders, Option.bind_some, Option.map_some, run_readerExit, run_writeSocket]
  rfl

/-- The items of an order. -/
def orderDetailsReply (orderID : Int32) (pList : List CsvProductInfo)
    (customerOrderInfo : List CsvCustomerOrderInfo) : Text :=
  ((DbFile.rows .CustomerOrder customerOrderInfo).filter fun row =>
    row.orderId == orderID).flatMap fun item =>
      ((DbFile.rows .ProductInfo pList).filter fun row =>
        item.productId == row.productId).flatMap fun row =>
          joinFields [decimal item.productId, row.productName.val,
            decimal item.quantityPurchased, decimal item.totalPrice]

theorem run_readOrderDetails {buffer : Text} {orderID : Int32}
    {products : List CsvProductInfo} {orders : List CsvCustomerOrderInfo}
    (decoded : numberAt buffer 0 = some orderID)
    (loadedProducts : backing.load world.store .ProductInfo = some products)
    (loadedOrders : backing.load world.store .CustomerOrder = some orders) :
    (readOrderDetails buffer).run (exec backing now) world =
      some ((), world.reply (orderDetailsReply orderID products orders)) := by
  simp only [readOrderDetails, decoded, orCrash, pure_bind, run_bind, run_readerEntry,
    run_loadTable _ _ _ .ProductInfo, run_loadTable _ _ _ .CustomerOrder, loadedProducts,
    loadedOrders, Option.bind_some, Option.map_some, run_readerExit, run_writeSocket]
  rfl

/-- What the scan of `validateOrderIsBuyers` decides, if it ends. -/
def ownershipAnswer (buyerID orderID : Int32) (billingInfo : List CsvBillingInfo) :
    Option Bool :=
  if (cell billingInfo 0).orderId = 0 then some false else
  if (cell billingInfo 0).orderId = orderID then
    some ((cell billingInfo 0).customerId == buyerID) else none

theorem run_validateOrderIsBuyers {buffer : Text} {buyerID orderID : Int32}
    {table : List CsvBillingInfo} (decodedBuyer : numberAt buffer 0 = some buyerID)
    (decodedOrder : numberAt buffer 1 = some orderID)
    (loaded : backing.load world.store .BillingInfo = some table) :
    (validateOrderIsBuyers buffer).run (exec backing now) world =
      (ownershipAnswer buyerID orderID table).map fun answer => (answer, world) := by
  simp only [validateOrderIsBuyers, decodedBuyer, decodedOrder, orCrash, pure_bind, run_bind,
    run_readerEntry, run_loadTable _ _ _ .BillingInfo, loaded, Option.bind_some, Option.map_some,
    run_readerExit, ownershipAnswer]
  split
  · rfl
  · split <;> rfl

/-! ### Clients -/

/-- The table of the clients of one type. -/
def Backing.loadClients (backing : Backing Store) (state : Store) :
    ClientType → Option (List CsvClientInfo)
  | .buyer => backing.load state .CustomerInfo
  | .seller => backing.load state .SellerInfo

/-- The table of the clients of one type is handed over. -/
def World.handClients (backing : Backing Store) (world : World Store) :
    ClientType → List CsvClientInfo → World Store
  | .buyer, table => world.hand backing .CustomerInfo table
  | .seller, table => world.hand backing .SellerInfo table

@[simp] theorem World.handClients_replies (clientType : ClientType)
    (table : List CsvClientInfo) :
    (world.handClients backing clientType table).replies = world.replies := by
  cases clientType <;> rfl

@[simp] theorem run_loadClientInfo (clientType : ClientType) :
    (loadClientInfo clientType).run (exec backing now) world =
      (backing.loadClients world.store clientType).map fun table => (table, world) := by
  cases clientType <;> exact run_loadTable backing now world _

@[simp] theorem run_writeBackClientStruct (clientType : ClientType)
    (table : List CsvClientInfo) :
    (writeBackClientStruct clientType table).run (exec backing now) world =
      some ((), world.handClients backing clientType table) := by
  cases clientType <;> rfl

/-- The row in which a registration is stored. -/
def newClientRow (clientType : ClientType) (table : List CsvClientInfo) : Nat :=
  (clientRows table).length + clientType.rowOffset

theorem run_writeNewClientData {buffer : Text} {clientType : ClientType} {data : Registration}
    {table : List CsvClientInfo} {row : CsvClientInfo}
    (decoded : extractRegistration buffer = some (clientType, data))
    (loaded : backing.loadClients world.store clientType = some table)
    (copied : registrationRow (cell table (newClientRow clientType table)) (uidAt rand now) data =
      some row) :
    (writeNewClientData rand buffer).run (exec backing now) world =
      some ((), (world.reply (decimal (uidAt rand now))).handClients backing clientType
        (put table (newClientRow clientType table) row)) := by
  rw [newClientRow] at copied
  simp only [writeNewClientData, decoded, orCrash, pure_bind, run_pure, run_bind, run_generateUID,
    run_semWait, run_loadClientInfo, loaded, copied, Option.bind_some, Option.map_some,
    run_writeSocket, run_writeBackClientStruct, run_semPost, newClientRow]

/-- A registration that does not end in a crash has loaded its table. -/
theorem loaded_of_run_writeNewClientData {buffer : Text} {clientType : ClientType}
    {data : Registration} {outcome : Unit × World Store}
    (decoded : extractRegistration buffer = some (clientType, data))
    (ran : (writeNewClientData rand buffer).run (exec backing now) world = some outcome) :
    ∃ table, backing.loadClients world.store clientType = some table := by
  cases loaded : backing.loadClients world.store clientType with
  | some table => exact ⟨table, rfl⟩
  | none =>
    simp [writeNewClientData, decoded, orCrash, run_bind, loaded] at ran

theorem run_editClient {clientType : ClientType} (edit : CsvClientInfo → Option CsvClientInfo)
    (id : Int32) {table : List CsvClientInfo}
    (loaded : backing.loadClients world.store clientType = some table) :
    (editClient clientType edit id).run (exec backing now) world =
      (search (fun row => row.uuid == id) table).bind fun rowInDB =>
        (edit (cell table rowInDB)).map fun row =>
          ((), world.handClients backing clientType (put table rowInDB row)) := by
  simp only [editClient, run_bind, run_semWait, run_loadClientInfo, loaded, Option.bind_some,
    Option.map_some]
  cases search (fun row => row.uuid == id) table with
  | none => rfl
  | some rowInDB =>
    simp only [orCrash, run_pure, Option.bind_some]
    cases edit (cell table rowInDB) with
    | none => rfl
    | some row => simp only [run_pure, Option.bind_some, run_writeBackClientStruct, run_semPost,
        Option.map_some]

/-- The world after an edit of a buyer's data has handed over its three tables. -/
def World.handBuyer (backing : Backing Store) (world : World Store)
    (clients : List CsvClientInfo) (billing : List CsvBillingInfo)
    (orders : List CsvCustomerOrderInfo) : World Store :=
  ((world.hand backing .CustomerInfo clients).hand backing .BillingInfo billing).hand backing
    .CustomerOrder orders

theorem run_editBuyer {Data : Type} (extract : Option Data)
    (editClientRow : Data → CsvClientInfo → CsvClientInfo)
    (editBillingRow : Data → CsvBillingInfo → CsvBillingInfo)
    (editOrderRow : Data → CsvCustomerOrderInfo → CsvCustomerOrderInfo) (id : Int32)
    {clients : List CsvClientInfo} {billing : List CsvBillingInfo}
    {orders : List CsvCustomerOrderInfo}
    (loadedClients : backing.load world.store .CustomerInfo = some clients)
    (loadedBilling : backing.load world.store .BillingInfo = some billing)
    (loadedOrders : backing.load world.store .CustomerOrder = some orders) :
    (editBuyer extract editClientRow editBillingRow editOrderRow id).run (exec backing now)
        world =
      (search (fun row => row.uuid == id) clients).bind fun rowInDB =>
        extract.map fun data => ((), world.handBuyer backing
          (put clients rowInDB (editClientRow data (cell clients rowInDB)))
          (editBilling (editBillingRow data) id billing)
          (editOrders (editOrderRow data) (buyerOrderNums id billing) orders)) := by
  have billingLater (table : List CsvClientInfo) : backing.load (backing.store world.store
      .CustomerInfo table) .BillingInfo = some billing := by
    rw [backing.load_store_of_ne _ _ _ _ (by decide), loadedBilling]
  have ordersLater (table : List CsvClientInfo) (table' : List CsvBillingInfo) :
      backing.load (backing.store (backing.store world.store .CustomerInfo table) .BillingInfo
        table') .CustomerOrder = some orders := by
    rw [backing.load_store_of_ne _ _ _ _ (by decide),
      backing.load_store_of_ne _ _ _ _ (by decide), loadedOrders]
  simp only [editBuyer, run_bind, run_semWait, run_loadTable _ _ _ .CustomerInfo,
    run_loadTable _ _ _ .BillingInfo, run_loadTable _ _ _ .CustomerOrder, loadedClients,
    Option.bind_some, Option.map_some]
  cases search (fun row => row.uuid == id) clients with
  | none => rfl
  | some rowInDB =>
    simp only [orCrash, run_pure, Option.bind_some]
    cases extract with
    | none => rfl
    | some data =>
      simp only [run_pure, Option.bind_some, Option.map_some, run_writeBack, World.hand_store,
        billingLater, ordersLater, run_semPost, World.handBuyer]

/-! ### Orders -/

theorem run_completeOrder_rejected (buyerID : Int32) {orderList : List ItemOrder}
    {products : List CsvProductInfo}
    (loaded : backing.load world.store .ProductInfo = some products)
    (rejected : validateBuyerOrder orderList products = false) :
    (completeOrder rand buyerID orderList).run (exec backing now) world =
      some ((), world.reply "[INVALID]".toList) := by
  simp only [completeOrder, run_bind, run_semWait, run_loadTable _ _ _ .ProductInfo, loaded,
    Option.bind_some, Option.map_some, rejected, Bool.false_eq_true, if_false, run_writeSocket,
    run_semPost]

/-- The billing table after an order. -/
def billedTable (orderId : Int32) (buyerData : CsvClientInfo) (orderList : List ItemOrder)
    (billing : List CsvBillingInfo) : List CsvBillingInfo :=
  put billing (DbFile.rows .BillingInfo billing).length
    (billingRow orderId buyerData (orderCost orderList))

/-- The CustomerOrder table after an order. -/
def orderedTable (orderID : Int32) (buyerData : CsvClientInfo) (orderList : List ItemOrder)
    (orders : List CsvCustomerOrderInfo) : List CsvCustomerOrderInfo :=
  putAll orders (DbFile.rows .CustomerOrder orders).length
    ((orderRows orderList).map (customerOrderRow orderID buyerData))

/-- The world after an accepted order has handed over its three tables and is confirmed. -/
def World.handOrder (backing : Backing Store) (world : World Store)
    (products : List CsvProductInfo) (billing : List CsvBillingInfo)
    (orders : List CsvCustomerOrderInfo) : World Store :=
  (((world.hand backing .ProductInfo products).hand backing .BillingInfo billing).hand backing
    .CustomerOrder orders).reply "[CONFIRMATION]".toList

@[simp] theorem World.handOrder_handed (products : List CsvProductInfo)
    (billing : List CsvBillingInfo) (orders : List CsvCustomerOrderInfo) :
    (world.handOrder backing products billing orders).handed = world.handed ++
      [⟨.ProductInfo, products⟩, ⟨.BillingInfo, billing⟩, ⟨.CustomerOrder, orders⟩] := by
  simp [handOrder]

/-- An accepted order ends as a whole or crashes at the first computation that has no result,
before anything is handed over. -/
theorem run_completeOrder_accepted (buyerID : Int32) {orderList : List ItemOrder}
    {products : List CsvProductInfo} {clients : List CsvClientInfo}
    {billing : List CsvBillingInfo} {orders : List CsvCustomerOrderInfo}
    (loadedProducts : backing.load world.store .ProductInfo = some products)
    (accepted : validateBuyerOrder orderList products = true)
    (loadedClients : backing.load world.store .CustomerInfo = some clients)
    (loadedBilling : backing.load world.store .BillingInfo = some billing)
    (loadedOrders : backing.load world.store .CustomerOrder = some orders) :
    (completeOrder rand buyerID orderList).run (exec backing now) world =
      (findBuyerInClientInfo buyerID clients).bind fun buyerRecordRow =>
        (deductOrder (orderRows orderList) products).map fun deducted =>
          ((), world.handOrder backing deducted
            (billedTable (uidAt rand now) (cell clients buyerRecordRow) orderList billing)
            (orderedTable (uidAt rand now) (cell clients buyerRecordRow) orderList orders)) := by
  simp only [completeOrder, run_bind, run_semWait, run_loadTable _ _ _ .ProductInfo, run_loadTable
    _ _ _ .CustomerInfo, run_loadTable _ _ _ .BillingInfo, run_loadTable _ _ _ .CustomerOrder,
    loadedProducts, Option.bind_some, Option.map_some, accepted, if_true, loadedClients,
    loadedBilling, loadedOrders]
  cases findBuyerInClientInfo buyerID clients with
  | none => rfl
  | some buyerRecordRow =>
    simp only [orCrash, run_pure, Option.bind_some, writeNewProductQuantityFromOrder,
      run_bind]
    cases deductOrder (orderRows orderList) products with
    | none => rfl
    | some deducted => rfl

/-- An order that does not end in a crash has loaded ProductInfo, and if it is accepted the other
tables too. -/
theorem loaded_of_run_completeOrder {buyerID : Int32} {orderList : List ItemOrder}
    {outcome : Unit × World Store}
    (ran : (completeOrder rand buyerID orderList).run (exec backing now) world = some outcome) :
    ∃ products, backing.load world.store .ProductInfo = some products ∧
      (validateBuyerOrder orderList products = true →
        ∃ clients billing orders, backing.load world.store .CustomerInfo = some clients ∧
          backing.load world.store .BillingInfo = some billing ∧
            backing.load world.store .CustomerOrder = some orders) := by
  cases loadedProducts : backing.load world.store .ProductInfo with
  | none =>
    simp only [completeOrder, run_bind, run_semWait, Option.bind_some,
      run_loadTable _ _ _ .ProductInfo, loadedProducts, Option.map_none, Option.bind_none] at ran
    cases ran
  | some products =>
    refine ⟨products, rfl, fun accepted => ?_⟩
    simp only [completeOrder, run_bind, run_semWait, Option.bind_some,
      run_loadTable _ _ _ .ProductInfo, loadedProducts, Option.map_some, accepted, if_true,
      run_loadTable _ _ _ .CustomerInfo, run_loadTable _ _ _ .BillingInfo,
      run_loadTable _ _ _ .CustomerOrder] at ran
    cases loadedClients : backing.load world.store .CustomerInfo with
    | none =>
      simp only [loadedClients, Option.map_none, Option.bind_none] at ran
      cases ran
    | some clients =>
      cases loadedBilling : backing.load world.store .BillingInfo with
      | none =>
        simp only [loadedClients, loadedBilling, Option.map_some, Option.bind_some,
          Option.map_none, Option.bind_none] at ran
        cases ran
      | some billing =>
        cases loadedOrders : backing.load world.store .CustomerOrder with
        | none =>
          simp only [loadedClients, loadedBilling, loadedOrders, Option.map_some,
            Option.bind_some, Option.map_none, Option.bind_none] at ran
          cases ran
        | some orders => exact ⟨clients, billing, orders, rfl, rfl, rfl⟩

/-- The bill of an order after a return from it. -/
def refundedTable (billing : List CsvBillingInfo) (billRow : Nat) (itemCost : Int32) :
    List CsvBillingInfo :=
  put billing billRow { cell billing billRow with
    totalOrderCost := (cell billing billRow).totalOrderCost - itemCost }

theorem run_buyerModifiesOrder {buffer : Text} {orderID productID : Int32}
    {orders : List CsvCustomerOrderInfo} {billing : List CsvBillingInfo}
    (decodedOrder : numberAt buffer 0 = some orderID)
    (decodedProduct : numberAt buffer 1 = some productID)
    (loadedOrders : backing.load world.store .CustomerOrder = some orders)
    (loadedBilling : backing.load world.store .BillingInfo = some billing) :
    (buyerModifiesOrder buffer).run (exec backing now) world =
      (search (fun row => row.orderId == orderID) orders).bind fun orderRow =>
        (search (fun row => row.orderId == orderID) billing).map fun billRow =>
          ((), (world.hand backing .CustomerOrder (removeProduct productID orders)).hand backing
            .BillingInfo (refundedTable billing billRow (cell orders orderRow).totalPrice)) := by
  simp only [buyerModifiesOrder, decodedOrder, decodedProduct, orCrash, pure_bind, run_bind,
    run_semWait, run_loadTable _ _ _ .CustomerOrder, run_loadTable _ _ _ .BillingInfo,
    loadedOrders, loadedBilling, Option.bind_some, Option.map_some]
  cases search (fun row => row.orderId == orderID) orders with
  | none => rfl
  | some orderRow =>
    cases search (fun row => row.orderId == orderID) billing with
    | none => rfl
    | some billRow => rfl

/-! ### Products -/

theorem run_addNewProduct {buffer : Text} {products : List CsvProductInfo}
    {row : CsvProductInfo} (loaded : backing.load world.store .ProductInfo = some products)
    (built : newProductRow (uidAt rand now) (tokens buffer) = some row) :
    (addNewProduct rand buffer).run (exec backing now) world =
      some ((), (world.hand backing .ProductInfo
        (put products (DbFile.rows .ProductInfo products).length row)).reply
          "[CONFIRMATION]".toList) := by
  simp only [addNewProduct, run_bind, run_semWait, run_loadTable _ _ _ .ProductInfo, loaded,
    built, orCrash, run_pure, Option.bind_some, Option.map_some, run_generateUID, run_writeBack,
    run_semPost, run_writeSocket]

theorem loaded_of_run_addNewProduct {buffer : Text} {outcome : Unit × World Store}
    (ran : (addNewProduct rand buffer).run (exec backing now) world = some outcome) :
    ∃ products, backing.load world.store .ProductInfo = some products := by
  cases loaded : backing.load world.store .ProductInfo with
  | some products => exact ⟨products, rfl⟩
  | none => simp [addNewProduct, run_bind, run_loadTable _ _ _ .ProductInfo, loaded] at ran

/-- What a seller's handler finds out about a product before it changes anything. -/
inductive Ownership where
  | absent
  | foreign
  | own
  deriving DecidableEq

def ownership (sellerID productID : Int32) (products : List CsvProductInfo) : Ownership :=
  if DbFile.holdsID .ProductInfo productID products then
    if (cell products (productRowNum productID products)).sellerId = sellerID then .own
    else .foreign
  else .absent

/-- What the buffer of a seller's handler must hold for the lookup to be asked. -/
structure SellerRequest (buffer : Text) (sellerID productID : Int32) : Prop where
  seller : numberAt buffer 0 = some sellerID
  product : ∃ ptr toValidate, (tokens buffer)[1]? = some ptr ∧ atoi ptr = productID ∧
    productIdToValidate ptr = some toValidate ∧
    validateIDTarget toValidate = some (some .ProductInfo, productID)

/-- The world after `deleteProduct`. -/
def World.afterDelete (backing : Backing Store) (world : World Store)
    (sellerID productID : Int32) (products : List CsvProductInfo) : World Store :=
  match ownership sellerID productID products with
  | .absent => world.reply "[INVALID]".toList
  | .foreign =>
    ((world.reply "[INVALID]".toList).hand backing .ProductInfo []).reply
      "[CONFIRMATION]".toList
  | .own =>
    ((world.delete productID).hand backing .ProductInfo
      ((DbFile.rows .ProductInfo products).filter fun row => row.productId != productID)).reply
        "[CONFIRMATION]".toList

theorem run_deleteProduct {buffer : Text} {sellerID productID : Int32}
    {products : List CsvProductInfo} (request : SellerRequest buffer sellerID productID)
    (loaded : backing.load world.store .ProductInfo = some products) :
    (deleteProduct buffer).run (exec backing now) world =
      some ((), world.afterDelete backing sellerID productID products) := by
  obtain ⟨ptr, toValidate, second, rfl, copied, target⟩ := request.product
  have looked := run_validateID backing now world target loaded
  simp only [deleteProduct, request.seller, second, copied, orCrash, pure_bind, run_bind,
    looked, Option.bind_some, World.afterDelete, ownership]
  by_cases present : DbFile.holdsID .ProductInfo (atoi ptr) products = true
  · simp only [present, if_true, run_bind, run_semWait, run_loadTable _ _ _ .ProductInfo, loaded,
      Option.bind_some, Option.map_some]
    by_cases owner : (cell products (productRowNum (atoi ptr) products)).sellerId = sellerID
    · simp only [owner, ne_eq, not_true_eq_false, if_false, if_true, run_bind]
      rfl
    · simp [owner, run_bind]
  · simp [present]

/-- The world after `modifyQuantity` or `modifyPrice`. -/
def World.afterModify (backing : Backing Store) (world : World Store)
    (modify : CsvProductInfo → CsvProductInfo) (sellerID productID : Int32)
    (products : List CsvProductInfo) : World Store :=
  match ownership sellerID productID products with
  | .absent => world.reply "[INVALID]".toList
  | .foreign =>
    ((world.reply "[INVALID]".toList).hand backing .ProductInfo products).reply
      "[CONFIRMATION]".toList
  | .own =>
    (world.hand backing .ProductInfo (put products (productRowNum productID products)
      (modify (cell products (productRowNum productID products))))).reply
        "[CONFIRMATION]".toList

theorem run_modifyProduct {modify : Int32 → CsvProductInfo → CsvProductInfo} {buffer : Text}
    {sellerID productID value : Int32} {products : List CsvProductInfo}
    (request : SellerRequest buffer sellerID productID)
    (decoded : numberAt buffer 2 = some value)
    (loaded : backing.load world.store .ProductInfo = some products) :
    (modifyProduct modify buffer).run (exec backing now) world =
      some ((), world.afterModify backing (modify value) sellerID productID products) := by
  obtain ⟨ptr, toValidate, second, rfl, copied, target⟩ := request.product
  have looked := run_validateID backing now world target loaded
  simp only [modifyProduct, request.seller, second, copied, decoded, orCrash, pure_bind,
    run_bind, looked, Option.bind_some, World.afterModify, ownership]
  by_cases present : DbFile.holdsID .ProductInfo (atoi ptr) products = true
  · simp only [present, if_true, run_bind, run_semWait, run_loadTable _ _ _ .ProductInfo, loaded,
      Option.bind_some, Option.map_some]
    by_cases owner : (cell products (productRowNum (atoi ptr) products)).sellerId = sellerID
    · simp [owner, run_bind]
    · simp [owner, run_bind]
  · simp [present]

end Effects

end OnlineStore
