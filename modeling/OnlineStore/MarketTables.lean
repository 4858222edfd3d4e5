/-
This file shows that the server keeps the market's books. The five tables represent a market when
the rows of the billing and CustomerOrder tables are what the orders of the market say, with the
data of the buyers copied into them. Served from tables that represent a market, every request
that the market serves ends, is answered as the market answers it, and leaves tables that
represent the market after it. So do requests one after the other.
-/

import OnlineStore.Charges
import OnlineStore.Market
import OnlineStore.Views

namespace OnlineStore

open CString Cells Prog Registers

namespace Market

variable (market : Market)

/-! ### The tables of a market -/

/-- The bill that the server keeps for an order. -/
def bill (order : Order) : CsvBillingInfo :=
  billingRow order.orderId (market.buyerOf order) order.cost

def bills : List CsvBillingInfo :=
  market.orders.rows.map market.bill

def orderRows : List CsvCustomerOrderInfo :=
  market.items.map fun (order, item) => market.orderRow order item

/-- The tables are those of the market. No scan sees more of SellerInfo than its first rows. -/
structure Represents (tables : Tables) : Prop where
  buyers : tables .CustomerInfo = market.buyers.rows
  sellers : clientRows (tables .SellerInfo) = market.sellers.rows
  products : tables .ProductInfo = market.products.rows
  bills : tables .BillingInfo = market.bills
  orderRows : tables .CustomerOrder = market.orderRows

/-- A world after a request: its tables are those of the market, and the answer has been sent. -/
structure Keeps (answer : Option Answer) (world final : World Tables) : Prop where
  represents : market.Represents final.store
  replies : final.replies = world.replies ++ (answer.map Answer.text).toList

variable {market}

theorem mem_items_iff {order : Order} {item : Item} :
    (order, item) ∈ market.items ↔ order ∈ market.orders.rows ∧ item ∈ order.items := by
  rw [items, List.mem_flatMap]
  constructor
  · rintro ⟨other, member, inside⟩
    obtain ⟨_, listed, same⟩ := List.mem_map.mp inside
    cases same
    exact ⟨member, listed⟩
  · rintro ⟨member, listed⟩
    exact ⟨order, member, List.mem_map_of_mem listed⟩

/-- The buyer of an order is found. -/
theorem buyerOf_uuid {order : Order} (member : order ∈ market.orders.rows) :
    (market.buyerOf order).uuid = order.customerId := by
  obtain ⟨buyer, found⟩ := Option.isSome_iff_exists.mp (market.placed order member)
  rw [buyerOf, found]
  exact (Register.lookup_eq_some_iff.mp found).2

@[simp] theorem orderId_bill (order : Order) : (market.bill order).orderId = order.orderId := rfl

@[simp] theorem totalOrderCost_bill (order : Order) :
    (market.bill order).totalOrderCost = order.cost := rfl

theorem customerId_bill {order : Order} (member : order ∈ market.orders.rows) :
    (market.bill order).customerId = order.customerId :=
  buyerOf_uuid member

theorem bill_ne_zero : ∀ bill ∈ market.bills, bill.orderId ≠ 0 := by
  intro bill member
  obtain ⟨order, inside, rfl⟩ := List.mem_map.mp member
  exact market.orders.named order inside

theorem orderRow_ne_zero : ∀ row ∈ market.orderRows, row.orderId ≠ 0 := by
  intro row member
  obtain ⟨⟨order, item⟩, inside, rfl⟩ := List.mem_map.mp member
  exact market.orders.named order (mem_items_iff.mp inside).1

theorem orderId_bills : market.bills.map CsvBillingInfo.orderId =
    market.orders.rows.map Order.orderId := by
  rw [bills, List.map_map]
  rfl

/-- The order rows stand order by order. -/
theorem orderRows_eq_flatMap (market : Market) :
    market.orderRows = market.orders.rows.flatMap fun order =>
      order.items.map (market.orderRow order) := by
  rw [orderRows, items, List.map_flatMap]
  simp only [List.map_map]
  rfl

/-- Bills and order rows depend on the orders and on their buyers. -/
theorem bills_congr {other : Market} (orders : other.orders = market.orders)
    (buyers : ∀ order ∈ market.orders.rows, other.buyerOf order = market.buyerOf order) :
    other.bills = market.bills := by
  rw [bills, bills, orders]
  refine List.map_congr_left fun order member => ?_
  rw [bill, bill, buyers order member]

theorem orderRows_congr {other : Market} (orders : other.orders = market.orders)
    (buyers : ∀ order ∈ market.orders.rows, other.buyerOf order = market.buyerOf order) :
    other.orderRows = market.orderRows := by
  rw [orderRows, orderRows, items, items, orders]
  refine List.map_congr_left fun (order, item) member => ?_
  simp only [orderRow, buyers order (mem_items_iff.mp member).1]

namespace Represents

variable {tables : Tables} (represents : market.Represents tables)
include represents

theorem billRows : DbFile.rows .BillingInfo (tables .BillingInfo) = market.bills := by
  rw [represents.bills]
  exact rows_eq_self bill_ne_zero

theorem customerOrderRows :
    DbFile.rows .CustomerOrder (tables .CustomerOrder) = market.orderRows := by
  rw [represents.orderRows]
  exact rows_eq_self orderRow_ne_zero

theorem productRows :
    DbFile.rows .ProductInfo (tables .ProductInfo) = market.products.rows := by
  rw [represents.products]
  exact rows_eq_self market.products.named

theorem buyerRows : clientRows (tables .CustomerInfo) = market.buyers.rows := by
  rw [represents.buyers]
  exact clientRows_eq_self market.buyers.named

/-- The clients that are in use are the rows of their table. -/
theorem clientRows_eq (clientType : ClientType) :
    clientRows (tables.clients clientType) = (market.clients clientType).rows := by
  cases clientType with
  | buyer => exact represents.buyerRows
  | seller => exact represents.sellers

/-- Other products, with nothing else changed. -/
theorem withProducts (products : Products) :
    (market.withProducts products).Represents
      (Function.update tables .ProductInfo products.rows) where
  buyers := represents.buyers
  sellers := represents.sellers
  products := Function.update_self ..
  bills := represents.bills
  orderRows := represents.orderRows

/-- The row of a new product is stored behind the others. -/
theorem offer {productId sellerId : Int32} {productName : Chars} {quantity price : Int32}
    (fresh : market.products.Fresh productId) :
    (market.withProducts (market.products.insert
      ⟨productId, productName, sellerId, quantity, price⟩ fresh)).Represents
        (Function.update tables .ProductInfo
          (stockedTable productId sellerId productName quantity price (tables .ProductInfo))) := by
  rw [represents.products, stockedTable_eq_append _ _ _ _ _ market.products.named]
  exact represents.withProducts (market.products.insert _ fresh)

end Represents

/-! ### Operations -/

variable {tables : Tables}

theorem buyerOf_enrol {buyer : CsvClientInfo} (fresh : market.buyers.Fresh buyer.uuid)
    {order : Order} (member : order ∈ market.orders.rows) :
    (market.enrol buyer fresh).buyerOf order = market.buyerOf order := by
  have kept : (market.enrol buyer fresh).buyers.lookup order.customerId =
      market.buyers.lookup order.customerId :=
    Register.lookup_insert_of_isSome fresh (market.placed order member)
  rw [buyerOf, kept, buyerOf]

theorem Represents.enrol (represents : market.Represents tables) {buyer : CsvClientInfo}
    (fresh : market.buyers.Fresh buyer.uuid) :
    (market.enrol buyer fresh).Represents
      (Function.update tables .CustomerInfo (market.buyers.rows ++ [buyer])) where
  buyers := Function.update_self ..
  sellers := represents.sellers
  products := represents.products
  bills := by
    have kept : (market.enrol buyer fresh).bills = market.bills :=
      bills_congr rfl fun order member => buyerOf_enrol fresh member
    exact represents.bills.trans kept.symm
  orderRows := by
    have kept : (market.enrol buyer fresh).orderRows = market.orderRows :=
      orderRows_congr rfl fun order member => buyerOf_enrol fresh member
    exact represents.orderRows.trans kept.symm

/-- The row of a new buyer is stored behind the others. -/
theorem Represents.enrolBuyer (represents : market.Represents tables) {uuid : Int32}
    {firstName lastName streetAddress city state zipCode : Chars}
    (fresh : market.buyers.Fresh uuid) :
    (market.enrol (registeredRow uuid firstName lastName streetAddress city state zipCode)
      fresh).Represents (Function.update tables .CustomerInfo (registeredTable uuid .buyer firstName
        lastName streetAddress city state zipCode (tables .CustomerInfo))) := by
  rw [represents.buyers, registeredTable_eq _ _ _ _ _ _ _ _ market.buyers.named]
  exact represents.enrol fresh

/-- The row of a new seller is stored where no scan sees it. -/
theorem Represents.enrolSeller (represents : market.Represents tables) (uuid : Int32)
    (firstName lastName streetAddress city state zipCode : Chars) :
    market.Represents (Function.update tables .SellerInfo (registeredTable uuid .seller firstName
      lastName streetAddress city state zipCode (tables .SellerInfo))) where
  buyers := represents.buyers
  sellers := by
    rw [Function.update_self, registeredTable, newClientRow, clientRows, clientRows]
    exact (records_put_succ rfl ..).trans represents.sellers
  products := represents.products
  bills := represents.bills
  orderRows := represents.orderRows

/-- The buyer of an order after an edit. -/
theorem buyerOf_edit (id : Int32) (change : InfoEdit) {order : Order}
    (member : order ∈ market.orders.rows) :
    (market.edit .buyer id change).buyerOf order =
      if order.customerId = id then change.apply (market.buyerOf order)
      else market.buyerOf order := by
  obtain ⟨buyer, found⟩ := Option.isSome_iff_exists.mp (market.placed order member)
  have named := (Register.lookup_eq_some_iff.mp found).2
  have changed : (market.edit .buyer id change).buyers.lookup order.customerId =
      (market.buyers.lookup order.customerId).map
        (Register.changeAt CsvClientInfo.uuid id change.apply) :=
    Register.lookup_update id change.apply change.uuid_apply
  rw [buyerOf, changed, buyerOf, found, Option.map_some, Option.getD_some, Option.getD_some,
    Register.changeAt, named]

/-- The bill of an order after an edit of its buyer's data. -/
theorem bill_edit (id : Int32) (change : InfoEdit) {order : Order}
    (member : order ∈ market.orders.rows) :
    (market.edit .buyer id change).bill order =
      editBill change.applyBill id (market.bill order) := by
  rw [editBill, customerId_bill member, bill, buyerOf_edit id change member, bill]
  by_cases own : order.customerId = id
  · rw [if_pos own, if_pos own]
    cases change <;> rfl
  · rw [if_neg own, if_neg own]

theorem orderRow_edit (id : Int32) (change : InfoEdit) {order : Order} (item : Item)
    (member : order ∈ market.orders.rows) :
    (market.edit .buyer id change).orderRow order item =
      if order.customerId = id then change.applyOrder (market.orderRow order item)
      else market.orderRow order item := by
  rw [orderRow, buyerOf_edit id change member]
  by_cases own : order.customerId = id
  · rw [if_pos own, if_pos own]
    cases change <;> rfl
  · rw [if_neg own, if_neg own]
    rfl

/-- The orders whose numbers an edit collects are the buyer's. -/
theorem mem_buyerOrderNums_iff (id : Int32) {order : Order}
    (member : order ∈ market.orders.rows) :
    order.orderId ∈ buyerOrderNums id market.bills ↔ order.customerId = id := by
  rw [buyerOrderNums, rows_eq_self bill_ne_zero]
  constructor
  · intro collected
    obtain ⟨bill, inOwn, same⟩ := List.mem_map.mp collected
    obtain ⟨inBills, own⟩ := List.mem_filter.mp inOwn
    obtain ⟨other, inside, rfl⟩ := List.mem_map.mp inBills
    obtain rfl := Register.eq_of_key_eq member inside same.symm
    exact (customerId_bill member).symm.trans (eq_of_beq own)
  · intro own
    refine List.mem_map.mpr ⟨market.bill order, List.mem_filter.mpr ⟨?_, ?_⟩, rfl⟩
    · exact List.mem_map_of_mem member
    · rw [customerId_bill member, own]
      exact BEq.rfl

/-- An edit of a buyer's data reaches the buyer, the bills of the buyer and the rows of the
buyer's orders. -/
theorem Represents.editBuyer (represents : market.Represents tables) (id : Int32)
    (change : InfoEdit) :
    (market.edit .buyer id change).Represents (editedTables id change tables) where
  buyers := by
    rw [editedTables, represents.buyers]
    exact market.buyers.updateFirst_rows id change.apply change.uuid_apply
  sellers := represents.sellers
  products := represents.products
  bills := by
    have goesOn : ∀ bill ∈ market.bills, DbFile.isEnd .BillingInfo bill = false :=
      fun bill member => by simpa [DbFile.isEnd, DbFile.key] using bill_ne_zero bill member
    rw [editedTables, represents.bills, editBilling, mapRecords_eq_map _ goesOn]
    rw [Market.bills, List.map_map, Market.bills]
    exact List.map_congr_left fun order member => (bill_edit id change member).symm
  orderRows := by
    have goesOn : ∀ row ∈ market.orderRows, DbFile.isEnd .CustomerOrder row = false :=
      fun row member => by simpa [DbFile.isEnd, DbFile.key] using orderRow_ne_zero row member
    rw [editedTables, represents.bills, represents.orderRows, editOrders_eq_mapRecords
      change.orderId_applyOrder change.applyOrder_applyOrder, mapRecords_eq_map _ goesOn]
    rw [Market.orderRows, List.map_map, Market.orderRows]
    refine List.map_congr_left fun entry member => ?_
    obtain ⟨order, item⟩ := entry
    have inside := (mem_items_iff.mp member).1
    simp only [Function.comp_apply, orderRow_edit id change item inside,
      show (market.orderRow order item).orderId = order.orderId from rfl,
      mem_buyerOrderNums_iff id inside]

/-- An edit of a seller's data reaches the seller. -/
theorem Represents.editSeller (represents : market.Represents tables) (id : Int32)
    (change : InfoEdit) :
    (market.edit .seller id change).Represents (Function.update tables .SellerInfo
      (updateFirst (fun row => row.uuid == id) change.apply (tables .SellerInfo))) where
  buyers := represents.buyers
  sellers := by
    rw [Function.update_self, clientRows,
      records_updateFirst fun row => by rw [change.uuid_apply], ← clientRows, represents.sellers]
    exact market.sellers.updateFirst_rows id change.apply change.uuid_apply
  products := represents.products
  bills := represents.bills
  orderRows := represents.orderRows

/-- The market takes an order exactly if the server does. -/
theorem Represents.validateBuyerOrder_iff (represents : market.Represents tables)
    (lines : List OrderLine) :
    validateBuyerOrder (orderItems lines) (tables .ProductInfo) = true ↔
      market.Supplies (orderItems lines) := by
  rw [represents.products, OnlineStore.validateBuyerOrder_iff
    (fun item member => productID_ne_zero_of_mem_orderItems member) market.products.named]
  refine forall₂_congr fun line _ => ?_
  constructor
  · rintro ⟨⟨row, member, same⟩, enough⟩
    exact ⟨row, member, same, Int32.not_lt.mp (enough row member same)⟩
  · rintro ⟨row, member, same, enough⟩
    refine ⟨⟨row, member, same⟩, fun other member' same' => ?_⟩
    obtain rfl := Register.eq_of_key_eq member member' (same.trans same'.symm)
    exact Int32.not_lt.mpr enough

/-- What the loop of `writeOrderToBillingInfo` adds up is the cost of the order. -/
theorem orderCost_eq_cost (orderID buyerID : Int32) (lines : List OrderLine) :
    orderCost (orderItems lines) = (orderOf orderID buyerID lines).cost := by
  have accumulated (items : List ItemOrder) (start : Int32) :
      items.foldl (fun totalOrderCost item =>
        totalOrderCost + item.quantity * item.itemCostPerUnit) start =
        start + ((items.map ItemOrder.bought).map Item.totalPrice).sum := by
    induction items generalizing start with
    | nil => simp
    | cons item items inductionHypothesis =>
      rw [List.foldl_cons, inductionHypothesis, List.map_cons, List.map_cons, List.sum_cons,
        Int32.add_assoc]
      rfl
  rw [orderCost, orderRows_orderItems, accumulated, Int32.zero_add]
  rfl

section Place

variable {order : Order} (lines : List ItemOrder) (fresh : market.orders.Fresh order.orderId)
variable (known : (market.buyers.lookup order.customerId).isSome)

theorem bills_place :
    (market.place order lines fresh known).bills = market.bills ++ [market.bill order] := by
  have appended : (market.place order lines fresh known).orders.rows =
      market.orders.rows ++ [order] := rfl
  rw [bills, appended, List.map_append]
  rfl

theorem orderRows_place :
    (market.place order lines fresh known).orderRows =
      market.orderRows ++ order.items.map (market.orderRow order) := by
  have appended : (market.place order lines fresh known).items =
      market.items ++ order.items.map fun item => (order, item) := by
    have rows : (market.place order lines fresh known).orders.rows =
        market.orders.rows ++ [order] := rfl
    rw [items, rows, List.flatMap_append, List.flatMap_singleton, items]
  rw [orderRows, appended, List.map_append, List.map_map]
  rfl

end Place

/-- An order appends its bill and its rows, and sells what its lines ask for. -/
theorem Represents.place (represents : market.Represents tables) {orderID buyerID : Int32}
    {buyer : CsvClientInfo} {lines : List OrderLine}
    (fresh : market.orders.Fresh (orderOf orderID buyerID lines).orderId)
    (known : (market.buyers.lookup (orderOf orderID buyerID lines).customerId).isSome)
    (found : market.buyers.lookup buyerID = some buyer) :
    (market.place (orderOf orderID buyerID lines) (orderItems lines) fresh known).Represents
      (Function.update (Function.update (Function.update tables
        .ProductInfo (sellAll (orderItems lines) (tables .ProductInfo)))
        .BillingInfo (billedTable orderID buyer (orderItems lines) (tables .BillingInfo)))
        .CustomerOrder (orderedTable orderID buyer (orderItems lines) (tables .CustomerOrder)))
    where
  buyers := represents.buyers
  sellers := represents.sellers
  products := by
    have sold : sellAll (orderItems lines) market.products.rows = _ :=
      sellAll_eq_map market.products.distinct
    exact (congrArg (sellAll _) represents.products).trans sold
  bills := by
    have ordered : market.buyerOf (orderOf orderID buyerID lines) = buyer :=
      congrArg (Option.getD · default) found
    have billed : market.bill (orderOf orderID buyerID lines) =
        billingRow orderID buyer (orderCost (orderItems lines)) := by
      rw [bill, ordered, orderCost_eq_cost orderID buyerID]
      rfl
    rw [Function.update_of_ne (by decide), Function.update_self, bills_place, billed, billedTable,
      represents.billRows, represents.bills]
    exact put_length ..
  orderRows := by
    have ordered : market.buyerOf (orderOf orderID buyerID lines) = buyer :=
      congrArg (Option.getD · default) found
    have rows : (orderOf orderID buyerID lines).items.map
        (market.orderRow (orderOf orderID buyerID lines)) =
          (orderItems lines).map (customerOrderRow orderID buyer) := by
      rw [orderOf, List.map_map]
      refine List.map_congr_left fun line _ => ?_
      rw [orderOf] at ordered
      rw [Function.comp_apply, orderRow, ordered]
      rfl
    rw [Function.update_self, orderRows_place, rows, orderedTable, orderRows_orderItems,
      represents.customerOrderRows, represents.orderRows]
    exact putAll_length ..

/-! ### Returns -/

/-- What a return takes off the items of an order. -/
theorem cost_without (order : Order) (productID : Int32) :
    (order.without productID).cost = order.cost - order.costOf productID := by
  have split (items : List Item) :
      ((items.filter fun item => item.productId != productID).map Item.totalPrice).sum =
        (items.map Item.totalPrice).sum -
          ((items.filter fun item => item.productId == productID).map Item.totalPrice).sum := by
    induction items with
    | nil => simp
    | cons item items inductionHypothesis =>
      by_cases returned : item.productId = productID
      · simp [returned, inductionHypothesis]
        grind
      · simp [returned, inductionHypothesis]
        grind
  exact split order.items

/-- The items of one order. -/
theorem items_filter {order : Order} {orderID : Int32}
    (found : market.orders.lookup orderID = some order) :
    (market.items.filter fun (other, _) => other.orderId == orderID) =
      order.items.map fun item => (order, item) := by
  have each (other : Order) : ((other.items.map fun item => (other, item)).filter
      fun (other, _) => other.orderId == orderID) =
        if other.orderId = orderID then other.items.map fun item => (other, item) else [] := by
    by_cases same : other.orderId = orderID <;> simp [same]
  rw [items, List.filter_flatMap, funext each, Register.flatMap_rows, found]
  simp

/-- The rows of one order. -/
theorem orderRows_filter {order : Order} {orderID : Int32}
    (found : market.orders.lookup orderID = some order) :
    (market.orderRows.filter fun row => row.orderId == orderID) =
      order.items.map (market.orderRow order) := by
  have chosen : (fun row : CsvCustomerOrderInfo => row.orderId == orderID) ∘
      (fun (order, item) => market.orderRow order item) =
        fun (other, _) => other.orderId == orderID := rfl
  rw [orderRows, List.filter_map, chosen, items_filter found, List.map_map]
  rfl

section TakeBack

variable {order : Order} {orderID productID price : Int32}

/-- The bills after a return from an order that is there. -/
theorem bills_takeBack (found : market.orders.lookup orderID = some order)
    (taken : order.costOf productID = price) :
    (market.takeBack orderID productID).bills =
      market.bills.map (CsvBillingInfo.reduce orderID price) := by
  have changed : (market.takeBack orderID productID).orders.rows =
      market.orders.rows.map (Register.changeAt Order.orderId orderID
        (Order.without productID)) := rfl
  obtain ⟨member, named⟩ := Register.lookup_eq_some_iff.mp found
  rw [bills, changed, List.map_map, bills, List.map_map]
  refine List.map_congr_left fun other inside => ?_
  rw [Function.comp_apply, Function.comp_apply, Register.changeAt, CsvBillingInfo.reduce,
    orderId_bill]
  by_cases same : other.orderId = orderID
  · obtain rfl := Register.eq_of_key_eq inside member (same.trans named.symm)
    rw [if_pos same, if_pos same, bill, cost_without, taken]
    rfl
  · rw [if_neg same, if_neg same]
    rfl

/-- The order rows after the return of a product that is in no other order. -/
theorem orderRows_takeBack (alone : ∀ other ∈ market.orders.rows, other.orderId ≠ orderID →
      ∀ item ∈ other.items, item.productId ≠ productID) :
    (market.takeBack orderID productID).orderRows =
      market.orderRows.filter fun row => row.productId != productID := by
  have changed : (market.takeBack orderID productID).orders.rows =
      market.orders.rows.map (Register.changeAt Order.orderId orderID
        (Order.without productID)) := rfl
  rw [orderRows_eq_flatMap, changed, List.flatMap_map, orderRows_eq_flatMap, List.filter_flatMap]
  refine List.flatMap_congr fun other inside => ?_
  rw [List.filter_map, Register.changeAt]
  by_cases same : other.orderId = orderID
  · rw [if_pos same]
    rfl
  · rw [if_neg same]
    have kept : other.items.filter ((fun row : CsvCustomerOrderInfo =>
        row.productId != productID) ∘ market.orderRow other) = other.items :=
      List.filter_eq_self.mpr fun item member => by
        simpa [orderRow] using alone other inside same item member
    rw [kept]
    rfl

/-- The loop that copies the other products sees every row. -/
theorem removeProduct_orderRows :
    removeProduct productID market.orderRows =
      market.orderRows.filter fun row => row.productId != productID := by
  have named : ∀ row ∈ market.orderRows, (row.productId == 0) = false := by
    intro row member
    obtain ⟨⟨order, item⟩, inside, rfl⟩ := List.mem_map.mp member
    simpa [orderRow] using order.named item (mem_items_iff.mp inside).2
  rw [removeProduct, records_eq_self named]

/-- A return finds the order and its bill, and leaves the tables of the market after it. -/
theorem Represents.takeBack (represents : market.Represents tables)
    (found : market.orders.lookup orderID = some order)
    (returnable : market.Returnable order productID) :
    ∃ orderRow billRow,
      search (fun row => row.orderId == orderID) (tables .CustomerOrder) = some orderRow ∧
      search (fun row => row.orderId == orderID) (tables .BillingInfo) = some billRow ∧
      (market.takeBack orderID productID).Represents
        (Function.update (Function.update tables
          .CustomerOrder (removeProduct productID (tables .CustomerOrder)))
          .BillingInfo (refundedTable (tables .BillingInfo) billRow
            (cell (tables .CustomerOrder) orderRow).totalPrice)) := by
  obtain ⟨first, alone⟩ := returnable
  obtain ⟨member, named⟩ := Register.lookup_eq_some_iff.mp found
  obtain ⟨item, head, price⟩ := Option.map_eq_some_iff.mp first
  have located : market.orderRows.find? (fun row => row.orderId == orderID) =
      some (market.orderRow order item) := by
    rw [← List.head?_filter, orderRows_filter found, List.head?_map, head]
    rfl
  obtain ⟨orderRow, -, foundRow, data⟩ := search_of_find? located
  have distinct : (market.bills.map CsvBillingInfo.orderId).Nodup :=
    orderId_bills ▸ market.orders.distinct
  obtain ⟨billRow, foundBill, reduced⟩ := refundedTable_eq_map item.totalPrice distinct
    ⟨market.bill order, List.mem_map_of_mem member, named⟩
  rw [named] at alone
  rw [represents.orderRows, represents.bills, foundRow, foundBill]
  refine ⟨orderRow, billRow, rfl, rfl, represents.buyers, represents.sellers,
    represents.products, ?_, ?_⟩
  · rw [Function.update_self, bills_takeBack found price.symm, data]
    exact reduced
  · rw [Function.update_of_ne (by decide), Function.update_self, orderRows_takeBack alone]
    exact removeProduct_orderRows

end TakeBack

/-! ### Answers -/

namespace Represents

variable (represents : market.Represents tables)
include represents

theorem holdsID (id : Int32) (database : DbFile) :
    database.holdsID id (tables database) = market.holds id database := by
  have looked {Row : Type} {key : Row → Int32} (register : Register Row Int32 key 0) :
      (register.rows.any fun row => key row == id) = (register.lookup id).isSome := by
    rw [Bool.eq_iff_iff, List.any_eq_true, Register.lookup, List.find?_isSome]
  cases database with
  | CustomerInfo =>
    exact (congrArg (List.any · _) represents.buyerRows).trans (looked market.buyers)
  | SellerInfo => exact (congrArg (List.any · _) represents.sellers).trans (looked market.sellers)
  | ProductInfo =>
    exact (congrArg (List.any · _) represents.productRows).trans (looked market.products)
  | BillingInfo =>
    refine (congrArg (List.any · _) represents.billRows).trans (Eq.trans ?_ (looked market.orders))
    exact List.any_map
  | CustomerOrder =>
    exact (congrArg (List.any · _) represents.customerOrderRows).trans List.any_map

theorem buyerOrdersReply_eq (id : Int32) :
    buyerOrdersReply id (tables .BillingInfo) =
      (Answer.bills (market.orders.rows.filter fun order => order.customerId == id)).text := by
  rw [buyerOrdersReply, represents.billRows, Market.bills, List.filter_map, List.flatMap_map]
  have own : market.orders.rows.filter
      ((fun bill : CsvBillingInfo => bill.customerId == id) ∘ market.bill) =
        market.orders.rows.filter fun order => order.customerId == id :=
    List.filter_congr fun order member => by rw [Function.comp_apply, customerId_bill member]
  rw [own]
  rfl

theorem buyerInfoReply_eq (id : Int32) :
    buyerInfoReply id (tables .CustomerInfo) =
      (Answer.personal (market.buyers.lookup id).toList).text := by
  rw [buyerInfoReply, represents.buyerRows, Register.filter_rows]
  rfl

theorem orderDetailsReply_eq (orderID : Int32) :
    orderDetailsReply orderID (tables .ProductInfo) (tables .CustomerOrder) =
      (Answer.details ((market.items.filter fun (order, _) =>
        order.orderId == orderID).filterMap fun (_, item) =>
          (market.products.lookup item.productId).map fun row => (item, row))).text := by
  have turned (id : Int32) : (fun row : CsvProductInfo => id == row.productId) =
      fun row => row.productId == id := funext fun row => Bool.beq_comm
  rw [orderDetailsReply, represents.customerOrderRows, represents.productRows, Market.orderRows,
    List.filter_map, List.flatMap_map]
  simp only [turned, Register.filter_rows]
  rw [Answer.text, List.filterMap_eq_flatMap_toList, List.flatMap_assoc]
  refine List.flatMap_congr fun (order, item) _ => ?_
  rw [orderRow]
  cases market.products.lookup item.productId <;> simp

theorem sellerOrdersReply_eq (sellerID : Int32) :
    sellerOrdersReply sellerID (tables .ProductInfo) (tables .CustomerOrder) =
      (Answer.sales ((market.products.rows.filter fun row =>
        row.sellerId == sellerID).flatMap fun row =>
          (market.items.filter fun (_, item) => item.productId == row.productId).map
            fun (order, item) => market.orderRow order item)).text := by
  rw [sellerOrdersReply, represents.customerOrderRows, represents.productRows, List.flatMap_map,
    Answer.text, List.flatMap_assoc]
  refine List.flatMap_congr fun row _ => ?_
  rw [Market.orderRows, List.filter_map]
  rfl

/-- A seller who is shown every product. -/
theorem viewedProducts_eq (sellers : ∀ row ∈ market.products.rows, row.sellerId ≠ 0) :
    viewedProducts ClientType.seller.tag (tables .ProductInfo) = market.products.rows := by
  rw [viewedProducts_seller, productsBeforeSellerless, represents.productRows]
  exact List.takeWhile_eq_self_iff.mpr fun row member => by simpa using sellers row member

end Represents

/-! ### Requests -/

section Serve

variable {world : World Tables} (represents : market.Represents world.store)
include represents

/-- A request that changes nothing is answered. -/
theorem Represents.keeps_reply {answer : Answer} {text : Text} (same : text = answer.text) :
    market.Keeps (some answer) world (world.reply text) where
  represents := represents
  replies := by rw [World.reply_replies, same]; rfl

theorem Represents.ownership (sellerID productID : Int32) :
    ownership sellerID productID (world.store .ProductInfo) =
      match market.products.lookup productID with
      | none => .absent
      | some row => if row.sellerId = sellerID then .own else .foreign := by
  rw [ownership_eq, represents.productRows]
  rfl

/-- A seller withdraws a product. -/
theorem Represents.keeps_delete {sellerID productID : Int32} {next : Market}
    {answer : Option Answer} (served : market.asOwner sellerID productID
      (market.products.remove productID) = some (next, answer)) :
    next.Keeps answer world
      (world.afterDelete tableBacking sellerID productID (world.store .ProductInfo)) := by
  rw [asOwner] at served
  rw [World.afterDelete, represents.ownership]
  cases found : market.products.lookup productID with
  | none =>
    rw [found] at served
    cases served
    exact represents.keeps_reply rfl
  | some row =>
    simp only [found] at served
    split at served
    · next own =>
      cases served
      simp only [own, if_true, represents.productRows]
      exact ⟨represents.withProducts (market.products.remove productID), rfl⟩
    · cases served

/-- A seller changes a product. -/
theorem Represents.keeps_modify {sellerID productID : Int32} {next : Market}
    {answer : Option Answer} {change : CsvProductInfo → CsvProductInfo}
    (keeps : ∀ row, (change row).productId = row.productId)
    (served : market.asOwner sellerID productID
      (market.products.update productID change keeps) = some (next, answer)) :
    next.Keeps answer world (world.afterModify tableBacking change sellerID productID
      (world.store .ProductInfo)) := by
  rw [asOwner] at served
  rw [World.afterModify, represents.ownership]
  cases found : market.products.lookup productID with
  | none =>
    rw [found] at served
    cases served
    exact represents.keeps_reply rfl
  | some row =>
    simp only [found] at served
    split at served
    · next own =>
      cases served
      obtain ⟨member, named⟩ := Register.lookup_eq_some_iff.mp found
      have rows := represents.productRows
      rw [← represents.products] at rows
      have updated := put_productRowNum rows ⟨row, represents.products ▸ member, named⟩ change
      rw [represents.products, market.products.updateFirst_rows productID change keeps] at updated
      simp only [own, if_true, represents.products, updated]
      exact ⟨represents.withProducts (market.products.update productID change keeps), rfl⟩
    · cases served

/-- A client edits the own data. -/
theorem Represents.keeps_edit (rand : Rand) (now : Nat) (clientType : ClientType)
    (clientID : Token 20) (change : InfoEdit)
    (known : ((market.clients clientType).lookup clientID.number).isSome) :
    ∃ final, Request.effect tableBacking rand now world.store world
        (.editInfo clientType clientID change) = some final ∧
      (market.edit clientType clientID.number change).Keeps (some (.verdict true)) world
        final := by
  obtain ⟨row, found⟩ := Option.isSome_iff_exists.mp known
  have existing : ∃ row ∈ clientRows (world.store.clients clientType),
      row.uuid = clientID.number := by
    rw [represents.clientRows_eq]
    exact ⟨row, Register.lookup_eq_some_iff.mp found⟩
  obtain ⟨edited, ran, silent⟩ := World.edit_replies tableBacking world.store world change existing
  rw [Request.effect, ran]
  refine ⟨edited.reply "[CONFIRMATION]".toList, rfl, ?_, by rw [World.reply_replies, silent]; rfl⟩
  cases clientType with
  | buyer =>
    obtain ⟨next, served, tables⟩ := serve_editInfo_buyer rand now change existing
    rw [serve_message rand now (fun _ => rfl), Request.effect, ran, Option.map_some,
      Option.some.injEq] at served
    rw [served, tables]
    exact represents.editBuyer clientID.number change
  | seller =>
    obtain ⟨row, member, named⟩ := existing
    obtain ⟨place, -, located, -, -, updated⟩ := put_of_search
      (fun row : CsvClientInfo => row.uuid == clientID.number) change.apply
      ⟨row, mem_of_mem_records member, beq_iff_eq.mpr named⟩
    have one : world.edit tableBacking world.store .seller clientID.number change =
        world.editClient tableBacking world.store .seller change.apply clientID.number := by
      cases change <;> rfl
    rw [one, World.editClient, located, Option.map_some, Option.some.injEq, updated] at ran
    rw [World.reply_store, ← ran]
    exact represents.editSeller clientID.number change

/-- A buyer orders. -/
theorem Represents.keeps_order (rand : Rand) (now : Nat) (buyerID : Token 20)
    (lines : List OrderLine) {next : Market} {answer : Option Answer}
    (served : market.serve (uidAt rand now) (.completeOrder buyerID lines) =
      some (next, answer)) :
    ∃ final, Request.effect tableBacking rand now world.store world
        (.completeOrder buyerID lines) = some final ∧ next.Keeps answer world final := by
  have decides := represents.validateBuyerOrder_iff lines
  rw [Market.serve] at served
  rw [Request.effect, World.order]
  by_cases supplied : market.Supplies (orderItems lines)
  · have accepted := decides.mpr supplied
    rw [if_pos supplied] at served
    split at served
    · next allowed =>
      cases served
      obtain ⟨buyer, found⟩ := Option.isSome_iff_exists.mp allowed.2
      obtain ⟨row, located, data⟩ := findBuyerInClientInfo_of_find? found
      have listed := allListed_of_accepted
        (fun line inLines => productID_ne_zero_of_mem_orderItems inLines) accepted
      rw [← represents.buyers] at located data
      rw [if_pos accepted, located, deductOrder_of_allListed listed, Option.bind_some,
        Option.map_some, data]
      exact ⟨_, rfl, represents.place allowed.1 allowed.2 found, rfl⟩
    · cases served
  · have rejected : ¬validateBuyerOrder (orderItems lines) (world.store .ProductInfo) = true :=
      fun accepted => supplied (decides.mp accepted)
    rw [if_neg supplied] at served
    cases served
    rw [if_neg rejected]
    exact ⟨_, rfl, represents.keeps_reply rfl⟩

/-- Every request that the market serves ends, and keeps the tables those of the market. -/
theorem Represents.effect (rand : Rand) (now : Nat) (request : Request) {next : Market}
    {answer : Option Answer}
    (served : market.serve (uidAt rand now) request = some (next, answer)) :
    ∃ final, request.effect tableBacking rand now world.store world = some final ∧
      next.Keeps answer world final := by
  cases request with
  | newClient clientType firstName lastName phoneNumber streetAddress city state zipCode =>
    cases clientType with
    | buyer =>
      rw [Market.serve] at served
      split at served
      · next fresh =>
        cases served
        exact ⟨_, rfl, represents.enrolBuyer fresh, rfl⟩
      · cases served
    | seller =>
      cases served
      exact ⟨_, rfl, represents.enrolSeller .., rfl⟩
  | validateID sought database =>
    cases served
    exact ⟨_, rfl, represents.keeps_reply (by rw [represents.holdsID]; rfl)⟩
  | viewProducts sellerID =>
    cases sellerID with
    | none =>
      cases served
      refine ⟨_, rfl, represents.keeps_reply ?_⟩
      exact congrArg (List.flatMap productReply) represents.productRows
    | some sellerID =>
      rw [Market.serve] at served
      split at served
      · next sellers =>
        cases served
        refine ⟨_, rfl, represents.keeps_reply ?_⟩
        rw [represents.viewedProducts_eq sellers]
        rfl
      · cases served
  | completeOrder buyerID lines => exact represents.keeps_order rand now buyerID lines served
  | viewBuyerOrders buyerID =>
    cases served
    exact ⟨_, rfl, represents.keeps_reply (represents.buyerOrdersReply_eq _)⟩
  | checkBuyer buyerID orderID =>
    rw [Request.effect, represents.bills, Market.bills, ownershipAnswer]
    rw [Market.serve] at served
    cases listed : market.orders.rows with
    | nil =>
      rw [listed] at served
      cases served
      exact ⟨_, rfl, represents.keeps_reply rfl⟩
    | cons order rest =>
      have member : order ∈ market.orders.rows := listed ▸ List.mem_cons_self
      have first : cell ((order :: rest).map market.bill) 0 = market.bill order := rfl
      simp only [listed] at served
      split at served
      · next same =>
        cases served
        rw [first, customerId_bill member, orderId_bill, if_neg (market.orders.named order member),
          if_pos same]
        exact ⟨_, rfl, represents.keeps_reply rfl⟩
      · cases served
  | orderDetails orderID =>
    cases served
    exact ⟨_, rfl, represents.keeps_reply (represents.orderDetailsReply_eq _)⟩
  | modOrder orderID productIDtoReturn =>
    rw [Market.serve] at served
    cases found : market.orders.lookup orderID.number with
    | none => simp [found] at served
    | some order =>
      simp only [found] at served
      split at served
      · next returnable =>
        cases served
        obtain ⟨orderRow, billRow, foundRow, foundBill, after⟩ :=
          represents.takeBack found returnable
        rw [Request.effect, foundRow, foundBill]
        exact ⟨_, rfl, after, (List.append_nil _).symm⟩
      · cases served
  | viewBilling buyerID =>
    cases served
    exact ⟨_, rfl, represents.keeps_reply (represents.buyerInfoReply_eq _)⟩
  | editInfo clientType clientID change =>
    rw [Market.serve] at served
    split at served
    · next known =>
      cases served
      exact represents.keeps_edit rand now clientType clientID change known
    · cases served
  | newProduct sellerID productName quantity price =>
    rw [Market.serve] at served
    split at served
    · next fresh =>
      cases served
      exact ⟨_, rfl, represents.offer fresh, rfl⟩
    · cases served
  | deleteProd sellerID productID => exact ⟨_, rfl, represents.keeps_delete served⟩
  | modQuant sellerID productID quantity => exact ⟨_, rfl, represents.keeps_modify _ served⟩
  | modPrice sellerID productID price => exact ⟨_, rfl, represents.keeps_modify _ served⟩
  | sellerOrders sellerID =>
    cases served
    exact ⟨_, rfl, represents.keeps_reply (represents.sellerOrdersReply_eq _)⟩

end Serve

end Market

end OnlineStore
