/-
This file is about runs of a server that keeps a market's books.

Which tables are those of a market can be said of the tables alone: the ids are distinct, the
copies of the buyers' data agree, every bill is of a buyer and adds up the rows of its order, and
the rows of the orders stand in the order of their bills. From such tables, whatever requests the
market serves, one after the other, the server answers as the market does and keeps its books.
-/

import OnlineStore.MarketTables
import OnlineStore.OrderDetails

namespace OnlineStore

open CString Cells Prog Registers

/-! ### Runs -/

/-- The tables of a market stay those of the market over requests that it serves. -/
theorem Market.Represents.serveAll (rand : Rand) (requests : List (Nat × Request))
    {market final : Market} {answers : List Market.Answer} {world : World Tables}
    (represents : market.Represents world.store)
    (served : market.serveAll rand requests = some (final, answers)) :
    ∃ world', OnlineStore.serveAll tableBacking rand requests world = some world' ∧
      final.Represents world'.store ∧
      world'.replies = world.replies ++ answers.map Market.Answer.text := by
  induction requests generalizing market answers world with
  | nil =>
    cases served
    exact ⟨world, rfl, represents, (List.append_nil _).symm⟩
  | cons step requests inductionHypothesis =>
    obtain ⟨now, request⟩ := step
    obtain ⟨⟨next, answer⟩, one, rest⟩ := Option.bind_eq_some_iff.mp served
    obtain ⟨⟨last, others⟩, later, ends⟩ := Option.bind_eq_some_iff.mp rest
    cases ends
    obtain ⟨middle, effect, keeps⟩ := represents.effect rand now request one
    have first : OnlineStore.serve tableBacking rand now request.message world = some middle :=
      (serve_message rand now (fun _ => rfl) request).trans effect
    obtain ⟨world', ran, represents', replies⟩ := inductionHypothesis keeps.represents later
    refine ⟨world', ?_, represents', ?_⟩
    · rw [OnlineStore.serveAll, first]
      exact ran
    · rw [replies, keeps.replies, List.append_assoc, List.map_append]
      cases answer <;> rfl

/-- A server that is started on the tables of a market answers requests in turn as the market
does, as long as the market serves them, and its tables are those of the market after them. -/
theorem Market.serveAll_keeps (rand : Rand) (requests : List (Nat × Request))
    {market final : Market} {answers : List Market.Answer} {tables : Tables}
    (represents : market.Represents tables)
    (served : market.serveAll rand requests = some (final, answers)) :
    ∃ world, OnlineStore.serveAll tableBacking rand requests ⟨tables, [], [], []⟩ = some world ∧
      final.Represents world.store ∧ world.replies = answers.map Market.Answer.text :=
  Market.Represents.serveAll rand requests
    (show market.Represents (World.store ⟨tables, [], [], []⟩) from represents) served

/-! ### Tables in order -/

/-- The item that a row of CustomerOrder is about. -/
def CsvCustomerOrderInfo.item (row : CsvCustomerOrderInfo) : Item where
  productId := row.productId
  quantityPurchased := row.quantityPurchased
  totalPrice := row.totalPrice

/-- The books are in order. -/
structure Booked (tables : Tables) : Prop where
  consistent : ConsistentTables (tables .CustomerInfo) (tables .BillingInfo)
    (tables .CustomerOrder)
  buyers : ∀ row ∈ tables .CustomerInfo, row.uuid ≠ 0
  sellers : ((clientRows (tables .SellerInfo)).map CsvClientInfo.uuid).Nodup
  products : ((tables .ProductInfo).map CsvProductInfo.productId).Nodup
  productIds : ∀ row ∈ tables .ProductInfo, row.productId ≠ 0
  bills : ((tables .BillingInfo).map CsvBillingInfo.orderId).Nodup
  orderIds : ∀ bill ∈ tables .BillingInfo, bill.orderId ≠ 0
  known : ∀ bill ∈ tables .BillingInfo,
    ∃ row ∈ tables .CustomerInfo, row.uuid = bill.customerId
  totals : ∀ bill ∈ tables .BillingInfo, bill.totalOrderCost =
    ((rowsOfOrder bill.orderId (tables .CustomerOrder)).map CsvCustomerOrderInfo.totalPrice).sum
  grouped : tables .CustomerOrder = (tables .BillingInfo).flatMap fun bill =>
    rowsOfOrder bill.orderId (tables .CustomerOrder)
  named : ∀ row ∈ tables .CustomerOrder, row.productId ≠ 0

namespace Market

variable {market : Market} {tables : Tables}

/-- The order of a bill is looked up under the number of the bill. -/
theorem exists_order_of_mem_bills {bill : CsvBillingInfo} (member : bill ∈ market.bills) :
    ∃ order ∈ market.orders.rows, market.orders.lookup bill.orderId = some order ∧
      bill = market.bill order := by
  obtain ⟨order, inside, rfl⟩ := List.mem_map.mp member
  exact ⟨order, inside, Register.lookup_eq_some_iff.mpr ⟨inside, rfl⟩, rfl⟩

theorem rowsOfOrder_orderRows {order : Order} {orderID : Int32}
    (found : market.orders.lookup orderID = some order) :
    rowsOfOrder orderID market.orderRows = order.items.map (market.orderRow order) := by
  rw [rowsOfOrder, rows_eq_self orderRow_ne_zero, orderRows_filter found]

/-- The copies in the tables of a market agree. -/
theorem consistent : Consistent market.buyers.rows market.bills market.orderRows where
  distinct := market.buyers.distinct
  oneCustomer bill member other member' same := by
    obtain ⟨order, -, found, rfl⟩ := exists_order_of_mem_bills member
    obtain ⟨order', -, found', rfl⟩ := exists_order_of_mem_bills member'
    rw [same, found'] at found
    rw [Option.some.inj found]
  billCopies bill member client inside same := by
    obtain ⟨order, inOrders, -, rfl⟩ := exists_order_of_mem_bills member
    obtain ⟨buyer, found⟩ := Option.isSome_iff_exists.mp (market.placed order inOrders)
    obtain ⟨inBuyers, named⟩ := Register.lookup_eq_some_iff.mp found
    rw [customerId_bill inOrders] at same
    obtain rfl := Register.eq_of_key_eq inside inBuyers (same.trans named.symm)
    rw [bill, buyerOf, found]
    rfl
  orderCopies row member bill inside same := by
    obtain ⟨⟨order, item⟩, listed, rfl⟩ := List.mem_map.mp member
    obtain ⟨order', inOrders, -, rfl⟩ := exists_order_of_mem_bills inside
    obtain rfl := Register.eq_of_key_eq inOrders (mem_items_iff.mp listed).1 same
    rfl

theorem Represents.booked (represents : market.Represents tables) : Booked tables where
  consistent := by
    rw [ConsistentTables, represents.buyerRows, represents.billRows, represents.customerOrderRows]
    exact consistent
  buyers := represents.buyers ▸ market.buyers.named
  sellers := represents.sellers ▸ market.sellers.distinct
  products := represents.products ▸ market.products.distinct
  productIds := represents.products ▸ market.products.named
  bills := by
    rw [represents.bills, orderId_bills]
    exact market.orders.distinct
  orderIds := represents.bills ▸ bill_ne_zero
  known := by
    rw [represents.bills, represents.buyers]
    intro bill member
    obtain ⟨order, inside, -, rfl⟩ := exists_order_of_mem_bills member
    obtain ⟨buyer, found⟩ := Option.isSome_iff_exists.mp (market.placed order inside)
    obtain ⟨inBuyers, named⟩ := Register.lookup_eq_some_iff.mp found
    exact ⟨buyer, inBuyers, named.trans (customerId_bill inside).symm⟩
  totals := by
    rw [represents.bills, represents.orderRows]
    intro bill member
    obtain ⟨order, inside, found, rfl⟩ := exists_order_of_mem_bills member
    rw [rowsOfOrder_orderRows found, List.map_map]
    rfl
  grouped := by
    rw [represents.bills, represents.orderRows, Market.bills, List.flatMap_map]
    have each : ∀ order ∈ market.orders.rows,
        rowsOfOrder (market.bill order).orderId market.orderRows =
          order.items.map (market.orderRow order) := fun order inside =>
      rowsOfOrder_orderRows (Register.lookup_eq_some_iff.mpr ⟨inside, rfl⟩)
    rw [List.flatMap_congr each]
    exact orderRows_eq_flatMap market
  named := by
    rw [represents.orderRows]
    intro row member
    obtain ⟨⟨order, item⟩, listed, rfl⟩ := List.mem_map.mp member
    obtain ⟨inside, inItems⟩ := mem_items_iff.mp listed
    exact order.named item inItems

end Market

namespace Booked

variable {tables : Tables} (booked : Booked tables)

/-- The order that a bill is for. -/
def order (bill : CsvBillingInfo) : Order where
  orderId := bill.orderId
  customerId := bill.customerId
  items := (rowsOfOrder bill.orderId (tables .CustomerOrder)).map CsvCustomerOrderInfo.item
  named item member := by
    obtain ⟨row, inside, rfl⟩ := List.mem_map.mp member
    exact booked.named row (mem_of_mem_records (List.mem_of_mem_filter inside))

def market : Market where
  buyers := ⟨tables .CustomerInfo, clientRows_eq_self booked.buyers ▸ booked.consistent.distinct,
    booked.buyers⟩
  sellers := ⟨clientRows (tables .SellerInfo), booked.sellers, fun row member => by
    simpa using stop_of_mem_records member⟩
  products := ⟨tables .ProductInfo, booked.products, booked.productIds⟩
  orders := ⟨(tables .BillingInfo).map booked.order, by
    rw [List.map_map]
    exact booked.bills, fun order member => by
    obtain ⟨bill, inside, rfl⟩ := List.mem_map.mp member
    exact booked.orderIds bill inside⟩
  placed order member := by
    obtain ⟨bill, inside, rfl⟩ := List.mem_map.mp member
    obtain ⟨buyer, inBuyers, named⟩ := booked.known bill inside
    exact List.find?_isSome.mpr ⟨buyer, inBuyers, beq_iff_eq.mpr named⟩

/-- The buyer of an order has the id and the data that its bill carries. -/
theorem buyerOf_order {bill : CsvBillingInfo} (member : bill ∈ tables .BillingInfo) :
    (booked.market.buyerOf (booked.order bill)).uuid = bill.customerId ∧
      (booked.market.buyerOf (booked.order bill)).personal = bill.personal := by
  obtain ⟨buyer, inBuyers, named⟩ := booked.known bill member
  have found : booked.market.buyers.lookup (booked.order bill).customerId = some buyer :=
    Register.lookup_eq_some_iff.mpr ⟨inBuyers, named⟩
  have data : booked.market.buyerOf (booked.order bill) = buyer :=
    congrArg (Option.getD · default) found
  have copied := booked.consistent.billCopies bill
    ((rows_eq_self booked.orderIds).symm ▸ member) buyer
    ((clientRows_eq_self booked.buyers).symm ▸ inBuyers) named
  rw [data]
  exact ⟨named, copied.symm⟩

theorem bill_order {bill : CsvBillingInfo} (member : bill ∈ tables .BillingInfo) :
    booked.market.bill (booked.order bill) = bill := by
  obtain ⟨customer, copied⟩ := booked.buyerOf_order member
  have cost : (booked.order bill).cost = bill.totalOrderCost := by
    rw [booked.totals bill member, Order.cost, order, List.map_map]
    rfl
  simp only [CsvClientInfo.personal, CsvBillingInfo.personal, Personal.mk.injEq] at copied
  obtain ⟨firstName, lastName, streetAddress, city, state, zipCode⟩ := copied
  rw [Market.bill, billingRow, customer, firstName, lastName, streetAddress, city, state, zipCode,
    cost]
  rfl

theorem orderRow_order {bill : CsvBillingInfo} (member : bill ∈ tables .BillingInfo)
    {row : CsvCustomerOrderInfo} (inside : row ∈ rowsOfOrder bill.orderId (tables .CustomerOrder)) :
    booked.market.orderRow (booked.order bill) row.item = row := by
  obtain ⟨inRows, number⟩ := List.mem_filter.mp inside
  have copied := booked.consistent.orderCopies row inRows bill
    ((rows_eq_self booked.orderIds).symm ▸ member) (eq_of_beq number).symm
  rw [← (booked.buyerOf_order member).2] at copied
  simp only [CsvClientInfo.personal, CsvCustomerOrderInfo.personal, Personal.mk.injEq] at copied
  obtain ⟨firstName, lastName, streetAddress, city, state, zipCode⟩ := copied
  have own : (booked.order bill).orderId = row.orderId := (eq_of_beq number).symm
  rw [Market.orderRow, own, ← firstName, ← lastName, ← streetAddress, ← city, ← state, ← zipCode]
  rfl

/-- Tables in order are those of the market that is read off them. -/
theorem represents : booked.market.Represents tables where
  buyers := rfl
  sellers := rfl
  products := rfl
  bills := by
    have bills : booked.market.bills = (tables .BillingInfo).map fun bill =>
        booked.market.bill (booked.order bill) := List.map_map
    rw [bills, List.map_congr_left fun bill member => booked.bill_order member, List.map_id']
  orderRows := by
    have rows : booked.market.orderRows = (tables .BillingInfo).flatMap fun bill =>
        (rowsOfOrder bill.orderId (tables .CustomerOrder)).map fun row =>
          booked.market.orderRow (booked.order bill) row.item := by
      rw [Market.orderRows_eq_flatMap]
      refine (List.flatMap_map ..).trans (List.flatMap_congr fun bill _ => ?_)
      exact List.map_map
    refine booked.grouped.trans ?_
    rw [rows]
    refine List.flatMap_congr fun bill member => ?_
    rw [List.map_congr_left fun row inside => booked.orderRow_order member inside, List.map_id']

end Booked

/-- The tables are those of a market exactly if they are in order. -/
theorem represents_iff_booked (tables : Tables) :
    (∃ market : Market, market.Represents tables) ↔ Booked tables :=
  ⟨fun ⟨_, represents⟩ => represents.booked, fun booked => ⟨booked.market, booked.represents⟩⟩

/-- The small database is in order. -/
theorem booked_sampleTables : Booked sampleTables where
  consistent := ⟨by decide, by decide, by decide, by decide⟩
  buyers := by decide
  sellers := by decide
  products := by decide
  productIds := by decide
  bills := by decide
  orderIds := by decide
  known := by decide
  totals := by decide
  grouped := by decide
  named := by decide

/-- A buyer returns an order, orders two pieces again, moves, looks at the orders and asks for more
than there is; meanwhile a product is offered. -/
def tradingDay : List (Nat × Request) :=
  [(5, .modOrder (Token.ofNumber 3000) (Token.ofNumber 2000)),
    (6, .completeOrder firstBuyer [⟨Token.ofNumber 2000, Token.ofNumber 2, Token.ofNumber 4⟩]),
    (7, .editInfo .buyer firstBuyer moved),
    (8, .newProduct (Token.ofNumber 7) ⟨"Hat".toList, by decide⟩ (Token.ofNumber 1)
      (Token.ofNumber 2)),
    (9, .viewBuyerOrders firstBuyer),
    (10, .completeOrder firstBuyer [⟨Token.ofNumber 2000, Token.ofNumber 9, Token.ofNumber 4⟩])]

/-- The server keeps the books over the day. -/
theorem Market.serveAll_keeps_tradingDay :
    ∃ final answers world', booked_sampleTables.market.serveAll id tradingDay =
        some (final, answers) ∧
      OnlineStore.serveAll tableBacking id tradingDay ⟨sampleTables, [], [], []⟩ = some world' ∧
      final.Represents world'.store ∧ world'.replies = answers.map Market.Answer.text := by
  have served : (booked_sampleTables.market.serveAll id tradingDay).isSome = true := by
    decide +kernel
  obtain ⟨⟨final, answers⟩, day⟩ := Option.isSome_iff_exists.mp served
  obtain ⟨world', ran, represents, replies⟩ :=
    Market.serveAll_keeps id tradingDay booked_sampleTables.represents day
  exact ⟨final, answers, world', day, ran, represents, replies⟩

end OnlineStore
