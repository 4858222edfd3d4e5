/-
This file says what orders cost.

The price of an order line is part of the request, as is its quantity, and the server multiplies
them and adds them up as they come. It does not look the price up, so an order is charged at the
catalogue price exactly if its lines name that price.

A return takes the product out of every order, and takes off the bill what the first row of the
order costs. So it touches only that order if the product is in no other one, and the bill still
adds up if the first row costs as much as the rows that are removed.
-/

import OnlineStore.OrderAccounting
import OnlineStore.Requests
import Mathlib.Algebra.Order.BigOperators.Group.List

namespace OnlineStore

open CString Cells Prog

/-! ### The catalogue price -/

/-- The price that the product table gives for a product. -/
def cataloguePrice (productID : Int32) (products : List CsvProductInfo) : Option Int32 :=
  ((DbFile.rows .ProductInfo products).find? fun row => row.productId == productID).map
    CsvProductInfo.price

/-- The bill and the rows of an order are charged at the catalogue price. -/
structure CataloguePriced (products : List CsvProductInfo) (bill : CsvBillingInfo)
    (appended : List CsvCustomerOrderInfo) : Prop where
  rows : ∀ row ∈ appended, 0 < row.quantityPurchased.toInt ∧
    ∃ price, cataloguePrice row.productId products = some price ∧
      row.totalPrice.toInt = row.quantityPurchased.toInt * price.toInt
  total : bill.totalOrderCost.toInt = (appended.map fun row => row.totalPrice.toInt).sum
  nonneg : 0 ≤ bill.totalOrderCost.toInt

/-- The bill and the rows of an order are charged as its lines ask. -/
structure ChargedAsAsked (lines : List ItemOrder) (bill : CsvBillingInfo)
    (appended : List CsvCustomerOrderInfo) : Prop where
  rows : List.Forall₂ (fun line row => row.orderId = bill.orderId ∧
    row.productId = line.productID ∧ row.quantityPurchased = line.quantity ∧
      row.totalPrice.toInt = line.quantity.toInt * line.itemCostPerUnit.toInt) lines appended
  total : bill.totalOrderCost.toInt = (appended.map fun row => row.totalPrice.toInt).sum

/-- The line asks for something, and offers no negative price. -/
def ItemOrder.Asks (line : ItemOrder) : Prop :=
  0 < line.quantity.toInt ∧ 0 ≤ line.itemCostPerUnit.toInt

/-- The line names the catalogue price. -/
def ItemOrder.Honest (products : List CsvProductInfo) (line : ItemOrder) : Prop :=
  cataloguePrice line.productID products = some line.itemCostPerUnit

instance (line : ItemOrder) : Decidable line.Asks :=
  inferInstanceAs (Decidable (_ ∧ _))

instance (products : List CsvProductInfo) (line : ItemOrder) : Decidable (line.Honest products) :=
  inferInstanceAs (Decidable (_ = _))

section Prices

variable {lines : List ItemOrder} {products : List CsvProductInfo}

theorem chargedAsAsked (orderID : Int32) (buyerData : CsvClientInfo)
    (named : ∀ line ∈ lines, line.productID ≠ 0)
    (price : ∀ line ∈ lines, InRange (line.quantity.toInt * line.itemCostPerUnit.toInt))
    (total : InRange (lines.map fun line =>
      line.quantity.toInt * line.itemCostPerUnit.toInt).sum) :
    ChargedAsAsked lines (billingRow orderID buyerData (orderCost lines))
      (lines.map (customerOrderRow orderID buyerData)) where
  rows := by
    rw [List.forall₂_map_right_iff, List.forall₂_same]
    intro line member
    exact ⟨rfl, rfl, rfl, totalPrice_customerOrderRow orderID buyerData (price line member)⟩
  total := totalOrderCost_billingRow orderID buyerData named price total

theorem forall_mem_of_forall₂ {α β : Type} {related : α → β → Prop} {first : List α}
    {second : List β} (pairs : List.Forall₂ related first second) :
    (∀ b ∈ second, ∃ a ∈ first, related a b) ∧ ∀ a ∈ first, ∃ b ∈ second, related a b := by
  induction pairs with
  | nil => exact ⟨fun _ member => absurd member List.not_mem_nil,
      fun _ member => absurd member List.not_mem_nil⟩
  | cons head _ inductionHypothesis =>
    constructor
    · intro b member
      rcases List.mem_cons.mp member with rfl | rest
      · exact ⟨_, List.mem_cons_self, head⟩
      · obtain ⟨a, inFirst, pair⟩ := inductionHypothesis.1 b rest
        exact ⟨a, List.mem_cons_of_mem _ inFirst, pair⟩
    · intro a member
      rcases List.mem_cons.mp member with rfl | rest
      · exact ⟨_, List.mem_cons_self, head⟩
      · obtain ⟨b, inSecond, pair⟩ := inductionHypothesis.2 a rest
        exact ⟨b, List.mem_cons_of_mem _ inSecond, pair⟩

section Asked

variable {bill : CsvBillingInfo} {appended : List CsvCustomerOrderInfo}
variable (charged : ChargedAsAsked lines bill appended) (asked : ∀ line ∈ lines, line.Asks)

include charged asked

/-- Lines that ask for something make rows of positive quantities and no negative amounts. -/
theorem ChargedAsAsked.row_bounds : ∀ row ∈ appended,
    0 < row.quantityPurchased.toInt ∧ 0 ≤ row.totalPrice.toInt := by
  intro row member
  obtain ⟨line, inLines, -, -, quantity, cost⟩ :=
    (forall_mem_of_forall₂ charged.rows).1 row member
  obtain ⟨positive, price⟩ := asked line inLines
  rw [quantity, cost]
  exact ⟨positive, Int.mul_nonneg (Int.le_of_lt positive) price⟩

theorem ChargedAsAsked.total_nonneg : 0 ≤ bill.totalOrderCost.toInt := by
  rw [charged.total]
  refine List.sum_nonneg fun cost member => ?_
  obtain ⟨row, inRows, rfl⟩ := List.mem_map.mp member
  exact (charged.row_bounds asked row inRows).2

/-- What is charged as asked is charged at the catalogue price exactly if every line names it. -/
theorem ChargedAsAsked.cataloguePriced_iff :
    CataloguePriced products bill appended ↔ ∀ line ∈ lines, line.Honest products := by
  obtain ⟨fromLines, fromRows⟩ := forall_mem_of_forall₂ charged.rows
  constructor
  · intro catalogue line member
    obtain ⟨row, inRows, -, product, quantity, cost⟩ := fromRows line member
    obtain ⟨positive, price, listed, product'⟩ := catalogue.rows row inRows
    rw [quantity] at positive product'
    have same : line.itemCostPerUnit.toInt = price.toInt :=
      Int.eq_of_mul_eq_mul_left (Int.ne_of_gt positive) (cost.symm.trans product')
    rw [ItemOrder.Honest, ← product, listed, Int32.toInt_inj.mp same]
  · intro honest
    refine ⟨fun row member => ?_, charged.total, charged.total_nonneg asked⟩
    obtain ⟨line, inLines, -, product, quantity, cost⟩ := fromLines row member
    refine ⟨(charged.row_bounds asked row member).1, line.itemCostPerUnit, ?_, ?_⟩
    · rw [product]
      exact honest line inLines
    · rw [quantity]
      exact cost

end Asked

end Prices

/-- An accepted order hands over the deducted product table, the billing table with a bill behind
its rows and the CustomerOrder table with the order's rows behind its rows. -/
structure World.HandedOrder {Store : Type} (backing : Backing Store) (before after : World Store)
    (bill : CsvBillingInfo) (appended : List CsvCustomerOrderInfo) : Prop where
  handed : ∃ deducted billing orders,
    backing.load before.store .BillingInfo = some billing ∧
    backing.load before.store .CustomerOrder = some orders ∧
    after.handed = before.handed ++ [⟨.ProductInfo, deducted⟩,
      ⟨.BillingInfo, put billing (DbFile.rows .BillingInfo billing).length bill⟩,
      ⟨.CustomerOrder, putAll orders (DbFile.rows .CustomerOrder orders).length appended⟩]

section Order

variable {Store : Type} (backing : Backing Store) (rand : Rand) (now : Nat) (world : World Store)

/-- What an accepted order appends, if it ends. -/
theorem handedOrder_of_run {buffer rest : Text} {buyerID : Int32} {lines : List ItemOrder}
    {products : List CsvProductInfo} {final : World Store}
    (buyer : extractBuyer buffer = some (buyerID, rest))
    (order : extractBuyerOrder rest = some lines)
    (loaded : backing.load world.store .ProductInfo = some products)
    (accepted : validateBuyerOrder lines products = true)
    (ran : (completeAnOrder rand buffer).run (exec backing now) world = some ((), final)) :
    ∃ orderID buyerData, world.HandedOrder backing final
      (billingRow orderID buyerData (orderCost lines))
      (lines.map (customerOrderRow orderID buyerData)) := by
  have named := productID_ne_zero_of_extractOrderLines order
  rw [completeAnOrder_eq buyer order] at ran
  obtain ⟨_, loadedProducts, others⟩ := loaded_of_run_completeOrder backing rand now world ran
  obtain rfl := Option.some.inj (loadedProducts.symm.trans loaded)
  obtain ⟨clients, billing, orders, loadedClients, loadedBilling, loadedOrders⟩ := others accepted
  rw [run_completeOrder_accepted backing rand now world buyerID loaded accepted loadedClients
    loadedBilling loadedOrders] at ran
  obtain ⟨buyerRow, -, deduction⟩ := Option.bind_eq_some_iff.mp ran
  obtain ⟨deducted, -, ends⟩ := Option.map_eq_some_iff.mp deduction
  refine ⟨uidAt rand now, cell clients buyerRow,
    ⟨deducted, billing, orders, loadedBilling, loadedOrders, ?_⟩⟩
  rw [← (Prod.mk.inj ends).2, World.handOrder_handed, billedTable, orderedTable,
    orderRows_eq_self named]

/-- An accepted order whose lines ask for something is charged as they ask: its rows have their
quantities, which are positive, and the products of these and the prices that they name, and its
bill is the sum, which is not negative. That is the catalogue price exactly if every line names
it. -/
theorem accepted_charged {buffer rest : Text} {buyerID : Int32} {lines : List ItemOrder}
    {products : List CsvProductInfo} {final : World Store}
    (buyer : extractBuyer buffer = some (buyerID, rest))
    (order : extractBuyerOrder rest = some lines) (asked : ∀ line ∈ lines, line.Asks)
    (loaded : backing.load world.store .ProductInfo = some products)
    (accepted : validateBuyerOrder lines products = true)
    (price : ∀ line ∈ lines, InRange (line.quantity.toInt * line.itemCostPerUnit.toInt))
    (total : InRange (lines.map fun line =>
      line.quantity.toInt * line.itemCostPerUnit.toInt).sum)
    (ran : (completeAnOrder rand buffer).run (exec backing now) world = some ((), final)) :
    ∃ bill appended, world.HandedOrder backing final bill appended ∧
      ChargedAsAsked lines bill appended ∧
      (∀ row ∈ appended, 0 < row.quantityPurchased.toInt ∧ 0 ≤ row.totalPrice.toInt) ∧
      0 ≤ bill.totalOrderCost.toInt ∧
      (CataloguePriced products bill appended ↔ ∀ line ∈ lines, line.Honest products) := by
  obtain ⟨orderID, buyerData, handed⟩ :=
    handedOrder_of_run backing rand now world buyer order loaded accepted ran
  have charged := chargedAsAsked orderID buyerData (productID_ne_zero_of_extractOrderLines order)
    price total
  exact ⟨_, _, handed, charged, charged.row_bounds asked, charged.total_nonneg asked,
    charged.cataloguePriced_iff asked⟩

end Order

/-- One hook, product 2000, at a price of one. -/
def cheapHook : List OrderLine :=
  [⟨Token.ofNumber 2000, Token.ofNumber 1, Token.ofNumber 1⟩]

/-- Buyer 1000 of the shipped files, who orders it. -/
def hookBuyer : Token 20 := Token.ofNumber 1000

theorem orderItems_cheapHook : orderItems cheapHook = [⟨2000, 1, 1⟩] := by
  simp only [orderItems, cheapHook, List.map_cons, List.map_nil, OrderLine.item,
    Token.number_ofNumber]
  rfl

theorem run_cheapHook :
    validateBuyerOrder (orderItems cheapHook) (shippedTables .ProductInfo) = true ∧
      ∃ final, (completeAnOrder id (Request.completeOrder hookBuyer cheapHook).buffer).run
        (exec diskBacking 0) shippedWorld = some ((), final) := by
  have accepted : validateBuyerOrder (orderItems cheapHook) (shippedTables .ProductInfo) = true := by
    rw [orderItems_cheapHook]
    decide
  have found : findBuyerInClientInfo 1000 (shippedTables .CustomerInfo) = some 0 := by decide
  have number : hookBuyer.number = 1000 := Token.number_ofNumber 1000
  refine ⟨accepted, ?_⟩
  rw [completeAnOrder_buffer, run_completeOrder_accepted diskBacking id 0
    shippedWorld _ (loads_shippedWorld .ProductInfo) accepted (loads_shippedWorld .CustomerInfo)
    (loads_shippedWorld .BillingInfo) (loads_shippedWorld .CustomerOrder), number, found,
    deductOrder_of_allListed (allListed_orderRows accepted)]
  exact ⟨_, rfl⟩

theorem asks_cheapHook : ∀ line ∈ orderItems cheapHook, line.Asks := by
  rw [orderItems_cheapHook]
  decide

theorem accepted_charged_cheapHook :
    ∃ final bill appended, shippedWorld.HandedOrder diskBacking final bill appended ∧
      ChargedAsAsked (orderItems cheapHook) bill appended ∧
      (∀ row ∈ appended, 0 < row.quantityPurchased.toInt ∧ 0 ≤ row.totalPrice.toInt) ∧
      0 ≤ bill.totalOrderCost.toInt ∧
      (CataloguePriced (shippedTables .ProductInfo) bill appended ↔
        ∀ line ∈ orderItems cheapHook, line.Honest (shippedTables .ProductInfo)) := by
  obtain ⟨accepted, final, ran⟩ := run_cheapHook
  refine ⟨final, accepted_charged diskBacking id 0 shippedWorld (extractBuyer_buffer _ _)
    (extractBuyerOrder_orderText cheapHook) asks_cheapHook (loads_shippedWorld .ProductInfo)
    accepted ?_ ?_ ran⟩
  · rw [orderItems_cheapHook]
    decide
  · rw [orderItems_cheapHook]
    decide

/-- The order is accepted, and the hook, which costs 20, is sold for one. -/
theorem cheapHook_not_cataloguePriced :
    ∃ final bill appended,
      (completeAnOrder id (Request.completeOrder hookBuyer cheapHook).buffer).run
        (exec diskBacking 0) shippedWorld = some ((), final) ∧
      shippedWorld.HandedOrder diskBacking final bill appended ∧
      ¬CataloguePriced (shippedTables .ProductInfo) bill appended := by
  obtain ⟨accepted, final, ran⟩ := run_cheapHook
  obtain ⟨orderID, buyerData, handed⟩ := handedOrder_of_run diskBacking id 0 shippedWorld
    (extractBuyer_buffer _ _) (extractBuyerOrder_orderText cheapHook)
    (loads_shippedWorld .ProductInfo) accepted ran
  refine ⟨final, _, _, ran, handed, ?_⟩
  have asked := asks_cheapHook
  rw [orderItems_cheapHook] at asked ⊢
  rw [(chargedAsAsked orderID buyerData (by decide) (by decide)
    (by decide)).cataloguePriced_iff asked]
  decide

/-! ### Returning a product -/

/-- What the rows of an order cost together. -/
def orderTotal (orderID : Int32) (orders : List CsvCustomerOrderInfo) : Int :=
  ((orders.filter fun row => row.orderId == orderID).map fun row => row.totalPrice.toInt).sum

/-- Every bill is the sum of the rows of its order. -/
def Totalled (billing : List CsvBillingInfo) (orders : List CsvCustomerOrderInfo) : Prop :=
  ∀ bill ∈ billing, bill.totalOrderCost.toInt = orderTotal bill.orderId orders

/-- The rows that a return of a product from an order is about. -/
def CsvCustomerOrderInfo.isReturned (orderID productID : Int32) (row : CsvCustomerOrderInfo) :
    Bool :=
  row.orderId == orderID && row.productId == productID

def returnedRows (orderID productID : Int32) (orders : List CsvCustomerOrderInfo) :
    List CsvCustomerOrderInfo :=
  orders.filter (CsvCustomerOrderInfo.isReturned orderID productID)

/-- What the rows that are returned cost together. -/
def refund (orderID productID : Int32) (orders : List CsvCustomerOrderInfo) : Int :=
  ((returnedRows orderID productID orders).map fun row => row.totalPrice.toInt).sum

/-- The tables after a return that touches only the order: its rows of the product are gone, its
bill has fallen by what they cost, and every bill is still the sum of its rows. -/
structure ReturnedAlone (orderID productID : Int32) (orders orders' : List CsvCustomerOrderInfo)
    (billing billing' : List CsvBillingInfo) : Prop where
  rows : DbFile.rows .CustomerOrder orders' =
    orders.filter fun row => !row.isReturned orderID productID
  bills : List.Forall₂ (fun before after => if before.orderId = orderID then
      after = { before with totalOrderCost := after.totalOrderCost } ∧
        after.totalOrderCost.toInt = before.totalOrderCost.toInt - refund orderID productID orders
    else after = before) billing (DbFile.rows .BillingInfo billing')
  totalled : Totalled (DbFile.rows .BillingInfo billing') (DbFile.rows .CustomerOrder orders')

/-- When a return touches only the order: the product is in no other order, no other product
follows a row with a zero product id, and the first row of the order costs what the returned rows
cost together, by which the bill can fall. -/
structure Returnable (orderID productID : Int32) (orders : List CsvCustomerOrderInfo)
    (billing : List CsvBillingInfo) : Prop where
  alone : ∀ row ∈ orders, row.productId = productID → row.orderId = orderID
  unbroken : ∀ row ∈ orders.dropWhile fun row => row.productId != 0,
    row.isReturned orderID productID = true
  price : ∀ row, orders.find? (fun row => row.orderId == orderID) = some row →
    row.totalPrice =
      ((returnedRows orderID productID orders).map CsvCustomerOrderInfo.totalPrice).sum
  fits : ∀ bill ∈ billing, bill.orderId = orderID →
    InRange (bill.totalOrderCost.toInt - refund orderID productID orders)

section Return

variable {orderID productID : Int32} {orders : List CsvCustomerOrderInfo}
variable {billing : List CsvBillingInfo}

/-- The rows of an order are the returned ones and the others. -/
theorem orderTotal_eq_refund_add (orderID productID : Int32)
    (orders : List CsvCustomerOrderInfo) :
    orderTotal orderID orders = refund orderID productID orders +
      orderTotal orderID (orders.filter fun row => !row.isReturned orderID productID) := by
  induction orders with
  | nil => rfl
  | cons row orders inductionHypothesis =>
    simp only [orderTotal, refund, returnedRows] at inductionHypothesis ⊢
    by_cases own : row.orderId = orderID <;> by_cases named : row.productId = productID <;>
      simp [CsvCustomerOrderInfo.isReturned, own, named, inductionHypothesis] <;> omega

/-- The other orders keep their totals. -/
theorem orderTotal_of_ne {other : Int32} (different : other ≠ orderID) (productID : Int32)
    (orders : List CsvCustomerOrderInfo) :
    orderTotal other (orders.filter fun row => !row.isReturned orderID productID) =
      orderTotal other orders := by
  rw [orderTotal, List.filter_filter, orderTotal]
  refine congrArg (fun rows : List CsvCustomerOrderInfo =>
    (rows.map fun row => row.totalPrice.toInt).sum) (List.filter_congr fun row _ => ?_)
  by_cases own : row.orderId = other
  · have foreign : row.orderId ≠ orderID := own ▸ different
    simp [CsvCustomerOrderInfo.isReturned, foreign]
  · simp [own]

/-- The loop that copies the other products copies exactly the rows that are not returned. -/
theorem removeProduct_eq_iff :
    removeProduct productID orders =
        orders.filter (fun row => !row.isReturned orderID productID) ↔
      (∀ row ∈ orders, row.productId = productID → row.orderId = orderID) ∧
        ∀ row ∈ orders.dropWhile fun row => row.productId != 0,
          row.isReturned orderID productID = true := by
  have parts : orders.filter (fun row => !row.isReturned orderID productID) =
      (records (fun row => row.productId == 0) orders).filter
          (fun row => !row.isReturned orderID productID) ++
        (orders.dropWhile fun row => row.productId != 0).filter
          fun row => !row.isReturned orderID productID := by
    rw [← List.filter_append]
    exact congrArg _ List.takeWhile_append_dropWhile.symm
  have copied (alone : ∀ row ∈ orders, row.productId = productID → row.orderId = orderID) :
      removeProduct productID orders =
        (records (fun row => row.productId == 0) orders).filter
          fun row => !row.isReturned orderID productID := by
    refine List.filter_congr fun row member => ?_
    by_cases named : row.productId = productID
    · simp [CsvCustomerOrderInfo.isReturned, named, alone row (mem_of_mem_records member) named]
    · have other : row.isReturned orderID productID = false := by
        simp [CsvCustomerOrderInfo.isReturned, named]
      simp [named, other]
  constructor
  · intro same
    have alone : ∀ row ∈ orders, row.productId = productID → row.orderId = orderID := by
      intro row member named
      by_contra foreign
      have kept : row ∈ removeProduct productID orders := by
        rw [same]
        exact List.mem_filter.mpr ⟨member, by simp [CsvCustomerOrderInfo.isReturned, foreign]⟩
      simpa [named] using List.of_mem_filter kept
    refine ⟨alone, fun row member => ?_⟩
    rw [copied alone, parts] at same
    have none := List.append_right_eq_self.mp same.symm
    simpa using List.filter_eq_nil_iff.mp none row member
  · rintro ⟨alone, unbroken⟩
    have none : ((orders.dropWhile fun row => row.productId != 0).filter
        fun row => !row.isReturned orderID productID) = [] :=
      List.filter_eq_nil_iff.mpr fun row member => by simp [unbroken row member]
    rw [copied alone, parts, none, List.append_nil]

/-- The bill falls by what the returned rows cost exactly if the amount that is taken off is their
sum and what is left of the bill fits in 32 bits. -/
theorem toInt_sub_eq_sub_iff (total cost : Int32) (removed : List Int32) :
    (total - cost).toInt = total.toInt - (removed.map Int32.toInt).sum ↔
      cost = removed.sum ∧ InRange (total.toInt - (removed.map Int32.toInt).sum) := by
  have wrapped : removed.sum.toInt = ((removed.map Int32.toInt).sum).bmod (2 ^ 32) := by
    simpa using toInt_sum removed id
  generalize (removed.map Int32.toInt).sum = sum at wrapped
  have small := cost.toInt_lt
  have large := cost.le_toInt
  rw [Int32.toInt_sub, ← Int32.toInt_inj, wrapped]
  constructor
  · intro same
    have least : -(2 ^ 32 / 2 : Int) ≤ (total.toInt - cost.toInt).bmod (2 ^ 32) :=
      Int.le_bmod (by decide)
    have greatest : (total.toInt - cost.toInt).bmod (2 ^ 32) < ((2 ^ 32 + 1) / 2 : Int) :=
      Int.bmod_lt (by decide)
    rw [same] at least greatest
    refine ⟨?_, by rw [InRange]; omega⟩
    rw [Int.bmod_def] at same ⊢
    omega
  · rintro ⟨same, fits⟩
    rw [same, Int.sub_bmod_bmod, bmod_of_inRange fits]

/-- The bill of an order after an amount is taken off; the other bills are left as they are. -/
def CsvBillingInfo.reduce (orderID itemCost : Int32) (bill : CsvBillingInfo) : CsvBillingInfo :=
  if bill.orderId = orderID then { bill with totalOrderCost := bill.totalOrderCost - itemCost }
  else bill

@[simp] theorem CsvBillingInfo.reduce_orderId (orderID itemCost : Int32)
    (bill : CsvBillingInfo) : (bill.reduce orderID itemCost).orderId = bill.orderId := by
  rw [reduce]
  split <;> rfl

theorem rows_map_reduce (orderID itemCost : Int32)
    (billingEnds : ∀ bill ∈ billing, bill.orderId ≠ 0) :
    DbFile.rows .BillingInfo (billing.map (CsvBillingInfo.reduce orderID itemCost)) =
      billing.map (CsvBillingInfo.reduce orderID itemCost) := by
  refine rows_eq_self fun bill member => ?_
  obtain ⟨before, inBilling, rfl⟩ := List.mem_map.mp member
  show (before.reduce orderID itemCost).orderId ≠ 0
  rw [CsvBillingInfo.reduce_orderId]
  exact billingEnds before inBilling

/-- A return takes off the bill what the first row of the order costs. -/
theorem refundedTable_eq_map (itemCost : Int32) (distinct : (billing.map CsvBillingInfo.orderId).Nodup)
    (billed : ∃ bill ∈ billing, bill.orderId = orderID) :
    ∃ billRow, search (fun row => row.orderId == orderID) billing = some billRow ∧
      refundedTable billing billRow itemCost =
        billing.map (CsvBillingInfo.reduce orderID itemCost) := by
  obtain ⟨bill, member, named⟩ := billed
  obtain ⟨billRow, -, located, -, -, updated⟩ := put_of_search
    (fun row : CsvBillingInfo => row.orderId == orderID)
    (fun row => { row with totalOrderCost := row.totalOrderCost - itemCost })
    ⟨bill, member, by simpa using named⟩
  refine ⟨billRow, located, updated.trans ?_⟩
  exact updateFirst_eq_map distinct orderID

/-- What is handed over after a return leaves every other order alone and every bill right
exactly if the return is one that touches only the order. -/
theorem returnedAlone_iff {first : CsvCustomerOrderInfo}
    (ordersEnd : ∀ row ∈ orders, row.orderId ≠ 0) (billingEnds : ∀ bill ∈ billing, bill.orderId ≠ 0)
    (totalled : Totalled billing orders) (billed : ∃ bill ∈ billing, bill.orderId = orderID)
    (located : orders.find? (fun row => row.orderId == orderID) = some first) :
    ReturnedAlone orderID productID orders (removeProduct productID orders) billing
        (billing.map (CsvBillingInfo.reduce orderID first.totalPrice)) ↔
      Returnable orderID productID orders billing := by
  have rowsKept : DbFile.rows .CustomerOrder (removeProduct productID orders) =
      removeProduct productID orders :=
    rows_eq_self fun row member =>
      ordersEnd row (mem_of_mem_records (List.mem_of_mem_filter member))
  have billsKept := rows_map_reduce orderID first.totalPrice billingEnds
  have fallen (bill : CsvBillingInfo) :
      (bill.totalOrderCost - first.totalPrice).toInt =
          bill.totalOrderCost.toInt - refund orderID productID orders ↔
        first.totalPrice =
            ((returnedRows orderID productID orders).map CsvCustomerOrderInfo.totalPrice).sum ∧
          InRange (bill.totalOrderCost.toInt - refund orderID productID orders) := by
    have sum : refund orderID productID orders = (((returnedRows orderID productID orders).map
        CsvCustomerOrderInfo.totalPrice).map Int32.toInt).sum := by
      rw [refund, List.map_map]
      rfl
    rw [sum]
    exact toInt_sub_eq_sub_iff _ _ _
  constructor
  · intro returned
    have rows := returned.rows
    rw [rowsKept] at rows
    obtain ⟨alone, unbroken⟩ := removeProduct_eq_iff.mp rows
    have bills := returned.bills
    rw [billsKept, List.forall₂_map_right_iff, List.forall₂_same] at bills
    have own : ∀ bill ∈ billing, bill.orderId = orderID → _ := fun bill member same =>
      (fallen bill).mp (by simpa [CsvBillingInfo.reduce, same] using bills bill member)
    obtain ⟨bill, member, same⟩ := billed
    refine ⟨alone, unbroken, fun row found => ?_, fun bill member same => (own bill member same).2⟩
    obtain rfl := Option.some.inj (located.symm.trans found)
    exact (own bill member same).1
  · intro returnable
    have rows := removeProduct_eq_iff.mpr ⟨returnable.alone, returnable.unbroken⟩
    have own (bill : CsvBillingInfo) (member : bill ∈ billing) (same : bill.orderId = orderID) :=
      (fallen bill).mpr ⟨returnable.price first located, returnable.fits bill member same⟩
    refine ⟨rowsKept.trans rows, ?_, ?_⟩
    · rw [billsKept, List.forall₂_map_right_iff, List.forall₂_same]
      intro bill member
      by_cases same : bill.orderId = orderID
      · simpa [CsvBillingInfo.reduce, same] using own bill member same
      · simp [CsvBillingInfo.reduce, same]
    · rw [billsKept, rowsKept, rows]
      intro reduced member
      obtain ⟨bill, inBilling, rfl⟩ := List.mem_map.mp member
      have total := totalled bill inBilling
      rw [CsvBillingInfo.reduce_orderId]
      by_cases same : bill.orderId = orderID
      · have left := own bill inBilling same
        have split := orderTotal_eq_refund_add orderID productID orders
        rw [CsvBillingInfo.reduce, if_pos same, same, left, total, same]
        omega
      · rw [CsvBillingInfo.reduce, if_neg same, total, orderTotal_of_ne same]

end Return

section Handler

variable {Store : Type} (backing : Backing Store) (now : Nat) (world : World Store)

/-- The world after a return has handed over its two tables. -/
def World.handReturn (orders : List CsvCustomerOrderInfo) (billing : List CsvBillingInfo) :
    World Store :=
  (world.hand backing .CustomerOrder orders).hand backing .BillingInfo billing

theorem World.handReturn_inj {orders orders' : List CsvCustomerOrderInfo}
    {billing billing' : List CsvBillingInfo}
    (same : world.handReturn backing orders billing = world.handReturn backing orders' billing') :
    orders = orders' ∧ billing = billing' := by
  have handed := congrArg World.handed same
  simpa [handReturn] using handed

variable {buffer : Text} {orderID productID : Int32} {orders : List CsvCustomerOrderInfo}
variable {billing : List CsvBillingInfo}

/-- What a return hands over, from an order that is billed and has rows. -/
theorem run_buyerModifiesOrder_of_billed (decodedOrder : numberAt buffer 0 = some orderID)
    (decodedProduct : numberAt buffer 1 = some productID)
    (loadedOrders : backing.load world.store .CustomerOrder = some orders)
    (loadedBilling : backing.load world.store .BillingInfo = some billing)
    (distinct : (billing.map CsvBillingInfo.orderId).Nodup)
    (billed : ∃ bill ∈ billing, bill.orderId = orderID)
    (contains : ∃ row ∈ orders, row.orderId = orderID) :
    ∃ first, orders.find? (fun row => row.orderId == orderID) = some first ∧
      (buyerModifiesOrder buffer).run (exec backing now) world =
        some ((), world.handReturn backing (removeProduct productID orders)
          (billing.map (CsvBillingInfo.reduce orderID first.totalPrice))) := by
  obtain ⟨row, member, own⟩ := contains
  obtain ⟨first, located⟩ : ∃ first, orders.find? (fun row => row.orderId == orderID) = some first :=
    Option.isSome_iff_exists.mp (List.find?_isSome.mpr ⟨row, member, by simpa using own⟩)
  obtain ⟨orderRow, -, found, data⟩ := search_of_find? located
  obtain ⟨billRow, foundBill, reduced⟩ := refundedTable_eq_map first.totalPrice distinct billed
  have ran := run_buyerModifiesOrder backing now world decodedOrder decodedProduct loadedOrders
    loadedBilling
  rw [found, foundBill, Option.bind_some, Option.map_some, data, reduced] at ran
  exact ⟨first, located, ran⟩

/-- A return of a product that an existing order contains hands over tables in which only that
order has changed, by the rows that are returned and what they cost, exactly if the product is in
no other order, no zero product id cuts the table short, the first row of the order costs what the
returned rows cost together, and the bill can fall by it. -/
theorem return_touches_order_iff (decodedOrder : numberAt buffer 0 = some orderID)
    (decodedProduct : numberAt buffer 1 = some productID)
    (loadedOrders : backing.load world.store .CustomerOrder = some orders)
    (loadedBilling : backing.load world.store .BillingInfo = some billing)
    (ordersEnd : ∀ row ∈ orders, row.orderId ≠ 0)
    (billingEnds : ∀ bill ∈ billing, bill.orderId ≠ 0)
    (distinct : (billing.map CsvBillingInfo.orderId).Nodup) (totalled : Totalled billing orders)
    (billed : ∃ bill ∈ billing, bill.orderId = orderID)
    (contains : ∃ row ∈ orders, row.orderId = orderID ∧ row.productId = productID) :
    (∃ orders' billing', (buyerModifiesOrder buffer).run (exec backing now) world =
        some ((), world.handReturn backing orders' billing') ∧
      ReturnedAlone orderID productID orders orders' billing billing') ↔
      Returnable orderID productID orders billing := by
  obtain ⟨row, member, own, -⟩ := contains
  obtain ⟨first, located, ran⟩ := run_buyerModifiesOrder_of_billed backing now world decodedOrder
    decodedProduct loadedOrders loadedBilling distinct billed ⟨row, member, own⟩
  rw [← returnedAlone_iff ordersEnd billingEnds totalled billed located]
  constructor
  · rintro ⟨orders', billing', handed, alone⟩
    have same := (Prod.mk.inj (Option.some.inj (ran.symm.trans handed))).2
    obtain ⟨rfl, rfl⟩ := World.handReturn_inj backing world same
    exact alone
  · intro alone
    exact ⟨_, _, ran, alone⟩

end Handler

/-- Two orders of one hat each, for 3 and for 4, and a scarf in the second one. -/
def hatsAndScarf : Tables
  | .BillingInfo =>
    [{ (default : CsvBillingInfo) with orderId := 3000, customerId := 1000, totalOrderCost := 3 },
      { (default : CsvBillingInfo) with orderId := 3001, customerId := 1001, totalOrderCost := 9 }]
  | .CustomerOrder =>
    [{ (default : CsvCustomerOrderInfo) with
        orderId := 3000, productId := 2000, quantityPurchased := 1, totalPrice := 3 },
      { (default : CsvCustomerOrderInfo) with
        orderId := 3001, productId := 2001, quantityPurchased := 1, totalPrice := 5 },
      { (default : CsvCustomerOrderInfo) with
        orderId := 3001, productId := 2000, quantityPurchased := 1, totalPrice := 4 }]
  | file => sampleTables file

theorem totalled_hatsAndScarf :
    Totalled (hatsAndScarf .BillingInfo) (hatsAndScarf .CustomerOrder) := by
  unfold Totalled
  decide

/-- The scarf is returned. -/
theorem return_touches_order_iff_scarf :
    ∃ orders' billing', (buyerModifiesOrder "3001,2001,\n".toList).run (exec tableBacking 0)
        ⟨hatsAndScarf, [], [], []⟩ =
          some ((), World.handReturn tableBacking ⟨hatsAndScarf, [], [], []⟩ orders' billing') ∧
      ReturnedAlone 3001 2001 (hatsAndScarf .CustomerOrder) orders' (hatsAndScarf .BillingInfo)
        billing' := by
  have first : (hatsAndScarf .CustomerOrder).find? (fun row => row.orderId == 3001) =
      some (cell (hatsAndScarf .CustomerOrder) 1) := by decide
  have returnable : Returnable 3001 2001 (hatsAndScarf .CustomerOrder)
      (hatsAndScarf .BillingInfo) := by
    refine ⟨by decide, by decide, fun row found => ?_, by decide⟩
    obtain rfl := Option.some.inj (first.symm.trans found)
    decide
  exact (return_touches_order_iff tableBacking 0 ⟨hatsAndScarf, [], [], []⟩ (by decide) (by decide)
    rfl rfl (by decide) (by decide) (by decide) totalled_hatsAndScarf (by decide)
    (by decide)).mpr returnable

/-- The hat of the first order is returned, and the hat of the second one is gone as well. -/
theorem hat_not_returnedAlone :
    ∃ orders' billing', (buyerModifiesOrder "3000,2000,\n".toList).run (exec tableBacking 0)
        ⟨hatsAndScarf, [], [], []⟩ =
          some ((), World.handReturn tableBacking ⟨hatsAndScarf, [], [], []⟩ orders' billing') ∧
      ¬ReturnedAlone 3000 2000 (hatsAndScarf .CustomerOrder) orders' (hatsAndScarf .BillingInfo)
        billing' := by
  have decodedOrder : numberAt "3000,2000,\n".toList 0 = some 3000 := by decide
  have decodedProduct : numberAt "3000,2000,\n".toList 1 = some 2000 := by decide
  have billed : ∃ bill ∈ hatsAndScarf .BillingInfo, bill.orderId = 3000 := by decide
  obtain ⟨first, located, ran⟩ := run_buyerModifiesOrder_of_billed tableBacking 0
    ⟨hatsAndScarf, [], [], []⟩ decodedOrder decodedProduct rfl rfl (by decide) billed (by decide)
  refine ⟨_, _, ran, ?_⟩
  rw [returnedAlone_iff (by decide) (by decide) totalled_hatsAndScarf billed located]
  intro returnable
  have elsewhere : ¬∀ row ∈ hatsAndScarf .CustomerOrder, row.productId = 2000 →
      row.orderId = 3000 := by decide
  exact elsewhere returnable.alone

end OnlineStore
