/-
This file says what the store is for, in its own terms: a market of buyers, sellers, products and
orders. Every buyer, product and order has an id of its own. An order belongs to a buyer and has
items; what it costs is the sum of its items, and where it is sent is known from its buyer. Nothing
is stored twice, so a market is in order by construction.

`Market.serve` is the market's side of a request. It has no result where the server goes beyond
what a market can be: an id that is drawn twice, a product of another seller that is withdrawn, a
return that takes a product out of other orders too.
-/

import OnlineStore.Commutation
import OnlineStore.Registers
import OnlineStore.Registration
import OnlineStore.Stock

namespace OnlineStore

open CString Cells Prog Registers

/-! ### Orders -/

/-- One product of an order: how much of it was bought, and for how much. -/
structure Item where
  productId : Int32
  quantityPurchased : Int32
  totalPrice : Int32
  deriving DecidableEq

structure Order where
  orderId : Int32
  customerId : Int32
  items : List Item
  named : ∀ item ∈ items, item.productId ≠ 0

namespace Order

def cost (order : Order) : Int32 :=
  (order.items.map Item.totalPrice).sum

/-- The order after a product has been returned. -/
def without (productID : Int32) (order : Order) : Order where
  orderId := order.orderId
  customerId := order.customerId
  items := order.items.filter fun item => item.productId != productID
  named item member := order.named item (List.mem_of_mem_filter member)

/-- What the items of a product cost. -/
def costOf (order : Order) (productID : Int32) : Int32 :=
  ((order.items.filter fun item => item.productId == productID).map Item.totalPrice).sum

/-- What a return takes off the bill is the price of the first item. -/
def firstPrice (order : Order) : Option Int32 :=
  order.items.head?.map Item.totalPrice

end Order

/-- The item that an order line asks for, at the price it names. -/
def ItemOrder.bought (line : ItemOrder) : Item where
  productId := line.productID
  quantityPurchased := line.quantity
  totalPrice := line.quantity * line.itemCostPerUnit

/-- The order that a buyer places. -/
def orderOf (orderID buyerID : Int32) (lines : List OrderLine) : Order where
  orderId := orderID
  customerId := buyerID
  items := (orderItems lines).map ItemOrder.bought
  named item member := by
    obtain ⟨line, inside, rfl⟩ := List.mem_map.mp member
    exact productID_ne_zero_of_mem_orderItems inside

/-! ### Markets -/

abbrev Clients := Register CsvClientInfo Int32 CsvClientInfo.uuid 0

abbrev Products := Register CsvProductInfo Int32 CsvProductInfo.productId 0

abbrev Orders := Register Order Int32 Order.orderId 0

structure Market where
  buyers : Clients
  sellers : Clients
  products : Products
  orders : Orders
  placed : ∀ order ∈ orders.rows, (buyers.lookup order.customerId).isSome

namespace Market

variable (market : Market)

/-- The buyer of an order. -/
def buyerOf (order : Order) : CsvClientInfo :=
  (market.buyers.lookup order.customerId).getD default

def clients : ClientType → Clients
  | .buyer => market.buyers
  | .seller => market.sellers

def enrol (buyer : CsvClientInfo) (fresh : market.buyers.Fresh buyer.uuid) : Market where
  buyers := market.buyers.insert buyer fresh
  sellers := market.sellers
  products := market.products
  orders := market.orders
  placed order member := by
    have present := market.placed order member
    rw [Register.lookup_insert_of_isSome fresh present]
    exact present

/-- A client's data are changed. -/
def edit (clientType : ClientType) (id : Int32) (change : InfoEdit) : Market :=
  match clientType with
  | .buyer =>
    { buyers := market.buyers.update id change.apply change.uuid_apply
      sellers := market.sellers
      products := market.products
      orders := market.orders
      placed := fun order member => by
        rw [Register.lookup_update, Option.isSome_map]
        exact market.placed order member }
  | .seller =>
    { buyers := market.buyers
      sellers := market.sellers.update id change.apply change.uuid_apply
      products := market.products
      orders := market.orders
      placed := market.placed }

/-- The market with other products. -/
def withProducts (products : Products) : Market :=
  { market with products := products }

/-- Every line asks for a product of the market, and for no more of it than there is. -/
def Supplies (lines : List ItemOrder) : Prop :=
  ∀ line ∈ lines, ∃ row ∈ market.products.rows,
    row.productId = line.productID ∧ line.quantity ≤ row.quantity

instance (lines : List ItemOrder) : Decidable (market.Supplies lines) :=
  inferInstanceAs (Decidable (∀ line ∈ lines, _))

/-- An order is placed, and what its lines ask for is taken from the products. -/
def place (order : Order) (lines : List ItemOrder) (fresh : market.orders.Fresh order.orderId)
    (known : (market.buyers.lookup order.customerId).isSome) : Market where
  buyers := market.buyers
  sellers := market.sellers
  products := market.products.map (fun row => row.sell lines) fun _ => rfl
  orders := market.orders.insert order fresh
  placed other member := by
    rcases List.mem_append.mp member with old | new
    · exact market.placed other old
    · exact List.mem_singleton.mp new ▸ known

/-- A product can be returned from an order: the product is in no other order, and the first item
of the order costs what the returned items cost together. -/
def Returnable (order : Order) (productID : Int32) : Prop :=
  order.firstPrice = some (order.costOf productID) ∧
    ∀ other ∈ market.orders.rows, other.orderId ≠ order.orderId →
      ∀ item ∈ other.items, item.productId ≠ productID

instance (order : Order) (productID : Int32) : Decidable (market.Returnable order productID) :=
  inferInstanceAs (Decidable (_ ∧ _))

/-- A product of an order is returned. -/
def takeBack (orderID productID : Int32) : Market where
  buyers := market.buyers
  sellers := market.sellers
  products := market.products
  orders := market.orders.update orderID (Order.without productID) fun _ => rfl
  placed order member := by
    obtain ⟨before, inside, rfl⟩ := List.mem_map.mp member
    have known := market.placed before inside
    rw [Register.changeAt]
    split
    · exact known
    · exact known

/-! ### Answers -/

/-- What is answered to a request. -/
inductive Answer where
  | verdict (granted : Bool)
  | drawn (id : Int32)
  | catalogue (products : List CsvProductInfo)
  | bills (orders : List Order)
  | details (items : List (Item × CsvProductInfo))
  | personal (buyers : List CsvClientInfo)
  | sales (rows : List CsvCustomerOrderInfo)

/-- The row that the server keeps for an item of an order. -/
def orderRow (order : Order) (item : Item) : CsvCustomerOrderInfo where
  orderId := order.orderId
  productId := item.productId
  quantityPurchased := item.quantityPurchased
  firstName := (market.buyerOf order).firstName
  lastName := (market.buyerOf order).lastName
  streetAddress := (market.buyerOf order).streetAddress
  city := (market.buyerOf order).city
  state := (market.buyerOf order).state
  zipCode := (market.buyerOf order).zipCode
  totalPrice := item.totalPrice

/-- An answer as the server words it. -/
def Answer.text : Answer → Text
  | .verdict granted => OnlineStore.verdict granted
  | .drawn id => decimal id
  | .catalogue products => products.flatMap productReply
  | .bills orders =>
    orders.flatMap fun order => joinFields [decimal order.orderId, decimal order.cost] ++ ['\n']
  | .details items =>
    items.flatMap fun (item, row) => joinFields [decimal item.productId, row.productName.val,
      decimal item.quantityPurchased, decimal item.totalPrice]
  | .personal buyers =>
    buyers.flatMap fun row => joinFields [decimal row.uuid, row.firstName.val, row.lastName.val,
      row.phoneNumber.val, row.streetAddress.val, row.city.val, row.state.val, row.zipCode.val] ++
        ['\n']
  | .sales rows => rows.flatMap customerOrderReply

/-- The items of the market, order by order. -/
def items : List (Order × Item) :=
  market.orders.rows.flatMap fun order => order.items.map fun item => (order, item)

/-- The lookup that `[VALIDATE_ID]` asks for. In CustomerOrder it looks for the product. -/
def holds (id : Int32) : DbFile → Bool
  | .CustomerInfo => (market.buyers.lookup id).isSome
  | .SellerInfo => (market.sellers.lookup id).isSome
  | .ProductInfo => (market.products.lookup id).isSome
  | .BillingInfo => (market.orders.lookup id).isSome
  | .CustomerOrder => market.items.any fun (_, item) => item.productId == id

/-! ### Requests -/

/-- A seller changes the own products; a product that is not there is refused. -/
def asOwner (sellerID productID : Int32) (products : Products) :
    Option (Market × Option Answer) :=
  match market.products.lookup productID with
  | none => some (market, some (.verdict false))
  | some row =>
    if row.sellerId = sellerID then some (market.withProducts products, some (.verdict true))
    else none

/-- The market after a request and the answer, if one is sent. The id is the one that is drawn. -/
def serve (id : Int32) : Request → Option (Market × Option Answer)
  | .newClient .buyer firstName lastName _ streetAddress city state zipCode =>
    if fresh : market.buyers.Fresh id then
      some (market.enrol (registeredRow id firstName.chars lastName.chars streetAddress.chars
        city.chars state.chars zipCode.chars) fresh, some (.drawn id))
    else none
  -- The row of a new seller is stored where no scan finds it.
  | .newClient .seller .. => some (market, some (.drawn id))
  | .validateID sought database =>
    some (market, some (.verdict (market.holds sought.number database)))
  | .viewProducts none => some (market, some (.catalogue market.products.rows))
  -- A seller is shown what the others sell too.
  | .viewProducts (some _) =>
    if ∀ row ∈ market.products.rows, row.sellerId ≠ 0 then
      some (market, some (.catalogue market.products.rows))
    else none
  | .completeOrder buyerID lines =>
    if market.Supplies (orderItems lines) then
      if allowed : market.orders.Fresh id ∧ (market.buyers.lookup buyerID.number).isSome then
        some (market.place (orderOf id buyerID.number lines) (orderItems lines) allowed.1 allowed.2,
          some (.verdict true))
      else none
    else some (market, some (.verdict false))
  | .viewBuyerOrders buyerID =>
    some (market, some (.bills (market.orders.rows.filter fun order =>
      order.customerId == buyerID.number)))
  -- Only the first order is compared.
  | .checkBuyer buyerID orderID =>
    match market.orders.rows with
    | [] => some (market, some (.verdict false))
    | order :: _ =>
      if order.orderId = orderID.number then
        some (market, some (.verdict (order.customerId == buyerID.number)))
      else none
  | .orderDetails orderID =>
    some (market, some (.details ((market.items.filter fun (order, _) =>
      order.orderId == orderID.number).filterMap fun (_, item) =>
        (market.products.lookup item.productId).map fun row => (item, row))))
  -- Nothing is answered to a return.
  | .modOrder orderID productIDtoReturn =>
    match market.orders.lookup orderID.number with
    | none => none
    | some order =>
      if market.Returnable order productIDtoReturn.number then
        some (market.takeBack orderID.number productIDtoReturn.number, none)
      else none
  | .viewBilling buyerID =>
    some (market, some (.personal (market.buyers.lookup buyerID.number).toList))
  | .editInfo clientType clientID change =>
    if ((market.clients clientType).lookup clientID.number).isSome then
      some (market.edit clientType clientID.number change, some (.verdict true))
    else none
  | .newProduct sellerID productName quantity price =>
    if fresh : market.products.Fresh id then
      some (market.withProducts (market.products.insert
        ⟨id, productName.chars, sellerID.number, quantity.number, price.number⟩ fresh),
        some (.verdict true))
    else none
  | .deleteProd sellerID productID =>
    market.asOwner sellerID.number productID.number (market.products.remove productID.number)
  | .modQuant sellerID productID quantity =>
    market.asOwner sellerID.number productID.number (market.products.update productID.number
      (fun row => { row with quantity := quantity.number }) fun _ => rfl)
  | .modPrice sellerID productID price =>
    market.asOwner sellerID.number productID.number (market.products.update productID.number
      (fun row => { row with price := price.number }) fun _ => rfl)
  | .sellerOrders sellerID =>
    some (market, some (.sales ((market.products.rows.filter fun row =>
      row.sellerId == sellerID.number).flatMap fun row =>
        (market.items.filter fun (_, item) => item.productId == row.productId).map
          fun (order, item) => market.orderRow order item)))

/-- The market after requests one after the other, and the answers in turn. -/
def serveAll (rand : Rand) : List (Nat × Request) → Market → Option (Market × List Answer)
  | [], market => some (market, [])
  | (now, request) :: requests, market => do
    let (next, answer) ← market.serve (uidAt rand now) request
    let (final, answers) ← serveAll rand requests next
    return (final, answer.toList ++ answers)

end Market

end OnlineStore
