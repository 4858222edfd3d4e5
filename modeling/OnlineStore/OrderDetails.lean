/-
This file says when the details of an order are complete.

`readOrderDetails` looks the name of every ordered product up in the product table, and shows
nothing of a row whose product it does not find. So the details of every order are complete as
long as every ordered product is in the table and the rows of the order and the reply fit their
arrays. Requests that sell and change products keep the products listed, and so does the deletion
of a product that nobody has ordered. The deletion of an ordered product is not refused, and from
then on the details leave its rows out.
-/

import OnlineStore.Joins
import OnlineStore.Limits
import OnlineStore.Stock

namespace OnlineStore

open CString Cells Prog Joins

/-! ### What the details show -/

/-- What the details say of a row, given the name of its product. -/
def CsvCustomerOrderInfo.detail (row : CsvCustomerOrderInfo) (name : Text) : Text :=
  joinFields [decimal row.productId, name, decimal row.quantityPurchased, decimal row.totalPrice]

/-- The reply to a request for the details of an order tells every row of it, in the order of the
table, with the name that the product table has for the product. -/
def World.ShowsOrder (rand : Rand) (world : World Tables) (now : Nat) (orderID : Token 20) :
    Prop :=
  ∃ name : Int32 → Text,
    (∀ product ∈ DbFile.rows .ProductInfo (world.store .ProductInfo),
      name product.productId = product.productName.val) ∧
    serveWithin tablePrinter rand now (Request.orderDetails orderID).message world =
      some (world.reply ((rowsOfOrder orderID.number (world.store .CustomerOrder)).flatMap
        fun row => row.detail (name row.productId)))

/-- The details of all orders are complete. -/
def World.ShowsOrders (rand : Rand) (world : World Tables) : Prop :=
  ∀ now orderID, world.ShowsOrder rand now orderID

/-- The arrays hold the details of every order: the two tables, the rows of the order and the
reply. -/
def World.DetailsFit (world : World Tables) : Prop :=
  (world.store.Held .CustomerOrder ∧ world.store.Held .ProductInfo) ∧ ∀ orderID : Int32,
    (rowsOfOrder orderID (world.store .CustomerOrder)).length ≤ maxItemsInOrder ∧
    ((rowsOfOrder orderID (world.store .CustomerOrder)).map
      (detailWidth (world.store .ProductInfo))).sum < MSG_BUFFER_SIZE

theorem detail_ne_nil (row : CsvCustomerOrderInfo) (name : Text) : row.detail name ≠ [] := by
  simp [CsvCustomerOrderInfo.detail]

section Details

variable {products : List CsvProductInfo} {orders : List CsvCustomerOrderInfo}

theorem orderDetailsReply_eq_iff
    (distinct : ((DbFile.rows .ProductInfo products).map CsvProductInfo.productId).Nodup)
    {name : Int32 → Text} (names : ∀ product ∈ DbFile.rows .ProductInfo products,
      name product.productId = product.productName.val) (orderID : Int32) :
    orderDetailsReply orderID products orders =
        ((rowsOfOrder orderID orders).flatMap fun row => row.detail (name row.productId)) ↔
      ∀ row ∈ rowsOfOrder orderID orders,
        row.productId ∈ (DbFile.rows .ProductInfo products).map CsvProductInfo.productId := by
  have turned (item : CsvCustomerOrderInfo) :
      (fun product : CsvProductInfo => item.productId == product.productId) =
        fun product => product.productId == item.productId := funext fun _ => Bool.beq_comm
  rw [← flatMap_lookup_eq_iff distinct names detail_ne_nil, orderDetailsReply]
  simp only [turned]
  rfl

/-- Every product id has a name. -/
theorem exists_names
    (distinct : ((DbFile.rows .ProductInfo products).map CsvProductInfo.productId).Nodup) :
    ∃ name : Int32 → Text, ∀ product ∈ DbFile.rows .ProductInfo products,
      name product.productId = product.productName.val := by
  refine ⟨fun productID => ((DbFile.rows .ProductInfo products).filter fun product =>
    product.productId == productID).flatMap fun product => product.productName.val, ?_⟩
  intro product member
  dsimp only
  rw [filter_key_eq_singleton distinct member, List.flatMap_singleton]

end Details

/-! ### Every ordered product is listed -/

/-- The tables hold no row after their ends, the product ids are distinct, and every ordered
product is in the product table. -/
structure World.Listed (world : World Tables) : Prop where
  products : ∀ row ∈ world.store .ProductInfo, row.productId ≠ 0
  orders : ∀ row ∈ world.store .CustomerOrder, row.orderId ≠ 0
  distinct : ((world.store .ProductInfo).map CsvProductInfo.productId).Nodup
  listed : ∀ row ∈ world.store .CustomerOrder,
    row.productId ∈ (world.store .ProductInfo).map CsvProductInfo.productId

/-- The details of all orders are complete exactly if every ordered product is listed and the
arrays hold them. -/
theorem showsOrders_iff (rand : Rand) {world : World Tables}
    (products : ∀ row ∈ world.store .ProductInfo, row.productId ≠ 0)
    (orders : ∀ row ∈ world.store .CustomerOrder, row.orderId ≠ 0)
    (distinct : ((world.store .ProductInfo).map CsvProductInfo.productId).Nodup) :
    world.ShowsOrders rand ↔ (∀ row ∈ world.store .CustomerOrder,
      row.productId ∈ (world.store .ProductInfo).map CsvProductInfo.productId) ∧
        world.DetailsFit := by
  have loads : Loads tableBacking world world.store := fun file => rfl
  have productRows : DbFile.rows .ProductInfo (world.store .ProductInfo) =
      world.store .ProductInfo := rows_eq_self products
  have orderRows : DbFile.rows .CustomerOrder (world.store .CustomerOrder) =
      world.store .CustomerOrder := rows_eq_self orders
  rw [← productRows] at distinct
  constructor
  · intro shows
    have shown (orderID : Int32) :
        (∀ row ∈ rowsOfOrder orderID (world.store .CustomerOrder),
          row.productId ∈ (world.store .ProductInfo).map CsvProductInfo.productId) ∧
        (Request.orderDetails (Token.ofNumber orderID)).FitsIn tablePrinter rand 0 world.store
          world := by
      obtain ⟨name, names, served⟩ := shows 0 (Token.ofNumber orderID)
      obtain ⟨effect, fits⟩ :=
        (serveWithin_eq_some_iff tablePrinter rand 0 loads _).mp served
      rw [Request.effect, Option.some.injEq, World.reply_inj,
        orderDetailsReply_eq_iff distinct names, Token.number_ofNumber, productRows] at effect
      exact ⟨effect, fits⟩
    refine ⟨fun row member => ?_, (shown 0).2.1, fun orderID => ?_⟩
    · refine (shown row.orderId).1 row (List.mem_filter.mpr ⟨?_, beq_self_eq_true _⟩)
      rw [orderRows]
      exact member
    · have fits := (shown orderID).2.2
      rw [Request.replyWidth, Token.number_ofNumber] at fits
      exact fits
  · rintro ⟨listed, held, fits⟩ now orderID
    obtain ⟨name, names⟩ := exists_names distinct
    refine ⟨name, names, (serveWithin_eq_some_iff tablePrinter rand now loads _).mpr
      ⟨?_, held, fits orderID.number⟩⟩
    rw [Request.effect, Option.some.injEq, World.reply_inj,
      orderDetailsReply_eq_iff distinct names, productRows]
    intro row member
    have inRows := List.mem_of_mem_filter member
    rw [orderRows] at inRows
    exact listed row inRows

theorem World.Listed.showsOrders {world : World Tables} (invariant : world.Listed)
    (rand : Rand) : world.ShowsOrders rand ↔ world.DetailsFit :=
  (showsOrders_iff rand invariant.products invariant.orders invariant.distinct).trans
    (and_iff_right invariant.listed)

section Steps

variable {world next : World Tables}

/-- Products that are changed stay listed, and further products may be ordered. -/
theorem World.Listed.sell (invariant : world.Listed)
    (ids : (next.store .ProductInfo).map CsvProductInfo.productId =
      (world.store .ProductInfo).map CsvProductInfo.productId)
    {appended : List CsvCustomerOrderInfo}
    (orders : next.store .CustomerOrder = world.store .CustomerOrder ++ appended)
    (named : ∀ row ∈ appended, row.orderId ≠ 0)
    (listed : ∀ row ∈ appended,
      row.productId ∈ (world.store .ProductInfo).map CsvProductInfo.productId) : next.Listed := by
  refine ⟨fun row member => ?_, ?_, ids ▸ invariant.distinct, ?_⟩
  · have there : row.productId ∈ (world.store .ProductInfo).map CsvProductInfo.productId :=
      ids ▸ List.mem_map_of_mem member
    obtain ⟨before, inTable, same⟩ := List.mem_map.mp there
    exact same ▸ invariant.products before inTable
  · rw [orders]
    exact List.forall_mem_append.mpr ⟨invariant.orders, named⟩
  · rw [orders, ids]
    exact List.forall_mem_append.mpr ⟨invariant.listed, listed⟩

/-- A change of products only. -/
theorem World.Listed.change (invariant : world.Listed)
    (ids : (next.store .ProductInfo).map CsvProductInfo.productId =
      (world.store .ProductInfo).map CsvProductInfo.productId)
    (orders : next.store .CustomerOrder = world.store .CustomerOrder) : next.Listed :=
  invariant.sell ids ((List.append_nil _).symm ▸ orders)
    (fun _ member => absurd member List.not_mem_nil) fun _ member => absurd member List.not_mem_nil

/-- A new product with an id of its own. -/
theorem World.Listed.offer (invariant : world.Listed) {row : CsvProductInfo}
    (products : next.store .ProductInfo = world.store .ProductInfo ++ [row])
    (orders : next.store .CustomerOrder = world.store .CustomerOrder)
    (named : row.productId ≠ 0)
    (fresh : row.productId ∉ (world.store .ProductInfo).map CsvProductInfo.productId) :
    next.Listed := by
  refine ⟨?_, orders ▸ invariant.orders, ?_, ?_⟩
  · rw [products]
    exact List.forall_mem_append.mpr
      ⟨invariant.products, List.forall_mem_singleton.mpr named⟩
  · rw [products, List.map_append]
    refine List.Nodup.append invariant.distinct (List.nodup_singleton _) fun id known last => ?_
    obtain rfl : id = row.productId := List.mem_singleton.mp last
    exact fresh known
  · rw [products, orders, List.map_append]
    exact fun row member => List.mem_append_left _ (invariant.listed row member)

/-- A product that nobody ordered is withdrawn. -/
theorem World.Listed.withdraw (invariant : world.Listed) {productID : Int32}
    (products : next.store .ProductInfo =
      (world.store .ProductInfo).filter fun row => row.productId != productID)
    (orders : next.store .CustomerOrder = world.store .CustomerOrder)
    (unordered : productID ∉ (world.store .CustomerOrder).map CsvCustomerOrderInfo.productId) :
    next.Listed := by
  refine ⟨?_, orders ▸ invariant.orders, ?_, ?_⟩
  · rw [products]
    exact fun row member => invariant.products row (List.mem_of_mem_filter member)
  · rw [products]
    exact invariant.distinct.sublist (List.filter_sublist.map _)
  · rw [products, orders]
    intro row member
    obtain ⟨product, inTable, same⟩ := List.mem_map.mp (invariant.listed row member)
    refine List.mem_map.mpr ⟨product, List.mem_filter.mpr ⟨inTable, ?_⟩, same⟩
    rw [bne_iff_ne, same]
    rintro rfl
    exact unordered (List.mem_map_of_mem member)

/-- A product that somebody ordered is withdrawn: its rows are left out of the details. -/
theorem World.Listed.withdraw_ordered (invariant : world.Listed) (rand : Rand)
    {productID : Int32}
    (products : next.store .ProductInfo =
      (world.store .ProductInfo).filter fun row => row.productId != productID)
    (orders : next.store .CustomerOrder = world.store .CustomerOrder)
    (ordered : productID ∈ (world.store .CustomerOrder).map CsvCustomerOrderInfo.productId) :
    ¬next.ShowsOrders rand := by
  obtain ⟨row, inOrders, rfl⟩ := List.mem_map.mp ordered
  rw [showsOrders_iff rand, products, orders]
  · rintro ⟨listed, -⟩
    obtain ⟨product, member, named⟩ := List.mem_map.mp (listed row inOrders)
    exact absurd named (bne_iff_ne.mp (List.mem_filter.mp member).2)
  · rw [products]
    exact fun product member => invariant.products product (List.mem_of_mem_filter member)
  · rw [orders]
    exact invariant.orders
  · rw [products]
    exact invariant.distinct.sublist (List.filter_sublist.map _)

/-- A seller's change of the quantity or the price. -/
theorem World.Listed.modify (invariant : world.Listed) (sellerID productID : Int32)
    {change : CsvProductInfo → CsvProductInfo}
    (keeps : ∀ row, (change row).productId = row.productId) :
    (world.afterModify tableBacking change sellerID productID
      (world.store .ProductInfo)).Listed := by
  have rows : DbFile.rows .ProductInfo (world.store .ProductInfo) = world.store .ProductInfo :=
    rows_eq_self invariant.products
  rw [World.afterModify, ownership_eq, rows]
  cases located : (world.store .ProductInfo).find? fun row => row.productId == productID with
  | none => exact invariant.change rfl rfl
  | some row =>
    have member := List.mem_of_find?_eq_some located
    have named : row.productId = productID := by simpa using List.find?_some located
    by_cases own : row.sellerId = sellerID
    · simp only [own, if_true]
      have updated := put_productRowNum rows ⟨row, member, named⟩ change
      exact invariant.change ((congrArg (List.map CsvProductInfo.productId) updated).trans
        (map_updateFirst CsvProductInfo.productId keeps _)) rfl
    · simp only [own, if_false]
      exact invariant.change rfl rfl

/-- A seller's deletion of an own product that nobody ordered. -/
theorem World.Listed.delete (invariant : world.Listed) {sellerID productID : Int32}
    (owned : ∀ row ∈ world.store .ProductInfo, row.productId = productID →
      row.sellerId = sellerID)
    (unordered : productID ∉ (world.store .CustomerOrder).map CsvCustomerOrderInfo.productId) :
    (world.afterDelete tableBacking sellerID productID (world.store .ProductInfo)).Listed := by
  have rows : DbFile.rows .ProductInfo (world.store .ProductInfo) = world.store .ProductInfo :=
    rows_eq_self invariant.products
  rw [World.afterDelete, ownership_of_owned rows owned]
  by_cases listed : productID ∈ (world.store .ProductInfo).map CsvProductInfo.productId
  · rw [if_pos listed]
    exact invariant.withdraw (congrArg (List.filter _) rows) rfl unordered
  · rw [if_neg listed]
    exact invariant.change rfl rfl

/-- An order that is accepted or refused. -/
theorem World.Listed.order (invariant : world.Listed) (rand : Rand) (now : Nat)
    {buyerID : Int32} (lines : List OrderLine)
    (served : world.order tableBacking rand now world.store buyerID (orderItems lines) =
      some next) : next.Listed := by
  rw [World.order] at served
  by_cases accepted : validateBuyerOrder (orderItems lines) (world.store .ProductInfo) = true
  · have listed := allListed_of_accepted
      (fun line inLines => productID_ne_zero_of_mem_orderItems inLines) accepted
    rw [if_pos accepted, deductOrder_of_allListed listed] at served
    obtain ⟨buyerRecordRow, -, handed⟩ := Option.bind_eq_some_iff.mp served
    obtain rfl := Option.some.inj handed
    have orderRows : DbFile.rows .CustomerOrder (world.store .CustomerOrder) =
        world.store .CustomerOrder := rows_eq_self invariant.orders
    have behind : orderedTable (uidAt rand now) (cell (world.store .CustomerInfo) buyerRecordRow)
        (orderItems lines) (world.store .CustomerOrder) = world.store .CustomerOrder ++
          (orderItems lines).map (customerOrderRow (uidAt rand now)
            (cell (world.store .CustomerInfo) buyerRecordRow)) := by
      rw [orderedTable, orderRows, putAll_length, orderRows_orderItems]
    refine invariant.sell (map_productId_sellAll (orderItems lines) (world.store .ProductInfo))
      behind ?_ ?_
    · intro row member
      obtain ⟨line, inLines, rfl⟩ := List.mem_map.mp member
      exact uidAt_ne_zero rand now
    · intro row member
      obtain ⟨line, inLines, rfl⟩ := List.mem_map.mp member
      exact listed line inLines
  · rw [if_neg accepted] at served
    obtain rfl := Option.some.inj served
    exact invariant.change rfl rfl

end Steps

/-! ### Runs -/

/-- The requests that sell and change products, with what is taken for granted of each: a new
product draws an id that no product has, and a deletion is sent by the owner. -/
def Request.Deals (rand : Rand) (now : Nat) (world : World Tables) : Request → Prop
  | .newProduct .. =>
    uidAt rand now ∉ (world.store .ProductInfo).map CsvProductInfo.productId
  | .deleteProd sellerID productID =>
    ∀ row ∈ world.store .ProductInfo, row.productId = productID.number →
      row.sellerId = sellerID.number
  | .completeOrder .. | .modQuant .. | .modPrice .. => True
  | _ => False

/-- The request deletes no product that was ordered. -/
def Request.SparesOrdered (world : World Tables) : Request → Prop
  | .deleteProd _ productID =>
    productID.number ∉ (world.store .CustomerOrder).map CsvCustomerOrderInfo.productId
  | _ => True

/-- The buyer of an order that passes the check is a client. -/
def Request.BuyerFound (world : World Tables) : Request → Prop
  | .completeOrder buyerID lines =>
    validateBuyerOrder (orderItems lines) (world.store .ProductInfo) = true →
      (findBuyerInClientInfo buyerID.number (world.store .CustomerInfo)).isSome = true
  | _ => True

/-- The request ends within the arrays and spares the ordered products. -/
structure Request.KeepsDetails (rand : Rand) (now : Nat) (world : World Tables)
    (request : Request) :
    Prop where
  spares : request.SparesOrdered world
  fits : request.FitsIn tablePrinter rand now world.store world
  found : request.BuyerFound world

/-- Every state of a run is as said, and so is every request in the state that it meets. -/
def AlongRun (rand : Rand) (fine : World Tables → Prop)
    (holds : Nat → World Tables → Request → Prop) :
    List (Nat × Request) → World Tables → Prop
  | [], world => fine world
  | (now, request) :: requests, world =>
    fine world ∧ holds now world request ∧ ∀ next,
      serveWithin tablePrinter rand now request.message world = some next →
        AlongRun rand fine holds requests next

section Runs

variable {world next : World Tables}

/-- Every request of the five kinds that spares the ordered products keeps them listed. -/
theorem World.Listed.serve (invariant : world.Listed) (rand : Rand) (now : Nat)
    {request : Request} (deals : request.Deals rand now world)
    (spares : request.SparesOrdered world)
    (served : serveWithin tablePrinter rand now request.message world = some next) :
    next.Listed := by
  have loads : Loads tableBacking world world.store := fun file => rfl
  obtain ⟨effect, -⟩ := (serveWithin_eq_some_iff tablePrinter rand now loads request).mp served
  cases request with
  | newProduct sellerID productName quantity price =>
    obtain rfl := Option.some.inj effect
    exact invariant.offer (stockedTable_eq_append _ _ _ _ _ invariant.products) rfl
      (uidAt_ne_zero rand now) deals
  | completeOrder buyerID lines => exact invariant.order rand now lines effect
  | deleteProd sellerID productID =>
    obtain rfl := Option.some.inj effect
    exact invariant.delete deals spares
  | modQuant sellerID productID quantity =>
    obtain rfl := Option.some.inj effect
    exact invariant.modify sellerID.number productID.number fun row => rfl
  | modPrice sellerID productID price =>
    obtain rfl := Option.some.inj effect
    exact invariant.modify sellerID.number productID.number fun row => rfl
  | _ => exact deals.elim

/-- The details are no longer complete after a request that does not spare an ordered product. -/
theorem World.Listed.not_shows (invariant : world.Listed) (rand : Rand) (now : Nat)
    {request : Request} (deals : request.Deals rand now world)
    (deletes : ¬request.SparesOrdered world)
    (served : serveWithin tablePrinter rand now request.message world = some next) :
    ¬next.ShowsOrders rand := by
  have loads : Loads tableBacking world world.store := fun file => rfl
  obtain ⟨effect, -⟩ := (serveWithin_eq_some_iff tablePrinter rand now loads request).mp served
  cases request with
  | deleteProd sellerID productID =>
    rw [Request.SparesOrdered, not_not] at deletes
    obtain ⟨row, inOrders, same⟩ := List.mem_map.mp deletes
    have inProducts := same ▸ invariant.listed row inOrders
    have rows : DbFile.rows .ProductInfo (world.store .ProductInfo) = world.store .ProductInfo :=
      rows_eq_self invariant.products
    have owner : ownership sellerID.number productID.number (world.store .ProductInfo) = .own :=
      (ownership_of_owned rows deals).trans (if_pos inProducts)
    obtain rfl := Option.some.inj effect
    rw [World.afterDelete, owner]
    exact invariant.withdraw_ordered rand (congrArg (List.filter _) rows) rfl deletes
  | _ => exact absurd trivial deletes

/-- Of these requests only an order may have no effect: when its buyer is looked for in vain. -/
theorem isSome_effect_iff (rand : Rand) (now : Nat) {request : Request}
    (deals : request.Deals rand now world) :
    (request.effect tableBacking rand now world.store world).isSome = true ↔
      request.BuyerFound world := by
  cases request with
  | completeOrder buyerID lines =>
    rw [Request.effect, World.order, Request.BuyerFound]
    by_cases accepted : validateBuyerOrder (orderItems lines) (world.store .ProductInfo) = true
    · have listed := allListed_of_accepted
        (fun line inLines => productID_ne_zero_of_mem_orderItems inLines) accepted
      rw [if_pos accepted, deductOrder_of_allListed listed]
      cases findBuyerInClientInfo buyerID.number (world.store .CustomerInfo) <;> simp [accepted]
    · simp [accepted]
  | newProduct | deleteProd | modQuant | modPrice => exact iff_of_true rfl trivial
  | _ => exact deals.elim

/-- Which of these requests are served. -/
theorem exists_serveWithin_iff (rand : Rand) (now : Nat) {request : Request}
    (deals : request.Deals rand now world) :
    (∃ next, serveWithin tablePrinter rand now request.message world = some next) ↔
      request.BuyerFound world ∧ request.FitsIn tablePrinter rand now world.store world := by
  have loads : Loads tableBacking world world.store := fun file => rfl
  rw [← isSome_effect_iff rand now deals, Option.isSome_iff_exists, ← exists_and_right]
  exact exists_congr fun next => serveWithin_eq_some_iff tablePrinter rand now loads request

end Runs

/-- Where no request is sent, the only state is the first one. -/
theorem reached_nil_iff (rand : Rand) (fine : World Tables → Prop) (world : World Tables) :
    (∀ served, served <+: ([] : List (Nat × Request)) → ∃ reached,
        serveAllWithin tablePrinter rand served world = some reached ∧ fine reached) ↔
      fine world := by
  constructor
  · intro all
    obtain ⟨reached, ran, shown⟩ := all [] (List.prefix_refl [])
    exact Option.some.inj ran ▸ shown
  · intro now served initial
    rw [List.prefix_nil.mp initial]
    exact ⟨world, rfl, now⟩

/-- The states of a run are the first one and those of the run from the next one on. -/
theorem reached_cons_iff (rand : Rand) (fine : World Tables → Prop) (world : World Tables)
    (now : Nat) (request : Request) (requests : List (Nat × Request)) :
    (∀ served, served <+: (now, request) :: requests → ∃ reached,
        serveAllWithin tablePrinter rand served world = some reached ∧ fine reached) ↔
      fine world ∧ ∃ next, serveWithin tablePrinter rand now request.message world = some next ∧
        ∀ served, served <+: requests → ∃ reached,
          serveAllWithin tablePrinter rand served next = some reached ∧ fine reached := by
  constructor
  · intro all
    refine ⟨(reached_nil_iff rand fine world).mp fun served initial =>
      all served (initial.trans List.nil_prefix), ?_⟩
    obtain ⟨first, ran, -⟩ := all [(now, request)] (List.prefix_append _ requests)
    rw [serveAllWithin] at ran
    obtain ⟨next, served, -⟩ := Option.bind_eq_some_iff.mp ran
    refine ⟨next, served, fun others initial => ?_⟩
    obtain ⟨reached, ends, shown⟩ :=
      all ((now, request) :: others) (List.cons_prefix_cons.mpr ⟨rfl, initial⟩)
    rw [serveAllWithin, served, Option.bind_some] at ends
    exact ⟨reached, ends, shown⟩
  · rintro ⟨first, next, served, later⟩ others initial
    cases others with
    | nil => exact ⟨world, rfl, first⟩
    | cons other others =>
      obtain ⟨rfl, rest⟩ := List.cons_prefix_cons.mp initial
      rw [serveAllWithin, served, Option.bind_some]
      exact later others rest

/-- Over a run of such requests, all requests are served and the details of all orders are
complete in every state reached, exactly if no request of the run deletes a product that was
ordered, the arrays hold what the requests put into them and the details of every order, and the
buyers of the accepted orders are clients. -/
theorem orders_shown_iff (rand : Rand) (requests : List (Nat × Request)) {world : World Tables}
    (start : world.Listed)
    (deals : AlongRun rand (fun _ => True) (Request.Deals rand) requests world) :
    (∀ served, served <+: requests → ∃ reached,
        serveAllWithin tablePrinter rand served world = some reached ∧
          reached.ShowsOrders rand) ↔
      AlongRun rand World.DetailsFit (Request.KeepsDetails rand) requests world := by
  induction requests generalizing world with
  | nil =>
    exact (reached_nil_iff rand (World.ShowsOrders rand) world).trans (start.showsOrders rand)
  | cons step requests inductionHypothesis =>
    obtain ⟨now, request⟩ := step
    obtain ⟨-, dealt, later⟩ := deals
    rw [reached_cons_iff, start.showsOrders rand]
    refine and_congr_right fun _ => ?_
    constructor
    · rintro ⟨next, served, shows⟩
      have spares : request.SparesOrdered world := by
        by_contra deletes
        obtain ⟨reached, ran, shown⟩ := shows [] List.nil_prefix
        obtain rfl := Option.some.inj ran
        exact start.not_shows rand now dealt deletes served shown
      obtain ⟨found, fits⟩ := (exists_serveWithin_iff rand now dealt).mp ⟨next, served⟩
      refine ⟨⟨spares, fits, found⟩, fun other same => ?_⟩
      obtain rfl := Option.some.inj (served.symm.trans same)
      exact (inductionHypothesis (start.serve rand now dealt spares served)
        (later next served)).mp shows
    · rintro ⟨keeps, afterwards⟩
      obtain ⟨next, served⟩ :=
        (exists_serveWithin_iff rand now dealt).mpr ⟨keeps.found, keeps.fits⟩
      exact ⟨next, served, (inductionHypothesis
        (start.serve rand now dealt keeps.spares served) (later next served)).mpr
          (afterwards next served)⟩

theorem listed_sampleTables : World.Listed ⟨sampleTables, [], [], []⟩ where
  products := by decide
  orders := by decide
  distinct := by decide
  listed := by decide

/-- The product of the small database, which is ordered. -/
def orderedProduct : Token 9 := ⟨"002000".toList, by decide⟩

/-- The price of the ordered product is set, and a cap is offered. -/
def repricedAndOffered : List (Nat × Request) :=
  [(0, .modPrice (Token.ofNumber 0) orderedProduct (Token.ofNumber 4)),
    (1, .newProduct (Token.ofNumber 7) ⟨"cap".toList, by decide⟩ (Token.ofNumber 8)
      (Token.ofNumber 9))]

theorem orders_shown_iff_repricedAndOffered :
    (∀ served, served <+: repricedAndOffered → ∃ reached,
        serveAllWithin tablePrinter id served ⟨sampleTables, [], [], []⟩ = some reached ∧
          reached.ShowsOrders id) ↔
      AlongRun id World.DetailsFit (Request.KeepsDetails id) repricedAndOffered
        ⟨sampleTables, [], [], []⟩ := by
  refine orders_shown_iff id repricedAndOffered listed_sampleTables ⟨trivial, trivial, ?_⟩
  intro next served
  have loads : Loads tableBacking ⟨sampleTables, [], [], []⟩ sampleTables := fun file => rfl
  obtain ⟨effect, -⟩ := (serveWithin_eq_some_iff tablePrinter id 0 loads _).mp served
  obtain rfl := Option.some.inj effect
  refine ⟨trivial, ?_, fun _ _ => trivial⟩
  have fresh : uidAt id 1 ≠ 2000 := by decide
  exact fun listed => fresh (List.mem_singleton.mp listed)

/-- The ordered product is withdrawn. -/
def withdrawn : Request :=
  .deleteProd (Token.ofNumber 0) orderedProduct

/-- The owner withdraws the ordered product, and the details of the order become empty. -/
theorem withdrawn_not_shown :
    World.Listed ⟨sampleTables, [], [], []⟩ ∧
      AlongRun id (fun _ => True) (Request.Deals id) [(0, withdrawn)]
        ⟨sampleTables, [], [], []⟩ ∧
      ∃ reached, serveAllWithin tablePrinter id [(0, withdrawn)] ⟨sampleTables, [], [], []⟩ =
          some reached ∧
        (rowsOfOrder 3000 (reached.store .CustomerOrder)).length = 1 ∧
        serveWithin tablePrinter id 1 (Request.orderDetails (Token.ofNumber 3000)).message reached =
          some (reached.reply []) ∧
        ¬reached.ShowsOrders id := by
  have loads : Loads tableBacking ⟨sampleTables, [], [], []⟩ sampleTables := fun file => rfl
  have deals : withdrawn.Deals id 0 ⟨sampleTables, [], [], []⟩ := by
    intro row member _
    obtain rfl := List.mem_singleton.mp member
    decide
  have deletes : ¬withdrawn.SparesOrdered ⟨sampleTables, [], [], []⟩ := by
    have ordered : orderedProduct.number ∈
        (sampleTables .CustomerOrder).map CsvCustomerOrderInfo.productId := by decide
    exact fun spares => spares ordered
  have fits : withdrawn.FitsIn tablePrinter id 0 sampleTables ⟨sampleTables, [], [], []⟩ := by
    have held : Tables.Held sampleTables .ProductInfo := by
      unfold Tables.Held
      decide
    exact ⟨held, Nat.zero_lt_succ _, Nat.zero_le _, rfl⟩
  obtain ⟨next, served⟩ := (exists_serveWithin_iff id 0 deals).mpr ⟨trivial, fits⟩
  obtain ⟨effect, -⟩ := (serveWithin_eq_some_iff tablePrinter id 0 loads _).mp served
  refine ⟨listed_sampleTables, ⟨trivial, deals, fun _ _ => trivial⟩, next, ?_, ?_, ?_,
    listed_sampleTables.not_shows id 0 deals deletes served⟩
  · rw [serveAllWithin, served]
    rfl
  · obtain rfl := Option.some.inj effect
    rfl
  · obtain rfl := Option.some.inj effect
    refine (serveWithin_eq_some_iff tablePrinter id 1 (fun file => rfl) _).mpr ⟨?_, ?_⟩
    · rw [Request.effect, Token.number_ofNumber]
      rfl
    · have orders : Tables.Held sampleTables .CustomerOrder := by
        unfold Tables.Held
        decide
      have rows : (rowsOfOrder 3000 (sampleTables .CustomerOrder)).length ≤ maxItemsInOrder := by
        decide
      refine ⟨⟨orders, Nat.zero_lt_succ _⟩, ?_, ?_⟩
      · rw [Token.number_ofNumber]
        exact rows
      · rw [Request.replyWidth, Token.number_ofNumber]
        exact Nat.zero_lt_succ _

end OnlineStore
