/-
This file says what the views show.

A seller's view of the orders is a join of two tables, and it shows exactly the order rows of the
seller's products. A seller's view of the products is meant to show the seller's own products, but
the id that it filters by is read from the text of the client type, which is no number, and the
filter ends the loop. So it shows the products of all sellers up to the first one without a
seller.
-/

import OnlineStore.Joins
import OnlineStore.Replies
import OnlineStore.Rows

namespace OnlineStore

open CString Cells Prog Joins

/-! ### A seller's orders -/

/-- The products of a seller. -/
def ownedProductIDs (sellerID : Int32) (pList : List CsvProductInfo) : List Int32 :=
  ((DbFile.rows .ProductInfo pList).filter fun row => row.sellerId == sellerID).map
    CsvProductInfo.productId

/-- The order row is for a product of the seller. -/
def CsvCustomerOrderInfo.SoldBy (row : CsvCustomerOrderInfo) (sellerID : Int32)
    (pList : List CsvProductInfo) : Prop :=
  ∃ product ∈ DbFile.rows .ProductInfo pList,
    product.productId = row.productId ∧ product.sellerId = sellerID

instance (row : CsvCustomerOrderInfo) (sellerID : Int32) (pList : List CsvProductInfo) :
    Decidable (row.SoldBy sellerID pList) :=
  inferInstanceAs (Decidable (∃ product ∈ DbFile.rows .ProductInfo pList, _))

/-- The order rows of a seller's products. -/
def soldRows (sellerID : Int32) (pList : List CsvProductInfo)
    (customerOrderInfo : List CsvCustomerOrderInfo) : List CsvCustomerOrderInfo :=
  (DbFile.rows .CustomerOrder customerOrderInfo).filter fun row => row.SoldBy sellerID pList

/-- What a seller sees of the orders: the rows of the own products, each of them once, product by
product in the order of the product table, and the rows of one product in their old order. -/
structure SellerView (sellerID : Int32) (pList : List CsvProductInfo)
    (customerOrderInfo listed : List CsvCustomerOrderInfo) : Prop where
  exactly : listed.Perm (soldRows sellerID pList customerOrderInfo)
  grouped : listed.Pairwise fun first second =>
    ((DbFile.rows .ProductInfo pList).map CsvProductInfo.productId).idxOf first.productId ≤
      ((DbFile.rows .ProductInfo pList).map CsvProductInfo.productId).idxOf second.productId
  ordered : ∀ productID, listed.filter (fun row => row.productId == productID) =
    (soldRows sellerID pList customerOrderInfo).filter fun row => row.productId == productID

theorem mem_ownedProductIDs_iff {row : CsvCustomerOrderInfo} {sellerID : Int32}
    {pList : List CsvProductInfo} :
    row.productId ∈ ownedProductIDs sellerID pList ↔ row.SoldBy sellerID pList := by
  simp only [ownedProductIDs, List.mem_map, List.mem_filter, beq_iff_eq,
    CsvCustomerOrderInfo.SoldBy]
  constructor
  · rintro ⟨product, ⟨member, own⟩, same⟩
    exact ⟨product, member, same, own⟩
  · rintro ⟨product, member, same, own⟩
    exact ⟨product, ⟨member, own⟩, same⟩

theorem sellerOrdersReply_eq (sellerID : Int32) (pList : List CsvProductInfo)
    (customerOrderInfo : List CsvCustomerOrderInfo) :
    sellerOrdersReply sellerID pList customerOrderInfo =
      (grouped CsvCustomerOrderInfo.productId (ownedProductIDs sellerID pList)
        (DbFile.rows .CustomerOrder customerOrderInfo)).flatMap customerOrderReply :=
  List.flatMap_assoc.symm

/-- The texts of an order row have no comma. -/
def CsvCustomerOrderInfo.CommaFree (row : CsvCustomerOrderInfo) : Prop :=
  ∀ chars ∈ DbFile.columns .CustomerOrder row, ',' ∉ chars.val

/-- The reply tells all ten fields of an order row. -/
theorem customerOrderReply_append_inj {row other : CsvCustomerOrderInfo} {rest rest' : Text}
    (commaFree : row.CommaFree) (commaFree' : other.CommaFree)
    (same : customerOrderReply row ++ rest = customerOrderReply other ++ rest') :
    row = other ∧ rest = rest' := by
  have fields (row : CsvCustomerOrderInfo) (commaFree : row.CommaFree) :
      ∀ field ∈ [decimal row.orderId, decimal row.productId, decimal row.quantityPurchased,
        decimal row.totalPrice, row.firstName.val, row.lastName.val, row.streetAddress.val,
        row.city.val, row.state.val, row.zipCode.val], ',' ∉ field := by
    simp only [CsvCustomerOrderInfo.CommaFree, DbFile.columns, DbFile.texts,
      List.forall_mem_cons] at commaFree
    simp [comma_not_mem_decimal, commaFree]
  obtain ⟨equal, rests⟩ := joinFields_append_inj (fields row commaFree) (fields other commaFree')
    (by simp) same
  simp only [List.cons.injEq, and_true] at equal
  obtain ⟨order, product, quantity, price, first, last, street, city, state, zip⟩ := equal
  refine ⟨?_, rests⟩
  cases row
  cases other
  simp only [CsvCustomerOrderInfo.mk.injEq]
  exact ⟨decimal_injective order, decimal_injective product, decimal_injective quantity,
    Subtype.ext first, Subtype.ext last, Subtype.ext street, Subtype.ext city, Subtype.ext state,
    Subtype.ext zip, decimal_injective price⟩

/-- So the reply to a seller tells the rows that it lists, in their order. -/
theorem flatMap_customerOrderReply_inj {rows others : List CsvCustomerOrderInfo}
    (commaFree : ∀ row ∈ rows, row.CommaFree) (commaFree' : ∀ row ∈ others, row.CommaFree)
    (same : rows.flatMap customerOrderReply = others.flatMap customerOrderReply) :
    rows = others := by
  induction rows generalizing others with
  | nil =>
    cases others with
    | nil => rfl
    | cons other others => simp [customerOrderReply] at same
  | cons row rows inductionHypothesis =>
    cases others with
    | nil => simp [customerOrderReply] at same
    | cons other others =>
      rw [List.forall_mem_cons] at commaFree commaFree'
      rw [List.flatMap_cons, List.flatMap_cons] at same
      obtain ⟨rfl, rest⟩ := customerOrderReply_append_inj commaFree.1 commaFree'.1 same
      rw [inductionHypothesis commaFree.2 commaFree'.2 rest]

section Orders

variable {sellerID : Int32} {pList : List CsvProductInfo}

theorem soldRows_eq (customerOrderInfo : List CsvCustomerOrderInfo) :
    soldRows sellerID pList customerOrderInfo =
      (DbFile.rows .CustomerOrder customerOrderInfo).filter
        fun row => row.productId ∈ ownedProductIDs sellerID pList :=
  List.filter_congr fun _ _ => decide_eq_decide.mpr mem_ownedProductIDs_iff.symm

theorem sublist_ownedProductIDs : (ownedProductIDs sellerID pList).Sublist
    ((DbFile.rows .ProductInfo pList).map CsvProductInfo.productId) :=
  (List.filter_sublist).map _

/-- The nested loops list what a seller is to see. -/
theorem sellerView_grouped
    (distinct : ((DbFile.rows .ProductInfo pList).map CsvProductInfo.productId).Nodup)
    (customerOrderInfo : List CsvCustomerOrderInfo) :
    SellerView sellerID pList customerOrderInfo
      (grouped CsvCustomerOrderInfo.productId (ownedProductIDs sellerID pList)
        (DbFile.rows .CustomerOrder customerOrderInfo)) := by
  have owned : (ownedProductIDs sellerID pList).Nodup := distinct.sublist sublist_ownedProductIDs
  refine ⟨?_, grouped_pairwise distinct sublist_ownedProductIDs, fun productID => ?_⟩
  · rw [soldRows_eq]
    exact grouped_perm owned
  · rw [filter_grouped owned, soldRows_eq, List.filter_filter]
    by_cases listed : productID ∈ ownedProductIDs sellerID pList
    · rw [if_pos listed]
      refine List.filter_congr fun row _ => ?_
      by_cases same : row.productId = productID
      · simp [same, listed]
      · simp [same]
    · rw [if_neg listed]
      refine (List.filter_eq_nil_iff.mpr fun row _ both => listed ?_).symm
      simp only [Bool.and_eq_true, beq_iff_eq, decide_eq_true_eq] at both
      exact both.1 ▸ both.2

/-- Order rows of other products do not matter. -/
theorem sellerOrdersReply_congr {customerOrderInfo other : List CsvCustomerOrderInfo}
    (same : soldRows sellerID pList other = soldRows sellerID pList customerOrderInfo) :
    sellerOrdersReply sellerID pList other =
      sellerOrdersReply sellerID pList customerOrderInfo := by
  rw [soldRows_eq, soldRows_eq] at same
  rw [sellerOrdersReply_eq, sellerOrdersReply_eq, grouped_congr same]

end Orders

section SellerOrders

variable {Store : Type} (backing : Backing Store) (now : Nat) (world : World Store)

/-- The reply to a seller shows, with all fields, the order rows of the seller's products, each of
them once and no others, product by product. It is the same whatever the other order rows are. -/
theorem sellerViewsOrders_exact {buffer : Text} {sellerID : Int32}
    {products : List CsvProductInfo} {orders : List CsvCustomerOrderInfo}
    (decoded : numberAt buffer 0 = some sellerID)
    (loadedProducts : backing.load world.store .ProductInfo = some products)
    (loadedOrders : backing.load world.store .CustomerOrder = some orders)
    (distinct : ((DbFile.rows .ProductInfo products).map CsvProductInfo.productId).Nodup) :
    ∃ listed, SellerView sellerID products orders listed ∧
      (sellerViewsOrders buffer).run (exec backing now) world =
        some ((), world.reply (listed.flatMap customerOrderReply)) ∧
      ∀ (world' : World Store) (orders' : List CsvCustomerOrderInfo),
        backing.load world'.store .ProductInfo = some products →
        backing.load world'.store .CustomerOrder = some orders' →
        soldRows sellerID products orders' = soldRows sellerID products orders →
        (sellerViewsOrders buffer).run (exec backing now) world' =
          some ((), world'.reply (listed.flatMap customerOrderReply)) := by
  refine ⟨_, sellerView_grouped distinct orders, ?_, ?_⟩
  · rw [run_sellerViewsOrders backing now world decoded loadedProducts loadedOrders,
      sellerOrdersReply_eq]
  · intro world' orders' loadedProducts' loadedOrders' same
    rw [run_sellerViewsOrders backing now world' decoded loadedProducts' loadedOrders',
      sellerOrdersReply_congr same, sellerOrdersReply_eq]

end SellerOrders

/-- Seller 1001 of the shipped files asks for the orders. -/
theorem sellerViewsOrders_exact_tony :
    ∃ listed, SellerView 1001 (shippedTables .ProductInfo) (shippedTables .CustomerOrder) listed ∧
      (sellerViewsOrders "1001,\n".toList).run (exec diskBacking 0) shippedWorld =
        some ((), shippedWorld.reply (listed.flatMap customerOrderReply)) ∧
      ∀ (world' : World Files) (orders' : List CsvCustomerOrderInfo),
        diskBacking.load world'.store .ProductInfo = some (shippedTables .ProductInfo) →
        diskBacking.load world'.store .CustomerOrder = some orders' →
        soldRows 1001 (shippedTables .ProductInfo) orders' =
          soldRows 1001 (shippedTables .ProductInfo) (shippedTables .CustomerOrder) →
        (sellerViewsOrders "1001,\n".toList).run (exec diskBacking 0) world' =
          some ((), world'.reply (listed.flatMap customerOrderReply)) :=
  sellerViewsOrders_exact diskBacking 0 shippedWorld (by decide) (loads_shippedWorld .ProductInfo)
    (loads_shippedWorld .CustomerOrder) (by decide)

/-! ### A seller's products -/

/-- The products before the first one without a seller. -/
def productsBeforeSellerless (pList : List CsvProductInfo) : List CsvProductInfo :=
  (DbFile.rows .ProductInfo pList).takeWhile fun row => row.sellerId != 0

/-- The id that the seller's branch filters by is read from the tag of the client type. -/
theorem viewedProducts_seller (pList : List CsvProductInfo) :
    viewedProducts ClientType.seller.tag pList = productsBeforeSellerless pList := by
  have seller : clientTypeOf ClientType.seller.tag = .seller := by decide
  have number : atoi ClientType.seller.tag = 0 := by decide
  rw [viewedProducts, seller, number, productsBeforeSellerless, DbFile.rows, records,
    List.takeWhile_takeWhile]
  refine congrArg (List.takeWhile · pList) (funext fun row => ?_)
  rw [Bool.decide_and, Bool.decide_eq_true, Bool.decide_eq_true]
  exact Bool.and_comm _ _

end OnlineStore
