/-
This file shows that the copies of a buyer's data stay consistent. The name and the address of a
buyer stand in the client row, in every billing row of the buyer and in every CustomerOrder row
of these orders, so the copies are linked by two keys.

An edit is taken as what it does to the personal data, with the keys kept. On consistent tables
each of its three write-backs is then one map over the rows: the client row by its id, the
billing rows by the customer and the order rows by the collected order numbers. The collected
numbers reach exactly the rows of the buyer, because the rows of one order have one customer.
-/

import OnlineStore.OrderAccounting
import Mathlib.Data.List.Nodup

namespace OnlineStore

open CString Cells Prog

/-! ### Consistent tables -/

/-- The copies of the buyers' data agree. -/
structure Consistent (clients : List CsvClientInfo) (billing : List CsvBillingInfo)
    (orders : List CsvCustomerOrderInfo) : Prop where
  distinct : (clients.map CsvClientInfo.uuid).Nodup
  oneCustomer : ∀ bill ∈ billing, ∀ other ∈ billing, bill.orderId = other.orderId →
    bill.customerId = other.customerId
  billCopies : ∀ bill ∈ billing, ∀ client ∈ clients, client.uuid = bill.customerId →
    bill.personal = client.personal
  orderCopies : ∀ row ∈ orders, ∀ bill ∈ billing, bill.orderId = row.orderId →
    row.personal = bill.personal

/-- The rows of the three tables are consistent. -/
def ConsistentTables (clients : List CsvClientInfo) (billing : List CsvBillingInfo)
    (orders : List CsvCustomerOrderInfo) : Prop :=
  Consistent (clientRows clients) (DbFile.rows .BillingInfo billing)
    (DbFile.rows .CustomerOrder orders)

/-! ### Edits of a buyer's data -/

/-- What an edit does to the rows it reaches: it sets the personal data by one function and keeps
the keys. The rows of an order may be reached more than once. -/
structure CopiedEdit (set : Personal → Personal) (editClientRow : CsvClientInfo → CsvClientInfo)
    (editBillingRow : CsvBillingInfo → CsvBillingInfo)
    (editOrderRow : CsvCustomerOrderInfo → CsvCustomerOrderInfo) : Prop where
  clientData : ∀ row, (editClientRow row).personal = set row.personal
  clientKey : ∀ row, (editClientRow row).uuid = row.uuid
  billData : ∀ row, (editBillingRow row).personal = set row.personal
  billKeys : ∀ row, (editBillingRow row).orderId = row.orderId ∧
    (editBillingRow row).customerId = row.customerId
  orderData : ∀ row, (editOrderRow row).personal = set row.personal
  orderKey : ∀ row, (editOrderRow row).orderId = row.orderId
  again : ∀ row, editOrderRow (editOrderRow row) = editOrderRow row

theorem copiedEdit_setName (name : Chars × Chars) :
    CopiedEdit (fun data => { data with firstName := name.1, lastName := name.2 })
      (CsvClientInfo.setName name) (CsvBillingInfo.setName name)
      (CsvCustomerOrderInfo.setName name) where
  clientData _ := rfl
  clientKey _ := rfl
  billData _ := rfl
  billKeys _ := ⟨rfl, rfl⟩
  orderData _ := rfl
  orderKey _ := rfl
  again _ := rfl

theorem copiedEdit_setAddress (address : Address) :
    CopiedEdit (fun data => { data with
        streetAddress := address.streetAddress
        city := address.city
        state := address.state
        zipCode := address.zipCode })
      (CsvClientInfo.setAddress address) (CsvBillingInfo.setAddress address)
      (CsvCustomerOrderInfo.setAddress address) where
  clientData _ := rfl
  clientKey _ := rfl
  billData _ := rfl
  billKeys _ := ⟨rfl, rfl⟩
  orderData _ := rfl
  orderKey _ := rfl
  again _ := rfl

theorem isEnd_editOrder {update : CsvCustomerOrderInfo → CsvCustomerOrderInfo}
    (key : ∀ row, (update row).orderId = row.orderId) (chosen : CsvCustomerOrderInfo → Prop)
    [DecidablePred chosen] (row : CsvCustomerOrderInfo) :
    DbFile.isEnd .CustomerOrder (if chosen row then update row else row) =
      DbFile.isEnd .CustomerOrder row := by
  by_cases same : chosen row <;> simp [DbFile.isEnd, DbFile.key, same, key]

/-- The collected order numbers are updated one after the other, and a row that is updated twice
is not changed the second time, so one scan does the same. -/
theorem editOrders_eq_mapRecords {update : CsvCustomerOrderInfo → CsvCustomerOrderInfo}
    (key : ∀ row, (update row).orderId = row.orderId)
    (again : ∀ row, update (update row) = update row) (orderNums : List Int32)
    (orders : List CsvCustomerOrderInfo) :
    editOrders update orderNums orders = mapRecords (DbFile.isEnd .CustomerOrder)
      (fun row => if row.orderId ∈ orderNums then update row else row) orders := by
  induction orderNums generalizing orders with
  | nil =>
    refine (mapRecords_eq_self fun row _ => ?_).symm
    exact if_neg List.not_mem_nil
  | cons orderNum orderNums inductionHypothesis =>
    rw [editOrders, List.foldl_cons, ← editOrders, inductionHypothesis,
      mapRecords_mapRecords (isEnd_editOrder key _)]
    refine mapRecords_congr fun row _ => ?_
    by_cases same : row.orderId = orderNum
    · by_cases later : orderNum ∈ orderNums <;> simp [same, key, later, again]
    · by_cases later : row.orderId ∈ orderNums <;> simp [same, later]

theorem rows_editOrders {update : CsvCustomerOrderInfo → CsvCustomerOrderInfo}
    (key : ∀ row, (update row).orderId = row.orderId)
    (again : ∀ row, update (update row) = update row) (orderNums : List Int32)
    (orders : List CsvCustomerOrderInfo) :
    DbFile.rows .CustomerOrder (editOrders update orderNums orders) =
      (DbFile.rows .CustomerOrder orders).map fun row =>
        if row.orderId ∈ orderNums then update row else row := by
  rw [editOrders_eq_mapRecords key again]
  exact records_mapRecords orders (isEnd_editOrder key _)

section Edit

variable {set : Personal → Personal} {editClientRow : CsvClientInfo → CsvClientInfo}
variable {editBillingRow : CsvBillingInfo → CsvBillingInfo}
variable {editOrderRow : CsvCustomerOrderInfo → CsvCustomerOrderInfo}

/-- The bill of a buyer's order after an edit. -/
def editBill (editBillingRow : CsvBillingInfo → CsvBillingInfo) (id : Int32)
    (row : CsvBillingInfo) : CsvBillingInfo :=
  if row.customerId = id then editBillingRow row else row

theorem CopiedEdit.editBill_keys
    (edit : CopiedEdit set editClientRow editBillingRow editOrderRow) (id : Int32)
    (row : CsvBillingInfo) : (editBill editBillingRow id row).orderId = row.orderId ∧
      (editBill editBillingRow id row).customerId = row.customerId := by
  rw [editBill]
  split
  · exact edit.billKeys row
  · exact ⟨rfl, rfl⟩

theorem CopiedEdit.editBill_personal
    (edit : CopiedEdit set editClientRow editBillingRow editOrderRow) (id : Int32)
    (row : CsvBillingInfo) : (editBill editBillingRow id row).personal =
      if row.customerId = id then set row.personal else row.personal := by
  rw [editBill]
  split
  · exact edit.billData row
  · rfl

/-- An edit that reaches the rows of one buyer in all three tables keeps them consistent. -/
theorem Consistent.edit {clients : List CsvClientInfo} {billing : List CsvBillingInfo}
    {orders : List CsvCustomerOrderInfo} (consistent : Consistent clients billing orders)
    (edit : CopiedEdit set editClientRow editBillingRow editOrderRow) (id : Int32) :
    Consistent (clients.map fun row => if row.uuid = id then editClientRow row else row)
      (billing.map (editBill editBillingRow id))
      (orders.map fun row =>
        if row.orderId ∈ (billing.filter fun bill => bill.customerId == id).map
          CsvBillingInfo.orderId then editOrderRow row else row) where
  distinct := by
    have same : (clients.map fun row => if row.uuid = id then editClientRow row else row).map
        CsvClientInfo.uuid = clients.map CsvClientInfo.uuid := by
      rw [List.map_map]
      refine List.map_congr_left fun row _ => ?_
      by_cases own : row.uuid = id <;> simp [own, edit.clientKey]
    rw [same]
    exact consistent.distinct
  oneCustomer := by
    intro edited inBilling editedOther inBilling' same
    obtain ⟨bill, member, rfl⟩ := List.mem_map.mp inBilling
    obtain ⟨other, member', rfl⟩ := List.mem_map.mp inBilling'
    rw [(edit.editBill_keys id bill).1, (edit.editBill_keys id other).1] at same
    rw [(edit.editBill_keys id bill).2, (edit.editBill_keys id other).2]
    exact consistent.oneCustomer bill member other member' same
  billCopies := by
    intro edited inBilling editedClient inClients same
    obtain ⟨bill, member, rfl⟩ := List.mem_map.mp inBilling
    obtain ⟨client, member', rfl⟩ := List.mem_map.mp inClients
    rw [(edit.editBill_keys id bill).2] at same
    rw [edit.editBill_personal]
    by_cases own : client.uuid = id
    · rw [if_pos own, edit.clientKey] at same
      rw [if_pos own, if_pos (same ▸ own), edit.clientData,
        consistent.billCopies bill member client member' same]
    · rw [if_neg own] at same
      rw [if_neg own, if_neg (same ▸ own)]
      exact consistent.billCopies bill member client member' same
  orderCopies := by
    intro editedRow inOrders edited inBilling same
    obtain ⟨row, member, rfl⟩ := List.mem_map.mp inOrders
    obtain ⟨bill, member', rfl⟩ := List.mem_map.mp inBilling
    have rowKey : (if row.orderId ∈ (billing.filter fun bill => bill.customerId == id).map
        CsvBillingInfo.orderId then editOrderRow row else row).orderId = row.orderId := by
      split
      · exact edit.orderKey row
      · rfl
    rw [(edit.editBill_keys id bill).1, rowKey] at same
    have copied := consistent.orderCopies row member bill member' same
    -- The order number is collected exactly when this bill is the buyer's.
    have collected : row.orderId ∈ (billing.filter fun bill => bill.customerId == id).map
        CsvBillingInfo.orderId ↔ bill.customerId = id := by
      constructor
      · intro collected
        obtain ⟨other, inOwn, number⟩ := List.mem_map.mp collected
        obtain ⟨inTable, own⟩ := List.mem_filter.mp inOwn
        rw [consistent.oneCustomer bill member' other inTable (same.trans number.symm)]
        simpa using own
      · intro own
        exact List.mem_map.mpr ⟨bill, List.mem_filter.mpr ⟨member', by simpa using own⟩, same⟩
    rw [edit.editBill_personal]
    by_cases own : bill.customerId = id
    · rw [if_pos own, if_pos (collected.mpr own), edit.orderData, copied]
    · rw [if_neg own, if_neg fun number => own (collected.mp number), copied]

end Edit

/-! ### Orders and returns -/

/-- One more bill of an existing buyer, and the rows of its order, under a fresh order number. -/
theorem Consistent.append {clients : List CsvClientInfo} {billing : List CsvBillingInfo}
    {orders appended : List CsvCustomerOrderInfo} {bill : CsvBillingInfo}
    {buyerData : CsvClientInfo} (consistent : Consistent clients billing orders)
    (existing : buyerData ∈ clients) (customer : bill.customerId = buyerData.uuid)
    (copied : bill.personal = buyerData.personal)
    (rows : ∀ row ∈ appended, row.orderId = bill.orderId ∧ row.personal = buyerData.personal)
    (freshBill : ∀ other ∈ billing, other.orderId ≠ bill.orderId)
    (freshOrder : ∀ row ∈ orders, row.orderId ≠ bill.orderId) :
    Consistent clients (billing ++ [bill]) (orders ++ appended) where
  distinct := consistent.distinct
  oneCustomer := by
    intro first inFirst second inSecond same
    rcases List.mem_append.mp inFirst with old | new <;>
      rcases List.mem_append.mp inSecond with old' | new'
    · exact consistent.oneCustomer first old second old' same
    · rw [List.mem_singleton.mp new'] at same
      exact absurd same (freshBill first old)
    · rw [List.mem_singleton.mp new] at same
      exact absurd same.symm (freshBill second old')
    · rw [List.mem_singleton.mp new, List.mem_singleton.mp new']
  billCopies := by
    intro other member client inClients same
    rcases List.mem_append.mp member with old | new
    · exact consistent.billCopies other old client inClients same
    · rw [List.mem_singleton.mp new, customer] at same
      rw [List.mem_singleton.mp new, copied,
        List.inj_on_of_nodup_map consistent.distinct existing inClients same.symm]
  orderCopies := by
    intro row inOrders other inBilling same
    rcases List.mem_append.mp inOrders with old | new <;>
      rcases List.mem_append.mp inBilling with old' | new'
    · exact consistent.orderCopies row old other old' same
    · rw [List.mem_singleton.mp new'] at same
      exact absurd same.symm (freshOrder row old)
    · rw [(rows row new).1] at same
      exact absurd same (freshBill other old')
    · rw [List.mem_singleton.mp new', copied]
      exact (rows row new).2

/-- Dropping order rows, and changing in the billing rows neither keys nor personal data. -/
theorem Consistent.restrict {clients : List CsvClientInfo} {billing billing' : List CsvBillingInfo}
    {orders orders' : List CsvCustomerOrderInfo} (consistent : Consistent clients billing orders)
    (bills : ∀ bill ∈ billing', ∃ before ∈ billing, bill.orderId = before.orderId ∧
      bill.customerId = before.customerId ∧ bill.personal = before.personal)
    (rows : ∀ row ∈ orders', row ∈ orders) : Consistent clients billing' orders' where
  distinct := consistent.distinct
  oneCustomer := by
    intro bill member other member' same
    obtain ⟨before, inside, number, customer, -⟩ := bills bill member
    obtain ⟨before', inside', number', customer', -⟩ := bills other member'
    rw [customer, customer']
    exact consistent.oneCustomer before inside before' inside' (number ▸ number' ▸ same)
  billCopies := by
    intro bill member client inClients same
    obtain ⟨before, inside, -, customer, copied⟩ := bills bill member
    rw [copied]
    exact consistent.billCopies before inside client inClients (customer ▸ same)
  orderCopies := by
    intro row inOrders bill member same
    obtain ⟨before, inside, number, -, copied⟩ := bills bill member
    rw [copied]
    exact consistent.orderCopies row (rows row inOrders) before inside (number ▸ same)

/-! ### The handlers -/

/-- The tables after an edit of a buyer: consistent again, and the same in all rows of the other
buyers. -/
structure EditOutcome (id : Int32) (clients clients' : List CsvClientInfo)
    (billing billing' : List CsvBillingInfo) (orders orders' : List CsvCustomerOrderInfo) :
    Prop where
  consistent : ConsistentTables clients' billing' orders'
  clientsKept : List.Forall₂ (fun before after => before.uuid ≠ id → after = before)
    (clientRows clients) (clientRows clients')
  billsKept : List.Forall₂ (fun before after => before.customerId ≠ id → after = before)
    (DbFile.rows .BillingInfo billing) (DbFile.rows .BillingInfo billing')
  ordersKept : List.Forall₂ (fun before after =>
    (∃ bill ∈ DbFile.rows .BillingInfo billing,
      bill.orderId = before.orderId ∧ bill.customerId ≠ id) → after = before)
    (DbFile.rows .CustomerOrder orders) (DbFile.rows .CustomerOrder orders')

section Handlers

variable {Store : Type} (backing : Backing Store) (rand : Rand) (now : Nat) (world : World Store)
variable {clients : List CsvClientInfo} {billing : List CsvBillingInfo}
variable {orders : List CsvCustomerOrderInfo} {products : List CsvProductInfo}

/-- The tables that an edit of an existing buyer hands over. -/
theorem run_editBuyer_consistent {Data : Type} {extract : Option Data} {data : Data}
    {set : Personal → Personal} {editClientRow : Data → CsvClientInfo → CsvClientInfo}
    {editBillingRow : Data → CsvBillingInfo → CsvBillingInfo}
    {editOrderRow : Data → CsvCustomerOrderInfo → CsvCustomerOrderInfo} {id : Int32}
    (loadedClients : backing.load world.store .CustomerInfo = some clients)
    (loadedBilling : backing.load world.store .BillingInfo = some billing)
    (loadedOrders : backing.load world.store .CustomerOrder = some orders)
    (consistent : ConsistentTables clients billing orders)
    (existing : ∃ row ∈ clientRows clients, row.uuid = id) (extracted : extract = some data)
    (edit : CopiedEdit set (editClientRow data) (editBillingRow data) (editOrderRow data)) :
    ∃ clients' billing' orders',
      (editBuyer extract editClientRow editBillingRow editOrderRow id).run (exec backing now)
        world = some ((), world.handBuyer backing clients' billing' orders') ∧
      EditOutcome id clients clients' billing billing' orders orders' := by
  subst extracted
  obtain ⟨buyer, member, named⟩ := existing
  obtain ⟨rowInDB, -, located, -, -, updated⟩ := put_of_search
    (fun row : CsvClientInfo => row.uuid == id) (editClientRow data)
    ⟨buyer, mem_of_mem_records member, by simpa using named⟩
  have ran := run_editBuyer backing now world (some data) editClientRow editBillingRow
    editOrderRow id loadedClients loadedBilling loadedOrders
  rw [located] at ran
  have clientTable : clientRows (put clients rowInDB (editClientRow data (cell clients rowInDB))) =
      (clientRows clients).map fun row => if row.uuid = id then editClientRow data row else row := by
    rw [updated, clientRows, records_updateFirst fun row => by rw [edit.clientKey]]
    exact updateFirst_eq_map consistent.distinct id
  have billTable : DbFile.rows .BillingInfo (editBilling (editBillingRow data) id billing) =
      (DbFile.rows .BillingInfo billing).map (editBill (editBillingRow data) id) :=
    records_mapRecords billing fun row => by
      have key := (edit.editBill_keys id row).1
      rw [editBill] at key
      simp only [DbFile.isEnd, DbFile.key, key]
  have orderTable := rows_editOrders edit.orderKey edit.again (buyerOrderNums id billing) orders
  refine ⟨_, _, _, ran, ?_, ?_, ?_, ?_⟩
  · rw [ConsistentTables, clientTable, billTable, orderTable]
    exact Consistent.edit consistent edit id
  · rw [clientTable, List.forall₂_map_right_iff, List.forall₂_same]
    exact fun row _ other => if_neg other
  · rw [billTable, List.forall₂_map_right_iff, List.forall₂_same]
    exact fun row _ other => if_neg other
  · rw [orderTable, List.forall₂_map_right_iff, List.forall₂_same]
    rintro row - ⟨bill, inBilling, number, foreign⟩
    refine if_neg fun collected => foreign ?_
    obtain ⟨other, inOwn, same⟩ := List.mem_map.mp collected
    obtain ⟨inTable, own⟩ := List.mem_filter.mp inOwn
    rw [consistent.oneCustomer bill inBilling other inTable (number.trans same.symm)]
    simpa using own

/-- The tables that an order of an existing buyer leaves: it hands over none if it is rejected, and
consistent ones if it is accepted. -/
theorem run_completeAnOrder_consistent {buffer rest : Text} {buyerID : Int32}
    {lines : List ItemOrder}
    (buyer : extractBuyer buffer = some (buyerID, rest))
    (order : extractBuyerOrder rest = some lines)
    (loaded : Loaded backing world clients products billing orders)
    (consistent : ConsistentTables clients billing orders)
    (existing : ∃ row ∈ clientRows clients, row.uuid = buyerID)
    (freshBill : ∀ bill ∈ billing, bill.orderId ≠ uidAt rand now)
    (freshOrder : ∀ row ∈ orders, row.orderId ≠ uidAt rand now) :
    ∃ final, (completeAnOrder rand buffer).run (exec backing now) world = some ((), final) ∧
      (validateBuyerOrder lines products = false → final.handed = world.handed) ∧
      (validateBuyerOrder lines products = true → ∃ deducted billing' orders',
        final.handed = world.handed ++ [⟨.ProductInfo, deducted⟩, ⟨.BillingInfo, billing'⟩,
          ⟨.CustomerOrder, orders'⟩] ∧ ConsistentTables clients billing' orders') := by
  have named := productID_ne_zero_of_extractOrderLines order
  rw [completeAnOrder_eq buyer order]
  cases verdict : validateBuyerOrder lines products with
  | false =>
    exact ⟨_, run_completeOrder_rejected backing rand now world buyerID loaded.loadsProducts verdict,
      fun _ => rfl, fun accepted => by cases accepted⟩
  | true =>
    have listed : AllListed lines products := allListed_of_accepted named verdict
    obtain ⟨client, member, id⟩ := existing
    obtain ⟨row, buyerData, located, data, inRows, found⟩ := search_of_mem_records
      (fun row : CsvClientInfo => buyerID == row.uuid) ⟨client, member, by simp [id]⟩
    have ran := run_completeOrder_accepted backing rand now world buyerID
      loaded.loadsProducts verdict loaded.loadsClients loaded.loadsBilling loaded.loadsOrders
    rw [findBuyerInClientInfo, located, orderRows_eq_self named, deductOrder_of_allListed listed,
      Option.bind_some, Option.map_some, data] at ran
    have bills : DbFile.rows .BillingInfo billing = billing := rows_eq_self loaded.billingEnds
    have rows : DbFile.rows .CustomerOrder orders = orders := rows_eq_self loaded.ordersEnd
    rw [billedTable, orderedTable, bills, rows, put_length, putAll_length] at ran
    refine ⟨_, ran, (fun rejected => by cases rejected), fun _ =>
      ⟨_, _, _, World.handOrder_handed .., ?_⟩⟩
    rw [ConsistentTables, bills, rows] at consistent
    have bills' : DbFile.rows .BillingInfo
        (billing ++ [billingRow (uidAt rand now) buyerData (orderCost lines)]) =
          billing ++ [billingRow (uidAt rand now) buyerData (orderCost lines)] := by
      refine rows_eq_self fun bill inBilling => ?_
      rcases List.mem_append.mp inBilling with old | new
      · exact loaded.billingEnds bill old
      · rw [List.mem_singleton.mp new]
        exact uidAt_ne_zero rand now
    have rows' : DbFile.rows .CustomerOrder (orders ++
        (orderRows lines).map (customerOrderRow (uidAt rand now) buyerData)) =
          orders ++ (orderRows lines).map (customerOrderRow (uidAt rand now) buyerData) := by
      refine rows_eq_self fun row inOrders => ?_
      rcases List.mem_append.mp inOrders with old | new
      · exact loaded.ordersEnd row old
      · obtain ⟨line, -, rfl⟩ := List.mem_map.mp new
        exact uidAt_ne_zero rand now
    rw [ConsistentTables, bills', rows']
    refine consistent.append inRows (by simp [billingRow]) rfl ?_ freshBill freshOrder
    intro row appended
    obtain ⟨line, -, rfl⟩ := List.mem_map.mp appended
    exact ⟨rfl, rfl⟩

/-- The tables that a return from an existing order leaves. -/
theorem run_buyerModifiesOrder_consistent {buffer : Text} {orderID productID : Int32}
    (decodedOrder : numberAt buffer 0 = some orderID)
    (decodedProduct : numberAt buffer 1 = some productID)
    (loaded : Loaded backing world clients products billing orders)
    (consistent : ConsistentTables clients billing orders)
    (billed : ∃ bill ∈ DbFile.rows .BillingInfo billing, bill.orderId = orderID)
    (ordered : ∃ row ∈ DbFile.rows .CustomerOrder orders, row.orderId = orderID) :
    ∃ billing' orders',
      (buyerModifiesOrder buffer).run (exec backing now) world =
        some ((), (world.hand backing .CustomerOrder orders').hand backing .BillingInfo billing') ∧
      ConsistentTables clients billing' orders' := by
  obtain ⟨bill, inBilling, billNumber⟩ := billed
  obtain ⟨row, inOrders, rowNumber⟩ := ordered
  obtain ⟨orderRow, -, locatedOrder, -⟩ := put_of_search
    (fun row : CsvCustomerOrderInfo => row.orderId == orderID) id
    ⟨row, mem_of_mem_records inOrders, by simpa using rowNumber⟩
  obtain ⟨billRow, -, locatedBill, -, -, updated⟩ := put_of_search
    (fun bill : CsvBillingInfo => bill.orderId == orderID)
    (fun bill => { bill with
      totalOrderCost := bill.totalOrderCost - (cell orders orderRow).totalPrice })
    ⟨bill, mem_of_mem_records inBilling, by simpa using billNumber⟩
  have ran := run_buyerModifiesOrder backing now world decodedOrder decodedProduct
    loaded.loadsOrders loaded.loadsBilling
  rw [locatedOrder, locatedBill] at ran
  refine ⟨_, _, ran, ?_⟩
  have keeps : ∀ bill : CsvBillingInfo, DbFile.isEnd .BillingInfo { bill with
      totalOrderCost := bill.totalOrderCost - (cell orders orderRow).totalPrice } =
        DbFile.isEnd .BillingInfo bill := fun _ => rfl
  rw [refundedTable, updated]
  refine Consistent.restrict consistent ?_ ?_
  · intro after member
    rw [DbFile.rows, records_updateFirst keeps] at member
    rcases mem_updateFirst member with kept | ⟨before, inside, rfl⟩
    · exact ⟨after, kept, rfl, rfl, rfl⟩
    · exact ⟨before, inside, rfl, rfl, rfl⟩
  · intro after member
    rw [rows_eq_self loaded.ordersEnd]
    exact mem_of_mem_records (List.mem_of_mem_filter (mem_of_mem_records member))

/-- The edits of a buyer's name and address, an accepted order under an unused number and a return
from an order hand over consistent tables, and the edits keep the rows of the other buyers. A
rejected order hands over none. -/
theorem handlers_keep_consistent (loaded : Loaded backing world clients products billing orders)
    (consistent : ConsistentTables clients billing orders) :
    (∀ buffer id name, (∃ row ∈ clientRows clients, row.uuid = id) →
      extractName buffer = some name →
      ∃ clients' billing' orders',
        (buyerEditsName buffer id).run (exec backing now) world =
          some ((), world.handBuyer backing clients' billing' orders') ∧
        EditOutcome id clients clients' billing billing' orders orders') ∧
    (∀ buffer id address, (∃ row ∈ clientRows clients, row.uuid = id) →
      extractAddress buffer = some address →
      ∃ clients' billing' orders',
        (buyerEditsAddress buffer id).run (exec backing now) world =
          some ((), world.handBuyer backing clients' billing' orders') ∧
        EditOutcome id clients clients' billing billing' orders orders') ∧
    (∀ buffer rest buyerID lines, extractBuyer buffer = some (buyerID, rest) →
      extractBuyerOrder rest = some lines →
      (∃ row ∈ clientRows clients, row.uuid = buyerID) →
      (∀ bill ∈ billing, bill.orderId ≠ uidAt rand now) →
      (∀ row ∈ orders, row.orderId ≠ uidAt rand now) →
      ∃ final, (completeAnOrder rand buffer).run (exec backing now) world = some ((), final) ∧
        (validateBuyerOrder lines products = false → final.handed = world.handed) ∧
        (validateBuyerOrder lines products = true → ∃ deducted billing' orders',
          final.handed = world.handed ++ [⟨.ProductInfo, deducted⟩, ⟨.BillingInfo, billing'⟩,
            ⟨.CustomerOrder, orders'⟩] ∧ ConsistentTables clients billing' orders')) ∧
    ∀ buffer orderID productID, numberAt buffer 0 = some orderID →
      numberAt buffer 1 = some productID →
      (∃ bill ∈ DbFile.rows .BillingInfo billing, bill.orderId = orderID) →
      (∃ row ∈ DbFile.rows .CustomerOrder orders, row.orderId = orderID) →
      ∃ billing' orders',
        (buyerModifiesOrder buffer).run (exec backing now) world =
          some ((), (world.hand backing .CustomerOrder orders').hand backing .BillingInfo
            billing') ∧
        ConsistentTables clients billing' orders' := by
  refine ⟨fun buffer id name existing extracted => ?_,
    fun buffer id address existing extracted => ?_,
    fun buffer rest buyerID lines buyer order existing freshBill freshOrder => ?_,
    fun buffer orderID productID decodedOrder decodedProduct billed ordered => ?_⟩
  · exact run_editBuyer_consistent backing now world loaded.loadsClients loaded.loadsBilling
      loaded.loadsOrders consistent existing extracted (copiedEdit_setName name)
  · exact run_editBuyer_consistent backing now world loaded.loadsClients loaded.loadsBilling
      loaded.loadsOrders consistent existing extracted (copiedEdit_setAddress address)
  · exact run_completeAnOrder_consistent backing rand now world buyer order loaded consistent
      existing freshBill freshOrder
  · exact run_buyerModifiesOrder_consistent backing now world decodedOrder decodedProduct loaded
      consistent billed ordered

end Handlers

/-- Renaming the buyer who has an order. -/
theorem handlers_keep_consistent_renamed :
    ∃ clients billing orders,
      (buyerEditsName [['C'], ['D'], ['\n']] 1000).run (exec tableBacking 0)
          ⟨sampleTables, [], [], []⟩ =
        some ((), World.handBuyer tableBacking ⟨sampleTables, [], [], []⟩ clients billing
          orders) ∧
      EditOutcome 1000 (sampleTables .CustomerInfo) clients (sampleTables .BillingInfo) billing
        (sampleTables .CustomerOrder) orders := by
  have consistent : ConsistentTables (sampleTables .CustomerInfo) (sampleTables .BillingInfo)
      (sampleTables .CustomerOrder) :=
    ⟨by decide, by decide, by decide, by decide⟩
  exact (handlers_keep_consistent tableBacking (fun _ => 0) 0 ⟨sampleTables, [], [], []⟩
    loaded_sampleTables consistent).1 _ 1000 (⟨['C'], by decide⟩, ⟨['D'], by decide⟩)
    (by decide) (by decide)

end OnlineStore
