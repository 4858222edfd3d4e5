/-
This file shows that edits of buyers' data can be made in either order.

An edit sets some columns of the rows that it reaches: the buyer's row, the buyer's bills, and the
rows of the orders whose numbers the bills give. It changes none of the ids by which rows are
reached. So two edits reach the same rows in either order, and they only have to commute on the
rows that both of them reach. Where no order is billed to two customers these are rows of one
buyer, and different edits set different columns of them.
-/

import OnlineStore.Consistency
import OnlineStore.Replies

namespace OnlineStore

open CString Cells Prog

/-! ### Edits of rows -/

/-- What an edit of a buyer's data sets in a bill. -/
def InfoEdit.applyBill (edit : InfoEdit) (row : CsvBillingInfo) : CsvBillingInfo :=
  match edit with
  | .name firstName lastName => row.setName (firstName.chars, lastName.chars)
  | .number _ => row
  | .address streetAddress city state zipCode =>
    row.setAddress ⟨streetAddress.chars, city.chars, state.chars, zipCode.chars⟩

/-- What an edit of a buyer's data sets in a row of an order. -/
def InfoEdit.applyOrder (edit : InfoEdit) (row : CsvCustomerOrderInfo) : CsvCustomerOrderInfo :=
  match edit with
  | .name firstName lastName => row.setName (firstName.chars, lastName.chars)
  | .number _ => row
  | .address streetAddress city state zipCode =>
    row.setAddress ⟨streetAddress.chars, city.chars, state.chars, zipCode.chars⟩

section Rows

variable (edit : InfoEdit) {edit' : InfoEdit}

@[simp] theorem InfoEdit.uuid_apply (row : CsvClientInfo) : (edit.apply row).uuid = row.uuid := by
  cases edit <;> rfl

@[simp] theorem InfoEdit.orderId_applyBill (row : CsvBillingInfo) :
    (edit.applyBill row).orderId = row.orderId := by
  cases edit <;> rfl

@[simp] theorem InfoEdit.customerId_applyBill (row : CsvBillingInfo) :
    (edit.applyBill row).customerId = row.customerId := by
  cases edit <;> rfl

@[simp] theorem InfoEdit.orderId_applyOrder (row : CsvCustomerOrderInfo) :
    (edit.applyOrder row).orderId = row.orderId := by
  cases edit <;> rfl

theorem InfoEdit.applyOrder_applyOrder (row : CsvCustomerOrderInfo) :
    edit.applyOrder (edit.applyOrder row) = edit.applyOrder row := by
  cases edit <;> rfl

variable {edit}

/-- Different edits set different columns. -/
theorem InfoEdit.apply_comm (different : edit.tag ≠ edit'.tag) (row : CsvClientInfo) :
    edit'.apply (edit.apply row) = edit.apply (edit'.apply row) := by
  cases edit <;> cases edit' <;> first | rfl | exact absurd rfl different

theorem InfoEdit.applyBill_comm (different : edit.tag ≠ edit'.tag) (row : CsvBillingInfo) :
    edit'.applyBill (edit.applyBill row) = edit.applyBill (edit'.applyBill row) := by
  cases edit <;> cases edit' <;> first | rfl | exact absurd rfl different

theorem InfoEdit.applyOrder_comm (different : edit.tag ≠ edit'.tag)
    (row : CsvCustomerOrderInfo) :
    edit'.applyOrder (edit.applyOrder row) = edit.applyOrder (edit'.applyOrder row) := by
  cases edit <;> cases edit' <;> first | rfl | exact absurd rfl different

end Rows

/-! ### Edits of tables -/

/-- The tables after an edit of a buyer's data. -/
def editedTables (id : Int32) (edit : InfoEdit) (tables : Tables) : Tables
  | .CustomerInfo => updateFirst (fun row => row.uuid == id) edit.apply (tables .CustomerInfo)
  | .BillingInfo => editBilling edit.applyBill id (tables .BillingInfo)
  | .CustomerOrder =>
    editOrders edit.applyOrder (buyerOrderNums id (tables .BillingInfo)) (tables .CustomerOrder)
  | file => tables file

section Bills

variable (edit : InfoEdit) (id : Int32)

@[simp] theorem orderId_editBill (row : CsvBillingInfo) :
    (editBill edit.applyBill id row).orderId = row.orderId := by
  rw [editBill]
  split
  · exact edit.orderId_applyBill row
  · rfl

@[simp] theorem customerId_editBill (row : CsvBillingInfo) :
    (editBill edit.applyBill id row).customerId = row.customerId := by
  rw [editBill]
  split
  · exact edit.customerId_applyBill row
  · rfl

theorem isEnd_editBill (row : CsvBillingInfo) :
    DbFile.isEnd .BillingInfo (editBill edit.applyBill id row) =
      DbFile.isEnd .BillingInfo row := by
  rw [DbFile.isEnd, DbFile.isEnd, DbFile.key, orderId_editBill]

/-- An edit of bills does not change whose orders they are of. -/
theorem buyerOrderNums_editBilling (other : Int32) (billing : List CsvBillingInfo) :
    buyerOrderNums other (editBilling edit.applyBill id billing) =
      buyerOrderNums other billing := by
  have rows : DbFile.rows .BillingInfo (editBilling edit.applyBill id billing) =
      (DbFile.rows .BillingInfo billing).map (editBill edit.applyBill id) :=
    records_mapRecords billing (isEnd_editBill edit id)
  have chosen : (fun row : CsvBillingInfo => row.customerId == other) ∘
      editBill edit.applyBill id = fun row => row.customerId == other :=
    funext fun row => congrArg (· == other) (customerId_editBill edit id row)
  have shown : CsvBillingInfo.orderId ∘ editBill edit.applyBill id = CsvBillingInfo.orderId :=
    funext (orderId_editBill edit id)
  rw [buyerOrderNums, rows, List.filter_map, List.map_map, chosen, shown, buyerOrderNums]

end Bills

section Tables

variable {tables : Tables} {id id' : Int32} {edit edit' : InfoEdit}

/-- The edits change the data of different buyers, or different data. -/
def Independent (id id' : Int32) (edit edit' : InfoEdit) : Prop :=
  id ≠ id' ∨ edit.tag ≠ edit'.tag

theorem Independent.different (independent : Independent id id' edit edit') (same : id = id') :
    edit.tag ≠ edit'.tag :=
  independent.resolve_left (not_not.mpr same)

theorem editBill_comm (independent : Independent id id' edit edit') (row : CsvBillingInfo) :
    editBill edit'.applyBill id' (editBill edit.applyBill id row) =
      editBill edit.applyBill id (editBill edit'.applyBill id' row) := by
  have kept := edit.customerId_applyBill row
  have kept' := edit'.customerId_applyBill row
  unfold editBill
  by_cases own : row.customerId = id <;> by_cases own' : row.customerId = id'
  · have different := independent.different (own.symm.trans own')
    rw [if_pos own, if_pos own', if_pos (kept.trans own'), if_pos (kept'.trans own),
      InfoEdit.applyBill_comm different]
  · rw [if_pos own, if_neg own', if_neg (kept.symm ▸ own'), if_pos own]
  · rw [if_neg own, if_pos own', if_neg (kept'.symm ▸ own)]
  · rw [if_neg own, if_neg own', if_neg own]

/-- Orders that two edits reach are billed to one customer. -/
theorem eq_of_mem_buyerOrderNums {billing : List CsvBillingInfo} {orderID : Int32}
    (oneCustomer : ∀ bill ∈ DbFile.rows .BillingInfo billing,
      ∀ other ∈ DbFile.rows .BillingInfo billing, bill.orderId = other.orderId →
        bill.customerId = other.customerId)
    (member : orderID ∈ buyerOrderNums id billing)
    (member' : orderID ∈ buyerOrderNums id' billing) : id = id' := by
  obtain ⟨bill, inOwn, number⟩ := List.mem_map.mp member
  obtain ⟨other, inOwn', number'⟩ := List.mem_map.mp member'
  obtain ⟨inRows, customer⟩ := List.mem_filter.mp inOwn
  obtain ⟨inRows', customer'⟩ := List.mem_filter.mp inOwn'
  rw [← eq_of_beq customer, ← eq_of_beq customer']
  exact oneCustomer bill inRows other inRows' (number.trans number'.symm)

/-- Independent edits of the tables commute. -/
theorem editedTables_comm
    (oneCustomer : ∀ bill ∈ DbFile.rows .BillingInfo (tables .BillingInfo),
      ∀ other ∈ DbFile.rows .BillingInfo (tables .BillingInfo), bill.orderId = other.orderId →
        bill.customerId = other.customerId)
    (independent : Independent id id' edit edit') :
    editedTables id' edit' (editedTables id edit tables) =
      editedTables id edit (editedTables id' edit' tables) := by
  funext file
  cases file with
  | CustomerInfo =>
    refine updateFirst_comm (fun row => ?_) (fun row => ?_) (fun row own own' => ?_) _
    · rw [InfoEdit.uuid_apply]
    · rw [InfoEdit.uuid_apply]
    · have same : id = id' := (eq_of_beq own).symm.trans (eq_of_beq own')
      exact InfoEdit.apply_comm (independent.different same) row
  | SellerInfo => rfl
  | ProductInfo => rfl
  | BillingInfo =>
    exact mapRecords_comm (isEnd_editBill edit id) (isEnd_editBill edit' id')
      fun row _ => editBill_comm independent row
  | CustomerOrder =>
    simp only [editedTables, buyerOrderNums_editBilling,
      editOrders_eq_mapRecords (InfoEdit.orderId_applyOrder _)
        (InfoEdit.applyOrder_applyOrder _)]
    refine mapRecords_comm (isEnd_editOrder edit.orderId_applyOrder _)
      (isEnd_editOrder edit'.orderId_applyOrder _) fun row _ => ?_
    by_cases own : row.orderId ∈ buyerOrderNums id (tables .BillingInfo) <;>
      by_cases own' : row.orderId ∈ buyerOrderNums id' (tables .BillingInfo)
    · have different := independent.different (eq_of_mem_buyerOrderNums oneCustomer own own')
      simp [own, own', edit.applyOrder_comm different]
    · simp [own, own']
    · simp [own, own']
    · simp [own, own']

end Tables

/-! ### Requests -/

section Requests

variable (rand : Rand) {world : World Tables} {id id' : Token 20} {edit edit' : InfoEdit}

/-- An edit of an existing buyer's data edits the tables. -/
theorem serve_editInfo_buyer (now : Nat) (edit : InfoEdit)
    (existing : ∃ row ∈ clientRows (world.store .CustomerInfo), row.uuid = id.number) :
    ∃ next, serve tableBacking rand now (Request.editInfo .buyer id edit).message world =
        some next ∧ next.store = editedTables id.number edit world.store := by
  have loads : Loads tableBacking world world.store := fun file => rfl
  obtain ⟨row, member, named⟩ := existing
  have present : ∃ row ∈ world.store .CustomerInfo, (row.uuid == id.number) = true :=
    ⟨row, mem_of_mem_records member, beq_iff_eq.mpr named⟩
  obtain ⟨rowInDB, -, located, -, -, updated⟩ := put_of_search
    (fun row : CsvClientInfo => row.uuid == id.number) edit.apply present
  rw [serve_message rand now loads, Request.effect]
  cases edit with
  | name firstName lastName =>
    rw [World.edit, World.editBuyer, located]
    refine ⟨_, rfl, ?_⟩
    funext file
    cases file with
    | CustomerInfo => exact updated
    | _ => rfl
  | number phoneNumber =>
    rw [World.edit, World.editClient, Tables.clients, located]
    · refine ⟨_, rfl, ?_⟩
      funext file
      cases file with
      | CustomerInfo => exact updated
      | SellerInfo => rfl
      | ProductInfo => rfl
      | BillingInfo => exact (mapRecords_eq_self fun row _ => ite_self row).symm
      | CustomerOrder =>
        rw [editedTables, editOrders_eq_mapRecords (InfoEdit.orderId_applyOrder _)
          (InfoEdit.applyOrder_applyOrder _)]
        exact (mapRecords_eq_self fun row _ => ite_self row).symm
    all_goals simp
  | address streetAddress city state zipCode =>
    rw [World.edit, World.editBuyer, located]
    refine ⟨_, rfl, ?_⟩
    funext file
    cases file with
    | CustomerInfo => exact updated
    | _ => rfl

/-- An edit leaves every buyer in the table. -/
theorem exists_buyer_editedTables {tables : Tables} {buyer : Int32} (edited : Int32)
    (edit : InfoEdit) (existing : ∃ row ∈ clientRows (tables .CustomerInfo), row.uuid = buyer) :
    ∃ row ∈ clientRows (editedTables edited edit tables .CustomerInfo), row.uuid = buyer := by
  have kept : clientRows (editedTables edited edit tables .CustomerInfo) =
      updateFirst (fun row => row.uuid == edited) edit.apply (clientRows (tables .CustomerInfo)) :=
    records_updateFirst (fun row => by rw [InfoEdit.uuid_apply]) _
  have ids : (updateFirst (fun row => row.uuid == edited) edit.apply
      (clientRows (tables .CustomerInfo))).map CsvClientInfo.uuid =
        (clientRows (tables .CustomerInfo)).map CsvClientInfo.uuid :=
    map_updateFirst CsvClientInfo.uuid edit.uuid_apply _
  obtain ⟨row, member, named⟩ := existing
  have listed : row.uuid ∈ (clientRows (editedTables edited edit tables .CustomerInfo)).map
      CsvClientInfo.uuid := by
    rw [kept, ids]
    exact List.mem_map_of_mem member
  obtain ⟨other, inTable, same⟩ := List.mem_map.mp listed
  exact ⟨other, inTable, same.trans named⟩

/-- Independent edits of existing buyers' data leave the same tables in either order, where no
order is billed to two customers. -/
theorem edits_commute (now now' : Nat)
    (existing : ∃ row ∈ clientRows (world.store .CustomerInfo), row.uuid = id.number)
    (existing' : ∃ row ∈ clientRows (world.store .CustomerInfo), row.uuid = id'.number)
    (oneCustomer : ∀ bill ∈ DbFile.rows .BillingInfo (world.store .BillingInfo),
      ∀ other ∈ DbFile.rows .BillingInfo (world.store .BillingInfo),
        bill.orderId = other.orderId → bill.customerId = other.customerId)
    (independent : Independent id.number id'.number edit edit') :
    ∃ final final',
      serveAll tableBacking rand
        [(now, .editInfo .buyer id edit), (now', .editInfo .buyer id' edit')] world =
          some final ∧
      serveAll tableBacking rand
        [(now', .editInfo .buyer id' edit'), (now, .editInfo .buyer id edit)] world =
          some final' ∧
      final.store = final'.store := by
  have run {first second : Token 20} {edit edit' : InfoEdit} (now now' : Nat)
      (here : ∃ row ∈ clientRows (world.store .CustomerInfo), row.uuid = first.number)
      (there : ∃ row ∈ clientRows (world.store .CustomerInfo), row.uuid = second.number) :
      ∃ final, serveAll tableBacking rand
        [(now, .editInfo .buyer first edit), (now', .editInfo .buyer second edit')] world =
          some final ∧
        final.store =
          editedTables second.number edit' (editedTables first.number edit world.store) := by
    obtain ⟨next, served, tables⟩ := serve_editInfo_buyer rand now edit here
    have later := exists_buyer_editedTables first.number edit there
    rw [← tables] at later
    obtain ⟨final, rest, tables'⟩ := serve_editInfo_buyer rand now' edit' later
    refine ⟨final, ?_, by rw [tables', tables]⟩
    rw [serveAll, served, Option.bind_some, serveAll, rest]
    rfl
  obtain ⟨final, ran, tables⟩ := run now now' existing existing'
  obtain ⟨final', ran', tables'⟩ := run now' now existing' existing
  refine ⟨final, final', ran, ran', ?_⟩
  rw [tables, tables', editedTables_comm oneCustomer independent]

end Requests

/-- The first buyer of the small database. -/
def firstBuyer : Token 20 := Token.ofNumber 1000

def renamed : InfoEdit := .name ⟨"Ada".toList, by decide⟩ ⟨"Byron".toList, by decide⟩

def moved : InfoEdit :=
  .address ⟨"1 Elm St.".toList, by decide⟩ ⟨"Troy".toList, by decide⟩ ⟨"N.Y.".toList, by decide⟩
    ⟨"12180".toList, by decide⟩

/-- The first buyer is given a new name and a new address. -/
theorem edits_commute_firstBuyer :
    ∃ final final',
      serveAll tableBacking id
        [(0, .editInfo .buyer firstBuyer renamed), (1, .editInfo .buyer firstBuyer moved)]
        ⟨sampleTables, [], [], []⟩ = some final ∧
      serveAll tableBacking id
        [(1, .editInfo .buyer firstBuyer moved), (0, .editInfo .buyer firstBuyer renamed)]
        ⟨sampleTables, [], [], []⟩ = some final' ∧
      final.store = final'.store :=
  edits_commute id 0 1 ⟨_, List.mem_cons_self, (Token.number_ofNumber 1000).symm⟩
    ⟨_, List.mem_cons_self, (Token.number_ofNumber 1000).symm⟩ (by decide) (.inr (by decide))

end OnlineStore
