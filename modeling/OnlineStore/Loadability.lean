/-
This file settles when the database files stay loadable. A line is read with `strtok`, which
skips empty fields, so a line is loadable if it has as many non-empty fields as its loader reads.
Two things make a line that is not: a number that is printed as nothing, and the zeroed row that
is printed when the old file has as many newlines as the table has rows.

Which of the requests avoid both depends on the files that they find. `Request.Writable` says it
for each one, and a run of such requests from the shipped files leaves every file loadable in
every state. The invariant that carries the induction is `DbFile.Sound`: the file has one line for
each row, of which at most the last lacks its newline, and no row can end a scan early.
-/

import OnlineStore.Durability
import OnlineStore.Replies

namespace OnlineStore

open CString Cells Prog

/-! ### Loadable files -/

/-- The number of fields that the loader of a file reads from a line. -/
def DbFile.width : DbFile → Nat
  | .CustomerInfo | .SellerInfo => 8
  | .ProductInfo => 5
  | .BillingInfo => 9
  | .CustomerOrder => 10

/-- Every line has as many non-empty fields before its newline as the loader reads. -/
def DbFile.Loadable (file : DbFile) (text : Text) : Prop :=
  ∀ line ∈ lines text, file.width ≤ (tokens line).length

instance (file : DbFile) (text : Text) : Decidable (file.Loadable text) :=
  inferInstanceAs (Decidable (∀ line ∈ lines text, file.width ≤ (tokens line).length))

/-- No field of a row is printed as nothing. -/
def DbFile.Filled (file : DbFile) (row : file.Row) : Prop :=
  ∀ field ∈ file.layout.fields row, field ≠ []

instance (file : DbFile) (row : file.Row) : Decidable (file.Filled row) :=
  inferInstanceAs (Decidable (∀ field ∈ file.layout.fields row, field ≠ []))

/-- The numbers of a row, in the order in which they are printed. -/
def DbFile.numbers : (file : DbFile) → file.Row → List Int32
  | .CustomerInfo, row | .SellerInfo, row => [row.uuid]
  | .ProductInfo, row => [row.productId, row.sellerId, row.quantity, row.price]
  | .BillingInfo, row => [row.orderId, row.customerId, row.totalOrderCost]
  | .CustomerOrder, row => [row.orderId, row.productId, row.quantityPurchased, row.totalPrice]

/-- The ids at which the scans of a table look for its end. -/
def DbFile.scanned : (file : DbFile) → file.Row → List Int32
  | .CustomerInfo, row | .SellerInfo, row => [row.uuid]
  | .ProductInfo, row => [row.productId]
  | .BillingInfo, row => [row.orderId]
  | .CustomerOrder, row => [row.orderId, row.productId]

/-- The row ends no scan, and its texts are tokens within its line. -/
structure DbFile.Intact (file : DbFile) (row : file.Row) : Prop where
  scanned : ∀ id ∈ file.scanned row, 0 < id
  columns : ∀ chars ∈ file.columns row, OnlineStore.Inline chars.val

/-- The row that is read back from a printed one. Only a negative number changes, as it prints
as the zeros among its digits. -/
def DbFile.reread : (file : DbFile) → file.Row → file.Row
  | .CustomerInfo, row | .SellerInfo, row => { row with uuid := atoi (intToCharArray row.uuid) }
  | .ProductInfo, row => { row with
      productId := atoi (intToCharArray row.productId)
      sellerId := atoi (intToCharArray row.sellerId)
      quantity := atoi (intToCharArray row.quantity)
      price := atoi (intToCharArray row.price) }
  | .BillingInfo, row => { row with
      orderId := atoi (intToCharArray row.orderId)
      customerId := atoi (intToCharArray row.customerId)
      totalOrderCost := atoi (intToCharArray row.totalOrderCost) }
  | .CustomerOrder, row => { row with
      orderId := atoi (intToCharArray row.orderId)
      productId := atoi (intToCharArray row.productId)
      quantityPurchased := atoi (intToCharArray row.quantityPurchased)
      totalPrice := atoi (intToCharArray row.totalPrice) }

/-- What every file satisfies in a run of writable requests. -/
structure DbFile.Sound (file : DbFile) (text : Text) (table : List file.Row) : Prop where
  loaded : file.load text = some table
  loadable : file.Loadable text
  newlines_le : newlines text ≤ table.length
  le_newlines : table.length ≤ newlines text + 1
  intact : ∀ row ∈ table, file.Intact row

section Printing

variable {file : DbFile}

theorem DbFile.Intact.plain {row : file.Row} (intact : file.Intact row) :
    file.layout.Plain 200 row :=
  plain_of_unseparated fun chars member =>
    ⟨(intact.columns chars member).1.commaFree, (intact.columns chars member).2⟩

theorem length_fields (row : file.Row) : (file.layout.fields row).length = file.width := by
  cases file <;> rfl

/-- Texts are printed as they are, so only a number can be missing. -/
theorem filled_iff {row : file.Row}
    (columns : ∀ chars ∈ file.columns row, OnlineStore.Inline chars.val) :
    file.Filled row ↔ ∀ number ∈ file.numbers row, intToCharArray number ≠ [] := by
  have filled : ∀ chars ∈ file.columns row, chars.val ≠ [] := fun chars member =>
    (columns chars member).1.nonempty
  clear columns
  cases file <;>
    simp only [DbFile.columns, DbFile.texts, List.cons_append, List.nil_append,
      List.forall_mem_cons] at filled <;>
    simp only [DbFile.Filled, DbFile.numbers, DbFile.layout, clientLayout, productLayout,
      billingLayout, customerOrderLayout, List.forall_mem_cons] <;>
    simp [filled]

/-- Positive ids are read back as they are. -/
theorem DbFile.Intact.reread {row : file.Row} (intact : file.Intact row) :
    file.Intact (file.reread row) := by
  have same : ∀ id ∈ file.scanned row, atoi (intToCharArray id) = id := fun id member =>
    ((printed_iff id).mpr (intact.scanned id member)).2
  have scanned : file.scanned (file.reread row) = file.scanned row := by
    cases file <;> simp only [DbFile.scanned, List.forall_mem_cons, DbFile.reread] at same ⊢ <;>
      simp only [same]
  refine ⟨scanned ▸ intact.scanned, ?_⟩
  have columns : file.columns (file.reread row) = file.columns row := by cases file <;> rfl
  exact columns ▸ intact.columns

theorem readBack_of_filled {row : file.Row} (filled : file.Filled row) :
    file.layout.readBack row = some (file.reread row) := by
  rw [Layout.readBack_of_filled filled]
  cases file <;>
    simp only [DbFile.layout, clientLayout, productLayout, billingLayout, customerOrderLayout,
      List.cons_append, strcpy_val, Option.bind_eq_bind, Option.bind_some, Option.pure_def,
      DbFile.reread]

/-- Printing a table of intact rows without an empty field leaves a sound file, if the table has
as many rows as are printed. -/
theorem sound_putBack {old : Text} {table : List file.Row}
    (covered : newlines old + 1 ≤ table.length)
    (printed : ∀ row ∈ table.take (newlines old + 1), file.Intact row ∧ file.Filled row) :
    file.Sound (file.putBack old table)
      ((table.take (newlines old + 1)).map file.reread) := by
  have plain : ∀ row ∈ table.take (newlines old + 1), file.layout.Plain 200 row :=
    fun row member => (printed row member).1.plain
  have text : file.putBack old table = file.layout.text (table.take (newlines old + 1)) :=
    Layout.putBack_of_le covered
  have count : newlines (file.putBack old table) = (table.take (newlines old + 1)).length := by
    rw [text, newlines, Layout.count_newline_text plain]
  constructor
  · rw [text, DbFile.load, Layout.load_text_iff plain, List.forall₂_map_right_iff,
      List.forall₂_same]
    exact fun row member => readBack_of_filled (printed row member).2
  · intro line member
    rw [text, Layout.lines_text plain] at member
    obtain ⟨row, inTable, rfl⟩ := List.mem_map.mp member
    have isField : ∀ field ∈ file.layout.fields row, IsField field := fun field inRow =>
      ⟨(printed row inTable).2 field inRow, (plain row inTable).commaFree field inRow⟩
    have tokenized := tokens_fields isField []
    rw [List.append_nil] at tokenized
    rw [tokenized, List.length_append, length_fields]
    exact Nat.le_add_right _ _
  · rw [count, List.length_map]
  · rw [count, List.length_map]
    exact Nat.le_succ _
  · intro row member
    obtain ⟨before, inTable, rfl⟩ := List.mem_map.mp member
    exact (printed before inTable).1.reread

/-- A table of the old length may be printed if the last line of the old file is not ended. -/
theorem sound_putBack_of_length {old : Text} {table : List file.Row}
    (unended : newlines old < table.length)
    (printed : ∀ row ∈ table, file.Intact row ∧ file.Filled row) :
    ∃ read, file.Sound (file.putBack old table) read :=
  ⟨_, sound_putBack unended fun row member => printed row (List.take_subset _ _ member)⟩

/-- New rows may be stored if they are not printed, or if the first one is and can be. -/
theorem sound_putBack_append {old : Text} {table new : List file.Row}
    (sound : file.Sound old table) (filled : ∀ row ∈ table, file.Filled row)
    (first : newlines old = table.length →
      ∃ row rest, new = row :: rest ∧ file.Intact row ∧ file.Filled row) :
    ∃ read, file.Sound (file.putBack old (table ++ new)) read := by
  by_cases ended : newlines old = table.length
  · obtain ⟨row, rest, rfl, intact, whole⟩ := first ended
    refine ⟨_, sound_putBack (by simp [ended]) fun other member => ?_⟩
    have shape : (table ++ row :: rest).take (newlines old + 1) = table ++ [row] := by
      rw [ended, List.take_append]
      simp
    rw [shape] at member
    rcases List.mem_append.mp member with before | own
    · exact ⟨sound.intact other before, filled other before⟩
    · exact List.mem_singleton.mp own ▸ ⟨intact, whole⟩
  · have unended : newlines old + 1 ≤ table.length := Nat.lt_of_le_of_ne sound.newlines_le ended
    refine ⟨_, sound_putBack (by rw [List.length_append]; omega) fun row member => ?_⟩
    rw [List.take_append_of_le_length unended] at member
    have inTable := List.take_subset _ _ member
    exact ⟨sound.intact row inTable, filled row inTable⟩

end Printing

/-! ### Writable requests -/

/-- A table with as many rows as it had may be written back: the last line of its file is not
ended, and no field is printed as nothing. -/
structure DbFile.Rewritable (file : DbFile) (old : Text) (table : List file.Row) : Prop where
  unended : newlines old < table.length
  filled : ∀ row ∈ table, file.Filled row

/-- When an accepted order leaves its files loadable. Stock must be left of every product, and
where the first new row of a table is printed its numbers must be. -/
structure OrderWritable (files : Files) (tables : Tables) (items : List ItemOrder) : Prop where
  stock : DbFile.Rewritable .ProductInfo (files .ProductInfo)
    (sellAll items (tables .ProductInfo))
  bills : ∀ row ∈ tables .BillingInfo, DbFile.Filled .BillingInfo row
  total : newlines (files .BillingInfo) = (tables .BillingInfo).length →
    intToCharArray (orderCost items) ≠ []
  orders : ∀ row ∈ tables .CustomerOrder, DbFile.Filled .CustomerOrder row
  firstLine : newlines (files .CustomerOrder) = (tables .CustomerOrder).length →
    ∃ item rest, items = item :: rest ∧ intToCharArray item.quantity ≠ [] ∧
      intToCharArray (item.quantity * item.itemCostPerUnit) ≠ []

/-- When a seller's change of a product leaves ProductInfo loadable. -/
def ModifyWritable (files : Files) (products : List CsvProductInfo) (sellerID productID : Int32)
    (modify : CsvProductInfo → CsvProductInfo) : Prop :=
  match ownership sellerID productID products with
  | .absent => True
  | .foreign => DbFile.Rewritable .ProductInfo (files .ProductInfo) products
  | .own => DbFile.Rewritable .ProductInfo (files .ProductInfo)
      (updateFirst (fun row => row.productId == productID) modify products)

/-- When a request leaves the files loadable. A registration must find a file whose last line is
not ended, as its row must not be printed; a deletion must find nothing to delete. -/
def Request.Writable (files : Files) (tables : Tables) : Request → Prop
  | .newClient clientType .. =>
    newlines (files clientType.file) < (tables.clients clientType).length
  | .completeOrder _ lines =>
    validateBuyerOrder (orderItems lines) (tables .ProductInfo) = true →
      OrderWritable files tables (orderItems lines)
  | .modOrder orderID productIDtoReturn =>
    DbFile.Rewritable .CustomerOrder (files .CustomerOrder) (tables .CustomerOrder) ∧
      (∀ row ∈ tables .CustomerOrder, row.productId ≠ productIDtoReturn.number) ∧
      ∀ item, (tables .CustomerOrder).find? (fun row => row.orderId == orderID.number) =
          some item →
        DbFile.Rewritable .BillingInfo (files .BillingInfo)
          (updateFirst (fun row => row.orderId == orderID.number)
            (fun row => { row with totalOrderCost := row.totalOrderCost - item.totalPrice })
            (tables .BillingInfo))
  | .editInfo .buyer _ (.number _) =>
    newlines (files .CustomerInfo) < (tables .CustomerInfo).length
  | .editInfo .buyer _ _ =>
    newlines (files .CustomerInfo) < (tables .CustomerInfo).length ∧
      DbFile.Rewritable .BillingInfo (files .BillingInfo) (tables .BillingInfo) ∧
      DbFile.Rewritable .CustomerOrder (files .CustomerOrder) (tables .CustomerOrder)
  | .editInfo .seller _ _ => newlines (files .SellerInfo) < (tables .SellerInfo).length
  | .newProduct sellerID _ quantity price =>
    (∀ row ∈ tables .ProductInfo, DbFile.Filled .ProductInfo row) ∧
      (newlines (files .ProductInfo) = (tables .ProductInfo).length →
        intToCharArray sellerID.number ≠ [] ∧ intToCharArray quantity.number ≠ [] ∧
          intToCharArray price.number ≠ [])
  | .deleteProd sellerID productID =>
    ownership sellerID.number productID.number (tables .ProductInfo) = .absent
  | .modQuant sellerID productID quantity =>
    ModifyWritable files (tables .ProductInfo) sellerID.number productID.number
      fun row => { row with quantity := quantity.number }
  | .modPrice sellerID productID price =>
    ModifyWritable files (tables .ProductInfo) sellerID.number productID.number
      fun row => { row with price := price.number }
  | _ => True

/-! ### Sound worlds -/

/-- Every file is sound. -/
def World.Sound (world : World Files) : Prop :=
  ∀ file, ∃ table, DbFile.Sound file (world.store file) table

theorem World.Sound.hand {world : World Files} (sound : world.Sound) (file : DbFile)
    {table : List file.Row}
    (printed : ∃ read, file.Sound (file.putBack (world.store file) table) read) :
    (world.hand diskBacking file table).Sound := by
  intro other
  by_cases same : other = file
  · subst same
    rw [World.hand_store, diskBacking_store_self]
    exact printed
  · rw [World.hand_store, diskBacking_store_of_ne _ _ same]
    exact sound other

theorem hand_store_of_ne (world : World Files) {file other : DbFile} (table : List file.Row)
    (different : other ≠ file) :
    (world.hand diskBacking file table).store other = world.store other :=
  diskBacking_store_of_ne _ table different

section Steps

variable {file : DbFile} {old : Text} {table : List file.Row}

/-- An update of the first row that is searched for. -/
theorem DbFile.Sound.updateFirst (sound : file.Sound old table) {found : file.Row → Bool}
    {update : file.Row → file.Row} (present : ∃ row ∈ table, found row = true)
    (keeps : ∀ row, file.Intact row → file.Intact (update row))
    (rewritable : file.Rewritable old (Cells.updateFirst found update table)) {rowInDB : Nat}
    (located : search found table = some rowInDB) :
    ∃ read, file.Sound (file.putBack old
      (put table rowInDB (update (cell table rowInDB)))) read := by
  obtain ⟨row, -, ends, -, -, updated⟩ := put_of_search found update present
  obtain rfl : row = rowInDB := Option.some.inj (ends.symm.trans located)
  rw [updated]
  refine sound_putBack_of_length rewritable.unended fun row member =>
    ⟨?_, rewritable.filled row member⟩
  rcases mem_updateFirst member with before | ⟨before, inTable, rfl⟩
  · exact sound.intact row before
  · exact keeps before (sound.intact before inTable)

theorem DbFile.Sound.rewrite (sound : file.Sound old table) (rewritable : file.Rewritable old table) :
    ∃ read, file.Sound (file.putBack old table) read :=
  sound_putBack_of_length rewritable.unended fun row member =>
    ⟨sound.intact row member, rewritable.filled row member⟩

theorem DbFile.Intact.key_ne_zero {row : file.Row} (intact : file.Intact row) :
    file.key row ≠ 0 := by
  have positive : 0 < file.key row := by
    cases file <;> exact intact.scanned _ (by simp [DbFile.scanned, DbFile.key])
  exact fun zero => absurd (zero ▸ positive) (by decide)

theorem DbFile.Sound.rows_eq (sound : file.Sound old table) : file.rows table = table :=
  rows_eq_self fun row member => (sound.intact row member).key_ne_zero

end Steps

/-! ### Edited rows -/

theorem intact_seller_iff {row : CsvClientInfo} :
    DbFile.Intact .SellerInfo row ↔ DbFile.Intact .CustomerInfo row :=
  ⟨fun intact => ⟨intact.scanned, intact.columns⟩, fun intact => ⟨intact.scanned, intact.columns⟩⟩

/-- A client is printed without an empty field. -/
theorem filled_client {row : CsvClientInfo} (intact : DbFile.Intact .CustomerInfo row) :
    DbFile.Filled .CustomerInfo row :=
  (filled_iff intact.columns).mpr fun id member =>
    ((printed_iff id).mpr (intact.scanned id member)).1

/-- An edit keeps a client intact. -/
theorem intact_apply (edit : InfoEdit) {row : CsvClientInfo}
    (intact : DbFile.Intact .CustomerInfo row) :
    DbFile.Intact .CustomerInfo (edit.apply row) := by
  have columns := intact.columns
  simp only [DbFile.columns, DbFile.texts, List.cons_append, List.nil_append,
    List.forall_mem_cons] at columns
  obtain ⟨firstName, lastName, phoneNumber, streetAddress, city, state, zipCode, none⟩ := columns
  cases edit with
  | name first last =>
    exact ⟨intact.scanned, by
      simp only [DbFile.columns, DbFile.texts, List.cons_append, List.nil_append,
        List.forall_mem_cons, InfoEdit.apply, CsvClientInfo.setName]
      exact ⟨first.inline, last.inline, phoneNumber, streetAddress, city, state, zipCode, none⟩⟩
  | number phone =>
    exact ⟨intact.scanned, by
      simp only [DbFile.columns, DbFile.texts, List.cons_append, List.nil_append,
        List.forall_mem_cons, InfoEdit.apply]
      exact ⟨firstName, lastName, phone.inline, streetAddress, city, state, zipCode, none⟩⟩
  | address street town province zip =>
    exact ⟨intact.scanned, by
      simp only [DbFile.columns, DbFile.texts, List.cons_append, List.nil_append,
        List.forall_mem_cons, InfoEdit.apply, CsvClientInfo.setAddress]
      exact ⟨firstName, lastName, phoneNumber, street.inline, town.inline, province.inline,
        zip.inline, none⟩⟩

/-- An update that keeps the numbers of a row and puts tokens in the place of its texts. -/
structure Retouches (file : DbFile) (update : file.Row → file.Row) : Prop where
  numbers : ∀ row, file.numbers (update row) = file.numbers row
  intact : ∀ row, file.Intact row → file.Intact (update row)

theorem retouches_bill_setName (firstName lastName : Token 20) :
    Retouches .BillingInfo (CsvBillingInfo.setName (firstName.chars, lastName.chars)) where
  numbers _ := rfl
  intact row intact := by
    have columns := intact.columns
    simp only [DbFile.columns, DbFile.texts, List.forall_mem_cons] at columns
    refine ⟨intact.scanned, ?_⟩
    simp only [DbFile.columns, DbFile.texts, List.forall_mem_cons, CsvBillingInfo.setName]
    exact ⟨firstName.inline, lastName.inline, columns.2.2⟩

theorem retouches_order_setName (firstName lastName : Token 20) :
    Retouches .CustomerOrder (CsvCustomerOrderInfo.setName (firstName.chars, lastName.chars)) where
  numbers _ := rfl
  intact row intact := by
    have columns := intact.columns
    simp only [DbFile.columns, DbFile.texts, List.forall_mem_cons] at columns
    refine ⟨intact.scanned, ?_⟩
    simp only [DbFile.columns, DbFile.texts, List.forall_mem_cons, CsvCustomerOrderInfo.setName]
    exact ⟨firstName.inline, lastName.inline, columns.2.2⟩

theorem retouches_bill_setAddress (streetAddress city state zipCode : Token 20) :
    Retouches .BillingInfo (CsvBillingInfo.setAddress
      ⟨streetAddress.chars, city.chars, state.chars, zipCode.chars⟩) where
  numbers _ := rfl
  intact row intact := by
    have columns := intact.columns
    simp only [DbFile.columns, DbFile.texts, List.forall_mem_cons] at columns
    refine ⟨intact.scanned, ?_⟩
    simp only [DbFile.columns, DbFile.texts, List.forall_mem_cons, CsvBillingInfo.setAddress]
    exact ⟨columns.1, columns.2.1, streetAddress.inline, city.inline, state.inline,
      zipCode.inline, columns.2.2.2.2.2.2⟩

theorem retouches_order_setAddress (streetAddress city state zipCode : Token 20) :
    Retouches .CustomerOrder (CsvCustomerOrderInfo.setAddress
      ⟨streetAddress.chars, city.chars, state.chars, zipCode.chars⟩) where
  numbers _ := rfl
  intact row intact := by
    have columns := intact.columns
    simp only [DbFile.columns, DbFile.texts, List.forall_mem_cons] at columns
    refine ⟨intact.scanned, ?_⟩
    simp only [DbFile.columns, DbFile.texts, List.forall_mem_cons,
      CsvCustomerOrderInfo.setAddress]
    exact ⟨columns.1, columns.2.1, streetAddress.inline, city.inline, state.inline,
      zipCode.inline, columns.2.2.2.2.2.2⟩

section Retouched

variable {file : DbFile} {update : file.Row → file.Row}

theorem Retouches.filled (retouches : Retouches file update) {row : file.Row}
    (intact : file.Intact row) (filled : file.Filled row) : file.Filled (update row) := by
  rw [filled_iff (retouches.intact row intact).columns, retouches.numbers]
  exact (filled_iff intact.columns).mp filled

/-- What a row keeps when some rows are updated. -/
theorem Retouches.ite (retouches : Retouches file update) (chosen : file.Row → Prop)
    [DecidablePred chosen] : Retouches file fun row => if chosen row then update row else row where
  numbers row := by
    by_cases hit : chosen row
    · rw [if_pos hit, retouches.numbers]
    · rw [if_neg hit]
  intact row intact := by
    by_cases hit : chosen row
    · rw [if_pos hit]
      exact retouches.intact row intact
    · rw [if_neg hit]
      exact intact

/-- A pass over the table that updates rows leaves it printable. -/
theorem Retouches.printable (retouches : Retouches file update) {table : List file.Row}
    (printable : ∀ row ∈ table, file.Intact row ∧ file.Filled row) :
    (mapRecords file.isEnd update table).length = table.length ∧
      ∀ row ∈ mapRecords file.isEnd update table, file.Intact row ∧ file.Filled row := by
  have mapped : mapRecords file.isEnd update table = table.map update :=
    mapRecords_eq_map update fun row member => by
      simpa [DbFile.isEnd] using (printable row member).1.key_ne_zero
  rw [mapped]
  refine ⟨List.length_map _, fun row member => ?_⟩
  obtain ⟨before, inTable, rfl⟩ := List.mem_map.mp member
  obtain ⟨intact, filled⟩ := printable before inTable
  exact ⟨retouches.intact before intact, retouches.filled intact filled⟩

end Retouched

/-- The passes over the order table, one for each order number. -/
theorem printable_editOrders {update : CsvCustomerOrderInfo → CsvCustomerOrderInfo}
    (retouches : Retouches .CustomerOrder update) (orderNums : List Int32)
    {orders : List CsvCustomerOrderInfo}
    (printable : ∀ row ∈ orders,
      DbFile.Intact .CustomerOrder row ∧ DbFile.Filled .CustomerOrder row) :
    (editOrders update orderNums orders).length = orders.length ∧
      ∀ row ∈ editOrders update orderNums orders,
        DbFile.Intact .CustomerOrder row ∧ DbFile.Filled .CustomerOrder row := by
  induction orderNums generalizing orders with
  | nil => exact ⟨rfl, printable⟩
  | cons orderNum orderNums inductionHypothesis =>
    obtain ⟨same, kept⟩ := (retouches.ite fun row : CsvCustomerOrderInfo =>
      row.orderId = orderNum).printable printable
    obtain ⟨later, rest⟩ := inductionHypothesis kept
    rw [editOrders, List.foldl_cons, ← editOrders]
    exact ⟨later.trans same, rest⟩

/-! ### What a request leaves -/

/-- Clients are written back if the rows that are printed are intact. -/
theorem World.Sound.handClients {world : World Files} (whole : world.Sound)
    (clientType : ClientType) {table : List CsvClientInfo}
    (covered : newlines (world.store clientType.file) + 1 ≤ table.length)
    (printed : ∀ row ∈ table.take (newlines (world.store clientType.file) + 1),
      DbFile.Intact .CustomerInfo row) :
    (world.handClients diskBacking clientType table).Sound := by
  cases clientType with
  | buyer =>
    exact whole.hand .CustomerInfo ⟨_, sound_putBack covered fun row member =>
      ⟨printed row member, filled_client (printed row member)⟩⟩
  | seller =>
    exact whole.hand .SellerInfo ⟨_, sound_putBack covered fun row member =>
      ⟨intact_seller_iff.mpr (printed row member), filled_client (printed row member)⟩⟩

/-- The rows that an order changes and adds. -/
theorem intact_sellAll {items : List ItemOrder} {products : List CsvProductInfo}
    (intact : ∀ row ∈ products, DbFile.Intact .ProductInfo row) :
    ∀ row ∈ sellAll items products, DbFile.Intact .ProductInfo row := by
  intro row member
  obtain ⟨before, inTable, same⟩ := mem_sellAll member
  rw [same]
  exact ⟨(intact before inTable).scanned, (intact before inTable).columns⟩

section NewRows

variable {rand : Rand} {now : Nat} {buyerData : CsvClientInfo} {item : ItemOrder}

theorem intact_billingRow (buyer : DbFile.Intact .CustomerInfo buyerData) (total : Int32) :
    DbFile.Intact .BillingInfo (billingRow (uidAt rand now) buyerData total) := by
  have columns := buyer.columns
  simp only [DbFile.columns, DbFile.texts, List.cons_append, List.nil_append,
    List.forall_mem_cons] at columns
  refine ⟨List.forall_mem_singleton.mpr (uidAt_pos rand now), ?_⟩
  simp only [DbFile.columns, DbFile.texts, List.forall_mem_cons, billingRow]
  exact ⟨columns.1, columns.2.1, columns.2.2.2⟩

theorem filled_billingRow (buyer : DbFile.Intact .CustomerInfo buyerData) {total : Int32}
    (printed : intToCharArray total ≠ []) :
    DbFile.Filled .BillingInfo (billingRow (uidAt rand now) buyerData total) := by
  have customer := buyer.scanned buyerData.uuid List.mem_cons_self
  refine (filled_iff (intact_billingRow buyer total).columns).mpr ?_
  simp [DbFile.numbers, billingRow, printed, ((printed_iff _).mpr (uidAt_pos rand now)).1,
    ((printed_iff _).mpr customer).1]

theorem intact_customerOrderRow (buyer : DbFile.Intact .CustomerInfo buyerData)
    (positive : 0 < item.productID) :
    DbFile.Intact .CustomerOrder (customerOrderRow (uidAt rand now) buyerData item) := by
  have columns := buyer.columns
  simp only [DbFile.columns, DbFile.texts, List.cons_append, List.nil_append,
    List.forall_mem_cons] at columns
  refine ⟨List.forall_mem_cons.mpr ⟨uidAt_pos rand now, List.forall_mem_singleton.mpr positive⟩,
    ?_⟩
  simp only [DbFile.columns, DbFile.texts, List.forall_mem_cons, customerOrderRow]
  exact ⟨columns.1, columns.2.1, columns.2.2.2⟩

theorem filled_customerOrderRow (buyer : DbFile.Intact .CustomerInfo buyerData)
    (positive : 0 < item.productID) (amount : intToCharArray item.quantity ≠ [])
    (price : intToCharArray (item.quantity * item.itemCostPerUnit) ≠ []) :
    DbFile.Filled .CustomerOrder (customerOrderRow (uidAt rand now) buyerData item) := by
  refine (filled_iff (intact_customerOrderRow buyer positive).columns).mpr ?_
  simp [DbFile.numbers, customerOrderRow, amount, price,
    ((printed_iff _).mpr (uidAt_pos rand now)).1, ((printed_iff _).mpr positive).1]

end NewRows

section Leaves

variable {world : World Files} {tables : Tables} {rand : Rand} {now : Nat}
variable (sound : ∀ file, DbFile.Sound file (world.store file) (tables file))

include sound

theorem intact_clients (clientType : ClientType) :
    ∀ row ∈ tables.clients clientType, DbFile.Intact .CustomerInfo row := by
  cases clientType with
  | buyer => exact (sound .CustomerInfo).intact
  | seller => exact fun row member => intact_seller_iff.mp ((sound .SellerInfo).intact row member)

theorem clientRows_eq (clientType : ClientType) :
    clientRows (tables.clients clientType) = tables.clients clientType := by
  refine records_eq_self fun row member => ?_
  simpa [DbFile.key] using (intact_clients sound clientType row member).key_ne_zero

/-- A registration is stored behind the rows that are printed. -/
theorem sound_newClient (clientType : ClientType)
    (unended : newlines (world.store clientType.file) < (tables.clients clientType).length)
    (uuid : Int32) (firstName lastName streetAddress city state zipCode : Chars) :
    (world.handClients diskBacking clientType (registeredTable uuid clientType firstName lastName
      streetAddress city state zipCode (tables.clients clientType))).Sound := by
  have whole : world.Sound := fun file => ⟨_, sound file⟩
  have behind : (tables.clients clientType).length ≤
      newClientRow clientType (tables.clients clientType) := by
    rw [newClientRow, clientRows_eq sound]
    exact Nat.le_add_right _ _
  have extent (row : CsvClientInfo) : (tables.clients clientType).length ≤ (put
      (tables.clients clientType) (newClientRow clientType (tables.clients clientType))
        row).length := by
    rw [← Nat.min_eq_left (Nat.le_refl (tables.clients clientType).length)]
    simp [put]
  refine whole.handClients clientType (Nat.le_trans unended (extent _)) fun row member => ?_
  rw [registeredTable, take_put _ behind unended] at member
  exact intact_clients sound clientType row (List.take_subset _ _ member)

/-- An edit of one client row. -/
theorem sound_editClient (clientType : ClientType) {id : Int32}
    (existing : ∃ row ∈ clientRows (tables.clients clientType), row.uuid = id)
    (unended : newlines (world.store clientType.file) < (tables.clients clientType).length)
    (edit : InfoEdit) {final : World Files}
    (served : world.editClient diskBacking tables clientType edit.apply id = some final) :
    final.Sound := by
  have whole : world.Sound := fun file => ⟨_, sound file⟩
  obtain ⟨row, member, named⟩ := existing
  obtain ⟨rowInDB, located, rfl⟩ := Option.map_eq_some_iff.mp served
  obtain ⟨index, -, ends, -, -, updated⟩ := put_of_search
    (fun row : CsvClientInfo => row.uuid == id) edit.apply
    ⟨row, mem_of_mem_records member, by simpa using named⟩
  obtain rfl : index = rowInDB := Option.some.inj (ends.symm.trans located)
  rw [updated]
  refine whole.handClients clientType (by rwa [length_updateFirst]) fun row member => ?_
  rcases mem_updateFirst (List.take_subset _ _ member) with before | ⟨before, inTable, rfl⟩
  · exact intact_clients sound clientType row before
  · exact intact_apply edit (intact_clients sound clientType before inTable)

/-- An edit of a buyer's data in three tables. -/
theorem sound_editBuyer {id : Int32} (edit : InfoEdit)
    {editBillingRow : CsvBillingInfo → CsvBillingInfo}
    {editOrderRow : CsvCustomerOrderInfo → CsvCustomerOrderInfo}
    (bills : Retouches .BillingInfo editBillingRow)
    (orders : Retouches .CustomerOrder editOrderRow)
    (existing : ∃ row ∈ clientRows (tables .CustomerInfo), row.uuid = id)
    (unended : newlines (world.store .CustomerInfo) < (tables .CustomerInfo).length)
    (billsRewritable : DbFile.Rewritable .BillingInfo (world.store .BillingInfo)
      (tables .BillingInfo))
    (ordersRewritable : DbFile.Rewritable .CustomerOrder (world.store .CustomerOrder)
      (tables .CustomerOrder)) {final : World Files}
    (served : world.editBuyer diskBacking tables edit.apply editBillingRow editOrderRow id =
      some final) : final.Sound := by
  obtain ⟨rowInDB, located, rfl⟩ := Option.map_eq_some_iff.mp served
  have clientsLeft : (world.hand diskBacking .CustomerInfo (put (tables .CustomerInfo) rowInDB
      (edit.apply (cell (tables .CustomerInfo) rowInDB)))).Sound :=
    sound_editClient sound .buyer existing unended edit
      (by rw [World.editClient, Tables.clients, located]; rfl)
  obtain ⟨billCount, billRows⟩ := (bills.ite fun row : CsvBillingInfo =>
    row.customerId = id).printable fun row member =>
      ⟨(sound .BillingInfo).intact row member, billsRewritable.filled row member⟩
  obtain ⟨orderCount, orderRows⟩ := printable_editOrders orders
    (buyerOrderNums id (tables .BillingInfo)) fun row member =>
      ⟨(sound .CustomerOrder).intact row member, ordersRewritable.filled row member⟩
  refine (clientsLeft.hand .BillingInfo ?_).hand .CustomerOrder ?_
  · rw [hand_store_of_ne _ _ (by decide)]
    exact sound_putBack_of_length (billCount ▸ billsRewritable.unended) billRows
  · rw [hand_store_of_ne _ _ (by decide), hand_store_of_ne _ _ (by decide)]
    exact sound_putBack_of_length (orderCount ▸ ordersRewritable.unended) orderRows

/-- An edit. -/
theorem sound_edit {clientType : ClientType} {clientID : Token 20} {edit : InfoEdit}
    (existing : ∃ row ∈ clientRows (tables.clients clientType), row.uuid = clientID.number)
    (writable : (Request.editInfo clientType clientID edit).Writable world.store tables)
    {final : World Files}
    (served : world.edit diskBacking tables clientType clientID.number edit = some final) :
    final.Sound := by
  cases clientType with
  | seller =>
    have one : world.editClient diskBacking tables .seller edit.apply clientID.number =
        some final := by cases edit <;> exact served
    exact sound_editClient sound .seller existing writable edit one
  | buyer =>
    cases edit with
    | name firstName lastName =>
      exact sound_editBuyer sound (.name firstName lastName)
        (retouches_bill_setName firstName lastName) (retouches_order_setName firstName lastName)
        existing writable.1 writable.2.1 writable.2.2 served
    | number phoneNumber =>
      exact sound_editClient sound .buyer existing writable (.number phoneNumber) served
    | address streetAddress city state zipCode =>
      exact sound_editBuyer sound (.address streetAddress city state zipCode)
        (retouches_bill_setAddress streetAddress city state zipCode)
        (retouches_order_setAddress streetAddress city state zipCode)
        existing writable.1 writable.2.1 writable.2.2 served

/-- A new product is stored behind the others. -/
theorem sound_newProduct {sellerID productName quantity price : Token 20}
    (writable : (Request.newProduct sellerID productName quantity price).Writable world.store
      tables) :
    (world.hand diskBacking .ProductInfo (stockedTable (uidAt rand now) sellerID.number
      productName.chars quantity.number price.number (tables .ProductInfo))).Sound := by
  have whole : world.Sound := fun file => ⟨_, sound file⟩
  have intact : DbFile.Intact .ProductInfo
      (newProductOf rand now sellerID productName quantity price) :=
    ⟨List.forall_mem_singleton.mpr (uidAt_pos rand now),
      List.forall_mem_singleton.mpr productName.inline⟩
  refine whole.hand .ProductInfo ?_
  rw [stockedTable, (sound .ProductInfo).rows_eq, put_length]
  refine sound_putBack_append (sound .ProductInfo) writable.1 fun ended =>
    ⟨newProductOf rand now sellerID productName quantity price, [], rfl, intact,
      (filled_iff intact.columns).mpr ?_⟩
  obtain ⟨seller, amount, cost⟩ := writable.2 ended
  simp [DbFile.numbers, newProductOf, seller, amount, cost,
    ((printed_iff _).mpr (uidAt_pos rand now)).1]

/-- A change of a product. -/
theorem sound_modify {sellerID productID : Int32} {modify : CsvProductInfo → CsvProductInfo}
    (keeps : ∀ row, DbFile.Intact .ProductInfo row → DbFile.Intact .ProductInfo (modify row))
    (writable : ModifyWritable world.store (tables .ProductInfo) sellerID productID modify) :
    (world.afterModify diskBacking modify sellerID productID (tables .ProductInfo)).Sound := by
  have whole : world.Sound := fun file => ⟨_, sound file⟩
  have same := (sound .ProductInfo).rows_eq
  rw [ModifyWritable] at writable
  rw [World.afterModify]
  cases owner : ownership sellerID productID (tables .ProductInfo) with
  | absent => exact whole
  | foreign =>
    rw [owner] at writable
    have replied : (world.reply "[INVALID]".toList).Sound := whole
    exact replied.hand .ProductInfo ((sound .ProductInfo).rewrite writable)
  | own =>
    rw [owner] at writable
    have present : ∃ row ∈ tables .ProductInfo, (row.productId == productID) = true := by
      rw [ownership] at owner
      split at owner
      · rename_i holds
        rw [DbFile.holdsID, same, List.any_eq_true] at holds
        exact holds
      · cases owner
    have located := search_eq_length_takeWhile present
    refine whole.hand .ProductInfo ((sound .ProductInfo).updateFirst present keeps writable ?_)
    rw [productRowNum, same]
    exact located

/-- A return changes the order table only if it removes nothing, and then the bill. -/
theorem sound_modOrder {orderID productIDtoReturn : Token 20}
    (existing : (Request.modOrder orderID productIDtoReturn).IdsExist tables)
    (writable : (Request.modOrder orderID productIDtoReturn).Writable world.store tables)
    {final : World Files}
    (served : (Request.modOrder orderID productIDtoReturn).effect diskBacking rand now tables
      world = some final) : final.Sound := by
  have whole : world.Sound := fun file => ⟨_, sound file⟩
  obtain ⟨ordersRewritable, absent, billsRewritable⟩ := writable
  obtain ⟨⟨bill, inBills, billed⟩, item, inOrders, ordered⟩ := existing
  obtain ⟨orderRow, orderLocated, ends⟩ := Option.bind_eq_some_iff.mp served
  obtain ⟨billRow, billLocated, rfl⟩ := Option.map_eq_some_iff.mp ends
  have kept : removeProduct productIDtoReturn.number (tables .CustomerOrder) =
      tables .CustomerOrder := by
    have scanned : records (fun row : CsvCustomerOrderInfo => row.productId == 0)
        (tables .CustomerOrder) = tables .CustomerOrder := by
      refine records_eq_self fun row member => ?_
      have positive := ((sound .CustomerOrder).intact row member).scanned row.productId
        (by simp [DbFile.scanned])
      have nonzero : row.productId ≠ 0 := fun zero => absurd (zero ▸ positive) (by decide)
      simpa using nonzero
    rw [removeProduct, scanned]
    exact List.filter_eq_self.mpr fun row member => by simpa using absent row member
  obtain ⟨first, found⟩ : ∃ first, (tables .CustomerOrder).find?
      (fun row => row.orderId == orderID.number) = some first :=
    Option.isSome_iff_exists.mp (List.find?_isSome.mpr
      ⟨item, mem_of_mem_records inOrders, by simpa using ordered⟩)
  obtain ⟨row, -, located, same⟩ := search_of_find? found
  obtain rfl : row = orderRow := Option.some.inj (located.symm.trans orderLocated)
  have ordersLeft : (world.hand diskBacking .CustomerOrder
      (removeProduct productIDtoReturn.number (tables .CustomerOrder))).Sound := by
    rw [kept]
    exact whole.hand .CustomerOrder ((sound .CustomerOrder).rewrite ordersRewritable)
  refine ordersLeft.hand .BillingInfo ?_
  rw [hand_store_of_ne _ _ (by decide), same]
  have present : ∃ row ∈ tables .BillingInfo, (row.orderId == orderID.number) = true :=
    ⟨bill, mem_of_mem_records inBills, by simpa using billed⟩
  have keeps : ∀ row : CsvBillingInfo, DbFile.Intact .BillingInfo row →
      DbFile.Intact .BillingInfo
        { row with totalOrderCost := row.totalOrderCost - first.totalPrice } :=
    fun row intact => ⟨intact.scanned, intact.columns⟩
  exact (sound .BillingInfo).updateFirst present keeps (billsRewritable first found) billLocated

/-- An accepted order. -/
theorem sound_order {buyerID : Int32} {lines : List OrderLine}
    (existing : ∃ row ∈ clientRows (tables .CustomerInfo), row.uuid = buyerID)
    (writable : validateBuyerOrder (orderItems lines) (tables .ProductInfo) = true →
      OrderWritable world.store tables (orderItems lines)) {final : World Files}
    (served : world.order diskBacking rand now tables buyerID (orderItems lines) = some final) :
    final.Sound := by
  have whole : world.Sound := fun file => ⟨_, sound file⟩
  rw [World.order] at served
  split at served
  · rename_i accepted
    obtain ⟨stock, bills, total, orders, firstLine⟩ := writable accepted
    obtain ⟨buyerRow, buyerLocated, ends⟩ := Option.bind_eq_some_iff.mp served
    obtain ⟨deducted, sold, rfl⟩ := Option.map_eq_some_iff.mp ends
    obtain ⟨buyerData, found⟩ : ∃ buyerData, (tables .CustomerInfo).find?
        (fun row => row.uuid == buyerID) = some buyerData := by
      obtain ⟨row, member, named⟩ := existing
      exact Option.isSome_iff_exists.mp (List.find?_isSome.mpr
        ⟨row, mem_of_mem_records member, by simpa using named⟩)
    obtain ⟨row, located, data⟩ := findBuyerInClientInfo_of_find? found
    obtain rfl : row = buyerRow := Option.some.inj (located.symm.trans buyerLocated)
    have listed := allListed_of_accepted
      (fun line inLines => productID_ne_zero_of_mem_orderItems inLines) accepted
    obtain rfl : sellAll (orderItems lines) (tables .ProductInfo) = deducted :=
      Option.some.inj ((deductOrder_of_allListed listed).symm.trans sold)
    have buyer := (sound .CustomerInfo).intact buyerData (List.mem_of_find?_eq_some found)
    have stockLeft := whole.hand .ProductInfo (sound_putBack_of_length stock.unended
      fun row member => ⟨intact_sellAll (sound .ProductInfo).intact row member,
        stock.filled row member⟩)
    rw [data, World.handOrder]
    refine (stockLeft.hand .BillingInfo ?_).hand .CustomerOrder ?_
    · rw [hand_store_of_ne _ _ (by decide), billedTable, (sound .BillingInfo).rows_eq, put_length]
      exact sound_putBack_append (sound .BillingInfo) bills fun ended =>
        ⟨_, [], rfl, intact_billingRow buyer _, filled_billingRow buyer (total ended)⟩
    · rw [hand_store_of_ne _ _ (by decide), hand_store_of_ne _ _ (by decide), orderedTable,
        (sound .CustomerOrder).rows_eq, putAll_length, orderRows_orderItems]
      refine sound_putBack_append (sound .CustomerOrder) orders fun ended => ?_
      obtain ⟨item, rest, shape, amount, price⟩ := firstLine ended
      have named : item.productID ∈ (tables .ProductInfo).map CsvProductInfo.productId :=
        listed item (shape ▸ List.mem_cons_self)
      obtain ⟨product, inTable, same⟩ := List.mem_map.mp named
      have positive : 0 < item.productID :=
        same ▸ ((sound .ProductInfo).intact product inTable).scanned product.productId
          List.mem_cons_self
      exact ⟨_, rest.map _, by rw [shape]; rfl, intact_customerOrderRow buyer positive,
        filled_customerOrderRow buyer positive amount price⟩
  · obtain rfl := Option.some.inj served
    exact whole

/-- A writable request leaves every file sound. -/
theorem sound_effect {request : Request} (existing : request.IdsExist tables)
    (writable : request.Writable world.store tables) {final : World Files}
    (served : request.effect diskBacking rand now tables world = some final) : final.Sound := by
  have whole : world.Sound := fun file => ⟨_, sound file⟩
  cases request with
  | newClient clientType firstName lastName phoneNumber streetAddress city state zipCode =>
    obtain rfl := Option.some.inj served
    have replied : ∀ file, DbFile.Sound file
        ((world.reply (decimal (uidAt rand now))).store file) (tables file) := sound
    exact sound_newClient replied clientType writable _ _ _ _ _ _ _
  | viewProducts sellerID =>
    cases sellerID <;> exact Option.some.inj served ▸ whole
  | completeOrder buyerID lines => exact sound_order sound existing writable served
  | checkBuyer buyerID orderID =>
    obtain ⟨answer, -, rfl⟩ := Option.map_eq_some_iff.mp served
    exact whole
  | modOrder orderID productIDtoReturn => exact sound_modOrder sound existing writable served
  | editInfo clientType clientID edit =>
    obtain ⟨edited, ends, rfl⟩ := Option.map_eq_some_iff.mp served
    have left : edited.Sound := sound_edit sound existing writable ends
    exact left
  | newProduct sellerID productName quantity price =>
    obtain rfl := Option.some.inj served
    exact sound_newProduct sound writable
  | deleteProd sellerID productID =>
    obtain rfl := Option.some.inj served
    rw [World.afterDelete, show ownership sellerID.number productID.number _ = _ from writable]
    exact whole
  | modQuant sellerID productID quantity =>
    obtain rfl := Option.some.inj served
    exact sound_modify sound (fun row intact => ⟨intact.scanned, intact.columns⟩) writable
  | modPrice sellerID productID price =>
    obtain rfl := Option.some.inj served
    exact sound_modify sound (fun row intact => ⟨intact.scanned, intact.columns⟩) writable
  | _ => exact Option.some.inj served ▸ whole

end Leaves

/-! ### Runs -/

/-- In every state of a run the ids of the next request exist and it is writable. -/
def AllWritable (rand : Rand) : List (Nat × Request) → World Files → Prop
  | [], _ => True
  | (now, request) :: requests, world =>
    (∀ tables, Loads diskBacking world tables →
      request.IdsExist tables ∧ request.Writable world.store tables) ∧
      ∀ next, serve diskBacking rand now request.message world = some next →
        AllWritable rand requests next

/-- The files of a sound world stay sound over a run of writable requests. -/
theorem sound_serveAll (rand : Rand) (earlier later : List (Nat × Request)) {world : World Files}
    (sound : world.Sound) (writable : AllWritable rand (earlier ++ later) world)
    {reached : World Files} (ran : serveAll diskBacking rand earlier world = some reached) :
    reached.Sound := by
  induction earlier generalizing world with
  | nil => exact Option.some.inj ran ▸ sound
  | cons step requests inductionHypothesis =>
    obtain ⟨now, request⟩ := step
    obtain ⟨next, served, rest⟩ := Option.bind_eq_some_iff.mp ran
    obtain ⟨tables, tablesSound⟩ := Classical.skolem.mp sound
    have loads : Loads diskBacking world tables := fun file => (tablesSound file).loaded
    obtain ⟨existing, meets⟩ := writable.1 tables loads
    have effect := (serve_message rand now loads request).symm.trans served
    exact inductionHypothesis (sound_effect tablesSound existing meets effect)
      (writable.2 next served) rest

instance (file : DbFile) (row : file.Row) : Decidable (file.Intact row) :=
  letI : Decidable (∀ id ∈ file.scanned row, 0 < id) := List.decidableBAll _ _
  letI : Decidable (∀ chars ∈ file.columns row, IsField chars.val ∧ '\n' ∉ chars.val) :=
    List.decidableBAll _ _
  decidable_of_iff ((∀ id ∈ file.scanned row, 0 < id) ∧
      ∀ chars ∈ file.columns row, IsField chars.val ∧ '\n' ∉ chars.val)
    ⟨fun both => ⟨both.1, both.2⟩, fun intact => ⟨intact.scanned, intact.columns⟩⟩

theorem sound_shippedWorld : shippedWorld.Sound := by
  intro file
  have loadable : file.Loadable (shippedFile file) := by
    cases file <;>
      simp only [shippedFile, shippedLines, List.map_cons, List.map_nil] <;>
      repeat rw [String.toList_ofList]
    all_goals decide
  have intact : ∀ row ∈ shippedTables file, file.Intact row := by
    cases file <;>
      simp only [shippedTables, field] <;>
      repeat rw [String.toList_ofList]
    all_goals decide
  have extent : newlines (shippedFile file) + 1 = (shippedTables file).length :=
    newlines_shippedFile file
  exact ⟨shippedTables file, load_shippedFile file, loadable,
    Nat.le_of_succ_le (Nat.le_of_eq extent), Nat.le_of_eq extent.symm, intact⟩

/-- Started on the shipped files, a run whose requests are writable keeps every file loadable in
every state that it reaches. -/
theorem writable_run_stays_loadable (rand : Rand) (earlier later : List (Nat × Request))
    (writable : AllWritable rand (earlier ++ later) shippedWorld) {reached : World Files}
    (ran : serveAll diskBacking rand earlier shippedWorld = some reached) (file : DbFile) :
    file.Loadable (reached.store file) ∧
      ∃ table, file.load (reached.store file) = some table := by
  obtain ⟨table, sound⟩ := sound_serveAll rand earlier later sound_shippedWorld writable ran file
  exact ⟨sound.loadable, table, sound.loaded⟩

/-- Tony Stark asks more for his grappling hook. -/
def dearerHook : Request :=
  .modPrice ⟨"1001".toList, by decide⟩ ⟨"2000".toList, by decide⟩ ⟨"25".toList, by decide⟩

/-- The first change of a price leaves the files loadable. -/
theorem writable_run_stays_loadable_dearerHook :
    ∃ reached, serveAll diskBacking (fun _ => 0) [(0, dearerHook)] shippedWorld = some reached ∧
      DbFile.Loadable .ProductInfo (reached.store .ProductInfo) := by
  have served : serveAll diskBacking (fun _ => 0) [(0, dearerHook)] shippedWorld =
      some (shippedWorld.afterModify diskBacking (fun row => { row with price := atoi "25".toList })
        (atoi "1001".toList) (atoi "2000".toList) (shippedTables .ProductInfo)) := by
    rw [serveAll, serve_message (fun _ => 0) 0 loads_shippedWorld]
    rfl
  refine ⟨_, served, (writable_run_stays_loadable (fun _ => 0) [(0, dearerHook)] []
    ⟨fun tables loads => ⟨trivial, ?_⟩, fun _ _ => trivial⟩ served .ProductInfo).1⟩
  have same : tables = shippedTables := funext fun file =>
    Option.some.inj ((loads file).symm.trans (loads_shippedWorld file))
  subst same
  have own : ownership (atoi "1001".toList) (atoi "2000".toList) (shippedTables .ProductInfo) =
      .own := by
    decide
  change ModifyWritable shippedFile (shippedTables .ProductInfo) (atoi "1001".toList)
    (atoi "2000".toList) _
  rw [ModifyWritable, own]
  refine ⟨?_, by decide⟩
  have extent := newlines_shippedFile .ProductInfo
  rw [length_updateFirst]
  omega

/-- The buyer Bruce Wayne. -/
def wayne : Token 20 := ⟨"1003".toList, by decide⟩

/-- All two hundred meditation tapes. -/
def allTapes : OrderLine :=
  ⟨⟨"2006".toList, by decide⟩, ⟨"200".toList, by decide⟩, ⟨"10".toList, by decide⟩⟩

/-- An order for the whole stock leaves a product that is printed without a quantity. -/
theorem allTapes_not_loadable :
    (Request.completeOrder wayne [allTapes]).IdsExist shippedTables ∧
      ∃ reached, serveAll diskBacking (fun _ => 0)
          [(0, Request.completeOrder wayne [allTapes])] shippedWorld = some reached ∧
        ¬DbFile.Loadable .ProductInfo (reached.store .ProductInfo) := by
  have buyer : ∃ row ∈ clientRows (shippedTables .CustomerInfo), row.uuid = wayne.number := by
    decide
  have existing : (shippedTables .CustomerInfo).find? (fun row => row.uuid == wayne.number) =
      some (cell (shippedTables .CustomerInfo) 3) := by
    decide
  have accepted : validateBuyerOrder (orderItems [allTapes]) (shippedTables .ProductInfo) =
      true := by
    decide
  have served := serve_accepted (fun file _ => loads_shippedWorld file) (fun _ => 0) 0 existing
    accepted
  refine ⟨buyer, _, by rw [serveAll, served]; rfl, ?_⟩
  rw [(handOrder_store _ _ _ _).1]
  decide +kernel

end OnlineStore
