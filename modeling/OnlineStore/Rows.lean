/-
This file says which rows of the tables survive being printed and read again. A row is printed
on one line that fits the reader's buffer whatever its numbers are, as long as its texts hold
neither a comma nor a newline. Rows that a loader has read have such texts, apart from the last
column of a client. The numbers decide the rest: zero is printed as an empty field, and an empty
field makes the later ones move up.
-/

import OnlineStore.Numerals
import Mathlib.Tactic.Linarith

namespace OnlineStore

open CString Cells

/-! ### Texts -/

/-- The text columns of a row, without the last column of a client. -/
def DbFile.texts : (file : DbFile) → file.Row → List Chars
  | .CustomerInfo, row | .SellerInfo, row =>
    [row.firstName, row.lastName, row.phoneNumber, row.streetAddress, row.city, row.state]
  | .ProductInfo, row => [row.productName]
  | .BillingInfo, row =>
    [row.firstName, row.lastName, row.streetAddress, row.city, row.state, row.zipCode]
  | .CustomerOrder, row =>
    [row.firstName, row.lastName, row.streetAddress, row.city, row.state, row.zipCode]

/-- All text columns of a row. -/
def DbFile.columns : (file : DbFile) → file.Row → List Chars
  | .CustomerInfo, row => DbFile.texts .CustomerInfo row ++ [row.zipCode]
  | .SellerInfo, row => DbFile.texts .SellerInfo row ++ [row.zipCode]
  | .ProductInfo, row => DbFile.texts .ProductInfo row
  | .BillingInfo, row => DbFile.texts .BillingInfo row
  | .CustomerOrder, row => DbFile.texts .CustomerOrder row

/-- A text that is a token and holds no newline. -/
def Inline (text : Text) : Prop := IsField text ∧ '\n' ∉ text

/-- The texts of a row are tokens within a line. -/
def DbFile.Inline (file : DbFile) (row : file.Row) : Prop :=
  ∀ chars ∈ file.texts row, OnlineStore.Inline chars.val

/-- Every token of a line but the last is within the line. -/
theorem inline_of_mem_dropLast_tokens {size : Nat} {text line token : Text}
    (inFile : line ∈ fgets size text) (member : token ∈ (tokens line).dropLast) :
    Inline token :=
  ⟨isField_of_mem_tokens (List.dropLast_subset _ member),
    newline_not_mem_of_mem_tokensFrom List.not_mem_nil (newline_last_of_mem_fgets inFile) member⟩

/-- The texts of a client that a loader reads are tokens, and all but the zip code are within
the line. -/
theorem inline_of_read_client {size : Nat} {text line : Text} {row : CsvClientInfo}
    (inFile : line ∈ fgets size text) (read : clientLayout.read (tokens line) = some row) :
    DbFile.Inline .CustomerInfo row ∧ IsField row.zipCode.val := by
  have early : ∀ token ∈ (tokens line).dropLast, Inline token := fun token inLine =>
    inline_of_mem_dropLast_tokens inFile inLine
  have fields : ∀ token ∈ tokens line, IsField token := fun token => isField_of_mem_tokens
  simp only [clientLayout] at read
  split at read
  · rename_i shape
    simp only [Option.bind_eq_bind, Option.bind_eq_some_iff, strcpy_eq_some_iff,
      Option.pure_def, Option.some.injEq] at read
    obtain ⟨_, rfl, _, rfl, _, rfl, _, rfl, _, rfl, _, rfl, _, rfl, rfl⟩ := read
    rw [shape] at early fields
    refine ⟨fun chars inRow => ?_, fields _ (by simp)⟩
    simp only [DbFile.texts, List.mem_cons, List.not_mem_nil, or_false] at inRow
    rcases inRow with rfl | rfl | rfl | rfl | rfl | rfl <;> exact early _ (by simp)
  · cases read

/-- The rows that a loader reads have texts within their lines. -/
theorem inline_of_mem_load {file : DbFile} {text : Text} {rows : List file.Row} {row : file.Row}
    (loaded : file.load text = some rows) (member : row ∈ rows) : file.Inline row := by
  obtain ⟨line, inFile, read⟩ := Layout.exists_line_of_mem_load loaded member
  have early : ∀ token ∈ (tokens line).dropLast, Inline token := fun token inLine =>
    inline_of_mem_dropLast_tokens inFile inLine
  cases file with
  | CustomerInfo => exact (inline_of_read_client inFile read).1
  | SellerInfo => exact (inline_of_read_client inFile read).1
  | ProductInfo =>
    simp only [DbFile.layout, productLayout] at read
    split at read
    · rename_i shape
      simp only [Option.bind_eq_bind, Option.bind_eq_some_iff, strcpy_eq_some_iff,
        Option.pure_def, Option.some.injEq] at read
      obtain ⟨_, rfl, rfl⟩ := read
      rw [shape] at early
      intro chars inRow
      simp only [DbFile.texts, List.mem_singleton] at inRow
      rw [inRow]
      exact early _ (by simp)
    · cases read
  | BillingInfo =>
    simp only [DbFile.layout, billingLayout] at read
    split at read
    · rename_i shape
      simp only [Option.bind_eq_bind, Option.bind_eq_some_iff, strcpy_eq_some_iff,
        Option.pure_def, Option.some.injEq] at read
      obtain ⟨_, rfl, _, rfl, _, rfl, _, rfl, _, rfl, _, rfl, rfl⟩ := read
      rw [shape] at early
      intro chars inRow
      simp only [DbFile.texts, List.mem_cons, List.not_mem_nil, or_false] at inRow
      rcases inRow with rfl | rfl | rfl | rfl | rfl | rfl <;> exact early _ (by simp)
    · cases read
  | CustomerOrder =>
    simp only [DbFile.layout, customerOrderLayout] at read
    split at read
    · rename_i shape
      simp only [Option.bind_eq_bind, Option.bind_eq_some_iff, strcpy_eq_some_iff,
        Option.pure_def, Option.some.injEq] at read
      obtain ⟨_, rfl, _, rfl, _, rfl, _, rfl, _, rfl, _, rfl, rfl⟩ := read
      rw [shape] at early
      intro chars inRow
      simp only [DbFile.texts, List.mem_cons, List.not_mem_nil, or_false] at inRow
      rcases inRow with rfl | rfl | rfl | rfl | rfl | rfl <;> exact early _ (by simp)
    · cases read

theorem isField_zipCode_of_mem_load {text : Text} {rows : List CsvClientInfo}
    {row : CsvClientInfo} (loaded : DbFile.load .CustomerInfo text = some rows)
    (member : row ∈ rows) : IsField row.zipCode.val := by
  obtain ⟨line, inFile, read⟩ := Layout.exists_line_of_mem_load loaded member
  exact (inline_of_read_client inFile read).2

/-! ### Lines -/

/-- The texts of the row hold no separator. -/
def DbFile.Unseparated (file : DbFile) (row : file.Row) : Prop :=
  ∀ chars ∈ file.columns row, ',' ∉ chars.val ∧ '\n' ∉ chars.val

/-- The fields of a row are its numbers and its texts. -/
theorem mem_fields {file : DbFile} {row : file.Row} {field : Text}
    (member : field ∈ file.layout.fields row) :
    (∃ number, field = intToCharArray number) ∨ ∃ chars ∈ file.columns row, field = chars.val := by
  cases file <;>
    simp only [DbFile.layout, clientLayout, productLayout, billingLayout, customerOrderLayout,
      List.mem_cons, List.not_mem_nil, or_false] at member <;>
    simp only [DbFile.columns, DbFile.texts, List.cons_append, List.nil_append, List.mem_cons,
      List.not_mem_nil, or_false, exists_eq_or_imp, exists_eq_left] <;>
    grind

/-- No line is longer than the buffer of the reader. -/
theorem length_joinFields_fields (file : DbFile) (row : file.Row) :
    (joinFields (file.layout.fields row)).length < 199 := by
  have number := length_intToCharArray_le
  have chars (text : Chars) : text.val.length ≤ 19 := Nat.le_of_lt_succ text.property
  have client (row : CsvClientInfo) : (joinFields (clientLayout.fields row)).length < 199 := by
    simp only [length_joinFields, clientLayout, List.map_cons, List.map_nil, List.sum_cons,
      List.sum_nil, List.length_cons, List.length_nil]
    linarith [number row.uuid, chars row.firstName, chars row.lastName, chars row.phoneNumber,
      chars row.streetAddress, chars row.city, chars row.state, chars row.zipCode]
  cases file with
  | CustomerInfo => exact client row
  | SellerInfo => exact client row
  | ProductInfo =>
    simp only [length_joinFields, DbFile.layout, productLayout, List.map_cons, List.map_nil,
      List.sum_cons, List.sum_nil, List.length_cons, List.length_nil]
    linarith [number row.productId, chars row.productName, number row.sellerId,
      number row.quantity, number row.price]
  | BillingInfo =>
    simp only [length_joinFields, DbFile.layout, billingLayout, List.map_cons, List.map_nil,
      List.sum_cons, List.sum_nil, List.length_cons, List.length_nil]
    linarith [number row.orderId, number row.customerId, chars row.firstName,
      chars row.lastName, chars row.streetAddress, chars row.city, chars row.state,
      chars row.zipCode, number row.totalOrderCost]
  | CustomerOrder =>
    simp only [length_joinFields, DbFile.layout, customerOrderLayout, List.map_cons,
      List.map_nil, List.sum_cons, List.sum_nil, List.length_cons, List.length_nil]
    linarith [number row.orderId, number row.productId, number row.quantityPurchased,
      chars row.firstName, chars row.lastName, chars row.streetAddress, chars row.city,
      chars row.state, chars row.zipCode, number row.totalPrice]

theorem plain_of_unseparated {file : DbFile} {row : file.Row} (texts : file.Unseparated row) :
    file.layout.Plain 200 row where
  commaFree field member := by
    rcases mem_fields member with ⟨number, rfl⟩ | ⟨chars, inRow, rfl⟩
    · exact comma_not_mem_intToCharArray number
    · exact (texts chars inRow).1
  unbroken field member := by
    rcases mem_fields member with ⟨number, rfl⟩ | ⟨chars, inRow, rfl⟩
    · exact newline_not_mem_intToCharArray number
    · exact (texts chars inRow).2
  short := length_joinFields_fields file row

/-- A zeroed row is one line of commas, and it is not read back. -/
theorem plain_default (file : DbFile) : file.layout.Plain 200 default := by
  refine plain_of_unseparated fun chars member => ?_
  have empty : chars = default := by
    cases file <;>
      simp only [DbFile.columns, DbFile.texts, List.cons_append, List.nil_append, List.mem_cons,
        List.not_mem_nil, or_false] at member <;>
      rcases member with rfl | rfl | rfl | rfl | rfl | rfl | rfl <;> rfl
  rw [empty]
  exact ⟨List.not_mem_nil, List.not_mem_nil⟩

theorem readBack_default (file : DbFile) : file.layout.readBack default = none := by
  cases file <;> rfl

/-! ### Rows that read back -/

/-- The numbers of a row are printed as numbers. The last column may be zero. -/
def DbFile.Savable : (file : DbFile) → file.Row → Prop
  | .CustomerInfo, row | .SellerInfo, row => 0 < row.uuid
  | .ProductInfo, row => 0 < row.productId ∧ 0 < row.sellerId ∧ 0 < row.quantity ∧ 0 ≤ row.price
  | .BillingInfo, row => 0 < row.orderId ∧ 0 < row.customerId ∧ 0 ≤ row.totalOrderCost
  | .CustomerOrder, row =>
    0 < row.orderId ∧ 0 < row.productId ∧ 0 < row.quantityPurchased ∧ 0 ≤ row.totalPrice

instance (file : DbFile) (row : file.Row) : Decidable (file.Savable row) :=
  match file with
  | .CustomerInfo | .SellerInfo => inferInstanceAs (Decidable (0 < row.uuid))
  | .ProductInfo => inferInstanceAs (Decidable
      (0 < row.productId ∧ 0 < row.sellerId ∧ 0 < row.quantity ∧ 0 ≤ row.price))
  | .BillingInfo => inferInstanceAs (Decidable
      (0 < row.orderId ∧ 0 < row.customerId ∧ 0 ≤ row.totalOrderCost))
  | .CustomerOrder => inferInstanceAs (Decidable
      (0 < row.orderId ∧ 0 < row.productId ∧ 0 < row.quantityPurchased ∧ 0 ≤ row.totalPrice))

/-- The newline is no number. -/
theorem intToCharArray_atoi_newline {number : Int32} {token : Text} (read : number = atoi token)
    (newline : token = ['\n']) : intToCharArray number = [] := by
  rw [read, newline]
  decide

theorem readBack_product_iff {row : CsvProductInfo} (texts : DbFile.Inline .ProductInfo row) :
    productLayout.readBack row = some row ↔ DbFile.Savable .ProductInfo row := by
  have name : row.productName.val ≠ [] := (texts row.productName (by simp [DbFile.texts])).1.nonempty
  have fields : productLayout.fields row = [intToCharArray row.productId, row.productName.val,
      intToCharArray row.sellerId, intToCharArray row.quantity] ++ [intToCharArray row.price] := rfl
  have whole (rest : List Text) : productLayout.read ([intToCharArray row.productId,
      row.productName.val, intToCharArray row.sellerId, intToCharArray row.quantity] ++
        Layout.closing (intToCharArray row.price) :: rest) = some row ↔
      atoi (intToCharArray row.productId) = row.productId ∧
        atoi (intToCharArray row.sellerId) = row.sellerId ∧
          atoi (intToCharArray row.quantity) = row.quantity ∧ 0 ≤ row.price := by
    rw [← atoi_last_iff row.price]
    obtain ⟨productId, productName, sellerId, quantity, price⟩ := row
    simp only [productLayout, Layout.closing, List.cons_append, List.nil_append, strcpy_val,
      Option.bind_eq_bind, Option.bind_some, Option.pure_def, Option.some.injEq,
      CsvProductInfo.mk.injEq, true_and]
  constructor
  · intro back
    have nonempty := Layout.nonempty_of_readBack fields (fun texts read => by
      simp only [productLayout] at read
      split at read
      · simp only [Option.bind_eq_bind, Option.bind_eq_some_iff, strcpy_eq_some_iff,
          Option.pure_def, Option.some.injEq] at read
        obtain ⟨_, rfl, rfl⟩ := read
        exact ⟨_, rfl, intToCharArray_atoi_newline rfl⟩
      · cases read) back
    obtain ⟨rest, same⟩ := Layout.readBack_of_nonempty fields nonempty
    obtain ⟨id, seller, quantity, price⟩ := (whole rest).mp (same ▸ back)
    simp only [List.forall_mem_cons] at nonempty
    exact ⟨(printed_iff _).mp ⟨nonempty.1, id⟩, (printed_iff _).mp ⟨nonempty.2.2.1, seller⟩,
      (printed_iff _).mp ⟨nonempty.2.2.2.1, quantity⟩, price⟩
  · rintro ⟨id, seller, quantity, price⟩
    obtain ⟨idPrinted, idRead⟩ := (printed_iff _).mpr id
    obtain ⟨sellerPrinted, sellerRead⟩ := (printed_iff _).mpr seller
    obtain ⟨quantityPrinted, quantityRead⟩ := (printed_iff _).mpr quantity
    obtain ⟨rest, same⟩ := Layout.readBack_of_nonempty fields (by
      simp [idPrinted, name, sellerPrinted, quantityPrinted])
    rw [same]
    exact (whole rest).mpr ⟨idRead, sellerRead, quantityRead, price⟩

theorem readBack_billing_iff {row : CsvBillingInfo} (texts : DbFile.Inline .BillingInfo row) :
    billingLayout.readBack row = some row ↔ DbFile.Savable .BillingInfo row := by
  have filled : ∀ chars ∈ DbFile.texts .BillingInfo row, chars.val ≠ [] := fun chars member =>
    (texts chars member).1.nonempty
  simp only [DbFile.texts, List.forall_mem_cons] at filled
  have fields : billingLayout.fields row = [intToCharArray row.orderId,
      intToCharArray row.customerId, row.firstName.val, row.lastName.val, row.streetAddress.val,
      row.city.val, row.state.val, row.zipCode.val] ++ [intToCharArray row.totalOrderCost] := rfl
  have whole (rest : List Text) : billingLayout.read ([intToCharArray row.orderId,
      intToCharArray row.customerId, row.firstName.val, row.lastName.val, row.streetAddress.val,
      row.city.val, row.state.val, row.zipCode.val] ++
        Layout.closing (intToCharArray row.totalOrderCost) :: rest) = some row ↔
      atoi (intToCharArray row.orderId) = row.orderId ∧
        atoi (intToCharArray row.customerId) = row.customerId ∧ 0 ≤ row.totalOrderCost := by
    rw [← atoi_last_iff row.totalOrderCost]
    obtain ⟨orderId, customerId, firstName, lastName, streetAddress, city, state, zipCode,
      totalOrderCost⟩ := row
    simp only [billingLayout, Layout.closing, List.cons_append, List.nil_append, strcpy_val,
      Option.bind_eq_bind, Option.bind_some, Option.pure_def, Option.some.injEq,
      CsvBillingInfo.mk.injEq, true_and]
  constructor
  · intro back
    have nonempty := Layout.nonempty_of_readBack fields (fun texts read => by
      simp only [billingLayout] at read
      split at read
      · simp only [Option.bind_eq_bind, Option.bind_eq_some_iff, strcpy_eq_some_iff,
          Option.pure_def, Option.some.injEq] at read
        obtain ⟨_, rfl, _, rfl, _, rfl, _, rfl, _, rfl, _, rfl, rfl⟩ := read
        exact ⟨_, rfl, intToCharArray_atoi_newline rfl⟩
      · cases read) back
    obtain ⟨rest, same⟩ := Layout.readBack_of_nonempty fields nonempty
    obtain ⟨order, customer, total⟩ := (whole rest).mp (same ▸ back)
    simp only [List.forall_mem_cons] at nonempty
    exact ⟨(printed_iff _).mp ⟨nonempty.1, order⟩, (printed_iff _).mp ⟨nonempty.2.1, customer⟩,
      total⟩
  · rintro ⟨order, customer, total⟩
    obtain ⟨orderPrinted, orderRead⟩ := (printed_iff _).mpr order
    obtain ⟨customerPrinted, customerRead⟩ := (printed_iff _).mpr customer
    obtain ⟨rest, same⟩ := Layout.readBack_of_nonempty fields (by
      simp [orderPrinted, customerPrinted, filled])
    rw [same]
    exact (whole rest).mpr ⟨orderRead, customerRead, total⟩

theorem readBack_customerOrder_iff {row : CsvCustomerOrderInfo}
    (texts : DbFile.Inline .CustomerOrder row) :
    customerOrderLayout.readBack row = some row ↔ DbFile.Savable .CustomerOrder row := by
  have filled : ∀ chars ∈ DbFile.texts .CustomerOrder row, chars.val ≠ [] := fun chars member =>
    (texts chars member).1.nonempty
  simp only [DbFile.texts, List.forall_mem_cons] at filled
  have fields : customerOrderLayout.fields row = [intToCharArray row.orderId,
      intToCharArray row.productId, intToCharArray row.quantityPurchased, row.firstName.val,
      row.lastName.val, row.streetAddress.val, row.city.val, row.state.val, row.zipCode.val] ++
        [intToCharArray row.totalPrice] := rfl
  have whole (rest : List Text) : customerOrderLayout.read ([intToCharArray row.orderId,
      intToCharArray row.productId, intToCharArray row.quantityPurchased, row.firstName.val,
      row.lastName.val, row.streetAddress.val, row.city.val, row.state.val, row.zipCode.val] ++
        Layout.closing (intToCharArray row.totalPrice) :: rest) = some row ↔
      atoi (intToCharArray row.orderId) = row.orderId ∧
        atoi (intToCharArray row.productId) = row.productId ∧
          atoi (intToCharArray row.quantityPurchased) = row.quantityPurchased ∧
            0 ≤ row.totalPrice := by
    rw [← atoi_last_iff row.totalPrice]
    obtain ⟨orderId, productId, quantityPurchased, firstName, lastName, streetAddress, city,
      state, zipCode, totalPrice⟩ := row
    simp only [customerOrderLayout, Layout.closing, List.cons_append, List.nil_append, strcpy_val,
      Option.bind_eq_bind, Option.bind_some, Option.pure_def, Option.some.injEq,
      CsvCustomerOrderInfo.mk.injEq, true_and]
  constructor
  · intro back
    have nonempty := Layout.nonempty_of_readBack fields (fun texts read => by
      simp only [customerOrderLayout] at read
      split at read
      · simp only [Option.bind_eq_bind, Option.bind_eq_some_iff, strcpy_eq_some_iff,
          Option.pure_def, Option.some.injEq] at read
        obtain ⟨_, rfl, _, rfl, _, rfl, _, rfl, _, rfl, _, rfl, rfl⟩ := read
        exact ⟨_, rfl, intToCharArray_atoi_newline rfl⟩
      · cases read) back
    obtain ⟨rest, same⟩ := Layout.readBack_of_nonempty fields nonempty
    obtain ⟨order, product, quantity, price⟩ := (whole rest).mp (same ▸ back)
    simp only [List.forall_mem_cons] at nonempty
    exact ⟨(printed_iff _).mp ⟨nonempty.1, order⟩, (printed_iff _).mp ⟨nonempty.2.1, product⟩,
      (printed_iff _).mp ⟨nonempty.2.2.1, quantity⟩, price⟩
  · rintro ⟨order, product, quantity, price⟩
    obtain ⟨orderPrinted, orderRead⟩ := (printed_iff _).mpr order
    obtain ⟨productPrinted, productRead⟩ := (printed_iff _).mpr product
    obtain ⟨quantityPrinted, quantityRead⟩ := (printed_iff _).mpr quantity
    obtain ⟨rest, same⟩ := Layout.readBack_of_nonempty fields (by
      simp [orderPrinted, productPrinted, quantityPrinted, filled])
    rw [same]
    exact (whole rest).mpr ⟨orderRead, productRead, quantityRead, price⟩

end OnlineStore
