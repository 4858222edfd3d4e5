/-
This file measures what is collected in the two fixed arrays of the data server: the new content of
a file in `putBack`, and the rows of a reply in `dataToSendClient`. Both are filled by `strcat`,
which does not know the size of its array, while the number of rows is bounded by nothing but the
size of the tables.

A row is as wide as its fields and separators, so whether a text fits can be read off the rows
without printing them (`collects_iff`). No write-back of more than 166 rows ever fits, although a
table has room for 3000.
-/

import OnlineStore.Buffers
import OnlineStore.Loaders
import OnlineStore.Views
import OnlineStore.Wire
import Mathlib.Algebra.Order.BigOperators.Group.List
import Mathlib.Data.Nat.Digits.Lemmas

namespace OnlineStore

open CString Cells Buffers Joins

/-! ### Widths -/

/-- The number of characters that `intToCharArray` leaves of a number: the digits of a positive
one, and the zeros among the digits of a negative one. -/
def printedWidth (number : Int32) : Nat :=
  if 0 ≤ number.toInt then (Nat.digits 10 number.toInt.natAbs).length
  else (Nat.digits 10 number.toInt.natAbs).count 0

/-- The number of characters that `sprintf` prints for a number. -/
def decimalWidth (number : Int32) : Nat :=
  (if number.toInt < 0 then 1 else 0) + max 1 (Nat.digits 10 number.toInt.natAbs).length

theorem length_digitLoop_natCast (rounds number : Nat) (enough : number ≤ rounds) :
    (digitLoop rounds number).length = (Nat.digits 10 number).length := by
  induction rounds generalizing number with
  | zero =>
    obtain rfl := Nat.le_zero.mp enough
    simp [digitLoop]
  | succ rounds inductionHypothesis =>
    by_cases zero : number = 0
    · subst zero
      simp [digitLoop]
    · rw [digitLoop_natCast_succ rounds zero, List.length_cons,
        inductionHypothesis _ (by omega), Nat.digits_def' (by decide) (Nat.pos_of_ne_zero zero),
        List.length_cons]

theorem length_digitLoop_neg (rounds number : Nat) (enough : number ≤ rounds) :
    (digitLoop rounds (-(number : Int))).length = (Nat.digits 10 number).count 0 := by
  induction rounds generalizing number with
  | zero =>
    obtain rfl := Nat.le_zero.mp enough
    simp [digitLoop]
  | succ rounds inductionHypothesis =>
    by_cases zero : number = 0
    · subst zero
      simp [digitLoop]
    · rw [digitLoop_neg_succ rounds zero, List.length_append, inductionHypothesis _ (by omega),
        Nat.digits_def' (by decide) (Nat.pos_of_ne_zero zero), List.count_cons, Nat.add_comm]
      by_cases last : number % 10 = 0 <;> simp [last]

theorem length_intToCharArray (number : Int32) :
    (intToCharArray number).length = printedWidth number := by
  rw [intToCharArray, List.length_reverse, printedWidth]
  split
  · have shape : number.toInt = (number.toInt.natAbs : Int) := by omega
    rw [shape, Int.natAbs_natCast]
    exact length_digitLoop_natCast _ _ (Nat.le_refl _)
  · have shape : number.toInt = -(number.toInt.natAbs : Int) := by omega
    rw [shape, Int.natAbs_neg, Int.natAbs_natCast]
    exact length_digitLoop_neg _ _ (Nat.le_refl _)

theorem length_toDigits (number : Nat) :
    (Nat.toDigits 10 number).length = max 1 (Nat.digits 10 number).length := by
  have same {bound : Nat} (positive : 0 < bound) :
      (Nat.toDigits 10 number).length ≤ bound ↔ (Nat.digits 10 number).length ≤ bound := by
    rw [Nat.length_toDigits_le_iff (by decide) positive, Nat.digits_length_le_iff (by decide)]
  have positive : 0 < (Nat.toDigits 10 number).length := Nat.length_toDigits_pos
  refine Nat.le_antisymm ?_ (Nat.max_le.mpr ⟨positive, (same positive).mp (Nat.le_refl _)⟩)
  exact (same (Nat.lt_of_lt_of_le Nat.zero_lt_one (Nat.le_max_left _ _))).mpr (Nat.le_max_right _ _)

theorem length_decimal (number : Int32) : (decimal number).length = decimalWidth number := by
  rw [decimal, decimalWidth]
  split
  · rw [List.length_cons, length_toDigits, Nat.add_comm]
  · rw [length_toDigits, Nat.zero_add]

theorem printedWidth_le (number : Int32) : printedWidth number ≤ 10 :=
  length_intToCharArray number ▸ length_intToCharArray_le number

theorem decimalWidth_bounds (number : Int32) :
    1 ≤ decimalWidth number ∧ decimalWidth number ≤ 11 := by
  constructor
  · exact (Nat.le_max_left _ _).trans (Nat.le_add_left _ _)
  · exact length_decimal number ▸ length_decimal_le number

theorem length_chars_le (chars : Chars) : chars.val.length ≤ 19 :=
  Nat.le_of_lt_succ chars.property

/-! ### Rows -/

/-- The strings that are appended for a row: its fields with commas between them, and what closes
the row. -/
def pieces (closing : List Text) : List Text → List Text
  | [] => closing
  | [field] => field :: closing
  | field :: next :: fields => field :: [','] :: pieces closing (next :: fields)

theorem flatten_pieces {closing : List Text} {ending : Text}
    (closes : closing.flatten = ',' :: ending) {fields : List Text} (nonempty : fields ≠ []) :
    (pieces closing fields).flatten = joinFields fields ++ ending := by
  induction fields with
  | nil => exact absurd rfl nonempty
  | cons field fields inductionHypothesis =>
    cases fields with
    | nil => simp [pieces, closes]
    | cons next fields =>
      rw [pieces, List.flatten_cons, List.flatten_cons,
        inductionHypothesis (List.cons_ne_nil next fields), joinFields_cons]
      simp

/-- What closes the row of a file. The last comma of a product is appended together with the
newline. -/
def DbFile.closing : DbFile → List Text
  | .ProductInfo => [[',', '\n']]
  | _ => [[','], ['\n']]

/-- The strings that a write-back function appends for a row. -/
def DbFile.rowPieces (file : DbFile) (row : file.Row) : List Text :=
  pieces file.closing (file.layout.fields row)

def productPieces (row : CsvProductInfo) : List Text :=
  pieces [[',', '\n']] [decimal row.productId, row.productName.val, decimal row.quantity,
    decimal row.price]

def orderPieces (row : CsvBillingInfo) : List Text :=
  pieces [[',', '\n']] [decimal row.orderId, decimal row.totalOrderCost]

def customerOrderPieces (row : CsvCustomerOrderInfo) : List Text :=
  pieces [[',']] [decimal row.orderId, decimal row.productId, decimal row.quantityPurchased,
    decimal row.totalPrice, row.firstName.val, row.lastName.val, row.streetAddress.val,
    row.city.val, row.state.val, row.zipCode.val]

/-- The width of a row in its file: the numbers, the texts, a comma for each of them and the
newline. -/
def DbFile.lineWidth (file : DbFile) (row : file.Row) : Nat :=
  ((file.numbers row).map printedWidth).sum +
    ((file.columns row).map fun chars => chars.val.length).sum + (file.width + 1)

def productWidth (row : CsvProductInfo) : Nat :=
  decimalWidth row.productId + row.productName.val.length + decimalWidth row.quantity +
    decimalWidth row.price + 5

def orderWidth (row : CsvBillingInfo) : Nat :=
  decimalWidth row.orderId + decimalWidth row.totalOrderCost + 3

def customerOrderWidth (row : CsvCustomerOrderInfo) : Nat :=
  decimalWidth row.orderId + decimalWidth row.productId + decimalWidth row.quantityPurchased +
    decimalWidth row.totalPrice + row.firstName.val.length + row.lastName.val.length +
      row.streetAddress.val.length + row.city.val.length + row.state.val.length +
        row.zipCode.val.length + 10

theorem DbFile.flatten_rowPieces (file : DbFile) (row : file.Row) :
    (file.rowPieces row).flatten = file.layout.line row := by
  have closes : file.closing.flatten = ',' :: ['\n'] := by cases file <;> rfl
  have nonempty : file.layout.fields row ≠ [] := by cases file <;> exact List.cons_ne_nil _ _
  exact flatten_pieces closes nonempty

theorem DbFile.length_line (file : DbFile) (row : file.Row) :
    (file.layout.line row).length = file.lineWidth row := by
  rw [Layout.line, List.length_append, length_joinFields, DbFile.lineWidth, List.length_singleton]
  cases file <;>
    simp only [DbFile.layout, clientLayout, productLayout, billingLayout, customerOrderLayout,
      DbFile.numbers, DbFile.columns, DbFile.texts, DbFile.width, List.map_cons, List.map_nil,
      List.sum_cons, List.sum_nil, List.cons_append, List.nil_append, length_intToCharArray,
      List.length_cons, List.length_nil] <;>
    omega

theorem flatten_productPieces (row : CsvProductInfo) :
    (productPieces row).flatten = productReply row :=
  flatten_pieces rfl (List.cons_ne_nil _ _)

theorem flatten_orderPieces (row : CsvBillingInfo) :
    (orderPieces row).flatten =
      joinFields [decimal row.orderId, decimal row.totalOrderCost] ++ ['\n'] :=
  flatten_pieces rfl (List.cons_ne_nil _ _)

theorem flatten_customerOrderPieces (row : CsvCustomerOrderInfo) :
    (customerOrderPieces row).flatten = customerOrderReply row :=
  (flatten_pieces rfl (List.cons_ne_nil _ _)).trans (List.append_nil _)

theorem length_productPieces (row : CsvProductInfo) :
    (productPieces row).flatten.length = productWidth row := by
  rw [flatten_productPieces, productReply, List.length_append, length_joinFields, productWidth]
  simp only [List.map_cons, List.map_nil, List.sum_cons, List.sum_nil, length_decimal,
    List.length_cons, List.length_nil]
  omega

theorem length_orderPieces (row : CsvBillingInfo) :
    (orderPieces row).flatten.length = orderWidth row := by
  rw [flatten_orderPieces, List.length_append, length_joinFields, orderWidth]
  simp only [List.map_cons, List.map_nil, List.sum_cons, List.sum_nil, length_decimal,
    List.length_cons, List.length_nil]
  omega

theorem length_customerOrderPieces (row : CsvCustomerOrderInfo) :
    (customerOrderPieces row).flatten.length = customerOrderWidth row := by
  rw [flatten_customerOrderPieces, customerOrderReply, length_joinFields, customerOrderWidth]
  simp only [List.map_cons, List.map_nil, List.sum_cons, List.sum_nil, length_decimal,
    List.length_cons, List.length_nil]
  omega

/-! ### Collectors -/

/-- A call that collects a text in an array of its own: a write-back function with the content that
its file has had and the table, or a view with its request and the tables it has loaded. -/
inductive Collector where
  | writeBack (file : DbFile) (old : Text) (table : List file.Row)
  | viewProducts (clientType : Text) (productList : List CsvProductInfo)
  | buyerViewsOrder (userID : Int32) (billingInfo : List CsvBillingInfo)
  | sellerViewsOrders (sellerID : Int32) (pList : List CsvProductInfo)
      (customerOrderInfo : List CsvCustomerOrderInfo)

namespace Collector

/-- The size of the array: `putBack` or `dataToSendClient`. -/
def size : Collector → Nat
  | .writeBack .. => 1000
  | _ => MSG_BUFFER_SIZE

/-- The strings that are appended, row after row. -/
def appended : Collector → List Text
  | .writeBack file old table =>
    ((List.range (newlines old + 1)).map (cell table)).flatMap file.rowPieces
  | .viewProducts clientType productList =>
    (viewedProducts clientType productList).flatMap productPieces
  | .buyerViewsOrder userID billingInfo =>
    ((DbFile.rows .BillingInfo billingInfo).filter fun row => row.customerId == userID).flatMap
      orderPieces
  | .sellerViewsOrders sellerID pList customerOrderInfo =>
    (grouped CsvCustomerOrderInfo.productId (ownedProductIDs sellerID pList)
      (DbFile.rows .CustomerOrder customerOrderInfo)).flatMap customerOrderPieces

/-- The text that is collected where the array is as large as needed. -/
def text : Collector → Text
  | .writeBack file old table => file.putBack old table
  | .viewProducts clientType productList =>
    (viewedProducts clientType productList).flatMap productReply
  | .buyerViewsOrder userID billingInfo => buyerOrdersReply userID billingInfo
  | .sellerViewsOrders sellerID pList customerOrderInfo =>
    sellerOrdersReply sellerID pList customerOrderInfo

/-- The widths of the rows. -/
def widths : Collector → List Nat
  | .writeBack file old table =>
    ((List.range (newlines old + 1)).map (cell table)).map file.lineWidth
  | .viewProducts clientType productList =>
    (viewedProducts clientType productList).map productWidth
  | .buyerViewsOrder userID billingInfo =>
    ((DbFile.rows .BillingInfo billingInfo).filter fun row => row.customerId == userID).map
      orderWidth
  | .sellerViewsOrders sellerID pList customerOrderInfo =>
    (grouped CsvCustomerOrderInfo.productId (ownedProductIDs sellerID pList)
      (DbFile.rows .CustomerOrder customerOrderInfo)).map customerOrderWidth

theorem size_pos (collector : Collector) : 0 < collector.size := by
  cases collector <;> exact Nat.zero_lt_succ _

/-- What stands in the array after the last `strcat`; nothing where one of them overflows it. The
array is empty at first. -/
def collect (collector : Collector) : Option (CharArray collector.size) :=
  accumulate ⟨[], collector.size_pos⟩ collector.appended

/-- Appending the pieces of rows one by one gives the rows. -/
theorem flatten_flatMap {Row : Type} {rowPieces : Row → List Text} {line : Row → Text}
    (each : ∀ row, (rowPieces row).flatten = line row) (rows : List Row) :
    (rows.flatMap rowPieces).flatten = rows.flatMap line := by
  induction rows with
  | nil => rfl
  | cons row rows inductionHypothesis =>
    rw [List.flatMap_cons, List.flatMap_cons, List.flatten_append, each, inductionHypothesis]

theorem flatten_appended (collector : Collector) :
    collector.appended.flatten = collector.text := by
  cases collector with
  | writeBack file old table =>
    rw [appended, flatten_flatMap file.flatten_rowPieces, List.flatMap_map]
    rfl
  | viewProducts clientType productList => exact flatten_flatMap flatten_productPieces _
  | buyerViewsOrder userID billingInfo => exact flatten_flatMap flatten_orderPieces _
  | sellerViewsOrders sellerID pList customerOrderInfo =>
    rw [appended, flatten_flatMap flatten_customerOrderPieces, text, sellerOrdersReply_eq]

/-- What fits is the text that the handlers are modelled with. -/
theorem collect_eq_some_iff (collector : Collector) (result : CharArray collector.size) :
    collector.collect = some result ↔ result.val = collector.text := by
  rw [collect, accumulate_eq_some_iff, flatten_appended, List.nil_append]

theorem length_flatMap {Row : Type} {rowPieces : Row → List Text} {width : Row → Nat}
    (each : ∀ row, (rowPieces row).flatten.length = width row) (rows : List Row) :
    ((rows.flatMap rowPieces).map List.length).sum = (rows.map width).sum := by
  induction rows with
  | nil => rfl
  | cons row rows inductionHypothesis =>
    rw [List.flatMap_cons, List.map_append, List.sum_append, inductionHypothesis, List.map_cons,
      List.sum_cons, ← each, List.length_flatten]

theorem length_appended (collector : Collector) :
    (collector.appended.map List.length).sum = collector.widths.sum := by
  cases collector with
  | writeBack file old table =>
    exact length_flatMap (fun row => by rw [file.flatten_rowPieces, file.length_line]) _
  | viewProducts clientType productList => exact length_flatMap length_productPieces _
  | buyerViewsOrder userID billingInfo => exact length_flatMap length_orderPieces _
  | sellerViewsOrders sellerID pList customerOrderInfo =>
    exact length_flatMap length_customerOrderPieces _

theorem isSome_collect_iff (collector : Collector) :
    collector.collect.isSome = true ↔ collector.widths.sum < collector.size := by
  rw [collect, accumulate_isSome_iff, length_appended, List.length_nil, Nat.zero_add]

/-! ### Numbers of rows -/

/-- The least width of a row: its separators, and a digit for each number that `sprintf` prints. -/
def least : Collector → Nat
  | .writeBack file .. => file.width + 1
  | .viewProducts .. => 8
  | .buyerViewsOrder .. => 5
  | .sellerViewsOrders .. => 14

/-- The greatest width of a row. -/
def most : Collector → Nat
  | .writeBack .CustomerInfo .. | .writeBack .SellerInfo .. => 152
  | .writeBack .ProductInfo .. => 65
  | .writeBack .BillingInfo .. => 154
  | .writeBack .CustomerOrder .. => 165
  | .viewProducts .. => 57
  | .buyerViewsOrder .. => 25
  | .sellerViewsOrders .. => 168

theorem lineWidth_le (file : DbFile) (old : Text) (table : List file.Row) (row : file.Row) :
    file.lineWidth row ≤ (writeBack file old table).most := by
  have numbers : ((file.numbers row).map printedWidth).sum ≤ (file.numbers row).length * 10 := by
    refine (List.sum_le_card_nsmul _ 10 fun width member => ?_).trans (by simp)
    obtain ⟨number, -, rfl⟩ := List.mem_map.mp member
    exact printedWidth_le number
  have texts : ((file.columns row).map fun chars => chars.val.length).sum ≤
      (file.columns row).length * 19 := by
    refine (List.sum_le_card_nsmul _ 19 fun width member => ?_).trans (by simp)
    obtain ⟨chars, -, rfl⟩ := List.mem_map.mp member
    exact length_chars_le chars
  rw [DbFile.lineWidth]
  cases file <;>
    simp only [DbFile.numbers, DbFile.columns, DbFile.texts, DbFile.width, List.cons_append,
      List.nil_append, List.length_cons, List.length_nil, most] at numbers texts ⊢ <;>
    omega

theorem bounds_of_mem_widths {collector : Collector} {width : Nat}
    (member : width ∈ collector.widths) : collector.least ≤ width ∧ width ≤ collector.most := by
  cases collector with
  | writeBack file old table =>
    obtain ⟨row, -, rfl⟩ := List.mem_map.mp member
    exact ⟨Nat.le_add_left _ _, lineWidth_le file old table row⟩
  | viewProducts clientType productList =>
    obtain ⟨row, -, rfl⟩ := List.mem_map.mp member
    have productId := decimalWidth_bounds row.productId
    have productName := length_chars_le row.productName
    have quantity := decimalWidth_bounds row.quantity
    have price := decimalWidth_bounds row.price
    simp only [productWidth, least, most]
    omega
  | buyerViewsOrder userID billingInfo =>
    obtain ⟨row, -, rfl⟩ := List.mem_map.mp member
    have orderId := decimalWidth_bounds row.orderId
    have totalOrderCost := decimalWidth_bounds row.totalOrderCost
    simp only [orderWidth, least, most]
    omega
  | sellerViewsOrders sellerID pList customerOrderInfo =>
    obtain ⟨row, -, rfl⟩ := List.mem_map.mp member
    have orderId := decimalWidth_bounds row.orderId
    have productId := decimalWidth_bounds row.productId
    have quantityPurchased := decimalWidth_bounds row.quantityPurchased
    have totalPrice := decimalWidth_bounds row.totalPrice
    have firstName := length_chars_le row.firstName
    have lastName := length_chars_le row.lastName
    have streetAddress := length_chars_le row.streetAddress
    have city := length_chars_le row.city
    have state := length_chars_le row.state
    have zipCode := length_chars_le row.zipCode
    simp only [customerOrderWidth, least, most]
    omega

/-- Few enough rows fit, whatever is in them. -/
theorem isSome_collect_of_few {collector : Collector}
    (few : collector.widths.length * collector.most < collector.size) :
    collector.collect.isSome = true := by
  rw [isSome_collect_iff]
  refine Nat.lt_of_le_of_lt ?_ few
  exact List.sum_le_card_nsmul _ _ fun width member => (bounds_of_mem_widths member).2

/-- Too many rows overflow the array, whatever is in them. -/
theorem collect_eq_none_of_many {collector : Collector}
    (many : collector.size ≤ collector.widths.length * collector.least) :
    collector.collect = none := by
  rw [← Option.not_isSome_iff_eq_none, isSome_collect_iff, Nat.not_lt]
  refine many.trans ?_
  exact List.card_nsmul_le_sum _ _ fun width member => (bounds_of_mem_widths member).1

/-! ### What fits -/

/-- The text of a call is collected in its array exactly if the widths of its rows add up to less
than the size of the array. -/
theorem collects_text_iff (collector : Collector) :
    (∃ result, collector.collect = some result ∧ result.val = collector.text) ↔
      collector.widths.sum < collector.size := by
  rw [← isSome_collect_iff, Option.isSome_iff_exists]
  refine exists_congr fun result => ⟨And.left, fun collected => ⟨collected, ?_⟩⟩
  exact (collect_eq_some_iff collector result).mp collected

def pen : CsvProductInfo := ⟨2004, field "pen", 1003, 400, 3⟩

theorem plain_pen : productLayout.Plain 200 pen :=
  ⟨by decide, by decide, by decide⟩

/-- A shop with 200 products can be loaded but not written back, and a buyer cannot be shown one
with 1500 products. -/
theorem pens_not_collected :
    DbFile.load .ProductInfo (productLayout.text (List.replicate 200 pen)) =
        some (List.replicate 200 pen) ∧
      (writeBack .ProductInfo (productLayout.text (List.replicate 200 pen))
        (List.replicate 200 pen)).collect = none ∧
      (viewProducts ClientType.buyer.tag (List.replicate 1500 pen)).collect = none := by
  have plain (count : Nat) : ∀ row ∈ List.replicate count pen, productLayout.Plain 200 row :=
    fun row member => List.eq_of_mem_replicate member ▸ plain_pen
  have named : ∀ row ∈ List.replicate 1500 pen, row.productId ≠ 0 := fun row member => by
    rw [List.eq_of_mem_replicate member]
    decide
  refine ⟨?_, collect_eq_none_of_many ?_, collect_eq_none_of_many ?_⟩
  · refine (Layout.load_text_iff (plain 200)).mpr (List.forall₂_same.mpr fun row member => ?_)
    rw [List.eq_of_mem_replicate member]
    decide
  · have lines : newlines (productLayout.text (List.replicate 200 pen)) = 200 := by
      rw [newlines, Layout.count_newline_text (plain 200), List.length_replicate]
    simp only [widths, lines, List.length_map, List.length_range]
    decide
  · have viewed : viewedProducts ClientType.buyer.tag (List.replicate 1500 pen) =
        List.replicate 1500 pen :=
      rows_eq_self named
    simp only [widths, viewed, List.length_map, List.length_replicate]
    decide

end Collector

end OnlineStore
