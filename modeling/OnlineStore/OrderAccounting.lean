/-
This file says what an order does to the tables. An accepted order hands over three of them,
each built by a loop of its own over the order lines: the product table with the quantities
deducted, the billing table with one more row, and the CustomerOrder table with one more row a
line.

The deduction is described without the searches of the code. Each product row takes the lines
that name it and leaves the others to the rows after it, so that of two rows with one id only
the first is touched. From this the totals follow row by row.
-/

import OnlineStore.Effects
import Mathlib.Algebra.BigOperators.Group.List.Basic

namespace OnlineStore

open CString Cells Prog

/-! ### Sums in 32 bits -/

/-- The value is one of a 32-bit integer. -/
def InRange (value : Int) : Prop := -2 ^ 31 ≤ value ∧ value < 2 ^ 31

instance (value : Int) : Decidable (InRange value) :=
  inferInstanceAs (Decidable (-2 ^ 31 ≤ value ∧ value < 2 ^ 31))

theorem bmod_of_inRange {value : Int} (inRange : InRange value) :
    value.bmod (2 ^ 32) = value := by
  rw [InRange] at inRange
  rw [Int.bmod_def]
  omega

theorem toInt_sum {Item : Type} (items : List Item) (value : Item → Int32) :
    (items.map value).sum.toInt =
      ((items.map fun item => (value item).toInt).sum).bmod (2 ^ 32) := by
  induction items with
  | nil => rfl
  | cons item items inductionHypothesis =>
    rw [List.map_cons, List.map_cons, List.sum_cons, List.sum_cons, Int32.toInt_add,
      inductionHypothesis, Int.add_bmod_bmod]

/-! ### Deducting an order -/

/-- The lines of an order for a product. -/
def linesFor (productID : Int32) (lines : List ItemOrder) : List ItemOrder :=
  lines.filter fun line => line.productID == productID

/-- How much of a product an order asks for. -/
def ordered (productID : Int32) (lines : List ItemOrder) : Int :=
  ((linesFor productID lines).map fun line => line.quantity.toInt).sum

/-- The total stock of a product, over all rows with its id. -/
def stock (productID : Int32) (products : List CsvProductInfo) : Int :=
  ((products.filter fun row => row.productId == productID).map fun row =>
    row.quantity.toInt).sum

/-- A product row after the lines of an order for its product. -/
def CsvProductInfo.sell (row : CsvProductInfo) (lines : List ItemOrder) : CsvProductInfo :=
  { row with
    quantity := row.quantity - ((linesFor row.productId lines).map ItemOrder.quantity).sum }

/-- The product table after an order: every row takes the lines for its product and leaves the
others to the rows after it. -/
def sellAll : List ItemOrder → List CsvProductInfo → List CsvProductInfo
  | _, [] => []
  | lines, row :: rows =>
    row.sell lines :: sellAll (lines.filter fun line => line.productID != row.productId) rows

@[simp] theorem CsvProductInfo.sell_nil (row : CsvProductInfo) : row.sell [] = row := by
  simp [sell, linesFor]

@[simp] theorem sellAll_nil (products : List CsvProductInfo) : sellAll [] products = products := by
  induction products with
  | nil => rfl
  | cons row rows inductionHypothesis => simp [sellAll, inductionHypothesis]

theorem map_productId_sellAll (lines : List ItemOrder) (products : List CsvProductInfo) :
    (sellAll lines products).map CsvProductInfo.productId =
      products.map CsvProductInfo.productId := by
  induction products generalizing lines with
  | nil => rfl
  | cons row rows inductionHypothesis =>
    rw [sellAll, List.map_cons, inductionHypothesis]
    rfl

/-- Nothing but the quantity of a row changes. -/
theorem mem_sellAll {lines : List ItemOrder} {products : List CsvProductInfo}
    {row : CsvProductInfo} (member : row ∈ sellAll lines products) :
    ∃ before ∈ products, row = { before with quantity := row.quantity } := by
  induction products generalizing lines with
  | nil => cases member
  | cons first rows inductionHypothesis =>
    rcases List.mem_cons.mp member with rfl | rest
    · exact ⟨first, List.mem_cons_self, rfl⟩
    · obtain ⟨before, inTable, same⟩ := inductionHypothesis rest
      exact ⟨before, List.mem_cons_of_mem _ inTable, same⟩

/-- What one line does to the table: it is taken from the first row of its product. -/
def deductLine (line : ItemOrder) : List CsvProductInfo → List CsvProductInfo :=
  updateFirst (fun row => line.productID == row.productId)
    fun row => { row with quantity := row.quantity - line.quantity }

theorem sellAll_cons (line : ItemOrder) (lines : List ItemOrder)
    (products : List CsvProductInfo) :
    sellAll (line :: lines) products = sellAll lines (deductLine line products) := by
  induction products generalizing lines with
  | nil => rfl
  | cons row rows inductionHypothesis =>
    by_cases same : line.productID = row.productId
    · have sold : row.sell (line :: lines) =
          CsvProductInfo.sell { row with quantity := row.quantity - line.quantity } lines := by
        simp only [CsvProductInfo.sell, linesFor, List.filter_cons, same, BEq.rfl, if_true,
          List.map_cons, List.sum_cons]
        congr 1
        grind
      simp [deductLine, updateFirst, sellAll, same, sold]
    · have kept : row.sell (line :: lines) = row.sell lines := by
        simp [CsvProductInfo.sell, linesFor, same]
      rw [deductLine] at inductionHypothesis
      simp [deductLine, updateFirst, sellAll, same, kept, inductionHypothesis]

/-- Every line names a row of the table. -/
def AllListed (lines : List ItemOrder) (products : List CsvProductInfo) : Prop :=
  ∀ line ∈ lines, line.productID ∈ products.map CsvProductInfo.productId

theorem findProduct_of_listed {productID : Int32} {products : List CsvProductInfo}
    (listed : productID ∈ products.map CsvProductInfo.productId)
    (update : CsvProductInfo → CsvProductInfo) :
    ∃ row, row < products.length ∧ findProduct productID products = some row ∧
      put products row (update (cell products row)) =
        updateFirst (fun row => productID == row.productId) update products := by
  obtain ⟨value, member, rfl⟩ := List.mem_map.mp listed
  obtain ⟨row, bound, located, -, -, updated⟩ := put_of_search
    (fun row : CsvProductInfo => value.productId == row.productId) update
    ⟨value, member, BEq.rfl⟩
  exact ⟨row, bound, located, updated⟩

theorem map_productId_deductLine (line : ItemOrder) (products : List CsvProductInfo) :
    (deductLine line products).map CsvProductInfo.productId =
      products.map CsvProductInfo.productId := by
  refine map_updateFirst CsvProductInfo.productId (fun row => ?_) products
  rfl

/-- The loop of `writeNewProductQuantityFromOrder` finds every product and sells it. -/
theorem deductOrder_of_allListed {lines : List ItemOrder} {products : List CsvProductInfo}
    (listed : AllListed lines products) :
    deductOrder lines products = some (sellAll lines products) := by
  induction lines generalizing products with
  | nil => rw [deductOrder, sellAll_nil]
  | cons line lines inductionHypothesis =>
    obtain ⟨row, -, located, updated⟩ := findProduct_of_listed
      (listed line List.mem_cons_self) fun row =>
        { row with quantity := row.quantity - line.quantity }
    have others : AllListed lines (deductLine line products) := by
      intro other member
      rw [map_productId_deductLine]
      exact listed other (List.mem_cons_of_mem _ member)
    rw [deductOrder, located, sellAll_cons, ← inductionHypothesis others, deductLine, ← updated]
    rfl

/-! ### What was sold -/

/-- Nothing in the table changes but the quantity of ordered products. -/
theorem sellAll_unchanged (lines : List ItemOrder) (products : List CsvProductInfo) :
    List.Forall₂ (fun before after =>
      after = { before with quantity := after.quantity } ∧
        (before.productId ∉ lines.map ItemOrder.productID → after = before))
      products (sellAll lines products) := by
  induction products generalizing lines with
  | nil => exact .nil
  | cons row rows inductionHypothesis =>
    refine .cons ⟨rfl, fun absent => ?_⟩ ((inductionHypothesis _).imp fun before after kept =>
      ⟨kept.1, fun absent => kept.2 fun member => absent ?_⟩)
    · have none : linesFor row.productId lines = [] := by
        refine List.filter_eq_nil_iff.mpr fun line member same => absent ?_
        exact List.mem_map.mpr ⟨line, member, by simpa using same⟩
      rw [CsvProductInfo.sell, none]
      simp
    · obtain ⟨line, inRest, same⟩ := List.mem_map.mp member
      exact List.mem_map.mpr ⟨line, List.mem_of_mem_filter inRest, same⟩

theorem linesFor_filter_ne {productID other : Int32} (different : productID ≠ other)
    (lines : List ItemOrder) :
    linesFor productID (lines.filter fun line => line.productID != other) =
      linesFor productID lines := by
  rw [linesFor, List.filter_filter]
  refine List.filter_congr fun line _ => ?_
  by_cases same : line.productID = productID <;> simp [same, different]

theorem linesFor_filter_self (productID : Int32) (lines : List ItemOrder) :
    linesFor productID (lines.filter fun line => line.productID != productID) = [] := by
  simp [linesFor]

theorem stock_cons (productID : Int32) (row : CsvProductInfo) (rows : List CsvProductInfo) :
    stock productID (row :: rows) =
      (if row.productId = productID then row.quantity.toInt else 0) + stock productID rows := by
  by_cases same : row.productId = productID <;> simp [stock, same]

/-- What is not ordered is not sold. -/
theorem stock_sellAll_of_unordered {productID : Int32} {lines : List ItemOrder}
    (unordered : linesFor productID lines = []) (products : List CsvProductInfo) :
    stock productID (sellAll lines products) = stock productID products := by
  induction products generalizing lines with
  | nil => rfl
  | cons row rows inductionHypothesis =>
    have rest : linesFor productID (lines.filter fun line => line.productID != row.productId) =
        [] := by
      by_cases same : productID = row.productId
      · rw [same, linesFor_filter_self]
      · rw [linesFor_filter_ne same, unordered]
    rw [sellAll, stock_cons, stock_cons, inductionHypothesis rest]
    by_cases same : row.productId = productID
    · simp [CsvProductInfo.sell, same, unordered]
    · simp [CsvProductInfo.sell, same]

/-- The stock of a product falls by what is ordered of it, provided that its first row can hold
what is left there. -/
theorem stock_sellAll {productID : Int32} {lines : List ItemOrder}
    {products : List CsvProductInfo}
    (fits : ∀ row, products.find? (fun row => row.productId == productID) = some row →
      InRange (row.quantity.toInt - ordered productID lines))
    (listed : productID ∈ lines.map ItemOrder.productID →
      productID ∈ products.map CsvProductInfo.productId) :
    stock productID (sellAll lines products) =
      stock productID products - ordered productID lines := by
  induction products generalizing lines with
  | nil =>
    have unordered : linesFor productID lines = [] := by
      refine List.filter_eq_nil_iff.mpr fun line member same => ?_
      exact absurd (listed (List.mem_map.mpr ⟨line, member, by simpa using same⟩)) (by simp)
    simp [sellAll, stock, ordered, unordered]
  | cons row rows inductionHypothesis =>
    rw [sellAll, stock_cons, stock_cons]
    by_cases same : row.productId = productID
    · subst same
      have left := fits row (by simp)
      have sold : (row.sell lines).quantity.toInt =
          row.quantity.toInt - ordered row.productId lines := by
        rw [CsvProductInfo.sell, Int32.toInt_sub, toInt_sum, Int.sub_bmod_bmod]
        exact bmod_of_inRange left
      have first : (row.sell lines).productId = row.productId := rfl
      rw [stock_sellAll_of_unordered (linesFor_filter_self row.productId lines), if_pos first,
        if_pos rfl, sold]
      omega
    · have sold : (row.sell lines).productId ≠ productID := same
      have kept : ordered productID (lines.filter fun line => line.productID != row.productId) =
          ordered productID lines := by
        rw [ordered, linesFor_filter_ne (Ne.symm same), ordered]
      have rest : stock productID
          (sellAll (lines.filter fun line => line.productID != row.productId) rows) =
            stock productID rows - ordered productID lines := by
        rw [← kept]
        refine inductionHypothesis (fun other located => ?_) fun member => ?_
        · rw [kept]
          exact fits other (by simpa [same] using located)
        · obtain ⟨line, inRest, named⟩ := List.mem_map.mp member
          have inTable := listed (List.mem_map.mpr ⟨line, List.mem_of_mem_filter inRest, named⟩)
          rcases List.mem_cons.mp inTable with head | tail
          · exact absurd head.symm same
          · exact tail
      rw [if_neg same, if_neg sold, rest]
      omega

/-! ### Validating an order -/

theorem validateOrderLine_eq (item : ItemOrder) (rows : List CsvProductInfo) (idFound : Bool) :
    validateOrderLine item rows idFound =
      if ∃ row ∈ rows, row.productId = item.productID ∧ item.quantity > row.quantity then none
      else some (idFound || rows.any fun row => row.productId == item.productID) := by
  induction rows generalizing idFound with
  | nil => simp [validateOrderLine]
  | cons row rows inductionHypothesis =>
    rw [validateOrderLine]
    by_cases same : item.productID = row.productId
    · by_cases short : item.quantity > row.quantity
      · simp [same, short]
      · rw [if_pos same, if_neg short, inductionHypothesis]
        simp [same, short]
    · have other : (row.productId == item.productID) = false := by simpa using Ne.symm same
      rw [if_neg same, inductionHypothesis]
      simp [other, Ne.symm same]

/-- What the validator demands of a line: its product is in the table, and no row of the product
has less than it asks for. -/
def Available (pList : List CsvProductInfo) (item : ItemOrder) : Prop :=
  (∃ row ∈ pList, row.productId = item.productID) ∧
    ∀ row ∈ pList, row.productId = item.productID → ¬item.quantity > row.quantity

theorem validateOrderLines_iff (pList : List CsvProductInfo) (items : List ItemOrder) :
    validateOrderLines pList items false = true ↔ ∀ item ∈ items, Available pList item := by
  induction items with
  | nil => simp [validateOrderLines]
  | cons item items inductionHypothesis =>
    rw [validateOrderLines, validateOrderLine_eq, List.forall_mem_cons, ← inductionHypothesis]
    by_cases short : ∃ row ∈ pList, row.productId = item.productID ∧ item.quantity > row.quantity
    · obtain ⟨row, member, same, less⟩ := short
      simp only [if_pos (show ∃ row ∈ pList, row.productId = item.productID ∧
        item.quantity > row.quantity from ⟨row, member, same, less⟩), Bool.false_eq_true,
        false_iff]
      exact fun both => both.1.2 row member same less
    · have enough : ∀ row ∈ pList, row.productId = item.productID →
          ¬item.quantity > row.quantity := fun row member same less =>
        short ⟨row, member, same, less⟩
      by_cases found : ∃ row ∈ pList, row.productId = item.productID
      · have any : (pList.any fun row => row.productId == item.productID) = true := by
          simpa using found
        simp only [if_neg short, any, Bool.false_or, Bool.not_true, Bool.false_eq_true, if_false]
        exact ⟨fun later => ⟨⟨found, enough⟩, later⟩, And.right⟩
      · have none : (pList.any fun row => row.productId == item.productID) = false := by
          simpa using found
        simp only [if_neg short, none, Bool.false_or, Bool.not_false, if_true,
          Bool.false_eq_true, false_iff]
        exact fun both => found both.1.1

/-- `findBuyerInClientInfo` compares the other way round. -/
theorem findBuyerInClientInfo_eq_search (buyerID : Int32) (clients : List CsvClientInfo) :
    findBuyerInClientInfo buyerID clients = search (fun row => row.uuid == buyerID) clients := by
  have turned : (fun row : CsvClientInfo => buyerID == row.uuid) =
      fun row => row.uuid == buyerID := funext fun row => Bool.beq_comm
  rw [findBuyerInClientInfo, turned]

/-- The search for an existing buyer ends at the buyer's first row. -/
theorem findBuyerInClientInfo_of_find? {buyerID : Int32} {clients : List CsvClientInfo}
    {buyerData : CsvClientInfo}
    (existing : clients.find? (fun row => row.uuid == buyerID) = some buyerData) :
    ∃ row, findBuyerInClientInfo buyerID clients = some row ∧ cell clients row = buyerData := by
  obtain ⟨row, -, located, data⟩ := search_of_find? existing
  exact ⟨row, by rw [findBuyerInClientInfo_eq_search, located], data⟩

theorem rows_eq_self {file : DbFile} {table : List file.Row}
    (ended : ∀ row ∈ table, file.key row ≠ 0) : file.rows table = table :=
  records_eq_self fun row member => by simpa [DbFile.isEnd] using ended row member

theorem orderRows_eq_self {orderList : List ItemOrder}
    (ended : ∀ item ∈ orderList, item.productID ≠ 0) : orderRows orderList = orderList :=
  records_eq_self fun item member => by simpa using ended item member

/-- A zeroed row is no row of a named product. -/
theorem available_append_default {rows : List CsvProductInfo} {item : ItemOrder}
    (named : item.productID ≠ 0) : Available (rows ++ [default]) item ↔ Available rows item := by
  have blank : (default : CsvProductInfo).productId ≠ item.productID := named.symm
  simp [Available, or_and_right, exists_or, or_imp, forall_and, blank]

/-- The zeroed line asks for the zeroed row only. -/
theorem available_default {rows : List CsvProductInfo}
    (ended : ∀ row ∈ rows, row.productId ≠ 0) : Available (rows ++ [default]) default := by
  refine ⟨⟨default, List.mem_append_right _ (List.mem_singleton.mpr rfl), rfl⟩,
    fun row member same => ?_⟩
  rcases List.mem_append.mp member with inRows | blank
  · exact absurd same (ended row inRows)
  · rw [List.mem_singleton.mp blank]
    decide

/-- The pass through the zeroed rows after the last ones changes nothing. -/
theorem validateOrderLines_append_default {rows : List CsvProductInfo} {items : List ItemOrder}
    (ended : ∀ row ∈ rows, row.productId ≠ 0) (named : ∀ item ∈ items, item.productID ≠ 0) :
    validateOrderLines (rows ++ [default]) (items ++ [default]) false =
      validateOrderLines rows items false := by
  rw [Bool.eq_iff_iff, validateOrderLines_iff, validateOrderLines_iff, List.forall_mem_append,
    List.forall_mem_singleton]
  constructor
  · intro both item member
    exact (available_append_default (named item member)).mp (both.1 item member)
  · intro available
    exact ⟨fun item member => (available_append_default (named item member)).mpr
      (available item member), available_default ended⟩

/-- Every line is decided on its own, with the flag cleared. -/
theorem validateOrderLines_eq_all (rows : List CsvProductInfo) (items : List ItemOrder) :
    validateOrderLines rows items false =
      items.all fun item => validateOrderLine item rows false == some true := by
  induction items with
  | nil => rfl
  | cons item items inductionHypothesis =>
    rw [validateOrderLines, List.all_cons, ← inductionHypothesis]
    cases validateOrderLine item rows false with
    | none => rfl
    | some idFound => cases idFound <;> rfl

/-- Both lists end at a zeroed row, so the loops see no more than the rows before it. -/
theorem validateBuyerOrder_eq {orderList : List ItemOrder} {pList : List CsvProductInfo}
    (orderEnd : cell orderList (orderRows orderList).length = default)
    (tableEnd : cell pList (DbFile.rows .ProductInfo pList).length = default) :
    validateBuyerOrder orderList pList =
      validateOrderLines (DbFile.rows .ProductInfo pList) (orderRows orderList) false := by
  have ended : ∀ row ∈ DbFile.rows .ProductInfo pList, row.productId ≠ 0 := fun row member => by
    simpa [DbFile.isEnd, DbFile.key] using stop_of_mem_records member
  have named : ∀ item ∈ orderRows orderList, item.productID ≠ 0 := fun item member => by
    simpa using stop_of_mem_records member
  have rows := map_cell_range_records (DbFile.isEnd .ProductInfo) pList
  have items := map_cell_range_records (fun item : ItemOrder => item.productID == 0) orderList
  rw [← DbFile.rows, tableEnd] at rows
  rw [← orderRows, orderEnd] at items
  rw [validateBuyerOrder, rows, items, validateOrderLines_append_default ended named]

theorem validateBuyerOrder_iff {orderList : List ItemOrder} {pList : List CsvProductInfo}
    (lines : ∀ item ∈ orderList, item.productID ≠ 0)
    (ended : ∀ row ∈ pList, row.productId ≠ 0) :
    validateBuyerOrder orderList pList = true ↔ ∀ item ∈ orderList, Available pList item := by
  have items := orderRows_eq_self lines
  have rows : DbFile.rows .ProductInfo pList = pList := rows_eq_self ended
  rw [validateBuyerOrder_eq (by rw [items, cell_of_le (Nat.le_refl _)])
    (by rw [rows, cell_of_le (Nat.le_refl _)]), items, rows, validateOrderLines_iff]

/-- The validator decides line by line whether the product is in the table and no row of it has
less than the line asks for. The passes through the two zeroed rows do not count, and no line is
decided by what the flag was left at by another one. -/
theorem validateBuyerOrder_decides {orderList : List ItemOrder} {pList : List CsvProductInfo}
    (orderEnd : cell orderList (orderRows orderList).length = default)
    (tableEnd : cell pList (DbFile.rows .ProductInfo pList).length = default) :
    (validateBuyerOrder orderList pList = true ↔
        ∀ item ∈ orderRows orderList, Available (DbFile.rows .ProductInfo pList) item) ∧
      validateBuyerOrder orderList pList = (orderRows orderList).all fun item =>
        validateOrderLine item (DbFile.rows .ProductInfo pList) false == some true := by
  rw [validateBuyerOrder_eq orderEnd tableEnd]
  exact ⟨validateOrderLines_iff _ _, validateOrderLines_eq_all _ _⟩

/-- An order list with a product twice and something left behind the zeroed row. -/
def pensTwice : List ItemOrder :=
  [⟨2004, 5, 3⟩, ⟨2004, 400, 3⟩, default, ⟨9, 9, 9⟩]

/-- The shipped products with something left behind the zeroed row. -/
def productsAndHat : List CsvProductInfo :=
  shippedTables .ProductInfo ++ [default, ⟨9, field "hat", 1000, 1, 1⟩]

theorem validateBuyerOrder_decides_pensTwice :
    (validateBuyerOrder pensTwice productsAndHat = true ↔
        ∀ item ∈ orderRows pensTwice, Available (DbFile.rows .ProductInfo productsAndHat) item) ∧
      validateBuyerOrder pensTwice productsAndHat = (orderRows pensTwice).all fun item =>
        validateOrderLine item (DbFile.rows .ProductInfo productsAndHat) false == some true :=
  validateBuyerOrder_decides (by decide) (by decide)

/-- Every line of an accepted order names a row of the table, whatever stands after the rows at
which the scans end. -/
theorem allListed_orderRows {orderList : List ItemOrder} {products : List CsvProductInfo}
    (accepted : validateBuyerOrder orderList products = true) :
    AllListed (orderRows orderList) products := by
  intro line member
  obtain ⟨place, bound, rfl⟩ := exists_cell_of_mem_records member
  rw [validateBuyerOrder, validateOrderLines_iff] at accepted
  obtain ⟨⟨row, inRows, same⟩, -⟩ := accepted (cell orderList place)
    (List.mem_map_of_mem (List.mem_range.mpr (Nat.lt_succ_of_lt bound)))
  obtain ⟨number, -, rfl⟩ := List.mem_map.mp inRows
  by_cases inside : number < products.length
  · rw [cell_of_lt inside] at same
    exact List.mem_map.mpr ⟨_, List.getElem_mem inside, same⟩
  · rw [cell_of_le (Nat.le_of_not_lt inside)] at same
    have named := stop_of_mem_records member
    rw [← same] at named
    cases named

theorem allListed_of_accepted {lines : List ItemOrder} {products : List CsvProductInfo}
    (named : ∀ line ∈ lines, line.productID ≠ 0)
    (accepted : validateBuyerOrder lines products = true) : AllListed lines products := by
  have listed := allListed_orderRows accepted
  rwa [orderRows_eq_self named] at listed

/-! ### An order as a whole -/

/-- The order leaves every quantity, every price and the total within 32 bits. -/
structure OrderFits (lines : List ItemOrder) (products : List CsvProductInfo) : Prop where
  stock : ∀ productID row, products.find? (fun row => row.productId == productID) = some row →
    InRange (row.quantity.toInt - ordered productID lines)
  price : ∀ line ∈ lines, InRange (line.quantity.toInt * line.itemCostPerUnit.toInt)
  total : InRange (lines.map fun line =>
    line.quantity.toInt * line.itemCostPerUnit.toInt).sum

/-- Every search of the deduction loop ends at a row of the table, whatever the lines before it
have done to the table. -/
def SearchesEnd (lines : List ItemOrder) (products : List CsvProductInfo) : Prop :=
  ∀ before line after, lines = before ++ line :: after →
    ∃ pList row, deductOrder before products = some pList ∧
      findProduct line.productID pList = some row ∧ row < products.length

/-- The data of a buyer that the rows of an order carry a copy of. -/
structure Personal where
  firstName : Chars
  lastName : Chars
  streetAddress : Chars
  city : Chars
  state : Chars
  zipCode : Chars
  deriving DecidableEq

def CsvClientInfo.personal (row : CsvClientInfo) : Personal :=
  ⟨row.firstName, row.lastName, row.streetAddress, row.city, row.state, row.zipCode⟩

def CsvBillingInfo.personal (row : CsvBillingInfo) : Personal :=
  ⟨row.firstName, row.lastName, row.streetAddress, row.city, row.state, row.zipCode⟩

def CsvCustomerOrderInfo.personal (row : CsvCustomerOrderInfo) : Personal :=
  ⟨row.firstName, row.lastName, row.streetAddress, row.city, row.state, row.zipCode⟩

/-- The account of an accepted order: what the tables handed over have to do with the lines. -/
structure Accounted (lines : List ItemOrder) (products : List CsvProductInfo)
    (buyerData : CsvClientInfo) (deducted : List CsvProductInfo) (bill : CsvBillingInfo)
    (appended : List CsvCustomerOrderInfo) : Prop where
  sold : ∀ productID,
    stock productID deducted = stock productID products - ordered productID lines
  unchanged : List.Forall₂ (fun before after =>
    after = { before with quantity := after.quantity } ∧
      (before.productId ∉ lines.map ItemOrder.productID → after = before)) products deducted
  billed : bill.customerId = buyerData.uuid ∧ bill.personal = buyerData.personal
  rows : List.Forall₂ (fun line row =>
    row.orderId = bill.orderId ∧ row.productId = line.productID ∧
      row.quantityPurchased = line.quantity ∧
      row.totalPrice.toInt = line.quantity.toInt * line.itemCostPerUnit.toInt ∧
      row.personal = buyerData.personal) lines appended
  total : bill.totalOrderCost.toInt = (appended.map fun row => row.totalPrice.toInt).sum

theorem searchesEnd_of_allListed {lines : List ItemOrder} {products : List CsvProductInfo}
    (listed : AllListed lines products) : SearchesEnd lines products := by
  rintro before line after rfl
  have soFar : AllListed before products := fun other member =>
    listed other (List.mem_append_left _ member)
  have there : line.productID ∈ (sellAll before products).map CsvProductInfo.productId := by
    rw [map_productId_sellAll]
    exact listed line (List.mem_append_right _ List.mem_cons_self)
  have extent : (sellAll before products).length = products.length := by
    simpa using congrArg List.length (map_productId_sellAll before products)
  obtain ⟨row, bound, located, -⟩ := findProduct_of_listed there id
  exact ⟨_, row, deductOrder_of_allListed soFar, located, extent ▸ bound⟩

/-- The sum that `writeOrderToBillingInfo` accumulates. -/
theorem toInt_orderCost {lines : List ItemOrder} (named : ∀ line ∈ lines, line.productID ≠ 0)
    (price : ∀ line ∈ lines, InRange (line.quantity.toInt * line.itemCostPerUnit.toInt))
    (total : InRange (lines.map fun line =>
      line.quantity.toInt * line.itemCostPerUnit.toInt).sum) :
    (orderCost lines).toInt =
      (lines.map fun line => line.quantity.toInt * line.itemCostPerUnit.toInt).sum := by
  have accumulated (items : List ItemOrder) (start : Int32) :
      items.foldl (fun totalOrderCost item =>
        totalOrderCost + item.quantity * item.itemCostPerUnit) start =
        start + (items.map fun item => item.quantity * item.itemCostPerUnit).sum := by
    induction items generalizing start with
    | nil => simp
    | cons item items inductionHypothesis =>
      rw [List.foldl_cons, inductionHypothesis, List.map_cons, List.sum_cons, Int32.add_assoc]
  have each : (lines.map fun line => (line.quantity * line.itemCostPerUnit).toInt) =
      lines.map fun line => line.quantity.toInt * line.itemCostPerUnit.toInt :=
    List.map_congr_left fun line member => by
      rw [Int32.toInt_mul, bmod_of_inRange (price line member)]
  rw [orderCost, orderRows_eq_self named, accumulated, Int32.zero_add, toInt_sum, each,
    bmod_of_inRange total]

/-- The cost of a line, without a wraparound. -/
theorem totalPrice_customerOrderRow (orderID : Int32) (buyerData : CsvClientInfo)
    {line : ItemOrder} (price : InRange (line.quantity.toInt * line.itemCostPerUnit.toInt)) :
    (customerOrderRow orderID buyerData line).totalPrice.toInt =
      line.quantity.toInt * line.itemCostPerUnit.toInt := by
  rw [customerOrderRow, Int32.toInt_mul, bmod_of_inRange price]

/-- A bill is the sum of the rows of its order. -/
theorem totalOrderCost_billingRow (orderID : Int32) (buyerData : CsvClientInfo)
    {lines : List ItemOrder} (named : ∀ line ∈ lines, line.productID ≠ 0)
    (price : ∀ line ∈ lines, InRange (line.quantity.toInt * line.itemCostPerUnit.toInt))
    (total : InRange (lines.map fun line =>
      line.quantity.toInt * line.itemCostPerUnit.toInt).sum) :
    (billingRow orderID buyerData (orderCost lines)).totalOrderCost.toInt =
      ((lines.map (customerOrderRow orderID buyerData)).map fun row =>
        row.totalPrice.toInt).sum := by
  rw [billingRow, toInt_orderCost named price total, List.map_map]
  refine congrArg List.sum (List.map_congr_left fun line member => ?_)
  exact (totalPrice_customerOrderRow orderID buyerData (price line member)).symm

theorem accounted_of_accepted {lines : List ItemOrder} {products : List CsvProductInfo}
    (orderID : Int32) (buyerData : CsvClientInfo) (named : ∀ line ∈ lines, line.productID ≠ 0)
    (listed : AllListed lines products) (fits : OrderFits lines products) :
    Accounted lines products buyerData (sellAll lines products)
      (billingRow orderID buyerData (orderCost lines))
      (lines.map (customerOrderRow orderID buyerData)) where
  sold productID := stock_sellAll (fits.stock productID) fun member => by
    obtain ⟨line, inLines, rfl⟩ := List.mem_map.mp member
    exact listed line inLines
  unchanged := sellAll_unchanged lines products
  billed := ⟨rfl, rfl⟩
  rows := by
    rw [List.forall₂_map_right_iff, List.forall₂_same]
    intro line member
    exact ⟨rfl, rfl, rfl,
      totalPrice_customerOrderRow orderID buyerData (fits.price line member), rfl⟩
  total := totalOrderCost_billingRow orderID buyerData named fits.price fits.total

/-! ### Decoding -/

/-- The lines that `extractBuyerOrder` finds have products. -/
theorem productID_ne_zero_of_extractOrderLines {texts : List Text} {lines : List ItemOrder}
    (decoded : extractOrderLines texts = some lines) : ∀ line ∈ lines, line.productID ≠ 0 := by
  fun_induction extractOrderLines texts generalizing lines with
  | case1 => cases decoded
  | case2 =>
    cases decoded
    exact fun line member => absurd member List.not_mem_nil
  | case3 productID nonzero quantity price rest inductionHypothesis =>
    obtain ⟨items, later, built⟩ := Option.bind_eq_some_iff.mp decoded
    cases built
    intro line member
    rcases List.mem_cons.mp member with rfl | others
    · exact nonzero
    · exact inductionHypothesis later line others
  | case4 => cases decoded

theorem completeAnOrder_eq {rand : Rand} {buffer rest : Text} {buyerID : Int32}
    {lines : List ItemOrder} (buyer : extractBuyer buffer = some (buyerID, rest))
    (order : extractBuyerOrder rest = some lines) :
    completeAnOrder rand buffer = completeOrder rand buyerID lines := by
  rw [completeAnOrder, buyer]
  simp only [orCrash, pure_bind, order]

section Order

variable {Store : Type} (backing : Backing Store) (rand : Rand) (now : Nat) (world : World Store)

/-- An order that is rejected hands no table to a write-back. One that is accepted hands over
the product table, the billing table with one more row and the CustomerOrder table with one more
row for every line, and they account for the order. -/
theorem completeAnOrder_accounts {buffer rest : Text} {buyerID : Int32}
    {lines : List ItemOrder} {buyerData : CsvClientInfo} {products : List CsvProductInfo}
    {clients : List CsvClientInfo} {billing : List CsvBillingInfo}
    {orders : List CsvCustomerOrderInfo}
    (buyer : extractBuyer buffer = some (buyerID, rest))
    (order : extractBuyerOrder rest = some lines)
    (loaded : Loaded backing world clients products billing orders)
    (existing : clients.find? (fun row => row.uuid == buyerID) = some buyerData)
    (fits : OrderFits lines products) :
    (validateBuyerOrder lines products = false →
      ∃ final, (completeAnOrder rand buffer).run (exec backing now) world = some ((), final) ∧
        final.handed = world.handed) ∧
    (validateBuyerOrder lines products = true →
      SearchesEnd lines products ∧
        ∃ final deducted bill appended,
          (completeAnOrder rand buffer).run (exec backing now) world = some ((), final) ∧
          final.handed = world.handed ++ [⟨.ProductInfo, deducted⟩,
            ⟨.BillingInfo, billing ++ [bill]⟩, ⟨.CustomerOrder, orders ++ appended⟩] ∧
          Accounted lines products buyerData deducted bill appended) := by
  have named := productID_ne_zero_of_extractOrderLines order
  rw [completeAnOrder_eq buyer order]
  constructor
  · intro rejected
    exact ⟨_, run_completeOrder_rejected backing rand now world buyerID loaded.loadsProducts
      rejected, rfl⟩
  · intro accepted
    have listed := allListed_of_accepted named accepted
    obtain ⟨row, found, data⟩ := findBuyerInClientInfo_of_find? existing
    have ran := run_completeOrder_accepted backing rand now world buyerID
      loaded.loadsProducts accepted loaded.loadsClients loaded.loadsBilling loaded.loadsOrders
    rw [found, orderRows_eq_self named, deductOrder_of_allListed listed, Option.bind_some,
      Option.map_some, data] at ran
    refine ⟨searchesEnd_of_allListed listed, _, _, _, _, ran, ?_,
      accounted_of_accepted (uidAt rand now) buyerData named listed fits⟩
    have bills : DbFile.rows .BillingInfo billing = billing := rows_eq_self loaded.billingEnds
    have rows : DbFile.rows .CustomerOrder orders = orders := rows_eq_self loaded.ordersEnd
    rw [World.handOrder_handed, billedTable, orderedTable, bills, rows, put_length, putAll_length,
      orderRows_eq_self named]

end Order

/-- A small database: two buyers, one product and one order of it. -/
def sampleTables : Tables
  | .CustomerInfo =>
    [{ (default : CsvClientInfo) with uuid := 1000, firstName := ⟨['A'], by decide⟩ },
      { (default : CsvClientInfo) with uuid := 1001, firstName := ⟨['B'], by decide⟩ }]
  | .SellerInfo => []
  | .ProductInfo => [{ (default : CsvProductInfo) with productId := 2000, quantity := 5 }]
  | .BillingInfo =>
    [{ (default : CsvBillingInfo) with
      orderId := 3000, customerId := 1000, firstName := ⟨['A'], by decide⟩, totalOrderCost := 3 }]
  | .CustomerOrder =>
    [{ (default : CsvCustomerOrderInfo) with
      orderId := 3000, productId := 2000, quantityPurchased := 1, firstName := ⟨['A'], by decide⟩,
      totalPrice := 3 }]

theorem loaded_sampleTables : Loaded tableBacking ⟨sampleTables, [], [], []⟩
    (sampleTables .CustomerInfo) (sampleTables .ProductInfo) (sampleTables .BillingInfo)
    (sampleTables .CustomerOrder) where
  loadsClients := rfl
  loadsProducts := rfl
  loadsBilling := rfl
  loadsOrders := rfl
  productsEnd := by decide
  billingEnds := by decide
  ordersEnd := by decide

/-- An order of two lines for one product is accounted for. -/
theorem completeAnOrder_accounts_repeated :
    ∃ final deducted bill appended,
      (completeAnOrder (fun _ => 0) "1001,2000,2,3,2000,1,3,0,\n".toList).run
        (exec tableBacking 0) ⟨sampleTables, [], [], []⟩ = some ((), final) ∧
      final.handed = [⟨.ProductInfo, deducted⟩,
        ⟨.BillingInfo, sampleTables .BillingInfo ++ [bill]⟩,
        ⟨.CustomerOrder, sampleTables .CustomerOrder ++ appended⟩] ∧
      Accounted [⟨2000, 2, 3⟩, ⟨2000, 1, 3⟩] (sampleTables .ProductInfo)
        (cell (sampleTables .CustomerInfo) 1) deducted bill appended := by
  have buyer : extractBuyer "1001,2000,2,3,2000,1,3,0,\n".toList =
      some (1001, "2000,2,3,2000,1,3,0,\n\n".toList) := by decide +kernel
  have order : extractBuyerOrder "2000,2,3,2000,1,3,0,\n\n".toList =
      some [⟨2000, 2, 3⟩, ⟨2000, 1, 3⟩] := by decide +kernel
  have fits : OrderFits [⟨2000, 2, 3⟩, ⟨2000, 1, 3⟩] (sampleTables .ProductInfo) := by
    refine ⟨fun productID row found => ?_, by decide +kernel, by decide +kernel⟩
    obtain rfl := List.mem_singleton.mp (List.mem_of_find?_eq_some found)
    obtain rfl : (2000 : Int32) = productID := by simpa using List.find?_some found
    decide +kernel
  exact ((completeAnOrder_accounts tableBacking (fun _ => 0) 0 ⟨sampleTables, [], [], []⟩ buyer
    order loaded_sampleTables (by decide +kernel) fits).2 (by decide +kernel)).2

end OnlineStore
