/-
This file models the database: the five text files, the rows of their tables, the loaders that
parse a file into a table and the write-back functions that print a table into a file.

Rows of the write-back functions are printed field by field with `intToCharArray` and `strcat`.
The number of rows printed is not the number of rows of the table: it is one more than the
number of newlines of the file that is about to be replaced.
-/

import OnlineStore.RecordFile

namespace OnlineStore

open CString Cells

/-! ### The tables -/

/-- A text field of a table. -/
abbrev Chars := CharArray 20

structure CsvClientInfo where
  uuid : Int32
  firstName : Chars
  lastName : Chars
  streetAddress : Chars
  city : Chars
  state : Chars
  zipCode : Chars
  phoneNumber : Chars
  deriving DecidableEq

structure CsvProductInfo where
  productId : Int32
  productName : Chars
  sellerId : Int32
  quantity : Int32
  price : Int32
  deriving DecidableEq

structure CsvBillingInfo where
  orderId : Int32
  customerId : Int32
  firstName : Chars
  lastName : Chars
  streetAddress : Chars
  city : Chars
  state : Chars
  zipCode : Chars
  totalOrderCost : Int32
  deriving DecidableEq

structure CsvCustomerOrderInfo where
  orderId : Int32
  productId : Int32
  quantityPurchased : Int32
  firstName : Chars
  lastName : Chars
  streetAddress : Chars
  city : Chars
  state : Chars
  zipCode : Chars
  totalPrice : Int32
  deriving DecidableEq

/-- One line of an order: the product, how many of it, and the price the request gives. -/
structure ItemOrder where
  productID : Int32
  quantity : Int32
  itemCostPerUnit : Int32
  deriving DecidableEq

/-- The zeroed rows. -/
instance : Inhabited CsvClientInfo :=
  ⟨{ uuid := 0, firstName := default, lastName := default, streetAddress := default,
     city := default, state := default, zipCode := default, phoneNumber := default }⟩

instance : Inhabited CsvProductInfo :=
  ⟨{ productId := 0, productName := default, sellerId := 0, quantity := 0, price := 0 }⟩

instance : Inhabited CsvBillingInfo :=
  ⟨{ orderId := 0, customerId := 0, firstName := default, lastName := default,
     streetAddress := default, city := default, state := default, zipCode := default,
     totalOrderCost := 0 }⟩

instance : Inhabited CsvCustomerOrderInfo :=
  ⟨{ orderId := 0, productId := 0, quantityPurchased := 0, firstName := default,
     lastName := default, streetAddress := default, city := default, state := default,
     zipCode := default, totalPrice := 0 }⟩

instance : Inhabited ItemOrder :=
  ⟨{ productID := 0, quantity := 0, itemCostPerUnit := 0 }⟩

/-- The database files. -/
inductive DbFile where
  | CustomerInfo
  | SellerInfo
  | ProductInfo
  | BillingInfo
  | CustomerOrder
  deriving DecidableEq

/-- The rows of a file's table. -/
abbrev DbFile.Row : DbFile → Type
  | .CustomerInfo => CsvClientInfo
  | .SellerInfo => CsvClientInfo
  | .ProductInfo => CsvProductInfo
  | .BillingInfo => CsvBillingInfo
  | .CustomerOrder => CsvCustomerOrderInfo

instance (file : DbFile) : Inhabited file.Row :=
  match file with
  | .CustomerInfo => inferInstanceAs (Inhabited CsvClientInfo)
  | .SellerInfo => inferInstanceAs (Inhabited CsvClientInfo)
  | .ProductInfo => inferInstanceAs (Inhabited CsvProductInfo)
  | .BillingInfo => inferInstanceAs (Inhabited CsvBillingInfo)
  | .CustomerOrder => inferInstanceAs (Inhabited CsvCustomerOrderInfo)

instance (file : DbFile) : DecidableEq file.Row :=
  match file with
  | .CustomerInfo => inferInstanceAs (DecidableEq CsvClientInfo)
  | .SellerInfo => inferInstanceAs (DecidableEq CsvClientInfo)
  | .ProductInfo => inferInstanceAs (DecidableEq CsvProductInfo)
  | .BillingInfo => inferInstanceAs (DecidableEq CsvBillingInfo)
  | .CustomerOrder => inferInstanceAs (DecidableEq CsvCustomerOrderInfo)

/-- The id by which the rows of a table are scanned. -/
def DbFile.key : (file : DbFile) → file.Row → Int32
  | .CustomerInfo => CsvClientInfo.uuid
  | .SellerInfo => CsvClientInfo.uuid
  | .ProductInfo => CsvProductInfo.productId
  | .BillingInfo => CsvBillingInfo.orderId
  | .CustomerOrder => CsvCustomerOrderInfo.orderId

/-- A zero id ends every scan of a table. -/
def DbFile.isEnd (file : DbFile) (row : file.Row) : Bool :=
  file.key row == 0

/-- The rows that the scans of a table see. -/
def DbFile.rows (file : DbFile) (table : List file.Row) : List file.Row :=
  records file.isEnd table

/-! ### Printing numbers -/

/-- The character that the `switch` of `intToCharArray` stores for a remainder. The `default`
case, which is taken for every negative remainder, stores nothing. -/
def digitChar (remainder : Int) : Text :=
  if remainder = 0 then ['0'] else
  if remainder = 1 then ['1'] else
  if remainder = 2 then ['2'] else
  if remainder = 3 then ['3'] else
  if remainder = 4 then ['4'] else
  if remainder = 5 then ['5'] else
  if remainder = 6 then ['6'] else
  if remainder = 7 then ['7'] else
  if remainder = 8 then ['8'] else
  if remainder = 9 then ['9'] else []

/-- The loop of `intToCharArray`, which stores the digits of `temp` from the last one on. The
division truncates, so the magnitude of `temp` bounds the number of rounds. -/
def digitLoop : Nat → Int → Text
  | 0, _ => []
  | rounds + 1, temp =>
    if temp = 0 then []
    else digitChar (temp.tmod 10) ++ digitLoop rounds (temp.tdiv 10)

/-- `intToCharArray`, with the reversal at its end. -/
def intToCharArray (change : Int32) : Text :=
  (digitLoop change.toInt.natAbs change.toInt).reverse

/-! ### Layouts -/

/-- `loadClientInfo` and `writeBackClientStruct`. -/
def clientLayout : Layout CsvClientInfo where
  fields row :=
    [intToCharArray row.uuid, row.firstName.val, row.lastName.val, row.phoneNumber.val,
      row.streetAddress.val, row.city.val, row.state.val, row.zipCode.val]
  read
    | uuid :: firstName :: lastName :: phoneNumber :: streetAddress :: city :: state ::
        zipCode :: _ => do
      return {
        uuid := atoi uuid
        firstName := ← strcpy 20 firstName
        lastName := ← strcpy 20 lastName
        phoneNumber := ← strcpy 20 phoneNumber
        streetAddress := ← strcpy 20 streetAddress
        city := ← strcpy 20 city
        state := ← strcpy 20 state
        zipCode := ← strcpy 20 zipCode }
    | _ => none

/-- `loadProductInfo` and `writeBackProductStruct`. -/
def productLayout : Layout CsvProductInfo where
  fields row :=
    [intToCharArray row.productId, row.productName.val, intToCharArray row.sellerId,
      intToCharArray row.quantity, intToCharArray row.price]
  read
    | productId :: productName :: sellerId :: quantity :: price :: _ => do
      return {
        productId := atoi productId
        productName := ← strcpy 20 productName
        sellerId := atoi sellerId
        quantity := atoi quantity
        price := atoi price }
    | _ => none

/-- `loadBillingInfo` and `writeBackBillingStruct`. -/
def billingLayout : Layout CsvBillingInfo where
  fields row :=
    [intToCharArray row.orderId, intToCharArray row.customerId, row.firstName.val,
      row.lastName.val, row.streetAddress.val, row.city.val, row.state.val, row.zipCode.val,
      intToCharArray row.totalOrderCost]
  read
    | orderId :: customerId :: firstName :: lastName :: streetAddress :: city :: state ::
        zipCode :: totalOrderCost :: _ => do
      return {
        orderId := atoi orderId
        customerId := atoi customerId
        firstName := ← strcpy 20 firstName
        lastName := ← strcpy 20 lastName
        streetAddress := ← strcpy 20 streetAddress
        city := ← strcpy 20 city
        state := ← strcpy 20 state
        zipCode := ← strcpy 20 zipCode
        totalOrderCost := atoi totalOrderCost }
    | _ => none

/-- `loadCustomerOrderInfo` and `writeBackCustomerOrderStruct`. -/
def customerOrderLayout : Layout CsvCustomerOrderInfo where
  fields row :=
    [intToCharArray row.orderId, intToCharArray row.productId,
      intToCharArray row.quantityPurchased, row.firstName.val, row.lastName.val,
      row.streetAddress.val, row.city.val, row.state.val, row.zipCode.val,
      intToCharArray row.totalPrice]
  read
    | orderId :: productId :: quantityPurchased :: firstName :: lastName :: streetAddress ::
        city :: state :: zipCode :: totalPrice :: _ => do
      return {
        orderId := atoi orderId
        productId := atoi productId
        quantityPurchased := atoi quantityPurchased
        firstName := ← strcpy 20 firstName
        lastName := ← strcpy 20 lastName
        streetAddress := ← strcpy 20 streetAddress
        city := ← strcpy 20 city
        state := ← strcpy 20 state
        zipCode := ← strcpy 20 zipCode
        totalPrice := atoi totalPrice }
    | _ => none

def DbFile.layout : (file : DbFile) → Layout file.Row
  | .CustomerInfo => clientLayout
  | .SellerInfo => clientLayout
  | .ProductInfo => productLayout
  | .BillingInfo => billingLayout
  | .CustomerOrder => customerOrderLayout

/-- The table that a loader reads from the text of its file; there is none when a row lacks a
token or a token overflows its field. -/
def DbFile.load (file : DbFile) (text : Text) : Option (List file.Row) :=
  file.layout.load 200 text

/-- The number of newlines that a write-back function counts. It reads into a `char`, so a byte 255
would end the count like the end of the file; texts are taken to hold none. -/
def newlines (text : Text) : Nat :=
  text.count '\n'

/-- The text that a write-back function prints in place of the old text of its file. -/
def DbFile.putBack (file : DbFile) (old : Text) (table : List file.Row) : Text :=
  file.layout.putBack (newlines old + 1) table

/-! ### The files as shipped -/

/-- The lines of the shipped files. -/
def shippedLines : DbFile → List String
  | .CustomerInfo => [
      "1000,Jeff,Roden,(405)929-0001,1234 Street st.,Edmond,OK,73034,",
      "1001,Dick,Dickerson,(512)456-0001,3001 Dickle Dr.,Boulder,CO,87033,",
      "1002,Peter,Parker,(615)205-0002,3243 Spadermen Lane,NYC,New York,9092,",
      "1003,Bruce,Wayne,(569)653-0303,1 Cave way,Gotham City,NY, 9095,"]
  | .SellerInfo => [
      "1000,Bob,Boberson,(125)754-2020,1234 Street st.,Berkley,CA,45456,",
      "1001,Tony,Stark,(987)929-5462,3001 Avenger Tower,NYC,NY,87033,",
      "1002,Bruce,Banner,(526)929-8974,56 Greenway,Smashville,TN,9092,",
      "1003,Lois,Lane,(405)288-6565,132 Carter,Tulsa,OK,73034,"]
  | .ProductInfo => [
      "2000,Grappling Hook,1001,200,20,",
      "2001,warp core,1001,300,10000,",
      "2002,apples,1000,2000,1,",
      "2003,bananas,1000,3000,2,",
      "2004,pen,1003,400,3,",
      "2005,camera,1003,150,1000,",
      "2006,meditation tape,1002,200,10,",
      "2007,purple pants,1002,300,12,"]
  | .BillingInfo => [
      "3000,1001,Bruce,Wayne,1 Cave way,Gotham City,NY,9095,430,",
      "3001,1002,Peter,Parker,3243 Spadermen Lane, NYC, New York, 9092,20005,",
      "3002,1003,Dick,Dickerson,3001 Dickle Dr.,Boulder,CO,87033,10,",
      "3003,1002,Peter,Parker,3243 Spadermen Lane, NYC, New York, 9092,100,"]
  | .CustomerOrder => [
      "3000,2000,20,Bruce,Wayne,1 Cave way,Gotham City,NY,9095,400,",
      "3000,2002,30,Bruce,Wayne,1 Cave way,Gotham City,NY,9095,30,",
      "3001,2004,10,Peter,Parker,3243 Spadermen Lane,NYC,New York,9092,30,",
      "3001,2001,2,Peter,Parker,3243 Spadermen Lane,NYC,New York,9092,20000,",
      "3002,2006,1,Dick,Dickerson,3001 Dickle Dr.,Boulder,CO,87033,10,",
      "3003,2006,4,Peter,Parker,3243 Spadermen Lane,NYC,New York,9092,40,",
      "3003,2007,5,Peter,Parker,3243 Spadermen Lane,NYC,New York,9092,60,"]

/-- A shipped file. Its last line is not ended by a newline. -/
def shippedFile (file : DbFile) : Text :=
  List.intercalate ['\n'] ((shippedLines file).map String.toList)

/-- A text column as it is given in a table. -/
def field (text : String) : Chars :=
  (strcpy 20 text.toList).getD default

/-- The tables that are read from the shipped files. -/
def shippedTables : (file : DbFile) → List file.Row
  | .CustomerInfo => [
      ⟨1000, field "Jeff", field "Roden", field "1234 Street st.", field "Edmond", field "OK",
        field "73034", field "(405)929-0001"⟩,
      ⟨1001, field "Dick", field "Dickerson", field "3001 Dickle Dr.", field "Boulder", field "CO",
        field "87033", field "(512)456-0001"⟩,
      ⟨1002, field "Peter", field "Parker", field "3243 Spadermen Lane", field "NYC", field "New York",
        field "9092", field "(615)205-0002"⟩,
      ⟨1003, field "Bruce", field "Wayne", field "1 Cave way", field "Gotham City", field "NY",
        field " 9095", field "(569)653-0303"⟩]
  | .SellerInfo => [
      ⟨1000, field "Bob", field "Boberson", field "1234 Street st.", field "Berkley", field "CA",
        field "45456", field "(125)754-2020"⟩,
      ⟨1001, field "Tony", field "Stark", field "3001 Avenger Tower", field "NYC", field "NY",
        field "87033", field "(987)929-5462"⟩,
      ⟨1002, field "Bruce", field "Banner", field "56 Greenway", field "Smashville", field "TN",
        field "9092", field "(526)929-8974"⟩,
      ⟨1003, field "Lois", field "Lane", field "132 Carter", field "Tulsa", field "OK",
        field "73034", field "(405)288-6565"⟩]
  | .ProductInfo => [
      ⟨2000, field "Grappling Hook", 1001, 200, 20⟩,
      ⟨2001, field "warp core", 1001, 300, 10000⟩,
      ⟨2002, field "apples", 1000, 2000, 1⟩,
      ⟨2003, field "bananas", 1000, 3000, 2⟩,
      ⟨2004, field "pen", 1003, 400, 3⟩,
      ⟨2005, field "camera", 1003, 150, 1000⟩,
      ⟨2006, field "meditation tape", 1002, 200, 10⟩,
      ⟨2007, field "purple pants", 1002, 300, 12⟩]
  | .BillingInfo => [
      ⟨3000, 1001, field "Bruce", field "Wayne", field "1 Cave way",
        field "Gotham City", field "NY", field "9095", 430⟩,
      ⟨3001, 1002, field "Peter", field "Parker", field "3243 Spadermen Lane",
        field " NYC", field " New York", field " 9092", 20005⟩,
      ⟨3002, 1003, field "Dick", field "Dickerson", field "3001 Dickle Dr.",
        field "Boulder", field "CO", field "87033", 10⟩,
      ⟨3003, 1002, field "Peter", field "Parker", field "3243 Spadermen Lane",
        field " NYC", field " New York", field " 9092", 100⟩]
  | .CustomerOrder => [
      ⟨3000, 2000, 20, field "Bruce", field "Wayne", field "1 Cave way",
        field "Gotham City", field "NY", field "9095", 400⟩,
      ⟨3000, 2002, 30, field "Bruce", field "Wayne", field "1 Cave way",
        field "Gotham City", field "NY", field "9095", 30⟩,
      ⟨3001, 2004, 10, field "Peter", field "Parker", field "3243 Spadermen Lane",
        field "NYC", field "New York", field "9092", 30⟩,
      ⟨3001, 2001, 2, field "Peter", field "Parker", field "3243 Spadermen Lane",
        field "NYC", field "New York", field "9092", 20000⟩,
      ⟨3002, 2006, 1, field "Dick", field "Dickerson", field "3001 Dickle Dr.",
        field "Boulder", field "CO", field "87033", 10⟩,
      ⟨3003, 2006, 4, field "Peter", field "Parker", field "3243 Spadermen Lane",
        field "NYC", field "New York", field "9092", 40⟩,
      ⟨3003, 2007, 5, field "Peter", field "Parker", field "3243 Spadermen Lane",
        field "NYC", field "New York", field "9092", 60⟩]

theorem load_shippedFile (file : DbFile) :
    file.load (shippedFile file) = some (shippedTables file) := by
  cases file <;>
    simp only [shippedFile, shippedLines, shippedTables, field, List.map_cons, List.map_nil] <;>
    repeat rw [String.toList_ofList]
  all_goals decide

/-- The lines of a shipped file hold no newline of their own. -/
theorem unbroken_shippedLines (file : DbFile) :
    ∀ line ∈ (shippedLines file).map String.toList, '\n' ∉ line := by
  cases file <;>
    simp only [shippedLines, List.map_cons, List.map_nil] <;>
    repeat rw [String.toList_ofList]
  all_goals decide

theorem count_newline_intercalate (lines : List Text) (unbroken : ∀ line ∈ lines, '\n' ∉ line) :
    (List.intercalate ['\n'] lines).count '\n' = lines.length - 1 := by
  induction lines with
  | nil => rfl
  | cons line lines inductionHypothesis =>
    rw [List.forall_mem_cons] at unbroken
    have own : line.count '\n' = 0 := List.count_eq_zero.mpr unbroken.1
    cases lines with
    | nil => rw [List.intercalate_singleton, own, List.length_singleton]
    | cons next lines =>
      rw [List.intercalate_cons_cons, List.count_append, List.count_append, own,
        inductionHypothesis unbroken.2]
      simp
      omega

/-- The last line of a shipped file is not ended. -/
theorem newlines_shippedFile (file : DbFile) :
    newlines (shippedFile file) + 1 = (shippedTables file).length := by
  have extent : (shippedTables file).length = (shippedLines file).length := by cases file <;> rfl
  have lines : 0 < (shippedLines file).length := by cases file <;> decide
  rw [newlines, shippedFile, count_newline_intercalate _ (unbroken_shippedLines file),
    List.length_map, extent]
  omega

end OnlineStore
