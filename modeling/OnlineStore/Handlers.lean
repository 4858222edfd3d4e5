/-
This file models the request handlers of the data server and its dispatcher.

A handler receives the text that `extractCommand` left in the message buffer. What it computes
on tables between two calls is a function of its own: validating an order, deducting it from the
stock, appending the rows of an order. Arrays of rows and the buffers that replies are collected
in are taken as long as needed and zeroed before use.
-/

import OnlineStore.Operations

namespace OnlineStore

open CString Cells

/-- A random number for the seed that `srand` was given. -/
abbrev Rand := Nat → Nat

def generateUID (rand : Rand) : Handler Int32 := do
  let now : Nat ← sys .time
  return Int32.ofNat (rand now % 9000 + 1000)

/-- The command and the text left in the buffer. When nothing follows the command the buffer
keeps what `strtok` left of it. -/
def extractCommand (buffer : Text) : Option (Text × Text) :=
  match strtok buffer with
  | none => some ([], buffer)
  | some (ptr, rest) => do
    let command ← strcpy 25 ptr
    if rest = [] then return (command, buffer.takeWhile (· == ',') ++ ptr)
    return (command, rest ++ ['\n'])

/-! ### Looking up an id -/

/-- The file that a tag of `validateID` selects. -/
def taggedFile (dbName : Text) : Option DbFile :=
  if strstr dbName "[BUYER]".toList then some .CustomerInfo else
  if strstr dbName "[SELLER]".toList then some .SellerInfo else
  if strstr dbName "[PRODUCT]".toList then some .ProductInfo else
  if strstr dbName "[BILLING]".toList then some .BillingInfo else
  if strstr dbName "[ORDER]".toList then some .CustomerOrder else none

/-- The column that `validateID` compares. In CustomerOrder it is the product, although the scan
ends at a zero order id. -/
def DbFile.lookupKey : (file : DbFile) → file.Row → Int32
  | .CustomerInfo => CsvClientInfo.uuid
  | .SellerInfo => CsvClientInfo.uuid
  | .ProductInfo => CsvProductInfo.productId
  | .BillingInfo => CsvBillingInfo.orderId
  | .CustomerOrder => CsvCustomerOrderInfo.productId

/-- Whether the row scan of `validateID` meets the id. -/
def DbFile.holdsID (file : DbFile) (idToValidate : Int32) (table : List file.Row) : Bool :=
  (file.rows table).any fun row => file.lookupKey row == idToValidate

/-- What `validateID` is asked: the file, if the tag is known, and the id. -/
def validateIDTarget (buffer : Text) : Option (Option DbFile × Int32) :=
  match tokens buffer with
  | point :: tag :: _ => do
    let dbName ← strcpy 20 tag
    return (taggedFile dbName, atoi point)
  | _ => none

/-- One branch of `validateID`. The exit section stands before the scan and again after it. -/
def validateIDIn (file : DbFile) (idToValidate : Int32) : Handler Bool := do
  readerEntry file
  match ← load file with
  | some table => do
    readerExit file
    if file.holdsID idToValidate table then return true
    else do
      readerExit file
      return false
  | none => do
    readerExit file
    return false

def validateID (buffer : Text) : Handler Bool := do
  match ← orCrash (validateIDTarget buffer) with
  | (some file, idToValidate) => validateIDIn file idToValidate
  | (none, _) => return false

/-! ### Clients -/

inductive ClientType where
  | buyer
  | seller
  deriving DecidableEq

/-- Every handler takes a client that is not tagged as a buyer for a seller. -/
def clientTypeOf (clientType : Text) : ClientType :=
  if strstr clientType "[BUYER]".toList then .buyer else .seller

def ClientType.file : ClientType → DbFile
  | .buyer => .CustomerInfo
  | .seller => .SellerInfo

def loadClientInfo : ClientType → Handler (List CsvClientInfo)
  | .buyer => loadTable .CustomerInfo
  | .seller => loadTable .SellerInfo

def writeBackClientStruct : ClientType → List CsvClientInfo → Handler Unit
  | .buyer => writeBack .CustomerInfo
  | .seller => writeBack .SellerInfo

/-- The rows before the first zero uuid. -/
def clientRows (table : List CsvClientInfo) : List CsvClientInfo :=
  records (fun row => row.uuid == 0) table

/-- The personal data of a registration. -/
structure Registration where
  firstName : Text
  lastName : Text
  phoneNumber : Text
  streetAddress : Text
  city : Text
  state : Text
  zipCode : Text

/-- The tokens of a registration, each one copied into a buffer of 25 characters. -/
def extractRegistration (buffer : Text) : Option (ClientType × Registration) :=
  match tokens buffer with
  | clientType :: firstName :: lastName :: phoneNumber :: streetAddress :: city :: state ::
      zipCode :: _ => do
    let clientType ← strcpy 25 clientType
    return (clientTypeOf clientType, {
      firstName := ← strcpy 25 firstName
      lastName := ← strcpy 25 lastName
      phoneNumber := ← strcpy 25 phoneNumber
      streetAddress := ← strcpy 25 streetAddress
      city := ← strcpy 25 city
      state := ← strcpy 25 state
      zipCode := ← strcpy 25 zipCode })
  | _ => none

/-- The row that registers a client. The phone number is not copied. -/
def registrationRow (row : CsvClientInfo) (uuid : Int32) (data : Registration) :
    Option CsvClientInfo := do
  return { row with
    uuid := uuid
    firstName := ← strcpy 20 data.firstName
    lastName := ← strcpy 20 data.lastName
    streetAddress := ← strcpy 20 data.streetAddress
    city := ← strcpy 20 data.city
    state := ← strcpy 20 data.state
    zipCode := ← strcpy 20 data.zipCode }

/-- How far past the last row a registration is stored. The seller branch skips a row. -/
def ClientType.rowOffset : ClientType → Nat
  | .buyer => 0
  | .seller => 1

def writeNewClientData (rand : Rand) (buffer : Text) : Handler Unit := do
  let (clientType, data) ← orCrash (extractRegistration buffer)
  let uuid ← generateUID rand
  semWait (.wrt clientType.file)
  let clientDB ← loadClientInfo clientType
  let newRow := (clientRows clientDB).length + clientType.rowOffset
  let row ← orCrash (registrationRow (cell clientDB newRow) uuid data)
  writeSocket (decimal uuid)
  writeBackClientStruct clientType (put clientDB newRow row)
  semPost (.wrt clientType.file)

/-! ### Viewing products -/

/-- The part of a reply that lists one product. -/
def productReply (row : CsvProductInfo) : Text :=
  joinFields [decimal row.productId, row.productName.val, decimal row.quantity,
    decimal row.price] ++ ['\n']

/-- The rows that `viewProducts` lists. The id of a seller is read from the buffer that the
first `strtok` has cut after the client type, and the filter is part of the loop condition. -/
def viewedProducts (clientType : Text) (productList : List CsvProductInfo) :
    List CsvProductInfo :=
  match clientTypeOf clientType with
  | .buyer => DbFile.rows .ProductInfo productList
  | .seller =>
    let requestingSellerID := atoi clientType
    productList.takeWhile fun row =>
      row.productId != 0 && row.sellerId != requestingSellerID

def viewProducts (buffer : Text) : Handler Unit := do
  let ptr ← orCrash (tokens buffer).head?
  let clientType ← orCrash (strcpy 25 ptr)
  readerEntry .ProductInfo
  match ← load .ProductInfo with
  | some productList => do
    let dataToSendClient := (viewedProducts clientType productList).flatMap productReply
    readerExit .ProductInfo
    writeSocket dataToSendClient
  | none => return ()

/-! ### Completing an order -/

/-- The lines of the order list that the loops see. -/
def orderRows (orderList : List ItemOrder) : List ItemOrder :=
  records (fun item => item.productID == 0) orderList

/-- The loop of `extractBuyerOrder` on the remaining tokens. It ends at the first token that
`atoi` reads as zero. -/
def extractOrderLines : List Text → Option (List ItemOrder)
  | [] => none
  | productID :: rest =>
    if atoi productID = 0 then some [] else
    match rest with
    | quantity :: itemCostPerUnit :: rest => do
      let items ← extractOrderLines rest
      return ⟨atoi productID, atoi quantity, atoi itemCostPerUnit⟩ :: items
    | _ => none

def extractBuyerOrder (buffer : Text) : Option (List ItemOrder) :=
  extractOrderLines (tokens buffer)

/-- The inner loop of `validateBuyerOrder`, with the flag it carries; no result stands for
`return false`. -/
def validateOrderLine (item : ItemOrder) : List CsvProductInfo → Bool → Option Bool
  | [], idFound => some idFound
  | row :: rows, idFound =>
    if item.productID = row.productId then
      if item.quantity > row.quantity then none else validateOrderLine item rows true
    else validateOrderLine item rows idFound

/-- The outer loop of `validateBuyerOrder`. -/
def validateOrderLines (pList : List CsvProductInfo) : List ItemOrder → Bool → Bool
  | [], _ => true
  | item :: items, idFound =>
    match validateOrderLine item pList idFound with
    | none => false
    | some idFound => if !idFound then false else validateOrderLines pList items false

/-- Both loops run through the row after the last one. -/
def validateBuyerOrder (orderList : List ItemOrder) (pList : List CsvProductInfo) : Bool :=
  let rowsInOrderList := (orderRows orderList).length
  let rowsInProductList := (DbFile.rows .ProductInfo pList).length
  validateOrderLines ((List.range (rowsInProductList + 1)).map (cell pList))
    ((List.range (rowsInOrderList + 1)).map (cell orderList)) false

/-- The row whose quantity an order line is taken from. -/
def findProduct (productID : Int32) (pList : List CsvProductInfo) : Option Nat :=
  search (fun row => productID == row.productId) pList

/-- The product table after the quantities of the order lines are deducted. -/
def deductOrder : List ItemOrder → List CsvProductInfo → Option (List CsvProductInfo)
  | [], pList => some pList
  | item :: items, pList => do
    let rowCounter ← findProduct item.productID pList
    let row := cell pList rowCounter
    deductOrder items (put pList rowCounter { row with quantity := row.quantity - item.quantity })

def writeNewProductQuantityFromOrder (orderList : List ItemOrder)
    (pList : List CsvProductInfo) : Handler Unit := do
  let pList ← orCrash (deductOrder (orderRows orderList) pList)
  writeBack .ProductInfo pList

def orderCost (orderList : List ItemOrder) : Int32 :=
  (orderRows orderList).foldl (fun totalOrderCost item =>
    totalOrderCost + item.quantity * item.itemCostPerUnit) 0

def billingRow (orderId : Int32) (buyerData : CsvClientInfo) (totalOrderCost : Int32) :
    CsvBillingInfo where
  orderId := orderId
  customerId := buyerData.uuid
  firstName := buyerData.firstName
  lastName := buyerData.lastName
  streetAddress := buyerData.streetAddress
  city := buyerData.city
  state := buyerData.state
  zipCode := buyerData.zipCode
  totalOrderCost := totalOrderCost

def writeOrderToBillingInfo (rand : Rand) (buyerData : CsvClientInfo)
    (orderList : List ItemOrder) (billingList : List CsvBillingInfo) : Handler Int32 := do
  let rowToWriteRecord := (DbFile.rows .BillingInfo billingList).length
  let orderId ← generateUID rand
  writeBack .BillingInfo
    (put billingList rowToWriteRecord (billingRow orderId buyerData (orderCost orderList)))
  return orderId

def customerOrderRow (orderID : Int32) (buyerData : CsvClientInfo) (item : ItemOrder) :
    CsvCustomerOrderInfo where
  orderId := orderID
  productId := item.productID
  quantityPurchased := item.quantity
  firstName := buyerData.firstName
  lastName := buyerData.lastName
  streetAddress := buyerData.streetAddress
  city := buyerData.city
  state := buyerData.state
  zipCode := buyerData.zipCode
  totalPrice := item.quantity * item.itemCostPerUnit

def writeOrderToCustomerOrder (orderID : Int32) (buyerData : CsvClientInfo)
    (orderList : List ItemOrder) (customerOrders : List CsvCustomerOrderInfo) :
    Handler Unit := do
  let lastRecordRow := (DbFile.rows .CustomerOrder customerOrders).length
  writeBack .CustomerOrder (putAll customerOrders lastRecordRow
    ((orderRows orderList).map (customerOrderRow orderID buyerData)))

def findBuyerInClientInfo (buyerID : Int32) (buyerList : List CsvClientInfo) : Option Nat :=
  search (fun row => buyerID == row.uuid) buyerList

/-- `completeAnOrder` once the request is decoded. CustomerInfo is loaded without its lock. -/
def completeOrder (rand : Rand) (buyerID : Int32) (orderList : List ItemOrder) :
    Handler Unit := do
  semWait (.wrt .ProductInfo)
  semWait (.wrt .BillingInfo)
  semWait (.wrt .CustomerOrder)
  let productList ← loadTable .ProductInfo
  if validateBuyerOrder orderList productList then do
    let buyerList ← loadTable .CustomerInfo
    let billingInfo ← loadTable .BillingInfo
    let customerOrderInfo ← loadTable .CustomerOrder
    let buyerRecordRow ← orCrash (findBuyerInClientInfo buyerID buyerList)
    let buyerData := cell buyerList buyerRecordRow
    writeNewProductQuantityFromOrder orderList productList
    let orderID ← writeOrderToBillingInfo rand buyerData orderList billingInfo
    writeOrderToCustomerOrder orderID buyerData orderList customerOrderInfo
    writeSocket "[CONFIRMATION]".toList
  else writeSocket "[INVALID]".toList
  semPost (.wrt .ProductInfo)
  semPost (.wrt .BillingInfo)
  semPost (.wrt .CustomerOrder)

/-- The buyer id and the text of the order lines, which gets a second newline. -/
def extractBuyer (buffer : Text) : Option (Int32 × Text) := do
  let (buyerID, rest) ← strtok buffer
  if rest = [] then none else return (atoi buyerID, rest ++ ['\n'])

def completeAnOrder (rand : Rand) (buffer : Text) : Handler Unit := do
  let (buyerID, buffer) ← orCrash (extractBuyer buffer)
  let orderList ← orCrash (extractBuyerOrder buffer)
  completeOrder rand buyerID orderList

/-! ### A buyer's views -/

/-- The token at a position of the request, read as a number. -/
def numberAt (buffer : Text) (position : Nat) : Option Int32 :=
  (tokens buffer)[position]?.map atoi

def buyerViewsOrder (buffer : Text) : Handler Unit := do
  let userID ← orCrash (numberAt buffer 0)
  readerEntry .BillingInfo
  let billingInfo ← loadTable .BillingInfo
  readerExit .BillingInfo
  let own := (DbFile.rows .BillingInfo billingInfo).filter fun row => row.customerId == userID
  writeSocket (own.flatMap fun row =>
    joinFields [decimal row.orderId, decimal row.totalOrderCost] ++ ['\n'])

def buyerViewsInfo (buffer : Text) : Handler Unit := do
  let userID ← orCrash (numberAt buffer 0)
  readerEntry .CustomerInfo
  let clientInfo ← loadTable .CustomerInfo
  readerExit .CustomerInfo
  let own := (clientRows clientInfo).filter fun row => row.uuid == userID
  writeSocket (own.flatMap fun row =>
    joinFields [decimal row.uuid, row.firstName.val, row.lastName.val, row.phoneNumber.val,
      row.streetAddress.val, row.city.val, row.state.val, row.zipCode.val] ++ ['\n'])

/-! ### A seller's products -/

/-- The row of a new product; the tokens are the seller, the name, the quantity and the price. -/
def newProductRow (productId : Int32) (fields : List Text) : Option CsvProductInfo :=
  match fields with
  | sellerId :: productName :: quantity :: price :: _ => do
    return {
      productId := productId
      sellerId := atoi sellerId
      productName := ← strcpy 20 productName
      quantity := atoi quantity
      price := atoi price }
  | _ => none

def addNewProduct (rand : Rand) (buffer : Text) : Handler Unit := do
  semWait (.wrt .ProductInfo)
  let pList ← loadTable .ProductInfo
  let newRecordRow := (DbFile.rows .ProductInfo pList).length
  let productId ← generateUID rand
  let row ← orCrash (newProductRow productId (tokens buffer))
  writeBack .ProductInfo (put pList newRecordRow row)
  semPost (.wrt .ProductInfo)
  writeSocket "[CONFIRMATION]".toList

/-- The text that the handlers of a seller pass to `validateID`. -/
def productIdToValidate (productID : Text) : Option Text := do
  let copied ← strcpy 20 productID
  let extended ← strcpy 20 (copied.val ++ ",[PRODUCT],".toList)
  return extended.val

/-- The row at which the search for a product ends: the product's, or the one after the last. -/
def productRowNum (productID : Int32) (pList : List CsvProductInfo) : Nat :=
  ((DbFile.rows .ProductInfo pList).takeWhile fun row => row.productId != productID).length

def deleteProduct (buffer : Text) : Handler Unit := do
  let sellerID ← orCrash (numberAt buffer 0)
  let ptr ← orCrash (tokens buffer)[1]?
  let toValidate ← orCrash (productIdToValidate ptr)
  let productID := atoi ptr
  if ← validateID toValidate then do
    semWait (.wrt .ProductInfo)
    let pList ← loadTable .ProductInfo
    -- The new table stays zeroed when the seller is not the owner, and is written all the same.
    if (cell pList (productRowNum productID pList)).sellerId ≠ sellerID then do
      writeSocket "[INVALID]".toList
      writeBack .ProductInfo []
    else do
      sys (.delete productID)
      writeBack .ProductInfo
        ((DbFile.rows .ProductInfo pList).filter fun row => row.productId != productID)
    semPost (.wrt .ProductInfo)
    writeSocket "[CONFIRMATION]".toList
  else writeSocket "[INVALID]".toList

/-- `modifyQuantity` and `modifyPrice`, which differ in the column they set. -/
def modifyProduct (modify : Int32 → CsvProductInfo → CsvProductInfo) (buffer : Text) :
    Handler Unit := do
  let sellerID ← orCrash (numberAt buffer 0)
  let ptr ← orCrash (tokens buffer)[1]?
  let toValidate ← orCrash (productIdToValidate ptr)
  let productID := atoi ptr
  let value ← orCrash (numberAt buffer 2)
  if ← validateID toValidate then do
    semWait (.wrt .ProductInfo)
    let pList ← loadTable .ProductInfo
    let rowNum := productRowNum productID pList
    if (cell pList rowNum).sellerId ≠ sellerID then do
      writeSocket "[INVALID]".toList
      writeBack .ProductInfo pList
    else writeBack .ProductInfo (put pList rowNum (modify value (cell pList rowNum)))
    semPost (.wrt .ProductInfo)
    writeSocket "[CONFIRMATION]".toList
  else writeSocket "[INVALID]".toList

def modifyQuantity (buffer : Text) : Handler Unit :=
  modifyProduct (fun quantity row => { row with quantity := quantity }) buffer

def modifyPrice (buffer : Text) : Handler Unit :=
  modifyProduct (fun price row => { row with price := price }) buffer

/-- The part of a reply that shows one order row to a seller. -/
def customerOrderReply (row : CsvCustomerOrderInfo) : Text :=
  joinFields [decimal row.orderId, decimal row.productId, decimal row.quantityPurchased,
    decimal row.totalPrice, row.firstName.val, row.lastName.val, row.streetAddress.val,
    row.city.val, row.state.val, row.zipCode.val]

def sellerViewsOrders (buffer : Text) : Handler Unit := do
  let sellerID ← orCrash (numberAt buffer 0)
  readerEntry .ProductInfo
  let pList ← loadTable .ProductInfo
  readerExit .ProductInfo
  let ownedProductIDs := ((DbFile.rows .ProductInfo pList).filter fun row =>
    row.sellerId == sellerID).map CsvProductInfo.productId
  readerEntry .CustomerOrder
  let customerOrderInfo ← loadTable .CustomerOrder
  readerExit .CustomerOrder
  writeSocket (ownedProductIDs.flatMap fun productID =>
    ((DbFile.rows .CustomerOrder customerOrderInfo).filter fun row =>
      row.productId == productID).flatMap customerOrderReply)

/-! ### Editing a client -/

/-- An edit of one client row: `sellerEditsName`, `sellerEditsNumber`, `sellerEditsAddress` and
`buyerEditsNumber`. -/
def editClient (clientType : ClientType) (edit : CsvClientInfo → Option CsvClientInfo)
    (id : Int32) : Handler Unit := do
  semWait (.wrt clientType.file)
  let clientList ← loadClientInfo clientType
  let rowInDB ← orCrash (search (fun row => row.uuid == id) clientList)
  let row ← orCrash (edit (cell clientList rowInDB))
  writeBackClientStruct clientType (put clientList rowInDB row)
  semPost (.wrt clientType.file)

/-- The two tokens of a new name. -/
def extractName : List Text → Option (Chars × Chars)
  | firstName :: lastName :: _ => do return (← strcpy 20 firstName, ← strcpy 20 lastName)
  | _ => none

structure Address where
  streetAddress : Chars
  city : Chars
  state : Chars
  zipCode : Chars

/-- The four tokens of a new address. -/
def extractAddress : List Text → Option Address
  | streetAddress :: city :: state :: zipCode :: _ => do
    return {
      streetAddress := ← strcpy 20 streetAddress
      city := ← strcpy 20 city
      state := ← strcpy 20 state
      zipCode := ← strcpy 20 zipCode }
  | _ => none

def extractNumber : List Text → Option Chars
  | phoneNumber :: _ => strcpy 20 phoneNumber
  | _ => none

def CsvClientInfo.setName (name : Chars × Chars) (row : CsvClientInfo) : CsvClientInfo :=
  { row with firstName := name.1, lastName := name.2 }

def CsvBillingInfo.setName (name : Chars × Chars) (row : CsvBillingInfo) : CsvBillingInfo :=
  { row with firstName := name.1, lastName := name.2 }

def CsvCustomerOrderInfo.setName (name : Chars × Chars) (row : CsvCustomerOrderInfo) :
    CsvCustomerOrderInfo :=
  { row with firstName := name.1, lastName := name.2 }

def CsvClientInfo.setAddress (address : Address) (row : CsvClientInfo) : CsvClientInfo :=
  { row with
    streetAddress := address.streetAddress
    city := address.city
    state := address.state
    zipCode := address.zipCode }

def CsvBillingInfo.setAddress (address : Address) (row : CsvBillingInfo) : CsvBillingInfo :=
  { row with
    streetAddress := address.streetAddress
    city := address.city
    state := address.state
    zipCode := address.zipCode }

def CsvCustomerOrderInfo.setAddress (address : Address) (row : CsvCustomerOrderInfo) :
    CsvCustomerOrderInfo :=
  { row with
    streetAddress := address.streetAddress
    city := address.city
    state := address.state
    zipCode := address.zipCode }

def sellerEditsName (buffer : List Text) (id : Int32) : Handler Unit :=
  editClient .seller (fun row => (extractName buffer).map row.setName) id

def sellerEditsNumber (buffer : List Text) (id : Int32) : Handler Unit :=
  editClient .seller (fun row => (extractNumber buffer).map fun phoneNumber =>
    { row with phoneNumber := phoneNumber }) id

def sellerEditsAddress (buffer : List Text) (id : Int32) : Handler Unit :=
  editClient .seller (fun row => (extractAddress buffer).map row.setAddress) id

def buyerEditsNumber (buffer : List Text) (id : Int32) : Handler Unit :=
  editClient .buyer (fun row => (extractNumber buffer).map fun phoneNumber =>
    { row with phoneNumber := phoneNumber }) id

/-- The order numbers that an edit of a buyer collects from the billing table. -/
def buyerOrderNums (id : Int32) (billingInfo : List CsvBillingInfo) : List Int32 :=
  ((DbFile.rows .BillingInfo billingInfo).filter fun row => row.customerId == id).map
    CsvBillingInfo.orderId

/-- The order table after the update of every row of the collected orders, one order number
after the other. -/
def editOrders (update : CsvCustomerOrderInfo → CsvCustomerOrderInfo) (orderNums : List Int32)
    (customerOrderInfo : List CsvCustomerOrderInfo) : List CsvCustomerOrderInfo :=
  orderNums.foldl (fun table orderNum =>
    mapRecords (DbFile.isEnd .CustomerOrder)
      (fun row => if row.orderId = orderNum then update row else row) table) customerOrderInfo

/-- The billing table after the update of every row of a buyer. -/
def editBilling (update : CsvBillingInfo → CsvBillingInfo) (id : Int32)
    (billingInfo : List CsvBillingInfo) : List CsvBillingInfo :=
  mapRecords (DbFile.isEnd .BillingInfo)
    (fun row => if row.customerId = id then update row else row) billingInfo

/-- An edit of the data of a buyer that orders carry a copy of: `buyerEditsName` and
`buyerEditsAddress`. -/
def editBuyer {Data : Type} (extract : Option Data)
    (editClientRow : Data → CsvClientInfo → CsvClientInfo)
    (editBillingRow : Data → CsvBillingInfo → CsvBillingInfo)
    (editOrderRow : Data → CsvCustomerOrderInfo → CsvCustomerOrderInfo) (id : Int32) :
    Handler Unit := do
  semWait (.wrt .CustomerInfo)
  semWait (.wrt .BillingInfo)
  semWait (.wrt .CustomerOrder)
  let buyerList ← loadTable .CustomerInfo
  let buyerRowInDB ← orCrash (search (fun row => row.uuid == id) buyerList)
  let data ← orCrash extract
  writeBack .CustomerInfo
    (put buyerList buyerRowInDB (editClientRow data (cell buyerList buyerRowInDB)))
  let billingInfo ← loadTable .BillingInfo
  writeBack .BillingInfo (editBilling (editBillingRow data) id billingInfo)
  let customerOrderInfo ← loadTable .CustomerOrder
  writeBack .CustomerOrder
    (editOrders (editOrderRow data) (buyerOrderNums id billingInfo) customerOrderInfo)
  semPost (.wrt .CustomerInfo)
  semPost (.wrt .BillingInfo)
  semPost (.wrt .CustomerOrder)

def buyerEditsName (buffer : List Text) (id : Int32) : Handler Unit :=
  editBuyer (extractName buffer) CsvClientInfo.setName CsvBillingInfo.setName
    CsvCustomerOrderInfo.setName id

def buyerEditsAddress (buffer : List Text) (id : Int32) : Handler Unit :=
  editBuyer (extractAddress buffer) CsvClientInfo.setAddress CsvBillingInfo.setAddress
    CsvCustomerOrderInfo.setAddress id

/-- The sub-command of an edit, and what its branch does with the rest of the request. -/
def editBranch (clientType : ClientType) (subCommand : Text) (buffer : List Text)
    (clientID : Int32) : Handler Unit :=
  match clientType with
  | .buyer =>
    if strstr subCommand "[NAME]".toList then buyerEditsName buffer clientID
    else if strstr subCommand "[NUMBER]".toList then buyerEditsNumber buffer clientID
    else if strstr subCommand "[ADDRESS]".toList then buyerEditsAddress buffer clientID
    else return ()
  | .seller =>
    if strstr subCommand "[NAME]".toList then sellerEditsName buffer clientID
    else if strstr subCommand "[NUMBER]".toList then sellerEditsNumber buffer clientID
    else if strstr subCommand "[ADDRESS]".toList then sellerEditsAddress buffer clientID
    else return ()

/-- The rest of the request is a null pointer when nothing follows the sub-command; the first
`strcpy` of a token of it then crashes, as it does when the rest has no token. -/
def clientEditsInfo (buffer : Text) : Handler Unit := do
  match tokens buffer with
  | clientType :: clientID :: subCommand :: rest => do
    let clientType ← orCrash (strcpy 20 clientType)
    let subCommand ← orCrash (strcpy 20 subCommand)
    editBranch (clientTypeOf clientType) subCommand rest (atoi clientID)
    writeSocket "[CONFIRMATION]".toList
  | _ => crash

/-! ### Returning a product -/

/-- The order table without the rows of a product. The loop ends at a zero product id. -/
def removeProduct (productIDtoReturn : Int32) (customerOrderInfo : List CsvCustomerOrderInfo) :
    List CsvCustomerOrderInfo :=
  (records (fun row => row.productId == 0) customerOrderInfo).filter fun row =>
    row.productId != productIDtoReturn

def buyerModifiesOrder (buffer : Text) : Handler Unit := do
  let orderID ← orCrash (numberAt buffer 0)
  let productIDtoReturn ← orCrash (numberAt buffer 1)
  semWait (.wrt .BillingInfo)
  semWait (.wrt .CustomerOrder)
  let customerOrderInfo ← loadTable .CustomerOrder
  let billingInfo ← loadTable .BillingInfo
  let productRowLoc ← orCrash (search (fun row => row.orderId == orderID) customerOrderInfo)
  let itemCost := (cell customerOrderInfo productRowLoc).totalPrice
  writeBack .CustomerOrder (removeProduct productIDtoReturn customerOrderInfo)
  let rowCount ← orCrash (search (fun row => row.orderId == orderID) billingInfo)
  let row := cell billingInfo rowCount
  writeBack .BillingInfo
    (put billingInfo rowCount { row with totalOrderCost := row.totalOrderCost - itemCost })
  semPost (.wrt .BillingInfo)
  semPost (.wrt .CustomerOrder)

/-! ### Orders -/

def readOrderDetails (buffer : Text) : Handler Unit := do
  let orderID ← orCrash (numberAt buffer 0)
  readerEntry .CustomerOrder
  let customerOrderInfo ← loadTable .CustomerOrder
  readerExit .CustomerOrder
  let itemsInOrder := (DbFile.rows .CustomerOrder customerOrderInfo).filter fun row =>
    row.orderId == orderID
  readerEntry .ProductInfo
  let pList ← loadTable .ProductInfo
  readerExit .ProductInfo
  writeSocket (itemsInOrder.flatMap fun item =>
    ((DbFile.rows .ProductInfo pList).filter fun row => item.productId == row.productId).flatMap
      fun row => joinFields [decimal item.productId, row.productName.val,
        decimal item.quantityPurchased, decimal item.totalPrice])

/-- The scan of `validateOrderIsBuyers` never advances, so it decides on the first row or does
not end. -/
def validateOrderIsBuyers (buffer : Text) : Handler Bool := do
  let buyerID ← orCrash (numberAt buffer 0)
  let orderID ← orCrash (numberAt buffer 1)
  readerEntry .BillingInfo
  let billingInfo ← loadTable .BillingInfo
  readerExit .BillingInfo
  let row := cell billingInfo 0
  if row.orderId = 0 then return false
  else if row.orderId = orderID then return row.customerId == buyerID
  else spin

/-! ### The dispatcher -/

inductive Command where
  | newClient
  | validateID
  | viewProducts
  | completeOrder
  | viewBuyerOrders
  | checkBuyer
  | orderDetails
  | modOrder
  | viewBilling
  | editInfo
  | newProduct
  | deleteProd
  | modQuant
  | modPrice
  | sellerOrders
  deriving DecidableEq

def Command.tag : Command → Text
  | .newClient => "[NEW_CLIENT]".toList
  | .validateID => "[VALIDATE_ID]".toList
  | .viewProducts => "[VIEW_PRODUCTS]".toList
  | .completeOrder => "[COMPLETE_ORDER]".toList
  | .viewBuyerOrders => "[VIEW_BUYER_ORDERS]".toList
  | .checkBuyer => "[CHECK_BUYER]".toList
  | .orderDetails => "[ORDER_DETAILS]".toList
  | .modOrder => "[MOD_ORDER]".toList
  | .viewBilling => "[VIEW_BILLING]".toList
  | .editInfo => "[EDIT_INFO]".toList
  | .newProduct => "[NEW_PRODUCT]".toList
  | .deleteProd => "[DELETE_PROD]".toList
  | .modQuant => "[MOD_QUANT]".toList
  | .modPrice => "[MOD_PRICE]".toList
  | .sellerOrders => "[SELLER_ORDERS]".toList

/-- The commands in the order in which the dispatcher tests for them. -/
def Command.all : List Command :=
  [.newClient, .validateID, .viewProducts, .completeOrder, .viewBuyerOrders, .checkBuyer,
    .orderDetails, .modOrder, .viewBilling, .editInfo, .newProduct, .deleteProd, .modQuant,
    .modPrice, .sellerOrders]

/-- The first command whose tag the text contains. -/
def commandOf (command : Text) : Option Command :=
  Command.all.find? fun candidate => strstr command candidate.tag

/-- The reply to a yes-or-no question. -/
def verdict (result : Bool) : Text :=
  if result then "[CONFIRMATION]".toList else "[INVALID]".toList

/-- The branch of the dispatcher for a command. -/
def Command.execute (rand : Rand) (buffer : Text) : Command → Handler Unit
  | .newClient => writeNewClientData rand buffer
  | .validateID => do
    let result ← OnlineStore.validateID buffer
    writeSocket (verdict result)
  | .viewProducts => OnlineStore.viewProducts buffer
  | .completeOrder => completeAnOrder rand buffer
  | .viewBuyerOrders => buyerViewsOrder buffer
  | .checkBuyer => do
    let result ← validateOrderIsBuyers buffer
    writeSocket (verdict result)
  | .orderDetails => readOrderDetails buffer
  | .modOrder => buyerModifiesOrder buffer
  | .viewBilling => buyerViewsInfo buffer
  | .editInfo => clientEditsInfo buffer
  | .newProduct => addNewProduct rand buffer
  | .deleteProd => deleteProduct buffer
  | .modQuant => modifyQuantity buffer
  | .modPrice => modifyPrice buffer
  | .sellerOrders => sellerViewsOrders buffer

/-- The handling of one message. A message without a known command is dropped. -/
def executeTaskOnServer (rand : Rand) (message : Text) : Handler Unit := do
  let (command, buffer) ← orCrash (extractCommand message)
  match commandOf command with
  | some command => command.execute rand buffer
  | none => return ()

end OnlineStore
