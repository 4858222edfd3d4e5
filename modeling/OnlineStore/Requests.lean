/-
This file gives the requests of the documented forms, the messages that carry them, and what the
server does with each one.

A request is made of tokens, the texts that survive tokenizing as they are and fit the arrays
they are copied into, so every request is well formed. A message is the tag of the command and
the fields of the request, each one ended by a comma. `serve_message` is the dispatcher on such
messages: the effect of every request, over any backing whose five files load.
-/

import OnlineStore.Effects
import OnlineStore.Numerals

namespace OnlineStore

open CString Cells Prog

/-! ### Tokens -/

/-- A token of a message that fits an array of the given size. -/
def Token (size : Nat) : Type :=
  {text : Text // IsField text ∧ '\n' ∉ text ∧ text.length < size}

/-- The token as it is copied into an array. -/
def Token.chars {size : Nat} (token : Token size) : CharArray size :=
  ⟨token.val, token.property.2.2⟩

/-- The token as a number. -/
def Token.number {size : Nat} (token : Token size) : Int32 :=
  atoi token.val

theorem Token.isField {size : Nat} (token : Token size) : IsField token.val :=
  token.property.1

theorem Token.unbroken {size : Nat} (token : Token size) : '\n' ∉ token.val :=
  token.property.2.1

theorem strcpy_of_lt {size : Nat} {text : Text} (fits : text.length < size) :
    strcpy size text = some ⟨text, fits⟩ := by
  rw [strcpy, dif_pos fits]

theorem Token.strcpy {size : Nat} (token : Token size) :
    CString.strcpy size token.val = some token.chars :=
  strcpy_of_lt token.property.2.2

/-- A token that fits the columns of the tables fits the larger arrays of the handlers. -/
theorem Token.strcpy_of_le {size larger : Nat} (token : Token size) (fits : size ≤ larger) :
    CString.strcpy larger token.val =
      some ⟨token.val, Nat.lt_of_lt_of_le token.property.2.2 fits⟩ :=
  strcpy_of_lt _

/-- An id as it stands in a message. -/
def Token.ofNumber (number : Int32) : Token 20 :=
  ⟨decimal number, ⟨decimal_ne_nil number, comma_not_mem_decimal number⟩,
    newline_not_mem_decimal number, Nat.lt_of_le_of_lt (length_decimal_le number) (by decide)⟩

theorem Token.number_ofNumber (number : Int32) : (Token.ofNumber number).number = number :=
  atoi_decimal number

/-! ### Requests -/

/-- One line of an order request. -/
structure OrderLine where
  productID : Token 20
  quantity : Token 20
  itemCostPerUnit : Token 20

/-- The data of an `[EDIT_INFO]` request. -/
inductive InfoEdit where
  | name (firstName lastName : Token 20)
  | number (phoneNumber : Token 20)
  | address (streetAddress city state zipCode : Token 20)

/-- A request of one of the documented forms. The product id of a seller's request is copied
together with a tag, which leaves room for eight characters. -/
inductive Request where
  | newClient (clientType : ClientType)
      (firstName lastName phoneNumber streetAddress city state zipCode : Token 20)
  | validateID (id : Token 20) (database : DbFile)
  | viewProducts (sellerID : Option (Token 20))
  | completeOrder (buyerID : Token 20) (lines : List OrderLine)
  | viewBuyerOrders (buyerID : Token 20)
  | checkBuyer (buyerID orderID : Token 20)
  | orderDetails (orderID : Token 20)
  | modOrder (orderID productIDtoReturn : Token 20)
  | viewBilling (buyerID : Token 20)
  | editInfo (clientType : ClientType) (clientID : Token 20) (edit : InfoEdit)
  | newProduct (sellerID productName quantity price : Token 20)
  | deleteProd (sellerID : Token 20) (productID : Token 9)
  | modQuant (sellerID : Token 20) (productID : Token 9) (quantity : Token 20)
  | modPrice (sellerID : Token 20) (productID : Token 9) (price : Token 20)
  | sellerOrders (sellerID : Token 20)

/-! ### Messages -/

def ClientType.tag : ClientType → Text
  | .buyer => "[BUYER]".toList
  | .seller => "[SELLER]".toList

/-- The tag that selects a file in a `[VALIDATE_ID]` request. -/
def DbFile.tag : DbFile → Text
  | .CustomerInfo => "[BUYER]".toList
  | .SellerInfo => "[SELLER]".toList
  | .ProductInfo => "[PRODUCT]".toList
  | .BillingInfo => "[BILLING]".toList
  | .CustomerOrder => "[ORDER]".toList

def OrderLine.fields (line : OrderLine) : List Text :=
  [line.productID.val, line.quantity.val, line.itemCostPerUnit.val]

/-- The sub-command of an edit. -/
def InfoEdit.tag : InfoEdit → Text
  | .name _ _ => "[NAME]".toList
  | .number _ => "[NUMBER]".toList
  | .address _ _ _ _ => "[ADDRESS]".toList

theorem InfoEdit.tag_name (firstName lastName : Token 20) :
    (InfoEdit.name firstName lastName).tag = "[NAME]".toList := rfl

theorem InfoEdit.tag_number (phoneNumber : Token 20) :
    (InfoEdit.number phoneNumber).tag = "[NUMBER]".toList := rfl

theorem InfoEdit.tag_address (streetAddress city state zipCode : Token 20) :
    (InfoEdit.address streetAddress city state zipCode).tag = "[ADDRESS]".toList := rfl

def InfoEdit.fields : InfoEdit → List Text
  | .name firstName lastName => [firstName.val, lastName.val]
  | .number phoneNumber => [phoneNumber.val]
  | .address streetAddress city state zipCode =>
    [streetAddress.val, city.val, state.val, zipCode.val]

namespace Request

def command : Request → Command
  | .newClient .. => .newClient
  | .validateID .. => .validateID
  | .viewProducts .. => .viewProducts
  | .completeOrder .. => .completeOrder
  | .viewBuyerOrders .. => .viewBuyerOrders
  | .checkBuyer .. => .checkBuyer
  | .orderDetails .. => .orderDetails
  | .modOrder .. => .modOrder
  | .viewBilling .. => .viewBilling
  | .editInfo .. => .editInfo
  | .newProduct .. => .newProduct
  | .deleteProd .. => .deleteProd
  | .modQuant .. => .modQuant
  | .modPrice .. => .modPrice
  | .sellerOrders .. => .sellerOrders

/-- The fields of a request after the tag of its command. -/
def fields : Request → List Text
  | .newClient clientType firstName lastName phoneNumber streetAddress city state zipCode =>
    [clientType.tag, firstName.val, lastName.val, phoneNumber.val, streetAddress.val, city.val,
      state.val, zipCode.val]
  | .validateID id database => [id.val, database.tag]
  | .viewProducts none => [ClientType.buyer.tag]
  | .viewProducts (some sellerID) => [ClientType.seller.tag, sellerID.val]
  | .completeOrder buyerID lines => buyerID.val :: lines.flatMap OrderLine.fields
  | .viewBuyerOrders buyerID => [buyerID.val]
  | .checkBuyer buyerID orderID => [buyerID.val, orderID.val]
  | .orderDetails orderID => [orderID.val]
  | .modOrder orderID productIDtoReturn => [orderID.val, productIDtoReturn.val]
  | .viewBilling buyerID => [buyerID.val]
  | .editInfo clientType clientID edit =>
    clientType.tag :: clientID.val :: edit.tag :: edit.fields
  | .newProduct sellerID productName quantity price =>
    [sellerID.val, productName.val, quantity.val, price.val]
  | .deleteProd sellerID productID => [sellerID.val, productID.val]
  | .modQuant sellerID productID quantity => [sellerID.val, productID.val, quantity.val]
  | .modPrice sellerID productID price => [sellerID.val, productID.val, price.val]
  | .sellerOrders sellerID => [sellerID.val]

/-- The message that carries a request. -/
def message (request : Request) : Text :=
  joinFields (request.command.tag :: request.fields)

/-- The text that `extractCommand` leaves in the buffer. -/
def buffer (request : Request) : Text :=
  joinFields request.fields ++ ['\n']

end Request

/-! ### Decoding -/

theorem ClientType.isField_tag (clientType : ClientType) : IsField clientType.tag := by
  cases clientType <;> exact ⟨by decide, by decide⟩

theorem DbFile.isField_tag (file : DbFile) : IsField file.tag := by
  cases file <;> exact ⟨by decide, by decide⟩

theorem InfoEdit.isField_tag (edit : InfoEdit) : IsField edit.tag := by
  cases edit with
  | name _ _ => exact (⟨by decide, by decide⟩ : IsField "[NAME]".toList)
  | number _ => exact (⟨by decide, by decide⟩ : IsField "[NUMBER]".toList)
  | address _ _ _ _ => exact (⟨by decide, by decide⟩ : IsField "[ADDRESS]".toList)

theorem Command.isField_tag (command : Command) : IsField command.tag := by
  cases command <;> exact ⟨by decide, by decide⟩

theorem Command.commandOf_tag (command : Command) : commandOf command.tag = some command := by
  cases command <;> decide

theorem Command.length_tag (command : Command) : command.tag.length < 25 := by
  cases command <;> decide

/-- The first field is the command, and the others are left in the buffer with a newline. -/
theorem extractCommand_joinFields {tag : Text} {fields : List Text} (isField : IsField tag)
    (short : tag.length < 25) (nonempty : fields ≠ []) :
    extractCommand (joinFields (tag :: fields)) = some (tag, joinFields fields ++ ['\n']) := by
  have rest : joinFields fields ≠ [] := by
    obtain ⟨field, fields, rfl⟩ := List.exists_cons_of_ne_nil nonempty
    simp
  rw [extractCommand, joinFields_cons, strtok_field isField]
  simp only [strcpy_of_lt short, Option.bind_eq_bind, Option.bind_some, if_neg rest]
  rfl

theorem isField_of_mem_lines {lines : List OrderLine} :
    ∀ field ∈ lines.flatMap OrderLine.fields, IsField field := by
  intro field member
  obtain ⟨line, -, inLine⟩ := List.mem_flatMap.mp member
  simp only [OrderLine.fields, List.mem_cons, List.not_mem_nil, or_false] at inLine
  rcases inLine with rfl | rfl | rfl <;> exact Token.isField _

namespace Request

theorem isField_of_mem_fields (request : Request) :
    ∀ field ∈ request.fields, IsField field := by
  have editFields (edit : InfoEdit) : ∀ field ∈ edit.fields, IsField field := by
    cases edit <;> simp [InfoEdit.fields, Token.isField]
  cases request with
  | viewProducts sellerID =>
    cases sellerID <;> simp [fields, Token.isField, ClientType.isField_tag]
  | completeOrder buyerID lines =>
    exact List.forall_mem_cons.mpr ⟨buyerID.isField, isField_of_mem_lines⟩
  | editInfo clientType clientID edit =>
    exact List.forall_mem_cons.mpr ⟨clientType.isField_tag, List.forall_mem_cons.mpr
      ⟨clientID.isField, List.forall_mem_cons.mpr ⟨edit.isField_tag, editFields edit⟩⟩⟩
  | _ => simp [fields, Token.isField, ClientType.isField_tag, DbFile.isField_tag]

theorem fields_ne_nil (request : Request) : request.fields ≠ [] := by
  cases request with
  | viewProducts sellerID => cases sellerID <;> simp [fields]
  | _ => simp [fields]

/-- The tokens of the buffer are the fields and a newline. -/
theorem tokens_buffer (request : Request) :
    tokens request.buffer = request.fields ++ [['\n']] := by
  rw [buffer, tokens_fields request.isField_of_mem_fields]
  rfl

theorem extractCommand_message (request : Request) :
    extractCommand request.message = some (request.command.tag, request.buffer) :=
  extractCommand_joinFields request.command.isField_tag request.command.length_tag
    request.fields_ne_nil

/-- The dispatcher on the message of a request. -/
theorem executeTaskOnServer_message (rand : Rand) (request : Request) :
    executeTaskOnServer rand request.message = request.command.execute rand request.buffer := by
  rw [executeTaskOnServer, extractCommand_message]
  simp only [orCrash, pure_bind, Command.commandOf_tag]

end Request

/-! ### Orders -/

def OrderLine.item (line : OrderLine) : ItemOrder :=
  ⟨line.productID.number, line.quantity.number, line.itemCostPerUnit.number⟩

/-- The lines that the server reads: a product number that reads as zero ends them. -/
def orderItems (lines : List OrderLine) : List ItemOrder :=
  records (fun item => item.productID == 0) (lines.map OrderLine.item)

theorem extractOrderLines_fields (lines : List OrderLine) :
    extractOrderLines (lines.flatMap OrderLine.fields ++ [['\n', '\n']]) =
      some (orderItems lines) := by
  induction lines with
  | nil => decide
  | cons line lines inductionHypothesis =>
    rw [List.flatMap_cons, OrderLine.fields, List.append_assoc]
    simp only [List.cons_append, List.nil_append, extractOrderLines, inductionHypothesis]
    by_cases zero : atoi line.productID.val = 0
    · simp [zero, orderItems, records, OrderLine.item, Token.number]
    · simp [zero, orderItems, records, OrderLine.item, Token.number]

theorem productID_ne_zero_of_mem_orderItems {lines : List OrderLine} {item : ItemOrder}
    (member : item ∈ orderItems lines) : item.productID ≠ 0 := by
  simpa using stop_of_mem_records member

theorem orderRows_orderItems (lines : List OrderLine) :
    orderRows (orderItems lines) = orderItems lines :=
  records_eq_self fun item member => by
    simpa using productID_ne_zero_of_mem_orderItems member

/-- The lines of an order request, with the second newline. -/
def orderText (lines : List OrderLine) : Text :=
  joinFields (lines.flatMap OrderLine.fields) ++ ['\n', '\n']

theorem extractBuyer_buffer (buyerID : Token 20) (lines : List OrderLine) :
    extractBuyer (Request.completeOrder buyerID lines).buffer =
      some (buyerID.number, orderText lines) := by
  rw [extractBuyer, Request.buffer, Request.fields, joinFields_cons, List.append_assoc,
    List.cons_append, strtok_field buyerID.isField]
  simp [Token.number, orderText]

theorem extractBuyerOrder_orderText (lines : List OrderLine) :
    extractBuyerOrder (orderText lines) = some (orderItems lines) := by
  rw [extractBuyerOrder, orderText, tokens_fields isField_of_mem_lines]
  exact extractOrderLines_fields lines

/-- The decoding of an order request. -/
theorem completeAnOrder_buffer (rand : Rand) (buyerID : Token 20) (lines : List OrderLine) :
    completeAnOrder rand (Request.completeOrder buyerID lines).buffer =
      completeOrder rand buyerID.number (orderItems lines) := by
  simp only [completeAnOrder, extractBuyer_buffer, extractBuyerOrder_orderText, orCrash, pure_bind]

/-! ### Effects -/

/-- All five files load. -/
def Loads {Store : Type} (backing : Backing Store) (world : World Store) (tables : Tables) :
    Prop :=
  ∀ file, backing.load world.store file = some (tables file)

/-- A server that has just been started on the shipped files. -/
def shippedWorld : World Files := ⟨shippedFile, [], [], []⟩

theorem loads_shippedWorld : Loads diskBacking shippedWorld shippedTables :=
  load_shippedFile

def Tables.clients (tables : Tables) : ClientType → List CsvClientInfo
  | .buyer => tables .CustomerInfo
  | .seller => tables .SellerInfo

/-- The table that a registration leaves. -/
def registeredTable (uuid : Int32) (clientType : ClientType)
    (firstName lastName streetAddress city state zipCode : Chars)
    (clients : List CsvClientInfo) : List CsvClientInfo :=
  put clients (newClientRow clientType clients) { cell clients (newClientRow clientType clients) with
    uuid := uuid
    firstName := firstName
    lastName := lastName
    streetAddress := streetAddress
    city := city
    state := state
    zipCode := zipCode }

/-- The table that a new product leaves. -/
def stockedTable (productId sellerId : Int32) (productName : Chars) (quantity price : Int32)
    (products : List CsvProductInfo) : List CsvProductInfo :=
  put products (DbFile.rows .ProductInfo products).length
    { productId := productId, productName := productName, sellerId := sellerId,
      quantity := quantity, price := price }

/-- What an edit of one client row sets. -/
def InfoEdit.apply (edit : InfoEdit) (row : CsvClientInfo) : CsvClientInfo :=
  match edit with
  | .name firstName lastName => row.setName (firstName.chars, lastName.chars)
  | .number phoneNumber => { row with phoneNumber := phoneNumber.chars }
  | .address streetAddress city state zipCode =>
    row.setAddress ⟨streetAddress.chars, city.chars, state.chars, zipCode.chars⟩

section Effect

variable {Store : Type} (backing : Backing Store) (rand : Rand) (now : Nat)
variable (tables : Tables) (world : World Store)

/-- An edit of one client row. -/
def World.editClient (clientType : ClientType) (edit : CsvClientInfo → CsvClientInfo)
    (id : Int32) : Option (World Store) :=
  (search (fun row => row.uuid == id) (tables.clients clientType)).map fun rowInDB =>
    world.handClients backing clientType
      (put (tables.clients clientType) rowInDB (edit (cell (tables.clients clientType) rowInDB)))

/-- An edit of a buyer's data in three tables. -/
def World.editBuyer (editClientRow : CsvClientInfo → CsvClientInfo)
    (editBillingRow : CsvBillingInfo → CsvBillingInfo)
    (editOrderRow : CsvCustomerOrderInfo → CsvCustomerOrderInfo) (id : Int32) :
    Option (World Store) :=
  (search (fun row => row.uuid == id) (tables .CustomerInfo)).map fun rowInDB =>
    world.handBuyer backing
      (put (tables .CustomerInfo) rowInDB (editClientRow (cell (tables .CustomerInfo) rowInDB)))
      (editBilling editBillingRow id (tables .BillingInfo))
      (editOrders editOrderRow (buyerOrderNums id (tables .BillingInfo)) (tables .CustomerOrder))

/-- An edit before it is confirmed. -/
def World.edit (clientType : ClientType) (id : Int32) (edit : InfoEdit) : Option (World Store) :=
  match clientType, edit with
  | .buyer, .name firstName lastName =>
    world.editBuyer backing tables (CsvClientInfo.setName (firstName.chars, lastName.chars))
      (CsvBillingInfo.setName (firstName.chars, lastName.chars))
      (CsvCustomerOrderInfo.setName (firstName.chars, lastName.chars)) id
  | .buyer, .address streetAddress city state zipCode =>
    let address : Address := ⟨streetAddress.chars, city.chars, state.chars, zipCode.chars⟩
    world.editBuyer backing tables (CsvClientInfo.setAddress address)
      (CsvBillingInfo.setAddress address) (CsvCustomerOrderInfo.setAddress address) id
  | clientType, edit => world.editClient backing tables clientType edit.apply id

/-- An order, once it is decoded. -/
def World.order (buyerID : Int32) (lines : List ItemOrder) : Option (World Store) :=
  if validateBuyerOrder lines (tables .ProductInfo) then
    (findBuyerInClientInfo buyerID (tables .CustomerInfo)).bind fun buyerRecordRow =>
      (deductOrder lines (tables .ProductInfo)).map fun deducted =>
        world.handOrder backing deducted
          (billedTable (uidAt rand now) (cell (tables .CustomerInfo) buyerRecordRow) lines
            (tables .BillingInfo))
          (orderedTable (uidAt rand now) (cell (tables .CustomerInfo) buyerRecordRow) lines
            (tables .CustomerOrder))
  else some (world.reply "[INVALID]".toList)

/-- What the server does with a request, given the tables it loads; nothing where it crashes or
does not end. -/
def Request.effect : Request → Option (World Store)
  | .newClient clientType firstName lastName _ streetAddress city state zipCode =>
    some ((world.reply (decimal (uidAt rand now))).handClients backing clientType
      (registeredTable (uidAt rand now) clientType firstName.chars lastName.chars
        streetAddress.chars city.chars state.chars zipCode.chars (tables.clients clientType)))
  | .validateID id database =>
    some (world.reply (verdict (database.holdsID id.number (tables database))))
  | .viewProducts none =>
    some (world.reply ((viewedProducts ClientType.buyer.tag (tables .ProductInfo)).flatMap
      productReply))
  | .viewProducts (some _) =>
    some (world.reply ((viewedProducts ClientType.seller.tag (tables .ProductInfo)).flatMap
      productReply))
  | .completeOrder buyerID lines =>
    world.order backing rand now tables buyerID.number (orderItems lines)
  | .viewBuyerOrders buyerID =>
    some (world.reply (buyerOrdersReply buyerID.number (tables .BillingInfo)))
  | .checkBuyer buyerID orderID =>
    (ownershipAnswer buyerID.number orderID.number (tables .BillingInfo)).map fun answer =>
      world.reply (verdict answer)
  | .orderDetails orderID =>
    some (world.reply (orderDetailsReply orderID.number (tables .ProductInfo)
      (tables .CustomerOrder)))
  | .modOrder orderID productIDtoReturn =>
    (search (fun row => row.orderId == orderID.number) (tables .CustomerOrder)).bind
      fun orderRow =>
        (search (fun row => row.orderId == orderID.number) (tables .BillingInfo)).map
          fun billRow =>
            (world.hand backing .CustomerOrder
              (removeProduct productIDtoReturn.number (tables .CustomerOrder))).hand backing
                .BillingInfo (refundedTable (tables .BillingInfo) billRow
                  (cell (tables .CustomerOrder) orderRow).totalPrice)
  | .viewBilling buyerID =>
    some (world.reply (buyerInfoReply buyerID.number (tables .CustomerInfo)))
  | .editInfo clientType clientID edit =>
    (world.edit backing tables clientType clientID.number edit).map fun final =>
      final.reply "[CONFIRMATION]".toList
  | .newProduct sellerID productName quantity price =>
    some ((world.hand backing .ProductInfo (stockedTable (uidAt rand now) sellerID.number
      productName.chars quantity.number price.number (tables .ProductInfo))).reply
        "[CONFIRMATION]".toList)
  | .deleteProd sellerID productID =>
    some (world.afterDelete backing sellerID.number productID.number (tables .ProductInfo))
  | .modQuant sellerID productID quantity =>
    some (world.afterModify backing (fun row => { row with quantity := quantity.number })
      sellerID.number productID.number (tables .ProductInfo))
  | .modPrice sellerID productID price =>
    some (world.afterModify backing (fun row => { row with price := price.number })
      sellerID.number productID.number (tables .ProductInfo))
  | .sellerOrders sellerID =>
    some (world.reply (sellerOrdersReply sellerID.number (tables .ProductInfo)
      (tables .CustomerOrder)))

end Effect

/-! ### Serving a message -/

theorem DbFile.taggedFile_tag (file : DbFile) : taggedFile file.tag = some file := by
  cases file <;> decide

theorem DbFile.length_tag (file : DbFile) : file.tag.length < 20 := by
  cases file <;> decide

theorem ClientType.clientTypeOf_tag (clientType : ClientType) :
    clientTypeOf clientType.tag = clientType := by
  cases clientType <;> decide

theorem InfoEdit.length_tag (edit : InfoEdit) : edit.tag.length < 20 := by
  cases edit with
  | name _ _ => exact (by decide : "[NAME]".toList.length < 20)
  | number _ => exact (by decide : "[NUMBER]".toList.length < 20)
  | address _ _ _ _ => exact (by decide : "[ADDRESS]".toList.length < 20)

theorem ClientType.length_tag (clientType : ClientType) : clientType.tag.length < 20 := by
  cases clientType <;> decide

/-- The lookup of an id in a file. -/
theorem validateIDTarget_joinFields {id : Text} (field : IsField id) (file : DbFile)
    (rest : Text) :
    validateIDTarget (joinFields [id, file.tag] ++ rest) = some (some file, atoi id) := by
  have isField : ∀ text ∈ [id, file.tag], IsField text := by
    simp [field, file.isField_tag]
  rw [validateIDTarget, tokens_fields isField]
  simp [strcpy_of_lt file.length_tag, file.taggedFile_tag]

theorem validateIDTarget_fields {size : Nat} (id : Token size) (file : DbFile) (rest : Text) :
    validateIDTarget (joinFields [id.val, file.tag] ++ rest) = some (some file, id.number) :=
  validateIDTarget_joinFields id.isField file rest

/-- What a seller's handler passes to the lookup is a request for the product, as long as the id
leaves room for the tag. -/
theorem sellerRequest_of_token {buffer ptr : Text} {sellerID : Int32}
    (seller : numberAt buffer 0 = some sellerID) (second : (tokens buffer)[1]? = some ptr)
    (field : IsField ptr) (short : ptr.length < 9) :
    SellerRequest buffer sellerID (atoi ptr) where
  seller := seller
  product := by
    have tag : ",[PRODUCT],".toList = ',' :: (DbFile.tag .ProductInfo ++ [',']) := by decide
    have extended : (ptr ++ ",[PRODUCT],".toList).length < 20 := by
      have suffix : ",[PRODUCT],".toList.length = 11 := by decide
      rw [List.length_append, suffix]
      omega
    refine ⟨ptr, ptr ++ ",[PRODUCT],".toList, second, rfl, ?_, ?_⟩
    · rw [productIdToValidate, strcpy_of_lt (Nat.lt_trans short (by decide))]
      simp only [Option.bind_eq_bind, Option.bind_some, strcpy_of_lt extended]
      rfl
    · have whole := validateIDTarget_joinFields field .ProductInfo []
      rw [List.append_nil, joinFields_cons, joinFields_cons, joinFields_nil] at whole
      rw [tag, whole]

/-- The lookup that a seller's request asks for. -/
theorem sellerRequest_buffer {request : Request} {sellerID : Token 20} {productID : Token 9}
    {rest : List Text} (fields : request.fields = sellerID.val :: productID.val :: rest) :
    SellerRequest request.buffer sellerID.number productID.number :=
  sellerRequest_of_token (by simp [numberAt, request.tokens_buffer, fields, Token.number])
    (by simp [request.tokens_buffer, fields]) productID.isField productID.property.2.2

section Serve

variable {Store : Type} {backing : Backing Store} {tables : Tables} {world : World Store}
variable (rand : Rand) (now : Nat)

theorem Loads.clients (loads : Loads backing world tables) (clientType : ClientType) :
    backing.loadClients world.store clientType = some (tables.clients clientType) := by
  cases clientType
  · exact loads .CustomerInfo
  · exact loads .SellerInfo

/-- An edit of one client row, as the branches of the dispatcher make it. -/
theorem run_editClient_of_loads (loads : Loads backing world tables) (clientType : ClientType)
    {edit : CsvClientInfo → Option CsvClientInfo} {apply : CsvClientInfo → CsvClientInfo}
    (edits : ∀ row, edit row = some (apply row)) (id : Int32) :
    (editClient clientType edit id).run (exec backing now) world =
      (world.editClient backing tables clientType apply id).map fun final => ((), final) := by
  rw [run_editClient backing now world edit id (loads.clients clientType), World.editClient]
  simp only [edits, Option.map_some]
  cases search (fun row => row.uuid == id) (tables.clients clientType) <;> rfl

/-- An edit of a buyer's data in three tables. -/
theorem run_editBuyer_of_loads (loads : Loads backing world tables) {Data : Type}
    {extract : Option Data} {data : Data} (extracted : extract = some data)
    (editClientRow : Data → CsvClientInfo → CsvClientInfo)
    (editBillingRow : Data → CsvBillingInfo → CsvBillingInfo)
    (editOrderRow : Data → CsvCustomerOrderInfo → CsvCustomerOrderInfo) (id : Int32) :
    (editBuyer extract editClientRow editBillingRow editOrderRow id).run (exec backing now)
        world =
      (world.editBuyer backing tables (editClientRow data) (editBillingRow data)
        (editOrderRow data) id).map fun final => ((), final) := by
  rw [run_editBuyer backing now world extract editClientRow editBillingRow editOrderRow id
    (loads .CustomerInfo) (loads .BillingInfo) (loads .CustomerOrder), World.editBuyer, extracted]
  cases search (fun row => row.uuid == id) (tables .CustomerInfo) <;> rfl

theorem extractName_fields (firstName lastName : Token 20) (rest : List Text) :
    extractName ((InfoEdit.name firstName lastName).fields ++ rest) =
      some (firstName.chars, lastName.chars) := by
  simp [extractName, InfoEdit.fields, Token.strcpy]

theorem extractNumber_fields (phoneNumber : Token 20) (rest : List Text) :
    extractNumber ((InfoEdit.number phoneNumber).fields ++ rest) = some phoneNumber.chars := by
  simp [extractNumber, InfoEdit.fields, Token.strcpy]

theorem extractAddress_fields (streetAddress city state zipCode : Token 20) (rest : List Text) :
    extractAddress ((InfoEdit.address streetAddress city state zipCode).fields ++ rest) =
      some ⟨streetAddress.chars, city.chars, state.chars, zipCode.chars⟩ := by
  simp [extractAddress, InfoEdit.fields, Token.strcpy]

/-- The branches that the sub-commands select. -/
theorem editBranch_name (clientType : ClientType) (buffer : List Text) (id : Int32) :
    editBranch clientType "[NAME]".toList buffer id =
      match clientType with
      | .buyer => buyerEditsName buffer id
      | .seller => sellerEditsName buffer id := by
  have name : strstr "[NAME]".toList "[NAME]".toList = true := by decide
  cases clientType <;> rw [editBranch, if_pos name]

theorem editBranch_number (clientType : ClientType) (buffer : List Text) (id : Int32) :
    editBranch clientType "[NUMBER]".toList buffer id =
      match clientType with
      | .buyer => buyerEditsNumber buffer id
      | .seller => sellerEditsNumber buffer id := by
  have name : ¬strstr "[NUMBER]".toList "[NAME]".toList = true := by decide
  have number : strstr "[NUMBER]".toList "[NUMBER]".toList = true := by decide
  cases clientType <;> rw [editBranch, if_neg name, if_pos number]

theorem editBranch_address (clientType : ClientType) (buffer : List Text) (id : Int32) :
    editBranch clientType "[ADDRESS]".toList buffer id =
      match clientType with
      | .buyer => buyerEditsAddress buffer id
      | .seller => sellerEditsAddress buffer id := by
  have name : ¬strstr "[ADDRESS]".toList "[NAME]".toList = true := by decide
  have number : ¬strstr "[ADDRESS]".toList "[NUMBER]".toList = true := by decide
  have address : strstr "[ADDRESS]".toList "[ADDRESS]".toList = true := by decide
  cases clientType <;> rw [editBranch, if_neg name, if_neg number, if_pos address]

/-- The sub-command of an edit selects what it does. -/
theorem run_editBranch (loads : Loads backing world tables) (clientType : ClientType)
    (id : Int32) (edit : InfoEdit) :
    (editBranch clientType edit.tag (edit.fields ++ [['\n']]) id).run (exec backing now) world =
      (world.edit backing tables clientType id edit).map fun final => ((), final) := by
  cases edit with
  | name firstName lastName =>
    rw [InfoEdit.tag_name, editBranch_name]
    cases clientType with
    | buyer =>
      rw [buyerEditsName, run_editBuyer_of_loads now loads
        (extractName_fields firstName lastName [['\n']])]
      rfl
    | seller =>
      rw [sellerEditsName, extractName_fields]
      exact run_editClient_of_loads now loads .seller (fun row => rfl) id
  | number phoneNumber =>
    rw [InfoEdit.tag_number, editBranch_number]
    cases clientType with
    | buyer =>
      rw [buyerEditsNumber, extractNumber_fields]
      exact run_editClient_of_loads now loads .buyer (fun row => rfl) id
    | seller =>
      rw [sellerEditsNumber, extractNumber_fields]
      exact run_editClient_of_loads now loads .seller (fun row => rfl) id
  | address streetAddress city state zipCode =>
    rw [InfoEdit.tag_address, editBranch_address]
    cases clientType with
    | buyer =>
      rw [buyerEditsAddress, run_editBuyer_of_loads now loads
        (extractAddress_fields streetAddress city state zipCode [['\n']])]
      rfl
    | seller =>
      rw [sellerEditsAddress, extractAddress_fields]
      exact run_editClient_of_loads now loads .seller (fun row => rfl) id

/-- An order loads every file but SellerInfo. -/
theorem run_completeOrder (loads : ∀ file, file ≠ .SellerInfo →
      backing.load world.store file = some (tables file)) (buyerID : Token 20)
    (lines : List OrderLine) :
    (executeTaskOnServer rand (Request.completeOrder buyerID lines).message).run
        (exec backing now) world =
      (Request.effect backing rand now tables world (.completeOrder buyerID lines)).map
        fun final => ((), final) := by
  rw [Request.executeTaskOnServer_message, Request.command, Command.execute,
    completeAnOrder_buffer, Request.effect]
  cases verdict : validateBuyerOrder (orderItems lines) (tables .ProductInfo) with
  | false =>
    rw [run_completeOrder_rejected backing rand now world buyerID.number
      (loads .ProductInfo (by decide)) verdict, World.order, verdict]
    rfl
  | true =>
    rw [run_completeOrder_accepted backing rand now world buyerID.number
      (loads .ProductInfo (by decide)) verdict (loads .CustomerInfo (by decide))
      (loads .BillingInfo (by decide)) (loads .CustomerOrder (by decide)), World.order, verdict,
      orderRows_orderItems]
    cases findBuyerInClientInfo buyerID.number (tables .CustomerInfo) with
    | none => rfl
    | some buyerRecordRow =>
      cases deductOrder (orderItems lines) (tables .ProductInfo) <;> rfl

/-- A new product loads ProductInfo. -/
theorem run_newProduct (tables : Tables)
    (loaded : backing.load world.store .ProductInfo = some (tables .ProductInfo))
    (sellerID productName quantity price : Token 20) :
    (executeTaskOnServer rand
        (Request.newProduct sellerID productName quantity price).message).run
        (exec backing now) world =
      (Request.effect backing rand now tables world
        (.newProduct sellerID productName quantity price)).map fun final => ((), final) := by
  rw [Request.executeTaskOnServer_message, Request.command, Command.execute]
  refine run_addNewProduct backing rand now world loaded ?_
  rw [Request.tokens_buffer]
  simp only [newProductRow, Request.fields, List.cons_append, Token.strcpy,
    Option.bind_eq_bind, Option.bind_some]
  rfl

theorem extractRegistration_newClient (clientType : ClientType)
    (firstName lastName phoneNumber streetAddress city state zipCode : Token 20) :
    extractRegistration (Request.newClient clientType firstName lastName phoneNumber
      streetAddress city state zipCode).buffer = some (clientType, ⟨firstName.val, lastName.val,
        phoneNumber.val, streetAddress.val, city.val, state.val, zipCode.val⟩) := by
  have tag : clientType.tag.length < 25 := Nat.lt_trans clientType.length_tag (by decide)
  rw [extractRegistration, Request.tokens_buffer]
  simp [Request.fields, strcpy_of_lt tag, Token.strcpy_of_le, clientType.clientTypeOf_tag]

/-- A registration loads the clients of its type. -/
theorem run_newClient (tables : Tables) (clientType : ClientType)
    (loaded : backing.loadClients world.store clientType = some (tables.clients clientType))
    (firstName lastName phoneNumber streetAddress city state zipCode : Token 20) :
    (executeTaskOnServer rand (Request.newClient clientType firstName lastName phoneNumber
        streetAddress city state zipCode).message).run (exec backing now) world =
      (Request.effect backing rand now tables world (.newClient clientType firstName lastName
        phoneNumber streetAddress city state zipCode)).map fun final => ((), final) := by
  rw [Request.executeTaskOnServer_message, Request.command, Command.execute]
  refine run_writeNewClientData backing rand now world (extractRegistration_newClient ..) loaded ?_
  simp only [registrationRow, Token.strcpy, Option.bind_eq_bind, Option.bind_some]
  rfl

/-- The server on the message of a request, run alone, has the effect of the request. -/
theorem run_message (loads : Loads backing world tables) (request : Request) :
    (executeTaskOnServer rand request.message).run (exec backing now) world =
      (request.effect backing rand now tables world).map fun final => ((), final) := by
  have tokenized := request.tokens_buffer
  have numbers (position : Nat) : numberAt request.buffer position =
      (request.fields ++ [['\n']])[position]?.map atoi := by rw [numberAt, tokenized]
  cases request with
  | newClient clientType firstName lastName phoneNumber streetAddress city state zipCode =>
    exact run_newClient rand now tables clientType (loads.clients clientType) firstName lastName
      phoneNumber streetAddress city state zipCode
  | validateID id database =>
    have target := validateIDTarget_fields id database ['\n']
    rw [Request.executeTaskOnServer_message, Request.command, Command.execute, run_bind,
      Request.buffer, Request.fields, run_validateID backing now world target (loads database)]
    rfl
  | viewProducts sellerID =>
    rw [Request.executeTaskOnServer_message, Request.command, Command.execute]
    cases sellerID with
    | none =>
      exact run_viewProducts backing now world (by rw [tokenized]; rfl)
        (strcpy_of_lt (Nat.lt_trans ClientType.buyer.length_tag (by decide))) (loads .ProductInfo)
    | some sellerID =>
      exact run_viewProducts backing now world (by rw [tokenized]; rfl)
        (strcpy_of_lt (Nat.lt_trans ClientType.seller.length_tag (by decide)))
        (loads .ProductInfo)
  | completeOrder buyerID lines =>
    exact run_completeOrder rand now (fun file _ => loads file) buyerID lines
  | viewBuyerOrders buyerID =>
    rw [Request.executeTaskOnServer_message, Request.command, Command.execute]
    exact run_buyerViewsOrder backing now world (numbers 0) (loads .BillingInfo)
  | checkBuyer buyerID orderID =>
    have buyer : numberAt (Request.checkBuyer buyerID orderID).buffer 0 = some buyerID.number :=
      numbers 0
    have order : numberAt (Request.checkBuyer buyerID orderID).buffer 1 = some orderID.number :=
      numbers 1
    rw [Request.executeTaskOnServer_message, Request.command, Command.execute, run_bind,
      run_validateOrderIsBuyers backing now world buyer order (loads .BillingInfo), Request.effect]
    cases ownershipAnswer buyerID.number orderID.number (tables .BillingInfo) <;> rfl
  | orderDetails orderID =>
    rw [Request.executeTaskOnServer_message, Request.command, Command.execute]
    exact run_readOrderDetails backing now world (numbers 0) (loads .ProductInfo)
      (loads .CustomerOrder)
  | modOrder orderID productIDtoReturn =>
    have order : numberAt (Request.modOrder orderID productIDtoReturn).buffer 0 =
        some orderID.number := numbers 0
    have product : numberAt (Request.modOrder orderID productIDtoReturn).buffer 1 =
        some productIDtoReturn.number := numbers 1
    rw [Request.executeTaskOnServer_message, Request.command, Command.execute,
      run_buyerModifiesOrder backing now world order product (loads .CustomerOrder)
        (loads .BillingInfo), Request.effect]
    cases search (fun row => row.orderId == orderID.number) (tables .CustomerOrder) with
    | none => rfl
    | some orderRow =>
      cases search (fun row => row.orderId == orderID.number) (tables .BillingInfo) <;> rfl
  | viewBilling buyerID =>
    rw [Request.executeTaskOnServer_message, Request.command, Command.execute]
    exact run_buyerViewsInfo backing now world (numbers 0) (loads .CustomerInfo)
  | editInfo clientType clientID edit =>
    rw [Request.executeTaskOnServer_message, Request.command, Command.execute, clientEditsInfo,
      tokenized]
    simp only [Request.fields, List.cons_append, strcpy_of_lt clientType.length_tag,
      strcpy_of_lt edit.length_tag, orCrash, pure_bind, clientType.clientTypeOf_tag]
    rw [run_bind, run_editBranch now loads, Request.effect, ← Token.number]
    cases world.edit backing tables clientType clientID.number edit <;> rfl
  | newProduct sellerID productName quantity price =>
    exact run_newProduct rand now tables (loads .ProductInfo) sellerID productName quantity price
  | deleteProd sellerID productID =>
    rw [Request.executeTaskOnServer_message, Request.command, Command.execute]
    exact run_deleteProduct backing now world (sellerRequest_buffer rfl) (loads .ProductInfo)
  | modQuant sellerID productID quantity =>
    rw [Request.executeTaskOnServer_message, Request.command, Command.execute, modifyQuantity]
    exact run_modifyProduct backing now world (sellerRequest_buffer rfl) (numbers 2)
      (loads .ProductInfo)
  | modPrice sellerID productID price =>
    rw [Request.executeTaskOnServer_message, Request.command, Command.execute, modifyPrice]
    exact run_modifyProduct backing now world (sellerRequest_buffer rfl) (numbers 2)
      (loads .ProductInfo)
  | sellerOrders sellerID =>
    rw [Request.executeTaskOnServer_message, Request.command, Command.execute]
    exact run_sellerViewsOrders backing now world (numbers 0) (loads .ProductInfo)
      (loads .CustomerOrder)

/-- What a request does, read off its run. -/
theorem serve_of_run {request : Request}
    (ran : (executeTaskOnServer rand request.message).run (exec backing now) world =
      (request.effect backing rand now tables world).map fun final => ((), final)) :
    serve backing rand now request.message world =
      request.effect backing rand now tables world := by
  rw [serve, ran, Option.map_map]
  exact Option.map_id'

/-- The effect of a request, served alone. -/
theorem serve_message (loads : Loads backing world tables) (request : Request) :
    serve backing rand now request.message world =
      request.effect backing rand now tables world :=
  serve_of_run rand now (run_message rand now loads request)

end Serve

end OnlineStore
