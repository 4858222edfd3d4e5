/-
This file models the client program as a session: the menus that it goes through, the messages
that it builds from what the user types, and its talk with the server.

All messages are built in one buffer that also receives the replies, and not every function
clears it first. Still, whatever the user selects and types, whatever the strings in memory are
and whatever the server answers, the client sends and receives in turn, and every message is one
that the server hands to the handler of a command that belongs to the menu. No session asks for
the orders of a seller.

The ids are kept in single characters whose addresses are used as strings, so a string that is not
read in full is taken to be any text. Buffers are long enough, and the socket does not fail.
-/

import OnlineStore.Client
import OnlineStore.Interleaving

namespace OnlineStore.Session

open CString Prog Interleaving Client

/-! ### The calls -/

/-- The functions that loop over a menu. -/
inductive Screen where
  | initialMenu
  | buyerLogin
  | sellerLogin
  | buyerMenu
  | sellerMenu
  | makeOrder
  | editInfo (type : ClientType)
  deriving DecidableEq

/-- The arrays and characters that strings are read into and that messages are built from. -/
inductive Storage where
  | buyerID
  | sellerID
  | productID
  | orderID
  | firstName
  | lastName
  | num
  | address
  | city
  | state
  | zipCode
  | quantity
  | price
  | product
  | ID
  | quantitySet
  | priceSet
  | temp

inductive Op where
  /-- Shows the options of a menu and reads the selection. -/
  | menu (screen : Screen)
  | scanf (storage : Storage)
  /-- The string that starts there. -/
  | string (storage : Storage)
  | memset
  | strcat (text : Text)
  /-- Sends the buffer. -/
  | clientSend
  /-- Sends another text. -/
  | clientSendText (text : Text)
  /-- Receives into the buffer, which has been cleared. -/
  | clientReceive
  | exit

abbrev Op.Ret : Op → Type
  | .menu _ => Int32
  | .string _ => Text
  | .clientReceive => Text
  | .exit => Empty
  | _ => Unit

abbrev SessionProg := Prog Op Op.Ret

/-- What is appended to the buffer. -/
inductive Piece where
  | text (text : Text)
  | string (storage : Storage)

def scanAll : List Storage → SessionProg Unit
  | [] => return ()
  | storage :: others => do
    Prog.perform (Op.scanf storage)
    scanAll others

def strcatAll : List Piece → SessionProg Unit
  | [] => return ()
  | .text text :: pieces => do
    Prog.perform (Op.strcat text)
    strcatAll pieces
  | .string storage :: pieces => do
    let text : Text ← Prog.perform (Op.string storage)
    Prog.perform (Op.strcat text)
    strcatAll pieces

/-- Sends the buffer, clears it and receives the reply into it. -/
def exchange : SessionProg Text := do
  Prog.perform Op.clientSend
  Prog.perform Op.memset
  Prog.perform Op.clientReceive

/-- A message of a function that clears the buffer first. -/
def request (pieces : List Piece) : SessionProg Text := do
  Prog.perform Op.memset
  strcatAll pieces
  exchange

def exit {Result : Type} : SessionProg Result := .call .exit Empty.elim

/-! ### What is sent -/

def comma : Piece := .text [',']

def registrationPieces : List Piece :=
  [.text "[NEW_CLIENT],[BUYER],".toList, .string .firstName, comma, .string .lastName, comma,
    .string .num, comma, .string .address, comma, .string .city, comma, .string .state, comma,
    .string .zipCode, comma]

/-- Both branches send the tag of a buyer. They do not clear the buffer. -/
def userRegister (type : ClientType) : SessionProg Screen := do
  scanAll [.firstName, .lastName, .num, .address, .city, .state, .zipCode]
  strcatAll registrationPieces
  let _ ← exchange
  match type with
  | .buyer => return .buyerMenu
  | .seller => return .sellerMenu

def loginPieces : ClientType → List Piece
  | .buyer => [.text "[VALIDATE_ID],".toList, .string .buyerID, .text ",[BUYER],".toList]
  | .seller => [.text "[VALIDATE_ID],".toList, .string .ID, .text ",[SELLER],".toList]

/-- The buffer is not cleared. Both branches read into `buyerID`. -/
def IDLogin (type : ClientType) : SessionProg Screen := do
  scanAll [.buyerID]
  strcatAll (loginPieces type)
  let reply ← exchange
  match type with
  | .buyer => return if reply = "[CONFIRMATION]".toList then .buyerMenu else .initialMenu
  | .seller => return if reply = "[CONFIRMATION]".toList then .sellerMenu else .initialMenu

def viewOrder : SessionProg Unit := do
  let _ ← request [.text "[VIEW_BUYER_ORDERS],".toList, .string .buyerID, comma]

def modifyOrder : SessionProg Unit := do
  scanAll [.orderID, .productID]
  let _ ← request [.text "[VALIDATE_ID],".toList, .string .orderID, .text ",[BILLING],".toList]
  let _ ← request [.text "[VALIDATE_ID],".toList, .string .productID, .text ",[ORDER],".toList]
  let reply ← request [.text "[CHECK_BUYER],".toList, .string .buyerID, comma, .string .orderID,
    comma]
  if reply = "[CONFIRMATION]".toList then do
    let _ ← request [.text "[ORDER_DETAILS],".toList, .string .productID, comma]
    let _ ← request [.text "[MOD_ORDER],".toList, .string .orderID, comma, .string .productID,
      comma]

def viewBill : SessionProg Unit := do
  let _ ← request [.text "[VIEW_BILLING],".toList, .string .buyerID, comma]

/-- The order is always the same. -/
def completeOrder : SessionProg Unit := do
  Prog.perform (Op.clientSendText "[COMPLETE_ORDER],1002,2007,2,12,".toList)
  Prog.perform Op.memset
  let _ ← Prog.perform Op.clientReceive

def viewProducts (type : ClientType) : SessionProg Unit := do
  Prog.perform Op.memset
  match type with
  | .buyer => do
    let _ ← request [.text "[VIEW_PRODUCTS],[BUYER],".toList]
  | .seller => do
    strcatAll [.text "[VIEW_PRODUCTS],[SELLER],".toList, .string .sellerID, comma]
    let _ ← exchange

/-- Nothing is sent. -/
def addProduct : SessionProg Unit :=
  scanAll [.temp, .temp]

def addNewProduct : SessionProg Unit := do
  scanAll [.product, .productID, .quantity, .price]
  let _ ← request [.text "[NEW_PRODUCT],".toList, .string .sellerID, comma, .string .product, comma,
    .string .quantity, comma, .string .price, comma]

def deleteProduct : SessionProg Unit := do
  scanAll [.ID]
  let _ ← request [.text "[DELETE_PROD],".toList, .string .sellerID, comma, .string .ID, comma]

def modifyQuantity : SessionProg Unit := do
  scanAll [.ID, .quantitySet]
  let _ ← request [.text "[MOD_QUANT],".toList, .string .sellerID, comma, .string .ID, comma,
    .string .quantitySet, comma]

def modifyPrice : SessionProg Unit := do
  scanAll [.ID, .priceSet]
  let _ ← request [.text "[MOD_PRICE],".toList, .string .sellerID, comma, .string .ID, comma,
    .string .priceSet, comma]

/-- The tag and the id of an edit. -/
def editHeader : ClientType → List Piece
  | .buyer => [.text "[EDIT_INFO],[BUYER],".toList, .string .buyerID]
  | .seller => [.text "[EDIT_INFO],[SELLER],".toList, .string .sellerID]

/-- The new data and their tag. -/
def editPieces : EditChoice → List Piece
  | .name => [.text ",[NAME],".toList, .string .firstName, comma, .string .lastName, comma]
  | .number => [.text ",[NUMBER],".toList, .string .num, comma]
  | .address => [.text ",[ADDRESS],".toList, .string .address, comma]

def EditChoice.storages : EditChoice → List Storage
  | .name => [.firstName, .lastName]
  | .number => [.num]
  | .address => [.address]

/-- A case of `editInfo`. -/
def edit (type : ClientType) (choice : EditChoice) : SessionProg Unit := do
  scanAll (EditChoice.storages choice)
  let _ ← request (editHeader type ++ editPieces choice)

/-! ### The menus -/

/-- A function of the menu, and back to the menu. -/
def back (screen : Screen) (body : SessionProg Unit) : SessionProg Screen := do
  body
  return screen

/-- One pass through the loop of a menu, with the menu that comes next. A menu that is called
never returns. -/
def Screen.loop : Screen → SessionProg Screen
  | .initialMenu => do
    Prog.perform Op.memset
    let selection : Int32 ← Prog.perform (Op.menu .initialMenu)
    if selection = 1 then return .buyerLogin
    else if selection = 2 then return .sellerLogin
    else if selection = 3 then exit
    else return .initialMenu
  | .buyerLogin => do
    let select : Int32 ← Prog.perform (Op.menu .buyerLogin)
    if select = 1 then userRegister .buyer
    else if select = 2 then IDLogin .buyer
    else if select = 3 then return .initialMenu
    else if select = 4 then exit
    else return .buyerLogin
  | .sellerLogin => do
    let select : Int32 ← Prog.perform (Op.menu .sellerLogin)
    if select = 1 then userRegister .seller
    else if select = 2 then IDLogin .seller
    else if select = 3 then return .initialMenu
    else if select = 4 then exit
    else return .sellerMenu
  | .buyerMenu => do
    let select : Int32 ← Prog.perform (Op.menu .buyerMenu)
    if select = 1 then return .makeOrder
    else if select = 2 then back .buyerMenu viewOrder
    else if select = 3 then back .buyerMenu modifyOrder
    else if select = 4 then back .buyerMenu viewBill
    else if select = 5 then return .editInfo .buyer
    else if select = 6 then return .initialMenu
    else if select = 7 then exit
    else return .buyerMenu
  | .sellerMenu => do
    let select : Int32 ← Prog.perform (Op.menu .sellerMenu)
    if select = 1 then back .sellerMenu (viewProducts .seller)
    else if select = 2 then back .sellerMenu addNewProduct
    else if select = 3 then back .sellerMenu deleteProduct
    else if select = 4 then back .sellerMenu modifyQuantity
    else if select = 5 then back .sellerMenu modifyPrice
    else if select = 6 then back .sellerMenu viewOrder
    else if select = 7 then return .editInfo .seller
    else if select = 8 then return .initialMenu
    else if select = 9 then exit
    else return .sellerMenu
  | .makeOrder => do
    let select : Int32 ← Prog.perform (Op.menu .makeOrder)
    if select = 1 then back .makeOrder (viewProducts .buyer)
    else if select = 2 then back .makeOrder addProduct
    else if select = 3 then back .makeOrder completeOrder
    else if select = 4 then return .buyerMenu
    else if select = 5 then exit
    else return .makeOrder
  | .editInfo type => do
    let select : Int32 ← Prog.perform (Op.menu (.editInfo type))
    if select = 1 then back (.editInfo type) (edit type .name)
    else if select = 2 then back (.editInfo type) (edit type .number)
    else if select = 3 then back (.editInfo type) (edit type .address)
    else if select = 4 then
      match type with
      | .buyer => return .buyerMenu
      | .seller => return .sellerMenu
    else return .editInfo type

/-- Some passes from a menu on. -/
def session : Nat → Screen → SessionProg Unit
  | 0, _ => return ()
  | passes + 1, screen => do
    let next ← screen.loop
    session passes next

/-! ### The client at work -/

inductive Event where
  /-- A message, with the menu that was shown last. -/
  | sent (screen : Screen) (text : Text)
  | received (reply : Text)
  deriving DecidableEq

/-- The menu that was shown last, the buffer, the messages and replies from the latest to the
first, and the number of calls so far. -/
structure Terminal where
  screen : Screen
  buffer : Text
  log : List Event
  calls : Nat

/-- What the user selects, the strings in memory, and what the server answers, for every call. -/
structure Surroundings where
  selection : Nat → Int32
  string : Nat → Text
  reply : Nat → Text

def exec (around : Surroundings) (terminal : Terminal) : (op : Op) → Option (op.Ret × Terminal)
  | .menu screen => some (around.selection terminal.calls,
    { terminal with screen := screen, calls := terminal.calls + 1 })
  | .scanf _ => some ((), { terminal with calls := terminal.calls + 1 })
  | .string _ => some (around.string terminal.calls, { terminal with calls := terminal.calls + 1 })
  | .memset => some ((), { terminal with buffer := [] })
  | .strcat text => some ((), { terminal with buffer := terminal.buffer ++ text })
  | .clientSend => some ((),
    { terminal with log := .sent terminal.screen terminal.buffer :: terminal.log })
  | .clientSendText text => some ((),
    { terminal with log := .sent terminal.screen text :: terminal.log })
  | .clientReceive => some (around.reply terminal.calls,
    { terminal with
      buffer := around.reply terminal.calls
      log := .received (around.reply terminal.calls) :: terminal.log
      calls := terminal.calls + 1 })
  | .exit => none

def client (around : Surroundings) : Machine Unit Terminal Op Op.Ret where
  exec := fun _ => exec around
  again := fun _ => none

/-- The client after some passes, from the start of the program. -/
def after (around : Surroundings) (passes : Nat) : Terminal :=
  (client around).alone () (session passes .initialMenu) ⟨.initialMenu, [], [], 0⟩

/-! ### What a session may send -/

/-- A reply is awaited after the events. -/
def awaiting : List Event → Bool
  | .sent _ _ :: _ => true
  | _ => false

/-- The commands of a menu. -/
def Screen.commands : Screen → List Command
  | .initialMenu => []
  | .buyerLogin => [.newClient, .validateID]
  | .sellerLogin => [.newClient, .validateID]
  | .buyerMenu => [.viewBuyerOrders, .validateID, .checkBuyer, .orderDetails, .modOrder,
    .viewBilling]
  | .sellerMenu => [.viewProducts, .newProduct, .deleteProd, .modQuant, .modPrice,
    .viewBuyerOrders]
  | .makeOrder => [.viewProducts, .completeOrder]
  | .editInfo _ => [.editInfo]

theorem Screen.sellerOrders_not_mem_commands (screen : Screen) :
    Command.sellerOrders ∉ screen.commands := by
  cases screen with
  | editInfo _ => exact (by decide : Command.sellerOrders ∉ [Command.editInfo])
  | _ => decide

/-- The menus behind the login of a buyer. -/
def Screen.ofBuyer : Screen → Bool
  | .buyerMenu => true
  | .makeOrder => true
  | .editInfo .buyer => true
  | _ => false

/-- The server finds the tag of the command in the text. -/
def Asks (command : Command) (text : Text) : Prop :=
  ∃ buffer, extractCommand text = some (command.tag, buffer)

/-- At the login of buyers, a registration was answered or an id was confirmed. -/
def Admitted (log : List Event) : Prop :=
  ∃ text reply, [.received reply, .sent .buyerLogin text] <:+: log ∧
    (Asks .newClient text ∨ reply = "[CONFIRMATION]".toList)

/-- Before the last request, the server has confirmed that an order is the buyer's. -/
def Checked (log : List Event) : Prop :=
  ∃ answer question ask earlier, log = .received answer :: .sent .buyerMenu question ::
    .received "[CONFIRMATION]".toList :: .sent .buyerMenu ask :: earlier ∧ Asks .checkBuyer ask

/-- The text may be sent from the menu after the events. -/
def Permitted (log : List Event) (screen : Screen) (text : Text) : Prop :=
  awaiting log = false ∧ (screen.ofBuyer = true → Admitted log) ∧
    ∃ command ∈ screen.commands, Asks command text ∧ (command = .modOrder → Checked log)

/-- Every message was permitted, and every reply awaited. -/
def Orderly : List Event → Prop
  | [] => True
  | .sent screen text :: earlier => Permitted earlier screen text ∧ Orderly earlier
  | .received _ :: earlier => awaiting earlier = true ∧ Orderly earlier

theorem Admitted.cons {log : List Event} (admitted : Admitted log) (event : Event) :
    Admitted (event :: log) := by
  obtain ⟨text, reply, occurs, reason⟩ := admitted
  exact ⟨text, reply, List.infix_cons occurs, reason⟩

theorem asks_tag (command : Command) (fields : Text) :
    Asks command (command.tag ++ ',' :: fields) := by
  rw [Asks, extractCommand, strtok_field command.isField_tag]
  simp only [strcpy_of_lt command.length_tag, Option.bind_eq_bind, Option.bind_some]
  split
  · exact ⟨_, rfl⟩
  · exact ⟨_, rfl⟩

/-- The server hands a text to the handler of the command that it asks for. -/
theorem Asks.executeTaskOnServer_eq {command : Command} {text : Text}
    (asks : Asks command text) :
    ∃ buffer, ∀ rand, executeTaskOnServer rand text = command.execute rand buffer := by
  obtain ⟨buffer, extracted⟩ := asks
  refine ⟨buffer, fun rand => ?_⟩
  rw [executeTaskOnServer, extracted]
  simp only [orCrash, Prog.pure_eq, Prog.pure_bind, command.commandOf_tag]

/-! ### The protocol -/

/-- The menu that was shown last, the buffer, and the messages and replies. -/
structure Place where
  screen : Screen
  buffer : Text
  log : List Event

def protocol : Protocol Op Op.Ret Place where
  allows place
    | .clientSend => Permitted place.log place.screen place.buffer
    | .clientSendText text => Permitted place.log place.screen text
    | .clientReceive => awaiting place.log = true ∧ place.buffer = []
    | _ => True
  next place
    | .menu screen, _ => { place with screen := screen }
    | .memset, _ => { place with buffer := [] }
    | .strcat text, _ => { place with buffer := place.buffer ++ text }
    | .clientSend, _ => { place with log := .sent place.screen place.buffer :: place.log }
    | .clientSendText text, _ => { place with log := .sent place.screen text :: place.log }
    | .clientReceive, reply => { place with buffer := reply, log := .received reply :: place.log }
    | _, _ => place

/-- Whatever the answers are. -/
def Talks {Result : Type} (ends : Result → Place → Prop) (place : Place)
    (program : SessionProg Result) : Prop :=
  Obeys protocol (fun _ _ _ => True) ends place program

theorem talks_scanAll (storages : List Storage) (place : Place) :
    Talks (fun _ final => final = place) place (scanAll storages) := by
  induction storages with
  | nil => exact rfl
  | cons storage others inductionHypothesis => exact ⟨trivial, fun _ _ => inductionHypothesis⟩

theorem talks_strcatAll (pieces : List Piece) (place : Place) :
    Talks (fun _ final => ∃ text, final = { place with buffer := place.buffer ++ text }) place
      (strcatAll pieces) := by
  induction pieces generalizing place with
  | nil => exact ⟨[], by rw [List.append_nil]⟩
  | cons piece pieces inductionHypothesis =>
    have appended (text : Text) : Talks
        (fun _ final => ∃ text, final = { place with buffer := place.buffer ++ text })
        { place with buffer := place.buffer ++ text } (strcatAll pieces) := by
      refine Obeys.mono (inductionHypothesis _) ?_
      rintro _ _ ⟨more, rfl⟩
      exact ⟨text ++ more, by rw [List.append_assoc]⟩
    cases piece with
    | text text => exact ⟨trivial, fun _ _ => appended text⟩
    | string storage => exact ⟨trivial, fun text _ => ⟨trivial, fun _ _ => appended text⟩⟩

/-- The place after an exchange. -/
def Place.answered (place : Place) (text reply : Text) : Place :=
  ⟨place.screen, reply, .received reply :: .sent place.screen text :: place.log⟩

/-- A message in a cleared buffer. -/
theorem talks_message {place : Place} (command : Command) (fields : Text) (pieces : List Piece)
    (cleared : place.buffer = [])
    (may : ∀ text, Asks command text → Permitted place.log place.screen text) :
    Talks (fun reply final => ∃ text, Asks command text ∧ final = place.answered text reply) place
      (strcatAll (.text (command.tag ++ ',' :: fields) :: pieces) >>= fun _ => exchange) := by
  refine ⟨trivial, fun _ _ => Obeys.bind (talks_strcatAll pieces _) ?_⟩
  rintro _ _ ⟨more, rfl⟩
  have asks : Asks command (place.buffer ++ (command.tag ++ ',' :: fields) ++ more) := by
    rw [cleared, List.nil_append, List.append_assoc, List.cons_append]
    exact asks_tag command (fields ++ more)
  exact ⟨may _ asks, fun _ _ => ⟨trivial, fun _ _ => ⟨⟨rfl, rfl⟩, fun _ _ => ⟨_, asks, rfl⟩⟩⟩⟩

theorem talks_request {place : Place} (command : Command) (fields : Text) (pieces : List Piece)
    (may : ∀ text, Asks command text → Permitted place.log place.screen text) :
    Talks (fun reply final => ∃ text, Asks command text ∧ final = place.answered text reply) place
      (request (.text (command.tag ++ ',' :: fields) :: pieces)) :=
  ⟨trivial, fun _ _ => talks_message command fields pieces rfl may⟩

/-! ### What is typed -/

/-- The strings in memory. -/
abbrev Memory := Storage → Text

def Piece.value (memory : Memory) : Piece → Text
  | .text appended => appended
  | .string storage => memory storage

/-- A string is what the memory holds. -/
def Remembers (memory : Memory) : Place → (op : Op) → op.Ret → Prop
  | _, .string storage, text => text = memory storage
  | _, _, _ => True

/-- The pieces are appended one after the other. -/
theorem appends_strcatAll (memory : Memory) (pieces : List Piece) (place : Place) :
    Obeys protocol (Remembers memory) (fun _ final => final.buffer =
      place.buffer ++ pieces.flatMap (Piece.value memory)) place (strcatAll pieces) := by
  induction pieces generalizing place with
  | nil => exact (List.append_nil _).symm
  | cons piece pieces inductionHypothesis =>
    have appended : Obeys protocol (Remembers memory) (fun _ final => final.buffer =
          place.buffer ++ (piece :: pieces).flatMap (Piece.value memory))
        { place with buffer := place.buffer ++ piece.value memory } (strcatAll pieces) := by
      refine Obeys.mono (inductionHypothesis _) fun _ final same => ?_
      rw [same, List.flatMap_cons, List.append_assoc]
    cases piece with
    | text text => exact ⟨trivial, fun _ _ => appended⟩
    | string storage =>
      refine ⟨trivial, fun text same => ⟨trivial, fun _ _ => ?_⟩⟩
      rw [show text = memory storage from same]
      exact appended

/-- The memory after the dialogue of a registration. -/
def registered (data : Registration) : Memory
  | .firstName => data.firstName
  | .lastName => data.lastName
  | .num => data.phoneNumber
  | .address => data.streetAddress
  | .city => data.city
  | .state => data.state
  | .zipCode => data.zipCode
  | _ => []

/-- The request of a registration is what is appended. -/
theorem userRegister_eq {stdin : Text} {data : Registration}
    (read : readRegistration stdin = some data) (type : ClientType) :
    Client.userRegister type stdin =
      some (registrationPieces.flatMap (Piece.value (registered data))) := by
  rw [Client.userRegister, read]
  cases type <;> simp [registrationPieces, Piece.value, registered, registrationFields, comma,
    joinFields]

/-- The request of a login, with an `ID` that nothing was read into. -/
theorem idLogin_eq {stdin rest : Text} {buyerID : CharArray 50} {memory : Memory}
    (read : scanWord 50 stdin = some (buyerID, rest)) (typed : memory .buyerID = buyerID.val)
    (unread : memory .ID = []) (type : ClientType) :
    Client.idLogin type stdin = some ((loginPieces type).flatMap (Piece.value memory)) := by
  rw [Client.idLogin, read]
  cases type <;> simp [loginPieces, Piece.value, typed, unread]

/-- The memory after the dialogue of an edit. -/
def edited (ownID first second : Text) : Memory
  | .buyerID => ownID
  | .sellerID => ownID
  | .lastName => second
  | _ => first

/-- The request of an edit is what is appended. -/
theorem editInfo_eq {type : ClientType} {choice : EditChoice} {ownID stdin message : Text}
    (built : Client.editInfo type ownID choice stdin = some message) :
    ∃ first second, message =
      (editHeader type ++ editPieces choice).flatMap (Piece.value (edited ownID first second)) := by
  cases choice with
  | name =>
    obtain ⟨⟨firstName, rest⟩, -, built⟩ := Option.bind_eq_some_iff.mp built
    obtain ⟨⟨lastName, rest⟩, -, built⟩ := Option.bind_eq_some_iff.mp built
    refine ⟨firstName.val, lastName.val, (Option.some.inj built).symm.trans ?_⟩
    cases type <;> simp [editHeader, editPieces, Piece.value, edited, joinFields, comma]
  | number =>
    obtain ⟨⟨num, rest⟩, -, built⟩ := Option.bind_eq_some_iff.mp built
    refine ⟨num.val, [], (Option.some.inj built).symm.trans ?_⟩
    cases type <;> simp [editHeader, editPieces, Piece.value, edited, joinFields, comma]
  | address =>
    obtain ⟨⟨address, rest⟩, -, built⟩ := Option.bind_eq_some_iff.mp built
    refine ⟨address.val, [], (Option.some.inj built).symm.trans ?_⟩
    cases type <;> simp [editHeader, editPieces, Piece.value, edited, joinFields, comma]

/-! ### The menus -/

/-- The place from which a menu is shown. The logins need a cleared buffer, and the menus of a
buyer an admission. -/
structure Ready (screen : Screen) (place : Place) : Prop where
  quiet : awaiting place.log = false
  cleared : screen = .buyerLogin ∨ screen = .sellerLogin → place.buffer = []
  admitted : screen.ofBuyer = true → Admitted place.log

/-- What every function of a menu keeps. -/
def Kept (screen : Screen) (place : Place) : Prop :=
  place.screen = screen ∧ awaiting place.log = false ∧ (screen.ofBuyer = true → Admitted place.log)

theorem Kept.answered {screen : Screen} {place : Place} (kept : Kept screen place)
    (text reply : Text) : Kept screen (place.answered text reply) :=
  ⟨kept.1, rfl, fun buyer => (kept.2.2 buyer).cons _ |>.cons _⟩

theorem Kept.permitted {screen : Screen} {place : Place} (kept : Kept screen place)
    (command : Command) (offered : command ∈ screen.commands) (free : command ≠ .modOrder)
    (text : Text) (asks : Asks command text) : Permitted place.log place.screen text := by
  rw [kept.1]
  exact ⟨kept.2.1, kept.2.2, command, offered, asks, fun same => absurd same free⟩

/-- A request without a condition. -/
theorem kept_request {screen : Screen} {place : Place} (kept : Kept screen place)
    (command : Command) (fields : Text) (pieces : List Piece)
    (offered : command ∈ screen.commands) (free : command ≠ .modOrder) :
    Talks (fun _ => Kept screen) place
      (request (.text (command.tag ++ ',' :: fields) :: pieces)) := by
  refine Obeys.mono (talks_request command fields pieces (kept.permitted command offered free)) ?_
  rintro reply _ ⟨text, -, rfl⟩
  exact kept.answered text reply

theorem kept_scanAll {screen : Screen} {place : Place} (kept : Kept screen place)
    (storages : List Storage) {next : Unit → SessionProg Unit}
    (continues : Talks (fun _ => Kept screen) place (next ())) :
    Talks (fun _ => Kept screen) place (scanAll storages >>= next) := by
  refine Obeys.bind (talks_scanAll storages place) ?_
  rintro _ _ rfl
  exact continues

/-- A function that reads what it needs, sends one request and returns. -/
theorem kept_scan_request {screen : Screen} {place : Place} (kept : Kept screen place)
    (storages : List Storage) (command : Command) (fields : Text) (pieces : List Piece)
    (offered : command ∈ screen.commands) (free : command ≠ .modOrder) :
    Talks (fun _ => Kept screen) place (do
      scanAll storages
      let _ ← request (.text (command.tag ++ ',' :: fields) :: pieces)) :=
  kept_scanAll kept storages
    (Obeys.bind (kept_request kept command fields pieces offered free) fun _ _ => id)

theorem kept_viewOrder {screen : Screen} {place : Place} (kept : Kept screen place)
    (offered : .viewBuyerOrders ∈ screen.commands) :
    Talks (fun _ => Kept screen) place viewOrder :=
  kept_scan_request kept [] .viewBuyerOrders [] _ offered (by decide)

theorem kept_addProduct {place : Place} (kept : Kept .makeOrder place) :
    Talks (fun _ => Kept .makeOrder) place addProduct := by
  refine Obeys.mono (talks_scanAll _ place) ?_
  rintro _ _ rfl
  exact kept

theorem kept_viewBill {place : Place} (kept : Kept .buyerMenu place) :
    Talks (fun _ => Kept .buyerMenu) place viewBill :=
  kept_scan_request kept [] .viewBilling [] _ (by decide) (by decide)

theorem kept_completeOrder {place : Place} (kept : Kept .makeOrder place) :
    Talks (fun _ => Kept .makeOrder) place completeOrder := by
  have may := kept.permitted .completeOrder (by decide) (by decide) _
    (asks_tag .completeOrder "1002,2007,2,12,".toList)
  exact ⟨may, fun _ _ => ⟨trivial, fun _ _ => ⟨⟨rfl, rfl⟩, fun _ _ => kept.answered _ _⟩⟩⟩

theorem kept_viewProducts {screen : Screen} {place : Place} (kept : Kept screen place)
    (type : ClientType) (offered : .viewProducts ∈ screen.commands) :
    Talks (fun _ => Kept screen) place (viewProducts type) := by
  have may := kept.permitted .viewProducts offered (by decide)
  unfold viewProducts
  rw [Prog.perform_bind]
  refine ⟨trivial, fun _ _ => ?_⟩
  cases type with
  | buyer =>
    refine Obeys.bind (kept_request ?_ .viewProducts "[BUYER],".toList [] offered (by decide)) ?_
    · exact kept
    · exact fun _ _ => id
  | seller =>
    rw [← Prog.bind_assoc]
    refine Obeys.bind
      (talks_message .viewProducts "[SELLER],".toList [.string .sellerID, comma] rfl may) ?_
    rintro reply _ ⟨text, -, rfl⟩
    exact kept.answered text reply

theorem kept_edit {type : ClientType} {place : Place} (kept : Kept (.editInfo type) place)
    (choice : EditChoice) : Talks (fun _ => Kept (.editInfo type)) place (edit type choice) := by
  cases type with
  | buyer =>
    exact kept_scan_request kept _ .editInfo "[BUYER],".toList _ (by decide) (by decide)
  | seller =>
    exact kept_scan_request kept _ .editInfo "[SELLER],".toList _ (by decide) (by decide)

/-- The order is modified after the confirmation, with one request between. -/
theorem kept_modifyOrder {place : Place} (kept : Kept .buyerMenu place) :
    Talks (fun _ => Kept .buyerMenu) place modifyOrder := by
  refine kept_scanAll kept [.orderID, .productID] ?_
  refine Obeys.bind (kept_request kept .validateID [] _ (by decide) (by decide)) ?_
  intro _ _ kept
  refine Obeys.bind (kept_request kept .validateID [] _ (by decide) (by decide)) ?_
  intro _ place kept
  have may := kept.permitted .checkBuyer (by decide) (by decide)
  refine Obeys.bind (talks_request .checkBuyer [] _ may) ?_
  rintro reply _ ⟨ask, asks, rfl⟩
  have asked := kept.answered ask reply
  split
  · rename_i confirmed
    subst confirmed
    have may := asked.permitted .orderDetails (by decide) (by decide)
    refine Obeys.bind (talks_request .orderDetails [] _ may) ?_
    rintro answer _ ⟨question, -, rfl⟩
    have answered := asked.answered question answer
    have checked : Checked ((place.answered ask "[CONFIRMATION]".toList).answered question
        answer).log := by
      obtain ⟨screen, buffer, log⟩ := place
      obtain rfl := kept.1
      exact ⟨answer, question, ask, log, rfl, asks⟩
    refine Obeys.bind (talks_request .modOrder [] _ fun text asks => ?_) ?_
    · rw [answered.1]
      exact ⟨rfl, answered.2.2, .modOrder, by decide, asks, fun _ => checked⟩
    · rintro reply _ ⟨text, -, rfl⟩
      exact answered.answered text reply
  · exact asked

/-! ### The loops -/

/-- Back to the menu after one of its functions. -/
theorem ready_back {screen : Screen} {place : Place} {body : SessionProg Unit}
    (login : ¬(screen = .buyerLogin ∨ screen = .sellerLogin))
    (keeps : Talks (fun _ => Kept screen) place body) :
    Talks Ready place (back screen body) := by
  refine Obeys.bind keeps ?_
  rintro _ final ⟨-, quiet, admitted⟩
  exact ⟨quiet, fun cleared => absurd cleared login, admitted⟩

theorem ready_exit (place : Place) : Talks Ready place exit :=
  ⟨trivial, fun answer => answer.elim⟩

/-- The place after a menu was shown. -/
theorem Ready.shown {screen : Screen} {place : Place} (ready : Ready screen place) :
    Kept screen { place with screen := screen } :=
  ⟨rfl, ready.quiet, ready.admitted⟩

def loginOf : ClientType → Screen
  | .buyer => .buyerLogin
  | .seller => .sellerLogin

theorem Kept.permitted_login {type : ClientType} {place : Place} (kept : Kept (loginOf type) place)
    {command : Command} (offered : command = .newClient ∨ command = .validateID) (text : Text)
    (asks : Asks command text) : Permitted place.log place.screen text := by
  refine kept.permitted command ?_ ?_ text asks
  · cases type <;> rcases offered with rfl | rfl <;> decide
  · rcases offered with rfl | rfl <;> decide

/-- What the login of a buyer admits. -/
theorem admitted_answered {place : Place} (login : place.screen = .buyerLogin) {text reply : Text}
    (reason : Asks .newClient text ∨ reply = "[CONFIRMATION]".toList) :
    Admitted (place.answered text reply).log := by
  refine ⟨text, reply, ?_, reason⟩
  rw [Place.answered, login]
  exact (List.prefix_append _ place.log).isInfix

theorem ready_userRegister {place : Place} (type : ClientType) (kept : Kept (loginOf type) place)
    (cleared : place.buffer = []) : Talks Ready place (userRegister type) := by
  have may := kept.permitted_login (.inl rfl)
  refine Obeys.bind (talks_scanAll _ place) ?_
  rintro _ _ rfl
  rw [← Prog.bind_assoc]
  refine Obeys.bind (talks_message .newClient "[BUYER],".toList _ cleared may) ?_
  rintro reply _ ⟨text, asks, rfl⟩
  cases type with
  | buyer => exact ⟨rfl, nofun, fun _ => admitted_answered kept.1 (.inl asks)⟩
  | seller => exact ⟨rfl, nofun, nofun⟩

theorem ready_IDLogin {place : Place} (type : ClientType) (kept : Kept (loginOf type) place)
    (cleared : place.buffer = []) : Talks Ready place (IDLogin type) := by
  have may := kept.permitted_login (.inr rfl)
  refine Obeys.bind (talks_scanAll _ place) ?_
  rintro _ _ rfl
  rw [← Prog.bind_assoc]
  cases type with
  | buyer =>
    refine Obeys.bind (talks_message .validateID [] _ cleared may) ?_
    rintro reply _ ⟨text, -, rfl⟩
    show Talks Ready _ (return if _ then _ else _)
    split
    · rename_i confirmed
      exact ⟨rfl, nofun, fun _ => admitted_answered kept.1 (.inr confirmed)⟩
    · exact ⟨rfl, nofun, nofun⟩
  | seller =>
    refine Obeys.bind (talks_message .validateID [] _ cleared may) ?_
    rintro reply _ ⟨text, -, rfl⟩
    show Talks Ready _ (return if _ then _ else _)
    split
    · exact ⟨rfl, nofun, nofun⟩
    · exact ⟨rfl, nofun, nofun⟩

/-- To another menu than a login, with the log as it is. -/
theorem Kept.ready {screen next : Screen} {place : Place} (kept : Kept screen place)
    (login : ¬(next = .buyerLogin ∨ next = .sellerLogin))
    (inside : next.ofBuyer = true → screen.ofBuyer = true) : Talks Ready place (return next) :=
  ⟨kept.2.1, fun cleared => absurd cleared login, fun buyer => kept.2.2 (inside buyer)⟩

theorem ready_login {place : Place} (type : ClientType) (quiet : awaiting place.log = false)
    (cleared : place.buffer = []) : Talks Ready place (return loginOf type) :=
  ⟨quiet, fun _ => cleared, by cases type <;> nofun⟩

/-- Shows a menu and reads the selection. -/
theorem talks_menu {Result : Type} {ends : Result → Place → Prop} {screen : Screen} {place : Place}
    {next : Int32 → SessionProg Result}
    (selected : ∀ select, Talks ends { place with screen := screen } (next select)) :
    Talks ends place ((Prog.perform (Op.menu screen) : SessionProg Int32) >>= next) :=
  ⟨trivial, fun select _ => selected select⟩

theorem ready_loop {screen : Screen} {place : Place} (ready : Ready screen place) :
    Talks Ready place screen.loop := by
  have kept := ready.shown
  cases screen with
  | initialMenu =>
    refine ⟨trivial, fun _ _ => talks_menu fun selection => ?_⟩
    split_ifs
    · exact ready_login .buyer ready.quiet rfl
    · exact ready_login .seller ready.quiet rfl
    · exact ready_exit _
    · exact ⟨ready.quiet, nofun, nofun⟩
  | buyerLogin =>
    have cleared := ready.cleared (.inl rfl)
    refine talks_menu fun select => ?_
    split_ifs
    · exact ready_userRegister .buyer kept cleared
    · exact ready_IDLogin .buyer kept cleared
    · exact kept.ready (by decide) (by decide)
    · exact ready_exit _
    · exact ready_login .buyer ready.quiet cleared
  | sellerLogin =>
    have cleared := ready.cleared (.inr rfl)
    refine talks_menu fun select => ?_
    split_ifs
    · exact ready_userRegister .seller kept cleared
    · exact ready_IDLogin .seller kept cleared
    · exact kept.ready (by decide) (by decide)
    · exact ready_exit _
    · exact kept.ready (by decide) (by decide)
  | buyerMenu =>
    refine talks_menu fun select => ?_
    split_ifs
    · exact kept.ready (by decide) (by decide)
    · exact ready_back (by decide) (kept_viewOrder kept (by decide))
    · exact ready_back (by decide) (kept_modifyOrder kept)
    · exact ready_back (by decide) (kept_viewBill kept)
    · exact kept.ready (by decide) (by decide)
    · exact kept.ready (by decide) (by decide)
    · exact ready_exit _
    · exact kept.ready (by decide) (by decide)
  | sellerMenu =>
    refine talks_menu fun select => ?_
    split_ifs
    · exact ready_back (by decide) (kept_viewProducts kept .seller (by decide))
    · exact ready_back (by decide)
        (kept_scan_request kept _ .newProduct [] _ (by decide) (by decide))
    · exact ready_back (by decide)
        (kept_scan_request kept _ .deleteProd [] _ (by decide) (by decide))
    · exact ready_back (by decide)
        (kept_scan_request kept _ .modQuant [] _ (by decide) (by decide))
    · exact ready_back (by decide)
        (kept_scan_request kept _ .modPrice [] _ (by decide) (by decide))
    · exact ready_back (by decide) (kept_viewOrder kept (by decide))
    · exact kept.ready (by decide) (by decide)
    · exact kept.ready (by decide) (by decide)
    · exact ready_exit _
    · exact kept.ready (by decide) (by decide)
  | makeOrder =>
    refine talks_menu fun select => ?_
    split_ifs
    · exact ready_back (by decide) (kept_viewProducts kept .buyer (by decide))
    · exact ready_back (by decide) (kept_addProduct kept)
    · exact ready_back (by decide) (kept_completeOrder kept)
    · exact kept.ready (by decide) (by decide)
    · exact ready_exit _
    · exact kept.ready (by decide) (by decide)
  | editInfo type =>
    refine talks_menu fun select => ?_
    split_ifs
    · exact ready_back nofun (kept_edit kept _)
    · exact ready_back nofun (kept_edit kept _)
    · exact ready_back nofun (kept_edit kept _)
    · cases type with
      | buyer => exact kept.ready (by decide) (by decide)
      | seller => exact kept.ready (by decide) (by decide)
    · exact kept.ready nofun id

theorem talks_session (passes : Nat) {screen : Screen} {place : Place}
    (ready : Ready screen place) : Talks (fun _ _ => True) place (session passes screen) := by
  induction passes generalizing screen place with
  | zero => exact trivial
  | succ passes inductionHypothesis =>
    exact Obeys.bind (ready_loop ready) fun _ _ => inductionHypothesis

/-! ### Whole sessions -/

/-- The place is what the terminal shows. -/
def Shows (terminal : Terminal) (place : Place) : Prop :=
  place = ⟨terminal.screen, terminal.buffer, terminal.log⟩ ∧ Orderly terminal.log

/-- What a call does to the terminal, the protocol does to the place. -/
theorem shows_exec {around : Surroundings} {terminal next : Terminal} {op : Op} {answer : op.Ret}
    {place : Place} (shows : Shows terminal place) (allowed : protocol.allows place op)
    (called : exec around terminal op = some (answer, next)) :
    Shows next (protocol.next place op answer) := by
  obtain ⟨rfl, orderly⟩ := shows
  cases op with
  | exit => cases called
  | clientSend =>
    cases called
    exact ⟨rfl, allowed, orderly⟩
  | clientSendText text =>
    cases called
    exact ⟨rfl, allowed, orderly⟩
  | clientReceive =>
    cases called
    exact ⟨rfl, allowed.1, orderly⟩
  | _ =>
    cases called
    exact ⟨rfl, orderly⟩

theorem Orderly.permitted {log : List Event} (orderly : Orderly log) {screen : Screen}
    {text : Text} (sent : .sent screen text ∈ log) :
    ∃ earlier, Permitted earlier screen text := by
  induction log with
  | nil => cases sent
  | cons event earlier inductionHypothesis =>
    rcases List.mem_cons.mp sent with rfl | before
    · exact ⟨earlier, orderly.1⟩
    · cases event with
      | sent _ _ => exact inductionHypothesis orderly.2 before
      | received _ => exact inductionHypothesis orderly.2 before

/-- Every message of the client was permitted and every reply awaited. -/
theorem orderly_after (around : Surroundings) (passes : Nat) :
    Orderly (after around passes).log := by
  have ready : Ready .initialMenu ⟨.initialMenu, [], []⟩ := ⟨rfl, nofun, nofun⟩
  have starts : Shows ⟨.initialMenu, [], [], 0⟩ ⟨.initialMenu, [], []⟩ := ⟨rfl, trivial⟩
  have keeps (terminal : Terminal) (place : Place) (op : Op) (answer : op.Ret) (next : Terminal)
      (shows : Shows terminal place) (allowed : protocol.allows place op)
      (called : (client around).exec () terminal op = some (answer, next)) :
      True ∧ Shows next (protocol.next place op answer) :=
    ⟨trivial, shows_exec shows allowed called⟩
  obtain ⟨_, -, orderly⟩ :=
    Machine.exists_phase_of_alone keeps starts (talks_session passes ready)
  exact orderly

/-- In every session the client sends and receives in turn. A message from a menu is handed to
the handler of a command of the menu. A buyer's menu sends only after a registration or a
confirmed login, and an order is modified only after it was confirmed to be the buyer's. -/
theorem session_sound (around : Surroundings) (passes : Nat) :
    Orderly (after around passes).log ∧
      ∀ screen text, .sent screen text ∈ (after around passes).log →
        ∃ command ∈ screen.commands, ∃ buffer, ∀ rand,
          executeTaskOnServer rand text = command.execute rand buffer := by
  refine ⟨orderly_after around passes, fun screen text sent => ?_⟩
  obtain ⟨-, -, -, command, offered, asks, -⟩ := (orderly_after around passes).permitted sent
  exact ⟨command, offered, asks.executeTaskOnServer_eq⟩

/-- The command for the orders of a seller is out of reach. -/
theorem not_asks_sellerOrders (around : Surroundings) (passes : Nat) {screen : Screen}
    {text : Text} (sent : .sent screen text ∈ (after around passes).log) :
    ¬Asks .sellerOrders text := by
  rintro ⟨_, extracted⟩
  obtain ⟨-, -, -, command, offered, ⟨_, other⟩, -⟩ := (orderly_after around passes).permitted sent
  rw [extracted] at other
  have same : Command.sellerOrders = command := by
    have tags : Command.sellerOrders.tag = command.tag := congrArg Prod.fst (Option.some.inj other)
    have known := Command.commandOf_tag .sellerOrders
    rw [tags, command.commandOf_tag] at known
    exact (Option.some.inj known).symm
  subst same
  exact screen.sellerOrders_not_mem_commands offered

/-- A seller's menu is reached without a login, by a selection that the login does not offer. -/
example : (after ⟨fun call => [2, 9, 6].getD call 9, fun _ => "1001".toList, fun _ => []⟩ 3).log =
    [.received [], .sent .sellerMenu "[VIEW_BUYER_ORDERS],1001,".toList] := by
  decide

end OnlineStore.Session
