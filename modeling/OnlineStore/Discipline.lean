/-
This file checks the data server against the list of its database actions, which says for every
request which files it reads and which it writes, and that all of this happens under the locks of
the files, except that an order reads CustomerInfo without its lock.

Every message keeps to the list, well formed or not: no handler loads or writes a file that the
list does not have for it under any outcome of its checks, and a file is loaded in a read section
of it or while its semaphore for writing is held. One check of the list is not kept: what it has
the owner of a product write is written for every seller. Together with the locks this says what a
thread can see. As long as lookups find their ids, whatever a thread reads is what the last finished
write-back of the file has left, in all interleavings of all requests, with the one exception of
an order that reads CustomerInfo. The locks are taken in the documented order
(`keepsLockOrder_of_reaches`).
-/

import OnlineStore.Locking
import OnlineStore.Stock
import OnlineStore.Tasks

namespace OnlineStore.Concurrency

open CString Cells Prog Interleaving ReaderWriter

/-! ### The documented actions -/

/-- The files that a request reads under their locks, those that it reads without, those that it
writes, and those that it writes only if the seller owns the product. -/
structure Actions where
  reads : List DbFile
  unlocked : List DbFile
  writes : List DbFile
  ownerWrites : List DbFile

def Actions.none : Actions := ⟨[], [], [], []⟩

def Actions.look (files : List DbFile) : Actions := ⟨files, [], [], []⟩

/-- Files are read, changed and written. -/
def Actions.change (files : List DbFile) : Actions := ⟨files, [], files, []⟩

/-- Files are read, and written if the seller owns the product. -/
def Actions.changeOwn (files : List DbFile) : Actions := ⟨files, [], [], files⟩

/-- The actions of an edit. -/
def editActions (subCommand : Text) : ClientType → Actions
  | .buyer =>
    if strstr subCommand "[NAME]".toList then
      .change [.CustomerInfo, .BillingInfo, .CustomerOrder]
    else if strstr subCommand "[NUMBER]".toList then .change [.CustomerInfo]
    else if strstr subCommand "[ADDRESS]".toList then
      .change [.CustomerInfo, .BillingInfo, .CustomerOrder]
    else .none
  | .seller =>
    if strstr subCommand "[NAME]".toList then .change [.SellerInfo]
    else if strstr subCommand "[NUMBER]".toList then .change [.SellerInfo]
    else if strstr subCommand "[ADDRESS]".toList then .change [.SellerInfo]
    else .none

/-- The actions of an order. -/
def orderActions : Actions :=
  ⟨[.ProductInfo, .BillingInfo, .CustomerOrder], [.CustomerInfo],
    [.ProductInfo, .BillingInfo, .CustomerOrder], []⟩

def commandActions (buffer : Text) : Command → Actions
  | .newClient =>
    match extractRegistration buffer with
    | some (clientType, _) => .change [clientType.file]
    | none => .none
  | .validateID =>
    match validateIDTarget buffer with
    | some (some file, _) => .look [file]
    | _ => .none
  | .viewProducts => .look [.ProductInfo]
  | .completeOrder => orderActions
  | .viewBuyerOrders => .look [.BillingInfo]
  | .checkBuyer => .look [.BillingInfo]
  | .orderDetails => .look [.CustomerOrder, .ProductInfo]
  | .modOrder => .change [.CustomerOrder, .BillingInfo]
  | .viewBilling => .look [.CustomerInfo]
  | .editInfo =>
    match tokens buffer with
    | clientType :: _ :: subCommand :: _ => editActions subCommand (clientTypeOf clientType)
    | _ => .none
  | .newProduct => .change [.ProductInfo]
  | .deleteProd => .changeOwn [.ProductInfo]
  | .modQuant => .changeOwn [.ProductInfo]
  | .modPrice => .changeOwn [.ProductInfo]
  | .sellerOrders => .look [.ProductInfo, .CustomerOrder]

/-- The actions that the list has for the handling of a message. Those that it has only if an id
is found or an order is valid are here whatever the check finds. -/
def actions (message : Text) : Actions :=
  match extractCommand message with
  | some (command, buffer) =>
    match commandOf command with
    | some command => commandActions buffer command
    | none => .none
  | none => .none

/-- The message asks to complete an order. -/
def isOrder (message : Text) : Prop :=
  ∃ command buffer, extractCommand message = some (command, buffer) ∧
    commandOf command = some .completeOrder

theorem editActions_unlocked (subCommand : Text) (clientType : ClientType) :
    (editActions subCommand clientType).unlocked = [] := by
  cases clientType <;>
  · rw [editActions]
    split_ifs <;> rfl

/-- Only an order reads without a lock, and only CustomerInfo. -/
theorem completeOrder_of_unlocked {buffer : Text} {command : Command} {file : DbFile}
    (unlocked : file ∈ (commandActions buffer command).unlocked) :
    command = .completeOrder ∧ file = .CustomerInfo := by
  cases command with
  | completeOrder => exact ⟨rfl, List.mem_singleton.mp unlocked⟩
  | newClient =>
    rw [commandActions] at unlocked
    split at unlocked <;> exact absurd unlocked List.not_mem_nil
  | validateID =>
    rw [commandActions] at unlocked
    split at unlocked <;> exact absurd unlocked List.not_mem_nil
  | editInfo =>
    rw [commandActions] at unlocked
    split at unlocked
    · rw [editActions_unlocked] at unlocked
      exact absurd unlocked List.not_mem_nil
    · exact absurd unlocked List.not_mem_nil
  | _ => exact absurd unlocked List.not_mem_nil

theorem order_of_unlocked {message : Text} {file : DbFile}
    (unlocked : file ∈ (actions message).unlocked) : isOrder message ∧ file = .CustomerInfo := by
  rw [actions] at unlocked
  cases extracted : extractCommand message with
  | none =>
    rw [extracted] at unlocked
    exact absurd unlocked List.not_mem_nil
  | some parts =>
    obtain ⟨text, buffer⟩ := parts
    rw [extracted] at unlocked
    cases known : commandOf text with
    | none =>
      simp only [known] at unlocked
      exact absurd unlocked List.not_mem_nil
    | some command =>
      simp only [known] at unlocked
      obtain ⟨rfl, same⟩ := completeOrder_of_unlocked unlocked
      exact ⟨⟨text, buffer, extracted, known⟩, same⟩

/-! ### Keeping to the list -/

/-- A file may be loaded. -/
def Actions.MayLoad (actions : Actions) (phase : Phase) (file : DbFile) : Prop :=
  (file ∈ actions.reads ∧
      (phase.positions file = .reading ∨ phase.positions file = .writing)) ∨
    file ∈ actions.unlocked

/-- A file may be written. The condition of the list is not kept: a product of another seller is
refused, and the table of the products is written back all the same. -/
def Actions.MayChange (actions : Actions) (file : DbFile) : Prop :=
  file ∈ actions.writes ∨ file ∈ actions.ownerWrites

instance (actions : Actions) (file : DbFile) : Decidable (actions.MayChange file) :=
  inferInstanceAs (Decidable (file ∈ actions.writes ∨ file ∈ actions.ownerWrites))

/-- The protocol of handlers that keep to the list. -/
def listedProtocol (lenient : Bool) (actions : Actions) : Protocol TableOp TableOp.Ret Phase where
  allows
    | phase, .sys op => phase.SysMayCall lenient op
    | phase, .load file => actions.MayLoad phase file
    | phase, .writeBack file _ =>
      phase.MayWrite file 1 ∧ file ∈ actions.reads ∧ actions.MayChange file
  next := (tableProtocol lenient).next

abbrev Keeps (lenient : Bool) (message : Text) (actions : Actions) {Result : Type}
    (phase last : Phase) (handler : Handler Result) : Prop :=
  Obeys (listedProtocol lenient actions) (tableAnswers lenient message)
    (fun _ phase => phase = last) phase handler

/-- The handler touches no file. -/
def Quiet {Result : Type} : Handler Result → Prop
  | .pure _ => True
  | .call (.sys _) rest => ∀ answer, Quiet (rest answer)
  | .call _ _ => False

section Rules

variable {lenient : Bool} {message : Text} {actions : Actions} {Result Outcome : Type}
variable {phase middle last : Phase}

theorem Quiet.bind {handler : Handler Result} {next : Result → Handler Outcome}
    (first : Quiet handler) (second : ∀ result, Quiet (next result)) :
    Quiet (handler >>= next) := by
  induction handler with
  | pure result => exact second result
  | call op rest inductionHypothesis =>
    cases op with
    | sys op => exact fun answer => inductionHypothesis answer (first answer)
    | load file => exact first.elim
    | writeBack file table => exact first.elim

theorem quiet_sys (op : SysOp) : Quiet (sys op) := fun _ => trivial

theorem quiet_crash : Quiet (crash : Handler Result) := fun answer => answer.elim

theorem quiet_orCrash (value : Option Result) : Quiet (orCrash value) := by
  cases value with
  | none => exact fun answer => answer.elim
  | some value => exact trivial

theorem quiet_readerEntry (file : DbFile) : Quiet (readerEntry file) := by
  refine (quiet_sys _).bind fun _ => (quiet_sys _).bind fun _ =>
    (quiet_sys _).bind fun readers => ?_
  dsimp only
  split
  · exact (quiet_sys _).bind fun _ => quiet_sys _
  · exact quiet_sys _

theorem quiet_readerExit (file : DbFile) : Quiet (readerExit file) := by
  refine (quiet_sys _).bind fun _ => (quiet_sys _).bind fun _ =>
    (quiet_sys _).bind fun readers => ?_
  dsimp only
  split
  · exact (quiet_sys _).bind fun _ => quiet_sys _
  · exact quiet_sys _

/-- A handler that touches no file keeps to any list. -/
theorem Quiet.keeps {handler : Handler Result} (quiet : Quiet handler)
    (leads : Leads lenient message phase last handler) :
    Keeps lenient message actions phase last handler := by
  induction handler generalizing phase with
  | pure result => exact leads
  | call op rest inductionHypothesis =>
    cases op with
    | sys op =>
      exact ⟨leads.1, fun answer admitted =>
        inductionHypothesis answer (quiet answer) (leads.2 answer admitted)⟩
    | load file => exact quiet.elim
    | writeBack file table => exact quiet.elim

theorem Keeps.bind {handler : Handler Result} {next : Result → Handler Outcome}
    (first : Keeps lenient message actions phase middle handler)
    (second : ∀ result, Keeps lenient message actions middle last (next result)) :
    Keeps lenient message actions phase last (handler >>= next) := by
  refine Obeys.bind first ?_
  rintro result _ rfl
  exact second result

theorem keeps_pure {result : Result} : Keeps lenient message actions phase phase (.pure result) :=
  rfl

theorem keeps_orCrash {value : Option Result} :
    Keeps lenient message actions phase phase (orCrash value) :=
  (quiet_orCrash value).keeps leads_orCrash

theorem keeps_orCrash_bind {value : Option Result} {next : Result → Handler Outcome}
    (follows : ∀ result, value = some result →
      Keeps lenient message actions phase last (next result)) :
    Keeps lenient message actions phase last (orCrash value >>= next) := by
  cases value with
  | none => exact obeys_call.mpr ⟨sysMayCall_free rfl, fun answer => answer.elim⟩
  | some result => exact follows result rfl

theorem keeps_writeSocket {text : Text} :
    Keeps lenient message actions phase phase (writeSocket text) :=
  (quiet_sys _).keeps leads_writeSocket

theorem keeps_generateUID {rand : Rand} :
    Keeps lenient message actions phase phase (generateUID rand) :=
  Quiet.keeps (fun _ => trivial) leads_generateUID

theorem keeps_waitWrt {held reads : List DbFile} (file : DbFile)
    (order : ∀ other ∈ held, rank other < rank file) :
    Keeps lenient message actions (.writer held reads)
      (.writer (file :: held) (reads.filter fun other => other ≠ file)) (semWait (.wrt file)) :=
  (quiet_sys _).keeps (leads_waitWrt file order)

theorem keeps_postWrt {held reads : List DbFile} (file : DbFile) (member : file ∈ held) :
    Keeps lenient message actions (.writer held reads)
      (.writer (held.filter fun other => other ≠ file) (reads.filter fun other => other ≠ file))
      (semPost (.wrt file)) :=
  (quiet_sys _).keeps (leads_postWrt file member)

theorem keeps_loadTable (file : DbFile) (may : actions.MayLoad phase file) :
    Keeps lenient message actions phase (phase.read file) (loadTable file) :=
  obeys_call.mpr ⟨may, fun _ _ => rfl⟩

/-- A writer loads a file that it holds. -/
theorem keeps_loadTable_held {held reads : List DbFile} (file : DbFile) (member : file ∈ held)
    (listed : file ∈ actions.reads) :
    Keeps lenient message actions (.writer held reads) ((Phase.writer held reads).read file)
      (loadTable file) :=
  keeps_loadTable file (.inl ⟨listed, .inr (if_pos member)⟩)

theorem keeps_writeBack {held reads : List DbFile} (file : DbFile) {table : List file.Row}
    (member : file ∈ held) (read : 1 ≤ reads.count file) (listed : file ∈ actions.reads)
    (writes : actions.MayChange file) :
    Keeps lenient message actions (.writer held reads) ((Phase.writer held reads).read file)
      (writeBack file table) :=
  obeys_call.mpr ⟨⟨⟨member, read⟩, listed, writes⟩, fun _ _ => rfl⟩

theorem keeps_writeBack_postWrt (file : DbFile) {table : List file.Row}
    (listed : file ∈ actions.reads) (writes : actions.MayChange file) :
    Keeps lenient message actions (.writer [file] [file]) .home (do
      writeBack file table
      semPost (.wrt file)) := by
  refine (keeps_writeBack file (List.mem_singleton.mpr rfl) (by simp) listed writes).bind
    fun _ => ?_
  cases file <;> exact keeps_postWrt _ (by decide)

theorem keeps_readerEntry (file : DbFile) :
    Keeps lenient message actions .home (.reader file .reading) (readerEntry file) :=
  (quiet_readerEntry file).keeps (leads_readerEntry file)

theorem keeps_readerExit (file : DbFile) :
    Keeps lenient message actions (.reader file .reading) .home (readerExit file) :=
  (quiet_readerExit file).keeps (leads_readerExit file)

/-- A reader loads the file of its read section. -/
theorem mayLoad_reading {file : DbFile} (listed : file ∈ actions.reads) :
    actions.MayLoad (.reader file .reading) file :=
  .inl ⟨listed, .inl (if_pos rfl)⟩

theorem keeps_readTable (file : DbFile) (listed : file ∈ actions.reads)
    {rest : List file.Row → Handler Result}
    (follows : ∀ table, Keeps lenient message actions .home .home (rest table)) :
    Keeps lenient message actions .home .home (do
      readerEntry file
      let table ← loadTable file
      readerExit file
      rest table) :=
  (keeps_readerEntry file).bind fun _ =>
    (keeps_loadTable file (mayLoad_reading listed)).bind fun table =>
      (keeps_readerExit file).bind fun _ => follows table

end Rules

/-! ### The handlers -/

section Handlers

variable {lenient : Bool} {message : Text} {actions : Actions} (rand : Rand) (buffer : Text)

theorem keeps_validateIDIn {file : DbFile} {idToValidate : Int32}
    (asked : lookup message = some (file, idToValidate)) (listed : file ∈ actions.reads) :
    Keeps lenient message actions .home .home (validateIDIn file idToValidate) := by
  refine (keeps_readerEntry file).bind fun _ => ?_
  refine obeys_call.mpr ⟨mayLoad_reading listed, ?_⟩
  rintro _ ⟨table, rfl, holds⟩
  refine (keeps_readerExit file).bind fun _ => ?_
  by_cases found : file.holdsID idToValidate table = true
  · rw [if_pos found]
    exact keeps_pure
  · rw [if_neg found]
    have admitted : lenient = true := by
      by_contra strict
      exact found (holds (Bool.eq_false_iff.mpr strict) (if_pos rfl) idToValidate asked)
    exact ((quiet_readerExit file).keeps (leads_readerExit_again file admitted)).bind
      fun _ => keeps_pure

variable {buffer} in
theorem keeps_validateID (asked : ∀ file idToValidate,
    validateIDTarget buffer = some (some file, idToValidate) →
      lookup message = some (file, idToValidate) ∧ file ∈ actions.reads) :
    Keeps lenient message actions .home .home (validateID buffer) := by
  refine keeps_orCrash_bind fun target same => ?_
  obtain ⟨file, idToValidate⟩ := target
  cases file with
  | none => exact keeps_pure
  | some file => exact keeps_validateIDIn (asked _ _ same).1 (asked _ _ same).2

theorem keeps_viewProducts (listed : .ProductInfo ∈ actions.reads) :
    Keeps lenient message actions .home .home (viewProducts buffer) := by
  refine keeps_orCrash.bind fun ptr => keeps_orCrash.bind fun clientType => ?_
  refine (keeps_readerEntry .ProductInfo).bind fun _ => ?_
  refine obeys_call.mpr ⟨mayLoad_reading listed, ?_⟩
  rintro _ ⟨table, rfl, -⟩
  exact (keeps_readerExit .ProductInfo).bind fun _ => keeps_writeSocket

theorem keeps_validateOrderIsBuyers (listed : .BillingInfo ∈ actions.reads) :
    Keeps lenient message actions .home .home (validateOrderIsBuyers buffer) := by
  refine keeps_orCrash.bind fun _ => keeps_orCrash.bind fun _ =>
    keeps_readTable .BillingInfo listed fun billingInfo => ?_
  dsimp only
  split_ifs
  · exact keeps_pure
  · exact keeps_pure
  · exact Quiet.keeps (fun answer => answer.elim) leads_spin

/-- One file is loaded, changed and written under its semaphore. -/
theorem keeps_update (file : DbFile) (listed : file ∈ actions.reads)
    {rest : List file.Row → Handler Unit}
    (follows : ∀ table, Keeps lenient message actions (.writer [file] [file]) .home (rest table)) :
    Keeps lenient message actions .home .home (do
      semWait (.wrt file)
      let table ← loadTable file
      rest table) := by
  refine (keeps_waitWrt file (fun _ member => absurd member List.not_mem_nil)).bind fun _ => ?_
  refine (keeps_loadTable_held file (List.mem_singleton.mpr rfl) listed).bind fun table => ?_
  rw [Phase.read, if_pos (List.mem_singleton.mpr rfl)]
  exact follows table

theorem keeps_writeNewClientData {clientType : ClientType} {data : Registration}
    (extracted : extractRegistration buffer = some (clientType, data))
    (listed : clientType.file ∈ actions.reads) (writes : actions.MayChange clientType.file) :
    Keeps lenient message actions .home .home (writeNewClientData rand buffer) := by
  rw [writeNewClientData, extracted]
  refine keeps_generateUID.bind fun uuid => ?_
  cases clientType with
  | buyer =>
    exact keeps_update .CustomerInfo listed fun _ => keeps_orCrash.bind fun _ =>
      keeps_writeSocket.bind fun _ => keeps_writeBack_postWrt .CustomerInfo listed writes
  | seller =>
    exact keeps_update .SellerInfo listed fun _ => keeps_orCrash.bind fun _ =>
      keeps_writeSocket.bind fun _ => keeps_writeBack_postWrt .SellerInfo listed writes

theorem keeps_addNewProduct (listed : .ProductInfo ∈ actions.reads)
    (writes : actions.MayChange .ProductInfo) :
    Keeps lenient message actions .home .home (addNewProduct rand buffer) := by
  refine keeps_update .ProductInfo listed fun _ => keeps_generateUID.bind fun _ =>
    keeps_orCrash.bind fun _ => ?_
  exact (keeps_writeBack_postWrt .ProductInfo listed writes).bind fun _ => keeps_writeSocket

theorem keeps_buyerViewsOrder (listed : .BillingInfo ∈ actions.reads) :
    Keeps lenient message actions .home .home (buyerViewsOrder buffer) :=
  keeps_orCrash.bind fun _ => keeps_readTable .BillingInfo listed fun _ => keeps_writeSocket

theorem keeps_buyerViewsInfo (listed : .CustomerInfo ∈ actions.reads) :
    Keeps lenient message actions .home .home (buyerViewsInfo buffer) :=
  keeps_orCrash.bind fun _ => keeps_readTable .CustomerInfo listed fun _ => keeps_writeSocket

theorem keeps_sellerViewsOrders (products : .ProductInfo ∈ actions.reads)
    (orders : .CustomerOrder ∈ actions.reads) :
    Keeps lenient message actions .home .home (sellerViewsOrders buffer) :=
  keeps_orCrash.bind fun _ => keeps_readTable .ProductInfo products fun _ =>
    keeps_readTable .CustomerOrder orders fun _ => keeps_writeSocket

theorem keeps_readOrderDetails (orders : .CustomerOrder ∈ actions.reads)
    (products : .ProductInfo ∈ actions.reads) :
    Keeps lenient message actions .home .home (readOrderDetails buffer) :=
  keeps_orCrash.bind fun _ => keeps_readTable .CustomerOrder orders fun _ =>
    keeps_readTable .ProductInfo products fun _ => keeps_writeSocket

variable {buffer} in
/-- The text that a seller's handler passes to the lookup asks for a product. -/
theorem target_of_productIdToValidate {position : Nat} {toValidate : Text}
    (copied : (tokens buffer)[position]?.bind productIdToValidate = some toValidate) :
    ∃ productID, validateIDTarget toValidate = some (some .ProductInfo, productID) := by
  obtain ⟨ptr, found, copied⟩ := Option.bind_eq_some_iff.mp copied
  have field : IsField ptr := isField_of_mem_tokens (List.mem_of_getElem? found)
  have short : ptr.length < 9 := by
    by_contra long
    rw [productIdToValidate_eq_none (Nat.le_of_not_lt long)] at copied
    cases copied
  have extended : (ptr ++ ",[PRODUCT],".toList).length < 20 := by
    have suffix : ",[PRODUCT],".toList.length = 11 := by decide
    rw [List.length_append, suffix]
    omega
  rw [productIdToValidate, strcpy_of_lt (Nat.lt_trans short (by decide))] at copied
  simp only [Option.bind_eq_bind, Option.bind_some, strcpy_of_lt extended] at copied
  obtain rfl := Option.some.inj copied
  have tag : ",[PRODUCT],".toList = ',' :: (DbFile.tag .ProductInfo ++ [',']) := by decide
  have whole := validateIDTarget_joinFields field .ProductInfo []
  rw [List.append_nil, joinFields_cons, joinFields_cons, joinFields_nil] at whole
  exact ⟨atoi ptr, by rw [tag, whole]⟩

variable {buffer} in
theorem keeps_deleteProduct
    (asked : AsksFor message ((tokens buffer)[1]?.bind productIdToValidate))
    (listed : .ProductInfo ∈ actions.reads) (writes : actions.MayChange .ProductInfo) :
    Keeps lenient message actions .home .home (deleteProduct buffer) := by
  refine keeps_orCrash.bind fun sellerID => keeps_orCrash_bind fun ptr found =>
    keeps_orCrash_bind fun text copied => ?_
  have asks : (tokens buffer)[1]?.bind productIdToValidate = some text := by
    rw [found]
    exact copied
  refine (keeps_validateID fun file idToValidate target =>
    ⟨asked text asks file idToValidate target, ?_⟩).bind fun valid => ?_
  · obtain ⟨productID, same⟩ := target_of_productIdToValidate asks
    rw [same] at target
    cases target
    exact listed
  · split
    · refine keeps_update .ProductInfo listed fun pList => ?_
      split_ifs
      · exact keeps_writeSocket.bind fun _ =>
          (keeps_writeBack_postWrt .ProductInfo listed writes).bind fun _ => keeps_writeSocket
      · exact Keeps.bind ((quiet_sys _).keeps (leads_free rfl)) fun _ =>
          (keeps_writeBack_postWrt .ProductInfo listed writes).bind fun _ => keeps_writeSocket
    · exact keeps_writeSocket

variable {buffer} in
theorem keeps_modifyProduct (modify : Int32 → CsvProductInfo → CsvProductInfo)
    (asked : AsksFor message ((tokens buffer)[1]?.bind productIdToValidate))
    (listed : .ProductInfo ∈ actions.reads) (writes : actions.MayChange .ProductInfo) :
    Keeps lenient message actions .home .home (modifyProduct modify buffer) := by
  refine keeps_orCrash.bind fun sellerID => keeps_orCrash_bind fun ptr found =>
    keeps_orCrash_bind fun text copied => keeps_orCrash.bind fun value => ?_
  have asks : (tokens buffer)[1]?.bind productIdToValidate = some text := by
    rw [found]
    exact copied
  refine (keeps_validateID fun file idToValidate target =>
    ⟨asked text asks file idToValidate target, ?_⟩).bind fun valid => ?_
  · obtain ⟨productID, same⟩ := target_of_productIdToValidate asks
    rw [same] at target
    cases target
    exact listed
  · split
    · refine keeps_update .ProductInfo listed fun pList => ?_
      dsimp only
      split_ifs
      · exact keeps_writeSocket.bind fun _ =>
          (keeps_writeBack_postWrt .ProductInfo listed writes).bind fun _ => keeps_writeSocket
      · exact (keeps_writeBack_postWrt .ProductInfo listed writes).bind fun _ => keeps_writeSocket
    · exact keeps_writeSocket

/-- An order loads CustomerInfo without its lock. -/
theorem keeps_completeAnOrder :
    Keeps lenient message orderActions .home .home (completeAnOrder rand buffer) := by
  refine keeps_orCrash.bind fun decoded => keeps_orCrash.bind fun orderList => ?_
  refine (keeps_waitWrt .ProductInfo (by decide)).bind fun _ =>
    (keeps_waitWrt .BillingInfo (by decide)).bind fun _ =>
      (keeps_waitWrt .CustomerOrder (by decide)).bind fun _ =>
        (keeps_loadTable_held .ProductInfo (by decide) (by decide)).bind fun productList => ?_
  split_ifs
  · refine (keeps_loadTable .CustomerInfo (.inr (List.mem_singleton.mpr rfl))).bind
      fun buyerList =>
        (keeps_loadTable_held .BillingInfo (by decide) (by decide)).bind fun billingInfo =>
          (keeps_loadTable_held .CustomerOrder (by decide) (by decide)).bind
            fun customerOrderInfo => keeps_orCrash.bind fun buyerRecordRow => ?_
    refine (keeps_orCrash.bind fun _ => keeps_writeBack .ProductInfo (by decide) (by decide)
      (by decide) (by decide)).bind fun _ => ?_
    refine (keeps_generateUID.bind fun _ => (keeps_writeBack .BillingInfo (by decide) (by decide)
      (by decide) (by decide)).bind fun _ => keeps_pure).bind fun orderID => ?_
    exact (keeps_writeBack .CustomerOrder (by decide) (by decide) (by decide) (by decide)).bind
      fun _ => keeps_writeSocket.bind fun _ => (keeps_postWrt .ProductInfo (by decide)).bind
        fun _ => (keeps_postWrt .BillingInfo (by decide)).bind
          fun _ => keeps_postWrt .CustomerOrder (by decide)
  · exact keeps_writeSocket.bind fun _ => (keeps_postWrt .ProductInfo (by decide)).bind fun _ =>
      (keeps_postWrt .BillingInfo (by decide)).bind fun _ =>
        keeps_postWrt .CustomerOrder (by decide)

theorem keeps_buyerModifiesOrder :
    Keeps lenient message (.change [.CustomerOrder, .BillingInfo]) .home .home
      (buyerModifiesOrder buffer) := by
  refine keeps_orCrash.bind fun orderID => keeps_orCrash.bind fun productIDtoReturn => ?_
  refine (keeps_waitWrt .BillingInfo (by decide)).bind fun _ =>
    (keeps_waitWrt .CustomerOrder (by decide)).bind fun _ =>
      (keeps_loadTable_held .CustomerOrder (by decide) (by decide)).bind fun customerOrderInfo =>
        (keeps_loadTable_held .BillingInfo (by decide) (by decide)).bind fun billingInfo => ?_
  exact keeps_orCrash.bind fun _ =>
    (keeps_writeBack .CustomerOrder (by decide) (by decide) (by decide) (by decide)).bind fun _ =>
      keeps_orCrash.bind fun _ =>
        (keeps_writeBack .BillingInfo (by decide) (by decide) (by decide) (by decide)).bind
          fun _ => (keeps_postWrt .BillingInfo (by decide)).bind fun _ =>
            keeps_postWrt .CustomerOrder (by decide)

theorem keeps_editClient (clientType : ClientType) (edit : CsvClientInfo → Option CsvClientInfo)
    (id : Int32) (listed : clientType.file ∈ actions.reads)
    (writes : actions.MayChange clientType.file) :
    Keeps lenient message actions .home .home (editClient clientType edit id) := by
  cases clientType with
  | buyer =>
    exact keeps_update .CustomerInfo listed fun _ => keeps_orCrash.bind fun _ =>
      keeps_orCrash.bind fun _ => keeps_writeBack_postWrt .CustomerInfo listed writes
  | seller =>
    exact keeps_update .SellerInfo listed fun _ => keeps_orCrash.bind fun _ =>
      keeps_orCrash.bind fun _ => keeps_writeBack_postWrt .SellerInfo listed writes

theorem keeps_editBuyer {Data : Type} (extract : Option Data)
    (editClientRow : Data → CsvClientInfo → CsvClientInfo)
    (editBillingRow : Data → CsvBillingInfo → CsvBillingInfo)
    (editOrderRow : Data → CsvCustomerOrderInfo → CsvCustomerOrderInfo) (id : Int32) :
    Keeps lenient message (.change [.CustomerInfo, .BillingInfo, .CustomerOrder]) .home .home
      (editBuyer extract editClientRow editBillingRow editOrderRow id) := by
  refine (keeps_waitWrt .CustomerInfo (by decide)).bind fun _ =>
    (keeps_waitWrt .BillingInfo (by decide)).bind fun _ =>
      (keeps_waitWrt .CustomerOrder (by decide)).bind fun _ => ?_
  refine (keeps_loadTable_held .CustomerInfo (by decide) (by decide)).bind fun _ =>
    keeps_orCrash.bind fun _ => keeps_orCrash.bind fun _ =>
      (keeps_writeBack .CustomerInfo (by decide) (by decide) (by decide) (by decide)).bind
        fun _ => ?_
  refine (keeps_loadTable_held .BillingInfo (by decide) (by decide)).bind fun _ =>
    (keeps_writeBack .BillingInfo (by decide) (by decide) (by decide) (by decide)).bind
      fun _ => ?_
  refine (keeps_loadTable_held .CustomerOrder (by decide) (by decide)).bind fun _ =>
    (keeps_writeBack .CustomerOrder (by decide) (by decide) (by decide) (by decide)).bind
      fun _ => ?_
  exact (keeps_postWrt .CustomerInfo (by decide)).bind fun _ =>
    (keeps_postWrt .BillingInfo (by decide)).bind fun _ =>
      keeps_postWrt .CustomerOrder (by decide)

theorem keeps_editBranch (clientType : ClientType) (subCommand : Text) (rest : List Text)
    (clientID : Int32) :
    Keeps lenient message (editActions subCommand clientType) .home .home
      (editBranch clientType subCommand rest clientID) := by
  cases clientType with
  | buyer =>
    rw [editBranch, editActions]
    split_ifs
    · exact keeps_editBuyer _ _ _ _ clientID
    · exact keeps_editClient .buyer _ clientID (by decide) (by decide)
    · exact keeps_editBuyer _ _ _ _ clientID
    · exact keeps_pure
  | seller =>
    rw [editBranch, editActions]
    split_ifs
    · exact keeps_editClient .seller _ clientID (by decide) (by decide)
    · exact keeps_editClient .seller _ clientID (by decide) (by decide)
    · exact keeps_editClient .seller _ clientID (by decide) (by decide)
    · exact keeps_pure

theorem keeps_clientEditsInfo :
    Keeps lenient message (commandActions buffer .editInfo) .home .home
      (clientEditsInfo buffer) := by
  rw [clientEditsInfo]
  split
  · rename_i fields
    refine keeps_orCrash_bind fun clientType copied => keeps_orCrash_bind fun subCommand same => ?_
    simp only [commandActions, fields]
    rw [strcpy_eq_some_iff.mp copied, strcpy_eq_some_iff.mp same]
    exact (keeps_editBranch _ _ _ _).bind fun _ => keeps_writeSocket
  · exact quiet_crash.keeps leads_crash

variable {buffer} in
theorem keeps_execute {command : Command} (asked : AsksFor message (toValidate buffer command)) :
    Keeps lenient message (commandActions buffer command) .home .home
      (command.execute rand buffer) := by
  cases command with
  | newClient =>
    cases extracted : extractRegistration buffer with
    | none =>
      rw [Command.execute, writeNewClientData, extracted]
      exact keeps_orCrash_bind fun _ absent => by cases absent
    | some registration =>
      rw [commandActions, extracted]
      exact keeps_writeNewClientData rand buffer extracted (List.mem_singleton.mpr rfl)
        (.inl (List.mem_singleton.mpr rfl))
  | validateID =>
    refine (keeps_validateID fun file idToValidate target =>
      ⟨asked buffer rfl file idToValidate target, ?_⟩).bind fun _ => keeps_writeSocket
    rw [commandActions, target]
    exact List.mem_singleton.mpr rfl
  | viewProducts => exact keeps_viewProducts buffer (List.mem_singleton.mpr rfl)
  | completeOrder => exact keeps_completeAnOrder rand buffer
  | viewBuyerOrders => exact keeps_buyerViewsOrder buffer (List.mem_singleton.mpr rfl)
  | checkBuyer =>
    exact (keeps_validateOrderIsBuyers buffer (List.mem_singleton.mpr rfl)).bind
      fun _ => keeps_writeSocket
  | orderDetails =>
    exact keeps_readOrderDetails buffer List.mem_cons_self
      (List.mem_cons_of_mem _ List.mem_cons_self)
  | modOrder => exact keeps_buyerModifiesOrder buffer
  | viewBilling => exact keeps_buyerViewsInfo buffer (List.mem_singleton.mpr rfl)
  | editInfo => exact keeps_clientEditsInfo buffer
  | newProduct => exact keeps_addNewProduct rand buffer List.mem_cons_self (.inl List.mem_cons_self)
  | deleteProd => exact keeps_deleteProduct asked List.mem_cons_self (.inr List.mem_cons_self)
  | modQuant =>
    rw [Command.execute, modifyQuantity]
    exact keeps_modifyProduct _ asked List.mem_cons_self (.inr List.mem_cons_self)
  | modPrice =>
    rw [Command.execute, modifyPrice]
    exact keeps_modifyProduct _ asked List.mem_cons_self (.inr List.mem_cons_self)
  | sellerOrders =>
    exact keeps_sellerViewsOrders buffer List.mem_cons_self
      (List.mem_cons_of_mem _ List.mem_cons_self)

/-- The handling of every message keeps to the list. -/
theorem keeps_executeTaskOnServer :
    Keeps lenient message (Concurrency.actions message) .home .home
      (executeTaskOnServer rand message) := by
  refine keeps_orCrash_bind fun extracted same => ?_
  obtain ⟨command, buffer⟩ := extracted
  cases known : commandOf command with
  | none =>
    simp only [known]
    exact keeps_pure
  | some command =>
    simp only [known, Concurrency.actions, same]
    refine keeps_execute rand fun text asks file idToValidate target => ?_
    simp only [lookup, same, known, asks, target, Option.bind_eq_bind, Option.bind_some]
    rfl

end Handlers

/-! ### The levels below -/

/-- Where a thread is: the message that it handles, its phase, and the file that it has truncated
and not written since. -/
structure Spot where
  message : Text
  phase : Phase
  truncated : Option DbFile

namespace Spot

def place (spot : Spot) : Text × Phase := (spot.message, spot.phase)

/-- The file that is truncated after a call. -/
def truncatedAfter (truncated : Option DbFile) : DiskOp → Option DbFile
  | .truncate file => some file
  | .write _ _ => none
  | _ => truncated

end Spot

/-- The protocol of the disk level. Nothing comes between the truncation of a file and the writing
of it. -/
def listedDisk (lenient : Bool) (actions : Actions) :
    Protocol DiskOp DiskOp.Ret (Phase × Option DbFile) where
  allows
    | (phase, truncated), .sys op => phase.SysMayCall lenient op ∧ truncated = none
    | (phase, truncated), .read file => actions.MayLoad phase file ∧ truncated = none
    | (phase, truncated), .truncate file =>
      (phase.MayWrite file 2 ∧ actions.MayChange file) ∧ truncated = none
    | (phase, truncated), .write file _ =>
      (phase.MayWrite file 2 ∧ actions.MayChange file) ∧ truncated = some file
  next
    | (phase, truncated), op, answer =>
      ((diskProtocol lenient).next phase op answer, Spot.truncatedAfter truncated op)

def listedThread (lenient : Bool) : Protocol ThreadOp ThreadOp.Ret Spot where
  allows
    | spot, .readSocket _ => spot.phase = .home ∧ spot.truncated = none
    | spot, .disk op =>
      (listedDisk lenient (actions spot.message)).allows (spot.phase, spot.truncated) op
  next
    | spot, .readSocket message, _ => { spot with message := message }
    | spot, .disk op, answer =>
      { spot with
        phase := (diskProtocol lenient).next spot.phase op answer
        truncated := Spot.truncatedAfter spot.truncated op }

section Levels

variable {lenient : Bool} {message : Text} {actions : Actions} {Result : Type}
variable {phase last : Phase}

theorem listedDisk_onDisk {handler : Handler Result}
    (keeps : Keeps lenient message actions phase last handler) :
    Obeys (listedDisk lenient actions) (fun spot => diskAnswers lenient message spot.1)
      (fun _ spot => spot = (last, none)) (phase, none) (onDisk handler) := by
  refine Obeys.translate (fun phase spot => spot = (phase, none)) ?_
    (fun _ _ _ same ends => ends ▸ same) rfl keeps
  rintro phase _ op rfl allows
  cases op with
  | sys op => exact obeys_call.mpr ⟨⟨allows, rfl⟩, fun _ _ => ⟨trivial, rfl⟩⟩
  | load file =>
    refine obeys_call.mpr ⟨⟨allows, rfl⟩, ?_⟩
    rintro _ ⟨text, rfl, holds⟩
    cases loads : file.load text with
    | none =>
      simp only [loads]
      exact obeys_call.mpr ⟨⟨sysMayCall_free rfl, rfl⟩, fun answer => answer.elim⟩
    | some table =>
      simp only [loads]
      refine ⟨⟨table, rfl, fun strict reading idToValidate asked => ?_⟩, rfl⟩
      have finds := holds strict reading
      rw [lookupFinds, asked, loads] at finds
      exact (Bool.or_eq_true _ _ ▸ finds).resolve_left fun elsewhere =>
        of_decide_eq_true elsewhere rfl
  | writeBack file table =>
    obtain ⟨may, reads, writes⟩ := allows
    refine obeys_call.mpr ⟨⟨.inl ⟨reads, .inr (mayWrite_writing may)⟩, rfl⟩, ?_⟩
    rintro _ ⟨text, rfl, -⟩
    have twice : (phase.read file).MayWrite file 2 := by
      cases phase with
      | reader own position => exact may
      | writer held reads =>
        obtain ⟨member, once⟩ := may
        refine ⟨member, ?_⟩
        rw [if_pos member, List.count_cons_self]
        exact Nat.succ_le_succ once
    exact obeys_call.mpr ⟨⟨⟨twice, writes⟩, rfl⟩, fun _ _ =>
      obeys_call.mpr ⟨⟨⟨twice, writes⟩, rfl⟩, fun _ _ => ⟨trivial, rfl⟩⟩⟩

theorem listedThread_onThread {program : DiskProg Result} {truncated : Option DbFile}
    (obeys : Obeys (listedDisk lenient (Concurrency.actions message))
      (fun spot => diskAnswers lenient message spot.1) (fun _ spot => spot = (last, none))
      (phase, truncated) program) :
    Obeys (listedThread lenient) (fun spot => threadAnswers lenient spot.place)
      (fun _ spot => spot = ⟨message, last, none⟩) ⟨message, phase, truncated⟩
      (onThread program) := by
  refine Obeys.translate
    (fun (spot : Phase × Option DbFile) (place : Spot) => place = ⟨message, spot.1, spot.2⟩) ?_
    ?_ rfl obeys
  · rintro spot _ op rfl allows
    exact obeys_call.mpr ⟨allows, fun _ admitted => ⟨admitted, rfl⟩⟩
  · rintro _ _ _ rfl rfl
    rfl

/-- The tasks of the threads keep to the list. -/
theorem listedThread_threadTask (rand : Rand) (messages : List Text) :
    Obeys (listedThread lenient) (fun spot => threadAnswers lenient spot.place)
      (fun _ spot => spot.phase = .home ∧ spot.truncated = none) ⟨message, .home, none⟩
      (threadTask rand messages) := by
  induction messages generalizing message with
  | nil => exact ⟨rfl, rfl⟩
  | cons next messages inductionHypothesis =>
    refine obeys_call.mpr ⟨⟨rfl, rfl⟩, fun _ _ => ?_⟩
    show Obeys _ _ _ (Spot.mk next .home none)
      (onThread (onDisk (executeTaskOnServer rand next)) >>= fun _ => threadTask rand messages)
    refine Obeys.bind
      (listedThread_onThread (listedDisk_onDisk (keeps_executeTaskOnServer rand))) ?_
    rintro _ _ rfl
    exact inductionHypothesis

end Levels

/-! ### The invariant -/

/-- A call of the list is one of the protocol of the threads. -/
theorem allows_place {lenient : Bool} {spot : Spot} {op : ThreadOp}
    (allows : (listedThread lenient).allows spot op) :
    (threadProtocol lenient).allows spot.place op := by
  cases op with
  | readSocket message => exact allows.1
  | disk op =>
    cases op with
    | sys op => exact allows.1
    | read file => exact trivial
    | truncate file => exact allows.1.1
    | write file text => exact allows.1.1

theorem next_place (lenient : Bool) (spot : Spot) (op : ThreadOp) (answer : op.Ret) :
    ((listedThread lenient).next spot op answer).place =
      (threadProtocol lenient).next spot.place op answer := by
  cases op <;> rfl

section Invariant

variable {Thread : Type} [Fintype Thread]

/-- Only a file that somebody has truncated and not written differs from what the last finished
write-back has left. -/
structure Listed (lenient : Bool) (process : Process Thread) (spots : Thread → Spot) : Prop where
  safe : Safe lenient process fun thread => (spots thread).place
  writing : ∀ thread file, (spots thread).truncated = some file →
    process.positions thread file = .writing
  unsaved : ∀ file, process.files file ≠ process.saved file →
    ∃ thread, (spots thread).truncated = some file

theorem listed_initial (lenient : Bool) (files : DbFile → Text) :
    Listed lenient (Process.initial files : Process Thread) fun _ => ⟨[], .home, none⟩ where
  safe := safe_initial lenient files
  writing _ _ truncated := by cases truncated
  unsaved _ differs := absurd rfl differs

variable [DecidableEq Thread] {lenient : Bool} {process next : Process Thread}
variable {spots : Thread → Spot} {thread : Thread} {clock : Nat → Nat}

/-- The files and what is left of them, after a call. -/
theorem Listed.unsaved_exec {op : ThreadOp} {answer : op.Ret}
    (listed : Listed lenient process spots)
    (allows : (listedThread lenient).allows (spots thread) op)
    (called : process.exec clock thread op = some (answer, next)) (file : DbFile)
    (differs : next.files file ≠ next.saved file) :
    ∃ other, (Function.update spots thread
      ((listedThread lenient).next (spots thread) op answer) other).truncated = some file := by
  have stays (before : process.files file ≠ process.saved file)
      (own : (spots thread).truncated = some file →
        ((listedThread lenient).next (spots thread) op answer).truncated = some file) :
      ∃ other, (Function.update spots thread
        ((listedThread lenient).next (spots thread) op answer) other).truncated = some file := by
    obtain ⟨other, truncated⟩ := listed.unsaved file before
    refine ⟨other, ?_⟩
    by_cases same : other = thread
    · subst same
      rw [Function.update_self]
      exact own truncated
    · rwa [Function.update_of_ne same]
  cases op with
  | readSocket message =>
    cases called
    exact stays differs id
  | disk op =>
    cases op with
    | sys op =>
      obtain ⟨files, -, saved, -⟩ := Serializability.exec_sys called
      rw [files, saved] at differs
      exact stays differs id
    | read own =>
      cases called
      exact stays differs id
    | truncate own =>
      cases called
      by_cases same : file = own
      · subst same
        exact ⟨thread, by rw [Function.update_self]; rfl⟩
      · refine stays ?_ fun truncated => ?_
        · rw [← Function.update_of_ne same [] process.files]
          exact differs
        · rw [allows.2] at truncated
          cases truncated
    | write own text =>
      cases called
      by_cases same : file = own
      · subst same
        refine absurd ?_ differs
        exact (Function.update_self file text process.files).trans
          (Function.update_self file text process.saved).symm
      · refine stays ?_ fun truncated => ?_
        · rw [← Function.update_of_ne same text process.files,
            ← Function.update_of_ne same text process.saved]
          exact differs
        · rw [allows.2] at truncated
          exact absurd (Option.some.inj truncated).symm same

omit [Fintype Thread] [DecidableEq Thread] in
/-- A call after which a file is truncated is the truncation of a file that the thread writes. -/
theorem writing_of_truncated {spot : Spot} {op : ThreadOp} {answer : op.Ret} {file : DbFile}
    (allows : (listedThread lenient).allows spot op)
    (truncated : ((listedThread lenient).next spot op answer).truncated = some file) :
    ((listedThread lenient).next spot op answer).place.2.positions file = .writing := by
  cases op with
  | readSocket message =>
    have none : spot.truncated = none := allows.2
    cases none.symm.trans truncated
  | disk op =>
    cases op with
    | sys op => cases allows.2.symm.trans truncated
    | read own => cases allows.2.symm.trans truncated
    | truncate own =>
      obtain rfl : own = file := Option.some.inj truncated
      exact mayWrite_writing allows.1.1
    | write own text => cases truncated

/-- Every call of the list keeps the invariant. -/
theorem Listed.exec {op : ThreadOp} {answer : op.Ret} (listed : Listed lenient process spots)
    (allows : (listedThread lenient).allows (spots thread) op)
    (called : process.exec clock thread op = some (answer, next)) :
    Listed lenient next
      (Function.update spots thread ((listedThread lenient).next (spots thread) op answer)) := by
  have safe : Safe lenient next fun other => (Function.update spots thread
      ((listedThread lenient).next (spots thread) op answer) other).place := by
    have kept := listed.safe.exec (allows_place allows) called
    rw [← next_place] at kept
    have places : (fun other => (Function.update spots thread
        ((listedThread lenient).next (spots thread) op answer) other).place) =
        Function.update (fun other => (spots other).place) thread
          ((listedThread lenient).next (spots thread) op answer).place := by
      funext other
      exact Function.apply_update (fun _ => Spot.place) spots thread _ other
    rwa [places]
  refine ⟨safe, ?_, listed.unsaved_exec allows called⟩
  intro other file truncated
  rw [safe.positions]
  by_cases same : other = thread
  · subst same
    rw [Function.update_self] at truncated ⊢
    exact writing_of_truncated allows truncated
  · rw [Function.update_of_ne same] at truncated ⊢
    rw [← listed.safe.positions]
    exact listed.writing other file truncated

end Invariant

/-! ### Every interleaving -/

section Runs

variable {Thread : Type} [DecidableEq Thread] {clock : Nat → Nat} {server : Server Thread}

/-- A thread changes a file only if the list has its message writing the file, for any seller or
for the owner of the product, and reads one only if the list has its message reading it, under the
lock of the file unless the list says without. A file that differs from what the last finished
write-back has left is about to be written. -/
structure KeepsToList (clock : Nat → Nat) (server : Server Thread) : Prop where
  changes : ∀ thread next, (machine clock).step server thread = some next → ∀ file,
    next.shared.files file ≠ server.shared.files file →
      (file ∈ (actions (server.shared.received thread)).writes ∨
          file ∈ (actions (server.shared.received thread)).ownerWrites) ∧
        server.shared.positions thread file = .writing
  reads : ∀ thread file rest, server.program thread = .call (.disk (.read file)) rest →
    (file ∈ (actions (server.shared.received thread)).reads ∧
        (server.shared.positions thread file = .reading ∨
          server.shared.positions thread file = .writing)) ∨
      file ∈ (actions (server.shared.received thread)).unlocked
  unsaved : ∀ file, server.shared.files file ≠ server.shared.saved file →
    ∃ thread text rest, server.program thread = .call (.disk (.write file text)) rest ∧
      server.shared.positions thread file = .writing

/-- A call that changes a file is one that the list allows. -/
theorem listed_of_changes {lenient : Bool} {spot : Spot} {thread : Thread} {op : ThreadOp}
    {answer : op.Ret} {process next : Process Thread}
    (allows : (listedThread lenient).allows spot op)
    (called : process.exec clock thread op = some (answer, next)) {file : DbFile}
    (changes : next.files file ≠ process.files file) :
    (actions spot.message).MayChange file := by
  have written (own : DbFile) (text : Text) (listed : (actions spot.message).MayChange own)
      (changes : Function.update process.files own text file ≠ process.files file) :
      (actions spot.message).MayChange file := by
    by_cases same : file = own
    · rwa [same]
    · exact absurd (Function.update_of_ne same _ _) changes
  cases op with
  | readSocket message =>
    cases called
    exact absurd rfl changes
  | disk op =>
    cases op with
    | sys op => exact absurd (congrFun (Serializability.exec_sys called).1 file) changes
    | read own =>
      cases called
      exact absurd rfl changes
    | truncate own =>
      cases called
      exact written own [] allows.1.2 changes
    | write own text =>
      cases called
      exact written own text allows.1.2 changes

/-- What comes next of a thread that has truncated a file is to write it. -/
theorem writes_of_truncated {lenient : Bool} {spot : Spot} {file : DbFile}
    {program : ThreadProg Unit}
    (obeys : Obeys (listedThread lenient) (fun spot => threadAnswers lenient spot.place)
      (fun _ spot => spot.phase = .home ∧ spot.truncated = none) spot program)
    (truncated : spot.truncated = some file) :
    ∃ text rest, program = .call (.disk (.write file text)) rest := by
  cases program with
  | pure result => cases obeys.2.symm.trans truncated
  | call op rest =>
    cases op with
    | readSocket message => cases obeys.1.2.symm.trans truncated
    | disk op =>
      cases op with
      | sys op => cases obeys.1.2.symm.trans truncated
      | read own => cases obeys.1.2.symm.trans truncated
      | truncate own => cases obeys.1.2.symm.trans truncated
      | write own text =>
        cases obeys.1.2.symm.trans truncated
        exact ⟨text, rest, rfl⟩

variable [Fintype Thread] {rand : Rand} {files : DbFile → Text} {messages : Thread → List Text}

/-- In every reached state the threads keep to the list from their spots on. -/
theorem listed_of_reaches (lenient : Bool) {admits : Server Thread → Thread → Prop}
    (finds : lenient = false → ∀ server thread, admits server thread → findsID server thread = true)
    (reached : (machine clock).Reaches admits (start rand files messages) server) :
    Machine.Follows (listedThread lenient) (fun spot => threadAnswers lenient spot.place)
      (fun spot => spot.phase = .home ∧ spot.truncated = none) (Listed lenient) server := by
  refine Machine.follows_of_reaches ?_ ?_ ⟨fun _ => ⟨[], .home, none⟩,
    listed_initial lenient files, fun thread => listedThread_threadTask rand (messages thread)⟩
    reached
  · intro now spots thread op rest answer next admitted running listed allows called
    have answers := answered listed.safe (fun strict => finds strict now thread admitted) running
      called
    exact ⟨answers, listed.exec allows called⟩
  · intro thread body spot again
    cases again

/-- The threads keep to the list, in all interleavings of any number of threads with any
messages. -/
theorem keepsToList_of_reaches
    (reached : (machine clock).Reaches (fun _ _ => True) (start rand files messages) server) :
    KeepsToList clock server := by
  obtain ⟨spots, listed, obeys⟩ := listed_of_reaches true (fun strict => by cases strict) reached
  refine ⟨?_, ?_, ?_⟩
  · intro thread next steps file changes
    rcases Machine.step_cases steps with ⟨result, body, running, again, rfl⟩ |
      ⟨op, continuation, answer, state, running, called, rfl⟩
    · cases again
    · have own := obeys thread
      rw [running, obeys_call] at own
      rw [listed.safe.received, listed.safe.positions]
      exact ⟨listed_of_changes own.1 called changes,
        writing_of_changes (allows_place own.1) called changes⟩
  · intro thread file rest running
    have own := obeys thread
    rw [running, obeys_call] at own
    rw [listed.safe.received, listed.safe.positions]
    exact own.1.1
  · intro file differs
    obtain ⟨thread, truncated⟩ := listed.unsaved file differs
    obtain ⟨text, rest, running⟩ := writes_of_truncated (obeys thread) truncated
    exact ⟨thread, text, rest, running, listed.writing thread file truncated⟩

theorem keepsToList_of_reaches_viewAndAdd :
    ∃ server, (machine fun _ => 0).runs (fun _ _ => True)
        (List.replicate 22 false ++ List.replicate 6 true)
        (start (fun _ => 0) shippedFile (viewAndAdd "1234".toList)) = some server ∧
      server.shared.positions true .ProductInfo = .writing ∧ KeepsToList (fun _ => 0) server := by
  obtain ⟨server, ran, same⟩ := Option.map_eq_some_iff.mp runs_viewAndAdd
  obtain ⟨-, writes, -⟩ : _ ∧ _ ∧ _ := (Prod.mk.inj same).imp id Prod.mk.inj
  exact ⟨server, ran, writes, keepsToList_of_reaches (Machine.reaches_of_runs ran)⟩

/-- What a thread is about to read is what the last finished write-back has left, unless it reads
CustomerInfo for an order. -/
def ReadsSaved (server : Server Thread) : Prop :=
  ∀ thread file rest, server.program thread = .call (.disk (.read file)) rest →
    server.shared.files file = server.shared.saved file ∨
      isOrder (server.shared.received thread) ∧ file = .CustomerInfo

/-- As long as every lookup finds its id, every thread reads what the last finished write-back has
left, except for the CustomerInfo of an order. -/
theorem readsSaved_of_findsID (reached : (machine clock).Reaches
    (fun server thread => findsID server thread = true) (start rand files messages) server) :
    ReadsSaved server := by
  obtain ⟨spots, listed, obeys⟩ := listed_of_reaches false (fun _ _ _ finds => finds) reached
  intro thread file rest running
  have own := obeys thread
  rw [running, obeys_call] at own
  rw [listed.safe.received]
  rcases own.1.1 with ⟨-, inside⟩ | unlocked
  · refine .inl ?_
    by_contra differs
    obtain ⟨writer, truncated⟩ := listed.unsaved file differs
    have writes := listed.writing writer file truncated
    have here : (spots thread).phase.positions file = server.shared.positions thread file := by
      rw [listed.safe.positions]
      rfl
    rw [here] at inside
    rcases inside with reads | also
    · exact (listed.safe.balanced file).not_writing (listed.safe.counted rfl file) reads writer
        writes
    · obtain rfl := (listed.safe.balanced file).writer_unique writes also
      cases own.1.2.symm.trans truncated
  · exact .inr (order_of_unlocked unlocked)

/-- The product is there. The reader is in its second read section and the writer waits. -/
theorem readsSaved_of_findsID_viewAndAdd :
    ∃ server, (machine fun _ => 0).runs (fun server thread => findsID server thread = true)
        (List.replicate 19 false ++ [true])
        (start (fun _ => 0) shippedFile (viewAndAdd "2000".toList)) = some server ∧
      server.shared.positions false .ProductInfo = .reading ∧ ReadsSaved server := by
  have ran : ((machine fun _ => 0).runs (fun server thread => findsID server thread = true)
      (List.replicate 19 false ++ [true])
      (start (fun _ => 0) shippedFile (viewAndAdd "2000".toList))).map
        (fun server => server.shared.positions false .ProductInfo) = some .reading := by
    decide
  obtain ⟨server, ran, reads⟩ := Option.map_eq_some_iff.mp ran
  exact ⟨server, ran, reads, readsSaved_of_findsID (Machine.reaches_of_runs ran)⟩

/-! ### The order of the locks -/

/-- The documented order. Who waits for the semaphore for writing of a file does not have it, and
has none but those of files before it; who waits for the mutex of a file is at no other lock. -/
structure KeepsLockOrder (server : Server Thread) : Prop where
  writers : ∀ thread file rest,
    server.program thread = .call (.disk (.sys (.semWait (.wrt file)))) rest →
      server.shared.positions thread file ≠ .writing ∧ ∀ other, other ≠ file →
        server.shared.positions thread other = .outside ∨
          server.shared.positions thread other = .writing ∧ rank other < rank file
  readers : ∀ thread file rest,
    server.program thread = .call (.disk (.sys (.semWait (.mutex file)))) rest →
      ∀ other, other ≠ file → server.shared.positions thread other = .outside

theorem Phase.MayCall.not_writing {lenient : Bool} {phase : Phase} {file : DbFile}
    (may : phase.MayCall lenient file .waitWrt) : phase.positions file ≠ .writing := by
  intro writes
  have allows := may.allowed
  rw [writes] at allows
  cases allows

theorem Phase.MayCall.before {lenient : Bool} {phase : Phase} {file other : DbFile}
    (may : phase.MayCall lenient file .waitWrt) (different : other ≠ file) :
    phase.positions other = .outside ∨
      phase.positions other = .writing ∧ rank other < rank file := by
  cases phase with
  | reader own position =>
    obtain ⟨rfl, -⟩ := may
    exact .inl (if_neg different)
  | writer held reads =>
    by_cases member : other ∈ held
    · exact .inr ⟨if_pos member, may other member⟩
    · exact .inl (if_neg member)

theorem Phase.MayCall.alone {lenient : Bool} {phase : Phase} {file other : DbFile}
    (may : phase.MayCall lenient file .waitMutex) (different : other ≠ file) :
    phase.positions other = .outside := by
  cases phase with
  | reader own position =>
    obtain ⟨rfl, -⟩ := may
    exact if_neg different
  | writer held reads =>
    obtain rfl : held = [] := may
    rfl

/-- The threads take the locks in the documented order, in all interleavings of any number of
threads with any messages. -/
theorem keepsLockOrder_of_reaches
    (reached : (machine clock).Reaches (fun _ _ => True) (start rand files messages) server) :
    KeepsLockOrder server := by
  obtain ⟨places, safe, obeys⟩ := follows_of_reaches true (fun strict => by cases strict) reached
  have may (thread : Thread) (semaphore : Semaphore) (rest) (file : DbFile) (lockOp' : LockOp)
      (running : server.program thread = .call (.disk (.sys (.semWait semaphore))) rest)
      (isLock : lockOp (.semWait semaphore) = some (file, lockOp')) :
      (places thread).2.MayCall true file lockOp' := by
    have own := obeys thread
    rw [running, obeys_call] at own
    exact own.1.2 file lockOp' isLock
  refine ⟨fun thread file rest running => ?_, fun thread file rest running other different => ?_⟩
  · rw [safe.positions]
    have waits := may thread (.wrt file) rest file .waitWrt running rfl
    exact ⟨waits.not_writing, fun other different => waits.before different⟩
  · rw [safe.positions]
    exact (may thread (.mutex file) rest file .waitMutex running rfl).alone different

/-- Two buyers change their names. -/
def renames : Bool → List Text
  | false => ["[EDIT_INFO],[BUYER],1000,[NAME],Ann,Lee,".toList]
  | true => ["[EDIT_INFO],[BUYER],1001,[NAME],Bob,Ray,".toList]

/-- The first one holds CustomerInfo and is about to wait for BillingInfo. -/
theorem keepsLockOrder_of_reaches_renames :
    ∃ server, (machine fun _ => 0).runs (fun _ _ => True) [false, false, true]
        (start (fun _ => 0) shippedFile renames) = some server ∧
      server.shared.positions false .CustomerInfo = .writing ∧ KeepsLockOrder server := by
  have ran : ((machine fun _ => 0).runs (fun _ _ => True) [false, false, true]
      (start (fun _ => 0) shippedFile renames)).map
        (fun server => server.shared.positions false .CustomerInfo) = some .writing := by
    decide
  obtain ⟨server, ran, writes⟩ := Option.map_eq_some_iff.mp ran
  exact ⟨server, ran, writes, keepsLockOrder_of_reaches (Machine.reaches_of_runs ran)⟩

end Runs

end OnlineStore.Concurrency
