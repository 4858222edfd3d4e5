/-
This file says what becomes of a request whose id is not where its handler looks for it.

The searches of `completeAnOrder`, of the edits and of `buyerModifiesOrder` end only at a match.
When no row matches, the search goes on behind the last row. There every cell is zeroed, so a
search for zero ends at the first of them and any other search leaves the array.

The scan of `validateOrderIsBuyers` does test for the end of the table, but it never advances. So
it decides on the first row or not at all.
-/

import OnlineStore.OrderAccounting
import OnlineStore.Requests

namespace OnlineStore

open CString Cells Prog

/-! ### Ids that are not there -/

/-- A search for a key: the row at which it ends, if it does, and the number of loaded rows. -/
structure RowSearch where
  ends : Option Nat
  loaded : Nat

/-- The search ends at a loaded row. -/
def RowSearch.Within (rowSearch : RowSearch) : Prop :=
  ∃ row < rowSearch.loaded, rowSearch.ends = some row

/-- The search for a key in a table. -/
def keySearch {Row : Type} [Inhabited Row] (key : Row → Int32) (sought : Int32)
    (table : List Row) : RowSearch :=
  ⟨search (fun row => key row == sought) table, table.length⟩

namespace Request

/-- The row searches of the requests that search for a client or an order. An accepted order also
searches for its products, whose ids no deduction changes. -/
def searches (tables : Tables) : Request → List RowSearch
  | .completeOrder buyerID lines =>
    keySearch CsvClientInfo.uuid buyerID.number (tables .CustomerInfo) ::
      (orderItems lines).map fun line =>
        keySearch CsvProductInfo.productId line.productID (tables .ProductInfo)
  | .editInfo clientType clientID _ =>
    [keySearch CsvClientInfo.uuid clientID.number (tables.clients clientType)]
  | .modOrder orderID _ =>
    [keySearch CsvCustomerOrderInfo.orderId orderID.number (tables .CustomerOrder),
      keySearch CsvBillingInfo.orderId orderID.number (tables .BillingInfo)]
  | _ => []

/-- The id of the client or the order that a request names. -/
def named : Request → Int32
  | .completeOrder buyerID _ => buyerID.number
  | .editInfo _ clientID _ => clientID.number
  | .modOrder orderID _ => orderID.number
  | _ => 0

/-- The request names a client or an order that is not in its table. An order request has a valid
product list. -/
def NamesUnknown (tables : Tables) : Request → Prop
  | .completeOrder buyerID lines =>
    validateBuyerOrder (orderItems lines) (tables .ProductInfo) = true ∧
      ∀ row ∈ tables .CustomerInfo, row.uuid ≠ buyerID.number
  | .editInfo clientType clientID _ =>
    ∀ row ∈ tables.clients clientType, row.uuid ≠ clientID.number
  | .modOrder orderID _ =>
    (∀ row ∈ tables .CustomerOrder, row.orderId ≠ orderID.number) ∨
      ∀ row ∈ tables .BillingInfo, row.orderId ≠ orderID.number
  | _ => False

/-- The request does no harm: every row search ends within the loaded rows, and the server goes on
with the records as they were. -/
structure Harmless {Store : Type} (backing : Backing Store) (rand : Rand) (now : Nat)
    (tables : Tables) (world : World Store) (request : Request) : Prop where
  within : ∀ rowSearch ∈ request.searches tables, rowSearch.Within
  unchanged : ∃ final tables', serve backing rand now request.message world = some final ∧
    Loads backing final tables' ∧ ∀ file,
      DbFile.rows file (tables' file) = DbFile.rows file (tables file)

end Request

/-- A search for a key that no row has passes all of them. It ends right behind the last one if
the key is zero, and else it does not end within the array. -/
theorem keySearch_of_absent {Row : Type} [Inhabited Row] (key : Row → Int32) {sought : Int32}
    {table : List Row} (zeroed : key default = 0) (absent : ∀ row ∈ table, key row ≠ sought) :
    (keySearch key sought table).ends = if sought = 0 then some table.length else none := by
  have missed : table.findIdx? (fun row => key row == sought) = none :=
    List.findIdx?_eq_none_iff.mpr fun row member => by simpa using absent row member
  simp only [keySearch, search, missed, zeroed]
  by_cases zero : sought = 0
  · simp [zero]
  · simp [zero, Ne.symm zero]

theorem not_within_of_absent {Row : Type} [Inhabited Row] (key : Row → Int32) {sought : Int32}
    {table : List Row} (zeroed : key default = 0) (absent : ∀ row ∈ table, key row ≠ sought) :
    ¬(keySearch key sought table).Within := by
  rintro ⟨row, bound, ends⟩
  rw [keySearch_of_absent key zeroed absent] at ends
  by_cases zero : sought = 0
  · rw [if_pos zero] at ends
    exact absurd (Option.some.inj ends) (Nat.ne_of_gt bound)
  · rw [if_neg zero] at ends
    cases ends

section Unknown

variable {Store : Type} {backing : Backing Store} {tables : Tables} {world : World Store}
variable (rand : Rand) (now : Nat)

/-- The search for the unknown id is one of the request's. It ends right behind the loaded rows,
if the id is zero, or not at all. -/
theorem Request.NamesUnknown.search_fails {request : Request}
    (unknown : request.NamesUnknown tables) :
    ∃ rowSearch ∈ request.searches tables, ¬rowSearch.Within ∧
      rowSearch.ends = if request.named = 0 then some rowSearch.loaded else none := by
  cases request with
  | completeOrder buyerID lines =>
    exact ⟨_, List.mem_cons_self, not_within_of_absent _ rfl unknown.2,
      keySearch_of_absent _ rfl unknown.2⟩
  | editInfo clientType clientID edit =>
    exact ⟨_, List.mem_cons_self, not_within_of_absent _ rfl unknown,
      keySearch_of_absent _ rfl unknown⟩
  | modOrder orderID productIDtoReturn =>
    rcases unknown with absent | absent
    · exact ⟨_, List.mem_cons_self, not_within_of_absent _ rfl absent,
        keySearch_of_absent _ rfl absent⟩
    · exact ⟨_, List.mem_cons_of_mem _ List.mem_cons_self, not_within_of_absent _ rfl absent,
        keySearch_of_absent _ rfl absent⟩
  | _ => exact unknown.elim

theorem search_eq_none_of_absent {Row : Type} [Inhabited Row] (key : Row → Int32)
    {sought : Int32} {table : List Row} (zeroed : key default = 0)
    (absent : ∀ row ∈ table, key row ≠ sought) (nonzero : sought ≠ 0) :
    search (fun row => key row == sought) table = none :=
  (keySearch_of_absent key zeroed absent).trans (if_neg nonzero)

theorem edit_eq_none {clientType : ClientType} {id : Int32} (edit : InfoEdit)
    (missed : search (fun row => row.uuid == id) (tables.clients clientType) = none) :
    world.edit backing tables clientType id edit = none := by
  cases clientType with
  | buyer =>
    rw [Tables.clients] at missed
    cases edit <;>
      simp only [World.edit, World.editBuyer, World.editClient, Tables.clients, missed,
        Option.map_none]
  | seller => simp only [World.edit, World.editClient, missed, Option.map_none]

/-- A search for an unknown id that is not zero leaves the array, and the handler does not end. -/
theorem serve_eq_none_of_unknown (loads : Loads backing world tables) {request : Request}
    (unknown : request.NamesUnknown tables) (nonzero : request.named ≠ 0) :
    serve backing rand now request.message world = none := by
  rw [serve_message rand now loads request]
  cases request with
  | completeOrder buyerID lines =>
    have missed : findBuyerInClientInfo buyerID.number (tables .CustomerInfo) = none :=
      (findBuyerInClientInfo_eq_search _ _).trans
        (search_eq_none_of_absent CsvClientInfo.uuid rfl unknown.2 nonzero)
    rw [Request.effect, World.order, if_pos unknown.1, missed]
    rfl
  | editInfo clientType clientID edit =>
    have missed := search_eq_none_of_absent CsvClientInfo.uuid rfl unknown nonzero
    rw [Request.effect, edit_eq_none edit missed]
    rfl
  | modOrder orderID productIDtoReturn =>
    rw [Request.effect]
    rcases unknown with absent | absent
    · rw [search_eq_none_of_absent CsvCustomerOrderInfo.orderId rfl absent nonzero]
      rfl
    · rw [search_eq_none_of_absent CsvBillingInfo.orderId rfl absent nonzero]
      exact Option.bind_eq_none_iff.mpr fun orderRow _ => rfl
  | _ => exact unknown.elim

/-- A valid order of the unknown buyer zero is accepted. It is billed to nobody. -/
theorem serve_order_of_unknown_zero (loads : Loads backing world tables) {buyerID : Token 20}
    {lines : List OrderLine} (unknown : (Request.completeOrder buyerID lines).NamesUnknown tables)
    (zero : buyerID.number = 0) :
    serve backing rand now (Request.completeOrder buyerID lines).message world =
      some (world.handOrder backing (sellAll (orderItems lines) (tables .ProductInfo))
        (billedTable (uidAt rand now) default (orderItems lines) (tables .BillingInfo))
        (orderedTable (uidAt rand now) default (orderItems lines) (tables .CustomerOrder))) := by
  have passed : findBuyerInClientInfo buyerID.number (tables .CustomerInfo) =
      some (tables .CustomerInfo).length :=
    (findBuyerInClientInfo_eq_search _ _).trans
      ((keySearch_of_absent CsvClientInfo.uuid rfl unknown.2).trans (if_pos zero))
  have listed := allListed_of_accepted
    (fun line member => productID_ne_zero_of_mem_orderItems member) unknown.1
  rw [serve_message rand now loads, Request.effect, World.order, if_pos unknown.1, passed,
    deductOrder_of_allListed listed]
  simp only [Option.bind_some, Option.map_some, cell_of_le (Nat.le_refl _)]

/-- No request that names an unknown id is harmless, whatever the tables. Its search ends behind
the loaded rows if the id is zero; if it is not, the search leaves the array and the handler does
not end. -/
theorem unknown_not_harmless (loads : Loads backing world tables) {request : Request}
    (unknown : request.NamesUnknown tables) :
    ¬request.Harmless backing rand now tables world ∧
      (request.named = 0 → ∃ rowSearch ∈ request.searches tables,
        rowSearch.ends = some rowSearch.loaded) ∧
      (request.named ≠ 0 → serve backing rand now request.message world = none) := by
  obtain ⟨rowSearch, member, outside, ends⟩ := unknown.search_fails
  refine ⟨fun harmless => outside (harmless.within rowSearch member), fun zero => ?_,
    serve_eq_none_of_unknown rand now loads unknown⟩
  exact ⟨rowSearch, member, ends.trans (if_pos zero)⟩

end Unknown

/-- The client 4242 of the shipped files, who is not there, gets a new phone number. -/
def strangersNumber : Request :=
  .editInfo .buyer ⟨"4242".toList, by decide⟩ (.number ⟨"555".toList, by decide⟩)

theorem strangersNumber_namesUnknown : strangersNumber.NamesUnknown shippedTables := by
  have absent : ∀ row ∈ shippedTables .CustomerInfo, row.uuid ≠ 4242 := by decide
  exact absent

theorem unknown_not_harmless_strangersNumber :
    ¬strangersNumber.Harmless diskBacking id 0 shippedTables shippedWorld ∧
      (strangersNumber.named = 0 → ∃ rowSearch ∈ strangersNumber.searches shippedTables,
        rowSearch.ends = some rowSearch.loaded) ∧
      (strangersNumber.named ≠ 0 →
        serve diskBacking id 0 strangersNumber.message shippedWorld = none) :=
  unknown_not_harmless id 0 loads_shippedWorld strangersNumber_namesUnknown

/-- The search for the stranger leaves the array. -/
theorem strangersNumber_not_harmless :
    strangersNumber.NamesUnknown shippedTables ∧
      ¬strangersNumber.Harmless diskBacking id 0 shippedTables shippedWorld := by
  refine ⟨strangersNumber_namesUnknown, fun harmless => ?_⟩
  obtain ⟨row, -, ends⟩ := harmless.within _ List.mem_cons_self
  have left : search (fun row => row.uuid == 4242) (shippedTables .CustomerInfo) = none := by
    decide
  exact absurd (ends.symm.trans left) (by simp)

/-! ### Whose order it is -/

section Ownership

variable {Store : Type} (backing : Backing Store) (now : Nat) (world : World Store)

theorem ownershipAnswer_eq_some_iff (buyerID orderID : Int32) {billing : List CsvBillingInfo}
    (named : ∀ row ∈ billing, row.orderId ≠ 0) (distinct : (billing.map CsvBillingInfo.orderId).Nodup) :
    (∃ answer, ownershipAnswer buyerID orderID billing = some answer ∧
        (answer = true ↔ ∃ row ∈ billing, row.orderId = orderID ∧ row.customerId = buyerID)) ↔
      ∀ row, billing.head? = some row → row.orderId = orderID := by
  cases billing with
  | nil => simp [ownershipAnswer, cell, default]
  | cons first rest =>
    have goesOn : first.orderId ≠ 0 := named first List.mem_cons_self
    have fresh := (List.nodup_cons.mp distinct).1
    by_cases own : first.orderId = orderID
    · have later : ¬∃ row ∈ rest, row.orderId = orderID ∧ row.customerId = buyerID := by
        rintro ⟨row, member, same, -⟩
        exact fresh (own.trans same.symm ▸ List.mem_map_of_mem member)
      refine iff_of_true ⟨first.customerId == buyerID, ?_, ?_⟩ ?_
      · have matched : (cell (first :: rest) 0).orderId = orderID := own
        rw [ownershipAnswer, if_neg (matched ▸ own ▸ goesOn), if_pos matched]
        rfl
      · rw [beq_iff_eq]
        constructor
        · intro customer
          exact ⟨first, List.mem_cons_self, own, customer⟩
        · rintro ⟨row, member, same, customer⟩
          rcases List.mem_cons.mp member with rfl | rest
          · exact customer
          · exact absurd ⟨row, rest, same, customer⟩ later
      · rintro row found
        cases found
        exact own
    · refine iff_of_false ?_ fun head => own (head first rfl)
      rintro ⟨answer, ends, -⟩
      simp [ownershipAnswer, cell, goesOn, own] at ends

/-- The check of an order's buyer ends and tells whether the order is the buyer's exactly if there
is no order or it is asked for the first one. -/
theorem validateOrderIsBuyers_decides_iff {buffer : Text} {buyerID orderID : Int32}
    {billing : List CsvBillingInfo} (decodedBuyer : numberAt buffer 0 = some buyerID)
    (decodedOrder : numberAt buffer 1 = some orderID)
    (loaded : backing.load world.store .BillingInfo = some billing)
    (named : ∀ row ∈ billing, row.orderId ≠ 0)
    (distinct : (billing.map CsvBillingInfo.orderId).Nodup) :
    (∃ answer, (validateOrderIsBuyers buffer).run (exec backing now) world =
        some (answer, world) ∧
      (answer = true ↔ ∃ row ∈ billing, row.orderId = orderID ∧ row.customerId = buyerID)) ↔
      ∀ row, billing.head? = some row → row.orderId = orderID := by
  have answered := ownershipAnswer_eq_some_iff buyerID orderID named distinct
  rw [← answered, run_validateOrderIsBuyers backing now world decodedBuyer decodedOrder loaded]
  refine exists_congr fun answer => and_congr_left' ?_
  rw [Option.map_eq_some_iff]
  constructor
  · rintro ⟨found, ends, same⟩
    rw [ends, (Prod.mk.inj same).1]
  · intro ends
    exact ⟨answer, ends, rfl⟩

end Ownership

/-- Buyer 1001 of the shipped files asks for the first order, which is the buyer's. -/
theorem validateOrderIsBuyers_decides_iff_first :
    ∃ answer, (validateOrderIsBuyers "1001,3000,\n".toList).run (exec diskBacking 0) shippedWorld =
        some (answer, shippedWorld) ∧
      (answer = true ↔ ∃ row ∈ shippedTables .BillingInfo,
        row.orderId = 3000 ∧ row.customerId = 1001) :=
  (validateOrderIsBuyers_decides_iff diskBacking 0 shippedWorld (by decide) (by decide)
    (loads_shippedWorld .BillingInfo) (by decide) (by decide)).mpr (by
      intro row head
      cases head
      decide)

/-- Buyer 1002 asks for the second order, which is the buyer's, and is never answered. -/
theorem secondOrder_not_decided :
    (∃ row ∈ shippedTables .BillingInfo, row.orderId = 3001 ∧ row.customerId = 1002) ∧
      (validateOrderIsBuyers "1002,3001,\n".toList).run (exec diskBacking 0) shippedWorld =
        none := by
  have buyer : numberAt "1002,3001,\n".toList 0 = some 1002 := by decide
  have order : numberAt "1002,3001,\n".toList 1 = some 3001 := by decide
  refine ⟨by decide, ?_⟩
  rw [run_validateOrderIsBuyers diskBacking 0 shippedWorld buyer order
    (loads_shippedWorld .BillingInfo)]
  decide

end OnlineStore
