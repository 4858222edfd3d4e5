/-
This file says what becomes of the product table.

An accepted order is checked line by line against the stock as it was loaded and only then
deducted, so several lines for one product can take more than there is. A seller's request for
another seller's product still ends in a write-back. Over a run of the requests that change the
table, no product is lost and none is listed twice.
-/

import OnlineStore.Limits
import Mathlib.Algebra.Order.BigOperators.Group.List
import Mathlib.Data.List.Nodup

namespace OnlineStore

open CString Cells Prog

/-! ### Overselling -/

/-- The stock of a row covers what the lines ask of it, after some number of wraparounds in 32
bits. -/
def CsvProductInfo.Covers (row : CsvProductInfo) (lines : List ItemOrder) : Prop :=
  ∃ wraps : Nat, ordered row.productId lines ≤ row.quantity.toInt + wraps * 2 ^ 32 ∧
    row.quantity.toInt + wraps * 2 ^ 32 < ordered row.productId lines + 2 ^ 31

theorem ordered_nonneg {lines : List ItemOrder} (asked : ∀ line ∈ lines, 0 ≤ line.quantity.toInt)
    (productID : Int32) : 0 ≤ ordered productID lines := by
  refine List.sum_nonneg fun quantity member => ?_
  obtain ⟨line, inLines, rfl⟩ := List.mem_map.mp member
  exact asked line (List.mem_of_mem_filter inLines)

theorem sell_nonneg_iff {row : CsvProductInfo} {lines : List ItemOrder}
    (stocked : 0 ≤ row.quantity.toInt) (asked : 0 ≤ ordered row.productId lines) :
    0 ≤ (row.sell lines).quantity.toInt ↔ row.Covers lines := by
  have sold : (row.sell lines).quantity.toInt =
      (row.quantity.toInt - ordered row.productId lines).bmod (2 ^ 32) := by
    rw [CsvProductInfo.sell, Int32.toInt_sub, toInt_sum, Int.sub_bmod_bmod]
    rfl
  have small : row.quantity.toInt < 2 ^ 31 := row.quantity.toInt_lt
  rw [sold, Int.bmod_def, CsvProductInfo.Covers]
  constructor
  · intro left
    refine ⟨((ordered row.productId lines - row.quantity.toInt + (2 ^ 32 - 1)) / 2 ^ 32).toNat, ?_⟩
    omega
  · rintro ⟨wraps, covered, close⟩
    omega

/-- With distinct ids, a row takes the lines for its product, all of them. -/
theorem sellAll_eq_map {lines : List ItemOrder} {products : List CsvProductInfo}
    (distinct : (products.map CsvProductInfo.productId).Nodup) :
    sellAll lines products = products.map fun row => row.sell lines := by
  induction products generalizing lines with
  | nil => rfl
  | cons row rows inductionHypothesis =>
    rw [List.map_cons, List.nodup_cons] at distinct
    rw [sellAll, inductionHypothesis distinct.2, List.map_cons]
    refine congrArg (_ :: ·) (List.map_congr_left fun other member => ?_)
    have different : other.productId ≠ row.productId := fun same =>
      distinct.1 (same ▸ List.mem_map_of_mem member)
    rw [CsvProductInfo.sell, CsvProductInfo.sell, linesFor_filter_ne different]

/-- What `writeNewProductQuantityFromOrder` hands over after an order was accepted. -/
theorem run_writeNewProductQuantityFromOrder {Store : Type} (backing : Backing Store) (now : Nat)
    (world : World Store) {orderList : List ItemOrder} {products : List CsvProductInfo}
    (accepted : validateBuyerOrder orderList products = true) :
    (writeNewProductQuantityFromOrder orderList products).run (exec backing now) world =
      some ((), world.hand backing .ProductInfo (sellAll (orderRows orderList) products)) := by
  rw [writeNewProductQuantityFromOrder, deductOrder_of_allListed (allListed_orderRows accepted)]
  exact run_writeBack backing now world .ProductInfo _

/-- After an accepted order every quantity is non-negative if and only if the stock of each
product covers all the lines for it together. -/
theorem sold_nonneg_iff {Store : Type} (backing : Backing Store) (now : Nat)
    (world : World Store) {orderList : List ItemOrder} {products : List CsvProductInfo}
    (distinct : (products.map CsvProductInfo.productId).Nodup)
    (stocked : ∀ row ∈ products, 0 ≤ row.quantity.toInt)
    (asked : ∀ item ∈ orderList, 0 ≤ item.quantity.toInt)
    (accepted : validateBuyerOrder orderList products = true) :
    (∃ sold, (writeNewProductQuantityFromOrder orderList products).run (exec backing now) world =
        some ((), world.hand backing .ProductInfo sold) ∧
      ∀ row ∈ sold, 0 ≤ row.quantity.toInt) ↔
      ∀ row ∈ products, row.Covers (orderRows orderList) := by
  have ran := run_writeNewProductQuantityFromOrder backing now world accepted
  have total (productID : Int32) : 0 ≤ ordered productID (orderRows orderList) :=
    ordered_nonneg (fun line member => asked line (mem_of_mem_records member)) productID
  have nonneg : (∀ row ∈ sellAll (orderRows orderList) products, 0 ≤ row.quantity.toInt) ↔
      ∀ row ∈ products, row.Covers (orderRows orderList) := by
    rw [sellAll_eq_map distinct, List.forall_mem_map]
    exact forall₂_congr fun row member => sell_nonneg_iff (stocked row member) (total _)
  constructor
  · rintro ⟨sold, handed, each⟩
    have same : sellAll (orderRows orderList) products = sold := by
      have ends := congrArg (Option.map fun outcome => outcome.2.handed) (ran.symm.trans handed)
      simpa using ends
    exact nonneg.mp (same ▸ each)
  · intro covered
    exact ⟨_, ran, nonneg.mpr covered⟩

/-- Two orders of three for a product of which five are left. -/
def sixOfFive : List ItemOrder := [⟨2000, 3, 1⟩, ⟨2000, 3, 1⟩]

theorem sold_nonneg_iff_twoAndThree :
    ∃ sold, (writeNewProductQuantityFromOrder [⟨2000, 2, 1⟩, ⟨2000, 3, 1⟩]
        (sampleTables .ProductInfo)).run (exec tableBacking 0) ⟨sampleTables, [], [], []⟩ =
          some ((), World.hand tableBacking ⟨sampleTables, [], [], []⟩ .ProductInfo sold) ∧
      ∀ row ∈ sold, 0 ≤ row.quantity.toInt :=
  (sold_nonneg_iff tableBacking 0 ⟨sampleTables, [], [], []⟩ (by decide) (by decide) (by decide)
    (by decide)).mpr fun row member => ⟨0, by
      obtain rfl := List.mem_singleton.mp member
      decide⟩

/-- The order is accepted, and leaves a quantity of minus one. -/
theorem sixOfFive_oversold :
    validateBuyerOrder sixOfFive (sampleTables .ProductInfo) = true ∧
      ∃ row : CsvProductInfo, row.quantity.toInt = -1 ∧
        (writeNewProductQuantityFromOrder sixOfFive (sampleTables .ProductInfo)).run
          (exec tableBacking 0) ⟨sampleTables, [], [], []⟩ =
            some ((), World.hand tableBacking ⟨sampleTables, [], [], []⟩ .ProductInfo [row]) := by
  have accepted : validateBuyerOrder sixOfFive (sampleTables .ProductInfo) = true := by decide
  exact ⟨accepted, _, by decide,
    run_writeNewProductQuantityFromOrder tableBacking 0 ⟨sampleTables, [], [], []⟩ accepted⟩

/-! ### Another seller's product -/

/-- A request has left the product records alone: every table handed over has the rows of the
table that was loaded, and no product is deleted. -/
structure World.ProductsUntouched {Store : Type} (products : List CsvProductInfo)
    (before after : World Store) : Prop where
  handed : ∃ tables : List (List CsvProductInfo),
    after.handed = before.handed ++ tables.map (Sigma.mk DbFile.ProductInfo) ∧
      ∀ table ∈ tables, DbFile.rows .ProductInfo table = DbFile.rows .ProductInfo products
  deleted : after.deleted = before.deleted

/-- No product of the table with the id is the seller's. -/
def Refused (sellerID productID : Int32) (products : List CsvProductInfo) : Prop :=
  ∀ row ∈ DbFile.rows .ProductInfo products, row.productId = productID → row.sellerId ≠ sellerID

theorem ownership_of_refused {sellerID productID : Int32} {products : List CsvProductInfo}
    (refused : Refused sellerID productID products) :
    ownership sellerID productID products =
      if ∃ row ∈ DbFile.rows .ProductInfo products, row.productId = productID then .foreign
      else .absent := by
  rw [ownership_eq]
  cases located : (DbFile.rows .ProductInfo products).find?
      fun row => row.productId == productID with
  | none =>
    rw [if_neg]
    rintro ⟨row, member, named⟩
    exact List.find?_eq_none.mp located row member (by simpa using named)
  | some row =>
    have member := List.mem_of_find?_eq_some located
    have named : row.productId = productID := by simpa using List.find?_some located
    rw [if_pos ⟨row, member, named⟩]
    exact if_neg (refused row member named)

section Ownership

variable {Store : Type} (backing : Backing Store) (now : Nat) (world : World Store)

/-- A refused change of the quantity or the price writes the table back as it is. -/
theorem afterModify_untouched {sellerID productID : Int32} {products : List CsvProductInfo}
    (modify : CsvProductInfo → CsvProductInfo) (refused : Refused sellerID productID products) :
    world.ProductsUntouched products
      (world.afterModify backing modify sellerID productID products) := by
  rw [World.afterModify, ownership_of_refused refused]
  by_cases present : ∃ row ∈ DbFile.rows .ProductInfo products, row.productId = productID
  · rw [if_pos present]
    exact ⟨⟨[products], rfl, fun table member => by rw [List.mem_singleton.mp member]⟩, rfl⟩
  · rw [if_neg present]
    exact ⟨⟨[], (List.append_nil _).symm, fun _ member => absurd member List.not_mem_nil⟩, rfl⟩

/-- A refused deletion writes an empty table back, unless the product is not there. -/
theorem afterDelete_untouched_iff {sellerID productID : Int32} {products : List CsvProductInfo}
    (refused : Refused sellerID productID products) :
    world.ProductsUntouched products (world.afterDelete backing sellerID productID products) ↔
      ¬∃ row ∈ DbFile.rows .ProductInfo products, row.productId = productID := by
  rw [World.afterDelete, ownership_of_refused refused]
  by_cases present : ∃ row ∈ DbFile.rows .ProductInfo products, row.productId = productID
  · rw [if_pos present]
    refine iff_of_false ?_ (not_not.mpr present)
    rintro ⟨⟨tables, handed, same⟩, -⟩
    have wiped : world.handed ++ [⟨.ProductInfo, []⟩] =
        world.handed ++ tables.map (Sigma.mk DbFile.ProductInfo) := handed
    have only := List.append_cancel_left wiped
    obtain ⟨table, rest, rfl, equal, -⟩ := List.map_eq_cons_iff.mp only.symm
    obtain rfl : table = [] := eq_of_heq (Sigma.mk.inj equal).2
    obtain ⟨row, member, -⟩ := present
    rw [← same [] List.mem_cons_self] at member
    cases member
  · rw [if_neg present]
    exact iff_of_true ⟨⟨[], (List.append_nil _).symm,
      fun _ member => absurd member List.not_mem_nil⟩, rfl⟩ present

theorem productIdToValidate_eq_none {ptr : Text} (long : 9 ≤ ptr.length) :
    productIdToValidate ptr = none := by
  rw [productIdToValidate]
  by_cases fits : ptr.length < 20
  · have extended : ¬(ptr ++ ",[PRODUCT],".toList).length < 20 := by
      have suffix : ",[PRODUCT],".toList.length = 11 := by decide
      rw [List.length_append, suffix]
      omega
    rw [strcpy_of_lt fits, Option.bind_eq_bind, Option.bind_some, strcpy, dif_neg extended]
    rfl
  · rw [strcpy, dif_neg fits]
    rfl

theorem Command.executeWithin_deleteProd (rand : Rand) (buffer : Text) :
    Command.executeWithin rand buffer .deleteProd = deleteProduct buffer := by
  rw [Command.executeWithin, Command.execute] <;> exact Command.noConfusion

theorem Command.executeWithin_modQuant (rand : Rand) (buffer : Text) :
    Command.executeWithin rand buffer .modQuant =
      modifyProduct (fun quantity row => { row with quantity := quantity }) buffer := by
  rw [Command.executeWithin, Command.execute, modifyQuantity] <;> exact Command.noConfusion

theorem Command.executeWithin_modPrice (rand : Rand) (buffer : Text) :
    Command.executeWithin rand buffer .modPrice =
      modifyProduct (fun price row => { row with price := price }) buffer := by
  rw [Command.executeWithin, Command.execute, modifyPrice] <;> exact Command.noConfusion

end Ownership

section Ends

variable {Store : Type} {backing : Backing Store} (printer : Printer backing) (now : Nat)
variable (world : World Store)

/-- A request ends within the arrays, in a world as said. -/
def Ends (command : Command) (rand : Rand) (buffer : Text) (property : World Store → Prop) : Prop :=
  ∃ last, (command.executeWithin rand buffer).run (guarded (permits printer) (exec backing now))
      world = some ((), last) ∧ property last

theorem not_ends_of_none {command : Command} {rand : Rand} {buffer : Text}
    {property : World Store → Prop}
    (crashed : (command.executeWithin rand buffer).run (exec backing now) world = none) :
    ¬Ends printer now world command rand buffer property := by
  rintro ⟨last, ended, -⟩
  rw [run_guarded_eq_some_iff, crashed] at ended
  cases ended.1

theorem ends_iff {command : Command} {rand : Rand} {buffer : Text} {property : World Store → Prop}
    {last : World Store} {fits : Prop}
    (ran : (command.executeWithin rand buffer).run (exec backing now) world = some ((), last))
    (permitted : (command.executeWithin rand buffer).Permitted (permits printer) (exec backing now)
      world ↔ fits) :
    Ends printer now world command rand buffer property ↔ fits ∧ property last := by
  constructor
  · rintro ⟨final, ended, holds⟩
    rw [run_guarded_eq_some_iff, ran, permitted] at ended
    obtain rfl := (Prod.mk.inj (Option.some.inj ended.1)).2
    exact ⟨ended.2, holds⟩
  · rintro ⟨within, holds⟩
    refine ⟨last, ?_, holds⟩
    rw [run_guarded_eq_some_iff, permitted]
    exact ⟨ran, within⟩

/-- What a refused change of a product puts into the arrays. -/
theorem modifyWithin_iff_of_refused {prints : (file : DbFile) → List file.Row → Bool}
    {tables : Tables} {sellerID productID : Int32} (modify : CsvProductInfo → CsvProductInfo)
    (refused : Refused sellerID productID (tables .ProductInfo)) :
    ModifyWithin prints tables modify sellerID productID ↔
      (tables .ProductInfo).length < maxRowsInDB ∧
        ((∃ row ∈ DbFile.rows .ProductInfo (tables .ProductInfo), row.productId = productID) →
          prints .ProductInfo (tables .ProductInfo) = true) := by
  rw [ModifyWithin, ownership_of_refused refused]
  refine and_congr_right fun held => ?_
  by_cases present : ∃ row ∈ DbFile.rows .ProductInfo (tables .ProductInfo),
      row.productId = productID
  · rw [if_pos present]
    exact ⟨fun printed _ => printed.2, fun printed => ⟨Nat.le_of_lt held, printed present⟩⟩
  · rw [if_neg present]
    exact iff_of_true trivial fun there => absurd there present

section Refusals

variable {sellerID : Int32} {products : List CsvProductInfo} {buffer ptr : Text}
variable (seller : numberAt buffer 0 = some sellerID) (second : (tokens buffer)[1]? = some ptr)
variable (loaded : backing.load world.store .ProductInfo = some products)
variable (refused : Refused sellerID (atoi ptr) products)

include seller second loaded refused

/-- A change of the quantity or the price that is refused leaves the products alone if it ends. -/
theorem modifyProduct_untouched_iff {modify : Int32 → CsvProductInfo → CsvProductInfo}
    {command : Command} {rand : Rand} {value : Int32}
    (handler : command.executeWithin rand buffer = modifyProduct modify buffer)
    (decoded : numberAt buffer 2 = some value) :
    Ends printer now world command rand buffer (world.ProductsUntouched products) ↔
      ptr.length < 9 ∧ products.length < maxRowsInDB ∧
        ((∃ row ∈ DbFile.rows .ProductInfo products, row.productId = atoi ptr) →
          printer.prints world.store .ProductInfo products = true) := by
  by_cases short : ptr.length < 9
  · have request := sellerRequest_of_token seller second
      (isField_of_mem_tokens (List.mem_of_getElem? second)) short
    obtain ⟨tables, rfl⟩ : ∃ tables : Tables, tables .ProductInfo = products :=
      ⟨Function.update (fun _ => []) .ProductInfo products, Function.update_self ..⟩
    have ran : (modifyProduct modify buffer).run (exec backing now) world =
        some ((), world.afterModify backing (modify value) sellerID (atoi ptr)
          (tables .ProductInfo)) :=
      run_modifyProduct backing now world request decoded loaded
    have permitted : (modifyProduct modify buffer).Permitted (permits printer) (exec backing now)
        world ↔ _ := (permitted_modifyProduct printer now world request decoded loaded).trans
      (modifyWithin_iff_of_refused (modify value) refused)
    rw [← handler] at ran permitted
    rw [ends_iff printer now world ran permitted, and_iff_right short]
    exact and_iff_left (afterModify_untouched backing world (modify value) refused)
  · refine iff_of_false (not_ends_of_none printer now world ?_) fun fits => short fits.1
    rw [handler, modifyProduct]
    simp only [seller, second, productIdToValidate_eq_none (Nat.le_of_not_lt short), orCrash,
      Prog.pure_bind, run_bind, run_crash, Option.bind_none]

/-- A refused deletion leaves the products alone if it ends and the product is not there. -/
theorem deleteProduct_untouched_iff {rand : Rand} :
    Ends printer now world .deleteProd rand buffer (world.ProductsUntouched products) ↔
      ptr.length < 9 ∧ products.length < maxRowsInDB ∧
        ¬∃ row ∈ DbFile.rows .ProductInfo products, row.productId = atoi ptr := by
  have handler := Command.executeWithin_deleteProd rand buffer
  by_cases short : ptr.length < 9
  · have request := sellerRequest_of_token seller second
      (isField_of_mem_tokens (List.mem_of_getElem? second)) short
    obtain ⟨tables, rfl⟩ : ∃ tables : Tables, tables .ProductInfo = products :=
      ⟨Function.update (fun _ => []) .ProductInfo products, Function.update_self ..⟩
    have ran := run_deleteProduct backing now world request loaded
    have permitted := permitted_deleteProduct printer now world request loaded
    rw [← handler] at ran permitted
    rw [ends_iff printer now world ran permitted, and_iff_right short,
      afterDelete_untouched_iff backing world refused, DeleteWithin, and_assoc, Tables.Held]
    refine and_congr_right fun _ => and_iff_right_of_imp fun absent => ?_
    rw [ownership_of_refused refused, if_neg absent]
    trivial
  · refine iff_of_false (not_ends_of_none printer now world ?_) fun fits => short fits.1
    rw [handler, deleteProduct]
    simp only [seller, second, productIdToValidate_eq_none (Nat.le_of_not_lt short), orCrash,
      Prog.pure_bind, run_bind, run_crash, Option.bind_none]

/-- A seller's request for a product that is not there or another seller's ends and leaves the
product records alone if and only if it is no deletion of a product that is there and the arrays
hold the id that is looked up, the table and what is printed of it. -/
theorem refused_untouched_iff (rand : Rand) {command : Command}
    (kind : command = .deleteProd ∨ command = .modQuant ∨ command = .modPrice)
    (valued : command ≠ .deleteProd → ∃ value, numberAt buffer 2 = some value) :
    Ends printer now world command rand buffer (world.ProductsUntouched products) ↔
      (ptr.length < 9 ∧ products.length < maxRowsInDB) ∧
        ((∃ row ∈ DbFile.rows .ProductInfo products, row.productId = atoi ptr) →
          command ≠ .deleteProd ∧ printer.prints world.store .ProductInfo products = true) := by
  rw [and_assoc]
  rcases kind with rfl | rfl | rfl
  · rw [deleteProduct_untouched_iff printer now world seller second loaded refused]
    refine and_congr_right fun _ => and_congr_right fun _ => ⟨fun absent there => ?_, ?_⟩
    · exact absurd there absent
    · exact fun spared there => (spared there).1 rfl
  · obtain ⟨value, decoded⟩ := valued (by decide)
    have handler := Command.executeWithin_modQuant rand buffer
    rw [modifyProduct_untouched_iff printer now world seller second loaded refused handler decoded]
    simp
  · obtain ⟨value, decoded⟩ := valued (by decide)
    have handler := Command.executeWithin_modPrice rand buffer
    rw [modifyProduct_untouched_iff printer now world seller second loaded refused handler decoded]
    simp

end Refusals

end Ends

/-- The seller 1001 of the shipped files and the pen that the seller 1003 sells. -/
theorem refused_pen : Refused 1001 2004 (shippedTables .ProductInfo) := by
  unfold Refused
  decide

/-- Few rows of products fit, whatever is in them. -/
theorem prints_products_of_few {files : Files} (few : newlines (files .ProductInfo) < 15)
    (table : List CsvProductInfo) : diskPrinter.prints files .ProductInfo table = true := by
  let collector : Collector := .writeBack .ProductInfo (files .ProductInfo) table
  have rows : collector.widths.length = newlines (files .ProductInfo) + 1 := by
    rw [Collector.widths, List.length_map, List.length_map, List.length_range]
  have narrow : collector.widths.length * 65 < 1000 := by omega
  exact Collector.isSome_collect_of_few narrow

theorem newlines_shippedProducts : newlines (shippedFile .ProductInfo) < 15 := by
  have rows := newlines_shippedFile .ProductInfo
  have eight : (shippedTables .ProductInfo).length = 8 := rfl
  omega

theorem refused_untouched_iff_pen :
    Ends diskPrinter 0 shippedWorld .modQuant (fun _ => 0) "1001,2004,7,\n".toList
      (shippedWorld.ProductsUntouched (shippedTables .ProductInfo)) := by
  have seller : numberAt "1001,2004,7,\n".toList 0 = some 1001 := by decide
  have second : (tokens "1001,2004,7,\n".toList)[1]? = some "2004".toList := by decide
  have value : numberAt "1001,2004,7,\n".toList 2 = some 7 := by decide
  have same : atoi "2004".toList = 2004 := by decide
  have held : (shippedTables .ProductInfo).length < maxRowsInDB := by decide
  exact (refused_untouched_iff diskPrinter 0 shippedWorld seller second
    (loads_shippedWorld .ProductInfo) (same ▸ refused_pen) (fun _ => 0) (.inr (.inl rfl))
    fun _ => ⟨7, value⟩).mpr ⟨⟨by decide, held⟩, fun _ =>
      ⟨by decide, prints_products_of_few newlines_shippedProducts _⟩⟩

/-- The pen is not deleted, but all products are: the table that is handed over is empty. -/
theorem deletedPen_touched :
    Refused 1001 2004 (shippedTables .ProductInfo) ∧
      Ends diskPrinter 0 shippedWorld .deleteProd (fun _ => 0) "1001,2004,\n".toList
        fun final => ¬shippedWorld.ProductsUntouched (shippedTables .ProductInfo) final := by
  have seller : numberAt "1001,2004,\n".toList 0 = some 1001 := by decide
  have second : (tokens "1001,2004,\n".toList)[1]? = some "2004".toList := by decide
  have named : atoi "2004".toList = 2004 := by decide
  have request := named ▸ sellerRequest_of_token seller second
    (isField_of_mem_tokens (List.mem_of_getElem? second)) (by decide)
  have loaded := loads_shippedWorld .ProductInfo
  have there : ∃ row ∈ DbFile.rows .ProductInfo (shippedTables .ProductInfo),
      row.productId = 2004 := by decide
  have ran := run_deleteProduct diskBacking 0 shippedWorld request loaded
  have permitted := permitted_deleteProduct diskPrinter 0 shippedWorld request loaded
  rw [← Command.executeWithin_deleteProd fun _ => 0] at ran permitted
  refine ⟨refused_pen, (ends_iff diskPrinter 0 shippedWorld ran permitted).mpr ⟨⟨?_, ?_⟩, ?_⟩⟩
  · unfold Tables.Held
    decide
  · rw [ownership_of_refused refused_pen, if_pos there]
    exact ⟨Nat.zero_le _, prints_products_of_few newlines_shippedProducts []⟩
  · rw [afterDelete_untouched_iff diskBacking shippedWorld refused_pen]
    exact not_not.mpr there

/-! ### No product is lost or listed twice -/

/-- What a product keeps as long as it is listed: its id, its name and its seller. -/
abbrev Listing := Int32 × Chars × Int32

def CsvProductInfo.listing (row : CsvProductInfo) : Listing :=
  (row.productId, row.productName, row.sellerId)

/-- The listing that a request adds. -/
def Request.added (rand : Rand) (now : Nat) : Request → List Listing
  | .newProduct sellerID productName _ _ =>
    [(uidAt rand now, productName.chars, sellerID.number)]
  | _ => []

/-- The requests that change the product table, with what is taken for granted of each: a new
product draws an id that no product has or had, an order names an existing buyer, and a seller
names an own product or an absent one. -/
def Request.Trades (rand : Rand) (now : Nat) (world : World Tables) : Request → Prop
  | .newProduct .. =>
    uidAt rand now ∉ (world.store .ProductInfo).map CsvProductInfo.productId ∧
      uidAt rand now ∉ world.deleted
  | .completeOrder buyerID _ =>
    ∃ row ∈ clientRows (world.store .CustomerInfo), row.uuid = buyerID.number
  | .deleteProd sellerID productID | .modQuant sellerID productID _
  | .modPrice sellerID productID _ =>
    ∀ row ∈ world.store .ProductInfo, row.productId = productID.number →
      row.sellerId = sellerID.number
  | _ => False

/-- In every state of a run the next request trades. -/
def AllTrade (rand : Rand) : List (Nat × Request) → World Tables → Prop
  | [], _ => True
  | (now, request) :: requests, world =>
    request.Trades rand now world ∧ ∀ next,
      serve tableBacking rand now request.message world = some next → AllTrade rand requests next

/-- Of the products that were ever listed, each one is in the table once or was deleted once, and
those in the table keep their order, names and sellers. -/
structure World.Conserves (world : World Tables) (ever : List Listing) : Prop where
  named : ∀ row ∈ world.store .ProductInfo, row.productId ≠ 0
  distinct : (ever.map Prod.fst).Nodup
  once : ∀ id ∈ ever.map Prod.fst,
    ((world.store .ProductInfo).map CsvProductInfo.productId).count id + world.deleted.count id = 1
  survivors : ((world.store .ProductInfo).map CsvProductInfo.listing).Sublist ever

/-- An order keeps every listing. -/
theorem map_listing_sellAll (lines : List ItemOrder) (products : List CsvProductInfo) :
    (sellAll lines products).map CsvProductInfo.listing =
      products.map CsvProductInfo.listing := by
  induction products generalizing lines with
  | nil => rfl
  | cons row rows inductionHypothesis =>
    rw [sellAll, List.map_cons, inductionHypothesis]
    rfl

section Conserved

variable {world : World Tables} {ever : List Listing}

theorem map_fst_listing (products : List CsvProductInfo) :
    (products.map CsvProductInfo.listing).map Prod.fst =
      products.map CsvProductInfo.productId := by
  rw [List.map_map]
  rfl

/-- Tables with the same listings are as good. -/
theorem World.Conserves.of_listing (conserves : world.Conserves ever) {next : World Tables}
    (listings : (next.store .ProductInfo).map CsvProductInfo.listing =
      (world.store .ProductInfo).map CsvProductInfo.listing)
    (deleted : next.deleted = world.deleted) : next.Conserves ever := by
  have ids : (next.store .ProductInfo).map CsvProductInfo.productId =
      (world.store .ProductInfo).map CsvProductInfo.productId := by
    rw [← map_fst_listing, listings, map_fst_listing]
  refine ⟨fun row member => ?_, conserves.distinct, ?_, listings ▸ conserves.survivors⟩
  · have there : row.productId ∈ (world.store .ProductInfo).map CsvProductInfo.productId :=
      ids ▸ List.mem_map_of_mem member
    obtain ⟨before, inTable, same⟩ := List.mem_map.mp there
    exact same ▸ conserves.named before inTable
  · rw [ids, deleted]
    exact conserves.once

/-- A new product is listed behind the others. -/
theorem World.Conserves.append (conserves : world.Conserves ever) {row : CsvProductInfo}
    {next : World Tables} (products : next.store .ProductInfo = world.store .ProductInfo ++ [row])
    (deleted : next.deleted = world.deleted) (named : row.productId ≠ 0)
    (unlisted : row.productId ∉ (world.store .ProductInfo).map CsvProductInfo.productId)
    (undeleted : row.productId ∉ world.deleted) : next.Conserves (ever ++ [row.listing]) := by
  have fresh : row.productId ∉ ever.map Prod.fst := by
    intro known
    have total := conserves.once row.productId known
    rw [List.count_eq_zero_of_not_mem unlisted, List.count_eq_zero_of_not_mem undeleted] at total
    cases total
  have ids : (next.store .ProductInfo).map CsvProductInfo.productId =
      (world.store .ProductInfo).map CsvProductInfo.productId ++ [row.productId] := by
    rw [products, List.map_append]
    rfl
  refine ⟨?_, ?_, ?_, ?_⟩
  · rw [products]
    exact List.forall_mem_append.mpr ⟨conserves.named, List.forall_mem_singleton.mpr named⟩
  · rw [List.map_append]
    refine List.Nodup.append conserves.distinct (List.nodup_singleton _) fun id known last => ?_
    obtain rfl : id = row.productId := List.mem_singleton.mp last
    exact fresh known
  · intro id member
    rw [ids, deleted, List.count_append]
    rw [List.map_append] at member
    rcases List.mem_append.mp member with known | last
    · have different : id ≠ row.productId := fun same => fresh (same ▸ known)
      have absent : id ∉ [row.productId] := fun only => different (List.mem_singleton.mp only)
      rw [List.count_eq_zero_of_not_mem absent]
      exact conserves.once id known
    · obtain rfl : id = row.productId := List.mem_singleton.mp last
      rw [List.count_eq_zero_of_not_mem unlisted, List.count_eq_zero_of_not_mem undeleted,
        List.count_singleton_self]
  · rw [products, List.map_append]
    exact conserves.survivors.append (List.Sublist.refl _)

/-- A listed product that is deleted moves to the list of deleted products. -/
theorem World.Conserves.remove (conserves : world.Conserves ever) {productID : Int32}
    {next : World Tables}
    (listed : productID ∈ (world.store .ProductInfo).map CsvProductInfo.productId)
    (products : next.store .ProductInfo =
      (world.store .ProductInfo).filter fun row => row.productId != productID)
    (deleted : next.deleted = world.deleted ++ [productID]) : next.Conserves ever := by
  have ids : (next.store .ProductInfo).map CsvProductInfo.productId =
      ((world.store .ProductInfo).map CsvProductInfo.productId).filter (· != productID) := by
    rw [products, List.filter_map]
    rfl
  refine ⟨?_, conserves.distinct, ?_, ?_⟩
  · rw [products]
    exact fun row member => conserves.named row (List.mem_of_mem_filter member)
  · intro id known
    have total := conserves.once id known
    rw [ids, deleted, List.count_append]
    by_cases same : id = productID
    · subst same
      have present := List.count_pos_iff.mpr listed
      have gone : id ∉ ((world.store .ProductInfo).map CsvProductInfo.productId).filter
          (· != id) := fun member => by simpa using List.of_mem_filter member
      rw [List.count_eq_zero_of_not_mem gone, List.count_singleton_self]
      omega
    · have absent : id ∉ [productID] := fun only => same (List.mem_singleton.mp only)
      rw [List.count_filter (by simpa using same), List.count_eq_zero_of_not_mem absent]
      exact total
  · rw [products]
    exact (List.filter_sublist.map _).trans conserves.survivors

/-- A product of the table is changed in its first row. -/
theorem put_productRowNum {products : List CsvProductInfo} {productID : Int32}
    (rows : DbFile.rows .ProductInfo products = products)
    (present : ∃ row ∈ products, row.productId = productID)
    (change : CsvProductInfo → CsvProductInfo) :
    put products (productRowNum productID products)
        (change (cell products (productRowNum productID products))) =
      updateFirst (fun row => row.productId == productID) change products := by
  obtain ⟨row, member, named⟩ := present
  have hit : (row.productId == productID) = true := beq_iff_eq.mpr named
  obtain ⟨place, -, found, -, -, updated⟩ := put_of_search
    (fun row : CsvProductInfo => row.productId == productID) change ⟨row, member, hit⟩
  have counted : search (fun row => row.productId == productID) products = _ :=
    search_eq_length_takeWhile ⟨row, member, hit⟩
  obtain rfl : place = productRowNum productID products := by
    rw [productRowNum, rows]
    exact Option.some.inj (found.symm.trans counted)
  exact updated

/-- A change of an own product keeps the listings; an absent product is not changed. -/
theorem World.Conserves.modify (conserves : world.Conserves ever) {sellerID productID : Int32}
    {change : CsvProductInfo → CsvProductInfo} (keeps : ∀ row, (change row).listing = row.listing)
    (owned : ∀ row ∈ world.store .ProductInfo, row.productId = productID →
      row.sellerId = sellerID) :
    (world.afterModify tableBacking change sellerID productID
      (world.store .ProductInfo)).Conserves ever := by
  have rows : DbFile.rows .ProductInfo (world.store .ProductInfo) = world.store .ProductInfo :=
    rows_eq_self conserves.named
  rw [World.afterModify, ownership_eq, rows]
  cases located : (world.store .ProductInfo).find? fun row => row.productId == productID with
  | none => exact conserves.of_listing rfl rfl
  | some row =>
    have member := List.mem_of_find?_eq_some located
    have hit := List.find?_some located
    simp only [owned row member (by simpa using hit), if_true]
    have updated := put_productRowNum rows ⟨row, member, by simpa using hit⟩ change
    exact conserves.of_listing ((congrArg (List.map CsvProductInfo.listing) updated).trans
      (map_updateFirst CsvProductInfo.listing keeps _)) rfl

/-- The only seller of a listed product is its owner. -/
theorem ownership_of_owned {products : List CsvProductInfo} {sellerID productID : Int32}
    (rows : DbFile.rows .ProductInfo products = products)
    (owned : ∀ row ∈ products, row.productId = productID → row.sellerId = sellerID) :
    ownership sellerID productID products =
      if productID ∈ products.map CsvProductInfo.productId then .own else .absent := by
  rw [ownership_eq, rows]
  cases located : products.find? fun row => row.productId == productID with
  | none =>
    rw [if_neg]
    intro listed
    obtain ⟨row, member, named⟩ := List.mem_map.mp listed
    exact List.find?_eq_none.mp located row member (by simpa using named)
  | some row =>
    have member := List.mem_of_find?_eq_some located
    have named : row.productId = productID := by simpa using List.find?_some located
    rw [if_pos (named ▸ List.mem_map_of_mem member)]
    exact if_pos (owned row member named)

/-- A deletion of an own product moves it to the deleted ones. -/
theorem World.Conserves.delete (conserves : world.Conserves ever) {sellerID productID : Int32}
    (owned : ∀ row ∈ world.store .ProductInfo, row.productId = productID →
      row.sellerId = sellerID) :
    (world.afterDelete tableBacking sellerID productID
      (world.store .ProductInfo)).Conserves ever := by
  have rows : DbFile.rows .ProductInfo (world.store .ProductInfo) = world.store .ProductInfo :=
    rows_eq_self conserves.named
  rw [World.afterDelete, ownership_of_owned rows owned]
  by_cases listed : productID ∈ (world.store .ProductInfo).map CsvProductInfo.productId
  · rw [if_pos listed]
    exact conserves.remove listed (congrArg (List.filter _) rows) rfl
  · rw [if_neg listed]
    exact conserves.of_listing rfl rfl

/-- An order changes quantities only. -/
theorem World.Conserves.order (conserves : world.Conserves ever) (rand : Rand) (now : Nat)
    {buyerID : Int32} (lines : List OrderLine)
    (existing : ∃ row ∈ clientRows (world.store .CustomerInfo), row.uuid = buyerID) :
    ∃ next, world.order tableBacking rand now world.store buyerID (orderItems lines) = some next ∧
      next.Conserves ever := by
  obtain ⟨buyer, member, same⟩ := existing
  obtain ⟨buyerData, found⟩ : ∃ buyerData, (world.store .CustomerInfo).find?
      (fun row => row.uuid == buyerID) = some buyerData :=
    Option.isSome_iff_exists.mp (List.find?_isSome.mpr
      ⟨buyer, mem_of_mem_records member, by simpa using same⟩)
  obtain ⟨row, located, -⟩ := findBuyerInClientInfo_of_find? found
  rw [World.order]
  cases accepted : validateBuyerOrder (orderItems lines) (world.store .ProductInfo) with
  | false => exact ⟨_, rfl, conserves.of_listing rfl rfl⟩
  | true =>
    have listed := allListed_of_accepted
      (fun line inLines => productID_ne_zero_of_mem_orderItems inLines) accepted
    rw [if_pos rfl, located, Option.bind_some, deductOrder_of_allListed listed, Option.map_some]
    refine ⟨_, rfl, conserves.of_listing ?_ rfl⟩
    exact map_listing_sellAll (orderItems lines) (world.store .ProductInfo)

/-- A new product stands behind the rows of the table. -/
theorem stockedTable_eq_append (productId sellerId : Int32) (productName : Chars)
    (quantity price : Int32) {products : List CsvProductInfo}
    (named : ∀ row ∈ products, row.productId ≠ 0) :
    stockedTable productId sellerId productName quantity price products =
      products ++ [⟨productId, productName, sellerId, quantity, price⟩] := by
  have rows : DbFile.rows .ProductInfo products = products := rows_eq_self named
  rw [stockedTable, rows, put_length]

/-- Every request of the five kinds conserves the products. -/
theorem World.Conserves.serve (conserves : world.Conserves ever) (rand : Rand) (now : Nat)
    (request : Request) (trades : request.Trades rand now world) :
    ∃ next, serve tableBacking rand now request.message world = some next ∧
      next.Conserves (ever ++ request.added rand now) := by
  have loads : Loads tableBacking world world.store := fun file => rfl
  rw [serve_message rand now loads request]
  have unadded (next : World Tables) (kept : next.Conserves ever) : next.Conserves (ever ++ []) :=
    (List.append_nil ever).symm ▸ kept
  cases request with
  | newProduct sellerID productName quantity price =>
    let row : CsvProductInfo := ⟨uidAt rand now, productName.chars, sellerID.number,
      quantity.number, price.number⟩
    have behind := stockedTable_eq_append (uidAt rand now) sellerID.number productName.chars
      quantity.number price.number conserves.named
    rw [Request.effect, behind]
    have named : row.productId ≠ 0 := uidAt_ne_zero rand now
    have kept : ((world.hand tableBacking .ProductInfo (world.store .ProductInfo ++ [row])).reply
        "[CONFIRMATION]".toList).Conserves (ever ++ [row.listing]) :=
      conserves.append rfl rfl named trades.1 trades.2
    exact ⟨_, rfl, kept⟩
  | completeOrder buyerID lines =>
    obtain ⟨next, served, kept⟩ := conserves.order rand now lines trades
    exact ⟨next, served, unadded next kept⟩
  | deleteProd sellerID productID => exact ⟨_, rfl, unadded _ (conserves.delete trades)⟩
  | modQuant sellerID productID quantity =>
    exact ⟨_, rfl, unadded _ (conserves.modify (fun row => rfl) trades)⟩
  | modPrice sellerID productID price =>
    exact ⟨_, rfl, unadded _ (conserves.modify (fun row => rfl) trades)⟩
  | _ => exact trades.elim

end Conserved

/-- Over every run of such requests from a table with distinct non-zero ids, every product that
was there or was added is in the table once or was deleted once, and those in the table keep their
order, names and sellers. -/
theorem trade_conserves (rand : Rand) (requests : List (Nat × Request)) {world : World Tables}
    (named : ∀ row ∈ world.store .ProductInfo, row.productId ≠ 0)
    (distinct : ((world.store .ProductInfo).map CsvProductInfo.productId).Nodup)
    (undeleted : world.deleted = []) (trade : AllTrade rand requests world) :
    ∃ final, serveAll tableBacking rand requests world = some final ∧
      final.Conserves ((world.store .ProductInfo).map CsvProductInfo.listing ++
        requests.flatMap fun step => step.2.added rand step.1) := by
  have start : world.Conserves ((world.store .ProductInfo).map CsvProductInfo.listing) := by
    refine ⟨named, map_fst_listing _ ▸ distinct, fun id member => ?_, List.Sublist.refl _⟩
    rw [map_fst_listing] at member
    rw [undeleted, List.count_nil, List.count_eq_one_of_mem distinct member]
  clear named distinct undeleted
  generalize (world.store .ProductInfo).map CsvProductInfo.listing = ever at start ⊢
  induction requests generalizing world ever with
  | nil => exact ⟨world, rfl, (List.append_nil ever).symm ▸ start⟩
  | cons step requests inductionHypothesis =>
    obtain ⟨now, request⟩ := step
    obtain ⟨next, served, kept⟩ := start.serve rand now request trade.1
    obtain ⟨final, rest, conserves⟩ := inductionHypothesis (trade.2 next served) _ kept
    refine ⟨final, ?_, ?_⟩
    · rw [serveAll, served]
      exact rest
    · rw [List.flatMap_cons, ← List.append_assoc]
      exact conserves

/-- The only product of the small database is withdrawn, and a hat is offered. -/
def withdrawnAndOffered : List (Nat × Request) :=
  [(0, .deleteProd ⟨"0".toList, by decide⟩ ⟨"02000".toList, by decide⟩),
    (1, .newProduct ⟨"7".toList, by decide⟩ ⟨"hat".toList, by decide⟩ ⟨"8".toList, by decide⟩
      ⟨"9".toList, by decide⟩)]

theorem trade_conserves_withdrawn :
    ∃ final, serveAll tableBacking id withdrawnAndOffered ⟨sampleTables, [], [], []⟩ =
        some final ∧
      final.Conserves ((sampleTables .ProductInfo).map CsvProductInfo.listing ++
        withdrawnAndOffered.flatMap fun step => step.2.added id step.1) := by
  refine trade_conserves id withdrawnAndOffered (by decide) (by decide) rfl ⟨?_, ?_⟩
  · intro row member _
    obtain rfl := List.mem_singleton.mp member
    decide
  · intro next served
    have loads : Loads tableBacking ⟨sampleTables, [], [], []⟩ sampleTables := fun file => rfl
    have effect := (serve_message id 0 loads _).symm.trans served
    obtain rfl := Option.some.inj effect
    exact ⟨⟨by decide, by decide⟩, fun _ _ => trivial⟩

end OnlineStore
