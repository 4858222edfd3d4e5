/-
This file decodes an order request the way the code does, call by call. The loop of
`extractBuyerOrder` takes three tokens a round, but only the first of them is tested, and what is
tested is whether `atoi` reads zero. Nothing in it asks whether there is a token at all or whether
a row is left in the list.

`exits_ok_iff` ties the loop to the recursion on tokens that the handlers use: the loop comes to its
end exactly if the recursion does and its lines find room in the list. A request of no more than
99 lines therefore decodes to its lines, while a text in general is decoded safely only if one of
the tested tokens stops the loop in time.
-/

import OnlineStore.Buffers
import OnlineStore.Loaders
import OnlineStore.Loops
import OnlineStore.Wire

namespace OnlineStore

open CString Cells Buffers Loops

/-! ### The loop -/

/-- The array of the order lines in `completeAnOrder`. -/
abbrev OrderList := Vector ItemOrder maxOrderLines

/-- `strtok(text, ",")`: the token, which is a null pointer at the end of the text, and the text
where the next call continues. -/
def nextToken (text : Text) : Option Text × Text :=
  match strtok text with
  | none => (none, [])
  | some (token, rest) => (some token, rest)

/-- `atoi(ptr)`. -/
def atoiAt : Option Text → Except Fault Int32
  | none => .error .nullPointer
  | some token => .ok (atoi token)

/-- The variables of `extractBuyerOrder`, with the text where `strtok` continues. -/
structure OrderLoop where
  ptr : Option Text
  rest : Text
  rowOrder : Nat
  orderList : OrderList

/-! ### The recursion on the tokens -/

section Recursion

variable {productID : Text} (rowOrder : Nat) (orderList : List ItemOrder)

theorem fillOrder_of_zero (zero : atoi productID = 0) (others : List Text) :
    fillOrder (productID :: others) rowOrder orderList = some orderList := by
  rw [fillOrder.eq_def]
  simp only [if_pos zero]

theorem fillOrder_of_short (nonzero : atoi productID ≠ 0) {others : List Text}
    (short : others.length < 2) : fillOrder (productID :: others) rowOrder orderList = none := by
  match others with
  | [] => simp [fillOrder, nonzero]
  | [_] => simp [fillOrder, nonzero]
  | _ :: _ :: _ =>
    simp only [List.length_cons] at short
    omega

theorem fillOrder_of_line (nonzero : atoi productID ≠ 0) (quantity itemCostPerUnit : Text)
    (others : List Text) :
    fillOrder (productID :: quantity :: itemCostPerUnit :: others) rowOrder orderList =
      (storeAt orderList rowOrder ⟨atoi productID, atoi quantity, atoi itemCostPerUnit⟩).bind
        fun orderList => fillOrder others (rowOrder + 1) orderList := by
  rw [fillOrder, if_neg nonzero]
  rfl

end Recursion

/-- The tokens of a line that is cut off. -/
theorem length_lt_two {others : List Text}
    (short : ∀ quantity itemCostPerUnit later,
      others = quantity :: itemCostPerUnit :: later → False) : others.length < 2 := by
  match others with
  | [] => exact Nat.zero_lt_two
  | [_] => exact Nat.one_lt_two
  | _ :: _ :: _ => exact (short _ _ _ rfl).elim

namespace OrderLoop

def start (buffer : Text) (orderList : OrderList) : OrderLoop :=
  let (ptr, rest) := nextToken buffer
  { ptr := ptr, rest := rest, rowOrder := 0, orderList := orderList }

/-- The body of the loop. -/
def body (state : OrderLoop) : Except Fault OrderLoop := do
  let productID ← atoiAt state.ptr
  let orderList ← modify state.orderList state.rowOrder fun row =>
    { row with productID := productID }
  let (ptr, rest) := nextToken state.rest
  let quantity ← atoiAt ptr
  let orderList ← modify orderList state.rowOrder fun row => { row with quantity := quantity }
  let (ptr, rest) := nextToken rest
  let itemCostPerUnit ← atoiAt ptr
  let orderList ← modify orderList state.rowOrder fun row =>
    { row with itemCostPerUnit := itemCostPerUnit }
  let (ptr, rest) := nextToken rest
  return { ptr := ptr, rest := rest, rowOrder := state.rowOrder + 1, orderList := orderList }

/-- The test of the loop, and its body where the loop goes on. -/
def round (state : OrderLoop) : Outcome OrderLoop (Except Fault OrderList) :=
  match atoiAt state.ptr with
  | .error fault => .stop (.error fault)
  | .ok productID =>
    if productID = 0 then .stop (.ok state.orderList)
    else match state.body with
      | .error fault => .stop (.error fault)
      | .ok next => .goOn next

/-- The tokens that the loop has not read. -/
def pending (state : OrderLoop) : List Text :=
  match state.ptr with
  | none => []
  | some token => token :: tokens state.rest

/-! ### One round -/

theorem nextToken_of_tokens_nil {text : Text} (empty : tokens text = []) :
    nextToken text = (none, []) := by
  rw [tokens_eq_strtok] at empty
  rw [nextToken]
  cases found : strtok text with
  | none => rfl
  | some cut => simp [found] at empty

theorem nextToken_of_tokens_cons {text token : Text} {others : List Text}
    (shape : tokens text = token :: others) :
    ∃ rest, nextToken text = (some token, rest) ∧ tokens rest = others := by
  rw [tokens_eq_strtok] at shape
  rw [nextToken]
  cases found : strtok text with
  | none => simp [found] at shape
  | some cut =>
    rw [found] at shape
    obtain ⟨rfl, rfl⟩ := List.cons.inj shape
    exact ⟨cut.2, rfl, rfl⟩

theorem pending_start (buffer : Text) (orderList : OrderList) :
    (start buffer orderList).pending = tokens buffer := by
  cases shape : tokens buffer with
  | nil => simp [start, pending, nextToken_of_tokens_nil shape]
  | cons token others =>
    obtain ⟨rest, found, later⟩ := nextToken_of_tokens_cons shape
    simp [start, pending, found, later]

theorem round_of_nil {state : OrderLoop} (empty : state.pending = []) :
    state.round = .stop (.error .nullPointer) := by
  rw [pending] at empty
  split at empty
  · rename_i missing
    simp [round, atoiAt, missing]
  · cases empty

theorem ptr_of_pending {state : OrderLoop} {token : Text} {others : List Text}
    (shape : state.pending = token :: others) :
    state.ptr = some token ∧ tokens state.rest = others := by
  rw [pending] at shape
  split at shape
  · cases shape
  · rename_i found
    obtain ⟨rfl, rfl⟩ := List.cons.inj shape
    exact ⟨found, rfl⟩

theorem round_of_zero {state : OrderLoop} {token : Text} {others : List Text}
    (shape : state.pending = token :: others) (zero : atoi token = 0) :
    state.round = .stop (.ok state.orderList) := by
  simp [round, atoiAt, (ptr_of_pending shape).1, zero]

theorem round_of_full {state : OrderLoop} {token : Text} {others : List Text}
    (shape : state.pending = token :: others) (nonzero : atoi token ≠ 0)
    (full : maxOrderLines ≤ state.rowOrder) : state.round = .stop (.error .outOfBounds) := by
  simp [round, body, atoiAt, (ptr_of_pending shape).1, nonzero, modify_of_le _ _ full, bind,
    Except.bind]

/-- The line is cut off behind its first or its second token. -/
theorem round_of_short {state : OrderLoop} {token : Text} {others : List Text}
    (shape : state.pending = token :: others) (nonzero : atoi token ≠ 0)
    (room : state.rowOrder < maxOrderLines) (short : others.length < 2) :
    state.round = .stop (.error .nullPointer) := by
  obtain ⟨found, later⟩ := ptr_of_pending shape
  cases others with
  | nil =>
    simp [round, body, atoiAt, found, nonzero, modify_of_lt _ _ room, bind, Except.bind,
      nextToken_of_tokens_nil later]
  | cons quantity others =>
    rw [List.length_cons] at short
    obtain rfl : others = [] := List.eq_nil_of_length_eq_zero (by omega)
    obtain ⟨rest, second, end'⟩ := nextToken_of_tokens_cons later
    simp [round, body, atoiAt, found, nonzero, modify_of_lt _ _ room, bind, Except.bind, second,
      nextToken_of_tokens_nil end']

/-- A whole line is stored in its row. -/
theorem round_of_line {state : OrderLoop}
    {productID quantity itemCostPerUnit : Text} {others : List Text}
    (shape : state.pending = productID :: quantity :: itemCostPerUnit :: others)
    (nonzero : atoi productID ≠ 0) (room : state.rowOrder < maxOrderLines) :
    ∃ next, state.round = .goOn next ∧ next.pending = others ∧
      next.rowOrder = state.rowOrder + 1 ∧
      next.orderList = state.orderList.set state.rowOrder
        ⟨atoi productID, atoi quantity, atoi itemCostPerUnit⟩ := by
  obtain ⟨found, later⟩ := ptr_of_pending shape
  obtain ⟨rest, second, later⟩ := nextToken_of_tokens_cons later
  obtain ⟨rest', third, later⟩ := nextToken_of_tokens_cons later
  have outcome : state.round = .goOn
      { ptr := (nextToken rest').1, rest := (nextToken rest').2,
        rowOrder := state.rowOrder + 1,
        orderList := state.orderList.set state.rowOrder
          ⟨atoi productID, atoi quantity, atoi itemCostPerUnit⟩ } := by
    simp [round, body, atoiAt, found, nonzero, modify_of_lt _ _ room, bind, Except.bind, second,
      third, pure, Except.pure]
  exact ⟨_, outcome, (pending_start rest' state.orderList).trans later, rfl, rfl⟩

/-! ### The whole loop -/

/-- Every round that goes on has read three tokens. -/
theorem length_pending_lt {state next : OrderLoop} (goesOn : state.round = .goOn next) :
    next.pending.length < state.pending.length := by
  cases shape : state.pending with
  | nil =>
    rw [round_of_nil shape] at goesOn
    cases goesOn
  | cons productID others =>
    by_cases zero : atoi productID = 0
    · rw [round_of_zero shape zero] at goesOn
      cases goesOn
    · by_cases room : state.rowOrder < maxOrderLines
      · match others with
        | [] =>
          rw [round_of_short shape zero room Nat.zero_lt_two] at goesOn
          cases goesOn
        | [quantity] =>
          rw [round_of_short shape zero room Nat.one_lt_two] at goesOn
          cases goesOn
        | quantity :: itemCostPerUnit :: others =>
          obtain ⟨next', outcome, later, -⟩ := round_of_line shape zero room
          rw [outcome] at goesOn
          obtain rfl := Outcome.goOn.inj goesOn
          rw [later, List.length_cons, List.length_cons, List.length_cons]
          omega
      · rw [round_of_full shape zero (Nat.le_of_not_lt room)] at goesOn
        cases goesOn

/-- The loop ends on every text, with a list or with a fault. -/
theorem exists_outcome (state : OrderLoop) : ∃ outcome, Exits round state outcome := by
  obtain ⟨outcome, ends, -⟩ := exists_exits (fun _ => True) (fun state => state.pending.length)
    (fun _ => True) (fun _ _ _ goesOn => ⟨trivial, length_pending_lt goesOn⟩)
    (fun _ _ _ _ => trivial) (show True from trivial)
  exact ⟨outcome, ends⟩

/-- The loop ends without a fault exactly if the recursion on the tokens it has not read does, and
with the same list. -/
theorem exits_ok_iff (state : OrderLoop) (result : OrderList) :
    Exits round state (.ok result) ↔
      fillOrder state.pending state.rowOrder state.orderList.toList = some result.toList := by
  generalize shape : state.pending = pending
  induction pending using extractOrderLines.induct generalizing state with
  | case1 =>
    rw [exits_iff_of_stop (round_of_nil shape)]
    simp [fillOrder]
  | case2 productID others zero =>
    rw [exits_iff_of_stop (round_of_zero shape zero), fillOrder_of_zero _ _ zero]
    simp [Vector.toList_inj, eq_comm]
  | case3 productID nonzero quantity itemCostPerUnit others inductionHypothesis =>
    rw [fillOrder_of_line _ _ nonzero, storeAt, Vector.length_toList]
    by_cases room : state.rowOrder < maxOrderLines
    · obtain ⟨next, outcome, later, row, stored⟩ := round_of_line shape nonzero room
      rw [exits_iff_of_goOn outcome, inductionHypothesis next later, row, stored, if_pos room]
      rfl
    · rw [exits_iff_of_stop (round_of_full shape nonzero (Nat.le_of_not_lt room)), if_neg room]
      simp
  | case4 productID others nonzero short =>
    have cutOff := length_lt_two short
    rw [fillOrder_of_short _ _ nonzero cutOff]
    by_cases room : state.rowOrder < maxOrderLines
    · rw [exits_iff_of_stop (round_of_short shape nonzero room cutOff)]
      simp
    · rw [exits_iff_of_stop (round_of_full shape nonzero (Nat.le_of_not_lt room))]
      simp

/-- The call of `extractBuyerOrder`. -/
theorem start_exits_ok_iff (buffer : Text) (orderList result : OrderList) :
    Exits round (start buffer orderList) (.ok result) ↔
      extractBuyerOrderInto buffer orderList = some result.toList := by
  rw [exits_ok_iff, pending_start]
  rfl

end OrderLoop

/-! ### Safe decoding -/

/-- On this text the loop of `extractBuyerOrder` comes to its end; it neither hands a null pointer
to `atoi` nor writes a row outside the list. -/
structure DecodesSafely (buffer : Text) (orderList : OrderList) : Prop where
  ends : ∃ outcome, Exits OrderLoop.round (OrderLoop.start buffer orderList) outcome
  tokens : ¬Exits OrderLoop.round (OrderLoop.start buffer orderList) (.error .nullPointer)
  rows : ¬Exits OrderLoop.round (OrderLoop.start buffer orderList) (.error .outOfBounds)

/-- The list of the recursion has all its rows, so it is a list of the loop. -/
theorem extractBuyerOrderInto_eq_some_iff (buffer : Text) (orderList : OrderList)
    (result : List ItemOrder) :
    extractBuyerOrderInto buffer orderList = some result ↔
      ∃ items, extractBuyerOrder buffer = some items ∧ items.length ≤ maxOrderLines ∧
        result = items ++ orderList.toList.drop items.length := by
  rw [extractBuyerOrderInto, fillOrder_eq _ (Nat.zero_le _), Option.bind_eq_some_iff]
  refine exists_congr fun items => and_congr Iff.rfl ?_
  rw [overwrite, Vector.length_toList, Nat.zero_add, List.take_zero, List.nil_append]
  split
  · rename_i fits
    simp [fits, eq_comm]
  · rename_i fits
    simp [fits]

/-- Lines that find room in the list are decoded into it. -/
theorem exists_exits_ok {buffer : Text} {items : List ItemOrder}
    (extracted : extractBuyerOrder buffer = some items) (fits : items.length ≤ maxOrderLines)
    (orderList : OrderList) :
    ∃ result, Exits OrderLoop.round (OrderLoop.start buffer orderList) (.ok result) ∧
      result.toList = items ++ orderList.toList.drop items.length := by
  have rows : (items ++ orderList.toList.drop items.length).toArray.size = maxOrderLines := by
    rw [List.size_toArray, List.length_append, List.length_drop, Vector.length_toList]
    omega
  refine ⟨⟨_, rows⟩, (OrderLoop.start_exits_ok_iff _ _ _).mpr ?_, rfl⟩
  exact (extractBuyerOrderInto_eq_some_iff _ _ _).mpr ⟨items, extracted, fits, rfl⟩

/-- The lines are decoded and find room in the list. -/
theorem decodesSafely_iff_extracted (buffer : Text) (orderList : OrderList) :
    DecodesSafely buffer orderList ↔
      ∃ items, extractBuyerOrder buffer = some items ∧ items.length ≤ maxOrderLines := by
  constructor
  · intro safe
    obtain ⟨outcome, ends⟩ := safe.ends
    cases outcome with
    | ok result =>
      rw [OrderLoop.start_exits_ok_iff, extractBuyerOrderInto_eq_some_iff] at ends
      obtain ⟨items, extracted, fits, -⟩ := ends
      exact ⟨items, extracted, fits⟩
    | error fault =>
      cases fault with
      | nullPointer => exact absurd ends safe.tokens
      | outOfBounds => exact absurd ends safe.rows
  · rintro ⟨items, extracted, fits⟩
    obtain ⟨result, ends, -⟩ := exists_exits_ok extracted fits orderList
    refine ⟨⟨_, ends⟩, ?_, ?_⟩
    · intro missing
      cases ends.unique missing
    · intro outside
      cases ends.unique outside

/-- The recursion on the tokens yields few enough lines exactly if one of the tokens in front of
the lines reads as zero early enough. -/
theorem extractOrderLines_length_le_iff (tokens : List Text) (bound : Nat) :
    (∃ items, extractOrderLines tokens = some items ∧ items.length ≤ bound) ↔
      ∃ line ≤ bound, tokens[3 * line]?.map atoi = some 0 := by
  fun_induction extractOrderLines tokens generalizing bound with
  | case1 => simp
  | case2 productID others zero =>
    exact ⟨fun _ => ⟨0, Nat.zero_le bound, by simp [zero]⟩,
      fun _ => ⟨[], rfl, Nat.zero_le bound⟩⟩
  | case3 productID nonzero quantity itemCostPerUnit others inductionHypothesis =>
    constructor
    · rintro ⟨_, extracted, fits⟩
      obtain ⟨items, later, built⟩ := Option.bind_eq_some_iff.mp extracted
      obtain rfl := Option.some.inj built
      rw [List.length_cons] at fits
      obtain ⟨line, few, zero⟩ := (inductionHypothesis (bound - 1)).mp ⟨items, later, by omega⟩
      exact ⟨line + 1, by omega, by simpa [Nat.mul_add] using zero⟩
    · rintro ⟨line, few, zero⟩
      cases line with
      | zero => exact absurd (by simpa using zero) nonzero
      | succ line =>
        obtain ⟨items, later, fits⟩ := (inductionHypothesis (bound - 1)).mpr
          ⟨line, by omega, by simpa [Nat.mul_add] using zero⟩
        refine ⟨_, Option.bind_eq_some_iff.mpr ⟨items, later, rfl⟩, ?_⟩
        rw [List.length_cons]
        omega
  | case4 productID others nonzero short =>
    have cutOff := length_lt_two short
    constructor
    · rintro ⟨_, extracted, -⟩
      cases extracted
    · rintro ⟨line, -, zero⟩
      cases line with
      | zero => exact absurd (by simpa using zero) nonzero
      | succ line =>
        rw [List.getElem?_eq_none (by rw [List.length_cons]; omega)] at zero
        cases zero

/-- A text is decoded safely exactly if `atoi` reads zero from one of its tokens with the numbers
0, 3, 6 and so on up to 300. -/
theorem decodesSafely_iff (buffer : Text) (orderList : OrderList) :
    DecodesSafely buffer orderList ↔
      ∃ line ≤ maxOrderLines, (tokens buffer)[3 * line]?.map atoi = some 0 := by
  rw [decodesSafely_iff_extracted, extractBuyerOrder]
  exact extractOrderLines_length_le_iff (tokens buffer) maxOrderLines

/-- The order list before it is decoded into. -/
def zeroedList : OrderList := Vector.replicate maxOrderLines default

/-- A line that is cut off behind the quantity: the newlines of the stages before end up in the
quantity, and the price is missing. -/
theorem truncatedOrder_not_safe :
    extractCommand "[COMPLETE_ORDER],1001,2004,5".toList =
        some ("[COMPLETE_ORDER]".toList, "1001,2004,5\n".toList) ∧
      extractBuyer "1001,2004,5\n".toList = some (1001, "2004,5\n\n".toList) ∧
      ¬DecodesSafely "2004,5\n\n".toList zeroedList := by
  refine ⟨by decide, by decide, fun safe => safe.tokens ?_⟩
  have computed : run OrderLoop.round 1 (OrderLoop.start "2004,5\n\n".toList zeroedList) =
      some (.error .nullPointer) := by
    rfl
  exact exits_of_run computed

/-- A request of whole lines is decoded safely exactly if no more lines than the list has rows stand
in front of the one that ends the order. -/
theorem decodesSafely_orderText_iff (lines : List OrderLine) (orderList : OrderList) :
    DecodesSafely (orderText lines) orderList ↔ (orderItems lines).length ≤ maxOrderLines := by
  rw [decodesSafely_iff_extracted, extractBuyerOrder_orderText]
  simp

/-! ### Orders of the documented form -/

/-- An order line as it stands in a request. -/
def ItemOrder.fields (line : ItemOrder) : List Text :=
  [decimal line.productID, decimal line.quantity, decimal line.itemCostPerUnit]

/-- The message in which a client orders these lines. -/
def orderMessage (buyerID : Int32) (lines : List ItemOrder) : Text :=
  joinFields ("[COMPLETE_ORDER]".toList :: decimal buyerID :: lines.flatMap ItemOrder.fields)

/-- The tokens of an order line that is printed in decimal. -/
def OrderLine.ofItem (item : ItemOrder) : OrderLine :=
  ⟨Token.ofNumber item.productID, Token.ofNumber item.quantity,
    Token.ofNumber item.itemCostPerUnit⟩

theorem OrderLine.item_ofItem (item : ItemOrder) : (OrderLine.ofItem item).item = item := by
  simp only [OrderLine.item, OrderLine.ofItem, Token.number_ofNumber]

theorem orderMessage_eq_message (buyerID : Int32) (lines : List ItemOrder) :
    orderMessage buyerID lines =
      (Request.completeOrder (Token.ofNumber buyerID) (lines.map OrderLine.ofItem)).message := by
  simp only [orderMessage, Request.message, Request.command, Request.fields, List.flatMap_map]
  rfl

theorem length_flatMap_fields (lines : List ItemOrder) :
    (lines.flatMap ItemOrder.fields).length = 3 * lines.length := by
  induction lines with
  | nil => rfl
  | cons line lines inductionHypothesis =>
    have own : line.fields.length = 3 := rfl
    rw [List.flatMap_cons, List.length_append, inductionHypothesis, own, List.length_cons]
    omega

theorem sum_length_fields_le (lines : List ItemOrder) :
    ((lines.flatMap ItemOrder.fields).map List.length).sum ≤ 33 * lines.length := by
  induction lines with
  | nil => exact Nat.le_refl 0
  | cons line lines inductionHypothesis =>
    have first := length_decimal_le line.productID
    have second := length_decimal_le line.quantity
    have third := length_decimal_le line.itemCostPerUnit
    simp only [List.flatMap_cons, List.map_append, List.sum_append, ItemOrder.fields,
      List.map_cons, List.map_nil, List.sum_cons, List.sum_nil, List.length_cons]
    omega

/-- An order that the list has room for always fits the message buffer. -/
theorem isMessage_orderMessage (buyerID : Int32) {lines : List ItemOrder}
    (short : lines.length ≤ maxOrderLines) : IsMessage (orderMessage buyerID lines) := by
  constructor
  · have widths := sum_length_fields_le lines
    have buyer := length_decimal_le buyerID
    have tag : "[COMPLETE_ORDER]".toList.length = 16 := rfl
    have bound : maxOrderLines = 100 := rfl
    have size : MSG_BUFFER_SIZE = 10240 := rfl
    rw [orderMessage, length_joinFields]
    simp only [List.map_cons, List.sum_cons, List.length_cons, length_flatMap_fields]
    omega
  · intro member
    have digits {number : Int32} (inNumber : nul ∈ decimal number) : False :=
      absurd (isDigit_of_mem_decimal inNumber) (by decide)
    rcases mem_joinFields member with comma | ⟨field, inFields, inField⟩
    · exact absurd comma (by decide)
    · simp only [List.mem_cons, List.mem_flatMap, ItemOrder.fields, List.not_mem_nil,
        or_false] at inFields
      rcases inFields with rfl | rfl | ⟨line, -, rfl | rfl | rfl⟩
      · exact absurd inField (by decide)
      all_goals exact digits inField

theorem orderItems_ofItem {lines : List ItemOrder}
    (named : ∀ line ∈ lines, line.productID ≠ 0) :
    orderItems (lines.map OrderLine.ofItem) = lines := by
  have items : (lines.map OrderLine.ofItem).map OrderLine.item = lines := by
    rw [List.map_map]
    exact (List.map_congr_left fun line _ => OrderLine.item_ofItem line).trans (List.map_id lines)
  rw [orderItems, items]
  exact records_eq_self fun line member => by simpa using named line member

/-- The scans of the list end at the zeroed row behind the lines. -/
theorem orderRows_zeroed {lines : List ItemOrder} (named : ∀ line ∈ lines, line.productID ≠ 0)
    (rows : Nat) : orderRows (lines ++ List.replicate rows default) = lines := by
  have kept : ∀ line ∈ lines, (!(line.productID == 0)) = true := fun line member => by
    simpa using named line member
  rw [orderRows, records, List.takeWhile_append_of_pos kept, List.takeWhile_replicate_eq_filter]
  simp [show (default : ItemOrder).productID = 0 from rfl]

/-- An order request decodes to the command, the buyer and the lines, in order, with zeroed rows
behind them at which the scans of the list end. -/
theorem decode_orderMessage (buyerID : Int32) {lines : List ItemOrder}
    (short : lines.length ≤ 99) (named : ∀ line ∈ lines, line.productID ≠ 0) :
    ∃ buffer rest orderList,
      extractCommand (orderMessage buyerID lines) = some ("[COMPLETE_ORDER]".toList, buffer) ∧
      extractBuyer buffer = some (buyerID, rest) ∧
      Exits OrderLoop.round (OrderLoop.start rest zeroedList) (.ok orderList) ∧
      orderList.toList = lines ++ List.replicate (100 - lines.length) default ∧
      orderRows orderList.toList = lines := by
  have decoded := extractBuyerOrder_orderText (lines.map OrderLine.ofItem)
  rw [orderItems_ofItem named] at decoded
  have fits : lines.length ≤ maxOrderLines := Nat.le_succ_of_le short
  obtain ⟨orderList, ends, list⟩ := exists_exits_ok decoded fits zeroedList
  rw [zeroedList, Vector.toList_replicate, List.drop_replicate] at list
  have split := extractBuyer_buffer (Token.ofNumber buyerID) (lines.map OrderLine.ofItem)
  rw [Token.number_ofNumber] at split
  refine ⟨_, _, orderList, ?_, split, ends, list, ?_⟩
  · rw [orderMessage_eq_message, Request.extractCommand_message]
    rfl
  · rw [list, orderRows_zeroed named]

/-- Two lines, one of which returns goods for nothing. -/
theorem decode_orderMessage_pens :
    ∃ buffer rest orderList,
      extractCommand (orderMessage 1001 [⟨2004, 5, 3⟩, ⟨2006, -2, 0⟩]) =
        some ("[COMPLETE_ORDER]".toList, buffer) ∧
      extractBuyer buffer = some (1001, rest) ∧
      Exits OrderLoop.round (OrderLoop.start rest zeroedList) (.ok orderList) ∧
      orderList.toList = [⟨2004, 5, 3⟩, ⟨2006, -2, 0⟩] ++ List.replicate 98 default ∧
      orderRows orderList.toList = [⟨2004, 5, 3⟩, ⟨2006, -2, 0⟩] :=
  decode_orderMessage 1001 (by decide) (by decide)

end OnlineStore
