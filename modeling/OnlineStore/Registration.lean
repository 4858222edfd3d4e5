/-
This file says what a registration stores.

The two branches of `writeNewClientData` copy the submitted fields one by one into a row behind
the last one. Neither of them copies the phone number, and the seller's branch leaves a zeroed row
before the new one, at which every later scan of the table ends.
-/

import OnlineStore.OrderAccounting
import OnlineStore.Requests

namespace OnlineStore

open CString Cells Prog

/-! ### The row that is stored -/

/-- The row of a registration, with the phone number that is not copied. -/
def registeredRow (uuid : Int32) (firstName lastName streetAddress city state zipCode : Chars) :
    CsvClientInfo :=
  { (default : CsvClientInfo) with
    uuid := uuid
    firstName := firstName
    lastName := lastName
    streetAddress := streetAddress
    city := city
    state := state
    zipCode := zipCode }

/-- What a registration adds to the rows of a table. -/
def ClientType.added (row : CsvClientInfo) : ClientType → List CsvClientInfo
  | .buyer => [row]
  | .seller => [default, row]

theorem clientRows_eq_self {clients : List CsvClientInfo} (named : ∀ row ∈ clients, row.uuid ≠ 0) :
    clientRows clients = clients :=
  records_eq_self fun row member => by simpa using named row member

theorem registeredTable_eq (uuid : Int32) (clientType : ClientType)
    (firstName lastName streetAddress city state zipCode : Chars) {clients : List CsvClientInfo}
    (named : ∀ row ∈ clients, row.uuid ≠ 0) :
    registeredTable uuid clientType firstName lastName streetAddress city state zipCode clients =
      clients ++ clientType.added
        (registeredRow uuid firstName lastName streetAddress city state zipCode) := by
  rw [registeredTable, newClientRow, clientRows_eq_self named, cell_of_le (Nat.le_add_right _ _)]
  cases clientType with
  | buyer => exact put_length ..
  | seller => exact put_length_succ ..

/-- The scans of a table pass the new row of a buyer, and end before the new row of a seller. -/
theorem clientRows_append_added (clientType : ClientType) {clients : List CsvClientInfo}
    {row : CsvClientInfo} (named : ∀ row ∈ clients, row.uuid ≠ 0) (identified : row.uuid ≠ 0) :
    clientRows (clients ++ clientType.added row) =
      if clientType = .buyer then clients ++ [row] else clients := by
  have prefixed (rest : List CsvClientInfo) :
      clientRows (clients ++ rest) = clients ++ clientRows rest :=
    List.takeWhile_append_of_pos fun row member => by simpa using named row member
  cases clientType with
  | buyer =>
    have last : clientRows [row] = [row] :=
      clientRows_eq_self fun other member => List.mem_singleton.mp member ▸ identified
    rw [ClientType.added, prefixed, last, if_pos rfl]
  | seller =>
    have cut : clientRows [default, row] = [] := rfl
    rw [ClientType.added, prefixed, cut, List.append_nil, if_neg (by decide)]

/-! ### The fields that are submitted -/

/-- The seven fields that a client submits. -/
structure ClientData where
  firstName : Token 20
  lastName : Token 20
  phoneNumber : Token 20
  streetAddress : Token 20
  city : Token 20
  state : Token 20
  zipCode : Token 20

namespace ClientData

/-- The request that submits them. -/
def request (data : ClientData) (clientType : ClientType) : Request :=
  .newClient clientType data.firstName data.lastName data.phoneNumber data.streetAddress data.city
    data.state data.zipCode

/-- The row that carries the id and all seven of them. -/
def wholeRow (data : ClientData) (uuid : Int32) : CsvClientInfo where
  uuid := uuid
  firstName := data.firstName.chars
  lastName := data.lastName.chars
  phoneNumber := data.phoneNumber.chars
  streetAddress := data.streetAddress.chars
  city := data.city.chars
  state := data.state.chars
  zipCode := data.zipCode.chars

/-- The row that is stored. -/
def storedRow (data : ClientData) (uuid : Int32) : CsvClientInfo :=
  registeredRow uuid data.firstName.chars data.lastName.chars data.streetAddress.chars
    data.city.chars data.state.chars data.zipCode.chars

theorem storedRow_ne_wholeRow (data : ClientData) (uuid : Int32) :
    data.storedRow uuid ≠ data.wholeRow uuid := by
  intro same
  have numbers : (default : Chars) = data.phoneNumber.chars :=
    congrArg CsvClientInfo.phoneNumber same
  exact data.phoneNumber.isField.1 (congrArg Subtype.val numbers).symm

end ClientData

section Registered

variable {Store : Type} {backing : Backing Store} {tables : Tables} {world : World Store}
variable (rand : Rand) (now : Nat)

theorem World.handClients_inj {clientType : ClientType} {clients clients' : List CsvClientInfo}
    (same : world.handClients backing clientType clients =
      world.handClients backing clientType clients') : clients = clients' := by
  have handed := congrArg World.handed same
  cases clientType <;> simpa [handClients] using handed

/-- What the server does with a registration. -/
theorem serve_registration (loads : Loads backing world tables) (clientType : ClientType)
    (data : ClientData) (named : ∀ row ∈ tables.clients clientType, row.uuid ≠ 0) :
    serve backing rand now (data.request clientType).message world =
      some ((world.reply (decimal (uidAt rand now))).handClients backing clientType
        (tables.clients clientType ++ clientType.added (data.storedRow (uidAt rand now)))) := by
  rw [serve_message rand now loads, ClientData.request, Request.effect,
    registeredTable_eq _ _ _ _ _ _ _ _ named]
  rfl

/-- The last row of the table that is handed over lacks the phone number. -/
theorem added_ne_wholeRow (clientType : ClientType) (clients : List CsvClientInfo)
    (data : ClientData) (uuid : Int32) :
    clients ++ clientType.added (data.storedRow uuid) ≠ clients ++ [data.wholeRow uuid] := by
  intro same
  have added := List.append_cancel_left same
  cases clientType with
  | buyer => exact data.storedRow_ne_wholeRow uuid (List.head_eq_of_cons_eq added)
  | seller => exact absurd (congrArg List.length added) (by simp [ClientType.added])

/-- No registration stores the whole record, whatever the table and the fields. The server answers
with the drawn id and hands over the old rows, for a seller a zeroed row, and a row with the id
and all fields but the phone number. A scan of that table passes the new row of a buyer only. -/
theorem registration_not_whole (loads : Loads backing world tables) (clientType : ClientType)
    (data : ClientData) (named : ∀ row ∈ tables.clients clientType, row.uuid ≠ 0) :
    ∃ table, serve backing rand now (data.request clientType).message world =
        some ((world.reply (decimal (uidAt rand now))).handClients backing clientType table) ∧
      table ≠ tables.clients clientType ++ [data.wholeRow (uidAt rand now)] ∧
      table = tables.clients clientType ++ clientType.added
        { data.wholeRow (uidAt rand now) with phoneNumber := default } ∧
      (clientRows table = table ↔ clientType = .buyer) := by
  refine ⟨_, serve_registration rand now loads clientType data named,
    added_ne_wholeRow clientType _ data _, rfl, ?_⟩
  have drawn : (data.storedRow (uidAt rand now)).uuid ≠ 0 := uidAt_ne_zero rand now
  rw [clientRows_append_added clientType named drawn]
  cases clientType with
  | buyer => exact iff_of_true rfl rfl
  | seller =>
    refine iff_of_false (fun same => ?_) (by decide)
    exact absurd (congrArg List.length same) (by simp [ClientType.added])

end Registered

/-- Clark Kent registers, with all seven fields. -/
def clarkKent : ClientData where
  firstName := ⟨"Clark".toList, by decide⟩
  lastName := ⟨"Kent".toList, by decide⟩
  phoneNumber := ⟨"(555)555-0100".toList, by decide⟩
  streetAddress := ⟨"344 Clinton St.".toList, by decide⟩
  city := ⟨"Metropolis".toList, by decide⟩
  state := ⟨"NY".toList, by decide⟩
  zipCode := ⟨"10001".toList, by decide⟩

theorem registration_not_whole_clarkKent :
    ∃ table, serve diskBacking id 0 (clarkKent.request .seller).message shippedWorld =
        some ((shippedWorld.reply (decimal (uidAt id 0))).handClients diskBacking .seller table) ∧
      table ≠ shippedTables .SellerInfo ++ [clarkKent.wholeRow (uidAt id 0)] ∧
      table = shippedTables .SellerInfo ++ ClientType.added
        { clarkKent.wholeRow (uidAt id 0) with phoneNumber := default } .seller ∧
      (clientRows table = table ↔ ClientType.seller = .buyer) := by
  have named : ∀ row ∈ shippedTables .SellerInfo, row.uuid ≠ 0 := by decide
  exact registration_not_whole id 0 loads_shippedWorld .seller clarkKent named

/-- Clark Kent registers as a buyer, and is stored without a phone number. -/
theorem clarkKent_not_whole :
    serve diskBacking id 0 (clarkKent.request .buyer).message shippedWorld ≠
      some ((shippedWorld.reply (decimal (uidAt id 0))).handClients diskBacking .buyer
        (shippedTables .CustomerInfo ++ [clarkKent.wholeRow (uidAt id 0)])) := by
  have named : ∀ row ∈ shippedTables .CustomerInfo, row.uuid ≠ 0 := by decide
  rw [serve_registration id 0 loads_shippedWorld .buyer clarkKent named]
  intro same
  exact added_ne_wholeRow .buyer _ clarkKent _ (World.handClients_inj (Option.some.inj same))

end OnlineStore
