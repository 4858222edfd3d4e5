/-
This file settles whether ids are keys. `generateUID` seeds the generator with the clock and
takes what it draws, so a new row has the id of an old one whenever the generator draws that id
again, for example within the same second.

Over any run of registrations, new products and orders the tables handed to the write-backs have
distinct ids exactly when every draw is unused in the table that it is drawn for
(`distinct_handed_iff`). The tables pass through the files between two requests. A file that loads
after a write-back has the ids of the rows that were printed (`ids_of_load_putBack`): a row whose
text spills over its line leaves a file that does not load.
-/

import OnlineStore.Loadability
import OnlineStore.Registration
import Mathlib.Data.List.Nodup

namespace OnlineStore

open CString Cells Prog

/-! ### Ids that survive a write-back -/

/-- The ids of a table. -/
def DbFile.ids (file : DbFile) (table : List file.Row) : List Int32 :=
  table.map file.key

/-- The id of the row is printed as it is, and its line is read back or not read at all. -/
structure DbFile.Keyed (file : DbFile) (row : file.Row) : Prop where
  positive : 0 < file.key row
  lines : file.layout.Plain 200 row ∨ file.layout.Broken 200 row

section Reading

variable {file : DbFile}

/-- The first token of a line is read as the id. -/
theorem key_of_read {id : Text} {rest : List Text} {record : file.Row}
    (read : file.layout.read (id :: rest) = some record) : file.key record = atoi id := by
  cases file with
  | CustomerInfo | SellerInfo =>
    simp only [DbFile.layout, clientLayout] at read
    split at read
    · rename_i shape
      simp only [Option.bind_eq_bind, Option.bind_eq_some_iff, Option.pure_def,
        Option.some.injEq] at read
      obtain ⟨_, -, _, -, _, -, _, -, _, -, _, -, _, -, rfl⟩ := read
      rw [(List.cons.inj shape).1]
      rfl
    · cases read
  | ProductInfo =>
    simp only [DbFile.layout, productLayout] at read
    split at read
    · rename_i shape
      simp only [Option.bind_eq_bind, Option.bind_eq_some_iff, Option.pure_def,
        Option.some.injEq] at read
      obtain ⟨_, -, rfl⟩ := read
      rw [(List.cons.inj shape).1]
      rfl
    · cases read
  | BillingInfo =>
    simp only [DbFile.layout, billingLayout] at read
    split at read
    · rename_i shape
      simp only [Option.bind_eq_bind, Option.bind_eq_some_iff, Option.pure_def,
        Option.some.injEq] at read
      obtain ⟨_, -, _, -, _, -, _, -, _, -, _, -, rfl⟩ := read
      rw [(List.cons.inj shape).1]
      rfl
    · cases read
  | CustomerOrder =>
    simp only [DbFile.layout, customerOrderLayout] at read
    split at read
    · rename_i shape
      simp only [Option.bind_eq_bind, Option.bind_eq_some_iff, Option.pure_def,
        Option.some.injEq] at read
      obtain ⟨_, -, _, -, _, -, _, -, _, -, _, -, rfl⟩ := read
      rw [(List.cons.inj shape).1]
      rfl
    · cases read

/-- A positive id is read back. -/
theorem key_of_readBack {row record : file.Row} (positive : 0 < file.key row)
    (back : file.layout.readBack row = some record) : file.key record = file.key row := by
  obtain ⟨printed, same⟩ := (printed_iff (file.key row)).mpr positive
  obtain ⟨rest, fields⟩ : ∃ rest,
      file.layout.fields row = intToCharArray (file.key row) :: rest := by
    cases file <;> exact ⟨_, rfl⟩
  rw [Layout.readBack, fields, List.filter_cons_of_pos (by simpa using printed)] at back
  rw [key_of_read back, same]

/-- A file that loads after a write-back holds the ids of rows of the table. -/
theorem ids_of_load_putBack {old : Text} {table read : List file.Row}
    (each : ∀ row ∈ table, file.Keyed row ∨ row = default)
    (loaded : file.load (file.putBack old table) = some read) :
    (file.ids read).Sublist (file.ids table) ∧ ∀ row ∈ read, 0 < file.key row := by
  have lines : ∀ row ∈ table, file.layout.Plain 200 row ∨ file.layout.Broken 200 row := by
    intro row member
    rcases each row member with keyed | rfl
    · exact keyed.lines
    · exact .inl (plain_default file)
  obtain ⟨-, back⟩ :=
    Layout.readBack_of_load_putBack lines (plain_default file) (readBack_default file) loaded
  have printed := fun row member => each row (List.take_subset (newlines old + 1) table member)
  generalize taken : table.take (newlines old + 1) = rows at back printed
  have sublist : (file.ids rows).Sublist (file.ids table) :=
    taken ▸ (List.take_sublist _ table).map _
  suffices same : file.ids read = file.ids rows ∧ ∀ row ∈ read, 0 < file.key row from
    ⟨same.1 ▸ sublist, same.2⟩
  clear taken sublist loaded lines each
  induction back with
  | nil => exact ⟨rfl, fun row member => absurd member List.not_mem_nil⟩
  | @cons row record rows records head tail inductionHypothesis =>
    obtain ⟨own, others⟩ := List.forall_mem_cons.mp printed
    obtain ⟨same, positive⟩ := inductionHypothesis others
    rcases own with keyed | rfl
    · have key := key_of_readBack keyed.positive head
      refine ⟨?_, List.forall_mem_cons.mpr ⟨key ▸ keyed.positive, positive⟩⟩
      rw [DbFile.ids, DbFile.ids, List.map_cons, List.map_cons, key]
      exact congrArg _ same
    · rw [readBack_default] at head
      cases head

end Reading

/-! ### Lines of clients and bills -/

/-- A text that holds a newline only at its end, if at all. -/
structure Trailing (text : Text) : Prop where
  commaFree : ',' ∉ text
  last : '\n' ∉ text.dropLast

theorem Trailing.split {text : Text} (trailing : Trailing text) (newline : '\n' ∈ text) :
    ∃ field, text = field ++ ['\n'] ∧ '\n' ∉ field := by
  have nonempty : text ≠ [] := List.ne_nil_of_mem newline
  have shape := List.dropLast_append_getLast nonempty
  refine ⟨text.dropLast, ?_, trailing.last⟩
  rw [← shape] at newline
  rcases List.mem_append.mp newline with early | late
  · exact absurd early trailing.last
  · rw [List.mem_singleton.mp late]
    exact shape.symm

/-- The zip code of a client may hold the newline of its line. -/
theorem lines_of_client {row : CsvClientInfo}
    (texts : ∀ chars ∈ DbFile.texts .CustomerInfo row, ',' ∉ chars.val ∧ '\n' ∉ chars.val)
    (trailing : Trailing row.zipCode.val) :
    clientLayout.Plain 200 row ∨ clientLayout.Broken 200 row := by
  by_cases newline : '\n' ∈ row.zipCode.val
  · obtain ⟨field, zip, own⟩ := trailing.split newline
    have fields : clientLayout.fields row = [intToCharArray row.uuid, row.firstName.val,
        row.lastName.val, row.phoneNumber.val, row.streetAddress.val, row.city.val,
        row.state.val] ++ (field ++ ['\n']) :: [] := by
      rw [← zip]
      rfl
    simp only [DbFile.texts, List.forall_mem_cons] at texts
    refine .inr (Layout.broken_of_field fields ?_ own ?_
      (length_joinFields_fields .CustomerInfo row) rfl)
    · simp [newline_not_mem_intToCharArray, texts]
    · exact fun other member => absurd member List.not_mem_nil
  · have unseparated : DbFile.Unseparated .CustomerInfo row := fun chars member => by
      rcases List.mem_append.mp member with early | late
      · exact texts chars early
      · exact List.mem_singleton.mp late ▸ ⟨trailing.commaFree, newline⟩
    exact .inl (plain_of_unseparated unseparated)

/-- So may the zip code of the bill of an order. -/
theorem lines_of_bill {row : CsvBillingInfo}
    (texts : ∀ chars ∈ [row.firstName, row.lastName, row.streetAddress, row.city, row.state],
      ',' ∉ chars.val ∧ '\n' ∉ chars.val)
    (trailing : Trailing row.zipCode.val) :
    billingLayout.Plain 200 row ∨ billingLayout.Broken 200 row := by
  by_cases newline : '\n' ∈ row.zipCode.val
  · obtain ⟨field, zip, own⟩ := trailing.split newline
    have fields : billingLayout.fields row = [intToCharArray row.orderId,
        intToCharArray row.customerId, row.firstName.val, row.lastName.val,
        row.streetAddress.val, row.city.val, row.state.val] ++
          (field ++ ['\n']) :: [intToCharArray row.totalOrderCost] := by
      rw [← zip]
      rfl
    simp only [List.forall_mem_cons] at texts
    refine .inr (Layout.broken_of_field fields ?_ own ?_
      (length_joinFields_fields .BillingInfo row) ?_)
    · simp [newline_not_mem_intToCharArray, texts]
    · exact List.forall_mem_singleton.mpr
        ⟨comma_not_mem_intToCharArray _, newline_not_mem_intToCharArray _⟩
    · cases intToCharArray row.totalOrderCost <;> rfl
  · have unseparated : DbFile.Unseparated .BillingInfo row := fun chars member => by
      have split : chars ∈ [row.firstName, row.lastName, row.streetAddress, row.city,
          row.state] ++ [row.zipCode] := member
      rcases List.mem_append.mp split with early | late
      · exact texts chars early
      · exact List.mem_singleton.mp late ▸ ⟨trailing.commaFree, newline⟩
    exact .inl (plain_of_unseparated unseparated)

/-- The texts of a loaded client hold no separator, but for the newline behind the zip code. -/
theorem texts_of_mem_load_clients {text : Text} {rows : List CsvClientInfo} {row : CsvClientInfo}
    (loaded : clientLayout.load 200 text = some rows) (member : row ∈ rows) :
    (∀ chars ∈ DbFile.texts .CustomerInfo row, ',' ∉ chars.val ∧ '\n' ∉ chars.val) ∧
      Trailing row.zipCode.val := by
  obtain ⟨line, inFile, read⟩ := Layout.exists_line_of_mem_load loaded member
  obtain ⟨inline, zip⟩ := inline_of_read_client inFile read
  refine ⟨fun chars inRow => ⟨(inline chars inRow).1.commaFree, (inline chars inRow).2⟩,
    zip.commaFree, ?_⟩
  have token : row.zipCode.val ∈ tokens line := by
    simp only [clientLayout] at read
    split at read
    · rename_i shape
      simp only [Option.bind_eq_bind, Option.bind_eq_some_iff, strcpy_eq_some_iff,
        Option.pure_def, Option.some.injEq] at read
      obtain ⟨_, rfl, _, rfl, _, rfl, _, rfl, _, rfl, _, rfl, _, rfl, rfl⟩ := read
      rw [shape]
      simp
    · cases read
  exact newline_last_of_mem_tokensFrom List.not_mem_nil (newline_last_of_mem_fgets inFile) token

/-- Loaded rows with positive ids survive a write-back or break the file. -/
theorem keyed_of_mem_load {file : DbFile} {text : Text} {rows : List file.Row} {row : file.Row}
    (loaded : file.load text = some rows) (member : row ∈ rows) (positive : 0 < file.key row) :
    file.Keyed row := by
  refine ⟨positive, ?_⟩
  have inline := inline_of_mem_load loaded member
  have plain (columns : file.columns row = file.texts row) : file.layout.Plain 200 row :=
    plain_of_unseparated fun chars inRow =>
      ⟨(inline chars (columns ▸ inRow)).1.commaFree, (inline chars (columns ▸ inRow)).2⟩
  cases file with
  | CustomerInfo =>
    obtain ⟨texts, zip⟩ := texts_of_mem_load_clients loaded member
    exact lines_of_client texts zip
  | SellerInfo =>
    obtain ⟨texts, zip⟩ := texts_of_mem_load_clients loaded member
    exact lines_of_client texts zip
  | ProductInfo => exact .inl (plain rfl)
  | BillingInfo => exact .inl (plain rfl)
  | CustomerOrder => exact .inl (plain rfl)

/-! ### Distinct ids -/

/-- In every file that loads and whose ids are keys, the ids are distinct and positive. -/
def Identified (files : Files) : Prop :=
  ∀ file : DbFile, file ≠ .CustomerOrder → ∀ table, file.load (files file) = some table →
    (file.ids table).Nodup ∧ ∀ row ∈ table, 0 < file.key row

/-- No two rows of a table that was handed over have the same id. -/
def DistinctHanded (handed : List (Σ file : DbFile, List file.Row)) : Prop :=
  ∀ entry ∈ handed, entry.1 ≠ .CustomerOrder → (entry.1.ids entry.2).Nodup

/-- The id is not in the table that the text of the file loads as. -/
def DbFile.Unused (file : DbFile) (text : Text) (id : Int32) : Prop :=
  ∀ table, file.load text = some table → id ∉ file.ids table

theorem distinctHanded_append (first second : List (Σ file : DbFile, List file.Row)) :
    DistinctHanded (first ++ second) ↔ DistinctHanded first ∧ DistinctHanded second :=
  List.forall_mem_append

/-- What a request that adds rows for an id leaves. A seller's row has a zeroed one before it. -/
theorem distinct_append_iff {file : DbFile} {table new : List file.Row} {id : Int32}
    (distinct : (file.ids table).Nodup) (positive : ∀ row ∈ table, 0 < file.key row)
    (drawn : 0 < id) (shape : file.ids new = [id] ∨ file.ids new = [0, id]) :
    (file.ids (table ++ new)).Nodup ↔ id ∉ file.ids table := by
  have zero : (0 : Int32) ∉ file.ids table := by
    intro member
    obtain ⟨row, inTable, key⟩ := List.mem_map.mp member
    exact absurd (key ▸ positive row inTable) (by decide)
  have nonzero : (0 : Int32) ≠ id := fun same => by
    rw [← same] at drawn
    exact absurd drawn (by decide)
  rw [DbFile.ids, List.map_append]
  change (file.ids table ++ file.ids new).Nodup ↔ _
  rcases shape with shape | shape <;> rw [shape, List.nodup_append']
  · simp [distinct]
  · simp [distinct, nonzero, zero]

section Handing

variable {world : World Files}

/-- Handing over distinct ids leaves distinct ids in the files. -/
theorem Identified.hand (identified : Identified world.store) (file : DbFile)
    {table : List file.Row} (each : file ≠ .CustomerOrder →
      (∀ row ∈ table, file.Keyed row ∨ row = default) ∧ (file.ids table).Nodup) :
    Identified (world.hand diskBacking file table).store := by
  intro other keyed read loaded
  by_cases same : other = file
  · subst same
    obtain ⟨rows, distinct⟩ := each keyed
    rw [World.hand_store, diskBacking_store_self] at loaded
    obtain ⟨sublist, positive⟩ := ids_of_load_putBack rows loaded
    exact ⟨distinct.sublist sublist, positive⟩
  · rw [hand_store_of_ne world table same] at loaded
    exact identified other keyed read loaded

/-- Adding rows for an id keeps the ids distinct if and only if the id is unused. -/
theorem Identified.add (identified : Identified world.store) {file : DbFile}
    (keyed : file ≠ .CustomerOrder) {table new : List file.Row} {id : Int32}
    (loaded : file.load (world.store file) = some table) (drawn : 0 < id)
    (shape : file.ids new = [id] ∨ file.ids new = [0, id])
    (rows : ∀ row ∈ new, file.Keyed row ∨ row = default) :
    ((file.ids (table ++ new)).Nodup ↔ file.Unused (world.store file) id) ∧
      ((file.ids (table ++ new)).Nodup →
        Identified (world.hand diskBacking file (table ++ new)).store) := by
  obtain ⟨distinct, positive⟩ := identified file keyed table loaded
  constructor
  · rw [distinct_append_iff distinct positive drawn shape]
    constructor
    · intro unused other same
      obtain rfl := Option.some.inj (loaded.symm.trans same)
      exact unused
    · exact fun unused => unused table loaded
  · refine fun still => identified.hand file fun _ => ⟨fun row member => ?_, still⟩
    rcases List.mem_append.mp member with old | added
    · exact .inl (keyed_of_mem_load loaded old (positive row old))
    · exact rows row added

end Handing

/-! ### Requests that add rows -/

/-- The requests that add rows. -/
def Request.Adds : Request → Prop
  | .newClient .. | .newProduct .. | .completeOrder .. => True
  | _ => False

/-- The id that the request draws is unused in the table that the row for it is added to. A
rejected order draws none. -/
def Request.DrawsUnused (files : Files) (id : Int32) : Request → Prop
  | .newClient clientType .. => clientType.file.Unused (files clientType.file) id
  | .newProduct .. => DbFile.Unused .ProductInfo (files .ProductInfo) id
  | .completeOrder _ lines =>
    (∃ products, DbFile.load .ProductInfo (files .ProductInfo) = some products ∧
      validateBuyerOrder (orderItems lines) products = true) →
    DbFile.Unused .BillingInfo (files .BillingInfo) id
  | _ => True

/-- The tables that a world loads; empty for a file that does not load. -/
def loadedTables {Store : Type} (backing : Backing Store) (world : World Store) : Tables :=
  fun file => (backing.load world.store file).getD []

theorem load_eq_loadedTables {Store : Type} {backing : Backing Store} {world : World Store}
    {file : DbFile} {table : List file.Row} (loaded : backing.load world.store file = some table) :
    backing.load world.store file = some (loadedTables backing world file) := by
  rw [loadedTables, loaded]
  rfl

section Steps

variable {rand : Rand} {now : Nat} {world next : World Files}

theorem keyed_product {row : CsvProductInfo} (positive : 0 < row.productId)
    (name : ',' ∉ row.productName.val ∧ '\n' ∉ row.productName.val) :
    DbFile.Keyed .ProductInfo row :=
  ⟨positive, .inl (plain_of_unseparated (List.forall_mem_singleton.mpr name))⟩

theorem Token.unseparated {size : Nat} (token : Token size) :
    ',' ∉ token.val ∧ '\n' ∉ token.val :=
  ⟨token.isField.commaFree, token.unbroken⟩

/-- Rows with positive ids are all seen. -/
theorem key_ne_zero_of_positive {file : DbFile} {table : List file.Row}
    (positive : ∀ row ∈ table, 0 < file.key row) : ∀ row ∈ table, file.key row ≠ 0 := by
  intro row member zero
  have own := positive row member
  rw [zero] at own
  exact absurd own (by decide)

theorem rows_eq_of_positive {file : DbFile} {table : List file.Row}
    (positive : ∀ row ∈ table, 0 < file.key row) : file.rows table = table :=
  rows_eq_self (key_ne_zero_of_positive positive)

/-- What a request hands over and leaves, if it hands over one table. -/
theorem handed_one {file : DbFile} (keyed : file ≠ .CustomerOrder) {table : List file.Row}
    {text : Text} {id : Int32} (added : ((file.ids table).Nodup ↔ file.Unused text id) ∧
      ((file.ids table).Nodup → Identified next.store)) :
    (DistinctHanded [⟨file, table⟩] ↔ file.Unused text id) ∧
      (DistinctHanded [⟨file, table⟩] → Identified next.store) := by
  have single : DistinctHanded [⟨file, table⟩] ↔ (file.ids table).Nodup :=
    List.forall_mem_singleton.trans (forall_prop_of_true keyed)
  rw [single]
  exact added

/-- A new product keeps the product ids distinct if and only if its id is unused. -/
theorem distinct_newProduct (identified : Identified world.store)
    {sellerID productName quantity price : Token 20}
    (served : serve diskBacking rand now
      (Request.newProduct sellerID productName quantity price).message world = some next) :
    ∃ handed, next.handed = world.handed ++ handed ∧
      (DistinctHanded handed ↔ DbFile.Unused .ProductInfo (world.store .ProductInfo)
        (uidAt rand now)) ∧
      (DistinctHanded handed → Identified next.store) := by
  obtain ⟨outcome, ran, -⟩ := Option.map_eq_some_iff.mp served
  rw [Request.executeTaskOnServer_message, Request.command, Command.execute] at ran
  obtain ⟨products, loaded⟩ := loaded_of_run_addNewProduct _ _ _ _ ran
  have same : loadedTables diskBacking world .ProductInfo = products :=
    Option.some.inj ((load_eq_loadedTables loaded).symm.trans loaded)
  have effect := (serve_of_run rand now (run_newProduct rand now (loadedTables diskBacking world)
    (load_eq_loadedTables loaded) sellerID productName quantity price)).symm.trans served
  have positive := (identified .ProductInfo (by decide) products loaded).2
  rw [Request.effect, same, stockedTable, rows_eq_of_positive positive, put_length] at effect
  obtain rfl := Option.some.inj effect
  refine ⟨[⟨.ProductInfo, _⟩], World.hand_handed diskBacking .., handed_one (by decide) ?_⟩
  refine identified.add (by decide) loaded (uidAt_pos rand now) (.inl rfl) fun row member => ?_
  obtain rfl := List.mem_singleton.mp member
  exact .inl (keyed_product (uidAt_pos rand now) productName.unseparated)

theorem keyed_registeredRow {uuid : Int32} (positive : 0 < uuid)
    (firstName lastName streetAddress city state zipCode : Token 20) :
    DbFile.Keyed .CustomerInfo (registeredRow uuid firstName.chars lastName.chars
      streetAddress.chars city.chars state.chars zipCode.chars) := by
  refine ⟨positive, .inl (plain_of_unseparated ?_)⟩
  simp only [DbFile.Unseparated, DbFile.columns, DbFile.texts, List.cons_append,
    List.nil_append, List.forall_mem_cons, registeredRow]
  exact ⟨firstName.unseparated, lastName.unseparated, ⟨List.not_mem_nil, List.not_mem_nil⟩,
    streetAddress.unseparated, city.unseparated, state.unseparated, zipCode.unseparated,
    fun other member => absurd member List.not_mem_nil⟩

/-- A new client keeps the ids of the clients of its type distinct if and only if its id is
unused. -/
theorem distinct_newClient (identified : Identified world.store) {clientType : ClientType}
    {firstName lastName phoneNumber streetAddress city state zipCode : Token 20}
    (served : serve diskBacking rand now (Request.newClient clientType firstName lastName
      phoneNumber streetAddress city state zipCode).message world = some next) :
    ∃ handed, next.handed = world.handed ++ handed ∧
      (DistinctHanded handed ↔ clientType.file.Unused (world.store clientType.file)
        (uidAt rand now)) ∧
      (DistinctHanded handed → Identified next.store) := by
  obtain ⟨outcome, ran, -⟩ := Option.map_eq_some_iff.mp served
  rw [Request.executeTaskOnServer_message, Request.command, Command.execute] at ran
  obtain ⟨clients, loaded⟩ :=
    loaded_of_run_writeNewClientData _ _ _ _ (extractRegistration_newClient ..) ran
  have drawn := uidAt_pos rand now
  have replied : Identified (world.reply (decimal (uidAt rand now))).store := identified
  cases clientType with
  | buyer =>
    have same : loadedTables diskBacking world .CustomerInfo = clients :=
      Option.some.inj ((load_eq_loadedTables loaded).symm.trans loaded)
    have effect := (serve_of_run rand now (run_newClient rand now (loadedTables diskBacking world)
      .buyer (load_eq_loadedTables loaded) firstName lastName phoneNumber streetAddress city state
        zipCode)).symm.trans served
    have named : ∀ row ∈ clients, row.uuid ≠ 0 :=
      key_ne_zero_of_positive (identified .CustomerInfo (by decide) clients loaded).2
    rw [Request.effect, Tables.clients, same, registeredTable_eq _ _ _ _ _ _ _ _ named] at effect
    obtain rfl := Option.some.inj effect
    refine ⟨[⟨.CustomerInfo, _⟩], World.hand_handed diskBacking .., handed_one (by decide) ?_⟩
    refine replied.add (by decide) loaded drawn (.inl rfl) fun row member => ?_
    obtain rfl := List.mem_singleton.mp member
    exact .inl (keyed_registeredRow drawn ..)
  | seller =>
    have same : loadedTables diskBacking world .SellerInfo = clients :=
      Option.some.inj ((load_eq_loadedTables loaded).symm.trans loaded)
    have effect := (serve_of_run rand now (run_newClient rand now (loadedTables diskBacking world)
      .seller (load_eq_loadedTables loaded) firstName lastName phoneNumber streetAddress city state
        zipCode)).symm.trans served
    have named : ∀ row ∈ clients, row.uuid ≠ 0 :=
      key_ne_zero_of_positive (identified .SellerInfo (by decide) clients loaded).2
    rw [Request.effect, Tables.clients, same, registeredTable_eq _ _ _ _ _ _ _ _ named] at effect
    obtain rfl := Option.some.inj effect
    refine ⟨[⟨.SellerInfo, _⟩], World.hand_handed diskBacking .., handed_one (by decide) ?_⟩
    refine replied.add (by decide) loaded drawn (.inr rfl) fun row member => ?_
    rcases List.mem_cons.mp member with rfl | last
    · exact .inr rfl
    · obtain rfl := List.mem_singleton.mp last
      have keyed := keyed_registeredRow drawn firstName lastName streetAddress city state zipCode
      exact .inl ⟨keyed.positive, keyed.lines⟩

/-- The bill of a client whose texts were loaded is read back or breaks its file. -/
theorem keyed_billingRow {uuid : Int32} (positive : 0 < uuid) {clients : List CsvClientInfo}
    {text : Text} (loaded : DbFile.load .CustomerInfo text = some clients) (row : Nat)
    (total : Int32) : DbFile.Keyed .BillingInfo (billingRow uuid (cell clients row) total) := by
  refine ⟨positive, ?_⟩
  rcases cell_mem_or_default clients row with member | blank
  · obtain ⟨texts, zip⟩ := texts_of_mem_load_clients loaded member
    simp only [DbFile.texts, List.forall_mem_cons] at texts
    refine lines_of_bill ?_ zip
    simp only [billingRow, List.forall_mem_cons]
    exact ⟨texts.1, texts.2.1, texts.2.2.2.1, texts.2.2.2.2.1, texts.2.2.2.2.2.1,
      fun other member => absurd member List.not_mem_nil⟩
  · rw [blank]
    refine .inl (plain_of_unseparated ?_)
    simp [DbFile.Unseparated, DbFile.columns, DbFile.texts, billingRow, default]

/-- The products that are left keep their ids. -/
theorem keyed_sellAll {text : Text} {products : List CsvProductInfo}
    (loaded : DbFile.load .ProductInfo text = some products)
    (positive : ∀ row ∈ products, 0 < row.productId) (items : List ItemOrder) :
    ∀ row ∈ sellAll items products, DbFile.Keyed .ProductInfo row := by
  intro row member
  obtain ⟨before, inTable, same⟩ := mem_sellAll member
  have name := (inline_of_mem_load loaded inTable) before.productName (List.mem_singleton.mpr rfl)
  rw [same]
  exact keyed_product (positive before inTable) ⟨name.1.commaFree, name.2⟩

/-- An order keeps the order ids distinct if and only if it is rejected or its id is unused. -/
theorem distinct_completeOrder (identified : Identified world.store) {buyerID : Token 20}
    {lines : List OrderLine}
    (served : serve diskBacking rand now (Request.completeOrder buyerID lines).message world =
      some next) :
    ∃ handed, next.handed = world.handed ++ handed ∧
      (DistinctHanded handed ↔
        (Request.completeOrder buyerID lines).DrawsUnused world.store (uidAt rand now)) ∧
      (DistinctHanded handed → Identified next.store) := by
  obtain ⟨outcome, ran, rfl⟩ := Option.map_eq_some_iff.mp served
  rw [Request.executeTaskOnServer_message, Request.command, Command.execute,
    completeAnOrder_buffer] at ran
  obtain ⟨products, loadedProducts, others⟩ := loaded_of_run_completeOrder _ _ _ _ ran
  cases verdict : validateBuyerOrder (orderItems lines) products with
  | false =>
    rw [run_completeOrder_rejected _ _ _ _ _ loadedProducts verdict] at ran
    obtain rfl := Option.some.inj ran
    refine ⟨[], (List.append_nil _).symm,
      iff_of_true (fun _ member => absurd member List.not_mem_nil) ?_, fun _ => identified⟩
    rintro ⟨other, loaded, accepted⟩
    obtain rfl := Option.some.inj (loadedProducts.symm.trans loaded)
    rw [verdict] at accepted
    cases accepted
  | true =>
    obtain ⟨clients, billing, orders, loadedClients, loadedBilling, loadedOrders⟩ := others verdict
    rw [run_completeOrder_accepted _ _ _ _ _ loadedProducts verdict loadedClients loadedBilling
      loadedOrders, deductOrder_of_allListed (allListed_orderRows verdict)] at ran
    obtain ⟨buyerRecordRow, -, finished⟩ := Option.bind_eq_some_iff.mp ran
    obtain rfl := Option.some.inj finished
    obtain ⟨distinctProducts, positiveProducts⟩ :=
      identified .ProductInfo (by decide) products loadedProducts
    have positiveBilling := (identified .BillingInfo (by decide) billing loadedBilling).2
    have drawn := uidAt_pos rand now
    have bills : billedTable (uidAt rand now) (cell clients buyerRecordRow) (orderItems lines)
        billing = billing ++ [billingRow (uidAt rand now) (cell clients buyerRecordRow)
          (orderCost (orderItems lines))] := by
      have all : DbFile.rows .BillingInfo billing = billing := rows_eq_of_positive positiveBilling
      rw [billedTable, all, put_length]
    have soldIds : (DbFile.ids .ProductInfo
        (sellAll (orderRows (orderItems lines)) products)).Nodup := by
      have same : DbFile.ids .ProductInfo (sellAll (orderRows (orderItems lines)) products) =
          DbFile.ids .ProductInfo products := map_productId_sellAll ..
      exact same ▸ distinctProducts
    have sold : Identified (world.hand diskBacking .ProductInfo
        (sellAll (orderRows (orderItems lines)) products)).store :=
      identified.hand .ProductInfo fun _ => ⟨fun row member =>
        .inl (keyed_sellAll loadedProducts positiveProducts _ row member), soldIds⟩
    have untouched : (world.hand diskBacking .ProductInfo
        (sellAll (orderRows (orderItems lines)) products)).store .BillingInfo =
          world.store .BillingInfo := hand_store_of_ne _ _ (by decide)
    have loadedStill : DbFile.load .BillingInfo ((world.hand diskBacking .ProductInfo
        (sellAll (orderRows (orderItems lines)) products)).store .BillingInfo) = some billing := by
      rw [untouched]
      exact loadedBilling
    have bill : ∀ row ∈ [billingRow (uidAt rand now) (cell clients buyerRecordRow)
        (orderCost (orderItems lines))], DbFile.Keyed .BillingInfo row ∨ row = default :=
      List.forall_mem_singleton.mpr (.inl (keyed_billingRow drawn loadedClients ..))
    have billId : DbFile.ids .BillingInfo [billingRow (uidAt rand now)
        (cell clients buyerRecordRow) (orderCost (orderItems lines))] = [uidAt rand now] := rfl
    have added := sold.add (by decide) loadedStill drawn (.inl billId) bill
    rw [untouched, ← bills] at added
    have unused : (Request.completeOrder buyerID lines).DrawsUnused world.store (uidAt rand now) ↔
        DbFile.Unused .BillingInfo (world.store .BillingInfo) (uidAt rand now) :=
      forall_prop_of_true ⟨products, loadedProducts, verdict⟩
    have keyed : DbFile.BillingInfo ≠ .CustomerOrder := by decide
    refine ⟨_, World.handOrder_handed .., ?_, fun all => ?_⟩
    · rw [unused, ← added.1]
      constructor
      · exact fun all => all _ (List.mem_cons_of_mem _ List.mem_cons_self) keyed
      · intro still
        refine List.forall_mem_cons.mpr ⟨fun _ => soldIds, List.forall_mem_cons.mpr
          ⟨fun _ => still, List.forall_mem_singleton.mpr fun other => absurd rfl other⟩⟩
    · have still := all _ (List.mem_cons_of_mem _ List.mem_cons_self) keyed
      exact (added.2 still).hand .CustomerOrder fun keyed => absurd rfl keyed

/-- One request keeps the ids distinct if and only if the id that it draws is unused. -/
theorem distinct_step (identified : Identified world.store) {request : Request}
    (adds : request.Adds)
    (served : serve diskBacking rand now request.message world = some next) :
    ∃ handed, next.handed = world.handed ++ handed ∧
      (DistinctHanded handed ↔ request.DrawsUnused world.store (uidAt rand now)) ∧
      (DistinctHanded handed → Identified next.store) := by
  cases request with
  | newClient clientType firstName lastName phoneNumber streetAddress city state zipCode =>
    exact distinct_newClient identified served
  | newProduct sellerID productName quantity price => exact distinct_newProduct identified served
  | completeOrder buyerID lines => exact distinct_completeOrder identified served
  | _ => cases adds

end Steps

/-! ### Runs -/

/-- In every state of a run the id that the next request draws is unused. -/
def AllUnused (rand : Rand) : List (Nat × Request) → World Files → Prop
  | [], _ => True
  | (now, request) :: requests, world =>
    request.DrawsUnused world.store (uidAt rand now) ∧
      ∀ next, serve diskBacking rand now request.message world = some next →
        AllUnused rand requests next

/-- What was handed over stays on record. -/
theorem handed_of_run {Store Result : Type} {backing : Backing Store} {now : Nat}
    (handler : Handler Result) {world final : World Store} {result : Result}
    (ran : handler.run (exec backing now) world = some (result, final)) :
    ∃ handed, final.handed = world.handed ++ handed := by
  induction handler generalizing world with
  | pure value =>
    obtain ⟨-, rfl⟩ := Prod.mk.inj (Option.some.inj ran)
    exact ⟨[], (List.append_nil _).symm⟩
  | call op continuation inductionHypothesis =>
    rw [run_call] at ran
    obtain ⟨⟨answer, next⟩, called, rest⟩ := Option.bind_eq_some_iff.mp ran
    obtain ⟨later, more⟩ := inductionHypothesis answer rest
    have first : ∃ handed, next.handed = world.handed ++ handed := by
      cases op with
      | sys op =>
        have kept : next.handed = world.handed := by
          cases op <;> simp only [exec, sysExec, Option.some.injEq, Prod.mk.injEq,
            reduceCtorEq] at called <;> obtain ⟨-, rfl⟩ := called <;> rfl
        exact ⟨[], by rw [kept, List.append_nil]⟩
      | load file =>
        obtain ⟨table, -, same⟩ := Option.map_eq_some_iff.mp called
        obtain ⟨-, rfl⟩ := Prod.mk.inj same
        exact ⟨[], (List.append_nil _).symm⟩
      | writeBack file table =>
        obtain ⟨-, rfl⟩ := Prod.mk.inj (Option.some.inj called)
        exact ⟨_, World.hand_handed ..⟩
    obtain ⟨handed, own⟩ := first
    exact ⟨handed ++ later, by rw [more, own, List.append_assoc]⟩

theorem handed_of_serveAll {Store : Type} {backing : Backing Store} (rand : Rand)
    {requests : List (Nat × Request)} {world reached : World Store}
    (ran : serveAll backing rand requests world = some reached) :
    ∃ handed, reached.handed = world.handed ++ handed := by
  induction requests generalizing world with
  | nil => exact ⟨[], by rw [Option.some.inj ran, List.append_nil]⟩
  | cons step requests inductionHypothesis =>
    obtain ⟨next, served, rest⟩ := Option.bind_eq_some_iff.mp ran
    obtain ⟨⟨_, final⟩, finished, rfl⟩ := Option.map_eq_some_iff.mp served
    obtain ⟨first, own⟩ := handed_of_run _ finished
    obtain ⟨later, more⟩ := inductionHypothesis rest
    exact ⟨first ++ later, by rw [more, own, List.append_assoc]⟩

theorem distinct_serveAll_iff (rand : Rand) {requests : List (Nat × Request)}
    (adds : ∀ step ∈ requests, step.2.Adds) {world reached : World Files}
    (identified : Identified world.store)
    (ran : serveAll diskBacking rand requests world = some reached) :
    ∃ handed, reached.handed = world.handed ++ handed ∧
      (DistinctHanded handed ↔ AllUnused rand requests world) := by
  induction requests generalizing world with
  | nil =>
    obtain rfl := Option.some.inj ran
    exact ⟨[], (List.append_nil _).symm,
      iff_of_true (fun _ member => absurd member List.not_mem_nil) trivial⟩
  | cons step requests inductionHypothesis =>
    obtain ⟨now, request⟩ := step
    obtain ⟨own, others⟩ := List.forall_mem_cons.mp adds
    obtain ⟨next, served, rest⟩ := Option.bind_eq_some_iff.mp ran
    obtain ⟨first, handed, distinct, kept⟩ := distinct_step identified own served
    by_cases still : DistinctHanded first
    · obtain ⟨later, more, every⟩ := inductionHypothesis others (kept still) rest
      refine ⟨first ++ later, by rw [more, handed, List.append_assoc], ?_⟩
      rw [distinctHanded_append, distinct, every, AllUnused]
      refine and_congr_right fun _ => ⟨fun all other same => ?_, fun all => all next served⟩
      obtain rfl := Option.some.inj (served.symm.trans same)
      exact all
    · obtain ⟨later, more⟩ := handed_of_serveAll rand rest
      refine ⟨first ++ later, by rw [more, handed, List.append_assoc], iff_of_false ?_ ?_⟩
      · exact fun all => still ((distinctHanded_append first later).mp all).1
      · exact fun all => still (distinct.mpr all.1)

/-- Started on files whose ids are distinct, a run of registrations, new products and orders hands
over tables with distinct ids if and only if it draws unused ids only. -/
theorem distinct_handed_iff (rand : Rand) {requests : List (Nat × Request)}
    (adds : ∀ step ∈ requests, step.2.Adds) {files : Files} (identified : Identified files)
    {reached : World Files}
    (ran : serveAll diskBacking rand requests ⟨files, [], [], []⟩ = some reached) :
    DistinctHanded reached.handed ↔ AllUnused rand requests ⟨files, [], [], []⟩ := by
  obtain ⟨handed, same, distinct⟩ := distinct_serveAll_iff rand adds identified ran
  rw [same]
  exact distinct

theorem identified_shippedFile : Identified shippedFile := by
  intro file keyed table loaded
  obtain rfl := Option.some.inj ((load_shippedFile file).symm.trans loaded)
  have distinct : file ≠ .CustomerOrder → (file.ids (shippedTables file)).Nodup := by
    cases file <;> decide
  have positive : ∀ row ∈ shippedTables file, 0 < file.key row := by
    cases file <;> decide
  exact ⟨distinct keyed, positive⟩

/-- The pens of the seller 1000 are handed over behind the shipped products. -/
theorem serveAll_offeredPens (rand : Rand) :
    ∃ reached row, serveAll diskBacking rand [(0, offeredPens)] shippedWorld = some reached ∧
      reached.handed = [⟨.ProductInfo, shippedTables .ProductInfo ++ [row]⟩] ∧
        DbFile.key .ProductInfo row = uidAt rand 0 := by
  rw [serveAll, serve_message rand 0 loads_shippedWorld]
  have all : DbFile.rows .ProductInfo (shippedTables .ProductInfo) = shippedTables .ProductInfo :=
    rows_eq_of_positive (identified_shippedFile .ProductInfo (by decide) _
      (load_shippedFile .ProductInfo)).2
  simp only [offeredPens, Request.effect, stockedTable, all, put_length]
  exact ⟨_, _, rfl, rfl, rfl⟩

/-- A draw of 9000 is unused. -/
theorem distinct_handed_iff_offeredPens :
    ∃ reached, serveAll diskBacking (fun _ => 8000) [(0, offeredPens)] shippedWorld =
      some reached ∧ DistinctHanded reached.handed := by
  obtain ⟨reached, -, served, -⟩ := serveAll_offeredPens fun _ => 8000
  have adds : ∀ step ∈ [((0 : Nat), offeredPens)], step.2.Adds :=
    List.forall_mem_singleton.mpr trivial
  refine ⟨reached, served, (distinct_handed_iff _ adds identified_shippedFile served).mpr
    ⟨fun table loaded => ?_, fun _ _ => trivial⟩⟩
  obtain rfl := Option.some.inj ((load_shippedFile .ProductInfo).symm.trans loaded)
  decide

/-- A draw of 2000 is the id of the first product. -/
theorem offeredPens_not_distinct :
    Identified shippedFile ∧
      ∃ reached, serveAll diskBacking (fun _ => 1000) [(0, offeredPens)] shippedWorld =
        some reached ∧ ¬DistinctHanded reached.handed := by
  obtain ⟨reached, row, served, handed, id⟩ := serveAll_offeredPens fun _ => 1000
  refine ⟨identified_shippedFile, reached, served, fun distinct => ?_⟩
  rw [handed] at distinct
  have keyed : DbFile.ProductInfo ≠ .CustomerOrder := by decide
  have products : (DbFile.ids .ProductInfo (shippedTables .ProductInfo ++ [row])).Nodup :=
    distinct _ List.mem_cons_self keyed
  rw [DbFile.ids, List.map_append, List.map_singleton, id] at products
  revert products
  decide

end OnlineStore
