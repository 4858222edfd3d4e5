/-
This file runs requests one at a time. Nothing else runs meanwhile, so the semaphores never
block, and they and the reader counters are left out of the state.

What a handler loads and hands over is kept by a `Backing`. The disk backing keeps the texts of
the files: it loads by parsing and stores by printing as many rows as the old text has newlines,
plus one. The table backing stores what it is handed, and is what the handlers are written for.
`run_onDisk` says that a handler over the disk backing is the handler compiled to the calls of
the disk level. A request's effect is computed once for both, over any backing.
-/

import OnlineStore.Handlers
import Mathlib.Logic.Function.Basic

namespace OnlineStore

open CString Cells Prog

/-! ### What holds the tables -/

structure Backing (Store : Type) where
  load : Store → (file : DbFile) → Option (List file.Row)
  store : Store → (file : DbFile) → List file.Row → Store
  load_store_of_ne : ∀ state (file other : DbFile) table, other ≠ file →
    load (store state file table) other = load state other

/-- Tables that are stored as they are handed over. -/
abbrev Tables := (file : DbFile) → List file.Row

/-- The texts of the files. -/
abbrev Files := DbFile → Text

def tableBacking : Backing Tables where
  load tables file := some (tables file)
  store tables file table := Function.update tables file table
  load_store_of_ne tables file other table different := by
    rw [Function.update_of_ne different]

def diskBacking : Backing Files where
  load files file := file.load (files file)
  store files file table := Function.update files file (file.putBack (files file) table)
  load_store_of_ne files file other table different := by
    rw [Function.update_of_ne different]

@[simp] theorem diskBacking_store_self (files : Files) (file : DbFile) (table : List file.Row) :
    diskBacking.store files file table file = file.putBack (files file) table :=
  Function.update_self ..

theorem diskBacking_store_of_ne (files : Files) {file other : DbFile} (table : List file.Row)
    (different : other ≠ file) : diskBacking.store files file table other = files other :=
  Function.update_of_ne different ..

/-! ### Worlds -/

/-- The state that the requests of one connection see: what holds the tables, the list of
deleted products, the replies sent and the tables handed to the write-backs, in order. -/
structure World (Store : Type) where
  store : Store
  deleted : List Int32
  replies : List Text
  handed : List (Σ file : DbFile, List file.Row)

namespace World

variable {Store : Type}

def reply (world : World Store) (text : Text) : World Store :=
  { world with replies := world.replies ++ [text] }

def delete (world : World Store) (productID : Int32) : World Store :=
  { world with deleted := world.deleted ++ [productID] }

def hand (backing : Backing Store) (world : World Store) (file : DbFile)
    (table : List file.Row) : World Store :=
  { world with
    store := backing.store world.store file table
    handed := world.handed ++ [⟨file, table⟩] }

@[simp] theorem reply_store (world : World Store) (text : Text) :
    (world.reply text).store = world.store := rfl

@[simp] theorem reply_handed (world : World Store) (text : Text) :
    (world.reply text).handed = world.handed := rfl

@[simp] theorem reply_replies (world : World Store) (text : Text) :
    (world.reply text).replies = world.replies ++ [text] := rfl

theorem reply_inj {world : World Store} {text text' : Text} :
    world.reply text = world.reply text' ↔ text = text' := by
  simp only [reply, mk.injEq, List.append_cancel_left_eq, List.cons.injEq, and_true, true_and]

@[simp] theorem reply_deleted (world : World Store) (text : Text) :
    (world.reply text).deleted = world.deleted := rfl

@[simp] theorem delete_store (world : World Store) (productID : Int32) :
    (world.delete productID).store = world.store := rfl

@[simp] theorem delete_handed (world : World Store) (productID : Int32) :
    (world.delete productID).handed = world.handed := rfl

@[simp] theorem delete_replies (world : World Store) (productID : Int32) :
    (world.delete productID).replies = world.replies := rfl

@[simp] theorem hand_store (backing : Backing Store) (world : World Store) (file : DbFile)
    (table : List file.Row) :
    (world.hand backing file table).store = backing.store world.store file table := rfl

@[simp] theorem hand_handed (backing : Backing Store) (world : World Store) (file : DbFile)
    (table : List file.Row) :
    (world.hand backing file table).handed = world.handed ++ [⟨file, table⟩] := rfl

@[simp] theorem hand_replies (backing : Backing Store) (world : World Store) (file : DbFile)
    (table : List file.Row) :
    (world.hand backing file table).replies = world.replies := rfl

@[simp] theorem hand_deleted (backing : Backing Store) (world : World Store) (file : DbFile)
    (table : List file.Row) :
    (world.hand backing file table).deleted = world.deleted := rfl

end World

/-- What an order reads: the tables a world loads, with zeroed cells after their last rows. -/
structure Loaded {Store : Type} (backing : Backing Store) (world : World Store)
    (clients : List CsvClientInfo) (products : List CsvProductInfo)
    (billing : List CsvBillingInfo) (orders : List CsvCustomerOrderInfo) : Prop where
  loadsClients : backing.load world.store .CustomerInfo = some clients
  loadsProducts : backing.load world.store .ProductInfo = some products
  loadsBilling : backing.load world.store .BillingInfo = some billing
  loadsOrders : backing.load world.store .CustomerOrder = some orders
  productsEnd : ∀ row ∈ products, row.productId ≠ 0
  billingEnds : ∀ row ∈ billing, row.orderId ≠ 0
  ordersEnd : ∀ row ∈ orders, row.orderId ≠ 0

/-! ### Executing the calls -/

section Exec

variable {Store : Type}

/-- The calls that touch no file. `now` is what the clock shows during the request. -/
def sysExec (now : Nat) (world : World Store) : (op : SysOp) → Option (op.Ret × World Store)
  | .semWait _ => some ((), world)
  | .semPost _ => some ((), world)
  | .count _ _ => some ((), world)
  | .counter _ => some ((0 : Int), world)
  | .writeSocket text => some ((), world.reply text)
  | .time => some (now, world)
  | .delete productID => some ((), world.delete productID)
  | .crash => none
  | .spin => none

def exec (backing : Backing Store) (now : Nat) (world : World Store) :
    (op : TableOp) → Option (op.Ret × World Store)
  | .sys op => sysExec now world op
  | .load file => (backing.load world.store file).map fun table => (some table, world)
  | .writeBack file table => some ((), world.hand backing file table)

/-- The calls of the disk level. The tables handed over are not seen here. -/
def diskExec (now : Nat) (world : World Files) : (op : DiskOp) → Option (op.Ret × World Files)
  | .sys op => sysExec now world op
  | .read file => some (some (world.store file), world)
  | .truncate file => some ((), { world with store := Function.update world.store file [] })
  | .write file text => some ((), { world with store := Function.update world.store file text })

end Exec

/-- The effect of a request on a disk: the compiled handler, run alone. -/
def serveOnDisk (rand : Rand) (now : Nat) (message : Text) (world : World Files) :
    Option (World Files) :=
  ((onDisk (executeTaskOnServer rand message)).run (diskExec now) world).map Prod.snd

/-- The effect of a request over a backing. -/
def serve {Store : Type} (backing : Backing Store) (rand : Rand) (now : Nat) (message : Text)
    (world : World Store) : Option (World Store) :=
  ((executeTaskOnServer rand message).run (exec backing now) world).map Prod.snd

/-! ### Compilation -/

/-- A world without the record of the tables handed over. -/
def World.unlogged (world : World Files) : World Files :=
  { world with handed := [] }

theorem sysExec_unlogged (now : Nat) (world : World Files) (op : SysOp) :
    sysExec now world.unlogged op =
      (sysExec now world op).map fun outcome => (outcome.1, outcome.2.unlogged) := by
  cases op <;> rfl

/-- The calls of one loader or write-back function have the effect of the call they implement. -/
theorem run_compile (now : Nat) (world : World Files) (op : TableOp) :
    (compile op).run (diskExec now) world.unlogged =
      (exec diskBacking now world op).map fun outcome => (outcome.1, outcome.2.unlogged) := by
  cases op with
  | sys op =>
    rw [compile, run_call, diskExec, sysExec_unlogged, exec]
    cases sysExec now world op <;> rfl
  | load file =>
    simp only [compile, run_call, diskExec, Option.bind_some, World.unlogged, exec, diskBacking]
    cases file.load (world.store file) <;> rfl
  | writeBack file table =>
    simp only [compile, run_call, diskExec, Option.bind_some, World.unlogged, exec, diskBacking,
      World.hand, Function.update_idem, run_pure, Option.map_some]

/-- A handler over the disk backing is its compiled program. -/
theorem run_onDisk {Result : Type} (handler : Handler Result) (now : Nat)
    (world : World Files) :
    (onDisk handler).run (diskExec now) world.unlogged =
      (handler.run (exec diskBacking now) world).map
        fun outcome => (outcome.1, outcome.2.unlogged) := by
  induction handler generalizing world with
  | pure result => rfl
  | call op continuation inductionHypothesis =>
    rw [onDisk, translate_call, run_bind, run_compile, run_call]
    cases exec diskBacking now world op with
    | none => rfl
    | some outcome => exact inductionHypothesis outcome.1 outcome.2

/-- What a request does to the files, and what it replies, can be read off the handler. -/
theorem serveOnDisk_unlogged (rand : Rand) (now : Nat) (message : Text) (world : World Files) :
    serveOnDisk rand now message world.unlogged =
      (serve diskBacking rand now message world).map World.unlogged := by
  rw [serveOnDisk, run_onDisk, serve, Option.map_map, Option.map_map]
  rfl

/-! ### Running the calls of a handler -/

section Calls

variable {Store : Type} (backing : Backing Store) (now : Nat) (world : World Store)

@[simp] theorem run_sys (op : SysOp) :
    (sys op).run (exec backing now) world = sysExec now world op := by
  rw [sys, perform, run_call]
  change (sysExec now world op).bind _ = _
  cases sysExec now world op <;> rfl

@[simp] theorem run_semWait (semaphore : Semaphore) :
    (semWait semaphore).run (exec backing now) world = some ((), world) := rfl

@[simp] theorem run_semPost (semaphore : Semaphore) :
    (semPost semaphore).run (exec backing now) world = some ((), world) := rfl

@[simp] theorem run_writeSocket (text : Text) :
    (writeSocket text).run (exec backing now) world = some ((), world.reply text) := rfl

@[simp] theorem run_crash {Result : Type} :
    (crash : Handler Result).run (exec backing now) world = none := rfl

@[simp] theorem run_spin {Result : Type} :
    (spin : Handler Result).run (exec backing now) world = none := rfl

@[simp] theorem run_orCrash {Result : Type} (value : Option Result) :
    (orCrash value).run (exec backing now) world = value.map fun value => (value, world) := by
  cases value <;> rfl

@[simp] theorem run_writeBack (file : DbFile) (table : List file.Row) :
    (writeBack file table).run (exec backing now) world =
      some ((), world.hand backing file table) := rfl

@[simp] theorem run_load (file : DbFile) :
    (load file).run (exec backing now) world =
      (backing.load world.store file).map fun table => (some table, world) := by
  rw [load, perform, run_call, exec]
  cases backing.load world.store file <;> rfl

@[simp] theorem run_loadTable (file : DbFile) :
    (loadTable file).run (exec backing now) world =
      (backing.load world.store file).map fun table => (table, world) := by
  rw [loadTable, run_bind, run_load]
  cases backing.load world.store file <;> rfl

@[simp] theorem run_readerEntry (file : DbFile) :
    (readerEntry file).run (exec backing now) world = some ((), world) := rfl

@[simp] theorem run_readerExit (file : DbFile) :
    (readerExit file).run (exec backing now) world = some ((), world) := rfl

/-- The id that `generateUID` draws at a time. -/
def uidAt (rand : Rand) (now : Nat) : Int32 := Int32.ofNat (rand now % 9000 + 1000)

theorem uidAt_ne_zero (rand : Rand) (now : Nat) : uidAt rand now ≠ 0 := by
  intro zero
  have value : (uidAt rand now).toInt = rand now % 9000 + 1000 := by
    rw [uidAt, Int32.toInt_ofNat_of_lt (by omega)]
    omega
  rw [zero] at value
  simp at value
  omega

@[simp] theorem run_generateUID (rand : Rand) :
    (generateUID rand).run (exec backing now) world = some (uidAt rand now, world) := rfl

end Calls

end OnlineStore
