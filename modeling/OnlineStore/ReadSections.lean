/-
This file says what the handlers that only read leave of the locks when a file does not open.

A handler is run alone, from any values of the semaphores and the reader counters. A read section
that can be entered is left with every value as it was, whatever the loader answers, provided that
its exit stands behind the loading. In `viewProducts` the exit stands inside the branch of a file
that opens: when the file does not open, the reader stays counted, and the first one keeps the
semaphore for writing for ever.
-/

import OnlineStore.Handlers
import OnlineStore.ReaderWriter

namespace ReaderWriter

/-! ### Read sections of one lock -/

/-- A reader that arrives is let in. -/
def Lock.Free (lock : Lock) : Prop :=
  lock.mutex ≠ 0 ∧ (lock.readers = 0 → lock.wrt ≠ 0)

instance (lock : Lock) : Decidable lock.Free :=
  inferInstanceAs (Decidable (_ ∧ _))

/-- The lock with one more reader. -/
def Lock.entered (lock : Lock) : Lock where
  mutex := lock.mutex
  wrt := if lock.readers = 0 then lock.wrt - 1 else lock.wrt
  readers := lock.readers + 1

/-- The lock with one reader less. -/
def Lock.exited (lock : Lock) : Lock where
  mutex := lock.mutex
  wrt := if lock.readers = 1 then lock.wrt + 1 else lock.wrt
  readers := lock.readers - 1

/-- A reader that was let in and leaves restores the lock. -/
theorem Lock.exited_entered {lock : Lock} (free : lock.Free) : lock.entered.exited = lock := by
  obtain ⟨mutex, wrt, readers⟩ := lock
  by_cases first : readers = 0
  · have positive : wrt ≠ 0 := free.2 first
    subst first
    simp [Lock.entered, Lock.exited, Nat.sub_add_cancel (Nat.pos_of_ne_zero positive)]
  · have later : readers + 1 ≠ 1 := by omega
    simp [Lock.entered, Lock.exited, first]

theorem Lock.entered_ne (lock : Lock) : lock.entered ≠ lock := by
  intro same
  have readers : lock.readers + 1 = lock.readers := congrArg Lock.readers same
  omega

end ReaderWriter

namespace OnlineStore

open CString Cells Prog ReaderWriter

/-! ### Handlers that run alone on the locks -/

/-- The locks of all files. -/
abbrev Locks := DbFile → Lock

/-- An operation on the lock of a file. -/
def Locks.exec (locks : Locks) (file : DbFile) (op : LockOp) : Option (op.Ret × Locks) :=
  ((locks file).exec op).map fun outcome => (outcome.1, Function.update locks file outcome.2)

/-- The calls of a handler on the locks, given what the loaders answer. -/
def lockExec (opened : (file : DbFile) → Option (List file.Row)) (now : Nat) (locks : Locks) :
    (op : TableOp) → Option (op.Ret × Locks)
  | .sys (.semWait (.mutex file)) => locks.exec file .waitMutex
  | .sys (.semWait (.wrt file)) => locks.exec file .waitWrt
  | .sys (.semPost (.mutex file)) => locks.exec file .postMutex
  | .sys (.semPost (.wrt file)) => locks.exec file .postWrt
  | .sys (.count file change) =>
    some ((), Function.update locks file
      { locks file with readers := (locks file).readers + change })
  | .sys (.counter file) => some ((locks file).readers, locks)
  | .sys (.writeSocket _) => some ((), locks)
  | .sys .time => some (now, locks)
  | .sys (.delete _) => some ((), locks)
  | .sys .crash => none
  | .sys .spin => none
  | .load file => some (opened file, locks)
  | .writeBack _ _ => some ((), locks)

section Sections

variable (opened : (file : DbFile) → Option (List file.Row)) (now : Nat) (locks : Locks)
variable (file : DbFile)

variable (lock : Lock)

theorem run_semWait_mutex : (semWait (.mutex file)).run (lockExec opened now)
    (Function.update locks file lock) = if lock.mutex = 0 then none else
      some ((), Function.update locks file { lock with mutex := lock.mutex - 1 }) := by
  rw [semWait, sys, perform, run_call, lockExec, Locks.exec, Function.update_self, Lock.exec]
  split
  · rfl
  · rw [Option.map_some, Function.update_idem]
    rfl

theorem run_semWait_wrt : (semWait (.wrt file)).run (lockExec opened now)
    (Function.update locks file lock) = if lock.wrt = 0 then none else
      some ((), Function.update locks file { lock with wrt := lock.wrt - 1 }) := by
  rw [semWait, sys, perform, run_call, lockExec, Locks.exec, Function.update_self, Lock.exec]
  split
  · rfl
  · rw [Option.map_some, Function.update_idem]
    rfl

theorem run_semPost_mutex : (semPost (.mutex file)).run (lockExec opened now)
    (Function.update locks file lock) =
      some ((), Function.update locks file { lock with mutex := lock.mutex + 1 }) := by
  rw [semPost, sys, perform, run_call, lockExec, Locks.exec, Function.update_self, Lock.exec,
    Option.map_some, Function.update_idem]
  rfl

theorem run_semPost_wrt : (semPost (.wrt file)).run (lockExec opened now)
    (Function.update locks file lock) =
      some ((), Function.update locks file { lock with wrt := lock.wrt + 1 }) := by
  rw [semPost, sys, perform, run_call, lockExec, Locks.exec, Function.update_self, Lock.exec,
    Option.map_some, Function.update_idem]
  rfl

theorem run_count_locks (change : Int) : (sys (.count file change)).run (lockExec opened now)
    (Function.update locks file lock) =
      some ((), Function.update locks file { lock with readers := lock.readers + change }) := by
  rw [sys, perform, run_call, lockExec, Function.update_self, Function.update_idem]
  rfl

theorem run_counter_locks : (sys (.counter file)).run (lockExec opened now)
    (Function.update locks file lock) =
      some (lock.readers, Function.update locks file lock) := by
  rw [sys, perform, run_call, lockExec, Function.update_self]
  rfl

/-- The entry section lets a reader in that need not wait. -/
theorem run_readerEntry_update : (readerEntry file).run (lockExec opened now)
    (Function.update locks file lock) =
      if lock.Free then some ((), Function.update locks file lock.entered) else none := by
  rw [readerEntry, run_bind, run_semWait_mutex]
  by_cases held : lock.mutex = 0
  · rw [if_pos held, if_neg fun free : lock.Free => free.1 held]
    rfl
  · rw [if_neg held, Option.bind_some, run_bind, run_count_locks, Option.bind_some, run_bind,
      run_counter_locks, Option.bind_some]
    by_cases first : lock.readers = 0
    · have one : lock.readers + 1 = 1 := by omega
      rw [if_pos one, run_bind, run_semWait_wrt]
      by_cases waits : lock.wrt = 0
      · rw [if_pos waits, if_neg fun free : lock.Free => free.2 first waits]
        rfl
      · have free : lock.Free := ⟨held, fun _ => waits⟩
        rw [if_neg waits, if_pos free, Option.bind_some, run_semPost_mutex,
          Nat.sub_add_cancel (Nat.pos_of_ne_zero held), Lock.entered, if_pos first]
    · have later : lock.readers + 1 ≠ 1 := by omega
      have free : lock.Free := ⟨held, fun none => absurd none first⟩
      rw [if_neg later, if_pos free, run_semPost_mutex,
        Nat.sub_add_cancel (Nat.pos_of_ne_zero held), Lock.entered, if_neg first]

/-- The exit section of a reader does not wait longer than for the counter. -/
theorem run_readerExit_update (held : lock.mutex ≠ 0) :
    (readerExit file).run (lockExec opened now) (Function.update locks file lock) =
      some ((), Function.update locks file lock.exited) := by
  rw [readerExit, run_bind, run_semWait_mutex, if_neg held, Option.bind_some, run_bind,
    run_count_locks, Option.bind_some, run_bind, run_counter_locks, Option.bind_some]
  by_cases last : lock.readers = 1
  · have zero : lock.readers + -1 = 0 := by omega
    rw [if_pos zero, run_bind, run_semPost_wrt, Option.bind_some, run_semPost_mutex,
      Nat.sub_add_cancel (Nat.pos_of_ne_zero held), Lock.exited, if_pos last]
    rfl
  · have more : lock.readers + -1 ≠ 0 := by omega
    rw [if_neg more, run_semPost_mutex, Nat.sub_add_cancel (Nat.pos_of_ne_zero held),
      Lock.exited, if_neg last]
    rfl

theorem run_readerEntry_locks : (readerEntry file).run (lockExec opened now) locks =
    if (locks file).Free then some ((), Function.update locks file (locks file).entered)
    else none := by
  have entered := run_readerEntry_update opened now locks file (locks file)
  rwa [Function.update_eq_self] at entered

/-- A reader that was let in and leaves restores all locks. -/
theorem run_readerExit_entered (free : (locks file).Free) :
    (readerExit file).run (lockExec opened now)
        (Function.update locks file (locks file).entered) = some ((), locks) := by
  rw [run_readerExit_update opened now locks file (locks file).entered free.1,
    Lock.exited_entered free, Function.update_eq_self]

theorem run_load_locks : (load file).run (lockExec opened now) locks =
    some (opened file, locks) := rfl

/-- A section that loads a table and is left behind the loading keeps the locks, whatever the
loader answers. -/
theorem run_readTable {Result : Type} (rest : List file.Row → Handler Result) :
    (do
        readerEntry file
        let table ← loadTable file
        readerExit file
        rest table : Handler Result).run (lockExec opened now) locks =
      if (locks file).Free then
        (rest ((opened file).getD [])).run (lockExec opened now) locks
      else none := by
  rw [run_bind, run_readerEntry_locks]
  by_cases free : (locks file).Free
  · rw [if_pos free, if_pos free, Option.bind_some, run_bind, loadTable, run_bind,
      run_load_locks, Option.bind_some]
    change ((readerExit file >>= fun _ => rest ((opened file).getD [])).run _ _) = _
    rw [run_bind, run_readerExit_entered opened now locks file free, Option.bind_some]
  · rw [if_neg free, if_neg free]
    rfl

end Sections

/-! ### The handlers that only read -/

/-- The handlers that write no file. -/
inductive ReadHandler where
  | validateID
  | viewProducts
  | buyerViewsOrder
  | buyerViewsInfo
  | sellerViewsOrders
  | readOrderDetails
  | validateOrderIsBuyers
  deriving DecidableEq

namespace ReadHandler

/-- What a handler does; its result is dropped. -/
def task (buffer : Text) : ReadHandler → Handler Unit
  | .validateID => do let _ ← OnlineStore.validateID buffer
  | .viewProducts => OnlineStore.viewProducts buffer
  | .buyerViewsOrder => OnlineStore.buyerViewsOrder buffer
  | .buyerViewsInfo => OnlineStore.buyerViewsInfo buffer
  | .sellerViewsOrders => OnlineStore.sellerViewsOrders buffer
  | .readOrderDetails => OnlineStore.readOrderDetails buffer
  | .validateOrderIsBuyers => do let _ ← OnlineStore.validateOrderIsBuyers buffer

/-- The files that a handler reads, in turn; nothing where it crashes on its request. -/
def files (buffer : Text) : ReadHandler → Option (List DbFile)
  | .validateID => (validateIDTarget buffer).map fun target => target.1.toList
  | .viewProducts => ((tokens buffer).head?.bind (strcpy 25)).map fun _ => [.ProductInfo]
  | .buyerViewsOrder => (numberAt buffer 0).map fun _ => [.BillingInfo]
  | .buyerViewsInfo => (numberAt buffer 0).map fun _ => [.CustomerInfo]
  | .sellerViewsOrders => (numberAt buffer 0).map fun _ => [.ProductInfo, .CustomerOrder]
  | .readOrderDetails => (numberAt buffer 0).map fun _ => [.CustomerOrder, .ProductInfo]
  | .validateOrderIsBuyers =>
    (numberAt buffer 0).bind fun _ => (numberAt buffer 1).map fun _ => [.BillingInfo]

end ReadHandler

section Handlers

variable (opened : (file : DbFile) → Option (List file.Row)) (now : Nat) (locks : Locks)
variable {buffer : Text} {files : List DbFile}

theorem run_validateIDIn_unopened {file : DbFile} (idToValidate : Int32)
    (unopened : opened file = none) :
    (validateIDIn file idToValidate).run (lockExec opened now) locks =
      if (locks file).Free then some (false, locks) else none := by
  rw [validateIDIn, run_bind, run_readerEntry_locks]
  by_cases free : (locks file).Free
  · rw [if_pos free, if_pos free, Option.bind_some, run_bind, run_load_locks, unopened,
      Option.bind_some, run_bind, run_readerExit_entered opened now locks file free]
    rfl
  · rw [if_neg free, if_neg free]
    rfl

/-- A handler is let in when the locks of its files admit it, one after the other. -/
theorem admitted_one {Outcome : Type} (file : DbFile) (outcome : Option Outcome) :
    (if [file].all fun file => (locks file).Free then outcome else none) =
      if (locks file).Free then outcome else none := by
  simp only [List.all_cons, List.all_nil, Bool.and_true, decide_eq_true_eq]

theorem admitted_two {Outcome : Type} (first second : DbFile) (outcome : Option Outcome) :
    (if [first, second].all fun file => (locks file).Free then outcome else none) =
      if (locks first).Free then if (locks second).Free then outcome else none else none := by
  simp only [List.all_cons, List.all_nil, Bool.and_true, Bool.and_eq_true, decide_eq_true_eq,
    ite_and]

/-- The locks that a handler leaves when one of its files does not open. -/
theorem run_readHandler (handler : ReadHandler) (decoded : handler.files buffer = some files)
    (fails : ∃ file ∈ files, opened file = none) :
    (handler.task buffer).run (lockExec opened now) locks =
      if files.all fun file => (locks file).Free then
        some ((), if handler = .viewProducts then
          Function.update locks .ProductInfo (locks .ProductInfo).entered else locks)
      else none := by
  cases handler with
  | validateID =>
    obtain ⟨⟨asked, idToValidate⟩, target, rfl⟩ := Option.map_eq_some_iff.mp decoded
    obtain ⟨file, member, unopened⟩ := fails
    obtain rfl : asked = some file := Option.mem_toList.mp member
    rw [ReadHandler.task, OnlineStore.validateID, target, orCrash, Prog.pure_bind]
    rw [Option.toList_some, admitted_one, run_bind,
      run_validateIDIn_unopened opened now locks idToValidate unopened]
    by_cases free : (locks file).Free
    · rw [if_pos free, if_pos free]
      rfl
    · rw [if_neg free, if_neg free]
      rfl
  | viewProducts =>
    obtain ⟨clientType, copied, rfl⟩ := Option.map_eq_some_iff.mp decoded
    obtain ⟨ptr, first, fits⟩ := Option.bind_eq_some_iff.mp copied
    have unopened : opened .ProductInfo = none := by simpa using fails
    rw [ReadHandler.task, OnlineStore.viewProducts, first, orCrash, Prog.pure_bind, fits, orCrash,
      Prog.pure_bind, run_bind, run_readerEntry_locks, admitted_one]
    by_cases free : (locks .ProductInfo).Free
    · rw [if_pos free, if_pos free, Option.bind_some, run_bind, run_load_locks, unopened]
      rfl
    · rw [if_neg free, if_neg free]
      rfl
  | buyerViewsOrder =>
    obtain ⟨userID, number, rfl⟩ := Option.map_eq_some_iff.mp decoded
    rw [ReadHandler.task, OnlineStore.buyerViewsOrder, number, orCrash, Prog.pure_bind,
      run_readTable, admitted_one]
    rfl
  | buyerViewsInfo =>
    obtain ⟨userID, number, rfl⟩ := Option.map_eq_some_iff.mp decoded
    rw [ReadHandler.task, OnlineStore.buyerViewsInfo, number, orCrash, Prog.pure_bind,
      run_readTable, admitted_one]
    rfl
  | sellerViewsOrders =>
    obtain ⟨sellerID, number, rfl⟩ := Option.map_eq_some_iff.mp decoded
    rw [ReadHandler.task, OnlineStore.sellerViewsOrders, number, orCrash, Prog.pure_bind,
      run_readTable, run_readTable, admitted_two]
    rfl
  | readOrderDetails =>
    obtain ⟨orderID, number, rfl⟩ := Option.map_eq_some_iff.mp decoded
    rw [ReadHandler.task, OnlineStore.readOrderDetails, number, orCrash, Prog.pure_bind,
      run_readTable, run_readTable, admitted_two]
    rfl
  | validateOrderIsBuyers =>
    obtain ⟨buyerID, number, rest⟩ := Option.bind_eq_some_iff.mp decoded
    obtain ⟨orderID, number', rfl⟩ := Option.map_eq_some_iff.mp rest
    have unopened : opened .BillingInfo = none := by simpa using fails
    rw [ReadHandler.task, OnlineStore.validateOrderIsBuyers, number, orCrash, Prog.pure_bind,
      number', orCrash, Prog.pure_bind, run_bind, run_readTable, unopened, admitted_one]
    by_cases free : (locks .BillingInfo).Free
    · rw [if_pos free, if_pos free]
      rfl
    · rw [if_neg free, if_neg free]
      rfl

/-- A handler one of whose files does not open gets through exactly if it is let into its read
sections, and it leaves all locks as they were unless it is `viewProducts`. -/
theorem locks_restored_iff (handler : ReadHandler) (decoded : handler.files buffer = some files)
    (fails : ∃ file ∈ files, opened file = none) :
    ((∃ final, (handler.task buffer).run (lockExec opened now) locks = some ((), final)) ↔
        ∀ file ∈ files, (locks file).Free) ∧
      ∀ final, (handler.task buffer).run (lockExec opened now) locks = some ((), final) →
        (final = locks ↔ handler ≠ .viewProducts) := by
  have admitted : (files.all fun file => (locks file).Free) = true ↔
      ∀ file ∈ files, (locks file).Free := by
    simp only [List.all_eq_true, decide_eq_true_eq]
  rw [run_readHandler opened now locks handler decoded fails]
  by_cases free : ∀ file ∈ files, (locks file).Free
  · rw [if_pos (admitted.mpr free)]
    refine ⟨iff_of_true ⟨_, rfl⟩ free, fun final left => ?_⟩
    obtain rfl := (Prod.mk.inj (Option.some.inj left)).2
    by_cases view : handler = .viewProducts
    · rw [if_pos view]
      refine iff_of_false (fun same => ?_) (not_not.mpr view)
      have entered := congrFun same .ProductInfo
      rw [Function.update_self] at entered
      exact (locks .ProductInfo).entered_ne entered
    · rw [if_neg view]
      exact iff_of_true rfl view
  · rw [if_neg (mt admitted.mp free)]
    refine ⟨iff_of_false ?_ free, fun final left => ?_⟩
    · rintro ⟨final, left⟩
      cases left
    · cases left

end Handlers

/-- Two readers are in CustomerOrder, nobody uses the other files, and ProductInfo is missing. -/
theorem locks_restored_iff_missingProducts :
    ((∃ final, (ReadHandler.task "3000,\n".toList .readOrderDetails).run
        (lockExec (fun file => if file = .ProductInfo then none else some []) 0)
        (Function.update (fun _ => Lock.unused) .CustomerOrder ⟨1, 0, 2⟩) = some ((), final)) ↔
      ∀ file ∈ [DbFile.CustomerOrder, DbFile.ProductInfo],
        (Function.update (fun _ => Lock.unused) DbFile.CustomerOrder ⟨1, 0, 2⟩ file).Free) ∧
    ∀ final, (ReadHandler.task "3000,\n".toList .readOrderDetails).run
        (lockExec (fun file => if file = .ProductInfo then none else some []) 0)
        (Function.update (fun _ => Lock.unused) .CustomerOrder ⟨1, 0, 2⟩) = some ((), final) →
      (final = Function.update (fun _ => Lock.unused) .CustomerOrder ⟨1, 0, 2⟩ ↔
        ReadHandler.readOrderDetails ≠ .viewProducts) :=
  locks_restored_iff _ 0 _ .readOrderDetails (by decide)
    ⟨.ProductInfo, List.mem_cons_of_mem _ List.mem_cons_self, rfl⟩

/-- A buyer asks for the products while ProductInfo does not open: the reader stays counted, and
whoever waits to write the file waits for ever. -/
theorem viewProducts_not_restored :
    ∃ final, (ReadHandler.task "[BUYER],\n".toList .viewProducts).run
        (lockExec (fun _ => none) 0) (fun _ => Lock.unused) = some ((), final) ∧
      final .ProductInfo = ⟨1, 0, 1⟩ ∧ final ≠ (fun _ => Lock.unused) ∧
      (semWait (.wrt .ProductInfo)).run (lockExec (fun _ => none) 0) final = none := by
  have decoded : ReadHandler.files "[BUYER],\n".toList .viewProducts = some [.ProductInfo] := by
    decide
  have ran := run_readHandler (fun _ => none) 0 (fun _ => Lock.unused) .viewProducts decoded
    ⟨.ProductInfo, List.mem_cons_self, rfl⟩
  rw [if_pos (by decide), if_pos rfl] at ran
  have kept : (Function.update (fun _ => Lock.unused) DbFile.ProductInfo
      Lock.unused.entered : Locks) .ProductInfo = ⟨1, 0, 1⟩ := by
    rw [Function.update_self]
    rfl
  refine ⟨_, ran, kept, fun same => ?_, ?_⟩
  · have readers := congrArg Lock.readers ((congrFun same .ProductInfo).symm.trans kept)
    exact absurd readers (by decide)
  · rw [run_semWait_wrt]
    rfl

end OnlineStore
