/-
This file models `dsModel_All_Fix`, the demonstration of the locking that the data server uses:
any number of processes, each of which runs the same command for ever, over shared named
semaphores.

A reader counts itself with a counting semaphore that it reads back, under a second semaphore. A
writer takes the semaphores for writing of all files it needs, in one order, and posts them in the
same order. Opening and closing a file are two steps, so that accesses of different processes can
overlap.
-/

import OnlineStore.Database
import OnlineStore.Interleaving
import OnlineStore.ReaderWriter

namespace OnlineStore.LockingModel

open CString Interleaving ReaderWriter

/-- The semaphores of each file: for writing, for the mutual exclusion of the entry and exit
sections, and the counter of the readers. -/
inductive Semaphore where
  | wrt (file : DbFile)
  | mutex (file : DbFile)
  | counter (file : DbFile)
  deriving DecidableEq

def Semaphore.file : Semaphore → DbFile
  | .wrt file => file
  | .mutex file => file
  | .counter file => file

inductive Access where
  | read
  | write
  deriving DecidableEq

inductive Op where
  | semWait (semaphore : Semaphore)
  | semPost (semaphore : Semaphore)
  | semTrywait (semaphore : Semaphore)
  | semGetvalue (semaphore : Semaphore)
  | fopen (file : DbFile) (access : Access)
  | fclose (file : DbFile)

abbrev Op.Ret : Op → Type
  | .semTrywait _ => Int
  | .semGetvalue _ => Int
  | _ => Unit

abbrev Body := Prog Op Op.Ret

/-! ### The processes -/

def semWait (semaphore : Semaphore) : Body Unit := Prog.perform (Op.semWait semaphore)

def semPost (semaphore : Semaphore) : Body Unit := Prog.perform (Op.semPost semaphore)

/-- The functions that access a file open it and close it again. -/
def useFile (use : DbFile × Access) : Body Unit := do
  Prog.perform (Op.fopen use.1 use.2)
  Prog.perform (Op.fclose use.1)

def readBuyerInfo : DbFile × Access := (.CustomerInfo, .read)

def writeBuyerInfo : DbFile × Access := (.CustomerInfo, .write)

def readSellerInfo : DbFile × Access := (.SellerInfo, .read)

def writeSellerInfo : DbFile × Access := (.SellerInfo, .write)

def readProductInfo : DbFile × Access := (.ProductInfo, .read)

def writeProductInfo : DbFile × Access := (.ProductInfo, .write)

def readBillingInfo : DbFile × Access := (.BillingInfo, .read)

def writeBillingInfo : DbFile × Access := (.BillingInfo, .write)

def readCustomerOrderInfo : DbFile × Access := (.CustomerOrder, .read)

def writeCustomerOrderInfo : DbFile × Access := (.CustomerOrder, .write)

/-- The entry section of a reader. -/
def readerEntry (file : DbFile) : Body Unit := do
  semWait (.mutex file)
  semPost (.counter file)
  let readers : Int ← Prog.perform (Op.semGetvalue (.counter file))
  if readers = 1 then semWait (.wrt file)
  semPost (.mutex file)

/-- The exit section of a reader. -/
def readerExit (file : DbFile) : Body Unit := do
  semWait (.mutex file)
  let _ ← Prog.perform (Op.semTrywait (.counter file))
  let readers : Int ← Prog.perform (Op.semGetvalue (.counter file))
  if readers = 0 then semPost (.wrt file)
  semPost (.mutex file)

/-- A reader of one file, with the function that reads it. -/
def reader (use : DbFile × Access) : Body Unit := do
  readerEntry use.1
  useFile use
  readerExit use.1

def waitAll : List DbFile → Body Unit
  | [] => return ()
  | file :: files => do
    semWait (.wrt file)
    waitAll files

def postAll : List DbFile → Body Unit
  | [] => return ()
  | file :: files => do
    semPost (.wrt file)
    postAll files

def useAll : List (DbFile × Access) → Body Unit
  | [] => return ()
  | use :: uses => do
    useFile use
    useAll uses

/-- A writer, with the files whose semaphores it takes and the functions that it calls. -/
def writer (files : List DbFile) (uses : List (DbFile × Access)) : Body Unit := do
  waitAll files
  useAll uses
  postAll files

/-- The command of a process. -/
structure Com where
  command : Text
  clientType : Text
  valid : Bool
  valid2 : Bool

/-- The edits of a buyer that its orders carry a copy of. -/
def editBuyer : Body Unit :=
  writer [.CustomerInfo, .BillingInfo, .CustomerOrder]
    [readBuyerInfo, writeBuyerInfo, readBillingInfo, writeBillingInfo, readCustomerOrderInfo,
      writeCustomerOrderInfo]

/-- What `[DELETE_PROD]`, `[MOD_QUANT]` and `[MOD_PRICE]` have in common. -/
def changeProduct (com : Com) : Body Unit :=
  if com.valid then
    writer [.ProductInfo]
      (readProductInfo :: if com.valid2 then [writeProductInfo] else [])
  else return ()

/-- `[EDIT_INFO]`. The tag `[NAME]` is looked for in the client type, the other two in the
command. -/
def editInfo (com : Com) : Body Unit :=
  if strstr com.clientType "[BUYER]".toList then
    if strstr com.clientType "[NAME]".toList then editBuyer
    else if strstr com.command "[NUMBER]".toList then
      writer [.CustomerInfo] [readBuyerInfo, writeBuyerInfo]
    else if strstr com.command "[ADDRESS]".toList then editBuyer
    else return ()
  else if strstr com.clientType "[NAME]".toList ∨ strstr com.command "[NUMBER]".toList ∨
      strstr com.command "[ADDRESS]".toList then
    writer [.SellerInfo] [readSellerInfo, writeSellerInfo]
  else return ()

/-- The body of the loop of `main`. -/
def mainLoop (com : Com) : Body Unit :=
  if strstr com.command "[NEW_CLIENT]".toList then
    if strstr com.clientType "[BUYER]".toList then
      writer [.CustomerInfo] [readBuyerInfo, writeBuyerInfo]
    else writer [.SellerInfo] [readSellerInfo, writeSellerInfo]
  else if strstr com.command "[VALIDATE_ID]".toList then
    if strstr com.clientType "[BUYER]".toList then reader readBuyerInfo
    else if strstr com.clientType "[SELLER]".toList then reader readSellerInfo
    else if strstr com.clientType "[PRODUCT]".toList then reader readProductInfo
    else if strstr com.clientType "[BILLING]".toList then reader readBillingInfo
    else if strstr com.clientType "[ORDER]".toList then reader readCustomerOrderInfo
    else return ()
  else if strstr com.command "[VIEW_PRODUCTS]".toList then
    if strstr com.clientType "[BUYER]".toList then reader readProductInfo
    else if strstr com.clientType "[SELLER]".toList then reader readProductInfo
    else return ()
  else if strstr com.command "[COMPLETE_ORDER]".toList then
    if com.valid then
      writer [.ProductInfo, .BillingInfo, .CustomerOrder]
        [readProductInfo, readBillingInfo, readCustomerOrderInfo, writeProductInfo,
          writeBillingInfo, writeCustomerOrderInfo]
    else return ()
  else if strstr com.command "[VIEW_BUYER_ORDERS]".toList then reader readBillingInfo
  else if strstr com.command "[CHECK_BUYER]".toList then reader readBillingInfo
  else if strstr com.command "[ORDER_DETAILS]".toList then do
    reader readCustomerOrderInfo
    reader readProductInfo
  else if strstr com.command "[MOD_ORDER]".toList then
    writer [.BillingInfo, .CustomerOrder]
      [readCustomerOrderInfo, readBillingInfo, writeCustomerOrderInfo, writeBillingInfo]
  else if strstr com.command "[VIEW_BILLING]".toList then reader readBuyerInfo
  else if strstr com.command "[EDIT_INFO]".toList then editInfo com
  else if strstr com.command "[NEW_PRODUCT]".toList then
    writer [.ProductInfo] [readProductInfo, writeProductInfo]
  else if strstr com.command "[DELETE_PROD]".toList then changeProduct com
  else if strstr com.command "[MOD_QUANT]".toList then changeProduct com
  else if strstr com.command "[MOD_PRICE]".toList then changeProduct com
  else if strstr com.command "[SELLER_ORDERS]".toList then do
    reader readProductInfo
    reader readCustomerOrderInfo
  else return ()

/-! ### Running them -/

section System

variable {Process : Type} [DecidableEq Process]

/-- The values of the semaphores, and what each process is doing: the files it has open, and the
counters it has posted and has not waited for since. -/
structure World (Process : Type) where
  values : Semaphore → Nat
  opened : Process → DbFile → Option Access
  counted : Process → DbFile → Bool

namespace World

def setValue (world : World Process) (semaphore : Semaphore) (value : Nat) : World Process :=
  { world with values := Function.update world.values semaphore value }

def setOpened (world : World Process) (process : Process) (file : DbFile)
    (access : Option Access) : World Process :=
  { world with
    opened := Function.update world.opened process
      (Function.update (world.opened process) file access) }

/-- Notes whether a process is counted in the counter of a file. -/
def setCounted (world : World Process) (process : Process) (semaphore : Semaphore)
    (counted : Bool) : World Process :=
  match semaphore with
  | .counter file =>
    { world with
      counted := Function.update world.counted process
        (Function.update (world.counted process) file counted) }
  | _ => world

def exec (process : Process) (world : World Process) : (op : Op) → Option (op.Ret × World Process)
  | .semWait semaphore =>
    if world.values semaphore = 0 then none
    else some ((), world.setValue semaphore (world.values semaphore - 1))
  | .semPost semaphore =>
    some ((), (world.setValue semaphore (world.values semaphore + 1)).setCounted process
      semaphore true)
  | .semTrywait semaphore =>
    if world.values semaphore = 0 then some (-1, world.setCounted process semaphore false)
    else some (0, (world.setValue semaphore (world.values semaphore - 1)).setCounted process
      semaphore false)
  | .semGetvalue semaphore => some (world.values semaphore, world)
  | .fopen file access => some ((), world.setOpened process file (some access))
  | .fclose file => some ((), world.setOpened process file none)

/-- The semaphores as they are opened. -/
def initial : World Process where
  values
    | .wrt _ => 1
    | .mutex _ => 1
    | .counter _ => 0
  opened _ _ := none
  counted _ _ := false

/-- The three semaphores of a file. -/
def lock (world : World Process) (file : DbFile) : Lock :=
  ⟨world.values (.mutex file), world.values (.wrt file), world.values (.counter file)⟩

end World

/-- The processes start over for ever. -/
def machine (com : Process → Com) : Machine Process (World Process) Op Op.Ret where
  exec := World.exec
  again process := some (mainLoop (com process))

def start (com : Process → Com) : Threads Process (World Process) Op Op.Ret where
  shared := World.initial
  program process := mainLoop (com process)

end System

section Values

variable {Process : Type} (world : World Process)

theorem lock_setValue_mutex (file : DbFile) (value : Nat) :
    (world.setValue (.mutex file) value).lock file =
      { world.lock file with mutex := value } := by
  simp [World.lock, World.setValue]

theorem lock_setValue_wrt (file : DbFile) (value : Nat) :
    (world.setValue (.wrt file) value).lock file = { world.lock file with wrt := value } := by
  simp [World.lock, World.setValue]

theorem lock_setValue_counter (file : DbFile) (value : Nat) :
    (world.setValue (.counter file) value).lock file =
      { world.lock file with readers := value } := by
  simp [World.lock, World.setValue]

/-- The semaphores of the other files keep their values. -/
theorem lock_setValue_other {semaphore : Semaphore} (value : Nat) {other : DbFile}
    (different : other ≠ semaphore.file) :
    (world.setValue semaphore value).lock other = world.lock other := by
  cases semaphore <;> simp_all [World.lock, World.setValue, Semaphore.file]

end Values

/-! ### The protocol of a process -/

/-- Where a process is at each lock, and which files it has open. -/
@[ext] structure Phase where
  positions : DbFile → Position
  opened : DbFile → Option Access

/-- Outside of all locks. -/
def Phase.home : Phase := ⟨fun _ => .outside, fun _ => none⟩

/-- A closed file whose lock admits the operation. -/
def Phase.MayCall (phase : Phase) (file : DbFile) (op : LockOp) : Prop :=
  allowed false (phase.positions file) op = true ∧ phase.opened file = none

def Phase.move (phase : Phase) (file : DbFile) (op : LockOp) (answer : op.Ret) : Phase :=
  { phase with
    positions := Function.update phase.positions file (after (phase.positions file) op answer) }

theorem Phase.move_self (phase : Phase) (file : DbFile) (op : LockOp) (answer : op.Ret) :
    (phase.move file op answer).positions file = after (phase.positions file) op answer := by
  show Function.update phase.positions file _ file = _
  rw [Function.update_self]

theorem Phase.move_other (phase : Phase) {file other : DbFile} (op : LockOp) (answer : op.Ret)
    (different : other ≠ file) :
    (phase.move file op answer).positions other = phase.positions other := by
  show Function.update phase.positions file _ other = _
  rw [Function.update_of_ne different]

def Phase.use (phase : Phase) (file : DbFile) (access : Option Access) : Phase :=
  { phase with opened := Function.update phase.opened file access }

/-- Files are read in a read section or as a writer, and written as a writer. -/
def Phase.MayOpen (phase : Phase) (file : DbFile) : Access → Prop
  | .read => phase.positions file = .reading ∨ phase.positions file = .writing
  | .write => phase.positions file = .writing

theorem Phase.mayOpen_congr {phase phase' : Phase} {file : DbFile}
    (same : phase'.positions file = phase.positions file) (access : Access) :
    phase'.MayOpen file access ↔ phase.MayOpen file access := by
  cases access with
  | read => rw [MayOpen, MayOpen, same]
  | write => rw [MayOpen, MayOpen, same]

/-- The lock protocol at each file, with the accesses where they belong. -/
def protocol : Prog.Protocol Op Op.Ret Phase where
  allows
    | phase, .semWait (.mutex file) => phase.MayCall file .waitMutex
    | phase, .semWait (.wrt file) => phase.MayCall file .waitWrt
    | phase, .semPost (.mutex file) => phase.MayCall file .postMutex
    | phase, .semPost (.wrt file) => phase.MayCall file .postWrt
    | phase, .semPost (.counter file) => phase.MayCall file .enter
    | phase, .semTrywait (.counter file) => phase.MayCall file .leave
    | phase, .semGetvalue (.counter file) => phase.MayCall file .readers
    | phase, .fopen file access => phase.MayOpen file access
    | _, .fclose _ => True
    | _, _ => False
  next
    | phase, .semWait (.mutex file), _ => phase.move file .waitMutex ()
    | phase, .semWait (.wrt file), _ => phase.move file .waitWrt ()
    | phase, .semPost (.mutex file), _ => phase.move file .postMutex ()
    | phase, .semPost (.wrt file), _ => phase.move file .postWrt ()
    | phase, .semPost (.counter file), _ => phase.move file .enter ()
    | phase, .semTrywait (.counter file), _ => phase.move file .leave ()
    | phase, .semGetvalue (.counter file), readers => phase.move file .readers readers
    | phase, .fopen file access, _ => phase.use file (some access)
    | phase, .fclose file, _ => phase.use file none
    | phase, _, _ => phase

/-- From a phase the program follows the protocol, whatever the values of the counters are, and it
ends in another phase. -/
abbrev Leads {Result : Type} (phase last : Phase) (program : Prog Op Op.Ret Result) : Prop :=
  Prog.Obeys protocol (fun _ _ _ => True) (fun _ phase => phase = last) phase program

theorem Leads.bind {First Second : Type} {phase middle last : Phase}
    {program : Prog Op Op.Ret First} {next : First → Prog Op Op.Ret Second}
    (first : Leads phase middle program) (second : ∀ result, Leads middle last (next result)) :
    Leads phase last (program >>= next) := by
  refine Prog.Obeys.bind first ?_
  rintro result _ rfl
  exact second result

/-- The phase of a process that is at one lock only. -/
def Phase.only (file : DbFile) (position : Position) : Phase :=
  ⟨Function.update (fun _ => .outside) file position, fun _ => none⟩

theorem Phase.only_outside (file : DbFile) : Phase.only file .outside = .home := by
  refine Phase.ext ?_ rfl
  exact Function.update_eq_self _ _

theorem Phase.only_self (file : DbFile) (position : Position) :
    (Phase.only file position).positions file = position := by
  show Function.update (fun _ => Position.outside) file position file = position
  rw [Function.update_self]

theorem Phase.move_only (file : DbFile) (position : Position) (op : LockOp) (answer : op.Ret) :
    (Phase.only file position).move file op answer = .only file (after position op answer) := by
  refine Phase.ext ?_ rfl
  rw [Phase.move, Phase.only_self]
  exact Function.update_idem _ _ _

/-- A call on the one lock that the process is at. -/
theorem call_leads {op : Op} (lockOp : LockOp) (answerOf : op.Ret → lockOp.Ret) {file : DbFile}
    {position : Position} {last : Phase} {rest : op.Ret → Body Unit}
    (calls : protocol.allows (.only file position) op =
      (Phase.only file position).MayCall file lockOp)
    (moves : ∀ answer, protocol.next (.only file position) op answer =
      (Phase.only file position).move file lockOp (answerOf answer))
    (allows : allowed false position lockOp = true)
    (follows : ∀ answer, Leads (.only file (after position lockOp (answerOf answer))) last
      (rest answer)) :
    Leads (.only file position) last (.call op rest) := by
  refine Prog.obeys_call.mpr ⟨?_, fun answer _ => ?_⟩
  · rw [calls, Phase.MayCall, Phase.only_self]
    exact ⟨allows, rfl⟩
  · rw [moves, Phase.move_only]
    exact follows answer

theorem readerEntry_leads (file : DbFile) :
    Leads (.only file .outside) (.only file .reading) (readerEntry file) := by
  refine call_leads .waitMutex (fun _ => ()) rfl (fun _ => rfl) rfl fun _ => ?_
  refine call_leads .enter (fun _ => ()) rfl (fun _ => rfl) rfl fun _ => ?_
  refine call_leads .readers id rfl (fun _ => rfl) rfl fun (readers : Int) => ?_
  have postMutex : Leads (.only file .entered) (.only file .reading) (semPost (.mutex file)) :=
    call_leads .postMutex (fun _ => ()) rfl (fun _ => rfl) rfl fun _ => rfl
  show Leads (.only file (if readers = 1 then .mustWait else .entered)) _
    (if readers = 1 then semWait (.wrt file) >>= fun _ => semPost (.mutex file)
      else semPost (.mutex file))
  by_cases one : readers = 1
  · rw [if_pos one, if_pos one]
    exact call_leads .waitWrt (fun _ => ()) rfl (fun _ => rfl) rfl fun _ => postMutex
  · rw [if_neg one, if_neg one]
    exact postMutex

theorem readerExit_leads (file : DbFile) :
    Leads (.only file .reading) (.only file .outside) (readerExit file) := by
  refine call_leads .waitMutex (fun _ => ()) rfl (fun _ => rfl) rfl fun _ => ?_
  refine call_leads .leave (fun _ => ()) rfl (fun _ => rfl) rfl fun _ => ?_
  refine call_leads .readers id rfl (fun _ => rfl) rfl fun (readers : Int) => ?_
  have postMutex : Leads (.only file .left) (.only file .outside) (semPost (.mutex file)) :=
    call_leads .postMutex (fun _ => ()) rfl (fun _ => rfl) rfl fun _ => rfl
  show Leads (.only file (if readers = 0 then .mustPost else .left)) _
    (if readers = 0 then semPost (.wrt file) >>= fun _ => semPost (.mutex file)
      else semPost (.mutex file))
  by_cases none : readers = 0
  · rw [if_pos none, if_pos none]
    exact call_leads .postWrt (fun _ => ()) rfl (fun _ => rfl) rfl fun _ => postMutex
  · rw [if_neg none, if_neg none]
    exact postMutex

/-- An access where it belongs leaves the phase as it was. -/
theorem useFile_leads {phase : Phase} {use : DbFile × Access} (opens : phase.MayOpen use.1 use.2)
    (closed : phase.opened = fun _ => none) : Leads phase phase (useFile use) := by
  refine Prog.obeys_call.mpr ⟨opens, fun _ _ => ?_⟩
  refine Prog.obeys_call.mpr ⟨trivial, fun _ _ => ?_⟩
  refine Phase.ext rfl ?_
  show Function.update (Function.update phase.opened use.1 _) use.1 none = phase.opened
  rw [Function.update_idem, closed]
  exact Function.update_eq_self _ _

theorem reader_leads (file : DbFile) : Leads .home .home (reader (file, .read)) := by
  rw [← Phase.only_outside file]
  refine (readerEntry_leads file).bind fun _ => ?_
  have opens : (Phase.only file .reading).MayOpen file .read :=
    Or.inl (Phase.only_self file .reading)
  exact (useFile_leads opens rfl).bind fun _ => readerExit_leads file

/-! ### Writers -/

/-- The position of a writer at a file. -/
def writerAt (holds : Bool) : Position :=
  if holds then .writing else .outside

/-- The phase of a process that writes some files. -/
def Phase.writing (held : DbFile → Bool) : Phase :=
  ⟨fun file => writerAt (held file), fun _ => none⟩

theorem Phase.writing_move {held : DbFile → Bool} {file : DbFile} {op : LockOp} {answer : op.Ret}
    {holds : Bool} (moves : after (writerAt (held file)) op answer = writerAt holds) :
    (Phase.writing held).move file op answer = .writing (Function.update held file holds) := by
  refine Phase.ext (funext fun other => ?_) rfl
  rw [Phase.move, Phase.writing, moves]
  exact (Function.apply_update (fun _ => writerAt) held file holds other).symm

/-- A call of a writer on the lock of a file. -/
theorem writer_call_leads {op : Op} (lockOp : LockOp) (answerOf : op.Ret → lockOp.Ret)
    {file : DbFile} {held : DbFile → Bool} (holds : Bool) {last : Phase} {rest : op.Ret → Body Unit}
    (calls : protocol.allows (.writing held) op = (Phase.writing held).MayCall file lockOp)
    (moves : ∀ answer, protocol.next (.writing held) op answer =
      (Phase.writing held).move file lockOp (answerOf answer))
    (allows : allowed false (writerAt (held file)) lockOp = true)
    (goes : ∀ answer, after (writerAt (held file)) lockOp (answerOf answer) = writerAt holds)
    (follows : ∀ answer, Leads (.writing (Function.update held file holds)) last (rest answer)) :
    Leads (.writing held) last (.call op rest) := by
  refine Prog.obeys_call.mpr ⟨?_, fun answer _ => ?_⟩
  · rw [calls]
    exact ⟨allows, rfl⟩
  · rw [moves, Phase.writing_move (goes answer)]
    exact follows answer

theorem waitAll_leads {files : List DbFile} {held held' : DbFile → Bool} (distinct : files.Nodup)
    (free : ∀ file ∈ files, held file = false)
    (taken : ∀ file, held' file = (held file || decide (file ∈ files))) :
    Leads (.writing held) (.writing held') (waitAll files) := by
  induction files generalizing held with
  | nil =>
    have same : held = held' := funext fun file => by simpa using (taken file).symm
    exact same ▸ rfl
  | cons file files inductionHypothesis =>
    obtain ⟨fresh, distinct⟩ := List.nodup_cons.mp distinct
    have own := free file List.mem_cons_self
    refine writer_call_leads .waitWrt (fun _ => ()) true rfl (fun _ => rfl) (by rw [own]; rfl)
      (fun _ => by rw [own]; rfl) fun _ => inductionHypothesis distinct ?_ ?_
    · intro other member
      rw [Function.update_of_ne (ne_of_mem_of_not_mem member fresh)]
      exact free other (List.mem_cons_of_mem _ member)
    · intro other
      rw [taken other]
      by_cases same : other = file
      · subst same
        simp
      · rw [Function.update_of_ne same]
        simp [same]

theorem useAll_leads {uses : List (DbFile × Access)} {held : DbFile → Bool}
    (covered : ∀ use ∈ uses, held use.1 = true) :
    Leads (.writing held) (.writing held) (useAll uses) := by
  induction uses with
  | nil => rfl
  | cons use uses inductionHypothesis =>
    have others := inductionHypothesis fun other member =>
      covered other (List.mem_cons_of_mem _ member)
    have holds : (Phase.writing held).positions use.1 = .writing :=
      congrArg writerAt (covered use List.mem_cons_self)
    refine (useFile_leads ?_ rfl).bind fun _ => others
    obtain ⟨file, access⟩ := use
    cases access with
    | read => exact .inr holds
    | write => exact holds

theorem postAll_leads {files : List DbFile} {held held' : DbFile → Bool} (distinct : files.Nodup)
    (taken : ∀ file ∈ files, held file = true)
    (free : ∀ file, held' file = (held file && !decide (file ∈ files))) :
    Leads (.writing held) (.writing held') (postAll files) := by
  induction files generalizing held with
  | nil =>
    have same : held = held' := funext fun file => by simpa using (free file).symm
    exact same ▸ rfl
  | cons file files inductionHypothesis =>
    obtain ⟨fresh, distinct⟩ := List.nodup_cons.mp distinct
    have own := taken file List.mem_cons_self
    refine writer_call_leads .postWrt (fun _ => ()) false rfl (fun _ => rfl) (by rw [own]; rfl)
      (fun _ => by rw [own]; rfl) fun _ => inductionHypothesis distinct ?_ ?_
    · intro other member
      rw [Function.update_of_ne (ne_of_mem_of_not_mem member fresh)]
      exact taken other (List.mem_cons_of_mem _ member)
    · intro other
      rw [free other]
      by_cases same : other = file
      · subst same
        simp
      · rw [Function.update_of_ne same]
        simp [same]

theorem writer_leads {files : List DbFile} {uses : List (DbFile × Access)}
    (distinct : files.Nodup) (covered : ∀ use ∈ uses, use.1 ∈ files) :
    Leads .home .home (writer files uses) := by
  have waits : Leads .home (.writing fun file => decide (file ∈ files)) (waitAll files) :=
    waitAll_leads distinct (fun _ _ => rfl) fun _ => rfl
  have posts : Leads (.writing fun file => decide (file ∈ files)) .home (postAll files) :=
    postAll_leads distinct (fun _ member => decide_eq_true member) fun _ =>
      (Bool.and_not_self _).symm
  exact waits.bind fun _ => (useAll_leads fun use member =>
    decide_eq_true (covered use member)).bind fun _ => posts

/-! ### The loop -/

theorem editBuyer_leads : Leads .home .home editBuyer :=
  writer_leads (by decide) (by decide)

theorem changeProduct_leads (com : Com) : Leads .home .home (changeProduct com) := by
  rw [changeProduct]
  cases com.valid with
  | false => rfl
  | true =>
    cases com.valid2 with
    | false => exact writer_leads (by decide) (by decide)
    | true => exact writer_leads (by decide) (by decide)

theorem ite_leads {Result : Type} {phase last : Phase} {condition : Prop} [Decidable condition]
    {yes no : Prog Op Op.Ret Result} (first : Leads phase last yes) (second : Leads phase last no) :
    Leads phase last (if condition then yes else no) := by
  split
  · exact first
  · exact second

theorem editInfo_leads (com : Com) : Leads .home .home (editInfo com) := by
  refine ite_leads (ite_leads editBuyer_leads (ite_leads ?_ (ite_leads editBuyer_leads rfl)))
    (ite_leads ?_ rfl)
  · exact writer_leads (by decide) (by decide)
  · exact writer_leads (by decide) (by decide)

/-- The loop body of every command comes back to where it started. -/
theorem mainLoop_leads (com : Com) : Leads .home .home (mainLoop com) := by
  have readers (first second : DbFile) : Leads .home .home
      (reader (first, .read) >>= fun _ => reader (second, .read)) :=
    (reader_leads first).bind fun _ => reader_leads second
  rw [mainLoop]
  -- A command that is none of the fifteen, a client type that a command does not know and an
  -- invalid order do nothing.
  repeat' with_reducible refine ite_leads ?_ ?_
  all_goals first
    | exact reader_leads _
    | exact readers _ _
    | exact writer_leads (by decide) (by decide)
    | exact changeProduct_leads com
    | exact editInfo_leads com
    | rfl

/-! ### The invariant -/

section Invariant

variable {Process : Type} [Fintype Process]

/-- The phases of the processes fit the semaphores and the records. -/
structure Safe (world : World Process) (phases : Process → Phase) : Prop where
  balanced : ∀ file, Balanced (world.lock file) fun process => (phases process).positions file
  counts : ∀ file, Counted (world.lock file) fun process => (phases process).positions file
  counted : ∀ process file,
    world.counted process file = ((phases process).positions file).isCounted
  opened : ∀ process, world.opened process = (phases process).opened
  accesses : ∀ process file access, (phases process).opened file = some access →
    (phases process).MayOpen file access

theorem safe_initial : Safe (World.initial : World Process) fun _ => .home where
  balanced _ := balanced_unused
  counts _ := counted_unused
  counted _ _ := rfl
  opened _ := rfl
  accesses _ _ _ opened := by cases opened

/-- Each counter is the number of the processes that are counted in it. -/
theorem Safe.counter_eq {world : World Process} {phases : Process → Phase}
    (safe : Safe world phases) (file : DbFile) :
    world.values (.counter file) =
      (Finset.univ.filter fun process => world.counted process file = true).card := by
  simp only [safe.counted]
  exact Int.ofNat.inj (safe.counts file).eq_card

variable [DecidableEq Process]
variable {world next : World Process} {phases : Process → Phase} {process : Process}

/-- An operation on the lock of a file keeps the world safe. -/
theorem Safe.move {file : DbFile} {op : LockOp} {answer : op.Ret} (safe : Safe world phases)
    (may : (phases process).MayCall file op)
    (called : (world.lock file).exec op = some (answer, next.lock file))
    (elsewhere : ∀ other, other ≠ file → next.lock other = world.lock other)
    (opened : next.opened = world.opened)
    (counted : next.counted = Function.update world.counted process
      (Function.update (world.counted process) file
        (after ((phases process).positions file) op answer).isCounted)) :
    Safe next (Function.update phases process ((phases process).move file op answer)) := by
  have moves := move_of_exec may.1 called
  have locks : next.lock = Function.update world.lock file (next.lock file) := by
    funext other
    by_cases same : other = file
    · subst same
      rw [Function.update_self]
    · rw [Function.update_of_ne same, elsewhere other same]
  have positions (other : DbFile) : (fun member => (Function.update phases process
      ((phases process).move file op answer) member).positions other) =
        fun member => Function.update (fun member => (phases member).positions) process
          ((phases process).move file op answer).positions member other :=
    funext fun member => congrFun
      (Function.apply_update (fun _ => Phase.positions) phases process _ member) other
  constructor
  · intro other
    rw [positions, locks]
    exact forall_locks_move safe.balanced ((safe.balanced file).move moves) other
  · intro other
    rw [positions, locks]
    exact forall_locks_move safe.counts ((safe.counts file).move moves) other
  · intro member other
    rw [counted]
    by_cases own : member = process
    · subst own
      rw [Function.update_self, Function.update_self]
      by_cases same : other = file
      · subst same
        rw [Function.update_self, Phase.move_self]
      · rw [Function.update_of_ne same, Phase.move_other _ _ _ same, safe.counted]
    · rw [Function.update_of_ne own, Function.update_of_ne own, safe.counted]
  · intro member
    rw [opened, safe.opened]
    by_cases own : member = process
    · subst own
      rw [Function.update_self]
      rfl
    · rw [Function.update_of_ne own]
  · intro member other access inUse
    by_cases own : member = process
    · subst own
      rw [Function.update_self] at inUse ⊢
      have different : other ≠ file := by
        rintro rfl
        exact Option.some_ne_none access (inUse.symm.trans may.2)
      exact (Phase.mayOpen_congr (Phase.move_other _ op answer different) access).mpr
        (safe.accesses member other access inUse)
    · rw [Function.update_of_ne own] at inUse ⊢
      exact safe.accesses member other access inUse

/-- Opening or closing a file where it may be done keeps the world safe. -/
theorem Safe.use {file : DbFile} {access : Option Access} (safe : Safe world phases)
    (may : ∀ mode, access = some mode → (phases process).MayOpen file mode) :
    Safe (world.setOpened process file access)
      (Function.update phases process ((phases process).use file access)) := by
  have positions (member : Process) : (Function.update phases process
      ((phases process).use file access) member).positions = (phases member).positions := by
    by_cases own : member = process
    · subst own
      rw [Function.update_self]
      rfl
    · rw [Function.update_of_ne own]
  constructor
  · simp only [positions]
    exact safe.balanced
  · simp only [positions]
    exact safe.counts
  · simp only [positions]
    exact safe.counted
  · intro member
    show Function.update world.opened process _ member = _
    by_cases own : member = process
    · subst own
      rw [Function.update_self, Function.update_self, safe.opened]
      rfl
    · rw [Function.update_of_ne own, Function.update_of_ne own, safe.opened]
  · intro member other mode inUse
    rw [Phase.mayOpen_congr (congrFun (positions member) other)]
    by_cases own : member = process
    · subst own
      rw [Function.update_self] at inUse
      by_cases same : other = file
      · subst same
        change Function.update (phases member).opened other access other = some mode at inUse
        rw [Function.update_self] at inUse
        exact may mode inUse
      · change Function.update (phases member).opened file access other = some mode at inUse
        rw [Function.update_of_ne same] at inUse
        exact safe.accesses member other mode inUse
    · rw [Function.update_of_ne own] at inUse
      exact safe.accesses member other mode inUse

/-- The operations that change the counter. -/
def recounts : LockOp → Bool
  | .enter => true
  | .leave => true
  | _ => false

theorem isCounted_after {position : Position} {op : LockOp} {answer : op.Ret}
    (allows : allowed false position op = true) (same : recounts op = false) :
    (after position op answer).isCounted = position.isCounted := by
  cases op with
  | enter => cases same
  | leave => cases same
  | readers =>
    cases position with
    | counted => rw [after]; split <;> rfl
    | uncounted => rw [after]; split <;> rfl
    | _ => cases allows
  | _ => cases position <;> rfl

/-- An operation that counts nobody keeps the world safe. -/
theorem Safe.move_uncounted {file : DbFile} {op : LockOp} {answer : op.Ret}
    (safe : Safe world phases) (may : (phases process).MayCall file op)
    (same : recounts op = false)
    (called : (world.lock file).exec op = some (answer, next.lock file))
    (elsewhere : ∀ other, other ≠ file → next.lock other = world.lock other)
    (opened : next.opened = world.opened) (counted : next.counted = world.counted) :
    Safe next (Function.update phases process ((phases process).move file op answer)) := by
  refine safe.move may called elsewhere opened ?_
  rw [isCounted_after may.1 same, ← safe.counted, Function.update_eq_self,
    Function.update_eq_self, counted]

/-- A change of a semaphore that counts nobody keeps the world safe. -/
theorem Safe.setValue {semaphore : Semaphore} {file : DbFile} {value : Nat} {op : LockOp}
    {answer : op.Ret} (own : semaphore.file = file) (safe : Safe world phases)
    (may : (phases process).MayCall file op) (same : recounts op = false)
    (called : (world.lock file).exec op =
      some (answer, (world.setValue semaphore value).lock file)) :
    Safe (world.setValue semaphore value)
      (Function.update phases process ((phases process).move file op answer)) :=
  safe.move_uncounted may same called
    (fun _ different => lock_setValue_other world value (own ▸ different)) rfl rfl

theorem isCounted_enter {position : Position} (allows : allowed false position .enter = true) :
    (after position .enter ()).isCounted = true := by
  cases position <;> first | rfl | cases allows

theorem isCounted_leave {position : Position} (allows : allowed false position .leave = true) :
    position.isCounted = true ∧ (after position .leave ()).isCounted = false := by
  cases position <;> first | exact ⟨rfl, rfl⟩ | cases allows

theorem Safe.enter {file : DbFile} (safe : Safe world phases)
    (may : (phases process).MayCall file .enter)
    (called : world.exec process (.semPost (.counter file)) = some ((), next)) :
    Safe next (Function.update phases process ((phases process).move file .enter ())) := by
  obtain ⟨-, rfl⟩ := Prod.mk.inj (Option.some.inj called)
  refine safe.move may ?_ (fun other different => ?_) rfl ?_
  · show _ = some ((), (world.setValue (.counter file) _).lock file)
    rw [lock_setValue_counter]
    rfl
  · have elsewhere : other ≠ (Semaphore.counter file).file := different
    exact lock_setValue_other world _ elsewhere
  · rw [isCounted_enter may.1]
    rfl

theorem Safe.leave {file : DbFile} {answer : Int} (safe : Safe world phases)
    (may : (phases process).MayCall file .leave)
    (called : world.exec process (.semTrywait (.counter file)) = some (answer, next)) :
    Safe next (Function.update phases process ((phases process).move file .leave ())) := by
  obtain ⟨member, gone⟩ := isCounted_leave may.1
  have positive : 0 < (world.values (.counter file) : Int) := (safe.counts file).pos member
  rw [World.exec, if_neg (by omega)] at called
  obtain ⟨-, rfl⟩ := Prod.mk.inj (Option.some.inj called)
  refine safe.move may ?_ (fun other different => ?_) rfl ?_
  · show _ = some ((), (world.setValue (.counter file) _).lock file)
    rw [lock_setValue_counter, Nat.cast_pred (by omega)]
    rfl
  · have elsewhere : other ≠ (Semaphore.counter file).file := different
    exact lock_setValue_other world _ elsewhere
  · rw [gone]
    rfl

/-- Every call of the protocol keeps the world safe. -/
theorem Safe.exec {op : Op} {answer : op.Ret} (safe : Safe world phases)
    (allows : protocol.allows (phases process) op)
    (called : world.exec process op = some (answer, next)) :
    Safe next (Function.update phases process (protocol.next (phases process) op answer)) := by
  cases op with
  | semWait semaphore =>
    rw [World.exec] at called
    split at called
    · cases called
    · rename_i free
      obtain ⟨rfl, rfl⟩ := Prod.mk.inj (Option.some.inj called)
      cases semaphore with
      | mutex file =>
        refine safe.setValue rfl allows (by rfl) ?_
        rw [lock_setValue_mutex]
        exact if_neg free
      | wrt file =>
        refine safe.setValue rfl allows (by rfl) ?_
        rw [lock_setValue_wrt]
        exact if_neg free
      | counter file => cases allows
  | semPost semaphore =>
    cases semaphore with
    | mutex file =>
      obtain ⟨rfl, rfl⟩ := Prod.mk.inj (Option.some.inj called)
      refine safe.setValue rfl allows (by rfl) ?_
      rw [lock_setValue_mutex]
      rfl
    | wrt file =>
      obtain ⟨rfl, rfl⟩ := Prod.mk.inj (Option.some.inj called)
      refine safe.setValue rfl allows (by rfl) ?_
      rw [lock_setValue_wrt]
      rfl
    | counter file => exact safe.enter allows called
  | semTrywait semaphore =>
    cases semaphore with
    | mutex file => cases allows
    | wrt file => cases allows
    | counter file => exact safe.leave allows called
  | semGetvalue semaphore =>
    cases semaphore with
    | mutex file => cases allows
    | wrt file => cases allows
    | counter file =>
      obtain ⟨rfl, rfl⟩ := Prod.mk.inj (Option.some.inj called)
      exact safe.move_uncounted allows (by rfl) (by rfl) (fun _ _ => rfl) rfl rfl
  | fopen file access =>
    obtain ⟨rfl, rfl⟩ := Prod.mk.inj (Option.some.inj called)
    exact safe.use fun mode same => Option.some.inj same ▸ allows
  | fclose file =>
    obtain ⟨rfl, rfl⟩ := Prod.mk.inj (Option.some.inj called)
    exact safe.use fun mode same => by cases same

/-- A process that writes a file excludes the other processes from it. -/
theorem Safe.exclusive (safe : Safe world phases) {writing other : Process} {file : DbFile}
    (different : other ≠ writing) (writes : world.opened writing file = some .write) :
    world.opened other file = none := by
  rw [safe.opened] at writes ⊢
  have writer : (phases writing).positions file = .writing :=
    safe.accesses writing file .write writes
  have alone : (phases other).positions file ≠ .writing := fun also =>
    different ((safe.balanced file).writer_unique writer also)
  cases use : (phases other).opened file with
  | none => rfl
  | some access =>
    have opens := safe.accesses other file access use
    cases access with
    | write => exact absurd opens alone
    | read =>
      rcases opens with reads | writes
      · exact absurd writer ((safe.balanced file).not_writing (safe.counts file) reads writing)
      · exact absurd writes alone

end Invariant

/-! ### Its runs -/

section Runs

variable {Process : Type} [Fintype Process] [DecidableEq Process]

/-- No process writes a file while another one has it open, and each counter is the number of the
processes that are counted as readers of its file. -/
structure Excludes (world : World Process) : Prop where
  exclusive : ∀ writing other file, other ≠ writing → world.opened writing file = some .write →
    world.opened other file = none
  counters : ∀ file, world.values (.counter file) =
    (Finset.univ.filter fun process => world.counted process file = true).card

/-- The locking is safe in all interleavings of any number of processes with any commands. -/
theorem excludes_of_reaches (com : Process → Com)
    {threads : Threads Process (World Process) Op Op.Ret}
    (reached : (machine com).Reaches (fun _ _ => True) (start com) threads) :
    Excludes threads.shared := by
  have starts : Machine.Follows protocol (fun _ _ _ => True) (fun phase => phase = .home) Safe
      (start com) :=
    ⟨fun _ => .home, safe_initial, fun process => mainLoop_leads (com process)⟩
  obtain ⟨phases, safe, -⟩ := Machine.follows_of_reaches
    (fun _ _ _ _ _ _ _ _ _ safe allows called => ⟨trivial, Safe.exec safe allows called⟩)
    (by
      rintro process body phase again rfl
      exact Option.some.inj again ▸ mainLoop_leads (com process))
    starts reached
  exact ⟨fun _ _ _ different writes => safe.exclusive different writes, safe.counter_eq⟩

/-- A process that views the products, and one that adds a product. -/
def readerAndWriter : Bool → Com
  | false => ⟨"[VIEW_PRODUCTS]".toList, "[BUYER]".toList, false, false⟩
  | true => ⟨"[NEW_PRODUCT]".toList, [], false, false⟩

/-- The reader is through once when the writer opens the file, and it is counted again and about
to wait for the writer then. -/
theorem excludes_of_reaches_readerAndWriter :
    ∃ threads, (machine readerAndWriter).runs (fun _ _ => True)
        (List.replicate 13 false ++ List.replicate 4 true ++ List.replicate 3 false)
        (start readerAndWriter) = some threads ∧
      (threads.shared.opened true .ProductInfo = some .write ∧
        threads.shared.counted false .ProductInfo = true) ∧
      Excludes threads.shared := by
  have ran : ((machine readerAndWriter).runs (fun _ _ => True)
      (List.replicate 13 false ++ List.replicate 4 true ++ List.replicate 3 false)
      (start readerAndWriter)).map (fun threads => (threads.shared.opened true .ProductInfo,
        threads.shared.counted false .ProductInfo)) = some (some .write, true) := by
    decide
  obtain ⟨threads, ran, same⟩ := Option.map_eq_some_iff.mp ran
  exact ⟨threads, ran, Prod.mk.inj same,
    excludes_of_reaches readerAndWriter (Machine.reaches_of_runs ran)⟩

end Runs

end OnlineStore.LockingModel
