/-
This file models the data server as a process: any number of threads, each of which handles the
messages of its client one after the other, over the shared semaphores, reader counters and
files. Every semaphore operation, every change and every reading of a counter, and every reading,
truncation and writing of a file is a step of its own, and every file opens.

Beside the shared values the state keeps records that no handler reads: which message a thread
handles, where it is at the lock of each file, how often it has read a file since it took the
semaphore for writing, and what the last finished write-back of each file has left.

The handlers are checked against a protocol call by call. In its lenient form the protocol is kept
by all of them whatever they load. A lookup that does not find its id leaves its read section
twice, so the strict form is kept by the requests whose lookups find their ids.
-/

import OnlineStore.Handlers
import OnlineStore.Interleaving
import OnlineStore.ReaderWriter

namespace OnlineStore.Concurrency

open CString Cells Prog Interleaving ReaderWriter

/-! ### The threads -/

/-- The calls of a thread. -/
inductive ThreadOp where
  /-- Receives the next message of the client. -/
  | readSocket (message : Text)
  | disk (op : DiskOp)

abbrev ThreadOp.Ret : ThreadOp → Type
  | .readSocket _ => Unit
  | .disk op => op.Ret

abbrev ThreadProg := Prog ThreadOp ThreadOp.Ret

def onThread {Result : Type} (program : DiskProg Result) : ThreadProg Result :=
  program.translate fun op => Prog.perform (ThreadOp.disk op)

/-- A thread handles the messages of its client one after the other. -/
def threadTask (rand : Rand) : List Text → ThreadProg Unit
  | [] => return ()
  | message :: messages => do
    Prog.perform (ThreadOp.readSocket message)
    onThread (onDisk (executeTaskOnServer rand message))
    threadTask rand messages

/-- Which operation on the lock of a file a call is. -/
def lockOp : SysOp → Option (DbFile × LockOp)
  | .semWait (.mutex file) => some (file, .waitMutex)
  | .semWait (.wrt file) => some (file, .waitWrt)
  | .semPost (.mutex file) => some (file, .postMutex)
  | .semPost (.wrt file) => some (file, .postWrt)
  | .count file change => some (file, if 0 < change then .enter else .leave)
  | .counter file => some (file, .readers)
  | _ => none

/-- The value of the counter that a call answers, for the call that answers one. -/
def counterOf : (op : SysOp) → op.Ret → Int
  | .counter _, readers => readers
  | _, _ => 0

/-- The answer of an operation on a lock. -/
def lockAnswer : (op : LockOp) → Int → op.Ret
  | .readers, readers => readers
  | .waitMutex, _ => ()
  | .postMutex, _ => ()
  | .waitWrt, _ => ()
  | .postWrt, _ => ()
  | .enter, _ => ()
  | .leave, _ => ()

section System

variable {Thread : Type} [DecidableEq Thread]

/-- The shared values, the replies, and the records. -/
structure Process (Thread : Type) where
  files : DbFile → Text
  semaphores : Semaphore → Nat
  readerCounters : DbFile → Int
  deletedProducts : List Int32
  /-- How often the clock was read. -/
  clockReads : Nat
  replies : Thread → List Text
  /-- The message that a thread handles. -/
  received : Thread → Text
  /-- Where a thread is at the lock of a file. -/
  positions : Thread → DbFile → Position
  /-- How often a thread has read a file since it waited for its semaphore for writing. -/
  reads : Thread → DbFile → Nat
  /-- What the last finished write-back of a file has left. -/
  saved : DbFile → Text
  /-- Whether a file has been truncated and not been written since. -/
  truncated : DbFile → Bool
  /-- How often something else has been read than what the last finished write-back has left. -/
  tornReads : Nat

namespace Process

def setSemaphore (process : Process Thread) (semaphore : Semaphore) (value : Nat) :
    Process Thread :=
  { process with semaphores := Function.update process.semaphores semaphore value }

def addReaders (process : Process Thread) (file : DbFile) (change : Int) : Process Thread :=
  { process with
    readerCounters :=
      Function.update process.readerCounters file (process.readerCounters file + change) }

def setReads (process : Process Thread) (thread : Thread) (file : DbFile) (count : Nat) :
    Process Thread :=
  { process with
    reads := Function.update process.reads thread
      (Function.update (process.reads thread) file count) }

def read (process : Process Thread) (thread : Thread) (file : DbFile) : Process Thread :=
  { process.setReads thread file (process.reads thread file + 1) with
    tornReads := process.tornReads + if process.files file = process.saved file then 0 else 1 }

def truncate (process : Process Thread) (file : DbFile) : Process Thread :=
  { process with
    files := Function.update process.files file []
    truncated := Function.update process.truncated file true }

def write (process : Process Thread) (file : DbFile) (text : Text) : Process Thread :=
  { process with
    files := Function.update process.files file text
    saved := Function.update process.saved file text
    truncated := Function.update process.truncated file false }

/-- Records where a call on the lock of a file has brought a thread. -/
def record (process : Process Thread) (thread : Thread) (op : SysOp) (answer : op.Ret) :
    Process Thread :=
  match lockOp op with
  | some (file, lockOp) =>
    { process with
      positions := Function.update process.positions thread
        (Function.update (process.positions thread) file
          (after (process.positions thread file) lockOp (lockAnswer lockOp (counterOf op answer)))) }
  | none => process

/-- The calls that touch no file. -/
def sysExec (clock : Nat → Nat) (thread : Thread) (process : Process Thread) :
    (op : SysOp) → Option (op.Ret × Process Thread)
  | .semWait semaphore =>
    if process.semaphores semaphore = 0 then none
    else some ((), process.setSemaphore semaphore (process.semaphores semaphore - 1))
  | .semPost semaphore =>
    some ((), process.setSemaphore semaphore (process.semaphores semaphore + 1))
  | .count file change => some ((), process.addReaders file change)
  | .counter file => some (process.readerCounters file, process)
  | .writeSocket text =>
    some ((), { process with
      replies := Function.update process.replies thread (process.replies thread ++ [text]) })
  | .time => some (clock process.clockReads, { process with clockReads := process.clockReads + 1 })
  | .delete productID =>
    some ((), { process with deletedProducts := process.deletedProducts ++ [productID] })
  | .crash => none
  | .spin => none

/-- Waiting for a semaphore for writing starts a new count of readings. -/
def startReads (process : Process Thread) (thread : Thread) : SysOp → Process Thread
  | .semWait (.wrt file) => process.setReads thread file 0
  | _ => process

def exec (clock : Nat → Nat) (thread : Thread) (process : Process Thread) :
    (op : ThreadOp) → Option (op.Ret × Process Thread)
  | .readSocket message =>
    some ((), { process with received := Function.update process.received thread message })
  | .disk (.sys op) => (process.sysExec clock thread op).map fun outcome =>
    (outcome.1, (outcome.2.record thread op outcome.1).startReads thread op)
  | .disk (.read file) => some (some (process.files file), process.read thread file)
  | .disk (.truncate file) => some ((), process.truncate file)
  | .disk (.write file text) => some ((), process.write file text)

/-- The server when it has been started on some files. -/
def initial (files : DbFile → Text) : Process Thread where
  files := files
  semaphores _ := 1
  readerCounters _ := 0
  deletedProducts := []
  clockReads := 0
  replies _ := []
  received _ := []
  positions _ _ := .outside
  reads _ _ := 0
  saved := files
  truncated _ := false
  tornReads := 0

/-- The semaphores and the counter of a file. -/
def lock (process : Process Thread) (file : DbFile) : Lock :=
  ⟨process.semaphores (.mutex file), process.semaphores (.wrt file), process.readerCounters file⟩

end Process

abbrev Server (Thread : Type) := Threads Thread (Process Thread) ThreadOp ThreadOp.Ret

/-- The threads end when their clients have sent all messages. -/
def machine (clock : Nat → Nat) : Machine Thread (Process Thread) ThreadOp ThreadOp.Ret where
  exec := Process.exec clock
  again _ := none

def start (rand : Rand) (files : DbFile → Text) (messages : Thread → List Text) : Server Thread where
  shared := Process.initial files
  program thread := threadTask rand (messages thread)

end System

/-! ### The protocol -/

/-- The order in which semaphores for writing are taken. -/
def rank : DbFile → Nat
  | .CustomerInfo => 0
  | .SellerInfo => 1
  | .ProductInfo => 2
  | .BillingInfo => 3
  | .CustomerOrder => 4

/-- Counters change by one. -/
def changesByOne : SysOp → Prop
  | .count _ change => change = 1 ∨ change = -1
  | _ => True

/-- What a handler is doing: it is somewhere at the lock of one file as a reader, or it holds some
semaphores for writing and has read the listed files since it took theirs. -/
inductive Phase where
  | reader (file : DbFile) (position : Position)
  | writer (held reads : List DbFile)

namespace Phase

/-- Outside of all locks. -/
def home : Phase := .writer [] []

def positions : Phase → DbFile → Position
  | .reader file position, other => if other = file then position else .outside
  | .writer held _, other => if other ∈ held then .writing else .outside

/-- Whether an operation on the lock of a file may come next. -/
def MayCall (lenient : Bool) : Phase → DbFile → LockOp → Prop
  | .reader file position, other, op => other = file ∧ allowed lenient position op = true
  | .writer held _, _, .waitMutex => held = []
  | .writer held _, file, .waitWrt => ∀ other ∈ held, rank other < rank file
  | .writer held _, file, .postWrt => file ∈ held
  | .writer _ _, _, _ => False

/-- A reader that has left is home. -/
def readerAt (file : DbFile) (position : Position) : Phase :=
  if position = .outside then .home else .reader file position

def move : Phase → DbFile → (op : LockOp) → op.Ret → Phase
  | .reader file position, _, op, answer => .readerAt file (after position op answer)
  | .writer _ _, file, .waitMutex, _ => .reader file .locked
  | .writer held reads, file, .waitWrt, _ =>
    .writer (file :: held) (reads.filter fun other => other ≠ file)
  | .writer held reads, file, .postWrt, _ =>
    .writer (held.filter fun other => other ≠ file) (reads.filter fun other => other ≠ file)
  | phase, _, _, _ => phase

def sysNext (phase : Phase) (op : SysOp) (answer : op.Ret) : Phase :=
  match lockOp op with
  | some (file, lockOp) => phase.move file lockOp (lockAnswer lockOp (counterOf op answer))
  | none => phase

def SysMayCall (lenient : Bool) (phase : Phase) (op : SysOp) : Prop :=
  changesByOne op ∧
    ∀ file lockOp', lockOp op = some (file, lockOp') → phase.MayCall lenient file lockOp'

/-- A writer has read a file. -/
def read : Phase → DbFile → Phase
  | .reader file position, _ => .reader file position
  | .writer held reads, file => .writer held (if file ∈ held then file :: reads else reads)

/-- A file is written in a section of its semaphore, after it has been read there as often. -/
def MayWrite : Phase → DbFile → Nat → Prop
  | .reader _ _, _, _ => False
  | .writer held reads, file, times => file ∈ held ∧ times ≤ reads.count file

end Phase

/-- The protocol of the handlers. A write-back function reads the file once more. -/
def tableProtocol (lenient : Bool) : Protocol TableOp TableOp.Ret Phase where
  allows
    | phase, .sys op => phase.SysMayCall lenient op
    | _, .load _ => True
    | phase, .writeBack file _ => phase.MayWrite file 1
  next
    | phase, .sys op, answer => phase.sysNext op answer
    | phase, .load file, _ => phase.read file
    | phase, .writeBack file _, _ => phase.read file

/-- The protocol of the disk level. -/
def diskProtocol (lenient : Bool) : Protocol DiskOp DiskOp.Ret Phase where
  allows
    | phase, .sys op => phase.SysMayCall lenient op
    | _, .read _ => True
    | phase, .truncate file => phase.MayWrite file 2
    | phase, .write file _ => phase.MayWrite file 2
  next
    | phase, .sys op, answer => phase.sysNext op answer
    | phase, .read file, _ => phase.read file
    | phase, .truncate _, _ => phase
    | phase, .write _ _, _ => phase

/-- The protocol of a thread, whose phase includes the message that it handles. -/
def threadProtocol (lenient : Bool) : Protocol ThreadOp ThreadOp.Ret (Text × Phase) where
  allows
    | (_, phase), .readSocket _ => phase = .home
    | (_, phase), .disk op => (diskProtocol lenient).allows phase op
  next
    | (_, phase), .readSocket message, _ => (message, phase)
    | (message, phase), .disk op, answer => (message, (diskProtocol lenient).next phase op answer)

/-! ### What is loaded -/

/-- The text that the handler of a command passes to `validateID`. -/
def toValidate (buffer : Text) : Command → Option Text
  | .validateID => some buffer
  | .deleteProd => (tokens buffer)[1]?.bind productIdToValidate
  | .modQuant => (tokens buffer)[1]?.bind productIdToValidate
  | .modPrice => (tokens buffer)[1]?.bind productIdToValidate
  | _ => none

/-- The id that the handling of a message looks up, and where. -/
def lookup (message : Text) : Option (DbFile × Int32) := do
  let (command, buffer) ← extractCommand message
  let command ← commandOf command
  let (file, idToValidate) ← validateIDTarget (← toValidate buffer command)
  return (← file, idToValidate)

/-- Files open, and where the protocol is strict the table that a message's lookup loads holds
the id. -/
def tableAnswers (lenient : Bool) (message : Text) : Phase → (op : TableOp) → op.Ret → Prop
  | phase, .load file, loaded => ∃ table, loaded = some table ∧
    (lenient = false → phase.positions file = .reading → ∀ idToValidate,
      lookup message = some (file, idToValidate) → file.holdsID idToValidate table = true)
  | _, _, _ => True

/-- Whether the lookup of a message finds its id in the text of a file, if it looks there. -/
def lookupFinds (message : Text) (file : DbFile) (text : Text) : Bool :=
  match lookup message, file.load text with
  | some (asked, idToValidate), some table =>
    decide (asked ≠ file) || file.holdsID idToValidate table
  | _, _ => true

def diskAnswers (lenient : Bool) (message : Text) : Phase → (op : DiskOp) → op.Ret → Prop
  | phase, .read file, read => ∃ text, read = some text ∧
    (lenient = false → phase.positions file = .reading → lookupFinds message file text = true)
  | _, _, _ => True

def threadAnswers (lenient : Bool) : Text × Phase → (op : ThreadOp) → op.Ret → Prop
  | (message, phase), .disk op, answer => diskAnswers lenient message phase op answer
  | _, _, _ => True

/-- From a phase the handler follows the protocol and ends in another phase. -/
abbrev Leads (lenient : Bool) (message : Text) {Result : Type} (phase last : Phase)
    (handler : Handler Result) : Prop :=
  Obeys (tableProtocol lenient) (tableAnswers lenient message) (fun _ phase => phase = last) phase
    handler

section Rules

variable {lenient : Bool} {message : Text} {Result Outcome : Type} {phase middle last : Phase}

theorem Leads.bind {handler : Handler Result} {next : Result → Handler Outcome}
    (first : Leads lenient message phase middle handler)
    (second : ∀ result, Leads lenient message middle last (next result)) :
    Leads lenient message phase last (handler >>= next) := by
  refine Obeys.bind first ?_
  rintro result _ rfl
  exact second result

theorem leads_pure {result : Result} : Leads lenient message phase phase (.pure result) := rfl

/-- A call that is none on a lock may come at any time. -/
theorem sysMayCall_free {op : SysOp} (free : lockOp op = none) :
    phase.SysMayCall lenient op := by
  refine ⟨?_, ?_⟩
  · cases op with
    | count file change => cases free
    | _ => exact trivial
  · intro file lockOp' same
    rw [free] at same
    cases same

theorem leads_free {op : SysOp} (free : lockOp op = none) :
    Leads lenient message phase phase (sys op) := by
  refine obeys_call.mpr ⟨sysMayCall_free free, fun answer _ => ?_⟩
  show phase.sysNext op answer = phase
  rw [Phase.sysNext, free]

theorem leads_crash : Leads lenient message phase last (crash : Handler Result) :=
  obeys_call.mpr ⟨sysMayCall_free rfl, fun answer => answer.elim⟩

theorem leads_spin : Leads lenient message phase last (spin : Handler Result) :=
  obeys_call.mpr ⟨sysMayCall_free rfl, fun answer => answer.elim⟩

theorem leads_orCrash {value : Option Result} :
    Leads lenient message phase phase (orCrash value) := by
  cases value with
  | none => exact leads_crash
  | some value => exact leads_pure

theorem leads_orCrash_bind {value : Option Result} {next : Result → Handler Outcome}
    (follows : ∀ result, value = some result → Leads lenient message phase last (next result)) :
    Leads lenient message phase last (orCrash value >>= next) := by
  cases value with
  | none => exact obeys_call.mpr ⟨sysMayCall_free rfl, fun answer => answer.elim⟩
  | some result => exact follows result rfl

theorem leads_writeSocket {text : Text} : Leads lenient message phase phase (writeSocket text) :=
  leads_free rfl

theorem leads_generateUID {rand : Rand} : Leads lenient message phase phase (generateUID rand) :=
  leads_free rfl

theorem leads_loadTable (file : DbFile) :
    Leads lenient message phase (phase.read file) (loadTable file) :=
  obeys_call.mpr ⟨trivial, fun _ _ => rfl⟩

theorem leads_writeBack {held reads : List DbFile} (file : DbFile) {table : List file.Row}
    (member : file ∈ held) (read : 1 ≤ reads.count file) :
    Leads lenient message (.writer held reads) ((Phase.writer held reads).read file)
      (writeBack file table) :=
  obeys_call.mpr ⟨⟨member, read⟩, fun _ _ => rfl⟩

/-! ### Readers and writers -/

/-- An operation on the lock of a file. -/
theorem sysMayCall_lock {op : SysOp} {file : DbFile} {lockOp' : LockOp}
    (isLock : lockOp op = some (file, lockOp')) (may : phase.MayCall lenient file lockOp')
    (unit : changesByOne op) : phase.SysMayCall lenient op := by
  refine ⟨unit, ?_⟩
  intro file' lockOp'' same
  obtain ⟨rfl, rfl⟩ := Prod.mk.inj (Option.some.inj (isLock.symm.trans same))
  exact may

theorem leads_waitWrt {held reads : List DbFile} (file : DbFile)
    (order : ∀ other ∈ held, rank other < rank file) :
    Leads lenient message (.writer held reads)
      (.writer (file :: held) (reads.filter fun other => other ≠ file)) (semWait (.wrt file)) :=
  obeys_call.mpr ⟨sysMayCall_lock rfl order trivial, fun _ _ => rfl⟩

theorem leads_postWrt {held reads : List DbFile} (file : DbFile) (member : file ∈ held) :
    Leads lenient message (.writer held reads)
      (.writer (held.filter fun other => other ≠ file) (reads.filter fun other => other ≠ file))
      (semPost (.wrt file)) :=
  obeys_call.mpr ⟨sysMayCall_lock rfl member trivial, fun _ _ => rfl⟩

/-- The end of a writer that holds one semaphore. -/
theorem leads_writeBack_postWrt (file : DbFile) {table : List file.Row} :
    Leads lenient message (.writer [file] [file]) .home (do
      writeBack file table
      semPost (.wrt file)) := by
  refine (leads_writeBack file (List.mem_singleton.mpr rfl) (by simp)).bind fun _ => ?_
  cases file <;> exact leads_postWrt _ (by decide)

theorem leads_readerEntry (file : DbFile) :
    Leads lenient message .home (.reader file .reading) (readerEntry file) := by
  refine obeys_call.mpr ⟨sysMayCall_lock rfl rfl trivial, fun _ _ => ?_⟩
  refine obeys_call.mpr ⟨sysMayCall_lock rfl ⟨rfl, rfl⟩ (.inl rfl),
    fun _ _ => ?_⟩
  refine obeys_call.mpr ⟨sysMayCall_lock rfl ⟨rfl, rfl⟩ trivial, fun (readers : Int) _ => ?_⟩
  have postMutex : Leads lenient message (.reader file .entered) (.reader file .reading)
      (semPost (.mutex file)) :=
    obeys_call.mpr ⟨sysMayCall_lock rfl ⟨rfl, rfl⟩ trivial, fun _ _ => rfl⟩
  show Leads lenient message
    (Phase.readerAt file (if readers = 1 then Position.mustWait else Position.entered)) _
    (if readers = 1 then semWait (.wrt file) >>= fun _ => semPost (.mutex file)
      else semPost (.mutex file))
  by_cases one : readers = 1
  · rw [if_pos one, if_pos one]
    exact obeys_call.mpr ⟨sysMayCall_lock rfl ⟨rfl, rfl⟩ trivial, fun _ _ => postMutex⟩
  · rw [if_neg one, if_neg one]
    exact postMutex

/-- The rest of an exit section. -/
theorem leads_readerExit_counted {file : DbFile} {position : Position}
    (may : allowed lenient position .leave = true) (goes : after position .leave () = .uncounted) :
    Leads lenient message (.reader file position) .home (do
      sys (.count file (-1))
      let readers : Int ← sys (.counter file)
      if readers = 0 then semPost (.wrt file)
      semPost (.mutex file)) := by
  refine obeys_call.mpr ⟨sysMayCall_lock rfl ⟨rfl, may⟩ (.inr rfl),
    fun _ _ => ?_⟩
  show Leads lenient message (Phase.readerAt file (after position .leave ())) _ _
  rw [goes]
  refine obeys_call.mpr ⟨sysMayCall_lock rfl ⟨rfl, rfl⟩ trivial, fun (readers : Int) _ => ?_⟩
  have postMutex : Leads lenient message (.reader file .left) .home (semPost (.mutex file)) :=
    obeys_call.mpr ⟨sysMayCall_lock rfl ⟨rfl, rfl⟩ trivial, fun _ _ => rfl⟩
  show Leads lenient message
    (Phase.readerAt file (if readers = 0 then Position.mustPost else Position.left)) _
    (if readers = 0 then semPost (.wrt file) >>= fun _ => semPost (.mutex file)
      else semPost (.mutex file))
  by_cases none : readers = 0
  · rw [if_pos none, if_pos none]
    exact obeys_call.mpr ⟨sysMayCall_lock rfl ⟨rfl, rfl⟩ trivial, fun _ _ => postMutex⟩
  · rw [if_neg none, if_neg none]
    exact postMutex

theorem leads_readerExit (file : DbFile) :
    Leads lenient message (.reader file .reading) .home (readerExit file) :=
  obeys_call.mpr ⟨sysMayCall_lock rfl ⟨rfl, rfl⟩ trivial, fun _ _ =>
    leads_readerExit_counted rfl rfl⟩

/-- An exit section that no entry precedes. -/
theorem leads_readerExit_again (file : DbFile) (admitted : lenient = true) :
    Leads lenient message .home .home (readerExit file) := by
  refine obeys_call.mpr ⟨sysMayCall_lock rfl rfl trivial, fun _ _ => ?_⟩
  exact leads_readerExit_counted admitted rfl

end Rules

/-! ### The handlers -/

section Handlers

variable {lenient : Bool} {message : Text} (rand : Rand) (buffer : Text)

theorem leads_readTable (file : DbFile) {Result : Type} {rest : List file.Row → Handler Result}
    (follows : ∀ table, Leads lenient message .home .home (rest table)) :
    Leads lenient message .home .home (do
      readerEntry file
      let table ← loadTable file
      readerExit file
      rest table) :=
  (leads_readerEntry file).bind fun _ => (leads_loadTable file).bind fun table =>
    (leads_readerExit file).bind fun _ => follows table

/-- A lookup that does not find its id runs the exit section again. -/
theorem leads_validateIDIn {file : DbFile} {idToValidate : Int32}
    (asked : lookup message = some (file, idToValidate)) :
    Leads lenient message .home .home (validateIDIn file idToValidate) := by
  refine (leads_readerEntry file).bind fun _ => ?_
  refine obeys_call.mpr ⟨trivial, ?_⟩
  rintro _ ⟨table, rfl, holds⟩
  refine (leads_readerExit file).bind fun _ => ?_
  by_cases found : file.holdsID idToValidate table = true
  · rw [if_pos found]
    exact leads_pure
  · rw [if_neg found]
    have admitted : lenient = true := by
      by_contra strict
      exact found (holds (Bool.eq_false_iff.mpr strict) (if_pos rfl) idToValidate asked)
    exact (leads_readerExit_again file admitted).bind fun _ => leads_pure

theorem leads_validateID (asked : ∀ file idToValidate,
    validateIDTarget buffer = some (some file, idToValidate) →
      lookup message = some (file, idToValidate)) :
    Leads lenient message .home .home (validateID buffer) := by
  refine leads_orCrash_bind fun target same => ?_
  obtain ⟨file, idToValidate⟩ := target
  cases file with
  | none => exact leads_pure
  | some file => exact leads_validateIDIn (asked file idToValidate same)

theorem leads_viewProducts : Leads lenient message .home .home (viewProducts buffer) := by
  refine leads_orCrash.bind fun ptr => leads_orCrash.bind fun clientType => ?_
  refine (leads_readerEntry .ProductInfo).bind fun _ => ?_
  refine obeys_call.mpr ⟨trivial, ?_⟩
  rintro _ ⟨table, rfl, -⟩
  exact (leads_readerExit .ProductInfo).bind fun _ => leads_writeSocket

theorem leads_buyerViewsOrder : Leads lenient message .home .home (buyerViewsOrder buffer) :=
  leads_orCrash.bind fun _ => leads_readTable .BillingInfo fun _ => leads_writeSocket

theorem leads_buyerViewsInfo : Leads lenient message .home .home (buyerViewsInfo buffer) :=
  leads_orCrash.bind fun _ => leads_readTable .CustomerInfo fun _ => leads_writeSocket

theorem leads_sellerViewsOrders : Leads lenient message .home .home (sellerViewsOrders buffer) :=
  leads_orCrash.bind fun _ => leads_readTable .ProductInfo fun _ =>
    leads_readTable .CustomerOrder fun _ => leads_writeSocket

theorem leads_readOrderDetails : Leads lenient message .home .home (readOrderDetails buffer) :=
  leads_orCrash.bind fun _ => leads_readTable .CustomerOrder fun _ =>
    leads_readTable .ProductInfo fun _ => leads_writeSocket

theorem leads_validateOrderIsBuyers :
    Leads lenient message .home .home (validateOrderIsBuyers buffer) := by
  refine leads_orCrash.bind fun _ => leads_orCrash.bind fun _ =>
    leads_readTable .BillingInfo fun billingInfo => ?_
  dsimp only
  split_ifs
  · exact leads_pure
  · exact leads_pure
  · exact leads_spin

theorem leads_writeNewClientData :
    Leads lenient message .home .home (writeNewClientData rand buffer) := by
  refine leads_orCrash.bind fun decoded => leads_generateUID.bind fun uuid => ?_
  obtain ⟨clientType, data⟩ := decoded
  cases clientType with
  | buyer =>
    exact (leads_waitWrt .CustomerInfo (by decide)).bind fun _ =>
      (leads_loadTable .CustomerInfo).bind fun _ => leads_orCrash.bind fun _ =>
        leads_writeSocket.bind fun _ =>
          leads_writeBack_postWrt .CustomerInfo
  | seller =>
    exact (leads_waitWrt .SellerInfo (by decide)).bind fun _ =>
      (leads_loadTable .SellerInfo).bind fun _ => leads_orCrash.bind fun _ =>
        leads_writeSocket.bind fun _ =>
          leads_writeBack_postWrt .SellerInfo

theorem leads_addNewProduct : Leads lenient message .home .home (addNewProduct rand buffer) :=
  (leads_waitWrt .ProductInfo (by decide)).bind fun _ =>
    (leads_loadTable .ProductInfo).bind fun _ => leads_generateUID.bind fun _ =>
      leads_orCrash.bind fun _ =>
        (leads_writeBack_postWrt .ProductInfo).bind fun _ => leads_writeSocket

/-- The id in a text that is validated is the one that the message looks up. -/
def AsksFor (message : Text) (validated : Option Text) : Prop :=
  ∀ text, validated = some text → ∀ file idToValidate,
    validateIDTarget text = some (some file, idToValidate) →
      lookup message = some (file, idToValidate)

variable {buffer} in
theorem leads_deleteProduct
    (asked : AsksFor message ((tokens buffer)[1]?.bind productIdToValidate)) :
    Leads lenient message .home .home (deleteProduct buffer) := by
  refine leads_orCrash.bind fun sellerID => leads_orCrash_bind fun ptr found =>
    leads_orCrash_bind fun text copied => ?_
  have asks : (tokens buffer)[1]?.bind productIdToValidate = some text := by
    rw [found]
    exact copied
  refine (leads_validateID text (asked text asks)).bind fun valid => ?_
  split
  · refine (leads_waitWrt .ProductInfo (by decide)).bind fun _ =>
      (leads_loadTable .ProductInfo).bind fun pList => ?_
    split_ifs
    · exact leads_writeSocket.bind fun _ =>
        (leads_writeBack_postWrt .ProductInfo).bind fun _ => leads_writeSocket
    · exact (leads_free rfl).bind fun _ =>
        (leads_writeBack_postWrt .ProductInfo).bind fun _ => leads_writeSocket
  · exact leads_writeSocket

variable {buffer} in
theorem leads_modifyProduct (modify : Int32 → CsvProductInfo → CsvProductInfo)
    (asked : AsksFor message ((tokens buffer)[1]?.bind productIdToValidate)) :
    Leads lenient message .home .home (modifyProduct modify buffer) := by
  refine leads_orCrash.bind fun sellerID => leads_orCrash_bind fun ptr found =>
    leads_orCrash_bind fun text copied => leads_orCrash.bind fun value => ?_
  have asks : (tokens buffer)[1]?.bind productIdToValidate = some text := by
    rw [found]
    exact copied
  refine (leads_validateID text (asked text asks)).bind fun valid => ?_
  split
  · refine (leads_waitWrt .ProductInfo (by decide)).bind fun _ =>
      (leads_loadTable .ProductInfo).bind fun pList => ?_
    dsimp only
    split_ifs
    · exact leads_writeSocket.bind fun _ =>
        (leads_writeBack_postWrt .ProductInfo).bind fun _ => leads_writeSocket
    · exact (leads_writeBack_postWrt .ProductInfo).bind fun _ => leads_writeSocket
  · exact leads_writeSocket

theorem leads_completeAnOrder : Leads lenient message .home .home (completeAnOrder rand buffer) := by
  refine leads_orCrash.bind fun decoded => leads_orCrash.bind fun orderList => ?_
  refine (leads_waitWrt .ProductInfo (by decide)).bind fun _ =>
    (leads_waitWrt .BillingInfo (by decide)).bind fun _ =>
      (leads_waitWrt .CustomerOrder (by decide)).bind fun _ =>
        (leads_loadTable .ProductInfo).bind fun productList => ?_
  split_ifs
  · refine (leads_loadTable .CustomerInfo).bind fun buyerList =>
      (leads_loadTable .BillingInfo).bind fun billingInfo =>
        (leads_loadTable .CustomerOrder).bind fun customerOrderInfo =>
          leads_orCrash.bind fun buyerRecordRow => ?_
    refine (leads_orCrash.bind fun _ =>
      leads_writeBack .ProductInfo (by decide) (by decide)).bind fun _ => ?_
    refine (leads_generateUID.bind fun _ =>
      (leads_writeBack .BillingInfo (by decide) (by decide)).bind fun _ => leads_pure).bind
        fun orderID => ?_
    exact (leads_writeBack .CustomerOrder (by decide) (by decide)).bind fun _ =>
      leads_writeSocket.bind fun _ => (leads_postWrt .ProductInfo (by decide)).bind fun _ =>
        (leads_postWrt .BillingInfo (by decide)).bind fun _ =>
          leads_postWrt .CustomerOrder (by decide)
  · exact leads_writeSocket.bind fun _ => (leads_postWrt .ProductInfo (by decide)).bind fun _ =>
      (leads_postWrt .BillingInfo (by decide)).bind fun _ =>
        leads_postWrt .CustomerOrder (by decide)

theorem leads_buyerModifiesOrder :
    Leads lenient message .home .home (buyerModifiesOrder buffer) := by
  refine leads_orCrash.bind fun orderID => leads_orCrash.bind fun productIDtoReturn => ?_
  refine (leads_waitWrt .BillingInfo (by decide)).bind fun _ =>
    (leads_waitWrt .CustomerOrder (by decide)).bind fun _ =>
      (leads_loadTable .CustomerOrder).bind fun customerOrderInfo =>
        (leads_loadTable .BillingInfo).bind fun billingInfo => ?_
  exact leads_orCrash.bind fun _ =>
    (leads_writeBack .CustomerOrder (by decide) (by decide)).bind fun _ =>
      leads_orCrash.bind fun _ =>
        (leads_writeBack .BillingInfo (by decide) (by decide)).bind fun _ =>
          (leads_postWrt .BillingInfo (by decide)).bind fun _ =>
            leads_postWrt .CustomerOrder (by decide)

theorem leads_editClient (clientType : ClientType) (edit : CsvClientInfo → Option CsvClientInfo)
    (id : Int32) : Leads lenient message .home .home (editClient clientType edit id) := by
  cases clientType with
  | buyer =>
    exact (leads_waitWrt .CustomerInfo (by decide)).bind fun _ =>
      (leads_loadTable .CustomerInfo).bind fun _ => leads_orCrash.bind fun _ =>
        leads_orCrash.bind fun _ =>
          leads_writeBack_postWrt .CustomerInfo
  | seller =>
    exact (leads_waitWrt .SellerInfo (by decide)).bind fun _ =>
      (leads_loadTable .SellerInfo).bind fun _ => leads_orCrash.bind fun _ =>
        leads_orCrash.bind fun _ =>
          leads_writeBack_postWrt .SellerInfo

theorem leads_editBuyer {Data : Type} (extract : Option Data)
    (editClientRow : Data → CsvClientInfo → CsvClientInfo)
    (editBillingRow : Data → CsvBillingInfo → CsvBillingInfo)
    (editOrderRow : Data → CsvCustomerOrderInfo → CsvCustomerOrderInfo) (id : Int32) :
    Leads lenient message .home .home
      (editBuyer extract editClientRow editBillingRow editOrderRow id) := by
  refine (leads_waitWrt .CustomerInfo (by decide)).bind fun _ =>
    (leads_waitWrt .BillingInfo (by decide)).bind fun _ =>
      (leads_waitWrt .CustomerOrder (by decide)).bind fun _ => ?_
  refine (leads_loadTable .CustomerInfo).bind fun _ => leads_orCrash.bind fun _ =>
    leads_orCrash.bind fun _ =>
      (leads_writeBack .CustomerInfo (by decide) (by decide)).bind fun _ => ?_
  refine (leads_loadTable .BillingInfo).bind fun _ =>
    (leads_writeBack .BillingInfo (by decide) (by decide)).bind fun _ => ?_
  refine (leads_loadTable .CustomerOrder).bind fun _ =>
    (leads_writeBack .CustomerOrder (by decide) (by decide)).bind fun _ => ?_
  exact (leads_postWrt .CustomerInfo (by decide)).bind fun _ =>
    (leads_postWrt .BillingInfo (by decide)).bind fun _ =>
      leads_postWrt .CustomerOrder (by decide)

theorem leads_editBranch (clientType : ClientType) (subCommand : Text) (rest : List Text)
    (clientID : Int32) :
    Leads lenient message .home .home (editBranch clientType subCommand rest clientID) := by
  cases clientType with
  | buyer =>
    rw [editBranch]
    split_ifs
    · exact leads_editBuyer _ _ _ _ clientID
    · exact leads_editClient .buyer _ clientID
    · exact leads_editBuyer _ _ _ _ clientID
    · exact leads_pure
  | seller =>
    rw [editBranch]
    split_ifs
    · exact leads_editClient .seller _ clientID
    · exact leads_editClient .seller _ clientID
    · exact leads_editClient .seller _ clientID
    · exact leads_pure

theorem leads_clientEditsInfo : Leads lenient message .home .home (clientEditsInfo buffer) := by
  rw [clientEditsInfo]
  split
  · exact leads_orCrash.bind fun _ => leads_orCrash.bind fun _ =>
      (leads_editBranch _ _ _ _).bind fun _ => leads_writeSocket
  · exact leads_crash

variable {buffer} in
theorem leads_execute {command : Command} (asked : AsksFor message (toValidate buffer command)) :
    Leads lenient message .home .home (command.execute rand buffer) := by
  cases command with
  | newClient => exact leads_writeNewClientData rand buffer
  | validateID =>
    exact (leads_validateID buffer (asked buffer rfl)).bind fun _ => leads_writeSocket
  | viewProducts => exact leads_viewProducts buffer
  | completeOrder => exact leads_completeAnOrder rand buffer
  | viewBuyerOrders => exact leads_buyerViewsOrder buffer
  | checkBuyer => exact (leads_validateOrderIsBuyers buffer).bind fun _ => leads_writeSocket
  | orderDetails => exact leads_readOrderDetails buffer
  | modOrder => exact leads_buyerModifiesOrder buffer
  | viewBilling => exact leads_buyerViewsInfo buffer
  | editInfo => exact leads_clientEditsInfo buffer
  | newProduct => exact leads_addNewProduct rand buffer
  | deleteProd => exact leads_deleteProduct asked
  | modQuant =>
    rw [Command.execute, modifyQuantity]
    exact leads_modifyProduct _ asked
  | modPrice =>
    rw [Command.execute, modifyPrice]
    exact leads_modifyProduct _ asked
  | sellerOrders => exact leads_sellerViewsOrders buffer

/-- The handling of every message follows the protocol. -/
theorem leads_executeTaskOnServer :
    Leads lenient message .home .home (executeTaskOnServer rand message) := by
  refine leads_orCrash_bind fun extracted same => ?_
  obtain ⟨command, buffer⟩ := extracted
  cases known : commandOf command with
  | none =>
    simp only [known]
    exact leads_pure
  | some command =>
    simp only [known]
    refine leads_execute rand fun text asks file idToValidate target => ?_
    simp only [lookup, same, known, asks, target, Option.bind_eq_bind, Option.bind_some]
    rfl

end Handlers

/-! ### The levels below -/

section Levels

variable {lenient : Bool} {message : Text} {Result : Type} {phase last : Phase}

/-- A handler on the disk follows the protocol of the disk level. -/
theorem obeys_onDisk {handler : Handler Result}
    (leads : Leads lenient message phase last handler) :
    Obeys (diskProtocol lenient) (diskAnswers lenient message) (fun _ phase => phase = last) phase
      (onDisk handler) := by
  refine Obeys.translate Eq ?_ (fun _ _ _ same ends => same ▸ ends) rfl leads
  rintro phase _ op rfl allows
  cases op with
  | sys op => exact obeys_call.mpr ⟨allows, fun _ _ => ⟨trivial, rfl⟩⟩
  | load file =>
    refine obeys_call.mpr ⟨trivial, ?_⟩
    rintro _ ⟨text, rfl, holds⟩
    cases loads : file.load text with
    | none =>
      simp only [loads]
      exact obeys_call.mpr ⟨sysMayCall_free rfl, fun answer => answer.elim⟩
    | some table =>
      simp only [loads]
      refine ⟨⟨table, rfl, fun strict reading idToValidate asked => ?_⟩, rfl⟩
      have finds := holds strict reading
      rw [lookupFinds, asked, loads] at finds
      exact (Bool.or_eq_true _ _ ▸ finds).resolve_left fun elsewhere =>
        of_decide_eq_true elsewhere rfl
  | writeBack file table =>
    refine obeys_call.mpr ⟨trivial, ?_⟩
    rintro _ ⟨text, rfl, -⟩
    have twice : (phase.read file).MayWrite file 2 := by
      cases phase with
      | reader own position => exact allows
      | writer held reads =>
        obtain ⟨member, once⟩ := allows
        refine ⟨member, ?_⟩
        rw [if_pos member, List.count_cons_self]
        exact Nat.succ_le_succ once
    exact obeys_call.mpr ⟨twice, fun _ _ => obeys_call.mpr ⟨twice, fun _ _ => ⟨trivial, rfl⟩⟩⟩

theorem obeys_onThread {program : DiskProg Result}
    (obeys : Obeys (diskProtocol lenient) (diskAnswers lenient message)
      (fun _ phase => phase = last) phase program) :
    Obeys (threadProtocol lenient) (threadAnswers lenient)
      (fun _ place => place = (message, last)) (message, phase) (onThread program) := by
  refine Obeys.translate (fun phase place => place = (message, phase)) ?_
    (fun _ _ _ same ends => ends ▸ same) rfl obeys
  rintro phase _ op rfl allows
  exact obeys_call.mpr ⟨allows, fun _ admitted => ⟨admitted, rfl⟩⟩

/-- The tasks of the threads follow the protocol. -/
theorem obeys_threadTask (rand : Rand) (messages : List Text) :
    Obeys (threadProtocol lenient) (threadAnswers lenient)
      (fun _ place => place.2 = .home) (message, .home) (threadTask rand messages) := by
  induction messages generalizing message with
  | nil => rfl
  | cons next messages inductionHypothesis =>
    refine obeys_call.mpr ⟨rfl, fun _ _ => ?_⟩
    show Obeys _ _ _ (next, Phase.home) (onThread (onDisk (executeTaskOnServer rand next)) >>=
      fun _ => threadTask rand messages)
    refine Obeys.bind (obeys_onThread (obeys_onDisk (leads_executeTaskOnServer rand))) ?_
    rintro _ _ rfl
    exact inductionHypothesis

end Levels

end OnlineStore.Concurrency
