/-
This file gives the two instruction sets of the data server. The handlers are written over
tables: they load a whole table and hand a whole table to a write-back function. The disk level
below them reads a file, truncates it and writes it, and `compile` is the body of the loaders
and of the write-back functions on it.

Both levels share the calls that do not touch a file: the semaphores, the reader counters, the
socket, the clock and the list of deleted products. A failed computation of the handler, such as
a null pointer passed to `strcpy`, is the call `crash`, and a loop that never ends is `spin`.
Neither has an answer.
-/

import OnlineStore.Prog
import OnlineStore.Database

namespace OnlineStore

open CString

/-- The semaphores: for each file one that guards writing and one that guards the counter of its
readers. All of them start at one. -/
inductive Semaphore where
  | wrt (file : DbFile)
  | mutex (file : DbFile)
  deriving DecidableEq

/-- The calls that touch no file. -/
inductive SysOp where
  | semWait (semaphore : Semaphore)
  | semPost (semaphore : Semaphore)
  /-- Adds to the reader counter of a file. -/
  | count (file : DbFile) (change : Int)
  /-- Reads the reader counter of a file. -/
  | counter (file : DbFile)
  | writeSocket (text : Text)
  | time
  /-- Stores an id at the end of `deletedProducts`. -/
  | delete (productID : Int32)
  | crash
  | spin

abbrev SysOp.Ret : SysOp → Type
  | .counter _ => Int
  | .time => Nat
  | .crash => Empty
  | .spin => Empty
  | _ => Unit

/-- The calls of the handlers. -/
inductive TableOp where
  | sys (op : SysOp)
  | load (file : DbFile)
  | writeBack (file : DbFile) (table : List file.Row)

/-- A loader answers nothing when its file does not open. -/
abbrev TableOp.Ret : TableOp → Type
  | .sys op => op.Ret
  | .load file => Option (List file.Row)
  | .writeBack _ _ => Unit

/-- The calls of the disk level. -/
inductive DiskOp where
  | sys (op : SysOp)
  /-- Opens a file for reading and reads it to its end. -/
  | read (file : DbFile)
  /-- Opens a file with mode `"w+"`. -/
  | truncate (file : DbFile)
  /-- Prints a text into the opened file and closes it. -/
  | write (file : DbFile) (text : Text)

abbrev DiskOp.Ret : DiskOp → Type
  | .sys op => op.Ret
  | .read _ => Option Text
  | .truncate _ => Unit
  | .write _ _ => Unit

abbrev Handler := Prog TableOp TableOp.Ret

abbrev DiskProg := Prog DiskOp DiskOp.Ret

/-! ### Calls of the handlers -/

/-- A call that touches no file. -/
def sys (op : SysOp) : Handler op.Ret := Prog.perform (TableOp.sys op)

def semWait (semaphore : Semaphore) : Handler Unit := sys (.semWait semaphore)

def semPost (semaphore : Semaphore) : Handler Unit := sys (.semPost semaphore)

def writeSocket (text : Text) : Handler Unit := sys (.writeSocket text)

def crash {Result : Type} : Handler Result := .call (.sys .crash) Empty.elim

def spin {Result : Type} : Handler Result := .call (.sys .spin) Empty.elim

/-- Goes on with a value, or crashes where the C code uses one that is not there. -/
def orCrash {Result : Type} : Option Result → Handler Result
  | some value => .pure value
  | none => crash

def load (file : DbFile) : Handler (Option (List file.Row)) := Prog.perform (TableOp.load file)

/-- The table a loader fills. When the file does not open the table keeps its zeroed cells. -/
def loadTable (file : DbFile) : Handler (List file.Row) := do
  let table ← load file
  return table.getD []

def writeBack (file : DbFile) (table : List file.Row) : Handler Unit :=
  Prog.perform (TableOp.writeBack file table)

/-- The entry section of a reader of a file. -/
def readerEntry (file : DbFile) : Handler Unit := do
  semWait (.mutex file)
  sys (.count file 1)
  let readers : Int ← sys (.counter file)
  if readers = 1 then semWait (.wrt file)
  semPost (.mutex file)

/-- The exit section of a reader of a file. -/
def readerExit (file : DbFile) : Handler Unit := do
  semWait (.mutex file)
  sys (.count file (-1))
  let readers : Int ← sys (.counter file)
  if readers = 0 then semPost (.wrt file)
  semPost (.mutex file)

/-! ### The disk level -/

/-- The loaders and the write-back functions on the disk. A write-back function opens the file
to count its newlines, and only then opens it again to print the table. -/
def compile : (op : TableOp) → DiskProg op.Ret
  | .sys op => .call (.sys op) .pure
  | .load file =>
    .call (.read file) fun
      | none => .pure none
      | some text =>
        match file.load text with
        | none => .call (.sys .crash) Empty.elim
        | some table => .pure (some table)
  | .writeBack file table =>
    .call (.read file) fun
      | none => .call (.sys .crash) Empty.elim
      | some old =>
        .call (.truncate file) fun _ =>
          .call (.write file (file.putBack old table)) fun _ => .pure ()

/-- A handler on the disk. -/
def onDisk {Result : Type} (handler : Handler Result) : DiskProg Result :=
  handler.translate compile

end OnlineStore
