/-
This file models the small demonstrations `RaceConditionDemo.c` and `DeadlockDemo.c`: threads that
take one from a number in a text file, or add one to it, under a System V semaphore. Both keys of
`DeadlockDemo.c` are the same, so `id` and `id2` name one semaphore, and the fixed functions work
because each of them releases it before it waits again.

The functions are lists of changes under one lock, so the library of tallies settles them: however
many threads run them in whatever order, no thread waits for ever and no change is lost
(`settles`). The numbers are integers, since an overflow of `x` is undefined in C.
-/

import OnlineStore.Tallies
import Mathlib.Tactic.Ring
import Mathlib.Algebra.BigOperators.Ring.Finset

namespace OnlineStore.Demos

open Interleaving Prog Tallies

/-! ### The functions -/

def KEY : ℕ := 0x1100
def KEY2 : ℕ := 0x1100

/-- `nuumber.txt`, `prod.txt` and `bill.txt`. -/
inductive TextFile where
  | nuumber
  | prod
  | bill
deriving DecidableEq

abbrev Demo := Tallier ℕ TextFile ℤ Unit

/-- What `fprintf` writes is in the file when `fclose` returns. -/
def fileWork : Demo := do
  Prog.perform (Op.wait KEY)
  let x : ℤ ← Prog.perform (Op.scan .nuumber)
  Prog.perform (Op.truncate .nuumber)
  Prog.perform (Op.print .nuumber (x - 1))
  Prog.perform (Op.signal KEY)

def buy : Demo := do
  Prog.perform (Op.wait KEY)
  let x : ℤ ← Prog.perform (Op.scan .prod)
  Prog.perform (Op.truncate .prod)
  Prog.perform (Op.print .prod (x - 1))
  Prog.perform (Op.signal KEY)
  Prog.perform (Op.wait KEY2)
  let x : ℤ ← Prog.perform (Op.scan .bill)
  Prog.perform (Op.truncate .bill)
  Prog.perform (Op.print .bill (x + 1))
  Prog.perform (Op.signal KEY2)

def ret : Demo := do
  Prog.perform (Op.wait KEY2)
  let x : ℤ ← Prog.perform (Op.scan .bill)
  Prog.perform (Op.truncate .bill)
  Prog.perform (Op.print .bill (x - 1))
  Prog.perform (Op.signal KEY2)
  Prog.perform (Op.wait KEY)
  let x : ℤ ← Prog.perform (Op.scan .prod)
  Prog.perform (Op.truncate .prod)
  Prog.perform (Op.print .prod (x + 1))
  Prog.perform (Op.signal KEY)

/-- What a thread is created with. -/
inductive Job where
  | fileWork
  | buy
  | ret
deriving DecidableEq

def Job.body : Job → Demo
  | .fileWork => Demos.fileWork
  | .buy => Demos.buy
  | .ret => Demos.ret

/-- `main` has set the semaphore to 1 and created the threads. -/
def main {Thread : Type} (jobs : Thread → Job) (numbers : TextFile → ℤ) :
    Threads Thread (Store ℕ TextFile ℤ) (Op ℕ TextFile ℤ) Op.Ret :=
  ⟨⟨fun _ => 1, some ∘ numbers⟩, fun thread => (jobs thread).body⟩

/-! ### The changes -/

/-- What a thread adds to the files, in the order of its calls. -/
def Job.updates : Job → List (TextFile × ℤ)
  | .fileWork => [(.nuumber, -1)]
  | .buy => [(.prod, -1), (.bill, 1)]
  | .ret => [(.bill, -1), (.prod, 1)]

theorem body_eq (job : Job) : job.body = changes KEY job.updates := by
  cases job <;> rfl

theorem main_eq {Thread : Type} (jobs : Thread → Job) (numbers : TextFile → ℤ) :
    main jobs numbers = start KEY numbers fun thread => (jobs thread).updates := by
  unfold main start
  congr 1
  exact funext fun thread => body_eq (jobs thread)

variable {Thread : Type} [Fintype Thread] [DecidableEq Thread]

/-- The threads that do a job. -/
def doing (jobs : Thread → Job) (job : Job) : ℕ :=
  (Finset.univ.filter fun thread => jobs thread = job).card

/-- The numbers in the end. -/
def results (jobs : Thread → Job) (numbers : TextFile → ℤ) : TextFile → ℤ
  | .nuumber => numbers .nuumber - doing jobs .fileWork
  | .prod => numbers .prod - doing jobs .buy + doing jobs .ret
  | .bill => numbers .bill + doing jobs .buy - doing jobs .ret

omit [DecidableEq Thread] in
theorem sum_doing (jobs : Thread → Job) (job : Job) (amount : ℤ) :
    (∑ thread, if jobs thread = job then amount else 0) = doing jobs job * amount := by
  rw [← Finset.sum_filter, Finset.sum_const, nsmul_eq_mul]
  rfl

theorem pending_updates (job : Job) (file : TextFile) :
    pending file job.updates = match file with
      | .nuumber => if job = .fileWork then -1 else 0
      | .prod => (if job = .buy then -1 else 0) + if job = .ret then 1 else 0
      | .bill => (if job = .buy then 1 else 0) + if job = .ret then -1 else 0 := by
  cases job <;> cases file <;> rfl

omit [DecidableEq Thread] in
theorem settled_eq (jobs : Thread → Job) (numbers : TextFile → ℤ) :
    settled numbers (fun thread => (jobs thread).updates) = results jobs numbers := by
  funext file
  unfold settled
  simp only [pending_updates]
  cases file with
  | nuumber =>
    rw [sum_doing, results]
    ring
  | prod =>
    rw [Finset.sum_add_distrib, sum_doing, sum_doing, results]
    ring
  | bill =>
    rw [Finset.sum_add_distrib, sum_doing, sum_doing, results]
    ring

/-! ### Whole runs -/

/-- In every order of calls, the threads can go on until they have all finished, no run goes on
for ever, and in the end every decrement and every increment is in its file. -/
theorem settles (jobs : Thread → Job) (numbers : TextFile → ℤ)
    {final : Threads Thread (Store ℕ TextFile ℤ) (Op ℕ TextFile ℤ) Op.Ret}
    (reached : machine.Reaches (fun _ _ => True) (main jobs numbers) final) :
    ((∃ thread next, machine.step final thread = some next) ∨
      (∀ thread, final.finished thread = true) ∧
        final.shared.contents = some ∘ results jobs numbers) ∧
    ¬ ∃ run : ℕ → Threads Thread (Store ℕ TextFile ℤ) (Op ℕ TextFile ℤ) Op.Ret, run 0 = final ∧
      ∀ moment, ∃ thread, machine.step (run moment) thread = some (run (moment + 1)) := by
  constructor
  · rw [main_eq] at reached
    rw [← settled_eq]
    exact settles_of_reaches reached
  · rintro ⟨run, -, steps⟩
    exact Machine.not_steps_forever (fun _ => rfl) run steps

/-- The threads of `DeadlockDemo.c`. -/
def buyAndRet (thread : Bool) : Job :=
  if thread then .ret else .buy

/-- `ret` takes the lock between the two changes of `buy`, and the numbers come back. -/
theorem settles_buyAndRet :
    ∃ final, machine.runs (fun _ _ => True)
        (List.replicate 5 false ++ List.replicate 5 true ++ List.replicate 5 false ++
          List.replicate 5 true) (main buyAndRet fun _ => 7) = some final ∧
      final.shared.contents .prod = some 7 ∧
      (((∃ thread next, machine.step final thread = some next) ∨
        (∀ thread, final.finished thread = true) ∧
          final.shared.contents = some ∘ results buyAndRet fun _ => 7) ∧
      ¬ ∃ run : ℕ → Threads Bool (Store ℕ TextFile ℤ) (Op ℕ TextFile ℤ) Op.Ret, run 0 = final ∧
        ∀ moment, ∃ thread, machine.step (run moment) thread = some (run (moment + 1))) := by
  have ran : (machine.runs (fun _ _ => True)
      (List.replicate 5 false ++ List.replicate 5 true ++ List.replicate 5 false ++
        List.replicate 5 true) (main buyAndRet fun _ => 7)).map (fun final =>
          final.shared.contents .prod) = some (some 7) := by
    decide
  obtain ⟨final, ran, prod⟩ := Option.map_eq_some_iff.mp ran
  exact ⟨final, ran, prod, settles buyAndRet (fun _ => 7) (Machine.reaches_of_runs ran)⟩

end OnlineStore.Demos
