/-
This file is the library of tallies: files that hold a number each, and threads that change them
one after the other, each time under one lock. The number is read, the file is truncated, and the
new number is printed, so for a moment the file holds none.

The invariant says what the file in hand shows at each stage of a change, and that every number
together with the changes that are still to come is its total (`Balanced`). From it, no thread ever
reads an empty file, the threads finish, and no change is lost (`settles_of_reaches`).
-/

import OnlineStore.Draining
import Mathlib.Algebra.BigOperators.Group.Finset.Basic

namespace Tallies

open Interleaving Prog

variable {Key File Number Thread : Type}

/-! ### The calls -/

inductive Op (Key File Number : Type) where
  | wait (key : Key)
  | signal (key : Key)
  | scan (file : File)
  | truncate (file : File)
  | print (file : File) (number : Number)

abbrev Op.Ret : Op Key File Number → Type
  | .scan _ => Number
  | _ => Unit

/-- The values of the semaphores, and what stands in the files. -/
structure Store (Key File Number : Type) where
  values : Key → Nat
  contents : File → Option Number

abbrev Tallier (Key File Number : Type) := Prog (Op Key File Number) Op.Ret

section Machine

variable [DecidableEq Key] [DecidableEq File]

/-- Nothing can be read from an empty file. -/
def Store.exec (store : Store Key File Number) :
    (op : Op Key File Number) → Option (op.Ret × Store Key File Number)
  | .wait key => if store.values key = 0 then none else
    some ((), { store with values := Function.update store.values key (store.values key - 1) })
  | .signal key =>
    some ((), { store with values := Function.update store.values key (store.values key + 1) })
  | .scan file => (store.contents file).map fun number => (number, store)
  | .truncate file =>
    some ((), { store with contents := Function.update store.contents file none })
  | .print file number =>
    some ((), { store with contents := Function.update store.contents file (some number) })

/-- Each thread runs its program once. -/
def machine : Machine Thread (Store Key File Number) (Op Key File Number) Op.Ret where
  exec := fun _ => Store.exec
  again := fun _ => none

end Machine

/-! ### Changes under a lock -/

section Programs

variable [Add Number]

def change (key : Key) (file : File) (amount : Number) : Tallier Key File Number Unit := do
  Prog.perform (Op.wait key)
  let number : Number ← Prog.perform (Op.scan file)
  Prog.perform (Op.truncate file)
  Prog.perform (Op.print file (number + amount))
  Prog.perform (Op.signal key)

def changes (key : Key) : List (File × Number) → Tallier Key File Number Unit
  | [] => return ()
  | (file, amount) :: later => do
    change key file amount
    changes key later

/-- How far a change is. -/
inductive Stage (Number : Type) where
  | outside
  | entered
  | scanned (number : Number)
  | opened (number : Number)
  | printed

/-- The changes that are not printed yet, and how far the first of them is. -/
structure Phase (File Number : Type) where
  left : List (File × Number)
  stage : Stage Number

def Phase.start (updates : List (File × Number)) : Phase File Number := ⟨updates, .outside⟩

/-- The calls in the order of a change. -/
def protocol (key : Key) : Protocol (Op Key File Number) Op.Ret (Phase File Number) where
  allows phase op := match phase.stage, phase.left, op with
    | .outside, _ :: _, .wait key' => key' = key
    | .entered, (file, _) :: _, .scan file' => file' = file
    | .scanned _, (file, _) :: _, .truncate file' => file' = file
    | .opened number, (file, amount) :: _, .print file' number' =>
      file' = file ∧ number' = number + amount
    | .printed, _, .signal key' => key' = key
    | _, _, _ => False
  next
    | phase, .wait _, _ => { phase with stage := .entered }
    | phase, .scan _, number => { phase with stage := .scanned number }
    | ⟨left, .scanned number⟩, .truncate _, _ => ⟨left, .opened number⟩
    | phase, .truncate _, _ => phase
    | phase, .print _ _, _ => ⟨phase.left.tail, .printed⟩
    | phase, .signal _, _ => { phase with stage := .outside }

/-- A thread that has finished has no change left. -/
def Phase.Finished (phase : Phase File Number) : Prop :=
  phase = ⟨[], .outside⟩

theorem obeys_changes (key : Key) (updates : List (File × Number)) :
    Obeys (protocol key) (fun _ _ _ => True) (fun _ => Phase.Finished) (Phase.start updates)
      (changes key updates) := by
  induction updates with
  | nil => exact rfl
  | cons update later inductionHypothesis =>
    obtain ⟨file, amount⟩ := update
    exact ⟨rfl, fun _ _ => ⟨rfl, fun _ _ => ⟨rfl, fun _ _ => ⟨⟨rfl, rfl⟩, fun _ _ =>
      ⟨rfl, fun _ _ => inductionHypothesis⟩⟩⟩⟩⟩

end Programs

/-! ### The balance -/

section Pending

variable [DecidableEq File] [AddCommGroup Number]

/-- What changes add to a file. -/
def pending (file : File) (updates : List (File × Number)) : Number :=
  (updates.map fun update => if update.1 = file then update.2 else 0).sum

theorem pending_cons (file own : File) (amount : Number) (later : List (File × Number)) :
    pending file ((own, amount) :: later) =
      (if own = file then amount else 0) + pending file later := by
  rw [pending, List.map_cons, List.sum_cons, pending]

variable [Fintype Thread]

/-- Every number and the changes to come make its total. -/
def Adds (total numbers : File → Number) (phases : Thread → Phase File Number) : Prop :=
  ∀ file, numbers file + ∑ thread, pending file (phases thread).left = total file

variable [DecidableEq Thread]
variable {total numbers : File → Number} {phases : Thread → Phase File Number} {thread : Thread}

/-- A step that prints nothing leaves the changes to come. -/
theorem Adds.update_of_left (adds : Adds total numbers phases) {phase : Phase File Number}
    (same : phase.left = (phases thread).left) :
    Adds total numbers (Function.update phases thread phase) := by
  intro file
  rw [← adds file]
  congr 1
  refine Finset.sum_congr rfl fun other _ => ?_
  by_cases own : other = thread
  · rw [own, Function.update_self, same]
  · rw [Function.update_of_ne own]

/-- A printed change moves from the changes to come to its number. -/
theorem Adds.update_of_print (adds : Adds total numbers phases) {own : File} {amount : Number}
    {later : List (File × Number)} {stage stage' : Stage Number}
    (here : phases thread = ⟨(own, amount) :: later, stage⟩) :
    Adds total (Function.update numbers own (numbers own + amount))
      (Function.update phases thread ⟨later, stage'⟩) := by
  intro file
  have split (some : Thread → Phase File Number) :
      ∑ other, pending file (some other).left = pending file (some thread).left +
        ∑ other ∈ Finset.univ.erase thread, pending file (some other).left :=
    (Finset.add_sum_erase _ _ (Finset.mem_univ thread)).symm
  have others : ∑ other ∈ Finset.univ.erase thread,
        pending file (Function.update phases thread ⟨later, stage'⟩ other).left =
      ∑ other ∈ Finset.univ.erase thread, pending file (phases other).left :=
    Finset.sum_congr rfl fun other member => by
      rw [Function.update_of_ne (Finset.ne_of_mem_erase member)]
  rw [← adds file, split phases, split (Function.update _ _ _), others, Function.update_self, here,
    pending_cons]
  by_cases same : own = file
  · subst same
    rw [Function.update_self, if_pos rfl]
    abel
  · rw [Function.update_of_ne (Ne.symm same), if_neg same, zero_add]

end Pending

/-! ### The lock -/

section Lock

variable [DecidableEq File]

/-- What stands in the files while a thread in this phase has the lock. -/
def Shows (numbers : File → Number) (contents : File → Option Number)
    (phase : Phase File Number) : Prop :=
  match phase.stage, phase.left with
  | .entered, _ :: _ => contents = some ∘ numbers
  | .scanned number, (own, _) :: _ => contents = some ∘ numbers ∧ number = numbers own
  | .opened number, (own, _) :: _ =>
    contents = Function.update (some ∘ numbers) own none ∧ number = numbers own
  | .printed, _ => contents = some ∘ numbers
  | _, _ => False

/-- Nobody has the lock, and every file holds its number. -/
structure Free (key : Key) (numbers : File → Number) (store : Store Key File Number)
    (phases : Thread → Phase File Number) : Prop where
  value : store.values key = 1
  outside : ∀ thread, (phases thread).stage = .outside
  contents : store.contents = some ∘ numbers

/-- One thread has the lock. -/
structure Held (key : Key) (numbers : File → Number) (store : Store Key File Number)
    (phases : Thread → Phase File Number) (holder : Thread) : Prop where
  value : store.values key = 0
  outside : ∀ other, other ≠ holder → (phases other).stage = .outside
  shows : Shows numbers store.contents (phases holder)

variable [DecidableEq Thread]
variable {key : Key} {numbers numbers' : File → Number} {store next : Store Key File Number}
variable {phases : Thread → Phase File Number} {holder : Thread}

/-- The thread that has the lock goes on with its change. -/
theorem Held.update (held : Held key numbers store phases holder) {phase : Phase File Number}
    (values : next.values = store.values) (shows : Shows numbers' next.contents phase) :
    Held key numbers' next (Function.update phases holder phase) holder := by
  refine ⟨?_, ?_, ?_⟩
  · rw [values]
    exact held.value
  · intro other different
    rw [Function.update_of_ne different]
    exact held.outside other different
  · rw [Function.update_self]
    exact shows

end Lock

section Balance

variable [DecidableEq Key] [DecidableEq File] [AddCommGroup Number]
variable [Fintype Thread] [DecidableEq Thread]

def Balanced (key : Key) (total : File → Number) (store : Store Key File Number)
    (phases : Thread → Phase File Number) : Prop :=
  ∃ numbers, Adds total numbers phases ∧
    (Free key numbers store phases ∨ ∃ holder, Held key numbers store phases holder)

variable {key : Key} {total numbers : File → Number} {store next : Store Key File Number}
variable {phases : Thread → Phase File Number} {thread : Thread} {op : Op Key File Number}
variable {answer : op.Ret}

omit [DecidableEq Key] [DecidableEq File] in
/-- From outside, a thread that has a change left asks for the lock. -/
theorem wait_of_outside {phase : Phase File Number} (outside : phase.stage = .outside)
    (allowed : (protocol key).allows phase op) : op = .wait key ∧ phase.left ≠ [] := by
  obtain ⟨left, stage⟩ := phase
  obtain rfl : stage = .outside := outside
  cases left with
  | nil => exact absurd allowed id
  | cons update later =>
    cases op with
    | wait key' => exact ⟨congrArg Op.wait allowed, List.cons_ne_nil _ _⟩
    | _ => exact absurd allowed id

/-- A thread takes the lock. -/
theorem Free.exec (free : Free key numbers store phases) (adds : Adds total numbers phases)
    (allowed : (protocol key).allows (phases thread) op)
    (called : store.exec op = some (answer, next)) :
    Balanced key total next
      (Function.update phases thread ((protocol key).next (phases thread) op answer)) := by
  obtain ⟨rfl, more⟩ := wait_of_outside (free.outside thread) allowed
  rw [Store.exec, free.value, if_neg Nat.one_ne_zero] at called
  cases called
  refine ⟨numbers, adds.update_of_left rfl, .inr ⟨thread, Function.update_self .., ?_, ?_⟩⟩
  · intro other different
    rw [Function.update_of_ne different]
    exact free.outside other
  · rw [Function.update_self]
    obtain ⟨update, later, left⟩ := List.exists_cons_of_ne_nil more
    show Shows numbers store.contents ⟨(phases thread).left, .entered⟩
    rw [left]
    exact free.contents

/-- The call of the thread that has the lock, with what stands in the files. -/
inductive Works (key : Key) (numbers : File → Number) :
    Phase File Number → Op Key File Number → (File → Option Number) → Prop
  | scan {own : File} {amount : Number} {later : List (File × Number)} :
    Works key numbers ⟨(own, amount) :: later, .entered⟩ (.scan own) (some ∘ numbers)
  | truncate {own : File} {amount : Number} {later : List (File × Number)} :
    Works key numbers ⟨(own, amount) :: later, .scanned (numbers own)⟩ (.truncate own)
      (some ∘ numbers)
  | print {own : File} {amount : Number} {later : List (File × Number)} :
    Works key numbers ⟨(own, amount) :: later, .opened (numbers own)⟩
      (.print own (numbers own + amount)) (Function.update (some ∘ numbers) own none)
  | signal {left : List (File × Number)} :
    Works key numbers ⟨left, .printed⟩ (.signal key) (some ∘ numbers)

omit [DecidableEq Key] in
theorem works_of_shows {contents : File → Option Number} {phase : Phase File Number}
    (shows : Shows numbers contents phase) (allowed : (protocol key).allows phase op) :
    Works key numbers phase op contents := by
  obtain ⟨left, stage⟩ := phase
  rcases left with _ | ⟨⟨own, amount⟩, later⟩ <;> cases stage <;> cases op
  all_goals first | exact absurd shows id | exact absurd allowed id | skip
  case nil.printed.signal =>
    obtain rfl : contents = _ := shows
    obtain rfl : _ = key := allowed
    exact .signal
  case cons.entered.scan =>
    obtain rfl : contents = _ := shows
    obtain rfl : _ = own := allowed
    exact .scan
  case cons.scanned.truncate =>
    obtain ⟨rfl, rfl⟩ := shows
    obtain rfl : _ = own := allowed
    exact .truncate
  case cons.opened.print =>
    obtain ⟨rfl, rfl⟩ := shows
    obtain ⟨rfl, rfl⟩ := allowed
    exact .print
  case cons.printed.signal =>
    obtain rfl : contents = _ := shows
    obtain rfl : _ = key := allowed
    exact .signal

/-- The thread that has the lock goes on, and nobody else does. -/
theorem Held.exec {holder : Thread} (held : Held key numbers store phases holder)
    (adds : Adds total numbers phases) (allowed : (protocol key).allows (phases thread) op)
    (called : store.exec op = some (answer, next)) :
    Balanced key total next
      (Function.update phases thread ((protocol key).next (phases thread) op answer)) := by
  by_cases own : thread = holder
  · subst own
    have works := works_of_shows held.shows allowed
    generalize here : phases thread = phase at works ⊢
    generalize stand : store.contents = contents at works
    cases works with
    | @scan own =>
      obtain ⟨number, found, same⟩ := Option.map_eq_some_iff.mp called
      rw [stand] at found
      obtain rfl := Option.some.inj found
      cases same
      refine ⟨numbers, adds.update_of_left (congrArg Phase.left here).symm, .inr ⟨thread, ?_⟩⟩
      exact held.update rfl ⟨stand, rfl⟩
    | @truncate own =>
      cases called
      refine ⟨numbers, adds.update_of_left (congrArg Phase.left here).symm, .inr ⟨thread, ?_⟩⟩
      exact held.update rfl ⟨congrArg (Function.update · own none) stand, rfl⟩
    | @print own amount =>
      cases called
      refine ⟨_, adds.update_of_print here, .inr ⟨thread, held.update rfl ?_⟩⟩
      show Function.update store.contents own (some (numbers own + amount)) = _
      rw [stand, Function.update_idem, Function.comp_update]
    | signal =>
      cases called
      refine ⟨numbers, adds.update_of_left (congrArg Phase.left here).symm, .inl ⟨?_, ?_, stand⟩⟩
      · show Function.update store.values key (store.values key + 1) key = 1
        rw [Function.update_self, held.value]
      · refine (Function.forall_update_iff phases fun _ phase => phase.stage = .outside).mpr ?_
        exact ⟨rfl, held.outside⟩
  · obtain ⟨rfl, -⟩ := wait_of_outside (held.outside thread own) allowed
    rw [Store.exec, held.value, if_pos rfl] at called
    cases called

/-! ### Whole runs -/

/-- The threads of a start, with the lock free. -/
def start (key : Key) (numbers : File → Number) (updates : Thread → List (File × Number)) :
    Threads Thread (Store Key File Number) (Op Key File Number) Op.Ret :=
  ⟨⟨fun _ => 1, some ∘ numbers⟩, fun thread => changes key (updates thread)⟩

/-- The numbers in the end. -/
def settled (numbers : File → Number) (updates : Thread → List (File × Number)) (file : File) :
    Number :=
  numbers file + ∑ thread, pending file (updates thread)

variable {numbers : File → Number} {updates : Thread → List (File × Number)}
variable {now final : Threads Thread (Store Key File Number) (Op Key File Number) Op.Ret}

theorem follows_of_reaches
    (reached : machine.Reaches (fun _ _ => True) (start key numbers updates) final) :
    Machine.Follows (protocol key) (fun _ _ _ => True) Phase.Finished
      (Balanced key (settled numbers updates)) final := by
  refine Machine.follows_of_reaches ?_ ?_ ?_ reached
  · rintro threads phases thread op - answer next - - ⟨numbers, adds, free | ⟨holder, held⟩⟩ allowed
      called
    · exact ⟨trivial, free.exec adds allowed called⟩
    · exact ⟨trivial, held.exec adds allowed called⟩
  · intro thread body phase again
    cases again
  · refine ⟨fun thread => Phase.start (updates thread), ⟨numbers, fun _ => rfl, .inl ?_⟩, ?_⟩
    · exact ⟨rfl, fun _ => rfl, rfl⟩
    · exact fun thread => obeys_changes key (updates thread)

/-- The thread that has the lock never waits. -/
theorem Works.exists_exec {phase : Phase File Number}
    (works : Works key numbers phase op store.contents) :
    ∃ outcome, store.exec op = some outcome := by
  generalize stand : store.contents = contents at works
  cases works with
  | @scan own =>
    refine ⟨(numbers own, store), ?_⟩
    rw [Store.exec, stand]
    rfl
  | truncate => exact ⟨_, rfl⟩
  | print => exact ⟨_, rfl⟩
  | signal => exact ⟨_, rfl⟩

/-- As long as somebody has changes left, some thread steps. -/
theorem exists_step_of_follows
    (follows : Machine.Follows (protocol key) (fun _ _ _ => True) Phase.Finished
      (Balanced key total) now)
    (unfinished : ¬ ∀ thread, now.finished thread = true) :
    ∃ thread next, machine.step now thread = some next := by
  obtain ⟨phases, ⟨numbers, -, free | ⟨holder, held⟩⟩, obeys⟩ := follows
  · obtain ⟨thread, unfinished⟩ := not_forall.mp unfinished
    have own := obeys thread
    cases running : now.program thread with
    | pure result => exact absurd (by rw [Threads.finished, running]) unfinished
    | call op continuation =>
      rw [running, Prog.obeys_call] at own
      obtain ⟨rfl, -⟩ := wait_of_outside (free.outside thread) own.1
      refine Machine.exists_step_of_exec running ?_
      show ∃ outcome, now.shared.exec (.wait key) = some outcome
      rw [Store.exec, free.value, if_neg Nat.one_ne_zero]
      exact ⟨_, rfl⟩
  · have own := obeys holder
    cases running : now.program holder with
    | pure result =>
      rw [running, Prog.obeys_pure] at own
      have shows := held.shows
      rw [own] at shows
      exact absurd shows id
    | call op continuation =>
      rw [running, Prog.obeys_call] at own
      exact Machine.exists_step_of_exec running (works_of_shows held.shows own.1).exists_exec

omit [DecidableEq Key] [DecidableEq Thread] in
/-- When all have finished, the files hold their totals. -/
theorem contents_of_follows
    (follows : Machine.Follows (protocol key) (fun _ _ _ => True) Phase.Finished
      (Balanced key total) now)
    (finished : ∀ thread, now.finished thread = true) :
    now.shared.contents = some ∘ total := by
  obtain ⟨phases, ⟨numbers, adds, holds⟩, obeys⟩ := follows
  have ended : ∀ thread, phases thread = ⟨[], .outside⟩ := by
    intro thread
    have own := obeys thread
    have finished := finished thread
    rw [Threads.finished] at finished
    cases running : now.program thread with
    | pure result =>
      rw [running, Prog.obeys_pure] at own
      exact own
    | call op continuation =>
      rw [running] at finished
      cases finished
  rcases holds with free | ⟨holder, held⟩
  · have same : numbers = total := by
      funext file
      rw [← adds file, Finset.sum_eq_zero fun thread _ => by rw [ended thread]; rfl, add_zero]
    rw [free.contents, same]
  · have shows := held.shows
    rw [ended holder] at shows
    exact absurd shows id

/-- However the threads interleave, they can go on until they have all finished, and then every
change is in the files. -/
theorem settles_of_reaches
    (reached : machine.Reaches (fun _ _ => True) (start key numbers updates) final) :
    (∃ thread next, machine.step final thread = some next) ∨
      (∀ thread, final.finished thread = true) ∧
        final.shared.contents = some ∘ settled numbers updates := by
  have follows := follows_of_reaches reached
  by_cases finished : ∀ thread, final.finished thread = true
  · exact .inr ⟨finished, contents_of_follows follows finished⟩
  · exact .inl (exists_step_of_follows follows finished)

end Balance

end Tallies
