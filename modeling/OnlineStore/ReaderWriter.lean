/-
This file is the reader–writer library of the development: a lock of one writer or many readers,
made of a semaphore for writing, a counter of the readers and a second semaphore that guards the
counter. A reader that counts itself as the first one takes the semaphore for writing, and one
that counts down to zero gives it back.

A party is at one of eleven positions, most of them inside the entry or the exit section of a
reader, and the protocol says which operation leads from which position to which. Its lenient
form also lets a party that is outside run an exit section. `Balanced` is the invariant that holds
all the same: the semaphore for writing, the writers and the sign of the settled counter add up to
one. With the strict form the counter is the number of the counted parties (`Counted`), and readers
exclude writers. With either form parties that write in the order of some ranks are never stuck
(`Stuck.not_waits`). Parties that are never readers need the semaphores for writing only, and then
there may be any number of them (`Exclusive`).
-/

import OnlineStore.Prog
import Mathlib.Algebra.BigOperators.Ring.Finset
import Mathlib.Algebra.Order.BigOperators.Group.Finset
import Mathlib.Data.Fintype.Basic

namespace ReaderWriter

/-- The values of the two semaphores and of the counter. -/
structure Lock where
  mutex : Nat
  wrt : Nat
  readers : Int

/-- Nobody uses the lock. -/
def Lock.unused : Lock := ⟨1, 1, 0⟩

inductive LockOp where
  | waitMutex
  | postMutex
  | waitWrt
  | postWrt
  /-- Adds one to the counter. -/
  | enter
  /-- Takes one from the counter. -/
  | leave
  /-- Reads the counter. -/
  | readers

abbrev LockOp.Ret : LockOp → Type
  | .readers => Int
  | _ => Unit

/-- An operation on the lock. A semaphore at zero is waited for. -/
def Lock.exec (lock : Lock) : (op : LockOp) → Option (op.Ret × Lock)
  | .waitMutex => if lock.mutex = 0 then none else some ((), { lock with mutex := lock.mutex - 1 })
  | .postMutex => some ((), { lock with mutex := lock.mutex + 1 })
  | .waitWrt => if lock.wrt = 0 then none else some ((), { lock with wrt := lock.wrt - 1 })
  | .postWrt => some ((), { lock with wrt := lock.wrt + 1 })
  | .enter => some ((), { lock with readers := lock.readers + 1 })
  | .leave => some ((), { lock with readers := lock.readers - 1 })
  | .readers => some (lock.readers, lock)

/-! ### Positions -/

/-- Where a party is. -/
inductive Position where
  | outside
  /-- It holds the mutex and has not touched the counter. -/
  | locked
  /-- It has counted itself. -/
  | counted
  /-- It has read a one, so it must wait for the semaphore for writing. -/
  | mustWait
  /-- It has still to post the mutex and may read then. -/
  | entered
  | reading
  /-- It has been reading and holds the mutex again. -/
  | leaving
  /-- It has counted down. -/
  | uncounted
  /-- It has read a zero, so it must post the semaphore for writing. -/
  | mustPost
  /-- It has still to post the mutex and is outside then. -/
  | left
  | writing
  deriving DecidableEq

/-- Which operation a party may call. A lenient lock admits an exit section of a party that has
not entered. -/
def allowed (lenient : Bool) : Position → LockOp → Bool
  | .outside, .waitMutex => true
  | .outside, .waitWrt => true
  | .locked, .enter => true
  | .locked, .leave => lenient
  | .counted, .readers => true
  | .mustWait, .waitWrt => true
  | .entered, .postMutex => true
  | .reading, .waitMutex => true
  | .leaving, .leave => true
  | .uncounted, .readers => true
  | .mustPost, .postWrt => true
  | .left, .postMutex => true
  | .writing, .postWrt => true
  | _, _ => false

/-- Where an operation leads. -/
def after : Position → (op : LockOp) → op.Ret → Position
  | .outside, .waitMutex, _ => .locked
  | .outside, .waitWrt, _ => .writing
  | .locked, .enter, _ => .counted
  | .locked, .leave, _ => .uncounted
  | .counted, .readers, readers => if readers = 1 then .mustWait else .entered
  | .mustWait, .waitWrt, _ => .entered
  | .entered, .postMutex, _ => .reading
  | .reading, .waitMutex, _ => .leaving
  | .leaving, .leave, _ => .uncounted
  | .uncounted, .readers, readers => if readers = 0 then .mustPost else .left
  | .mustPost, .postWrt, _ => .left
  | .left, .postMutex, _ => .outside
  | .writing, .postWrt, _ => .outside
  | position, _, _ => position

/-- What an allowed operation can do: the moves of one party, with what they require of the lock
and what they make of it. -/
inductive Move (lenient : Bool) (lock : Lock) : Position → Lock → Position → Prop where
  | takeMutex (free : lock.mutex ≠ 0) :
    Move lenient lock .outside { lock with mutex := lock.mutex - 1 } .locked
  | retakeMutex (free : lock.mutex ≠ 0) :
    Move lenient lock .reading { lock with mutex := lock.mutex - 1 } .leaving
  | enter : Move lenient lock .locked { lock with readers := lock.readers + 1 } .counted
  | leave : Move lenient lock .leaving { lock with readers := lock.readers - 1 } .uncounted
  | leaveAgain (admitted : lenient = true) :
    Move lenient lock .locked { lock with readers := lock.readers - 1 } .uncounted
  | first (one : lock.readers = 1) : Move lenient lock .counted lock .mustWait
  | further (more : lock.readers ≠ 1) : Move lenient lock .counted lock .entered
  | takeWrt (free : lock.wrt ≠ 0) :
    Move lenient lock .mustWait { lock with wrt := lock.wrt - 1 } .entered
  | startReading : Move lenient lock .entered { lock with mutex := lock.mutex + 1 } .reading
  | last (none : lock.readers = 0) : Move lenient lock .uncounted lock .mustPost
  | remaining (some : lock.readers ≠ 0) : Move lenient lock .uncounted lock .left
  | giveWrt : Move lenient lock .mustPost { lock with wrt := lock.wrt + 1 } .left
  | goOutside : Move lenient lock .left { lock with mutex := lock.mutex + 1 } .outside
  | startWriting (free : lock.wrt ≠ 0) :
    Move lenient lock .outside { lock with wrt := lock.wrt - 1 } .writing
  | stopWriting : Move lenient lock .writing { lock with wrt := lock.wrt + 1 } .outside

theorem move_of_exec {lenient : Bool} {lock next : Lock} {position : Position} {op : LockOp}
    {answer : op.Ret} (allows : allowed lenient position op = true)
    (called : lock.exec op = some (answer, next)) :
    Move lenient lock position next (after position op answer) := by
  cases op with
  | waitMutex =>
    rw [Lock.exec] at called
    split at called
    · cases called
    · rename_i free
      cases called
      cases position with
      | outside => exact .takeMutex free
      | reading => exact .retakeMutex free
      | _ => cases allows
  | waitWrt =>
    rw [Lock.exec] at called
    split at called
    · cases called
    · rename_i free
      cases called
      cases position with
      | outside => exact .startWriting free
      | mustWait => exact .takeWrt free
      | _ => cases allows
  | postMutex =>
    cases called
    cases position with
    | entered => exact .startReading
    | left => exact .goOutside
    | _ => cases allows
  | postWrt =>
    cases called
    cases position with
    | mustPost => exact .giveWrt
    | writing => exact .stopWriting
    | _ => cases allows
  | enter =>
    cases called
    cases position with
    | locked => exact .enter
    | _ => cases allows
  | leave =>
    cases called
    cases position with
    | locked => exact .leaveAgain allows
    | leaving => exact .leave
    | _ => cases allows
  | readers =>
    cases called
    cases position with
    | counted =>
      rw [after]
      split
      · exact .first ‹_›
      · exact .further ‹_›
    | uncounted =>
      rw [after]
      split
      · exact .last ‹_›
      · exact .remaining ‹_›
    | _ => cases allows

/-- The mutexes that a party holds. -/
def Position.holds : Position → Int
  | .outside => 0
  | .reading => 0
  | .writing => 0
  | _ => 1

/-- The parties that the counter includes although it has not been acted upon. -/
def Position.entering : Position → Int
  | .counted => 1
  | .mustWait => 1
  | _ => 0

/-- The parties that the counter leaves out although it has not been acted upon. -/
def Position.exiting : Position → Int
  | .uncounted => 1
  | .mustPost => 1
  | _ => 0

def Position.writes : Position → Int
  | .writing => 1
  | _ => 0

/-- Whether the party is counted as a reader: it has added itself to the counter and has not
counted down. -/
def Position.isCounted : Position → Bool
  | .counted => true
  | .mustWait => true
  | .entered => true
  | .reading => true
  | .leaving => true
  | _ => false

def Position.counts (position : Position) : Int :=
  if position.isCounted then 1 else 0

theorem holds_nonneg (position : Position) : 0 ≤ position.holds := by cases position <;> decide

theorem entering_nonneg (position : Position) : 0 ≤ position.entering := by
  cases position <;> decide

theorem exiting_nonneg (position : Position) : 0 ≤ position.exiting := by
  cases position <;> decide

theorem writes_nonneg (position : Position) : 0 ≤ position.writes := by cases position <;> decide

theorem entering_le_holds (position : Position) : position.entering ≤ position.holds := by
  cases position <;> decide

theorem exiting_le_holds (position : Position) : position.exiting ≤ position.holds := by
  cases position <;> decide

theorem counts_nonneg (position : Position) : 0 ≤ position.counts := by cases position <;> decide

theorem entering_le_counts (position : Position) : position.entering ≤ position.counts := by
  cases position <;> decide

/-! ### The invariants -/

section Invariant

variable {Party : Type} [Fintype Party]

/-- The weight of all parties together. -/
def total (weight : Position → Int) (positions : Party → Position) : Int :=
  ∑ party, weight (positions party)

/-- The counter without the changes that have not been acted upon. -/
def settled (lock : Lock) (positions : Party → Position) : Int :=
  lock.readers - total Position.entering positions + total Position.exiting positions

/-- One party at most holds the mutex, and either somebody may write, or somebody writes, or the
settled counter is positive. -/
structure Balanced (lock : Lock) (positions : Party → Position) : Prop where
  mutex : lock.mutex + total Position.holds positions = 1
  wrt : lock.wrt + total Position.writes positions +
    (if 1 ≤ settled lock positions then 1 else 0) = 1
  mustWait : ∀ party, positions party = .mustWait → lock.readers = 1
  mustPost : ∀ party, positions party = .mustPost → lock.readers = 0

theorem total_outside {weight : Position → Int} (none : weight .outside = 0) :
    total weight (fun _ : Party => .outside) = 0 :=
  Finset.sum_eq_zero fun _ _ => none

theorem balanced_unused : Balanced Lock.unused fun _ : Party => .outside where
  mutex := by
    rw [total_outside rfl]
    rfl
  wrt := by
    rw [settled, total_outside rfl, total_outside rfl, total_outside rfl]
    rfl
  mustWait _ same := by cases same
  mustPost _ same := by cases same

theorem Balanced.wrt_le_one {lock : Lock} {positions : Party → Position}
    (balanced : Balanced lock positions) : lock.wrt ≤ 1 := by
  have wrt := balanced.wrt
  have writes : 0 ≤ total Position.writes positions :=
    Finset.sum_nonneg fun party _ => writes_nonneg (positions party)
  split_ifs at wrt <;> omega

/-- The counter is the number of the counted parties. -/
def Counted (lock : Lock) (positions : Party → Position) : Prop :=
  lock.readers = total Position.counts positions

theorem counted_unused : Counted Lock.unused fun _ : Party => .outside :=
  (total_outside rfl).symm

theorem Counted.eq_card {lock : Lock} {positions : Party → Position}
    (counted : Counted lock positions) :
    lock.readers = (Finset.univ.filter fun party => (positions party).isCounted = true).card := by
  rw [counted, total, Finset.card_filter]
  push_cast
  rfl

end Invariant

/-! ### Sums over the other parties -/

section Others

variable {Party : Type} [Fintype Party] [DecidableEq Party]

/-- The weight of all parties but one. -/
def others (weight : Position → Int) (positions : Party → Position) (party : Party) : Int :=
  ∑ other ∈ Finset.univ.erase party, weight (positions other)

theorem total_eq (weight : Position → Int) (positions : Party → Position) (party : Party) :
    total weight positions = weight (positions party) + others weight positions party :=
  (Finset.add_sum_erase _ _ (Finset.mem_univ party)).symm

theorem total_update (weight : Position → Int) (positions : Party → Position) (party : Party)
    (position : Position) :
    total weight (Function.update positions party position) =
      weight position + others weight positions party := by
  rw [total_eq weight _ party, Function.update_self]
  refine congrArg _ (Finset.sum_congr rfl fun other member => ?_)
  rw [Function.update_of_ne (Finset.ne_of_mem_erase member)]

theorem others_nonneg {weight : Position → Int} (nonneg : ∀ position, 0 ≤ weight position)
    (positions : Party → Position) (party : Party) : 0 ≤ others weight positions party :=
  Finset.sum_nonneg fun other _ => nonneg (positions other)

theorem others_le {weight bound : Position → Int}
    (below : ∀ position, weight position ≤ bound position) (positions : Party → Position)
    (party : Party) : others weight positions party ≤ others bound positions party :=
  Finset.sum_le_sum fun other _ => below (positions other)

theorem le_others {weight : Position → Int} (nonneg : ∀ position, 0 ≤ weight position)
    (positions : Party → Position) {party other : Party} (different : other ≠ party) :
    weight (positions other) ≤ others weight positions party := by
  have single := Finset.single_le_sum (fun other _ => nonneg (positions other))
    (Finset.mem_erase.mpr ⟨different, Finset.mem_univ other⟩)
  exact single

end Others

/-! ### One move -/

section Moves

variable {Party : Type} [Fintype Party] [DecidableEq Party]
variable {lock next : Lock} {positions : Party → Position} {party : Party}

theorem Balanced.move_wrt {lenient : Bool} {position : Position}
    (balanced : Balanced lock positions)
    (moves : Move lenient lock (positions party) next position) :
    next.wrt + total Position.writes (Function.update positions party position) +
      (if 1 ≤ settled next (Function.update positions party position) then 1 else 0) = 1 := by
  have mutex := balanced.mutex
  have wrt := balanced.wrt
  have mustWait := balanced.mustWait party
  have mustPost := balanced.mustPost party
  rw [total_eq _ _ party] at mutex wrt
  rw [settled, total_eq _ _ party, total_eq _ _ party] at wrt
  rw [settled, total_update, total_update, total_update]
  have entering := others_le entering_le_holds positions party
  have exiting := others_le exiting_le_holds positions party
  have entering' := others_nonneg entering_nonneg positions party
  have exiting' := others_nonneg exiting_nonneg positions party
  generalize positions party = current at *
  -- Only the two moves that touch the semaphore because of the counter need its value.
  cases moves with
  | takeWrt free =>
    have one := mustWait rfl
    simp only [Position.holds, Position.entering, Position.exiting, Position.writes]
      at mutex wrt ⊢
    split_ifs at wrt ⊢ <;> omega
  | giveWrt =>
    have none := mustPost rfl
    simp only [Position.holds, Position.entering, Position.exiting, Position.writes]
      at mutex wrt ⊢
    split_ifs at wrt ⊢ <;> omega
  | _ =>
    simp only [Position.holds, Position.entering, Position.exiting, Position.writes]
      at mutex wrt ⊢
    split_ifs at wrt ⊢ <;> omega

/-- The counter stands still while another party is in a section. -/
theorem Balanced.move_readers {lenient : Bool} {position : Position}
    (balanced : Balanced lock positions)
    (moves : Move lenient lock (positions party) next position) {other : Party}
    (different : other ≠ party) (inside : (positions other).holds = 1) :
    next.readers = lock.readers := by
  have outside := le_others holds_nonneg positions different
  have mutex := balanced.mutex
  rw [total_eq _ _ party] at mutex
  generalize positions party = current at *
  cases moves with
  | enter => simp only [Position.holds] at mutex outside inside; omega
  | leave => simp only [Position.holds] at mutex outside inside; omega
  | leaveAgain => simp only [Position.holds] at mutex outside inside; omega
  | _ => rfl

/-- A move keeps the balance. -/
theorem Balanced.move {lenient : Bool} {position : Position} (balanced : Balanced lock positions)
    (moves : Move lenient lock (positions party) next position) :
    Balanced next (Function.update positions party position) where
  mutex := by
    have mutex := balanced.mutex
    rw [total_eq _ _ party] at mutex
    rw [total_update]
    have holds := others_nonneg holds_nonneg positions party
    generalize positions party = current at *
    cases moves <;> simp only [Position.holds] at mutex ⊢ <;> omega
  wrt := balanced.move_wrt moves
  mustWait other waits := by
    by_cases own : other = party
    · subst own
      rw [Function.update_self] at waits
      subst waits
      generalize positions other = current at moves
      cases moves
      assumption
    · rw [Function.update_of_ne own] at waits
      rw [balanced.move_readers moves own (waits ▸ rfl), balanced.mustWait other waits]
  mustPost other posts := by
    by_cases own : other = party
    · subst own
      rw [Function.update_self] at posts
      subst posts
      generalize positions other = current at moves
      cases moves
      assumption
    · rw [Function.update_of_ne own] at posts
      rw [balanced.move_readers moves own (posts ▸ rfl), balanced.mustPost other posts]

/-- There is one writer at most. -/
theorem Balanced.writer_unique (balanced : Balanced lock positions) {other : Party}
    (writes : positions party = .writing) (also : positions other = .writing) :
    other = party := by
  by_contra different
  have wrt := balanced.wrt
  have second := le_others writes_nonneg positions different
  rw [total_eq _ _ party, writes] at wrt
  rw [also] at second
  simp only [Position.writes] at wrt second
  split_ifs at wrt <;> omega

/-! ### Readers that leave once -/

/-- A move of a party that leaves only what it has entered keeps the count. -/
theorem Counted.move {position : Position} (counted : Counted lock positions)
    (moves : Move false lock (positions party) next position) :
    Counted next (Function.update positions party position) := by
  rw [Counted, total_eq _ _ party] at counted
  rw [Counted, total_update]
  generalize positions party = current at *
  cases moves with
  | leaveAgain admitted => cases admitted
  | _ =>
    simp only [Position.counts, Position.isCounted, if_true, Bool.false_eq_true, if_false]
      at counted ⊢
    omega

/-- Nobody counts down from zero. -/
theorem Counted.pos (counted : Counted lock positions)
    (member : (positions party).isCounted = true) : 0 < lock.readers := by
  have others := others_nonneg counts_nonneg positions party
  rw [Counted, total_eq _ _ party, Position.counts, member, if_pos rfl] at counted
  omega

/-- While somebody reads, nobody writes. -/
theorem Balanced.not_writing (balanced : Balanced lock positions)
    (counted : Counted lock positions) (reads : positions party = .reading) (other : Party) :
    positions other ≠ .writing := by
  intro writes
  have different : other ≠ party := by
    rintro rfl
    rw [reads] at writes
    cases writes
  have wrt := balanced.wrt
  have writer := le_others writes_nonneg positions different
  have entering := others_le entering_le_counts positions party
  have exiting := others_nonneg exiting_nonneg positions party
  rw [Counted, total_eq _ _ party] at counted
  rw [settled, total_eq _ _ party, total_eq _ _ party, total_eq _ _ party] at wrt
  rw [reads] at wrt counted
  rw [writes] at writer
  simp only [Position.writes, Position.entering, Position.exiting, Position.counts,
    Position.isCounted, if_true] at wrt writer counted
  split_ifs at wrt <;> omega

end Moves

/-! ### Several locks -/

section Locks

variable {Party Resource : Type} [DecidableEq Party] [DecidableEq Resource]
variable {positions : Party → Resource → Position} {party : Party} {resource : Resource}

/-- The positions of the parties at one of the locks after a move of one party at some lock. -/
theorem update_update_apply (position : Position) (other : Resource) :
    (fun member => Function.update positions party
      (Function.update (positions party) resource position) member other) =
      if other = resource then
        Function.update (fun member => positions member resource) party position
      else fun member => positions member other := by
  funext member
  by_cases same : other = resource
  · subst same
    rw [if_pos rfl]
    by_cases own : member = party
    · subst own
      rw [Function.update_self, Function.update_self, Function.update_self]
    · rw [Function.update_of_ne own, Function.update_of_ne own]
  · rw [if_neg same]
    by_cases own : member = party
    · subst own
      rw [Function.update_self, Function.update_of_ne same]
    · rw [Function.update_of_ne own]

/-- What holds of all locks, each with the positions of the parties at it, holds after a move at
one of them if the move keeps it there. -/
theorem forall_locks_move {locks : Resource → Lock}
    {invariant : Lock → (Party → Position) → Prop} {next : Lock} {position : Position}
    (holds : ∀ other, invariant (locks other) fun member => positions member other)
    (kept : invariant next (Function.update (fun member => positions member resource) party
      position)) (other : Resource) :
    invariant (Function.update locks resource next other) fun member =>
      Function.update positions party (Function.update (positions party) resource position)
        member other := by
  rw [update_update_apply]
  by_cases same : other = resource
  · subst same
    rw [Function.update_self, if_pos rfl]
    exact kept
  · rw [Function.update_of_ne same, if_neg same]
    exact holds other

end Locks

/-! ### Deadlocks -/

section Bounded

variable {Party : Type} [Fintype Party]

/-- The counter is not above the number of the counted parties, however often a party that has
not entered leaves. -/
def Bounded (lock : Lock) (positions : Party → Position) : Prop :=
  lock.readers ≤ total Position.counts positions

theorem bounded_unused : Bounded Lock.unused fun _ : Party => .outside :=
  (total_outside rfl).ge

theorem exists_pos_of_total_pos {weight : Position → Int} {positions : Party → Position}
    (positive : 0 < total weight positions) : ∃ party, 0 < weight (positions party) := by
  by_contra none
  push Not at none
  exact absurd positive (not_lt.mpr (Finset.sum_nonpos fun party _ => none party))

/-- A mutex at zero is held. -/
theorem Balanced.exists_holds {lock : Lock} {positions : Party → Position}
    (balanced : Balanced lock positions) (taken : lock.mutex = 0) :
    ∃ party, 0 < (positions party).holds := by
  have mutex := balanced.mutex
  exact exists_pos_of_total_pos (by omega)

/-- The parties that keep the writers out: they write, or they are through with the entry and
not yet through with the exit. -/
def Position.excludes (position : Position) : Int :=
  position.writes + position.counts - position.entering + position.exiting

/-- A semaphore for writing that is at zero has a party that keeps the writers out. -/
theorem Balanced.exists_excludes {lock : Lock} {positions : Party → Position}
    (balanced : Balanced lock positions) (bounded : Bounded lock positions)
    (taken : lock.wrt = 0) : ∃ party, 0 < (positions party).excludes := by
  have wrt := balanced.wrt
  have sum : total Position.excludes positions = total Position.writes positions +
      total Position.counts positions - total Position.entering positions +
        total Position.exiting positions := by
    simp only [total, Position.excludes, Finset.sum_add_distrib, Finset.sum_sub_distrib]
  refine exists_pos_of_total_pos ?_
  have writes : 0 ≤ total Position.writes positions :=
    Finset.sum_nonneg fun party _ => writes_nonneg (positions party)
  have unsettled : 0 ≤ total Position.counts positions - total Position.entering positions +
      total Position.exiting positions := by
    simp only [total, ← Finset.sum_add_distrib, ← Finset.sum_sub_distrib]
    exact Finset.sum_nonneg fun party _ => by
      have entering := entering_le_counts (positions party)
      have exiting := exiting_nonneg (positions party)
      omega
  rw [settled] at wrt
  rw [Bounded] at bounded
  split_ifs at wrt <;> omega

variable [DecidableEq Party]

theorem Bounded.move {lenient : Bool} {lock next : Lock} {positions : Party → Position}
    {party : Party} {position : Position} (bounded : Bounded lock positions)
    (moves : Move lenient lock (positions party) next position) :
    Bounded next (Function.update positions party position) := by
  rw [Bounded, total_eq _ _ party] at bounded
  rw [Bounded, total_update]
  generalize positions party = current at *
  cases moves with
  | _ =>
    simp only [Position.counts, Position.isCounted, if_true, Bool.false_eq_true, if_false]
      at bounded ⊢
    omega

/-- A reader that waits as the first one waits for a writer. -/
theorem Balanced.exists_writing {lock : Lock} {positions : Party → Position} {party : Party}
    (balanced : Balanced lock positions) (waits : positions party = .mustWait)
    (taken : lock.wrt = 0) : ∃ other, positions other = .writing := by
  have mutex := balanced.mutex
  have wrt := balanced.wrt
  have one := balanced.mustWait party waits
  have entering := others_le entering_le_holds positions party
  have exiting := others_le exiting_le_holds positions party
  have exiting' := others_nonneg exiting_nonneg positions party
  have entering' := others_nonneg entering_nonneg positions party
  rw [total_eq _ _ party, waits] at mutex
  rw [settled, total_eq Position.entering _ party, total_eq Position.exiting _ party, waits] at wrt
  simp only [Position.holds, Position.entering, Position.exiting] at mutex wrt
  obtain ⟨other, writes⟩ : ∃ other, 0 < (positions other).writes := by
    refine exists_pos_of_total_pos ?_
    split_ifs at wrt <;> omega
  refine ⟨other, ?_⟩
  generalize positions other = current at writes
  cases current with
  | writing => rfl
  | _ => exact absurd writes (lt_irrefl 0)

end Bounded

section Deadlock

variable {Party Resource : Type} {locks : Resource → Lock} {rank : Resource → Nat}

/-- A party cannot take its next step: the operation has no answer. It is a reader at this lock
alone, or it writes at locks of lower ranks and waits to write at this one. -/
structure Waits (rank : Resource → Nat) (locks : Resource → Lock) (positions : Resource → Position)
    (resource : Resource) (op : LockOp) : Prop where
  allows : allowed true (positions resource) op = true
  elsewhere : ∀ other, other ≠ resource → positions other = .outside ∨
    positions other = .writing ∧ op = .waitWrt ∧ positions resource = .outside ∧
      rank other < rank resource
  blocked : (locks resource).exec op = none

/-- What a party can wait for, and where. -/
theorem Waits.cases {positions : Resource → Position} {resource : Resource} {op : LockOp}
    (waits : Waits rank locks positions resource op) :
    op = .waitMutex ∧ (locks resource).mutex = 0 ∧
        (positions resource = .outside ∨ positions resource = .reading) ∨
      op = .waitWrt ∧ (locks resource).wrt = 0 ∧
        (positions resource = .outside ∨ positions resource = .mustWait) := by
  have allows := waits.allows
  have blocked := waits.blocked
  cases op with
  | waitMutex =>
    rw [Lock.exec, ite_eq_left_iff] at blocked
    refine .inl ⟨rfl, by_contra fun free => ?_, ?_⟩
    · exact absurd (blocked free) (Option.some_ne_none _)
    · generalize positions resource = current at allows ⊢
      cases current <;> first | exact .inl rfl | exact .inr rfl | cases allows
  | waitWrt =>
    rw [Lock.exec, ite_eq_left_iff] at blocked
    refine .inr ⟨rfl, by_contra fun free => ?_, ?_⟩
    · exact absurd (blocked free) (Option.some_ne_none _)
    · generalize positions resource = current at allows ⊢
      cases current <;> first | exact .inl rfl | exact .inr rfl | cases allows
  | _ => cases blocked

/-- Every party is outside of all locks or waits. -/
def Stuck (rank : Resource → Nat) (locks : Resource → Lock)
    (positions : Party → Resource → Position) : Prop :=
  ∀ party, (∀ resource, positions party resource = .outside) ∨
    ∃ resource op, Waits rank locks (positions party) resource op

variable {positions : Party → Resource → Position}

/-- Where the parties can be when everybody is stuck. -/
theorem Stuck.cases (stuck : Stuck rank locks positions) (party : Party) (resource : Resource) :
    positions party resource = .outside ∨
      positions party resource = .reading ∧ (locks resource).mutex = 0 ∨
      positions party resource = .mustWait ∧ (locks resource).wrt = 0 ∨
      positions party resource = .writing ∧ ∃ other, rank resource < rank other ∧
        (locks other).wrt = 0 := by
  rcases stuck party with outside | ⟨waited, op, waits⟩
  · exact .inl (outside resource)
  · by_cases same : resource = waited
    · subst same
      rcases waits.cases with ⟨-, taken, here⟩ | ⟨-, taken, here⟩
      · exact here.imp_right fun reading => .inl ⟨reading, taken⟩
      · exact here.imp_right fun mustWait => .inr (.inl ⟨mustWait, taken⟩)
    · rcases waits.elsewhere resource same with outside | ⟨writing, rfl, -, below⟩
      · exact .inl outside
      · rcases waits.cases with ⟨other, -, -⟩ | ⟨-, taken, -⟩
        · cases other
        · exact .inr (.inr (.inr ⟨writing, waited, below, taken⟩))

variable [Fintype Party] [DecidableEq Party]

/-- Where everybody is stuck and a mutex is taken, somebody writes. -/
theorem Stuck.exists_writing_of_mutex (stuck : Stuck rank locks positions) {resource : Resource}
    (balanced : Balanced (locks resource) fun party => positions party resource)
    (taken : (locks resource).mutex = 0) : ∃ party, positions party resource = .writing := by
  obtain ⟨party, holds⟩ := balanced.exists_holds taken
  rcases stuck.cases party resource with here | ⟨here, -⟩ | ⟨here, wrt⟩ | ⟨here, -⟩
  · exact absurd (here ▸ holds) (lt_irrefl 0)
  · exact absurd (here ▸ holds) (lt_irrefl 0)
  · exact balanced.exists_writing here wrt
  · exact ⟨party, here⟩

/-- Where everybody is stuck and a semaphore for writing is taken, somebody writes. -/
theorem Stuck.exists_writing_of_wrt (stuck : Stuck rank locks positions) {resource : Resource}
    (balanced : Balanced (locks resource) fun party => positions party resource)
    (bounded : Bounded (locks resource) fun party => positions party resource)
    (taken : (locks resource).wrt = 0) : ∃ party, positions party resource = .writing := by
  obtain ⟨party, excludes⟩ := balanced.exists_excludes bounded taken
  rcases stuck.cases party resource with here | ⟨-, mutex⟩ | ⟨here, wrt⟩ | ⟨here, -⟩
  · exact absurd (here ▸ excludes) (lt_irrefl 0)
  · exact stuck.exists_writing_of_mutex balanced mutex
  · exact balanced.exists_writing here wrt
  · exact ⟨party, here⟩

variable [Fintype Resource]

/-- Parties that write in the order of the ranks are never stuck: the writer of the highest rank
would wait for a writer of a higher one. -/
theorem Stuck.not_waits (stuck : Stuck rank locks positions)
    (balanced : ∀ resource, Balanced (locks resource) fun party => positions party resource)
    (bounded : ∀ resource, Bounded (locks resource) fun party => positions party resource)
    (party : Party) (resource : Resource) (op : LockOp) :
    ¬Waits rank locks (positions party) resource op := by
  classical
  have nobody : ¬∃ resource party, positions party resource = .writing := by
    rintro ⟨resource, writes⟩
    obtain ⟨highest, written, greatest⟩ := Finset.exists_max_image
      (Finset.univ.filter fun resource => ∃ party, positions party resource = .writing) rank
      ⟨resource, Finset.mem_filter.mpr ⟨Finset.mem_univ _, writes⟩⟩
    obtain ⟨writer, here⟩ := (Finset.mem_filter.mp written).2
    rcases stuck.cases writer highest with there | ⟨there, -⟩ | ⟨there, -⟩ | ⟨-, other, above, taken⟩
    · exact absurd (here.symm.trans there) (by decide)
    · exact absurd (here.symm.trans there) (by decide)
    · exact absurd (here.symm.trans there) (by decide)
    · have also := stuck.exists_writing_of_wrt (balanced other) (bounded other) taken
      exact absurd (greatest other (Finset.mem_filter.mpr ⟨Finset.mem_univ _, also⟩))
        (not_le.mpr above)
  intro waits
  rcases waits.cases with ⟨-, taken, -⟩ | ⟨-, taken, -⟩
  · exact nobody ⟨resource, stuck.exists_writing_of_mutex (balanced resource) taken⟩
  · exact nobody ⟨resource,
      stuck.exists_writing_of_wrt (balanced resource) (bounded resource) taken⟩

end Deadlock

/-! ### Writers only -/

section Exclusive

variable {Resource Party : Type} {values : Resource → Nat} {held : Party → List Resource}

/-- Each of the semaphores is at one, or it is at zero and at most one party holds it. -/
structure Exclusive (values : Resource → Nat) (held : Party → List Resource) : Prop where
  apart : ∀ {resource party other}, resource ∈ held party → resource ∈ held other → party = other
  taken : ∀ {resource party}, resource ∈ held party → values resource = 0
  binary : ∀ resource, values resource ≤ 1

theorem exclusive_unused : Exclusive (fun _ : Resource => 1) fun _ : Party => [] where
  apart member := absurd member List.not_mem_nil
  taken member := absurd member List.not_mem_nil
  binary _ := le_refl 1

variable [DecidableEq Resource] [DecidableEq Party]

theorem Exclusive.wait (exclusive : Exclusive values held) {resource : Resource}
    (free : values resource ≠ 0) (party : Party) :
    Exclusive (Function.update values resource (values resource - 1))
      (Function.update held party (resource :: held party)) := by
  have nobody : ∀ other, resource ∉ held other := fun other holds =>
    free (exclusive.taken holds)
  have cases : ∀ {wanted other},
      wanted ∈ Function.update held party (resource :: held party) other →
      wanted = resource ∧ other = party ∨ wanted ∈ held other := by
    intro wanted other holds
    by_cases own : other = party
    · rw [own, Function.update_self] at holds
      rcases List.mem_cons.mp holds with new | old
      · exact .inl ⟨new, own⟩
      · exact .inr (own ▸ old)
    · rw [Function.update_of_ne own] at holds
      exact .inr holds
  refine ⟨fun {wanted _ _} first second => ?_, fun {wanted _} holds => ?_, fun wanted => ?_⟩
  · rcases cases first with ⟨rfl, rfl⟩ | before
    · rcases cases second with ⟨-, same⟩ | before
      · exact same.symm
      · exact absurd before (nobody _)
    · rcases cases second with ⟨rfl, -⟩ | before'
      · exact absurd before (nobody _)
      · exact exclusive.apart before before'
  · by_cases same : wanted = resource
    · rw [same, Function.update_self]
      have := exclusive.binary resource
      omega
    · rw [Function.update_of_ne same]
      exact exclusive.taken ((cases holds).resolve_left fun new => same new.1)
  · by_cases same : wanted = resource
    · rw [same, Function.update_self]
      exact (Nat.sub_le _ _).trans (exclusive.binary resource)
    · rw [Function.update_of_ne same]
      exact exclusive.binary wanted

theorem Exclusive.post (exclusive : Exclusive values held) {resource : Resource} {party : Party}
    (holds : resource ∈ held party) :
    Exclusive (Function.update values resource (values resource + 1))
      (Function.update held party ((held party).filter fun other => other ≠ resource)) := by
  have cases : ∀ {wanted other},
      wanted ∈ Function.update held party
        ((held party).filter fun other => other ≠ resource) other →
      wanted ∈ held other ∧ wanted ≠ resource := by
    intro wanted other member
    by_cases own : other = party
    · rw [own, Function.update_self] at member
      obtain ⟨old, different⟩ := List.mem_filter.mp member
      exact ⟨own ▸ old, of_decide_eq_true different⟩
    · rw [Function.update_of_ne own] at member
      refine ⟨member, ?_⟩
      rintro rfl
      exact own (exclusive.apart member holds)
  refine ⟨fun {wanted _ _} first second => ?_, fun {wanted _} member => ?_, fun wanted => ?_⟩
  · exact exclusive.apart (cases first).1 (cases second).1
  · rw [Function.update_of_ne (cases member).2]
    exact exclusive.taken (cases member).1
  · by_cases same : wanted = resource
    · rw [same, Function.update_self, exclusive.taken holds]
    · rw [Function.update_of_ne same]
      exact exclusive.binary wanted

end Exclusive

end ReaderWriter
