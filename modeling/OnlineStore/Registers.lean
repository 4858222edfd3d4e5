/-
This file is the register library of the development: finite tables in which every row has a key
of its own and no key is blank. A register is what an array of records is for. A lookup has at
most one answer, a new row needs a key that is not in use, and a change of rows keeps their keys.

The last section is the bridge to arrays of cells: the update of the first row found is the update
of the row with the key.
-/

import OnlineStore.Cells
import Mathlib.Data.List.Nodup

namespace Registers

open Cells

/-- Rows with keys of their own, none of them blank. -/
structure Register (Row Key : Type) (key : Row → Key) (blank : Key) where
  rows : List Row
  distinct : (rows.map key).Nodup
  named : ∀ row ∈ rows, key row ≠ blank

section Register

variable {Row Key : Type} [DecidableEq Key] {key : Row → Key} {blank : Key}

namespace Register

/-! ### Operations -/

/-- The row with a key. -/
def lookup (register : Register Row Key key blank) (sought : Key) : Option Row :=
  register.rows.find? fun row => key row == sought

/-- A key for a new row. -/
def Fresh (register : Register Row Key key blank) (candidate : Key) : Prop :=
  candidate ≠ blank ∧ ∀ row ∈ register.rows, key row ≠ candidate

instance (register : Register Row Key key blank) (candidate : Key) :
    Decidable (register.Fresh candidate) :=
  inferInstanceAs (Decidable (_ ∧ _))

/-- The register with one more row. -/
def insert (register : Register Row Key key blank) (row : Row)
    (fresh : register.Fresh (key row)) : Register Row Key key blank where
  rows := register.rows ++ [row]
  distinct := by
    rw [List.map_append, List.nodup_append']
    refine ⟨register.distinct, List.nodup_singleton _, ?_⟩
    rw [List.map_singleton, List.disjoint_singleton]
    intro listed
    obtain ⟨other, member, same⟩ := List.mem_map.mp listed
    exact fresh.2 other member same
  named other member := by
    rcases List.mem_append.mp member with old | new
    · exact register.named other old
    · exact List.mem_singleton.mp new ▸ fresh.1

/-- The register after a change of its rows that keeps their keys. -/
def map (register : Register Row Key key blank) (change : Row → Row)
    (keeps : ∀ row, key (change row) = key row) : Register Row Key key blank where
  rows := register.rows.map change
  distinct := by
    have keys : key ∘ change = key := funext keeps
    rw [List.map_map, keys]
    exact register.distinct
  named row member := by
    obtain ⟨before, inside, rfl⟩ := List.mem_map.mp member
    exact keeps before ▸ register.named before inside

/-- A change of the row with a key. -/
def changeAt (key : Row → Key) (target : Key) (change : Row → Row) (row : Row) : Row :=
  if key row = target then change row else row

theorem key_changeAt {change : Row → Row} (keeps : ∀ row, key (change row) = key row)
    (target : Key) (row : Row) : key (changeAt key target change row) = key row := by
  rw [changeAt]
  split
  · exact keeps row
  · rfl

/-- The register after a change of the row with a key. -/
def update (register : Register Row Key key blank) (target : Key) (change : Row → Row)
    (keeps : ∀ row, key (change row) = key row) : Register Row Key key blank :=
  register.map (changeAt key target change) (key_changeAt keeps target)

/-- The register without the row with a key. -/
def remove (register : Register Row Key key blank) (target : Key) :
    Register Row Key key blank where
  rows := register.rows.filter fun row => key row != target
  distinct := (List.filter_sublist.map key).nodup register.distinct
  named row member := register.named row (List.mem_of_mem_filter member)

/-! ### Lookups -/

variable {register : Register Row Key key blank} {sought : Key} {row : Row}

/-- A lookup finds the only row with the key. -/
theorem lookup_eq_some_iff :
    register.lookup sought = some row ↔ row ∈ register.rows ∧ key row = sought := by
  constructor
  · intro found
    exact ⟨List.mem_of_find?_eq_some found, by simpa using List.find?_some found⟩
  · rintro ⟨member, rfl⟩
    obtain ⟨first, found⟩ : ∃ first, register.lookup (key row) = some first :=
      Option.isSome_iff_exists.mp (List.find?_isSome.mpr ⟨row, member, BEq.rfl⟩)
    have hit : key first = key row := by simpa using List.find?_some found
    have same := List.inj_on_of_nodup_map register.distinct (List.mem_of_find?_eq_some found)
      member hit
    exact same ▸ found

theorem lookup_eq_none_iff :
    register.lookup sought = none ↔ ∀ row ∈ register.rows, key row ≠ sought := by
  simp [lookup]

omit [DecidableEq Key] in
/-- Rows with one key are one row. -/
theorem eq_of_key_eq {other : Row} (member : row ∈ register.rows)
    (member' : other ∈ register.rows) (same : key row = key other) : row = other :=
  List.inj_on_of_nodup_map register.distinct member member' same

/-- An insertion leaves the other rows where they are found. -/
theorem lookup_insert_of_isSome {added : Row} (fresh : register.Fresh (key added))
    (present : (register.lookup sought).isSome) :
    (register.insert added fresh).lookup sought = register.lookup sought := by
  obtain ⟨row, found⟩ := Option.isSome_iff_exists.mp present
  obtain ⟨member, named⟩ := lookup_eq_some_iff.mp found
  rw [found]
  exact lookup_eq_some_iff.mpr ⟨List.mem_append_left _ member, named⟩

theorem lookup_map (change : Row → Row) (keeps : ∀ row, key (change row) = key row) :
    (register.map change keeps).lookup sought = (register.lookup sought).map change := by
  have keys : (fun row => key row == sought) ∘ change = fun row => key row == sought :=
    funext fun row => by rw [Function.comp_apply, keeps]
  rw [lookup, map, List.find?_map, keys, lookup]

theorem lookup_update (target : Key) (change : Row → Row)
    (keeps : ∀ row, key (change row) = key row) :
    (register.update target change keeps).lookup sought =
      (register.lookup sought).map (changeAt key target change) :=
  lookup_map _ _

end Register

/-- All rows with a key are the one that is looked up. -/
theorem Register.filter_rows (register : Register Row Key key blank) (sought : Key) :
    (register.rows.filter fun row => key row == sought) = (register.lookup sought).toList := by
  cases found : register.lookup sought with
  | none =>
    refine List.filter_eq_nil_iff.mpr fun row member same => ?_
    exact Register.lookup_eq_none_iff.mp found row member (eq_of_beq same)
  | some row =>
    obtain ⟨member, rfl⟩ := Register.lookup_eq_some_iff.mp found
    obtain ⟨before, after, split⟩ := List.append_of_mem member
    have distinct := register.distinct
    rw [split, List.map_append, List.map_cons, List.nodup_middle, List.nodup_cons,
      List.mem_append, not_or] at distinct
    have others (rows : List Row) (absent : key row ∉ rows.map key) :
        (rows.filter fun other => key other == key row) = [] :=
      List.filter_eq_nil_iff.mpr fun other inside same =>
        absent (eq_of_beq same ▸ List.mem_map_of_mem inside)
    rw [split, List.filter_append, List.filter_cons, others before distinct.1.1,
      others after distinct.1.2, if_pos BEq.rfl]
    rfl

/-- What belongs to the rows of a register, read for one key, belongs to one row. -/
theorem Register.flatMap_rows {Part : Type} (register : Register Row Key key blank)
    (parts : Row → List Part) (sought : Key) :
    (register.rows.flatMap fun row => if key row = sought then parts row else []) =
      (register.lookup sought).toList.flatMap parts := by
  rw [← Register.filter_rows]
  induction register.rows with
  | nil => rfl
  | cons row rows inductionHypothesis =>
    by_cases same : key row = sought <;> simp [same, inductionHypothesis]

/-! ### Registers in arrays -/

variable (register : Register Row Key key blank)

/-- The update of the first row found is the update of the row with the key. -/
theorem Register.updateFirst_rows (target : Key) (change : Row → Row)
    (keeps : ∀ row, key (change row) = key row) :
    updateFirst (fun row => key row == target) change register.rows =
      (register.update target change keeps).rows :=
  updateFirst_eq_map register.distinct target

end Register

end Registers
