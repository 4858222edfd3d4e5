/-
This file is the join library of the development: rows of one table that are looked up by a key
for each key of a list, in nested loops. The keys come from another table, and each of them stands
there once.

The rows that a join lists are the rows with a listed key, each one once (`grouped_perm`). They
stand in the order of the keys (`grouped_pairwise`), and the rows of one key in their old order
(`filter_grouped`). Nothing else of the table matters (`grouped_congr`).

The other way around, items that are looked up in a table with distinct keys are all shown exactly
if each of their keys is in the table (`flatMap_lookup_eq_iff`).
-/

import Mathlib.Data.List.Nodup
import Mathlib.Data.List.Flatten

namespace Joins

variable {Row Key : Type} [DecidableEq Key] {key : Row → Key} {keys : List Key}
variable {rows rows' : List Row}

/-- The rows that nested loops over the keys and the rows list. -/
def grouped (key : Row → Key) (keys : List Key) (rows : List Row) : List Row :=
  keys.flatMap fun sought => rows.filter fun row => key row == sought

@[simp] theorem grouped_nil : grouped key [] rows = [] := rfl

theorem grouped_cons (sought : Key) :
    grouped key (sought :: keys) rows =
      rows.filter (fun row => key row == sought) ++ grouped key keys rows := rfl

/-- The rows of a listed key keep their order. -/
theorem filter_grouped (distinct : keys.Nodup) (sought : Key) :
    (grouped key keys rows).filter (fun row => key row == sought) =
      if sought ∈ keys then rows.filter fun row => key row == sought else [] := by
  induction keys with
  | nil => rfl
  | cons first keys inductionHypothesis =>
    obtain ⟨fresh, others⟩ := List.nodup_cons.mp distinct
    rw [grouped_cons, List.filter_append, List.filter_filter, inductionHypothesis others]
    by_cases same : sought = first
    · subst same
      rw [if_neg fresh, if_pos List.mem_cons_self, List.append_nil]
      exact List.filter_congr fun row _ => Bool.and_self _
    · have none : (rows.filter fun row => (key row == sought) && (key row == first)) = [] := by
        refine List.filter_eq_nil_iff.mpr fun row _ both => same ?_
        simp only [Bool.and_eq_true, beq_iff_eq] at both
        exact both.1.symm.trans both.2
      rw [none, List.nil_append]
      exact if_congr (by simp [same]) rfl rfl

/-- The rows with a listed key, each of them once. -/
theorem grouped_perm (distinct : keys.Nodup) :
    (grouped key keys rows).Perm (rows.filter fun row => key row ∈ keys) := by
  induction keys with
  | nil => simp
  | cons first keys inductionHypothesis =>
    obtain ⟨fresh, others⟩ := List.nodup_cons.mp distinct
    have firstRows : (rows.filter fun row => key row ∈ first :: keys).filter
        (fun row => key row == first) = rows.filter fun row => key row == first := by
      rw [List.filter_filter]
      refine List.filter_congr fun row _ => ?_
      by_cases same : key row = first <;> simp [same]
    have otherRows : (rows.filter fun row => key row ∈ first :: keys).filter
        (fun row => !(key row == first)) = rows.filter fun row => key row ∈ keys := by
      rw [List.filter_filter]
      refine List.filter_congr fun row _ => ?_
      by_cases same : key row = first
      · simp [same, fresh]
      · simp [same]
    have parts := List.filter_append_perm (fun row => key row == first)
      (rows.filter fun row => key row ∈ first :: keys)
    rw [firstRows, otherRows] at parts
    exact ((inductionHypothesis others).append_left _).trans parts

/-- Rows with other keys do not matter. -/
theorem grouped_congr
    (same : (rows.filter fun row => key row ∈ keys) = rows'.filter fun row => key row ∈ keys) :
    grouped key keys rows = grouped key keys rows' := by
  have restrict (table : List Row) : ∀ sought ∈ keys,
      (table.filter fun row => key row ∈ keys).filter (fun row => key row == sought) =
        table.filter fun row => key row == sought := by
    intro sought listed
    rw [List.filter_filter]
    refine List.filter_congr fun row _ => ?_
    by_cases own : key row = sought
    · simp [own, listed]
    · simp [own]
  refine List.flatMap_congr fun sought listed => ?_
  rw [← restrict rows sought listed, same, restrict rows' sought listed]

/-- Keys that stand in a list of distinct keys in its order have increasing positions there. -/
theorem pairwise_idxOf {all : List Key} (distinct : all.Nodup) (ordered : keys.Sublist all) :
    keys.Pairwise fun first second => all.idxOf first ≤ all.idxOf second := by
  refine List.Pairwise.sublist ordered ?_
  rw [List.pairwise_iff_getElem]
  intro place later bound bound' less
  rw [distinct.idxOf_getElem place bound, distinct.idxOf_getElem later bound']
  exact Nat.le_of_lt less

/-- The rows stand in the order of their keys. -/
theorem grouped_pairwise {all : List Key} (distinct : all.Nodup) (ordered : keys.Sublist all) :
    (grouped key keys rows).Pairwise fun first second =>
      all.idxOf (key first) ≤ all.idxOf (key second) := by
  have own {sought : Key} {row : Row} (member : row ∈ rows.filter fun row => key row == sought) :
      key row = sought := by simpa using List.of_mem_filter member
  rw [grouped, List.pairwise_flatMap]
  constructor
  · intro sought _
    refine List.pairwise_of_forall_mem_list fun first inFirst second inSecond => ?_
    have same : key first = key second := (own inFirst).trans (own inSecond).symm
    exact Nat.le_of_eq (congrArg all.idxOf same)
  · refine (pairwise_idxOf distinct ordered).imp fun less first inFirst second inSecond => ?_
    rw [own inFirst, own inSecond]
    exact less

/-- With distinct keys there is one row for the key of a row. -/
theorem filter_key_eq_singleton (distinct : (rows.map key).Nodup) {row : Row}
    (member : row ∈ rows) : rows.filter (fun other => key other == key row) = [row] := by
  induction rows with
  | nil => cases member
  | cons first rows inductionHypothesis =>
    obtain ⟨fresh, others⟩ := List.nodup_cons.mp distinct
    rcases List.mem_cons.mp member with rfl | rest
    · have none : rows.filter (fun other => key other == key row) = [] := by
        refine List.filter_eq_nil_iff.mpr fun other inRows same => fresh ?_
        exact List.mem_map.mpr ⟨other, inRows, by simpa using same⟩
      rw [List.filter_cons_of_pos (by simp), none]
    · have different : key first ≠ key row := fun same =>
        fresh (same ▸ List.mem_map_of_mem rest)
      rw [List.filter_cons_of_neg (by simpa using different), inductionHypothesis others rest]

/-! ### Lookups -/

section Lookups

variable {Item Name Out : Type} {sought : Item → Key} {column : Row → Name} {name : Key → Name}
variable {shown : Item → Name → List Out}

/-- Where what is left out of one list stands whole in the other one, the lists are equal only if
nothing is left out. -/
theorem flatMap_eq_flatMap_iff {items : List Item} {part whole : Item → List Out}
    (either : ∀ item ∈ items, part item = whole item ∨ part item = [] ∧ whole item ≠ []) :
    items.flatMap part = items.flatMap whole ↔ ∀ item ∈ items, part item = whole item := by
  induction items with
  | nil => simp
  | cons item items inductionHypothesis =>
    rw [List.forall_mem_cons] at either ⊢
    rw [List.flatMap_cons, List.flatMap_cons, ← inductionHypothesis either.2]
    rcases either.1 with same | ⟨none, some⟩
    · rw [same, List.append_cancel_left_eq]
      exact (and_iff_right rfl).symm
    · -- what is left out makes the first list shorter
      have others : (items.flatMap part).Sublist (items.flatMap whole) :=
        List.Sublist.flatMap_right items fun other member => by
          rcases either.2 other member with same | ⟨none, -⟩
          · rw [same]
          · rw [none]
            exact List.nil_sublist _
      rw [none, List.nil_append]
      refine iff_of_false (fun same => ?_) fun both => some both.1.symm
      have lengths := others.length_le
      rw [same, List.length_append] at lengths
      have filled := List.length_pos_iff.mpr some
      omega

/-- The items with their names are all shown exactly if each name is looked up. -/
theorem flatMap_lookup_eq_iff (distinct : (rows.map key).Nodup)
    (names : ∀ row ∈ rows, name (key row) = column row)
    (seen : ∀ item text, shown item text ≠ []) {items : List Item} :
    (items.flatMap fun item =>
        (rows.filter fun row => key row == sought item).flatMap fun row =>
          shown item (column row)) =
        (items.flatMap fun item => shown item (name (sought item))) ↔
      ∀ item ∈ items, sought item ∈ rows.map key := by
  have found {item : Item} (listed : sought item ∈ rows.map key) :
      ((rows.filter fun row => key row == sought item).flatMap fun row =>
        shown item (column row)) = shown item (name (sought item)) := by
    obtain ⟨row, member, same⟩ := List.mem_map.mp listed
    rw [← same, filter_key_eq_singleton distinct member, List.flatMap_singleton, names row member]
  have missed {item : Item} (unlisted : sought item ∉ rows.map key) :
      ((rows.filter fun row => key row == sought item).flatMap fun row =>
        shown item (column row)) = [] := by
    have none : (rows.filter fun row => key row == sought item) = [] := by
      refine List.filter_eq_nil_iff.mpr fun row member same => unlisted ?_
      exact List.mem_map.mpr ⟨row, member, eq_of_beq same⟩
    rw [none, List.flatMap_nil]
  rw [flatMap_eq_flatMap_iff]
  · refine forall₂_congr fun item _ => ⟨fun same => ?_, found⟩
    by_contra unlisted
    exact seen _ _ (same.symm.trans (missed unlisted))
  · intro item _
    by_cases listed : sought item ∈ rows.map key
    · exact .inl (found listed)
    · exact .inr ⟨missed listed, seen _ _⟩

end Lookups

end Joins
