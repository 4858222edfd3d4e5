/-
This file is the buffer library of the development: arrays of a fixed size with the accesses that
C leaves unchecked, and strings kept in arrays of characters.

An access that C does not define is a `Fault`. A zeroed array of characters that a string is
written to from the front on `Holds` the string. The strings that `strcat` collects fit an array
exactly if their lengths and that of the string in front of them do (`accumulate_isSome_iff`).
-/

import OnlineStore.Strtok
import Mathlib.Data.List.GetD

namespace Buffers

open CString Strtok

/-- What a program must not do. -/
inductive Fault where
  | nullPointer
  | outOfBounds
  deriving DecidableEq

/-! ### Arrays -/

/-- A change of one place of an array. -/
def modify {Cell : Type} {size : Nat} (array : Vector Cell size) (place : Nat)
    (change : Cell → Cell) : Except Fault (Vector Cell size) :=
  if inside : place < size then .ok (array.set place (change array[place])) else .error .outOfBounds

theorem modify_of_lt {Cell : Type} {size : Nat} (array : Vector Cell size) {place : Nat}
    (change : Cell → Cell) (inside : place < size) :
    modify array place change = .ok (array.set place (change array[place])) := by
  rw [modify, dif_pos inside]

theorem modify_of_le {Cell : Type} {size : Nat} (array : Vector Cell size) {place : Nat}
    (change : Cell → Cell) (past : size ≤ place) :
    modify array place change = .error .outOfBounds := by
  rw [modify, dif_neg (Nat.not_lt.mpr past)]

/-! ### Strings in arrays -/

/-- The string at the front of an array. -/
def string {size : Nat} (array : Vector Char size) : Text :=
  stringAt array.toList 0

def strlen {size : Nat} (array : Vector Char size) : Nat :=
  (string array).length

/-- `strncpy`: the first `count` places take the characters of the source, and NULs after its
end. -/
def strncpy {size : Nat} (array : Vector Char size) (source : Text) (count : Nat) :
    Vector Char size :=
  Vector.ofFn fun place => if place < count then source.getD place nul else array[place]

/-- An array that holds a string and nothing but NULs behind it. -/
structure Holds {size : Nat} (array : Vector Char size) (text : Text) : Prop where
  nulFree : nul ∉ text
  content : array.toList = text ++ List.replicate (size - text.length) nul

theorem holds_zeroed (size : Nat) : Holds (Vector.replicate size nul) [] :=
  ⟨List.not_mem_nil, by simp⟩

namespace Holds

variable {size : Nat} {array : Vector Char size} {text : Text}

theorem string (holds : Holds array text) : string array = text := by
  have kept : ∀ char ∈ text, (char != nul) = true := fun char member =>
    bne_iff_ne.mpr fun same => holds.nulFree (same ▸ member)
  rw [Buffers.string, stringAt, holds.content, List.drop_zero,
    List.takeWhile_append_of_pos kept, List.takeWhile_replicate_eq_filter]
  simp

theorem strlen (holds : Holds array text) : strlen array = text.length := by
  rw [Buffers.strlen, holds.string]

theorem length_le (holds : Holds array text) : text.length ≤ size := by
  have lengths := congrArg List.length holds.content
  rw [Vector.length_toList, List.length_append, List.length_replicate] at lengths
  omega

/-- A character that is stored behind the string is part of it. -/
theorem modify_end (holds : Holds array text) (room : text.length < size) {char : Char}
    (isChar : char ≠ nul) :
    ∃ longer, modify array text.length (fun _ => char) = .ok longer ∧
      Holds longer (text ++ [char]) := by
  refine ⟨_, modify_of_lt array _ room, ?_, ?_⟩
  · rw [List.mem_append, List.mem_singleton, not_or]
    exact ⟨holds.nulFree, isChar.symm⟩
  · obtain ⟨left, more⟩ : ∃ left, size - text.length = left + 1 :=
      Nat.exists_eq_add_one.mpr (Nat.sub_pos_of_lt room)
    have fewer : size - (text ++ [char]).length = left := by
      rw [List.length_append, List.length_singleton]
      omega
    rw [Vector.toList_set, holds.content, more, fewer, List.replicate_succ, List.set_append_right,
      Nat.sub_self, List.set_cons_zero, List.append_assoc, List.singleton_append]
    exact Nat.le_refl _

/-- A string that is replaced by one of its length. -/
theorem strncpy (holds : Holds array text) {source : Text} (lengths : source.length = text.length)
    (nulFree : nul ∉ source) : Holds (strncpy array source text.length) source := by
  refine ⟨nulFree, List.ext_getElem ?_ fun place inside inside' => ?_⟩
  · have bound := holds.length_le
    rw [Vector.length_toList, List.length_append, List.length_replicate, lengths]
    omega
  · rw [Vector.length_toList] at inside
    simp only [Buffers.strncpy, Vector.getElem_toList, Vector.getElem_ofFn]
    by_cases front : place < text.length
    · rw [if_pos front, List.getElem_append_left (lengths ▸ front),
        List.getD_eq_getElem _ _ (lengths ▸ front)]
    · have within : place < array.toList.length := by rwa [Vector.length_toList]
      have behind : array.toList[place] = nul := by
        simp only [holds.content, List.getElem_append_right (Nat.le_of_not_lt front),
          List.getElem_replicate]
      rw [Vector.getElem_toList] at behind
      rw [if_neg front, List.getElem_append_right (lengths ▸ Nat.le_of_not_lt front),
        List.getElem_replicate]
      exact behind

end Holds

/-! ### Collecting strings -/

/-- `strcat`; there is no result when the array overflows. -/
def strcat {size : Nat} (array : CharArray size) (source : Text) : Option (CharArray size) :=
  strcpy size (array.val ++ source)

/-- Calls of `strcat`, one after the other. -/
def accumulate {size : Nat} (array : CharArray size) : List Text → Option (CharArray size)
  | [] => some array
  | piece :: pieces => do accumulate (← strcat array piece) pieces

/-- The law of `strcat`: the pieces stand one behind the other. -/
theorem accumulate_eq_some_iff {size : Nat} {array result : CharArray size} {pieces : List Text} :
    accumulate array pieces = some result ↔ result.val = array.val ++ pieces.flatten := by
  induction pieces generalizing array with
  | nil =>
    rw [accumulate, List.flatten_nil, List.append_nil, Option.some.injEq, eq_comm, Subtype.ext_iff]
  | cons piece pieces inductionHypothesis =>
    rw [accumulate, Option.bind_eq_bind, Option.bind_eq_some_iff, List.flatten_cons,
      ← List.append_assoc]
    constructor
    · rintro ⟨longer, copied, rest⟩
      rw [inductionHypothesis.mp rest, strcpy_eq_some_iff.mp copied]
    · intro whole
      have fits := result.property
      rw [whole, List.length_append] at fits
      exact ⟨⟨_, by omega⟩, strcpy_eq_some_iff.mpr rfl, inductionHypothesis.mpr whole⟩

/-- Every one of the calls finds room if the last one does. -/
theorem accumulate_isSome_iff {size : Nat} (array : CharArray size) (pieces : List Text) :
    (accumulate array pieces).isSome = true ↔
      array.val.length + (pieces.map List.length).sum < size := by
  rw [Option.isSome_iff_exists, ← List.length_flatten, ← List.length_append]
  constructor
  · rintro ⟨result, collected⟩
    rw [← accumulate_eq_some_iff.mp collected]
    exact result.property
  · intro fits
    exact ⟨⟨_, fits⟩, accumulate_eq_some_iff.mpr rfl⟩

end Buffers
