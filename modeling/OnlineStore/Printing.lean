/-
This file runs `intToCharArray` on its array, statement by statement. The loop stores the digits of
a number from the last one on, behind one another, and the string is then turned around in place.

The loop ends on every number, since the division truncates towards zero, and it never needs more
than ten places. What it leaves is the text `intToCharArray` of the model of the tables
(`string_of_prints`). So a number can be read back if and only if it is positive: zero ends the
loop before its first round, and the remainders of a negative number are handled by no case of the
`switch` but the one for zero.
-/

import OnlineStore.Buffers
import OnlineStore.Loops
import OnlineStore.Numerals

namespace OnlineStore

open CString Buffers Loops Strtok

/-- The array that the write-back functions have numbers printed into. -/
abbrev ResultArray := Vector Char 100

/-- The array after `memset`. -/
def zeroedResult : ResultArray := Vector.replicate 100 nul

/-! ### The digits -/

/-- The variables of the loop of `intToCharArray`. -/
structure DigitLoop where
  temp : Int
  position : Nat
  result : ResultArray

/-- The test of the loop, and its `switch` where the loop goes on. The `default` case stores
nothing and leaves the position as it is. -/
def DigitLoop.round (state : DigitLoop) : Outcome DigitLoop (Except Fault ResultArray) :=
  if state.temp = 0 then .stop (.ok state.result)
  else match digitChar (state.temp.tmod 10) with
    | [] => .goOn { state with temp := state.temp.tdiv 10 }
    | digit :: _ =>
      match modify state.result state.position fun _ => digit with
      | .error fault => .stop (.error fault)
      | .ok result => .goOn {
          temp := state.temp.tdiv 10
          position := state.position + 1
          result := result }

/-- The reversal at the end: the `for` loop fills `rev` from the last character on, and `strncpy`
copies it over the string. -/
def reversed (result : ResultArray) : ResultArray :=
  let length := strlen result
  let rev := (List.range length).map fun x => result.toList.getD (length - 1 - x) nul
  strncpy result rev length

/-- The call of `intToCharArray` with this number and this array returns, without a store outside
the array, and leaves the other array. -/
def Prints (change : Int32) (result left : ResultArray) : Prop :=
  ∃ digits, Exits DigitLoop.round ⟨change.toInt, 0, result⟩ (.ok digits) ∧ left = reversed digits

/-! ### The loop -/

/-- The loop has written a part of the digits, and what is left of the number gives the others. -/
structure DigitLoop.Written (whole : Text) (state : DigitLoop) (written : Text) (rounds : Nat) :
    Prop where
  holds : Holds state.result written
  position : state.position = written.length
  enough : state.temp.natAbs ≤ rounds
  whole : written ++ digitLoop rounds state.temp = whole

theorem natAbs_tdiv_lt {temp : Int} (nonzero : temp ≠ 0) :
    (temp.tdiv 10).natAbs < temp.natAbs := by
  have quotient : (temp.tdiv 10).natAbs = temp.natAbs / 10 := Int.natAbs_tdiv temp 10
  omega

namespace DigitLoop

variable {whole : Text} {state next : DigitLoop} {written : Text} {rounds : Nat}

/-- What one round does: the digit of the remainder, if it has one, is stored behind the others. -/
theorem Written.round (progress : state.Written whole written rounds)
    (digits : ∀ char ∈ whole, char ≠ nul) (short : whole.length ≤ 100) (nonzero : state.temp ≠ 0) :
    ∃ next rounds, state.round = .goOn next ∧ next.temp = state.temp.tdiv 10 ∧
      next.Written whole (written ++ digitChar (state.temp.tmod 10)) rounds := by
  obtain ⟨rounds, rfl⟩ : ∃ fewer, rounds = fewer + 1 := by
    have enough := progress.enough
    exact Nat.exists_eq_add_one.mpr (by omega)
  have smaller := natAbs_tdiv_lt nonzero
  have enough := progress.enough
  have rest := progress.whole
  rw [digitLoop, if_neg nonzero, ← List.append_assoc] at rest
  rcases digitChar_cases (state.temp.tmod 10) with none | ⟨digit, some⟩
  · refine ⟨{ state with temp := state.temp.tdiv 10 }, rounds, ?_, rfl, ?_⟩
    · rw [DigitLoop.round, if_neg nonzero, none]
    · rw [none, List.append_nil] at rest ⊢
      refine ⟨progress.holds, progress.position, ?_, rest⟩
      show (state.temp.tdiv 10).natAbs ≤ rounds
      omega
  · rw [some] at rest ⊢
    have member : digit ∈ whole := by
      rw [← rest]
      simp
    have room : written.length < 100 := by
      have lengths := congrArg List.length rest
      rw [List.length_append, List.length_append, List.length_singleton] at lengths
      omega
    obtain ⟨longer, stored, holds⟩ := progress.holds.modify_end room (digits digit member)
    refine ⟨⟨state.temp.tdiv 10, state.position + 1, longer⟩, rounds, ?_, rfl, holds, ?_, ?_, rest⟩
    · rw [← progress.position] at stored
      simp only [DigitLoop.round, if_neg nonzero, some, stored]
    · rw [List.length_append, List.length_singleton, ← progress.position]
    · show (state.temp.tdiv 10).natAbs ≤ rounds
      omega

/-- A loop that has written a part of the digits ends with all of them. -/
theorem Written.exits (progress : state.Written whole written rounds)
    (digits : ∀ char ∈ whole, char ≠ nul) (short : whole.length ≤ 100) :
    ∃ result, Exits DigitLoop.round state (.ok result) ∧ Holds result whole := by
  have goesOn (state next : DigitLoop)
      (progress : ∃ written rounds, state.Written whole written rounds)
      (outcome : state.round = .goOn next) :
      (∃ written rounds, next.Written whole written rounds) ∧
        next.temp.natAbs < state.temp.natAbs := by
    obtain ⟨written, rounds, progress⟩ := progress
    by_cases zero : state.temp = 0
    · rw [DigitLoop.round, if_pos zero] at outcome
      cases outcome
    · obtain ⟨next', rounds', outcome', temp, progress'⟩ := progress.round digits short zero
      rw [outcome'] at outcome
      obtain rfl := Outcome.goOn.inj outcome
      exact ⟨⟨_, _, progress'⟩, temp ▸ natAbs_tdiv_lt zero⟩
  have stops (state : DigitLoop) (result : Except Fault ResultArray)
      (progress : ∃ written rounds, state.Written whole written rounds)
      (outcome : state.round = .stop result) : ∃ array, result = .ok array ∧ Holds array whole := by
    obtain ⟨written, rounds, progress⟩ := progress
    by_cases zero : state.temp = 0
    · rw [DigitLoop.round, if_pos zero] at outcome
      have all := progress.whole
      rw [zero, digitLoop_zero, List.append_nil] at all
      exact ⟨state.result, (Outcome.stop.inj outcome).symm, all ▸ progress.holds⟩
    · obtain ⟨next, rounds', outcome', -⟩ := progress.round digits short zero
      rw [outcome'] at outcome
      cases outcome
  obtain ⟨_, ends, array, rfl, holds⟩ := exists_exits _ (fun state => state.temp.natAbs) _
    goesOn stops ⟨written, rounds, progress⟩
  exact ⟨array, ends, holds⟩

/-- On a zeroed array the loop leaves the digits of the number, last one first. -/
theorem exits_zeroed (change : Int32) :
    ∃ digits, Exits DigitLoop.round ⟨change.toInt, 0, zeroedResult⟩ (.ok digits) ∧
      Holds digits (digitLoop change.toInt.natAbs change.toInt) := by
  have start : Written (digitLoop change.toInt.natAbs change.toInt)
      ⟨change.toInt, 0, zeroedResult⟩ [] change.toInt.natAbs :=
    ⟨holds_zeroed 100, rfl, Nat.le_refl _, rfl⟩
  refine start.exits (fun char member => ?_) ?_
  · rintro rfl
    exact absurd (isDigit_of_mem_intToCharArray (List.mem_reverse.mpr member)) (by decide)
  · have bound := length_intToCharArray_le change
    rw [intToCharArray, List.length_reverse] at bound
    omega

end DigitLoop

/-! ### The whole function -/

theorem holds_reversed {result : ResultArray} {text : Text} (holds : Holds result text) :
    Holds (reversed result) text.reverse := by
  have rev : (List.range text.length).map
      (fun x => result.toList.getD (text.length - 1 - x) nul) = text.reverse := by
    refine List.ext_getElem (by simp) fun place inside inside' => ?_
    rw [List.length_reverse] at inside'
    have within : text.length - 1 - place < text.length := by omega
    rw [List.getElem_map, List.getElem_range, List.getElem_reverse, holds.content,
      List.getD_eq_getElem?_getD, List.getElem?_append_left within, List.getElem?_eq_getElem within]
    rfl
  have nulFree : nul ∉ text.reverse := fun member => holds.nulFree (List.mem_reverse.mp member)
  simp only [reversed, holds.strlen, rev]
  exact holds.strncpy (List.length_reverse) nulFree

theorem exists_prints (change : Int32) : ∃ left, Prints change zeroedResult left := by
  obtain ⟨digits, ends, -⟩ := DigitLoop.exits_zeroed change
  exact ⟨_, digits, ends, rfl⟩

/-- The array holds the text of the number. -/
theorem string_of_prints {change : Int32} {left : ResultArray}
    (prints : Prints change zeroedResult left) : string left = intToCharArray change := by
  obtain ⟨digits, ends, rfl⟩ := prints
  obtain ⟨digits', ends', holds⟩ := DigitLoop.exits_zeroed change
  cases ends.unique ends'
  exact (holds_reversed holds).string

/-- Digits, with or without a sign. -/
def IsNumeral (text : Text) : Prop :=
  ∃ digits, (text = digits ∨ text = '-' :: digits) ∧ digits ≠ [] ∧
    ∀ char ∈ digits, char.isDigit = true

/-- A number is printed so that it can be read back exactly if it is positive. -/
theorem prints_readable_iff (number : Int32) :
    (∃ left, Prints number zeroedResult left ∧ IsNumeral (string left) ∧
      atoi (string left) = number) ↔ 0 < number := by
  constructor
  · rintro ⟨left, prints, numeral, read⟩
    rw [string_of_prints prints] at numeral read
    refine (printed_iff number).mp ⟨?_, read⟩
    rintro empty
    obtain ⟨digits, rfl | same, nonempty, -⟩ := numeral
    · exact nonempty empty
    · rw [empty] at same
      cases same
  · intro positive
    obtain ⟨left, prints⟩ := exists_prints number
    obtain ⟨nonempty, read⟩ := (printed_iff number).mpr positive
    refine ⟨left, prints, ?_, ?_⟩
    · rw [string_of_prints prints]
      exact ⟨_, .inl rfl, nonempty, fun char member => isDigit_of_mem_intToCharArray member⟩
    · rw [string_of_prints prints, read]

/-- The quantity of a product that is sold out, and an order's total below zero. -/
theorem soldOut_not_readable :
    ¬(∃ left, Prints 0 zeroedResult left ∧ IsNumeral (string left) ∧ atoi (string left) = 0) ∧
      ¬(∃ left, Prints (-250) zeroedResult left ∧ IsNumeral (string left) ∧
        atoi (string left) = -250) := by
  constructor
  · rintro ⟨left, prints, ⟨digits, shape, nonempty, -⟩, -⟩
    rw [string_of_prints prints, show intToCharArray 0 = [] from rfl] at shape
    rcases shape with rfl | same
    · exact nonempty rfl
    · cases same
  · rintro ⟨left, prints, -, read⟩
    rw [string_of_prints prints] at read
    exact absurd read (by decide)

/-- Of a number that is not positive only zero digits are left, and of zero itself nothing. -/
theorem eq_zero_of_mem_prints {number : Int32} {left : ResultArray}
    (prints : Prints number zeroedResult left) (nonpositive : ¬0 < number) {char : Char}
    (member : char ∈ string left) : char = '0' ∧ number ≠ 0 := by
  rw [string_of_prints prints, intToCharArray, List.mem_reverse] at member
  rw [Int32.lt_iff_toInt_lt, Int32.toInt_zero] at nonpositive
  have shape : number.toInt = -(number.toInt.natAbs : Int) := by omega
  constructor
  · rw [shape] at member
    exact eq_zero_of_mem_digitLoop_neg _ _ member
  · rintro rfl
    cases member

end OnlineStore
