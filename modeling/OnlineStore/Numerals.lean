/-
This file shows what becomes of a number that is printed into a table and read again.
`intToCharArray` prints positive numbers in decimal. It prints nothing for zero, and of a
negative number only the zero digits. Reading with `atoi` therefore gives a number back exactly
when it is not negative, and the printed field survives the tokenizer only if it is positive.
-/

import OnlineStore.Database
import Mathlib.Tactic.IntervalCases

namespace OnlineStore

open CString

/-! ### Digits -/

theorem leadingDigits_of_digits {text : Text} (digits : ∀ char ∈ text, char.isDigit = true) :
    leadingDigits text =
      text.foldl (fun value digit => 10 * value + (digit.toNat - 48)) 0 := by
  rw [leadingDigits, List.takeWhile_eq_self_iff.mpr digits]

theorem leadingDigits_concat {text : Text} {digit : Char}
    (digits : ∀ char ∈ text, char.isDigit = true) (last : digit.isDigit = true) :
    leadingDigits (text ++ [digit]) = 10 * leadingDigits text + (digit.toNat - 48) := by
  have all : ∀ char ∈ text ++ [digit], char.isDigit = true := by
    intro char member
    rcases List.mem_append.mp member with old | new
    · exact digits char old
    · rw [List.mem_singleton.mp new]
      exact last
  rw [leadingDigits_of_digits all, leadingDigits_of_digits digits, List.foldl_append]
  rfl

theorem isspace_of_isDigit {char : Char} (digit : char.isDigit = true) : isspace char = false := by
  simp only [Char.isDigit, Bool.and_eq_true, decide_eq_true_eq, ge_iff_le,
    UInt32.le_iff_toNat_le] at digit
  have zero : '0'.val.toNat = 48 := rfl
  rw [Bool.eq_false_iff]
  intro space
  simp only [isspace, Bool.or_eq_true, beq_iff_eq, Bool.and_eq_true, decide_eq_true_eq,
    Char.le_def, UInt32.le_iff_toNat_le] at space
  rcases space with rfl | ⟨-, before⟩
  · exact absurd digit.1 (by decide)
  · have last : '\r'.val.toNat = 13 := rfl
    omega

/-- A text of digits has neither a sign nor leading spaces. -/
theorem signedNumeral_of_digits {text : Text} (digits : ∀ char ∈ text, char.isDigit = true) :
    signedNumeral text = leadingDigits text := by
  cases text with
  | nil => rfl
  | cons char rest =>
    have digit := digits char List.mem_cons_self
    have kept : (char :: rest).dropWhile isspace = char :: rest := by
      rw [List.dropWhile_cons_of_neg (by simp [isspace_of_isDigit digit])]
    have minus : char ≠ '-' := by
      rintro rfl
      exact absurd digit (by decide)
    have plus : char ≠ '+' := by
      rintro rfl
      exact absurd digit (by decide)
    rw [signedNumeral, kept]
    split
    · rename_i same
      exact absurd (List.cons.inj same).1 minus
    · rename_i same
      exact absurd (List.cons.inj same).1 plus
    · rfl

/-! ### Printing -/

theorem digitChar_natCast {digit : Nat} (bound : digit < 10) :
    digitChar digit = [Char.ofNat (48 + digit)] := by
  interval_cases digit <;> rfl

/-- The `default` case. -/
theorem digitChar_of_not_digit {remainder : Int} (other : ¬(0 ≤ remainder ∧ remainder < 10)) :
    digitChar remainder = [] := by
  unfold digitChar
  repeat rw [if_neg (by omega)]

theorem digitChar_of_neg {remainder : Int} (negative : remainder < 0) :
    digitChar remainder = [] :=
  digitChar_of_not_digit (by omega)

theorem digitChar_cases (remainder : Int) :
    digitChar remainder = [] ∨ ∃ digit, digitChar remainder = [digit] := by
  by_cases digit : 0 ≤ remainder ∧ remainder < 10
  · obtain ⟨value, rfl⟩ := Int.eq_ofNat_of_zero_le digit.1
    exact .inr ⟨_, digitChar_natCast (by omega)⟩
  · exact .inl (digitChar_of_not_digit digit)

theorem isDigit_ofNat {digit : Nat} (bound : digit < 10) :
    (Char.ofNat (48 + digit)).isDigit = true ∧ (Char.ofNat (48 + digit)).toNat - 48 = digit := by
  interval_cases digit <;> decide

theorem digitLoop_zero (rounds : Nat) : digitLoop rounds 0 = [] := by
  cases rounds with
  | zero => rfl
  | succ rounds => rw [digitLoop, if_pos rfl]

/-- One round on a natural number stores its last digit. -/
theorem digitLoop_natCast_succ (rounds : Nat) {number : Nat} (nonzero : number ≠ 0) :
    digitLoop (rounds + 1) number =
      Char.ofNat (48 + number % 10) :: digitLoop rounds ((number / 10 : Nat) : Int) := by
  have remainder : ((number : Int).tmod 10) = ((number % 10 : Nat) : Int) := by
    rw [Int.tmod_eq_emod_of_nonneg (by omega)]
    omega
  have quotient : ((number : Int).tdiv 10) = ((number / 10 : Nat) : Int) := by
    rw [Int.tdiv_eq_ediv_of_nonneg (by omega)]
    omega
  rw [digitLoop, if_neg (by omega), remainder, quotient,
    digitChar_natCast (Nat.mod_lt number (by decide)), List.singleton_append]

/-- One round on a negative number stores its last digit if that is zero. -/
theorem digitLoop_neg_succ (rounds : Nat) {number : Nat} (nonzero : number ≠ 0) :
    digitLoop (rounds + 1) (-(number : Int)) =
      (if number % 10 = 0 then ['0'] else []) ++ digitLoop rounds (-((number / 10 : Nat) : Int)) := by
  have remainder : (-(number : Int)).tmod 10 = -((number % 10 : Nat) : Int) := by
    rw [Int.neg_tmod, Int.tmod_eq_emod_of_nonneg (by omega)]
    omega
  have quotient : (-(number : Int)).tdiv 10 = -((number / 10 : Nat) : Int) := by
    rw [Int.neg_tdiv, Int.tdiv_eq_ediv_of_nonneg (by omega)]
    omega
  rw [digitLoop, if_neg (by omega), remainder, quotient]
  by_cases last : number % 10 = 0
  · rw [if_pos last, last]
    rfl
  · rw [if_neg last, digitChar_of_neg (by omega)]

/-- What the loop stores for a natural number is its digits, last one first. -/
theorem digitLoop_natCast (rounds number : Nat) (enough : number ≤ rounds) :
    (∀ char ∈ digitLoop rounds number, char.isDigit = true) ∧
      leadingDigits (digitLoop rounds number).reverse = number := by
  induction rounds generalizing number with
  | zero =>
    obtain rfl : number = 0 := Nat.le_zero.mp enough
    exact ⟨fun char member => absurd member List.not_mem_nil, rfl⟩
  | succ rounds inductionHypothesis =>
    by_cases zero : number = 0
    · subst zero
      exact ⟨fun char member => absurd member List.not_mem_nil, rfl⟩
    · have bound : number % 10 < 10 := Nat.mod_lt _ (by decide)
      obtain ⟨digits, value⟩ := inductionHypothesis (number / 10) (by omega)
      rw [digitLoop_natCast_succ rounds zero]
      constructor
      · intro char member
        rcases List.mem_cons.mp member with rfl | rest
        · exact (isDigit_ofNat bound).1
        · exact digits char rest
      · rw [List.reverse_cons, leadingDigits_concat
          (fun char member => digits char (List.mem_reverse.mp member)) (isDigit_ofNat bound).1,
          value, (isDigit_ofNat bound).2]
        omega

/-- A negative number leaves only zero digits. -/
theorem eq_zero_of_mem_digitLoop_neg (rounds number : Nat) {char : Char}
    (member : char ∈ digitLoop rounds (-(number : Int))) : char = '0' := by
  induction rounds generalizing number with
  | zero => cases member
  | succ rounds inductionHypothesis =>
    by_cases zero : number = 0
    · subst zero
      cases member
    · rw [digitLoop_neg_succ rounds zero] at member
      rcases List.mem_append.mp member with stored | rest
      · split at stored
        · exact List.mem_singleton.mp stored
        · cases stored
      · exact inductionHypothesis _ rest

theorem length_digitLoop_le (digits rounds : Nat) (number : Int)
    (small : number.natAbs < 10 ^ digits) : (digitLoop rounds number).length ≤ digits := by
  induction rounds generalizing digits number with
  | zero => exact Nat.zero_le _
  | succ rounds inductionHypothesis =>
    rw [digitLoop]
    split
    · exact Nat.zero_le _
    · rename_i nonzero
      cases digits with
      | zero => omega
      | succ digits =>
        have smaller : (number.tdiv 10).natAbs < 10 ^ digits := by
          have shorter : (number.tdiv 10).natAbs = number.natAbs / 10 := Int.natAbs_tdiv number 10
          rw [Nat.pow_succ] at small
          omega
        have rest := inductionHypothesis digits (number.tdiv 10) smaller
        have one : (digitChar (number.tmod 10)).length ≤ 1 := by
          rcases digitChar_cases (number.tmod 10) with none | ⟨digit, some⟩
          · rw [none]
            exact Nat.zero_le 1
          · rw [some]
            exact Nat.le_refl 1
        rw [List.length_append]
        omega

/-! ### Fields of numbers -/

theorem isDigit_of_mem_intToCharArray {number : Int32} {char : Char}
    (member : char ∈ intToCharArray number) : char.isDigit = true := by
  rw [intToCharArray, List.mem_reverse] at member
  by_cases negative : number.toInt < 0
  · have shape : number.toInt = -(number.toInt.natAbs : Int) := by omega
    rw [shape] at member
    rw [eq_zero_of_mem_digitLoop_neg _ _ member]
    decide
  · have shape : number.toInt = (number.toInt.natAbs : Int) := by omega
    rw [shape] at member
    exact (digitLoop_natCast _ _ (by omega)).1 char member

theorem comma_not_mem_intToCharArray (number : Int32) : ',' ∉ intToCharArray number :=
  fun member => absurd (isDigit_of_mem_intToCharArray member) (by decide)

theorem newline_not_mem_intToCharArray (number : Int32) : '\n' ∉ intToCharArray number :=
  fun member => absurd (isDigit_of_mem_intToCharArray member) (by decide)

theorem length_intToCharArray_le (number : Int32) : (intToCharArray number).length ≤ 10 := by
  rw [intToCharArray, List.length_reverse]
  have low := number.le_toInt
  have high := number.toInt_lt
  exact length_digitLoop_le 10 _ _ (by omega)

theorem intToCharArray_ne_nil {number : Int32} (positive : 0 < number.toInt) :
    intToCharArray number ≠ [] := by
  intro empty
  have shape : number.toInt = (number.toInt.natAbs : Int) := by omega
  have value := (digitLoop_natCast number.toInt.natAbs number.toInt.natAbs (Nat.le_refl _)).2
  rw [intToCharArray, shape, Int.natAbs_natCast] at empty
  rw [empty] at value
  have zero : leadingDigits [] = 0 := rfl
  omega

theorem leadingDigits_of_zeros {text : Text} (zeros : ∀ char ∈ text, char = '0') :
    leadingDigits text = 0 := by
  have digits : ∀ char ∈ text, char.isDigit = true := fun char member => by
    rw [zeros char member]
    decide
  rw [leadingDigits_of_digits digits]
  clear digits
  induction text with
  | nil => rfl
  | cons char rest inductionHypothesis =>
    rw [List.foldl_cons, zeros char List.mem_cons_self]
    exact inductionHypothesis fun other member => zeros other (List.mem_cons_of_mem _ member)

theorem atoi_of_signedNumeral {text : Text} {number : Int32}
    (value : signedNumeral text = number.toInt) : atoi text = number := by
  have low := number.le_toInt
  have high := number.toInt_lt
  rw [atoi, value, min_eq_right (by omega), max_eq_right (by omega), Int32.ofInt_toInt]

/-- What `sprintf` prints is read again. -/
theorem atoi_decimal (number : Int32) : atoi (decimal number) = number := by
  have digit (value : Nat) : ∀ char ∈ Nat.toDigits 10 value, char.isDigit = true :=
    fun char member => Nat.isDigit_of_mem_toDigits (by decide) (by decide) member
  have value (value : Nat) : leadingDigits (Nat.toDigits 10 value) = value := by
    rw [leadingDigits_of_digits (digit value)]
    exact Nat.ofDigitChars_ten_toDigits
  refine atoi_of_signedNumeral ?_
  rw [decimal]
  by_cases negative : number.toInt < 0
  · rw [if_pos negative, signedNumeral, List.dropWhile_cons_of_neg (by decide)]
    change -(leadingDigits (Nat.toDigits 10 number.toInt.natAbs) : Int) = number.toInt
    rw [value]
    omega
  · rw [if_neg negative, signedNumeral_of_digits (digit _), value]
    omega

/-- A printed number has no more than a sign and ten digits. -/
theorem length_decimal_le (number : Int32) : (decimal number).length ≤ 11 := by
  have low := number.le_toInt
  have high := number.toInt_lt
  have digits : (Nat.toDigits 10 number.toInt.natAbs).length ≤ 10 :=
    (Nat.length_toDigits_le_iff (by decide) (by decide)).mpr (by omega)
  rw [decimal]
  split
  · rw [List.length_cons]
    omega
  · omega

/-- A printed number is read again exactly if it is not negative. -/
theorem atoi_intToCharArray_iff (number : Int32) :
    atoi (intToCharArray number) = number ↔ 0 ≤ number.toInt := by
  have digits : signedNumeral (intToCharArray number) = leadingDigits (intToCharArray number) :=
    signedNumeral_of_digits fun char member => isDigit_of_mem_intToCharArray member
  by_cases negative : number.toInt < 0
  · have shape : number.toInt = -(number.toInt.natAbs : Int) := by omega
    have zeros : leadingDigits (intToCharArray number) = 0 := by
      refine leadingDigits_of_zeros fun char member => ?_
      rw [intToCharArray, List.mem_reverse, shape] at member
      exact eq_zero_of_mem_digitLoop_neg _ _ member
    have read : atoi (intToCharArray number) = 0 := atoi_of_signedNumeral (by rw [digits, zeros]; rfl)
    rw [read]
    constructor
    · rintro rfl
      exact absurd negative (by decide)
    · omega
  · have shape : number.toInt = (number.toInt.natAbs : Int) := by omega
    have value : leadingDigits (intToCharArray number) = number.toInt.natAbs := by
      rw [intToCharArray, shape, Int.natAbs_natCast]
      exact (digitLoop_natCast _ _ (Nat.le_refl _)).2
    have read : atoi (intToCharArray number) = number :=
      atoi_of_signedNumeral (by rw [digits, value, ← shape])
    exact ⟨fun _ => by omega, fun _ => read⟩

/-- A number survives as a field in the middle of a line exactly if it is positive. -/
theorem printed_iff (number : Int32) :
    intToCharArray number ≠ [] ∧ atoi (intToCharArray number) = number ↔ 0 < number := by
  rw [atoi_intToCharArray_iff, Int32.lt_iff_toInt_lt, Int32.toInt_zero]
  constructor
  · rintro ⟨nonempty, nonnegative⟩
    refine lt_of_le_of_ne nonnegative fun zero => nonempty ?_
    rw [intToCharArray, ← zero]
    rfl
  · intro positive
    exact ⟨intToCharArray_ne_nil positive, le_of_lt positive⟩

/-- What the reader takes for the last column: the newline, when the number left no field. -/
theorem atoi_last_iff (number : Int32) :
    atoi (if intToCharArray number = [] then ['\n'] else intToCharArray number) = number ↔
      0 ≤ number := by
  rw [Int32.le_iff_toInt_le, Int32.toInt_zero, ← atoi_intToCharArray_iff]
  have newline : atoi ['\n'] = atoi [] := by decide
  split
  · rename_i empty
    rw [newline, empty]
  · rfl

end OnlineStore
