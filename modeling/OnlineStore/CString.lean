/-
This file is the string library of the development: C strings and the functions of the C
library that read them. A string is the list of its characters before the terminating NUL, one
`Char` for each `char`.

The tokenizer is `strtok` with the delimiter `','`. Its one law (`tokens_joinFields`) says what
it makes of comma-terminated fields: it yields the non-empty ones, so an empty field does not
end a record, it vanishes from it. The line reader is `fgets`, which hands out a long line in
pieces.
-/

import Mathlib.Data.List.Basic
import Mathlib.Data.List.TakeWhile
import Mathlib.Tactic.Common
import Mathlib.Algebra.Order.Ring.Int

namespace CString

/-- The characters of a C string before its NUL. -/
abbrev Text := List Char

/-- What a `char` array of the given size can hold as a string. -/
abbrev CharArray (size : Nat) := {text : Text // text.length < size}

/-- A zeroed array holds the empty string. -/
instance (size : Nat) [NeZero size] : Inhabited (CharArray size) :=
  ⟨⟨[], Nat.pos_of_ne_zero (NeZero.ne size)⟩⟩

/-- `strcpy` into an array of the given size; there is no result when the array overflows. -/
def strcpy (size : Nat) (source : Text) : Option (CharArray size) :=
  if fits : source.length < size then some ⟨source, fits⟩ else none

theorem strcpy_eq_some_iff {size : Nat} {source : Text} {copy : CharArray size} :
    strcpy size source = some copy ↔ source = copy.val := by
  rw [strcpy]
  constructor
  · intro copied
    split at copied
    · exact congrArg Subtype.val (Option.some.inj copied)
    · cases copied
  · rintro rfl
    rw [dif_pos copy.property]

@[simp] theorem strcpy_val {size : Nat} (copy : CharArray size) :
    strcpy size copy.val = some copy :=
  strcpy_eq_some_iff.mpr rfl

/-- Whether `strstr(text, needle)` finds the needle. -/
def strstr : Text → Text → Bool
  | [], needle => needle.isEmpty
  | char :: text, needle => needle.isPrefixOf (char :: text) || strstr text needle

/-! ### Tokens -/

/-- `strtok(text, ",")`: the token and the text after the delimiter that ended it, where the
next call continues. -/
def strtok (text : Text) : Option (Text × Text) :=
  match text.dropWhile (· == ',') with
  | [] => none
  | char :: rest =>
    some ((char :: rest).takeWhile (· != ','), ((char :: rest).dropWhile (· != ',')).drop 1)

/-- The tokens that successive calls of `strtok` return, with the characters of the token under
way, last first. -/
def tokensFrom (current : Text) : Text → List Text
  | [] => if current = [] then [] else [current.reverse]
  | char :: text =>
    if char = ',' then
      if current = [] then tokensFrom [] text else current.reverse :: tokensFrom [] text
    else tokensFrom (char :: current) text

/-- The tokens that successive calls of `strtok(·, ",")` return. -/
def tokens (text : Text) : List Text :=
  tokensFrom [] text

/-- Fields, each one ended by a comma. -/
def joinFields (fields : List Text) : Text :=
  fields.flatMap fun field => field ++ [',']

/-- A comma-free text ends at the first comma. -/
theorem append_comma_inj {first second rest rest' : Text} (commaFree : ',' ∉ first)
    (commaFree' : ',' ∉ second) (same : first ++ ',' :: rest = second ++ ',' :: rest') :
    first = second ∧ rest = rest' := by
  induction first generalizing second with
  | nil =>
    cases second with
    | nil => exact ⟨rfl, (List.cons.inj same).2⟩
    | cons char second => exact absurd ((List.cons.inj same).1 ▸ List.mem_cons_self) commaFree'
  | cons char first inductionHypothesis =>
    cases second with
    | nil => exact absurd ((List.cons.inj same).1 ▸ List.mem_cons_self) commaFree
    | cons char' second =>
      obtain ⟨head, tail⟩ := List.cons.inj same
      obtain ⟨equal, rests⟩ := inductionHypothesis
        (fun member => commaFree (List.mem_cons_of_mem _ member))
        (fun member => commaFree' (List.mem_cons_of_mem _ member)) tail
      exact ⟨head ▸ equal ▸ rfl, rests⟩

/-- A text that survives as one token. -/
structure IsField (field : Text) : Prop where
  nonempty : field ≠ []
  commaFree : ',' ∉ field

instance (field : Text) : Decidable (IsField field) :=
  decidable_of_iff (field ≠ [] ∧ ',' ∉ field)
    ⟨fun both => ⟨both.1, both.2⟩, fun isField => ⟨isField.nonempty, isField.commaFree⟩⟩

@[simp] theorem joinFields_nil : joinFields [] = [] := rfl

@[simp] theorem joinFields_cons (field : Text) (fields : List Text) :
    joinFields (field :: fields) = field ++ ',' :: joinFields fields := by
  simp [joinFields]

/-- Comma-free fields can be told from the text that they are joined in. -/
theorem joinFields_append_inj {fields fields' : List Text} {rest rest' : Text}
    (commaFree : ∀ field ∈ fields, ',' ∉ field) (commaFree' : ∀ field ∈ fields', ',' ∉ field)
    (lengths : fields.length = fields'.length)
    (same : joinFields fields ++ rest = joinFields fields' ++ rest') :
    fields = fields' ∧ rest = rest' := by
  induction fields generalizing fields' with
  | nil =>
    obtain rfl := List.eq_nil_of_length_eq_zero lengths.symm
    exact ⟨rfl, same⟩
  | cons field fields inductionHypothesis =>
    obtain ⟨field', others, rfl⟩ := List.exists_cons_of_length_eq_add_one lengths.symm
    rw [joinFields_cons, joinFields_cons, List.append_assoc, List.append_assoc, List.cons_append,
      List.cons_append] at same
    rw [List.forall_mem_cons] at commaFree commaFree'
    obtain ⟨rfl, tail⟩ := append_comma_inj commaFree.1 commaFree'.1 same
    obtain ⟨rfl, rests⟩ := inductionHypothesis commaFree.2 commaFree'.2
      (Nat.succ.inj lengths) tail
    exact ⟨rfl, rests⟩

theorem mem_joinFields {char : Char} {fields : List Text} (member : char ∈ joinFields fields) :
    char = ',' ∨ ∃ field ∈ fields, char ∈ field := by
  obtain ⟨field, inFields, inField⟩ := List.mem_flatMap.mp member
  rcases List.mem_append.mp inField with own | comma
  · exact Or.inr ⟨field, inFields, own⟩
  · exact Or.inl (List.mem_singleton.mp comma)

theorem length_joinFields (fields : List Text) :
    (joinFields fields).length = (fields.map List.length).sum + fields.length := by
  induction fields with
  | nil => rfl
  | cons field fields inductionHypothesis =>
    simp only [joinFields_cons, List.length_append, List.length_cons, List.map_cons,
      List.sum_cons, inductionHypothesis]
    omega

theorem tokensFrom_field (current field : Text) (text : Text) (commaFree : ',' ∉ field) :
    tokensFrom current (field ++ text) = tokensFrom (field.reverse ++ current) text := by
  induction field generalizing current with
  | nil => rfl
  | cons char field inductionHypothesis =>
    simp only [List.mem_cons, not_or] at commaFree
    rw [List.cons_append, tokensFrom, if_neg (Ne.symm commaFree.1),
      inductionHypothesis _ commaFree.2, List.reverse_cons, List.append_assoc,
      List.singleton_append]

/-- The law of the tokenizer: of comma-free fields it keeps the non-empty ones. -/
theorem tokens_joinFields (fields : List Text) (text : Text)
    (commaFree : ∀ field ∈ fields, ',' ∉ field) :
    tokens (joinFields fields ++ text) = fields.filter (· ≠ []) ++ tokens text := by
  induction fields with
  | nil => rfl
  | cons field fields inductionHypothesis =>
    have rest := inductionHypothesis fun other member =>
      commaFree other (List.mem_cons_of_mem _ member)
    rw [joinFields_cons, List.append_assoc, tokens,
      tokensFrom_field _ _ _ (commaFree field List.mem_cons_self), List.append_nil,
      List.cons_append, tokensFrom, if_pos rfl]
    by_cases empty : field = []
    · subst empty
      rw [List.reverse_nil, if_pos rfl, List.filter_cons_of_neg (by simp)]
      exact rest
    · have reversed : field.reverse ≠ [] := by simpa using empty
      rw [if_neg reversed, List.reverse_reverse, List.filter_cons_of_pos (by simpa using empty)]
      exact congrArg (field :: ·) rest

theorem tokens_fields {fields : List Text} (isField : ∀ field ∈ fields, IsField field)
    (text : Text) : tokens (joinFields fields ++ text) = fields ++ tokens text := by
  rw [tokens_joinFields fields text fun field member => (isField field member).commaFree,
    List.filter_eq_self.mpr fun field member => by simpa using (isField field member).nonempty]

theorem strtok_field {field : Text} (isField : IsField field) (text : Text) :
    strtok (field ++ ',' :: text) = some (field, text) := by
  obtain ⟨nonempty, commaFree⟩ := isField
  cases field with
  | nil => exact absurd rfl nonempty
  | cons char rest =>
    have other : ∀ letter ∈ char :: rest, (letter != ',') = true := by
      intro letter member
      have different : letter ≠ ',' := fun equal => commaFree (equal ▸ member)
      simpa using different
    have first : char ≠ ',' := by simpa using other char List.mem_cons_self
    have kept : (char :: rest ++ ',' :: text).takeWhile (· != ',') = char :: rest := by
      rw [List.takeWhile_append_of_pos other]
      simp
    have left : (char :: rest ++ ',' :: text).dropWhile (· != ',') = ',' :: text := by
      rw [List.dropWhile_append_of_pos other]
      simp
    have skipped : (char :: rest ++ ',' :: text).dropWhile (· == ',') =
        char :: (rest ++ ',' :: text) := by
      simp [first]
    simp only [List.cons_append] at kept left skipped ⊢
    simp only [strtok, skipped, kept, left, List.drop_succ_cons, List.drop_zero]

theorem tokens_dropWhile (text : Text) : tokens (text.dropWhile (· == ',')) = tokens text := by
  induction text with
  | nil => rfl
  | cons char text inductionHypothesis =>
    by_cases comma : char = ','
    · rw [List.dropWhile_cons_of_pos (by simpa using comma), inductionHypothesis, tokens, tokens,
        tokensFrom, if_pos comma, if_pos rfl]
    · rw [List.dropWhile_cons_of_neg (by simpa using comma)]

/-- The tokens are what `strtok` returns until it returns nothing. -/
theorem tokens_eq_strtok (text : Text) :
    tokens text =
      match strtok text with
      | none => []
      | some (token, rest) => token :: tokens rest := by
  rw [← tokens_dropWhile text, strtok]
  cases start : text.dropWhile (· == ',') with
  | nil => rfl
  | cons char others =>
    have first : char ≠ ',' := by
      have kept := List.head_dropWhile_not (· == ',') (start ▸ List.cons_ne_nil char others)
      simpa [start] using kept
    have commaFree : ',' ∉ (char :: others).takeWhile (· != ',') := fun member => by
      simpa using List.mem_takeWhile_imp member
    have whole := tokensFrom_field [] ((char :: others).takeWhile (· != ','))
      ((char :: others).dropWhile (· != ',')) commaFree
    rw [List.takeWhile_append_dropWhile, List.append_nil] at whole
    have nonempty : ((char :: others).takeWhile (· != ',')).reverse ≠ [] := by
      rw [List.takeWhile_cons_of_pos (by simpa using first)]
      simp
    show tokens (char :: others) = (char :: others).takeWhile (· != ',') ::
      tokens (((char :: others).dropWhile (· != ',')).drop 1)
    rw [tokens, whole]
    cases left : (char :: others).dropWhile (· != ',') with
    | nil =>
      rw [tokensFrom, if_neg nonempty, List.reverse_reverse]
      rfl
    | cons comma rest =>
      have last := List.head_dropWhile_not (· != ',') (left ▸ List.cons_ne_nil comma rest)
      have same : comma = ',' := by simpa [left] using last
      rw [tokensFrom, if_pos same, if_neg nonempty, List.reverse_reverse]
      rfl

/-- What `strtok` leaves is part of the text. -/
theorem mem_of_strtok {text token rest : Text} {char : Char}
    (found : strtok text = some (token, rest)) (member : char ∈ rest) : char ∈ text := by
  rw [strtok] at found
  cases start : text.dropWhile (· == ',') with
  | nil =>
    rw [start] at found
    cases found
  | cons head others =>
    rw [start] at found
    obtain ⟨-, rfl⟩ := Prod.mk.inj (Option.some.inj found)
    have behind : char ∈ text.dropWhile (· == ',') := by
      rw [start]
      exact (List.dropWhile_sublist _).subset (List.mem_of_mem_drop member)
    exact (List.dropWhile_sublist _).subset behind

/-- Tokens are never empty. -/
theorem ne_nil_of_mem_tokensFrom {current text token : Text}
    (member : token ∈ tokensFrom current text) : token ≠ [] := by
  induction text generalizing current with
  | nil =>
    rw [tokensFrom] at member
    split at member
    · cases member
    · rename_i nonempty
      rw [List.mem_singleton.mp member]
      simpa using nonempty
  | cons char text inductionHypothesis =>
    rw [tokensFrom] at member
    split at member
    · split at member
      · exact inductionHypothesis member
      · rename_i nonempty
        rcases List.mem_cons.mp member with rfl | rest
        · simpa using nonempty
        · exact inductionHypothesis rest
    · exact inductionHypothesis member

/-- Tokens contain no comma. -/
theorem comma_not_mem_of_mem_tokensFrom {current text token : Text} (commaFree : ',' ∉ current)
    (member : token ∈ tokensFrom current text) : ',' ∉ token := by
  induction text generalizing current with
  | nil =>
    rw [tokensFrom] at member
    split at member
    · cases member
    · rw [List.mem_singleton.mp member]
      simpa using commaFree
  | cons char text inductionHypothesis =>
    rw [tokensFrom] at member
    split at member
    · split at member
      · exact inductionHypothesis List.not_mem_nil member
      · rcases List.mem_cons.mp member with rfl | rest
        · simpa using commaFree
        · exact inductionHypothesis List.not_mem_nil rest
    · rename_i other
      refine inductionHypothesis ?_ member
      simpa using ⟨Ne.symm other, commaFree⟩

theorem isField_of_mem_tokens {text token : Text} (member : token ∈ tokens text) :
    IsField token :=
  ⟨ne_nil_of_mem_tokensFrom member, comma_not_mem_of_mem_tokensFrom List.not_mem_nil member⟩

/-! ### Lines -/

/-- The strings that successive calls of `fgets(buffer, size, file)` return, with the room left
in the buffer and the characters read into it, last first. -/
def fgetsFrom (size : Nat) (room : Nat) (line : Text) : Text → List Text
  | [] => if line = [] then [] else [line.reverse]
  | char :: text =>
    if char = '\n' ∨ room ≤ 1 then (char :: line).reverse :: fgetsFrom size (size - 1) [] text
    else fgetsFrom size (room - 1) (char :: line) text

/-- The strings that successive calls of `fgets(buffer, size, file)` return. -/
def fgets (size : Nat) (text : Text) : List Text :=
  fgetsFrom size (size - 1) [] text

@[simp] theorem fgets_nil (size : Nat) : fgets size [] = [] := rfl

theorem fgetsFrom_line (size room : Nat) (read line text : Text) (unbroken : '\n' ∉ line)
    (short : line.length < room) :
    fgetsFrom size room read (line ++ '\n' :: text) =
      (read.reverse ++ line ++ ['\n']) :: fgets size text := by
  induction line generalizing room read with
  | nil => simp [fgetsFrom, fgets]
  | cons char line inductionHypothesis =>
    simp only [List.mem_cons, not_or] at unbroken
    simp only [List.length_cons] at short
    have goesOn : ¬(char = '\n' ∨ room ≤ 1) := by
      rintro (same | full)
      · exact unbroken.1 same.symm
      · omega
    rw [List.cons_append, fgetsFrom, if_neg goesOn,
      inductionHypothesis _ _ unbroken.2 (by omega), List.reverse_cons, List.append_assoc,
      List.append_assoc, List.singleton_append, List.append_assoc, List.cons_append]

/-- A line that fits the buffer is read in one call, with its newline. -/
theorem fgets_line (size : Nat) (line text : Text) (unbroken : '\n' ∉ line)
    (short : line.length < size - 1) :
    fgets size (line ++ '\n' :: text) = (line ++ ['\n']) :: fgets size text := by
  rw [fgets, fgetsFrom_line size (size - 1) [] line text unbroken short, List.reverse_nil,
    List.nil_append]

theorem mem_of_mem_fgetsFrom {size room : Nat} {read text line : Text} {char : Char}
    (member : line ∈ fgetsFrom size room read text) (inLine : char ∈ line) :
    char ∈ read ∨ char ∈ text := by
  induction text generalizing room read with
  | nil =>
    rw [fgetsFrom] at member
    split at member
    · cases member
    · rw [List.mem_singleton.mp member] at inLine
      exact .inl (List.mem_reverse.mp inLine)
  | cons head text inductionHypothesis =>
    have shift : char ∈ head :: read ∨ char ∈ text → char ∈ read ∨ char ∈ head :: text := by
      rintro (inRead | inText)
      · rcases List.mem_cons.mp inRead with same | older
        · exact .inr (same ▸ List.mem_cons_self)
        · exact .inl older
      · exact .inr (List.mem_cons_of_mem _ inText)
    rw [fgetsFrom] at member
    split at member
    · rcases List.mem_cons.mp member with rfl | later
      · exact shift (.inl (List.mem_reverse.mp inLine))
      · exact shift ((inductionHypothesis later).imp (absurd · List.not_mem_nil) id)
    · exact shift (inductionHypothesis member)

/-- The lines hold characters of the text only. -/
theorem mem_of_mem_fgets {size : Nat} {text line : Text} {char : Char}
    (member : line ∈ fgets size text) (inLine : char ∈ line) : char ∈ text :=
  (mem_of_mem_fgetsFrom member inLine).resolve_left List.not_mem_nil

/-- A newline is the last character of its line. -/
theorem newline_last_of_mem_fgetsFrom {size room : Nat} {read text line : Text}
    (unbroken : '\n' ∉ read) (member : line ∈ fgetsFrom size room read text) :
    '\n' ∉ line.dropLast := by
  induction text generalizing room read with
  | nil =>
    rw [fgetsFrom] at member
    split at member
    · cases member
    · rw [List.mem_singleton.mp member]
      intro broken
      exact unbroken (List.mem_reverse.mp (List.dropLast_subset _ broken))
  | cons char text inductionHypothesis =>
    rw [fgetsFrom] at member
    split at member
    · rcases List.mem_cons.mp member with rfl | rest
      · rw [List.reverse_cons, List.dropLast_concat]
        simpa using unbroken
      · exact inductionHypothesis List.not_mem_nil rest
    · rename_i goesOn
      refine inductionHypothesis ?_ member
      simpa using ⟨fun same => goesOn (Or.inl same.symm), unbroken⟩

theorem newline_last_of_mem_fgets {size : Nat} {text line : Text}
    (member : line ∈ fgets size text) : '\n' ∉ line.dropLast :=
  newline_last_of_mem_fgetsFrom List.not_mem_nil member

/-- Of the tokens of a line only the last one can hold its newline. -/
theorem newline_not_mem_of_mem_tokensFrom {current line token : Text} (read : '\n' ∉ current)
    (unbroken : '\n' ∉ line.dropLast) (member : token ∈ (tokensFrom current line).dropLast) :
    '\n' ∉ token := by
  induction line generalizing current with
  | nil =>
    rw [tokensFrom] at member
    split at member <;> cases member
  | cons char line inductionHypothesis =>
    cases line with
    | nil =>
      have single : (tokensFrom current [char]).dropLast = [] := by
        simp only [tokensFrom]
        split <;> split <;> simp
      rw [single] at member
      cases member
    | cons next line =>
      rw [List.dropLast_cons_of_ne_nil (List.cons_ne_nil _ _), List.mem_cons, not_or] at unbroken
      obtain ⟨notNewline, rest⟩ := unbroken
      rw [tokensFrom] at member
      split at member
      · split at member
        · exact inductionHypothesis List.not_mem_nil rest member
        · cases later : tokensFrom [] (next :: line) with
          | nil =>
            rw [later] at member
            cases member
          | cons token' tokens =>
            rw [later, List.dropLast_cons_of_ne_nil (List.cons_ne_nil _ _)] at member
            rcases List.mem_cons.mp member with rfl | others
            · simpa using read
            · rw [← later] at others
              exact inductionHypothesis List.not_mem_nil rest others
      · exact inductionHypothesis (by simpa using ⟨notNewline, read⟩) rest member

/-- A token of a line can hold its newline only as its last character. -/
theorem newline_last_of_mem_tokensFrom {current line token : Text} (read : '\n' ∉ current)
    (unbroken : '\n' ∉ line.dropLast) (member : token ∈ tokensFrom current line) :
    '\n' ∉ token.dropLast := by
  have whole (own : token = current.reverse) : '\n' ∉ token.dropLast := by
    intro broken
    rw [own] at broken
    exact read (List.mem_reverse.mp (List.dropLast_subset _ broken))
  induction line generalizing current with
  | nil =>
    rw [tokensFrom] at member
    split at member
    · cases member
    · exact whole (List.mem_singleton.mp member)
  | cons char line inductionHypothesis =>
    have rest : '\n' ∉ line.dropLast := by
      cases line with
      | nil => exact List.not_mem_nil
      | cons next line =>
        rw [List.dropLast_cons_of_ne_nil (List.cons_ne_nil _ _)] at unbroken
        exact fun later => unbroken (List.mem_cons_of_mem _ later)
    have fresh (later : token ∈ tokensFrom [] line) : '\n' ∉ token.dropLast :=
      inductionHypothesis List.not_mem_nil rest later fun own => by simp [own]
    rw [tokensFrom] at member
    split at member
    · split at member
      · exact fresh member
      · rcases List.mem_cons.mp member with own | later
        · exact whole own
        · exact fresh later
    · by_cases newline : char = '\n'
      · -- The newline is the last character of the line, so the token ends with it.
        cases line with
        | nil =>
          rw [tokensFrom, if_neg (List.cons_ne_nil _ _)] at member
          rw [List.mem_singleton.mp member, List.reverse_cons, List.dropLast_concat]
          simpa using read
        | cons next line =>
          rw [List.dropLast_cons_of_ne_nil (List.cons_ne_nil _ _)] at unbroken
          exact absurd (newline ▸ List.mem_cons_self) unbroken
      · have unread : '\n' ∉ char :: current := by simpa using ⟨Ne.symm newline, read⟩
        refine inductionHypothesis unread rest member fun own broken => ?_
        rw [own] at broken
        exact unread (List.mem_reverse.mp (List.dropLast_subset _ broken))

/-- The lines of a text without their newlines, with the characters of the line under way, last
first. -/
def linesFrom (line : Text) : Text → List Text
  | [] => if line = [] then [] else [line.reverse]
  | char :: text =>
    if char = '\n' then line.reverse :: linesFrom [] text else linesFrom (char :: line) text

/-- The lines of a text without their newlines. The last line need not end in one. -/
def lines (text : Text) : List Text :=
  linesFrom [] text

@[simp] theorem lines_nil : lines [] = [] := rfl

theorem linesFrom_line (read line text : Text) (unbroken : '\n' ∉ line) :
    linesFrom read (line ++ '\n' :: text) = (read.reverse ++ line) :: lines text := by
  induction line generalizing read with
  | nil => simp [linesFrom, lines]
  | cons char line inductionHypothesis =>
    simp only [List.mem_cons, not_or] at unbroken
    rw [List.cons_append, linesFrom, if_neg (Ne.symm unbroken.1), inductionHypothesis _ unbroken.2,
      List.reverse_cons, List.append_assoc, List.singleton_append]

theorem lines_line (line text : Text) (unbroken : '\n' ∉ line) :
    lines (line ++ '\n' :: text) = line :: lines text := by
  rw [lines, linesFrom_line [] line text unbroken, List.reverse_nil, List.nil_append]

/-! ### Numerals -/

/-- The characters that `strtol` skips at the start. -/
def isspace (char : Char) : Bool :=
  char == ' ' || ('\t' ≤ char && char ≤ '\r')

/-- The value of the decimal digits at the start of a text. -/
def leadingDigits (text : Text) : Nat :=
  (text.takeWhile Char.isDigit).foldl (fun value digit => 10 * value + (digit.toNat - 48)) 0

/-- `strtol(text, NULL, 10)` before the result is cut to the range of `long`. -/
def signedNumeral (text : Text) : Int :=
  match text.dropWhile isspace with
  | '-' :: digits => -(leadingDigits digits : Int)
  | '+' :: digits => leadingDigits digits
  | digits => leadingDigits digits

/-- `atoi`: the value of `strtol`, which is cut to 64 bits and then converted to `int`. -/
def atoi (text : Text) : Int32 :=
  Int32.ofInt (max (-2 ^ 63) (min (2 ^ 63 - 1) (signedNumeral text)))

/-- What `sprintf` prints for `"%d"`. -/
def decimal (number : Int32) : Text :=
  if number.toInt < 0 then '-' :: Nat.toDigits 10 number.toInt.natAbs
  else Nat.toDigits 10 number.toInt.natAbs

theorem decimal_injective {number other : Int32} (same : decimal number = decimal other) :
    number = other := by
  have digit (value : Nat) : '-' ∉ Nat.toDigits 10 value := fun member =>
    absurd (Nat.isDigit_of_mem_toDigits (by decide) (by decide) member) (by decide)
  have value {first second : Nat} (digits : Nat.toDigits 10 first = Nat.toDigits 10 second) :
      first = second := by
    rw [← Nat.ofDigitChars_ten_toDigits (n := first), digits, Nat.ofDigitChars_ten_toDigits]
  rw [decimal, decimal] at same
  refine Int32.toInt_inj.mp ?_
  by_cases negative : number.toInt < 0 <;> by_cases negative' : other.toInt < 0
  · rw [if_pos negative, if_pos negative', List.cons.injEq] at same
    have magnitudes := value same.2
    omega
  · rw [if_pos negative, if_neg negative'] at same
    exact absurd (same ▸ List.mem_cons_self) (digit _)
  · rw [if_neg negative, if_pos negative'] at same
    exact absurd (same.symm ▸ List.mem_cons_self) (digit _)
  · rw [if_neg negative, if_neg negative'] at same
    have magnitudes := value same
    omega

/-- A number is printed with digits and a sign. -/
theorem isDigit_of_mem_decimal {number : Int32} {char : Char} (member : char ∈ decimal number) :
    char = '-' ∨ char.isDigit = true := by
  have digit {value : Nat} (inDigits : char ∈ Nat.toDigits 10 value) : char.isDigit = true :=
    Nat.isDigit_of_mem_toDigits (by decide) (by decide) inDigits
  rw [decimal] at member
  split at member
  · exact (List.mem_cons.mp member).imp_right digit
  · exact .inr (digit member)

theorem comma_not_mem_decimal (number : Int32) : ',' ∉ decimal number :=
  fun member => absurd (isDigit_of_mem_decimal member) (by decide)

theorem newline_not_mem_decimal (number : Int32) : '\n' ∉ decimal number :=
  fun member => absurd (isDigit_of_mem_decimal member) (by decide)

theorem decimal_ne_nil (number : Int32) : decimal number ≠ [] := by
  rw [decimal]
  split
  · exact List.cons_ne_nil _ _
  · exact Nat.toDigits_ne_nil

end CString
