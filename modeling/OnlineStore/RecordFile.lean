/-
This file is the record-file library of the development: text files of one record a line, with
comma-terminated fields, as a program writes them with `strcat` and reads them back with
`fgets` and `strtok`.

A `Layout` gives the field texts of a record and the reader of a token list. The writer emits a
given number of cells of a table, whatever the table holds; the reader keeps one record for each
line that has a token and fails when a token it needs is missing. `load_putBack_iff` is the
exact condition under which what was written is read back.
-/

import OnlineStore.CString
import OnlineStore.Cells
import Mathlib.Data.List.Forall2

open CString Cells

/-- How records of one type are laid out in a line of text. -/
structure Layout (Record : Type) where
  fields : Record → List Text
  read : List Text → Option Record

namespace Layout

variable {Record : Type} (layout : Layout Record)

/-- The line that is written for a record. -/
def line (record : Record) : Text :=
  joinFields (layout.fields record) ++ ['\n']

/-- The lines of several records. -/
def text (rows : List Record) : Text :=
  rows.flatMap layout.line

/-- The text that a write-back of the first `count` cells accumulates. -/
def putBack [Inhabited Record] (count : Nat) (table : List Record) : Text :=
  (List.range count).flatMap fun row => layout.line (cell table row)

/-- The records of successive lines. A line without a token leaves no record, and a line whose
tokens run out ends the program. -/
def readLines : List Text → Option (List Record)
  | [] => some []
  | line :: lines =>
    match tokens line with
    | [] => readLines lines
    | token :: rest => do
      let record ← layout.read (token :: rest)
      let records ← readLines lines
      return record :: records

/-- The records of a file that is read into a buffer of the given size. -/
def load (size : Nat) (text : Text) : Option (List Record) :=
  layout.readLines (fgets size text)

/-! ### Lines that read back -/

/-- The line of the record has no stray separator and fits the buffer of the reader. -/
structure Plain (size : Nat) (record : Record) : Prop where
  commaFree : ∀ field ∈ layout.fields record, ',' ∉ field
  unbroken : ∀ field ∈ layout.fields record, '\n' ∉ field
  short : (joinFields (layout.fields record)).length < size - 1

/-- What the reader makes of the line of a plain record. -/
def readBack (record : Record) : Option Record :=
  layout.read ((layout.fields record).filter (· ≠ []) ++ [['\n']])

variable {layout}

theorem Plain.unbroken_joinFields {size : Nat} {record : Record}
    (plain : layout.Plain size record) : '\n' ∉ joinFields (layout.fields record) := by
  intro broken
  rcases mem_joinFields broken with same | ⟨field, member, inField⟩
  · exact absurd same (by decide)
  · exact plain.unbroken field member inField

theorem Plain.tokens_line {size : Nat} {record : Record} (plain : layout.Plain size record) :
    tokens (layout.line record) = (layout.fields record).filter (· ≠ []) ++ [['\n']] := by
  rw [line, tokens_joinFields _ _ plain.commaFree]
  rfl

/-- A plain line is read in one call and leaves one record. -/
theorem load_line_append {size : Nat} {record : Record} (plain : layout.Plain size record)
    (rest : Text) :
    layout.load size (layout.line record ++ rest) =
      (layout.readBack record).bind fun read => (layout.load size rest).map (read :: ·) := by
  have broken : layout.line record ++ rest = joinFields (layout.fields record) ++ '\n' :: rest := by
    rw [line, List.append_assoc, List.singleton_append]
  have tokenized := plain.tokens_line
  rw [line] at tokenized
  obtain ⟨token, others, shape⟩ : ∃ token others,
      (layout.fields record).filter (· ≠ []) ++ [['\n']] = token :: others := by
    cases (layout.fields record).filter (· ≠ []) with
    | nil => exact ⟨_, _, rfl⟩
    | cons token others => exact ⟨_, _, rfl⟩
  rw [load, broken, fgets_line size _ rest plain.unbroken_joinFields plain.short, readLines,
    tokenized, readBack, shape]
  cases first : layout.read (token :: others) <;>
    cases later : layout.readLines (fgets size rest) <;> simp [load, first, later]

/-- What is read back of plain lines that stand before other text: their records one by one,
then the records of that text. -/
theorem load_text_append_iff {size : Nat} {rows : List Record} (rest : Text)
    {read : List Record} (plain : ∀ row ∈ rows, layout.Plain size row) :
    layout.load size (layout.text rows ++ rest) = some read ↔
      ∃ first last, read = first ++ last ∧
        List.Forall₂ (fun row record => layout.readBack row = some record) rows first ∧
        layout.load size rest = some last := by
  induction rows generalizing read with
  | nil =>
    constructor
    · intro loaded
      exact ⟨[], read, rfl, .nil, loaded⟩
    · rintro ⟨first, last, rfl, none, loaded⟩
      cases none
      exact loaded
  | cons row rows inductionHypothesis =>
    have others : ∀ other ∈ rows, layout.Plain size other := fun other member =>
      plain other (List.mem_cons_of_mem _ member)
    rw [text, List.flatMap_cons, List.append_assoc,
      load_line_append (plain row List.mem_cons_self)]
    constructor
    · intro loaded
      obtain ⟨head, readHead, tail⟩ := Option.bind_eq_some_iff.mp loaded
      obtain ⟨records, readTail, rfl⟩ := Option.map_eq_some_iff.mp tail
      obtain ⟨first, last, rfl, each, readLast⟩ := (inductionHypothesis others).mp readTail
      exact ⟨head :: first, last, rfl, .cons readHead each, readLast⟩
    · rintro ⟨first, last, rfl, each, readLast⟩
      cases each with
      | cons readHead readTail =>
        have tail := (inductionHypothesis others).mpr ⟨_, last, rfl, readTail, readLast⟩
        rw [text] at tail
        rw [readHead, tail]
        rfl

theorem load_text_iff {size : Nat} {rows read : List Record}
    (plain : ∀ row ∈ rows, layout.Plain size row) :
    layout.load size (layout.text rows) = some read ↔
      List.Forall₂ (fun row record => layout.readBack row = some record) rows read := by
  rw [← List.append_nil (layout.text rows), load_text_append_iff [] plain]
  constructor
  · rintro ⟨first, last, rfl, each, empty⟩
    obtain rfl : last = [] := (Option.some.inj empty).symm
    rwa [List.append_nil]
  · intro each
    exact ⟨read, [], by rw [List.append_nil], each, rfl⟩

/-- Each plain line is read in one call. -/
theorem fgets_text {size : Nat} {rows : List Record}
    (plain : ∀ row ∈ rows, layout.Plain size row) :
    fgets size (layout.text rows) = rows.map layout.line := by
  induction rows with
  | nil => rfl
  | cons row rows inductionHypothesis =>
    have first := plain row List.mem_cons_self
    rw [text, List.flatMap_cons, line, List.append_assoc, List.singleton_append,
      fgets_line size _ _ first.unbroken_joinFields first.short, List.map_cons]
    exact congrArg _ (inductionHypothesis fun other member =>
      plain other (List.mem_cons_of_mem _ member))

/-- Plain lines are the lines of their text. -/
theorem lines_text {size : Nat} {rows : List Record}
    (plain : ∀ row ∈ rows, layout.Plain size row) :
    lines (layout.text rows) = rows.map fun row => joinFields (layout.fields row) := by
  induction rows with
  | nil => rfl
  | cons row rows inductionHypothesis =>
    rw [text, List.flatMap_cons, line, List.append_assoc, List.singleton_append,
      lines_line _ _ (plain row List.mem_cons_self).unbroken_joinFields, List.map_cons]
    exact congrArg _ (inductionHypothesis fun other member =>
      plain other (List.mem_cons_of_mem _ member))

theorem count_newline_text {size : Nat} {rows : List Record}
    (plain : ∀ row ∈ rows, layout.Plain size row) :
    (layout.text rows).count '\n' = rows.length := by
  induction rows with
  | nil => rfl
  | cons row rows inductionHypothesis =>
    have own : (joinFields (layout.fields row)).count '\n' = 0 :=
      List.count_eq_zero.mpr (plain row List.mem_cons_self).unbroken_joinFields
    have others := inductionHypothesis fun other member =>
      plain other (List.mem_cons_of_mem _ member)
    rw [text] at others
    rw [text, List.flatMap_cons, List.count_append, others, line, List.count_append, own,
      List.length_cons, List.count_singleton_self]
    omega

/-- A loaded record was read from the tokens of a line. -/
theorem exists_line_of_mem_load {size : Nat} {text : Text} {rows : List Record} {row : Record}
    (loaded : layout.load size text = some rows) (member : row ∈ rows) :
    ∃ line ∈ fgets size text, layout.read (tokens line) = some row := by
  rw [load] at loaded
  generalize fgets size text = lines at loaded ⊢
  induction lines generalizing rows with
  | nil =>
    cases loaded
    cases member
  | cons line lines inductionHypothesis =>
    rw [readLines] at loaded
    split at loaded
    · obtain ⟨other, inLines, read⟩ := inductionHypothesis member loaded
      exact ⟨other, List.mem_cons_of_mem _ inLines, read⟩
    · rename_i token rest shape
      obtain ⟨first, head, tail⟩ := Option.bind_eq_some_iff.mp loaded
      obtain ⟨others, later, built⟩ := Option.bind_eq_some_iff.mp tail
      cases built
      rcases List.mem_cons.mp member with rfl | rest
      · exact ⟨line, List.mem_cons_self, shape ▸ head⟩
      · obtain ⟨other, inLines, read⟩ := inductionHypothesis rest later
        exact ⟨other, List.mem_cons_of_mem _ inLines, read⟩

/-! ### Lines that do not read back -/

variable (layout) in
/-- Whatever follows the line of the record, the file does not load. -/
def Broken (size : Nat) (record : Record) : Prop :=
  ∀ rest, layout.load size (layout.line record ++ rest) = none

/-- A record whose line holds a newline breaks its file if what stands behind the newline is no
record. -/
theorem broken_of_remainder {size : Nat} {record : Record} {first second : Text}
    (split : layout.line record = first ++ '\n' :: (second ++ ['\n'])) (unbroken : '\n' ∉ first)
    (unbroken' : '\n' ∉ second) (short : first.length < size - 1)
    (short' : second.length < size - 1)
    (unread : layout.readLines [second ++ ['\n']] = none) : layout.Broken size record := by
  intro rest
  have shape : layout.line record ++ rest = first ++ '\n' :: (second ++ '\n' :: rest) := by
    simp [split]
  have remainder (lines : List Text) : layout.readLines ((second ++ ['\n']) :: lines) = none := by
    rw [readLines] at unread ⊢
    cases found : tokens (second ++ ['\n']) with
    | nil => simp [found, readLines] at unread
    | cons token others =>
      cases read : layout.read (token :: others) with
      | none => simp [read]
      | some other => simp [found, read, readLines] at unread
  rw [load, shape, fgets_line size first _ unbroken short, fgets_line size second _ unbroken' short',
    readLines]
  cases tokens (first ++ ['\n']) with
  | nil => exact remainder _
  | cons token others =>
    cases layout.read (token :: others) <;> simp [remainder]

/-- A field that ends in a newline breaks the file if the fields behind it are no record. -/
theorem broken_of_field {size : Nat} {record : Record} {initial later : List Text} {field : Text}
    (fields : layout.fields record = initial ++ (field ++ ['\n']) :: later)
    (unbroken : ∀ other ∈ initial, '\n' ∉ other) (own : '\n' ∉ field)
    (rest : ∀ other ∈ later, ',' ∉ other ∧ '\n' ∉ other)
    (short : (joinFields (layout.fields record)).length < size - 1)
    (unread : layout.read (later.filter (· ≠ []) ++ [['\n']]) = none) :
    layout.Broken size record := by
  have joined : joinFields (layout.fields record) =
      joinFields initial ++ field ++ '\n' :: joinFields ([] :: later) := by
    rw [fields]
    simp [joinFields]
  rw [joined, List.length_append, List.length_cons, List.length_append] at short
  have before : '\n' ∉ joinFields initial := by
    intro broken
    rcases mem_joinFields broken with same | ⟨other, member, inField⟩
    · exact absurd same (by decide)
    · exact unbroken other member inField
  have behind : '\n' ∉ joinFields ([] :: later) := by
    intro broken
    rcases mem_joinFields broken with same | ⟨other, member, inField⟩
    · exact absurd same (by decide)
    · rcases List.mem_cons.mp member with rfl | inLater
      · cases inField
      · exact (rest other inLater).2 inField
  have commaFree : ∀ other ∈ [] :: later, ',' ∉ other :=
    List.forall_mem_cons.mpr ⟨List.not_mem_nil, fun other member => (rest other member).1⟩
  have split : layout.line record =
      (joinFields initial ++ field) ++ '\n' :: (joinFields ([] :: later) ++ ['\n']) := by
    rw [line, joined]
    simp
  refine broken_of_remainder split ?_ behind ?_ (by omega) ?_
  · exact fun broken => (List.mem_append.mp broken).elim before own
  · rw [List.length_append]
    omega
  · have tokenized := tokens_joinFields ([] :: later) ['\n'] commaFree
    rw [List.filter_cons_of_neg (by simp)] at tokenized
    have newline : tokens ['\n'] = [['\n']] := rfl
    rw [newline] at tokenized
    rw [readLines, tokenized]
    cases shape : later.filter (· ≠ []) ++ [['\n']] with
    | nil => simp at shape
    | cons token others =>
      rw [shape] at unread
      simp [unread]

/-- If a file of plain and of broken lines loads, its records are read back one by one. -/
theorem readBack_of_load_text {size : Nat} {rows read : List Record}
    (each : ∀ row ∈ rows, layout.Plain size row ∨ layout.Broken size row)
    (loaded : layout.load size (layout.text rows) = some read) :
    List.Forall₂ (fun row record => layout.readBack row = some record) rows read := by
  induction rows generalizing read with
  | nil =>
    obtain rfl := Option.some.inj loaded
    exact .nil
  | cons row rows inductionHypothesis =>
    have others := fun other member => each other (List.mem_cons_of_mem row member)
    rw [text, List.flatMap_cons] at loaded
    rcases each row List.mem_cons_self with plain | broken
    · rw [load_line_append plain] at loaded
      obtain ⟨head, readHead, tail⟩ := Option.bind_eq_some_iff.mp loaded
      obtain ⟨records, readTail, rfl⟩ := Option.map_eq_some_iff.mp tail
      exact .cons readHead (inductionHypothesis others readTail)
    · rw [broken] at loaded
      cases loaded

/-! ### Missing fields -/

/-- A line without an empty field is read field by field. -/
theorem readBack_of_filled {record : Record}
    (filled : ∀ field ∈ layout.fields record, field ≠ []) :
    layout.readBack record = layout.read (layout.fields record ++ [['\n']]) := by
  rw [readBack, List.filter_eq_self.mpr fun field member => by simpa using filled field member]

/-- The token that the reader finds in the place of the last field. -/
def closing (last : Text) : Text :=
  if last = [] then ['\n'] else last

/-- Where no field before the last one is empty, the reader finds every field in its place. -/
theorem readBack_of_nonempty {record : Record} {initial : List Text} {last : Text}
    (fields : layout.fields record = initial ++ [last]) (nonempty : ∀ field ∈ initial, field ≠ []) :
    ∃ rest, layout.readBack record = layout.read (initial ++ closing last :: rest) := by
  have kept : initial.filter (· ≠ []) = initial :=
    List.filter_eq_self.mpr fun field member => by simpa using nonempty field member
  rw [readBack, fields, List.filter_append, kept, closing]
  by_cases empty : last = []
  · exact ⟨[], by simp [empty]⟩
  · exact ⟨[['\n']], by simp [empty]⟩

/-- If an empty field before the last one vanishes, the fields after it move up and the newline
is read as the last column. So a record whose last column then prints as nothing is read back
only if no field before it was empty. -/
theorem nonempty_of_readBack {record : Record} {initial : List Text} {last : Text}
    (fields : layout.fields record = initial ++ [last])
    (reads : ∀ texts, layout.read texts = some record →
      ∃ token, texts[initial.length]? = some token ∧ (token = ['\n'] → last = []))
    (back : layout.readBack record = some record) : ∀ field ∈ initial, field ≠ [] := by
  intro field member missing
  rw [readBack, fields, List.filter_append] at back
  have fewer : (initial.filter (· ≠ [])).length < initial.length :=
    List.length_filter_lt_length_iff_exists.mpr ⟨field, member, by simp [missing]⟩
  obtain ⟨token, located, closes⟩ := reads _ back
  have enough := (List.getElem?_eq_some_iff.mp located).1
  rw [List.length_append, List.length_append, List.length_singleton] at enough
  by_cases empty : last = []
  · have dropped : [last].filter (· ≠ []) = [] := by simp [empty]
    rw [dropped, List.length_nil] at enough
    omega
  · have kept : [last].filter (· ≠ []) = [last] := by simp [empty]
    rw [kept, List.length_singleton] at enough
    have place : (initial.filter (· ≠ []) ++ [last]).length = initial.length := by
      rw [List.length_append, List.length_singleton]
      omega
    rw [kept, ← place, List.getElem?_concat_length] at located
    exact empty (closes (Option.some.inj located).symm)

/-- Every element on the left of a pointwise relation is related to something. -/
theorem exists_related_of_mem {Left Right : Type} {related : Left → Right → Prop}
    {lefts : List Left} {rights : List Right} (each : List.Forall₂ related lefts rights)
    {left : Left} (member : left ∈ lefts) : ∃ right, related left right := by
  induction each with
  | nil => cases member
  | cons head _ inductionHypothesis =>
    rcases List.mem_cons.mp member with rfl | rest
    · exact ⟨_, head⟩
    · exact inductionHypothesis rest

/-! ### Writing back -/

section PutBack

variable [Inhabited Record]

theorem putBack_of_le {count : Nat} {table : List Record} (covered : count ≤ table.length) :
    layout.putBack count table = layout.text (table.take count) := by
  have cells : (List.range count).map (cell table) = table.take count := by
    refine List.ext_getElem (by simp [covered]) fun row bound bound' => ?_
    simp only [List.length_map, List.length_range] at bound
    simp [cell_of_lt (Nat.lt_of_lt_of_le bound covered)]
  rw [putBack, text, ← cells, List.flatMap_map]

theorem putBack_of_ge {count : Nat} {table : List Record} (past : table.length ≤ count) :
    layout.putBack count table =
      layout.text (table ++ List.replicate (count - table.length) default) := by
  have cells : (List.range count).map (cell table) =
      table ++ List.replicate (count - table.length) default := by
    refine List.ext_getElem (by simp; omega) fun row bound bound' => ?_
    rw [List.getElem_map, List.getElem_range, List.getElem_append]
    split
    · rename_i inside
      exact cell_of_lt inside
    · rename_i outside
      rw [cell_of_le (Nat.le_of_not_lt outside), List.getElem_replicate]
  rw [putBack, text, ← cells, List.flatMap_map]

/-- If a write-back of plain and of broken lines loads, it emits rows of the table only, and they
are read back one by one. -/
theorem readBack_of_load_putBack {size count : Nat} {table read : List Record}
    (each : ∀ row ∈ table, layout.Plain size row ∨ layout.Broken size row)
    (plainBlank : layout.Plain size default) (blank : layout.readBack default = none)
    (loaded : layout.load size (layout.putBack count table) = some read) :
    count ≤ table.length ∧
      List.Forall₂ (fun row record => layout.readBack row = some record)
        (table.take count) read := by
  by_cases covered : count ≤ table.length
  · rw [putBack_of_le covered] at loaded
    exact ⟨covered, readBack_of_load_text
      (fun row member => each row (List.take_subset _ _ member)) loaded⟩
  · rw [putBack_of_ge (Nat.le_of_not_le covered)] at loaded
    have all := readBack_of_load_text (fun row member => by
      rcases List.mem_append.mp member with own | zeroed
      · exact each row own
      · exact .inl ((List.eq_of_mem_replicate zeroed).symm ▸ plainBlank)) loaded
    obtain ⟨extra, positive⟩ : ∃ extra, count - table.length = extra + 1 :=
      Nat.exists_eq_succ_of_ne_zero (by omega)
    have zeroed : default ∈ table ++ List.replicate (count - table.length) default := by
      rw [positive, List.replicate_succ]
      exact List.mem_append_right _ List.mem_cons_self
    obtain ⟨record, readBlank⟩ := exists_related_of_mem all zeroed
    rw [blank] at readBlank
    cases readBlank

/-- What is read back of a write-back whose zeroed cells do not read back: the emitted rows one
by one, and only if no zeroed cell was emitted. -/
theorem load_putBack_iff {size count : Nat} {table read : List Record}
    (plain : ∀ row ∈ table, layout.Plain size row) (plainBlank : layout.Plain size default)
    (blank : layout.readBack default = none) :
    layout.load size (layout.putBack count table) = some read ↔
      count ≤ table.length ∧
        List.Forall₂ (fun row record => layout.readBack row = some record)
          (table.take count) read := by
  constructor
  · exact readBack_of_load_putBack (fun row member => .inl (plain row member)) plainBlank blank
  · rintro ⟨covered, each⟩
    rw [putBack_of_le covered]
    exact (load_text_iff fun row member => plain row (List.take_subset _ _ member)).mpr each

/-- The write-back is read back as the whole table exactly when it emits every row and nothing
else, and every row reads back as itself. -/
theorem load_putBack_self_iff {size count : Nat} {table : List Record}
    (plain : ∀ row ∈ table, layout.Plain size row) (plainBlank : layout.Plain size default)
    (blank : layout.readBack default = none) :
    layout.load size (layout.putBack count table) = some table ↔
      count = table.length ∧ ∀ row ∈ table, layout.readBack row = some row := by
  rw [load_putBack_iff plain plainBlank blank]
  constructor
  · rintro ⟨covered, each⟩
    have lengths := each.length_eq
    rw [List.length_take, Nat.min_eq_left covered] at lengths
    rw [lengths, List.take_length] at each
    exact ⟨lengths, List.forall₂_same.mp each⟩
  · rintro ⟨rfl, each⟩
    refine ⟨Nat.le_refl _, ?_⟩
    rw [List.take_length]
    exact List.forall₂_same.mpr each

end PutBack

end Layout
