/-
This file models how the client program builds a registration, a login and a change of a
client's data from what the user types, and compares the request with what the data server
reads in it.

A buyer's registration and login arrive as they were typed, up to the blanks that `scanf` skips
(`understood_iff`). The other three do not arrive whatever is typed: the registration of a
seller carries the tag of a buyer, the login of a seller carries an id that nothing was read
into, and a new address carries one of its four parts.
-/

import OnlineStore.Numerals
import OnlineStore.Requests

namespace OnlineStore

open CString

namespace Client

/-! ### Reading what the user types -/

/-- `scanf` with a conversion that skips blanks and stops at a character of `stops`, into an
array of the given size. There is no result while more input is awaited, nor when the array
overflows. -/
def scanf (size : Nat) (stops : Char → Bool) (stdin : Text) : Option (CharArray size × Text) :=
  let input := stdin.dropWhile isspace
  if input = [] then none
  else (strcpy size (input.takeWhile fun char => !stops char)).map fun value =>
    (value, input.dropWhile fun char => !stops char)

/-- `scanf(" %[^\n]", …)`. -/
def scanLine (size : Nat) (stdin : Text) : Option (CharArray size × Text) :=
  scanf size (· == '\n') stdin

/-- `scanf("%s", …)`. -/
def scanWord (size : Nat) (stdin : Text) : Option (CharArray size × Text) :=
  scanf size isspace stdin

/-- The lines that the user types. -/
def typing (values : List Text) : Text :=
  values.flatMap fun value => value ++ ['\n']

/-! ### The requests -/

/-- The personal data that `userRegister` reads. -/
def readRegistration (stdin : Text) : Option Registration := do
  let (firstName, stdin) ← scanLine 50 stdin
  let (lastName, stdin) ← scanLine 50 stdin
  let (num, stdin) ← scanLine 50 stdin
  let (address, stdin) ← scanLine 100 stdin
  let (city, stdin) ← scanLine 50 stdin
  let (state, stdin) ← scanLine 50 stdin
  let (zipCode, _) ← scanLine 10 stdin
  return ⟨firstName, lastName, num, address, city, state, zipCode⟩

def registrationFields (data : Registration) : List Text :=
  [data.firstName, data.lastName, data.phoneNumber, data.streetAddress, data.city, data.state,
    data.zipCode]

/-- The two branches send the same tag. -/
def userRegister (type : ClientType) (stdin : Text) : Option Text := do
  let data ← readRegistration stdin
  match type with
  | .buyer => return "[NEW_CLIENT],[BUYER],".toList ++ joinFields (registrationFields data)
  | .seller => return "[NEW_CLIENT],[BUYER],".toList ++ joinFields (registrationFields data)

/-- Both branches read into `buyerID`; the branch of a seller sends the zeroed `ID`. -/
def idLogin (type : ClientType) (stdin : Text) : Option Text := do
  let ID : Text := []
  let (buyerID, _) ← scanWord 50 stdin
  match type with
  | .buyer => return "[VALIDATE_ID],".toList ++ buyerID ++ ",[BUYER],".toList
  | .seller => return "[VALIDATE_ID],".toList ++ ID ++ ",[SELLER],".toList

/-- The choices of the menu of `editInfo`. -/
inductive EditChoice where
  | name
  | number
  | address
  deriving DecidableEq

/-- The request of `editInfo` for a choice. `ownID` is the string that `&buyerID` or `&sellerID`
points to. -/
def editInfo (type : ClientType) (ownID : Text) (select : EditChoice) (stdin : Text) :
    Option Text := do
  let header := match type with
    | .buyer => "[EDIT_INFO],[BUYER],".toList ++ ownID
    | .seller => "[EDIT_INFO],[SELLER],".toList ++ ownID
  match select with
  | .name =>
    let (firstName, stdin) ← scanLine 50 stdin
    let (lastName, _) ← scanLine 50 stdin
    return header ++ ",[NAME],".toList ++ joinFields [firstName.val, lastName.val]
  | .number =>
    let (num, _) ← scanLine 50 stdin
    return header ++ ",[NUMBER],".toList ++ joinFields [num.val]
  | .address =>
    let (address, _) ← scanLine 100 stdin
    return header ++ ",[ADDRESS],".toList ++ joinFields [address.val]

/-! ### What the user wants and what the server reads -/

/-- A dialogue with the user: a registration, a login, or a buyer's change of address. -/
inductive Dialogue where
  | register (type : ClientType) (data : Registration)
  | login (type : ClientType) (id : Text)
  | changeAddress (ownID : Text) (address : Address)

/-- The values that the user types, in turn. -/
def Dialogue.values : Dialogue → List Text
  | .register _ data => registrationFields data
  | .login _ id => [id]
  | .changeAddress _ address =>
    [address.streetAddress.val, address.city.val, address.state.val, address.zipCode.val]

/-- The request that the client sends. -/
def Dialogue.request : Dialogue → Option Text
  | .register type data => userRegister type (typing (registrationFields data))
  | .login type id => idLogin type (typing [id])
  | .changeAddress ownID address =>
    editInfo .buyer ownID .address (typing (Dialogue.changeAddress ownID address).values)

/-- The values are non-empty, have no comma and no newline, and fit the buffers of the client and
of the server. -/
structure Dialogue.Typed (dialogue : Dialogue) : Prop where
  isField : ∀ value ∈ dialogue.values, IsField value
  unbroken : ∀ value ∈ dialogue.values, '\n' ∉ value
  fits : match dialogue with
    | .register _ data =>
      (∀ value ∈ registrationFields data, value.length < 25) ∧ data.zipCode.length < 10
    | .login _ id => id.length < 50
    | .changeAddress _ _ => True

/-- The server decodes the message into what the user chose and typed. -/
def Dialogue.Understood (message : Text) : Dialogue → Prop
  | .register type data => ∃ buffer,
    extractCommand message = some (Command.newClient.tag, buffer) ∧
      extractRegistration buffer = some (type, data)
  | .login type id => ∃ buffer,
    extractCommand message = some (Command.validateID.tag, buffer) ∧
      validateIDTarget buffer = some (some type.file, atoi id)
  | .changeAddress ownID address => ∃ buffer clientType subCommand rest,
    extractCommand message = some (Command.editInfo.tag, buffer) ∧
      tokens buffer = clientType :: ownID :: subCommand :: rest ∧
      clientTypeOf clientType = .buyer ∧ strstr subCommand "[ADDRESS]".toList = true ∧
      extractAddress rest = some address

/-- The client sends the request, and the server understands it. -/
def Dialogue.Agrees (dialogue : Dialogue) : Prop :=
  ∃ message, dialogue.request = some message ∧ dialogue.Understood message

/-- The dialogues whose requests arrive. -/
def Dialogue.Arrives : Dialogue → Prop
  | .register type data => type = .buyer ∧
    ∀ value ∈ registrationFields data, ∀ char ∈ value.head?, isspace char = false
  | .login type id => type = .buyer ∧ ∃ char ∈ id, isspace char = false
  | .changeAddress _ _ => False

theorem joinFields_append (first second : List Text) :
    joinFields (first ++ second) = joinFields first ++ joinFields second :=
  List.flatMap_append

/-! ### What is read -/

/-- A value that `scanf` can have read from an input. -/
structure ReadFrom (stdin value : Text) : Prop where
  starts : ∃ char ∈ value.head?, isspace char = false
  typed : ∀ char ∈ value, char ∈ stdin

theorem ReadFrom.of_rest {stdin rest value : Text} (read : ReadFrom rest value)
    (left : ∀ char ∈ rest, char ∈ stdin) : ReadFrom stdin value :=
  ⟨read.starts, fun char member => left char (read.typed char member)⟩

theorem ReadFrom.isField {stdin value : Text} (read : ReadFrom stdin value)
    (commaFree : ',' ∉ stdin) : IsField value := by
  refine ⟨?_, fun comma => commaFree (read.typed _ comma)⟩
  rintro rfl
  obtain ⟨char, member, -⟩ := read.starts
  cases member

theorem readFrom_of_scanf {size : Nat} {stops : Char → Bool} {stdin rest : Text}
    {value : CharArray size} (read : scanf size stops stdin = some (value, rest))
    (blank : ∀ char, stops char = true → isspace char = true) :
    ReadFrom stdin value ∧ ∀ char ∈ rest, char ∈ stdin := by
  simp only [scanf] at read
  split at read
  · cases read
  · rename_i input
    obtain ⟨copy, copied, same⟩ := Option.map_eq_some_iff.mp read
    obtain ⟨rfl, rfl⟩ := Prod.mk.inj same
    have kept := strcpy_eq_some_iff.mp copied
    have subset : ∀ char ∈ stdin.dropWhile isspace, char ∈ stdin := fun char member =>
      (List.dropWhile_sublist _).subset member
    refine ⟨⟨?_, ?_⟩, fun char member => subset char ((List.dropWhile_sublist _).subset member)⟩
    · obtain ⟨char, text, shape⟩ := List.exists_cons_of_ne_nil input
      have nonblank : isspace char = false := by
        have first := List.head_dropWhile_not isspace input
        simpa only [shape, List.head_cons] using first
      have goesOn : stops char = false := by
        cases stop : stops char with
        | false => rfl
        | true => exact absurd (blank char stop) (by rw [nonblank]; decide)
      refine ⟨char, ?_, nonblank⟩
      rw [← kept, shape, List.takeWhile_cons, goesOn]
      rfl
    · rw [← kept]
      exact fun char member => subset char ((List.takeWhile_sublist _).subset member)

theorem readFrom_of_scanLine {size : Nat} {stdin rest : Text} {value : CharArray size}
    (read : scanLine size stdin = some (value, rest)) :
    ReadFrom stdin value ∧ ∀ char ∈ rest, char ∈ stdin := by
  refine readFrom_of_scanf read fun char stop => ?_
  rw [beq_iff_eq.mp stop]
  rfl

/-- A line that begins with no blank is read as it was typed. -/
theorem scanLine_typed {size : Nat} {value : Text} (rest : Text) (field : IsField value)
    (unbroken : '\n' ∉ value) (fits : value.length < size)
    (starts : ∀ char ∈ value.head?, isspace char = false) :
    scanLine size (value ++ '\n' :: rest) = some (⟨value, fits⟩, '\n' :: rest) := by
  obtain ⟨char, text, rfl⟩ := List.exists_cons_of_ne_nil field.nonempty
  have kept : ((char :: text) ++ '\n' :: rest).dropWhile isspace =
      (char :: text) ++ '\n' :: rest := by
    simp [starts char rfl]
  have goesOn : ∀ letter ∈ char :: text, (!letter == '\n') = true := by
    intro letter member
    simpa using fun same : letter = '\n' => unbroken (same ▸ member)
  have copied : strcpy size (char :: text) = some ⟨char :: text, fits⟩ :=
    strcpy_eq_some_iff.mpr rfl
  simp only [scanLine, scanf, kept]
  rw [if_neg (by simp), List.takeWhile_append_of_pos goesOn, List.dropWhile_append_of_pos goesOn]
  simp [copied]

/-- The newline behind a value is a blank before the next one. -/
@[simp] theorem scanLine_newline (size : Nat) (stdin : Text) :
    scanLine size ('\n' :: stdin) = scanLine size stdin := rfl

theorem comma_not_mem_typing {values : List Text} (isField : ∀ value ∈ values, IsField value) :
    ',' ∉ typing values := by
  intro comma
  obtain ⟨value, member, inLine⟩ := List.mem_flatMap.mp comma
  rcases List.mem_append.mp inLine with own | newline
  · exact (isField value member).commaFree own
  · cases List.mem_singleton.mp newline

/-! ### Registrations -/

/-- One more value read, from the input before. -/
theorem readFrom_cons {size : Nat} {stdin rest : Text} {value : CharArray size}
    {values : List Text} (read : scanLine size stdin = some (value, rest))
    (others : ∀ other ∈ values, ReadFrom rest other) :
    ∀ other ∈ value.val :: values, ReadFrom stdin other := by
  obtain ⟨own, left⟩ := readFrom_of_scanLine read
  exact List.forall_mem_cons.mpr ⟨own, fun other member => (others other member).of_rest left⟩

theorem readFrom_of_readRegistration {stdin : Text} {data : Registration}
    (read : readRegistration stdin = some data) :
    ∀ value ∈ registrationFields data, ReadFrom stdin value := by
  simp only [readRegistration, Option.bind_eq_bind, Option.bind_eq_some_iff, Prod.exists,
    Option.pure_def, Option.some.injEq] at read
  obtain ⟨firstName, stdin1, read1, lastName, stdin2, read2, num, stdin3, read3, address, stdin4,
    read4, city, stdin5, read5, state, stdin6, read6, zipCode, stdin7, read7, rfl⟩ := read
  refine readFrom_cons read1 (readFrom_cons read2 (readFrom_cons read3 (readFrom_cons read4
    (readFrom_cons read5 (readFrom_cons read6 (readFrom_cons read7 ?_))))))
  exact fun other member => absurd member List.not_mem_nil

theorem readRegistration_typed {type : ClientType} {data : Registration}
    (typed : (Dialogue.register type data).Typed)
    (starts : ∀ value ∈ registrationFields data, ∀ char ∈ value.head?, isspace char = false) :
    readRegistration (typing (registrationFields data)) = some data := by
  have line (size : Nat) {value : Text} (member : value ∈ registrationFields data)
      (fits : value.length < size) (rest : Text) :
      scanLine size (value ++ '\n' :: rest) = some (⟨value, fits⟩, '\n' :: rest) :=
    scanLine_typed rest (typed.isField value member) (typed.unbroken value member) fits
      (starts value member)
  have fifty {value : Text} (member : value ∈ registrationFields data) : value.length < 50 :=
    Nat.lt_trans (typed.fits.1 value member) (by decide)
  have hundred {value : Text} (member : value ∈ registrationFields data) : value.length < 100 :=
    Nat.lt_trans (typed.fits.1 value member) (by decide)
  have first : data.firstName ∈ registrationFields data := by simp [registrationFields]
  have last : data.lastName ∈ registrationFields data := by simp [registrationFields]
  have number : data.phoneNumber ∈ registrationFields data := by simp [registrationFields]
  have street : data.streetAddress ∈ registrationFields data := by simp [registrationFields]
  have city : data.city ∈ registrationFields data := by simp [registrationFields]
  have state : data.state ∈ registrationFields data := by simp [registrationFields]
  have zip : data.zipCode ∈ registrationFields data := by simp [registrationFields]
  have lines : typing (registrationFields data) = data.firstName ++ '\n' :: (data.lastName ++
      '\n' :: (data.phoneNumber ++ '\n' :: (data.streetAddress ++ '\n' :: (data.city ++ '\n' ::
        (data.state ++ '\n' :: (data.zipCode ++ '\n' :: [])))))) := by
    simp [typing, registrationFields]
  rw [lines, readRegistration]
  simp only [Option.bind_eq_bind, Option.bind_some, scanLine_newline, line 50 first (fifty first),
    line 50 last (fifty last), line 50 number (fifty number), line 100 street (hundred street),
    line 50 city (fifty city), line 50 state (fifty state), line 10 zip typed.fits.2]
  rfl

/-- A decoded registration has the values of its tokens. -/
theorem tokens_of_extractRegistration {buffer : Text} {type : ClientType} {data : Registration}
    (decoded : extractRegistration buffer = some (type, data)) :
    ∃ tag rest, tokens buffer = tag :: registrationFields data ++ rest ∧
      type = clientTypeOf tag := by
  rw [extractRegistration] at decoded
  split at decoded
  · rename_i tag firstName lastName phoneNumber streetAddress city state zipCode rest shape
    simp only [Option.bind_eq_bind, Option.bind_eq_some_iff, strcpy_eq_some_iff, Option.pure_def,
      Option.some.injEq, Prod.mk.injEq] at decoded
    obtain ⟨_, rfl, _, rfl, _, rfl, _, rfl, _, rfl, _, rfl, _, rfl, _, rfl, rfl, rfl⟩ := decoded
    exact ⟨_, rest, shape, rfl⟩
  · cases decoded

theorem registration_eq_of_fields_eq {data other : Registration}
    (same : registrationFields data = registrationFields other) : data = other := by
  cases data
  cases other
  simpa [registrationFields] using same

/-- The buffer that is left of the registration that the client sends. -/
def registrationBuffer (data : Registration) : Text :=
  joinFields ("[BUYER]".toList :: registrationFields data) ++ ['\n']

theorem extractCommand_registration (data : Registration) :
    extractCommand ("[NEW_CLIENT],[BUYER],".toList ++ joinFields (registrationFields data)) =
      some (Command.newClient.tag, registrationBuffer data) := by
  have header : "[NEW_CLIENT],[BUYER],".toList =
      joinFields [Command.newClient.tag, "[BUYER]".toList] := by decide
  rw [header, ← joinFields_append]
  exact extractCommand_joinFields Command.newClient.isField_tag Command.newClient.length_tag
    (List.cons_ne_nil _ _)

theorem tokens_registrationBuffer {data : Registration}
    (isField : ∀ value ∈ registrationFields data, IsField value) :
    tokens (registrationBuffer data) =
      "[BUYER]".toList :: registrationFields data ++ [['\n']] := by
  have tag : IsField "[BUYER]".toList := ⟨by decide, by decide⟩
  rw [registrationBuffer, tokens_fields (List.forall_mem_cons.mpr ⟨tag, isField⟩)]
  rfl

/-- The request of a registration is decoded as a buyer's, with the values that were read. -/
theorem extractRegistration_read {read data : Registration} {type : ClientType}
    (isField : ∀ value ∈ registrationFields read, IsField value)
    (decoded : extractRegistration (registrationBuffer read) = some (type, data)) :
    type = .buyer ∧ data = read := by
  obtain ⟨tag, rest, shape, rfl⟩ := tokens_of_extractRegistration decoded
  rw [tokens_registrationBuffer isField] at shape
  obtain ⟨sent, -⟩ := List.append_inj shape rfl
  obtain ⟨rfl, same⟩ := List.cons.inj sent
  exact ⟨rfl, (registration_eq_of_fields_eq same).symm⟩

theorem extractRegistration_short {data : Registration}
    (isField : ∀ value ∈ registrationFields data, IsField value)
    (short : ∀ value ∈ registrationFields data, value.length < 25) :
    extractRegistration (registrationBuffer data) = some (.buyer, data) := by
  simp only [registrationFields, List.forall_mem_cons] at short
  obtain ⟨first, last, number, street, city, state, zip, -⟩ := short
  have tag : "[BUYER]".toList.length < 25 := by decide
  rw [extractRegistration, tokens_registrationBuffer isField]
  simp only [registrationFields, List.cons_append, strcpy_of_lt tag, strcpy_of_lt first,
    strcpy_of_lt last, strcpy_of_lt number, strcpy_of_lt street, strcpy_of_lt city,
    strcpy_of_lt state, strcpy_of_lt zip]
  rfl

theorem userRegister_eq (type : ClientType) (stdin : Text) :
    userRegister type stdin = (readRegistration stdin).map fun data =>
      "[NEW_CLIENT],[BUYER],".toList ++ joinFields (registrationFields data) := by
  rw [userRegister]
  cases readRegistration stdin with
  | none => rfl
  | some data => cases type <;> rfl

/-- The registration of a client arrives if and only if the client is a buyer and no value begins
with a blank. -/
theorem register_agrees_iff {type : ClientType} {data : Registration}
    (typed : (Dialogue.register type data).Typed) :
    (Dialogue.register type data).Agrees ↔ (Dialogue.register type data).Arrives := by
  have commaFree := comma_not_mem_typing typed.isField
  constructor
  · rintro ⟨message, sent, buffer, command, decoded⟩
    rw [Dialogue.request, userRegister_eq] at sent
    obtain ⟨read, values, rfl⟩ := Option.map_eq_some_iff.mp sent
    have from_stdin := readFrom_of_readRegistration values
    rw [extractCommand_registration] at command
    obtain ⟨-, rfl⟩ := Prod.mk.inj (Option.some.inj command)
    obtain ⟨rfl, rfl⟩ := extractRegistration_read
      (fun value member => (from_stdin value member).isField commaFree) decoded
    refine ⟨rfl, fun value member char first => ?_⟩
    obtain ⟨other, same, nonblank⟩ := (from_stdin value member).starts
    rw [Option.mem_def.mp first] at same
    exact Option.some.inj same ▸ nonblank
  · rintro ⟨rfl, starts⟩
    refine ⟨_, ?_, _, extractCommand_registration data,
      extractRegistration_short typed.isField typed.fits.1⟩
    rw [Dialogue.request, userRegister_eq, readRegistration_typed typed starts, Option.map_some]

/-! ### Logins -/

/-- The first word of a text. -/
def word (text : Text) : Text :=
  (text.dropWhile isspace).takeWhile fun char => !isspace char

theorem takeWhile_nonblank_newline (text : Text) :
    (text ++ ['\n']).takeWhile (fun char => !isspace char) =
      text.takeWhile fun char => !isspace char := by
  induction text with
  | nil => rfl
  | cons char text inductionHypothesis =>
    rw [List.cons_append, List.takeWhile_cons, List.takeWhile_cons, inductionHypothesis]

theorem word_newline (text : Text) : word (text ++ ['\n']) = word text := by
  induction text with
  | nil => rfl
  | cons char text inductionHypothesis =>
    by_cases blank : isspace char = true
    · simpa [word, blank] using inductionHypothesis
    · rw [word, word, List.cons_append, List.dropWhile_cons_of_neg blank,
        List.dropWhile_cons_of_neg blank, ← List.cons_append, takeWhile_nonblank_newline]

/-- Digits are no blanks. -/
theorem leadingDigits_nonblank (text : Text) :
    leadingDigits (text.takeWhile fun char => !isspace char) = leadingDigits text := by
  have digits : (text.takeWhile fun char => !isspace char).takeWhile Char.isDigit =
      text.takeWhile Char.isDigit := by
    induction text with
    | nil => rfl
    | cons char text inductionHypothesis =>
      by_cases digit : char.isDigit = true
      · have nonblank := isspace_of_isDigit digit
        simp [nonblank, digit, inductionHypothesis]
      · by_cases blank : isspace char = true
        · simp [blank, digit]
        · simp [blank, digit]
  rw [leadingDigits, digits, leadingDigits]

/-- `atoi` reads the first word only. -/
theorem signedNumeral_word (text : Text) : signedNumeral (word text) = signedNumeral text := by
  rw [word, signedNumeral, signedNumeral]
  cases shape : text.dropWhile isspace with
  | nil => rfl
  | cons char rest =>
    have nonblank : isspace char = false := by
      have first := List.head?_dropWhile_not isspace text
      simpa [shape] using first
    have head : (char :: rest).takeWhile (fun letter => !isspace letter) =
        char :: rest.takeWhile fun letter => !isspace letter :=
      List.takeWhile_cons_of_pos (by rw [nonblank]; rfl)
    have digits := leadingDigits_nonblank (char :: rest)
    rw [head] at digits ⊢
    rw [List.dropWhile_cons_of_neg (by rw [nonblank]; decide)]
    by_cases minus : char = '-'
    · subst minus
      simp only [leadingDigits_nonblank]
    · by_cases plus : char = '+'
      · subst plus
        simp only [leadingDigits_nonblank]
      · simp [minus, plus, digits]

theorem mem_of_mem_word {text : Text} {char : Char} (member : char ∈ word text) : char ∈ text :=
  (List.dropWhile_sublist _).subset ((List.takeWhile_sublist _).subset member)

theorem word_typing (id : Text) : word (typing [id]) = word id := by
  rw [← word_newline id]
  simp [typing]

/-- What is read of a typed id is its first word. -/
theorem read_of_scanWord {id rest : Text} {value : CharArray 50}
    (read : scanWord 50 (typing [id]) = some (value, rest)) :
    value.val = word id ∧ ∃ char ∈ id, isspace char = false := by
  have first : value.val = word id := by
    rw [← word_typing]
    simp only [scanWord, scanf] at read
    split at read
    · cases read
    · obtain ⟨copy, copied, same⟩ := Option.map_eq_some_iff.mp read
      obtain ⟨rfl, -⟩ := Prod.mk.inj same
      exact (strcpy_eq_some_iff.mp copied).symm
  obtain ⟨char, head, nonblank⟩ := (readFrom_of_scanf read fun char blank => blank).1.starts
  rw [first] at head
  exact ⟨first, char, mem_of_mem_word (List.mem_of_mem_head? head), nonblank⟩

theorem scanWord_typed {id : Text} (fits : id.length < 50)
    (typed : ∃ char ∈ id, isspace char = false) :
    ∃ value rest, scanWord 50 (typing [id]) = some (value, rest) ∧ value.val = word id := by
  have input : (typing [id]).dropWhile isspace ≠ [] := by
    obtain ⟨char, member, nonblank⟩ := typed
    intro blank
    have all := List.dropWhile_eq_nil_iff.mp blank char (by simp [typing, member])
    rw [nonblank] at all
    cases all
  have short : (word (typing [id])).length < 50 := by
    rw [word_typing]
    exact Nat.lt_of_le_of_lt
      (((List.takeWhile_sublist _).trans (List.dropWhile_sublist _)).length_le) fits
  have copied : strcpy 50 (word (typing [id])) = some ⟨_, short⟩ := strcpy_of_lt short
  have read : scanWord 50 (typing [id]) = (strcpy 50 (word (typing [id]))).map fun value =>
      (value, ((typing [id]).dropWhile isspace).dropWhile fun char => !isspace char) :=
    if_neg input
  rw [copied] at read
  exact ⟨_, _, read, word_typing id⟩

/-- The buffer that is left of the login of a buyer. -/
def loginBuffer (value : Text) : Text :=
  joinFields [value, DbFile.tag .CustomerInfo] ++ ['\n']

theorem extractCommand_login (value : Text) :
    extractCommand ("[VALIDATE_ID],".toList ++ value ++ ",[BUYER],".toList) =
      some (Command.validateID.tag, loginBuffer value) := by
  have message : "[VALIDATE_ID],".toList ++ value ++ ",[BUYER],".toList =
      joinFields [Command.validateID.tag, value, DbFile.tag .CustomerInfo] := by
    have command : "[VALIDATE_ID],".toList = Command.validateID.tag ++ [','] := by decide
    have tag : ",[BUYER],".toList = ',' :: (DbFile.tag .CustomerInfo ++ [',']) := by decide
    rw [command, tag]
    simp
  rw [message]
  exact extractCommand_joinFields Command.validateID.isField_tag Command.validateID.length_tag
    (List.cons_ne_nil _ _)

/-- The message of a seller's login, the same whatever the user types. -/
theorem extractCommand_sellerLogin :
    extractCommand ("[VALIDATE_ID],".toList ++ [] ++ ",[SELLER],".toList) =
      some (Command.validateID.tag, ",[SELLER],\n".toList) := by
  decide

/-- The tag is taken for the id, and the newline for the tag. -/
theorem validateIDTarget_sellerLogin : validateIDTarget ",[SELLER],\n".toList = some (none, 0) := by
  decide

/-- The login of a client arrives if and only if the client is a buyer and the id is not blank. -/
theorem login_agrees_iff {type : ClientType} {id : Text} (typed : (Dialogue.login type id).Typed) :
    (Dialogue.login type id).Agrees ↔ (Dialogue.login type id).Arrives := by
  have isField : IsField id := typed.isField id (List.mem_singleton.mpr rfl)
  have target (value : Text) (first : value = word id) (field : IsField value) :
      validateIDTarget (loginBuffer value) = some (some .CustomerInfo, atoi id) := by
    rw [loginBuffer, validateIDTarget_joinFields field, atoi, atoi, first, signedNumeral_word]
  constructor
  · rintro ⟨message, sent, buffer, command, decoded⟩
    simp only [Dialogue.request, idLogin, Option.bind_eq_bind, Option.bind_eq_some_iff,
      Prod.exists] at sent
    obtain ⟨value, rest, read, sent⟩ := sent
    cases type with
    | buyer => exact ⟨rfl, (read_of_scanWord read).2⟩
    | seller =>
      rw [← Option.some.inj sent, extractCommand_sellerLogin] at command
      obtain ⟨-, rfl⟩ := Prod.mk.inj (Option.some.inj command)
      rw [validateIDTarget_sellerLogin] at decoded
      cases decoded
  · rintro ⟨rfl, nonblank⟩
    obtain ⟨value, rest, read, first⟩ := scanWord_typed typed.fits nonblank
    have commaFree := comma_not_mem_typing typed.isField
    have field := (readFrom_of_scanf read fun char blank => blank).1.isField commaFree
    refine ⟨_, ?_, _, extractCommand_login value.val, target value.val first field⟩
    rw [Dialogue.request, idLogin]
    simp only [read, Option.bind_eq_bind, Option.bind_some]
    rfl

/-! ### Changes of address -/

/-- Fewer than four tokens are no address. -/
theorem extractAddress_eq_none {fields : List Text} (few : fields.length < 4) :
    extractAddress fields = none := by
  match fields, few with
  | [], _ => rfl
  | [_], _ => rfl
  | [_, _], _ => rfl
  | [_, _, _], _ => rfl

/-- The address that the server reads in the request is the first of the four values alone. -/
theorem changeAddress_not_agrees {ownID : Text} {address : Address}
    (typed : (Dialogue.changeAddress ownID address).Typed) :
    ¬(Dialogue.changeAddress ownID address).Agrees := by
  rintro ⟨message, sent, buffer, clientType, subCommand, rest, command, shape, -, -, decoded⟩
  simp only [Dialogue.request, editInfo, Option.bind_eq_bind, Option.bind_eq_some_iff,
    Prod.exists, Option.pure_def, Option.some.injEq] at sent
  obtain ⟨value, left, read, rfl⟩ := sent
  have own : IsField ownID := by
    have member : ownID ∈ tokens buffer := by simp [shape]
    exact isField_of_mem_tokens member
  have street : IsField value.val :=
    (readFrom_of_scanLine read).1.isField (comma_not_mem_typing typed.isField)
  have tag : IsField "[ADDRESS]".toList := ⟨by decide, by decide⟩
  have buyer : IsField "[BUYER]".toList := ⟨by decide, by decide⟩
  have fields : ∀ field ∈ ["[BUYER]".toList, ownID, "[ADDRESS]".toList, value.val],
      IsField field := by
    simp only [List.forall_mem_cons]
    exact ⟨buyer, own, tag, street, fun other member => absurd member List.not_mem_nil⟩
  have joined : "[EDIT_INFO],[BUYER],".toList ++ ownID ++ ",[ADDRESS],".toList ++
      joinFields [value.val] = joinFields (Command.editInfo.tag ::
        ["[BUYER]".toList, ownID, "[ADDRESS]".toList, value.val]) := by
    have header : "[EDIT_INFO],[BUYER],".toList =
        Command.editInfo.tag ++ ',' :: ("[BUYER]".toList ++ [',']) := by decide
    have middle : ",[ADDRESS],".toList = ',' :: ("[ADDRESS]".toList ++ [',']) := by decide
    rw [header, middle]
    simp only [joinFields_cons, joinFields_nil, List.append_assoc, List.cons_append,
      List.nil_append]
  rw [joined, extractCommand_joinFields Command.editInfo.isField_tag Command.editInfo.length_tag
    (List.cons_ne_nil _ _)] at command
  obtain ⟨-, rfl⟩ := Prod.mk.inj (Option.some.inj command)
  rw [tokens_fields fields] at shape
  have count := congrArg List.length shape
  have newline : (tokens ['\n']).length = 1 := rfl
  simp only [List.length_append, List.length_cons, List.length_nil, newline] at count
  rw [extractAddress_eq_none (by omega)] at decoded
  cases decoded

/-! ### The dialogues -/

/-- The server reads what the user chose and typed if and only if it is the registration of a
buyer in which no value begins with a blank, or the login of a buyer with an id that is not
blank. -/
theorem understood_iff {dialogue : Dialogue} (typed : dialogue.Typed) :
    dialogue.Agrees ↔ dialogue.Arrives := by
  cases dialogue with
  | register type data => exact register_agrees_iff typed
  | login type id => exact login_agrees_iff typed
  | changeAddress ownID address => exact iff_of_false (changeAddress_not_agrees typed) id

/-- The data of a client. -/
def annLee : Registration :=
  ⟨"Ann".toList, "Lee".toList, "4055550100".toList, "12 Main St".toList, "Tulsa".toList,
    "OK".toList, "74101".toList⟩

theorem typed_annLee (type : ClientType) : (Dialogue.register type annLee).Typed := by
  have isField : ∀ value ∈ registrationFields annLee, IsField value := by decide
  have unbroken : ∀ value ∈ registrationFields annLee, '\n' ∉ value := by decide
  have short : ∀ value ∈ registrationFields annLee, value.length < 25 := by decide
  exact ⟨isField, unbroken, short, by decide⟩

theorem understood_iff_annLee : (Dialogue.register .buyer annLee).Agrees := by
  have starts : ∀ value ∈ registrationFields annLee, value.head?.any isspace = false := by decide
  refine (understood_iff (typed_annLee .buyer)).mpr ⟨rfl, fun value member char first => ?_⟩
  have own := starts value member
  rwa [Option.mem_def.mp first] at own

/-- The seller is registered as a buyer. -/
theorem annLee_not_understood :
    (Dialogue.register .seller annLee).Typed ∧ ¬(Dialogue.register .seller annLee).Agrees := by
  refine ⟨typed_annLee .seller, fun agrees => ?_⟩
  have buyer := ((register_agrees_iff (typed_annLee .seller)).mp agrees).1
  cases buyer

end Client

end OnlineStore
