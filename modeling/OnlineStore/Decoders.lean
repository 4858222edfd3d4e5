/-
This file models how the threads of the data server cut their requests and the database files
into tokens, call by call: the `strtok` calls of `extractCommand`, of the handlers and of the
loaders, in their order.

The C library may keep one saved position for the whole process, and the server takes no
semaphore for it: requests are decoded before any semaphore is taken, and loaders of different
files run under different ones. A thread that continues after another thread has called `strtok`
gets the other thread's text. Alone, the decoders compute what the handlers are given elsewhere
in this development.
-/

import OnlineStore.Loaders
import OnlineStore.Strtok

namespace OnlineStore.Decoders

open CString Strtok Interleaving

/-- The buffers of a thread: the message, the line of a loader, the text that is handed to
`validateID`, and the rest of the request of an edit, a pointer into the message that is taken
for a buffer of its own. -/
inductive Buffer where
  | message
  | line
  | productIdToValidate
  | rest
  deriving DecidableEq

abbrev Decoder := Program Buffer

def store (buffer : Buffer) (text : Text) : Decoder Unit := Prog.perform (Call.store buffer text)

/-- `strtok(buffer, ",")` -/
def first (buffer : Buffer) : Decoder (Option Text) :=
  Prog.perform (Call.first buffer [','])

/-- `strtok(NULL, delimiters)` -/
def next (delimiters : Text) : Decoder (Option Text) :=
  Prog.perform (Call.next delimiters)

/-- Goes on with a value, or crashes where the C code uses one that is not there. -/
def orCrash {Result : Type} : Option Result → Decoder Result
  | some value => .pure value
  | none => .call .crash Empty.elim

/-- Calls of `strtok(NULL, ",")` whose tokens are used at once. -/
def moreTokens : Nat → Decoder (List Text)
  | 0 => return []
  | count + 1 => do
    let token ← orCrash (← next [','])
    let tokens ← moreTokens count
    return token :: tokens

/-- `strtok(buffer, ",")` and calls of `strtok(NULL, ",")` whose tokens are used at once. -/
def tokensOf (buffer : Buffer) (more : Nat) : Decoder (List Text) := do
  let token ← orCrash (← first buffer)
  let tokens ← moreTokens more
  return token :: tokens

/-! ### Loading a file -/

/-- How many tokens the loader of a file takes of each line. -/
def width : DbFile → Nat
  | .CustomerInfo => 8
  | .SellerInfo => 8
  | .ProductInfo => 5
  | .BillingInfo => 9
  | .CustomerOrder => 10

/-- The body of the loop of a loader. A line without a token leaves no row. -/
def loadLine (file : DbFile) (line : Text) : Decoder (Option file.Row) := do
  store .line line
  match ← first .line with
  | none => return none
  | some record => do
    let tokens ← moreTokens (width file - 1)
    let row ← orCrash (file.layout.read (record :: tokens))
    return some row

def loadLines (file : DbFile) : List Text → Decoder (List file.Row)
  | [] => return []
  | line :: lines => do
    let row ← loadLine file line
    let rows ← loadLines file lines
    return row.toList ++ rows

/-- The loader of a file that holds a text. -/
def load (file : DbFile) (text : Text) : Decoder (List file.Row) :=
  loadLines file (fgets 200 text)

/-! ### Decoding a request -/

/-- `sprintf(buffer, "%s\n", ptr)`, which is skipped for a null pointer. -/
def storeRest : Option Text → Decoder Unit
  | some ptr => store .message (ptr ++ ['\n'])
  | none => return ()

/-- The command. The buffer is left with the text behind it, if there is some. -/
def extractCommand : Decoder Text := do
  let ptr ← first .message
  let command ← orCrash (strcpy 25 (ptr.getD []))
  storeRest (← next [])
  return command.val

/-- What the files hold when a thread loads them: once in `validateID`, and once in the handler
itself. -/
structure Contents where
  looked : DbFile → Text
  loaded : DbFile → Text

def validateID (contents : Contents) (buffer : Buffer) : Decoder Bool := do
  match ← tokensOf buffer 1 with
  | point :: tag :: _ => do
    let dbName ← orCrash (strcpy 20 tag)
    match taggedFile dbName.val with
    | some file => do
      let table ← load file (contents.looked file)
      return file.holdsID (atoi point) table
    | none => return false
  | _ => return false

/-- The loop of `extractBuyerOrder`, for the lines that the order list has room for. -/
def extractOrderLines : Nat → Option Text → Decoder (List ItemOrder)
  | 0, _ => orCrash none
  | room + 1, ptr => do
    let productID ← orCrash ptr
    if atoi productID = 0 then return [] else do
    let quantity ← orCrash (← next [','])
    let itemCostPerUnit ← orCrash (← next [','])
    let ptr ← next [',']
    let items ← extractOrderLines room ptr
    return ⟨atoi productID, atoi quantity, atoi itemCostPerUnit⟩ :: items

def extractBuyerOrder : Decoder (List ItemOrder) := do
  let ptr ← first .message
  extractOrderLines (maxOrderLines + 1) ptr

/-- `deleteProduct`, `modifyQuantity` and `modifyPrice`, which differ in the number of their
tokens. -/
def changeProduct (contents : Contents) (more : Nat) : Decoder Unit := do
  match ← tokensOf .message more with
  | _ :: ptr :: _ => do
    store .productIdToValidate (← orCrash (productIdToValidate ptr))
    if ← validateID contents .productIdToValidate then do
      let _ ← load .ProductInfo (contents.loaded .ProductInfo)
      return ()
  | _ => return ()

/-- The tokens of the new data of a client. When nothing follows the sub-command the pointer is
null, so the first call continues as well. -/
def editTokens (rest : Option Text) (count : Nat) : Decoder Unit := do
  match rest with
  | some _ => do
    let _ ← tokensOf .rest (count - 1)
    return ()
  | none => do
    let _ ← moreTokens count
    return ()

/-- Loads the files in their order. -/
def loadAll (contents : Contents) : List DbFile → Decoder Unit
  | [] => return ()
  | file :: files => do
    let _ ← load file (contents.loaded file)
    loadAll contents files

def clientEditsInfo (contents : Contents) : Decoder Unit := do
  match ← tokensOf .message 2 with
  | clientType :: _ :: subCommand :: _ => do
    let rest ← next []
    if let some text := rest then store .rest text
    let client := (clientTypeOf clientType).file
    let copies : List DbFile :=
      if client = .CustomerInfo then [.BillingInfo, .CustomerOrder] else []
    if strstr subCommand "[NAME]".toList then do
      loadAll contents [client]
      editTokens rest 2
      loadAll contents copies
    else if strstr subCommand "[NUMBER]".toList then do
      loadAll contents [client]
      editTokens rest 1
    else if strstr subCommand "[ADDRESS]".toList then do
      loadAll contents [client]
      editTokens rest 4
      loadAll contents copies
  | _ => return ()

/-- What the handler of a command cuts into tokens. -/
def decode (contents : Contents) : Command → Decoder Unit
  | .newClient => do
    match ← tokensOf .message 7 with
    | clientType :: _ => loadAll contents [(clientTypeOf clientType).file]
    | _ => return ()
  | .validateID => do
    let _ ← validateID contents .message
    return ()
  | .viewProducts => do
    match ← tokensOf .message 0 with
    | clientType :: _ => do
      -- The seller branch starts again at the front of the buffer.
      if clientTypeOf clientType = .seller then
        let _ ← tokensOf .message 0
      loadAll contents [.ProductInfo]
    | _ => return ()
  | .completeOrder => do
    let _ ← tokensOf .message 0
    let ptr ← orCrash (← next [])
    storeRest (some ptr)
    let orderList ← extractBuyerOrder
    let productList ← load .ProductInfo (contents.loaded .ProductInfo)
    if validateBuyerOrder orderList productList then
      loadAll contents [.CustomerInfo, .BillingInfo, .CustomerOrder]
  | .viewBuyerOrders => do
    let _ ← tokensOf .message 0
    loadAll contents [.BillingInfo]
  | .checkBuyer => do
    let _ ← tokensOf .message 1
    loadAll contents [.BillingInfo]
  | .orderDetails => do
    let _ ← tokensOf .message 0
    loadAll contents [.CustomerOrder, .ProductInfo]
  | .modOrder => do
    let _ ← tokensOf .message 1
    loadAll contents [.CustomerOrder, .BillingInfo]
  | .viewBilling => do
    let _ ← tokensOf .message 0
    loadAll contents [.CustomerInfo]
  | .editInfo => clientEditsInfo contents
  | .newProduct => do
    loadAll contents [.ProductInfo]
    let _ ← tokensOf .message 3
    return ()
  | .deleteProd => changeProduct contents 1
  | .modQuant => changeProduct contents 2
  | .modPrice => changeProduct contents 2
  | .sellerOrders => do
    let _ ← tokensOf .message 0
    loadAll contents [.ProductInfo, .CustomerOrder]

/-- A message, with the contents of the files that its handler loads. -/
structure Received where
  message : Text
  contents : Contents

def executeTaskOnServer (received : Received) : Decoder Unit := do
  store .message received.message
  let command ← extractCommand
  match commandOf command with
  | some command => decode received.contents command
  | none => return ()

/-- A thread handles the messages of its client one after the other. -/
def threadTask : List Received → Decoder Unit
  | [] => return ()
  | received :: later => do
    executeTaskOnServer received
    threadTask later

/-! ### Decoding alone -/

section Alone

variable {Thread : Type} [DecidableEq Thread] {thread : Thread}
variable {Result Outcome : Type}

/-- Whatever the process holds, the decoder has this result when its thread runs alone. -/
def Yields (thread : Thread) (decoder : Decoder Result) (result : Option Result) : Prop :=
  ∀ state, (decoder.run (Tokenizer.exec thread) state).map Prod.fst = result

/-- The decoder has this result when its first call continues on a text. -/
def YieldsFrom (thread : Thread) (text : Text) (decoder : Decoder Result)
    (result : Option Result) : Prop :=
  ∀ state : Tokenizer Thread Buffer, state.pending = some text →
    (decoder.run (Tokenizer.exec thread) state).map Prod.fst = result

theorem yields_pure (result : Result) : Yields thread (.pure result) (some result) :=
  fun _ => rfl

theorem yields_orCrash (value : Option Result) : Yields thread (orCrash value) value := by
  intro state
  cases value <;> rfl

theorem YieldsFrom.bind {text : Text} {decoder : Decoder Result} {result : Option Result}
    {rest : Result → Decoder Outcome} {outcome : Result → Option Outcome}
    (first : YieldsFrom thread text decoder result)
    (second : ∀ value, Yields thread (rest value) (outcome value)) :
    YieldsFrom thread text (decoder >>= rest) (result.bind outcome) := by
  intro state pending
  rw [Prog.run_bind, ← first state pending, Option.map_bind, Option.bind_map]
  exact congrArg _ (funext fun value => second value.1 value.2)

theorem Yields.bind {decoder : Decoder Result} {result : Option Result}
    {rest : Result → Decoder Outcome} {outcome : Result → Option Outcome}
    (first : Yields thread decoder result)
    (second : ∀ value, Yields thread (rest value) (outcome value)) :
    Yields thread (decoder >>= rest) (result.bind outcome) := by
  intro state
  rw [Prog.run_bind, ← first state, Option.map_bind, Option.bind_map]
  exact congrArg _ (funext fun value => second value.1 value.2)

/-- A call that continues on a text, and what follows it. -/
theorem yieldsFrom_next {text : Text} {rest : Option Text → Decoder Outcome}
    {outcome : Option Outcome}
    (follows : YieldsFrom thread (((strtok text).map Prod.snd).getD [])
      (rest ((strtok text).map Prod.fst)) outcome) :
    YieldsFrom thread text (next [','] >>= rest) outcome := by
  intro state pending
  obtain ⟨position, saved, found⟩ := Option.map_eq_some_iff.mp pending
  obtain ⟨token, left⟩ := state.tokenize_comma thread position.1 position.2.1 position.2.2 found
  rw [next, Prog.perform_bind, Prog.run_call]
  show ((state.saved.map _).bind _).map _ = _
  rw [saved]
  show ((rest _).run _ _).map _ = _
  rw [token]
  exact follows _ left

/-- The first call on a buffer that a text was stored in, and what follows it. -/
theorem yields_store_first {buffer : Buffer} {text : Text} (plain : nul ∉ text)
    {rest : Option Text → Decoder Outcome} {outcome : Option Outcome}
    (follows : YieldsFrom thread (((strtok text).map Prod.snd).getD [])
      (rest ((strtok text).map Prod.fst)) outcome) :
    Yields thread (store buffer text >>= fun _ => first buffer >>= rest) outcome := by
  intro state
  have found : stringAt ((state.put thread buffer
      (overwritten (state.memory thread buffer) text)).memory thread buffer) 0 = text := by
    show stringAt (Function.update state.memory thread _ thread buffer) 0 = text
    rw [Function.update_self, Function.update_self, stringAt_overwritten _ plain]
  obtain ⟨token, left⟩ := Tokenizer.tokenize_comma _ thread thread buffer 0 found
  rw [store, Prog.perform_bind, Prog.run_call]
  show ((first buffer >>= rest).run _ _).map _ = _
  rw [first, Prog.perform_bind, Prog.run_call]
  show ((rest _).run _ _).map _ = _
  rw [token]
  exact follows _ left

/-- The tokens of calls that continue on a text. -/
theorem yieldsFrom_moreTokens (count : Nat) (text : Text) :
    YieldsFrom thread text (moreTokens count)
      (if count ≤ (tokens text).length then some ((tokens text).take count) else none) := by
  induction count generalizing text with
  | zero =>
    intro state _
    rw [if_pos (Nat.zero_le _), List.take_zero]
    rfl
  | succ count inductionHypothesis =>
    rw [moreTokens]
    refine yieldsFrom_next ?_
    rw [tokens_eq_strtok text]
    cases strtok text with
    | none => exact fun _ _ => rfl
    | some outcome =>
      obtain ⟨token, rest⟩ := outcome
      have whole := (inductionHypothesis rest).bind fun others =>
        yields_pure (token :: others)
      refine Eq.mp (congrArg _ ?_) whole
      simp only [List.length_cons, Nat.add_le_add_iff_right, List.take_succ_cons]
      by_cases enough : count ≤ (tokens rest).length
      · rw [if_pos enough, if_pos enough]
        rfl
      · rw [if_neg enough, if_neg enough]
        rfl

/-- The loaders take exactly the tokens that the reader of a record needs. -/
theorem read_take (file : DbFile) (record : Text) (others : List Text) :
    file.layout.read (record :: others) =
      (if width file - 1 ≤ others.length then some (others.take (width file - 1)) else none).bind
        fun needed => file.layout.read (record :: needed) := by
  rcases others with _ | ⟨_, _ | ⟨_, _ | ⟨_, _ | ⟨_, _ | ⟨_, _ | ⟨_, _ | ⟨_, _ | ⟨_, _ |
    ⟨_, others⟩⟩⟩⟩⟩⟩⟩⟩⟩ <;> cases file <;> simp [width] <;> rfl

/-- Alone, the loop body of a loader reads the row of its line. -/
theorem yields_loadLine (file : DbFile) {line : Text} (plain : nul ∉ line) :
    Yields thread (loadLine file line)
      (match tokens line with
      | [] => some none
      | record :: others => (file.layout.read (record :: others)).map some) := by
  rw [loadLine]
  refine yields_store_first plain ?_
  rw [tokens_eq_strtok line]
  cases strtok line with
  | none => exact fun _ _ => rfl
  | some outcome =>
    obtain ⟨record, rest⟩ := outcome
    have more : YieldsFrom thread rest (moreTokens (width file - 1)) _ :=
      yieldsFrom_moreTokens (width file - 1) rest
    have needed := more.bind fun others =>
      (yields_orCrash (file.layout.read (record :: others))).bind fun row => yields_pure (some row)
    refine Eq.mp (congrArg _ ?_) needed
    show _ = (file.layout.read (record :: tokens rest)).map some
    rw [read_take, Option.map_bind]
    exact congrArg _ (funext fun others => Option.map_eq_bind.symm)

theorem yields_loadLines (file : DbFile) {lines : List Text}
    (plain : ∀ line ∈ lines, nul ∉ line) :
    Yields thread (loadLines file lines) (file.layout.readLines lines) := by
  induction lines with
  | nil => exact yields_pure []
  | cons line lines inductionHypothesis =>
    have others := inductionHypothesis fun other member =>
      plain other (List.mem_cons_of_mem _ member)
    have first : Yields thread (loadLine file line) _ :=
      yields_loadLine file (plain line List.mem_cons_self)
    have both := first.bind fun row => others.bind fun rows => yields_pure (row.toList ++ rows)
    refine Eq.mp (congrArg _ ?_) both
    rw [Layout.readLines]
    cases tokens line with
    | nil => exact Option.bind_fun_some _
    | cons record rest =>
      show ((file.layout.read (record :: rest)).map some).bind _ = _
      rw [Option.bind_map]
      rfl

/-- Alone, a loader computes the table of its file. -/
theorem yields_load (file : DbFile) {text : Text} (plain : nul ∉ text) :
    Yields thread (load file text) (file.load text) :=
  yields_loadLines file fun _ member inLine => plain (mem_of_mem_fgets member inLine)

/-- What a handler finds in the message buffer. -/
def messageOf (thread : Thread) (state : Tokenizer Thread Buffer) : Text :=
  stringAt (state.memory thread .message) 0

theorem messageOf_put (state : Tokenizer Thread Buffer) (content : Text) :
    messageOf thread (state.put thread .message content) = stringAt content 0 := by
  show stringAt (Function.update state.memory thread _ thread .message) 0 = _
  rw [Function.update_self, Function.update_self]

/-- The second call of `extractCommand` and what it leaves in the message buffer. -/
theorem run_storeRest {state : Tokenizer Thread Buffer} {offset : Nat}
    (saved : state.saved = some (thread, .message, offset))
    (plain : nul ∉ stringAt (state.memory thread .message) offset) :
    ∃ final, (next [] >>= storeRest).run (Tokenizer.exec thread) state = some ((), final) ∧
      messageOf thread final =
        if stringAt (state.memory thread .message) offset = [] then messageOf thread state
        else stringAt (state.memory thread .message) offset ++ ['\n'] := by
  have token := cut_all (state.memory thread .message) offset
  have called : (next [] >>= storeRest).run (Tokenizer.exec thread) state =
      (storeRest (cut (state.memory thread .message) offset []).token).run (Tokenizer.exec thread)
        (state.tokenize thread thread .message offset []).2 := by
    rw [next, Prog.perform_bind, Prog.run_call]
    show (state.saved.map _).bind _ = _
    rw [saved]
    rfl
  rw [called]
  by_cases empty : stringAt (state.memory thread .message) offset = []
  · rw [if_pos empty] at token ⊢
    rw [token]
    refine ⟨_, rfl, ?_⟩
    show messageOf thread (state.put thread .message _) = _
    rw [messageOf_put, cut_content token]
    rfl
  · rw [if_neg empty] at token ⊢
    rw [token]
    refine ⟨_, rfl, ?_⟩
    rw [messageOf_put, stringAt_overwritten]
    simpa [nul] using plain

/-- Alone, `extractCommand` returns the command and leaves the text that the handlers are given. -/
theorem extractCommand_alone {message : Text} (plain : nul ∉ message)
    (state : Tokenizer Thread Buffer) :
    ((store .message message >>= fun _ => extractCommand).run (Tokenizer.exec thread) state).map
        (fun outcome => (outcome.1, messageOf thread outcome.2)) =
      OnlineStore.extractCommand message := by
  have found : stringAt ((state.put thread .message
      (overwritten (state.memory thread .message) message)).memory thread .message) 0 = message := by
    show messageOf thread (state.put thread .message _) = message
    rw [messageOf_put, stringAt_overwritten _ plain]
  show (extractCommand.run (Tokenizer.exec thread) (state.put thread .message
    (overwritten (state.memory thread .message) message))).map _ = _
  generalize state.put thread .message (overwritten (state.memory thread .message) message) =
    stored at found ⊢
  obtain ⟨token, left⟩ := cut_comma (stored.memory thread .message) 0
  rw [found] at token left
  have inBuffer : (stored.tokenize thread thread .message 0 [',']).2.memory thread .message =
      (cut (stored.memory thread .message) 0 [',']).content := by
    show Function.update stored.memory thread _ thread .message = _
    rw [Function.update_self, Function.update_self]
  have unread : nul ∉ ((strtok message).map Prod.snd).getD [] := by
    cases split : strtok message with
    | none => exact List.not_mem_nil
    | some outcome => exact fun member => plain (mem_of_strtok split member)
  have saved : (stored.tokenize thread thread .message 0 [',']).2.saved =
      some (thread, .message, (cut (stored.memory thread .message) 0 [',']).offset) := rfl
  have later (command : Text) : ((next [] >>= fun ptr => storeRest ptr >>= fun _ =>
      (.pure command : Decoder Text)).run (Tokenizer.exec thread)
        (stored.tokenize thread thread .message 0 [',']).2).map
          (fun outcome => (outcome.1, messageOf thread outcome.2)) =
      some (command, if ((strtok message).map Prod.snd).getD [] = [] then
        stringAt (cut (stored.memory thread .message) 0 [',']).content 0
        else ((strtok message).map Prod.snd).getD [] ++ ['\n']) := by
    rw [← inBuffer] at left
    obtain ⟨final, ran, kept⟩ := run_storeRest saved (left ▸ unread)
    rw [left] at kept
    rw [← Prog.bind_assoc, Prog.run_bind, ran, ← inBuffer]
    show some (command, messageOf thread final) = _
    rw [kept]
    rfl
  rw [extractCommand, first, Prog.perform_bind, Prog.run_call]
  show ((orCrash (strcpy 25 ((cut _ 0 [',']).token.getD [])) >>= _).run _ _).map _ = _
  rw [token, OnlineStore.extractCommand]
  cases split : strtok message with
  | none =>
    refine (later []).trans ?_
    rw [split] at token
    rw [split, cut_content token, found]
    rfl
  | some outcome =>
    obtain ⟨ptr, rest⟩ := outcome
    show ((orCrash (strcpy 25 ptr) >>= _).run _ _).map _ = _
    cases copied : strcpy 25 ptr with
    | none =>
      simp only [copied]
      rfl
    | some command =>
      refine (later command.val).trans ?_
      rw [split, stringAt_cut_comma (found.symm ▸ split), found]
      by_cases empty : rest = []
      · simp [copied, empty]
      · simp [copied, empty]

end Alone

/-! ### The threads of the server -/

section Server

variable {Thread : Type}

/-- The process when no thread has called `strtok` yet. -/
def initial (memory : Thread → Buffer → Text) : Tokenizer Thread Buffer where
  memory := memory
  saved := none
  caller := none
  obtained _ := []

/-- The threads before they handle the messages that they receive. -/
def server (received : Thread → List Received) (memory : Thread → Buffer → Text) :
    System Thread Buffer where
  shared := initial memory
  program thread := threadTask (received thread)

variable [DecidableEq Thread]

/-- The tokens that a thread obtains in a process without other threads. -/
def decodedAlone (received : Thread → List Received) (memory : Thread → Buffer → Text)
    (thread : Thread) : List (Option Text) :=
  (machine.alone thread (threadTask (received thread)) (initial memory)).obtained thread

/-- Each thread has obtained the first of the tokens that it obtains alone, and all of them once
it has handled its messages. -/
def DecodesAlone (received : Thread → List Received) (memory : Thread → Buffer → Text)
    (system : System Thread Buffer) : Prop :=
  ∀ thread, system.shared.obtained thread <+: decodedAlone received memory thread ∧
    (system.finished thread = true →
      system.shared.obtained thread = decodedAlone received memory thread)

/-- As long as each `strtok(NULL, ·)` of a thread follows a call of the same thread, the threads
decode their own requests and files. -/
theorem decodesAlone_of_undisturbed (received : Thread → List Received)
    (memory : Thread → Buffer → Text) {system : System Thread Buffer}
    (reached : machine.Reaches Undisturbed (server received memory) system) :
    DecodesAlone received memory system :=
  obtained_prefix_of_reaches reached fun _ called => by cases called

end Server

/-- A buyer that asks for its data, and a product that is looked up. -/
def twoMessages : Bool → List Received
  | false => [⟨"[VIEW_BILLING],1,".toList, ⟨shippedFile, shippedFile⟩⟩]
  | true => [⟨"[VALIDATE_ID],2,[PRODUCT],".toList, ⟨shippedFile, shippedFile⟩⟩]

theorem decodesAlone_of_undisturbed_twoMessages :
    ∃ system, machine.runs Undisturbed [false, true, false, false, true, true, true, false]
        (server twoMessages fun _ _ => []) = some system ∧
      DecodesAlone twoMessages (fun _ _ => []) system := by
  have ran : (machine.runs Undisturbed [false, true, false, false, true, true, true, false]
      (server twoMessages fun _ _ => [])).isSome = true := by
    decide
  obtain ⟨system, ran⟩ := Option.isSome_iff_exists.mp ran
  exact ⟨system, ran,
    decodesAlone_of_undisturbed twoMessages (fun _ _ => []) (Machine.reaches_of_runs ran)⟩

/-- Both threads take their messages before the buyer's thread goes on, and it goes on in the
message of the other one. -/
theorem twoMessages_not_decoded :
    ¬∀ system, machine.Reaches (fun _ _ => True) (server twoMessages fun _ _ => []) system →
      DecodesAlone twoMessages (fun _ _ => []) system := by
  intro decoded
  have ran : (machine.runs (fun _ _ => True) [false, false, true, true, false]
      (server twoMessages fun _ _ => [])).map (fun system => system.shared.obtained false) =
        some [some "[VIEW_BILLING]".toList, some "2,[PRODUCT],".toList] := by
    decide
  have alone : (decodedAlone twoMessages (fun _ _ => []) false)[1]? =
      some (some "1,".toList) := by
    decide
  obtain ⟨system, ran, obtained⟩ := Option.map_eq_some_iff.mp ran
  obtain ⟨rest, same⟩ := (decoded system (Machine.reaches_of_runs ran) false).1
  rw [obtained] at same
  rw [← same, List.cons_append, List.getElem?_cons_succ, List.cons_append,
    List.getElem?_cons_zero] at alone
  exact absurd alone (by decide)

end OnlineStore.Decoders
