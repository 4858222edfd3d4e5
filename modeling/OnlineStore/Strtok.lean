/-
This file is the tokenizer library of the development: `strtok` with one saved position for the
whole process, as the C library allows it, called by threads that interleave at every call.

The memory of a thread are its buffers, with the NULs that `strtok` puts behind the tokens. A
call with a text starts at the front of a buffer of the calling thread; a call with a null
pointer goes on from the saved position, wherever the latest call of any thread has left it. The
state keeps two records of what has happened: the tokens each thread has obtained and the thread
that made the latest call. `obtained_prefix_of_reaches` is the law: as long as every call with a
null pointer follows a call of the same thread, each thread obtains the tokens that it obtains
alone.
-/

import OnlineStore.CString
import OnlineStore.Interleaving
import Mathlib.Data.List.TakeWhile

namespace Strtok

open CString Interleaving

/-- The character that ends a string. -/
def nul : Char := '\x00'

/-- The string that starts at an offset of a buffer. -/
def stringAt (content : Text) (offset : Nat) : Text :=
  (content.drop offset).takeWhile (· != nul)

/-- A buffer after a string is copied to its front. -/
def overwritten (content text : Text) : Text :=
  text ++ nul :: content.drop (text.length + 1)

/-- The outcome of `strtok` on a buffer: the token, the characters of the buffer and the offset
at which the next call continues. -/
structure Cut where
  token : Option Text
  content : Text
  offset : Nat

/-- How many characters in front of a text are in a set (`strspn`). -/
def strspn (text accept : Text) : Nat :=
  (text.takeWhile fun char => accept.contains char).length

/-- How many characters in front of a text are not in a set (`strcspn`). -/
def strcspn (text reject : Text) : Nat :=
  (text.takeWhile fun char => !reject.contains char).length

/-- `strtok` from an offset of a buffer. It skips delimiters, and it puts a NUL behind the token
unless the token ends the string. -/
def cut (content : Text) (offset : Nat) (delimiters : Text) : Cut :=
  let string := stringAt content offset
  let skipped := strspn string delimiters
  let start := string.drop skipped
  let length := strcspn start delimiters
  if start = [] then ⟨none, content, offset + string.length⟩
  else if skipped + length = string.length then
    ⟨some (start.take length), content, offset + string.length⟩
  else
    ⟨some (start.take length), content.set (offset + skipped + length) nul,
      offset + skipped + length + 1⟩

/-! ### One call -/

theorem takeWhile_drop {Element : Type} (keep : Element → Bool) (list : List Element)
    {skipped : Nat} (inside : skipped ≤ (list.takeWhile keep).length) :
    (list.drop skipped).takeWhile keep = (list.takeWhile keep).drop skipped := by
  induction skipped generalizing list with
  | zero => rfl
  | succ skipped inductionHypothesis =>
    cases list with
    | nil => rfl
    | cons head tail =>
      cases kept : keep head with
      | false =>
        rw [List.takeWhile_cons_of_neg (by simp [kept])] at inside
        exact absurd inside (Nat.not_succ_le_zero _)
      | true =>
        rw [List.takeWhile_cons_of_pos kept] at inside ⊢
        exact inductionHypothesis tail (Nat.le_of_succ_le_succ inside)

theorem stringAt_add {content : Text} {offset skipped : Nat}
    (inside : skipped ≤ (stringAt content offset).length) :
    stringAt content (offset + skipped) = (stringAt content offset).drop skipped := by
  rw [stringAt, ← List.drop_drop]
  exact takeWhile_drop _ _ inside

theorem stringAt_overwritten (content : Text) {text : Text} (plain : nul ∉ text) :
    stringAt (overwritten content text) 0 = text := by
  have other : ∀ char ∈ text, (char != nul) = true := by
    intro char member
    have different : char ≠ nul := fun same => plain (same ▸ member)
    simpa using different
  rw [stringAt, overwritten, List.drop_zero, List.takeWhile_append_of_pos other]
  simp

theorem stringAt_set (content : Text) (stop : Nat) :
    stringAt (content.set stop nul) (stop + 1) = stringAt content (stop + 1) := by
  rw [stringAt, stringAt, List.drop_set_of_lt (Nat.lt_succ_self stop)]

theorem strspn_le (text accept : Text) : strspn text accept ≤ text.length :=
  (List.takeWhile_sublist _).length_le

theorem strcspn_le (text reject : Text) : strcspn text reject ≤ text.length :=
  (List.takeWhile_sublist _).length_le

/-- The token of a call, and the string that the next call finds. -/
theorem cut_spec (content : Text) (offset : Nat) (delimiters : Text) {start : Text}
    (behind : start =
      (stringAt content offset).drop (strspn (stringAt content offset) delimiters)) :
    (cut content offset delimiters).token =
        (if start = [] then none else some (start.take (strcspn start delimiters))) ∧
      stringAt (cut content offset delimiters).content (cut content offset delimiters).offset =
        start.drop (strcspn start delimiters + 1) := by
  have skipped := strspn_le (stringAt content offset) delimiters
  have length := strcspn_le start delimiters
  have total : start.length = (stringAt content offset).length -
      strspn (stringAt content offset) delimiters := by
    rw [behind, List.length_drop]
  have ended : stringAt content (offset + (stringAt content offset).length) = [] := by
    rw [stringAt_add le_rfl, List.drop_length]
  rw [cut, ← behind]
  by_cases empty : start = []
  · rw [if_pos empty, if_pos empty, empty, List.drop_nil]
    exact ⟨rfl, ended⟩
  · rw [if_neg empty, if_neg empty]
    by_cases last : strspn (stringAt content offset) delimiters + strcspn start delimiters =
        (stringAt content offset).length
    · rw [if_pos last]
      refine ⟨rfl, ended.trans (List.drop_eq_nil_of_le ?_).symm⟩
      omega
    · rw [if_neg last]
      refine ⟨rfl, ?_⟩
      have inside : strspn (stringAt content offset) delimiters + (strcspn start delimiters + 1) ≤
          (stringAt content offset).length := by omega
      rw [stringAt_set, Nat.add_assoc, Nat.add_assoc, stringAt_add inside, ← List.drop_drop,
        ← behind]

theorem drop_length_takeWhile {Element : Type} (keep : Element → Bool) (list : List Element) :
    list.drop (list.takeWhile keep).length = list.dropWhile keep := by
  have whole := congrArg (List.drop (list.takeWhile keep).length)
    (List.takeWhile_append_dropWhile : list.takeWhile keep ++ list.dropWhile keep = list)
  rw [List.drop_left] at whole
  exact whole.symm

theorem take_length_takeWhile {Element : Type} (keep : Element → Bool) (list : List Element) :
    list.take (list.takeWhile keep).length = list.takeWhile keep :=
  (List.prefix_iff_eq_take.mp (List.takeWhile_prefix keep)).symm

theorem contains_comma :
    (fun char => ([','] : Text).contains char) = fun char => char == ',' := by
  funext char
  rw [List.contains_cons, List.contains_nil, Bool.or_false]

/-- Called for commas, `strtok` returns the next token and leaves the text behind it. -/
theorem cut_comma (content : Text) (offset : Nat) :
    (cut content offset [',']).token = (strtok (stringAt content offset)).map Prod.fst ∧
      stringAt (cut content offset [',']).content (cut content offset [',']).offset =
        ((strtok (stringAt content offset)).map Prod.snd).getD [] := by
  have rejected : (fun char => !([','] : Text).contains char) = fun char => char != ',' := by
    funext char
    rw [congrFun contains_comma char, bne]
  obtain ⟨token, rest⟩ := cut_spec content offset [','] rfl
  rw [token, rest, strspn, contains_comma, drop_length_takeWhile, strcspn, rejected,
    take_length_takeWhile, ← List.drop_drop, drop_length_takeWhile, strtok]
  cases (stringAt content offset).dropWhile fun char => char == ',' with
  | nil => exact ⟨rfl, rfl⟩
  | cons char text => exact ⟨rfl, rfl⟩

/-- Called without delimiters, `strtok` returns the text from the saved position on. -/
theorem cut_all (content : Text) (offset : Nat) :
    (cut content offset []).token =
      if stringAt content offset = [] then none else some (stringAt content offset) := by
  have all (text : Text) : text.takeWhile (fun char => !([] : Text).contains char) = text :=
    List.takeWhile_eq_self_iff.mpr fun char _ => rfl
  have none : strspn (stringAt content offset) [] = 0 := by
    rw [strspn]
    cases stringAt content offset <;> rfl
  rw [(cut_spec content offset [] rfl).1, none, List.drop_zero, strcspn, all, List.take_length]

theorem takeWhile_set {Element : Type} (keep : Element → Bool) {stop : Element}
    (stops : keep stop = false) (list : List Element) {cuts : Nat}
    (inside : cuts < (list.takeWhile keep).length) :
    (list.set cuts stop).takeWhile keep = (list.takeWhile keep).take cuts := by
  induction cuts generalizing list with
  | zero =>
    cases list with
    | nil => rfl
    | cons head tail => exact List.takeWhile_cons_of_neg (by simp [stops])
  | succ cuts inductionHypothesis =>
    cases list with
    | nil => rfl
    | cons head tail =>
      cases kept : keep head with
      | false =>
        rw [List.takeWhile_cons_of_neg (by simp [kept])] at inside
        exact absurd inside (Nat.not_lt_zero _)
      | true =>
        rw [List.takeWhile_cons_of_pos kept] at inside
        rw [List.set_cons_succ, List.takeWhile_cons_of_pos kept, List.takeWhile_cons_of_pos kept,
          List.take_succ_cons, inductionHypothesis tail (Nat.lt_of_succ_lt_succ inside)]

/-- What `strtok` leaves in front of the saved position: the delimiters it has skipped and the
token. -/
theorem stringAt_cut (content : Text) (offset : Nat) (delimiters : Text) {start : Text}
    (behind : start =
      (stringAt content offset).drop (strspn (stringAt content offset) delimiters))
    (nonempty : start ≠ []) :
    stringAt (cut content offset delimiters).content offset =
      (stringAt content offset).take
        (strspn (stringAt content offset) delimiters + strcspn start delimiters) := by
  have length := strcspn_le start delimiters
  have total := congrArg List.length behind
  rw [List.length_drop] at total
  have skipped := strspn_le (stringAt content offset) delimiters
  rw [cut, ← behind, if_neg nonempty]
  by_cases last : strspn (stringAt content offset) delimiters + strcspn start delimiters =
      (stringAt content offset).length
  · rw [if_pos last, last, List.take_length]
  · rw [if_neg last, Nat.add_assoc]
    show ((content.set _ nul).drop offset).takeWhile _ = _
    rw [← List.set_drop]
    exact takeWhile_set _ rfl _ (show _ < (stringAt content offset).length by omega)

/-- Called for commas, `strtok` leaves the commas it has skipped and the token. -/
theorem stringAt_cut_comma {content : Text} {offset : Nat} {token rest : Text}
    (found : strtok (stringAt content offset) = some (token, rest)) :
    stringAt (cut content offset [',']).content offset =
      (stringAt content offset).takeWhile (· == ',') ++ token := by
  have skipped : strspn (stringAt content offset) [','] =
      ((stringAt content offset).takeWhile (· == ',')).length := by
    rw [strspn, contains_comma]
  obtain ⟨same, -⟩ := cut_comma content offset
  obtain ⟨spec, -⟩ := cut_spec content offset [','] rfl
  rw [found, spec] at same
  by_cases empty : (stringAt content offset).drop (strspn (stringAt content offset) [',']) = []
  · rw [if_pos empty] at same
    cases same
  · rw [if_neg empty] at same
    rw [stringAt_cut content offset [','] rfl empty, List.take_add, Option.some.inj same, skipped,
      take_length_takeWhile]

/-- A call that finds no token leaves the buffer as it is. -/
theorem cut_content {content : Text} {offset : Nat} {delimiters : Text}
    (none : (cut content offset delimiters).token = none) :
    (cut content offset delimiters).content = content := by
  rw [cut] at none ⊢
  split at none
  · rename_i empty
    rw [if_pos empty]
  · split at none <;> cases none

/-! ### The calls of threads -/

/-- The calls of a thread. `store` stands for every write of a string to the front of one of its
buffers. -/
inductive Call (Buffer : Type) where
  | store (buffer : Buffer) (text : Text)
  /-- `strtok(buffer, delimiters)` -/
  | first (buffer : Buffer) (delimiters : Text)
  /-- `strtok(NULL, delimiters)` -/
  | next (delimiters : Text)
  | crash

abbrev Call.Ret {Buffer : Type} : Call Buffer → Type
  | .store _ _ => Unit
  | .first _ _ => Option Text
  | .next _ => Option Text
  | .crash => Empty

/-- The memory of the threads and the position that `strtok` has saved, with the records of the
run. -/
structure Tokenizer (Thread Buffer : Type) where
  memory : Thread → Buffer → Text
  saved : Option (Thread × Buffer × Nat)
  /-- The thread that made the latest call of `strtok`. -/
  caller : Option Thread
  /-- What the calls of `strtok` have returned to each thread. -/
  obtained : Thread → List (Option Text)

variable {Thread Buffer : Type} [DecidableEq Thread] [DecidableEq Buffer]

namespace Tokenizer

/-- Stores the characters of a buffer. -/
def put (state : Tokenizer Thread Buffer) (owner : Thread) (buffer : Buffer) (content : Text) :
    Tokenizer Thread Buffer :=
  { state with
    memory := Function.update state.memory owner
      (Function.update (state.memory owner) buffer content) }

/-- `strtok`, called by a thread and started at an offset of a buffer. -/
def tokenize (state : Tokenizer Thread Buffer) (thread owner : Thread) (buffer : Buffer)
    (offset : Nat) (delimiters : Text) : Option Text × Tokenizer Thread Buffer :=
  let result := cut (state.memory owner buffer) offset delimiters
  (result.token,
    { state.put owner buffer result.content with
      saved := some (owner, buffer, result.offset)
      caller := some thread
      obtained := Function.update state.obtained thread
        (state.obtained thread ++ [result.token]) })

/-- A call of a thread. Without a saved position `strtok(NULL, ·)` reads a null pointer. -/
def exec (thread : Thread) (state : Tokenizer Thread Buffer) :
    (call : Call Buffer) → Option (call.Ret × Tokenizer Thread Buffer)
  | .store buffer text =>
    some ((), state.put thread buffer (overwritten (state.memory thread buffer) text))
  | .first buffer delimiters => some (state.tokenize thread thread buffer 0 delimiters)
  | .next delimiters => state.saved.map fun position =>
    state.tokenize thread position.1 position.2.1 position.2.2 delimiters
  | .crash => none

end Tokenizer

/-- The string at the saved position. -/
def Tokenizer.pending (state : Tokenizer Thread Buffer) : Option Text :=
  state.saved.map fun position => stringAt (state.memory position.1 position.2.1) position.2.2

/-- A call for commas on a text returns its first token and saves the position of the text
behind it. -/
theorem Tokenizer.tokenize_comma (state : Tokenizer Thread Buffer) (thread owner : Thread)
    (buffer : Buffer) (offset : Nat) {text : Text}
    (found : stringAt (state.memory owner buffer) offset = text) :
    (state.tokenize thread owner buffer offset [',']).1 = (strtok text).map Prod.fst ∧
      (state.tokenize thread owner buffer offset [',']).2.pending =
        some (((strtok text).map Prod.snd).getD []) := by
  obtain ⟨token, rest⟩ := cut_comma (state.memory owner buffer) offset
  rw [found] at token rest
  refine ⟨token, congrArg some (Eq.trans ?_ rest)⟩
  show stringAt (Function.update state.memory owner _ owner buffer) _ = _
  rw [Function.update_self, Function.update_self]

/-- The threads stop when they have returned. -/
def machine : Machine Thread (Tokenizer Thread Buffer) (Call Buffer) Call.Ret where
  exec := Tokenizer.exec
  again _ := none

abbrev Program (Buffer Result : Type) := Prog (Call Buffer) Call.Ret Result

abbrev System (Thread Buffer : Type) :=
  Threads Thread (Tokenizer Thread Buffer) (Call Buffer) Call.Ret

/-- The next call of the program is `strtok(NULL, ·)`. -/
def continues {Result : Type} : Program Buffer Result → Bool
  | .call (.next _) _ => true
  | _ => false

/-- A step is undisturbed if a call `strtok(NULL, ·)` follows a call of the same thread. -/
def Undisturbed (system : System Thread Buffer) (thread : Thread) : Prop :=
  continues (system.program thread) = true → system.shared.caller = some thread

instance (system : System Thread Buffer) (thread : Thread) :
    Decidable (Undisturbed system thread) :=
  inferInstanceAs (Decidable (_ → _))

/-! ### Undisturbed runs -/

/-- The saved position is in a buffer of the thread that made the latest call. -/
def Owned (state : Tokenizer Thread Buffer) : Prop :=
  ∀ thread, state.caller = some thread →
    ∃ buffer offset, state.saved = some (thread, buffer, offset)

/-- What a thread can notice is the same in two states: its buffers, its tokens, and the saved
position if the latest call was its own. -/
structure Agrees (thread : Thread) (state solo : Tokenizer Thread Buffer) : Prop where
  memory : solo.memory thread = state.memory thread
  obtained : solo.obtained thread = state.obtained thread
  saved : state.caller = some thread → solo.saved = state.saved

variable {state solo next : Tokenizer Thread Buffer} {thread : Thread}

theorem Agrees.put {buffer : Buffer} (content : Text) (agrees : Agrees thread state solo) :
    Agrees thread (state.put thread buffer content) (solo.put thread buffer content) := by
  refine ⟨?_, agrees.obtained, agrees.saved⟩
  show Function.update solo.memory thread _ thread = Function.update state.memory thread _ thread
  rw [Function.update_self, Function.update_self, agrees.memory]

/-- A call from a buffer of the thread makes two agreeing states agree again. -/
theorem Agrees.tokenize (buffer : Buffer) (offset : Nat) (delimiters : Text)
    (agrees : Agrees thread state solo) :
    (solo.tokenize thread thread buffer offset delimiters).1 =
        (state.tokenize thread thread buffer offset delimiters).1 ∧
      Agrees thread (state.tokenize thread thread buffer offset delimiters).2
        (solo.tokenize thread thread buffer offset delimiters).2 := by
  have same : solo.memory thread buffer = state.memory thread buffer :=
    congrFun agrees.memory buffer
  refine ⟨?_, ?_, ?_, fun _ => ?_⟩
  · rw [Tokenizer.tokenize, Tokenizer.tokenize, same]
  · rw [Tokenizer.tokenize, Tokenizer.tokenize, same]
    exact (agrees.put _).memory
  · rw [Tokenizer.tokenize, Tokenizer.tokenize, same]
    show Function.update solo.obtained thread _ thread =
      Function.update state.obtained thread _ thread
    rw [Function.update_self, Function.update_self, agrees.obtained]
  · rw [Tokenizer.tokenize, Tokenizer.tokenize, same]

/-- A call of another thread from one of its own buffers is not noticed. -/
theorem Agrees.tokenize_other {mover : Thread} {buffer : Buffer} (offset : Nat) (delimiters : Text)
    (different : thread ≠ mover) (agrees : Agrees thread state solo) :
    Agrees thread (state.tokenize mover mover buffer offset delimiters).2 solo where
  memory := by
    show solo.memory thread = Function.update state.memory mover _ thread
    rw [Function.update_of_ne different, agrees.memory]
  obtained := by
    show solo.obtained thread = Function.update state.obtained mover _ thread
    rw [Function.update_of_ne different, agrees.obtained]
  saved called := absurd (Option.some.inj called).symm different

section Calls

variable {mover : Thread} {call : Call Buffer} {answer : call.Ret}

/-- Where an undisturbed call of `strtok` starts: at the front of a buffer of the thread, or at
a position that the thread itself has saved there. -/
theorem exec_cases (owned : Owned state)
    (undisturbed : ∀ delimiters, call = .next delimiters → state.caller = some mover)
    (called : Tokenizer.exec mover state call = some (answer, next)) :
    (∃ buffer text, call = .store buffer text ∧
      next = state.put mover buffer (overwritten (state.memory mover buffer) text)) ∨
    ∃ buffer offset delimiters, HEq answer (state.tokenize mover mover buffer offset delimiters).1 ∧
      next = (state.tokenize mover mover buffer offset delimiters).2 ∧
      ((call = .first buffer delimiters ∧ offset = 0) ∨
        (call = .next delimiters ∧ state.saved = some (mover, buffer, offset))) := by
  cases call with
  | store buffer text =>
    obtain ⟨-, rfl⟩ := Prod.mk.inj (Option.some.inj called)
    exact .inl ⟨buffer, text, rfl, rfl⟩
  | first buffer delimiters =>
    obtain ⟨rfl, rfl⟩ := Prod.mk.inj (Option.some.inj called)
    exact .inr ⟨buffer, 0, delimiters, .rfl, rfl, .inl ⟨rfl, rfl⟩⟩
  | next delimiters =>
    obtain ⟨buffer, offset, saved⟩ := owned mover (undisturbed delimiters rfl)
    rw [Tokenizer.exec, saved] at called
    obtain ⟨rfl, rfl⟩ := Prod.mk.inj (Option.some.inj called)
    exact .inr ⟨buffer, offset, delimiters, .rfl, rfl, .inr ⟨rfl, saved⟩⟩
  | crash => cases called

theorem Owned.exec (owned : Owned state)
    (undisturbed : ∀ delimiters, call = .next delimiters → state.caller = some mover)
    (called : Tokenizer.exec mover state call = some (answer, next)) : Owned next := by
  rcases exec_cases owned undisturbed called with ⟨buffer, text, -, rfl⟩ |
    ⟨buffer, offset, delimiters, -, rfl, -⟩
  · exact owned
  · intro caller same
    obtain rfl : mover = caller := Option.some.inj same
    exact ⟨buffer, _, rfl⟩

/-- An own call has the same outcome in agreeing states. -/
theorem Agrees.exec (agrees : Agrees mover state solo) (owned : Owned state)
    (undisturbed : ∀ delimiters, call = .next delimiters → state.caller = some mover)
    (called : Tokenizer.exec mover state call = some (answer, next)) :
    ∃ next', Tokenizer.exec mover solo call = some (answer, next') ∧ Agrees mover next next' := by
  rcases exec_cases owned undisturbed called with ⟨buffer, text, rfl, rfl⟩ |
    ⟨buffer, offset, delimiters, same, rfl, ⟨rfl, rfl⟩ | ⟨rfl, saved⟩⟩
  · refine ⟨_, rfl, ?_⟩
    rw [congrFun agrees.memory buffer]
    exact agrees.put _
  · obtain ⟨token, kept⟩ := agrees.tokenize buffer 0 delimiters
    obtain rfl := eq_of_heq same
    exact ⟨(solo.tokenize mover mover buffer 0 delimiters).2,
      congrArg some (Prod.ext token rfl), kept⟩
  · obtain ⟨token, kept⟩ := agrees.tokenize buffer offset delimiters
    obtain rfl := eq_of_heq same
    refine ⟨(solo.tokenize mover mover buffer offset delimiters).2, ?_, kept⟩
    rw [Tokenizer.exec, (agrees.saved (undisturbed delimiters rfl)).trans saved]
    exact congrArg some (Prod.ext token rfl)

/-- A call of another thread is not noticed. -/
theorem Agrees.exec_other (different : thread ≠ mover) (agrees : Agrees thread state solo)
    (owned : Owned state)
    (undisturbed : ∀ delimiters, call = .next delimiters → state.caller = some mover)
    (called : Tokenizer.exec mover state call = some (answer, next)) :
    Agrees thread next solo := by
  rcases exec_cases owned undisturbed called with ⟨buffer, text, rfl, rfl⟩ |
    ⟨buffer, offset, delimiters, -, rfl, -⟩
  · refine ⟨?_, agrees.obtained, agrees.saved⟩
    show solo.memory thread = Function.update state.memory mover _ thread
    rw [Function.update_of_ne different, agrees.memory]
  · exact agrees.tokenize_other offset delimiters different

/-- Tokens are only appended. -/
theorem obtained_prefix_of_exec (called : Tokenizer.exec mover state call = some (answer, next)) :
    state.obtained thread <+: next.obtained thread := by
  have tokenized (owner : Thread) (buffer : Buffer) (offset : Nat) (delimiters : Text) :
      state.obtained thread <+:
        (state.tokenize mover owner buffer offset delimiters).2.obtained thread := by
    show _ <+: Function.update state.obtained mover _ thread
    by_cases same : thread = mover
    · subst same
      rw [Function.update_self]
      exact List.prefix_append _ _
    · refine ⟨[], ?_⟩
      rw [List.append_nil, Function.update_of_ne same]
  cases call with
  | store buffer text =>
    obtain ⟨-, rfl⟩ := Prod.mk.inj (Option.some.inj called)
    exact List.prefix_rfl
  | first buffer delimiters =>
    obtain ⟨-, rfl⟩ := Prod.mk.inj (Option.some.inj called)
    exact tokenized mover buffer 0 delimiters
  | next delimiters =>
    obtain ⟨position, -, found⟩ := Option.map_eq_some_iff.mp called
    obtain ⟨-, rfl⟩ := Prod.mk.inj found
    exact tokenized position.1 position.2.1 position.2.2 delimiters
  | crash => cases called

end Calls

theorem obtained_prefix_of_alone (program : Program Buffer Unit)
    (state : Tokenizer Thread Buffer) (thread : Thread) :
    state.obtained thread <+: (machine.alone thread program state).obtained thread := by
  induction program generalizing state with
  | pure result => exact List.prefix_rfl
  | call call continuation inductionHypothesis =>
    rw [Machine.alone]
    cases called : machine.exec thread state call with
    | none => exact List.prefix_rfl
    | some outcome =>
      exact (obtained_prefix_of_exec called).trans (inductionHypothesis outcome.1 outcome.2)

/-- The law of undisturbed runs: a thread alone has still to do what it would have to do if it
had run alone. -/
theorem alone_of_reaches {start final : System Thread Buffer}
    (reached : machine.Reaches Undisturbed start final) (owned : Owned start.shared)
    (thread : Thread) :
    Owned final.shared ∧ ∃ solo, Agrees thread final.shared solo ∧
      machine.alone thread (final.program thread) solo =
        machine.alone thread (start.program thread) start.shared := by
  induction reached with
  | refl => exact ⟨owned, start.shared, ⟨rfl, rfl, fun _ => rfl⟩, rfl⟩
  | @tail now next _ steps inductionHypothesis =>
    obtain ⟨owned, solo, agrees, same⟩ := inductionHypothesis
    obtain ⟨mover, undisturbed, steps⟩ := steps
    rcases Machine.step_cases steps with ⟨-, body, -, again, -⟩ |
      ⟨call, continuation, answer, state, running, called, rfl⟩
    · cases again
    · have own : ∀ delimiters, call = .next delimiters → now.shared.caller = some mover := by
        rintro delimiters rfl
        refine undisturbed ?_
        rw [running]
        rfl
      refine ⟨owned.exec own called, ?_⟩
      by_cases mine : thread = mover
      · subst mine
        obtain ⟨next', called', kept⟩ := agrees.exec owned own called
        refine ⟨next', kept, Eq.trans ?_ same⟩
        rw [running, Machine.alone_call called']
        show machine.alone thread (Function.update now.program thread _ thread) next' = _
        rw [Function.update_self]
      · refine ⟨solo, agrees.exec_other mine owned own called, Eq.trans ?_ same⟩
        show machine.alone thread (Function.update now.program mover _ thread) solo = _
        rw [Function.update_of_ne mine]

/-- In an undisturbed run each thread obtains, token by token, what it obtains alone, and all of
it once it has returned. -/
theorem obtained_prefix_of_reaches {start final : System Thread Buffer}
    (reached : machine.Reaches Undisturbed start final) (owned : Owned start.shared)
    (thread : Thread) :
    final.shared.obtained thread <+:
        (machine.alone thread (start.program thread) start.shared).obtained thread ∧
      (final.finished thread = true → final.shared.obtained thread =
        (machine.alone thread (start.program thread) start.shared).obtained thread) := by
  obtain ⟨-, solo, agrees, same⟩ := alone_of_reaches reached owned thread
  rw [← same, ← agrees.obtained]
  refine ⟨obtained_prefix_of_alone _ _ _, fun finished => ?_⟩
  rw [Threads.finished] at finished
  cases running : final.program thread with
  | pure result => rfl
  | call call continuation =>
    rw [running] at finished
    cases finished

end Strtok
