/-
This file is the effect library of the development: programs over a signature of operations,
as free trees of calls. A program calls an operation, receives its result and continues, or
returns. Nothing here fixes what the operations are.

A program is read in three ways. `run` executes it alone against a state, `translate`
implements its operations by programs over a lower signature, and `Obeys` says that whatever
the operations answer, the calls follow a protocol. Each reading comes with its rule for
sequencing, so that a program is checked call by call. `guarded` executes only the calls that a
state permits, and `Permitted` says of a run that it makes no others.
-/

import Mathlib.Logic.Basic
import Mathlib.Tactic.TypeStar
import Mathlib.Tactic.Common

/-- A program that calls operations of the signature `Ret` and returns a `Result`. -/
inductive Prog (Op : Type) (Ret : Op → Type) (Result : Type) where
  | pure (result : Result)
  | call (op : Op) (continuation : Ret op → Prog Op Ret Result)

namespace Prog

variable {Op Op' : Type} {Ret : Op → Type} {Ret' : Op' → Type}
variable {State Result Outcome : Type}

/-- Sequencing. -/
def bind : Prog Op Ret Result → (Result → Prog Op Ret Outcome) → Prog Op Ret Outcome
  | .pure result, next => next result
  | .call op continuation, next => .call op fun answer => (continuation answer).bind next

instance : Monad (Prog Op Ret) where
  pure := Prog.pure
  bind := Prog.bind

/-- The program that makes one call and returns its answer. -/
def perform (op : Op) : Prog Op Ret (Ret op) :=
  .call op .pure

@[simp] theorem pure_eq (result : Result) :
    (Pure.pure result : Prog Op Ret Result) = .pure result := rfl

@[simp] theorem pure_bind (result : Result) (next : Result → Prog Op Ret Outcome) :
    (Prog.pure result >>= next) = next result := rfl

@[simp] theorem call_bind (op : Op) (continuation : Ret op → Prog Op Ret Result)
    (next : Result → Prog Op Ret Outcome) :
    (Prog.call op continuation >>= next) =
      .call op fun answer => continuation answer >>= next := rfl

@[simp] theorem perform_bind (op : Op) (next : Ret op → Prog Op Ret Outcome) :
    (perform op >>= next) = .call op next := rfl

theorem bind_assoc {Last : Type} (program : Prog Op Ret Result)
    (next : Result → Prog Op Ret Outcome) (last : Outcome → Prog Op Ret Last) :
    ((program >>= next) >>= last) = program >>= fun result => next result >>= last := by
  induction program with
  | pure result => rfl
  | call op continuation inductionHypothesis =>
    exact congrArg (Prog.call op) (funext inductionHypothesis)

theorem bind_pure (program : Prog Op Ret Result) : (program >>= Prog.pure) = program := by
  induction program with
  | pure result => rfl
  | call op continuation inductionHypothesis =>
    exact congrArg (Prog.call op) (funext inductionHypothesis)

instance : LawfulMonad (Prog Op Ret) :=
  LawfulMonad.mk' _ bind_pure pure_bind bind_assoc

/-- The program has nothing left to call. -/
def returned : Prog Op Ret Result → Bool
  | .pure _ => true
  | .call _ _ => false

/-! ### Running a program alone -/

/-- Executes a program from a state. An operation that has no answer ends the run without a
result. -/
def run (exec : State → (op : Op) → Option (Ret op × State)) :
    Prog Op Ret Result → State → Option (Result × State)
  | .pure result, state => some (result, state)
  | .call op continuation, state =>
    match exec state op with
    | none => none
    | some (answer, next) => (continuation answer).run exec next

section Run

variable {exec : State → (op : Op) → Option (Ret op × State)}

@[simp] theorem run_pure (result : Result) (state : State) :
    (Prog.pure result : Prog Op Ret Result).run exec state = some (result, state) := rfl

theorem run_call (op : Op) (continuation : Ret op → Prog Op Ret Result) (state : State) :
    (Prog.call op continuation).run exec state =
      (exec state op).bind fun outcome => (continuation outcome.1).run exec outcome.2 := by
  cases equal : exec state op with
  | none => simp only [run, equal, Option.bind_none]
  | some outcome => simp only [run, equal, Option.bind_some]

theorem run_bind (program : Prog Op Ret Result) (next : Result → Prog Op Ret Outcome)
    (state : State) :
    (program >>= next).run exec state =
      (program.run exec state).bind fun outcome => (next outcome.1).run exec outcome.2 := by
  induction program generalizing state with
  | pure result => rfl
  | call op continuation inductionHypothesis =>
    rw [call_bind, run_call, run_call, Option.bind_assoc]
    exact congrArg _ (funext fun outcome => inductionHypothesis outcome.1 outcome.2)

end Run

/-! ### Running a program within limits -/

/-- Executes the calls that the state permits. The others have no answer. -/
def guarded (permits : State → Op → Bool) (exec : State → (op : Op) → Option (Ret op × State))
    (state : State) (op : Op) : Option (Ret op × State) :=
  if permits state op then exec state op else none

/-- Run alone from a state, the program makes only permitted calls. -/
def Permitted (permits : State → Op → Bool)
    (exec : State → (op : Op) → Option (Ret op × State)) : Prog Op Ret Result → State → Prop
  | .pure _, _ => True
  | .call op continuation, state =>
    permits state op = true ∧
      ∀ outcome ∈ exec state op, (continuation outcome.1).Permitted permits exec outcome.2

section Permitted

variable {permits : State → Op → Bool} {exec : State → (op : Op) → Option (Ret op × State)}

@[simp] theorem permitted_pure (result : Result) (state : State) :
    (Prog.pure result : Prog Op Ret Result).Permitted permits exec state ↔ True := Iff.rfl

theorem permitted_call (op : Op) (continuation : Ret op → Prog Op Ret Result) (state : State) :
    (Prog.call op continuation).Permitted permits exec state ↔
      permits state op = true ∧
        ∀ outcome ∈ exec state op, (continuation outcome.1).Permitted permits exec outcome.2 :=
  Iff.rfl

theorem permitted_call_of_exec {op : Op} {continuation : Ret op → Prog Op Ret Result}
    {state : State} {outcome : Ret op × State} (permitted : permits state op = true)
    (executed : exec state op = some outcome)
    (rest : (continuation outcome.1).Permitted permits exec outcome.2) :
    (Prog.call op continuation).Permitted permits exec state := by
  refine (permitted_call ..).mpr ⟨permitted, fun last ended => ?_⟩
  obtain rfl := Option.some.inj (executed.symm.trans ended)
  exact rest

theorem permitted_perform (op : Op) (state : State) :
    (perform op : Prog Op Ret (Ret op)).Permitted permits exec state ↔ permits state op = true :=
  and_iff_left fun _ _ => trivial

/-- The sequencing rule. -/
theorem permitted_bind (program : Prog Op Ret Result) (next : Result → Prog Op Ret Outcome)
    (state : State) :
    (program >>= next).Permitted permits exec state ↔
      program.Permitted permits exec state ∧
        ∀ outcome ∈ program.run exec state, (next outcome.1).Permitted permits exec outcome.2 := by
  induction program generalizing state with
  | pure result => simp
  | call op continuation inductionHypothesis =>
    rw [call_bind, permitted_call, permitted_call, run_call]
    cases exec state op with
    | none => simp
    | some outcome => simpa [and_assoc] using fun _ => inductionHypothesis outcome.1 outcome.2

/-- A run within the limits is a run all of whose calls are permitted. -/
theorem run_guarded_eq_some_iff (program : Prog Op Ret Result) (state : State)
    (last : Result × State) :
    program.run (guarded permits exec) state = some last ↔
      program.run exec state = some last ∧ program.Permitted permits exec state := by
  induction program generalizing state with
  | pure result => simp
  | call op continuation inductionHypothesis =>
    rw [run_call, run_call, permitted_call, guarded]
    cases permits state op with
    | false => simp
    | true =>
      cases exec state op with
      | none => simp
      | some outcome => simpa using inductionHypothesis outcome.1 outcome.2

end Permitted

/-! ### Implementing the operations -/

/-- Replaces every call by a program over a lower signature. -/
def translate (implement : (op : Op) → Prog Op' Ret' (Ret op)) :
    Prog Op Ret Result → Prog Op' Ret' Result
  | .pure result => .pure result
  | .call op continuation =>
    implement op >>= fun answer => (continuation answer).translate implement

section Translate

variable {implement : (op : Op) → Prog Op' Ret' (Ret op)}

@[simp] theorem translate_pure (result : Result) :
    (Prog.pure result : Prog Op Ret Result).translate implement = .pure result := rfl

@[simp] theorem translate_call (op : Op) (continuation : Ret op → Prog Op Ret Result) :
    (Prog.call op continuation).translate implement =
      implement op >>= fun answer => (continuation answer).translate implement := rfl

end Translate

/-! ### Following a protocol -/

/-- A protocol on calls: which operation may be called in which phase, and the phase that its
answer leads to. -/
structure Protocol (Op : Type) (Ret : Op → Type) (Phase : Type) where
  allows : Phase → Op → Prop
  next : Phase → (op : Op) → Ret op → Phase

variable {Phase Phase' : Type}

/-- Started in a phase, the program makes only allowed calls, whatever the answers admitted by
`admits` are, and returns in a phase that satisfies `ends`. -/
def Obeys (protocol : Protocol Op Ret Phase) (admits : Phase → (op : Op) → Ret op → Prop)
    (ends : Result → Phase → Prop) : Phase → Prog Op Ret Result → Prop
  | phase, .pure result => ends result phase
  | phase, .call op continuation =>
    protocol.allows phase op ∧ ∀ answer, admits phase op answer →
      Obeys protocol admits ends (protocol.next phase op answer) (continuation answer)

section Obeys

variable {protocol : Protocol Op Ret Phase} {admits : Phase → (op : Op) → Ret op → Prop}

theorem obeys_pure {ends : Result → Phase → Prop} {phase : Phase} {result : Result} :
    Obeys protocol admits ends phase (.pure result) ↔ ends result phase := Iff.rfl

theorem obeys_call {ends : Result → Phase → Prop} {phase : Phase} {op : Op}
    {continuation : Ret op → Prog Op Ret Result} :
    Obeys protocol admits ends phase (.call op continuation) ↔
      protocol.allows phase op ∧ ∀ answer, admits phase op answer →
        Obeys protocol admits ends (protocol.next phase op answer) (continuation answer) :=
  Iff.rfl

/-- The sequencing rule. -/
theorem Obeys.bind {middle : Result → Phase → Prop} {ends : Outcome → Phase → Prop}
    {phase : Phase} {program : Prog Op Ret Result} {next : Result → Prog Op Ret Outcome}
    (first : Obeys protocol admits middle phase program)
    (second : ∀ result phase', middle result phase' →
      Obeys protocol admits ends phase' (next result)) :
    Obeys protocol admits ends phase (program >>= next) := by
  induction program generalizing phase with
  | pure result => exact second result phase first
  | call op continuation inductionHypothesis =>
    exact ⟨first.1, fun answer admitted =>
      inductionHypothesis answer (first.2 answer admitted)⟩

/-- The rule of consequence. -/
theorem Obeys.mono {ends ends' : Result → Phase → Prop} {phase : Phase}
    {program : Prog Op Ret Result} (obeys : Obeys protocol admits ends phase program)
    (weaken : ∀ result phase', ends result phase' → ends' result phase') :
    Obeys protocol admits ends' phase program := by
  induction program generalizing phase with
  | pure result => exact weaken result phase obeys
  | call op continuation inductionHypothesis =>
    exact ⟨obeys.1, fun answer admitted => inductionHypothesis answer (obeys.2 answer admitted)⟩

/-- A program obeys a lower protocol if it obeys a higher one and the implementation of each
allowed operation obeys the lower one, between related phases. -/
theorem Obeys.translate {protocol' : Protocol Op' Ret' Phase'}
    {admits' : Phase' → (op : Op') → Ret' op → Prop}
    {implement : (op : Op) → Prog Op' Ret' (Ret op)} (related : Phase → Phase' → Prop)
    (implements : ∀ phase phase' op, related phase phase' → protocol.allows phase op →
      Obeys protocol' admits' (fun answer final' => admits phase op answer ∧
        related (protocol.next phase op answer) final') phase' (implement op))
    {ends : Result → Phase → Prop} {ends' : Result → Phase' → Prop}
    (finishes : ∀ result phase phase', related phase phase' → ends result phase →
      ends' result phase')
    {phase : Phase} {phase' : Phase'} {program : Prog Op Ret Result}
    (start : related phase phase') (obeys : Obeys protocol admits ends phase program) :
    Obeys protocol' admits' ends' phase' (program.translate implement) := by
  induction program generalizing phase phase' with
  | pure result => exact finishes result phase phase' start obeys
  | call op continuation inductionHypothesis =>
    refine Obeys.bind (implements phase phase' op start obeys.1) ?_
    rintro answer middle ⟨admitted, kept⟩
    exact inductionHypothesis answer kept (obeys.2 answer admitted)

end Obeys

end Prog
