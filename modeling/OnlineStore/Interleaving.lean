/-
This file is the interleaving library of the development: threads that run programs over one
shared state, one call at a time and in any order. A call that has no answer in the present
state does not happen, so its thread waits.

A thread whose program has returned starts over with another one, or stops. What the threads do
between their calls is part of the programs. `Reaches` admits a step under a condition on the
state before it, so that a property can be proved of the runs whose steps meet the condition.
The rule for protocols (`follows_of_reaches`) turns what single calls preserve into an invariant of
all runs: each thread has a phase, each program follows the protocol from its phase, and the
invariant ties the phases to the shared state.
-/

import OnlineStore.Prog
import Mathlib.Logic.Function.Basic
import Mathlib.Logic.Relation

namespace Interleaving

/-- The meaning of a call, which may depend on the thread that makes it, and the program that a
thread starts over with. -/
structure Machine (Thread State Op : Type) (Ret : Op → Type) where
  exec : Thread → State → (op : Op) → Option (Ret op × State)
  again : Thread → Option (Prog Op Ret Unit)

/-- The shared state and what each thread has left to run. -/
structure Threads (Thread State Op : Type) (Ret : Op → Type) where
  shared : State
  program : Thread → Prog Op Ret Unit

variable {Thread State Op : Type} {Ret : Op → Type}

/-- The thread has nothing left to run. -/
def Threads.finished (threads : Threads Thread State Op Ret) (thread : Thread) : Bool :=
  match threads.program thread with
  | .pure _ => true
  | .call _ _ => false

namespace Machine

section Alone

variable (machine : Machine Thread State Op Ret)

/-- What a thread leaves behind when it alone runs a program as far as it can. -/
def alone (thread : Thread) : Prog Op Ret Unit → State → State
  | .pure _, state => state
  | .call op continuation, state =>
    match machine.exec thread state op with
    | none => state
    | some (answer, next) => alone thread (continuation answer) next

variable {machine} in
theorem alone_call {thread : Thread} {op : Op} {continuation : Ret op → Prog Op Ret Unit}
    {state next : State} {answer : Ret op}
    (called : machine.exec thread state op = some (answer, next)) :
    machine.alone thread (.call op continuation) state =
      machine.alone thread (continuation answer) next := by
  rw [alone, called]

end Alone

variable [DecidableEq Thread] (machine : Machine Thread State Op Ret)

/-- The next step of a thread. -/
def step (threads : Threads Thread State Op Ret) (thread : Thread) :
    Option (Threads Thread State Op Ret) :=
  match threads.program thread with
  | .pure _ => (machine.again thread).map fun body =>
    ⟨threads.shared, Function.update threads.program thread body⟩
  | .call op continuation => (machine.exec thread threads.shared op).map fun outcome =>
    ⟨outcome.2, Function.update threads.program thread (continuation outcome.1)⟩

/-- The threads make steps that a condition admits. -/
def Reaches (admits : Threads Thread State Op Ret → Thread → Prop) :
    Threads Thread State Op Ret → Threads Thread State Op Ret → Prop :=
  Relation.ReflTransGen fun now next =>
    ∃ thread, admits now thread ∧ machine.step now thread = some next

/-- The steps of a list of threads, one after the other, if the condition admits each. -/
def runs (admits : Threads Thread State Op Ret → Thread → Prop)
    [∀ threads thread, Decidable (admits threads thread)] :
    List Thread → Threads Thread State Op Ret → Option (Threads Thread State Op Ret)
  | [], threads => some threads
  | thread :: schedule, threads =>
    if admits threads thread then (machine.step threads thread).bind (runs admits schedule) else none

variable {machine}

/-- What a step can be. -/
theorem step_cases {threads next : Threads Thread State Op Ret} {thread : Thread}
    (steps : machine.step threads thread = some next) :
    (∃ result body, threads.program thread = .pure result ∧
      machine.again thread = some body ∧
      next = ⟨threads.shared, Function.update threads.program thread body⟩) ∨
    ∃ op continuation answer state, threads.program thread = .call op continuation ∧
      machine.exec thread threads.shared op = some (answer, state) ∧
      next = ⟨state, Function.update threads.program thread (continuation answer)⟩ := by
  rw [step] at steps
  cases running : threads.program thread with
  | pure result =>
    rw [running] at steps
    obtain ⟨body, starts, rfl⟩ := Option.map_eq_some_iff.mp steps
    exact .inl ⟨result, body, rfl, starts, rfl⟩
  | call op continuation =>
    rw [running] at steps
    obtain ⟨⟨answer, state⟩, called, rfl⟩ := Option.map_eq_some_iff.mp steps
    exact .inr ⟨op, continuation, answer, state, rfl, called, rfl⟩

/-- A thread that cannot take its step has a call without an answer. -/
theorem exec_eq_none_of_step {threads : Threads Thread State Op Ret} {thread : Thread} {op : Op}
    {continuation : Ret op → Prog Op Ret Unit}
    (running : threads.program thread = .call op continuation)
    (stays : machine.step threads thread = none) :
    machine.exec thread threads.shared op = none := by
  rw [step, running] at stays
  exact Option.map_eq_none_iff.mp stays

theorem reaches_of_runs {admits : Threads Thread State Op Ret → Thread → Prop}
    [∀ threads thread, Decidable (admits threads thread)] {schedule : List Thread}
    {start final : Threads Thread State Op Ret}
    (ran : machine.runs admits schedule start = some final) :
    machine.Reaches admits start final := by
  induction schedule generalizing start with
  | nil =>
    obtain rfl := Option.some.inj ran
    exact .refl
  | cons thread schedule inductionHypothesis =>
    rw [runs] at ran
    split at ran
    · rename_i admitted
      obtain ⟨next, steps, rest⟩ := Option.bind_eq_some_iff.mp ran
      exact .head ⟨thread, admitted, steps⟩ (inductionHypothesis rest)
    · cases ran

/-! ### Protocols -/

variable {Phase : Type}

/-- The threads follow a protocol from phases that the invariant ties to the shared state. -/
def Follows (protocol : Prog.Protocol Op Ret Phase)
    (answers : Phase → (op : Op) → Ret op → Prop) (home : Phase → Prop)
    (invariant : State → (Thread → Phase) → Prop) (threads : Threads Thread State Op Ret) : Prop :=
  ∃ phases : Thread → Phase, invariant threads.shared phases ∧ ∀ thread,
    Prog.Obeys protocol answers (fun _ => home) (phases thread) (threads.program thread)

/-- The rule for protocols. If the calls that the protocol allows keep the invariant, then all
reached states satisfy it. -/
theorem follows_of_reaches {protocol : Prog.Protocol Op Ret Phase}
    {answers : Phase → (op : Op) → Ret op → Prop} {home : Phase → Prop}
    {invariant : State → (Thread → Phase) → Prop}
    {admits : Threads Thread State Op Ret → Thread → Prop}
    (keeps : ∀ threads phases thread op rest answer next, admits threads thread →
      threads.program thread = .call op rest → invariant threads.shared phases →
      protocol.allows (phases thread) op →
      machine.exec thread threads.shared op = some (answer, next) →
      answers (phases thread) op answer ∧ invariant next
        (Function.update phases thread (protocol.next (phases thread) op answer)))
    (restarts : ∀ thread body phase, machine.again thread = some body → home phase →
      Prog.Obeys protocol answers (fun _ => home) phase body)
    {start final : Threads Thread State Op Ret}
    (starts : Follows protocol answers home invariant start)
    (reached : machine.Reaches admits start final) :
    Follows protocol answers home invariant final := by
  induction reached with
  | refl => exact starts
  | @tail now _ _ steps inductionHypothesis =>
    obtain ⟨phases, holds, obeys⟩ := inductionHypothesis
    obtain ⟨thread, admitted, steps⟩ := steps
    have own := obeys thread
    rcases step_cases steps with ⟨result, body, running, again, rfl⟩ |
      ⟨op, continuation, answer, state, running, called, rfl⟩
    · rw [running, Prog.obeys_pure] at own
      refine ⟨phases, holds, (Function.forall_update_iff now.program _).mpr ⟨?_, ?_⟩⟩
      · exact restarts thread body _ again own
      · exact fun other _ => obeys other
    · rw [running, Prog.obeys_call] at own
      obtain ⟨answered, kept⟩ := keeps _ _ _ _ _ _ _ admitted running holds own.1 called
      refine ⟨_, kept, (Function.forall_update_iff now.program _).mpr ⟨?_, ?_⟩⟩
      · rw [Function.update_self]
        exact own.2 answer answered
      · intro other different
        rw [Function.update_of_ne different]
        exact obeys other

omit [DecidableEq Thread] in
/-- The rule for a thread that runs alone. -/
theorem exists_phase_of_alone {protocol : Prog.Protocol Op Ret Phase}
    {answers : Phase → (op : Op) → Ret op → Prop} {ends : Unit → Phase → Prop}
    {invariant : State → Phase → Prop} {thread : Thread}
    (keeps : ∀ state phase op answer next, invariant state phase → protocol.allows phase op →
      machine.exec thread state op = some (answer, next) →
      answers phase op answer ∧ invariant next (protocol.next phase op answer))
    {program : Prog Op Ret Unit} {state : State} {phase : Phase} (starts : invariant state phase)
    (obeys : Prog.Obeys protocol answers ends phase program) :
    ∃ final, invariant (machine.alone thread program state) final := by
  induction program generalizing state phase with
  | pure result => exact ⟨phase, starts⟩
  | call op continuation inductionHypothesis =>
    rw [Prog.obeys_call] at obeys
    cases called : machine.exec thread state op with
    | none =>
      rw [alone, called]
      exact ⟨phase, starts⟩
    | some outcome =>
      obtain ⟨answer, next⟩ := outcome
      obtain ⟨answered, kept⟩ := keeps state phase op answer next starts obeys.1 called
      rw [alone_call called]
      exact inductionHypothesis answer kept (obeys.2 answer answered)

/-! ### Runs told from their end -/

section Ghosts

variable {Ghost : Type} {admits : Threads Thread State Op Ret → Thread → Prop}
variable {invariant goal : Threads Thread State Op Ret → Ghost → Prop}
variable {start final : Threads Thread State Op Ret} {ghost : Ghost}

/-- A ghost state that each step can update follows a whole run. -/
theorem exists_ghost_of_reaches
    (keeps : ∀ threads ghost thread next, admits threads thread →
      machine.step threads thread = some next → invariant threads ghost →
      ∃ ghost', invariant next ghost')
    (starts : invariant start ghost) (reached : machine.Reaches admits start final) :
    ∃ ghost', invariant final ghost' := by
  induction reached with
  | refl => exact ⟨ghost, starts⟩
  | @tail now _ _ steps inductionHypothesis =>
    obtain ⟨ghost', holds⟩ := inductionHypothesis
    obtain ⟨thread, admitted, steps⟩ := steps
    exact keeps now ghost' thread _ admitted steps holds

/-- A goal that holds at the end of a run, and that each step carries back to the state before it,
holds at the start. The steps of the run know what comes after them. -/
theorem back_of_reaches
    (keeps : ∀ threads ghost thread next, admits threads thread →
      machine.step threads thread = some next → invariant threads ghost →
      ∃ ghost', invariant next ghost' ∧ (goal next ghost' → goal threads ghost))
    (ends : ∀ ghost, invariant final ghost → goal final ghost)
    (starts : invariant start ghost) (reached : machine.Reaches admits start final) :
    goal start ghost := by
  induction reached using Relation.ReflTransGen.head_induction_on generalizing ghost with
  | refl => exact ends ghost starts
  | @head now next steps _ inductionHypothesis =>
    obtain ⟨thread, admitted, steps⟩ := steps
    obtain ⟨ghost', holds, back⟩ := keeps now ghost thread next admitted steps starts
    exact back (inductionHypothesis holds)

end Ghosts

end Machine

end Interleaving
