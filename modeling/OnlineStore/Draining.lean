/-
This file adds the rule of draining to the interleaving library. Programs are finite, so a run in
which no thread starts over comes to an end (`wellFounded_calls`). A thread that waits can
therefore be brought to its next step as soon as somebody who is within a program can always go
on (`Drains.exists_step`).
-/

import OnlineStore.Interleaving
import Mathlib.Data.Fintype.Basic
import Mathlib.Logic.Hydra
import Mathlib.Tactic.Abel

namespace Interleaving

variable {Thread State Op : Type} {Ret : Op → Type}

/-- What is left of a program after its first call. -/
def Rest (rest program : Prog Op Ret Unit) : Prop :=
  ∃ op continuation answer, program = .call op continuation ∧ rest = continuation answer

theorem wellFounded_rest : WellFounded (Rest : Prog Op Ret Unit → Prog Op Ret Unit → Prop) := by
  refine ⟨fun program => ?_⟩
  induction program with
  | pure result =>
    refine ⟨_, ?_⟩
    rintro _ ⟨op, continuation, answer, same, -⟩
    cases same
  | call op continuation inductionHypothesis =>
    refine ⟨_, ?_⟩
    rintro _ ⟨op, continuation, answer, same, rfl⟩
    cases same
    exact inductionHypothesis answer

namespace Machine

variable [DecidableEq Thread] {machine : Machine Thread State Op Ret}

variable (machine) in
/-- Some thread makes its next call. -/
def Calls (now next : Threads Thread State Op Ret) : Prop :=
  ∃ thread op continuation answer state, now.program thread = .call op continuation ∧
    machine.exec thread now.shared op = some (answer, state) ∧
    next = ⟨state, Function.update now.program thread (continuation answer)⟩

theorem Calls.step {now next : Threads Thread State Op Ret} (calls : machine.Calls now next) :
    ∃ thread, machine.step now thread = some next := by
  obtain ⟨thread, op, continuation, answer, state, running, called, rfl⟩ := calls
  refine ⟨thread, ?_⟩
  simp only [Machine.step, running, called, Option.map_some]

/-- A call replaces one of the programs by what is left of it. -/
theorem Calls.cutExpand [Fintype Thread] {now next : Threads Thread State Op Ret}
    (calls : machine.Calls now next) :
    Relation.CutExpand Rest (Finset.univ.val.map next.program)
      (Finset.univ.val.map now.program) := by
  obtain ⟨thread, op, continuation, answer, state, running, -, rfl⟩ := calls
  refine ⟨{continuation answer}, now.program thread, ?_, ?_⟩
  · intro rest member
    rw [Multiset.mem_singleton.mp member]
    exact ⟨op, continuation, answer, running, rfl⟩
  · have others : (Finset.univ.erase thread).val.map
        (Function.update now.program thread (continuation answer)) =
          (Finset.univ.erase thread).val.map now.program :=
      Multiset.map_congr rfl fun other member =>
        Function.update_of_ne (Finset.ne_of_mem_erase member) _ _
    have split : (Finset.univ : Finset Thread).val =
        thread ::ₘ (Finset.univ.erase thread).val := by
      rw [Finset.erase_val, Multiset.cons_erase (Finset.mem_univ thread)]
    show Finset.univ.val.map (Function.update now.program thread (continuation answer)) + _ = _
    rw [split, Multiset.map_cons, Multiset.map_cons, others, Function.update_self,
      ← Multiset.singleton_add, ← Multiset.singleton_add]
    abel

/-- Finitely many threads make finitely many calls before one of them starts over. -/
theorem wellFounded_calls [Fintype Thread] :
    WellFounded fun next now : Threads Thread State Op Ret => machine.Calls now next :=
  Subrelation.wf (fun calls => calls.cutExpand)
    (InvImage.wf (fun threads : Threads Thread State Op Ret => Finset.univ.val.map threads.program)
      wellFounded_rest.cutExpand)

/-- When no thread starts over, no run goes on for ever. -/
theorem not_steps_forever [Fintype Thread] (once : ∀ thread, machine.again thread = none)
    (run : ℕ → Threads Thread State Op Ret) :
    ¬ ∀ moment, ∃ thread, machine.step (run moment) thread = some (run (moment + 1)) := by
  intro steps
  have ends : WellFounded fun next now : Threads Thread State Op Ret => machine.Calls now next :=
    wellFounded_calls
  refine (wellFounded_iff_isEmpty_descending_chain.mp ends).false ⟨run, fun moment => ?_⟩
  obtain ⟨thread, steps⟩ := steps moment
  rcases step_cases steps with ⟨-, body, -, again, -⟩ |
    ⟨op, continuation, answer, state, running, called, next⟩
  · rw [once] at again
    cases again
  · exact ⟨thread, op, continuation, answer, state, running, called, next⟩

/-- A thread whose call has an answer takes its step. -/
theorem exists_step_of_exec {now : Threads Thread State Op Ret} {thread : Thread} {op : Op}
    {continuation : Ret op → Prog Op Ret Unit} (running : now.program thread = .call op continuation)
    (called : ∃ outcome, machine.exec thread now.shared op = some outcome) :
    ∃ thread next, machine.step now thread = some next := by
  obtain ⟨outcome, called⟩ := called
  cases steps : machine.step now thread with
  | some next => exact ⟨thread, next, steps⟩
  | none =>
    rw [exec_eq_none_of_step running steps] at called
    cases called

/-- Whenever a thread cannot take its step, some thread can make a call that keeps the
invariant. -/
def Drains (machine : Machine Thread State Op Ret) (invariant : Threads Thread State Op Ret → Prop)
    (thread : Thread) : Prop :=
  ∀ now, invariant now → machine.step now thread = none →
    ∃ next, machine.Calls now next ∧ invariant next

/-- A thread that waits can be brought to its next step. -/
theorem Drains.exists_step [Fintype Thread] {invariant : Threads Thread State Op Ret → Prop}
    {thread : Thread} (drains : machine.Drains invariant thread)
    {now : Threads Thread State Op Ret} (holds : invariant now) :
    ∃ later next, machine.Reaches (fun _ _ => True) now later ∧
      machine.step later thread = some next := by
  have ends : WellFounded fun next now : Threads Thread State Op Ret => machine.Calls now next :=
    wellFounded_calls
  induction now using ends.induction with
  | _ now inductionHypothesis =>
    cases steps : machine.step now thread with
    | some next => exact ⟨now, next, .refl, steps⟩
    | none =>
      obtain ⟨next, calls, kept⟩ := drains now holds steps
      obtain ⟨later, last, reached, steps⟩ := inductionHypothesis next calls kept
      obtain ⟨mover, moves⟩ := calls.step
      exact ⟨later, last, .head ⟨mover, trivial, moves⟩ reached, steps⟩

end Machine

end Interleaving
