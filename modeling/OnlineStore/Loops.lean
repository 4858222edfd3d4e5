/-
This file is the loop library of the development: a `while` loop as the repetition of one round.

A round ends the loop with a result or leaves the state in which the next round begins. Whether
the loop ends is not built into its definition. `Exits` is the meaning of the loop and `run`
computes it as far as a number of rounds takes it; `exists_exits` is the rule of total
correctness, with an invariant and a measure that every round decreases.
-/

import Mathlib.Tactic.Common

namespace Loops

/-- What one round of a loop does. -/
inductive Outcome (State Result : Type) where
  | goOn (next : State)
  | stop (result : Result)

variable {State Result : Type} (round : State → Outcome State Result)

/-- The loop that begins in this state ends with this result. -/
inductive Exits : State → Result → Prop where
  | goOn {state next : State} {result : Result} (goesOn : round state = .goOn next)
      (rest : Exits next result) : Exits state result
  | stop {state : State} {result : Result} (stops : round state = .stop result) :
      Exits state result

/-- The result of a loop that ends within a number of rounds. -/
def run : Nat → State → Option Result
  | 0, _ => none
  | rounds + 1, state =>
    match round state with
    | .goOn next => run rounds next
    | .stop result => some result

variable {round}

/-! ### One round -/

theorem exits_iff_of_stop {state : State} {last : Result} (stops : round state = .stop last)
    (result : Result) : Exits round state result ↔ result = last := by
  constructor
  · intro ends
    cases ends with
    | goOn goesOn _ =>
      rw [stops] at goesOn
      cases goesOn
    | stop stops' =>
      rw [stops] at stops'
      exact (Outcome.stop.inj stops').symm
  · rintro rfl
    exact .stop stops

theorem exits_iff_of_goOn {state next : State} (goesOn : round state = .goOn next)
    (result : Result) : Exits round state result ↔ Exits round next result := by
  constructor
  · intro ends
    cases ends with
    | goOn goesOn' rest =>
      rw [goesOn] at goesOn'
      rwa [Outcome.goOn.inj goesOn']
    | stop stops =>
      rw [goesOn] at stops
      cases stops
  · exact .goOn goesOn

/-! ### Whole loops -/

/-- A loop has no more than one result. -/
theorem Exits.unique {state : State} {first second : Result} (ends : Exits round state first)
    (ends' : Exits round state second) : first = second := by
  induction ends with
  | goOn goesOn _ inductionHypothesis =>
    exact inductionHypothesis ((exits_iff_of_goOn goesOn second).mp ends')
  | stop stops => exact ((exits_iff_of_stop stops second).mp ends').symm

/-- What a number of rounds computes is the result of the loop. -/
theorem exits_of_run {rounds : Nat} {state : State} {result : Result}
    (computed : run round rounds state = some result) : Exits round state result := by
  induction rounds generalizing state with
  | zero => cases computed
  | succ rounds inductionHypothesis =>
    rw [run] at computed
    cases outcome : round state with
    | goOn next =>
      rw [outcome] at computed
      exact .goOn outcome (inductionHypothesis computed)
    | stop last =>
      rw [outcome] at computed
      exact .stop (Option.some.inj computed ▸ outcome)

/-- The rule of total correctness: a loop ends if every round decreases a measure, and its result
has what the invariant gives at the end. -/
theorem exists_exits (invariant : State → Prop) (measure : State → Nat)
    (postcondition : Result → Prop)
    (goesOn : ∀ state next, invariant state → round state = .goOn next →
      invariant next ∧ measure next < measure state)
    (stops : ∀ state result, invariant state → round state = .stop result → postcondition result)
    {state : State} (start : invariant state) :
    ∃ result, Exits round state result ∧ postcondition result := by
  induction size : measure state using Nat.strongRecOn generalizing state with
  | ind _ inductionHypothesis =>
    cases outcome : round state with
    | goOn next =>
      obtain ⟨kept, less⟩ := goesOn state next start outcome
      obtain ⟨result, ends, holds⟩ := inductionHypothesis _ (size ▸ less) kept rfl
      exact ⟨result, .goOn outcome ends, holds⟩
    | stop result => exact ⟨result, .stop outcome, stops state result start outcome⟩

end Loops
