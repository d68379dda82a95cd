import Mathlib.Logic.Function.Iterate

namespace WhileLoop

/-!
# Loops that need not end

A loop is given by the test in front of each round and by what a round does to
the state.  It is run with a bound on the number of tests: a loop ends in a
state if all bounds from some number on give that state, and it does not end
if none gives any.

The module is independent of what the loops compute.
-/

variable {State : Type}

/-- Run a loop with at most `fuel` tests. -/
def run?
    (goesOn : State → Bool)
    (round : State → State) :
    Nat → State → Option State
  | 0, _ =>
      none
  | fuel + 1, state =>
      if goesOn state then
        run? goesOn round fuel (round state)
      else
        some state

/-- The loop ends, and leaves a state. -/
def EndsIn
    (goesOn : State → Bool)
    (round : State → State)
    (start final : State) :
    Prop :=
  ∃ enough, ∀ fuel,
    enough ≤ fuel → run? goesOn round fuel start = some final

variable {goesOn : State → Bool} {round : State → State}

/-- A loop whose test fails leaves the state as it is. -/
theorem EndsIn.of_stops
    {start : State}
    (stops : goesOn start = false) :
    EndsIn goesOn round start start := by
  refine ⟨1, fun fuel enough => ?_⟩
  cases fuel with
  | zero =>
      cases enough
  | succ fuel =>
      simp [run?, stops]

/-- A loop ends where it ends after one round. -/
theorem EndsIn.of_round
    {start final : State}
    (continues : goesOn start = true)
    (ends : EndsIn goesOn round (round start) final) :
    EndsIn goesOn round start final := by
  obtain ⟨enough, ends⟩ := ends
  refine ⟨enough + 1, fun fuel more => ?_⟩
  cases fuel with
  | zero =>
      cases more
  | succ fuel =>
      rw [run?, if_pos continues]
      exact ends fuel (Nat.le_of_succ_le_succ more)

/-- A loop ends after the rounds in front of which its test holds. -/
theorem EndsIn.of_iterate
    {rounds : Nat}
    {start : State}
    (continues : ∀ earlier < rounds, goesOn (round^[earlier] start) = true)
    (stops : goesOn (round^[rounds] start) = false) :
    EndsIn goesOn round start (round^[rounds] start) := by
  induction rounds generalizing start with
  | zero =>
      exact .of_stops stops
  | succ rounds inductionHypothesis =>
      refine .of_round (continues 0 (Nat.succ_pos rounds)) ?_
      exact inductionHypothesis
        (fun earlier below =>
          continues (earlier + 1) (Nat.succ_lt_succ below))
        stops

/-- A loop whose test holds after any number of rounds does not end. -/
theorem run?_eq_none
    {start : State}
    (continues : ∀ rounds, goesOn (round^[rounds] start) = true)
    (fuel : Nat) :
    run? goesOn round fuel start = none := by
  induction fuel generalizing start with
  | zero =>
      rfl
  | succ fuel inductionHypothesis =>
      have first : goesOn start = true := continues 0
      rw [run?, if_pos first]
      exact inductionHypothesis fun rounds => continues (rounds + 1)

/-- A loop whose test fails after some rounds needs one test more. -/
theorem isSome_run?
    {start : State}
    {rounds fuel : Nat}
    (stops : goesOn (round^[rounds] start) = false)
    (enough : rounds < fuel) :
    (run? goesOn round fuel start).isSome := by
  induction fuel generalizing start rounds with
  | zero =>
      cases enough
  | succ fuel inductionHypothesis =>
      rw [run?]
      split
      · rename_i continues
        cases rounds with
        | zero =>
            rw [Function.iterate_zero, id_eq, continues] at stops
            cases stops
        | succ rounds =>
            exact inductionHypothesis stops (Nat.lt_of_succ_lt_succ enough)
      · rfl

end WhileLoop
