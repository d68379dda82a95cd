import Mathlib.Data.List.Induction

namespace StepRun

/-!
# Finite runs of a labelled step function

A system is given by a partial step function: the action says which of the
enabled moves is taken, and `none` says that the move is disabled.  A run is
the list of its actions, so every interleaving of a concurrent system is one
action list.

The module is independent of any particular system.  Its rules are the ones
that every safety proof uses: splitting a run at a point, extending a run by
one action, and the two invariant rules, one of which also sees the actions
performed so far.
-/

variable {State Action : Type}

/-- Perform the actions in order; a disabled action makes the run fail. -/
def run?
    (step? : State → Action → Option State) :
    State → List Action → Option State
  | state, [] =>
      some state
  | state, action :: rest =>
      match step? state action with
      | none =>
          none
      | some next =>
          run? step? next rest

@[simp] theorem run?_nil
    (step? : State → Action → Option State)
    (state : State) :
    run? step? state [] = some state := by
  rfl

/-- A run that is enabled ends in the state that its evaluation gives. -/
theorem run?_getD
    {step? : State → Action → Option State}
    {initial : State}
    {actions : List Action}
    (enabled : (run? step? initial actions).isSome = true)
    (otherwise : State) :
    run? step? initial actions =
      some ((run? step? initial actions).getD otherwise) := by
  obtain ⟨final, ran⟩ := Option.isSome_iff_exists.mp enabled
  rw [ran, Option.getD_some]

/-- A run over a nonempty list starts with one enabled step. -/
theorem run?_cons_eq_some
    {step? : State → Action → Option State}
    {state final : State}
    {action : Action}
    {rest : List Action} :
    run? step? state (action :: rest) = some final ↔
      ∃ next,
        step? state action = some next ∧
          run? step? next rest = some final := by
  cases stepped : step? state action with
  | none =>
      simp [run?, stepped]
  | some next =>
      simp [run?, stepped]

/-- A run to an end of some kind, after one step. -/
theorem exists_run?_cons
    {step? : State → Action → Option State}
    {state next : State}
    {action : Action}
    {rest : List Action}
    {Ends : State → Prop}
    (stepped : step? state action = some next)
    (goesOn : ∃ final, run? step? next rest = some final ∧ Ends final) :
    ∃ final,
      run? step? state (action :: rest) = some final ∧ Ends final := by
  obtain ⟨final, ran, ends⟩ := goesOn
  exact ⟨final, run?_cons_eq_some.mpr ⟨next, stepped, ran⟩, ends⟩

/-- Every run over a concatenation passes through a state in the middle. -/
theorem run?_append_eq_some
    {step? : State → Action → Option State}
    {state final : State}
    {leading trailing : List Action} :
    run? step? state (leading ++ trailing) = some final ↔
      ∃ middle,
        run? step? state leading = some middle ∧
          run? step? middle trailing = some final := by
  induction leading generalizing state with
  | nil =>
      simp
  | cons action rest inductionHypothesis =>
      simp only [List.cons_append, run?_cons_eq_some,
        inductionHypothesis]
      constructor
      · rintro ⟨next, first, middle, later, last⟩
        exact ⟨middle, ⟨next, first, later⟩, last⟩
      · rintro ⟨middle, ⟨next, first, later⟩, last⟩
        exact ⟨next, first, middle, later, last⟩

/-- A run to an end of some kind, after another run. -/
theorem exists_run?_append
    {step? : State → Action → Option State}
    {state middle : State}
    {leading trailing : List Action}
    {Ends : State → Prop}
    (ran : run? step? state leading = some middle)
    (goesOn :
      ∃ final, run? step? middle trailing = some final ∧ Ends final) :
    ∃ final,
      run? step? state (leading ++ trailing) = some final ∧ Ends final := by
  obtain ⟨final, later, ends⟩ := goesOn
  exact ⟨final, run?_append_eq_some.mpr ⟨middle, ran, later⟩, ends⟩

/-- A run extended by one action is a run followed by one enabled step. -/
theorem run?_snoc_eq_some
    {step? : State → Action → Option State}
    {state final : State}
    {past : List Action}
    {action : Action} :
    run? step? state (past ++ [action]) = some final ↔
      ∃ middle,
        run? step? state past = some middle ∧
          step? middle action = some final := by
  simp [run?_append_eq_some, run?_cons_eq_some]

/-- Whatever comes later, a run goes on as if an action had not happened. -/
def Skips
    (step? : State → Action → Option State)
    (initial : State)
    (past : List Action)
    (action : Action) :
    Prop :=
  ∀ later,
    run? step? initial (past ++ action :: later) =
      run? step? initial (past ++ later)

/-- An action is skipped exactly when it is enabled and changes nothing. -/
theorem skips_iff
    {step? : State → Action → Option State}
    {initial state : State}
    {past : List Action}
    {action : Action}
    (ran : run? step? initial past = some state) :
    Skips step? initial past action ↔ step? state action = some state := by
  have split (later : List Action) :
      run? step? initial (past ++ later) = run? step? state later := by
    ext final
    simp [run?_append_eq_some, ran]
  constructor
  · intro skips
    have once := skips []
    rw [split, split, run?_nil] at once
    obtain ⟨next, stepped, same⟩ := run?_cons_eq_some.mp once
    rw [run?_nil, Option.some.injEq] at same
    rw [stepped, same]
  · intro unchanged later
    rw [split, split]
    simp [run?, unchanged]

/-- A state is reachable when some run ends in it. -/
def Reachable
    (step? : State → Action → Option State)
    (initial final : State) : Prop :=
  ∃ actions, run? step? initial actions = some final

/--
Every action of a list meets a condition on the state it is performed in.
Actions after a disabled one are never performed and meet it vacuously.
-/
def Along
    (step? : State → Action → Option State)
    (meets : State → Action → Prop) :
    State → List Action → Prop
  | _, [] =>
      True
  | state, action :: rest =>
      meets state action ∧
        match step? state action with
        | none => True
        | some next => Along step? meets next rest

instance Along.decidable
    (step? : State → Action → Option State)
    (meets : State → Action → Prop)
    [∀ state action, Decidable (meets state action)] :
    ∀ (actions : List Action) (state : State),
      Decidable (Along step? meets state actions)
  | [], _ =>
      inferInstanceAs (Decidable True)
  | action :: rest, state =>
      have : Decidable
          (match step? state action with
            | none => True
            | some next => Along step? meets next rest) :=
        match step? state action with
        | none => inferInstanceAs (Decidable True)
        | some next => Along.decidable step? meets rest next
      inferInstanceAs (Decidable (_ ∧ _))

/-- A condition along a run holds at each of its steps. -/
theorem Along.meets
    {step? : State → Action → Option State}
    {meets : State → Action → Prop}
    {initial state : State}
    {actions past : List Action}
    {action : Action}
    (along : Along step? meets initial actions)
    (within : past ++ [action] <+: actions)
    (ran : run? step? initial past = some state) :
    meets state action := by
  induction past generalizing initial actions with
  | nil =>
      rcases within with ⟨rest, rfl⟩
      simp only [run?_nil, Option.some.injEq] at ran
      subst state
      exact along.1
  | cons first rest inductionHypothesis =>
      rcases within with ⟨later, rfl⟩
      obtain ⟨next, stepped, ran⟩ := run?_cons_eq_some.mp ran
      have tail := along.2
      simp only [stepped] at tail
      exact inductionHypothesis tail
        (List.prefix_append (rest ++ [action]) later) ran

/-- A condition that holds at each step of a run holds along it. -/
theorem Along.intro
    {step? : State → Action → Option State}
    {meets : State → Action → Prop}
    {initial : State}
    {actions : List Action}
    (each :
      ∀ {past action state},
        past ++ [action] <+: actions →
        run? step? initial past = some state →
        meets state action) :
    Along step? meets initial actions := by
  induction actions generalizing initial with
  | nil =>
      trivial
  | cons first rest inductionHypothesis =>
      refine ⟨@each [] first initial ⟨rest, rfl⟩ rfl, ?_⟩
      split
      · trivial
      · rename_i next stepped
        apply inductionHypothesis
        intro past action state within ran
        refine @each (first :: past) action state ?_ ?_
        · rcases within with ⟨later, rfl⟩
          exact ⟨later, rfl⟩
        · exact run?_cons_eq_some.mpr ⟨next, stepped, ran⟩

/-- Equivalent conditions hold along the same runs. -/
theorem Along.congr
    {step? : State → Action → Option State}
    {first second : State → Action → Prop}
    (same : ∀ state action, first state action ↔ second state action)
    {initial : State}
    {actions : List Action} :
    Along step? first initial actions ↔
      Along step? second initial actions := by
  have equal : first = second := by
    funext state action
    exact propext (same state action)
  rw [equal]

/--
Conditions that are equivalent wherever an invariant holds hold along the same
runs, if every step that meets the second one keeps the invariant.
-/
theorem Along.congr_of_kept
    {step? : State → Action → Option State}
    {first second : State → Action → Prop}
    {motive : State → Prop}
    {initial : State}
    {actions : List Action}
    (holds : motive initial)
    (same :
      ∀ {state action},
        action ∈ actions →
        motive state →
        (first state action ↔ second state action))
    (kept :
      ∀ {state action next},
        action ∈ actions →
        motive state →
        second state action →
        step? state action = some next →
        motive next) :
    Along step? first initial actions ↔
      Along step? second initial actions := by
  induction actions generalizing initial with
  | nil =>
      rfl
  | cons action rest inductionHypothesis =>
      simp only [Along]
      rw [same List.mem_cons_self holds]
      refine and_congr_right fun meets => ?_
      cases stepped : step? initial action with
      | none =>
          rfl
      | some next =>
          exact inductionHypothesis
            (kept List.mem_cons_self holds meets stepped)
            (fun member => same (List.mem_cons_of_mem action member))
            (fun member => kept (List.mem_cons_of_mem action member))

/--
Invariant rule with history: an assertion about the actions performed so far
and the current state holds after every run once it holds before the first
action and every enabled step of the run preserves it.
-/
theorem run?_history
    {step? : State → Action → Option State}
    {initial final : State}
    {actions : List Action}
    {motive : List Action → State → Prop}
    (base : motive [] initial)
    (preserved :
      ∀ {past state action next},
        past ++ [action] <+: actions →
        run? step? initial past = some state →
        motive past state →
        step? state action = some next →
        motive (past ++ [action]) next)
    (ran : run? step? initial actions = some final) :
    motive actions final := by
  induction actions using List.reverseRecOn generalizing final with
  | nil =>
      simp only [run?_nil, Option.some.injEq] at ran
      subst final
      exact base
  | append_singleton past action inductionHypothesis =>
      obtain ⟨middle, earlier, last⟩ := run?_snoc_eq_some.mp ran
      have holds : motive past middle :=
        inductionHypothesis
          (fun within => preserved
            (within.trans (List.prefix_append past [action])))
          earlier
      exact preserved (List.prefix_refl _) earlier holds last

/-- Invariant rule: what every enabled step preserves holds after every run. -/
theorem run?_invariant
    {step? : State → Action → Option State}
    {initial final : State}
    {actions : List Action}
    {motive : State → Prop}
    (base : motive initial)
    (preserved :
      ∀ {state action next},
        motive state →
        step? state action = some next →
        motive next)
    (ran : run? step? initial actions = some final) :
    motive final :=
  run?_history
    (motive := fun _ state => motive state)
    base
    (fun _ _ holds stepped => preserved holds stepped)
    ran

/--
Projection rule: when every enabled step is, seen from another system, one of
its steps or none at all, a run is seen as a run of that system.
-/
theorem run?_project
    {Other OtherAction : Type}
    {step? : State → Action → Option State}
    {other? : Other → OtherAction → Option Other}
    (view : State → Other)
    (seen? : Action → Option OtherAction)
    (each :
      ∀ {state action next},
        step? state action = some next →
        run? other? (view state) (seen? action).toList = some (view next))
    {initial final : State}
    {actions : List Action}
    (ran : run? step? initial actions = some final) :
    run? other? (view initial) (actions.filterMap seen?) =
      some (view final) := by
  induction actions generalizing initial with
  | nil =>
      rw [run?_nil, Option.some.injEq] at ran
      rw [ran, List.filterMap_nil, run?_nil]
  | cons action rest inductionHypothesis =>
      obtain ⟨next, stepped, later⟩ := run?_cons_eq_some.mp ran
      have whole :
          (action :: rest).filterMap seen? =
            (seen? action).toList ++ rest.filterMap seen? := by
        cases seen : seen? action <;> simp [seen]
      rw [whole]
      exact run?_append_eq_some.mpr
        ⟨view next, each stepped, inductionHypothesis later⟩

/--
Progress rule: when every state that meets an invariant but not the goal has a
step to a smaller state that meets the invariant, some run reaches the goal.
-/
theorem exists_run_of_progress
    {step? : State → Action → Option State}
    {Invariant Goal : State → Prop}
    (size : State → Nat)
    (progress :
      ∀ {state},
        Invariant state →
        ¬ Goal state →
        ∃ action next,
          step? state action = some next ∧
            Invariant next ∧
              size next < size state)
    {state : State}
    (holds : Invariant state) :
    ∃ actions final,
      run? step? state actions = some final ∧
        Invariant final ∧
          Goal final := by
  induction measured : size state using Nat.strongRecOn generalizing state with
  | ind bound inductionHypothesis =>
      by_cases reached : Goal state
      · exact ⟨[], state, rfl, holds, reached⟩
      · obtain ⟨action, next, stepped, kept, smaller⟩ :=
          progress holds reached
        rw [measured] at smaller
        obtain ⟨actions, final, ran, invariant, goal⟩ :=
          inductionHypothesis (size next) smaller kept rfl
        exact ⟨action :: actions, final,
          run?_cons_eq_some.mpr ⟨next, stepped, ran⟩, invariant, goal⟩

/--
Termination rule: when every enabled step keeps an invariant and makes the
state smaller, a run is no longer than its first state is large.
-/
theorem run?_bounded
    {step? : State → Action → Option State}
    {motive : State → Prop}
    (size : State → Nat)
    (decreases :
      ∀ {state action next},
        motive state →
        step? state action = some next →
        motive next ∧ size next < size state)
    {state final : State}
    {actions : List Action}
    (holds : motive state)
    (ran : run? step? state actions = some final) :
    motive final ∧ actions.length + size final ≤ size state := by
  induction actions generalizing state with
  | nil =>
      simp only [run?_nil, Option.some.injEq] at ran
      subst final
      exact ⟨holds, by simp⟩
  | cons action rest inductionHypothesis =>
      obtain ⟨next, stepped, later⟩ := run?_cons_eq_some.mp ran
      obtain ⟨kept, smaller⟩ := decreases holds stepped
      obtain ⟨invariant, bound⟩ := inductionHypothesis kept later
      refine ⟨invariant, ?_⟩
      rw [List.length_cons]
      omega

/--
What the steps of a run put out, in order; an output may depend on the state
in which its action is performed.
-/
def outputs
    {Output : Type}
    (step? : State → Action → Option State)
    (output : State → Action → Option Output) :
    State → List Action → List Output
  | _, [] =>
      []
  | state, action :: rest =>
      match step? state action with
      | none =>
          []
      | some next =>
          (output state action).toList ++ outputs step? output next rest

/-- The last step of a run puts out the last output. -/
theorem outputs_snoc
    {Output : Type}
    {step? : State → Action → Option State}
    (output : State → Action → Option Output)
    {initial state next : State}
    {past : List Action}
    {action : Action}
    (ran : run? step? initial past = some state)
    (stepped : step? state action = some next) :
    outputs step? output initial (past ++ [action]) =
      outputs step? output initial past ++ (output state action).toList := by
  induction past generalizing initial with
  | nil =>
      rw [run?_nil, Option.some.injEq] at ran
      subst initial
      simp [outputs, stepped]
  | cons first rest inductionHypothesis =>
      obtain ⟨middle, began, remaining⟩ := run?_cons_eq_some.mp ran
      simp only [List.cons_append, outputs, began,
        inductionHypothesis remaining, List.append_assoc]

/-- The system without the moves that are not allowed. -/
def restrict
    (step? : State → Action → Option State)
    (allowed : Action → Prop)
    [DecidablePred allowed] :
    State → Action → Option State :=
  fun state action =>
    if allowed action then
      step? state action
    else
      none

/-- A restricted step is a step that is allowed. -/
theorem restrict_eq_some
    {step? : State → Action → Option State}
    {allowed : Action → Prop}
    [DecidablePred allowed]
    {state next : State}
    {action : Action} :
    restrict step? allowed state action = some next ↔
      allowed action ∧ step? state action = some next := by
  simp [restrict]

/-- A restricted run is a run. -/
theorem run?_of_restrict
    {step? : State → Action → Option State}
    {allowed : Action → Prop}
    [DecidablePred allowed]
    {state final : State}
    {actions : List Action}
    (ran : run? (restrict step? allowed) state actions = some final) :
    run? step? state actions = some final := by
  induction actions generalizing state with
  | nil =>
      exact ran
  | cons action rest inductionHypothesis =>
      obtain ⟨next, stepped, later⟩ := run?_cons_eq_some.mp ran
      exact run?_cons_eq_some.mpr
        ⟨next, (restrict_eq_some.mp stepped).2, inductionHypothesis later⟩

/-- A run from a reachable state ends in a reachable state. -/
theorem Reachable.extend
    {step? : State → Action → Option State}
    {initial middle final : State}
    {actions : List Action}
    (reachable : Reachable step? initial middle)
    (ran : run? step? middle actions = some final) :
    Reachable step? initial final := by
  rcases reachable with ⟨past, earlier⟩
  exact ⟨past ++ actions,
    run?_append_eq_some.mpr ⟨middle, earlier, ran⟩⟩

end StepRun
