import Mathlib.Data.List.TakeWhile
import Mathlib.Data.Option.Basic

namespace ClipboardWire

/-!
# The delays between connections

`run_loop` of `core/src/client/transport.rs` with its durations.  The backoff
doubles after every delay and is meant to start over after a connection that
was open for a while.  The code measures the whole attempt, so an attempt that
is slow to fail starts it over as well.  Durations are in nanoseconds.
-/

/-- `INITIAL_BACKOFF` -/
def initialBackoff : Nat :=
  1000000000

/-- `MAX_BACKOFF` -/
def maxBackoff : Nat :=
  60000000000

/-- `RESET_AFTER_STABLE` -/
def resetAfterStable : Nat :=
  30000000000

/-- One call of `connect_and_serve`, as `run_loop` sees it. -/
structure Attempt where
  /-- The time until the connection opens or the attempt fails. -/
  connecting : Nat
  /-- How long the connection was open, if it was opened at all. -/
  openFor : Option Nat
  /-- Whether every sender of `outbound_rx` is gone when the call returns. -/
  handleDropped : Bool
  deriving DecidableEq, Repr

namespace Attempt

/-- `attempt_start.elapsed()` -/
def elapsed (attempt : Attempt) : Nat :=
  attempt.connecting + attempt.openFor.getD 0

/-- The connection was open for long enough to start over. -/
def WasStable (attempt : Attempt) : Prop :=
  ∃ time, attempt.openFor = some time ∧ resetAfterStable ≤ time

/-- The attempt took long although its connection was not open for long. -/
def WasSlow (attempt : Attempt) : Prop :=
  resetAfterStable ≤ attempt.elapsed ∧ ¬ attempt.WasStable

/-- The delay after an attempt. -/
def delay (backoff : Nat) (attempt : Attempt) : Nat :=
  if resetAfterStable ≤ attempt.elapsed then initialBackoff else backoff

end Attempt

/-- `run_loop`: the delays that it sleeps between the attempts. -/
def runLoop (oneShot : Bool) : Nat → List Attempt → List Nat
  | _, [] =>
      []
  | backoff, attempt :: rest =>
      if oneShot then
        []
      else if attempt.handleDropped then
        []
      else
        attempt.delay backoff ::
          runLoop oneShot (min (attempt.delay backoff * 2) maxBackoff) rest

/-- The attempts that are followed by a delay. -/
def retried (oneShot : Bool) (attempts : List Attempt) : List Attempt :=
  if oneShot then
    []
  else
    attempts.takeWhile fun attempt => !attempt.handleDropped

/-- The delays that the protocol asks for after the attempts. -/
structure FollowsBackoff
    (attempts : List Attempt)
    (delays : List Nat) : Prop where
  first : ∀ delay, delays[0]? = some delay → delay = initialBackoff
  bounded :
    ∀ delay ∈ delays, initialBackoff ≤ delay ∧ delay ≤ maxBackoff
  reset :
    ∀ (index : Nat) (attempt : Attempt) (delay : Nat),
      attempts[index]? = some attempt →
      delays[index]? = some delay →
      attempt.WasStable →
      delay = initialBackoff
  doubled :
    ∀ (index : Nat) (attempt : Attempt) (previous delay : Nat),
      attempts[index + 1]? = some attempt →
      delays[index]? = some previous →
      delays[index + 1]? = some delay →
      ¬ attempt.WasStable →
      delay = min maxBackoff (2 * previous)

namespace Attempt

variable {attempt : Attempt} {backoff : Nat}

/-- A stable connection takes long. -/
theorem WasStable.elapsed
    (stable : attempt.WasStable) :
    resetAfterStable ≤ attempt.elapsed := by
  obtain ⟨time, opened, long⟩ := stable
  rw [Attempt.elapsed, opened, Option.getD_some]
  omega

/-- After an attempt that took long the backoff starts over. -/
theorem delay_of_long (long : resetAfterStable ≤ attempt.elapsed) :
    attempt.delay backoff = initialBackoff :=
  if_pos long

/-- An attempt that was neither stable nor slow does not start over. -/
theorem delay_of_short
    (quick : ¬ attempt.WasSlow)
    (unstable : ¬ attempt.WasStable) :
    attempt.delay backoff = backoff :=
  if_neg fun long => quick ⟨long, unstable⟩

/-- The delay stays within the bounds of the backoff. -/
theorem delay_bounded
    (lower : initialBackoff ≤ backoff)
    (upper : backoff ≤ maxBackoff) :
    initialBackoff ≤ attempt.delay backoff ∧
      attempt.delay backoff ≤ maxBackoff := by
  unfold delay
  split
  · exact ⟨Nat.le_refl _, by decide⟩
  · exact ⟨lower, upper⟩

end Attempt

section Delays

variable {oneShot : Bool} {backoff : Nat} {attempts : List Attempt}

/-- There is a delay after each attempt that is followed by another. -/
theorem length_runLoop (oneShot : Bool) (backoff : Nat)
    (attempts : List Attempt) :
    (runLoop oneShot backoff attempts).length =
      (retried oneShot attempts).length := by
  cases oneShot with
  | true =>
      cases attempts <;> rfl
  | false =>
      induction attempts generalizing backoff with
      | nil =>
          rfl
      | cons attempt rest inductionHypothesis =>
          cases dropped : attempt.handleDropped with
          | true =>
              simp [runLoop, retried, dropped]
          | false =>
              have later := inductionHypothesis
                (min (attempt.delay backoff * 2) maxBackoff)
              simp only [retried, Bool.false_eq_true, if_false] at later
              simp [runLoop, retried, dropped, later]

/-- The first delay goes by the initial backoff and the first attempt. -/
theorem getElem?_runLoop_zero
    {delay : Nat}
    (found : (runLoop oneShot backoff attempts)[0]? = some delay) :
    ∃ attempt,
      attempts[0]? = some attempt ∧ delay = attempt.delay backoff := by
  cases attempts with
  | nil =>
      simp [runLoop] at found
  | cons attempt rest =>
      unfold runLoop at found
      split_ifs at found
      · simp at found
      · simp at found
      · exact ⟨attempt, rfl, (Option.some.inj found).symm⟩

/-- A later delay goes by the one before and its own attempt. -/
theorem getElem?_runLoop_succ
    {index delay : Nat}
    (found :
      (runLoop oneShot backoff attempts)[index + 1]? = some delay) :
    ∃ previous attempt,
      (runLoop oneShot backoff attempts)[index]? = some previous ∧
        attempts[index + 1]? = some attempt ∧
          delay = attempt.delay (min (previous * 2) maxBackoff) := by
  induction attempts generalizing backoff index with
  | nil =>
      simp [runLoop] at found
  | cons first rest inductionHypothesis =>
      unfold runLoop at found ⊢
      split_ifs at found with shot dropped
      · simp at found
      · simp at found
      · rw [if_neg shot, if_neg dropped]
        rw [List.getElem?_cons_succ] at found
        cases index with
        | zero =>
            obtain ⟨attempt, isSecond, isDelay⟩ :=
              getElem?_runLoop_zero found
            exact ⟨_, attempt, rfl, isSecond, isDelay⟩
        | succ index =>
            exact inductionHypothesis found

/-- Every delay stays within the bounds of the backoff. -/
theorem runLoop_bounded
    (lower : initialBackoff ≤ backoff)
    (upper : backoff ≤ maxBackoff) :
    ∀ delay ∈ runLoop oneShot backoff attempts,
      initialBackoff ≤ delay ∧ delay ≤ maxBackoff := by
  induction attempts generalizing backoff with
  | nil =>
      simp [runLoop]
  | cons attempt rest inductionHypothesis =>
      intro delay member
      have bounded := attempt.delay_bounded lower upper
      unfold runLoop at member
      split_ifs at member
      · cases member
      · cases member
      · rcases List.mem_cons.mp member with isFirst | isLater
        · rw [isFirst]
          exact bounded
        · refine inductionHypothesis ?_ (Nat.min_le_right _ _) delay isLater
          have least : initialBackoff ≤ maxBackoff := by
            decide
          omega

/-- The attempts that are retried come first. -/
theorem getElem?_retried
    {index : Nat}
    (inside : index < (retried oneShot attempts).length) :
    (retried oneShot attempts)[index]? = attempts[index]? := by
  have isPrefix : retried oneShot attempts <+: attempts := by
    unfold retried
    split_ifs
    · exact List.nil_prefix
    · exact List.takeWhile_prefix _
  obtain ⟨rest, split⟩ := isPrefix
  have same :
      (retried oneShot attempts ++ rest)[index]? =
        (retried oneShot attempts)[index]? :=
    List.getElem?_append_left inside
  rw [split] at same
  exact same.symm

/-- An attempt that has a delay after the first one is retried. -/
theorem mem_tail_retried
    {index : Nat}
    {attempt : Attempt}
    (found : attempts[index + 1]? = some attempt)
    (inside : index + 1 < (runLoop oneShot backoff attempts).length) :
    attempt ∈ (retried oneShot attempts).tail := by
  rw [length_runLoop] at inside
  refine List.mem_iff_getElem?.mpr ⟨index, ?_⟩
  rw [List.getElem?_tail, getElem?_retried inside, found]

/-- An attempt after the first that is retried comes between two delays. -/
theorem delays_of_retried
    (backoff : Nat)
    {attempt : Attempt}
    (member : attempt ∈ (retried oneShot attempts).tail) :
    ∃ index previous,
      attempts[index + 1]? = some attempt ∧
        (runLoop oneShot backoff attempts)[index]? = some previous ∧
          (runLoop oneShot backoff attempts)[index + 1]? =
            some (attempt.delay (min (previous * 2) maxBackoff)) := by
  obtain ⟨index, found⟩ := List.mem_iff_getElem?.mp member
  rw [List.getElem?_tail] at found
  have inside : index + 1 < (runLoop oneShot backoff attempts).length := by
    rw [length_runLoop]
    exact (List.getElem?_eq_some_iff.mp found).1
  obtain ⟨previous, other, isPrevious, isOther, isDelay⟩ :=
    getElem?_runLoop_succ (List.getElem?_eq_getElem inside)
  have same : attempts[index + 1]? = some attempt := by
    rw [← getElem?_retried (List.getElem?_eq_some_iff.mp found).1, found]
  rw [same, Option.some.injEq] at isOther
  subst other
  refine ⟨index, previous, same, isPrevious, ?_⟩
  rw [List.getElem?_eq_getElem inside, isDelay]

/--
The delays of the reconnect loop.  Whatever the outcomes and the durations of
the attempts, the delays follow the protocol if and only if no attempt after
the first takes 30 s without a connection that was open for that long.
-/
theorem runLoop_followsBackoff_iff
    (oneShot : Bool)
    (attempts : List Attempt) :
    FollowsBackoff attempts (runLoop oneShot initialBackoff attempts) ↔
      ∀ attempt ∈ (retried oneShot attempts).tail, ¬ attempt.WasSlow := by
  constructor
  · intro follows attempt member slow
    obtain ⟨index, previous, isAttempt, isPrevious, isDelay⟩ :=
      delays_of_retried initialBackoff member
    rw [Attempt.delay_of_long slow.1] at isDelay
    have doubled :=
      follows.doubled index attempt previous _ isAttempt isPrevious isDelay
        slow.2
    have least := (follows.bounded previous (List.mem_of_getElem? isPrevious)).1
    simp only [initialBackoff, maxBackoff] at doubled least
    omega
  · intro quick
    refine
      { first := ?_
        bounded := runLoop_bounded (Nat.le_refl _) (by decide)
        reset := ?_
        doubled := ?_ }
    · intro delay found
      obtain ⟨attempt, -, rfl⟩ := getElem?_runLoop_zero found
      exact ite_self initialBackoff
    · intro index attempt delay isAttempt found stable
      cases index with
      | zero =>
          obtain ⟨other, isOther, rfl⟩ := getElem?_runLoop_zero found
          rw [isAttempt, Option.some.injEq] at isOther
          subst other
          exact Attempt.delay_of_long stable.elapsed
      | succ index =>
          obtain ⟨previous, other, -, isOther, rfl⟩ :=
            getElem?_runLoop_succ found
          rw [isAttempt, Option.some.injEq] at isOther
          subst other
          exact Attempt.delay_of_long stable.elapsed
    · intro index attempt previous delay isAttempt isPrevious found unstable
      obtain ⟨before, other, isBefore, isOther, rfl⟩ :=
        getElem?_runLoop_succ found
      rw [isAttempt, Option.some.injEq] at isOther
      rw [isPrevious, Option.some.injEq] at isBefore
      subst other before
      rw [Attempt.delay_of_short (quick attempt ?_) unstable, Nat.min_comm,
        Nat.mul_comm]
      exact mem_tail_retried isAttempt (List.getElem?_eq_some_iff.mp found).1

end Delays

/-- A quick refusal, and then a connect that times out after 30 s. -/
def slowConnect : List Attempt :=
  [{ connecting := 0, openFor := none, handleDropped := false },
    { connecting := resetAfterStable, openFor := none, handleDropped := false }]

/-- The second delay is 1 s again, where the protocol asks for 2 s. -/
theorem slowConnect_not_followsBackoff :
    runLoop false initialBackoff slowConnect =
        [initialBackoff, initialBackoff] ∧
      ¬ FollowsBackoff slowConnect
          (runLoop false initialBackoff slowConnect) := by
  refine ⟨by decide, ?_⟩
  intro follows
  have doubled :=
    follows.doubled 0 _ initialBackoff initialBackoff rfl rfl rfl
      (by rintro ⟨time, opened, -⟩; cases opened)
  exact absurd doubled (by decide)

end ClipboardWire
