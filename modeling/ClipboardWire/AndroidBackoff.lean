import Mathlib.Data.List.Induction
import Mathlib.Data.Option.Basic

namespace ClipboardWire

namespace Android

/-!
# The delays between the connections of the Android client

`connectLoop`, `onConnected` and `onDisconnected` of
`ClipboardSyncService.kt` with the two fields that they share.  The backoff
starts over at every welcome, and the time of the last welcome is never
cleared: an attempt that fails is measured from the welcome of an earlier one,
or from the epoch.  Times are in milliseconds.
-/

/-- `INITIAL_BACKOFF_MS` -/
def initialBackoffMs : Nat :=
  1000

/-- `MAX_BACKOFF_MS` -/
def maxBackoffMs : Nat :=
  60000

/-- `STABLE_MS` -/
def stableMs : Int :=
  30000

/-- One round of `connectLoop` up to its `delay`. -/
structure ConnectionAttempt where
  /-- The round began with the wait for Wi-Fi. -/
  waitedForWifi : Bool
  /-- What `currentTimeMillis` gave in `onConnected`, if a welcome arrived. -/
  welcomed : Option Int
  /-- What `currentTimeMillis` gave in `onDisconnected`. -/
  ended : Int
  deriving DecidableEq, Repr

namespace ConnectionAttempt

/-- The connection was open for long enough to start over. -/
def WasStable (attempt : ConnectionAttempt) : Prop :=
  ∃ since,
    attempt.welcomed = some since ∧ stableMs ≤ attempt.ended - since

/-- The attempt starts the backoff over, given the last welcome before it. -/
def StartsOver
    (lastWelcome : Int)
    (attempt : ConnectionAttempt) : Prop :=
  attempt.waitedForWifi = true ∨
    attempt.welcomed.isSome = true ∨
      stableMs < attempt.ended - lastWelcome

end ConnectionAttempt

/-- The fields of the service that the delays depend on. -/
structure ReconnectTimer where
  backoff : Nat
  connectedSince : Int
  deriving DecidableEq, Repr

namespace ReconnectTimer

/-- The fields of a new service. -/
def start : ReconnectTimer where
  backoff := initialBackoffMs
  connectedSince := 0

/-- The end of the wait for Wi-Fi in `connectLoop`. -/
def onWifi (timer : ReconnectTimer) : ReconnectTimer :=
  { timer with backoff := initialBackoffMs }

/-- `onConnected` -/
def onConnected (timer : ReconnectTimer) (now : Int) : ReconnectTimer :=
  { timer with
    connectedSince := now
    backoff := initialBackoffMs }

/-- `onDisconnected` -/
def onDisconnected (timer : ReconnectTimer) (now : Int) : ReconnectTimer :=
  if now - timer.connectedSince > stableMs then
    { timer with backoff := initialBackoffMs }
  else
    timer

/-- The assignment behind the `delay` of `connectLoop`. -/
def afterDelay (timer : ReconnectTimer) : ReconnectTimer :=
  { timer with backoff := min (timer.backoff * 2) maxBackoffMs }

/-- A round of `connectLoop` up to its `delay`. -/
def attempted
    (timer : ReconnectTimer)
    (attempt : ConnectionAttempt) : ReconnectTimer :=
  let resumed := if attempt.waitedForWifi then timer.onWifi else timer
  let connected :=
    match attempt.welcomed with
    | some now => resumed.onConnected now
    | none => resumed
  connected.onDisconnected attempt.ended

/-- A whole round of `connectLoop`. -/
def round
    (timer : ReconnectTimer)
    (attempt : ConnectionAttempt) : ReconnectTimer :=
  (timer.attempted attempt).afterDelay

end ReconnectTimer

/-- `connectLoop`: the delays that follow the attempts. -/
def connectLoop : ReconnectTimer → List ConnectionAttempt → List Nat
  | _, [] =>
      []
  | timer, attempt :: rest =>
      (timer.attempted attempt).backoff ::
        connectLoop (timer.round attempt) rest

/-- The time of the last welcome of some attempts, or the epoch. -/
def lastWelcome (attempts : List ConnectionAttempt) : Int :=
  ((attempts.filterMap ConnectionAttempt.welcomed).getLast?).getD 0

/-- The delays that the protocol asks for after the attempts. -/
structure FollowsReconnect
    (attempts : List ConnectionAttempt)
    (delays : List Nat) : Prop where
  doubled :
    ∀ (index : Nat) (first second : ConnectionAttempt)
      (previous delay : Nat),
      attempts[index]? = some first →
      attempts[index + 1]? = some second →
      delays[index]? = some previous →
      delays[index + 1]? = some delay →
      ¬ first.WasStable →
      ¬ second.WasStable →
      delay = min maxBackoffMs (2 * previous)
  reset :
    ∀ (index : Nat) (attempt : ConnectionAttempt) (delay : Nat),
      attempts[index]? = some attempt →
      delays[index]? = some delay →
      attempt.WasStable →
      delay = initialBackoffMs

namespace ReconnectTimer

variable {timer : ReconnectTimer} {attempt : ConnectionAttempt}

/-- The last welcome is that of the attempt, or the one before it. -/
theorem connectedSince_attempted :
    (timer.attempted attempt).connectedSince =
      attempt.welcomed.getD timer.connectedSince := by
  unfold attempted onDisconnected
  cases attempt.welcomed with
  | none =>
      cases attempt.waitedForWifi <;> simp [onWifi, apply_ite]
  | some now =>
      simp [onConnected]

/-- An attempt that starts over is followed by the initial backoff. -/
theorem backoff_attempted_of_startsOver
    (startsOver : attempt.StartsOver timer.connectedSince) :
    (timer.attempted attempt).backoff = initialBackoffMs := by
  unfold attempted onDisconnected
  cases welcome : attempt.welcomed with
  | some now =>
      simp [onConnected]
  | none =>
      cases waited : attempt.waitedForWifi with
      | true =>
          simp [onWifi]
      | false =>
          have late : stableMs < attempt.ended - timer.connectedSince := by
            simpa [ConnectionAttempt.StartsOver, waited, welcome]
              using startsOver
          simp [late]

/-- Any other attempt leaves the backoff as it is. -/
theorem attempted_of_not_startsOver
    (goesOn : ¬ attempt.StartsOver timer.connectedSince) :
    timer.attempted attempt = timer := by
  simp only [ConnectionAttempt.StartsOver, not_or, Bool.not_eq_true,
    Option.isSome_eq_false_iff, Option.isNone_iff_eq_none] at goesOn
  obtain ⟨direct, unwelcomed, early⟩ := goesOn
  simp [attempted, onDisconnected, direct, unwelcomed, early]

/-- A round keeps the backoff at least at its initial value. -/
theorem initialBackoffMs_le_attempted
    (lower : initialBackoffMs ≤ timer.backoff)
    (attempt : ConnectionAttempt) :
    initialBackoffMs ≤ (timer.attempted attempt).backoff := by
  by_cases startsOver : attempt.StartsOver timer.connectedSince
  · exact Nat.le_of_eq (backoff_attempted_of_startsOver startsOver).symm
  · rwa [attempted_of_not_startsOver startsOver]

/-- The backoff is never below its initial value in front of a round. -/
theorem initialBackoffMs_le_foldl
    (attempts : List ConnectionAttempt)
    (lower : initialBackoffMs ≤ timer.backoff) :
    initialBackoffMs ≤ (attempts.foldl round timer).backoff := by
  induction attempts generalizing timer with
  | nil =>
      exact lower
  | cons attempt rest inductionHypothesis =>
      have kept := initialBackoffMs_le_attempted lower attempt
      have doubled : initialBackoffMs ≤ (timer.round attempt).backoff := by
        simp only [round, afterDelay, initialBackoffMs, maxBackoffMs]
          at kept ⊢
        omega
      exact inductionHypothesis doubled

/-- The field `connectedSince` is the last welcome so far. -/
theorem connectedSince_foldl (attempts : List ConnectionAttempt) :
    (attempts.foldl round start).connectedSince = lastWelcome attempts := by
  induction attempts using List.reverseRecOn with
  | nil =>
      rfl
  | append_singleton earlier attempt inductionHypothesis =>
      rw [List.foldl_append]
      have last :
          (((earlier.foldl round start).round attempt)).connectedSince =
            attempt.welcomed.getD (lastWelcome earlier) := by
        rw [← inductionHypothesis]
        exact connectedSince_attempted
      rw [List.foldl_cons, List.foldl_nil, last, lastWelcome, lastWelcome,
        List.filterMap_append]
      cases welcome : attempt.welcomed <;> simp [welcome]

end ReconnectTimer

section Delays

variable {attempts : List ConnectionAttempt}

/-- A delay goes by its own attempt and the timer in front of it. -/
theorem getElem?_connectLoop
    (timer : ReconnectTimer)
    (attempts : List ConnectionAttempt)
    (index : Nat) :
    (connectLoop timer attempts)[index]? =
      attempts[index]?.map fun attempt =>
        (((attempts.take index).foldl ReconnectTimer.round timer).attempted
          attempt).backoff := by
  induction attempts generalizing timer index with
  | nil =>
      simp [connectLoop]
  | cons first rest inductionHypothesis =>
      cases index with
      | zero =>
          simp [connectLoop]
      | succ index =>
          simp [connectLoop, inductionHypothesis]

/-- A stable attempt starts the backoff over. -/
theorem ConnectionAttempt.WasStable.startsOver
    {attempt : ConnectionAttempt}
    (stable : attempt.WasStable)
    (lastWelcome : Int) :
    attempt.StartsOver lastWelcome := by
  obtain ⟨since, welcomed, -⟩ := stable
  exact .inr (.inl (by rw [welcomed, Option.isSome_some]))

/-- The delay after the second of two attempts that follow each other. -/
theorem delay_doubled_iff
    {index previous delay : Nat}
    {first second : ConnectionAttempt}
    (isFirst : attempts[index]? = some first)
    (isSecond : attempts[index + 1]? = some second)
    (isPrevious :
      (connectLoop .start attempts)[index]? = some previous)
    (isDelay : (connectLoop .start attempts)[index + 1]? = some delay) :
    delay = min maxBackoffMs (2 * previous) ↔
      ¬ second.StartsOver (lastWelcome (attempts.take (index + 1))) := by
  obtain ⟨before, isBefore⟩ :
      ∃ before,
        (attempts.take index).foldl ReconnectTimer.round .start = before :=
    ⟨_, rfl⟩
  have untilSecond :
      attempts.take (index + 1) = attempts.take index ++ [first] := by
    rw [List.take_add_one, isFirst, Option.toList_some]
  have between :
      (attempts.take (index + 1)).foldl ReconnectTimer.round .start =
        before.round first := by
    rw [untilSecond, List.foldl_append, isBefore, List.foldl_cons,
      List.foldl_nil]
  have since :
      (before.round first).connectedSince =
        lastWelcome (attempts.take (index + 1)) := by
    rw [← between, ReconnectTimer.connectedSince_foldl]
  have atLeast : initialBackoffMs ≤ (before.attempted first).backoff :=
    ReconnectTimer.initialBackoffMs_le_attempted
      (isBefore ▸ ReconnectTimer.initialBackoffMs_le_foldl _ (Nat.le_refl _))
      first
  rw [getElem?_connectLoop, isFirst, Option.map_some, isBefore] at isPrevious
  rw [getElem?_connectLoop, isSecond, Option.map_some, between] at isDelay
  obtain rfl := Option.some.inj isPrevious
  obtain rfl := Option.some.inj isDelay
  rw [← since]
  constructor
  · intro doubled startsOver
    rw [ReconnectTimer.backoff_attempted_of_startsOver startsOver] at doubled
    simp only [initialBackoffMs, maxBackoffMs] at doubled atLeast
    omega
  · intro goesOn
    rw [ReconnectTimer.attempted_of_not_startsOver goesOn]
    simp only [ReconnectTimer.round, ReconnectTimer.afterDelay]
    rw [Nat.min_comm, Nat.mul_comm]

end Delays

/-- Over any attempts, the delays follow the protocol exactly if no attempt
that is not stable and follows another such one starts the backoff over. -/
theorem connectLoop_follows_iff (attempts : List ConnectionAttempt) :
    FollowsReconnect attempts (connectLoop .start attempts) ↔
      ∀ (index : Nat) (first second : ConnectionAttempt),
        attempts[index]? = some first →
        attempts[index + 1]? = some second →
        ¬ first.WasStable →
        ¬ second.WasStable →
        ¬ second.StartsOver (lastWelcome (attempts.take (index + 1))) := by
  constructor
  · intro follows index first second isFirst isSecond unstable unstable'
    have isPrevious := getElem?_connectLoop .start attempts index
    have isDelay := getElem?_connectLoop .start attempts (index + 1)
    rw [isFirst, Option.map_some] at isPrevious
    rw [isSecond, Option.map_some] at isDelay
    exact (delay_doubled_iff isFirst isSecond isPrevious isDelay).mp
      (follows.doubled index first second _ _ isFirst isSecond isPrevious
        isDelay unstable unstable')
  · intro goesOn
    constructor
    · intro index first second previous delay isFirst isSecond isPrevious
        isDelay unstable unstable'
      exact (delay_doubled_iff isFirst isSecond isPrevious isDelay).mpr
        (goesOn index first second isFirst isSecond unstable unstable')
    · intro index attempt delay isAttempt isDelay stable
      rw [getElem?_connectLoop, isAttempt, Option.map_some] at isDelay
      rw [← Option.some.inj isDelay]
      exact ReconnectTimer.backoff_attempted_of_startsOver
        (stable.startsOver _)

/-- The server cannot be reached twice in a row: the delay is not doubled. -/
theorem connectLoop_unreachable :
    connectLoop .start
        [⟨false, none, 1700000000000⟩, ⟨false, none, 1700000003000⟩] =
          [1000, 1000] ∧
      ¬ FollowsReconnect
        [⟨false, none, 1700000000000⟩, ⟨false, none, 1700000003000⟩]
        (connectLoop .start
          [⟨false, none, 1700000000000⟩,
            ⟨false, none, 1700000003000⟩]) := by
  refine ⟨by decide, fun follows => ?_⟩
  have doubled := follows.doubled 0 _ _ _ _ rfl rfl rfl rfl
    (by simp [ConnectionAttempt.WasStable])
    (by simp [ConnectionAttempt.WasStable])
  exact absurd doubled (by decide)

end Android

end ClipboardWire
