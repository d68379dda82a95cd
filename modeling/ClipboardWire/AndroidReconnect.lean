import ClipboardWire.StepRun
import Mathlib.Logic.Function.Basic

namespace ClipboardWire

namespace Android

/-!
# The reconnect loop of the Android client

`connectLoop`, `resumeReconnect` and `onDisconnected` of
`ClipboardSyncService.kt`.  The loop hands its continuation over in the field
`disconnectCont`; the callbacks of the handlers run on other threads, and each
of them reads the field, resumes what it read, and clears the field, with any
other step in between.  The notifications, the backoff, the wait for Wi-Fi and
the closing of the old handler touch nothing of this.
-/

/-- Where `connectLoop` is in the round of its current handler. -/
inductive LoopPoint where
  /-- At the top of the loop, with no handler of this round yet. -/
  | connecting
  /-- Behind `connect`, with no continuation of this round yet. -/
  | connected
  /-- Inside `suspendCancellableCoroutine`. -/
  | suspended
  /-- Behind it, in `delay`. -/
  | delaying
  deriving DecidableEq, Repr

/-- Where the `onDisconnected` of a handler is. -/
inductive CallbackPoint where
  | notCalled
  /-- In front of `resumeReconnect`. -/
  | called
  /-- Behind the read of `disconnectCont`. -/
  | holding (cont : Option Nat)
  /-- Behind the `let` block. -/
  | resumed
  | returned
  deriving DecidableEq, Repr

/-- The loop with its callbacks; handlers and continuations go by rounds. -/
structure Reconnect where
  /-- The round of the loop, which is also its newest handler. -/
  round : Nat
  point : LoopPoint
  disconnectCont : Option Nat
  /-- The continuations that have been resumed. -/
  resumed : Nat → Bool
  callbacks : Nat → CallbackPoint

/-- The steps of the loop and of the callback of a handler. -/
inductive ReconnectAction where
  | connect
  | install
  | wake
  | retry
  | callback (handler : Nat)
  deriving DecidableEq, Repr

namespace Reconnect

/-- The service has just been created. -/
def start : Reconnect where
  round := 0
  point := .connecting
  disconnectCont := none
  resumed _ := false
  callbacks _ := .notCalled

/-- The `connect` of a handler has been called. -/
def HasConnected (loop : Reconnect) (handler : Nat) : Prop :=
  handler < loop.round ∨ handler = loop.round ∧ loop.point ≠ .connecting

instance (loop : Reconnect) (handler : Nat) :
    Decidable (loop.HasConnected handler) :=
  inferInstanceAs (Decidable (_ ∨ _))

/-- A callback gets to a point. -/
def moveTo (loop : Reconnect) (handler : Nat) (point : CallbackPoint) :
    Reconnect :=
  { loop with callbacks := Function.update loop.callbacks handler point }

/-- The `let` block of `resumeReconnect`. -/
def resume (loop : Reconnect) : Option Nat → Reconnect
  | some cont =>
      -- `isActive`: a continuation is resumed once.
      if loop.resumed cont then
        loop
      else
        { loop with resumed := Function.update loop.resumed cont true }
  | none =>
      loop

/-- The next step of the callback of a handler. -/
def callback? (loop : Reconnect) (handler : Nat) : Option Reconnect :=
  match loop.callbacks handler with
  | .notCalled =>
      if loop.HasConnected handler then
        some (loop.moveTo handler .called)
      else
        none
  | .called =>
      some (loop.moveTo handler (.holding loop.disconnectCont))
  | .holding cont =>
      some ((loop.moveTo handler .resumed).resume cont)
  | .resumed =>
      some ({ loop with disconnectCont := none }.moveTo handler .returned)
  | .returned =>
      none

/-- One step of the loop or of a callback. -/
def step? (loop : Reconnect) : ReconnectAction → Option Reconnect
  | .connect =>
      if loop.point = .connecting then
        some { loop with point := .connected }
      else
        none
  | .install =>
      if loop.point = .connected then
        some
          { loop with point := .suspended, disconnectCont := some loop.round }
      else
        none
  | .wake =>
      if loop.point = .suspended ∧ loop.resumed loop.round then
        some { loop with point := .delaying }
      else
        none
  | .retry =>
      if loop.point = .delaying then
        some { loop with round := loop.round + 1, point := .connecting }
      else
        none
  | .callback handler =>
      loop.callback? handler

/-! ## What the loop should do -/

/-- The loop sleeps in the round of a handler, and nobody has resumed it. -/
def SleepsOn (loop : Reconnect) (handler : Nat) : Prop :=
  loop.round = handler ∧ loop.point = .suspended ∧
    loop.resumed handler = false

/-- The wait for a handler has ended. -/
def WaitOver (loop : Reconnect) (handler : Nat) : Prop :=
  handler < loop.round ∨
    handler = loop.round ∧
      (loop.point = .delaying ∨
        loop.point = .suspended ∧ loop.resumed handler = true)

/--
The wait for a handler is over only if its `onDisconnected` was called, and the
loop does not sleep on a handler whose `onDisconnected` is done.
-/
structure WaitsRight (loop : Reconnect) : Prop where
  reported :
    ∀ handler,
      loop.WaitOver handler →
        loop.callbacks handler ≠ .notCalled
  awake :
    ∀ handler,
      loop.callbacks handler = .returned →
        ¬ loop.SleepsOn handler

/-- A callback that reads the continuation finds the one of its own round. -/
def ReadsOwn (loop : Reconnect) : ReconnectAction → Prop
  | .callback handler =>
      loop.callbacks handler = .called →
        loop.disconnectCont = some handler
  | _ => True

instance (loop : Reconnect) (action : ReconnectAction) :
    Decidable (loop.ReadsOwn action) := by
  cases action <;> unfold ReadsOwn <;> infer_instance

/-! ## Which continuations are about -/

/-- The continuation of a round has been installed. -/
def Installed (loop : Reconnect) (cont : Nat) : Prop :=
  cont < loop.round ∨
    cont = loop.round ∧
      (loop.point = .suspended ∨ loop.point = .delaying)

/-- What holds in every run, whatever the callbacks read. -/
structure Orderly (loop : Reconnect) : Prop where
  connected :
    ∀ handler,
      loop.callbacks handler ≠ .notCalled → loop.HasConnected handler
  ended :
    ∀ handler, loop.WaitOver handler → loop.resumed handler = true
  resumer :
    ∀ handler,
      loop.resumed handler = true →
        loop.callbacks handler = .resumed ∨
          loop.callbacks handler = .returned
  resumedInstalled :
    ∀ cont, loop.resumed cont = true → loop.Installed cont
  field :
    ∀ cont, loop.disconnectCont = some cont → loop.Installed cont
  held :
    ∀ handler cont,
      loop.callbacks handler = .holding (some cont) → loop.Installed cont

/-- What one step does, with the condition under which it is taken. -/
inductive Moves :
    Reconnect → ReconnectAction → Reconnect → Prop where
  | connected
      {loop : Reconnect}
      (connecting : loop.point = .connecting) :
      Moves loop .connect { loop with point := .connected }
  | installed
      {loop : Reconnect}
      (connected : loop.point = .connected) :
      Moves loop .install
        { loop with point := .suspended, disconnectCont := some loop.round }
  | woken
      {loop : Reconnect}
      (suspended : loop.point = .suspended)
      (resumed : loop.resumed loop.round = true) :
      Moves loop .wake { loop with point := .delaying }
  | retried
      {loop : Reconnect}
      (delaying : loop.point = .delaying) :
      Moves loop .retry
        { loop with round := loop.round + 1, point := .connecting }
  | reported
      {loop : Reconnect}
      {handler : Nat}
      (notCalled : loop.callbacks handler = .notCalled)
      (hasConnected : loop.HasConnected handler) :
      Moves loop (.callback handler) (loop.moveTo handler .called)
  | read
      {loop : Reconnect}
      {handler : Nat}
      (called : loop.callbacks handler = .called) :
      Moves loop (.callback handler)
        (loop.moveTo handler (.holding loop.disconnectCont))
  | resumed
      {loop : Reconnect}
      {handler : Nat}
      {cont : Option Nat}
      (holding : loop.callbacks handler = .holding cont) :
      Moves loop (.callback handler)
        ((loop.moveTo handler .resumed).resume cont)
  | cleared
      {loop : Reconnect}
      {handler : Nat}
      (behind : loop.callbacks handler = .resumed) :
      Moves loop (.callback handler)
        ({ loop with disconnectCont := none }.moveTo handler .returned)

/-- A step of a callback is one of its four moves. -/
theorem moves_of_callback?
    {loop next : Reconnect}
    {handler : Nat}
    (stepped : loop.callback? handler = some next) :
    Moves loop (.callback handler) next := by
  unfold callback? at stepped
  split at stepped
  · rename_i notCalled
    split at stepped
    · rename_i connected
      cases stepped
      exact .reported notCalled connected
    · cases stepped
  · rename_i called
    cases stepped
    exact .read called
  · rename_i cont holding
    cases stepped
    exact .resumed holding
  · rename_i resumed
    cases stepped
    exact .cleared resumed
  · cases stepped

theorem moves_of_step?
    {loop next : Reconnect}
    {action : ReconnectAction}
    (stepped : loop.step? action = some next) :
    Moves loop action next := by
  cases action with
  | connect =>
      simp only [step?] at stepped
      split at stepped <;> cases stepped
      exact .connected ‹_›
  | install =>
      simp only [step?] at stepped
      split at stepped <;> cases stepped
      exact .installed ‹_›
  | wake =>
      simp only [step?] at stepped
      split at stepped <;> cases stepped
      rename_i enabled
      exact .woken enabled.1 enabled.2
  | retry =>
      simp only [step?] at stepped
      split at stepped <;> cases stepped
      exact .retried ‹_›
  | callback handler =>
      exact moves_of_callback? stepped

/-- A callback that gets to a point keeps the order. -/
theorem Orderly.moveTo
    {loop : Reconnect}
    {handler : Nat}
    {point : CallbackPoint}
    (orderly : loop.Orderly)
    (connected : loop.HasConnected handler)
    (resumer :
      loop.resumed handler = true → point = .resumed ∨ point = .returned)
    (held :
      ∀ cont, point = .holding (some cont) → loop.Installed cont) :
    (loop.moveTo handler point).Orderly where
  connected other called := by
    by_cases same : other = handler
    · exact same ▸ connected
    · refine orderly.connected other ?_
      simpa [Reconnect.moveTo, Function.update_of_ne same] using called
  ended := orderly.ended
  resumer other isResumed := by
    by_cases same : other = handler
    · subst other
      simpa [Reconnect.moveTo] using resumer isResumed
    · simpa [Reconnect.moveTo, Function.update_of_ne same] using
        orderly.resumer other isResumed
  resumedInstalled := orderly.resumedInstalled
  field := orderly.field
  held other cont isHeld := by
    by_cases same : other = handler
    · subst other
      exact held cont (by simpa [Reconnect.moveTo] using isHeld)
    · refine orderly.held other cont ?_
      simpa [Reconnect.moveTo, Function.update_of_ne same] using isHeld

/-- Only the callback of the newest handler may have to resume somebody. -/
theorem Orderly.eq_of_held
    {loop : Reconnect}
    {handler cont : Nat}
    (orderly : loop.Orderly)
    (holds : loop.callbacks handler = .holding (some cont))
    (notResumed : loop.resumed cont = false) :
    handler = cont ∧ cont = loop.round := by
  have connected := orderly.connected handler (by simp [holds])
  have installed := orderly.held handler cont holds
  have newest : ¬ handler < loop.round := by
    intro older
    have behind := orderly.resumer handler (orderly.ended handler (.inl older))
    simp [holds] at behind
  have contNewest : ¬ cont < loop.round := by
    intro older
    have isResumed := orderly.ended cont (.inl older)
    simp [notResumed] at isResumed
  unfold HasConnected at connected
  unfold Installed at installed
  omega

/-- Resuming a continuation keeps the order. -/
theorem Orderly.resume
    {loop : Reconnect}
    {cont : Nat}
    (orderly : loop.Orderly)
    (installed : loop.Installed cont)
    (resumer :
      loop.callbacks cont = .resumed ∨ loop.callbacks cont = .returned) :
    { loop with
      resumed := Function.update loop.resumed cont true }.Orderly where
  connected := orderly.connected
  ended handler isOver := by
    by_cases same : handler = cont
    · simp [same]
    · simp only [WaitOver, Function.update_of_ne same] at isOver ⊢
      exact orderly.ended handler isOver
  resumer handler isResumed := by
    by_cases same : handler = cont
    · exact same ▸ resumer
    · simp only [Function.update_of_ne same] at isResumed
      exact orderly.resumer handler isResumed
  resumedInstalled other isResumed := by
    by_cases same : other = cont
    · exact same ▸ installed
    · simp only [Function.update_of_ne same] at isResumed
      exact orderly.resumedInstalled other isResumed
  field := orderly.field
  held := orderly.held

/-- Before its `let` block, a callback has resumed nobody. -/
theorem Orderly.notResumed
    {loop : Reconnect}
    {handler : Nat}
    (orderly : loop.Orderly)
    (early : loop.callbacks handler ≠ .resumed)
    (running : loop.callbacks handler ≠ .returned) :
    ¬ loop.resumed handler = true := by
  intro isResumed
  rcases orderly.resumer handler isResumed with behind | behind
  · exact early behind
  · exact running behind

/-- A step of the loop keeps the order. -/
theorem Orderly.ofLoop
    {loop next : Reconnect}
    (orderly : loop.Orderly)
    (callbacks : next.callbacks = loop.callbacks)
    (resumed : next.resumed = loop.resumed)
    (connects :
      ∀ handler, loop.HasConnected handler → next.HasConnected handler)
    (ended :
      ∀ handler, next.WaitOver handler → loop.WaitOver handler)
    (installs : ∀ cont, loop.Installed cont → next.Installed cont)
    (field :
      ∀ cont, next.disconnectCont = some cont →
        loop.disconnectCont = some cont ∨ next.Installed cont) :
    next.Orderly where
  connected handler called :=
    connects handler (orderly.connected handler (callbacks ▸ called))
  ended handler isOver :=
    resumed ▸ orderly.ended handler (ended handler isOver)
  resumer handler isResumed :=
    callbacks ▸ orderly.resumer handler (resumed ▸ isResumed)
  resumedInstalled cont isResumed :=
    installs cont (orderly.resumedInstalled cont (resumed ▸ isResumed))
  field cont isField := by
    rcases field cont isField with wasField | installed
    · exact installs cont (orderly.field cont wasField)
    · exact installed
  held handler cont isHeld :=
    installs cont (orderly.held handler cont (callbacks ▸ isHeld))

/-- A callback that resumes what it holds keeps the order. -/
theorem Orderly.resumes
    {loop : Reconnect}
    {handler : Nat}
    {cont : Option Nat}
    (orderly : loop.Orderly)
    (holding : loop.callbacks handler = .holding cont) :
    ((loop.moveTo handler .resumed).resume cont).Orderly := by
  have moved : (loop.moveTo handler .resumed).Orderly :=
    orderly.moveTo (orderly.connected handler (by simp [holding]))
      (fun _ => .inl rfl) (by simp)
  cases cont with
  | none =>
      exact moved
  | some cont =>
      cases active : loop.resumed cont with
      | true =>
          rwa [Reconnect.resume, Reconnect.moveTo, if_pos active]
      | false =>
          obtain ⟨rfl, -⟩ := orderly.eq_of_held holding active
          rw [Reconnect.resume, if_neg (by simp [Reconnect.moveTo, active])]
          exact moved.resume (orderly.held handler handler holding)
            (.inl (by simp [Reconnect.moveTo]))

theorem Orderly.step
    {loop next : Reconnect}
    {action : ReconnectAction}
    (orderly : loop.Orderly)
    (stepped : loop.step? action = some next) :
    next.Orderly := by
  cases moves_of_step? stepped with
  | connected connecting =>
      refine orderly.ofLoop rfl rfl ?_ ?_ ?_ fun _ => .inl
      · intro handler
        simp [HasConnected, connecting]
        omega
      · intro handler
        simp [WaitOver, connecting]
      · intro cont
        simp [Installed, connecting]
  | installed connected =>
      refine orderly.ofLoop rfl rfl ?_ ?_ ?_ fun cont isField => .inr ?_
      · intro handler
        simp [HasConnected, connected]
      · rintro handler (older | ⟨rfl, inDelay | ⟨-, isResumed⟩⟩)
        · exact .inl older
        · cases inDelay
        · -- Nobody can have resumed a continuation that did not exist.
          have installed := orderly.resumedInstalled loop.round isResumed
          simp [Installed, connected] at installed
      · intro cont
        simp [Installed, connected]
        omega
      · cases isField
        simp [Installed]
  | woken suspended resumed =>
      refine orderly.ofLoop rfl rfl ?_ ?_ ?_ fun _ => .inl
      · intro handler
        simp [HasConnected, suspended]
      · rintro handler (older | ⟨rfl, -⟩)
        · exact .inl older
        · exact .inr ⟨rfl, .inr ⟨suspended, resumed⟩⟩
      · intro cont
        simp [Installed, suspended]
  | retried delaying =>
      refine orderly.ofLoop rfl rfl ?_ ?_ ?_ fun _ => .inl
      · intro handler
        simp [HasConnected, delaying]
        omega
      · intro handler
        simp [WaitOver, delaying]
        omega
      · intro cont
        simp [Installed, delaying]
        omega
  | @reported handler notCalled hasConnected =>
      refine orderly.moveTo hasConnected (fun isResumed => ?_) (by simp)
      exact (orderly.notResumed (by simp [notCalled]) (by simp [notCalled])
        isResumed).elim
  | @read handler called =>
      refine orderly.moveTo (orderly.connected handler (by simp [called]))
        (fun isResumed => ?_) (fun cont isField => ?_)
      · exact (orderly.notResumed (by simp [called]) (by simp [called])
          isResumed).elim
      · exact orderly.field cont (by simpa using isField)
  | resumed holding =>
      exact orderly.resumes holding
  | @cleared handler behind =>
      have cleared : { loop with disconnectCont := none }.Orderly :=
        orderly.ofLoop rfl rfl (fun _ => id) (fun _ => id) (fun _ => id)
          (by simp)
      exact cleared.moveTo (orderly.connected handler (by simp [behind]))
        (fun _ => .inr rfl) (by simp)

theorem orderly_start : start.Orderly where
  connected := by simp [start]
  ended := by simp [start, WaitOver]
  resumer := by simp [start]
  resumedInstalled := by simp [start]
  field := by simp [start]
  held := by simp [start]

theorem orderly_of_run
    {actions : List ReconnectAction}
    {loop : Reconnect}
    (ran : StepRun.run? step? start actions = some loop) :
    loop.Orderly :=
  StepRun.run?_invariant orderly_start Orderly.step ran

/-- The loop never wakes early, whatever the callbacks read. -/
theorem Orderly.reported
    {loop : Reconnect}
    {handler : Nat}
    (orderly : loop.Orderly)
    (isOver : loop.WaitOver handler) :
    loop.callbacks handler ≠ .notCalled := by
  intro notCalled
  have behind := orderly.resumer handler (orderly.ended handler isOver)
  simp [notCalled] at behind

/-! ## Callbacks that find the continuation of their own round -/

/-- What holds as long as every callback reads its own continuation. -/
structure Owned (loop : Reconnect) : Prop where
  held :
    ∀ handler cont,
      loop.callbacks handler = .holding cont → cont = some handler
  behind :
    ∀ handler,
      loop.callbacks handler = .resumed ∨
          loop.callbacks handler = .returned →
        loop.resumed handler = true

/-- A callback that gets to a point keeps the continuations owned. -/
theorem Owned.moveTo
    {loop : Reconnect}
    {handler : Nat}
    {point : CallbackPoint}
    (owned : loop.Owned)
    (held : ∀ cont, point = .holding cont → cont = some handler)
    (behind :
      point = .resumed ∨ point = .returned → loop.resumed handler = true) :
    (loop.moveTo handler point).Owned where
  held other cont isHeld := by
    by_cases same : other = handler
    · subst other
      exact held cont (by simpa [Reconnect.moveTo] using isHeld)
    · refine owned.held other cont ?_
      simpa [Reconnect.moveTo, Function.update_of_ne same] using isHeld
  behind other isBehind := by
    by_cases same : other = handler
    · subst other
      exact behind (by simpa [Reconnect.moveTo] using isBehind)
    · refine owned.behind other ?_
      simpa [Reconnect.moveTo, Function.update_of_ne same] using isBehind

/-- Resuming and moving on touch different parts. -/
theorem resume_moveTo
    (loop : Reconnect)
    (handler : Nat)
    (point : CallbackPoint)
    (cont : Option Nat) :
    (loop.moveTo handler point).resume cont =
      (loop.resume cont).moveTo handler point := by
  cases cont with
  | none =>
      rfl
  | some cont =>
      cases active : loop.resumed cont <;>
        simp [Reconnect.resume, Reconnect.moveTo, active]

/-- A continuation is resumed behind the block, and the others are as before. -/
theorem resumed_resume (loop : Reconnect) (cont : Nat) :
    (loop.resume (some cont)).resumed =
      Function.update loop.resumed cont true := by
  cases active : loop.resumed cont with
  | true =>
      simp only [Reconnect.resume, active, if_pos]
      exact (Function.update_eq_self_iff.mpr active.symm).symm
  | false =>
      simp [Reconnect.resume, active]

/-- No callback moves when a continuation is resumed. -/
theorem callbacks_resume (loop : Reconnect) (cont : Option Nat) :
    (loop.resume cont).callbacks = loop.callbacks := by
  cases cont with
  | none =>
      rfl
  | some cont =>
      cases active : loop.resumed cont <;> simp [Reconnect.resume, active]

/-- A callback that resumes its own round keeps the continuations owned. -/
theorem Owned.resumes
    {loop : Reconnect}
    {handler : Nat}
    {cont : Option Nat}
    (owned : loop.Owned)
    (holding : loop.callbacks handler = .holding cont) :
    ((loop.moveTo handler .resumed).resume cont).Owned := by
  obtain rfl := owned.held handler cont holding
  rw [resume_moveTo]
  have resumed : (loop.resume (some handler)).Owned :=
    { held := callbacks_resume loop _ ▸ owned.held
      behind := fun other isBehind => by
        rw [callbacks_resume] at isBehind
        have before := owned.behind other isBehind
        rw [resumed_resume]
        by_cases same : other = handler <;> simp [same, before] }
  exact resumed.moveTo (by simp) fun _ => by simp [resumed_resume]

theorem Owned.step
    {loop next : Reconnect}
    {action : ReconnectAction}
    (owned : loop.Owned)
    (own : loop.ReadsOwn action)
    (stepped : loop.step? action = some next) :
    next.Owned := by
  cases moves_of_step? stepped with
  | reported notCalled hasConnected =>
      exact owned.moveTo (by simp) (by simp)
  | read called =>
      refine owned.moveTo (fun cont isField => ?_) (by simp)
      rw [CallbackPoint.holding.injEq] at isField
      exact isField ▸ own called
  | resumed holding =>
      exact owned.resumes holding
  | @cleared handler behind =>
      have cleared : { loop with disconnectCont := none }.Owned :=
        ⟨owned.held, owned.behind⟩
      exact cleared.moveTo (by simp) fun _ => owned.behind handler (.inl behind)
  | _ =>
      exact ⟨owned.held, owned.behind⟩

theorem owned_of_run
    {actions : List ReconnectAction}
    {loop : Reconnect}
    (ran : StepRun.run? step? start actions = some loop)
    (own : StepRun.Along step? ReadsOwn start actions) :
    loop.Owned :=
  StepRun.run?_history
    (motive := fun _ loop => loop.Owned)
    ⟨by simp [start], by simp [start]⟩
    (fun within earlier owned stepped =>
      owned.step (own.meets within earlier) stepped)
    ran

/--
In every run in which each callback that reads `disconnectCont` finds the
continuation of its own round there, the wait for a handler ends when its
`onDisconnected` was called, and the loop sleeps on no handler that is done.
-/
theorem waitsRight_of_readsOwn
    {actions : List ReconnectAction}
    {loop : Reconnect}
    (ran : StepRun.run? step? start actions = some loop)
    (own : StepRun.Along step? ReadsOwn start actions) :
    loop.WaitsRight where
  reported _ isOver := (orderly_of_run ran).reported isOver
  awake handler returned asleep := by
    have resumed := (owned_of_run ran own).behind handler (.inr returned)
    simp [asleep.2.2] at resumed

/-- Two rounds: both handlers report while the loop waits for them. -/
def twoRounds : List ReconnectAction :=
  [.connect, .install, .callback 0, .callback 0, .callback 0, .wake,
    .callback 0, .retry, .connect, .install, .callback 1, .callback 1,
    .callback 1, .callback 1]

theorem twoRounds_waitsRight :
    ∃ loop,
      StepRun.run? step? start twoRounds = some loop ∧
        loop.callbacks 1 = .returned ∧ loop.WaitsRight := by
  have own : StepRun.Along step? ReadsOwn start twoRounds := by
    decide
  obtain ⟨loop, ran⟩ :=
    Option.isSome_iff_exists.mp
      (rfl : (StepRun.run? step? start twoRounds).isSome = true)
  have returned :
      (StepRun.run? step? start twoRounds).map (·.callbacks 1) =
        some .returned := by
    rfl
  rw [ran, Option.map_some, Option.some.injEq] at returned
  exact ⟨loop, ran, returned, waitsRight_of_readsOwn ran own⟩

/-- The handler fails before the loop has installed its continuation. -/
def failsEarly : List ReconnectAction :=
  [.connect, .callback 0, .callback 0, .callback 0, .callback 0, .install]

/-- The loop sleeps on a handler that is done. -/
theorem failsEarly_not_waitsRight :
    ¬ ∀ actions loop,
        StepRun.run? step? start actions = some loop → loop.WaitsRight := by
  intro always
  have right := always failsEarly _ rfl
  exact right.awake 0 rfl ⟨rfl, rfl, rfl⟩

/-! ## Callbacks that find something else -/

/-- A callback is behind its read, and has not found its own round there. -/
def Misses (handler : Nat) : CallbackPoint → Prop
  | .holding cont => cont ≠ some handler
  | .resumed | .returned => True
  | .notCalled | .called => False

/-- The callback of a handler can no longer end the wait for it. -/
structure Missed (loop : Reconnect) (handler : Nat) : Prop where
  newest : handler = loop.round
  notOver : loop.resumed handler = false
  waits : loop.point = .connected ∨ loop.point = .suspended
  past : Misses handler (loop.callbacks handler)

/-- A callback that finds something else has missed the loop. -/
theorem Orderly.missed
    {loop next : Reconnect}
    {handler : Nat}
    (orderly : loop.Orderly)
    (called : loop.callbacks handler = .called)
    (other : loop.disconnectCont ≠ some handler)
    (stepped : loop.step? (.callback handler) = some next) :
    next.Missed handler := by
  have notResumed : loop.resumed handler = false := by
    by_contra isResumed
    have behind := orderly.resumer handler (by simpa using isResumed)
    simp [called] at behind
  have notOver : ¬ loop.WaitOver handler := fun isOver => by
    simp [orderly.ended handler isOver] at notResumed
  have newest : handler = loop.round ∧ loop.point ≠ .connecting := by
    rcases orderly.connected handler (by simp [called]) with older | newest
    · exact (notOver (.inl older)).elim
    · exact newest
  simp only [step?, callback?, called, Option.some.injEq] at stepped
  subst next
  refine ⟨newest.1, notResumed, ?_, ?_⟩
  · cases point : loop.point with
    | connecting => exact (newest.2 point).elim
    | connected => exact .inl point
    | suspended => exact .inr point
    | delaying => exact (notOver (.inr ⟨newest.1, .inl point⟩)).elim
  · simpa [Reconnect.moveTo, Misses] using other

/-- What a callback other than the newest one resumes was resumed before. -/
theorem Orderly.resume_eq_self
    {loop : Reconnect}
    {handler missed : Nat}
    {cont : Option Nat}
    (orderly : loop.Orderly)
    (newest : missed = loop.round)
    (holding : loop.callbacks handler = .holding cont)
    (other : handler = missed → cont ≠ some handler) :
    loop.resume cont = loop := by
  cases cont with
  | none =>
      rfl
  | some cont =>
      cases active : loop.resumed cont with
      | true =>
          rw [Reconnect.resume, if_pos active]
      | false =>
          obtain ⟨rfl, isRound⟩ := orderly.eq_of_held holding active
          exact (other (isRound.trans newest.symm) rfl).elim

/-- A callback that misses keeps doing so when one gets behind its block. -/
theorem misses_moveTo
    {loop : Reconnect}
    {missed handler : Nat}
    {point : CallbackPoint}
    (past : Misses missed (loop.callbacks missed))
    (behind : handler = missed → Misses missed point) :
    Misses missed ((loop.moveTo handler point).callbacks missed) := by
  by_cases isMissed : missed = handler
  · subst handler
    simpa [Reconnect.moveTo] using behind rfl
  · simpa [Reconnect.moveTo, Function.update_of_ne isMissed] using past

theorem Missed.step
    {loop next : Reconnect}
    {missed : Nat}
    {action : ReconnectAction}
    (orderly : loop.Orderly)
    (isMissed : loop.Missed missed)
    (stepped : loop.step? action = some next) :
    next.Missed missed := by
  obtain ⟨newest, notOver, waits, past⟩ := isMissed
  cases moves_of_step? stepped with
  | connected connecting =>
      simp [connecting] at waits
  | installed connected =>
      exact ⟨newest, notOver, .inr rfl, past⟩
  | woken suspended resumed =>
      rw [← newest, notOver] at resumed
      cases resumed
  | retried delaying =>
      simp [delaying] at waits
  | reported notCalled hasConnected =>
      refine ⟨newest, notOver, waits, misses_moveTo past ?_⟩
      rintro rfl
      simp [notCalled, Misses] at past
  | read called =>
      refine ⟨newest, notOver, waits, misses_moveTo past ?_⟩
      rintro rfl
      simp [called, Misses] at past
  | @resumed handler cont holding =>
      have same : loop.resume cont = loop := by
        refine orderly.resume_eq_self newest holding ?_
        rintro rfl
        simpa [holding, Misses] using past
      rw [resume_moveTo, same]
      exact ⟨newest, notOver, waits, misses_moveTo past fun _ => trivial⟩
  | cleared behind =>
      exact ⟨newest, notOver, waits, misses_moveTo past fun _ => trivial⟩

/-- The steps that a missed handler and the loop still have to take. -/
def stepsToSleep (loop : Reconnect) (handler : Nat) : Nat :=
  (match loop.callbacks handler with
    | .resumed => 1
    | .returned => 0
    | _ => 2) +
  if loop.point = .connected then 1 else 0

/-- A missed handler and the loop get to where the loop sleeps forever. -/
theorem Missed.exists_sleepsOn
    {loop : Reconnect}
    {handler : Nat}
    (orderly : loop.Orderly)
    (missed : loop.Missed handler) :
    ∃ later final,
      StepRun.run? step? loop later = some final ∧
        (final.Orderly ∧ final.Missed handler) ∧
          final.callbacks handler = .returned ∧ final.SleepsOn handler := by
  refine StepRun.exists_run_of_progress (stepsToSleep · handler)
    (fun {state} holds awake => ?_) ⟨orderly, missed⟩
  obtain ⟨order, isMissed⟩ := holds
  have goesOn
      {action : ReconnectAction}
      {next : Reconnect}
      (stepped : state.step? action = some next)
      (smaller : next.stepsToSleep handler < state.stepsToSleep handler) :
      ∃ action next,
        state.step? action = some next ∧
          (next.Orderly ∧ next.Missed handler) ∧
            next.stepsToSleep handler < state.stepsToSleep handler :=
    ⟨action, next, stepped,
      ⟨order.step stepped, isMissed.step order stepped⟩, smaller⟩
  have past := isMissed.past
  cases point : state.callbacks handler with
  | holding cont =>
      rw [point] at past
      have same : state.resume cont = state :=
        order.resume_eq_self isMissed.newest point fun _ => past
      have stepped :
          state.step? (.callback handler) =
            some (state.moveTo handler .resumed) := by
        simp only [step?, callback?, point, resume_moveTo, same]
      refine goesOn stepped ?_
      simp only [stepsToSleep, Reconnect.moveTo, point, Function.update_self]
      exact Nat.add_lt_add_right (by decide) _
  | resumed =>
      have stepped :
          state.step? (.callback handler) =
            some ({ state with disconnectCont := none }.moveTo handler
              .returned) := by
        simp only [step?, callback?, point]
      refine goesOn stepped ?_
      simp only [stepsToSleep, Reconnect.moveTo, point, Function.update_self]
      exact Nat.add_lt_add_right (by decide) _
  | returned =>
      have connected : state.point = .connected := by
        refine isMissed.waits.resolve_right fun suspended => ?_
        exact awake ⟨point, isMissed.newest.symm, suspended,
          isMissed.notOver⟩
      have stepped :
          state.step? .install =
            some
              { state with
                point := .suspended, disconnectCont := some state.round } := by
        rw [step?, if_pos connected]
      refine goesOn stepped ?_
      simp [stepsToSleep, connected]
  | _ =>
      simp [point, Misses] at past

/--
A callback that finds anything but the continuation of its own round leaves
the loop where it may sleep on a handler that is done, and the wait for that
handler never ends.
-/
theorem sleeps_of_other
    {actions : List ReconnectAction}
    {loop next : Reconnect}
    {handler : Nat}
    (ran : StepRun.run? step? start actions = some loop)
    (called : loop.callbacks handler = .called)
    (other : loop.disconnectCont ≠ some handler)
    (stepped : loop.step? (.callback handler) = some next) :
    (∃ later final,
      StepRun.run? step? next later = some final ∧
        final.callbacks handler = .returned ∧ final.SleepsOn handler) ∧
      ∀ later final,
        StepRun.run? step? next later = some final →
          ¬ final.WaitOver handler := by
  have orderly := (orderly_of_run ran).step stepped
  have missed := (orderly_of_run ran).missed called other stepped
  constructor
  · obtain ⟨later, final, goesOn, -, returned, asleep⟩ :=
      missed.exists_sleepsOn orderly
    exact ⟨later, final, goesOn, returned, asleep⟩
  · intro later final goesOn isOver
    obtain ⟨finalOrderly, stillMissed⟩ :=
      StepRun.run?_invariant
        (motive := fun loop => loop.Orderly ∧ loop.Missed handler)
        ⟨orderly, missed⟩
        (fun holds stepped =>
          ⟨holds.1.step stepped, holds.2.step holds.1 stepped⟩)
        goesOn
    have resumed := finalOrderly.ended handler isOver
    simp [stillMissed.notOver] at resumed

end Reconnect

end Android

end ClipboardWire
