import ClipboardWire.SendOnce

namespace ClipboardWire

open BoundedChannel

/-!
# Waiting for the transport of one file

`run_send_once` ends by awaiting the transport task.  The comment there says
that the senders are dropped first, but `let _ = transport.outbound_tx` binds
nothing and leaves the field where it is, so both senders live until the
function returns.  The select loop then has no arm that ends it unless
something arrives or a write fails.
-/

namespace Transport

/-- The holder of the handle still has both senders. -/
def SendersAlive (transport : Transport) : Prop :=
  transport.outbound.sendersAlive = true ∧
    transport.outboundFiles.sendersAlive = true

/-- The connection is up, and no frame from the hub is being handled. -/
def UpAndIdle (transport : Transport) : Prop :=
  match transport.task with
  | .awaitingWelcome | .surfacing _ | .serving | .writing _
  | .draining | .drainWriting _ =>
      True
  | .connecting | .forwardingClip _ | .forwardingChunk _ | .sleeping
  | .stopped =>
      False

/-- Nothing arrives from the hub, and the sink accepts what it is given. -/
def Quiet : TransportAction → Prop
  | .receive _ => False
  | .write succeeds => succeeds = true
  | .connect _ | .forward | .takeClip | .takeChunk | .ping | .wake => True

theorem SendersAlive.moves
    {transport next : Transport}
    {action : TransportAction}
    (alive : transport.SendersAlive)
    (moved : Moves transport action next) :
    next.SendersAlive := by
  cases moved with
  | ended ends =>
      rcases transport.endConnection_eq with stopped | ⟨-, sleeping⟩
      · rw [stopped]
        exact alive
      · rw [sleeping]
        exact alive
  | _ => exact alive

theorem UpAndIdle.moves
    {transport next : Transport}
    {action : TransportAction}
    (idle : transport.UpAndIdle)
    (alive : transport.SendersAlive)
    (quiet : Quiet action)
    (moved : Moves transport action next) :
    next.UpAndIdle := by
  cases moved with
  | ended ends =>
      cases action with
      | connect succeeds =>
          simp [UpAndIdle, ends.1] at idle
      | receive message =>
          cases quiet
      | forward =>
          rcases ends with ⟨clip, task, -⟩ | ⟨chunk, files, task, -⟩
          · simp [UpAndIdle, task] at idle
          · simp [UpAndIdle, task] at idle
      | takeChunk =>
          have gone := ends.2.2
          rw [alive.2] at gone
          cases gone
      | write succeeds =>
          cases quiet.symm.trans ends.2
      | takeClip => cases ends
      | ping => cases ends
      | wake => cases ends
  | woke task =>
      simp [UpAndIdle, task] at idle
  | clipArrived task => cases quiet
  | chunkArrived task wired => cases quiet
  | ignored task noClip stays => exact idle
  | _ => trivial

end Transport

namespace SendOnce

/-- `run_send_once` has given up its senders. -/
def SendersDropped (command : SendOnce) : Prop :=
  command.transport.outbound.sendersAlive = false ∧
    command.transport.outboundFiles.sendersAlive = false

/-- A step in which nothing arrives and no write fails. -/
def Quiet : SendOnceAction → Prop
  | .transport action => Transport.Quiet action
  | .sendChunk | .dropReceivers | .join => True

/--
The senders are gone, and the command returns without anything that arrives.
-/
def CanFinish (command : SendOnce) : Prop :=
  command.SendersDropped ∧
    ∃ later final result,
      (∀ action ∈ later, Quiet action) ∧
        StepRun.run? step? command later = some final ∧
          final.task = .returned result

/-- Going on with the chunks that are left drops no sender. -/
theorem sendersAlive_proceed
    {command : SendOnce}
    (alive : command.transport.SendersAlive)
    (rest : List FileChunkFrame) :
    (command.proceed rest).transport.SendersAlive := by
  cases rest with
  | nil => exact alive
  | cons chunk rest => exact alive

theorem sendersAlive_step
    {command next : SendOnce}
    {action : SendOnceAction}
    (alive : command.transport.SendersAlive)
    (stepped : command.step? action = some next) :
    next.transport.SendersAlive := by
  cases turns_of_step? stepped with
  | transport moved =>
      exact alive.moves moved
  | @chunkQueued chunk rest task receiver room =>
      let queued : SendOnce :=
        { command with
          transport :=
            { command.transport with
              outboundFiles :=
                command.transport.outboundFiles.push chunk room } }
      have stillAlive : queued.transport.SendersAlive := alive
      exact sendersAlive_proceed stillAlive rest
  | chunkRefused task gone =>
      exact alive
  | receiversDropped task =>
      exact alive
  | joined task stopped =>
      exact alive

theorem sendersAlive_of_run
    {codec : Codec}
    {fileId : Uuid}
    {file : SourceFile}
    {actions : List SendOnceAction}
    {command : SendOnce}
    (ran :
      StepRun.run? step? (start codec fileId file) actions = some command) :
    command.transport.SendersAlive :=
  StepRun.run?_invariant (motive := fun state => state.transport.SendersAlive)
    (sendersAlive_proceed ⟨rfl, rfl⟩ _) sendersAlive_step ran

/-- The command waits for a transport that has no reason to end. -/
structure Stuck (result : Except String Unit) (command : SendOnce) : Prop where
  task : command.task = .joining result
  idle : command.transport.UpAndIdle
  alive : command.transport.SendersAlive

theorem Stuck.step
    {result : Except String Unit}
    {command next : SendOnce}
    {action : SendOnceAction}
    (stuck : Stuck result command)
    (quiet : Quiet action)
    (stepped : command.step? action = some next) :
    Stuck result next := by
  have alive := sendersAlive_step stuck.alive stepped
  have idle := stuck.idle
  cases turns_of_step? stepped with
  | transport moved =>
      exact ⟨stuck.task, idle.moves stuck.alive quiet moved, alive⟩
  | chunkQueued task receiver room =>
      rw [stuck.task] at task
      cases task
  | chunkRefused task gone =>
      rw [stuck.task] at task
      cases task
  | receiversDropped task =>
      rw [stuck.task] at task
      cases task
  | joined task stopped =>
      simp [Transport.UpAndIdle, stopped] at idle

theorem Stuck.run
    {result : Except String Unit}
    {command final : SendOnce}
    {later : List SendOnceAction}
    (stuck : Stuck result command)
    (quiet : ∀ action ∈ later, Quiet action)
    (ran : StepRun.run? step? command later = some final) :
    Stuck result final := by
  apply StepRun.run?_history (motive := fun _ state => Stuck result state)
    stuck _ ran
  intro past state action next within _ holds stepped
  exact holds.step (quiet action (within.subset (by simp))) stepped

/--
Whenever `run_send_once` waits for a transport whose connection is up and
idle, both senders are alive and, unless something arrives or a write fails,
it waits forever.
-/
theorem never_finishes
    {codec : Codec}
    {fileId : Uuid}
    {file : SourceFile}
    {actions : List SendOnceAction}
    {command : SendOnce}
    {result : Except String Unit}
    (ran :
      StepRun.run? step? (start codec fileId file) actions = some command)
    (waits : command.task = .joining result)
    (idle : command.transport.UpAndIdle) :
    ¬ command.SendersDropped ∧
      ∀ later final,
        (∀ action ∈ later, Quiet action) →
          StepRun.run? step? command later = some final →
            final.task = .joining result := by
  have alive := sendersAlive_of_run ran
  constructor
  · rintro ⟨gone, -⟩
    rw [alive.1] at gone
    cases gone
  · intro later final quiet goesOn
    have stuck : Stuck result command := ⟨waits, idle, alive⟩
    exact (stuck.run quiet goesOn).task

/-- The only chunk has been written, and nothing more happens. -/
def writtenRun : List SendOnceAction :=
  flushedRun.take 6

/-- The command after that. -/
def writtenCommand : SendOnce :=
  (StepRun.run? step? sampleStart writtenRun).getD sampleStart

/-- The command that has written its only chunk waits forever. -/
theorem writtenCommand_never_finishes :
    ¬ writtenCommand.SendersDropped ∧
      ∀ later final,
        (∀ action ∈ later, Quiet action) →
          StepRun.run? step? writtenCommand later = some final →
            final.task = .joining (.ok ()) :=
  never_finishes
    (show StepRun.run? step? sampleStart writtenRun = some writtenCommand
      from rfl)
    rfl trivial

/-- A command that waits cannot always finish. -/
theorem writtenCommand_not_canFinish :
    ¬ ∀ (codec : Codec) (fileId : Uuid) (file : SourceFile)
        (actions : List SendOnceAction) (command : SendOnce)
        (result : Except String Unit),
        StepRun.run? step? (start codec fileId file) actions = some command →
          command.task = .joining result →
            command.transport.UpAndIdle →
              command.CanFinish := by
  intro always
  have dropped :=
    (always ReceiverState.sampleCodec ⟨9⟩ ReceiverState.sampleFile
      writtenRun writtenCommand (.ok ()) rfl rfl trivial).1
  cases dropped.1

end SendOnce

end ClipboardWire
