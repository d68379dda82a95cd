import ClipboardWire.ClientTransport
import ClipboardWire.FileTransfer

namespace ClipboardWire

open BoundedChannel

/-!
# The command that sends one file

`run_send_once` of `cli/src/main.rs`, together with the one-shot transport
task that it spawns.  The command queues the chunks of the file, drops the
receiving ends, and waits for the task; it returns what `send_file_through`
returned.  The main result says when the success of the command means that
every chunk was handed to the WebSocket.
-/

namespace Transport

/-- The chunk that the task is handing to the sink. -/
def inSink (transport : Transport) : List FileChunkFrame :=
  match transport.task with
  | .writing (.frame (.fileChunk chunk)) => [chunk]
  | .drainWriting chunk => [chunk]
  | _ => []

/-- Chunks that were queued and have not been handed over, oldest first. -/
def unwritten (transport : Transport) : List FileChunkFrame :=
  transport.inSink ++ transport.outboundFiles.buffer

/-- Chunks that the sink accepted, in order. -/
def handed (transport : Transport) : List FileChunkFrame :=
  transport.wire.filterMap Frame.fileChunk?

end Transport

/-- What `run_send_once` is awaiting. -/
inductive SendOnceTask where
  /-- Room for the next chunk of the file. -/
  | sending (chunk : FileChunkFrame) (rest : List FileChunkFrame)
  /-- Nothing: `send_file_through` has returned. -/
  | sent (result : Except String Unit)
  /-- The end of the transport task. -/
  | joining (result : Except String Unit)
  | returned (result : Except String Unit)

/-- The command and the transport task that it spawned. -/
structure SendOnce where
  task : SendOnceTask
  /-- What `send_file_through` returns once every chunk is queued. -/
  ending : Except String Unit
  transport : Transport

/-- Steps of the command or of its transport task. -/
inductive SendOnceAction where
  | transport (action : TransportAction)
  /-- One poll of the send in `send_file_through`. -/
  | sendChunk
  | dropReceivers
  | join
  deriving DecidableEq, Repr

namespace SendOnce

/-- Go on with the chunks that are left. -/
def proceed (command : SendOnce) : List FileChunkFrame → SendOnce
  | [] => { command with task := .sent command.ending }
  | chunk :: rest => { command with task := .sending chunk rest }

/--
Give up the receivers and wait for the task.  `let _ = transport.outbound_tx`
moves nothing, so the senders live on.  One step drops both receivers: of the
channel for files, a transport that was spawned here has none.
-/
def awaitTransport
    (command : SendOnce)
    (result : Except String Unit) : SendOnce :=
  { command with
    task := .joining result
    transport :=
      { command.transport with
        inbound := command.transport.inbound.dropReceiver
        inboundFiles :=
          command.transport.inboundFiles.map Channel.dropReceiver } }

/-- The command once the transport has been spawned. -/
def start (codec : Codec) (fileId : Uuid) (file : SourceFile) : SendOnce :=
  let sent := sendFileThrough codec fileId file
  { task := .sent sent.result
    ending := sent.result
    transport := Transport.spawn false true : SendOnce }.proceed sent.frames

/-- One step of the command or of its transport task. -/
def step? (command : SendOnce) : SendOnceAction → Option SendOnce
  | .transport action =>
      match command.transport.step? action with
      | none => none
      | some next => some { command with transport := next }
  | .sendChunk =>
      match command.task with
      | .sending chunk rest =>
          match command.transport.outboundFiles.pollSend chunk with
          | .sent files =>
              some
                ({ command with
                  transport :=
                    { command.transport with
                      outboundFiles := files } : SendOnce }.proceed rest)
          | .closed =>
              some
                { command with
                  task :=
                    .sent
                      (.error "transport's outbound-files channel closed") }
          | .pending =>
              none
      | _ =>
          none
  | .dropReceivers =>
      match command.task with
      | .sent result => some (command.awaitTransport result)
      | _ => none
  | .join =>
      match command.task with
      | .joining result =>
          if command.transport.task = .stopped then
            some { command with task := .returned result }
          else
            none
      | _ =>
          none

/-- Chunks that have not been queued yet. -/
def remaining (command : SendOnce) : List FileChunkFrame :=
  match command.task with
  | .sending chunk rest => chunk :: rest
  | _ => []

/-- The command has returned an error or is going to. -/
def Failed (command : SendOnce) : Prop :=
  ∃ reason,
    command.task = .sent (.error reason) ∨
      command.task = .joining (.error reason) ∨
        command.task = .returned (.error reason)

/--
The step does not end the transport task between the queueing of the last
chunk and the moment the sink has accepted it.
-/
def KeepsChunks (command : SendOnce) : SendOnceAction → Prop
  | .transport action =>
      command.remaining = [] →
        command.transport.Ends action →
          command.transport.unwritten = []
  | .sendChunk | .dropReceivers | .join =>
      True

/-- What one step of the command can do. -/
inductive Turns : SendOnce → SendOnceAction → SendOnce → Prop where
  | transport {command : SendOnce} {action : TransportAction}
      {next : Transport}
      (moved : Transport.Moves command.transport action next) :
      Turns command (.transport action) { command with transport := next }
  | chunkQueued {command : SendOnce} {chunk : FileChunkFrame}
      {rest : List FileChunkFrame}
      (task : command.task = .sending chunk rest)
      (alive : command.transport.outboundFiles.receiverAlive = true)
      (room : command.transport.outboundFiles.HasRoom) :
      Turns command .sendChunk
        ({ command with
          transport :=
            { command.transport with
              outboundFiles :=
                command.transport.outboundFiles.push chunk room } }.proceed
          rest)
  | chunkRefused {command : SendOnce} {chunk : FileChunkFrame}
      {rest : List FileChunkFrame}
      (task : command.task = .sending chunk rest)
      (gone : command.transport.outboundFiles.receiverAlive = false) :
      Turns command .sendChunk
        { command with
          task := .sent (.error "transport's outbound-files channel closed") }
  | receiversDropped {command : SendOnce} {result : Except String Unit}
      (task : command.task = .sent result) :
      Turns command .dropReceivers (command.awaitTransport result)
  | joined {command : SendOnce} {result : Except String Unit}
      (task : command.task = .joining result)
      (stopped : command.transport.task = .stopped) :
      Turns command .join { command with task := .returned result }

theorem turns_of_step?
    {command next : SendOnce}
    {action : SendOnceAction}
    (stepped : command.step? action = some next) :
    Turns command action next := by
  cases action with
  | transport action =>
      simp only [step?] at stepped
      cases moved : command.transport.step? action with
      | none =>
          simp [moved] at stepped
      | some after =>
          simp only [moved, Option.some.injEq] at stepped
          subst next
          exact .transport (Transport.moves_of_step? moved)
  | sendChunk =>
      simp only [step?] at stepped
      split at stepped
      · rename_i task
        split at stepped
        · rename_i sent
          cases stepped
          obtain ⟨room, alive, rfl⟩ := Channel.pollSend_eq_sent.mp sent
          exact .chunkQueued task alive room
        · rename_i closed
          cases stepped
          exact .chunkRefused task (Channel.pollSend_eq_closed.mp closed)
        · cases stepped
      · cases stepped
  | dropReceivers =>
      simp only [step?] at stepped
      split at stepped
      · rename_i task
        cases stepped
        exact .receiversDropped task
      · cases stepped
  | join =>
      simp only [step?] at stepped
      split at stepped
      · rename_i task
        split at stepped
        · rename_i stopped
          cases stepped
          exact .joined task stopped
        · cases stepped
      · cases stepped

end SendOnce

namespace Transport

/-- The chunks that were taken are those handed over and the one in the sink. -/
private theorem handed_append_unwritten_eq (transport : Transport) :
    transport.handed ++ transport.unwritten =
      transport.taken.filterMap Frame.fileChunk? ++
        transport.outboundFiles.buffer := by
  have held :
      transport.writing.filterMap Frame.fileChunk? = transport.inSink := by
    unfold writing inSink
    cases transport.task with
    | writing message =>
        cases message with
        | ping => rfl
        | frame frame => cases frame <;> rfl
    | _ => rfl
  simp only [handed, unwritten, taken, List.filterMap_append, held,
    List.append_assoc]

private theorem inCall_of_moves
    {transport next : Transport}
    {action : TransportAction}
    (oneShot : transport.oneShot = true)
    (moved : Moves transport action next)
    (running : next.task ≠ .stopped) :
    next.InCall := by
  refine ⟨?_, running⟩
  cases moved with
  | ended ends =>
      rw [endConnection_of_oneShot oneShot] at running
      exact (running rfl).elim
  | ignored task noClip stays =>
      simp [task]
  | _ =>
      simp

private theorem handed_append_unwritten_of_moves
    {transport next : Transport}
    {action : TransportAction}
    (oneShot : transport.oneShot = true)
    (moved : Moves transport action next)
    (running : next.task ≠ .stopped) :
    next.handed ++ next.unwritten =
      transport.handed ++ transport.unwritten := by
  have inCall := inCall_of_moves oneShot moved running
  rw [handed_append_unwritten_eq, handed_append_unwritten_eq]
  exact (moved.taken_append_queued inCall).2

/-- A move changes neither the kind of the task nor who holds its queue. -/
private theorem outboundFiles_of_moves
    {transport next : Transport}
    {action : TransportAction}
    (oneShot : transport.oneShot = true)
    (moved : Moves transport action next) :
    next.oneShot = true ∧
      next.outboundFiles.receiverAlive =
        (if next.task = .stopped then
          false
        else
          transport.outboundFiles.receiverAlive) := by
  have running := moved.task_ne_stopped
  cases moved with
  | ended ends =>
      rw [endConnection_of_oneShot oneShot]
      exact ⟨oneShot, rfl⟩
  | ignored task noClip stays =>
      exact ⟨oneShot, by rw [if_neg running]⟩
  | _ =>
      exact ⟨oneShot, rfl⟩

end Transport

namespace SendOnce

open Transport (Moves endConnection_of_oneShot)

/--
While the transport task is running, every chunk of the file was accepted by
the sink, is on its way, or has not been queued yet.
-/
structure Accounted
    (frames : List FileChunkFrame)
    (command : SendOnce) : Prop where
  oneShot : command.transport.oneShot = true
  receiver :
    command.transport.outboundFiles.receiverAlive =
      !decide (command.transport.task = .stopped)
  total :
    command.transport.task ≠ .stopped →
      command.transport.handed ++ command.transport.unwritten ++
          command.remaining =
        frames
  joined :
    ∀ result,
      command.task = .returned result →
        command.transport.task = .stopped

/-- Going on with the chunks that are left leaves the transport running. -/
private theorem proceed_facts
    (command : SendOnce)
    (rest : List FileChunkFrame) :
    (command.proceed rest).remaining = rest ∧
      (command.proceed rest).transport.task = command.transport.task ∧
      (command.proceed rest).transport.oneShot =
        command.transport.oneShot ∧
      (command.proceed rest).transport.outboundFiles =
        command.transport.outboundFiles ∧
      (command.proceed rest).transport.wire = command.transport.wire ∧
      ∀ result, (command.proceed rest).task ≠ .returned result := by
  cases rest with
  | nil =>
      refine ⟨rfl, rfl, rfl, rfl, rfl, ?_⟩
      intro result returned
      cases returned
  | cons chunk rest =>
      refine ⟨rfl, rfl, rfl, rfl, rfl, ?_⟩
      intro result returned
      cases returned

private theorem accounted_start
    (codec : Codec)
    (fileId : Uuid)
    (file : SourceFile) :
    Accounted (sendFileThrough codec fileId file).frames
      (start codec fileId file) := by
  simp only [start]
  obtain ⟨remaining, sameTask, sameKind, sameQueue, sameWire, waits⟩ :=
    proceed_facts
      { task := .sent (sendFileThrough codec fileId file).result
        ending := (sendFileThrough codec fileId file).result
        transport := Transport.spawn false true }
      (sendFileThrough codec fileId file).frames
  refine ⟨sameKind, ?_, ?_, ?_⟩
  · rw [sameQueue, sameTask]
    rfl
  · intro _
    rw [remaining]
    simp only [Transport.handed, Transport.unwritten, Transport.inSink,
      sameWire, sameQueue, sameTask]
    rfl
  · intro result returned
    exact (waits result returned).elim

private theorem Accounted.transport
    {frames : List FileChunkFrame}
    {command : SendOnce}
    {action : TransportAction}
    {next : Transport}
    (accounted : Accounted frames command)
    (moved : Moves command.transport action next) :
    Accounted frames { command with transport := next } := by
  have wasRunning := moved.task_ne_stopped
  obtain ⟨oneShot, receiver⟩ :=
    Transport.outboundFiles_of_moves accounted.oneShot moved
  refine ⟨oneShot, ?_, ?_, ?_⟩
  · have before := accounted.receiver
    by_cases stopped : next.task = .stopped
    · simp [receiver, stopped]
    · simp [receiver, stopped, before, wasRunning]
  · intro running
    have kept :=
      Transport.handed_append_unwritten_of_moves
        accounted.oneShot moved running
    have total := accounted.total wasRunning
    rw [← total, ← kept]
    rfl
  · intro result returned
    exact (wasRunning (accounted.joined result returned)).elim

private theorem Accounted.chunkQueued
    {frames : List FileChunkFrame}
    {command : SendOnce}
    {chunk : FileChunkFrame}
    {rest : List FileChunkFrame}
    (accounted : Accounted frames command)
    (task : command.task = .sending chunk rest)
    (running : command.transport.task ≠ .stopped)
    (room : command.transport.outboundFiles.HasRoom) :
    Accounted frames
      ({ command with
        transport :=
          { command.transport with
            outboundFiles :=
              command.transport.outboundFiles.push chunk room } }.proceed
        rest) := by
  obtain ⟨remaining, sameTask, sameKind, sameQueue, sameWire, waits⟩ :=
    proceed_facts
      { command with
        transport :=
          { command.transport with
            outboundFiles :=
              command.transport.outboundFiles.push chunk room } }
      rest
  refine ⟨sameKind.trans accounted.oneShot, ?_, ?_, ?_⟩
  · rw [sameQueue, sameTask]
    exact accounted.receiver
  · intro _
    have total := accounted.total running
    simp only [Transport.handed, Transport.unwritten, Transport.inSink,
      SendOnce.remaining, task] at total
    rw [remaining, ← total]
    simp only [Transport.handed, Transport.unwritten, Transport.inSink,
      sameWire, sameQueue, sameTask, Channel.buffer_push,
      List.append_assoc, List.singleton_append]
  · intro result returned
    exact (waits result returned).elim

private theorem Accounted.stopped_iff
    {frames : List FileChunkFrame}
    {command : SendOnce}
    (accounted : Accounted frames command) :
    command.transport.task = .stopped ↔
      command.transport.outboundFiles.receiverAlive = false := by
  simp [accounted.receiver]

private theorem Accounted.step
    {frames : List FileChunkFrame}
    {command next : SendOnce}
    {action : SendOnceAction}
    (accounted : Accounted frames command)
    (stepped : command.step? action = some next) :
    Accounted frames next := by
  cases turns_of_step? stepped with
  | transport moved =>
      exact accounted.transport moved
  | chunkQueued task alive room =>
      have running : command.transport.task ≠ .stopped := by
        intro stopped
        rw [accounted.stopped_iff, alive] at stopped
        cases stopped
      exact accounted.chunkQueued task running room
  | chunkRefused task gone =>
      have stopped := accounted.stopped_iff.mpr gone
      refine ⟨accounted.oneShot, accounted.receiver,
        fun running => (running stopped).elim, ?_⟩
      intro result returned
      cases returned
  | receiversDropped task =>
      refine ⟨accounted.oneShot, accounted.receiver, ?_, ?_⟩
      · intro running
        have total := accounted.total running
        rw [remaining, task] at total
        exact total
      · intro result returned
        cases returned
  | joined task stopped =>
      exact ⟨accounted.oneShot, accounted.receiver,
        fun running => (running stopped).elim, fun _ _ => stopped⟩

theorem accounted_of_run
    {codec : Codec}
    {fileId : Uuid}
    {file : SourceFile}
    {actions : List SendOnceAction}
    {command : SendOnce}
    (ran :
      StepRun.run? step? (start codec fileId file) actions = some command) :
    Accounted (sendFileThrough codec fileId file).frames command :=
  StepRun.run?_invariant
    (accounted_start codec fileId file)
    (fun accounted stepped => accounted.step stepped)
    ran

/-- After the end of the transport task, nothing more is handed over. -/
private theorem handed_of_stopped
    {command final : SendOnce}
    {actions : List SendOnceAction}
    (stopped : command.transport.task = .stopped)
    (ran : StepRun.run? step? command actions = some final) :
    final.transport.handed = command.transport.handed := by
  have invariant :
      final.transport.task = .stopped ∧
        final.transport.handed = command.transport.handed := by
    apply StepRun.run?_invariant
      (motive := fun state =>
        state.transport.task = .stopped ∧
          state.transport.handed = command.transport.handed)
      ⟨stopped, rfl⟩ _ ran
    rintro state action next ⟨stopped, same⟩ stepped
    cases turns_of_step? stepped with
    | transport moved =>
        exact (moved.task_ne_stopped stopped).elim
    | @chunkQueued chunk rest task alive room =>
        obtain ⟨-, sameTask, -, -, sameWire, -⟩ :=
          proceed_facts
            { state with
              transport :=
                { state.transport with
                  outboundFiles :=
                    state.transport.outboundFiles.push chunk room } }
            rest
        refine ⟨sameTask.trans stopped, ?_⟩
        rw [← same]
        simp only [Transport.handed, sameWire]
    | chunkRefused task gone =>
        exact ⟨stopped, same⟩
    | receiversDropped task =>
        exact ⟨stopped, same⟩
    | joined task _ =>
        exact ⟨stopped, same⟩
  exact invariant.2

/--
Once the transport task has ended, either every chunk was handed over, or the
command fails: now, or with the next chunk that it wants to queue.
-/
def Settled (frames : List FileChunkFrame) (command : SendOnce) : Prop :=
  command.transport.task = .stopped →
    command.transport.handed = frames ∨
      command.remaining ≠ [] ∨
        command.Failed

private theorem Settled.step
    {frames : List FileChunkFrame}
    {command next : SendOnce}
    {action : SendOnceAction}
    (accounted : Accounted frames command)
    (settled : Settled frames command)
    (keeps : command.KeepsChunks action)
    (stepped : command.step? action = some next) :
    Settled frames next := by
  intro stopped
  cases turns_of_step? stepped with
  | transport moved =>
      have running := moved.task_ne_stopped
      by_cases left : command.remaining = []
      · left
        have ends : command.transport.Ends _ := moved.ends_of_stopped stopped
        have total := accounted.total running
        rw [keeps left ends, left, List.append_nil, List.append_nil] at total
        rw [moved.eq_endConnection ends,
          endConnection_of_oneShot accounted.oneShot]
        exact total
      · exact .inr (.inl left)
  | @chunkQueued chunk rest task alive room =>
      -- the queue has a receiver, so the task is running
      obtain ⟨-, sameTask, -⟩ :=
        proceed_facts
          { command with
            transport :=
              { command.transport with
                outboundFiles :=
                  command.transport.outboundFiles.push chunk room } }
          rest
      have gone := accounted.stopped_iff.mp (sameTask.symm.trans stopped)
      rw [alive] at gone
      cases gone
  | chunkRefused task gone =>
      exact .inr (.inr ⟨_, .inl rfl⟩)
  | receiversDropped task =>
      rcases settled stopped with done | left | ⟨reason, failed⟩
      · exact .inl done
      · simp [SendOnce.remaining, task] at left
      · simp only [task, SendOnceTask.sent.injEq, reduceCtorEq,
          or_false] at failed
        subst failed
        exact .inr (.inr ⟨reason, .inr (.inl rfl)⟩)
  | joined task wasStopped =>
      rcases settled wasStopped with done | left | ⟨reason, failed⟩
      · exact .inl done
      · simp [SendOnce.remaining, task] at left
      · simp only [task, SendOnceTask.joining.injEq, reduceCtorEq,
          or_false, false_or] at failed
        subst failed
        exact .inr (.inr ⟨reason, .inr (.inr rfl)⟩)

/--
When the command has returned successfully, every chunk of the file was
handed to the WebSocket, in order, exactly if no step ended the transport task
while a queued chunk had not been accepted yet.
-/
theorem handed_iff
    {codec : Codec}
    {fileId : Uuid}
    {file : SourceFile}
    {actions : List SendOnceAction}
    {final : SendOnce}
    (ran :
      StepRun.run? step? (start codec fileId file) actions = some final)
    (ok : final.task = .returned (.ok ())) :
    final.transport.handed = (sendFileThrough codec fileId file).frames ↔
      StepRun.Along step? KeepsChunks (start codec fileId file) actions := by
  constructor
  · intro complete
    apply StepRun.Along.intro
    intro past action state within earlier
    cases action with
    | sendChunk =>
        trivial
    | dropReceivers =>
        trivial
    | join =>
        trivial
    | transport action =>
        intro left ends
        rcases within with ⟨later, rfl⟩
        obtain ⟨next, upTo, rest⟩ := StepRun.run?_append_eq_some.mp ran
        obtain ⟨middle, same, stepped⟩ := StepRun.run?_snoc_eq_some.mp upTo
        rw [earlier, Option.some.injEq] at same
        subst middle
        have accounted := accounted_of_run earlier
        cases turns_of_step? stepped with
        | @transport _ after moved =>
            have isStop : after = state.transport.stop := by
              rw [moved.eq_endConnection ends,
                endConnection_of_oneShot accounted.oneShot]
            have handed : final.transport.handed = state.transport.handed := by
              rw [handed_of_stopped (by rw [isStop]; rfl) rest, isStop]
              rfl
            have total := accounted.total moved.task_ne_stopped
            rw [left, List.append_nil, ← complete, handed] at total
            simpa using total
  · intro keeps
    have settled :
        Settled (sendFileThrough codec fileId file).frames final := by
      apply StepRun.run?_history
        (motive := fun _ state =>
          Settled (sendFileThrough codec fileId file).frames state)
        _ _ ran
      · intro stopped
        simp only [start] at stopped
        obtain ⟨-, sameTask, -⟩ :=
          proceed_facts
            { task := .sent (sendFileThrough codec fileId file).result
              ending := (sendFileThrough codec fileId file).result
              transport := Transport.spawn false true }
            (sendFileThrough codec fileId file).frames
        rw [sameTask] at stopped
        cases stopped
      · intro past state action next within earlier settled stepped
        exact settled.step (accounted_of_run earlier)
          (keeps.meets within earlier) stepped
    have stopped := (accounted_of_run ran).joined _ ok
    rcases settled stopped with complete | left | failed
    · exact complete
    · simp [SendOnce.remaining, ok] at left
    · obtain ⟨reason, failed⟩ := failed
      simp [ok] at failed

/-- A welcome without a cached clip. -/
def sampleWelcome : WelcomeFrame where
  server := protocolVersion
  clientId := ⟨1⟩
  lastClip := none

/-- A run in which the only chunk is written before the server closes. -/
def flushedRun : List SendOnceAction :=
  [.sendChunk,
    .dropReceivers,
    .transport (.connect true),
    .transport (.receive (.text (some (.welcome sampleWelcome)))),
    .transport .takeChunk,
    .transport (.write true),
    .transport (.receive .close),
    .join]

/-- The command that sends the sample file, before its first step. -/
def sampleStart : SendOnce :=
  start ReceiverState.sampleCodec ⟨9⟩ ReceiverState.sampleFile

/-- The command after the run in which everything is written. -/
def flushedCommand : SendOnce :=
  (StepRun.run? step? sampleStart flushedRun).getD sampleStart

/-- A successful command whose chunk was written. -/
theorem handed_iff_sample :
    flushedCommand.transport.handed = ReceiverState.sampleFrames ↔
      StepRun.Along step? KeepsChunks sampleStart flushedRun :=
  handed_iff
    (show StepRun.run? step? sampleStart flushedRun = some flushedCommand
      from rfl)
    rfl

/-- A run in which the server cannot be reached. -/
def unreachableRun : List SendOnceAction :=
  [.sendChunk, .dropReceivers, .transport (.connect false), .join]

/-- The command succeeds although its file never left the machine. -/
theorem unreachable_server_reports_success :
    ∃ final,
      StepRun.run? step? sampleStart unreachableRun = some final ∧
        final.task = .returned (.ok ()) ∧
          final.transport.handed = [] ∧
            ReceiverState.sampleFrames ≠ [] :=
  ⟨_, rfl, rfl, rfl, by decide⟩

end SendOnce

end ClipboardWire
