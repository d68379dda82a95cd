import ClipboardWire.BoundedChannel
import ClipboardWire.Protocol

namespace ClipboardWire

open BoundedChannel

/-!
# The transport task of a client

`run_loop`, `connect_and_serve` and `drain_outbound_files` of
`core/src/client/transport.rs`.  The task owns one end of up to four bounded
channels; the holder of the `Transport` handle owns the other ends.  A state
of the task says what it is awaiting, and every action is one completion: the
network answers, a queue has something or has room again, a timer fires.

`select!` may take any arm that is ready, so the arms of the serving loop are
separate actions, and the arm that has been taken is completed before the
next one: while the task awaits a send, none of the other arms runs.
-/

/-- `INBOUND_BUF`. -/
def inboundBuf : Nat :=
  32

/-- `OUTBOUND_BUF`. -/
def outboundBuf : Nat :=
  8

/-- `INBOUND_FILES_BUF`. -/
def inboundFilesBuf : Nat :=
  4

/-- `OUTBOUND_FILES_BUF`. -/
def outboundFilesBuf : Nat :=
  4

/-- What one poll of the read half of the WebSocket yields. -/
inductive Incoming where
  /-- A text message, with the frame it parses to. -/
  | text (parsed : Option Frame)
  | binary
  | pingPong
  | close
  | other
  | failed
  | ended
  deriving DecidableEq, Repr

/-- What is handed to the sink. -/
inductive Outgoing where
  | frame (frame : Frame)
  | ping
  deriving DecidableEq, Repr

/-- The frame in an outgoing message. -/
def Outgoing.frame? : Outgoing → Option Frame
  | .frame sent => some sent
  | .ping => none

/-- `ClientStatus`, which `status_tx` carries to the tray. -/
inductive ClientStatus where
  | connecting
  | connected
  | disconnected (willRetryIn : Nat)
  deriving DecidableEq, Repr

/-- What the task is awaiting. -/
inductive TransportTask where
  | connecting
  | awaitingWelcome
  /-- `inbound_tx.send` of the clip that the welcome carried. -/
  | surfacing (clip : ClipFrame)
  /-- The `select!` of the serving loop. -/
  | serving
  /-- `inbound_tx.send` inside the receiving arm. -/
  | forwardingClip (clip : ClipFrame)
  /-- `inbound_files_tx.send` inside the receiving arm. -/
  | forwardingChunk (chunk : FileChunkFrame)
  /-- `sink.send` inside one of the sending arms. -/
  | writing (message : Outgoing)
  /-- `outbound_files_rx.recv` of `drain_outbound_files`. -/
  | draining
  /-- `sink.send` of `drain_outbound_files`. -/
  | drainWriting (chunk : FileChunkFrame)
  /-- The backoff between two connections. -/
  | sleeping
  | stopped
  deriving DecidableEq, Repr

/-- The transport task, its channels, and a record of its traffic. -/
structure Transport where
  task : TransportTask
  oneShot : Bool
  inbound : Channel ClipFrame
  inboundFiles : Option (Channel FileChunkFrame)
  outbound : Channel ClipFrame
  outboundFiles : Channel FileChunkFrame
  /-- Every clip that arrived, in a welcome or in a frame of its own. -/
  received : List ClipFrame
  /-- Every frame that the sink accepted. -/
  wire : List Frame
  deriving DecidableEq, Repr

/-- One completion of what the task awaits. -/
inductive TransportAction where
  | connect (succeeds : Bool)
  | receive (message : Incoming)
  | forward
  | takeClip
  | takeChunk
  | ping
  | write (succeeds : Bool)
  | wake
  deriving DecidableEq, Repr

namespace Transport

/-- `spawn_with_options`. -/
def spawn (receiveFiles oneShot : Bool) : Transport where
  task := .connecting
  oneShot := oneShot
  inbound := Channel.withCapacity inboundBuf
  inboundFiles :=
    if receiveFiles then
      some (Channel.withCapacity inboundFilesBuf)
    else
      none
  outbound := Channel.withCapacity outboundBuf
  outboundFiles := Channel.withCapacity outboundFilesBuf
  received := []
  wire := []

/-- `run_loop` returns and drops the task's ends of the channels. -/
def stop (transport : Transport) : Transport :=
  { transport with
    task := .stopped
    inbound := transport.inbound.dropSenders
    inboundFiles := transport.inboundFiles.map Channel.dropSenders
    outbound := transport.outbound.dropReceiver
    outboundFiles := transport.outboundFiles.dropReceiver }

/--
`connect_and_serve` has returned: a one-shot task ends, and so does a task
whose handle is gone; any other one waits and connects again.
-/
def endConnection (transport : Transport) : Transport :=
  if transport.oneShot then
    transport.stop
  else if transport.outbound.sendersAlive then
    { transport with task := .sleeping }
  else
    transport.stop

/-- The first message of a connection must be a welcome. -/
def handleFirst (transport : Transport) : Incoming → Transport
  | .text (some (.welcome welcome)) =>
      match welcome.lastClip with
      | some clip =>
          { transport with
            task := .surfacing clip
            received := transport.received ++ [clip] }
      | none =>
          { transport with task := .serving }
  | _ =>
      transport.endConnection

/-- The receiving arm of the serving loop. -/
def handleIncoming (transport : Transport) : Incoming → Transport
  | .text (some (.clip clip)) =>
      { transport with
        task := .forwardingClip clip
        received := transport.received ++ [clip] }
  | .text (some (.fileChunk chunk)) =>
      match transport.inboundFiles with
      | some _ => { transport with task := .forwardingChunk chunk }
      | none => transport
  -- rejected or unexpected text, server errors and the other messages
  | .text (some (.error _)) | .text (some (.welcome _)) | .text none
  | .binary | .pingPong | .other =>
      transport
  | .close | .failed | .ended =>
      transport.endConnection

/-- One poll of the send that the task awaits. -/
def forward? (transport : Transport) : Option Transport :=
  match transport.task with
  | .surfacing clip =>
      match transport.inbound.pollSend clip with
      | .sent inbound =>
          some { transport with task := .serving, inbound := inbound }
      -- `let _ =`: a closed channel does not end the connection here
      | .closed =>
          some { transport with task := .serving }
      | .pending =>
          none
  | .forwardingClip clip =>
      match transport.inbound.pollSend clip with
      | .sent inbound =>
          some { transport with task := .serving, inbound := inbound }
      | .closed =>
          some transport.endConnection
      | .pending =>
          none
  | .forwardingChunk chunk =>
      match transport.inboundFiles with
      | none =>
          none
      | some files =>
          match files.pollSend chunk with
          | .sent files =>
              some
                { transport with
                  task := .serving
                  inboundFiles := some files }
          | .closed =>
              some transport.endConnection
          | .pending =>
              none
  | _ =>
      none

/-- One poll of `outbound_rx` in the serving loop. -/
def takeClip? (transport : Transport) : Option Transport :=
  match transport.task with
  | .serving =>
      match transport.outbound.pollRecv with
      | .received clip outbound =>
          some
            { transport with
              task := .writing (.frame (.clip clip))
              outbound := outbound }
      | .pending =>
          none
      | .disconnected =>
          some { transport with task := .draining }
  | _ =>
      none

/-- One poll of `outbound_files_rx`, in the serving loop or while draining. -/
def takeChunk? (transport : Transport) : Option Transport :=
  match transport.task with
  | .serving =>
      match transport.outboundFiles.pollRecv with
      | .received chunk files =>
          some
            { transport with
              task := .writing (.frame (.fileChunk chunk))
              outboundFiles := files }
      | .pending =>
          none
      | .disconnected =>
          some transport.endConnection
  | .draining =>
      match transport.outboundFiles.pollRecv with
      | .received chunk files =>
          some
            { transport with
              task := .drainWriting chunk
              outboundFiles := files }
      | .pending =>
          none
      | .disconnected =>
          some transport.endConnection
  | _ =>
      none

/-- The sink answers. -/
def write? (transport : Transport) (succeeds : Bool) : Option Transport :=
  match transport.task with
  | .writing message =>
      if succeeds then
        some
          { transport with
            task := .serving
            wire := transport.wire ++ message.frame?.toList }
      else
        some transport.endConnection
  | .drainWriting chunk =>
      if succeeds then
        some
          { transport with
            task := .draining
            wire := transport.wire ++ [.fileChunk chunk] }
      else
        some transport.endConnection
  | _ =>
      none

/-- One step of the transport task. -/
def step? (transport : Transport) : TransportAction → Option Transport
  | .connect succeeds =>
      match transport.task with
      | .connecting =>
          if succeeds then
            some { transport with task := .awaitingWelcome }
          else
            some transport.endConnection
      | _ =>
          none
  | .receive message =>
      match transport.task with
      | .awaitingWelcome => some (transport.handleFirst message)
      | .serving => some (transport.handleIncoming message)
      | _ => none
  | .forward =>
      transport.forward?
  | .takeClip =>
      transport.takeClip?
  | .takeChunk =>
      transport.takeChunk?
  | .ping =>
      match transport.task with
      | .serving => some { transport with task := .writing .ping }
      | _ => none
  | .write succeeds =>
      transport.write? succeeds
  | .wake =>
      match transport.task with
      | .sleeping => some { transport with task := .connecting }
      | _ => none

/-- A first message other than a welcome ends the connection. -/
def IsWelcome : Incoming → Prop
  | .text (some (.welcome _)) => True
  | _ => False

/-- Messages that end the serving loop. -/
def EndsStream : Incoming → Prop
  | .close | .failed | .ended => True
  | _ => False

/-- The actions with which `connect_and_serve` returns. -/
def Ends (transport : Transport) : TransportAction → Prop
  | .connect succeeds =>
      transport.task = .connecting ∧ succeeds = false
  | .receive message =>
      (transport.task = .awaitingWelcome ∧ ¬ IsWelcome message) ∨
        (transport.task = .serving ∧ EndsStream message)
  | .forward =>
      (∃ clip,
        transport.task = .forwardingClip clip ∧
          transport.inbound.receiverAlive = false) ∨
        ∃ chunk files,
          transport.task = .forwardingChunk chunk ∧
            transport.inboundFiles = some files ∧
              files.receiverAlive = false
  | .takeChunk =>
      (transport.task = .serving ∨ transport.task = .draining) ∧
        transport.outboundFiles.buffer = [] ∧
          transport.outboundFiles.sendersAlive = false
  | .write succeeds =>
      ((∃ message, transport.task = .writing message) ∨
        ∃ chunk, transport.task = .drainWriting chunk) ∧
        succeeds = false
  | .takeClip | .ping | .wake =>
      False

/-- What one step of the transport can do. -/
inductive Moves : Transport → TransportAction → Transport → Prop where
  | connected {transport : Transport}
      (task : transport.task = .connecting) :
      Moves transport (.connect true)
        { transport with task := .awaitingWelcome }
  | ended {transport : Transport} {action : TransportAction}
      (ends : transport.Ends action) :
      Moves transport action transport.endConnection
  | welcomed {transport : Transport} {welcome : WelcomeFrame}
      (task : transport.task = .awaitingWelcome)
      (nothing : welcome.lastClip = none) :
      Moves transport (.receive (.text (some (.welcome welcome))))
        { transport with task := .serving }
  | cached {transport : Transport} {welcome : WelcomeFrame}
      {clip : ClipFrame}
      (task : transport.task = .awaitingWelcome)
      (carried : welcome.lastClip = some clip) :
      Moves transport (.receive (.text (some (.welcome welcome))))
        { transport with
          task := .surfacing clip
          received := transport.received ++ [clip] }
  | clipArrived {transport : Transport} {clip : ClipFrame}
      (task : transport.task = .serving) :
      Moves transport (.receive (.text (some (.clip clip))))
        { transport with
          task := .forwardingClip clip
          received := transport.received ++ [clip] }
  | chunkArrived {transport : Transport} {chunk : FileChunkFrame}
      (task : transport.task = .serving)
      (wired : transport.inboundFiles.isSome = true) :
      Moves transport (.receive (.text (some (.fileChunk chunk))))
        { transport with task := .forwardingChunk chunk }
  | ignored {transport : Transport} {message : Incoming}
      (task : transport.task = .serving)
      (noClip : ∀ clip, message ≠ .text (some (.clip clip)))
      (stays : ¬ EndsStream message) :
      Moves transport (.receive message) transport
  | surfaced {transport : Transport} {clip : ClipFrame}
      (task : transport.task = .surfacing clip)
      (alive : transport.inbound.receiverAlive = true)
      (room : transport.inbound.HasRoom) :
      Moves transport .forward
        { transport with
          task := .serving
          inbound := transport.inbound.push clip room }
  | notSurfaced {transport : Transport} {clip : ClipFrame}
      (task : transport.task = .surfacing clip)
      (gone : transport.inbound.receiverAlive = false) :
      Moves transport .forward { transport with task := .serving }
  | clipForwarded {transport : Transport} {clip : ClipFrame}
      (task : transport.task = .forwardingClip clip)
      (alive : transport.inbound.receiverAlive = true)
      (room : transport.inbound.HasRoom) :
      Moves transport .forward
        { transport with
          task := .serving
          inbound := transport.inbound.push clip room }
  | chunkForwarded {transport : Transport} {chunk : FileChunkFrame}
      {files : Channel FileChunkFrame}
      (task : transport.task = .forwardingChunk chunk)
      (wired : transport.inboundFiles = some files)
      (alive : files.receiverAlive = true)
      (room : files.HasRoom) :
      Moves transport .forward
        { transport with
          task := .serving
          inboundFiles := some (files.push chunk room) }
  | clipTaken {transport : Transport} {clip : ClipFrame}
      {rest : List ClipFrame}
      (task : transport.task = .serving)
      (queued : transport.outbound.buffer = clip :: rest) :
      Moves transport .takeClip
        { transport with
          task := .writing (.frame (.clip clip))
          outbound := transport.outbound.dropHead }
  | windingDown {transport : Transport}
      (task : transport.task = .serving)
      (empty : transport.outbound.buffer = [])
      (gone : transport.outbound.sendersAlive = false) :
      Moves transport .takeClip { transport with task := .draining }
  | chunkTaken {transport : Transport} {chunk : FileChunkFrame}
      {rest : List FileChunkFrame}
      (task : transport.task = .serving)
      (queued : transport.outboundFiles.buffer = chunk :: rest) :
      Moves transport .takeChunk
        { transport with
          task := .writing (.frame (.fileChunk chunk))
          outboundFiles := transport.outboundFiles.dropHead }
  | chunkDrained {transport : Transport} {chunk : FileChunkFrame}
      {rest : List FileChunkFrame}
      (task : transport.task = .draining)
      (queued : transport.outboundFiles.buffer = chunk :: rest) :
      Moves transport .takeChunk
        { transport with
          task := .drainWriting chunk
          outboundFiles := transport.outboundFiles.dropHead }
  | pinged {transport : Transport}
      (task : transport.task = .serving) :
      Moves transport .ping { transport with task := .writing .ping }
  | written {transport : Transport} {message : Outgoing}
      (task : transport.task = .writing message) :
      Moves transport (.write true)
        { transport with
          task := .serving
          wire := transport.wire ++ message.frame?.toList }
  | drainWritten {transport : Transport} {chunk : FileChunkFrame}
      (task : transport.task = .drainWriting chunk) :
      Moves transport (.write true)
        { transport with
          task := .draining
          wire := transport.wire ++ [.fileChunk chunk] }
  | woke {transport : Transport}
      (task : transport.task = .sleeping) :
      Moves transport .wake { transport with task := .connecting }

private theorem moves_handleFirst
    {transport : Transport}
    (task : transport.task = .awaitingWelcome)
    (message : Incoming) :
    Moves transport (.receive message) (transport.handleFirst message) := by
  unfold handleFirst
  split
  · split
    · rename_i carried
      exact .cached task carried
    · rename_i nothing
      exact .welcomed task nothing
  · rename_i noWelcome
    refine .ended (.inl ⟨task, ?_⟩)
    unfold IsWelcome
    split
    · exact (noWelcome _ rfl).elim
    · exact id

private theorem moves_handleIncoming
    {transport : Transport}
    (task : transport.task = .serving)
    (message : Incoming) :
    Moves transport (.receive message) (transport.handleIncoming message) := by
  cases message with
  | text parsed =>
      cases parsed with
      | none =>
          exact .ignored task (by simp) id
      | some frame =>
          cases frame with
          | clip clip =>
              exact .clipArrived task
          | welcome welcome =>
              exact .ignored task (by simp) id
          | error error =>
              exact .ignored task (by simp) id
          | fileChunk chunk =>
              cases wired : transport.inboundFiles with
              | some files =>
                  have handled :
                      transport.handleIncoming
                          (.text (some (.fileChunk chunk))) =
                        { transport with task := .forwardingChunk chunk } := by
                    simp [handleIncoming, wired]
                  rw [handled]
                  exact .chunkArrived task (by simp [wired])
              | none =>
                  have handled :
                      transport.handleIncoming
                          (.text (some (.fileChunk chunk))) =
                        transport := by
                    simp [handleIncoming, wired]
                  rw [handled]
                  exact .ignored task (by simp) id
  | binary =>
      exact .ignored task (by simp) id
  | pingPong =>
      exact .ignored task (by simp) id
  | other =>
      exact .ignored task (by simp) id
  | close =>
      exact .ended (.inr ⟨task, trivial⟩)
  | failed =>
      exact .ended (.inr ⟨task, trivial⟩)
  | ended =>
      exact .ended (.inr ⟨task, trivial⟩)

private theorem moves_forward
    {transport next : Transport}
    (stepped : transport.forward? = some next) :
    Moves transport .forward next := by
  unfold forward? at stepped
  split at stepped
  · rename_i task
    split at stepped
    · rename_i sent
      cases stepped
      obtain ⟨room, alive, rfl⟩ := Channel.pollSend_eq_sent.mp sent
      exact .surfaced task alive room
    · rename_i closed
      cases stepped
      exact .notSurfaced task (Channel.pollSend_eq_closed.mp closed)
    · cases stepped
  · rename_i task
    split at stepped
    · rename_i sent
      cases stepped
      obtain ⟨room, alive, rfl⟩ := Channel.pollSend_eq_sent.mp sent
      exact .clipForwarded task alive room
    · rename_i closed
      cases stepped
      have gone := Channel.pollSend_eq_closed.mp closed
      exact .ended (.inl ⟨_, task, gone⟩)
    · cases stepped
  · rename_i task
    split at stepped
    · cases stepped
    · rename_i wired
      split at stepped
      · rename_i sent
        cases stepped
        obtain ⟨room, alive, rfl⟩ := Channel.pollSend_eq_sent.mp sent
        exact .chunkForwarded task wired alive room
      · rename_i closed
        cases stepped
        have gone := Channel.pollSend_eq_closed.mp closed
        exact .ended (.inr ⟨_, _, task, wired, gone⟩)
      · cases stepped
  · cases stepped

private theorem moves_takeClip
    {transport next : Transport}
    (stepped : transport.takeClip? = some next) :
    Moves transport .takeClip next := by
  unfold takeClip? at stepped
  split at stepped
  · rename_i task
    split at stepped
    · rename_i taken
      cases stepped
      obtain ⟨queued, rfl⟩ := Channel.pollRecv_eq_received.mp taken
      exact .clipTaken task queued
    · cases stepped
    · rename_i closed
      cases stepped
      obtain ⟨empty, gone⟩ := Channel.pollRecv_eq_disconnected.mp closed
      exact .windingDown task empty gone
  · cases stepped

private theorem moves_takeChunk
    {transport next : Transport}
    (stepped : transport.takeChunk? = some next) :
    Moves transport .takeChunk next := by
  unfold takeChunk? at stepped
  split at stepped
  · rename_i task
    split at stepped
    · rename_i taken
      cases stepped
      obtain ⟨queued, rfl⟩ := Channel.pollRecv_eq_received.mp taken
      exact .chunkTaken task queued
    · cases stepped
    · rename_i closed
      cases stepped
      exact .ended
        ⟨.inl task, Channel.pollRecv_eq_disconnected.mp closed⟩
  · rename_i task
    split at stepped
    · rename_i taken
      cases stepped
      obtain ⟨queued, rfl⟩ := Channel.pollRecv_eq_received.mp taken
      exact .chunkDrained task queued
    · cases stepped
    · rename_i closed
      cases stepped
      exact .ended
        ⟨.inr task, Channel.pollRecv_eq_disconnected.mp closed⟩
  · cases stepped

private theorem moves_write
    {transport next : Transport}
    {succeeds : Bool}
    (stepped : transport.write? succeeds = some next) :
    Moves transport (.write succeeds) next := by
  unfold write? at stepped
  split at stepped
  · rename_i message task
    cases succeeds with
    | true =>
        cases stepped
        exact .written task
    | false =>
        cases stepped
        exact .ended ⟨.inl ⟨message, task⟩, rfl⟩
  · rename_i chunk task
    cases succeeds with
    | true =>
        cases stepped
        exact .drainWritten task
    | false =>
        cases stepped
        exact .ended ⟨.inr ⟨chunk, task⟩, rfl⟩
  · cases stepped

theorem moves_of_step?
    {transport next : Transport}
    {action : TransportAction}
    (stepped : transport.step? action = some next) :
    Moves transport action next := by
  cases action with
  | connect succeeds =>
      simp only [step?] at stepped
      split at stepped
      · rename_i task
        cases succeeds with
        | true =>
            cases stepped
            exact .connected task
        | false =>
            cases stepped
            exact .ended ⟨task, rfl⟩
      · cases stepped
  | receive message =>
      simp only [step?] at stepped
      split at stepped
      · rename_i task
        cases stepped
        exact moves_handleFirst task message
      · rename_i task
        cases stepped
        exact moves_handleIncoming task message
      · cases stepped
  | forward =>
      exact moves_forward stepped
  | takeClip =>
      exact moves_takeClip stepped
  | takeChunk =>
      exact moves_takeChunk stepped
  | ping =>
      simp only [step?] at stepped
      split at stepped
      · rename_i task
        cases stepped
        exact .pinged task
      · cases stepped
  | write succeeds =>
      exact moves_write stepped
  | wake =>
      simp only [step?] at stepped
      split at stepped
      · rename_i task
        cases stepped
        exact .woke task
      · cases stepped

/-- The end of a connection either stops the task or puts it to sleep. -/
theorem endConnection_eq
    (transport : Transport) :
    transport.endConnection = transport.stop ∨
      (transport.oneShot = false ∧
        transport.endConnection = { transport with task := .sleeping }) := by
  unfold endConnection
  split
  · exact .inl rfl
  · rename_i repeated
    split
    · exact .inr ⟨by simpa using repeated, rfl⟩
    · exact .inl rfl

/-- A task that has stopped makes no move. -/
theorem Moves.task_ne_stopped
    {transport next : Transport}
    {action : TransportAction}
    (moved : Moves transport action next) :
    transport.task ≠ .stopped := by
  intro stopped
  cases moved with
  | ended ends =>
      cases action <;> simp [Ends, stopped] at ends
  | _ =>
      simp_all

/-- An action that ends the connection does nothing else. -/
theorem Moves.eq_endConnection
    {transport next : Transport}
    {action : TransportAction}
    (moved : Moves transport action next)
    (ends : transport.Ends action) :
    next = transport.endConnection := by
  cases moved with
  | ended _ =>
      rfl
  | connected task =>
      cases ends.2
  | welcomed task nothing =>
      rcases ends with ⟨-, noWelcome⟩ | ⟨serving, -⟩
      · exact (noWelcome trivial).elim
      · rw [task] at serving
        cases serving
  | cached task carried =>
      rcases ends with ⟨-, noWelcome⟩ | ⟨serving, -⟩
      · exact (noWelcome trivial).elim
      · rw [task] at serving
        cases serving
  | clipArrived task =>
      rcases ends with ⟨awaiting, -⟩ | ⟨-, endsStream⟩
      · rw [task] at awaiting
        cases awaiting
      · cases endsStream
  | chunkArrived task wired =>
      rcases ends with ⟨awaiting, -⟩ | ⟨-, endsStream⟩
      · rw [task] at awaiting
        cases awaiting
      · cases endsStream
  | ignored task noClip stays =>
      rcases ends with ⟨awaiting, -⟩ | ⟨-, endsStream⟩
      · rw [task] at awaiting
        cases awaiting
      · exact (stays endsStream).elim
  | surfaced task alive room =>
      simp [Ends, task] at ends
  | notSurfaced task gone =>
      simp [Ends, task] at ends
  | clipForwarded task alive room =>
      simp [Ends, task, alive] at ends
  | chunkForwarded task wired alive room =>
      simp [Ends, task, wired, alive] at ends
  | clipTaken task queued =>
      cases ends
  | windingDown task empty gone =>
      cases ends
  | chunkTaken task queued =>
      simp [Ends, queued] at ends
  | chunkDrained task queued =>
      simp [Ends, queued] at ends
  | pinged task =>
      cases ends
  | written task =>
      cases ends.2
  | drainWritten task =>
      cases ends.2
  | woke task =>
      cases ends

/-- Only the end of its connection stops a task. -/
theorem Moves.ends_of_stopped
    {transport next : Transport}
    {action : TransportAction}
    (moved : Moves transport action next)
    (stopped : next.task = .stopped) :
    transport.Ends action := by
  have running := moved.task_ne_stopped
  cases moved with
  | ended ends =>
      exact ends
  | ignored task noClip stays =>
      exact (running stopped).elim
  | _ =>
      cases stopped

/-- A one-shot task stops with its only connection. -/
theorem endConnection_of_oneShot
    {transport : Transport}
    (oneShot : transport.oneShot = true) :
    transport.endConnection = transport.stop := by
  simp [endConnection, oneShot]

/-! ## Frames on their way out -/

/-- The frame that has been taken from a queue and awaits the sink. -/
def writing (transport : Transport) : List Frame :=
  match transport.task with
  | .writing message => message.frame?.toList
  | .drainWriting chunk => [.fileChunk chunk]
  | _ => []

/-- Frames that the sink has accepted or is about to. -/
def taken (transport : Transport) : List Frame :=
  transport.wire ++ transport.writing

/-- The connection is neither over nor about to be tried again. -/
def InCall (transport : Transport) : Prop :=
  transport.task ≠ .sleeping ∧ transport.task ≠ .stopped

/-- After the end of a connection the call is over. -/
theorem not_inCall_endConnection (transport : Transport) :
    ¬ transport.endConnection.InCall := by
  rintro ⟨notSleeping, notStopped⟩
  rcases transport.endConnection_eq with stopped | ⟨-, sleeping⟩
  · exact notStopped (by rw [stopped]; rfl)
  · exact notSleeping (by rw [sleeping])

/-- A task that takes a step other than waking up is in a call. -/
theorem Moves.inCall
    {transport next : Transport}
    {action : TransportAction}
    (moved : Moves transport action next)
    (awake : action ≠ .wake) :
    transport.InCall := by
  refine ⟨?_, moved.task_ne_stopped⟩
  intro sleeping
  cases moved with
  | ended ends =>
      cases action <;> simp [Ends, sleeping] at ends
  | woke task =>
      exact awake rfl
  | _ =>
      simp_all

/-- The frames of one kind that were taken, and those that are still queued. -/
theorem Moves.taken_append_queued
    {transport next : Transport}
    {action : TransportAction}
    (moved : Moves transport action next)
    (inCall : next.InCall) :
    next.taken.filterMap Frame.clip? ++ next.outbound.buffer =
        transport.taken.filterMap Frame.clip? ++ transport.outbound.buffer ∧
      next.taken.filterMap Frame.fileChunk? ++ next.outboundFiles.buffer =
        transport.taken.filterMap Frame.fileChunk? ++
          transport.outboundFiles.buffer := by
  cases moved with
  | ended ends =>
      exact (transport.not_inCall_endConnection inCall).elim
  | clipTaken task queued =>
      simp [taken, Transport.writing, task, queued, Outgoing.frame?,
        Frame.clip?, Frame.fileChunk?]
  | chunkTaken task queued =>
      simp [taken, Transport.writing, task, queued, Outgoing.frame?,
        Frame.clip?, Frame.fileChunk?]
  | chunkDrained task queued =>
      simp [taken, Transport.writing, task, queued, Frame.clip?,
        Frame.fileChunk?]
  | written task =>
      simp [taken, Transport.writing, task]
  | drainWritten task =>
      simp [taken, Transport.writing, task]
  | ignored task noClip stays =>
      exact ⟨rfl, rfl⟩
  | pinged task =>
      simp [taken, Transport.writing, task, Outgoing.frame?]
  | _ =>
      simp_all [taken, Transport.writing]

end Transport

end ClipboardWire
