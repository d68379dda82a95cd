import ClipboardWire.ClientClipboard
import ClipboardWire.ClientTransport
import ClipboardWire.FileSender

namespace ClipboardWire

open BoundedChannel

/-!
# The supervisor task of a desktop client

`run_supervisor` of `core/src/client/mod.rs`, together with the transport task
whose handle it holds.  The supervisor has a `select!` over local clipboard
events, inbound clips, inbound file chunks and the deadline of a batch of
received files; while it sends the files of a local file list it awaits room
in the outbound-files channel and runs none of the other arms.
-/

/-- A file of a local file list: the identifier it gets, and its content. -/
structure LocalFile where
  fileId : Uuid
  source : SourceFile

/-- A local clipboard event, with what the system answers meanwhile. -/
structure LocalEvent where
  change : ClipChange
  /-- The identifier and the time that `change_to_frame` draws. -/
  id : Uuid
  ts : Int64
  /-- The file at each position of the list. -/
  file : Nat → LocalFile

/-- The chunks that the files of an event are sent as, one list a file. -/
def LocalEvent.chunks
    (codec : Codec)
    (event : LocalEvent) :
    List (List FileChunkFrame) :=
  match event.change with
  | .files paths =>
      (List.range paths.length).map fun position =>
        (sendFileThrough codec (event.file position).fileId
          (event.file position).source).frames
  | .text _ | .image _ =>
      []

/-- What the supervisor is awaiting. -/
inductive SupervisorTask where
  | selecting
  /--
  Room for a chunk: what is left of its file, and the files after it.
  -/
  | sending
      (chunk : FileChunkFrame)
      (rest : List FileChunkFrame)
      (later : List (List FileChunkFrame))
  | exited
  deriving DecidableEq, Repr

/-- Send the files that are left, or go back to the select loop. -/
def SupervisorTask.sendFiles :
    List (List FileChunkFrame) → SupervisorTask
  | [] => .selecting
  | [] :: later => sendFiles later
  | (chunk :: rest) :: later => .sending chunk rest later

/-- A supervisor and its transport task. -/
structure Client where
  task : SupervisorTask
  fileReceiver : Option ReceiverState
  pendingFiles : List Path
  /-- Whether `pending_deadline` is set. -/
  deadline : Bool
  /-- Everything that was sent on `apply_tx`. -/
  applied : List ClipChange
  /-- The frames whose changes were sent on `apply_tx`. -/
  forwarded : List ClipFrame
  transport : Transport

/-- One arm of the supervisor, or a step of the transport task. -/
inductive ClientAction where
  | transport (action : TransportAction)
  /-- An event of the clipboard thread, or the end of its channel. -/
  | localEvent (event : Option LocalEvent)
  | takeClip (clipboardAlive : Bool)
  | takeChunk (io : IoAnswers)
  | deadline (clipboardAlive : Bool)
  /-- One poll of the send in `send_file_through`. -/
  | sendChunk

/-- The holder of a transport handle drops it. -/
def Transport.dropHandle (transport : Transport) : Transport :=
  { transport with
    inbound := transport.inbound.dropReceiver
    inboundFiles := transport.inboundFiles.map Channel.dropReceiver
    outbound := transport.outbound.dropSenders
    outboundFiles := transport.outboundFiles.dropSenders }

namespace Client

/-- A supervisor that has just spawned its transport task. -/
def start (fileReceiver : Option ReceiverState) : Client where
  task := .selecting
  fileReceiver := fileReceiver
  pendingFiles := []
  deadline := false
  applied := []
  forwarded := []
  transport := Transport.spawn true false

/-- `run_supervisor` returns and drops the transport handle. -/
def exit (client : Client) : Client :=
  { client with
    task := .exited
    transport := client.transport.dropHandle }

section

variable (codec : Codec) (png : PngCodec)

/-- The arm of the local events. -/
def handleEvent (client : Client) (event : LocalEvent) : Client :=
  match event.change with
  | .files _ =>
      { client with task := .sendFiles (event.chunks codec) }
  | change =>
      match changeToFrame codec png event.id event.ts change with
      | .error _ =>
          client
      | .ok frame =>
          { client with
            transport :=
              { client.transport with
                outbound := client.transport.outbound.offer frame } }

/-- The arm of the inbound clips. -/
def takeClip? (client : Client) (clipboardAlive : Bool) : Option Client :=
  match client.transport.inbound.pollRecv with
  | .received clip inbound =>
      let taken :=
        { client with
          transport := { client.transport with inbound := inbound } }
      match frameToChange codec png clip with
      | .error _ =>
          some taken
      | .ok change =>
          if clipboardAlive then
            some
              { taken with
                applied := client.applied ++ [change]
                forwarded := client.forwarded ++ [clip] }
          else
            some taken.exit
  | .disconnected =>
      some client.exit
  | .pending =>
      none

/-- A received chunk is passed to the file receiver, if there is one. -/
def receiveChunk
    (io : IoAnswers)
    (client : Client)
    (chunk : FileChunkFrame) :
    Client :=
  match client.fileReceiver with
  | none =>
      client
  | some receiver =>
      let received := ReceiverState.receiveChunk codec io receiver chunk
      match received.result with
      | .ok (some path) =>
          { client with
            fileReceiver := some received.state
            pendingFiles := client.pendingFiles ++ [path]
            deadline := true }
      | .ok none | .error (.error _) =>
          { client with fileReceiver := some received.state }
      | .error .panic =>
          client.exit

/-- A chunk that completes no file changes only the file receiver. -/
theorem receiveChunk_of_waits
    {codec : Codec}
    {io : IoAnswers}
    {client : Client}
    {receiver : ReceiverState}
    {chunk : FileChunkFrame}
    (saves : client.fileReceiver = some receiver)
    (waits :
      (ReceiverState.receiveChunk codec io receiver chunk).result =
        .ok none) :
    receiveChunk codec io client chunk =
      { client with
        fileReceiver :=
          some
            (ReceiverState.receiveChunk codec io receiver
              chunk).state } := by
  simp only [receiveChunk, saves, waits]

/-- The arm of the inbound file chunks. -/
def takeChunk? (io : IoAnswers) (client : Client) : Option Client :=
  match client.transport.inboundFiles with
  | none =>
      none
  | some files =>
      match files.pollRecv with
      | .received chunk files =>
          some
            (receiveChunk codec io
              { client with
                transport :=
                  { client.transport with inboundFiles := some files } }
              chunk)
      -- the channel closed: the arm only continues
      | .disconnected =>
          some client
      | .pending =>
          none

/-- The arm of the batch deadline; without a clipboard the batch is lost. -/
def applyBatch (client : Client) (clipboardAlive : Bool) : Client :=
  { client with
    deadline := false
    pendingFiles := []
    applied :=
      if client.pendingFiles ≠ [] ∧ clipboardAlive = true then
        client.applied ++ [.files client.pendingFiles]
      else
        client.applied }

/-- One poll of the send that `send_file_through` awaits. -/
def sendChunk? (client : Client) : Option Client :=
  match client.task with
  | .sending chunk rest later =>
      match client.transport.outboundFiles.pollSend chunk with
      | .sent files =>
          some
            { client with
              task := .sendFiles (rest :: later)
              transport :=
                { client.transport with outboundFiles := files } }
      -- the call fails; the loop goes on with the next path
      | .closed =>
          some { client with task := .sendFiles later }
      | .pending =>
          none
  | .selecting | .exited =>
      none

/-- One step of the supervisor or of its transport task. -/
def step? (client : Client) : ClientAction → Option Client
  | .transport action =>
      match client.transport.step? action with
      | none => none
      | some next => some { client with transport := next }
  | .localEvent event =>
      match client.task, event with
      | .selecting, some event =>
          some (handleEvent codec png client event)
      | .selecting, none =>
          some client.exit
      | _, _ =>
          none
  | .takeClip clipboardAlive =>
      match client.task with
      | .selecting => takeClip? codec png client clipboardAlive
      | _ => none
  | .takeChunk io =>
      match client.task with
      | .selecting => takeChunk? codec io client
      | _ => none
  | .deadline clipboardAlive =>
      match client.task, client.deadline with
      | .selecting, true => some (client.applyBatch clipboardAlive)
      | _, _ => none
  | .sendChunk =>
      client.sendChunk?

/-- What one step of the client can do. -/
inductive Turns : Client → ClientAction → Client → Prop where
  | transport {client : Client} {action : TransportAction}
      {next : Transport}
      (moved : Transport.Moves client.transport action next) :
      Turns client (.transport action) { client with transport := next }
  | exited {client : Client} {action : ClientAction}
      (selecting : client.task = .selecting)
      (own : ∀ action', action ≠ .transport action') :
      Turns client action client.exit
  | clipOffered {client : Client} {event : LocalEvent} {frame : ClipFrame}
      (selecting : client.task = .selecting)
      (single : event.chunks codec = []) :
      Turns client (.localEvent (some event))
        { client with
          transport :=
            { client.transport with
              outbound := client.transport.outbound.offer frame } }
  | eventDropped {client : Client} {event : LocalEvent}
      (selecting : client.task = .selecting) :
      Turns client (.localEvent (some event)) client
  | filesOpened {client : Client} {event : LocalEvent}
      (selecting : client.task = .selecting) :
      Turns client (.localEvent (some event))
        { client with task := .sendFiles (event.chunks codec) }
  | clipForwarded {client : Client} {clip : ClipFrame}
      {rest : List ClipFrame} {change : ClipChange}
      (selecting : client.task = .selecting)
      (queued : client.transport.inbound.buffer = clip :: rest)
      (decoded : frameToChange codec png clip = .ok change) :
      Turns client (.takeClip true)
        { client with
          applied := client.applied ++ [change]
          forwarded := client.forwarded ++ [clip]
          transport :=
            { client.transport with
              inbound := client.transport.inbound.dropHead } }
  | clipRejected {client : Client} {clip : ClipFrame}
      {rest : List ClipFrame} {reason : FrameRejection} {alive : Bool}
      (selecting : client.task = .selecting)
      (queued : client.transport.inbound.buffer = clip :: rest)
      (rejected : frameToChange codec png clip = .error reason) :
      Turns client (.takeClip alive)
        { client with
          transport :=
            { client.transport with
              inbound := client.transport.inbound.dropHead } }
  | clipboardGone {client : Client} {clip : ClipFrame}
      {rest : List ClipFrame}
      (selecting : client.task = .selecting)
      (queued : client.transport.inbound.buffer = clip :: rest) :
      Turns client (.takeClip false)
        { client with
          transport :=
            { client.transport with
              inbound := client.transport.inbound.dropHead } }.exit
  | chunkTaken {client : Client} {io : IoAnswers}
      {files : Channel FileChunkFrame} {chunk : FileChunkFrame}
      {rest : List FileChunkFrame}
      (selecting : client.task = .selecting)
      (wired : client.transport.inboundFiles = some files)
      (queued : files.buffer = chunk :: rest) :
      Turns client (.takeChunk io)
        (receiveChunk codec io
          { client with
            transport :=
              { client.transport with
                inboundFiles := some files.dropHead } }
          chunk)
  | filesQuiet {client : Client} {io : IoAnswers}
      (selecting : client.task = .selecting) :
      Turns client (.takeChunk io) client
  | batchApplied {client : Client} {alive : Bool}
      (selecting : client.task = .selecting) :
      Turns client (.deadline alive) (client.applyBatch alive)
  | chunkQueued {client : Client} {chunk : FileChunkFrame}
      {rest : List FileChunkFrame} {later : List (List FileChunkFrame)}
      (task : client.task = .sending chunk rest later)
      (alive : client.transport.outboundFiles.receiverAlive = true)
      (room : client.transport.outboundFiles.HasRoom) :
      Turns client .sendChunk
        { client with
          task := .sendFiles (rest :: later)
          transport :=
            { client.transport with
              outboundFiles :=
                client.transport.outboundFiles.push chunk room } }
  | chunkRefused {client : Client} {chunk : FileChunkFrame}
      {rest : List FileChunkFrame} {later : List (List FileChunkFrame)}
      (task : client.task = .sending chunk rest later)
      (gone : client.transport.outboundFiles.receiverAlive = false) :
      Turns client .sendChunk { client with task := .sendFiles later }

end

variable {codec : Codec} {png : PngCodec}

private theorem turns_handleEvent
    {client : Client}
    (selecting : client.task = .selecting)
    (event : LocalEvent) :
    Turns codec png client (.localEvent (some event))
      (handleEvent codec png client event) := by
  unfold handleEvent
  split
  · exact .filesOpened selecting
  · rename_i noFiles
    split
    · exact .eventDropped selecting
    · refine .clipOffered selecting ?_
      unfold LocalEvent.chunks
      split
      · rename_i isFiles
        exact (noFiles _ isFiles).elim
      · rfl
      · rfl

private theorem turns_takeClip
    {client next : Client}
    {alive : Bool}
    (selecting : client.task = .selecting)
    (stepped : takeClip? codec png client alive = some next) :
    Turns codec png client (.takeClip alive) next := by
  unfold takeClip? at stepped
  split at stepped
  · rename_i taken
    obtain ⟨queued, rfl⟩ := Channel.pollRecv_eq_received.mp taken
    simp only at stepped
    split at stepped
    · rename_i rejected
      cases stepped
      exact .clipRejected selecting queued rejected
    · rename_i decoded
      cases alive with
      | true =>
          cases stepped
          exact .clipForwarded selecting queued decoded
      | false =>
          cases stepped
          exact .clipboardGone selecting queued
  · cases stepped
    exact .exited selecting (by simp)
  · cases stepped

private theorem turns_takeChunk
    {client next : Client}
    {io : IoAnswers}
    (selecting : client.task = .selecting)
    (stepped : takeChunk? codec io client = some next) :
    Turns codec png client (.takeChunk io) next := by
  unfold takeChunk? at stepped
  split at stepped
  · cases stepped
  · rename_i wired
    split at stepped
    · rename_i taken
      obtain ⟨queued, rfl⟩ := Channel.pollRecv_eq_received.mp taken
      cases stepped
      exact .chunkTaken selecting wired queued
    · cases stepped
      exact .filesQuiet selecting
    · cases stepped

private theorem turns_sendChunk
    {client next : Client}
    (stepped : client.sendChunk? = some next) :
    Turns codec png client .sendChunk next := by
  unfold sendChunk? at stepped
  split at stepped
  · rename_i task
    split at stepped
    · rename_i sent
      cases stepped
      obtain ⟨room, alive, rfl⟩ := Channel.pollSend_eq_sent.mp sent
      exact .chunkQueued task alive room
    · rename_i closed
      cases stepped
      exact .chunkRefused task (Channel.pollSend_eq_closed.mp closed)
    · cases stepped
  · cases stepped
  · cases stepped

theorem turns_of_step?
    {client next : Client}
    {action : ClientAction}
    (stepped : step? codec png client action = some next) :
    Turns codec png client action next := by
  cases action with
  | transport action =>
      simp only [step?] at stepped
      cases moved : client.transport.step? action with
      | none =>
          simp [moved] at stepped
      | some after =>
          simp only [moved, Option.some.injEq] at stepped
          subst next
          exact .transport (Transport.moves_of_step? moved)
  | localEvent event =>
      simp only [step?] at stepped
      split at stepped
      · rename_i selecting
        cases stepped
        exact turns_handleEvent selecting _
      · rename_i selecting
        cases stepped
        exact .exited selecting (by simp)
      · cases stepped
  | takeClip alive =>
      simp only [step?] at stepped
      split at stepped
      · rename_i selecting
        exact turns_takeClip selecting stepped
      · cases stepped
  | takeChunk io =>
      simp only [step?] at stepped
      split at stepped
      · rename_i selecting
        exact turns_takeChunk selecting stepped
      · cases stepped
  | deadline alive =>
      simp only [step?] at stepped
      split at stepped
      · rename_i selecting _
        cases stepped
        exact .batchApplied selecting
      · cases stepped
  | sendChunk =>
      exact turns_sendChunk stepped

/-- Passing a chunk to the file receiver at most ends the supervisor. -/
theorem receiveChunk_cases
    (io : IoAnswers)
    (client : Client)
    (chunk : FileChunkFrame) :
    (receiveChunk codec io client chunk).applied = client.applied ∧
      (receiveChunk codec io client chunk).forwarded = client.forwarded ∧
      (((receiveChunk codec io client chunk).task = client.task ∧
          (receiveChunk codec io client chunk).transport =
            client.transport) ∨
        ((receiveChunk codec io client chunk).task = .exited ∧
          (receiveChunk codec io client chunk).transport =
            client.transport.dropHandle)) := by
  unfold receiveChunk
  split
  · exact ⟨rfl, rfl, .inl ⟨rfl, rfl⟩⟩
  · simp only
    split
    · exact ⟨rfl, rfl, .inl ⟨rfl, rfl⟩⟩
    · exact ⟨rfl, rfl, .inl ⟨rfl, rfl⟩⟩
    · exact ⟨rfl, rfl, .inl ⟨rfl, rfl⟩⟩
    · exact ⟨rfl, rfl, .inr ⟨rfl, rfl⟩⟩

/-- The task that sends files is never the one that has exited. -/
theorem sendFiles_ne_exited (files : List (List FileChunkFrame)) :
    SupervisorTask.sendFiles files ≠ .exited := by
  induction files with
  | nil =>
      simp [SupervisorTask.sendFiles]
  | cons first later inductionHypothesis =>
      cases first with
      | nil =>
          exact inductionHypothesis
      | cons chunk rest =>
          simp [SupervisorTask.sendFiles]

end Client

end ClipboardWire
