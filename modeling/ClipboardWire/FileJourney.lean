import ClipboardWire.ClientSession
import ClipboardWire.DesktopJourney
import ClipboardWire.FileTransfer

namespace ClipboardWire

open BoundedChannel

/-!
# From a file on one desktop to a file on another

The whole way of a copied file: the supervisor of one client cuts it into
chunks and queues them, its transport task writes them to the connection, the
server relays them, the transport task of the other client reads them, and its
supervisor hands them to the file receiver.  Chunks can be lost on the way:
when a connection ends, when a queue overflows at the hub, when a client
leaves.  None is delivered twice and none changes, so the receiver saves the
file once, byte for byte, if every chunk gets through, and not at all
otherwise.
-/

namespace Client

variable {codec : Codec} {png : PngCodec}

/-! ## The sending desktop -/

/-- The chunks that a client has written or is still to write. -/
def outgoingChunks (client : Client) : List FileChunkFrame :=
  client.transport.wire.filterMap Frame.fileChunk? ++
    client.transport.waitingChunks ++ client.task.toQueue

private theorem outgoingChunks_of_moves
    {client : Client}
    {action : TransportAction}
    {next : Transport}
    (moved : Transport.Moves client.transport action next) :
    (outgoingChunks { client with transport := next }).Sublist
      client.outgoingChunks := by
  have taken :
      ((Transport.takenOf (client.transport.answers action)).filterMap
          Frame.fileChunk?).Sublist
        (((client.transport.answers action).map Prod.fst).filterMap
          Frame.fileChunk?) :=
    (List.filter_sublist.map _).filterMap _
  have written
      (wire :
        next.wire =
          client.transport.wire ++
            Transport.takenOf (client.transport.answers action))
      (chunks :
        (((client.transport.answers action).map Prod.fst).filterMap
            Frame.fileChunk? ++ next.waitingChunks).Sublist
          client.transport.waitingChunks) :
      (outgoingChunks { client with transport := next }).Sublist
        client.outgoingChunks := by
    simp only [outgoingChunks, wire, List.filterMap_append,
      List.append_assoc]
    refine (List.Sublist.refl _).append ?_
    rw [← List.append_assoc]
    exact
      ((taken.append (List.Sublist.refl _)).trans chunks).append
        (List.Sublist.refl _)
  rcases moved.passes_or_drops with passes | drops
  · exact written passes.wire (passes.chunks ▸ List.Sublist.refl _)
  · exact written drops.wire drops.chunks.sublist

private theorem outgoingChunks_exit (client : Client) :
    client.exit.outgoingChunks.Sublist client.outgoingChunks := by
  simp only [outgoingChunks, exit, SupervisorTask.toQueue_exited]
  exact (List.Sublist.refl _).append (List.nil_sublist _)

private theorem outgoingChunks_of_step?
    {client next : Client}
    {action : ClientAction}
    (stepped : step? codec png client action = some next) :
    next.outgoingChunks.Sublist
      (client.outgoingChunks ++ localsOf codec action) := by
  have kept
      {after : Client}
      (fewer : after.outgoingChunks.Sublist client.outgoingChunks) :
      after.outgoingChunks.Sublist
        (client.outgoingChunks ++ localsOf codec action) :=
    fewer.trans (List.sublist_append_left _ _)
  cases turns_of_step? stepped with
  | transport moved =>
      exact kept (outgoingChunks_of_moves moved)
  | exited selecting own =>
      exact kept client.outgoingChunks_exit
  | filesOpened selecting =>
      simp only [outgoingChunks, localsOf, selecting,
        SupervisorTask.toQueue_sendFiles, SupervisorTask.toQueue_selecting,
        List.append_nil]
      exact List.Sublist.refl _
  | clipboardGone selecting queued =>
      exact kept (outgoingChunks_exit _)
  | @chunkTaken io files chunk rest selecting wired queued =>
      obtain ⟨-, -, same | exited⟩ :=
        @receiveChunk_cases codec io
          { client with
            transport :=
              { client.transport with
                inboundFiles := some files.dropHead } }
          chunk
      · refine kept ?_
        simp only [outgoingChunks, same.1, same.2]
        exact List.Sublist.refl _
      · refine kept ?_
        simp only [outgoingChunks, exited.1, exited.2,
          SupervisorTask.toQueue_exited]
        exact (List.Sublist.refl _).append (List.nil_sublist _)
  | @chunkQueued chunk rest later task alive room =>
      refine kept ?_
      simp only [outgoingChunks, task, SupervisorTask.toQueue_sendFiles,
        SupervisorTask.toQueue_sending, Transport.waitingChunks,
        Transport.writing, Channel.buffer_push, List.flatten_cons,
        List.append_assoc, List.singleton_append]
      exact List.Sublist.refl _
  | @chunkRefused chunk rest later task gone =>
      refine kept ?_
      simp only [outgoingChunks, task, SupervisorTask.toQueue_sendFiles,
        SupervisorTask.toQueue_sending]
      refine (List.Sublist.refl _).append ?_
      exact (List.sublist_append_right rest _).cons _
  | _ =>
      exact kept (List.Sublist.refl _)

/-- The chunks that a client has written are those of its copied files. -/
private theorem chunks_written
    {fileReceiver : Option ReceiverState}
    {actions : List ClientAction}
    {client : Client}
    (ran :
      StepRun.run? (step? codec png) (start fileReceiver) actions =
        some client) :
    (client.transport.wire.filterMap Frame.fileChunk?).Sublist
      (actions.flatMap (localsOf codec)) := by
  have inOrder :
      client.outgoingChunks.Sublist (actions.flatMap (localsOf codec)) := by
    refine StepRun.run?_history
      (motive := fun past client =>
        client.outgoingChunks.Sublist (past.flatMap (localsOf codec)))
      (List.Sublist.refl _) ?_ ran
    rintro past client action next - - outgoing stepped
    rw [List.flatMap_append, List.flatMap_singleton]
    exact
      (outgoingChunks_of_step? stepped).trans
        (outgoing.append (List.Sublist.refl _))
  rw [outgoingChunks, List.append_assoc] at inOrder
  exact (List.sublist_append_left _ _).trans inOrder

/-! ## The receiving desktop -/

/-- The call that an action makes to the file receiver. -/
def call? (client : Client) : ClientAction → Option ReceiverCall
  | .takeChunk io =>
      match client.task, client.fileReceiver, client.transport.inboundFiles with
      | .selecting, some _, some files =>
          files.buffer.head?.map fun chunk => ⟨chunk, io⟩
      | _, _, _ =>
          none
  | _ =>
      none

/-- The calls to the file receiver in a run. -/
def calls
    (codec : Codec)
    (png : PngCodec)
    (client : Client)
    (actions : List ClientAction) : List ReceiverCall :=
  StepRun.outputs (step? codec png) call? client actions

private theorem chunksToSupervisor_of_moves
    {transport next : Transport}
    {action : TransportAction}
    (moved : Transport.Moves transport action next) :
    next.chunksToSupervisor.Sublist
      (transport.chunksToSupervisor ++ Transport.chunksOf action) := by
  have kept
      (fewer :
        next.chunksToSupervisor.Sublist transport.chunksToSupervisor) :
      next.chunksToSupervisor.Sublist
        (transport.chunksToSupervisor ++ Transport.chunksOf action) :=
    fewer.trans (List.sublist_append_left _ _)
  cases moved with
  | ended ends =>
      refine kept ?_
      rcases transport.endConnection_eq with stopped | ⟨-, sleeping⟩
      · rw [stopped]
        cases wired : transport.inboundFiles <;>
          simp [Transport.stop, Transport.chunksToSupervisor, wired]
      · rw [sleeping]
        simp only [Transport.chunksToSupervisor, List.append_nil]
        exact List.sublist_append_left _ _
  | ignored task noClip stays =>
      exact kept (List.Sublist.refl _)
  | chunkArrived task wired =>
      simp [Transport.chunksToSupervisor, Transport.chunksOf, task]
  | chunkForwarded task wired alive room =>
      refine kept ?_
      simp [Transport.chunksToSupervisor, task, wired]
  | _ =>
      refine kept ?_
      simp_all [Transport.chunksToSupervisor]

private theorem chunksToSupervisor_dropHandle (transport : Transport) :
    transport.dropHandle.chunksToSupervisor.Sublist
      transport.chunksToSupervisor := by
  cases wired : transport.inboundFiles <;>
    simp [Transport.dropHandle, Transport.chunksToSupervisor, wired,
      Channel.dropReceiver]

/-- What one step does with the chunks that come in. -/
private structure Feeds
    (codec : Codec)
    (client next : Client)
    (action : ClientAction)
    (state after : ReceiverState) : Prop where
  receiver : next.fileReceiver = some after
  ran :
    StepRun.run? (ReceiverState.step? codec) state
      (client.call? action).toList = some after
  chunks :
    ((client.call? action).toList.map ReceiverCall.chunk ++
        next.transport.chunksToSupervisor).Sublist
      (client.transport.chunksToSupervisor ++ chunksOf action)

private theorem Feeds.aside
    {client next : Client}
    {action : ClientAction}
    {state : ReceiverState}
    (noCall : client.call? action = none)
    (receiver : next.fileReceiver = some state)
    (chunks :
      next.transport.chunksToSupervisor.Sublist
        (client.transport.chunksToSupervisor ++ chunksOf action)) :
    Feeds codec client next action state state where
  receiver := receiver
  ran := by rw [noCall]; rfl
  chunks := by rw [noCall]; exact chunks

private theorem feeds_takeChunk
    {client next : Client}
    {io : IoAnswers}
    {state : ReceiverState}
    (sound : state.Sound)
    (receiver : client.fileReceiver = some state)
    (selecting : client.task = .selecting)
    (stepped : takeChunk? codec io client = some next) :
    ∃ after, Feeds codec client next (.takeChunk io) state after := by
  unfold takeChunk? at stepped
  split at stepped
  · cases stepped
  · rename_i files wired
    split at stepped
    · rename_i chunk rest taken
      obtain ⟨queued, rfl⟩ := Channel.pollRecv_eq_received.mp taken
      have call :
          client.call? (.takeChunk io) = some ⟨chunk, io⟩ := by
        simp only [call?, selecting, receiver, wired, queued,
          List.head?_cons, Option.map_some]
      have noPanic :=
        (ReceiverState.receives_receiveChunk codec io sound chunk).noPanic
      refine ⟨(ReceiverState.receiveChunk codec io state chunk).state, ?_⟩
      have chunks
          (transport :
            next.transport =
              { client.transport with inboundFiles := some files.dropHead }) :
          ((client.call? (.takeChunk io)).toList.map ReceiverCall.chunk ++
              next.transport.chunksToSupervisor).Sublist
            (client.transport.chunksToSupervisor ++
              chunksOf (.takeChunk io)) := by
        have waited :
            client.transport.chunksToSupervisor =
              chunk :: next.transport.chunksToSupervisor := by
          rw [transport]
          simp only [Transport.chunksToSupervisor, wired]
          rw [queued, List.cons_append]
        rw [call, waited]
        exact List.sublist_append_left _ _
      simp only [receiveChunk, receiver, Option.some.injEq] at stepped
      split at stepped
      · subst next
        exact ⟨rfl, by rw [call]; rfl, chunks rfl⟩
      · subst next
        exact ⟨rfl, by rw [call]; rfl, chunks rfl⟩
      · subst next
        exact ⟨rfl, by rw [call]; rfl, chunks rfl⟩
      · rename_i panicked
        exact (noPanic panicked).elim
    · rename_i closed
      obtain ⟨empty, -⟩ := Channel.pollRecv_eq_disconnected.mp closed
      cases stepped
      refine ⟨state, .aside ?_ receiver (List.sublist_append_left _ _)⟩
      simp [call?, selecting, receiver, wired, empty]
    · cases stepped

private theorem feeds_of_step?
    {client next : Client}
    {action : ClientAction}
    {state : ReceiverState}
    (sound : state.Sound)
    (receiver : client.fileReceiver = some state)
    (stepped : step? codec png client action = some next) :
    ∃ after, Feeds codec client next action state after := by
  by_cases takes : ∃ io, action = .takeChunk io
  · obtain ⟨io, rfl⟩ := takes
    simp only [step?] at stepped
    split at stepped
    · rename_i selecting
      exact feeds_takeChunk sound receiver selecting stepped
    · cases stepped
  · have noCall : client.call? action = none := by
      cases action with
      | takeChunk io => exact (takes ⟨io, rfl⟩).elim
      | _ => rfl
    have aside
        (same : next.fileReceiver = client.fileReceiver)
        (chunks :
          next.transport.chunksToSupervisor.Sublist
            client.transport.chunksToSupervisor) :
        ∃ after, Feeds codec client next action state after :=
      ⟨state, .aside noCall (same.trans receiver)
        (chunks.trans (List.sublist_append_left _ _))⟩
    cases turns_of_step? stepped with
    | transport moved =>
        exact
          ⟨state,
            .aside noCall receiver (chunksToSupervisor_of_moves moved)⟩
    | exited selecting own =>
        exact aside rfl (chunksToSupervisor_dropHandle _)
    | clipboardGone selecting queued =>
        exact aside rfl (chunksToSupervisor_dropHandle _)
    | chunkTaken selecting wired queued => exact (takes ⟨_, rfl⟩).elim
    | filesQuiet selecting => exact (takes ⟨_, rfl⟩).elim
    | _ => exact aside rfl (List.Sublist.refl _)

section Calls

variable
  {saveDir : Path}
  {store : FileStore.Store Path}
  {actions : List ClientAction}
  {client : Client}

/-- A client that saves the files it receives. -/
def startReceiving (saveDir : Path) (store : FileStore.Store Path) : Client :=
  start (some (ReceiverState.start saveDir store))

/-- The calls so far lead to the receiver, and have what has arrived. -/
private structure Fed
    (codec : Codec)
    (png : PngCodec)
    (saveDir : Path)
    (store : FileStore.Store Path)
    (past : List ClientAction)
    (client : Client) : Prop where
  receiver :
    ∃ state,
      client.fileReceiver = some state ∧
        StepRun.run? (ReceiverState.step? codec)
          (ReceiverState.start saveDir store)
          (calls codec png (startReceiving saveDir store) past) = some state
  chunks :
    ((calls codec png (startReceiving saveDir store) past).map
        ReceiverCall.chunk ++ client.transport.chunksToSupervisor).Sublist
      (past.flatMap chunksOf)

private theorem fed_of_run
    (ran :
      StepRun.run? (step? codec png) (startReceiving saveDir store)
        actions = some client) :
    Fed codec png saveDir store actions client := by
  refine StepRun.run?_history
    (motive := fun past client =>
      StepRun.run? (step? codec png) (startReceiving saveDir store) past =
          some client →
        Fed codec png saveDir store past client)
    (fun _ => ⟨⟨_, rfl, rfl⟩, List.Sublist.refl _⟩) ?_ ran ran
  rintro past client action next - came holds stepped -
  obtain ⟨⟨state, receiver, called⟩, chunks⟩ := holds came
  have sound := (ReceiverState.confined_of_run called).sound
  obtain ⟨after, feeds⟩ := feeds_of_step? sound receiver stepped
  have snoc := StepRun.outputs_snoc call? came stepped
  refine ⟨⟨after, feeds.receiver, ?_⟩, ?_⟩
  · rw [calls, snoc]
    exact StepRun.run?_append_eq_some.mpr ⟨state, called, feeds.ran⟩
  · rw [calls, snoc, List.map_append, List.append_assoc,
      List.flatMap_append, List.flatMap_singleton]
    refine ((List.Sublist.refl _).append feeds.chunks).trans ?_
    rw [← List.append_assoc]
    exact chunks.append (List.Sublist.refl _)

end Calls

end Client

/-! ## The copied files -/

/-- The files that a local event hands to the supervisor. -/
def LocalEvent.files (event : LocalEvent) : List LocalFile :=
  match event.change with
  | .files paths => (List.range paths.length).map event.file
  | .text _ | .image _ => []

/-- The chunks that a file is sent as. -/
def LocalFile.frames (codec : Codec) (file : LocalFile) :
    List FileChunkFrame :=
  (sendFileThrough codec file.fileId file.source).frames

/-- The files that are copied in a run. -/
def copiedFiles (actions : List ClientAction) : List LocalFile :=
  (actions.filterMap ClientAction.copied?).flatMap LocalEvent.files

section Copied

variable {codec : Codec} {file : LocalFile}

/-- The chunks of an event are those of its files. -/
private theorem chunks_eq (event : LocalEvent) :
    event.chunks codec = event.files.map (LocalFile.frames codec) := by
  cases change : event.change with
  | files paths =>
      simp only [LocalEvent.chunks, LocalEvent.files, change, List.map_map]
      rfl
  | text content =>
      simp only [LocalEvent.chunks, LocalEvent.files, change, List.map_nil]
  | image image =>
      simp only [LocalEvent.chunks, LocalEvent.files, change, List.map_nil]

/-- The local chunks of a run are those of its copied files. -/
private theorem locals_eq (actions : List ClientAction) :
    actions.flatMap (Client.localsOf codec) =
      (copiedFiles actions).flatMap (LocalFile.frames codec) := by
  have own (action : ClientAction) :
      Client.localsOf codec action =
        (action.copied?.toList.flatMap LocalEvent.files).flatMap
          (LocalFile.frames codec) := by
    cases action with
    | localEvent event =>
        cases event with
        | none => rfl
        | some event =>
            simp [Client.localsOf, ClientAction.copied?, chunks_eq,
              List.flatMap_def]
    | _ => rfl
  induction actions with
  | nil =>
      rfl
  | cons action rest inductionHypothesis =>
      rw [List.flatMap_cons, own, inductionHypothesis]
      cases copied : action.copied? <;> simp [copiedFiles, copied]

/-- The chunks of a loop carry the header, and nobody is stamped on them. -/
private theorem mem_chunkLoop
    {header : FileHeader}
    {index : UInt32}
    {reads : List (List UInt8)}
    {chunk : FileChunkFrame}
    (member : chunk ∈ chunkLoop codec header index reads) :
    chunk.fileId = header.fileId ∧ chunk.fromId = none := by
  induction reads generalizing index with
  | nil =>
      cases member
  | cons bytes rest inductionHypothesis =>
      unfold chunkLoop at member
      split at member
      · cases member
      · rcases List.mem_cons.mp member with rfl | later
        · exact ⟨rfl, rfl⟩
        · exact inductionHypothesis later

/-- The chunks of a file carry its identifier. -/
private theorem mem_frames
    {chunk : FileChunkFrame}
    (member : chunk ∈ file.frames codec) :
    chunk.fileId = file.fileId ∧ chunk.fromId = none := by
  unfold LocalFile.frames sendFileThrough at member
  split at member
  · cases member
  · split at member
    · cases member
    · split at member
      · cases member
      · split at member
        · cases member
        · split at member
          · cases member
          · cases member
          · exact mem_chunkLoop member

/-- Of the chunks of several files, those with its identifier are its own. -/
private theorem filter_frames
    {files : List LocalFile}
    (distinct : (files.map LocalFile.fileId).Nodup)
    (copied : file ∈ files) :
    (files.flatMap (LocalFile.frames codec)).filter
        (fun chunk => chunk.fileId = file.fileId) =
      file.frames codec := by
  have all (other : LocalFile) (same : other.fileId = file.fileId) :
      (other.frames codec).filter
          (fun chunk => chunk.fileId = file.fileId) =
        other.frames codec :=
    List.filter_eq_self.mpr fun chunk member => by
      simp [(mem_frames member).1, same]
  have none (other : LocalFile) (different : other.fileId ≠ file.fileId) :
      (other.frames codec).filter
          (fun chunk => chunk.fileId = file.fileId) = [] :=
    List.filter_eq_nil_iff.mpr fun chunk member => by
      simp [(mem_frames member).1, different]
  induction files with
  | nil =>
      cases copied
  | cons first rest inductionHypothesis =>
      rw [List.map_cons, List.nodup_cons] at distinct
      rw [List.flatMap_cons, List.filter_append]
      rcases List.mem_cons.mp copied with rfl | later
      · rw [all file rfl, List.filter_eq_nil_iff.mpr, List.append_nil]
        intro chunk member
        obtain ⟨other, isOther, carries⟩ := List.mem_flatMap.mp member
        have different : other.fileId ≠ file.fileId := by
          intro same
          exact distinct.1 (same ▸ List.mem_map_of_mem isOther)
        simp [(mem_frames carries).1, different]
      · have different : first.fileId ≠ file.fileId := by
          intro same
          exact distinct.1 (same ▸ List.mem_map_of_mem later)
        rw [none first different, List.nil_append]
        exact inductionHypothesis distinct.2 later

end Copied

/-! ## The whole way -/

section Way

variable {reader : FrameReader} {codec : Codec} {png : PngCodec}
  {config : ServerConfig} {sender : Uuid} {file : LocalFile}

/-- The chunk of a call as its sender wrote it. -/
private def unstamped (call : ReceiverCall) : FileChunkFrame :=
  { call.chunk with fromId := none }

/-- The chunks of stamped frames are the stamped chunks. -/
private theorem chunks_stamped (frames : List Frame) :
    (frames.filterMap (Frame.stamped? sender)).filterMap Frame.fileChunk? =
      (frames.filterMap Frame.fileChunk?).map fun chunk =>
        { chunk with fromId := some sender } := by
  rw [List.filterMap_filterMap, List.map_filterMap]
  refine List.filterMap_congr fun frame _ => ?_
  cases frame <;> rfl

/-- The chunks that an action brings are those of the frame it takes. -/
private theorem chunksOf_eq (actions : List ClientAction) :
    actions.flatMap Client.chunksOf =
      (actions.filterMap ClientAction.arrived?).filterMap
        fun frame => frame.bind Frame.fileChunk? := by
  have own (action : ClientAction) :
      Client.chunksOf action =
        (action.arrived?.bind fun frame =>
          frame.bind Frame.fileChunk?).toList := by
    cases action with
    | transport action =>
        cases action with
        | receive message =>
            cases message with
            | text parsed =>
                cases parsed with
                | none => rfl
                | some frame => cases frame <;> rfl
            | _ => rfl
        | _ => rfl
    | _ => rfl
  induction actions with
  | nil =>
      rfl
  | cons action rest inductionHypothesis =>
      rw [List.flatMap_cons, own, inductionHypothesis]
      cases arrived : action.arrived? with
      | none => simp [arrived]
      | some frame =>
          cases chunk : frame.bind Frame.fileChunk? <;>
            simp [arrived, chunk]

/-- Of a file, each chunk is handed to the receiver at most once. -/
private theorem own_sublist
    {uploads downloads : List ClientAction}
    {actions : List ServerAction}
    {authorFiles : Option ReceiverState}
    {saveDir : Path}
    {store : FileStore.Store Path}
    {author peer : Client}
    {server : Server}
    {receiver : Uuid}
    {connection : Connection}
    (printed : reader.ReadsPrinted)
    (authorRan :
      StepRun.run? (Client.step? codec png) (Client.start authorFiles)
        uploads = some author)
    (serverRan :
      StepRun.run? (Server.step? reader.fromStr config)
        (Server.start config) actions = some server)
    (peerRan :
      StepRun.run? (Client.step? codec png)
        (Client.startReceiving saveDir store) downloads = some peer)
    (known : server.relay.connections receiver = some connection)
    (uploaded :
      (textsOf sender actions).Sublist
        (author.transport.wire.map Frame.text))
    (downloaded :
      downloads.filterMap ClientAction.arrived? <+:
        connection.sent.map fun frame => reader.fromStr frame.text)
    (authorParses : ∀ frame ∈ author.transport.wire, reader.Parses frame)
    (serverParses : ∀ frame ∈ connection.sent, reader.Parses frame)
    (copied : file ∈ copiedFiles uploads)
    (distinct : ((copiedFiles uploads).map LocalFile.fileId).Nodup)
    (elsewhere :
      ∀ chunk ∈ connection.sent.filterMap Frame.fileChunk?,
        chunk.fileId = file.fileId → chunk.fromId = some sender) :
    (((Client.calls codec png (Client.startReceiving saveDir store)
        downloads).filter fun call =>
          call.chunk.fileId = file.fileId).map unstamped).Sublist
      (file.frames codec) := by
  have arrived :
      ((Client.calls codec png (Client.startReceiving saveDir store)
        downloads).map ReceiverCall.chunk).Sublist
          (connection.sent.filterMap Frame.fileChunk?) := by
    have delivered :
        ((connection.sent.map fun frame =>
            reader.fromStr frame.text).filterMap
              fun frame => frame.bind Frame.fileChunk?) =
          connection.sent.filterMap Frame.fileChunk? := by
      rw [List.filterMap_map]
      refine List.filterMap_congr fun frame member => ?_
      simp [FrameReader.fromStr_text printed (serverParses frame member)]
    have fed := (Client.fed_of_run peerRan).chunks
    rw [chunksOf_eq] at fed
    rw [← delivered]
    exact
      ((List.sublist_append_left _ _).trans fed).trans
        (downloaded.sublist.filterMap _)
  have own :
      (connection.sent.filterMap Frame.fileChunk?).filter
          (fun chunk => chunk.fileId = file.fileId) =
        ((connection.sent.filterMap Frame.fileChunk?).filter
          (fun chunk => chunk.fromId = some sender)).filter
            (fun chunk => chunk.fileId = file.fileId) := by
    rw [List.filter_filter]
    refine List.filter_congr fun chunk member => ?_
    by_cases same : chunk.fileId = file.fileId
    · simp [same, elsewhere chunk member same]
    · simp [same]
  have written :
      ((author.transport.wire.filterMap Frame.fileChunk?).filter
          (fun chunk => chunk.fileId = file.fileId)).Sublist
        (file.frames codec) := by
    have chunks := Client.chunks_written authorRan
    rw [locals_eq] at chunks
    rw [← filter_frames distinct copied]
    exact chunks.filter _
  have fromFile :
      ((((author.transport.wire.filterMap Frame.fileChunk?).map
          fun chunk => { chunk with fromId := some sender }).filter
            (fun chunk => chunk.fileId = file.fileId)).map
              fun chunk => { chunk with fromId := none }).Sublist
        (file.frames codec) := by
    have plain :
        (file.frames codec).map (fun chunk => { chunk with fromId := none }) =
          file.frames codec := by
      refine (List.map_congr_left fun chunk member => ?_).trans
        (List.map_id _)
      have nobody := (mem_frames member).2
      cases chunk
      subst nobody
      rfl
    rw [List.filter_map, List.map_map, ← plain]
    exact written.map _
  calc
    List.Sublist _
        (((Client.calls codec png (Client.startReceiving saveDir store)
          downloads).map ReceiverCall.chunk).filter
            (fun chunk => chunk.fileId = file.fileId) |>.map
              fun chunk => { chunk with fromId := none }) := by
      rw [List.filter_map, List.map_map]
      exact List.Sublist.refl _
    List.Sublist _
        (((connection.sent.filterMap Frame.fileChunk?).filter
          (fun chunk => chunk.fileId = file.fileId)).map
            fun chunk => { chunk with fromId := none }) :=
      (arrived.filter _).map _
    List.Sublist _ _ := by
      rw [own]
      refine List.Sublist.trans (List.Sublist.map _ (List.Sublist.filter _ ?_))
        fromFile
      rw [← chunks_stamped]
      exact
        (Server.chunks_sent_in_order serverRan known sender).trans
          (select_read_sublist Frame.fileChunk? printed uploaded authorParses)

/-- The chunks of a file are different ones. -/
private theorem nodup_frames
    {content : List UInt8}
    (source : file.source.Holds content)
    (nonempty : content ≠ [])
    (countFits : chunkCount content.length ≤ maxU32) :
    (file.frames codec).Nodup := by
  obtain ⟨header, announces, -, sent⟩ :=
    sendFileThrough_eq codec file.fileId source nonempty countFits
  rw [LocalFile.frames, sent, List.nodup_iff_getElem?_ne_getElem?]
  intro first second before bound same
  rw [List.length_mapIdx] at bound
  have isFirst := List.getElem?_eq_getElem (Nat.lt_trans before bound)
  have isSecond := List.getElem?_eq_getElem bound
  rw [List.getElem?_mapIdx, List.getElem?_mapIdx, isFirst, isSecond,
    Option.map_some, Option.map_some, Option.some.injEq] at same
  have position :=
    IsPiece.unique announces
      (⟨_, isFirst, rfl⟩ : IsPiece codec header file.source.reads first
        (header.chunk codec (UInt32.ofNat first) _))
      ⟨_, isSecond, same⟩
  omega

/-- A call brings a chunk of its file that no earlier call has brought. -/
private theorem not_delivered_before
    {past later : List ReceiverCall}
    {call : ReceiverCall}
    (once :
      (((past ++ call :: later).filter fun each =>
        each.chunk.fileId = file.fileId).map unstamped).Sublist
          (file.frames codec))
    (distinct : (file.frames codec).Nodup)
    (isOwn : call.chunk.fileId = file.fileId) :
    ¬ Delivered (file.frames codec) past := by
  intro delivered
  rw [List.filter_append, List.filter_cons_of_pos (by simpa using isOwn),
    List.map_append, List.map_cons] at once
  obtain ⟨earlier, member, same⟩ :=
    delivered (unstamped call)
      (once.subset (List.mem_append_right _ List.mem_cons_self))
  have own : earlier.chunk.fileId = file.fileId := by
    have fileIds := congrArg FileChunkFrame.fileId same
    exact fileIds.trans isOwn
  refine List.disjoint_of_nodup_append (once.nodup distinct)
    (List.mem_map.mpr ⟨earlier, ?_, same⟩) List.mem_cons_self
  exact List.mem_filter.mpr ⟨member, by simpa using own⟩

/-- What a call with a chunk of a file comes to, if no chunk comes twice. -/
private theorem call_outcome
    {content : List UInt8}
    {saveDir : Path}
    {store : FileStore.Store Path}
    {past later : List ReceiverCall}
    {call : ReceiverCall}
    {state : ReceiverState}
    (lawful : codec.Lawful)
    (source : file.source.Holds content)
    (nonempty : content ≠ [])
    (countFits : chunkCount content.length ≤ maxU32)
    (once :
      (((past ++ call :: later).filter fun each =>
        each.chunk.fileId = file.fileId).map unstamped).Sublist
          (file.frames codec))
    (succeed : ∀ each ∈ past ++ call :: later, each.io.Succeeds)
    (ran :
      StepRun.run? (ReceiverState.step? codec)
        (ReceiverState.start saveDir store) past = some state)
    (isOwn : call.chunk.fileId = file.fileId) :
    ((ReceiverState.receiveChunk codec call.io state call.chunk).result =
          .ok none ∧
        ¬ Delivered (file.frames codec) (past ++ [call])) ∨
      ∃ path,
        (ReceiverState.receiveChunk codec call.io state call.chunk).result =
            .ok (some path) ∧
          (ReceiverState.receiveChunk codec call.io state
              call.chunk).state.store.read path = some content ∧
          Delivered (file.frames codec) (past ++ [call]) := by
  have distinct : (file.frames codec).Nodup :=
    nodup_frames source nonempty countFits
  have missing := not_delivered_before once distinct isOwn
  have carried :
      ∀ each ∈ past ++ call :: later,
        each.chunk.fileId = file.fileId →
          CarriedBy (file.frames codec) each.chunk := by
    intro each member own
    exact once.subset
      (List.mem_map.mpr
        ⟨each, List.mem_filter.mpr ⟨member, by simpa using own⟩, rfl⟩)
  have upTo {each : ReceiverCall} (member : each ∈ past ++ [call]) :
      each ∈ past ++ call :: later := by
    rw [List.append_cons]
    exact List.mem_append_left later member
  exact
    ReceiverState.waits_or_saves lawful source nonempty countFits
      (fun each member => succeed each (upTo member))
      (fun each member => carried each (upTo member)) isOwn ran missing

/-- Once every chunk has been delivered, no further one comes. -/
private theorem no_more_of_delivered
    {past later : List ReceiverCall}
    (once :
      (((past ++ later).filter fun each =>
        each.chunk.fileId = file.fileId).map unstamped).Sublist
          (file.frames codec))
    (distinct : (file.frames codec).Nodup)
    (delivered : Delivered (file.frames codec) past)
    {other : ReceiverCall}
    (member : other ∈ later) :
    other.chunk.fileId ≠ file.fileId := by
  intro isOwn
  obtain ⟨between, rest, shape⟩ := List.append_of_mem member
  rw [shape, ← List.append_assoc] at once
  refine not_delivered_before once distinct isOwn fun frame isFrame => ?_
  obtain ⟨call, earlier, same⟩ := delivered frame isFrame
  exact ⟨call, List.mem_append_left _ earlier, same⟩

/-- When every chunk has been delivered, some call has brought the last one. -/
private theorem exists_last_call
    {content : List UInt8}
    {calls : List ReceiverCall}
    (source : file.source.Holds content)
    (nonempty : content ≠ [])
    (countFits : chunkCount content.length ≤ maxU32)
    (delivered : Delivered (file.frames codec) calls) :
    ∃ past call later,
      calls = past ++ call :: later ∧
        call.chunk.fileId = file.fileId ∧
        Delivered (file.frames codec) (past ++ [call]) := by
  induction calls using List.reverseRecOn with
  | nil =>
      obtain ⟨header, announces, -, sent⟩ :=
        sendFileThrough_eq codec file.fileId source nonempty countFits
      have some : file.source.reads ≠ [] := by
        intro empty
        have reads := source.reads
        rw [empty] at reads
        exact nonempty reads.symm
      obtain ⟨bytes, rest, shape⟩ := List.exists_cons_of_ne_nil some
      obtain ⟨call, member, -⟩ :=
        delivered (header.chunk codec 0 bytes) (by
          rw [LocalFile.frames, sent, shape, List.mapIdx_cons]
          exact List.mem_cons_self)
      cases member
  | append_singleton past call inductionHypothesis =>
      by_cases isOwn : call.chunk.fileId = file.fileId
      · exact ⟨past, call, [], rfl, isOwn, delivered⟩
      · obtain ⟨before, last, after, rfl, own, all⟩ :=
          inductionHypothesis fun frame isFrame => by
            obtain ⟨each, member, same⟩ := delivered frame isFrame
            rcases List.mem_append.mp member with earlier | isLast
            · exact ⟨each, earlier, same⟩
            · rw [List.mem_singleton] at isLast
              subst each
              have fileIds := congrArg FileChunkFrame.fileId same
              exact (isOwn (fileIds.trans (mem_frames isFrame).1)).elim
        exact ⟨before, last, after ++ [call], by simp, own, all⟩

/--
A copied file arrives whole, once, or not at all.  Take any run of a client,
of the server and of a second client that saves files, joined by what their
sockets deliver, and a nonempty file that the first client has copied and that
has an identifier of its own.  A call of the file receiver with one of its
chunks returns `Ok(None)` as long as a chunk is missing; the call with the last
missing chunk saves the file byte for byte, and no chunk of the file comes
after it.  If every chunk has come, there was such a call.
-/
theorem files_reach_disk
    {uploads downloads : List ClientAction}
    {actions : List ServerAction}
    {authorFiles : Option ReceiverState}
    {saveDir : Path}
    {store : FileStore.Store Path}
    {author peer : Client}
    {server : Server}
    {receiver : Uuid}
    {connection : Connection}
    {content : List UInt8}
    {calls : List ReceiverCall}
    (printed : reader.ReadsPrinted)
    (lawful : codec.Lawful)
    (authorRan :
      StepRun.run? (Client.step? codec png) (Client.start authorFiles)
        uploads = some author)
    (serverRan :
      StepRun.run? (Server.step? reader.fromStr config)
        (Server.start config) actions = some server)
    (peerRan :
      StepRun.run? (Client.step? codec png)
        (Client.startReceiving saveDir store) downloads = some peer)
    (called :
      Client.calls codec png (Client.startReceiving saveDir store)
        downloads = calls)
    (known : server.relay.connections receiver = some connection)
    (uploaded :
      (textsOf sender actions).Sublist
        (author.transport.wire.map Frame.text))
    (downloaded :
      downloads.filterMap ClientAction.arrived? <+:
        connection.sent.map fun frame => reader.fromStr frame.text)
    (authorParses : ∀ frame ∈ author.transport.wire, reader.Parses frame)
    (serverParses : ∀ frame ∈ connection.sent, reader.Parses frame)
    (copied : file ∈ copiedFiles uploads)
    (distinct : ((copiedFiles uploads).map LocalFile.fileId).Nodup)
    (elsewhere :
      ∀ chunk ∈ connection.sent.filterMap Frame.fileChunk?,
        chunk.fileId = file.fileId → chunk.fromId = some sender)
    (source : file.source.Holds content)
    (nonempty : content ≠ [])
    (countFits : chunkCount content.length ≤ maxU32)
    (succeed : ∀ call ∈ calls, call.io.Succeeds) :
    (∀ past call later state,
      calls = past ++ call :: later →
      StepRun.run? (ReceiverState.step? codec)
        (ReceiverState.start saveDir store) past = some state →
      call.chunk.fileId = file.fileId →
        ((ReceiverState.receiveChunk codec call.io state
              call.chunk).result = .ok none ∧
            ¬ Delivered (file.frames codec) (past ++ [call])) ∨
          ∃ path,
            (ReceiverState.receiveChunk codec call.io state
                  call.chunk).result = .ok (some path) ∧
              (ReceiverState.receiveChunk codec call.io state
                  call.chunk).state.store.read path = some content ∧
              Delivered (file.frames codec) (past ++ [call]) ∧
              ∀ other ∈ later, other.chunk.fileId ≠ file.fileId) ∧
    (Delivered (file.frames codec) calls →
      ∃ past call later state path,
        calls = past ++ call :: later ∧
          StepRun.run? (ReceiverState.step? codec)
            (ReceiverState.start saveDir store) past = some state ∧
          call.chunk.fileId = file.fileId ∧
          (ReceiverState.receiveChunk codec call.io state
              call.chunk).result = .ok (some path) ∧
          (ReceiverState.receiveChunk codec call.io state
              call.chunk).state.store.read path = some content) := by
  have once :=
    own_sublist printed authorRan serverRan peerRan known uploaded
      downloaded authorParses serverParses copied distinct elsewhere
  rw [called] at once
  constructor
  · rintro past call later state rfl ran isOwn
    rcases call_outcome lawful source nonempty countFits once succeed ran
      isOwn with pending | ⟨path, returned, saved, delivered⟩
    · exact .inl pending
    · refine .inr
        ⟨path, returned, saved, delivered, fun other member => ?_⟩
      rw [List.append_cons] at once
      exact no_more_of_delivered once
        (nodup_frames source nonempty countFits) delivered member
  · intro delivered
    obtain ⟨past, call, later, rfl, isOwn, all⟩ :=
      exists_last_call source nonempty countFits delivered
    obtain ⟨_, -, ran⟩ := (Client.fed_of_run peerRan).receiver
    rw [called] at ran
    obtain ⟨state, came, -⟩ := StepRun.run?_append_eq_some.mp ran
    rcases call_outcome lawful source nonempty countFits once succeed came
      isOwn with ⟨-, missing⟩ | ⟨path, returned, saved, -⟩
    · exact (missing all).elim
    · exact ⟨past, call, later, state, path, rfl, came, isOwn, returned,
        saved⟩

end Way

/-- What the reader makes of a chunk that a desktop client has written. -/
private theorem readerTurn_chunk
    {reader : FrameReader}
    {config : ServerConfig}
    {chunk : FileChunkFrame}
    (printed : reader.ReadsPrinted)
    (parses : reader.Parses (.fileChunk chunk))
    (fits :
      (Frame.fileChunk chunk).text.utf8ByteSize ≤ config.maxFrameBytes.toNat)
    (valid : chunk.validate = .ok ())
    (unstamped : { chunk with fromId := none } = chunk)
    (sender : Uuid) :
    readerTurn reader.fromStr config sender
        (.message (.text (Frame.fileChunk chunk).text)) =
      .publishing (.publishFile sender chunk) := by
  have admitted :
      (serverLimits config.maxFrameBytes.toNat).Admits
        (ClientMessage.text (Frame.fileChunk chunk).text).size :=
    ⟨fits, fits⟩
  simp only [readerTurn, if_pos admitted, dispatch, readText,
    FrameReader.fromStr_text printed parses, valid, unstamped]

section Landing

open ReceiverState

/-- The chunks of the sample file, as its sender writes them. -/
def firstChunk : FileChunkFrame :=
  twoPieceHeader.chunk sampleCodec 0 firstPiece

/-- Its second chunk. -/
def secondChunk : FileChunkFrame :=
  twoPieceHeader.chunk sampleCodec 1 [98]

/-- The frames on the wire when client 2 gets a copied file of client 1. -/
def landingFrames : List Frame :=
  [.fileChunk firstChunk, .fileChunk secondChunk,
    .fileChunk firstCall.chunk, .fileChunk secondCall.chunk,
    Relay.welcomeFrame ⟨2⟩ none]

/-- The parsers of the sample know these frames. -/
def landingReader : FrameReader :=
  .knowing landingFrames

/-- Base64 text is plain: it takes one byte a character and two quotes. -/
private theorem size_stringText_encode (bytes : List UInt8) :
    JsonText.size (JsonText.stringText (Base64.encode bytes)) =
      (bytes.length + 2) / 3 * 4 + 2 := by
  have checked :
      ('=' :: Base64.alphabet).all
          (fun c => decide (JsonText.Plain c)) = true := by
    decide
  rw [JsonText.size_stringText_of_plain, Base64.encode, String.toList_ofList,
    Base64.length_encodeGroups]
  intro c member
  rw [Base64.encode, String.toList_ofList] at member
  exact of_decide_eq_true
    (List.all_eq_true.mp checked c (Base64.mem_of_mem_encodeGroups member))

/-- The first chunk with another payload, short enough to be printed here. -/
private def shortChunk : FileChunkFrame :=
  { firstChunk with payloadB64 := "Yg==" }

/-- The size of the first chunk. -/
private theorem utf8ByteSize_firstChunk :
    (Frame.fileChunk firstChunk).text.utf8ByteSize = 5592720 := by
  have short : (Frame.fileChunk shortChunk).text.utf8ByteSize = 316 := by
    decide +kernel
  have shortPayload :
      JsonText.size (JsonText.stringText shortChunk.payloadB64) = 6 := by
    decide
  have payload :
      JsonText.size (JsonText.stringText firstChunk.payloadB64) = 5592410 := by
    rw [firstChunk, FileHeader.chunk, sampleCodec, size_stringText_encode,
      length_firstPiece]
    decide
  have differ := @utf8ByteSize_of_payload shortChunk firstChunk rfl
  rw [short, shortPayload, payload] at differ
  -- `omega` would evaluate the text
  exact Nat.add_right_cancel differ

private theorem utf8ByteSize_secondChunk :
    (Frame.fileChunk secondChunk).text.utf8ByteSize = 316 := by
  decide +kernel

/-- The texts of the sample are different ones. -/
private theorem landing_texts_nodup :
    (landingFrames.map Frame.text).Nodup := by
  -- their lengths differ already
  refine List.Nodup.of_map String.utf8ByteSize ?_
  have stampedFirst :
      (Frame.fileChunk firstCall.chunk).text.utf8ByteSize = 5592766 := by
    have added := @utf8ByteSize_stamped_chunk firstChunk rfl ⟨1⟩
    rw [utf8ByteSize_firstChunk] at added
    exact added
  have stampedSecond :
      (Frame.fileChunk secondCall.chunk).text.utf8ByteSize = 362 := by
    have added := @utf8ByteSize_stamped_chunk secondChunk rfl ⟨1⟩
    rw [utf8ByteSize_secondChunk] at added
    exact added
  have welcome :
      (Relay.welcomeFrame ⟨2⟩ none).text.utf8ByteSize = 117 := by
    decide +kernel
  simp only [landingFrames, List.map_cons, List.map_nil,
    utf8ByteSize_firstChunk, utf8ByteSize_secondChunk, stampedFirst,
    stampedSecond, welcome]
  decide

/-- The parsers of the sample are right about its frames. -/
private theorem landingReader_parses
    {frame : Frame}
    (member : frame ∈ landingFrames) :
    landingReader.Parses frame :=
  FrameReader.parses_knowing landing_texts_nodup member

/-- A desktop client copies the sample file and writes its chunks. -/
def landingUp : List ClientAction :=
  [.localEvent
      (some
        { change := .files [sampleDir]
          id := ⟨5⟩
          ts := 0
          file := fun _ => ⟨⟨9⟩, twoPieceFile⟩ }),
    .sendChunk,
    .sendChunk,
    .transport (.connect true),
    .transport (.receive (.text (some (Relay.welcomeFrame ⟨1⟩ none)))),
    .transport .takeChunk,
    .transport (.write true),
    .transport .takeChunk,
    .transport (.write true)]

/-- The client has sent its file. -/
private theorem ran_landingUp :
    ∃ author,
      StepRun.run? (Client.step? sampleCodec samplePng) (Client.start none)
          landingUp = some author ∧
        author.transport.wire =
          [.fileChunk firstChunk, .fileChunk secondChunk] :=
  ⟨_, rfl, rfl⟩

/-- A server for two clients with the default limit on frames. -/
def landingConfig : ServerConfig :=
  { Server.pairConfig with maxFrameBytes := .ofNat maxFrameBytes }

/-- Client 1 sends the chunks, and client 2 is sent them after its welcome. -/
def landing : List ServerAction :=
  Server.joining ⟨1⟩ ++ Server.joining ⟨2⟩ ++
    [.receive ⟨1⟩ (.message (.text (Frame.fileChunk firstChunk).text)),
      .publish ⟨1⟩, .process (.publishFile ⟨1⟩ firstChunk),
      .receive ⟨1⟩ (.message (.text (Frame.fileChunk secondChunk).text)),
      .publish ⟨1⟩, .process (.publishFile ⟨1⟩ secondChunk),
      .write ⟨2⟩, .write ⟨2⟩, .write ⟨2⟩]

/-- Both chunks of the sample are valid. -/
private theorem validate_landingChunks :
    firstChunk.validate = .ok () ∧ secondChunk.validate = .ok () := by
  constructor
  · rw [FileChunkFrame.validate_eq_ok]
    refine ⟨by decide, by decide, by decide, by decide, ?_, by decide⟩
    exact lawful_sampleCodec.encode_ne_empty (by decide)
  · decide +kernel

/-- The server sends its welcome and the chunks to the second client. -/
private theorem sent_landing :
    ∃ server,
      StepRun.run? (Server.step? landingReader.fromStr landingConfig)
          (Server.start landingConfig) landing = some server ∧
        (server.relay.connections ⟨2⟩).map Connection.sent =
          some
            [Relay.welcomeFrame ⟨2⟩ none, .fileChunk firstCall.chunk,
              .fileChunk secondCall.chunk] := by
  have limit : landingConfig.maxFrameBytes.toNat = maxFrameBytes := by
    decide +kernel
  have printed := FrameReader.readsPrinted_knowing landingFrames
  have firstTurn :=
    @readerTurn_chunk landingReader landingConfig firstChunk printed
      (landingReader_parses (by simp [landingFrames]))
      (by rw [utf8ByteSize_firstChunk, limit]; decide)
      validate_landingChunks.1 rfl ⟨1⟩
  have secondTurn :=
    @readerTurn_chunk landingReader landingConfig secondChunk printed
      (landingReader_parses (by simp [landingFrames]))
      (by rw [utf8ByteSize_secondChunk, limit]; decide)
      validate_landingChunks.2 rfl ⟨1⟩
  -- the texts are too large to be compared, so the steps are taken one by one
  refine StepRun.exists_run?_append rfl ?_
  refine StepRun.exists_run?_cons (Server.step?_receive rfl rfl firstTurn) ?_
  refine StepRun.exists_run?_cons rfl ?_
  refine StepRun.exists_run?_cons (Server.step?_process rfl rfl) ?_
  refine StepRun.exists_run?_cons (Server.step?_receive rfl rfl secondTurn) ?_
  refine StepRun.exists_run?_cons rfl ?_
  refine StepRun.exists_run?_cons (Server.step?_process rfl rfl) ?_
  refine StepRun.exists_run?_cons rfl ?_
  refine StepRun.exists_run?_cons rfl ?_
  refine StepRun.exists_run?_cons rfl ?_
  exact ⟨_, rfl, rfl⟩

/-- Both chunks arrive at another desktop client. -/
def landingArrivals : List ClientAction :=
  [.transport (.connect true),
    .transport (.receive (.text (some (Relay.welcomeFrame ⟨2⟩ none)))),
    .transport (.receive (.text (some (.fileChunk firstCall.chunk)))),
    .transport .forward,
    .transport (.receive (.text (some (.fileChunk secondCall.chunk)))),
    .transport .forward]

/-- It receives them, one after the other. -/
def landingDown : List ClientAction :=
  landingArrivals ++ [.takeChunk firstCall.io] ++ [.takeChunk secondCall.io]

/-- The client before anything has arrived. -/
def landingStart : Client :=
  Client.startReceiving sampleDir FileStore.Store.empty

/-- The first chunk does not complete the file. -/
private theorem firstCall_waits :
    (receiveChunk sampleCodec firstCall.io
        (start sampleDir FileStore.Store.empty) firstCall.chunk).result =
      .ok none := by
  have outcome :=
    @waits_or_saves sampleCodec twoPieceFile (firstPiece ++ [98]) ⟨9⟩
      sampleDir FileStore.Store.empty [] firstCall
      (start sampleDir FileStore.Store.empty)
      lawful_sampleCodec holds_twoPieceFile (by simp) fits_twoPieceFile
      (fun each member => List.mem_singleton.mp member ▸ rfl)
      (fun each member _ =>
        carriedBy_twoPieceFrames
          (List.mem_cons.mpr (.inl (List.mem_singleton.mp member))))
      rfl rfl
      (not_delivered_twoPieceFrames (by simp))
  rcases outcome with ⟨waits, -⟩ | ⟨path, -, -, all⟩
  · exact waits
  · -- the second frame has not come
    obtain ⟨call, member, same⟩ :=
      all secondChunk (by
        rw [← twoPieceFrames, twoPieceFrames_eq]
        simp [secondChunk])
    rw [List.nil_append, List.mem_singleton] at member
    subst call
    exact absurd (congrArg FileChunkFrame.chunkIndex same) (by decide)

/-- The client has got both chunks and made both calls. -/
private theorem ran_landingDown :
    (∃ peer,
      StepRun.run? (Client.step? sampleCodec samplePng) landingStart
        landingDown = some peer) ∧
      Client.calls sampleCodec samplePng landingStart landingDown =
        [firstCall, secondCall] := by
  have arrived :
      ∃ fed,
        StepRun.run? (Client.step? sampleCodec samplePng) landingStart
            landingArrivals = some fed ∧
          Client.call? fed (.takeChunk firstCall.io) = some firstCall ∧
          ∃ next,
            Client.step? sampleCodec samplePng fed (.takeChunk firstCall.io) =
                some next ∧
              Client.call? next (.takeChunk secondCall.io) =
                  some secondCall ∧
              ∃ last,
                Client.step? sampleCodec samplePng next
                  (.takeChunk secondCall.io) = some last :=
    ⟨_, rfl, rfl, _,
      congrArg some (Client.receiveChunk_of_waits rfl firstCall_waits), rfl,
      _, rfl⟩
  obtain ⟨fed, arrived, first, next, taken, second, last, again⟩ := arrived
  have once := StepRun.run?_snoc_eq_some.mpr ⟨fed, arrived, taken⟩
  have silent :
      Client.calls sampleCodec samplePng landingStart landingArrivals = [] :=
    rfl
  have twice := StepRun.run?_snoc_eq_some.mpr ⟨next, once, again⟩
  refine ⟨⟨last, twice⟩, ?_⟩
  rw [Client.calls] at silent ⊢
  rw [landingDown, StepRun.outputs_snoc _ once again,
    StepRun.outputs_snoc _ arrived taken, silent, first, second]
  rfl

/-- On the sample the file that was copied has been saved. -/
theorem files_reach_disk_sample :
    ∃ past call later state path,
      Client.calls sampleCodec samplePng landingStart landingDown =
          past ++ call :: later ∧
        StepRun.run? (ReceiverState.step? sampleCodec)
          (start sampleDir FileStore.Store.empty) past = some state ∧
        call.chunk.fileId = ⟨9⟩ ∧
        (receiveChunk sampleCodec call.io state call.chunk).result =
          .ok (some path) ∧
        (receiveChunk sampleCodec call.io state
            call.chunk).state.store.read path =
          some (firstPiece ++ [98]) := by
  obtain ⟨author, authorRan, isWritten⟩ := ran_landingUp
  obtain ⟨server, serverRan, isSent⟩ := sent_landing
  obtain ⟨connection, known, sent⟩ := Option.map_eq_some_iff.mp isSent
  obtain ⟨⟨peer, peerRan⟩, called⟩ := ran_landingDown
  rw [called]
  have authorParses :
      ∀ frame ∈ author.transport.wire, landingReader.Parses frame := by
    intro frame member
    refine landingReader_parses (List.Sublist.subset ?_ member)
    rw [isWritten]
    exact (List.prefix_append _ _).sublist
  have serverParses :
      ∀ frame ∈ connection.sent, landingReader.Parses frame := by
    intro frame member
    rw [sent] at member
    refine landingReader_parses ?_
    simp only [List.mem_cons, List.not_mem_nil, or_false] at member
    rcases member with rfl | rfl | rfl <;> simp [landingFrames]
  have uploaded :
      (textsOf ⟨1⟩ landing).Sublist
        (author.transport.wire.map Frame.text) := by
    rw [isWritten]
    exact List.Sublist.refl _
  have downloaded :
      landingDown.filterMap ClientAction.arrived? <+:
        connection.sent.map fun frame =>
          landingReader.fromStr frame.text := by
    have readBack :
        connection.sent.map
            (fun frame => landingReader.fromStr frame.text) =
          connection.sent.map some :=
      List.map_congr_left fun frame member =>
        FrameReader.fromStr_text
          (FrameReader.readsPrinted_knowing landingFrames)
          (serverParses frame member)
    rw [readBack, sent]
    exact List.prefix_refl _
  have elsewhere :
      ∀ chunk ∈ connection.sent.filterMap Frame.fileChunk?,
        chunk.fileId = ⟨9⟩ → chunk.fromId = some ⟨1⟩ := by
    intro chunk member _
    rw [sent] at member
    change chunk ∈ [firstCall.chunk, secondCall.chunk] at member
    simp only [List.mem_cons, List.not_mem_nil, or_false] at member
    rcases member with rfl | rfl <;> rfl
  exact
    (@files_reach_disk landingReader sampleCodec samplePng landingConfig ⟨1⟩
      ⟨⟨9⟩, twoPieceFile⟩ landingUp landingDown landing none sampleDir
      FileStore.Store.empty author peer server ⟨2⟩ connection
      (firstPiece ++ [98]) [firstCall, secondCall]
      (FrameReader.readsPrinted_knowing landingFrames) lawful_sampleCodec
      authorRan serverRan peerRan called known uploaded downloaded
      authorParses serverParses (List.mem_singleton.mpr rfl) (by decide)
      elsewhere holds_twoPieceFile (by simp) fits_twoPieceFile (by
        intro call member
        simp only [List.mem_cons, List.not_mem_nil, or_false] at member
        rcases member with rfl | rfl <;> rfl)).2
      (delivered_twoPieceFrames (by simp) (by simp))

end Landing

end ClipboardWire
