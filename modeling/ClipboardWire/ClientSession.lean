import ClipboardWire.ClientReplay

namespace ClipboardWire

open BoundedChannel

/-!
# A client with its inputs, and the amounts that wait

A session is a client together with everything that its user copies and its
hub sends.  While the supervisor queues the chunks of local files it serves
nothing else, and while the transport task hands an arrival to the supervisor
it serves nothing else either; when both wait for room, nothing leads out.
No step adds more to the waiting amounts than the inputs it takes, so inputs
that fit the channels on one side exclude the circular wait.
-/

/-- What the hub sends over one connection: a welcome, then other frames. -/
structure HubConnection where
  welcome : WelcomeFrame
  frames : List Frame

/-- The clips that arrive over a connection, the cached one included. -/
def HubConnection.clips (connection : HubConnection) : List ClipFrame :=
  connection.welcome.lastClip.toList ++
    connection.frames.filterMap Frame.clip?

/-- The file chunks that arrive over a connection. -/
def HubConnection.fileChunks
    (connection : HubConnection) :
    List FileChunkFrame :=
  connection.frames.filterMap Frame.fileChunk?

/-- The supervisor waits for room in the outbound-files channel. -/
def Client.SupervisorWaits (client : Client) : Prop :=
  ∃ chunk rest later,
    client.task = .sending chunk rest later ∧
      client.transport.outboundFiles.pollSend chunk = .pending

/-- The task waits for room in the inbound or the inbound-files channel. -/
def Transport.Waits (transport : Transport) : Prop :=
  (∃ clip,
    (transport.task = .surfacing clip ∨
        transport.task = .forwardingClip clip) ∧
      transport.inbound.pollSend clip = .pending) ∨
    ∃ chunk files,
      transport.task = .forwardingChunk chunk ∧
        transport.inboundFiles = some files ∧
          files.pollSend chunk = .pending

/-- Supervisor and transport wait for each other. -/
def Client.Deadlocked (client : Client) : Prop :=
  client.SupervisorWaits ∧ client.transport.Waits

/-- A transport that waits for the supervisor takes no step. -/
theorem Transport.Waits.step?_eq_none
    {transport : Transport}
    (waits : transport.Waits)
    (action : TransportAction) :
    transport.step? action = none := by
  rcases waits with
    ⟨clip, task | task, full⟩ | ⟨chunk, files, task, wired, full⟩
  · cases action <;>
      simp [step?, forward?, takeClip?, takeChunk?, write?, task, full]
  · cases action <;>
      simp [step?, forward?, takeClip?, takeChunk?, write?, task, full]
  · cases action <;>
      simp [step?, forward?, takeClip?, takeChunk?, write?, task, wired, full]

/-- Nothing leads out of a circular wait. -/
theorem Client.Deadlocked.step?_eq_none
    {codec : Codec}
    {png : PngCodec}
    {client : Client}
    (deadlocked : client.Deadlocked)
    (action : ClientAction) :
    client.step? codec png action = none := by
  rcases deadlocked with ⟨⟨chunk, rest, later, task, full⟩, waits⟩
  cases action with
  | transport action =>
      simp [step?, waits.step?_eq_none action]
  | localEvent event =>
      simp [step?, task]
  | takeClip alive =>
      simp [step?, task]
  | takeChunk io =>
      simp [step?, task]
  | deadline alive =>
      simp [step?, task]
  | sendChunk =>
      simp [step?, sendChunk?, task, full]

/-- A client with the inputs that are still to come. -/
structure Session where
  client : Client
  events : List LocalEvent
  connections : List HubConnection
  /-- The welcome of the current connection, until it arrives. -/
  welcome : Option WelcomeFrame
  /-- The frames of the current connection that have not arrived. -/
  arriving : List Frame

/-- The scheduler's choices in a session. -/
inductive SessionAction where
  /-- The next connection is established. -/
  | connect
  /-- The next frame of the connection arrives. -/
  | arrive
  /-- The next local event is handled. -/
  | localEvent
  /-- Any step that takes no input. -/
  | internal (action : ClientAction)

/-- Steps that take a connection, a frame or a local event. -/
def ClientAction.TakesInput : ClientAction → Bool
  | .transport (.connect true) => true
  | .transport (.receive (.text (some _))) => true
  | .localEvent (some _) => true
  | _ => false

namespace Session

/-- A client that has not been connected, and its inputs. -/
def start
    (fileReceiver : Option ReceiverState)
    (events : List LocalEvent)
    (connections : List HubConnection) :
    Session where
  client := Client.start fileReceiver
  events := events
  connections := connections
  welcome := none
  arriving := []

section

variable (codec : Codec) (png : PngCodec)

/-- One step of a session. -/
def step? (session : Session) : SessionAction → Option Session
  | .connect =>
      match session.connections with
      | [] =>
          none
      | connection :: rest =>
          match session.client.step? codec png
              (.transport (.connect true)) with
          | none =>
              none
          | some client =>
              some
                { session with
                  client := client
                  connections := rest
                  welcome := some connection.welcome
                  arriving := connection.frames }
  | .arrive =>
      match session.welcome, session.arriving with
      | some welcome, _ =>
          match session.client.step? codec png
              (.transport (.receive (.text (some (.welcome welcome))))) with
          | none =>
              none
          | some client =>
              some { session with client := client, welcome := none }
      | none, frame :: rest =>
          match session.client.step? codec png
              (.transport (.receive (.text (some frame)))) with
          | none =>
              none
          | some client =>
              some { session with client := client, arriving := rest }
      | none, [] =>
          none
  | .localEvent =>
      match session.events with
      | [] =>
          none
      | event :: rest =>
          match session.client.step? codec png
              (.localEvent (some event)) with
          | none =>
              none
          | some client =>
              some { session with client := client, events := rest }
  | .internal action =>
      if action.TakesInput then
        none
      else
        match session.client.step? codec png action with
        | none => none
        | some client => some { session with client := client }

end

end Session

namespace Transport

/-- File chunks on their way to the supervisor, oldest first. -/
def chunksToSupervisor (transport : Transport) : List FileChunkFrame :=
  (match transport.inboundFiles with
    | some files => files.buffer
    | none => []) ++
  match transport.task with
  | .forwardingChunk chunk => [chunk]
  | _ => []

/-- The clips that an action brings. -/
def clipsOf (transport : Transport) : TransportAction → List ClipFrame
  | .receive (.text (some (.clip clip))) =>
      [clip]
  | .receive (.text (some (.welcome welcome))) =>
      if transport.task = .awaitingWelcome then
        welcome.lastClip.toList
      else
        []
  | _ =>
      []

/-- The file chunks that an action brings. -/
def chunksOf : TransportAction → List FileChunkFrame
  | .receive (.text (some (.fileChunk chunk))) => [chunk]
  | _ => []

theorem lengths_of_moves
    {transport next : Transport}
    {action : TransportAction}
    (moved : Moves transport action next) :
    next.toSupervisor.length ≤
        transport.toSupervisor.length +
          (transport.clipsOf action).length ∧
      next.chunksToSupervisor.length ≤
        transport.chunksToSupervisor.length + (chunksOf action).length ∧
      next.outboundFiles.buffer.length ≤
        transport.outboundFiles.buffer.length := by
  cases moved with
  | ended ends =>
      rcases endConnection_eq transport with isStop | ⟨-, sleeps⟩
      · rw [isStop]
        cases wired : transport.inboundFiles <;>
          simp [stop, toSupervisor, inHand, chunksToSupervisor, wired] <;>
            omega
      · rw [sleeps]
        simp only [toSupervisor, inHand, chunksToSupervisor,
          List.length_append, List.length_nil]
        omega
  | ignored task noClip stays =>
      exact ⟨Nat.le_add_right _ _, Nat.le_add_right _ _, Nat.le_refl _⟩
  | cached task carried =>
      simp [toSupervisor, inHand, chunksToSupervisor, clipsOf, task, carried]
  | clipArrived task =>
      simp [toSupervisor, inHand, chunksToSupervisor, clipsOf, task]
  | chunkArrived task wired =>
      simp [toSupervisor, inHand, chunksToSupervisor, chunksOf, task]
  | surfaced task alive room =>
      simp [toSupervisor, inHand, chunksToSupervisor, task]
  | notSurfaced task gone =>
      simp only [toSupervisor, inHand, chunksToSupervisor, task,
        List.length_append, List.length_nil]
      omega
  | clipForwarded task alive room =>
      simp [toSupervisor, inHand, chunksToSupervisor, task]
  | chunkForwarded task wired alive room =>
      simp [toSupervisor, inHand, chunksToSupervisor, task, wired]
  | chunkTaken task queued =>
      simp [toSupervisor, inHand, chunksToSupervisor, task]
  | chunkDrained task queued =>
      simp [toSupervisor, inHand, chunksToSupervisor, task]
  | _ =>
      simp_all [toSupervisor, inHand, chunksToSupervisor]

/-- Only a new connection awaits a welcome. -/
theorem Moves.eq_connect_of_awaiting
    {transport next : Transport}
    {action : TransportAction}
    (moved : Moves transport action next)
    (awaiting : next.task = .awaitingWelcome) :
    action = .connect true := by
  cases moved with
  | connected task =>
      rfl
  | ended ends =>
      rcases endConnection_eq transport with isStop | ⟨-, sleeps⟩
      · rw [isStop] at awaiting
        cases awaiting
      · rw [sleeps] at awaiting
        cases awaiting
  | ignored task noClip stays =>
      rw [task] at awaiting
      cases awaiting
  | _ =>
      cases awaiting

/-- The channels have the capacities that the handle was made with. -/
structure Sized (transport : Transport) : Prop where
  inbound : transport.inbound.capacity = inboundBuf
  inboundFiles :
    ∀ files,
      transport.inboundFiles = some files →
        files.capacity = inboundFilesBuf
  outboundFiles : transport.outboundFiles.capacity = outboundFilesBuf

theorem Sized.moves
    {transport next : Transport}
    {action : TransportAction}
    (sized : transport.Sized)
    (moved : Moves transport action next) :
    next.Sized := by
  rcases sized with ⟨inbound, inboundFiles, outboundFiles⟩
  cases moved with
  | ended ends =>
      rcases endConnection_eq transport with isStop | ⟨-, sleeps⟩
      · rw [isStop]
        refine ⟨inbound, ?_, outboundFiles⟩
        intro files wired
        obtain ⟨before, was, rfl⟩ := Option.map_eq_some_iff.mp wired
        exact inboundFiles before was
      · rw [sleeps]
        exact ⟨inbound, inboundFiles, outboundFiles⟩
  | @chunkForwarded chunk files task wired alive room =>
      refine ⟨inbound, ?_, outboundFiles⟩
      intro after isAfter
      cases isAfter
      exact inboundFiles files wired
  | _ =>
      exact ⟨inbound, inboundFiles, outboundFiles⟩

/-- Dropping the handle changes no capacity. -/
theorem Sized.dropHandle
    {transport : Transport}
    (sized : transport.Sized) :
    transport.dropHandle.Sized where
  inbound := sized.inbound
  inboundFiles := by
    intro files wired
    obtain ⟨before, was, rfl⟩ := Option.map_eq_some_iff.mp wired
    exact sized.inboundFiles before was
  outboundFiles := sized.outboundFiles

/-- Dropping the handle leaves nothing to take. -/
theorem lengths_dropHandle (transport : Transport) :
    transport.dropHandle.toSupervisor.length ≤
        transport.toSupervisor.length ∧
      transport.dropHandle.chunksToSupervisor.length ≤
        transport.chunksToSupervisor.length ∧
      transport.dropHandle.outboundFiles.buffer =
        transport.outboundFiles.buffer := by
  cases wired : transport.inboundFiles <;>
    simp [dropHandle, toSupervisor, chunksToSupervisor, inHand, wired]

end Transport

/-- The chunks that the supervisor has still to queue. -/
def SupervisorTask.toQueue : SupervisorTask → List FileChunkFrame
  | .sending chunk rest later => chunk :: (rest ++ later.flatten)
  | .selecting | .exited => []

@[simp] theorem SupervisorTask.toQueue_selecting :
    SupervisorTask.selecting.toQueue = [] := by
  rfl

@[simp] theorem SupervisorTask.toQueue_exited :
    SupervisorTask.exited.toQueue = [] := by
  rfl

@[simp] theorem SupervisorTask.toQueue_sending
    (chunk : FileChunkFrame)
    (rest : List FileChunkFrame)
    (later : List (List FileChunkFrame)) :
    (SupervisorTask.sending chunk rest later).toQueue =
      chunk :: (rest ++ later.flatten) := by
  rfl

@[simp] theorem SupervisorTask.toQueue_sendFiles
    (files : List (List FileChunkFrame)) :
    (SupervisorTask.sendFiles files).toQueue = files.flatten := by
  induction files with
  | nil =>
      rfl
  | cons first later inductionHypothesis =>
      cases first with
      | nil =>
          exact inductionHypothesis
      | cons chunk rest =>
          rfl

namespace Client

variable {codec : Codec} {png : PngCodec}

/-- The local chunks that are queued or still have to be. -/
def localToSend (client : Client) : Nat :=
  client.transport.outboundFiles.buffer.length +
    client.task.toQueue.length

/-- The clips that an action brings. -/
def clipsOf (client : Client) : ClientAction → List ClipFrame
  | .transport action => client.transport.clipsOf action
  | _ => []

/-- The file chunks that an action brings. -/
def chunksOf : ClientAction → List FileChunkFrame
  | .transport action => Transport.chunksOf action
  | _ => []

/-- The local chunks that an action brings. -/
def localsOf (codec : Codec) : ClientAction → List FileChunkFrame
  | .localEvent (some event) => (event.chunks codec).flatten
  | _ => []

/-- What one step of the client does to the amounts that wait. -/
structure Bounded
    (codec : Codec)
    (action : ClientAction)
    (client next : Client) : Prop where
  sized : next.transport.Sized
  clips :
    next.transport.toSupervisor.length ≤
      client.transport.toSupervisor.length +
        (client.clipsOf action).length
  chunks :
    next.transport.chunksToSupervisor.length ≤
      client.transport.chunksToSupervisor.length +
        (chunksOf action).length
  locals :
    next.localToSend ≤ client.localToSend + (localsOf codec action).length
  awaiting :
    next.transport.task = .awaitingWelcome →
      client.transport.task = .awaitingWelcome ∨
        action = .transport (.connect true)

private theorem Bounded.refl
    {client : Client}
    {action : ClientAction}
    (sized : client.transport.Sized) :
    Bounded codec action client client where
  sized := sized
  clips := Nat.le_add_right _ _
  chunks := Nat.le_add_right _ _
  locals := Nat.le_add_right _ _
  awaiting := .inl

private theorem Bounded.congr
    {client middle next : Client}
    {action : ClientAction}
    (bounded : Bounded codec action client middle)
    (task : next.task = middle.task)
    (transport : next.transport = middle.transport) :
    Bounded codec action client next := by
  constructor
  · rw [transport]
    exact bounded.sized
  · rw [transport]
    exact bounded.clips
  · rw [transport]
    exact bounded.chunks
  · rw [localToSend, task, transport]
    exact bounded.locals
  · rw [transport]
    exact bounded.awaiting

private theorem Bounded.exit
    {client middle : Client}
    {action : ClientAction}
    (bounded : Bounded codec action client middle) :
    Bounded codec action client middle.exit := by
  obtain ⟨clips, chunks, queue⟩ :=
    Transport.lengths_dropHandle middle.transport
  refine ⟨bounded.sized.dropHandle, Nat.le_trans clips bounded.clips,
    Nat.le_trans chunks bounded.chunks, ?_, bounded.awaiting⟩
  have locals := bounded.locals
  simp only [localToSend, Client.exit, queue, SupervisorTask.toQueue_exited,
    List.length_nil] at locals ⊢
  omega

/-- Taking a clip brings nothing. -/
private theorem bounded_takeClip
    {client : Client}
    {alive : Bool}
    (sized : client.transport.Sized) :
    Bounded codec (.takeClip alive) client
      { client with
        transport :=
          { client.transport with
            inbound := client.transport.inbound.dropHead } } := by
  refine ⟨⟨sized.inbound, sized.inboundFiles, sized.outboundFiles⟩,
    ?_, Nat.le_add_right _ _, Nat.le_add_right _ _, .inl⟩
  simp only [Transport.toSupervisor, Transport.inHand,
    Channel.buffer_dropHead, List.length_append, List.length_tail]
  omega

/-- Taking a chunk brings nothing. -/
private theorem bounded_takeChunk
    {client : Client}
    {io : IoAnswers}
    {files : Channel FileChunkFrame}
    (sized : client.transport.Sized)
    (wired : client.transport.inboundFiles = some files) :
    Bounded codec (.takeChunk io) client
      { client with
        transport :=
          { client.transport with
            inboundFiles := some files.dropHead } } := by
  refine ⟨⟨sized.inbound, ?_, sized.outboundFiles⟩,
    Nat.le_add_right _ _, ?_, Nat.le_add_right _ _, .inl⟩
  · intro after isAfter
    cases isAfter
    exact sized.inboundFiles files wired
  · simp only [Transport.chunksToSupervisor, wired,
      Channel.buffer_dropHead, List.length_append, List.length_tail]
    omega

theorem bounded_of_step?
    {client next : Client}
    {action : ClientAction}
    (sized : client.transport.Sized)
    (stepped : step? codec png client action = some next) :
    Bounded codec action client next := by
  cases turns_of_step? stepped with
  | transport moved =>
      obtain ⟨clips, chunks, queue⟩ := Transport.lengths_of_moves moved
      refine ⟨sized.moves moved, clips, chunks, ?_, ?_⟩
      · simp only [localToSend]
        omega
      · intro awaiting
        exact .inr (by rw [moved.eq_connect_of_awaiting awaiting])
  | exited selecting own =>
      exact (Bounded.refl sized).exit
  | clipOffered selecting single =>
      exact ⟨⟨sized.inbound, sized.inboundFiles, sized.outboundFiles⟩,
        Nat.le_add_right _ _, Nat.le_add_right _ _, Nat.le_add_right _ _,
        .inl⟩
  | eventDropped selecting =>
      exact .refl sized
  | filesOpened selecting =>
      refine ⟨sized, Nat.le_add_right _ _, Nat.le_add_right _ _, ?_, .inl⟩
      simp [localToSend, localsOf, selecting]
  | clipForwarded selecting queued decoded =>
      exact (bounded_takeClip sized).congr rfl rfl
  | clipRejected selecting queued rejected =>
      exact bounded_takeClip sized
  | clipboardGone selecting queued =>
      exact (bounded_takeClip sized).exit
  | @chunkTaken io files chunk rest selecting wired queued =>
      have taken := @bounded_takeChunk codec client io files sized wired
      obtain ⟨-, -, kept | exited⟩ :=
        @receiveChunk_cases codec io
          { client with
            transport :=
              { client.transport with
                inboundFiles := some files.dropHead } }
          chunk
      · exact taken.congr kept.1 kept.2
      · exact taken.exit.congr exited.1 exited.2
  | filesQuiet selecting =>
      exact .refl sized
  | batchApplied selecting =>
      exact (Bounded.refl sized).congr rfl rfl
  | chunkQueued task alive room =>
      refine ⟨⟨sized.inbound, sized.inboundFiles, sized.outboundFiles⟩,
        Nat.le_add_right _ _, Nat.le_add_right _ _, ?_, .inl⟩
      simp only [localToSend, task, SupervisorTask.toQueue_sendFiles,
        SupervisorTask.toQueue_sending, Channel.buffer_push,
        List.flatten_cons, List.length_append, List.length_cons,
        List.length_nil]
      omega
  | chunkRefused task gone =>
      refine ⟨sized, Nat.le_add_right _ _, Nat.le_add_right _ _, ?_, .inl⟩
      simp only [localToSend, task, SupervisorTask.toQueue_sendFiles,
        SupervisorTask.toQueue_sending, List.length_append,
        List.length_cons]
      omega

/-- After an arrival the transport does not await a welcome. -/
theorem not_awaiting_of_arrival
    {client next : Client}
    {message : Incoming}
    (stepped :
      step? codec png client (.transport (.receive message)) = some next) :
    next.transport.task ≠ .awaitingWelcome := by
  intro awaiting
  cases turns_of_step? stepped with
  | transport moved =>
      cases moved.eq_connect_of_awaiting awaiting
  | exited selecting own =>
      exact (own _ rfl).elim

/-- A step that takes no input brings nothing. -/
theorem noInput
    {client : Client}
    {action : ClientAction}
    (free : action.TakesInput = false) :
    (client.clipsOf action).length = 0 ∧
      (chunksOf action).length = 0 ∧
        (localsOf codec action).length = 0 := by
  cases action with
  | transport action =>
      cases action with
      | receive message =>
          cases message with
          | text parsed =>
              cases parsed with
              | none =>
                  exact ⟨rfl, rfl, rfl⟩
              | some frame =>
                  cases free
          | _ =>
              exact ⟨rfl, rfl, rfl⟩
      | _ =>
          exact ⟨rfl, rfl, rfl⟩
  | localEvent event =>
      cases event with
      | none =>
          exact ⟨rfl, rfl, rfl⟩
      | some event =>
          cases free
  | _ =>
      exact ⟨rfl, rfl, rfl⟩

end Client

namespace Session

variable {codec : Codec} {png : PngCodec}

/-- Clips that the supervisor has still to take, wherever they are. -/
def clipsToCome (session : Session) : Nat :=
  session.client.transport.toSupervisor.length +
    (session.welcome.bind WelcomeFrame.lastClip).toList.length +
    (session.arriving.filterMap Frame.clip?).length +
    (session.connections.flatMap HubConnection.clips).length

/-- File chunks that the supervisor has still to take. -/
def chunksToCome (session : Session) : Nat :=
  session.client.transport.chunksToSupervisor.length +
    (session.arriving.filterMap Frame.fileChunk?).length +
    (session.connections.flatMap HubConnection.fileChunks).length

/-- The chunks of the files in a list of local events. -/
def localChunks
    (codec : Codec)
    (events : List LocalEvent) :
    List FileChunkFrame :=
  events.flatMap fun event => (event.chunks codec).flatten

/-- Chunks of local files that the transport has still to take. -/
def localsToSend (codec : Codec) (session : Session) : Nat :=
  session.client.localToSend + (localChunks codec session.events).length

/-- The inputs still to come are within the given amounts. -/
structure Within
    (codec : Codec)
    (clips chunks locals : Nat)
    (session : Session) : Prop where
  sized : session.client.transport.Sized
  awaiting :
    session.client.transport.task = .awaitingWelcome →
      session.welcome.isSome = true
  clips : session.clipsToCome ≤ clips
  chunks : session.chunksToCome ≤ chunks
  locals : session.localsToSend codec ≤ locals

/-- Clips that have not yet come to the client. -/
def clipsAhead (session : Session) : Nat :=
  (session.welcome.bind WelcomeFrame.lastClip).toList.length +
    (session.arriving.filterMap Frame.clip?).length +
    (session.connections.flatMap HubConnection.clips).length

/-- File chunks that have not yet come to the client. -/
def chunksAhead (session : Session) : Nat :=
  (session.arriving.filterMap Frame.fileChunk?).length +
    (session.connections.flatMap HubConnection.fileChunks).length

/--
A step of the client keeps the amounts if what it brings to the client is no
longer ahead.
-/
theorem Within.of_client
    {clips chunks locals : Nat}
    {session next : Session}
    {action : ClientAction}
    (within : Within codec clips chunks locals session)
    (stepped : session.client.step? codec png action = some next.client)
    (awaiting :
      next.client.transport.task = .awaitingWelcome →
        next.welcome.isSome = true)
    (broughtClips :
      (session.client.clipsOf action).length + next.clipsAhead ≤
        session.clipsAhead)
    (broughtChunks :
      (Client.chunksOf action).length + next.chunksAhead ≤
        session.chunksAhead)
    (broughtLocals :
      (Client.localsOf codec action).length +
          (localChunks codec next.events).length ≤
        (localChunks codec session.events).length) :
    Within codec clips chunks locals next := by
  obtain ⟨sized, moreClips, moreChunks, moreLocals, -⟩ :=
    Client.bounded_of_step? within.sized stepped
  have clipsBound := within.clips
  have chunksBound := within.chunks
  have localsBound := within.locals
  simp only [clipsToCome, chunksToCome, localsToSend, clipsAhead, chunksAhead]
    at clipsBound chunksBound localsBound broughtClips broughtChunks
  refine ⟨sized, awaiting, ?_, ?_, ?_⟩
  · simp only [clipsToCome]
    omega
  · simp only [chunksToCome]
    omega
  · simp only [localsToSend]
    omega

theorem Within.awaiting_of_step?
    {clips chunks locals : Nat}
    {session : Session}
    {client : Client}
    {action : ClientAction}
    (within : Within codec clips chunks locals session)
    (stepped : session.client.step? codec png action = some client)
    (noConnect : action ≠ .transport (.connect true))
    (isAwaiting : client.transport.task = .awaitingWelcome) :
    session.welcome.isSome = true := by
  obtain ⟨-, -, -, -, stillAwaiting⟩ :=
    Client.bounded_of_step? within.sized stepped
  rcases stillAwaiting isAwaiting with was | connects
  · exact within.awaiting was
  · exact (noConnect connects).elim

private theorem Within.connect
    {clips chunks locals : Nat}
    {session next : Session}
    (within : Within codec clips chunks locals session)
    (stepped : step? codec png session .connect = some next) :
    Within codec clips chunks locals next := by
  simp only [step?] at stepped
  split at stepped
  · cases stepped
  · rename_i connection rest shape
    split at stepped
    · cases stepped
    · rename_i client after
      cases stepped
      refine within.of_client after (fun _ => rfl) ?_ ?_ ?_
      · simp only [clipsAhead, shape, List.flatMap_cons,
          HubConnection.clips, List.length_append, Client.clipsOf,
          Transport.clipsOf, List.length_nil, Option.bind_some]
        omega
      · simp only [chunksAhead, shape, List.flatMap_cons,
          HubConnection.fileChunks, List.length_append, Client.chunksOf,
          Transport.chunksOf, List.length_nil]
        omega
      · simp [Client.localsOf]

private theorem Within.arrive
    {clips chunks locals : Nat}
    {session next : Session}
    (within : Within codec clips chunks locals session)
    (stepped : step? codec png session .arrive = some next) :
    Within codec clips chunks locals next := by
  simp only [step?] at stepped
  split at stepped
  · rename_i welcome shape
    split at stepped
    · cases stepped
    · rename_i client after
      cases stepped
      have served := Client.not_awaiting_of_arrival after
      have carried :
          (session.client.clipsOf
              (.transport
                (.receive (.text (some (.welcome welcome)))))).length ≤
            welcome.lastClip.toList.length := by
        simp only [Client.clipsOf, Transport.clipsOf]
        split
        · exact Nat.le_refl _
        · exact Nat.zero_le _
      refine within.of_client after (fun isAwaiting =>
        (served isAwaiting).elim) ?_ ?_ ?_
      · simp only [clipsAhead, shape, Option.bind_some, Option.bind_none,
          Option.toList_none, List.length_nil]
        omega
      · simp [chunksAhead, Client.chunksOf, Transport.chunksOf]
      · simp [Client.localsOf]
  · rename_i frame rest shape arriving
    split at stepped
    · cases stepped
    · rename_i client after
      cases stepped
      have served := Client.not_awaiting_of_arrival after
      have serving :
          session.client.transport.task ≠ .awaitingWelcome := by
        intro isAwaiting
        have isNone := within.awaiting isAwaiting
        rw [shape] at isNone
        cases isNone
      have carriedClips :
          (session.client.clipsOf
              (.transport (.receive (.text (some frame))))).length =
            ([frame].filterMap Frame.clip?).length := by
        cases frame <;>
          simp [Client.clipsOf, Transport.clipsOf, Frame.clip?, serving,
            List.filterMap_cons]
      have carriedChunks :
          (Client.chunksOf
              (.transport (.receive (.text (some frame))))).length =
            ([frame].filterMap Frame.fileChunk?).length := by
        cases frame <;>
          simp [Client.chunksOf, Transport.chunksOf, Frame.fileChunk?,
            List.filterMap_cons]
      have split : session.arriving = [frame] ++ rest := arriving
      refine within.of_client after (fun isAwaiting =>
        (served isAwaiting).elim) ?_ ?_ ?_
      · simp only [clipsAhead, split, List.filterMap_append,
          List.length_append]
        omega
      · simp only [chunksAhead, split, List.filterMap_append,
          List.length_append]
        omega
      · simp [Client.localsOf]
  · cases stepped

private theorem Within.localEvent
    {clips chunks locals : Nat}
    {session next : Session}
    (within : Within codec clips chunks locals session)
    (stepped : step? codec png session .localEvent = some next) :
    Within codec clips chunks locals next := by
  simp only [step?] at stepped
  split at stepped
  · cases stepped
  · rename_i event rest shape
    split at stepped
    · cases stepped
    · rename_i client after
      cases stepped
      refine within.of_client after
        (within.awaiting_of_step? after (by rintro ⟨⟩)) ?_ ?_ ?_
      · simp [clipsAhead, Client.clipsOf]
      · simp [chunksAhead, Client.chunksOf]
      · simp [shape, localChunks, Client.localsOf]

private theorem Within.internal
    {clips chunks locals : Nat}
    {session next : Session}
    {action : ClientAction}
    (within : Within codec clips chunks locals session)
    (stepped : step? codec png session (.internal action) = some next) :
    Within codec clips chunks locals next := by
  simp only [step?] at stepped
  split at stepped
  · cases stepped
  · rename_i free
    split at stepped
    · cases stepped
    · rename_i client after
      cases stepped
      obtain ⟨noClips, noChunks, noLocals⟩ :
          (session.client.clipsOf action).length = 0 ∧
            (Client.chunksOf action).length = 0 ∧
              (Client.localsOf codec action).length = 0 :=
        Client.noInput (by simpa using free)
      have noConnect : action ≠ .transport (.connect true) := by
        rintro rfl
        exact free rfl
      refine within.of_client after
        (within.awaiting_of_step? after noConnect) ?_ ?_ ?_
      · simp [noClips, clipsAhead]
      · simp [noChunks, chunksAhead]
      · simp [noLocals]

theorem Within.step
    {clips chunks locals : Nat}
    {session next : Session}
    {action : SessionAction}
    (within : Within codec clips chunks locals session)
    (stepped : step? codec png session action = some next) :
    Within codec clips chunks locals next := by
  cases action with
  | connect =>
      exact within.connect stepped
  | arrive =>
      exact within.arrive stepped
  | localEvent =>
      exact within.localEvent stepped
  | internal action =>
      exact within.internal stepped

/-- Within these amounts the two tasks never wait for each other. -/
theorem Within.not_deadlocked
    {clips chunks locals : Nat}
    {session : Session}
    (within : Within codec clips chunks locals session)
    (fits :
      locals ≤ outboundFilesBuf ∨
        (clips ≤ inboundBuf ∧ chunks ≤ inboundFilesBuf)) :
    ¬ session.client.Deadlocked := by
  rintro ⟨⟨chunk, rest, later, task, full⟩, waits⟩
  rcases fits with fewLocals | ⟨fewClips, fewChunks⟩
  · have noRoom := (Channel.pollSend_eq_pending.mp full).2
    have capacity := within.sized.outboundFiles
    have locals := within.locals
    simp only [Channel.HasRoom] at noRoom
    simp only [localsToSend, Client.localToSend, task,
      SupervisorTask.toQueue_sending, List.length_cons] at locals
    omega
  · rcases waits with
      ⟨clip, passing, full⟩ | ⟨chunk, files, passing, wired, full⟩
    · have noRoom := (Channel.pollSend_eq_pending.mp full).2
      have capacity := within.sized.inbound
      have clips := within.clips
      have inHand : session.client.transport.inHand = [clip] := by
        rcases passing with passing | passing <;>
          simp [Transport.inHand, passing]
      simp only [Channel.HasRoom] at noRoom
      simp only [clipsToCome, Transport.toSupervisor, inHand,
        List.length_append, List.length_singleton] at clips
      omega
    · have noRoom := (Channel.pollSend_eq_pending.mp full).2
      have capacity := within.sized.inboundFiles files wired
      have chunks := within.chunks
      simp only [Channel.HasRoom] at noRoom
      simp only [chunksToCome, Transport.chunksToSupervisor, wired, passing,
        List.length_append, List.length_singleton] at chunks
      omega

end Session

end ClipboardWire
