import ClipboardWire.ClientSession

namespace ClipboardWire

open BoundedChannel

/-!
# Circular waits between supervisor and transport

For which inputs does some schedule make the two tasks of a client wait for
each other?  When the arrivals do not fit the inbound channels, the transport
can be driven into its wait while the supervisor is idle; when the local files
do not fit the outbound-files channel, the supervisor then follows.  Together
with the bounds on the waiting amounts this gives the exact condition.
-/

/-- A transport whose handle is held and which receives files. -/
structure Transport.Listening (transport : Transport) : Prop where
  sized : transport.Sized
  oneShot : transport.oneShot = false
  senders : transport.outbound.sendersAlive = true
  receiver : transport.inbound.receiverAlive = true
  files :
    ∃ files,
      transport.inboundFiles = some files ∧ files.receiverAlive = true
  outboundFiles : transport.outboundFiles.receiverAlive = true

theorem Transport.Listening.moves
    {transport next : Transport}
    {action : TransportAction}
    (listening : transport.Listening)
    (moved : Moves transport action next) :
    next.Listening := by
  have sized := listening.sized.moves moved
  rcases listening with
    ⟨-, oneShot, senders, receiver, files, outboundFiles⟩
  cases moved with
  | ended ends =>
      have sleeps :
          transport.endConnection = { transport with task := .sleeping } := by
        simp [endConnection, oneShot, senders]
      rw [sleeps] at sized ⊢
      exact ⟨sized, oneShot, senders, receiver, files, outboundFiles⟩
  | chunkForwarded task wired alive room =>
      exact ⟨sized, oneShot, senders, receiver, ⟨_, rfl, alive⟩,
        outboundFiles⟩
  | _ =>
      exact ⟨sized, oneShot, senders, receiver, files, outboundFiles⟩

/-- How far a receiving transport is from its next connection. -/
def TransportTask.work : TransportTask → Nat
  | .connecting => 1
  | .sleeping => 2
  | .serving => 3
  | .surfacing _ | .forwardingClip _ | .forwardingChunk _ => 5
  | .awaitingWelcome => 7
  | _ => 0

namespace Session

/-- How many steps the arrivals can take. -/
def work (session : Session) : Nat :=
  (session.connections.map fun connection =>
      4 * connection.frames.length + 8).sum +
    4 * session.arriving.length +
    session.client.transport.task.work

/-- The supervisor is idle while the arrivals fill its channels. -/
structure Filling
    (codec : Codec)
    (clips chunks locals : Nat)
    (session : Session) : Prop where
  listening : session.client.transport.Listening
  selecting : session.client.task = .selecting
  receiving : session.client.transport.task.work ≠ 0
  awaiting :
    session.client.transport.task = .awaitingWelcome →
      session.welcome.isSome = true
  welcome :
    session.client.transport.task ≠ .awaitingWelcome →
      session.welcome = none
  idle :
    session.client.transport.task = .connecting ∨
        session.client.transport.task = .sleeping →
      session.arriving = []
  clips : clips ≤ session.clipsToCome
  chunks : chunks ≤ session.chunksToCome
  locals : locals ≤ session.localsToSend codec

/-- The next step of an idle client whose channels fill up. -/
def Advances
    (codec : Codec)
    (png : PngCodec)
    (clips chunks locals : Nat)
    (session : Session) : Prop :=
  ∃ action next,
    step? codec png session action = some next ∧
      Filling codec clips chunks locals next ∧
        next.work < session.work

variable {codec : Codec} {png : PngCodec} {clips chunks locals : Nat}

/-- Replace the transport of a session's client. -/
def withTransport (session : Session) (transport : Transport) : Session :=
  { session with
    client := { session.client with transport := transport } }

private theorem Filling.connect
    {session : Session}
    (filling : Filling codec clips chunks locals session)
    (many : inboundBuf < clips ∨ inboundFilesBuf < chunks)
    (task : session.client.transport.task = .connecting) :
    Advances codec png clips chunks locals session := by
  obtain ⟨listening, selecting, -, -, welcome, idle, clipsBound,
    chunksBound, localsBound⟩ := filling
  have noWelcome : session.welcome = none := welcome (by simp [task])
  have noFrames : session.arriving = [] := idle (.inl task)
  obtain ⟨files, wired, filesAlive⟩ := listening.files
  simp only [clipsToCome, chunksToCome, localsToSend, Transport.toSupervisor,
    Transport.inHand, Transport.chunksToSupervisor, Client.localToSend,
    task, wired, noWelcome, noFrames] at clipsBound chunksBound localsBound
  cases shape : session.connections with
  | nil =>
      -- what is queued fits the channels
      have clipRoom := session.client.transport.inbound.bounded
      have chunkRoom := files.bounded
      have clipCapacity := listening.sized.inbound
      have chunkCapacity := listening.sized.inboundFiles files wired
      simp only [shape, List.flatMap_nil, List.filterMap_nil,
        List.append_nil, List.length_nil, Option.bind_none,
        Option.toList_none, Nat.add_zero] at clipsBound chunksBound
      omega
  | cons connection rest =>
      have stepped :
          step? codec png session .connect =
            some
              { session.withTransport
                  { session.client.transport with
                    task := .awaitingWelcome } with
                connections := rest
                welcome := some connection.welcome
                arriving := connection.frames } := by
        simp [step?, shape, Client.step?, Transport.step?, task,
          withTransport]
      simp only [shape, List.flatMap_cons, HubConnection.clips,
        HubConnection.fileChunks, List.length_append, Option.bind_none,
        Option.toList_none, List.length_nil, List.filterMap_nil]
        at clipsBound chunksBound
      refine ⟨_, _, stepped, ⟨?_, selecting, by simp [withTransport,
        TransportTask.work], fun _ => rfl, by simp [withTransport],
        by simp [withTransport], ?_, ?_, localsBound⟩, ?_⟩
      · exact listening.moves (.connected task)
      · simp only [clipsToCome, withTransport, Transport.toSupervisor,
          Transport.inHand, Option.bind_some, List.length_append,
          List.length_nil]
        omega
      · simp only [chunksToCome, withTransport,
          Transport.chunksToSupervisor, wired, List.length_append,
          List.length_nil]
        omega
      · simp only [work, withTransport, shape, task, TransportTask.work,
          noFrames, List.map_cons, List.sum_cons, List.length_nil]
        omega

private theorem Filling.takeWelcome
    {session : Session}
    (filling : Filling codec clips chunks locals session)
    (task : session.client.transport.task = .awaitingWelcome)
    {welcome : WelcomeFrame}
    (next : session.welcome = some welcome) :
    Advances codec png clips chunks locals session := by
  obtain ⟨listening, selecting, -, -, -, -, clipsBound, chunksBound,
    localsBound⟩ := filling
  simp only [clipsToCome, chunksToCome, localsToSend, Transport.toSupervisor,
    Transport.inHand, Transport.chunksToSupervisor, Client.localToSend,
    task, next, Option.bind_some] at clipsBound chunksBound localsBound
  cases carried : welcome.lastClip with
  | none =>
      have stepped :
          step? codec png session .arrive =
            some
              { session.withTransport
                  { session.client.transport with task := .serving } with
                welcome := none } := by
        simp [step?, next, Client.step?, Transport.step?, task,
          Transport.handleFirst, carried, withTransport]
      simp only [carried] at clipsBound
      refine ⟨_, _, stepped, ⟨listening.moves (.welcomed task carried),
        selecting, by simp [withTransport, TransportTask.work],
        by simp [withTransport], fun _ => rfl, by simp [withTransport],
        clipsBound, chunksBound, localsBound⟩, ?_⟩
      simp [work, withTransport, task, TransportTask.work]
  | some clip =>
      have stepped :
          step? codec png session .arrive =
            some
              { session.withTransport
                  { session.client.transport with
                    task := .surfacing clip
                    received := session.client.transport.received ++ [clip] }
                  with
                welcome := none } := by
        simp [step?, next, Client.step?, Transport.step?, task,
          Transport.handleFirst, carried, withTransport]
      refine ⟨_, _, stepped, ⟨listening.moves (.cached task carried),
        selecting, by simp [withTransport, TransportTask.work],
        by simp [withTransport], fun _ => rfl, by simp [withTransport],
        ?_, chunksBound, localsBound⟩, ?_⟩
      · simp only [carried, Option.toList_some, List.length_append,
          List.length_nil, List.length_singleton] at clipsBound
        simp only [clipsToCome, withTransport, Transport.toSupervisor,
          Transport.inHand, Option.bind_none, Option.toList_none,
          List.length_append, List.length_nil, List.length_singleton]
        omega
      · simp [work, withTransport, task, TransportTask.work]

private theorem Filling.passClip
    {session : Session}
    (filling : Filling codec clips chunks locals session)
    (free : ¬ session.client.transport.Waits)
    {clip : ClipFrame}
    (task :
      session.client.transport.task = .surfacing clip ∨
        session.client.transport.task = .forwardingClip clip) :
    Advances codec png clips chunks locals session := by
  obtain ⟨listening, selecting, -, -, welcome, idle, clipsBound,
    chunksBound, localsBound⟩ := filling
  have alive := listening.receiver
  have room : session.client.transport.inbound.HasRoom := by
    by_contra full
    exact free (.inl
      ⟨clip, task, Channel.pollSend_eq_pending.mpr ⟨alive, full⟩⟩)
  have sent :
      session.client.transport.inbound.pollSend clip =
        .sent (session.client.transport.inbound.push clip room) :=
    Channel.pollSend_eq_sent.mpr ⟨room, alive, rfl⟩
  have stepped :
      step? codec png session (.internal (.transport .forward)) =
        some
          (session.withTransport
            { session.client.transport with
              task := .serving
              inbound :=
                session.client.transport.inbound.push clip room }) := by
    rcases task with task | task <;>
      simp [step?, ClientAction.TakesInput, Client.step?, Transport.step?,
        Transport.forward?, task, sent, withTransport]
  have moved :
      Transport.Moves session.client.transport .forward
        { session.client.transport with
          task := .serving
          inbound := session.client.transport.inbound.push clip room } := by
    rcases task with task | task
    · exact .surfaced task alive room
    · exact .clipForwarded task alive room
  have inHand : session.client.transport.inHand = [clip] := by
    rcases task with task | task <;>
      simp [Transport.inHand, task]
  have notAwaiting : session.client.transport.task ≠ .awaitingWelcome := by
    rcases task with task | task <;>
      simp [task]
  have five : session.client.transport.task.work = 5 := by
    rcases task with task | task <;>
      simp [task, TransportTask.work]
  refine ⟨_, _, stepped, ⟨listening.moves moved, selecting,
    by simp [withTransport, TransportTask.work], by simp [withTransport],
    fun _ => welcome notAwaiting, by simp [withTransport],
    ?_, ?_, localsBound⟩, ?_⟩
  · simp only [clipsToCome, Transport.toSupervisor, inHand,
      List.length_append, List.length_singleton] at clipsBound
    simp only [clipsToCome, withTransport, Transport.toSupervisor,
      Transport.inHand, Channel.buffer_push, List.length_append,
      List.length_singleton, List.length_nil]
    omega
  · simp only [chunksToCome, Transport.chunksToSupervisor,
      List.length_append] at chunksBound
    simp only [chunksToCome, Transport.chunksToSupervisor, withTransport,
      List.length_append, List.length_nil]
    rcases task with task | task <;>
    · simp only [task, List.length_nil] at chunksBound
      exact chunksBound
  · have three : TransportTask.serving.work = 3 := rfl
    simp only [work, withTransport, five, three]
    omega

private theorem Filling.passChunk
    {session : Session}
    (filling : Filling codec clips chunks locals session)
    (free : ¬ session.client.transport.Waits)
    {chunk : FileChunkFrame}
    (task : session.client.transport.task = .forwardingChunk chunk) :
    Advances codec png clips chunks locals session := by
  obtain ⟨listening, selecting, -, -, welcome, idle, clipsBound,
    chunksBound, localsBound⟩ := filling
  obtain ⟨files, wired, alive⟩ := listening.files
  have room : files.HasRoom := by
    by_contra full
    exact free (.inr
      ⟨chunk, files, task, wired,
        Channel.pollSend_eq_pending.mpr ⟨alive, full⟩⟩)
  have sent : files.pollSend chunk = .sent (files.push chunk room) :=
    Channel.pollSend_eq_sent.mpr ⟨room, alive, rfl⟩
  have stepped :
      step? codec png session (.internal (.transport .forward)) =
        some
          (session.withTransport
            { session.client.transport with
              task := .serving
              inboundFiles := some (files.push chunk room) }) := by
    simp [step?, ClientAction.TakesInput, Client.step?, Transport.step?,
      Transport.forward?, task, wired, sent, withTransport]
  simp only [clipsToCome, chunksToCome, Transport.toSupervisor,
    Transport.inHand, Transport.chunksToSupervisor, task, wired,
    List.length_append, List.length_singleton]
    at clipsBound chunksBound
  refine ⟨_, _, stepped,
    ⟨listening.moves (.chunkForwarded task wired alive room), selecting,
      by simp [withTransport, TransportTask.work], by simp [withTransport],
      fun _ => welcome (by simp [task]), by simp [withTransport],
      ?_, ?_, localsBound⟩, ?_⟩
  · simp only [clipsToCome, withTransport, Transport.toSupervisor,
      Transport.inHand, List.length_append]
    exact clipsBound
  · simp only [chunksToCome, withTransport, Transport.chunksToSupervisor,
      Channel.buffer_push, List.length_append, List.length_singleton,
      List.length_nil]
    omega
  · simp [work, withTransport, task, TransportTask.work]

/-- A frame that the serving loop ignores is gone after its arrival. -/
private theorem Filling.ignore
    {session : Session}
    (filling : Filling codec clips chunks locals session)
    (task : session.client.transport.task = .serving)
    {frame : Frame}
    {rest : List Frame}
    (shape : session.arriving = frame :: rest)
    (noClip : frame.clip? = none)
    (noChunk : frame.fileChunk? = none) :
    Advances codec png clips chunks locals session := by
  obtain ⟨listening, selecting, receiving, awaiting, welcome, idle,
    clipsBound, chunksBound, localsBound⟩ := filling
  have noWelcome : session.welcome = none := welcome (by simp [task])
  have ignored :
      session.client.transport.handleIncoming (.text (some frame)) =
        session.client.transport := by
    cases frame with
    | clip arrived =>
        cases noClip
    | fileChunk arrived =>
        cases noChunk
    | welcome again =>
        rfl
    | error reported =>
        rfl
  have stepped :
      step? codec png session .arrive =
        some { session with arriving := rest } := by
    simp [step?, noWelcome, shape, Client.step?, Transport.step?, task,
      ignored]
  simp only [clipsToCome, chunksToCome, shape,
    List.filterMap_cons_none noClip, List.filterMap_cons_none noChunk]
    at clipsBound chunksBound
  refine ⟨_, _, stepped, ⟨listening, selecting, receiving, awaiting,
    welcome, ?_, clipsBound, chunksBound, localsBound⟩, ?_⟩
  · rintro (connecting | sleeping)
    · rw [task] at connecting
      cases connecting
    · rw [task] at sleeping
      cases sleeping
  · simp only [work, shape, List.length_cons]
    omega

private theorem Filling.endConnection
    {session : Session}
    (filling : Filling codec clips chunks locals session)
    (task : session.client.transport.task = .serving)
    (shape : session.arriving = []) :
    Advances codec png clips chunks locals session := by
  obtain ⟨listening, selecting, -, -, welcome, idle, clipsBound,
    chunksBound, localsBound⟩ := filling
  have stepped :
      step? codec png session (.internal (.transport (.receive .ended))) =
        some
          (session.withTransport
            { session.client.transport with task := .sleeping }) := by
    simp [step?, ClientAction.TakesInput, Client.step?, Transport.step?,
      task, Transport.handleIncoming, Transport.endConnection,
      listening.oneShot, listening.senders, withTransport]
  have listens :
      Transport.Listening
        { session.client.transport with task := .sleeping } :=
    ⟨⟨listening.sized.inbound, listening.sized.inboundFiles,
      listening.sized.outboundFiles⟩, listening.oneShot,
      listening.senders, listening.receiver, listening.files,
      listening.outboundFiles⟩
  simp only [clipsToCome, chunksToCome, localsToSend, Transport.toSupervisor,
    Transport.inHand, Transport.chunksToSupervisor, Client.localToSend,
    task] at clipsBound chunksBound localsBound
  refine ⟨_, _, stepped, ⟨listens, selecting,
    by simp [withTransport, TransportTask.work],
    by simp [withTransport], fun _ => welcome (by simp [task]),
    fun _ => shape, clipsBound, chunksBound, localsBound⟩, ?_⟩
  simp [work, withTransport, task, TransportTask.work]

private theorem Filling.takeClip
    {session : Session}
    (filling : Filling codec clips chunks locals session)
    (task : session.client.transport.task = .serving)
    {arrived : ClipFrame}
    {rest : List Frame}
    (shape : session.arriving = .clip arrived :: rest) :
    Advances codec png clips chunks locals session := by
  obtain ⟨listening, selecting, -, -, welcome, idle, clipsBound,
    chunksBound, localsBound⟩ := filling
  have noWelcome : session.welcome = none := welcome (by simp [task])
  have stepped :
      step? codec png session .arrive =
        some
          { session.withTransport
              { session.client.transport with
                task := .forwardingClip arrived
                received := session.client.transport.received ++ [arrived] }
              with
            arriving := rest } := by
    simp [step?, noWelcome, shape, Client.step?, Transport.step?,
      task, Transport.handleIncoming, withTransport]
  simp only [clipsToCome, chunksToCome, localsToSend, Transport.toSupervisor,
    Transport.inHand, Transport.chunksToSupervisor, Client.localToSend,
    task, shape] at clipsBound chunksBound localsBound
  refine ⟨_, _, stepped, ⟨listening.moves (.clipArrived task),
    selecting, by simp [withTransport, TransportTask.work],
    by simp [withTransport], fun _ => noWelcome,
    by simp [withTransport], ?_, chunksBound, localsBound⟩, ?_⟩
  · simp only [Frame.clip?, List.filterMap_cons, List.length_append,
      List.length_cons, List.length_nil] at clipsBound
    simp only [clipsToCome, withTransport, Transport.toSupervisor,
      Transport.inHand, List.length_append, List.length_singleton]
    omega
  · simp only [work, withTransport, task, shape, TransportTask.work,
      List.length_cons]
    omega

private theorem Filling.takeChunk
    {session : Session}
    (filling : Filling codec clips chunks locals session)
    (task : session.client.transport.task = .serving)
    {arrived : FileChunkFrame}
    {rest : List Frame}
    (shape : session.arriving = .fileChunk arrived :: rest) :
    Advances codec png clips chunks locals session := by
  obtain ⟨listening, selecting, -, -, welcome, idle, clipsBound,
    chunksBound, localsBound⟩ := filling
  have noWelcome : session.welcome = none := welcome (by simp [task])
  obtain ⟨files, wired, -⟩ := listening.files
  have stepped :
      step? codec png session .arrive =
        some
          { session.withTransport
              { session.client.transport with
                task := .forwardingChunk arrived } with
            arriving := rest } := by
    simp [step?, noWelcome, shape, Client.step?, Transport.step?,
      task, Transport.handleIncoming, wired, withTransport]
  simp only [clipsToCome, chunksToCome, localsToSend, Transport.toSupervisor,
    Transport.inHand, Transport.chunksToSupervisor, Client.localToSend,
    task, shape] at clipsBound chunksBound localsBound
  refine ⟨_, _, stepped,
    ⟨listening.moves (.chunkArrived task (by simp [wired])),
      selecting, by simp [withTransport, TransportTask.work],
      by simp [withTransport], fun _ => noWelcome,
      by simp [withTransport], clipsBound, ?_, localsBound⟩, ?_⟩
  · simp only [Frame.fileChunk?, List.filterMap_cons,
      List.length_append, List.length_cons, List.length_nil] at chunksBound
    simp only [chunksToCome, withTransport, Transport.chunksToSupervisor,
      List.length_append, List.length_singleton]
    omega
  · simp only [work, withTransport, task, shape, TransportTask.work,
      List.length_cons]
    omega

private theorem Filling.serve
    {session : Session}
    (filling : Filling codec clips chunks locals session)
    (task : session.client.transport.task = .serving) :
    Advances codec png clips chunks locals session := by
  cases shape : session.arriving with
  | nil =>
      exact filling.endConnection task shape
  | cons frame rest =>
      cases frame with
      | clip arrived =>
          exact filling.takeClip task shape
      | fileChunk arrived =>
          exact filling.takeChunk task shape
      | welcome again =>
          exact filling.ignore task shape rfl rfl
      | error reported =>
          exact filling.ignore task shape rfl rfl

private theorem Filling.wake
    {session : Session}
    (filling : Filling codec clips chunks locals session)
    (task : session.client.transport.task = .sleeping) :
    Advances codec png clips chunks locals session := by
  obtain ⟨listening, selecting, -, -, welcome, idle, clipsBound,
    chunksBound, localsBound⟩ := filling
  have stepped :
      step? codec png session (.internal (.transport .wake)) =
        some
          (session.withTransport
            { session.client.transport with task := .connecting }) := by
    simp [step?, ClientAction.TakesInput, Client.step?, Transport.step?,
      task, withTransport]
  simp only [clipsToCome, chunksToCome, localsToSend, Transport.toSupervisor,
    Transport.inHand, Transport.chunksToSupervisor, Client.localToSend,
    task] at clipsBound chunksBound localsBound
  refine ⟨_, _, stepped, ⟨listening.moves (.woke task), selecting,
    by simp [withTransport, TransportTask.work], by simp [withTransport],
    fun _ => welcome (by simp [task]), fun _ => idle (.inr task),
    clipsBound, chunksBound, localsBound⟩, ?_⟩
  simp [work, withTransport, task, TransportTask.work]

private theorem Filling.advances
    {session : Session}
    (filling : Filling codec clips chunks locals session)
    (many : inboundBuf < clips ∨ inboundFilesBuf < chunks)
    (free : ¬ session.client.transport.Waits) :
    Advances codec png clips chunks locals session := by
  have receiving := filling.receiving
  cases task : session.client.transport.task with
  | connecting =>
      exact filling.connect many task
  | awaitingWelcome =>
      obtain ⟨welcome, next⟩ :=
        Option.isSome_iff_exists.mp (filling.awaiting task)
      exact filling.takeWelcome task next
  | surfacing clip =>
      exact filling.passClip free (.inl task)
  | forwardingClip clip =>
      exact filling.passClip free (.inr task)
  | forwardingChunk chunk =>
      exact filling.passChunk free task
  | serving =>
      exact filling.serve task
  | sleeping =>
      exact filling.wake task
  | writing message =>
      simp [task, TransportTask.work] at receiving
  | draining =>
      simp [task, TransportTask.work] at receiving
  | drainWriting chunk =>
      simp [task, TransportTask.work] at receiving
  | stopped =>
      simp [task, TransportTask.work] at receiving

/-- The transport waits; the supervisor goes on queueing local chunks. -/
structure Queueing
    (codec : Codec)
    (locals : Nat)
    (session : Session) : Prop where
  capacity :
    session.client.transport.outboundFiles.capacity = outboundFilesBuf
  alive : session.client.transport.outboundFiles.receiverAlive = true
  running : session.client.task ≠ .exited
  waits : session.client.transport.Waits
  locals : locals ≤ session.localsToSend codec

/-- How many steps the supervisor can take without any arrival. -/
def localWork (codec : Codec) (session : Session) : Nat :=
  session.events.length + (localChunks codec session.events).length +
    session.client.task.toQueue.length

/-- A local event changes the queue of the supervisor and little else. -/
private theorem handleEvent_facts
    {client : Client}
    (selecting : client.task = .selecting)
    (event : LocalEvent) :
    (client.handleEvent codec png event).task.toQueue =
        (event.chunks codec).flatten ∧
      (client.handleEvent codec png event).task ≠ .exited ∧
        ∃ outbound,
          (client.handleEvent codec png event).transport =
            { client.transport with outbound := outbound } := by
  cases shape : event.change with
  | files paths =>
      simp only [Client.handleEvent, shape, SupervisorTask.toQueue_sendFiles]
      exact ⟨trivial, Client.sendFiles_ne_exited _, _, rfl⟩
  | text content =>
      simp only [Client.handleEvent, LocalEvent.chunks, shape]
      split <;>
        exact ⟨by simp [selecting], by simp [selecting], _, rfl⟩
  | image image =>
      simp only [Client.handleEvent, LocalEvent.chunks, shape]
      split <;>
        exact ⟨by simp [selecting], by simp [selecting], _, rfl⟩

private theorem Queueing.advances
    {session : Session}
    (queueing : Queueing codec locals session)
    (many : outboundFilesBuf < locals)
    (free : ¬ session.client.SupervisorWaits) :
    ∃ action next,
      step? codec png session action = some next ∧
        Queueing codec locals next ∧
          next.localWork codec < session.localWork codec := by
  rcases queueing with ⟨capacity, alive, running, waits, bound⟩
  simp only [localsToSend, Client.localToSend] at bound
  cases task : session.client.task with
  | selecting =>
      cases shape : session.events with
      | nil =>
          have queue := session.client.transport.outboundFiles.bounded
          simp only [task, shape, localChunks, List.flatMap_nil,
            SupervisorTask.toQueue_selecting, List.length_nil] at bound
          omega
      | cons event rest =>
          have stepped :
              step? codec png session .localEvent =
                some
                  { session with
                    client := session.client.handleEvent codec png event
                    events := rest } := by
            simp [step?, shape, Client.step?, task]
          obtain ⟨queue, goesOn, outbound, transport⟩ :=
            @handleEvent_facts codec png session.client task event
          simp only [task, shape, localChunks, List.flatMap_cons,
            SupervisorTask.toQueue_selecting, List.length_nil,
            List.length_append] at bound
          refine ⟨_, _, stepped, ⟨?_, ?_, goesOn, ?_, ?_⟩, ?_⟩
          · rw [transport]
            exact capacity
          · rw [transport]
            exact alive
          · rw [transport]
            exact waits
          · simp only [localsToSend, Client.localToSend, queue, transport,
              localChunks]
            omega
          · simp only [localWork, queue, task, shape, localChunks,
              List.flatMap_cons, List.length_append, List.length_cons,
              SupervisorTask.toQueue_selecting, List.length_nil]
            omega
  | sending chunk rest later =>
      have room : session.client.transport.outboundFiles.HasRoom := by
        by_contra full
        exact free ⟨chunk, rest, later, task,
          Channel.pollSend_eq_pending.mpr ⟨alive, full⟩⟩
      have sent :
          session.client.transport.outboundFiles.pollSend chunk =
            .sent
              (session.client.transport.outboundFiles.push chunk room) :=
        Channel.pollSend_eq_sent.mpr ⟨room, alive, rfl⟩
      have stepped :
          step? codec png session (.internal .sendChunk) =
            some
              { session with
                client :=
                  { session.client with
                    task := .sendFiles (rest :: later)
                    transport :=
                      { session.client.transport with
                        outboundFiles :=
                          session.client.transport.outboundFiles.push chunk
                            room } } } := by
        simp [step?, ClientAction.TakesInput, Client.step?,
          Client.sendChunk?, task, sent]
      simp only [task, SupervisorTask.toQueue_sending, List.length_cons,
        List.length_append] at bound
      refine ⟨_, _, stepped, ⟨capacity, alive,
        Client.sendFiles_ne_exited _, waits, ?_⟩, ?_⟩
      · simp only [localsToSend, Client.localToSend, Channel.buffer_push,
          SupervisorTask.toQueue_sendFiles, List.flatten_cons,
          List.length_append, List.length_singleton]
        omega
      · simp only [localWork, task, SupervisorTask.toQueue_sendFiles,
          SupervisorTask.toQueue_sending, List.flatten_cons,
          List.length_cons, List.length_append]
        omega
  | exited =>
      exact (running task).elim

private theorem filling_start
    (codec : Codec)
    (fileReceiver : Option ReceiverState)
    (events : List LocalEvent)
    (connections : List HubConnection) :
    Filling codec
      (connections.flatMap HubConnection.clips).length
      (connections.flatMap HubConnection.fileChunks).length
      (localChunks codec events).length
      (start fileReceiver events connections) := by
  refine
    { listening :=
        ⟨⟨rfl, ?_, rfl⟩, rfl, rfl, rfl, ⟨_, rfl, rfl⟩, rfl⟩
      selecting := rfl
      receiving := by simp [start, Client.start, Transport.spawn,
        TransportTask.work]
      awaiting := by simp [start, Client.start, Transport.spawn]
      welcome := fun _ => rfl
      idle := fun _ => rfl
      clips := by simp [clipsToCome, start]
      chunks := by simp [chunksToCome, start]
      locals := by simp [localsToSend, start] }
  intro files wired
  cases wired
  rfl

/--
For these local events and these connections no schedule makes supervisor and
transport wait for each other, exactly if the chunks of all the local files
fit the outbound-files channel, or the clips and the file chunks that arrive
fit the two inbound channels.
-/
theorem never_deadlocked_iff
    (codec : Codec)
    (png : PngCodec)
    (fileReceiver : Option ReceiverState)
    (events : List LocalEvent)
    (connections : List HubConnection) :
    (∀ session,
        StepRun.Reachable (step? codec png)
            (start fileReceiver events connections) session →
          ¬ session.client.Deadlocked) ↔
      (localChunks codec events).length ≤ outboundFilesBuf ∨
        ((connections.flatMap HubConnection.clips).length ≤ inboundBuf ∧
          (connections.flatMap HubConnection.fileChunks).length ≤
            inboundFilesBuf) := by
  have filling := filling_start codec fileReceiver events connections
  constructor
  · intro never
    by_contra unfit
    have manyLocals :
        outboundFilesBuf < (localChunks codec events).length := by
      omega
    have manyArrivals :
        inboundBuf < (connections.flatMap HubConnection.clips).length ∨
          inboundFilesBuf <
            (connections.flatMap HubConnection.fileChunks).length := by
      omega
    -- first the arrivals fill the inbound channels
    obtain ⟨arrivals, waiting, ran, filled, waits⟩ :
        ∃ arrivals waiting,
          StepRun.run? (step? codec png)
              (start fileReceiver events connections) arrivals =
            some waiting ∧
          Filling codec _ _ _ waiting ∧ waiting.client.transport.Waits :=
      StepRun.exists_run_of_progress work
        (fun filling free => filling.advances manyArrivals free) filling
    -- then the supervisor fills the outbound-files channel
    have queueing :
        Queueing codec (localChunks codec events).length waiting :=
      { capacity := filled.listening.sized.outboundFiles
        alive := filled.listening.outboundFiles
        running := by simp [filled.selecting]
        waits := waits
        locals := filled.locals }
    obtain ⟨sends, final, sent, queued, supervisorWaits⟩ :
        ∃ sends final,
          StepRun.run? (step? codec png) waiting sends = some final ∧
          Queueing codec _ final ∧ final.client.SupervisorWaits :=
      StepRun.exists_run_of_progress (localWork codec)
        (fun queueing free => queueing.advances manyLocals free) queueing
    exact never final
      (StepRun.Reachable.extend ⟨arrivals, ran⟩ sent)
      ⟨supervisorWaits, queued.waits⟩
  · rintro fits session ⟨actions, ran⟩
    have within :
        Within codec
          (connections.flatMap HubConnection.clips).length
          (connections.flatMap HubConnection.fileChunks).length
          (localChunks codec events).length session := by
      apply StepRun.run?_invariant
        (motive := fun session => Within codec _ _ _ session) _ _ ran
      · exact
          { sized := filling.listening.sized
            awaiting := by simp [start, Client.start, Transport.spawn]
            clips := by simp [clipsToCome, start, Client.start,
              Transport.spawn, Transport.toSupervisor, Transport.inHand]
            chunks := by simp [chunksToCome, start, Client.start,
              Transport.spawn, Transport.chunksToSupervisor]
            locals := by simp [localsToSend, start, Client.start,
              Transport.spawn, Client.localToSend] }
      · intro state action next within stepped
        exact within.step stepped
    exact within.not_deadlocked fits

/-- The user copies five small files at once. -/
def fiveFiles : LocalEvent where
  change := .files (List.replicate 5 ⟨["tmp", "hi.txt"]⟩)
  id := ⟨0⟩
  ts := 0
  file := fun _ => ⟨⟨9⟩, ReceiverState.sampleFile⟩

/-- Another client sends five small files at the same time. -/
def fiveChunks : HubConnection where
  welcome :=
    { server := protocolVersion
      clientId := ⟨1⟩
      lastClip := none }
  frames := List.replicate 5 (.fileChunk ReceiverState.lastCall.chunk)

/-- Both transfers fill their channels before either is served. -/
def crossingFiles : List SessionAction :=
  let forward := .internal (.transport .forward)
  let sendChunk := .internal .sendChunk
  [.connect, .arrive,
    .arrive, forward, .arrive, forward, .arrive, forward,
    .arrive, forward, .arrive,
    .localEvent, sendChunk, sendChunk, sendChunk, sendChunk]

/-- Five files each way are enough for a circular wait. -/
theorem crossing_files_deadlock :
    ∃ session,
      StepRun.run? (step? ReceiverState.sampleCodec samplePng)
          (start none [fiveFiles] [fiveChunks]) crossingFiles =
        some session ∧
      session.client.Deadlocked :=
  ⟨_, rfl, ⟨_, _, _, rfl, rfl⟩, .inr ⟨_, _, rfl, rfl, rfl⟩⟩

end Session

end ClipboardWire
