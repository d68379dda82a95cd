import ClipboardWire.FrameSizes
import ClipboardWire.ServerConfig

namespace ClipboardWire

open BoundedChannel

/-!
# The server and the tasks of its connections

`sync_handler` and `handle_socket` of `core/src/server/ws.rs` around the relay
of the hub and the writers.  A connection holds a permit of the semaphore from
its upgrade on; `handle_socket` registers it, runs a reader and a writer task,
leaves its `select!` as soon as one of them ends, deregisters, and gives the
permit back when it returns.  What `select!` drops is only the handle of the
other task, which goes on running.

Everything that goes to the hub passes its bounded inbox.  A list of
`ServerAction`s is one interleaving of all tasks of all connections; its steps
are steps of the relay or leave the relay as it is.
-/

/-- `HUB_INBOX_BUF`. -/
def hubInboxBuf : Nat :=
  1024

/-- A WebSocket message from a client. -/
inductive ClientMessage where
  | text (content : String)
  | binary (bytes : Nat)
  | ping
  | pong
  | close
  deriving DecidableEq, Repr

/-- The size that the limit of the server applies to. -/
def ClientMessage.size : ClientMessage → Nat
  | .text content => content.utf8ByteSize
  | .binary bytes => bytes
  | .ping | .pong | .close => 0

/-- What one turn of the reader finds on the stream. -/
inductive ReaderEvent where
  | message (message : ClientMessage)
  /-- The WebSocket layer reports an error. -/
  | failed
  | ended
  | timedOut
  deriving DecidableEq, Repr

/-- What the reader task awaits. -/
inductive ReaderTask where
  | notStarted
  /-- `stream.next`, with its timeout. -/
  | reading
  /-- `publish` or `publish_file`. -/
  | publishing (message : HubMessage)
  /-- `reader_internal_tx.send` of an error. -/
  | rejecting (error : ErrorFrame)
  | ended
  deriving DecidableEq, Repr

/-- Where a connection is. -/
inductive SocketPhase where
  /-- `sync_handler` has taken a permit. -/
  | upgrading
  | registering
  | awaitingAck
  /-- The `select!` over reader and writer. -/
  | serving
  | deregistering
  /-- `handle_socket` is about to drop the permit. -/
  | returning
  | closed
  deriving DecidableEq, Repr

/-- What goes out on the socket. -/
inductive ServerOutput where
  | frame (frame : Frame)
  | close (code : Option UInt16)
  deriving DecidableEq, Repr

/-- One connection. -/
structure Socket where
  phase : SocketPhase
  reader : ReaderTask
  wire : List ServerOutput
  deriving DecidableEq, Repr

/-- The permit is held until `handle_socket` returns. -/
def SocketPhase.HoldsPermit (phase : SocketPhase) : Prop :=
  phase ≠ .closed

instance (phase : SocketPhase) : Decidable phase.HoldsPermit :=
  inferInstanceAs (Decidable (phase ≠ .closed))

/-- The reader task exists. -/
def ReaderTask.Running : ReaderTask → Prop
  | .reading | .publishing _ | .rejecting _ => True
  | .notStarted | .ended => False

/--
Both senders of a connection's internal queue are gone: `handle_socket` has
returned, and the reader has ended.
-/
def Socket.InternalClosed (socket : Socket) : Prop :=
  socket.phase = .closed ∧ socket.reader = .ended

instance (socket : Socket) : Decidable socket.InternalClosed :=
  inferInstanceAs (Decidable (_ ∧ _))

/-- The scheduler's choices. -/
inductive ServerAction where
  /-- A client with the right credentials asks for an upgrade. -/
  | connect (id : Uuid)
  | upgrade (id : Uuid) (succeeds : Bool)
  | register (id : Uuid)
  /-- The hub takes the first message of its inbox. -/
  | process (message : HubMessage)
  | welcome (id : Uuid)
  | receive (id : Uuid) (event : ReaderEvent)
  | publish (id : Uuid)
  | reject (id : Uuid)
  | write (id : Uuid)
  | writeFails (id : Uuid)
  /-- `select!` sees that a task has ended. -/
  | finish (id : Uuid)
  | deregister (id : Uuid)
  | release (id : Uuid)
  deriving DecidableEq, Repr

/-- The relay, the inbox of the hub, the semaphore and the connections. -/
structure Server where
  relay : Relay
  inbox : Channel HubMessage
  permits : Nat
  sockets : Uuid → Option Socket

instance (limits : WebSocketLimits) (bytes : Nat) :
    Decidable (limits.Admits bytes) :=
  inferInstanceAs
    (Decidable
      (bytes ≤ limits.maxMessageSize ∧ bytes ≤ limits.maxFrameSize))

/-- What the reader does with a message of admitted size. -/
def dispatch
    (fromStr : String → Option Frame)
    (id : Uuid) :
    ClientMessage → ReaderTask
  | .text content =>
      match readText fromStr id content with
      | .ok message => .publishing message
      | .error error => .rejecting error
  | .binary _ =>
      .rejecting ⟨.badFrame, "binary WebSocket frames are not supported"⟩
  | .ping | .pong =>
      .reading
  | .close =>
      .ended

/-- One turn of the reader; an oversize message is a read error. -/
def readerTurn
    (fromStr : String → Option Frame)
    (config : ServerConfig)
    (id : Uuid) :
    ReaderEvent → ReaderTask
  | .message message =>
      if (serverLimits config.maxFrameBytes.toNat).Admits message.size then
        dispatch fromStr id message
      else
        .ended
  | .failed | .ended | .timedOut =>
      .ended

/-- What a turn of the writer puts on the socket. -/
def turnOutput : WriterTurn → List ServerOutput
  | .frame frame _ _ _ =>
      -- `sink.close` sends a Close frame without a code
      if frame.isError then
        [.frame frame, .close none]
      else
        [.frame frame]
  | .exit | .idle =>
      []

namespace Server

/-- `build_app`. -/
def start (config : ServerConfig) : Server where
  relay := Relay.start config.maxConns.toNat config.stats
  inbox := Channel.withCapacity hubInboxBuf
  permits := config.maxConns.toNat
  sockets := fun _ => none

/-- Replace what is known about one connection. -/
def setSocket (server : Server) (id : Uuid) (socket : Socket) : Server :=
  { server with sockets := Function.update server.sockets id (some socket) }

@[simp] theorem relay_setSocket
    (server : Server)
    (id : Uuid)
    (socket : Socket) :
    (server.setSocket id socket).relay = server.relay := by
  rfl

@[simp] theorem inbox_setSocket
    (server : Server)
    (id : Uuid)
    (socket : Socket) :
    (server.setSocket id socket).inbox = server.inbox := by
  rfl

@[simp] theorem permits_setSocket
    (server : Server)
    (id : Uuid)
    (socket : Socket) :
    (server.setSocket id socket).permits = server.permits := by
  rfl

@[simp] theorem sockets_setSocket_self
    (server : Server)
    (id : Uuid)
    (socket : Socket) :
    (server.setSocket id socket).sockets id = some socket := by
  simp [setSocket]

/-- Replacing a connection changes no other connection. -/
theorem sockets_setSocket_of_ne
    (server : Server)
    (socket : Socket)
    {id other : Uuid}
    (different : other ≠ id) :
    (server.setSocket id socket).sockets other = server.sockets other := by
  simp [setSocket, different]

/-- Send a message to the hub, once there is room in its inbox. -/
def enqueue?
    (server : Server)
    (message : HubMessage) :
    Option Server :=
  match server.inbox.pollSend message with
  | .sent inbox => some { server with inbox := inbox }
  | .pending | .closed => none

/-- The writer of a connection runs. -/
def WriterRunning (server : Server) (id : Uuid) : Prop :=
  (server.relay.connections id).map Connection.writer = some .running

instance (server : Server) (id : Uuid) : Decidable (server.WriterRunning id) :=
  inferInstanceAs (Decidable (_ = _))

/-- What the next turn of a connection's writer finds. -/
def nextTurn (server : Server) (id : Uuid) : WriterTurn :=
  match server.relay.connections id with
  | some connection =>
      writerTurn connection.internal (server.relay.mail.clip id)
        (server.relay.mail.file id)
  | none =>
      .idle

/-- Nothing is left in a connection's internal queue. -/
def InternalEmpty (server : Server) (id : Uuid) : Prop :=
  (server.relay.connections id).map (·.internal.buffer) = some []

instance (server : Server) (id : Uuid) : Decidable (server.InternalEmpty id) :=
  inferInstanceAs (Decidable (_ = _))

/-- The receiving end of a connection's internal queue exists. -/
def internalOpen (server : Server) (id : Uuid) : Bool :=
  match server.relay.connections id with
  | some connection => connection.internal.receiverAlive
  | none => false

/-- The connection is refused when there is no permit for it. -/
def connect? (server : Server) (id : Uuid) : Option Server :=
  match server.sockets id, server.permits with
  | none, 0 =>
      some server
  | none, permits + 1 =>
      some
        ({ server with permits := permits }.setSocket id
          ⟨.upgrading, .notStarted, []⟩)
  | some _, _ =>
      none

/-- `handle_socket` starts, or the permit is dropped with its future. -/
def upgrade?
    (server : Server)
    (id : Uuid)
    (socket : Socket)
    (succeeds : Bool) :
    Option Server :=
  if socket.phase = .upgrading then
    if succeeds then
      some (server.setSocket id { socket with phase := .registering })
    else
      some
        ({ server with permits := server.permits + 1 }.setSocket id
          { socket with phase := .closed })
  else
    none

/-- `hub.register` sends its message. -/
def register? (server : Server) (id : Uuid) (socket : Socket) :
    Option Server :=
  if socket.phase = .registering then
    (server.enqueue? (.register id id id)).map fun next =>
      next.setSocket id { socket with phase := .awaitingAck }
  else
    none

/-- The hub handles the first message of its inbox. -/
def process? (server : Server) (message : HubMessage) : Option Server :=
  match server.inbox.pollRecv with
  | .received first inbox =>
      if first = message then
        (server.relay.step? (.process message)).map fun relay =>
          { server with relay := relay, inbox := inbox }
      else
        none
  | .pending | .disconnected =>
      none

/-- `handle_socket` has its acknowledgement. -/
def welcome? (server : Server) (id : Uuid) (socket : Socket) :
    Option Server :=
  if socket.phase = .awaitingAck then
    match server.relay.connections id with
    | none =>
        none
    | some connection =>
        (server.relay.step? (.welcome id)).map fun relay =>
          match connection.ack with
          | .accepted _ =>
              { server with relay := relay }.setSocket id
                { socket with phase := .serving, reader := .reading }
          | .atCapacity =>
              { server with relay := relay }.setSocket id
                { socket with
                  phase := .returning
                  wire :=
                    socket.wire ++
                      [ServerOutput.close
                        (some ErrorCode.duplicateSession.closeCode)] }
  else
    none

/-- The reader takes an event from the stream. -/
def receive?
    (fromStr : String → Option Frame)
    (config : ServerConfig)
    (server : Server)
    (id : Uuid)
    (socket : Socket)
    (event : ReaderEvent) :
    Option Server :=
  match socket.reader with
  | .reading =>
      some
        (server.setSocket id
          { socket with reader := readerTurn fromStr config id event })
  | _ =>
      none

/-- The reader's message goes into the inbox. -/
def publish? (server : Server) (id : Uuid) (socket : Socket) :
    Option Server :=
  match socket.reader with
  | .publishing message =>
      (server.enqueue? message).map fun next =>
        next.setSocket id { socket with reader := .reading }
  | _ =>
      none

/-- The reader's error goes to the writer, unless the writer is gone. -/
def reject? (server : Server) (id : Uuid) (socket : Socket) :
    Option Server :=
  match socket.reader with
  | .rejecting error =>
      if server.internalOpen id then
        (server.relay.step? (.reject id error)).map fun relay =>
          { server with relay := relay }.setSocket id
            { socket with reader := .ended }
      else
        some (server.setSocket id { socket with reader := .ended })
  | _ =>
      none

/-- One turn of the writer in which the sink accepts what it is given. -/
def write? (server : Server) (id : Uuid) (socket : Socket) : Option Server :=
  if socket.InternalClosed ∧ server.InternalEmpty id then
    -- `internal_rx.recv` returns `None`, and the writer ends like after a
    -- failed send
    (server.relay.step? (.writeFails id)).map fun relay =>
      { server with relay := relay }
  else
    (server.relay.step? (.write id)).map fun relay =>
      { server with relay := relay }.setSocket id
        { socket with wire := socket.wire ++ turnOutput (server.nextTurn id) }

/-- `select!` returns when the reader or the writer has ended. -/
def finish? (server : Server) (id : Uuid) (socket : Socket) : Option Server :=
  if socket.phase = .serving ∧
      (socket.reader = .ended ∨ ¬ server.WriterRunning id) then
    some (server.setSocket id { socket with phase := .deregistering })
  else
    none

/-- `hub.deregister` sends its message. -/
def deregister? (server : Server) (id : Uuid) (socket : Socket) :
    Option Server :=
  if socket.phase = .deregistering then
    (server.enqueue? (.deregister id)).map fun next =>
      next.setSocket id { socket with phase := .returning }
  else
    none

/-- `handle_socket` returns, and its permit is dropped. -/
def release? (server : Server) (id : Uuid) (socket : Socket) :
    Option Server :=
  if socket.phase = .returning then
    some
      ({ server with permits := server.permits + 1 }.setSocket id
        { socket with phase := .closed })
  else
    none

/-- One step of the server. -/
def step?
    (fromStr : String → Option Frame)
    (config : ServerConfig)
    (server : Server)
    (action : ServerAction) :
    Option Server :=
  match action with
  | .connect id =>
      server.connect? id
  | .process message =>
      server.process? message
  | .upgrade id succeeds =>
      (server.sockets id).bind (server.upgrade? id · succeeds)
  | .register id =>
      (server.sockets id).bind (server.register? id)
  | .welcome id =>
      (server.sockets id).bind (server.welcome? id)
  | .receive id event =>
      (server.sockets id).bind (server.receive? fromStr config id · event)
  | .publish id =>
      (server.sockets id).bind (server.publish? id)
  | .reject id =>
      (server.sockets id).bind (server.reject? id)
  | .write id =>
      (server.sockets id).bind (server.write? id)
  | .writeFails id =>
      (server.relay.step? (.writeFails id)).map fun relay =>
        { server with relay := relay }
  | .finish id =>
      (server.sockets id).bind (server.finish? id)
  | .deregister id =>
      (server.sockets id).bind (server.deregister? id)
  | .release id =>
      (server.sockets id).bind (server.release? id)

section Steps

variable
  {fromStr : String → Option Frame}
  {config : ServerConfig}
  {server : Server}

/-- A reader that waits for the stream turns to what it finds there. -/
theorem step?_receive
    {id : Uuid}
    {socket : Socket}
    {event : ReaderEvent}
    {task : ReaderTask}
    (known : server.sockets id = some socket)
    (reading : socket.reader = .reading)
    (turn : readerTurn fromStr config id event = task) :
    step? fromStr config server (.receive id event) =
      some (server.setSocket id { socket with reader := task }) := by
  simp only [step?, known, Option.bind_some, receive?, reading, turn]

/-- The hub handles the message that is first in its inbox. -/
theorem step?_process
    {message : HubMessage}
    {relay : Relay}
    {inbox : Channel HubMessage}
    (first : server.inbox.pollRecv = .received message inbox)
    (handled : server.relay.step? (.process message) = some relay) :
    step? fromStr config server (.process message) =
      some { server with relay := relay, inbox := inbox } := by
  simp only [step?, process?, first, handled, ↓reduceIte, Option.map_some]

end Steps

end Server

end ClipboardWire
