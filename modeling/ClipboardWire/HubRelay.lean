import ClipboardWire.Hub
import ClipboardWire.StepRun

namespace ClipboardWire

open BoundedChannel

/-!
# The hub and its connections

One run of the server: the hub processes its inbox while the connection tasks
of `core/src/server/ws.rs` drain what it hands them.  `handle_socket`
registers, queues the welcome ahead of everything else and spawns the writer;
the writer's `select!` is biased towards internal frames, then clips, then
file chunks.

Every interleaving is one list of `RelayAction`s.  Connection identifiers are
fresh, because `handle_socket` draws a new one for each socket and registers
it once, with the two channels it has just made.
-/

/-- Progress of a connection's writer task. -/
inductive WriterState where
  | notStarted
  | running
  | exited
  deriving DecidableEq, Repr

/-- What `handle_socket` and its writer know about one connection. -/
structure Connection where
  ack : RegisterResult
  internal : Channel Frame
  writer : WriterState
  sent : List Frame
  deriving DecidableEq, Repr

/-- Capacity of `internal_tx`. -/
def internalBuf : Nat :=
  8

/-- Hub, channel table and every connection made so far. -/
structure Relay where
  hub : Hub
  mail : Mailboxes
  connections : Uuid → Option Connection

/-- The scheduler's choices. -/
inductive RelayAction where
  /-- The hub takes a message from its inbox. -/
  | process (message : HubMessage)
  /-- `handle_socket` gets its acknowledgement and starts the writer. -/
  | welcome (id : Uuid)
  /-- The reader queues an error frame. -/
  | reject (id : Uuid) (error : ErrorFrame)
  /-- One turn of the writer in which the sink accepts the frame. -/
  | write (id : Uuid)
  /-- One turn of the writer in which the sink refuses the frame. -/
  | writeFails (id : Uuid)
  deriving DecidableEq, Repr

/-- What the writer's biased `select!` finds first. -/
inductive WriterTurn where
  | frame (frame : Frame)
      (internal : Channel Frame)
      (clips : Channel ClipFrame)
      (files : Channel FileChunkFrame)
  | exit
  | idle

/-- One turn of the writer: internal frames, then clips, then file chunks. -/
def writerTurn
    (internal : Channel Frame)
    (clips : Channel ClipFrame)
    (files : Channel FileChunkFrame) :
    WriterTurn :=
  match internal.pollRecv with
  | .received frame rest =>
      .frame frame rest clips files
  | .disconnected =>
      .exit
  | .pending =>
      match clips.pollRecv with
      | .received clip rest =>
          .frame (.clip clip) internal rest files
      | .disconnected =>
          .exit
      | .pending =>
          match files.pollRecv with
          | .received chunk rest =>
              .frame (.fileChunk chunk) internal clips rest
          | .disconnected =>
              .exit
          | .pending =>
              .idle

namespace Frame

/-- After an error frame the writer closes the socket and breaks. -/
def isError : Frame → Bool
  | .error _ => true
  | _ => false

end Frame

namespace Relay

/-- A server that has not seen any connection. -/
def start (maxClients : Nat) (stats : Option UInt64) : Relay where
  hub := Hub.new maxClients stats
  mail :=
    { clip := fun _ => Channel.withCapacity perClientChannelBuf
      file := fun _ => Channel.withCapacity perClientFileChannelBuf }
  connections := fun _ => none

/-- Replace what is known about one connection. -/
def setConnection
    (relay : Relay)
    (id : Uuid)
    (connection : Connection) :
    Relay :=
  { relay with
    connections :=
      Function.update relay.connections id (some connection) }

/-- Replace the two channels of one connection. -/
def setChannels
    (relay : Relay)
    (id : Uuid)
    (clips : Channel ClipFrame)
    (files : Channel FileChunkFrame) :
    Relay :=
  { relay with
    mail :=
      { clip := Function.update relay.mail.clip id clips
        file := Function.update relay.mail.file id files } }

/-- The hub handles a message that registers nobody. -/
def handleMessage (relay : Relay) (message : HubMessage) : Relay :=
  let handled := relay.hub.handle relay.mail message
  { relay with hub := handled.hub, mail := handled.mail }

/--
The hub handles the registration of a new connection: the channels have just
been made, and the acknowledgement waits for `handle_socket`.
-/
def registerConnection (relay : Relay) (id : Uuid) : Relay :=
  let opened :=
    relay.setChannels id
      (Channel.withCapacity perClientChannelBuf)
      (Channel.withCapacity perClientFileChannelBuf)
  let handled := opened.hub.handle opened.mail (.register id id id)
  { hub := handled.hub
    mail := handled.mail
    connections :=
      Function.update relay.connections id
        (some
          { ack := handled.ack.getD .atCapacity
            internal := Channel.withCapacity internalBuf
            writer := .notStarted
            sent := [] }) }

/-- The writer task ends and drops its three receivers. -/
def exitWriter (relay : Relay) (id : Uuid) (connection : Connection) : Relay :=
  (relay.setConnection id
    { connection with
      internal := connection.internal.dropReceiver
      writer := .exited }).setChannels id
    (relay.mail.clip id).dropReceiver
    (relay.mail.file id).dropReceiver

/-- The welcome frame that `handle_socket` builds from the acknowledgement. -/
def welcomeFrame (id : Uuid) (lastClip : Option ClipFrame) : Frame :=
  .welcome
    { server := protocolVersion
      clientId := id
      lastClip := lastClip }

/-- One step of the server. -/
def step? (relay : Relay) : RelayAction → Option Relay
  | .process (.register id outbound fileOutbound) =>
      if (relay.connections id).isNone ∧
          outbound = id ∧ fileOutbound = id then
        some (relay.registerConnection id)
      else
        none
  | .process message =>
      some (relay.handleMessage message)
  | .welcome id =>
      match relay.connections id with
      | none =>
          none
      | some connection =>
          match connection.writer, connection.ack with
          | .notStarted, .accepted lastClip =>
              some (relay.setConnection id
                { connection with
                  internal :=
                    connection.internal.offer (welcomeFrame id lastClip)
                  writer := .running })
          -- refused registration: the socket is closed without a writer
          | .notStarted, .atCapacity =>
              some (relay.exitWriter id connection)
          | _, _ =>
              none
  | .reject id error =>
      match relay.connections id with
      | none =>
          none
      | some connection =>
          match
            connection.writer, connection.internal.trySend (.error error)
          with
          | .running, .ok internal =>
              some (relay.setConnection id
                { connection with internal := internal })
          | _, _ =>
              none
  | .write id =>
      match relay.connections id with
      | none =>
          none
      | some connection =>
          if connection.writer = .running then
            match writerTurn connection.internal
                (relay.mail.clip id) (relay.mail.file id) with
            | .frame frame internal clips files =>
                let sent :=
                  { connection with
                    internal := internal
                    sent := connection.sent ++ [frame] }
                let next :=
                  (relay.setConnection id sent).setChannels id clips files
                if frame.isError then
                  some (next.exitWriter id sent)
                else
                  some next
            | .exit =>
                some (relay.exitWriter id connection)
            -- a ping tick: no frame is sent
            | .idle =>
                some relay
          else
            none
  | .writeFails id =>
      match relay.connections id with
      | none =>
          none
      | some connection =>
          if connection.writer = .running then
            some (relay.exitWriter id connection)
          else
            none

end Relay

end ClipboardWire
