import ClipboardWire.ClientTransport
import ClipboardWire.FrameJson
import ClipboardWire.ServerFrames

namespace ClipboardWire

open JsonValue StepRun

/-!
# Frames of an unknown type

A later version of the protocol may send frames of a new type, which both ends
are to ignore.  Reading such a frame fails like reading a malformed one, and
the two ends make different things of the failure: the serving loop of a
client goes on as if nothing had come, while the server rejects the message
and ends the connection, and so does a client that waits for its welcome.
-/

variable {reader : FrameReader} {content : String}

namespace Server

/-- The reader of a connection waits for a message. -/
def Reads (server : Server) (id : Uuid) : Prop :=
  ∃ socket, server.sockets id = some socket ∧ socket.reader = .reading

/-- The server's reader takes a message of an unknown type for malformed. -/
theorem readerTurn_unknown
    (config : ServerConfig)
    (unknown : reader.UnknownFrame content)
    (id : Uuid) :
    readerTurn reader.fromStr config id (.message (.text content)) =
      if (serverLimits config.maxFrameBytes.toNat).Admits
          content.utf8ByteSize then
        .rejecting ⟨.badFrame, "malformed frame"⟩
      else
        .ended := by
  simp only [readerTurn, dispatch, readText, unknown.fromStr_eq_none,
    ClientMessage.size]

/-- No message of an unknown type leaves the server as it was. -/
theorem receive_unknown_ne
    {config : ServerConfig}
    {server : Server}
    {id : Uuid}
    (unknown : reader.UnknownFrame content)
    (reads : server.Reads id) :
    server.step? reader.fromStr config
        (.receive id (.message (.text content))) ≠
      some server := by
  obtain ⟨socket, known, reading⟩ := reads
  intro unchanged
  simp only [step?, known, Option.bind_some, receive?, reading,
    Option.some.injEq, readerTurn_unknown config unknown] at unchanged
  have same := congrArg (fun state => state.sockets id) unchanged
  rw [sockets_setSocket_self, known, Option.some.injEq] at same
  have turned := (congrArg Socket.reader same).trans reading
  simp only at turned
  split at turned
  · cases turned
  · cases turned

end Server

namespace Transport

/-- The transport waits for a message. -/
def Reads (transport : Transport) : Prop :=
  transport.task = .awaitingWelcome ∨ transport.task = .serving

/-- A connection that has ended is not waiting for its welcome. -/
theorem task_endConnection (transport : Transport) :
    transport.endConnection.task ≠ .awaitingWelcome := by
  unfold endConnection
  split
  · simp [stop]
  · split
    · simp
    · simp [stop]

/-- A text that cannot be read changes nothing in the serving loop only. -/
theorem receive_unread_iff
    {transport : Transport}
    (reads : transport.Reads) :
    transport.step? (.receive (.text none)) = some transport ↔
      transport.task = .serving := by
  rcases reads with awaiting | serving
  · simp only [step?, awaiting, handleFirst, Option.some.injEq, reduceCtorEq,
      iff_false]
    intro same
    exact transport.task_endConnection (by rw [same, awaiting])
  · simp [step?, serving, handleIncoming]

end Transport

/--
A message of an unknown type is ignored, wherever it comes in a session and
whatever comes after it, exactly when the serving loop of a client receives
it: never by the reader of the server, and not by a client that still waits
for its welcome.
-/
theorem unknown_ignored_iff (unknown : reader.UnknownFrame content) :
    (∀ config past server id,
      run? (Server.step? reader.fromStr config) (Server.start config) past =
          some server →
        server.Reads id →
          ¬ Skips (Server.step? reader.fromStr config) (Server.start config)
            past (.receive id (.message (.text content)))) ∧
      ∀ receiveFiles oneShot past transport,
        run? Transport.step? (Transport.spawn receiveFiles oneShot) past =
            some transport →
          transport.Reads →
            (Skips Transport.step? (Transport.spawn receiveFiles oneShot)
                past (.receive (.text (reader.fromStr content))) ↔
              transport.task = .serving) := by
  constructor
  · intro config past server id ran reads skips
    exact Server.receive_unknown_ne unknown reads ((skips_iff ran).mp skips)
  · intro receiveFiles oneShot past transport ran reads
    rw [skips_iff ran, unknown.fromStr_eq_none]
    exact Transport.receive_unread_iff reads

/-- A text that a later version might send. -/
def futureText : String :=
  "\x7b\"type\":\"future_frame\",\"foo\":1\x7d"

/-- A reader that knows the value of that text. -/
def futureReader : FrameReader where
  parse content :=
    if content = futureText then
      some
        (.object [("type", .string "future_frame"), ("foo", .integer 1)])
    else
      none
  uuid _ := none

/-- The text has an unknown type. -/
theorem futureText_unknown : futureReader.UnknownFrame futureText :=
  ⟨[("type", .string "future_frame"), ("foo", .integer 1)], "future_frame",
    by simp [futureReader], List.mem_cons_self, by decide⟩

namespace Server

/-- The server with one client. -/
def admitted : Server :=
  (run? (step? futureReader.fromStr smallConfig) (start smallConfig)
    (joining ⟨1⟩)).get (by decide)

/-- The client sends a frame of a later version. -/
def sendingFuture : List ServerAction :=
  joining ⟨1⟩ ++
    [.receive ⟨1⟩ (.message (.text futureText)), .reject ⟨1⟩,
      .write ⟨1⟩, .write ⟨1⟩, .finish ⟨1⟩]

/-- The server after that. -/
def afterFuture : Server :=
  (run? (step? futureReader.fromStr smallConfig) (start smallConfig)
    sendingFuture).get (by decide +kernel)

end Server

/-- The messages of a connection up to its welcome. -/
def welcoming : List TransportAction :=
  [.connect true,
    .receive (.text (some (.welcome ⟨protocolVersion, ⟨1⟩, none⟩)))]

/-- A client in its serving loop. -/
def servingTransport : Transport :=
  { Transport.spawn true false with task := .serving }

/-- The frame of a later version, at the server and at a serving client. -/
theorem futureText_ignored_iff :
    ¬ Skips (Server.step? futureReader.fromStr Server.smallConfig)
        (Server.start Server.smallConfig) (Server.joining ⟨1⟩)
        (.receive ⟨1⟩ (.message (.text futureText))) ∧
      (Skips Transport.step? (Transport.spawn true false) welcoming
          (.receive (.text (futureReader.fromStr futureText))) ↔
        servingTransport.task = .serving) :=
  ⟨(unknown_ignored_iff futureText_unknown).1 Server.smallConfig
      (Server.joining ⟨1⟩) Server.admitted ⟨1⟩ (Option.some_get _).symm
      ⟨(Server.admitted.sockets ⟨1⟩).get (by decide), by simp,
        by decide⟩,
    (unknown_ignored_iff futureText_unknown).2 true false welcoming
      servingTransport rfl (.inr rfl)⟩

/--
The server answers the frame of a later version with an error, ends the
connection, and reads nothing more from it; a client whose first message it
is ends the connection too.
-/
theorem futureText_not_ignored :
    futureReader.UnknownFrame futureText ∧
      Server.afterFuture.sockets ⟨1⟩ =
        some
          ⟨.deregistering, .ended,
            [.frame (Relay.welcomeFrame ⟨1⟩ none),
              .frame (.error ⟨.badFrame, "malformed frame"⟩),
              .close none]⟩ ∧
      ({ Transport.spawn true false with
          task := .awaitingWelcome } : Transport).step?
          (.receive (.text (futureReader.fromStr futureText))) =
        some { Transport.spawn true false with task := .sleeping } := by
  refine ⟨futureText_unknown, by decide +kernel, ?_⟩
  rw [futureText_unknown.fromStr_eq_none]
  rfl

end ClipboardWire
