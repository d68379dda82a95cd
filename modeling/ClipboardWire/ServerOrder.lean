import ClipboardWire.HubOrder
import ClipboardWire.ServerTeardown

namespace ClipboardWire

open BoundedChannel

/-!
# Frames stay in the order in which their client sent them

What the reader of a connection has made of its socket is, at every moment,
what the hub has handled of that client, then what waits in the inbox, then
the message that the reader is about to send: no step loses, repeats or
reorders a message on this way.  With the order that the hub keeps, frames go
from the socket of one client to the socket of another one in order and at
most once, whatever happens to the other connections.
-/

variable {fromStr : String → Option Frame} {config : ServerConfig}

/-- What a reader has read and not yet sent to the hub. -/
def ReaderTask.pending : ReaderTask → List HubMessage
  | .publishing message => [message]
  | .notStarted | .reading | .rejecting _ | .ended => []

/-- The message that the reader of a client makes of what it receives. -/
def ServerAction.read?
    (fromStr : String → Option Frame)
    (config : ServerConfig)
    (sender : Uuid) :
    ServerAction → Option HubMessage
  | .receive id event =>
      if id = sender then
        (readerTurn fromStr config id event).pending.head?
      else
        none
  | _ =>
      none

/-- The frames that a client has sent, stamped, in the order of its socket. -/
def framesRead
    (fromStr : String → Option Frame)
    (config : ServerConfig)
    (sender : Uuid)
    (actions : List ServerAction) :
    List Frame :=
  (actions.filterMap (ServerAction.read? fromStr config sender)).filterMap
    HubMessage.relayed?

/-- A message comes from a client. -/
def HubMessage.isFrom (sender : Uuid) (message : HubMessage) : Bool :=
  decide (message.sender? = some sender)

/-- At most one message is pending, so its head is all of it. -/
private theorem pending_eq_toList (task : ReaderTask) :
    task.pending = task.pending.head?.toList := by
  cases task <;> rfl

namespace Server

/-- What the reader of a connection is about to send to the hub. -/
def pending (server : Server) (id : Uuid) : List HubMessage :=
  match server.sockets id with
  | some socket => socket.reader.pending
  | none => []

/-- What a known reader is about to send. -/
private theorem pending_of_known
    {server : Server}
    {id : Uuid}
    {socket : Socket}
    (known : server.sockets id = some socket) :
    server.pending id = socket.reader.pending := by
  rw [pending, known]

/-- Replacing a connection changes what its own reader is about to send. -/
private theorem pending_setSocket_self
    (server : Server)
    (id : Uuid)
    (socket : Socket) :
    (server.setSocket id socket).pending id = socket.reader.pending :=
  pending_of_known (sockets_setSocket_self server id socket)

/-- Replacing a connection leaves the other readers alone. -/
private theorem pending_setSocket_of_ne
    (server : Server)
    {id other : Uuid}
    (socket : Socket)
    (different : other ≠ id) :
    (server.setSocket id socket).pending other = server.pending other := by
  rw [pending, pending, sockets_setSocket_of_ne server socket different]

/-- The messages of a client, from the hub's past to its reader. -/
def stream
    (server : Server)
    (sender : Uuid)
    (past : List ServerAction) :
    List HubMessage :=
  (server.messages past).filter (HubMessage.isFrom sender) ++
    server.pending sender

/-- A step adds to a client's stream what its reader makes of the socket. -/
def Flows
    (fromStr : String → Option Frame)
    (config : ServerConfig)
    (server next : Server)
    (past : List ServerAction)
    (action : ServerAction) : Prop :=
  ∀ sender,
    next.stream sender (past ++ [action]) =
      server.stream sender past ++ (action.read? fromStr config sender).toList

/-- A step that concerns neither the inbox nor a message that is pending. -/
private theorem flows_of_quiet
    {server next : Server}
    {action : ServerAction}
    (past : List ServerAction)
    (inbox : next.inbox = server.inbox)
    (pending : ∀ sender, next.pending sender = server.pending sender)
    (silent : action.processed? = none)
    (unread : ∀ sender, action.read? fromStr config sender = none) :
    Flows fromStr config server next past action := by
  intro sender
  have same : next.messages (past ++ [action]) = server.messages past := by
    simp [messages, List.filterMap_append, silent, inbox]
  rw [stream, stream, same, pending, unread, Option.toList_none,
    List.append_nil]

/-- A connection changes, and its reader is about to send what it was. -/
private theorem pending_setSocket_of_same
    {server : Server}
    {id : Uuid}
    {socket : Socket}
    (same : socket.reader.pending = server.pending id)
    (sender : Uuid) :
    (server.setSocket id socket).pending sender = server.pending sender := by
  by_cases own : sender = id
  · subst sender
    rw [pending_setSocket_self, same]
  · exact pending_setSocket_of_ne server socket own

/-- A registration or deregistration in the inbox belongs to no stream. -/
private theorem flows_of_pushQuiet
    {server next : Server}
    {action : ServerAction}
    {message : HubMessage}
    (past : List ServerAction)
    (room : server.inbox.HasRoom)
    (inbox : next.inbox = server.inbox.push message room)
    (quiet : message.sender? = none)
    (pending : ∀ sender, next.pending sender = server.pending sender)
    (silent : action.processed? = none)
    (unread : ∀ sender, action.read? fromStr config sender = none) :
    Flows fromStr config server next past action := by
  intro sender
  have longer :
      next.messages (past ++ [action]) =
        server.messages past ++ [message] := by
    simp [messages, List.filterMap_append, silent, inbox]
  have dropped : ([message].filter (HubMessage.isFrom sender)) = [] := by
    simp [HubMessage.isFrom, quiet]
  rw [stream, stream, longer, List.filter_append, dropped, pending, unread,
    Option.toList_none, List.append_nil, List.append_nil]

/-- The reader's message goes to the end of the inbox. -/
private theorem flows_published
    {server : Server}
    {id : Uuid}
    {socket : Socket}
    {message : HubMessage}
    (past : List ServerAction)
    (readers : server.ReadersPublish)
    (known : server.sockets id = some socket)
    (publishing : socket.reader = .publishing message)
    (room : server.inbox.HasRoom) :
    Flows fromStr config server
      ({ server with inbox := server.inbox.push message room }.setSocket
        id { socket with reader := .reading })
      past (.publish id) := by
  intro sender
  have longer :
      (({ server with inbox := server.inbox.push message room }.setSocket
          id { socket with reader := .reading }).messages
        (past ++ [ServerAction.publish id])) =
        server.messages past ++ [message] := by
    simp [messages, List.filterMap_append, ServerAction.processed?]
  have origin := readers known message publishing
  rw [stream, stream, longer, List.filter_append, List.append_assoc,
    List.append_assoc]
  congr 1
  by_cases own : sender = id
  · subst sender
    rw [pending_setSocket_self, pending_of_known known, publishing]
    simp [HubMessage.isFrom, origin, ReaderTask.pending, ServerAction.read?]
  · rw [pending_setSocket_of_ne _ _ own]
    simp [HubMessage.isFrom, origin, Ne.symm own, ServerAction.read?,
      pending]

/-- The reader takes a message from its socket. -/
private theorem flows_received
    {server : Server}
    {id : Uuid}
    {socket : Socket}
    {event : ReaderEvent}
    (past : List ServerAction)
    (known : server.sockets id = some socket)
    (reading : socket.reader = .reading) :
    Flows fromStr config server
      (server.setSocket id
        { socket with reader := readerTurn fromStr config id event })
      past (.receive id event) := by
  intro sender
  have same :
      (server.setSocket id
          { socket with
            reader := readerTurn fromStr config id event }).messages
          (past ++ [.receive id event]) =
        server.messages past := by
    simp [messages, List.filterMap_append, ServerAction.processed?]
  rw [stream, stream, same, List.append_assoc]
  congr 1
  by_cases own : sender = id
  · subst sender
    rw [pending_setSocket_self, pending_of_known known, reading]
    simpa [ServerAction.read?, ReaderTask.pending] using
      pending_eq_toList (readerTurn fromStr config id event)
  · rw [pending_setSocket_of_ne _ _ own]
    simp [ServerAction.read?, Ne.symm own]

/-- The hub takes the first message of the inbox. -/
private theorem flows_processed
    {server : Server}
    {message : HubMessage}
    (past : List ServerAction)
    (relay : Relay)
    (first : server.inbox.buffer = message :: server.inbox.buffer.tail) :
    Flows fromStr config server
      { server with relay := relay, inbox := server.inbox.dropHead }
      past (.process message) := by
  intro sender
  have same :
      ({ server with
          relay := relay
          inbox := server.inbox.dropHead } : Server).messages
          (past ++ [.process message]) =
        server.messages past := by
    simp only [messages, List.filterMap_append, Channel.buffer_dropHead,
      List.append_assoc]
    rw [first]
    rfl
  rw [stream, stream, same]
  simp [ServerAction.read?, pending]

/-- No reader is started before its connection is served. -/
def ReadersWait (server : Server) : Prop :=
  ∀ {id socket},
    server.sockets id = some socket →
      (socket.phase = .upgrading ∨ socket.phase = .registering ∨
        socket.phase = .awaitingAck) →
      socket.reader = .notStarted

theorem readersWait_start (config : ServerConfig) :
    (start config).ReadersWait := by
  intro id socket known
  cases known

private theorem ReadersWait.move
    {server : Server}
    (waiting : server.ReadersWait)
    {id : Uuid}
    {socket : Socket}
    {reader : ReaderTask}
    (known : server.sockets id = some socket)
    (started : socket.reader ≠ .notStarted) :
    (server.setSocket id { socket with reader := reader }).ReadersWait :=
  forall_sockets_setSocket
    (fun early => (started (waiting known early)).elim) waiting

theorem ReadersWait.step
    {server next : Server}
    {action : ServerAction}
    (waiting : server.ReadersWait)
    (stepped : server.step? fromStr config action = some next) :
    next.ReadersWait := by
  cases serverStep_of_step? stepped with
  | refused unknown full =>
      exact waiting
  | connected unknown free =>
      exact forall_sockets_setSocket (fun _ => rfl) waiting
  | upgraded known phase =>
      exact forall_sockets_setSocket
        (fun _ => waiting known (.inl phase)) waiting
  | abandoned known phase =>
      exact forall_sockets_setSocket (by simp) waiting
  | registered known phase room =>
      exact forall_sockets_setSocket
        (fun _ => waiting known (.inr (.inl phase))) waiting
  | processed first relayed =>
      exact waiting
  | welcomed known phase found ack relayed =>
      exact forall_sockets_setSocket (by simp) waiting
  | turnedAway known phase found ack relayed =>
      exact forall_sockets_setSocket (by simp) waiting
  | received known reading =>
      exact waiting.move known (by simp [reading])
  | published known publishing room =>
      exact waiting.move known (by simp [publishing])
  | rejected known rejecting relayed =>
      exact waiting.move known (by simp [rejecting])
  | rejectedLate known rejecting gone =>
      exact waiting.move known (by simp [rejecting])
  | drained known closed relayed =>
      exact waiting
  | wrote known live relayed =>
      exact forall_sockets_setSocket (waiting known) waiting
  | writeFailed relayed =>
      exact waiting
  | finished known phase ended =>
      exact forall_sockets_setSocket (by simp) waiting
  | deregistered known phase room =>
      exact forall_sockets_setSocket (by simp) waiting
  | released known phase =>
      exact forall_sockets_setSocket (by simp) waiting

theorem readersWait_of_run
    {actions : List ServerAction}
    {server : Server}
    (ran :
      StepRun.run? (step? fromStr config) (start config) actions =
        some server) :
    server.ReadersWait :=
  StepRun.run?_invariant
    (motive := ReadersWait)
    (readersWait_start config)
    (fun waiting stepped => waiting.step stepped)
    ran

theorem flows_step
    {server next : Server}
    {action : ServerAction}
    (past : List ServerAction)
    (readers : server.ReadersPublish)
    (waiting : server.ReadersWait)
    (stepped : server.step? fromStr config action = some next) :
    Flows fromStr config server next past action := by
  cases serverStep_of_step? stepped with
  | refused unknown full =>
      exact flows_of_quiet past rfl (fun _ => rfl) rfl (fun _ => rfl)
  | connected unknown free =>
      refine flows_of_quiet past rfl ?_ rfl (fun _ => rfl)
      refine pending_setSocket_of_same ?_
      simp [pending, unknown, ReaderTask.pending]
  | upgraded known phase =>
      exact flows_of_quiet past rfl
        (pending_setSocket_of_same (pending_of_known known).symm)
        rfl (fun _ => rfl)
  | abandoned known phase =>
      exact flows_of_quiet past rfl
        (pending_setSocket_of_same (pending_of_known known).symm)
        rfl (fun _ => rfl)
  | registered known phase room =>
      exact flows_of_pushQuiet past room rfl rfl
        (pending_setSocket_of_same (pending_of_known known).symm)
        rfl (fun _ => rfl)
  | processed first relayed =>
      exact flows_processed past _ first
  | @welcomed id socket connection lastClip relay known phase found ack
      relayed =>
      have idle : server.pending id = [] := by
        rw [pending_of_known known, waiting known (.inr (.inr phase))]
        rfl
      exact flows_of_quiet past rfl
        (pending_setSocket_of_same idle.symm) rfl (fun _ => rfl)
  | turnedAway known phase found ack relayed =>
      exact flows_of_quiet past rfl
        (pending_setSocket_of_same (pending_of_known known).symm)
        rfl (fun _ => rfl)
  | received known reading =>
      exact flows_received past known reading
  | published known publishing room =>
      exact flows_published past readers known publishing room
  | @rejected id socket error relay known rejecting relayed =>
      have idle : server.pending id = [] := by
        rw [pending_of_known known, rejecting]
        rfl
      exact flows_of_quiet past rfl
        (pending_setSocket_of_same idle.symm) rfl (fun _ => rfl)
  | @rejectedLate id socket error known rejecting gone =>
      have idle : server.pending id = [] := by
        rw [pending_of_known known, rejecting]
        rfl
      exact flows_of_quiet past rfl
        (pending_setSocket_of_same idle.symm) rfl (fun _ => rfl)
  | drained known closed relayed =>
      exact flows_of_quiet past rfl (fun _ => rfl) rfl (fun _ => rfl)
  | wrote known live relayed =>
      exact flows_of_quiet past rfl
        (pending_setSocket_of_same (pending_of_known known).symm)
        rfl (fun _ => rfl)
  | writeFailed relayed =>
      exact flows_of_quiet past rfl (fun _ => rfl) rfl (fun _ => rfl)
  | finished known phase ended =>
      exact flows_of_quiet past rfl
        (pending_setSocket_of_same (pending_of_known known).symm)
        rfl (fun _ => rfl)
  | deregistered known phase room =>
      exact flows_of_pushQuiet past room rfl rfl
        (pending_setSocket_of_same (pending_of_known known).symm)
        rfl (fun _ => rfl)
  | released known phase =>
      exact flows_of_quiet past rfl
        (pending_setSocket_of_same (pending_of_known known).symm)
        rfl (fun _ => rfl)

/--
No message of a client is lost, repeated or reordered between its socket and
the hub: what its reader has made of the socket is what the hub has handled,
then what waits in the inbox, then what the reader is about to send.
-/
theorem stream_of_run
    {actions : List ServerAction}
    {server : Server}
    (ran :
      StepRun.run? (step? fromStr config) (start config) actions =
        some server)
    (sender : Uuid) :
    server.stream sender actions =
      actions.filterMap (ServerAction.read? fromStr config sender) := by
  refine StepRun.run?_history
    (motive := fun past state =>
      state.stream sender past =
        past.filterMap (ServerAction.read? fromStr config sender))
    rfl ?_ ran
  rintro past state action next - reached same stepped
  have flows :=
    flows_step past (readersPublish_of_run reached)
      (readersWait_of_run reached) stepped sender
  rw [flows, same, List.filterMap_append]
  cases read : action.read? fromStr config sender <;> simp [read]

end Server

/-! ## From one socket to another -/

/-- What the hub hands a client for a message, of one kind of frame. -/
def HubMessage.handedTo
    {Item : Type}
    (select : Frame → Option Item)
    (receiver : Uuid)
    (message : HubMessage) : Option Item :=
  if message.sender? = some receiver then
    none
  else
    message.relayed?.bind select

/-- The clips for a client are those of the messages that the hub handles. -/
private theorem clipsOfOthers_eq
    (receiver : Uuid)
    (actions : List RelayAction) :
    Relay.clipsOfOthers receiver actions =
      (actions.filterMap RelayAction.processed?).filterMap
        (HubMessage.handedTo Frame.clip? receiver) := by
  rw [Relay.clipsOfOthers, List.filterMap_filterMap]
  refine congrArg (List.filterMap · actions) (funext fun action => ?_)
  cases action with
  | process message =>
      cases message with
      | publish sender clip =>
          simp [RelayAction.clipFor, RelayAction.processed?,
            HubMessage.handedTo, HubMessage.sender?, HubMessage.relayed?,
            Frame.clip?]
      | _ =>
          simp [RelayAction.clipFor, RelayAction.processed?,
            HubMessage.handedTo, HubMessage.relayed?, Frame.clip?]
  | _ =>
      rfl

/-- The chunks for a client are those of the messages that the hub handles. -/
private theorem chunksOfOthers_eq
    (receiver : Uuid)
    (actions : List RelayAction) :
    Relay.chunksOfOthers receiver actions =
      (actions.filterMap RelayAction.processed?).filterMap
        (HubMessage.handedTo Frame.fileChunk? receiver) := by
  rw [Relay.chunksOfOthers, List.filterMap_filterMap]
  refine congrArg (List.filterMap · actions) (funext fun action => ?_)
  cases action with
  | process message =>
      cases message with
      | publishFile sender chunk =>
          simp [RelayAction.chunkFor, RelayAction.processed?,
            HubMessage.handedTo, HubMessage.sender?, HubMessage.relayed?,
            Frame.fileChunk?]
      | _ =>
          simp [RelayAction.chunkFor, RelayAction.processed?,
            HubMessage.handedTo, HubMessage.relayed?, Frame.fileChunk?]
  | _ =>
      rfl

/--
Of what the hub hands a client, the items stamped with one sender are among
those of that sender's messages, in order.
-/
private theorem handedTo_sublist
    {Item : Type}
    {select : Frame → Option Item}
    {stamp : Item → Option Uuid}
    (stamped :
      ∀ {message : HubMessage} {item : Item},
        message.relayed?.bind select = some item →
          stamp item = message.sender?)
    (sender receiver : Uuid)
    (messages : List HubMessage) :
    ((messages.filterMap (HubMessage.handedTo select receiver)).filter
        (fun item => stamp item = some sender)).Sublist
      ((messages.filter (HubMessage.isFrom sender)).filterMap
        (fun message => message.relayed?.bind select)) := by
  induction messages with
  | nil =>
      exact List.Sublist.refl _
  | cons message rest inductionHypothesis =>
      cases handed : message.handedTo select receiver with
      | none =>
          rw [List.filterMap_cons_none handed]
          refine inductionHypothesis.trans ?_
          exact ((List.sublist_cons_self message rest).filter _).filterMap _
      | some item =>
          have relayed : message.relayed?.bind select = some item := by
            rw [HubMessage.handedTo] at handed
            split at handed
            · cases handed
            · exact handed
          rw [List.filterMap_cons_some handed, List.filter_cons,
            List.filter_cons]
          by_cases own : message.sender? = some sender
          · simpa [stamped relayed, HubMessage.isFrom, own, relayed] using
              inductionHypothesis
          · simpa [stamped relayed, HubMessage.isFrom, own] using
              inductionHypothesis

namespace Server

/-- What the hub has handled of one sender is a part of what was read. -/
theorem handled_sublist_read
    {actions : List ServerAction}
    {server : Server}
    (ran :
      StepRun.run? (step? fromStr config) (start config) actions =
        some server)
    (sender : Uuid) :
    ((actions.filterMap ServerAction.processed?).filter
        (HubMessage.isFrom sender)).Sublist
      (actions.filterMap (ServerAction.read? fromStr config sender)) := by
  rw [← stream_of_run ran sender, stream, messages, List.filter_append,
    List.append_assoc]
  exact List.sublist_append_left _ _

/-- The items of one kind that go out to a client, of one sender. -/
private theorem select_sublist_read
    {actions : List ServerAction}
    {server : Server}
    {relayActions : List RelayAction}
    {before after : List RelayAction}
    {Item : Type}
    {select : Frame → Option Item}
    {stamp : Item → Option Uuid}
    {sent queued : List Item}
    {receiver : Uuid}
    (ran :
      StepRun.run? (step? fromStr config) (start config) actions =
        some server)
    (same :
      relayActions.filterMap RelayAction.processed? =
        actions.filterMap ServerAction.processed?)
    (shape :
      relayActions =
        before ++ .process (.register receiver receiver receiver) :: after)
    (handed :
      (sent ++ queued).Sublist
        ((after.filterMap RelayAction.processed?).filterMap
          (HubMessage.handedTo select receiver)))
    (stamped :
      ∀ {message : HubMessage} {item : Item},
        message.relayed?.bind select = some item →
          stamp item = message.sender?)
    (sender : Uuid) :
    (sent.filter (fun item => stamp item = some sender)).Sublist
      ((framesRead fromStr config sender actions).filterMap select) := by
  have later :
      (after.filterMap RelayAction.processed?).Sublist
        (actions.filterMap ServerAction.processed?) := by
    rw [← same, shape, List.filterMap_append]
    refine List.Sublist.trans ?_ (List.sublist_append_right _ _)
    exact (List.sublist_cons_self _ after).filterMap _
  calc
    (sent.filter (fun item => stamp item = some sender)).Sublist
        (((after.filterMap RelayAction.processed?).filterMap
          (HubMessage.handedTo select receiver)).filter
            (fun item => stamp item = some sender)) :=
      ((List.sublist_append_left sent queued).trans handed).filter _
    List.Sublist _
        ((((after.filterMap RelayAction.processed?).filter
          (HubMessage.isFrom sender))).filterMap
            (fun message => message.relayed?.bind select)) :=
      handedTo_sublist stamped sender receiver _
    List.Sublist _
        ((actions.filterMap
            (ServerAction.read? fromStr config sender)).filterMap
          (fun message => message.relayed?.bind select)) :=
      ((later.filter _).trans (handled_sublist_read ran sender)).filterMap _
    _ = (framesRead fromStr config sender actions).filterMap select :=
      List.filterMap_filterMap.symm

/-- The clips that a connection has been sent arrive in order. -/
theorem clips_sent_in_order
    {actions : List ServerAction}
    {server : Server}
    {receiver : Uuid}
    {connection : Connection}
    (ran :
      StepRun.run? (step? fromStr config) (start config) actions =
        some server)
    (known : server.relay.connections receiver = some connection)
    (sender : Uuid) :
    ((connection.sent.filterMap Frame.clip?).filter
        (fun clip => clip.fromId = some sender)).Sublist
      ((framesRead fromStr config sender actions).filterMap
        Frame.clip?) := by
  obtain ⟨relayActions, relayRan, same⟩ := relay_run ran
  obtain ⟨before, after, shape, clips, -⟩ :=
    Relay.handedInOrder_of_run relayRan
      (by simp [known] : (server.relay.connections receiver).isSome)
  simp only [Relay.handedClips, Relay.sentFrames, known] at clips
  rw [clipsOfOthers_eq] at clips
  refine select_sublist_read ran same shape clips ?_ sender
  intro message item relayed
  cases message <;> simp [HubMessage.relayed?, Frame.clip?] at relayed
  subst item
  rfl

/-- The chunks that a connection has been sent arrive in order. -/
theorem chunks_sent_in_order
    {actions : List ServerAction}
    {server : Server}
    {receiver : Uuid}
    {connection : Connection}
    (ran :
      StepRun.run? (step? fromStr config) (start config) actions =
        some server)
    (known : server.relay.connections receiver = some connection)
    (sender : Uuid) :
    ((connection.sent.filterMap Frame.fileChunk?).filter
        (fun chunk => chunk.fromId = some sender)).Sublist
      ((framesRead fromStr config sender actions).filterMap
        Frame.fileChunk?) := by
  obtain ⟨relayActions, relayRan, same⟩ := relay_run ran
  obtain ⟨before, after, shape, -, files⟩ :=
    Relay.handedInOrder_of_run relayRan
      (by simp [known] : (server.relay.connections receiver).isSome)
  simp only [Relay.handedFiles, Relay.sentFrames, known] at files
  rw [chunksOfOthers_eq] at files
  refine select_sublist_read ran same shape files ?_ sender
  intro message item relayed
  cases message <;> simp [HubMessage.relayed?, Frame.fileChunk?] at relayed
  subst item
  rfl

/--
Frames arrive in the order in which they were sent.  In every run of the
server, the clips of a sender that a connection has been sent are a
subsequence of the clips that the sender's socket has delivered, stamped by
the hub, and so are its file chunks: none comes twice and none overtakes
another one, whatever overflows and whoever joins or leaves.
-/
theorem sent_in_order
    {actions : List ServerAction}
    {server : Server}
    {receiver : Uuid}
    {connection : Connection}
    (ran :
      StepRun.run? (step? fromStr config) (start config) actions =
        some server)
    (known : server.relay.connections receiver = some connection)
    (sender : Uuid) :
    ((connection.sent.filterMap Frame.clip?).filter
        (fun clip => clip.fromId = some sender)).Sublist
      ((framesRead fromStr config sender actions).filterMap Frame.clip?) ∧
    ((connection.sent.filterMap Frame.fileChunk?).filter
        (fun chunk => chunk.fromId = some sender)).Sublist
      ((framesRead fromStr config sender actions).filterMap
        Frame.fileChunk?) :=
  ⟨clips_sent_in_order ran known sender,
    chunks_sent_in_order ran known sender⟩

/-- Client 2 has been sent its welcome and the clip of client 1. -/
def relaying : List ServerAction :=
  spoofing ++
    [.write ⟨2⟩, .receive ⟨1⟩ (.message (.text "spoofed")),
      .write ⟨2⟩]

/-- The server while the second clip still waits at its reader. -/
def relayed : Server :=
  (StepRun.run? (step? readsSpoofed pairConfig) (start pairConfig)
    relaying).get (by decide)

/-- The connection of client 2. -/
def relayedTo : Connection :=
  (relayed.relay.connections ⟨2⟩).get (by decide)

/-- On the sample one of the two clips that were read has arrived. -/
theorem sent_in_order_sample :
    ((relayedTo.sent.filterMap Frame.clip?).filter
        (fun clip => clip.fromId = some ⟨1⟩)).Sublist
      ((framesRead readsSpoofed pairConfig ⟨1⟩ relaying).filterMap
        Frame.clip?) ∧
    ((relayedTo.sent.filterMap Frame.fileChunk?).filter
        (fun chunk => chunk.fromId = some ⟨1⟩)).Sublist
      ((framesRead readsSpoofed pairConfig ⟨1⟩ relaying).filterMap
        Frame.fileChunk?) :=
  @sent_in_order readsSpoofed pairConfig relaying relayed ⟨2⟩ relayedTo
    (Option.some_get _).symm (Option.some_get _).symm ⟨1⟩

end Server

end ClipboardWire
