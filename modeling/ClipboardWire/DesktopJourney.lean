import ClipboardWire.ClientOrder
import ClipboardWire.ClipJourney
import ClipboardWire.HubCarried

namespace ClipboardWire

open BoundedChannel

/-!
# From a copy on one desktop to a paste on another

The whole way of a clip: the supervisor of one desktop client encodes a local
change and queues it, its transport task writes it to the current connection,
the server relays it, the transport task of the other client reads it, and its
supervisor hands the decoded change to the clipboard thread.  Each of the
three programs has its own run; what joins them is that a socket delivers what
was written to it, in order and up to some point.
-/

/-! ## The sending desktop -/

/-- The frame that `change_to_frame` makes of a local change, if any. -/
def LocalEvent.clip?
    (codec : Codec)
    (png : PngCodec)
    (event : LocalEvent) : Option ClipFrame :=
  (changeToFrame codec png event.id event.ts event.change).toOption

namespace ClientAction

/-- The local change that an action hands to the supervisor. -/
def copied? : ClientAction → Option LocalEvent
  | .localEvent event => event
  | _ => none

/-- The frame that an action takes from the socket. -/
def arrived? : ClientAction → Option (Option Frame)
  | .transport (.receive (.text frame)) => some frame
  | _ => none

end ClientAction

namespace Client

variable {codec : Codec} {png : PngCodec}

/-- The clips that a client has written or is still to write. -/
def outgoing (client : Client) : List ClipFrame :=
  client.transport.wire.filterMap Frame.clip? ++
    client.transport.waitingClips

private theorem outgoing_of_moves
    {client : Client}
    {action : TransportAction}
    {next : Transport}
    (moved : Transport.Moves client.transport action next) :
    (outgoing { client with transport := next }).Sublist client.outgoing := by
  have taken :
      ((Transport.takenOf (client.transport.answers action)).filterMap
          Frame.clip?).Sublist
        (((client.transport.answers action).map Prod.fst).filterMap
          Frame.clip?) :=
    (List.filter_sublist.map _).filterMap _
  have written
      (wire :
        next.wire =
          client.transport.wire ++
            Transport.takenOf (client.transport.answers action))
      (clips :
        (((client.transport.answers action).map Prod.fst).filterMap
            Frame.clip? ++ next.waitingClips).Sublist
          client.transport.waitingClips) :
      (outgoing { client with transport := next }).Sublist
        client.outgoing := by
    simp only [outgoing, wire, List.filterMap_append, List.append_assoc]
    exact
      (List.Sublist.refl _).append
        ((taken.append (List.Sublist.refl _)).trans clips)
  rcases moved.passes_or_drops with passes | drops
  · exact written passes.wire (passes.clips ▸ List.Sublist.refl _)
  · exact written drops.wire drops.clips.sublist

/-- The supervisor takes a step that no clip of this way is part of. -/
private structure Aside (client next : Client) : Prop where
  outgoing : next.outgoing = client.outgoing
  received : next.transport.received = client.transport.received

/-- Apart from local changes, the supervisor leaves outgoing clips alone. -/
private theorem aside_of_step?
    {client next : Client}
    {action : ClientAction}
    (own : ∀ action', action ≠ .transport action')
    (noCopy : action.copied? = none)
    (stepped : step? codec png client action = some next) :
    Aside client next := by
  cases turns_of_step? stepped with
  | transport moved => exact (own _ rfl).elim
  | clipOffered selecting single => cases noCopy
  | eventDropped selecting => cases noCopy
  | filesOpened selecting => cases noCopy
  | @chunkTaken io files chunk rest selecting wired queued =>
      obtain ⟨-, -, kept | exited⟩ :=
        @receiveChunk_cases codec io
          { client with
            transport :=
              { client.transport with inboundFiles := some files.dropHead } }
          chunk
      · constructor
        · rw [outgoing, kept.2]
          rfl
        · rw [kept.2]
      · constructor
        · rw [outgoing, exited.2]
          rfl
        · rw [exited.2]
          rfl
  | exited selecting own => exact ⟨rfl, rfl⟩
  | clipForwarded selecting queued decoded => exact ⟨rfl, rfl⟩
  | clipRejected selecting queued rejected => exact ⟨rfl, rfl⟩
  | clipboardGone selecting queued => exact ⟨rfl, rfl⟩
  | filesQuiet selecting => exact ⟨rfl, rfl⟩
  | batchApplied selecting => exact ⟨rfl, rfl⟩
  | chunkQueued task alive room => exact ⟨rfl, rfl⟩
  | chunkRefused task gone => exact ⟨rfl, rfl⟩

private theorem outgoing_handleEvent
    (client : Client)
    (event : LocalEvent) :
    (handleEvent codec png client event).outgoing.Sublist
        (client.outgoing ++ (event.clip? codec png).toList) ∧
      (handleEvent codec png client event).transport.received =
        client.transport.received := by
  unfold handleEvent LocalEvent.clip?
  split
  · exact ⟨List.sublist_append_left _ _, rfl⟩
  · split
    · exact ⟨List.sublist_append_left _ _, rfl⟩
    · rename_i frame made
      refine ⟨?_, rfl⟩
      simp only [outgoing, Transport.waitingClips, Transport.writing, made,
        Except.toOption, Option.toList_some, List.append_assoc]
      refine (List.Sublist.refl _).append ((List.Sublist.refl _).append ?_)
      exact Channel.buffer_offer_sublist _ frame

private theorem received_of_moves
    {transport next : Transport}
    {action : TransportAction}
    (moved : Transport.Moves transport action next) :
    next.received.Sublist
      (transport.received ++
        ((ClientAction.transport action).arrived?.bind fun frame =>
          frame.bind Frame.carried?).toList) := by
  cases moved with
  | cached task carried =>
      simp [ClientAction.arrived?, Frame.carried?, carried]
  | clipArrived task =>
      simp [ClientAction.arrived?, Frame.carried?]
  | ended ends =>
      have same :
          transport.endConnection.received = transport.received := by
        rcases transport.endConnection_eq with stopped | ⟨-, sleeps⟩
        · rw [stopped]
          rfl
        · rw [sleeps]
      exact same ▸ List.sublist_append_left _ _
  | _ =>
      exact List.sublist_append_left _ _

private theorem passes_of_step?
    {client next : Client}
    {action : ClientAction}
    (stepped : step? codec png client action = some next) :
    next.outgoing.Sublist
        (client.outgoing ++
          (action.copied?.bind (LocalEvent.clip? codec png)).toList) ∧
      next.transport.received.Sublist
        (client.transport.received ++
          (action.arrived?.bind fun frame =>
            frame.bind Frame.carried?).toList) := by
  have aside (unmoved : Aside client next) :
      next.outgoing.Sublist
          (client.outgoing ++
            (action.copied?.bind (LocalEvent.clip? codec png)).toList) ∧
        next.transport.received.Sublist
          (client.transport.received ++
            (action.arrived?.bind fun frame =>
              frame.bind Frame.carried?).toList) :=
    ⟨unmoved.outgoing ▸ List.sublist_append_left _ _,
      unmoved.received ▸ List.sublist_append_left _ _⟩
  cases action with
  | transport action =>
      simp only [step?] at stepped
      split at stepped
      · cases stepped
      · rename_i after moved
        cases stepped
        have moves := Transport.moves_of_step? moved
        exact
          ⟨(outgoing_of_moves moves).trans (List.sublist_append_left _ _),
            received_of_moves moves⟩
  | localEvent event =>
      cases event with
      | none =>
          exact aside (aside_of_step? (by simp) rfl stepped)
      | some event =>
          simp only [step?] at stepped
          split at stepped
          · rename_i same
            cases same
            cases stepped
            obtain ⟨queued, received⟩ :=
              @outgoing_handleEvent codec png client event
            exact ⟨queued, received ▸ List.sublist_append_left _ _⟩
          · rename_i same
            cases same
          · cases stepped
  | takeClip alive =>
      exact aside (aside_of_step? (by simp) rfl stepped)
  | takeChunk io =>
      exact aside (aside_of_step? (by simp) rfl stepped)
  | deadline alive =>
      exact aside (aside_of_step? (by simp) rfl stepped)
  | sendChunk =>
      exact aside (aside_of_step? (by simp) rfl stepped)

/--
The clips that a client has written were made of its local changes, and those
that have arrived were delivered by its sockets, both in order.
-/
theorem clips_in_order
    {fileReceiver : Option ReceiverState}
    {actions : List ClientAction}
    {client : Client}
    (ran :
      StepRun.run? (step? codec png) (start fileReceiver) actions =
        some client) :
    (client.transport.wire.filterMap Frame.clip?).Sublist
        ((actions.filterMap ClientAction.copied?).filterMap
          (LocalEvent.clip? codec png)) ∧
      client.transport.received.Sublist
        ((actions.filterMap ClientAction.arrived?).filterMap
          fun frame => frame.bind Frame.carried?) := by
  have inOrder :
      client.outgoing.Sublist
          ((actions.filterMap ClientAction.copied?).filterMap
            (LocalEvent.clip? codec png)) ∧
        client.transport.received.Sublist
          ((actions.filterMap ClientAction.arrived?).filterMap
            fun frame => frame.bind Frame.carried?) := by
    refine StepRun.run?_history
      (motive := fun past client =>
        client.outgoing.Sublist
            ((past.filterMap ClientAction.copied?).filterMap
              (LocalEvent.clip? codec png)) ∧
          client.transport.received.Sublist
            ((past.filterMap ClientAction.arrived?).filterMap
              fun frame => frame.bind Frame.carried?))
      ⟨List.Sublist.refl _, List.Sublist.refl _⟩ ?_ ran
    rintro past client action next - - ⟨outgoing, received⟩ stepped
    have more {First Second : Type}
        (first : ClientAction → Option First)
        (second : First → Option Second) :
        ((past ++ [action]).filterMap first).filterMap second =
          (past.filterMap first).filterMap second ++
            ((first action).bind second).toList := by
      rw [List.filterMap_append, List.filterMap_append]
      cases found : first action with
      | none => simp [found]
      | some item => cases made : second item <;> simp [found, made]
    obtain ⟨writes, arrives⟩ := passes_of_step? stepped
    rw [more, more]
    exact
      ⟨writes.trans (outgoing.append (List.Sublist.refl _)),
        arrives.trans (received.append (List.Sublist.refl _))⟩
  exact ⟨(List.sublist_append_left _ _).trans inOrder.1, inOrder.2⟩

private theorem forwards_of_run
    {fileReceiver : Option ReceiverState}
    {actions : List ClientAction}
    {client : Client}
    (ran :
      StepRun.run? (step? codec png) (start fileReceiver) actions =
        some client) :
    Forwards codec png client := by
  refine StepRun.run?_invariant
    (motive := fun client => Forwards codec png client) ?_
    (fun forwards stepped => forwards.step stepped) ran
  exact
    { changes := rfl
      initial := List.nil_prefix
      pending := fun _ => ⟨rfl, rfl⟩ }

end Client

/-! ## The server in between -/

/-- A frame of a client as the hub stamps and relays it. -/
def Frame.stamped? (sender : Uuid) : Frame → Option Frame
  | .clip sent => some (.clip { sent with fromId := some sender })
  | .fileChunk sent => some (.fileChunk { sent with fromId := some sender })
  | .welcome _ | .error _ => none

/-- The clip that the hub relays for a message. -/
private def HubMessage.clip? (message : HubMessage) : Option ClipFrame :=
  message.relayed?.bind Frame.clip?

/-- A relayed clip is stamped with its sender. -/
private theorem fromId_of_clip?
    {message : HubMessage}
    {clip : ClipFrame}
    (relayed : message.clip? = some clip) :
    clip.fromId = message.sender? := by
  cases message <;>
    simp [HubMessage.clip?, HubMessage.relayed?, Frame.clip?] at relayed
  subst clip
  rfl

/-- The clips of a list of messages that one client has sent. -/
private theorem filter_relayed
    (sender : Uuid)
    (messages : List HubMessage) :
    (messages.filterMap HubMessage.clip?).filter
        (fun clip => clip.fromId = some sender) =
      (messages.filter (HubMessage.isFrom sender)).filterMap
        HubMessage.clip? := by
  induction messages with
  | nil =>
      rfl
  | cons message rest inductionHypothesis =>
      cases relayed : message.clip? with
      | none =>
          rw [List.filterMap_cons_none relayed, List.filter_cons,
            inductionHypothesis]
          split
          · rw [List.filterMap_cons_none relayed]
          · rfl
      | some clip =>
          rw [List.filterMap_cons_some relayed, List.filter_cons,
            List.filter_cons, fromId_of_clip? relayed, inductionHypothesis]
          by_cases own : message.sender? = some sender
          · simp [HubMessage.isFrom, own, relayed]
          · simp [HubMessage.isFrom, own]

/-- What is published is what the hub relays of the messages it handles. -/
private theorem published_eq (actions : List RelayAction) :
    actions.filterMap RelayAction.published? =
      (actions.filterMap RelayAction.processed?).filterMap
        HubMessage.clip? := by
  rw [List.filterMap_filterMap]
  refine congrArg (List.filterMap · actions) (funext fun action => ?_)
  cases action with
  | process message => cases message <;> rfl
  | _ => rfl

/--
The cached clip counts, too: the clips of a sender that a connection has been
sent, in its welcome or on their own, are those that the sender's socket has
delivered, in order.
-/
theorem Server.carried_sent_in_order
    {fromStr : String → Option Frame}
    {config : ServerConfig}
    {actions : List ServerAction}
    {server : Server}
    {receiver : Uuid}
    {connection : Connection}
    (ran :
      StepRun.run? (Server.step? fromStr config) (Server.start config)
        actions = some server)
    (known : server.relay.connections receiver = some connection)
    (sender : Uuid) :
    ((connection.sent.filterMap Frame.carried?).filter
        (fun clip => clip.fromId = some sender)).Sublist
      ((framesRead fromStr config sender actions).filterMap
        Frame.clip?) := by
  obtain ⟨relayActions, relayRan, same⟩ := Server.relay_run ran
  have carried :=
    Relay.carried_sublist_published relayRan
      (by simp [known] : (server.relay.connections receiver).isSome)
  simp only [Relay.carriedClips, known, Option.elim_some, Connection.carried,
    List.append_assoc] at carried
  have published :=
    ((List.sublist_append_left _ _).trans carried).filter
      (fun clip => clip.fromId = some sender)
  rw [published_eq, same, filter_relayed] at published
  refine published.trans ?_
  rw [framesRead, List.filterMap_filterMap]
  exact (Server.handled_sublist_read ran sender).filterMap _

/-! ## The whole way -/

section Way

variable {reader : FrameReader} {codec : Codec} {png : PngCodec}
  {config : ServerConfig} {sender : Uuid}

/-- The frame that the server relays for a text from a client. -/
def frameRelayed?
    (fromStr : String → Option Frame)
    (config : ServerConfig)
    (sender : Uuid)
    (text : String) : Option Frame :=
  (readerTurn fromStr config sender
    (.message (.text text))).pending.head?.bind HubMessage.relayed?

/-- A text that is read back is relayed as the frame that it stands for. -/
private theorem frameRelayed?_text
    {frame : Frame}
    (printed : reader.ReadsPrinted)
    (parses : reader.Parses frame) :
    frameRelayed? reader.fromStr config sender frame.text = none ∨
      frameRelayed? reader.fromStr config sender frame.text =
        frame.stamped? sender := by
  have read := FrameReader.fromStr_text printed parses
  by_cases admitted :
      (serverLimits config.maxFrameBytes.toNat).Admits
        (ClientMessage.text frame.text).size
  · simp only [frameRelayed?, readerTurn, if_pos admitted, dispatch, readText,
      read]
    cases frame with
    | clip clip =>
        cases valid : clip.validate with
        | ok _ => exact .inr (by simp only [valid]; rfl)
        | error reason => exact .inl (by simp only [valid]; rfl)
    | fileChunk chunk =>
        cases valid : chunk.validate with
        | ok _ => exact .inr (by simp only [valid]; rfl)
        | error reason => exact .inl (by simp only [valid]; rfl)
    | welcome welcome => exact .inl rfl
    | error error => exact .inl rfl
  · simp only [frameRelayed?, readerTurn, if_neg admitted]
    exact .inl rfl

/-- Of the frames that a client has written, some are relayed, stamped. -/
private theorem relayed_sublist
    (printed : reader.ReadsPrinted)
    {frames : List Frame}
    (parses : ∀ frame ∈ frames, reader.Parses frame) :
    ((frames.map Frame.text).filterMap
        (frameRelayed? reader.fromStr config sender)).Sublist
      (frames.filterMap (Frame.stamped? sender)) := by
  induction frames with
  | nil =>
      exact List.Sublist.refl _
  | cons frame rest inductionHypothesis =>
      have later :=
        inductionHypothesis fun other member =>
          parses other (List.mem_cons_of_mem _ member)
      rcases frameRelayed?_text printed (parses frame List.mem_cons_self) with
        lost | relayed
      · rw [List.map_cons, List.filterMap_cons_none lost]
        exact later.trans ((List.sublist_cons_self frame rest).filterMap _)
      · cases stamped : frame.stamped? sender with
        | none =>
            rw [stamped] at relayed
            rw [List.map_cons, List.filterMap_cons_none relayed,
              List.filterMap_cons_none stamped]
            exact later
        | some other =>
            rw [stamped] at relayed
            rw [List.map_cons, List.filterMap_cons_some relayed,
              List.filterMap_cons_some stamped]
            exact later.cons_cons _

/--
What the server reads of a client that has written some frames is, of each
kind, a part of these frames, stamped.
-/
theorem select_read_sublist
    {Item : Type}
    (select : Frame → Option Item)
    {actions : List ServerAction}
    {frames : List Frame}
    (printed : reader.ReadsPrinted)
    (uploaded : (textsOf sender actions).Sublist (frames.map Frame.text))
    (parses : ∀ frame ∈ frames, reader.Parses frame) :
    ((framesRead reader.fromStr config sender actions).filterMap
        select).Sublist
      ((frames.filterMap (Frame.stamped? sender)).filterMap select) := by
  have read :
      (framesRead reader.fromStr config sender actions).filterMap select =
        ((textsOf sender actions).filterMap
          (frameRelayed? reader.fromStr config sender)).filterMap select := by
    rw [select_framesRead, List.filterMap_filterMap]
    refine List.filterMap_congr fun text _ => ?_
    rw [frameRelayed?, Option.bind_assoc]
  rw [read]
  exact
    ((uploaded.filterMap _).trans
      (relayed_sublist printed parses)).filterMap _

/-- The clips of stamped frames are the stamped clips. -/
private theorem clips_stamped (frames : List Frame) :
    (frames.filterMap (Frame.stamped? sender)).filterMap Frame.clip? =
      (frames.filterMap Frame.clip?).map fun clip =>
        { clip with fromId := some sender } := by
  rw [List.filterMap_filterMap, List.map_filterMap]
  refine List.filterMap_congr fun frame _ => ?_
  cases frame <;> rfl

/-- The frames of local changes are decoded to these changes. -/
private theorem decoded_sublist
    (base64 : ∀ bytes, codec.decode (codec.encode bytes) = .ok bytes)
    (lossless : png.Lossless)
    {events : List LocalEvent}
    (wellFormed : ∀ event ∈ events, event.change.WellFormed) :
    ((events.filterMap (LocalEvent.clip? codec png)).filterMap
        (decoded? codec png)).Sublist
      (events.map LocalEvent.change) := by
  induction events with
  | nil =>
      exact List.Sublist.refl _
  | cons event rest inductionHypothesis =>
      have later :=
        inductionHypothesis fun other member =>
          wellFormed other (List.mem_cons_of_mem _ member)
      cases made : changeToFrame codec png event.id event.ts event.change with
      | error reason =>
          have nothing : event.clip? codec png = none := by
            simp [LocalEvent.clip?, made, Except.toOption]
          rw [List.filterMap_cons_none nothing]
          exact later.cons _
      | ok clip =>
          have something : event.clip? codec png = some clip := by
            simp [LocalEvent.clip?, made, Except.toOption]
          have decodes : decoded? codec png clip = some event.change := by
            simp [decoded?, Except.toOption,
              frameToChange_of_changeToFrame base64 lossless
                (wellFormed event List.mem_cons_self) made]
          rw [List.filterMap_cons_some something,
            List.filterMap_cons_some decodes]
          exact later.cons_cons _

/--
What is copied on one desktop arrives in the clipboard of another one.  Take
any run of a client, of the server and of a second client, in which the server
has read, as one of its connections, some of what the first client has
written, and the second client has read an initial part of what another
connection has been sent.  The changes that the second client has handed to
its clipboard thread and that came from the first connection are changes that
were copied on the first desktop, each at most once and in the order in which
they were copied; and everything it has handed over, but for received files,
is the change of a frame that arrived.
-/
theorem copies_reach_clipboard
    {uploads downloads : List ClientAction}
    {actions : List ServerAction}
    {authorFiles peerFiles : Option ReceiverState}
    {author peer : Client}
    {server : Server}
    {receiver : Uuid}
    {connection : Connection}
    (printed : reader.ReadsPrinted)
    (base64 : ∀ bytes, codec.decode (codec.encode bytes) = .ok bytes)
    (lossless : png.Lossless)
    (authorRan :
      StepRun.run? (Client.step? codec png) (Client.start authorFiles)
        uploads = some author)
    (serverRan :
      StepRun.run? (Server.step? reader.fromStr config)
        (Server.start config) actions = some server)
    (peerRan :
      StepRun.run? (Client.step? codec png) (Client.start peerFiles)
        downloads = some peer)
    (known : server.relay.connections receiver = some connection)
    (uploaded :
      (textsOf sender actions).Sublist
        (author.transport.wire.map Frame.text))
    (downloaded :
      downloads.filterMap ClientAction.arrived? <+:
        connection.sent.map fun frame => reader.fromStr frame.text)
    (authorParses : ∀ frame ∈ author.transport.wire, reader.Parses frame)
    (serverParses : ∀ frame ∈ connection.sent, reader.Parses frame)
    (wellFormed :
      ∀ event ∈ uploads.filterMap ClientAction.copied?,
        event.change.WellFormed) :
    ((peer.forwarded.filter
        fun clip => clip.fromId = some sender).filterMap
          (decoded? codec png)).Sublist
        ((uploads.filterMap ClientAction.copied?).map LocalEvent.change) ∧
      peer.applied.filter ClipChange.isClip =
        peer.forwarded.filterMap (decoded? codec png) := by
  have forwards := Client.forwards_of_run peerRan
  refine ⟨?_, forwards.changes⟩
  have arrived :
      peer.forwarded.Sublist (connection.sent.filterMap Frame.carried?) := by
    have delivered :
        ((connection.sent.map fun frame =>
            reader.fromStr frame.text).filterMap
              fun frame => frame.bind Frame.carried?) =
          connection.sent.filterMap Frame.carried? := by
      rw [List.filterMap_map]
      refine List.filterMap_congr fun frame member => ?_
      simp [FrameReader.fromStr_text printed (serverParses frame member)]
    calc
      peer.forwarded.Sublist peer.transport.received :=
        forwards.initial.sublist.trans List.filter_sublist
      List.Sublist _
          ((downloads.filterMap ClientAction.arrived?).filterMap
            fun frame => frame.bind Frame.carried?) :=
        (Client.clips_in_order peerRan).2
      List.Sublist _ _ :=
        downloaded.sublist.filterMap _
      _ = _ :=
        delivered
  have relayed :
      (peer.forwarded.filter fun clip => clip.fromId = some sender).Sublist
        ((author.transport.wire.filterMap Frame.clip?).map fun clip =>
          { clip with fromId := some sender }) := by
    rw [← clips_stamped]
    exact
      ((arrived.filter _).trans
        (Server.carried_sent_in_order serverRan known sender)).trans
          (select_read_sublist Frame.clip? printed uploaded authorParses)
  have unstamped :
      ((author.transport.wire.filterMap Frame.clip?).map fun clip =>
          { clip with fromId := some sender }).filterMap
            (decoded? codec png) =
        (author.transport.wire.filterMap Frame.clip?).filterMap
          (decoded? codec png) := by
    rw [List.filterMap_map]
    rfl
  calc
    List.Sublist _ _ := relayed.filterMap _
    _ = _ := unstamped
    List.Sublist _ _ := (Client.clips_in_order authorRan).1.filterMap _
    List.Sublist _ _ := decoded_sublist base64 lossless wellFormed

end Way

/-- A desktop client copies the text of the sample and writes it. -/
def wayUp : List ClientAction :=
  [.localEvent
      (some
        { change := .text "hi"
          id := ⟨5⟩
          ts := 0
          file := fun _ => ⟨⟨9⟩, ReceiverState.sampleFile⟩ }),
    .transport (.connect true),
    .transport (.receive (.text (some (Relay.welcomeFrame ⟨1⟩ none)))),
    .transport .takeClip,
    .transport (.write true)]

/-- The client that has copied. -/
def wayAuthor : Client :=
  (StepRun.run? (Client.step? ReceiverState.sampleCodec samplePng)
    (Client.start none) wayUp).getD (Client.start none)

/-- Another desktop client reads its welcome and the clip, and pastes it. -/
def wayDown : List ClientAction :=
  [.transport (.connect true),
    .transport (.receive (.text (some (Relay.welcomeFrame ⟨2⟩ none)))),
    .transport
      (.receive
        (.text (some (.clip { journeyClip with fromId := some ⟨1⟩ })))),
    .transport .forward,
    .takeClip true]

/-- The client that has pasted. -/
def wayPeer : Client :=
  (StepRun.run? (Client.step? ReceiverState.sampleCodec samplePng)
    (Client.start none) wayDown).getD (Client.start none)

/-- The server has sent its welcome and the clip to the second client. -/
private theorem sent_journeyConnection :
    journeyConnection.sent =
      [Relay.welcomeFrame ⟨2⟩ none,
        .clip { journeyClip with fromId := some ⟨1⟩ }] := by
  decide +kernel

/-- On the sample the text that was copied has been pasted. -/
theorem copies_reach_clipboard_sample :
    wayPeer.applied = [.text "hi"] ∧
      ((wayPeer.forwarded.filter
          fun clip => clip.fromId = some ⟨1⟩).filterMap
            (decoded? ReceiverState.sampleCodec samplePng)).Sublist
        [.text "hi"] ∧
      wayPeer.applied.filter ClipChange.isClip =
        wayPeer.forwarded.filterMap
          (decoded? ReceiverState.sampleCodec samplePng) := by
  have authorRan :
      StepRun.run? (Client.step? ReceiverState.sampleCodec samplePng)
        (Client.start none) wayUp = some wayAuthor :=
    rfl
  have peerRan :
      StepRun.run? (Client.step? ReceiverState.sampleCodec samplePng)
        (Client.start none) wayDown = some wayPeer :=
    rfl
  have serverRan :
      StepRun.run? (Server.step? journeyReader.fromStr Server.pairConfig)
        (Server.start Server.pairConfig) journey = some journeyServer :=
    (Option.some_get _).symm
  have known :
      journeyServer.relay.connections ⟨2⟩ = some journeyConnection :=
    (Option.some_get _).symm
  have authorParses :
      ∀ frame ∈ wayAuthor.transport.wire, journeyReader.Parses frame := by
    intro frame member
    have isCopy : frame = .clip journeyClip := List.mem_singleton.mp member
    exact journeyReader_parses (by simp [isCopy, journeyFrames])
  have serverParses :
      ∀ frame ∈ journeyConnection.sent, journeyReader.Parses frame := by
    intro frame member
    rw [sent_journeyConnection] at member
    refine journeyReader_parses ?_
    rcases List.mem_cons.mp member with isWelcome | isClip
    · simp [isWelcome, journeyFrames]
    · simp [List.mem_singleton.mp isClip, journeyFrames]
  have downloaded :
      wayDown.filterMap ClientAction.arrived? <+:
        journeyConnection.sent.map fun frame =>
          journeyReader.fromStr frame.text := by
    have readBack :
        journeyConnection.sent.map
            (fun frame => journeyReader.fromStr frame.text) =
          journeyConnection.sent.map some :=
      List.map_congr_left fun frame member =>
        FrameReader.fromStr_text journeyReader_readsPrinted
          (serverParses frame member)
    rw [readBack, sent_journeyConnection]
    exact List.prefix_refl _
  refine ⟨rfl, ?_⟩
  exact copies_reach_clipboard journeyReader_readsPrinted
    ReceiverState.lawful_sampleCodec.decode_encode lossless_samplePng
    authorRan serverRan peerRan known (List.Sublist.refl _) downloaded
    authorParses serverParses
    (fun event member => List.mem_singleton.mp member ▸ trivial)

end ClipboardWire
