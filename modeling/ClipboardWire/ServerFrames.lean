import ClipboardWire.ServerCapacity

namespace ClipboardWire

open BoundedChannel

/-!
# Where the relayed frames come from

A frame that the hub hands out was read from a text that some connection
received, passed `validate`, and carries the identifier of that connection.
The frames on their way are followed from the reader through the inbox into
the queues, the cache and the acknowledgements; each place holds what the
place before it held, stamped by the hub.
-/

variable {fromStr : String → Option Frame} {config : ServerConfig}

namespace Frame

/-- `validate` of the frames that have one. -/
def validate : Frame → Except String Unit
  | .clip body => body.validate
  | .fileChunk body => body.validate
  | .welcome _ | .error _ => .ok ()

/-- The `from` field of a frame. -/
def sender? : Frame → Option Uuid
  | .clip body => body.fromId
  | .fileChunk body => body.fromId
  | .welcome _ | .error _ => none

/-- A frame with another `from` field. -/
def withSender (frame : Frame) (sender : Option Uuid) : Frame :=
  match frame with
  | .clip body => .clip { body with fromId := sender }
  | .fileChunk body => .fileChunk { body with fromId := sender }
  | other => other

end Frame

namespace HubMessage

/-- The frame that the hub relays for a message. -/
def relayed? : HubMessage → Option Frame
  | .publish sender clip => some (.clip { clip with fromId := some sender })
  | .publishFile sender chunk =>
      some (.fileChunk { chunk with fromId := some sender })
  | .register _ _ _ | .deregister _ => none

end HubMessage

/--
A frame that passes `validate`, and whose `from` names the connection that it
was received on; only that field differs from what the client sent.
-/
def Genuine
    (fromStr : String → Option Frame)
    (actions : List ServerAction)
    (frame : Frame) :
    Prop :=
  frame.validate = .ok () ∧
    ∃ sender content received,
      frame.sender? = some sender ∧
        .receive sender (.message (.text content)) ∈ actions ∧
          fromStr content = some received ∧
            frame = received.withSender (some sender)

/-- What has been genuine stays so. -/
theorem Genuine.append
    {actions : List ServerAction}
    {frame : Frame}
    (genuine : Genuine fromStr actions frame)
    (later : List ServerAction) :
    Genuine fromStr (actions ++ later) frame := by
  obtain ⟨valid, sender, content, received, stamped, member, read, same⟩ :=
    genuine
  exact
    ⟨valid, sender, content, received, stamped,
      List.mem_append_left later member, read, same⟩

/-- Whatever the hub relays for a message is genuine. -/
def HubMessage.Faithful
    (fromStr : String → Option Frame)
    (actions : List ServerAction)
    (message : HubMessage) :
    Prop :=
  ∀ frame, message.relayed? = some frame → Genuine fromStr actions frame

/-- A message for which nothing is relayed. -/
theorem faithful_of_silent
    {actions : List ServerAction}
    {message : HubMessage}
    (silent : message.relayed? = none) :
    message.Faithful fromStr actions := by
  intro frame relayed
  rw [silent] at relayed
  cases relayed

/-- A publish that is read from a text is relayed as that text's frame. -/
theorem faithful_of_readText
    {actions : List ServerAction}
    {id : Uuid}
    {content : String}
    {message : HubMessage}
    (read : readText fromStr id content = .ok message)
    (member : .receive id (.message (.text content)) ∈ actions) :
    message.Faithful fromStr actions := by
  intro frame relayed
  simp only [readText] at read
  split at read
  · rename_i clip parsed
    split at read
    · cases read
    · rename_i valid
      cases read
      cases relayed
      exact ⟨valid, id, content, .clip clip, rfl, member, parsed, rfl⟩
  · rename_i chunk parsed
    split at read
    · cases read
    · rename_i valid
      cases read
      cases relayed
      exact ⟨valid, id, content, .fileChunk chunk, rfl, member, parsed, rfl⟩
  · cases read
  · cases read

/-- The frames in the two queues of a connection. -/
def Mailboxes.queued (mail : Mailboxes) (id : Uuid) : List Frame :=
  (mail.clip id).buffer.map Frame.clip ++
    (mail.file id).buffer.map Frame.fileChunk

/-- Dropping senders takes nothing out of a queue. -/
theorem Mailboxes.queued_dropSenders
    (mail : Mailboxes)
    (channels : ClientChannels)
    (id : Uuid) :
    (mail.dropSenders channels).queued id = mail.queued id := by
  have clips :
      ((mail.dropSenders channels).clip id).buffer = (mail.clip id).buffer := by
    by_cases same : id = channels.clip
    · simp [dropSenders, same]
    · simp [dropSenders, same]
  have files :
      ((mail.dropSenders channels).file id).buffer = (mail.file id).buffer := by
    by_cases same : id = channels.file
    · simp [dropSenders, same]
    · simp [dropSenders, same]
  rw [queued, clips, files, queued]

namespace Hub

/-- Handling a message queues at most the frame that is relayed for it. -/
theorem queued_handle
    {hub : Hub}
    (own : hub.OwnChannels)
    {mail : Mailboxes}
    {message : HubMessage}
    {id : Uuid}
    {frame : Frame}
    (member : frame ∈ (hub.handle mail message).mail.queued id) :
    frame ∈ mail.queued id ∨ message.relayed? = some frame := by
  cases message with
  | register other outbound fileOutbound =>
      refine .inl ?_
      simp only [handle] at member
      split at member
      · rwa [Mailboxes.queued_dropSenders] at member
      · split at member
        · rwa [Mailboxes.queued_dropSenders] at member
        · exact member
  | deregister other =>
      refine .inl ?_
      simp only [handle] at member
      split at member
      · rwa [Mailboxes.queued_dropSenders] at member
      · exact member
  | publish sender clip =>
      rw [Mailboxes.queued, handle_publish_clip own, List.mem_append] at member
      simp only [Mailboxes.queued, List.mem_append, HubMessage.relayed?,
        Option.some.injEq]
      rcases member with isClip | isFile
      · split at isClip
        · obtain ⟨found, queued, rfl⟩ := List.mem_map.mp isClip
          rcases Channel.mem_offer queued with before | rfl
          · exact .inl (.inl (List.mem_map_of_mem before))
          · exact .inr rfl
        · exact .inl (.inl isClip)
      · exact .inl (.inr isFile)
  | publishFile sender chunk =>
      rw [Mailboxes.queued, handle_publishFile_file own, List.mem_append]
        at member
      simp only [Mailboxes.queued, List.mem_append, HubMessage.relayed?,
        Option.some.injEq]
      rcases member with isClip | isFile
      · exact .inl (.inl isClip)
      · split at isFile
        · obtain ⟨found, queued, rfl⟩ := List.mem_map.mp isFile
          rcases Channel.mem_offer queued with before | rfl
          · exact .inl (.inr (List.mem_map_of_mem before))
          · exact .inr rfl
        · exact .inl (.inr isFile)

end Hub

namespace Relay

/-- Every frame that the hub keeps or has handed out meets a condition. -/
structure Keeps (good : Frame → Prop) (relay : Relay) : Prop where
  queued : ∀ {id}, ∀ frame ∈ relay.mail.queued id, good frame
  cached : ∀ {clip}, relay.hub.lastClip = some clip → good (.clip clip)
  acked :
    ∀ {id connection clip},
      relay.connections id = some connection →
        connection.ack = .accepted (some clip) → good (.clip clip)

/-- Only the replaced channels can hold something else. -/
theorem mem_queued_setChannels
    {relay : Relay}
    {id other : Uuid}
    {clips : Channel ClipFrame}
    {files : Channel FileChunkFrame}
    {frame : Frame}
    (member :
      frame ∈ (relay.setChannels id clips files).mail.queued other) :
    frame ∈ relay.mail.queued other ∨
      frame ∈ clips.buffer.map Frame.clip ++
        files.buffer.map Frame.fileChunk := by
  by_cases same : other = id
  · subst other
    exact .inr (by simpa [Mailboxes.queued, setChannels] using member)
  · exact .inl (by simpa [Mailboxes.queued, setChannels, same] using member)

/-- A step queues at most the frame that is relayed for a handled message. -/
theorem queued_step
    {relay next : Relay}
    {action : RelayAction}
    (invariant : relay.Invariant)
    (stepped : relay.step? action = some next)
    {id : Uuid}
    {frame : Frame}
    (member : frame ∈ next.mail.queued id) :
    frame ∈ relay.mail.queued id ∨
      ∃ message,
        action.processed? = some message ∧
          message.relayed? = some frame := by
  cases relayStep_of_step? stepped with
  | @register other fresh =>
      have opened :
          frame ∈ relay.mail.queued id ∨
            frame ∈ ([] : List Frame) := by
        rcases @Hub.queued_handle relay.hub invariant.own _ _ id frame member
          with before | relayed
        · exact mem_queued_setChannels before
        · cases relayed
      exact .inl (by simpa using opened)
  | deregister =>
      exact (Hub.queued_handle invariant.own member).imp_right
        fun relayed => ⟨_, rfl, relayed⟩
  | publish =>
      exact (Hub.queued_handle invariant.own member).imp_right
        fun relayed => ⟨_, rfl, relayed⟩
  | publishFile =>
      exact (Hub.queued_handle invariant.own member).imp_right
        fun relayed => ⟨_, rfl, relayed⟩
  | welcome known notStarted accepted =>
      exact .inl member
  | reject known running sent =>
      exact .inl member
  | @write other connection taken internal clips files known running turn =>
      refine .inl ?_
      by_cases same : id = other
      · subst other
        rcases mem_queued_setChannels member with before | left
        · exact before
        -- what the writer leaves in the queues was there before
        · cases turnTakes_of_writerTurn turn with
          | control head => exact left
          | clip noControl head =>
              rw [Mailboxes.queued, head]
              exact List.mem_append.mpr
                ((List.mem_append.mp left).imp_left
                  (List.mem_cons_of_mem _))
          | file noControl noClip head =>
              rw [Mailboxes.queued, head]
              exact List.mem_append.mpr
                ((List.mem_append.mp left).imp_right
                  (List.mem_cons_of_mem _))
      · simpa [Mailboxes.queued, setChannels, setConnection, same] using member
  | idle =>
      exact .inl member
  | @exit _ other middle before connection hub others known ack sent notHub =>
      refine .inl ?_
      by_cases same : id = other
      · subst other
        simp [Mailboxes.queued, exitWriter, setChannels] at member
      · obtain ⟨-, clips, files⟩ := others id same
        simpa [Mailboxes.queued, exitWriter, setChannels, setConnection, same,
          clips, files] using member

theorem Keeps.step
    {good : Frame → Prop}
    {relay next : Relay}
    {action : RelayAction}
    (keeps : relay.Keeps good)
    (invariant : relay.Invariant)
    (handled :
      ∀ {message frame},
        action.processed? = some message →
          message.relayed? = some frame → good frame)
    (stepped : relay.step? action = some next) :
    next.Keeps good where
  queued := by
    intro id frame member
    rcases queued_step invariant stepped member with
      before | ⟨message, processed, relayed⟩
    · exact keeps.queued frame before
    · exact handled processed relayed
  cached := by
    intro clip cached
    rw [lastClip_step stepped, Option.or_eq_some_iff] at cached
    rcases cached with published | ⟨-, before⟩
    · obtain ⟨sender, content, rfl⟩ :
          ∃ sender content, action = .process (.publish sender content) := by
        cases action with
        | process message =>
            cases message with
            | publish sender content => exact ⟨sender, content, rfl⟩
            | _ => cases published
        | _ => cases published
      cases published
      exact handled rfl rfl
    · exact keeps.cached before
  acked := by
    intro id connection clip known ack
    rcases ack_origin stepped known with
      ⟨before, found, same⟩ | ⟨-, isNew⟩
    · exact keeps.acked found (same.trans ack)
    · rw [isNew] at known
      simp only [registerConnection, Function.update_self, Option.some.injEq]
        at known
      subst connection
      simp only [Hub.handle] at ack
      split at ack
      · cases ack
      · simp only [Option.getD_some, RegisterResult.accepted.injEq] at ack
        exact keeps.cached ack

end Relay

namespace Server

/-- Everything on its way through the server is genuine. -/
structure Provenance
    (fromStr : String → Option Frame)
    (actions : List ServerAction)
    (server : Server) :
    Prop where
  readers :
    ∀ {id socket},
      server.sockets id = some socket →
        ∀ message, socket.reader = .publishing message →
          message.Faithful fromStr actions
  inbox : ∀ message ∈ server.inbox.buffer, message.Faithful fromStr actions
  relay : server.relay.Keeps (Genuine fromStr actions)

namespace Provenance

variable {server : Server} {past : List ServerAction}

theorem start (config : ServerConfig) :
    (Server.start config).Provenance fromStr [] where
  readers := by
    intro id socket known
    cases known
  inbox := by
    intro message member
    cases member
  relay :=
    { queued := by
        intro id frame member
        cases member
      cached := by
        intro clip cached
        cases cached
      acked := by
        intro id connection clip known
        cases known }

/-- What is genuine stays genuine while the history grows. -/
theorem append
    (provenance : server.Provenance fromStr past)
    (later : List ServerAction) :
    server.Provenance fromStr (past ++ later) where
  readers known message reading frame relayed :=
    (provenance.readers known message reading frame relayed).append later
  inbox message member frame relayed :=
    (provenance.inbox message member frame relayed).append later
  relay :=
    { queued := fun frame member =>
        (provenance.relay.queued frame member).append later
      cached := fun cached => (provenance.relay.cached cached).append later
      acked := fun known ack =>
        (provenance.relay.acked known ack).append later }

/-- A connection changes, and what its reader publishes is genuine. -/
theorem setSocket
    {id : Uuid}
    {socket : Socket}
    (provenance : server.Provenance fromStr past)
    (own :
      ∀ message, socket.reader = .publishing message →
        message.Faithful fromStr past) :
    (server.setSocket id socket).Provenance fromStr past where
  readers := forall_sockets_setSocket own provenance.readers
  inbox := provenance.inbox
  relay := provenance.relay

theorem moves
    {id : Uuid}
    {socket next : Socket}
    (provenance : server.Provenance fromStr past)
    (known : server.sockets id = some socket)
    (same : next.reader = socket.reader) :
    (server.setSocket id next).Provenance fromStr past := by
  refine provenance.setSocket ?_
  intro message publishing
  rw [same] at publishing
  exact provenance.readers known message publishing

/-- The number of permits does not matter. -/
theorem permits
    (provenance : server.Provenance fromStr past)
    (permits : Nat) :
    Provenance fromStr past { server with permits := permits } where
  readers := provenance.readers
  inbox := provenance.inbox
  relay := provenance.relay

/-- A genuine message is sent to the hub. -/
theorem push
    {message : HubMessage}
    (provenance : server.Provenance fromStr past)
    (room : server.inbox.HasRoom)
    (faithful : message.Faithful fromStr past) :
    Provenance fromStr past
      { server with inbox := server.inbox.push message room } where
  readers := provenance.readers
  inbox := by
    intro other member
    rw [Channel.buffer_push, List.mem_append, List.mem_singleton] at member
    rcases member with before | rfl
    · exact provenance.inbox other before
    · exact faithful
  relay := provenance.relay

/-- A step of the relay in which the hub does nothing. -/
theorem quiet
    {action : RelayAction}
    {next : Relay}
    (provenance : server.Provenance fromStr past)
    (invariant : server.relay.Invariant)
    (stepped : server.relay.step? action = some next)
    (silent : action.processed? = none) :
    Provenance fromStr past { server with relay := next } where
  readers := provenance.readers
  inbox := provenance.inbox
  relay :=
    provenance.relay.step invariant
      (fun processed => by rw [silent] at processed; cases processed) stepped

/-- The hub handles the first message of its inbox. -/
theorem process
    {message : HubMessage}
    {next : Relay}
    (provenance : server.Provenance fromStr past)
    (invariant : server.relay.Invariant)
    (first : server.inbox.buffer = message :: server.inbox.buffer.tail)
    (stepped : server.relay.step? (.process message) = some next) :
    Provenance fromStr past
      { server with relay := next, inbox := server.inbox.dropHead } where
  readers := provenance.readers
  inbox := by
    intro other member
    exact provenance.inbox other (List.mem_of_mem_tail member)
  relay := by
    refine provenance.relay.step invariant ?_ stepped
    intro handled frame processed relayed
    cases processed
    exact
      provenance.inbox message (by rw [first]; exact List.mem_cons_self) frame
        relayed

theorem step
    {next : Server}
    {action : ServerAction}
    (before : server.Provenance fromStr past)
    (invariant : server.relay.Invariant)
    (stepped : server.step? fromStr config action = some next) :
    next.Provenance fromStr (past ++ [action]) := by
  have provenance := before.append [action]
  cases serverStep_of_step? stepped with
  | refused unknown full =>
      exact provenance
  | connected unknown free =>
      exact (provenance.permits _).setSocket
        (fun message reading => by cases reading)
  | upgraded known phase =>
      exact provenance.moves known rfl
  | abandoned known phase =>
      exact (provenance.permits _).moves known rfl
  | @registered id socket known phase room =>
      have silent : (HubMessage.register id id id).relayed? = none := rfl
      have sent := provenance.push room (faithful_of_silent silent)
      exact sent.moves known rfl
  | processed first relayed =>
      exact provenance.process invariant first relayed
  | welcomed known phase found ack relayed =>
      exact (provenance.quiet invariant relayed rfl).setSocket
        (fun message reading => by cases reading)
  | turnedAway known phase found ack relayed =>
      exact (provenance.quiet invariant relayed rfl).moves known rfl
  | received known reading =>
      refine provenance.setSocket ?_
      intro message publishing
      obtain ⟨content, rfl, read⟩ := publishing_of_readerTurn publishing
      exact faithful_of_readText read
        (List.mem_append_right past (List.mem_singleton.mpr rfl))
  | published known publishing room =>
      have sent :=
        provenance.push room (provenance.readers known _ publishing)
      exact sent.setSocket (fun message reading => by cases reading)
  | rejected known rejecting relayed =>
      exact (provenance.quiet invariant relayed rfl).setSocket
        (fun message reading => by cases reading)
  | rejectedLate known rejecting gone =>
      exact provenance.setSocket (fun message reading => by cases reading)
  | drained known closed relayed =>
      exact provenance.quiet invariant relayed rfl
  | wrote known live relayed =>
      exact (provenance.quiet invariant relayed rfl).moves known rfl
  | writeFailed relayed =>
      exact provenance.quiet invariant relayed rfl
  | finished known phase ended =>
      exact provenance.moves known rfl
  | @deregistered id socket known phase room =>
      have silent : (HubMessage.deregister id).relayed? = none := rfl
      have sent := provenance.push room (faithful_of_silent silent)
      exact sent.moves known rfl
  | released known phase =>
      exact (provenance.permits _).moves known rfl

end Provenance

theorem provenance_of_run
    {actions : List ServerAction}
    {server : Server}
    (ran :
      StepRun.run? (step? fromStr config) (start config) actions =
        some server) :
    server.Provenance fromStr actions :=
  StepRun.run?_history
    (motive := fun past state => state.Provenance fromStr past)
    (Provenance.start config)
    (fun _ earlier provenance stepped =>
      provenance.step (relay_invariant earlier) stepped)
    ran

/--
Whatever the clients send, every clip and chunk in a queue, the cached clip
and the clips returned with acknowledgements pass `validate`, and their `from`
is the connection on which their text was received.
-/
theorem relayed_genuine
    {actions : List ServerAction}
    {server : Server}
    (ran :
      StepRun.run? (step? fromStr config) (start config) actions =
        some server) :
    (∀ id, ∀ clip ∈ (server.relay.mail.clip id).buffer,
        Genuine fromStr actions (.clip clip)) ∧
      (∀ id, ∀ chunk ∈ (server.relay.mail.file id).buffer,
        Genuine fromStr actions (.fileChunk chunk)) ∧
      (∀ clip, server.relay.hub.lastClip = some clip →
        Genuine fromStr actions (.clip clip)) ∧
      ∀ id connection clip,
        server.relay.connections id = some connection →
          connection.ack = .accepted (some clip) →
            Genuine fromStr actions (.clip clip) := by
  have keeps := (provenance_of_run ran).relay
  refine ⟨?_, ?_, fun _ => keeps.cached, fun _ _ _ => keeps.acked⟩
  · intro id clip member
    exact @keeps.queued id (.clip clip)
      (List.mem_append_left _ (List.mem_map_of_mem member))
  · intro id chunk member
    exact @keeps.queued id (.fileChunk chunk)
      (List.mem_append_right _ (List.mem_map_of_mem member))

/-- A clip whose sender claims to be client 7. -/
def spoofedClip : ClipFrame :=
  { ClipFrame.text ⟨5⟩ 0 "hello" with fromId := some ⟨7⟩ }

/-- Admit a client and start its tasks. -/
def joining (id : Uuid) : List ServerAction :=
  [.connect id, .upgrade id true, .register id,
    .process (.register id id id), .welcome id]

/-- Client 1 publishes a clip to client 2. -/
def spoofing : List ServerAction :=
  joining ⟨1⟩ ++ joining ⟨2⟩ ++
    [.receive ⟨1⟩ (.message (.text "spoofed")), .publish ⟨1⟩,
      .process (.publish ⟨1⟩ { spoofedClip with fromId := none })]

/-- A server for two clients. -/
def pairConfig : ServerConfig :=
  { smallConfig with maxConns := 2 }

/-- The parser of the example. -/
def readsSpoofed (content : String) : Option Frame :=
  if content = "spoofed" then
    some (.clip spoofedClip)
  else
    none

/-- The server after the clip was relayed. -/
def spoofed : Server :=
  (StepRun.run? (step? readsSpoofed pairConfig) (start pairConfig)
    spoofing).get (by decide)

/-- The spoofed clip reaches the other client as a clip of client 1. -/
theorem spoofed_genuine :
    (spoofed.relay.mail.clip ⟨2⟩).buffer =
        [{ spoofedClip with fromId := some ⟨1⟩ }] ∧
      ∀ clip ∈ (spoofed.relay.mail.clip ⟨2⟩).buffer,
        Genuine readsSpoofed spoofing (.clip clip) :=
  ⟨by decide +kernel,
    (@relayed_genuine readsSpoofed pairConfig spoofing spoofed
      (Option.some_get _).symm).1 ⟨2⟩⟩

end Server

end ClipboardWire
