import ClipboardWire.Server

namespace ClipboardWire

open BoundedChannel

/-!
# What one step of the server does

One constructor for every branch of the step function, with the guard of the
branch; the invariants of the server are case analyses over it.  A step of the
server is a step of the relay or leaves the relay alone, so every run of the
server contains a run of the relay, and what was proved of the relay holds
here.
-/

variable {fromStr : String → Option Frame} {config : ServerConfig}

/-- Everything a step of the server can do. -/
inductive ServerStep
    (fromStr : String → Option Frame)
    (config : ServerConfig)
    (server : Server) :
    ServerAction → Server → Prop where
  | refused {id : Uuid}
      (unknown : server.sockets id = none)
      (full : server.permits = 0) :
      ServerStep fromStr config server (.connect id) server
  | connected {id : Uuid} {permits : Nat}
      (unknown : server.sockets id = none)
      (free : server.permits = permits + 1) :
      ServerStep fromStr config server (.connect id)
        ({ server with permits := permits }.setSocket id
          ⟨.upgrading, .notStarted, []⟩)
  | upgraded {id : Uuid} {socket : Socket}
      (known : server.sockets id = some socket)
      (phase : socket.phase = .upgrading) :
      ServerStep fromStr config server (.upgrade id true)
        (server.setSocket id { socket with phase := .registering })
  | abandoned {id : Uuid} {socket : Socket}
      (known : server.sockets id = some socket)
      (phase : socket.phase = .upgrading) :
      ServerStep fromStr config server (.upgrade id false)
        ({ server with permits := server.permits + 1 }.setSocket id
          { socket with phase := .closed })
  | registered {id : Uuid} {socket : Socket}
      (known : server.sockets id = some socket)
      (phase : socket.phase = .registering)
      (room : server.inbox.HasRoom) :
      ServerStep fromStr config server (.register id)
        ({ server with
            inbox := server.inbox.push (.register id id id) room }.setSocket
          id { socket with phase := .awaitingAck })
  | processed {message : HubMessage} {relay : Relay}
      (first : server.inbox.buffer = message :: server.inbox.buffer.tail)
      (stepped : server.relay.step? (.process message) = some relay) :
      ServerStep fromStr config server (.process message)
        { server with relay := relay, inbox := server.inbox.dropHead }
  | welcomed {id : Uuid} {socket : Socket} {connection : Connection}
      {lastClip : Option ClipFrame} {relay : Relay}
      (known : server.sockets id = some socket)
      (phase : socket.phase = .awaitingAck)
      (found : server.relay.connections id = some connection)
      (ack : connection.ack = .accepted lastClip)
      (stepped : server.relay.step? (.welcome id) = some relay) :
      ServerStep fromStr config server (.welcome id)
        ({ server with relay := relay }.setSocket id
          { socket with phase := .serving, reader := .reading })
  | turnedAway {id : Uuid} {socket : Socket} {connection : Connection}
      {relay : Relay}
      (known : server.sockets id = some socket)
      (phase : socket.phase = .awaitingAck)
      (found : server.relay.connections id = some connection)
      (ack : connection.ack = .atCapacity)
      (stepped : server.relay.step? (.welcome id) = some relay) :
      ServerStep fromStr config server (.welcome id)
        ({ server with relay := relay }.setSocket id
          { socket with
            phase := .returning
            wire :=
              socket.wire ++
                [ServerOutput.close
                  (some ErrorCode.duplicateSession.closeCode)] })
  | received {id : Uuid} {socket : Socket} {event : ReaderEvent}
      (known : server.sockets id = some socket)
      (reading : socket.reader = .reading) :
      ServerStep fromStr config server (.receive id event)
        (server.setSocket id
          { socket with reader := readerTurn fromStr config id event })
  | published {id : Uuid} {socket : Socket} {message : HubMessage}
      (known : server.sockets id = some socket)
      (publishing : socket.reader = .publishing message)
      (room : server.inbox.HasRoom) :
      ServerStep fromStr config server (.publish id)
        ({ server with inbox := server.inbox.push message room }.setSocket
          id { socket with reader := .reading })
  | rejected {id : Uuid} {socket : Socket} {error : ErrorFrame}
      {relay : Relay}
      (known : server.sockets id = some socket)
      (rejecting : socket.reader = .rejecting error)
      (stepped : server.relay.step? (.reject id error) = some relay) :
      ServerStep fromStr config server (.reject id)
        ({ server with relay := relay }.setSocket id
          { socket with reader := .ended })
  | rejectedLate {id : Uuid} {socket : Socket} {error : ErrorFrame}
      (known : server.sockets id = some socket)
      (rejecting : socket.reader = .rejecting error)
      (gone : server.internalOpen id = false) :
      ServerStep fromStr config server (.reject id)
        (server.setSocket id { socket with reader := .ended })
  | drained {id : Uuid} {socket : Socket} {relay : Relay}
      (known : server.sockets id = some socket)
      (closed : socket.InternalClosed)
      (stepped : server.relay.step? (.writeFails id) = some relay) :
      ServerStep fromStr config server (.write id)
        { server with relay := relay }
  | wrote {id : Uuid} {socket : Socket} {relay : Relay}
      (known : server.sockets id = some socket)
      (live : ¬ (socket.InternalClosed ∧ server.InternalEmpty id))
      (stepped : server.relay.step? (.write id) = some relay) :
      ServerStep fromStr config server (.write id)
        ({ server with relay := relay }.setSocket id
          { socket with
            wire := socket.wire ++ turnOutput (server.nextTurn id) })
  | writeFailed {id : Uuid} {relay : Relay}
      (stepped : server.relay.step? (.writeFails id) = some relay) :
      ServerStep fromStr config server (.writeFails id)
        { server with relay := relay }
  | finished {id : Uuid} {socket : Socket}
      (known : server.sockets id = some socket)
      (phase : socket.phase = .serving)
      (ended : socket.reader = .ended ∨ ¬ server.WriterRunning id) :
      ServerStep fromStr config server (.finish id)
        (server.setSocket id { socket with phase := .deregistering })
  | deregistered {id : Uuid} {socket : Socket}
      (known : server.sockets id = some socket)
      (phase : socket.phase = .deregistering)
      (room : server.inbox.HasRoom) :
      ServerStep fromStr config server (.deregister id)
        ({ server with
            inbox := server.inbox.push (.deregister id) room }.setSocket
          id { socket with phase := .returning })
  | released {id : Uuid} {socket : Socket}
      (known : server.sockets id = some socket)
      (phase : socket.phase = .returning) :
      ServerStep fromStr config server (.release id)
        ({ server with permits := server.permits + 1 }.setSocket id
          { socket with phase := .closed })

namespace Server

/-- A message that was sent stands at the end of the inbox. -/
theorem enqueue?_eq_some
    {server next : Server}
    {message : HubMessage} :
    server.enqueue? message = some next →
      ∃ room : server.inbox.HasRoom,
        next = { server with inbox := server.inbox.push message room } := by
  intro sent
  unfold enqueue? at sent
  split at sent
  · rename_i inbox polled
    cases sent
    obtain ⟨room, -, rfl⟩ := Channel.pollSend_eq_sent.mp polled
    exact ⟨room, rfl⟩
  · cases sent
  · cases sent

/-- The step function does nothing that is not a `ServerStep`. -/
theorem serverStep_of_step?
    {server next : Server}
    {action : ServerAction}
    (stepped : server.step? fromStr config action = some next) :
    ServerStep fromStr config server action next := by
  cases action with
  | connect id =>
      simp only [step?, connect?] at stepped
      split at stepped
      · rename_i unknown full
        cases stepped
        exact .refused unknown full
      · rename_i permits unknown free
        cases stepped
        exact .connected unknown free
      · cases stepped
  | process message =>
      simp only [step?, process?] at stepped
      split at stepped
      · rename_i first inbox polled
        obtain ⟨shape, rfl⟩ := Channel.pollRecv_eq_received.mp polled
        split at stepped
        · rename_i same
          subst first
          obtain ⟨relay, relayed, rfl⟩ := Option.map_eq_some_iff.mp stepped
          exact .processed shape relayed
        · cases stepped
      · cases stepped
      · cases stepped
  | upgrade id succeeds =>
      obtain ⟨socket, known, moved⟩ := Option.bind_eq_some_iff.mp stepped
      simp only [upgrade?] at moved
      split at moved
      · rename_i phase
        cases succeeds with
        | true =>
            cases moved
            exact .upgraded known phase
        | false =>
            cases moved
            exact .abandoned known phase
      · cases moved
  | register id =>
      obtain ⟨socket, known, moved⟩ := Option.bind_eq_some_iff.mp stepped
      simp only [register?] at moved
      split at moved
      · rename_i phase
        obtain ⟨middle, sent, rfl⟩ := Option.map_eq_some_iff.mp moved
        obtain ⟨room, rfl⟩ := enqueue?_eq_some sent
        exact .registered known phase room
      · cases moved
  | welcome id =>
      obtain ⟨socket, known, moved⟩ := Option.bind_eq_some_iff.mp stepped
      simp only [welcome?] at moved
      split at moved
      · rename_i phase
        split at moved
        · cases moved
        · rename_i connection found
          obtain ⟨relay, relayed, rfl⟩ := Option.map_eq_some_iff.mp moved
          cases ack : connection.ack with
          | accepted lastClip =>
              exact .welcomed known phase found ack relayed
          | atCapacity =>
              exact .turnedAway known phase found ack relayed
      · cases moved
  | receive id event =>
      obtain ⟨socket, known, moved⟩ := Option.bind_eq_some_iff.mp stepped
      simp only [receive?] at moved
      split at moved
      · rename_i reading
        cases moved
        exact .received known reading
      · cases moved
  | publish id =>
      obtain ⟨socket, known, moved⟩ := Option.bind_eq_some_iff.mp stepped
      simp only [publish?] at moved
      split at moved
      · rename_i message publishing
        obtain ⟨middle, sent, rfl⟩ := Option.map_eq_some_iff.mp moved
        obtain ⟨room, rfl⟩ := enqueue?_eq_some sent
        exact .published known publishing room
      · cases moved
  | reject id =>
      obtain ⟨socket, known, moved⟩ := Option.bind_eq_some_iff.mp stepped
      simp only [reject?] at moved
      split at moved
      · rename_i error rejecting
        split at moved
        · obtain ⟨relay, relayed, rfl⟩ := Option.map_eq_some_iff.mp moved
          exact .rejected known rejecting relayed
        · rename_i gone
          cases moved
          exact .rejectedLate known rejecting (by simpa using gone)
      · cases moved
  | write id =>
      obtain ⟨socket, known, moved⟩ := Option.bind_eq_some_iff.mp stepped
      simp only [write?] at moved
      split at moved
      · rename_i closed
        obtain ⟨relay, relayed, rfl⟩ := Option.map_eq_some_iff.mp moved
        exact .drained known closed.1 relayed
      · rename_i live
        obtain ⟨relay, relayed, rfl⟩ := Option.map_eq_some_iff.mp moved
        exact .wrote known live relayed
  | writeFails id =>
      obtain ⟨relay, relayed, rfl⟩ := Option.map_eq_some_iff.mp stepped
      exact .writeFailed relayed
  | finish id =>
      obtain ⟨socket, known, moved⟩ := Option.bind_eq_some_iff.mp stepped
      simp only [finish?] at moved
      split at moved
      · rename_i guard
        cases moved
        exact .finished known guard.1 guard.2
      · cases moved
  | deregister id =>
      obtain ⟨socket, known, moved⟩ := Option.bind_eq_some_iff.mp stepped
      simp only [deregister?] at moved
      split at moved
      · rename_i phase
        obtain ⟨middle, sent, rfl⟩ := Option.map_eq_some_iff.mp moved
        obtain ⟨room, rfl⟩ := enqueue?_eq_some sent
        exact .deregistered known phase room
      · cases moved
  | release id =>
      obtain ⟨socket, known, moved⟩ := Option.bind_eq_some_iff.mp stepped
      simp only [release?] at moved
      split at moved
      · rename_i phase
        cases moved
        exact .released known phase
      · cases moved

/-- What holds of the readers, when a step concerns one connection only. -/
theorem forall_sockets_setSocket
    {server : Server}
    {id : Uuid}
    {socket : Socket}
    {motive : Uuid → Socket → Prop}
    (own : motive id socket)
    (others :
      ∀ {other before},
        server.sockets other = some before → motive other before) :
    ∀ {other after},
      (server.setSocket id socket).sockets other = some after →
        motive other after := by
  intro other after known
  by_cases same : other = id
  · subst other
    rw [sockets_setSocket_self, Option.some.injEq] at known
    exact known ▸ own
  · rw [sockets_setSocket_of_ne server socket same] at known
    exact others known

end Server

/-! ## What a reader sends -/

/-- The client that a publish comes from. -/
def HubMessage.sender? : HubMessage → Option Uuid
  | .publish sender _ | .publishFile sender _ => some sender
  | .register _ _ _ | .deregister _ => none

/-- What is read from a text is a publish of the connection that it came on. -/
theorem sender_of_readText
    {id : Uuid}
    {content : String}
    {message : HubMessage}
    (read : readText fromStr id content = .ok message) :
    message.sender? = some id := by
  simp only [readText] at read
  split at read
  · split at read
    · cases read
    · cases read
      rfl
  · split at read
    · cases read
    · cases read
      rfl
  · cases read
  · cases read

/-- A reader that publishes after a turn has read a text. -/
theorem publishing_of_readerTurn
    {id : Uuid}
    {event : ReaderEvent}
    {message : HubMessage}
    (turn : readerTurn fromStr config id event = .publishing message) :
    ∃ content,
      event = .message (.text content) ∧
        readText fromStr id content = .ok message := by
  cases event with
  | message received =>
      simp only [readerTurn] at turn
      split at turn
      · cases received with
        | text content =>
            refine ⟨content, rfl, ?_⟩
            simp only [dispatch] at turn
            split at turn
            · rename_i read
              cases turn
              exact read
            · cases turn
        | binary bytes => cases turn
        | ping => cases turn
        | pong => cases turn
        | close => cases turn
      · cases turn
  | failed => cases turn
  | ended => cases turn
  | timedOut => cases turn

namespace Server

/-- Readers only send publishes of their own connections. -/
def ReadersPublish (server : Server) : Prop :=
  ∀ {id socket},
    server.sockets id = some socket →
      ∀ message, socket.reader = .publishing message →
        message.sender? = some id

theorem ReadersPublish.step
    {server next : Server}
    {action : ServerAction}
    (readers : server.ReadersPublish)
    (stepped : server.step? fromStr config action = some next) :
    next.ReadersPublish := by
  cases serverStep_of_step? stepped with
  | refused unknown full =>
      exact readers
  | connected unknown free =>
      exact forall_sockets_setSocket (fun message reading => by cases reading)
        readers
  | upgraded known phase =>
      exact forall_sockets_setSocket (readers known) readers
  | abandoned known phase =>
      exact forall_sockets_setSocket (readers known) readers
  | registered known phase room =>
      exact forall_sockets_setSocket (readers known) readers
  | processed first relayed =>
      exact readers
  | welcomed known phase found ack relayed =>
      exact forall_sockets_setSocket (fun message reading => by cases reading)
        readers
  | turnedAway known phase found ack relayed =>
      exact forall_sockets_setSocket (readers known) readers
  | received known reading =>
      refine forall_sockets_setSocket ?_ readers
      intro message publishing
      obtain ⟨content, -, read⟩ := publishing_of_readerTurn publishing
      exact sender_of_readText read
  | published known publishing room =>
      exact forall_sockets_setSocket (fun message reading => by cases reading)
        readers
  | rejected known rejecting relayed =>
      exact forall_sockets_setSocket (fun message reading => by cases reading)
        readers
  | rejectedLate known rejecting gone =>
      exact forall_sockets_setSocket (fun message reading => by cases reading)
        readers
  | drained known closed relayed =>
      exact readers
  | wrote known live relayed =>
      exact forall_sockets_setSocket (readers known) readers
  | writeFailed relayed =>
      exact readers
  | finished known phase ended =>
      exact forall_sockets_setSocket (readers known) readers
  | deregistered known phase room =>
      exact forall_sockets_setSocket (readers known) readers
  | released known phase =>
      exact forall_sockets_setSocket (readers known) readers

theorem readersPublish_of_run
    {actions : List ServerAction}
    {server : Server}
    (ran :
      StepRun.run? (step? fromStr config) (start config) actions =
        some server) :
    server.ReadersPublish :=
  StepRun.run?_invariant
    (motive := ReadersPublish)
    (fun known => by cases known)
    (fun readers stepped => readers.step stepped)
    ran

end Server

/-! ## The relay in the server -/

/-- The message that the hub handles. -/
def ServerAction.processed? : ServerAction → Option HubMessage
  | .process message => some message
  | _ => none

/-- The message that the hub handles. -/
def RelayAction.processed? : RelayAction → Option HubMessage
  | .process message => some message
  | _ => none

/-- What becomes of the hub does not depend on the channels. -/
theorem Hub.handle_hub
    (hub : Hub)
    (mail other : Mailboxes)
    (message : HubMessage) :
    (hub.handle mail message).hub = (hub.handle other message).hub := by
  cases message with
  | register id outbound fileOutbound =>
      simp only [handle]
      split <;> rfl
  | deregister id =>
      simp only [handle]
      split <;> rfl
  | publish sender clip =>
      rfl
  | publishFile sender chunk =>
      rfl

namespace Relay

theorem hub_step
    {relay next : Relay}
    {action : RelayAction}
    (stepped : relay.step? action = some next) :
    next.hub =
      match action.processed? with
      | some message => (relay.hub.handle relay.mail message).hub
      | none => relay.hub := by
  cases relayStep_of_step? stepped with
  | register fresh =>
      exact Hub.handle_hub _ _ _ _
  | exit hub others known ack sent notHub =>
      cases action with
      | process message => exact (notHub message rfl).elim
      | _ => exact hub
  | _ => rfl

/-- A connection is known once its registration has been handled. -/
theorem known_of_step
    {relay next : Relay}
    {action : RelayAction}
    {id : Uuid}
    (stepped : relay.step? action = some next)
    (known : (next.connections id).isSome) :
    (relay.connections id).isSome ∨
      action = .process (.register id id id) ∧
        next = relay.registerConnection id := by
  have replace
      {other : Uuid}
      {found : Connection}
      {connections : Uuid → Option Connection}
      {replaced : Option Connection}
      (lookup : relay.connections other = some found)
      (updated :
        Function.update connections other replaced id = next.connections id)
      (elsewhere :
        ∀ peer, peer ≠ other →
          connections peer = relay.connections peer) :
      (relay.connections id).isSome := by
    by_cases same : id = other
    · subst other
      rw [lookup]
      rfl
    · rw [← elsewhere id same]
      rw [Function.update_of_ne same] at updated
      rw [updated]
      exact known
  cases relayStep_of_step? stepped with
  | @register other fresh =>
      by_cases same : id = other
      · subst other
        exact .inr ⟨rfl, rfl⟩
      · simp only [registerConnection, ne_eq, same, not_false_eq_true,
          Function.update_of_ne] at known
        exact .inl known
  | deregister => exact .inl known
  | publish => exact .inl known
  | publishFile => exact .inl known
  | welcome found notStarted accepted =>
      exact .inl (replace found rfl (fun _ _ => rfl))
  | reject found running sent =>
      exact .inl (replace found rfl (fun _ _ => rfl))
  | write found running turn =>
      exact .inl (replace found rfl (fun _ _ => rfl))
  | idle => exact .inl known
  | exit hub others found ack sent notHub =>
      exact .inl
        (replace found rfl (fun peer different => (others peer different).1))

/-- An acknowledgement is the answer to the registration. -/
theorem ack_origin
    {relay next : Relay}
    {action : RelayAction}
    {id : Uuid}
    {later : Connection}
    (stepped : relay.step? action = some next)
    (known : next.connections id = some later) :
    (∃ connection,
        relay.connections id = some connection ∧
          connection.ack = later.ack) ∨
      action = .process (.register id id id) ∧
        next = relay.registerConnection id := by
  rcases known_of_step stepped (by rw [known]; rfl) with before | isNew
  · obtain ⟨connection, found⟩ := Option.isSome_iff_exists.mp before
    obtain ⟨same, lookup, ack⟩ := ack_step stepped found
    rw [known, Option.some.injEq] at lookup
    subst same
    exact .inl ⟨connection, found, ack.symm⟩
  · exact .inr isNew

end Relay

namespace Server

theorem relay_step
    {server next : Server}
    {action : ServerAction}
    (step : ServerStep fromStr config server action next) :
    (next.relay = server.relay ∧ action.processed? = none) ∨
      ∃ relayAction,
        server.relay.step? relayAction = some next.relay ∧
          relayAction.processed? = action.processed? := by
  cases step with
  | processed first stepped => exact .inr ⟨_, stepped, rfl⟩
  | welcomed known phase found ack stepped => exact .inr ⟨_, stepped, rfl⟩
  | turnedAway known phase found ack stepped => exact .inr ⟨_, stepped, rfl⟩
  | rejected known rejecting stepped => exact .inr ⟨_, stepped, rfl⟩
  | drained known closed stepped => exact .inr ⟨_, stepped, rfl⟩
  | wrote known live stepped => exact .inr ⟨_, stepped, rfl⟩
  | writeFailed stepped => exact .inr ⟨_, stepped, rfl⟩
  | _ => exact .inl ⟨rfl, rfl⟩

/--
Every run of the server contains a run of the relay in which the hub handles
the same messages.
-/
theorem relay_run
    {actions : List ServerAction}
    {server : Server}
    (ran :
      StepRun.run? (step? fromStr config) (start config) actions =
        some server) :
    ∃ relayActions,
      StepRun.run? Relay.step?
          (Relay.start config.maxConns.toNat config.stats) relayActions =
        some server.relay ∧
      relayActions.filterMap RelayAction.processed? =
        actions.filterMap ServerAction.processed? := by
  refine StepRun.run?_history
    (motive := fun past state =>
      ∃ relayActions,
        StepRun.run? Relay.step?
            (Relay.start config.maxConns.toNat config.stats) relayActions =
          some state.relay ∧
        relayActions.filterMap RelayAction.processed? =
          past.filterMap ServerAction.processed?)
    ⟨[], rfl, rfl⟩ ?_ ran
  rintro past state action next - - ⟨relayActions, relayRan, same⟩ stepped
  rcases relay_step (serverStep_of_step? stepped) with
    ⟨unchanged, quiet⟩ | ⟨relayAction, relayed, agrees⟩
  · refine ⟨relayActions, by rw [unchanged]; exact relayRan, ?_⟩
    simp [List.filterMap_append, quiet, same]
  · refine ⟨relayActions ++ [relayAction], ?_, ?_⟩
    · exact StepRun.run?_snoc_eq_some.mpr ⟨state.relay, relayRan, relayed⟩
    · rw [List.filterMap_append, List.filterMap_append, same]
      simp [List.filterMap_cons, agrees]

/-- The relay of a reachable server meets the invariant of the relay. -/
theorem relay_invariant
    {actions : List ServerAction}
    {server : Server}
    (ran :
      StepRun.run? (step? fromStr config) (start config) actions =
        some server) :
    server.relay.Invariant := by
  obtain ⟨relayActions, relayRan, -⟩ := relay_run ran
  exact Relay.invariant_of_run relayRan

end Server

end ClipboardWire
