import ClipboardWire.HubLifetime
import ClipboardWire.ServerOrder
import Mathlib.Algebra.BigOperators.Group.Finset.Basic
import Mathlib.Algebra.Order.BigOperators.Group.Finset

namespace ClipboardWire

open BoundedChannel StepRun

/-!
# The server comes to rest

Once nobody connects any more and the sockets neither deliver messages nor
accept frames, every step of the server makes its remaining work smaller, and
a server without an enabled step has nothing left: no permit is held, no task
runs, the hub has no client and its inbox is empty.  So however the tasks are
scheduled, the server comes to rest after a bounded number of steps and all
its permits are free again.
-/

variable {fromStr : String → Option Frame} {config : ServerConfig}

/-! ## The life of a writer -/

namespace Relay

/-- How far the writer of a connection is, if there is a connection. -/
def writerOf (relay : Relay) (id : Uuid) : Option WriterState :=
  (relay.connections id).map Connection.writer

/-- The moves of a writer in one step of the relay. -/
inductive WriterMoves
    (relay next : Relay)
    (action : RelayAction)
    (id : Uuid) : Prop where
  | stays
      (same : next.writerOf id = relay.writerOf id)
      (notWelcome : action ≠ .welcome id)
      (notMade : action ≠ .process (.register id id id))
  | made
      (registers : action = .process (.register id id id))
      (absent : relay.writerOf id = none)
      (waits : next.writerOf id = some .notStarted)
  | starts
      (welcomes : action = .welcome id)
      (waited : relay.writerOf id = some .notStarted)
      (started : next.writerOf id ≠ some .notStarted)
      (known : next.writerOf id ≠ none)
  | ends
      (ran : relay.writerOf id = some .running)
      (exited : next.writerOf id = some .exited)

/-- Replacing a connection changes its own writer only. -/
private theorem writerOf_setConnection
    (relay : Relay)
    (id other : Uuid)
    (connection : Connection) :
    (relay.setConnection other connection).writerOf id =
      if id = other then
        some connection.writer
      else
        relay.writerOf id := by
  by_cases same : id = other
  · simp [writerOf, setConnection, same]
  · simp [writerOf, setConnection, same]

/-- A writer that ends does not concern the others. -/
private theorem writerOf_exitWriter
    (relay : Relay)
    (id other : Uuid)
    (connection : Connection) :
    (relay.exitWriter other connection).writerOf id =
      if id = other then
        some .exited
      else
        relay.writerOf id := by
  exact writerOf_setConnection relay id other
    { connection with
      internal := connection.internal.dropReceiver
      writer := .exited }

/-- A step in which no writer starts or ends. -/
private theorem writerMoves_of_same
    {relay next : Relay}
    {action : RelayAction}
    {other : Uuid}
    {connection changed : Connection}
    (known : relay.connections other = some connection)
    (lookup : next.connections other = some changed)
    (same : changed.writer = connection.writer)
    (others :
      ∀ peer,
        peer ≠ other → next.connections peer = relay.connections peer)
    (id : Uuid)
    (notWelcome : action ≠ .welcome id)
    (notMade : action ≠ .process (.register id id id)) :
    WriterMoves relay next action id := by
  refine .stays ?_ notWelcome notMade
  by_cases isOther : id = other
  · subst other
    simp [writerOf, known, lookup, same]
  · rw [writerOf, writerOf, others id isOther]

/-- A running writer ends. -/
private theorem writerMoves_of_exit
    {relay middle : Relay}
    {action : RelayAction}
    {other : Uuid}
    {before connection : Connection}
    (known : relay.connections other = some before)
    (running : before.writer = .running)
    (others :
      ∀ peer,
        peer ≠ other → middle.connections peer = relay.connections peer)
    (id : Uuid)
    (notWelcome : action ≠ .welcome id)
    (notMade : action ≠ .process (.register id id id)) :
    WriterMoves relay (middle.exitWriter other connection) action id := by
  by_cases same : id = other
  · subst other
    refine .ends ?_ ?_
    · simp [writerOf, known, running]
    · simp [writerOf_exitWriter]
  · refine .stays ?_ notWelcome notMade
    rw [writerOf_exitWriter, if_neg same, writerOf, others id same]
    rfl

/-- The hub makes connections and leaves the writers of the others alone. -/
private theorem writerMoves_of_process
    {relay next : Relay}
    {message : HubMessage}
    (stepped : relay.step? (.process message) = some next)
    (id : Uuid) :
    WriterMoves relay next (.process message) id := by
  cases relayStep_of_step? stepped with
  | @register other fresh =>
      by_cases same : id = other
      · subst other
        refine .made rfl ?_ ?_
        · simp [writerOf, fresh]
        · simp [writerOf, registerConnection]
      · refine .stays ?_ (by simp) (by simp [Ne.symm same])
        simp [writerOf, registerConnection, same]
  | deregister => exact .stays rfl (by simp) (by simp)
  | publish => exact .stays rfl (by simp) (by simp)
  | publishFile => exact .stays rfl (by simp) (by simp)
  | exit hub others known ack sent notHub =>
      exact (notHub _ rfl).elim

/-- A welcome starts a writer, or ends one that was turned away. -/
private theorem writerMoves_of_welcome
    {relay next : Relay}
    {other : Uuid}
    (stepped : relay.step? (.welcome other) = some next)
    (id : Uuid) :
    WriterMoves relay next (.welcome other) id := by
  simp only [step?] at stepped
  cases known : relay.connections other with
  | none =>
      simp [known] at stepped
  | some connection =>
      cases notStarted : connection.writer <;>
        cases acked : connection.ack <;>
          simp only [known, notStarted, acked, Option.some.injEq,
            reduceCtorEq] at stepped
      all_goals
        subst next
        by_cases same : id = other
        · subst other
          refine .starts rfl ?_ ?_ ?_
          · simp [writerOf, known, notStarted]
          · simp [writerOf_setConnection, writerOf_exitWriter]
          · simp [writerOf_setConnection, writerOf_exitWriter]
        · refine .stays ?_ (by simp [Ne.symm same]) (by simp)
          simp [writerOf_setConnection, writerOf_exitWriter, same]

/-- A turn of a writer leaves it running or ends it. -/
private theorem writerMoves_of_write
    {relay next : Relay}
    {other : Uuid}
    (stepped : relay.step? (.write other) = some next)
    (id : Uuid) :
    WriterMoves relay next (.write other) id := by
  obtain ⟨connection, known, running⟩ := running_of_write stepped
  simp only [step?, known, if_pos running] at stepped
  cases turn :
      writerTurn connection.internal
        (relay.mail.clip other) (relay.mail.file other) with
  | frame frame internal clips files =>
      simp only [turn] at stepped
      split at stepped
      · cases stepped
        exact writerMoves_of_exit known running
          (fun peer different => by
            simp [setChannels, setConnection, different])
          id (by simp) (by simp)
      · cases stepped
        refine writerMoves_of_same known (Function.update_self ..) (by rfl)
          ?_ id (by simp) (by simp)
        intro peer different
        simp [setChannels, setConnection, different]
  | exit =>
      simp only [turn, Option.some.injEq] at stepped
      subst next
      exact writerMoves_of_exit known running (fun _ _ => rfl)
        id (by simp) (by simp)
  | idle =>
      simp only [turn, Option.some.injEq] at stepped
      subst next
      exact .stays rfl (by simp) (by simp)

theorem writerMoves_of_step?
    {relay next : Relay}
    {action : RelayAction}
    (stepped : relay.step? action = some next)
    (id : Uuid) :
    WriterMoves relay next action id := by
  cases action with
  | process message =>
      exact writerMoves_of_process stepped id
  | welcome other =>
      exact writerMoves_of_welcome stepped id
  | reject other error =>
      simp only [step?] at stepped
      cases known : relay.connections other with
      | none =>
          simp [known] at stepped
      | some connection =>
          cases running : connection.writer <;>
            cases sent : connection.internal.trySend (.error error) <;>
              simp only [known, running, sent, Option.some.injEq,
                reduceCtorEq] at stepped
          subst next
          exact writerMoves_of_same known (setConnection_same ..)
            running.symm
            (fun peer different => relay.setConnection_other _ different)
            id (by simp) (by simp)
  | write other =>
      exact writerMoves_of_write stepped id
  | writeFails other =>
      simp only [step?] at stepped
      cases known : relay.connections other with
      | none =>
          simp [known] at stepped
      | some connection =>
          simp only [known] at stepped
          split at stepped
          · rename_i running
            cases stepped
            exact writerMoves_of_exit known running (fun _ _ => rfl)
              id (by simp) (by simp)
          · cases stepped

/-- A writer that has ended does not receive any more. -/
def EndedDeaf (relay : Relay) : Prop :=
  ∀ id connection,
    relay.connections id = some connection →
      connection.writer = .exited →
        connection.internal.receiverAlive = false

private theorem EndedDeaf.update
    {relay next : Relay}
    (deaf : relay.EndedDeaf)
    (other : Uuid)
    {changed : Connection}
    (lookup : next.connections other = some changed)
    (own :
      changed.writer = .exited → changed.internal.receiverAlive = false)
    (others :
      ∀ peer, peer ≠ other →
        next.connections peer = relay.connections peer) :
    next.EndedDeaf := by
  intro id connection known exited
  by_cases same : id = other
  · subst other
    rw [lookup, Option.some.injEq] at known
    subst connection
    exact own exited
  · rw [others id same] at known
    exact deaf id connection known exited

private theorem EndedDeaf.step
    {relay next : Relay}
    {action : RelayAction}
    (deaf : relay.EndedDeaf)
    (stepped : relay.step? action = some next) :
    next.EndedDeaf := by
  cases relayStep_of_step? stepped with
  | @register id fresh =>
      exact deaf.update id (Function.update_self ..) (by simp)
        (fun peer different => Function.update_of_ne different ..)
  | deregister => exact deaf
  | publish => exact deaf
  | publishFile => exact deaf
  | welcome known notStarted accepted =>
      exact deaf.update _ (setConnection_same ..) (by simp)
        (fun peer different => setConnection_other _ _ different)
  | reject known running sent =>
      exact deaf.update _ (setConnection_same ..) (by simp [running])
        (fun peer different => setConnection_other _ _ different)
  | write known running turn =>
      exact deaf.update _ (setConnection_same ..) (by simp [running])
        (fun peer different => by
          simp [setChannels, setConnection, different])
  | idle => exact deaf
  | exit hub others known ack sent notHub =>
      exact deaf.update _ (setConnection_same ..) (fun _ => rfl)
        (fun peer different => by
          simp [exitWriter, setChannels, setConnection, different,
            (others peer different).1])

theorem endedDeaf_of_run
    {maxClients : Nat}
    {stats : Option UInt64}
    {actions : List RelayAction}
    {relay : Relay}
    (ran : run? step? (start maxClients stats) actions = some relay) :
    relay.EndedDeaf :=
  run?_invariant
    (motive := EndedDeaf)
    (fun _ _ known => by cases known)
    (fun deaf stepped => deaf.step stepped)
    ran

end Relay

/-! ## Connections and their registrations -/

/-- The client that a message registers. -/
def HubMessage.registers? : HubMessage → Option Uuid
  | .register id _ _ => some id
  | .deregister _ | .publish _ _ | .publishFile _ _ => none

/-- A registration names the channels that were made for its connection. -/
def HubMessage.OwnRegister (message : HubMessage) : Prop :=
  ∀ id,
    message.registers? = some id → message = .register id id id

namespace Server

/-- The clients whose registration waits in the inbox. -/
def toRegister (server : Server) : List Uuid :=
  server.inbox.buffer.filterMap HubMessage.registers?

/-- A connection asks for its registration once, and is made by it. -/
structure Attendance (server : Server) : Prop where
  inbox :
    server.inbox.receiverAlive = true ∧
      server.inbox.capacity = hubInboxBuf
  own :
    ∀ message ∈ server.inbox.buffer, message.OwnRegister
  once :
    server.toRegister.Nodup
  queued :
    ∀ id ∈ server.toRegister,
      server.relay.writerOf id = none ∧
        ∃ socket,
          server.sockets id = some socket ∧ socket.phase = .awaitingAck
  awaited :
    ∀ {id socket},
      server.sockets id = some socket →
        socket.phase = .awaitingAck →
          id ∈ server.toRegister ∨
            server.relay.writerOf id = some .notStarted
  early :
    ∀ {id},
      (∀ socket,
        server.sockets id = some socket →
          socket.phase = .upgrading ∨ socket.phase = .registering) →
        server.relay.writerOf id = none
  started :
    ∀ {id socket},
      server.sockets id = some socket →
        socket.reader ≠ .notStarted →
          server.relay.writerOf id ≠ some .notStarted

namespace Attendance

variable {server : Server}

theorem start (config : ServerConfig) : (Server.start config).Attendance where
  inbox := ⟨rfl, rfl⟩
  own := by
    intro message member
    cases member
  once := List.nodup_nil
  queued := by
    intro id member
    cases member
  awaited := by
    intro id socket known
    cases known
  early := by
    intro id _
    rfl
  started := by
    intro id socket known
    cases known

/-- A connection whose registration does not wait is not in the inbox. -/
private theorem not_queued
    (attendance : server.Attendance)
    {id : Uuid}
    {socket : Socket}
    (known : server.sockets id = some socket)
    (phase : socket.phase ≠ .awaitingAck) :
    id ∉ server.toRegister := by
  intro member
  obtain ⟨-, found, lookup, awaiting⟩ := attendance.queued id member
  rw [known, Option.some.injEq] at lookup
  subst found
  exact phase awaiting

/-- One connection changes, and its phase suits its writer. -/
private theorem setSocket
    {id : Uuid}
    {socket : Socket}
    (attendance : server.Attendance)
    (queued : id ∈ server.toRegister → socket.phase = .awaitingAck)
    (awaited :
      socket.phase = .awaitingAck →
        id ∈ server.toRegister ∨
          server.relay.writerOf id = some .notStarted)
    (early :
      socket.phase = .upgrading ∨ socket.phase = .registering →
        server.relay.writerOf id = none)
    (started :
      socket.reader ≠ .notStarted →
        server.relay.writerOf id ≠ some .notStarted) :
    (server.setSocket id socket).Attendance where
  inbox := attendance.inbox
  own := attendance.own
  once := attendance.once
  queued := by
    intro other member
    obtain ⟨absent, found, lookup, awaiting⟩ :=
      attendance.queued other member
    refine ⟨absent, ?_⟩
    by_cases same : other = id
    · subst other
      exact ⟨socket, sockets_setSocket_self .., queued member⟩
    · rw [sockets_setSocket_of_ne server socket same]
      exact ⟨found, lookup, awaiting⟩
  awaited := forall_sockets_setSocket awaited attendance.awaited
  early := by
    intro other before
    by_cases same : other = id
    · subst other
      exact early (before socket (sockets_setSocket_self ..))
    · rw [sockets_setSocket_of_ne server socket same] at before
      exact attendance.early before
  started := forall_sockets_setSocket started attendance.started

/-- A connection changes but for its phase. -/
private theorem keepPhase
    {id : Uuid}
    {before socket : Socket}
    (attendance : server.Attendance)
    (known : server.sockets id = some before)
    (phase : socket.phase = before.phase)
    (started :
      socket.reader ≠ .notStarted →
        server.relay.writerOf id ≠ some .notStarted) :
    (server.setSocket id socket).Attendance := by
  refine attendance.setSocket ?_ ?_ ?_ started
  · intro member
    obtain ⟨-, found, lookup, awaiting⟩ := attendance.queued id member
    rw [known, Option.some.injEq] at lookup
    rw [phase, lookup]
    exact awaiting
  · intro awaiting
    exact attendance.awaited known (phase ▸ awaiting)
  · intro early
    apply attendance.early
    intro found lookup
    rw [known, Option.some.injEq] at lookup
    exact lookup ▸ phase ▸ early

/-- A connection goes on from a phase in which nothing of it is awaited. -/
private theorem advance
    {id : Uuid}
    {before : Socket}
    {phase : SocketPhase}
    (attendance : server.Attendance)
    (known : server.sockets id = some before)
    (notAwaiting : before.phase ≠ .awaitingAck)
    (later :
      phase = .deregistering ∨ phase = .returning ∨ phase = .closed) :
    (server.setSocket id { before with phase := phase }).Attendance := by
  refine attendance.setSocket
    (fun member => (attendance.not_queued known notAwaiting member).elim)
    ?_ ?_ (fun reads => attendance.started known reads)
  · intro awaiting
    rcases later with rfl | rfl | rfl <;> cases awaiting
  · intro early
    rcases later with rfl | rfl | rfl <;> simp at early

/-- The permits do not matter. -/
private theorem permits
    (attendance : server.Attendance)
    (permits : Nat) :
    Attendance { server with permits := permits } where
  inbox := attendance.inbox
  own := attendance.own
  once := attendance.once
  queued := attendance.queued
  awaited := attendance.awaited
  early := attendance.early
  started := attendance.started

/-- A message that registers nobody goes into the inbox. -/
private theorem push
    {message : HubMessage}
    (attendance : server.Attendance)
    (quiet : message.registers? = none)
    (room : server.inbox.HasRoom) :
    Attendance { server with inbox := server.inbox.push message room } := by
  have same :
      toRegister { server with inbox := server.inbox.push message room } =
        server.toRegister := by
    simp [toRegister, List.filterMap_append, quiet]
  exact
    { inbox := attendance.inbox
      own := by
        intro other member
        rcases List.mem_append.mp member with before | isNew
        · exact attendance.own other before
        · rw [List.mem_singleton] at isNew
          subst other
          intro id registers
          rw [quiet] at registers
          cases registers
      once := same ▸ attendance.once
      queued := same ▸ attendance.queued
      awaited := by
        intro id socket known awaiting
        rw [same]
        exact attendance.awaited known awaiting
      early := attendance.early
      started := attendance.started }

/-- The registration of a connection goes into the inbox. -/
private theorem register
    {id : Uuid}
    {socket : Socket}
    (attendance : server.Attendance)
    (known : server.sockets id = some socket)
    (phase : socket.phase = .registering)
    (room : server.inbox.HasRoom) :
    (({ server with
        inbox :=
          server.inbox.push (.register id id id) room } : Server).setSocket
      id { socket with phase := .awaitingAck }).Attendance := by
  have absent : server.relay.writerOf id = none := by
    apply attendance.early
    intro found lookup
    rw [known, Option.some.injEq] at lookup
    exact .inr (lookup ▸ phase)
  have notQueued : id ∉ server.toRegister :=
    attendance.not_queued known (by simp [phase])
  have longer :
      (({ server with
          inbox :=
            server.inbox.push (.register id id id) room } : Server).setSocket
        id { socket with phase := .awaitingAck }).toRegister =
        server.toRegister ++ [id] := by
    simp [toRegister, List.filterMap_append, HubMessage.registers?]
  exact
    { inbox := attendance.inbox
      own := by
        intro other member
        rcases List.mem_append.mp member with before | isNew
        · exact attendance.own other before
        · rw [List.mem_singleton] at isNew
          subst other
          intro registered registers
          cases registers
          rfl
      once := by
        rw [longer]
        exact List.nodup_append.mpr
          ⟨attendance.once, List.nodup_singleton id, by
            intro other member last isLast same
            rw [List.mem_singleton] at isLast
            subst last other
            exact notQueued member⟩
      queued := by
        intro other member
        rw [longer, List.mem_append, List.mem_singleton] at member
        by_cases same : other = id
        · subst other
          exact ⟨absent, _, sockets_setSocket_self .., rfl⟩
        · rw [sockets_setSocket_of_ne _ _ same]
          exact attendance.queued other (member.resolve_right same)
      awaited := by
        intro other after lookup awaiting
        rw [longer, List.mem_append, List.mem_singleton]
        by_cases same : other = id
        · exact .inl (.inr same)
        · rw [sockets_setSocket_of_ne _ _ same] at lookup
          exact (attendance.awaited lookup awaiting).imp_left .inl
      early := by
        intro other before
        by_cases same : other = id
        · subst other
          exact absent
        · rw [sockets_setSocket_of_ne _ _ same] at before
          exact attendance.early before
      started := by
        intro other after lookup reads
        by_cases same : other = id
        · subst other
          rw [sockets_setSocket_self, Option.some.injEq] at lookup
          subst after
          exact attendance.started known reads
        · rw [sockets_setSocket_of_ne _ _ same] at lookup
          exact attendance.started lookup reads }

/-- A step of the relay in which the hub does nothing starts no writer. -/
private theorem relay
    {action : RelayAction}
    {next : Relay}
    (attendance : server.Attendance)
    (stepped : server.relay.step? action = some next)
    (quiet : action.processed? = none)
    (notWelcome : ∀ id, action ≠ .welcome id) :
    Attendance { server with relay := next } := by
  have moves (id : Uuid) :
      next.writerOf id = server.relay.writerOf id ∨
        server.relay.writerOf id = some .running ∧
          next.writerOf id = some .exited := by
    cases Relay.writerMoves_of_step? stepped id with
    | stays same notWelcome notMade => exact .inl same
    | made registers absent waits =>
        subst action
        cases quiet
    | starts welcomes waited started known =>
        exact (notWelcome id welcomes).elim
    | ends ran exited => exact .inr ⟨ran, exited⟩
  exact
    { inbox := attendance.inbox
      own := attendance.own
      once := attendance.once
      queued := by
        intro id member
        obtain ⟨absent, known⟩ := attendance.queued id member
        refine ⟨?_, known⟩
        rcases moves id with same | ⟨ran, -⟩
        · exact same.trans absent
        · rw [absent] at ran
          cases ran
      awaited := by
        intro id socket known awaiting
        refine (attendance.awaited known awaiting).imp_right ?_
        intro waits
        rcases moves id with same | ⟨ran, -⟩
        · exact same.trans waits
        · rw [waits] at ran
          cases ran
      early := by
        intro id before
        have absent := attendance.early before
        rcases moves id with same | ⟨ran, -⟩
        · exact same.trans absent
        · rw [absent] at ran
          cases ran
      started := by
        intro id socket known reads
        rcases moves id with same | ⟨-, exited⟩
        · exact same ▸ attendance.started known reads
        · simp [exited] }

/-- The hub handles the first message of the inbox. -/
private theorem process
    {message : HubMessage}
    {next : Relay}
    (attendance : server.Attendance)
    (waiting : server.ReadersWait)
    (first : server.inbox.buffer = message :: server.inbox.buffer.tail)
    (stepped : server.relay.step? (.process message) = some next) :
    Attendance
      { server with relay := next, inbox := server.inbox.dropHead } := by
  have split :
      server.toRegister =
        message.registers?.toList ++
          server.inbox.buffer.tail.filterMap HubMessage.registers? := by
    rw [toRegister, first]
    cases registers : message.registers? <;> simp [registers]
  have head
      {id : Uuid}
      (made : RelayAction.process message = .process (.register id id id)) :
      id ∈ server.toRegister ∧
        id ∉ server.inbox.buffer.tail.filterMap HubMessage.registers? := by
    cases made
    have once := attendance.once
    rw [split] at once
    refine ⟨by simp [split, HubMessage.registers?], ?_⟩
    exact (List.nodup_cons.mp once).1
  have moves (id : Uuid) := Relay.writerMoves_of_step? stepped id
  exact
    { inbox := attendance.inbox
      own := by
        intro other member
        exact attendance.own other (List.mem_of_mem_tail member)
      once := by
        have once := attendance.once
        rw [split] at once
        exact (List.nodup_append.mp once).2.1
      queued := by
        intro id member
        have before : id ∈ server.toRegister := by
          rw [split]
          exact List.mem_append_right _ member
        obtain ⟨absent, known⟩ := attendance.queued id before
        refine ⟨?_, known⟩
        cases moves id with
        | stays same notWelcome notMade => exact same.trans absent
        | made registers _ waits => exact ((head registers).2 member).elim
        | starts welcomes waited started known => cases welcomes
        | ends ran exited =>
            rw [absent] at ran
            cases ran
      awaited := by
        intro id socket known awaiting
        cases moves id with
        | stays same notWelcome notMade =>
            rcases attendance.awaited known awaiting with member | waits
            · rw [split, List.mem_append, Option.mem_toList] at member
              refine .inl (member.resolve_left fun registers => notMade ?_)
              have own := attendance.own message
                (by rw [first]; exact List.mem_cons_self)
              rw [own id registers]
            · exact .inr (same.trans waits)
        | made registers absent waits => exact .inr waits
        | starts welcomes waited started known => cases welcomes
        | ends ran exited =>
            rcases attendance.awaited known awaiting with member | waits
            · rw [(attendance.queued id member).1] at ran
              cases ran
            · rw [waits] at ran
              cases ran
      early := by
        intro id before
        have absent := attendance.early before
        cases moves id with
        | stays same notWelcome notMade => exact same.trans absent
        | made registers _ waits =>
            obtain ⟨-, socket, known, awaiting⟩ :=
              attendance.queued id (head registers).1
            have isEarly := before socket known
            simp [awaiting] at isEarly
        | starts welcomes waited started known => cases welcomes
        | ends ran exited =>
            rw [absent] at ran
            cases ran
      started := by
        intro id socket known reads
        cases moves id with
        | stays same notWelcome notMade =>
            exact same ▸ attendance.started known reads
        | made registers _ waits =>
            obtain ⟨-, found, lookup, awaiting⟩ :=
              attendance.queued id (head registers).1
            rw [known, Option.some.injEq] at lookup
            subst found
            exact (reads (waiting known (.inr (.inr awaiting)))).elim
        | starts welcomes waited started known => cases welcomes
        | ends ran exited => simp [exited] }

/-- `handle_socket` has its acknowledgement. -/
private theorem welcome
    {id : Uuid}
    {socket : Socket}
    {connection : Connection}
    {next : Relay}
    (attendance : server.Attendance)
    (found : server.relay.connections id = some connection)
    (stepped : server.relay.step? (.welcome id) = some next)
    (later : socket.phase = .serving ∨ socket.phase = .returning) :
    (({ server with relay := next } : Server).setSocket
      id socket).Attendance := by
  have moves (other : Uuid) := Relay.writerMoves_of_step? stepped other
  have others {other : Uuid} (different : other ≠ id) :
      next.writerOf other = server.relay.writerOf other ∨
        server.relay.writerOf other = some .running ∧
          next.writerOf other = some .exited := by
    cases moves other with
    | stays same notWelcome notMade => exact .inl same
    | made registers absent waits => cases registers
    | starts welcomes waited started known =>
        cases welcomes
        exact (different rfl).elim
    | ends ran exited => exact .inr ⟨ran, exited⟩
  have own : next.writerOf id ≠ some .notStarted := by
    cases moves id with
    | stays same notWelcome notMade => exact (notWelcome rfl).elim
    | made registers absent waits => cases registers
    | starts welcomes waited started known => exact started
    | ends ran exited => simp [exited]
  have notQueued : id ∉ server.toRegister := by
    intro member
    have absent := (attendance.queued id member).1
    simp [Relay.writerOf, found] at absent
  exact
    { inbox := attendance.inbox
      own := attendance.own
      once := attendance.once
      queued := by
        intro other member
        have different : other ≠ id := by
          intro same
          exact notQueued (same ▸ member)
        obtain ⟨absent, known⟩ := attendance.queued other member
        rw [sockets_setSocket_of_ne _ _ different]
        refine ⟨?_, known⟩
        rcases others different with same | ⟨ran, -⟩
        · exact same.trans absent
        · rw [absent] at ran
          cases ran
      awaited := by
        intro other after known awaiting
        by_cases same : other = id
        · subst other
          rw [sockets_setSocket_self, Option.some.injEq] at known
          subst after
          rcases later with phase | phase <;> rw [phase] at awaiting <;>
            cases awaiting
        · rw [sockets_setSocket_of_ne _ _ same] at known
          refine (attendance.awaited known awaiting).imp_right ?_
          intro waits
          rcases others same with stays | ⟨ran, -⟩
          · exact stays.trans waits
          · rw [waits] at ran
            cases ran
      early := by
        intro other before
        by_cases same : other = id
        · subst other
          have isEarly := before socket (sockets_setSocket_self ..)
          rcases later with phase | phase <;> simp [phase] at isEarly
        · rw [sockets_setSocket_of_ne _ _ same] at before
          have absent := attendance.early before
          rcases others same with stays | ⟨ran, -⟩
          · exact stays.trans absent
          · rw [absent] at ran
            cases ran
      started := by
        intro other after known reads
        by_cases same : other = id
        · subst other
          exact own
        · rw [sockets_setSocket_of_ne _ _ same] at known
          rcases others same with stays | ⟨-, exited⟩
          · exact stays ▸ attendance.started known reads
          · simp [exited] }

theorem step
    {next : Server}
    {action : ServerAction}
    (attendance : server.Attendance)
    (readers : server.ReadersPublish)
    (waiting : server.ReadersWait)
    (stepped : server.step? fromStr config action = some next) :
    next.Attendance := by
  cases serverStep_of_step? stepped with
  | refused unknown full => exact attendance
  | @connected id permits unknown free =>
      have absent : server.relay.writerOf id = none :=
        attendance.early (by simp [unknown])
      refine (attendance.permits permits).setSocket ?_ (by simp)
        (fun _ => absent) (by simp)
      intro member
      obtain ⟨-, socket, known, -⟩ := attendance.queued id member
      rw [unknown] at known
      cases known
  | @upgraded id socket known phase =>
      have absent : server.relay.writerOf id = none := by
        apply attendance.early
        intro found lookup
        rw [known, Option.some.injEq] at lookup
        exact .inl (lookup ▸ phase)
      refine attendance.setSocket ?_ (by simp) (fun _ => absent)
        (fun reads => attendance.started known reads)
      intro member
      exact (attendance.not_queued known (by simp [phase]) member).elim
  | abandoned known phase =>
      exact (attendance.permits _).advance known (by simp [phase])
        (.inr (.inr rfl))
  | registered known phase room =>
      exact attendance.register known phase room
  | processed first relayed =>
      exact attendance.process waiting first relayed
  | welcomed known phase found ack relayed =>
      exact attendance.welcome found relayed (.inl rfl)
  | turnedAway known phase found ack relayed =>
      exact attendance.welcome found relayed (.inr rfl)
  | received known reading =>
      exact attendance.keepPhase known rfl
        (fun _ => attendance.started known (by simp [reading]))
  | @published id socket message known publishing room =>
      have quiet : message.registers? = none := by
        have sender := readers known message publishing
        cases message <;> simp_all [HubMessage.sender?,
          HubMessage.registers?]
      exact (attendance.push quiet room).keepPhase known rfl
        (fun _ => attendance.started known (by simp [publishing]))
  | rejected known rejecting relayed =>
      have moved := attendance.relay relayed rfl (by simp)
      exact moved.keepPhase known rfl
        (fun _ => moved.started known (by simp [rejecting]))
  | rejectedLate known rejecting gone =>
      exact attendance.keepPhase known rfl
        (fun _ => attendance.started known (by simp [rejecting]))
  | drained known closed relayed =>
      exact attendance.relay relayed rfl (by simp)
  | wrote known live relayed =>
      have moved := attendance.relay relayed rfl (by simp)
      exact moved.keepPhase known rfl
        (fun reads => moved.started known reads)
  | writeFailed relayed =>
      exact attendance.relay relayed rfl (by simp)
  | finished known phase ended =>
      exact attendance.advance known (by simp [phase]) (.inl rfl)
  | deregistered known phase room =>
      exact (attendance.push rfl room).advance known (by simp [phase])
        (.inr (.inl rfl))
  | released known phase =>
      exact (attendance.permits _).advance known (by simp [phase])
        (.inr (.inr rfl))

end Attendance

theorem attendance_of_run
    {actions : List ServerAction}
    {server : Server}
    (ran : run? (step? fromStr config) (start config) actions = some server) :
    server.Attendance :=
  run?_history
    (motive := fun _ state => state.Attendance)
    (Attendance.start config)
    (fun _ earlier attendance stepped =>
      attendance.step (readersPublish_of_run earlier)
        (readersWait_of_run earlier) stepped)
    ran

end Server

/-! ## The remaining work -/

/-- The sockets deliver nothing and accept nothing, and nobody connects. -/
def ServerAction.HungUp : ServerAction → Prop
  | .connect _ | .write _ | .receive _ (.message _) => False
  | .upgrade _ _ | .register _ | .process _ | .welcome _
  | .receive _ .failed | .receive _ .ended | .receive _ .timedOut
  | .publish _ | .reject _ | .writeFails _ | .finish _
  | .deregister _ | .release _ => True

instance : DecidablePred ServerAction.HungUp
  | .connect _ | .write _ | .receive _ (.message _) => isFalse id
  | .upgrade _ _ | .register _ | .process _ | .welcome _
  | .receive _ .failed | .receive _ .ended | .receive _ .timedOut
  | .publish _ | .reject _ | .writeFails _ | .finish _
  | .deregister _ | .release _ => isTrue trivial

/-- The phases that a connection still has before it. -/
def SocketPhase.stepsLeft : SocketPhase → Nat
  | .upgrading => 6
  | .registering => 5
  | .awaitingAck => 4
  | .serving => 3
  | .deregistering => 2
  | .returning => 1
  | .closed => 0

/-- The turns of a reader that gets nothing more from its socket. -/
def ReaderTask.stepsLeft : ReaderTask → Nat
  -- the message is sent to the inbox, and handled there
  | .publishing _ => 4
  | .reading => 2
  | .rejecting _ => 1
  | .notStarted | .ended => 0

/-- The steps that are left for a connection. -/
def Socket.stepsLeft (socket : Socket) : Nat :=
  4 * socket.phase.stepsLeft + socket.reader.stepsLeft

namespace Server

/-- The steps that are left for the writer of a connection. -/
def writerLoad (server : Server) (id : Uuid) : Nat :=
  if server.WriterRunning id then
    1
  else
    0

/-- The steps that are left for the tasks of a connection. -/
def load (server : Server) (id : Uuid) : Nat :=
  (server.sockets id).elim 0 Socket.stepsLeft + server.writerLoad id

/-- The steps that are left for the whole server. -/
def work (ids : Finset Uuid) (server : Server) : Nat :=
  server.inbox.buffer.length + ∑ id ∈ ids, server.load id

/-- One connection has less to do than before, and the others not more. -/
private theorem work_lt
    {ids : Finset Uuid}
    {server next : Server}
    {id : Uuid}
    (member : id ∈ ids)
    (others : ∀ other, other ≠ id → next.load other ≤ server.load other)
    (less :
      next.inbox.buffer.length + next.load id <
        server.inbox.buffer.length + server.load id) :
    next.work ids < server.work ids := by
  have rest :
      ∑ other ∈ ids.erase id, next.load other ≤
        ∑ other ∈ ids.erase id, server.load other :=
    Finset.sum_le_sum fun other inRest =>
      others other (Finset.ne_of_mem_erase inRest)
  have before := Finset.add_sum_erase ids server.load member
  have after := Finset.add_sum_erase ids next.load member
  simp only [work]
  omega

/-- A step of the relay that welcomes nobody starts no writer. -/
private theorem writerLoad_le
    {server next : Server}
    {action : RelayAction}
    (stepped : server.relay.step? action = some next.relay)
    {id : Uuid}
    (notWelcome : action ≠ .welcome id) :
    next.writerLoad id ≤ server.writerLoad id := by
  have later (running : next.WriterRunning id) : server.WriterRunning id :=
    (Relay.running_of_step stepped running).resolve_right notWelcome
  simp only [writerLoad]
  split
  · rename_i running
    rw [if_pos (later running)]
  · exact Nat.zero_le _

/-- A writer has at most one step left. -/
private theorem writerLoad_le_one (server : Server) (id : Uuid) :
    server.writerLoad id ≤ 1 := by
  simp only [writerLoad]
  split <;> omega

/-- A connection that is replaced has less to do than before. -/
private theorem work_setSocket_lt
    {ids : Finset Uuid}
    {server base : Server}
    {id : Uuid}
    {before socket : Socket}
    (member : id ∈ ids)
    (known : server.sockets id = some before)
    (sockets : base.sockets = server.sockets)
    (others :
      ∀ other,
        other ≠ id → base.writerLoad other ≤ server.writerLoad other)
    (less :
      base.inbox.buffer.length + (socket.stepsLeft + base.writerLoad id) <
        server.inbox.buffer.length +
          (before.stepsLeft + server.writerLoad id)) :
    (base.setSocket id socket).work ids < server.work ids := by
  have writer (other : Uuid) :
      (base.setSocket id socket).writerLoad other = base.writerLoad other :=
    rfl
  refine work_lt member ?_ ?_
  · intro other different
    simp only [load, sockets_setSocket_of_ne base socket different, sockets,
      writer]
    exact Nat.add_le_add_left (others other different) _
  · simpa only [load, inbox_setSocket, sockets_setSocket_self, known,
      Option.elim_some, writer] using less

/-- A connection that is replaced has less to do, and no writer moves. -/
private theorem work_setSocket_lt_of_relay
    {ids : Finset Uuid}
    {server base : Server}
    {id : Uuid}
    {before socket : Socket}
    (member : id ∈ ids)
    (known : server.sockets id = some before)
    (sockets : base.sockets = server.sockets)
    (relay : base.relay = server.relay)
    (less :
      base.inbox.buffer.length + socket.stepsLeft <
        server.inbox.buffer.length + before.stepsLeft) :
    (base.setSocket id socket).work ids < server.work ids := by
  have same (other : Uuid) :
      base.writerLoad other = server.writerLoad other := by
    have running : base.WriterRunning other ↔ server.WriterRunning other := by
      simp [WriterRunning, relay]
    simp only [writerLoad, running]
  refine work_setSocket_lt member known sockets
    (fun other _ => (same other).le) ?_
  rw [same]
  omega

/-- Every connection that the server knows is one of these. -/
def Supported (ids : Finset Uuid) (server : Server) : Prop :=
  ∀ id, (server.sockets id).isSome → id ∈ ids

theorem known_of_step?
    {server next : Server}
    {action : ServerAction}
    (stepped : server.step? fromStr config action = some next)
    {id : Uuid}
    (known : (next.sockets id).isSome) :
    (server.sockets id).isSome ∨ action = .connect id := by
  have replaced
      {base : Server}
      {other : Uuid}
      {before socket : Socket}
      (lookup : server.sockets other = some before)
      (same : base.sockets = server.sockets)
      (after : ((base.setSocket other socket).sockets id).isSome) :
      (server.sockets id).isSome := by
    by_cases isOther : id = other
    · subst other
      simp [lookup]
    · rwa [sockets_setSocket_of_ne base socket isOther, same] at after
  cases serverStep_of_step? stepped with
  | refused unknown full => exact .inl known
  | @connected other permits unknown free =>
      by_cases same : id = other
      · subst other
        exact .inr rfl
      · rw [sockets_setSocket_of_ne _ _ same] at known
        exact .inl known
  | upgraded lookup phase => exact .inl (replaced lookup rfl known)
  | abandoned lookup phase => exact .inl (replaced lookup rfl known)
  | registered lookup phase room => exact .inl (replaced lookup rfl known)
  | processed first relayed => exact .inl known
  | welcomed lookup phase found ack relayed =>
      exact .inl (replaced lookup rfl known)
  | turnedAway lookup phase found ack relayed =>
      exact .inl (replaced lookup rfl known)
  | received lookup reading => exact .inl (replaced lookup rfl known)
  | published lookup publishing room =>
      exact .inl (replaced lookup rfl known)
  | rejected lookup rejecting relayed =>
      exact .inl (replaced lookup rfl known)
  | rejectedLate lookup rejecting gone =>
      exact .inl (replaced lookup rfl known)
  | drained lookup closed relayed => exact .inl known
  | wrote lookup live relayed => exact .inl (replaced lookup rfl known)
  | writeFailed relayed => exact .inl known
  | finished lookup phase ended => exact .inl (replaced lookup rfl known)
  | deregistered lookup phase room =>
      exact .inl (replaced lookup rfl known)
  | released lookup phase => exact .inl (replaced lookup rfl known)

theorem supported_of_run
    {actions : List ServerAction}
    {server : Server}
    (ran : run? (step? fromStr config) (start config) actions = some server) :
    ∃ ids, server.Supported ids := by
  refine run?_invariant
    (motive := fun state => ∃ ids, state.Supported ids)
    ⟨∅, fun id known => by cases known⟩ ?_ ran
  rintro state action next ⟨ids, supported⟩ stepped
  cases action with
  | connect id =>
      refine ⟨insert id ids, fun other known => ?_⟩
      rcases known_of_step? stepped known with before | connects
      · exact Finset.mem_insert_of_mem (supported other before)
      · cases connects
        exact Finset.mem_insert_self id ids
  | _ =>
      refine ⟨ids, fun other known => supported other ?_⟩
      exact (known_of_step? stepped known).resolve_right (by simp)

/-- A writer whose write fails was running. -/
private theorem writerRunning_of_writeFails
    {server : Server}
    {id : Uuid}
    {next : Relay}
    (stepped : server.relay.step? (.writeFails id) = some next) :
    server.WriterRunning id ∧
      next.writerOf id = some .exited := by
  simp only [Relay.step?] at stepped
  cases known : server.relay.connections id with
  | none =>
      simp [known] at stepped
  | some connection =>
      simp only [known] at stepped
      split at stepped
      · rename_i running
        cases stepped
        refine ⟨by simp [WriterRunning, known, running], ?_⟩
        simp [Relay.writerOf_exitWriter]
      · cases stepped

private theorem Attendance.known_of_writer
    {server : Server}
    (attendance : server.Attendance)
    {id : Uuid}
    (running : server.WriterRunning id) :
    (server.sockets id).isSome := by
  by_contra unknown
  have absent : server.relay.writerOf id = none := by
    apply attendance.early
    intro socket known
    simp [known] at unknown
  rw [WriterRunning] at running
  rw [Relay.writerOf, running] at absent
  cases absent

/-- Once the sockets are dead, every step leaves less to do. -/
theorem work_lt_of_step?
    {ids : Finset Uuid}
    {server next : Server}
    {action : ServerAction}
    (supported : server.Supported ids)
    (attendance : server.Attendance)
    (hungUp : action.HungUp)
    (stepped : server.step? fromStr config action = some next) :
    next.work ids < server.work ids := by
  have inIds
      {id : Uuid}
      {socket : Socket}
      (known : server.sockets id = some socket) :
      id ∈ ids :=
    supported id (by simp [known])
  cases serverStep_of_step? stepped with
  | refused unknown full => exact hungUp.elim
  | connected unknown free => exact hungUp.elim
  | upgraded known phase =>
      refine work_setSocket_lt_of_relay (inIds known) known rfl rfl ?_
      simp [Socket.stepsLeft, SocketPhase.stepsLeft, phase]
  | abandoned known phase =>
      refine work_setSocket_lt_of_relay (inIds known) known rfl rfl ?_
      simp [Socket.stepsLeft, SocketPhase.stepsLeft, phase]
  | registered known phase room =>
      refine work_setSocket_lt_of_relay (inIds known) known rfl rfl ?_
      simp only [Socket.stepsLeft, SocketPhase.stepsLeft, phase,
        Channel.buffer_push, List.length_append, List.length_singleton]
      omega
  | @processed message relay first relayed =>
      have loads :
          ∑ id ∈ ids,
              load
                { server with
                  relay := relay
                  inbox := server.inbox.dropHead } id ≤
            ∑ id ∈ ids, server.load id :=
        Finset.sum_le_sum fun id _ =>
          Nat.add_le_add_left (writerLoad_le relayed (by simp)) _
      have shorter := congrArg List.length first
      simp only [List.length_cons] at shorter
      simp only [work, Channel.buffer_dropHead]
      omega
  | @welcomed id socket connection lastClip relay known phase found ack
      relayed =>
      refine work_setSocket_lt (inIds known) known rfl
        (fun other different => writerLoad_le relayed ?_) ?_
      · simp [Ne.symm different]
      · have atMost := writerLoad_le_one { server with relay := relay } id
        simp only [Socket.stepsLeft, SocketPhase.stepsLeft,
          ReaderTask.stepsLeft, phase]
        omega
  | @turnedAway id socket connection relay known phase found ack relayed =>
      refine work_setSocket_lt (inIds known) known rfl
        (fun other different => writerLoad_le relayed ?_) ?_
      · simp [Ne.symm different]
      · have atMost := writerLoad_le_one { server with relay := relay } id
        simp only [Socket.stepsLeft, SocketPhase.stepsLeft, phase]
        omega
  | @received id socket event known reading =>
      refine work_setSocket_lt_of_relay (inIds known) known rfl rfl ?_
      cases event with
      | message message => exact hungUp.elim
      | _ =>
          simp [Socket.stepsLeft, ReaderTask.stepsLeft, readerTurn, reading]
  | published known publishing room =>
      refine work_setSocket_lt_of_relay (inIds known) known rfl rfl ?_
      simp only [Socket.stepsLeft, ReaderTask.stepsLeft, publishing,
        Channel.buffer_push, List.length_append, List.length_singleton]
      omega
  | @rejected id socket error relay known rejecting relayed =>
      refine work_setSocket_lt (inIds known) known rfl
        (fun other _ => writerLoad_le relayed (by simp)) ?_
      have atMost :
          writerLoad { server with relay := relay } id ≤
            server.writerLoad id :=
        writerLoad_le relayed (by simp)
      simp only [Socket.stepsLeft, ReaderTask.stepsLeft, rejecting]
      omega
  | rejectedLate known rejecting gone =>
      refine work_setSocket_lt_of_relay (inIds known) known rfl rfl ?_
      simp [Socket.stepsLeft, ReaderTask.stepsLeft, rejecting]
  | drained known closed relayed => exact hungUp.elim
  | wrote known live relayed => exact hungUp.elim
  | @writeFailed id relay relayed =>
      obtain ⟨running, exited⟩ := writerRunning_of_writeFails relayed
      have ended : ¬ WriterRunning { server with relay := relay } id := by
        simp only [Relay.writerOf] at exited
        simp [WriterRunning, exited]
      refine work_lt (supported id (attendance.known_of_writer running))
        (fun other _ =>
          Nat.add_le_add_left (writerLoad_le relayed (by simp)) _) ?_
      simp only [load, writerLoad, if_pos running, if_neg ended]
      omega
  | finished known phase ended =>
      refine work_setSocket_lt_of_relay (inIds known) known rfl rfl ?_
      simp [Socket.stepsLeft, SocketPhase.stepsLeft, phase]
  | deregistered known phase room =>
      refine work_setSocket_lt_of_relay (inIds known) known rfl rfl ?_
      simp only [Socket.stepsLeft, SocketPhase.stepsLeft, phase,
        Channel.buffer_push, List.length_append, List.length_singleton]
      omega
  | released known phase =>
      refine work_setSocket_lt_of_relay (inIds known) known rfl rfl ?_
      simp [Socket.stepsLeft, SocketPhase.stepsLeft, phase]

/-! ## A server without an enabled step -/

/-- No task can go on, and neither can the hub. -/
def Stuck
    (fromStr : String → Option Frame)
    (config : ServerConfig)
    (server : Server) : Prop :=
  ∀ action : ServerAction,
    restrict (step? fromStr config) ServerAction.HungUp server action = none

/-- Nothing is left to do, and everything has been given back. -/
structure AtRest (config : ServerConfig) (server : Server) : Prop where
  inbox : server.inbox.buffer = []
  unattended : ∀ id, ¬ server.Attended id
  permits : server.permits = config.maxConns.toNat

section Stuck

variable {server : Server}

private theorem Stuck.not_enabled
    (stuck : server.Stuck fromStr config)
    (action : ServerAction)
    (hungUp : action.HungUp) :
    server.step? fromStr config action = none := by
  have disabled := stuck action
  rwa [restrict, if_pos hungUp] at disabled

/-- A message can be sent to an inbox with room. -/
private theorem enqueue?_of_room
    (attendance : server.Attendance)
    (message : HubMessage)
    (room : server.inbox.HasRoom) :
    server.enqueue? message =
      some { server with inbox := server.inbox.push message room } := by
  have sent :
      server.inbox.pollSend message =
        .sent (server.inbox.push message room) :=
    Channel.pollSend_eq_sent.mpr ⟨room, attendance.inbox.1, rfl⟩
  rw [enqueue?, sent]

/-- The hub can always handle the first message of its inbox. -/
private theorem process_enabled
    (attendance : server.Attendance)
    {message : HubMessage}
    {rest : List HubMessage}
    (shape : server.inbox.buffer = message :: rest) :
    server.step? fromStr config (.process message) ≠ none := by
  have polled :
      server.inbox.pollRecv = .received message server.inbox.dropHead :=
    Channel.pollRecv_eq_received.mpr ⟨by simp [shape], rfl⟩
  simp only [step?, process?, polled, if_true, ne_eq,
    Option.map_eq_none_iff]
  cases message with
  | register id outbound fileOutbound =>
      have member : id ∈ server.toRegister := by
        simp [toRegister, shape, HubMessage.registers?]
      have absent := (attendance.queued id member).1
      have own := attendance.own _ (by rw [shape]; exact List.mem_cons_self)
      have names := own id rfl
      simp only [HubMessage.register.injEq, true_and] at names
      simp only [Relay.writerOf, Option.map_eq_none_iff] at absent
      simp [Relay.step?, absent, names]
  | deregister id => simp [Relay.step?]
  | publish sender clip => simp [Relay.step?]
  | publishFile sender chunk => simp [Relay.step?]

private theorem Stuck.inbox_eq_nil
    (stuck : server.Stuck fromStr config)
    (attendance : server.Attendance) :
    server.inbox.buffer = [] := by
  cases shape : server.inbox.buffer with
  | nil => rfl
  | cons message rest =>
      have disabled :=
        stuck.not_enabled (.process message) trivial
      exact (process_enabled attendance shape disabled).elim

private theorem Stuck.room
    (stuck : server.Stuck fromStr config)
    (attendance : server.Attendance) :
    server.inbox.HasRoom := by
  rw [Channel.HasRoom, stuck.inbox_eq_nil attendance, attendance.inbox.2]
  decide

private theorem Stuck.not_writerRunning
    (stuck : server.Stuck fromStr config)
    (id : Uuid) :
    ¬ server.WriterRunning id := by
  intro running
  have disabled := stuck.not_enabled (.writeFails id) trivial
  obtain ⟨connection, known, writer⟩ := Option.map_eq_some_iff.mp running
  simp [step?, Relay.step?, known, writer] at disabled

private theorem Stuck.closed
    (stuck : server.Stuck fromStr config)
    (attendance : server.Attendance)
    {id : Uuid}
    {socket : Socket}
    (known : server.sockets id = some socket) :
    socket.phase = .closed := by
  have room := stuck.room attendance
  cases phase : socket.phase with
  | upgrading =>
      have disabled :=
        stuck.not_enabled (.upgrade id false) trivial
      simp [step?, known, upgrade?, phase] at disabled
  | registering =>
      have disabled := stuck.not_enabled (.register id) trivial
      simp [step?, known, register?, phase,
        enqueue?_of_room attendance _ room] at disabled
  | awaitingAck =>
      have waits : server.relay.writerOf id = some .notStarted := by
        refine (attendance.awaited known phase).resolve_left ?_
        simp [toRegister, stuck.inbox_eq_nil attendance]
      obtain ⟨connection, found, writer⟩ := Option.map_eq_some_iff.mp waits
      have disabled := stuck.not_enabled (.welcome id) trivial
      cases ack : connection.ack <;>
        simp [step?, known, welcome?, phase, found, Relay.step?, writer,
          ack] at disabled
  | serving =>
      have disabled := stuck.not_enabled (.finish id) trivial
      simp [step?, known, finish?, phase,
        stuck.not_writerRunning id] at disabled
  | deregistering =>
      have disabled := stuck.not_enabled (.deregister id) trivial
      simp [step?, known, deregister?, phase,
        enqueue?_of_room attendance _ room] at disabled
  | returning =>
      have disabled := stuck.not_enabled (.release id) trivial
      simp [step?, known, release?, phase] at disabled
  | closed => rfl

private theorem Stuck.not_readerRunning
    (stuck : server.Stuck fromStr config)
    (attendance : server.Attendance)
    (deaf : server.relay.EndedDeaf)
    {id : Uuid}
    {socket : Socket}
    (known : server.sockets id = some socket) :
    ¬ socket.reader.Running := by
  intro running
  have room := stuck.room attendance
  cases reader : socket.reader with
  | notStarted =>
      rw [reader] at running
      exact running
  | reading =>
      have disabled :=
        stuck.not_enabled (.receive id .ended) trivial
      simp [step?, known, receive?, reader] at disabled
  | publishing message =>
      have disabled := stuck.not_enabled (.publish id) trivial
      simp [step?, known, publish?, reader,
        enqueue?_of_room attendance _ room] at disabled
  | rejecting error =>
      have gone : server.internalOpen id = false := by
        rw [internalOpen]
        cases found : server.relay.connections id with
        | none => rfl
        | some connection =>
            refine deaf id connection found ?_
            have started := attendance.started known (by simp [reader])
            have notRunning := stuck.not_writerRunning id
            simp only [Relay.writerOf, WriterRunning, found,
              Option.map_some, ne_eq, Option.some.injEq]
              at started notRunning
            cases writer : connection.writer with
            | notStarted => exact (started writer).elim
            | running => exact (notRunning writer).elim
            | exited => rfl
      have disabled := stuck.not_enabled (.reject id) trivial
      simp [step?, known, reject?, reader, gone] at disabled
  | ended =>
      rw [reader] at running
      exact running

/-- A server without an enabled step is at rest. -/
theorem Stuck.atRest
    (stuck : server.Stuck fromStr config)
    (attendance : server.Attendance)
    (admission : server.Admission config)
    (deaf : server.relay.EndedDeaf) :
    server.AtRest config := by
  have empty := stuck.inbox_eq_nil attendance
  have nobody (id : Uuid) : ¬ server.HoldsPermit id := by
    rintro ⟨socket, known, holds⟩
    exact holds (stuck.closed attendance known)
  refine ⟨empty, ?_, ?_⟩
  · rintro id ((holds | ⟨socket, known, reads⟩ | writes) | registered |
      ⟨outbound, fileOutbound, member⟩)
    · exact nobody id holds
    · exact stuck.not_readerRunning attendance deaf known reads
    · exact stuck.not_writerRunning id writes
    · have toCome : id ∈ server.clientsToCome := by
        rw [clientsToCome, empty]
        exact registered
      obtain ⟨socket, known, enrolled⟩ := admission.enrolled id toCome
      have closed := stuck.closed attendance known
      rw [closed] at enrolled
      rcases enrolled with phase | phase | phase <;> cases phase
    · rw [empty] at member
      cases member
  · obtain ⟨held, -, members, sum⟩ := admission.permits
    have none : held = [] :=
      List.eq_nil_iff_forall_not_mem.mpr
        fun id member => nobody id ((members id).mp member)
    subst held
    simpa using sum

/-- A server at rest has no step left. -/
theorem AtRest.stuck
    (rest : server.AtRest config) :
    server.Stuck fromStr config := by
  intro action
  rw [Option.eq_none_iff_forall_ne_some]
  intro next stepped
  obtain ⟨hungUp, stepped⟩ := restrict_eq_some.mp stepped
  have closed
      {id : Uuid}
      {socket : Socket}
      (known : server.sockets id = some socket) :
      socket.phase = .closed := by
    by_contra notClosed
    exact rest.unattended id (attended_of_phase known notClosed)
  have idle
      {id : Uuid}
      {socket : Socket}
      (known : server.sockets id = some socket) :
      ¬ socket.reader.Running :=
    fun running => rest.unattended id (attended_of_reader known running)
  cases serverStep_of_step? stepped with
  | refused unknown full => exact hungUp
  | connected unknown free => exact hungUp
  | upgraded known phase => simp [closed known] at phase
  | abandoned known phase => simp [closed known] at phase
  | registered known phase room => simp [closed known] at phase
  | processed first relayed => simp [rest.inbox] at first
  | welcomed known phase found ack relayed => simp [closed known] at phase
  | turnedAway known phase found ack relayed => simp [closed known] at phase
  | received known reading => exact idle known (by rw [reading]; trivial)
  | published known publishing room =>
      exact idle known (by rw [publishing]; trivial)
  | rejected known rejecting relayed =>
      exact idle known (by rw [rejecting]; trivial)
  | rejectedLate known rejecting gone =>
      exact idle known (by rw [rejecting]; trivial)
  | drained known gone relayed => exact hungUp
  | wrote known live relayed => exact hungUp
  | @writeFailed id relay relayed =>
      exact rest.unattended id
        (.inl (.inr (.inr (writerRunning_of_writeFails relayed).1)))
  | finished known phase ended => simp [closed known] at phase
  | deregistered known phase room => simp [closed known] at phase
  | released known phase => simp [closed known] at phase

end Stuck

/--
The server comes to rest.  From every reachable state, once nobody connects
and no socket delivers or accepts anything any more, the number of further
steps is bounded whatever the order in which the tasks run, and no step is
left exactly when the inbox is empty, no task runs, the hub has no client and
all permits are free.
-/
theorem comes_to_rest
    {actions : List ServerAction}
    {server : Server}
    (ran : run? (step? fromStr config) (start config) actions = some server) :
    ∃ bound,
      ∀ later final,
        run? (restrict (step? fromStr config) ServerAction.HungUp)
            server later = some final →
          later.length ≤ bound ∧
            (final.Stuck fromStr config ↔ final.AtRest config) := by
  obtain ⟨ids, supported⟩ := supported_of_run ran
  refine ⟨server.work ids, fun later final rest =>
    ⟨?_, fun stuck => ?_, AtRest.stuck⟩⟩
  · have bounded :=
      run?_bounded
        (motive := fun state =>
          Reachable (step? fromStr config) (start config) state ∧
            state.Supported ids)
        (work ids) ?_ ⟨⟨actions, ran⟩, supported⟩ rest
    · exact (Nat.le_add_right _ _).trans bounded.2
    · rintro state action next ⟨⟨past, reached⟩, known⟩ stepped
      obtain ⟨hungUp, stepped⟩ := restrict_eq_some.mp stepped
      refine ⟨⟨⟨past ++ [action], ?_⟩, fun id later => ?_⟩, ?_⟩
      · exact run?_snoc_eq_some.mpr ⟨state, reached, stepped⟩
      · refine known id ((known_of_step? stepped later).resolve_right ?_)
        rintro rfl
        exact hungUp
      · exact work_lt_of_step? known (attendance_of_run reached) hungUp
          stepped
  · have whole :
        run? (step? fromStr config) (start config) (actions ++ later) =
          some final :=
      run?_append_eq_some.mpr ⟨server, ran, run?_of_restrict rest⟩
    obtain ⟨relayActions, relayRan, -⟩ := relay_run whole
    exact stuck.atRest (attendance_of_run whole) (admission_of_run whole)
      (Relay.endedDeaf_of_run relayRan)

/-- The server of the two clients comes to rest when they are gone. -/
theorem comes_to_rest_sample :
    ∃ bound,
      ∀ later final,
        run? (restrict (step? readsSpoofed pairConfig) ServerAction.HungUp)
            relayed later = some final →
          later.length ≤ bound ∧
            (final.Stuck readsSpoofed pairConfig ↔
              final.AtRest pairConfig) :=
  @comes_to_rest readsSpoofed pairConfig relaying relayed
    (Option.some_get _).symm

end Server

end ClipboardWire
