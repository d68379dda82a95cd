import ClipboardWire.Semaphore
import ClipboardWire.ServerInvariant

namespace ClipboardWire

open BoundedChannel Semaphore

/-!
# The semaphore and the capacity of the hub

Two parties count connections: the semaphore when a connection is upgraded,
and the hub when it handles a registration.  A connection enqueues its
`Deregister` before it gives its permit back, so when a later connection
enqueues its `Register` with the same permit, the inbox holds the former ahead
of the latter.  The invariant looks at the clients that the hub will have
after each message of its inbox: they all hold permits when the message is
sent, and so there is always room for the next registration.
-/

variable {fromStr : String → Option Frame} {config : ServerConfig}

/-- The clients after a message. -/
def HubMessage.enrol (clients : List Uuid) : HubMessage → List Uuid
  | .register id _ _ => id :: clients
  | .deregister id => clients.erase id
  | .publish _ _ | .publishFile _ _ => clients

/-- A registration is of a new client, and there is room for it. -/
def HubMessage.FitsIn (maxClients : Nat) (clients : List Uuid) :
    HubMessage → Prop
  | .register id _ _ => id ∉ clients ∧ clients.length < maxClients
  | .deregister _ | .publish _ _ | .publishFile _ _ => True

/-- The clients after all messages of an inbox. -/
def enrolledAfter (clients : List Uuid) (inbox : List HubMessage) : List Uuid :=
  inbox.foldl HubMessage.enrol clients

/-- Each registration of an inbox fits when its turn comes. -/
def InboxFits (maxClients : Nat) : List Uuid → List HubMessage → Prop
  | _, [] =>
      True
  | clients, message :: rest =>
      message.FitsIn maxClients clients ∧
        InboxFits maxClients (message.enrol clients) rest

theorem inboxFits_snoc
    {maxClients : Nat}
    {clients : List Uuid}
    {inbox : List HubMessage}
    {message : HubMessage} :
    InboxFits maxClients clients (inbox ++ [message]) ↔
      InboxFits maxClients clients inbox ∧
        message.FitsIn maxClients (enrolledAfter clients inbox) := by
  induction inbox generalizing clients with
  | nil =>
      simp [InboxFits, enrolledAfter]
  | cons first rest inductionHypothesis =>
      simp only [List.cons_append, InboxFits, inductionHypothesis,
        enrolledAfter, List.foldl_cons, and_assoc]

theorem enrolledAfter_snoc
    (clients : List Uuid)
    (inbox : List HubMessage)
    (message : HubMessage) :
    enrolledAfter clients (inbox ++ [message]) =
      message.enrol (enrolledAfter clients inbox) := by
  simp [enrolledAfter, List.foldl_append]

/-- The clients of the hub are the ones that its messages enrol. -/
theorem Hub.keys_handle
    {hub : Hub}
    {mail : Mailboxes}
    {message : HubMessage}
    (fits : message.FitsIn hub.maxClients hub.clients.keys) :
    (hub.handle mail message).hub.clients.keys =
        message.enrol hub.clients.keys ∧
      (hub.handle mail message).hub.maxClients = hub.maxClients := by
  cases message with
  | register id outbound fileOutbound =>
      obtain ⟨absent, room⟩ := fits
      have below : ¬ hub.maxClients ≤ hub.clientCount := by
        rw [hub.clientCount_eq]
        omega
      simp [handle, below, HubMessage.enrol, List.erase_of_not_mem absent]
  | deregister id =>
      simp only [handle]
      cases found : hub.clients.lookup id with
      | some channels =>
          simp [HubMessage.enrol]
      | none =>
          have absent : id ∉ hub.clients.keys := AList.lookup_eq_none.mp found
          simp [HubMessage.enrol, List.erase_of_not_mem absent]
  | publish sender clip =>
      exact ⟨rfl, rfl⟩
  | publishFile sender chunk =>
      exact ⟨rfl, rfl⟩

/-- A registration that fits is accepted. -/
theorem Relay.ack_registerConnection
    {relay : Relay}
    {id : Uuid}
    {connection : Connection}
    (room : relay.hub.clients.keys.length < relay.hub.maxClients)
    (known : (relay.registerConnection id).connections id = some connection) :
    connection.ack ≠ .atCapacity := by
  have below : ¬ relay.hub.maxClients ≤ relay.hub.clientCount := by
    rw [relay.hub.clientCount_eq]
    omega
  simp only [registerConnection, Function.update_self, Option.some.injEq]
    at known
  subst connection
  simp [Hub.handle, setChannels, below]

/-- The phases of a connection that the hub has or is about to have. -/
def SocketPhase.Enrolled (phase : SocketPhase) : Prop :=
  phase = .awaitingAck ∨ phase = .serving ∨ phase = .deregistering

namespace Server

/-- A connection holds a permit. -/
def HoldsPermit (server : Server) (id : Uuid) : Prop :=
  ∃ socket, server.sockets id = some socket ∧ socket.phase.HoldsPermit

/-- A connection counts as a client once the inbox is empty. -/
def Enrolled (server : Server) (id : Uuid) : Prop :=
  ∃ socket, server.sockets id = some socket ∧ socket.phase.Enrolled

/-- The clients of the hub after all messages of its inbox. -/
def clientsToCome (server : Server) : List Uuid :=
  enrolledAfter server.relay.hub.clients.keys server.inbox.buffer

/-- The two counts agree. -/
structure Admission (config : ServerConfig) (server : Server) : Prop where
  permits :
    Accounted config.maxConns.toNat server.permits server.HoldsPermit
  maxClients : server.relay.hub.maxClients = config.maxConns.toNat
  fits :
    InboxFits config.maxConns.toNat server.relay.hub.clients.keys
      server.inbox.buffer
  nodup : server.clientsToCome.Nodup
  enrolled : ∀ id ∈ server.clientsToCome, server.Enrolled id
  accepted :
    ∀ {id connection},
      server.relay.connections id = some connection →
        connection.ack ≠ .atCapacity

/-- Only the replaced connection can change whether it holds a permit. -/
theorem holdsPermit_setSocket_of_ne
    {server : Server}
    {id other : Uuid}
    (socket : Socket)
    (different : other ≠ id) :
    (server.setSocket id socket).HoldsPermit other ↔
      server.HoldsPermit other := by
  simp only [HoldsPermit, sockets_setSocket_of_ne server socket different]

/-- The replaced connection holds a permit when its phase says so. -/
theorem holdsPermit_setSocket_self
    {server : Server}
    {id : Uuid}
    {socket : Socket} :
    (server.setSocket id socket).HoldsPermit id ↔
      socket.phase.HoldsPermit := by
  simp [HoldsPermit]

/-- A known connection holds a permit when its phase says so. -/
theorem holdsPermit_iff
    {server : Server}
    {id : Uuid}
    {socket : Socket}
    (known : server.sockets id = some socket) :
    server.HoldsPermit id ↔ socket.phase.HoldsPermit := by
  simp [HoldsPermit, known]

/-- A replaced connection that is not to come as a client counts no more. -/
theorem enrolled_setSocket
    {server : Server}
    {id : Uuid}
    {socket : Socket}
    {clients : List Uuid}
    (enrolled : ∀ other ∈ clients, server.Enrolled other)
    (own : id ∈ clients → socket.phase.Enrolled) :
    ∀ other ∈ clients, (server.setSocket id socket).Enrolled other := by
  intro other member
  by_cases same : other = id
  · subst other
    exact ⟨socket, sockets_setSocket_self .., own member⟩
  · obtain ⟨before, known, phase⟩ := enrolled other member
    exact
      ⟨before, by rw [sockets_setSocket_of_ne server socket same, known],
        phase⟩

namespace Admission

variable {server : Server}

theorem start (config : ServerConfig) :
    (Server.start config).Admission config where
  permits :=
    accounted_start (by
      rintro id ⟨socket, known, -⟩
      cases known)
  maxClients := rfl
  fits := trivial
  nodup := List.nodup_nil
  enrolled := by
    intro id member
    cases member
  accepted := by
    intro id connection known
    cases known

/-- A connection moves on with its permit. -/
theorem setSocket
    {id : Uuid}
    {socket next : Socket}
    (admission : server.Admission config)
    (known : server.sockets id = some socket)
    (holds : next.phase.HoldsPermit ↔ socket.phase.HoldsPermit)
    (enrolled : id ∈ server.clientsToCome → next.phase.Enrolled) :
    (server.setSocket id next).Admission config where
  permits := by
    refine admission.permits.congr ?_
    intro other
    by_cases same : other = id
    · subst other
      rw [holdsPermit_setSocket_self, holdsPermit_iff known, holds]
    · exact holdsPermit_setSocket_of_ne next same
  maxClients := admission.maxClients
  fits := admission.fits
  nodup := admission.nodup
  enrolled := enrolled_setSocket admission.enrolled enrolled
  accepted := admission.accepted

/-- A client to come is in one of the phases in which the hub has it. -/
theorem phase_of_toCome
    {id : Uuid}
    {socket : Socket}
    (admission : server.Admission config)
    (known : server.sockets id = some socket)
    (toCome : id ∈ server.clientsToCome) :
    socket.phase.Enrolled := by
  obtain ⟨found, lookup, phase⟩ := admission.enrolled id toCome
  rw [known, Option.some.injEq] at lookup
  exact lookup ▸ phase

/-- A message that fits is sent. -/
theorem push
    {message : HubMessage}
    (admission : server.Admission config)
    (room : server.inbox.HasRoom)
    (fits : message.FitsIn config.maxConns.toNat server.clientsToCome)
    (nodup : (message.enrol server.clientsToCome).Nodup)
    (enrolled :
      ∀ id ∈ message.enrol server.clientsToCome, server.Enrolled id) :
    Admission config
      { server with inbox := server.inbox.push message room } where
  permits := admission.permits
  maxClients := admission.maxClients
  fits := by
    rw [Channel.buffer_push, inboxFits_snoc]
    exact ⟨admission.fits, fits⟩
  nodup := by
    rw [clientsToCome, Channel.buffer_push, enrolledAfter_snoc]
    exact nodup
  enrolled := by
    rw [clientsToCome, Channel.buffer_push, enrolledAfter_snoc]
    exact enrolled
  accepted := admission.accepted

/-- A publish changes neither count. -/
theorem pushPublish
    {id : Uuid}
    {message : HubMessage}
    (admission : server.Admission config)
    (publishes : message.sender? = some id)
    (room : server.inbox.HasRoom) :
    Admission config
      { server with inbox := server.inbox.push message room } := by
  cases message with
  | register other outbound fileOutbound => cases publishes
  | deregister other => cases publishes
  | publish sender clip =>
      exact admission.push room trivial admission.nodup admission.enrolled
  | publishFile sender chunk =>
      exact admission.push room trivial admission.nodup admission.enrolled

/-- A step of the relay in which the hub does nothing. -/
theorem relay
    {action : RelayAction}
    {next : Relay}
    (admission : server.Admission config)
    (stepped : server.relay.step? action = some next)
    (quiet : action.processed? = none) :
    Admission config { server with relay := next } := by
  have hub := Relay.hub_step stepped
  rw [quiet] at hub
  exact
    { permits := admission.permits
      maxClients := by rw [hub]; exact admission.maxClients
      fits := by rw [hub]; exact admission.fits
      nodup := by
        rw [clientsToCome, hub]
        exact admission.nodup
      enrolled := by
        rw [clientsToCome, hub]
        exact admission.enrolled
      accepted := by
        intro id connection known
        rcases Relay.ack_origin stepped known with
          ⟨before, found, ack⟩ | ⟨registering, -⟩
        · rw [← ack]
          exact admission.accepted found
        · rw [registering] at quiet
          cases quiet }

/-- The hub handles the first message of its inbox. -/
theorem process
    {message : HubMessage}
    {next : Relay}
    (admission : server.Admission config)
    (first : server.inbox.buffer = message :: server.inbox.buffer.tail)
    (stepped : server.relay.step? (.process message) = some next) :
    Admission config
      { server with relay := next, inbox := server.inbox.dropHead } := by
  have fits := admission.fits
  rw [first] at fits
  obtain ⟨fitsNow, fitsLater⟩ := fits
  rw [← admission.maxClients] at fitsNow
  have hub :
      next.hub = (server.relay.hub.handle server.relay.mail message).hub :=
    Relay.hub_step stepped
  have handled :=
    @Hub.keys_handle server.relay.hub server.relay.mail message fitsNow
  rw [← hub] at handled
  obtain ⟨keys, maxClients⟩ := handled
  have toCome :
      enrolledAfter next.hub.clients.keys server.inbox.buffer.tail =
        server.clientsToCome := by
    rw [clientsToCome, first, keys]
    rfl
  exact
    { permits := admission.permits
      maxClients := by rw [maxClients]; exact admission.maxClients
      fits := by
        rw [keys]
        exact fitsLater
      nodup := by
        rw [clientsToCome, Channel.buffer_dropHead, toCome]
        exact admission.nodup
      enrolled := by
        rw [clientsToCome, Channel.buffer_dropHead, toCome]
        exact admission.enrolled
      accepted := by
        intro id connection known
        rcases Relay.ack_origin stepped known with
          ⟨before, found, ack⟩ | ⟨registering, isNew⟩
        · rw [← ack]
          exact admission.accepted found
        · cases registering
          rw [isNew] at known
          exact Relay.ack_registerConnection fitsNow.2 known }

theorem connect
    {id : Uuid}
    {permits : Nat}
    {socket : Socket}
    (admission : server.Admission config)
    (unknown : server.sockets id = none)
    (free : server.permits = permits + 1)
    (holds : socket.phase.HoldsPermit) :
    Admission config
      ({ server with permits := permits }.setSocket id socket) where
  permits := by
    have accounted := admission.permits
    rw [free] at accounted
    have had : ¬ server.HoldsPermit id := by
      rintro ⟨before, known, -⟩
      rw [unknown] at known
      cases known
    exact accounted.acquire had (holdsPermit_setSocket_self.mpr holds)
      (fun _ different => holdsPermit_setSocket_of_ne socket different)
  maxClients := admission.maxClients
  fits := admission.fits
  nodup := admission.nodup
  enrolled := by
    refine enrolled_setSocket admission.enrolled ?_
    intro toCome
    obtain ⟨before, known, -⟩ := admission.enrolled id toCome
    rw [unknown] at known
    cases known
  accepted := admission.accepted

/-- A connection that the hub does not have gives its permit back. -/
theorem release
    {id : Uuid}
    {socket next : Socket}
    (admission : server.Admission config)
    (known : server.sockets id = some socket)
    (holds : socket.phase.HoldsPermit)
    (notEnrolled : ¬ socket.phase.Enrolled)
    (closed : next.phase = .closed) :
    Admission config
      ({ server with permits := server.permits + 1 }.setSocket id next) where
  permits := by
    have has : ¬ (server.setSocket id next).HoldsPermit id := by
      rw [holdsPermit_setSocket_self, closed]
      exact fun holds => holds rfl
    exact admission.permits.release ((holdsPermit_iff known).mpr holds) has
      (fun _ different => holdsPermit_setSocket_of_ne next different)
  maxClients := admission.maxClients
  fits := admission.fits
  nodup := admission.nodup
  enrolled := by
    refine enrolled_setSocket admission.enrolled ?_
    intro toCome
    exact (notEnrolled (admission.phase_of_toCome known toCome)).elim
  accepted := admission.accepted

/-- A connection sends its registration, which will find room. -/
theorem register
    {id : Uuid}
    {socket : Socket}
    (admission : server.Admission config)
    (known : server.sockets id = some socket)
    (phase : socket.phase = .registering)
    (room : server.inbox.HasRoom) :
    Admission config
      ({ server with
          inbox := server.inbox.push (.register id id id) room }.setSocket id
        { socket with phase := .awaitingAck }) := by
  have absent : id ∉ server.clientsToCome := by
    intro toCome
    have enrolled := admission.phase_of_toCome known toCome
    rw [phase] at enrolled
    rcases enrolled with isAwaiting | isServing | isDeregistering
    · cases isAwaiting
    · cases isServing
    · cases isDeregistering
  have moved :
      Admission config
        (server.setSocket id { socket with phase := .awaitingAck }) :=
    admission.setSocket known (by simp [SocketPhase.HoldsPermit, phase])
      (fun _ => .inl rfl)
  have nodup : (id :: server.clientsToCome).Nodup :=
    List.nodup_cons.mpr ⟨absent, admission.nodup⟩
  -- all clients to come hold a permit, and so does the new one
  have below : server.clientsToCome.length < config.maxConns.toNat := by
    have fewer := admission.permits.length_le nodup (by
      intro other member
      rcases List.mem_cons.mp member with rfl | toCome
      · rw [holdsPermit_iff known, phase]
        exact fun closed => by cases closed
      · obtain ⟨found, lookup, enrolled⟩ := admission.enrolled other toCome
        refine ⟨found, lookup, ?_⟩
        intro closed
        rw [closed] at enrolled
        rcases enrolled with isAwaiting | isServing | isDeregistering
        · cases isAwaiting
        · cases isServing
        · cases isDeregistering)
    rw [List.length_cons] at fewer
    omega
  refine moved.push room ⟨absent, below⟩ nodup ?_
  intro other member
  rcases List.mem_cons.mp member with rfl | toCome
  · exact ⟨_, sockets_setSocket_self .., .inl rfl⟩
  · exact moved.enrolled other toCome

/-- A connection sends its deregistration. -/
theorem deregister
    {id : Uuid}
    {socket : Socket}
    (admission : server.Admission config)
    (known : server.sockets id = some socket)
    (phase : socket.phase = .deregistering)
    (room : server.inbox.HasRoom) :
    Admission config
      ({ server with
          inbox := server.inbox.push (.deregister id) room }.setSocket id
        { socket with phase := .returning }) := by
  have erased : (server.clientsToCome.erase id).Nodup :=
    admission.nodup.erase id
  have enrolled :
      ∀ other ∈ server.clientsToCome.erase id, server.Enrolled other :=
    fun other member =>
      admission.enrolled other (List.mem_of_mem_erase member)
  have sent :
      Admission config
        { server with inbox := server.inbox.push (.deregister id) room } :=
    admission.push room trivial erased enrolled
  have holds :
      SocketPhase.returning.HoldsPermit ↔ socket.phase.HoldsPermit := by
    simp [SocketPhase.HoldsPermit, phase]
  refine sent.setSocket known holds ?_
  intro toCome
  rw [clientsToCome, Channel.buffer_push, enrolledAfter_snoc] at toCome
  exact (admission.nodup.not_mem_erase toCome).elim

theorem step
    {next : Server}
    {action : ServerAction}
    (admission : server.Admission config)
    (readers : server.ReadersPublish)
    (stepped : server.step? fromStr config action = some next) :
    next.Admission config := by
  cases serverStep_of_step? stepped with
  | refused unknown full =>
      exact admission
  | connected unknown free =>
      exact admission.connect unknown free (fun closed => by cases closed)
  | upgraded known phase =>
      refine admission.setSocket known
        (by simp [SocketPhase.HoldsPermit, phase]) ?_
      intro toCome
      have enrolled := admission.phase_of_toCome known toCome
      simp [SocketPhase.Enrolled, phase] at enrolled
  | abandoned known phase =>
      exact admission.release known
        (by simp [SocketPhase.HoldsPermit, phase])
        (by simp [SocketPhase.Enrolled, phase]) rfl
  | registered known phase room =>
      exact admission.register known phase room
  | processed first relayed =>
      exact admission.process first relayed
  | welcomed known phase found ack relayed =>
      exact (admission.relay relayed rfl).setSocket known
        (by simp [SocketPhase.HoldsPermit, phase])
        (fun _ => .inr (.inl rfl))
  | turnedAway known phase found ack relayed =>
      exact (admission.accepted found ack).elim
  | @received id socket event known reading =>
      have enrolled := admission.phase_of_toCome known
      exact admission.setSocket known Iff.rfl enrolled
  | published known publishing room =>
      have publishes := readers known _ publishing
      have sent := admission.pushPublish publishes room
      have enrolled := sent.phase_of_toCome known
      exact sent.setSocket known Iff.rfl enrolled
  | rejected known rejecting relayed =>
      have moved := admission.relay relayed rfl
      have enrolled := moved.phase_of_toCome known
      exact moved.setSocket known Iff.rfl enrolled
  | rejectedLate known rejecting gone =>
      have enrolled := admission.phase_of_toCome known
      exact admission.setSocket known Iff.rfl enrolled
  | drained known closed relayed =>
      exact admission.relay relayed rfl
  | wrote known live relayed =>
      have moved := admission.relay relayed rfl
      have enrolled := moved.phase_of_toCome known
      exact moved.setSocket known Iff.rfl enrolled
  | writeFailed relayed =>
      exact admission.relay relayed rfl
  | finished known phase ended =>
      exact admission.setSocket known
        (by simp [SocketPhase.HoldsPermit, phase])
        (fun _ => .inr (.inr rfl))
  | deregistered known phase room =>
      exact admission.deregister known phase room
  | released known phase =>
      exact admission.release known
        (by simp [SocketPhase.HoldsPermit, phase])
        (by simp [SocketPhase.Enrolled, phase]) rfl

end Admission

theorem admission_of_run
    {actions : List ServerAction}
    {server : Server}
    (ran :
      StepRun.run? (step? fromStr config) (start config) actions =
        some server) :
    server.Admission config :=
  StepRun.run?_history
    (motive := fun _ state => state.Admission config)
    (Admission.start config)
    (fun _ earlier admission stepped =>
      admission.step (readersPublish_of_run earlier) stepped)
    ran

/--
The hub never answers a registration with `AtCapacity`: whatever the
connections do and however their tasks and the hub interleave, a connection
that got a permit is accepted.
-/
theorem ack_ne_atCapacity
    {actions : List ServerAction}
    {server : Server}
    (ran :
      StepRun.run? (step? fromStr config) (start config) actions =
        some server)
    {id : Uuid}
    {connection : Connection}
    (answered : server.relay.connections id = some connection) :
    connection.ack ≠ .atCapacity :=
  (admission_of_run ran).accepted answered

/-- A server for one client. -/
def smallConfig : ServerConfig where
  bind := .v4 .unspecified 8484
  user := "alice"
  password := "hunter2"
  maxConns := 1
  maxFrameBytes := 1024
  tlsCertFile := none
  tlsKeyFile := none
  tlsDisabled := true
  stateDir := none
  stats := none

/-- One client leaves, and the next one comes before the hub has noticed. -/
def handOver : List ServerAction :=
  [.connect ⟨1⟩, .upgrade ⟨1⟩ true, .register ⟨1⟩,
    .process (.register ⟨1⟩ ⟨1⟩ ⟨1⟩), .welcome ⟨1⟩,
    .receive ⟨1⟩ (.message .close), .finish ⟨1⟩, .deregister ⟨1⟩,
    .release ⟨1⟩, .connect ⟨2⟩, .upgrade ⟨2⟩ true,
    .register ⟨2⟩, .process (.deregister ⟨1⟩),
    .process (.register ⟨2⟩ ⟨2⟩ ⟨2⟩)]

/-- The server after the hand-over. -/
def handedOver : Server :=
  (StepRun.run? (step? (fun _ => none) smallConfig) (start smallConfig)
    handOver).get (by decide)

/-- The second client. -/
def secondClient : Connection :=
  (handedOver.relay.connections ⟨2⟩).get (by decide)

/-- The second client is accepted. -/
theorem secondClient_accepted : secondClient.ack ≠ .atCapacity :=
  @ack_ne_atCapacity (fun _ => none) smallConfig handOver handedOver
    (Option.some_get _).symm ⟨2⟩ secondClient (Option.some_get _).symm

end Server

end ClipboardWire
